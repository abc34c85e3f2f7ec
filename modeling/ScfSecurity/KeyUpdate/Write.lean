import ScfSecurity.Policy.Context
import Mathlib.Tactic.Common

/-!
# Writing data and updating keys

`SCF_Write` hands the data to OpenSSL and then, if the context asks for it, counts the
bytes, looks at the clock and updates the sending key when the traffic or the time limit is
reached. `SCF_ObjKeyUpdate` updates the key on request. Both change the record
`keyUpdateInfo` of the object.

## Main definitions

- `scfWrite`, `scfObjKeyUpdate`, `scfGetKeyUpdateInfo`: the interface functions
- `afterWrite`: the part of `SCF_Write` that runs after OpenSSL has taken the data
- `KeyUpdateFree`: a view of objects in which key updates do not show

## Main results

- `scfWrite_cases`: a write fails, possibly when a first part of its data is taken, or it is
  carried out and `afterWrite` gives the result
- `afterWrite_cases`: what can happen after the data was taken
- `scfObjKeyUpdate_cases`: what a requested update can do
- `KeyUpdateFree.scfWrite`, `KeyUpdateFree.scfObjKeyUpdate`: what both leave alone
-/

namespace Scf

/-- What the environment answers to a key update: the second of the system clock, whether
`gettimeofday` reports it, and the results of `SSL_is_init_finished` and
`SSL_key_update`. -/
structure KeyUpdateEnv where
  now : UInt64
  clockOk : Bool
  isInitFinished : Bool
  keyUpdateOk : Bool
deriving DecidableEq

/-- OpenSSL carries out a key update. -/
def KeyUpdateEnv.grants (env : KeyUpdateEnv) : Bool := env.isInitFinished && env.keyUpdateOk

/-- How `SSL_write_ex` ends: it reports some bytes of the data as written, or it fails with the
code that `SSL_get_error` gives. Before it fails it may have made records of some more bytes. -/
inductive WriteOutcome where
  | written (n : ℕ)
  | failure (errorCode : Int32) (n : ℕ)
deriving DecidableEq

/-- What the environment answers to a write. -/
structure WriteEnv extends KeyUpdateEnv where
  write : WriteOutcome
deriving DecidableEq

/-- Change the counters of an object. -/
def SCFPolicyObj.setInfo (info : SCFKeyUpdateInfo) (obj : SCFPolicyObj) : SCFPolicyObj :=
  { obj with keyUpdateInfo := info }

@[simp] theorem setInfo_keyUpdateInfo (info : SCFKeyUpdateInfo) (obj : SCFPolicyObj) :
    (obj.setInfo info).keyUpdateInfo = info := rfl

@[simp] theorem setInfo_sslCtx (info : SCFKeyUpdateInfo) (obj : SCFPolicyObj) :
    (obj.setInfo info).sslCtx = obj.sslCtx := rfl

@[simp] theorem setInfo_setInfo (info info' : SCFKeyUpdateInfo) (obj : SCFPolicyObj) :
    (obj.setInfo info).setInfo info' = obj.setInfo info' := rfl

/-- The number of bytes counted since the last key update. -/
def SCFPolicyObj.total (obj : SCFPolicyObj) : UInt64 := obj.keyUpdateInfo.totalSizeOfWriteData

/-- Set the byte counter. -/
def SCFPolicyObj.setTotal (total : UInt64) (obj : SCFPolicyObj) : SCFPolicyObj :=
  obj.setInfo { obj.keyUpdateInfo with totalSizeOfWriteData := total }

@[simp] theorem setTotal_total (total : UInt64) (obj : SCFPolicyObj) :
    (obj.setTotal total).total = total := rfl

@[simp] theorem setTotal_sslCtx (total : UInt64) (obj : SCFPolicyObj) :
    (obj.setTotal total).sslCtx = obj.sslCtx := rfl

/-- The connection after OpenSSL has written the bytes. Those that are pending from an earlier
try have their records already. -/
def Ssl.take (bytes : List UInt8) (ssl : Ssl) : Ssl :=
  { ssl with
    sent := ssl.sent ++ bytes
    taken := ssl.taken ++ bytes.drop ssl.pending
    pending := 0 }

/-- The connection after OpenSSL has made records of `n` more bytes of the data and then
failed. -/
def Ssl.takePart (data : List UInt8) (n : ℕ) (ssl : Ssl) : Ssl :=
  { ssl with
    taken := ssl.taken ++ (data.drop ssl.pending).take n
    pending := ssl.pending + ((data.drop ssl.pending).take n).length }

/-- `OpenSSLAdaptor::Write` on the first `dataLen` bytes of the buffer: the result, the value
stored in `*writeLen` and the object. -/
def adaptorWrite (data : List UInt8) (outcome : WriteOutcome) (obj : SCFPolicyObj) :
    Errno × Option UInt32 × SCFPolicyObj :=
  match obj.sslCtx with
  | none => (.nullInput, none, obj)
  | some ssl =>
    match outcome with
    | .failure errorCode n =>
      let obj := obj.setSsl (ssl.takePart data n)
      if errorCode = sslErrorWantWrite then (.sslWantWrite, none, obj)
      else (.sslWrite, none, obj)
    | .written n =>
      (.success, some (data.take n).length.toUInt32, obj.setSsl (ssl.take (data.take n)))

/-- `OpenSSLAdaptor::GetVersion`. -/
def adaptorGetVersion (obj : SCFPolicyObj) : Option String := obj.sslCtx.map Ssl.version

/-- The connection after OpenSSL has changed the sending key. -/
def Ssl.keyUpdate (ssl : Ssl) : Ssl := { ssl with keyUpdates := ssl.keyUpdates + 1 }

/-- `OpenSSLAdaptor::KeyUpdate`; both callers ask for an update that the peer need not
answer. -/
def adaptorKeyUpdate (env : KeyUpdateEnv) (obj : SCFPolicyObj) : Errno × SCFPolicyObj :=
  match obj.sslCtx with
  | none => (.sslKeyUpdate, obj)
  | some ssl =>
    if !env.isInitFinished then (.sslIsInitFinished, obj)
    else if !env.keyUpdateOk then (.sslKeyUpdate, obj)
    else
      (.success, (obj.setSsl ssl.keyUpdate).setInfo { obj.keyUpdateInfo with
        totalSizeOfWriteData := 0
        lastKeyUpdateTime := 0
        isLastUpdateSuccess := true })

/-- `CheckTimeInterval`: the result and whether the time limit is reached. The result of
`gettimeofday` is ignored; if it fails, the current time is zero. -/
def checkTimeInterval (env : KeyUpdateEnv) (ctx : SCFPolicyCtx) (obj : SCFPolicyObj) :
    Errno × Bool :=
  let curTime := if env.clockOk then env.now else 0
  if curTime < obj.keyUpdateInfo.lastKeyUpdateTime then (.systemTimeError, false)
  else
    let relativeSec := curTime - obj.keyUpdateInfo.lastKeyUpdateTime
    (.success, relativeSec ≥ ctx.keyUpdateTime.toUInt64)

/-- The traffic limit is reached with the new data. -/
def trafficReached (ctx : SCFPolicyCtx) (processDataLen : UInt32) (total : UInt64) : Bool :=
  processDataLen.toUInt64 ≥ ctx.keyUpdateTraffic ||
    total ≥ ctx.keyUpdateTraffic - processDataLen.toUInt64

/-- The byte counter with more bytes counted; it stops at `UINT64_MAX`. -/
def satAdd (total : UInt64) (processDataLen : UInt32) : UInt64 :=
  total + min (0xffffffffffffffff - total) processDataLen.toUInt64

/-- `CheckNeedKeyUpdate`: the result, whether an update is due, and the object with the new
data counted. -/
def checkNeedKeyUpdate (env : KeyUpdateEnv) (ctx : SCFPolicyCtx) (processDataLen : UInt32)
    (obj : SCFPolicyObj) : Errno × Bool × SCFPolicyObj :=
  if adaptorGetVersion obj ≠ some tls13VersionStr then (.success, false, obj)
  else if trafficReached ctx processDataLen obj.total then
    (.success, true, obj.setTotal (satAdd obj.total processDataLen))
  else
    let obj := obj.setTotal (obj.total + processDataLen.toUInt64)
    if obj.total ≥ ctx.keyUpdateTraffic then (.success, true, obj)
    else
      let (ret, isNeedKeyUpdate) := checkTimeInterval env ctx obj
      (ret, isNeedKeyUpdate, obj)

/-- The part of `SCF_Write` that runs after OpenSSL has taken `writeLen` bytes. -/
def afterWrite (env : KeyUpdateEnv) (ctx : SCFPolicyCtx) (writeLen : UInt32)
    (obj : SCFPolicyObj) : Errno × SCFPolicyObj :=
  if ctx.isNeedKeyUpdate then
    let (ret, isNeedKeyUpdate, obj) := checkNeedKeyUpdate env ctx writeLen obj
    if ret = .success && isNeedKeyUpdate then adaptorKeyUpdate env obj else (ret, obj)
  else (.success, obj)

/-- The arguments of `SCF_Write`, with the state of the library and what the environment
answers. A missing buffer stands for a null pointer. -/
structure WriteCall where
  g : Globals
  objPtr : Ptr
  data : Option (List UInt8)
  dataLen : UInt32
  writeLenPtr : Ptr
  env : WriteEnv

/-- The data the caller wants to write. -/
def WriteCall.bytes (call : WriteCall) : List UInt8 :=
  (call.data.getD []).take call.dataLen.toNat

/-- The first check of `SCF_Write`: a pointer is null or the length is zero. -/
def WriteCall.badArgs (call : WriteCall) : Bool :=
  call.objPtr = .null || call.data = none || call.dataLen = 0 || call.writeLenPtr = .null

/-- `SCF_Write`: the result, the value stored in `*writeLen`, if one is stored, and the
object. -/
def scfWrite (call : WriteCall) (ctx : SCFPolicyCtx) (obj : SCFPolicyObj) :
    Errno × Option UInt32 × SCFPolicyObj :=
  if call.badArgs then (.invalidParam, none, obj)
  else if obj.role = .none then (.invalidParam, none, obj)
  else if !call.g.scfInitialized then (.notInit, none, obj)
  else if !call.g.adaptor then (.invalidParam, none, obj)
  else
    match adaptorWrite call.bytes call.env.write obj with
    | (.success, some writeLen, obj) =>
      let (ret, obj) := afterWrite call.env.toKeyUpdateEnv ctx writeLen obj
      (ret, some writeLen, obj)
    | (ret, writeLen, obj) => (ret, writeLen, obj)

/-- `SCF_ObjKeyUpdate`. Counter and time stamp are set before the update is tried. -/
def scfObjKeyUpdate (g : Globals) (objPtr : Ptr) (env : KeyUpdateEnv) (obj : SCFPolicyObj) :
    Errno × SCFPolicyObj :=
  if objPtr = .null then (.nullInput, obj)
  else if !g.scfInitialized then (.notInit, obj)
  else if !g.adaptor then (.invalidParam, obj)
  else if !env.clockOk then (.systemTimeError, obj)
  else
    let obj := obj.setInfo { obj.keyUpdateInfo with
      totalSizeOfWriteData := 0
      lastKeyUpdateTime := env.now }
    let (ret, obj) := adaptorKeyUpdate env obj
    let obj := obj.setInfo { obj.keyUpdateInfo with isLastUpdateSuccess := ret = .success }
    if ret ≠ .success then (ret, obj)
    else
      (.success, obj.setInfo { obj.keyUpdateInfo with
        totalKeyUpdateCnt := obj.keyUpdateInfo.totalKeyUpdateCnt + 1 })

/-- `SCF_GetKeyUpdateInfo`: the result and the three values stored for the caller. -/
def scfGetKeyUpdateInfo (g : Globals) (objPtr outPtr : Ptr) (ctx : SCFPolicyCtx)
    (obj : SCFPolicyObj) : Errno × Option (UInt64 × UInt32 × UInt64) :=
  if objPtr = .null then (.nullInput, none)
  else if outPtr = .null then (.nullInput, none)
  else if !g.scfInitialized then (.notInit, none)
  else
    let remainTraffic :=
      if ctx.keyUpdateTraffic > obj.total then ctx.keyUpdateTraffic - obj.total else 0
    (.success, some (obj.keyUpdateInfo.lastKeyUpdateTime, ctx.keyUpdateTime, remainTraffic))

/-- The bytes that OpenSSL reports as written in a call: those it says, if the arguments pass the
checks and the object has a connection. -/
def WriteCall.accepted (call : WriteCall) (obj : SCFPolicyObj) : Option (List UInt8) :=
  if call.badArgs || obj.role = .none || !call.g.scfInitialized || obj.sslCtx = none then none
  else
    match call.env.write with
    | .failure _ _ => none
    | .written n => some (call.bytes.take n)

/-- The codes of a write that is not carried out. -/
def refusalCodes : List Errno := [.invalidParam, .notInit, .nullInput, .sslWantWrite, .sslWrite]

/-- The codes of a write that OpenSSL has failed to carry out. -/
def unfinishedCodes : List Errno := [.sslWantWrite, .sslWrite]

/-- The codes that `SCF_Write` returns although OpenSSL has written the data. -/
def lateCodes : List Errno := [.systemTimeError, .sslIsInitFinished, .sslKeyUpdate]

/-- The object after OpenSSL has written some bytes. -/
def SCFPolicyObj.take (bytes : List UInt8) (obj : SCFPolicyObj) : SCFPolicyObj :=
  { obj with sslCtx := obj.sslCtx.map (Ssl.take bytes) }

/-- The object after OpenSSL has failed with `n` more bytes of the data in records. -/
def SCFPolicyObj.takePart (data : List UInt8) (n : ℕ) (obj : SCFPolicyObj) : SCFPolicyObj :=
  { obj with sslCtx := obj.sslCtx.map (Ssl.takePart data n) }

@[simp] theorem takePart_zero (data : List UInt8) (obj : SCFPolicyObj) :
    obj.takePart data 0 = obj := by
  have hmap : Ssl.takePart data 0 = id := by
    funext ssl
    simp [Ssl.takePart]
  rw [SCFPolicyObj.takePart, hmap, Option.map_id, id]

/-- Either the write is not carried out, and only OpenSSL may have taken a part of the data, or
the bytes are written and the rest of the call decides about the result. -/
theorem scfWrite_cases (call : WriteCall) (ctx : SCFPolicyCtx) (obj : SCFPolicyObj) :
    (call.accepted obj = none ∧ ∃ ret ∈ refusalCodes, ∃ n, (0 < n → ret ∈ unfinishedCodes) ∧
      scfWrite call ctx obj = (ret, none, obj.takePart call.bytes n)) ∨
    (∃ bytes, call.accepted obj = some bytes ∧
      scfWrite call ctx obj =
        ((afterWrite call.env.toKeyUpdateEnv ctx bytes.length.toUInt32 (obj.take bytes)).1,
          some bytes.length.toUInt32,
          (afterWrite call.env.toKeyUpdateEnv ctx bytes.length.toUInt32 (obj.take bytes)).2)) := by
  have hnothing : ∀ ret : Errno, 0 < 0 → ret ∈ unfinishedCodes := fun _ h =>
    absurd h (Nat.lt_irrefl 0)
  unfold WriteCall.accepted scfWrite
  by_cases hargs : call.badArgs = true
  · exact Or.inl ⟨by simp [hargs], .invalidParam, by decide, 0, hnothing _, by simp [hargs]⟩
  by_cases hrole : obj.role = .none
  · exact Or.inl ⟨by simp [hrole], .invalidParam, by decide, 0, hnothing _,
      by simp [hargs, hrole]⟩
  by_cases hinit : call.g.scfInitialized = true
  case neg =>
    exact Or.inl ⟨by simp [hinit], .notInit, by decide, 0, hnothing _,
      by simp [hargs, hrole, hinit]⟩
  have hadaptor : call.g.adaptor = true := call.g.adaptor_of_init hinit
  unfold adaptorWrite
  cases hssl : obj.sslCtx with
  | none =>
    exact Or.inl ⟨by simp, .nullInput, by decide, 0, hnothing _,
      by simp [hargs, hrole, hinit, hadaptor]⟩
  | some ssl =>
    cases hwrite : call.env.write with
    | failure errorCode n =>
      have hpart : obj.setSsl (ssl.takePart call.bytes n) = obj.takePart call.bytes n := by
        simp [SCFPolicyObj.setSsl, SCFPolicyObj.takePart, hssl]
      by_cases hwant : errorCode = sslErrorWantWrite
      · exact Or.inl ⟨by simp, .sslWantWrite, by decide, n, fun _ => by decide,
          by simp [hargs, hrole, hinit, hadaptor, hwant, hpart]⟩
      · exact Or.inl ⟨by simp, .sslWrite, by decide, n, fun _ => by decide,
          by simp [hargs, hrole, hinit, hadaptor, hwant, hpart]⟩
    | written n =>
      have htake : obj.setSsl (ssl.take (call.bytes.take n)) = obj.take (call.bytes.take n) := by
        simp [SCFPolicyObj.setSsl, SCFPolicyObj.take, hssl]
      exact Or.inr ⟨call.bytes.take n, by simp [hargs, hrole, hinit],
        by simp [hargs, hrole, hinit, hadaptor, htake]⟩

/-- The part of a length that the counter has room for. -/
theorem toNat_min_room (total : UInt64) (processDataLen : UInt32) :
    (min (0xffffffffffffffff - total) processDataLen.toUInt64).toNat =
      min (2 ^ 64 - 1 - total.toNat) processDataLen.toNat := by
  have ht := total.toNat_lt
  have hroom : (0xffffffffffffffff - total : UInt64).toNat = 2 ^ 64 - 1 - total.toNat := by
    rw [UInt64.toNat_sub_of_le]
    · rfl
    · rw [UInt64.le_iff_toNat_le]
      show total.toNat ≤ 2 ^ 64 - 1
      omega
  show (if 0xffffffffffffffff - total ≤ processDataLen.toUInt64 then
    0xffffffffffffffff - total else processDataLen.toUInt64).toNat = _
  split_ifs with hle
  · rw [UInt64.le_iff_toNat_le, hroom, UInt32.toNat_toUInt64] at hle
    rw [hroom, Nat.min_eq_left hle]
  · rw [UInt64.le_iff_toNat_le, hroom, UInt32.toNat_toUInt64] at hle
    rw [UInt32.toNat_toUInt64, Nat.min_eq_right (by omega)]

theorem satAdd_toNat (total : UInt64) (processDataLen : UInt32) :
    (satAdd total processDataLen).toNat =
      min (2 ^ 64 - 1) (total.toNat + processDataLen.toNat) := by
  have ht := total.toNat_lt
  rw [satAdd, UInt64.toNat_add, toNat_min_room]
  omega

/-- The test of the traffic limit does not overflow. -/
theorem trafficReached_eq_false_iff {ctx : SCFPolicyCtx} {processDataLen : UInt32}
    {total : UInt64} :
    trafficReached ctx processDataLen total = false ↔
      total.toNat + processDataLen.toNat < ctx.keyUpdateTraffic.toNat := by
  unfold trafficReached
  rw [Bool.or_eq_false_iff, decide_eq_false_iff_not, decide_eq_false_iff_not, ge_iff_le,
    ge_iff_le, UInt64.le_iff_toNat_le, UInt64.le_iff_toNat_le, UInt32.toNat_toUInt64]
  by_cases hlen : processDataLen.toNat < ctx.keyUpdateTraffic.toNat
  · have hle : processDataLen.toUInt64 ≤ ctx.keyUpdateTraffic := by
      rw [UInt64.le_iff_toNat_le, UInt32.toNat_toUInt64]
      omega
    rw [UInt64.toNat_sub_of_le _ _ hle, UInt32.toNat_toUInt64]
    omega
  · omega

/-- Below the traffic limit the counter does not saturate. -/
theorem add_eq_satAdd {ctx : SCFPolicyCtx} {processDataLen : UInt32} {total : UInt64}
    (h : trafficReached ctx processDataLen total = false) :
    total + processDataLen.toUInt64 = satAdd total processDataLen := by
  have hlt := trafficReached_eq_false_iff.mp h
  have htraffic := ctx.keyUpdateTraffic.toNat_lt
  apply UInt64.toNat_inj.mp
  rw [satAdd_toNat, UInt64.toNat_add, UInt32.toNat_toUInt64]
  omega

/-- The object with some bytes counted. -/
def SCFPolicyObj.count (processDataLen : UInt32) (obj : SCFPolicyObj) : SCFPolicyObj :=
  obj.setTotal (satAdd obj.total processDataLen)

/-- An update is due: the traffic or the time limit is reached. -/
def updateDue (env : KeyUpdateEnv) (ctx : SCFPolicyCtx) (processDataLen : UInt32)
    (obj : SCFPolicyObj) : Bool :=
  trafficReached ctx processDataLen obj.total || checkTimeInterval env ctx obj = (.success, true)

/-- The time check does not look at the byte counter. -/
theorem checkTimeInterval_setTotal (env : KeyUpdateEnv) (ctx : SCFPolicyCtx) (total : UInt64)
    (obj : SCFPolicyObj) :
    checkTimeInterval env ctx (obj.setTotal total) = checkTimeInterval env ctx obj := rfl

/-- On a TLS 1.3 connection the data is always counted, whatever else happens. -/
theorem checkNeedKeyUpdate_tls13 {obj : SCFPolicyObj}
    (htls : adaptorGetVersion obj = some tls13VersionStr) (env : KeyUpdateEnv)
    (ctx : SCFPolicyCtx) (processDataLen : UInt32) :
    checkNeedKeyUpdate env ctx processDataLen obj =
      if trafficReached ctx processDataLen obj.total then
        (.success, true, obj.count processDataLen)
      else
        ((checkTimeInterval env ctx obj).1, (checkTimeInterval env ctx obj).2,
          obj.count processDataLen) := by
  unfold checkNeedKeyUpdate
  rw [if_neg (not_not_intro htls)]
  by_cases hreached : trafficReached ctx processDataLen obj.total = true
  · rw [if_pos hreached, if_pos hreached, SCFPolicyObj.count]
  · have hfalse := Bool.not_eq_true _ ▸ hreached
    have hlt := trafficReached_eq_false_iff.mp hfalse
    have hbelow : ¬(satAdd obj.total processDataLen ≥ ctx.keyUpdateTraffic) := by
      rw [ge_iff_le, UInt64.le_iff_toNat_le, satAdd_toNat]
      omega
    rw [if_neg hreached, if_neg hreached, add_eq_satAdd hfalse]
    dsimp only
    rw [setTotal_total, if_neg hbelow, checkTimeInterval_setTotal, SCFPolicyObj.count]

/-- The code of a key update that OpenSSL does not carry out. -/
def KeyUpdateEnv.refusal (env : KeyUpdateEnv) : Errno :=
  if !env.isInitFinished then .sslIsInitFinished else .sslKeyUpdate

theorem refusal_ne_success (env : KeyUpdateEnv) : env.refusal ≠ .success := by
  unfold KeyUpdateEnv.refusal
  split_ifs <;> decide

/-- The object after a key update. -/
def SCFPolicyObj.keyUpdated (obj : SCFPolicyObj) : SCFPolicyObj :=
  { obj with
    sslCtx := obj.sslCtx.map Ssl.keyUpdate
    keyUpdateInfo := { obj.keyUpdateInfo with
      totalSizeOfWriteData := 0
      lastKeyUpdateTime := 0
      isLastUpdateSuccess := true } }

/-- On an object with a connection OpenSSL decides whether the key is updated. -/
theorem adaptorKeyUpdate_eq {obj : SCFPolicyObj} (hssl : obj.sslCtx ≠ none) (env : KeyUpdateEnv) :
    adaptorKeyUpdate env obj =
      if env.grants then (.success, obj.keyUpdated) else (env.refusal, obj) := by
  unfold adaptorKeyUpdate KeyUpdateEnv.grants KeyUpdateEnv.refusal
  obtain ⟨ssl, hssl⟩ := Option.ne_none_iff_exists'.mp hssl
  rw [hssl]
  cases env.isInitFinished <;> cases env.keyUpdateOk <;>
    simp [SCFPolicyObj.keyUpdated, SCFPolicyObj.setSsl, SCFPolicyObj.setInfo, hssl]

/-- What can happen after OpenSSL has taken data on a TLS 1.3 connection whose context asks
for automatic updates. -/
inductive AfterWrite (env : KeyUpdateEnv) (ctx : SCFPolicyCtx) (writeLen : UInt32)
    (obj : SCFPolicyObj) : Errno → SCFPolicyObj → Prop
  | counted (hreached : trafficReached ctx writeLen obj.total = false)
      (hdue : updateDue env ctx writeLen obj = false) :
      AfterWrite env ctx writeLen obj .success (obj.count writeLen)
  | clockError (hreached : trafficReached ctx writeLen obj.total = false) :
      AfterWrite env ctx writeLen obj .systemTimeError (obj.count writeLen)
  | refused (hdue : updateDue env ctx writeLen obj = true) (henv : env.grants = false) :
      AfterWrite env ctx writeLen obj env.refusal (obj.count writeLen)
  | updated (hdue : updateDue env ctx writeLen obj = true) (henv : env.grants = true) :
      AfterWrite env ctx writeLen obj .success (obj.count writeLen).keyUpdated

theorem checkTimeInterval_fst (env : KeyUpdateEnv) (ctx : SCFPolicyCtx) (obj : SCFPolicyObj) :
    (checkTimeInterval env ctx obj).1 = .success ∨
      checkTimeInterval env ctx obj = (.systemTimeError, false) := by
  unfold checkTimeInterval
  dsimp only
  by_cases hlt : (if env.clockOk then env.now else 0) < obj.keyUpdateInfo.lastKeyUpdateTime
  · exact Or.inr (if_pos hlt)
  · rw [if_neg hlt]
    exact Or.inl rfl

theorem adaptorKeyUpdate_afterWrite {env : KeyUpdateEnv} {ctx : SCFPolicyCtx} {writeLen : UInt32}
    {obj : SCFPolicyObj} (hssl : obj.sslCtx ≠ none)
    (hdue : updateDue env ctx writeLen obj = true) :
    AfterWrite env ctx writeLen obj (adaptorKeyUpdate env (obj.count writeLen)).1
      (adaptorKeyUpdate env (obj.count writeLen)).2 := by
  have hcount : (obj.count writeLen).sslCtx ≠ none := by
    rwa [SCFPolicyObj.count, setTotal_sslCtx]
  rw [adaptorKeyUpdate_eq hcount]
  cases henv : env.grants with
  | false => exact .refused hdue henv
  | true => exact .updated hdue henv

theorem afterWrite_cases {obj : SCFPolicyObj} {ctx : SCFPolicyCtx}
    (htls : adaptorGetVersion obj = some tls13VersionStr) (hneed : ctx.isNeedKeyUpdate = true)
    (env : KeyUpdateEnv) (writeLen : UInt32) :
    AfterWrite env ctx writeLen obj (afterWrite env ctx writeLen obj).1
      (afterWrite env ctx writeLen obj).2 := by
  have hssl : obj.sslCtx ≠ none := by
    intro hnone
    simp [adaptorGetVersion, hnone] at htls
  unfold afterWrite
  rw [if_pos hneed, checkNeedKeyUpdate_tls13 htls]
  cases hreached : trafficReached ctx writeLen obj.total with
  | true => exact adaptorKeyUpdate_afterWrite hssl (by simp [updateDue, hreached])
  | false =>
    obtain hok | herr := checkTimeInterval_fst env ctx obj
    · cases htime : (checkTimeInterval env ctx obj).2 with
      | true =>
        have hcheck : checkTimeInterval env ctx obj = (.success, true) := Prod.ext hok htime
        simp only [hcheck]
        exact adaptorKeyUpdate_afterWrite hssl (by simp [updateDue, hcheck])
      | false =>
        have hcheck : checkTimeInterval env ctx obj = (.success, false) := Prod.ext hok htime
        simp only [hcheck]
        exact .counted hreached (by simp [updateDue, hreached, hcheck])
    · simp only [herr]
      exact .clockError hreached

/-- `SCF_ObjKeyUpdate` passes its checks and reads the clock. -/
def reachesTls (g : Globals) (objPtr : Ptr) (env : KeyUpdateEnv) : Bool :=
  objPtr = .valid && g.scfInitialized && env.clockOk

/-- What a requested update can do to an object that has a connection. -/
inductive ObjKeyUpdate (g : Globals) (objPtr : Ptr) (env : KeyUpdateEnv) (obj : SCFPolicyObj) :
    Errno → SCFPolicyObj → Prop
  | rejected {ret : Errno} (hreach : reachesTls g objPtr env = false) (hret : ret ≠ .success) :
      ObjKeyUpdate g objPtr env obj ret obj
  | refused (hreach : reachesTls g objPtr env = true) (henv : env.grants = false) :
      ObjKeyUpdate g objPtr env obj env.refusal (obj.setInfo { obj.keyUpdateInfo with
        totalSizeOfWriteData := 0
        lastKeyUpdateTime := env.now
        isLastUpdateSuccess := false })
  | updated (hreach : reachesTls g objPtr env = true) (henv : env.grants = true) :
      ObjKeyUpdate g objPtr env obj .success (obj.keyUpdated.setInfo
        { obj.keyUpdated.keyUpdateInfo with
          totalKeyUpdateCnt := obj.keyUpdateInfo.totalKeyUpdateCnt + 1 })

theorem scfObjKeyUpdate_cases {obj : SCFPolicyObj} (hssl : obj.sslCtx ≠ none) (g : Globals)
    (objPtr : Ptr) (env : KeyUpdateEnv) :
    ObjKeyUpdate g objPtr env obj (scfObjKeyUpdate g objPtr env obj).1
      (scfObjKeyUpdate g objPtr env obj).2 := by
  unfold scfObjKeyUpdate
  by_cases hptr : objPtr = .null
  · rw [if_pos hptr]
    exact .rejected (by simp [reachesTls, hptr]) Errno.noConfusion
  by_cases hinit : g.scfInitialized = true
  case neg =>
    rw [if_neg hptr, if_pos (by simpa using hinit)]
    exact .rejected (by simp [reachesTls, hinit]) Errno.noConfusion
  have hadaptor : g.adaptor = true := g.adaptor_of_init hinit
  rw [if_neg hptr, if_neg (by simp [hinit]), if_neg (by simp [hadaptor])]
  cases hclock : env.clockOk with
  | false => exact .rejected (by simp [reachesTls, hclock]) Errno.noConfusion
  | true =>
    have hreach : reachesTls g objPtr env = true := by
      cases objPtr with
      | null => exact absurd rfl hptr
      | valid => simp [reachesTls, hinit, hclock]
    rw [if_neg (by simp)]
    dsimp only
    rw [adaptorKeyUpdate_eq (by rwa [setInfo_sslCtx])]
    cases henv : env.grants with
    | false =>
      have hfail : ObjKeyUpdate g objPtr env obj env.refusal _ := .refused hreach henv
      simpa [refusal_ne_success] using hfail
    | true =>
      have hdone : ObjKeyUpdate g objPtr env obj .success _ := .updated hreach henv
      simpa [SCFPolicyObj.keyUpdated, SCFPolicyObj.setInfo] using hdone

/-! ### What key updates leave alone -/

/-- A view of objects in which neither the bookkeeping nor the key updates of OpenSSL show. -/
structure KeyUpdateFree {β : Type*} (v : SCFPolicyObj → β) : Prop where
  setInfo : ∀ info obj, v (SCFPolicyObj.setInfo info obj) = v obj
  keyUpdate : ∀ obj ssl, obj.sslCtx = some ssl → v (obj.setSsl ssl.keyUpdate) = v obj

section KeyUpdateFree

variable {β : Type*} {v : SCFPolicyObj → β}

theorem KeyUpdateFree.adaptorKeyUpdate (hv : KeyUpdateFree v) (env : KeyUpdateEnv)
    (obj : SCFPolicyObj) : v (adaptorKeyUpdate env obj).2 = v obj := by
  unfold Scf.adaptorKeyUpdate
  cases hssl : obj.sslCtx with
  | none => rfl
  | some ssl =>
    dsimp only
    split_ifs
    · rfl
    · rfl
    · exact (hv.setInfo _ _).trans (hv.keyUpdate obj ssl hssl)

theorem KeyUpdateFree.checkNeedKeyUpdate (hv : KeyUpdateFree v) (env : KeyUpdateEnv)
    (ctx : SCFPolicyCtx) (processDataLen : UInt32) (obj : SCFPolicyObj) :
    v (checkNeedKeyUpdate env ctx processDataLen obj).2.2 = v obj := by
  have hcount : ∀ total, v (obj.setTotal total) = v obj := fun _ => hv.setInfo _ obj
  unfold Scf.checkNeedKeyUpdate
  by_cases hversion : adaptorGetVersion obj ≠ some tls13VersionStr
  · rw [if_pos hversion]
  rw [if_neg hversion]
  by_cases hreached : trafficReached ctx processDataLen obj.total = true
  · rw [if_pos hreached]
    exact hcount _
  rw [if_neg hreached]
  dsimp only
  split_ifs
  · exact hcount _
  · exact hcount _

/-- The key update behind a write. -/
theorem KeyUpdateFree.afterWrite (hv : KeyUpdateFree v) (env : KeyUpdateEnv) (ctx : SCFPolicyCtx)
    (writeLen : UInt32) (obj : SCFPolicyObj) : v (afterWrite env ctx writeLen obj).2 = v obj := by
  have hcheck := hv.checkNeedKeyUpdate env ctx writeLen obj
  unfold Scf.afterWrite
  split_ifs
  · generalize Scf.checkNeedKeyUpdate env ctx writeLen obj = check at hcheck
    obtain ⟨ret, due, obj'⟩ := check
    dsimp only at hcheck ⊢
    rw [← hcheck]
    split_ifs
    · exact hv.adaptorKeyUpdate env obj'
    · rfl
  · rfl

/-- A write, in a view in which the data does not show either. -/
theorem KeyUpdateFree.scfWrite (hv : KeyUpdateFree v)
    (htake : ∀ bytes obj, v (SCFPolicyObj.take bytes obj) = v obj)
    (hpart : ∀ data n obj, v (SCFPolicyObj.takePart data n obj) = v obj) (call : WriteCall)
    (ctx : SCFPolicyCtx) (obj : SCFPolicyObj) : v (scfWrite call ctx obj).2.2 = v obj := by
  rcases scfWrite_cases call ctx obj with ⟨-, ret, -, n, -, hwrite⟩ | ⟨bytes, -, hwrite⟩
  · rw [hwrite]
    exact hpart call.bytes n obj
  · rw [hwrite]
    exact (hv.afterWrite _ ctx _ _).trans (htake bytes obj)

theorem KeyUpdateFree.scfObjKeyUpdate (hv : KeyUpdateFree v) (g : Globals) (objPtr : Ptr)
    (env : KeyUpdateEnv) (obj : SCFPolicyObj) : v (scfObjKeyUpdate g objPtr env obj).2 = v obj := by
  unfold Scf.scfObjKeyUpdate
  split_ifs
  · rfl
  · rfl
  · rfl
  · rfl
  · dsimp only
    split_ifs
    · rw [hv.setInfo, hv.adaptorKeyUpdate, hv.setInfo]
    · rw [hv.setInfo, hv.setInfo, hv.adaptorKeyUpdate, hv.setInfo]

end KeyUpdateFree

end Scf
