import ScfSecurity.KeyUpdate.Traffic

/-!
# The record of a key update

`SCF_ObjKeyUpdate` and the automatic update in `SCF_Write` reach OpenSSL through the same
function of the adaptor, which knows only a part of the record `keyUpdateInfo`. The rest is left
to the caller, and `SCF_Write` does nothing about it.

## Main definitions

- `Bookkept`: the record as it should be after an update was tried

## Main results

- `automatic_keyUpdateInfo`, `requested_keyUpdateInfo`: the record after either update
- `refused_records_agree_iff`: in what the records still differ when OpenSSL refuses
- `keyUpdate_bookkept_iff`: when both are as they should be
-/

namespace Scf

/-- The record after an update was tried: a successful one is counted and dated and starts the
counter afresh, a failed one is marked. -/
structure Bookkept (now : UInt64) (before : SCFKeyUpdateInfo) (ret : Errno)
    (after : SCFKeyUpdateInfo) : Prop where
  success : ret = .success →
    after.totalKeyUpdateCnt = before.totalKeyUpdateCnt + 1 ∧ after.isLastUpdateSuccess = true ∧
      after.totalSizeOfWriteData = 0 ∧ after.lastKeyUpdateTime = now
  failure : ret ≠ .success →
    after.isLastUpdateSuccess = false ∧ after.totalKeyUpdateCnt = before.totalKeyUpdateCnt

/-- The object at the moment of an automatic update: the bytes are written and counted. -/
def SCFPolicyObj.dueObj (bytes : List UInt8) (obj : SCFPolicyObj) : SCFPolicyObj :=
  (obj.take bytes).count bytes.length.toUInt32

theorem dueObj_isLastUpdateSuccess (bytes : List UInt8) (obj : SCFPolicyObj) :
    (obj.dueObj bytes).keyUpdateInfo.isLastUpdateSuccess =
      obj.keyUpdateInfo.isLastUpdateSuccess := by
  rw [SCFPolicyObj.dueObj, SCFPolicyObj.count, SCFPolicyObj.setTotal, setInfo_keyUpdateInfo]
  rfl

/-- A write in which an update is due ends as the adaptor's update does. -/
theorem scfWrite_of_updateDue {call : WriteCall} {ctx : SCFPolicyCtx} {obj : SCFPolicyObj}
    {bytes : List UInt8} (haccepted : call.accepted obj = some bytes)
    (htls : adaptorGetVersion obj = some tls13VersionStr) (hneed : ctx.isNeedKeyUpdate = true)
    (hdue : updateDue call.env.toKeyUpdateEnv ctx bytes.length.toUInt32 obj = true) :
    scfWrite call ctx obj =
      let result := adaptorKeyUpdate call.env.toKeyUpdateEnv (obj.dueObj bytes)
      (result.1, some bytes.length.toUInt32, result.2) := by
  obtain ⟨hnone, -⟩ | ⟨bytes', haccepted', heq⟩ := scfWrite_cases call ctx obj
  · rw [hnone] at haccepted
    cases haccepted
  · obtain rfl := Option.some.inj (haccepted.symm.trans haccepted')
    have htls' : adaptorGetVersion (obj.take bytes) = some tls13VersionStr := by
      rw [adaptorGetVersion_take]
      exact htls
    have hafter : afterWrite call.env.toKeyUpdateEnv ctx bytes.length.toUInt32 (obj.take bytes) =
        adaptorKeyUpdate call.env.toKeyUpdateEnv (obj.dueObj bytes) := by
      have hdue' : trafficReached ctx bytes.length.toUInt32 (obj.take bytes).total = true ∨
          checkTimeInterval call.env.toKeyUpdateEnv ctx (obj.take bytes) = (.success, true) := by
        unfold updateDue at hdue
        rw [Bool.or_eq_true, decide_eq_true_eq] at hdue
        exact hdue
      unfold afterWrite
      rw [if_pos hneed, checkNeedKeyUpdate_tls13 htls']
      by_cases hreached : trafficReached ctx bytes.length.toUInt32 (obj.take bytes).total = true
      · rw [if_pos hreached]
        rfl
      · rw [if_neg hreached, hdue'.resolve_left hreached]
        rfl
    rw [heq, hafter]

section Records

variable {obj : SCFPolicyObj} (hssl : obj.sslCtx ≠ none) (env : KeyUpdateEnv)

include hssl

/-- The record after the adaptor's update, which is all that an automatic update does. -/
theorem automatic_keyUpdateInfo :
    adaptorKeyUpdate env obj =
        (.success, obj.keyUpdated) ∧ env.grants = true ∨
      adaptorKeyUpdate env obj = (env.refusal, obj) ∧ env.grants = false := by
  rw [adaptorKeyUpdate_eq hssl]
  cases henv : env.grants with
  | true => exact .inl ⟨rfl, rfl⟩
  | false => exact .inr ⟨rfl, rfl⟩

/-- The record after an automatic update is as it should be only if the update fails and the
update before it has failed as well. -/
theorem automatic_bookkept_iff :
    Bookkept env.now obj.keyUpdateInfo (adaptorKeyUpdate env obj).1
        (adaptorKeyUpdate env obj).2.keyUpdateInfo ↔
      env.grants = false ∧ obj.keyUpdateInfo.isLastUpdateSuccess = false := by
  obtain ⟨heq, henv⟩ | ⟨heq, henv⟩ := automatic_keyUpdateInfo hssl env
  · rw [heq, henv]
    refine iff_of_false (fun h => ?_) (fun h => absurd h.1 (by decide))
    -- the update is not counted
    have hcount : obj.keyUpdateInfo.totalKeyUpdateCnt = obj.keyUpdateInfo.totalKeyUpdateCnt + 1 :=
      (h.success rfl).1
    exact absurd hcount.symm (by simp)
  · rw [heq, henv]
    constructor
    · exact fun h => ⟨rfl, (h.failure (refusal_ne_success env)).1⟩
    · exact fun h => ⟨fun hret => absurd hret (refusal_ne_success env), fun _ => ⟨h.2, rfl⟩⟩

/-- A requested update that OpenSSL refuses, or that fails before it gets there, is recorded as
it should be, provided in the latter case that the update before has failed. -/
theorem requested_bookkept {g : Globals} (henv : env.grants = false)
    (hlast : obj.keyUpdateInfo.isLastUpdateSuccess = false) (objPtr : Ptr) :
    Bookkept env.now obj.keyUpdateInfo (scfObjKeyUpdate g objPtr env obj).1
      (scfObjKeyUpdate g objPtr env obj).2.keyUpdateInfo := by
  have hcases := scfObjKeyUpdate_cases hssl g objPtr env
  generalize scfObjKeyUpdate g objPtr env obj = result at hcases
  obtain ⟨ret, obj'⟩ := result
  dsimp only at hcases ⊢
  cases hcases with
  | rejected _ hret => exact ⟨fun h => absurd h hret, fun _ => ⟨hlast, rfl⟩⟩
  | refused => exact ⟨fun h => absurd h (refusal_ne_success env), fun _ => ⟨rfl, rfl⟩⟩
  | updated _ henv' =>
    rw [henv] at henv'
    cases henv'

/-- Where OpenSSL refuses, the requested update has set counter and time before it asked, and the
automatic one has not: the two records are the same only if nothing was counted, the record is
dated now and marked as failed already. -/
theorem refused_records_agree_iff {g : Globals} {objPtr : Ptr}
    (hreach : reachesTls g objPtr env = true) (henv : env.grants = false) :
    (adaptorKeyUpdate env obj).2.keyUpdateInfo =
        (scfObjKeyUpdate g objPtr env obj).2.keyUpdateInfo ↔
      obj.keyUpdateInfo.totalSizeOfWriteData = 0 ∧
        obj.keyUpdateInfo.lastKeyUpdateTime = env.now ∧
        obj.keyUpdateInfo.isLastUpdateSuccess = false := by
  have hautomatic : adaptorKeyUpdate env obj = (env.refusal, obj) := by
    rw [adaptorKeyUpdate_eq hssl, henv, if_neg (by decide)]
  have hcases := scfObjKeyUpdate_cases hssl g objPtr env
  generalize scfObjKeyUpdate g objPtr env obj = result at hcases
  obtain ⟨ret, obj'⟩ := result
  dsimp only at hcases ⊢
  rw [hautomatic]
  cases hcases with
  | rejected hreach' _ =>
    rw [hreach] at hreach'
    cases hreach'
  | refused =>
    rw [setInfo_keyUpdateInfo]
    cases obj.keyUpdateInfo
    simp only [SCFKeyUpdateInfo.mk.injEq, true_and]
  | updated _ henv' =>
    rw [henv] at henv'
    cases henv'

end Records

/-- Both ways to update a key at the same moment: in a write in which an update is due, and on
request on the object as the write has it then. They leave the record as it should be exactly if
OpenSSL refuses the update and the update before has failed as well. -/
theorem keyUpdate_bookkept_iff {call : WriteCall} {ctx : SCFPolicyCtx} {obj : SCFPolicyObj}
    {bytes : List UInt8} (haccepted : call.accepted obj = some bytes)
    (htls : adaptorGetVersion obj = some tls13VersionStr) (hneed : ctx.isNeedKeyUpdate = true)
    (hdue : updateDue call.env.toKeyUpdateEnv ctx bytes.length.toUInt32 obj = true) :
    let before := (obj.dueObj bytes).keyUpdateInfo
    let automatic := scfWrite call ctx obj
    let requested := scfObjKeyUpdate call.g .valid call.env.toKeyUpdateEnv (obj.dueObj bytes)
    (Bookkept call.env.now before automatic.1 automatic.2.2.keyUpdateInfo ∧
        Bookkept call.env.now before requested.1 requested.2.keyUpdateInfo) ↔
      call.env.grants = false ∧ obj.keyUpdateInfo.isLastUpdateSuccess = false := by
  intro before automatic requested
  have hssl : (obj.dueObj bytes).sslCtx ≠ none := by
    intro hnone
    have hversion : adaptorGetVersion (obj.dueObj bytes) = some tls13VersionStr := by
      rw [SCFPolicyObj.dueObj, adaptorGetVersion_count, adaptorGetVersion_take]
      exact htls
    simp [adaptorGetVersion, hnone] at hversion
  have hwrite : automatic = _ := scfWrite_of_updateDue haccepted htls hneed hdue
  have hautomatic := automatic_bookkept_iff hssl call.env.toKeyUpdateEnv
  rw [hwrite, ← dueObj_isLastUpdateSuccess bytes obj]
  constructor
  · exact fun h => hautomatic.mp h.1
  · exact fun h => ⟨hautomatic.mpr h, requested_bookkept hssl call.env.toKeyUpdateEnv h.1 h.2 _⟩

/-- Three bytes in second 500, 400 seconds after the object was created: the time limit is
reached, and OpenSSL carries the update out or refuses it. -/
def dueWrite (keyUpdateOk : Bool) : WriteCall :=
  ⟨.ready, .valid, some [1, 2, 3], 3, .valid, ⟨⟨500, true, true, keyUpdateOk⟩, .written 3⟩⟩

/-- The object after an update was refused. -/
def refusedObj : SCFPolicyObj :=
  autoObj.setInfo { autoObj.keyUpdateInfo with isLastUpdateSuccess := false }

theorem keyUpdate_bookkept_iff_refused :
    (dueWrite false).accepted refusedObj = some [1, 2, 3] ∧
      adaptorGetVersion refusedObj = some tls13VersionStr ∧
      (scfWrite (dueWrite false) autoCtx refusedObj).2.2.keyUpdateInfo.isLastUpdateSuccess =
        false := by
  have haccepted : (dueWrite false).accepted refusedObj = some [1, 2, 3] := rfl
  have htls : adaptorGetVersion refusedObj = some tls13VersionStr := rfl
  have hneed : autoCtx.isNeedKeyUpdate = true := rfl
  have hboth := (keyUpdate_bookkept_iff haccepted htls hneed (by decide)).mpr ⟨rfl, rfl⟩
  exact ⟨haccepted, htls, (hboth.1.failure (by decide)).1⟩

/-- The first key update of an object. The automatic one is not counted, and neither is dated. -/
theorem automatic_update_not_counted :
    let automatic := scfWrite (dueWrite true) autoCtx autoObj
    let requested := scfObjKeyUpdate .ready .valid (dueWrite true).env.toKeyUpdateEnv
      (autoObj.dueObj [1, 2, 3])
    automatic.1 = .success ∧ requested.1 = .success ∧
      automatic.2.2.keyUpdateInfo.totalKeyUpdateCnt = 0 ∧
      requested.2.keyUpdateInfo.totalKeyUpdateCnt = 1 ∧
      automatic.2.2.keyUpdateInfo.lastKeyUpdateTime = 0 ∧
      requested.2.keyUpdateInfo.lastKeyUpdateTime = 0 := by
  decide

end Scf
