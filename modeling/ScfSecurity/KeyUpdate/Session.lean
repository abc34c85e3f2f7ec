import ScfSecurity.KeyUpdate.Write
import ScfSecurity.Policy.Lifecycle

/-!
# Sessions of writes and key updates

A session is an object on a TLS 1.3 connection whose context asks for automatic key
updates, from its creation on, under any sequence of `SCF_Write` and `SCF_ObjKeyUpdate`.
Beside the state of the library a session records what really happened: how many bytes
OpenSSL has reported as written under the present key and when the key was last changed.

## Main definitions

- `Session`, `sessionMachine`: the object with the record, and its runs
- `SessionStep`: what one call can do

## Main results

- `sessionMachine_step`: every call makes a `SessionStep`
- `sessionMachine_invariant`: the induction over runs
-/

namespace Scf

open Automaton

/-- The number of bytes that `SSL_write_ex` has reported as written. -/
def SCFPolicyObj.sentBytes (obj : SCFPolicyObj) : ℕ :=
  (obj.sslCtx.map fun ssl => ssl.sent.length).getD 0

/-- The number of key updates that OpenSSL has carried out. -/
def SCFPolicyObj.keyChanges (obj : SCFPolicyObj) : ℕ := (obj.sslCtx.map Ssl.keyUpdates).getD 0

/-- An object and its context, with a record of the facts: the bytes written since the last
key update or since creation, the second of that event, and the latest second of the
clock. -/
structure Session where
  ctx : SCFPolicyCtx
  obj : SCFPolicyObj
  -- counts what `SSL_write_ex` reports; the part of a write that has failed comes with its success
  accepted : ℕ
  lastEvent : UInt64
  now : UInt64

/-- The calls of a session. -/
inductive SessionCall where
  | write (call : WriteCall)
  | objKeyUpdate (g : Globals) (objPtr : Ptr) (env : KeyUpdateEnv)

/-- The second of the clock at which a call takes place. -/
def SessionCall.now : SessionCall → UInt64
  | write call => call.env.now
  | objKeyUpdate _ _ env => env.now

/-- Record what a call has done to the object. -/
def Session.observe (now : UInt64) (obj : SCFPolicyObj) (s : Session) : Session :=
  if s.obj.keyChanges < obj.keyChanges then
    { s with obj, accepted := 0, lastEvent := now, now }
  else
    { s with obj, accepted := s.accepted + (obj.sentBytes - s.obj.sentBytes), now }

/-- A new session: the object was created from a context that asks for automatic updates,
and meanwhile has a TLS 1.3 connection; its counters are still those of the creation. -/
structure NewSession (lib : LibCrypto) (s : Session) : Prop where
  created : ∃ g ctxPtr allocOk ctx obj, (policyMachine lib).Reachable ctx ∧
    ctx.isNeedKeyUpdate = true ∧
    scfCreatePolicyObj g ctxPtr (some s.now) allocOk ctx = (some obj, s.ctx) ∧
    s.obj.keyUpdateInfo = obj.keyUpdateInfo
  tls13 : adaptorGetVersion s.obj = some tls13VersionStr
  accepted : s.accepted = 0
  lastEvent : s.lastEvent = s.now

/-- The runs of writes and requested updates on one object. -/
def sessionMachine (lib : LibCrypto) : Machine Session SessionCall (Errno × Option UInt32) where
  initial := NewSession lib
  step s
    | .write call =>
      let (ret, writeLen, obj) := scfWrite call s.ctx s.obj
      ((ret, writeLen), s.observe call.env.now obj)
    | .objKeyUpdate g objPtr env =>
      let (ret, obj) := scfObjKeyUpdate g objPtr env s.obj
      ((ret, none), s.observe env.now obj)

/-- What stays true of a session: automatic updates on a TLS 1.3 connection. -/
structure Tracked (s : Session) : Prop where
  tls13 : adaptorGetVersion s.obj = some tls13VersionStr
  need : s.ctx.isNeedKeyUpdate = true
  params : ValidUpdateParams s.ctx

/-- The object is another one at most in the part of a failed write that OpenSSL has taken. -/
structure SameRecord (obj obj' : SCFPolicyObj) : Prop where
  info : obj'.keyUpdateInfo = obj.keyUpdateInfo
  version : adaptorGetVersion obj' = adaptorGetVersion obj
  sentBytes : obj'.sentBytes = obj.sentBytes
  keyChanges : obj'.keyChanges = obj.keyChanges

theorem SameRecord.refl (obj : SCFPolicyObj) : SameRecord obj obj := ⟨rfl, rfl, rfl, rfl⟩

/-- A failed write counts for nothing. -/
theorem sameRecord_takePart (data : List UInt8) (n : ℕ) (obj : SCFPolicyObj) :
    SameRecord obj (obj.takePart data n) := by
  cases hssl : obj.sslCtx with
  | none =>
    have hsame : obj.takePart data n = obj := by
      rw [SCFPolicyObj.takePart, hssl, Option.map_none, ← hssl]
    rw [hsame]
    exact .refl obj
  | some ssl =>
    refine ⟨rfl, ?_, ?_, ?_⟩
    · simp [adaptorGetVersion, SCFPolicyObj.takePart, hssl, Ssl.takePart]
    · simp [SCFPolicyObj.sentBytes, SCFPolicyObj.takePart, hssl, Ssl.takePart]
    · simp [SCFPolicyObj.keyChanges, SCFPolicyObj.takePart, hssl, Ssl.takePart]

/-- What one call can do to a session, and the code it returns. -/
inductive SessionStep (s : Session) : SessionCall → Errno → Session → Prop
  | rejected {call : SessionCall} {ret : Errno} {obj : SCFPolicyObj} (hret : ret ≠ .success)
      (hsame : SameRecord s.obj obj) : SessionStep s call ret { s with obj, now := call.now }
  | counted {call : WriteCall} {bytes : List UInt8} {ret : Errno}
      (haccepted : call.accepted s.obj = some bytes)
      (hret : ret = .success →
        updateDue call.env.toKeyUpdateEnv s.ctx bytes.length.toUInt32 s.obj = false) :
      SessionStep s (.write call) ret
        { s with
          obj := (s.obj.take bytes).count bytes.length.toUInt32
          accepted := s.accepted + bytes.length
          now := call.env.now }
  | writeUpdated {call : WriteCall} {bytes : List UInt8}
      (haccepted : call.accepted s.obj = some bytes)
      (hdue : updateDue call.env.toKeyUpdateEnv s.ctx bytes.length.toUInt32 s.obj = true)
      (henv : call.env.grants = true) :
      SessionStep s (.write call) .success
        { s with
          obj := ((s.obj.take bytes).count bytes.length.toUInt32).keyUpdated
          accepted := 0
          lastEvent := call.env.now
          now := call.env.now }
  | refused {g : Globals} {objPtr : Ptr} {env : KeyUpdateEnv}
      (hreach : reachesTls g objPtr env = true) (henv : env.grants = false) :
      SessionStep s (.objKeyUpdate g objPtr env) env.refusal
        { s with
          obj := s.obj.setInfo { s.obj.keyUpdateInfo with
            totalSizeOfWriteData := 0
            lastKeyUpdateTime := env.now
            isLastUpdateSuccess := false }
          now := env.now }
  | updated {g : Globals} {objPtr : Ptr} {env : KeyUpdateEnv}
      (hreach : reachesTls g objPtr env = true) (henv : env.grants = true) :
      SessionStep s (.objKeyUpdate g objPtr env) .success
        { s with
          obj := s.obj.keyUpdated.setInfo { s.obj.keyUpdated.keyUpdateInfo with
            totalKeyUpdateCnt := s.obj.keyUpdateInfo.totalKeyUpdateCnt + 1 }
          accepted := 0
          lastEvent := env.now
          now := env.now }

section Observe

variable {s : Session} {obj : SCFPolicyObj}

/-- A call that neither writes data nor changes the key. -/
theorem Session.observe_same (hsent : obj.sentBytes = s.obj.sentBytes)
    (hkeys : obj.keyChanges = s.obj.keyChanges) (now : UInt64) :
    s.observe now obj = { s with obj, now } := by
  rw [Session.observe, if_neg (by omega), hsent, Nat.sub_self, Nat.add_zero]

/-- A call in which OpenSSL writes some bytes. -/
theorem Session.observe_take {bytes : List UInt8} (hsome : s.obj.sslCtx ≠ none)
    (hssl : obj.sslCtx = s.obj.sslCtx.map (Ssl.take bytes)) (now : UInt64) :
    s.observe now obj = { s with obj, accepted := s.accepted + bytes.length, now } := by
  obtain ⟨ssl, hsome⟩ := Option.ne_none_iff_exists'.mp hsome
  have hkeys : obj.keyChanges = s.obj.keyChanges := by
    simp [SCFPolicyObj.keyChanges, hssl, hsome, Ssl.take]
  have hsent : obj.sentBytes = s.obj.sentBytes + bytes.length := by
    simp [SCFPolicyObj.sentBytes, hssl, hsome, Ssl.take]
  rw [Session.observe, if_neg (by omega), hsent, Nat.add_sub_cancel_left]

/-- A call in which OpenSSL changes the key. -/
theorem Session.observe_keyUpdate {f : Ssl → Ssl} (hsome : s.obj.sslCtx ≠ none)
    (hf : ∀ ssl, (f ssl).keyUpdates = ssl.keyUpdates + 1)
    (hssl : obj.sslCtx = s.obj.sslCtx.map f) (now : UInt64) :
    s.observe now obj = { s with obj, accepted := 0, lastEvent := now, now } := by
  obtain ⟨ssl, hsome⟩ := Option.ne_none_iff_exists'.mp hsome
  have hkeys : obj.keyChanges = s.obj.keyChanges + 1 := by
    simp [SCFPolicyObj.keyChanges, hssl, hsome, hf]
  rw [Session.observe, if_pos (by omega)]

end Observe

theorem Tracked.ssl {s : Session} (h : Tracked s) : s.obj.sslCtx ≠ none := by
  intro hnone
  simpa [adaptorGetVersion, hnone] using h.tls13

theorem not_mem_refusalCodes_success : Errno.success ∉ refusalCodes := by decide

theorem adaptorGetVersion_take (bytes : List UInt8) (obj : SCFPolicyObj) :
    adaptorGetVersion (obj.take bytes) = adaptorGetVersion obj := by
  unfold adaptorGetVersion SCFPolicyObj.take
  rw [Option.map_map]
  rfl

theorem adaptorGetVersion_count (writeLen : UInt32) (obj : SCFPolicyObj) :
    adaptorGetVersion (obj.count writeLen) = adaptorGetVersion obj := by
  rw [adaptorGetVersion, SCFPolicyObj.count, setTotal_sslCtx, adaptorGetVersion]

theorem adaptorGetVersion_keyUpdated (obj : SCFPolicyObj) :
    adaptorGetVersion obj.keyUpdated = adaptorGetVersion obj := by
  rw [adaptorGetVersion, adaptorGetVersion, SCFPolicyObj.keyUpdated, Option.map_map]
  rfl

/-- A write on a tracked session. -/
theorem scfWrite_sessionStep {s : Session} (h : Tracked s) (call : WriteCall) :
    SessionStep s (.write call) (scfWrite call s.ctx s.obj).1
      (s.observe call.env.now (scfWrite call s.ctx s.obj).2.2) := by
  obtain ⟨-, ret, hmem, n, -, heq⟩ | ⟨bytes, haccepted, heq⟩ := scfWrite_cases call s.ctx s.obj
  · have hsame := sameRecord_takePart call.bytes n s.obj
    rw [heq, Session.observe_same hsame.sentBytes hsame.keyChanges]
    refine .rejected ?_ hsame
    rintro rfl
    exact not_mem_refusalCodes_success hmem
  · rw [heq]
    have htls : adaptorGetVersion (s.obj.take bytes) = some tls13VersionStr := by
      rw [adaptorGetVersion_take]
      exact h.tls13
    have hcases := afterWrite_cases htls h.need call.env.toKeyUpdateEnv bytes.length.toUInt32
    dsimp only
    -- the data was written; the connection changes again only if the key is updated
    have hcounted : ((s.obj.take bytes).count bytes.length.toUInt32).sslCtx =
        s.obj.sslCtx.map (Ssl.take bytes) := by
      rw [SCFPolicyObj.count, setTotal_sslCtx, SCFPolicyObj.take]
    generalize afterWrite call.env.toKeyUpdateEnv s.ctx bytes.length.toUInt32
      (s.obj.take bytes) = result at hcases
    obtain ⟨ret, obj⟩ := result
    dsimp only at hcases ⊢
    cases hcases with
    | counted hreached hdue =>
      rw [Session.observe_take h.ssl hcounted]
      exact .counted haccepted fun _ => hdue
    | clockError hreached =>
      rw [Session.observe_take h.ssl hcounted]
      exact .counted haccepted fun hret => absurd hret (by decide)
    | refused hdue henv =>
      rw [Session.observe_take h.ssl hcounted]
      exact .counted haccepted fun hret => absurd hret (refusal_ne_success _)
    | updated hdue henv =>
      rw [Session.observe_keyUpdate h.ssl (fun ssl => rfl : ∀ ssl,
        (Ssl.keyUpdate (Ssl.take bytes ssl)).keyUpdates = ssl.keyUpdates + 1)
        (by rw [SCFPolicyObj.keyUpdated, hcounted, Option.map_map]; rfl)]
      exact .writeUpdated haccepted hdue henv

/-- A requested update on a tracked session. -/
theorem scfObjKeyUpdate_sessionStep {s : Session} (h : Tracked s) (g : Globals) (objPtr : Ptr)
    (env : KeyUpdateEnv) :
    SessionStep s (.objKeyUpdate g objPtr env) (scfObjKeyUpdate g objPtr env s.obj).1
      (s.observe env.now (scfObjKeyUpdate g objPtr env s.obj).2) := by
  have hcases := scfObjKeyUpdate_cases h.ssl g objPtr env
  generalize scfObjKeyUpdate g objPtr env s.obj = result at hcases
  obtain ⟨ret, obj⟩ := result
  dsimp only at hcases ⊢
  cases hcases with
  | rejected hreach hret =>
    rw [Session.observe_same rfl rfl]
    exact .rejected hret (.refl s.obj)
  | refused hreach henv =>
    have hobserve : ∀ info, s.observe env.now (s.obj.setInfo info) =
        { s with obj := s.obj.setInfo info, now := env.now } := fun info =>
      Session.observe_same (by rfl) (by rfl) env.now
    rw [hobserve]
    exact .refused hreach henv
  | updated hreach henv =>
    rw [Session.observe_keyUpdate h.ssl (fun ssl => rfl : ∀ ssl,
      (Ssl.keyUpdate ssl).keyUpdates = ssl.keyUpdates + 1) rfl]
    exact .updated hreach henv

/-- **Step lemma**: every call on a tracked session is one of the described steps. -/
theorem sessionMachine_step (lib : LibCrypto) {s : Session} (h : Tracked s) (call : SessionCall) :
    SessionStep s call ((sessionMachine lib).step s call).1.1
      ((sessionMachine lib).step s call).2 := by
  cases call with
  | write call => exact scfWrite_sessionStep h call
  | objKeyUpdate g objPtr env => exact scfObjKeyUpdate_sessionStep h g objPtr env

theorem NewSession.tracked {lib : LibCrypto} {s : Session} (h : NewSession lib s) : Tracked s := by
  obtain ⟨g, ctxPtr, allocOk, ctx, obj, hctx, hneed, hobj, -⟩ := h.created
  obtain ⟨now, -, -, hctx'⟩ := scfCreatePolicyObj_some hobj
  refine ⟨h.tls13, ?_, ?_⟩
  · rw [hctx']
    exact hneed
  · rw [hctx']
    exact (reachable_validUpdateParams hctx).of_eq rfl rfl

/-- A session stays tracked. -/
theorem SessionStep.tracked {s s' : Session} {call : SessionCall} {ret : Errno}
    (hstep : SessionStep s call ret s') (h : Tracked s) : Tracked s' := by
  cases hstep with
  | rejected hret hsame => exact ⟨hsame.version.trans h.tls13, h.need, h.params⟩
  | counted haccepted hret =>
    refine ⟨?_, h.need, h.params⟩
    rw [adaptorGetVersion_count, adaptorGetVersion_take]
    exact h.tls13
  | writeUpdated haccepted hdue henv =>
    refine ⟨?_, h.need, h.params⟩
    rw [adaptorGetVersion_keyUpdated, adaptorGetVersion_count, adaptorGetVersion_take]
    exact h.tls13
  | refused hreach henv => exact ⟨h.tls13, h.need, h.params⟩
  | updated hreach henv =>
    refine ⟨?_, h.need, h.params⟩
    exact (adaptorGetVersion_keyUpdated s.obj).trans h.tls13

/-- **Run lemma**: a property of new sessions that every admitted step keeps holds in every
session that a run of admitted steps reaches. -/
theorem sessionMachine_invariant {lib : LibCrypto} {ok : Session → SessionCall → Prop}
    {I : Session → Prop} (hnew : ∀ s, NewSession lib s → I s)
    (hstep : ∀ s call ret s', ok s call → SessionStep s call ret s' → Tracked s → I s → I s')
    {s : Session} (h : (sessionMachine lib).ReachableBy ok s) : Tracked s ∧ I s := by
  refine Machine.ReachableBy.invariant (I := fun s => Tracked s ∧ I s) ?_ ?_ h
  · intro s hs
    exact ⟨hs.tracked, hnew s hs⟩
  · rintro s call ⟨htracked, hs⟩ hok
    have hcall := sessionMachine_step lib htracked call
    exact ⟨hcall.tracked htracked, hstep s call _ _ hok hcall htracked hs⟩

end Scf
