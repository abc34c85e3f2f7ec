import ScfSecurity.KeyUpdate.Session
import ScfSecurity.Policy.Object

/-!
# The byte counter

The counter of a session is meant to hold the number of bytes protected by the present key.
`SCF_ObjKeyUpdate` clears it before it knows whether the key will change, so an update that
OpenSSL refuses makes the library forget the traffic; nothing else disturbs the counter.

## Main definitions

- `CounterSafe`: the calls that do not clear the counter in vain

## Main results

- `counter_exact`: the counter in sessions whose calls are all of that kind
-/

namespace Scf

open Automaton

/-- The call is not a requested update that OpenSSL refuses while there is traffic on the
counter. -/
def CounterSafe (s : Session) : SessionCall → Prop
  | .write _ => True
  | .objKeyUpdate g objPtr env =>
    reachesTls g objPtr env = true → env.grants = true ∨ s.obj.total = 0

/-- OpenSSL takes less than `2 ^ 32` bytes in one call. -/
theorem WriteCall.accepted_length {call : WriteCall} {obj : SCFPolicyObj} {bytes : List UInt8}
    (h : call.accepted obj = some bytes) : bytes.length.toUInt32.toNat = bytes.length := by
  have hlen : bytes.length ≤ call.dataLen.toNat := by
    unfold WriteCall.accepted at h
    split_ifs at h
    split at h
    · cases h
    · obtain rfl := Option.some.inj h
      rw [List.length_take, WriteCall.bytes, List.length_take]
      omega
  have hlt : bytes.length < 2 ^ 32 := Nat.lt_of_le_of_lt hlen call.dataLen.toNat_lt
  exact UInt32.toNat_ofNat_of_lt' hlt

/-- The counter shows the bytes taken under the present key, up to its largest value. -/
def CounterExact (s : Session) : Prop := s.obj.total.toNat = min (2 ^ 64 - 1) s.accepted

theorem NewSession.counterExact {lib : LibCrypto} {s : Session} (h : NewSession lib s) :
    CounterExact s := by
  obtain ⟨g, ctxPtr, allocOk, ctx, obj, -, -, hobj, hinfo⟩ := h.created
  obtain ⟨now, -, hnew, -⟩ := scfCreatePolicyObj_some hobj
  rw [CounterExact, h.accepted, SCFPolicyObj.total, hinfo, hnew]
  rfl

/-- The counter after some bytes were counted. -/
theorem total_count_take (bytes : List UInt8) (writeLen : UInt32) (obj : SCFPolicyObj) :
    ((obj.take bytes).count writeLen).total = satAdd obj.total writeLen := by
  rw [SCFPolicyObj.count, setTotal_total]
  rfl

theorem SessionStep.counterExact {s s' : Session} {call : SessionCall} {ret : Errno}
    (hstep : SessionStep s call ret s') (hok : CounterSafe s call) (h : CounterExact s) :
    CounterExact s' := by
  cases hstep with
  | rejected hret hsame =>
    unfold CounterExact SCFPolicyObj.total at h ⊢
    dsimp only
    rw [hsame.info]
    exact h
  | counted haccepted hret =>
    unfold CounterExact at h ⊢
    dsimp only
    rw [total_count_take, satAdd_toNat, WriteCall.accepted_length haccepted]
    omega
  | writeUpdated haccepted hdue henv => rfl
  | refused hreach henv =>
    -- the counter is cleared although the key stays: harmless only if it was zero before
    have hzero : s.obj.total = 0 := by
      obtain hgrants | hzero := hok hreach
      · rw [henv] at hgrants
        cases hgrants
      · exact hzero
    unfold CounterExact at h ⊢
    rw [hzero] at h
    exact h
  | updated hreach henv => rfl

/-- A write that reports success leaves the counter below the limit. -/
theorem SessionStep.below_traffic {s s' : Session} {call : WriteCall}
    (hstep : SessionStep s (.write call) .success s') (htracked : Tracked s)
    (h : CounterExact s) :
    s'.obj.total.toNat < s.ctx.keyUpdateTraffic.toNat ∧
      s'.accepted < s.ctx.keyUpdateTraffic.toNat := by
  have htraffic := s.ctx.keyUpdateTraffic.toNat_lt
  have hpos : 0 < s.ctx.keyUpdateTraffic.toNat := by
    have hmin := UInt64.le_iff_toNat_le.mp htracked.params.minTraffic
    have : minKeyUpdateTraffic.toNat = 1000 := rfl
    omega
  cases hstep with
  | rejected hret hsame => exact absurd rfl hret
  | counted haccepted hret =>
    have hdue := hret rfl
    rw [updateDue, Bool.or_eq_false_iff] at hdue
    have hlt := trafficReached_eq_false_iff.mp hdue.1
    rw [WriteCall.accepted_length haccepted] at hlt
    unfold CounterExact at h
    dsimp only
    rw [total_count_take, satAdd_toNat, WriteCall.accepted_length haccepted]
    omega
  | writeUpdated haccepted hdue henv => exact ⟨hpos, hpos⟩

/-- In every run in which OpenSSL carries out each update the application requests while
there is traffic on the counter, the counter is the number of bytes taken since the last
update or the creation, up to `UINT64_MAX`; and after each write that reports success both
are below the traffic limit. -/
theorem counter_exact {lib : LibCrypto} {s : Session}
    (h : (sessionMachine lib).ReachableBy CounterSafe s) :
    s.obj.keyUpdateInfo.totalSizeOfWriteData.toNat = min (2 ^ 64 - 1) s.accepted ∧
      ∀ call : WriteCall, ((sessionMachine lib).step s (.write call)).1.1 = .success →
        ((sessionMachine lib).step s (.write call)).2.obj.keyUpdateInfo.totalSizeOfWriteData <
            s.ctx.keyUpdateTraffic ∧
          ((sessionMachine lib).step s (.write call)).2.accepted <
            s.ctx.keyUpdateTraffic.toNat := by
  obtain ⟨htracked, hexact⟩ : Tracked s ∧ CounterExact s :=
    sessionMachine_invariant (fun _ hnew => hnew.counterExact)
      (fun _ _ _ _ hok hstep _ hs => hstep.counterExact hok hs) h
  refine ⟨hexact, fun call hret => ?_⟩
  have hstep := sessionMachine_step lib htracked (.write call)
  rw [hret] at hstep
  obtain ⟨htotal, haccepted⟩ := hstep.below_traffic htracked hexact
  exact ⟨UInt64.lt_iff_toNat_lt.mpr htotal, haccepted⟩

/-- A client context with automatic updates after 300 seconds or 1000 bytes. -/
def autoCtx : SCFPolicyCtx :=
  configure [(.ready, .valid, .setKeyAutoUpdateParam true 300 1000)]
    (scfSetPolicy .ready .valid .client .default .high .plain newPolicyCtx).2

theorem reachable_autoCtx (lib : LibCrypto) : (policyMachine lib).Reachable autoCtx := by
  have hnew : (policyMachine lib).Reachable newPolicyCtx := .initial ⟨.ready, true, rfl⟩
  have hpolicy := hnew.step (.ready, .valid, .setPolicy .client .default .high .plain)
  exact hpolicy.step (.ready, .valid, .settings (.setKeyAutoUpdateParam true 300 1000))

/-- An object of this context, created in second 100 and bound to a socket. -/
def autoObj : SCFPolicyObj :=
  (scfSetFd .ready .valid 3 .plain { autoCtx with refCnt := 2 } (newPolicyObj autoCtx 100)).2

def autoSession : Session := ⟨{ autoCtx with refCnt := 2 }, autoObj, 0, 100, 100⟩

theorem newSession_autoSession (lib : LibCrypto) : NewSession lib autoSession where
  created := ⟨.ready, .valid, true, autoCtx, newPolicyObj autoCtx 100, reachable_autoCtx lib, rfl,
    rfl, rfl⟩
  tls13 := rfl
  accepted := rfl
  lastEvent := rfl

/-- Write three bytes, all of which OpenSSL takes. -/
def threeBytes (now : UInt64) : WriteCall :=
  ⟨.ready, .valid, some [1, 2, 3], 3, .valid, ⟨⟨now, true, true, true⟩, .written 3⟩⟩

/-- Request an update that OpenSSL refuses. -/
def refusedUpdate (now : UInt64) : SessionCall :=
  .objKeyUpdate .ready .valid ⟨now, true, true, false⟩

theorem counter_exact_threeBytes :
    ∃ s, (sessionMachine .shortForm).ReachableBy CounterSafe s ∧ s.accepted = 3 ∧
      s.obj.keyUpdateInfo.totalSizeOfWriteData.toNat = min (2 ^ 64 - 1) s.accepted := by
  have hnew : (sessionMachine .shortForm).ReachableBy CounterSafe autoSession :=
    .initial (newSession_autoSession .shortForm)
  have hrun := hnew.step (.write (threeBytes 110)) trivial
  exact ⟨_, hrun, rfl, (counter_exact hrun).1⟩

/-- After the refused update the counter says that nothing was sent under the key. -/
theorem counter_forgets_traffic :
    ∃ s, (sessionMachine .shortForm).Reachable s ∧ s.accepted = 3 ∧
      s.obj.keyUpdateInfo.totalSizeOfWriteData.toNat ≠ min (2 ^ 64 - 1) s.accepted := by
  have hnew : (sessionMachine .shortForm).Reachable autoSession :=
    .initial (newSession_autoSession .shortForm)
  have hrun := (hnew.step (.write (threeBytes 110))).step (refusedUpdate 120)
  exact ⟨_, hrun, rfl, by decide⟩

end Scf
