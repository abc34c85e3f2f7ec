import ScfSecurity.KeyUpdate.Traffic

/-!
# The time stamp

The time stamp of a session is meant to hold the second of the last key update, or of the
creation of the object. The adaptor sets it to zero after every update, and
`SCF_ObjKeyUpdate` sets it to the present second before it knows whether the key will
change. So it is right only as long as no update takes place after second zero; after an
update every write finds the time limit reached.

## Main definitions

- `ClockSafe`: the calls that leave a right time stamp

## Main results

- `timestamp_exact`: time stamp and time-triggered updates in sessions whose calls are all
  of that kind
-/

namespace Scf

open Automaton

/-- The clock does not go back, an update that takes place does so in second zero, and a
requested update that OpenSSL refuses comes in the second the time stamp already shows. -/
def ClockSafe (s : Session) (call : SessionCall) : Prop :=
  s.now ≤ call.now ∧
    match call with
    | .write call =>
      ∀ bytes, call.accepted s.obj = some bytes →
        updateDue call.env.toKeyUpdateEnv s.ctx bytes.length.toUInt32 s.obj = true →
        call.env.grants = true → call.env.now = 0
    | .objKeyUpdate g objPtr env =>
      reachesTls g objPtr env = true →
        env.now = if env.grants then 0 else s.obj.keyUpdateInfo.lastKeyUpdateTime

/-- The time stamp shows the last event. -/
def TimestampExact (s : Session) : Prop := s.obj.keyUpdateInfo.lastKeyUpdateTime = s.lastEvent

theorem NewSession.timestampExact {lib : LibCrypto} {s : Session} (h : NewSession lib s) :
    TimestampExact s := by
  obtain ⟨g, ctxPtr, allocOk, ctx, obj, -, -, hobj, hinfo⟩ := h.created
  obtain ⟨now, hnow, hnew, -⟩ := scfCreatePolicyObj_some hobj
  rw [TimestampExact, h.lastEvent, hinfo, hnew, Option.some.inj hnow]
  rfl

theorem lastKeyUpdateTime_count_take (bytes : List UInt8) (writeLen : UInt32)
    (obj : SCFPolicyObj) :
    ((obj.take bytes).count writeLen).keyUpdateInfo.lastKeyUpdateTime =
      obj.keyUpdateInfo.lastKeyUpdateTime := by
  rw [SCFPolicyObj.count, SCFPolicyObj.setTotal, setInfo_keyUpdateInfo]
  rfl

theorem SessionStep.timestampExact {s s' : Session} {call : SessionCall} {ret : Errno}
    (hstep : SessionStep s call ret s') (hok : ClockSafe s call) (h : TimestampExact s) :
    TimestampExact s' := by
  unfold TimestampExact at h ⊢
  cases hstep with
  | rejected hret hsame =>
    dsimp only
    rw [hsame.info]
    exact h
  | counted haccepted hret =>
    dsimp only
    rw [lastKeyUpdateTime_count_take]
    exact h
  | writeUpdated haccepted hdue henv => exact (hok.2 _ haccepted hdue henv).symm
  | refused hreach henv =>
    -- the time stamp is renewed although the key stays
    have hnow := hok.2 hreach
    rw [henv] at hnow
    exact hnow.trans h
  | updated hreach henv =>
    have hnow := hok.2 hreach
    rw [henv] at hnow
    exact hnow.symm

/-- The second that `CheckTimeInterval` takes for the present one. -/
def KeyUpdateEnv.curTime (env : KeyUpdateEnv) : UInt64 := if env.clockOk then env.now else 0

theorem KeyUpdateEnv.curTime_le (env : KeyUpdateEnv) : env.curTime.toNat ≤ env.now.toNat := by
  unfold KeyUpdateEnv.curTime
  by_cases hclock : env.clockOk = true
  · rw [if_pos hclock]
  · rw [if_neg hclock]
    exact Nat.zero_le _

theorem checkTimeInterval_eq (env : KeyUpdateEnv) (ctx : SCFPolicyCtx) (obj : SCFPolicyObj) :
    checkTimeInterval env ctx obj =
      if env.curTime < obj.keyUpdateInfo.lastKeyUpdateTime then (.systemTimeError, false)
      else
        (.success,
          env.curTime - obj.keyUpdateInfo.lastKeyUpdateTime ≥ ctx.keyUpdateTime.toUInt64) := rfl

/-- `CheckTimeInterval` finds the time limit reached only if it is, counted from the time
stamp; a clock that cannot be read counts as second zero and never reaches a limit. -/
theorem checkTimeInterval_due {env : KeyUpdateEnv} {ctx : SCFPolicyCtx} {obj : SCFPolicyObj}
    (hparams : ValidUpdateParams ctx) (h : checkTimeInterval env ctx obj = (.success, true)) :
    obj.keyUpdateInfo.lastKeyUpdateTime.toNat + ctx.keyUpdateTime.toNat ≤ env.now.toNat := by
  have hmin : 1 ≤ ctx.keyUpdateTime.toNat := UInt32.le_iff_toNat_le.mp hparams.minTime
  rw [checkTimeInterval_eq] at h
  by_cases hlt : env.curTime < obj.keyUpdateInfo.lastKeyUpdateTime
  · rw [if_pos hlt] at h
    simp at h
  · rw [if_neg hlt, Prod.mk.injEq, decide_eq_true_eq, ge_iff_le] at h
    rw [UInt64.not_lt] at hlt
    have hpassed := UInt64.le_iff_toNat_le.mp h.2
    rw [UInt64.toNat_sub_of_le _ _ hlt, UInt32.toNat_toUInt64] at hpassed
    -- the limit is at least one second, so the time stamp is not in the future
    have hcur := env.curTime_le
    omega

/-- A write that changes the key although the traffic limit is not reached found the time
limit reached. -/
theorem SessionStep.time_triggered {s s' : Session} {call : WriteCall} {ret : Errno}
    {bytes : List UInt8} (hstep : SessionStep s (.write call) ret s') (htracked : Tracked s)
    (haccepted : call.accepted s.obj = some bytes)
    (htraffic : trafficReached s.ctx bytes.length.toUInt32 s.obj.total = false)
    (hkey : s.obj.keyChanges < s'.obj.keyChanges) :
    s.obj.keyUpdateInfo.lastKeyUpdateTime.toNat + s.ctx.keyUpdateTime.toNat ≤
      call.env.now.toNat := by
  cases hstep with
  | rejected hret hsame => exact absurd hkey (by rw [hsame.keyChanges]; exact Nat.lt_irrefl _)
  | @counted _ bytes' _ _ _ =>
    have hsame : ((s.obj.take bytes').count bytes'.length.toUInt32).keyChanges =
        s.obj.keyChanges := by
      rw [SCFPolicyObj.keyChanges, SCFPolicyObj.count, setTotal_sslCtx, SCFPolicyObj.take,
        Option.map_map]
      rfl
    dsimp only at hkey
    rw [hsame] at hkey
    exact absurd hkey (Nat.lt_irrefl _)
  | writeUpdated haccepted' hdue henv =>
    obtain rfl := Option.some.inj (haccepted.symm.trans haccepted')
    rw [updateDue, htraffic, Bool.false_or, decide_eq_true_eq] at hdue
    exact checkTimeInterval_due htracked.params hdue

theorem scfGetKeyUpdateInfo_fst {g : Globals} {objPtr outPtr : Ptr} {ctx : SCFPolicyCtx}
    {obj : SCFPolicyObj} {info : UInt64 × UInt32 × UInt64}
    (h : scfGetKeyUpdateInfo g objPtr outPtr ctx obj = (.success, some info)) :
    info.1 = obj.keyUpdateInfo.lastKeyUpdateTime := by
  unfold scfGetKeyUpdateInfo at h
  by_cases hptr : objPtr = .null
  · rw [if_pos hptr] at h
    cases h
  by_cases hout : outPtr = .null
  · rw [if_neg hptr, if_pos hout] at h
    cases h
  by_cases hinit : (!g.scfInitialized) = true
  · rw [if_neg hptr, if_neg hout, if_pos hinit] at h
    cases h
  · rw [if_neg hptr, if_neg hout, if_neg hinit] at h
    cases h
    rfl

/-- In every run with a clock that does not go back, in which updates take place in second
zero only and no refused request comes in another second than the time stamp shows:
`SCF_GetKeyUpdateInfo` reports the second of the last event, and a write changes the key
because of the time only if the time limit has passed since that event. -/
theorem timestamp_exact {lib : LibCrypto} {s : Session}
    (h : (sessionMachine lib).ReachableBy ClockSafe s) :
    (∀ g objPtr outPtr info,
        scfGetKeyUpdateInfo g objPtr outPtr s.ctx s.obj = (.success, some info) →
          info.1 = s.lastEvent) ∧
      ∀ (call : WriteCall) (bytes : List UInt8), call.accepted s.obj = some bytes →
        trafficReached s.ctx bytes.length.toUInt32 s.obj.total = false →
        s.obj.keyChanges < ((sessionMachine lib).step s (.write call)).2.obj.keyChanges →
          s.lastEvent.toNat + s.ctx.keyUpdateTime.toNat ≤ call.env.now.toNat := by
  obtain ⟨htracked, hexact⟩ : Tracked s ∧ TimestampExact s :=
    sessionMachine_invariant (fun _ hnew => hnew.timestampExact)
      (fun _ _ _ _ hok hstep _ hs => hstep.timestampExact hok hs) h
  constructor
  · intro g objPtr outPtr info hinfo
    rw [scfGetKeyUpdateInfo_fst hinfo]
    exact hexact
  · intro call bytes haccepted htraffic hkey
    have hstep := sessionMachine_step lib htracked (.write call)
    rw [← hexact]
    exact hstep.time_triggered htracked haccepted htraffic hkey

/-- 400 seconds after the creation a write changes the key. -/
theorem timestamp_exact_threeBytes :
    ∃ s, (sessionMachine .shortForm).ReachableBy ClockSafe s ∧ s.lastEvent = 100 ∧
      s.obj.keyChanges <
        ((sessionMachine .shortForm).step s (.write (threeBytes 500))).2.obj.keyChanges ∧
      s.lastEvent.toNat + s.ctx.keyUpdateTime.toNat ≤ (threeBytes 500).env.now.toNat := by
  have hnew : (sessionMachine .shortForm).ReachableBy ClockSafe autoSession :=
    .initial (newSession_autoSession .shortForm)
  have hrun := hnew.step (.write (threeBytes 110)) (by
    refine ⟨by decide, ?_⟩
    rintro bytes hbytes hdue -
    obtain rfl := Option.some.inj hbytes
    exact absurd hdue (by decide))
  exact ⟨_, hrun, rfl, by decide,
    (timestamp_exact hrun).2 (threeBytes 500) [1, 2, 3] rfl (by decide) (by decide)⟩

/-- After an update in second 500 the time stamp is zero, and a write in second 501 changes
the key again because of the time. -/
theorem timestamp_lost :
    ∃ s, (sessionMachine .shortForm).ReachableBy (fun s call => s.now ≤ call.now) s ∧
      s.lastEvent = 500 ∧ s.ctx.keyUpdateTime = 300 ∧
      scfGetKeyUpdateInfo .ready .valid .valid s.ctx s.obj = (.success, some (0, 300, 1000)) ∧
      trafficReached s.ctx 3 s.obj.total = false ∧
      ((sessionMachine .shortForm).step s (.write (threeBytes 501))).1 = (.success, some 3) ∧
      s.obj.keyChanges <
        ((sessionMachine .shortForm).step s (.write (threeBytes 501))).2.obj.keyChanges := by
  have hnew : (sessionMachine .shortForm).ReachableBy (fun s call => s.now ≤ call.now)
    autoSession := .initial (newSession_autoSession .shortForm)
  have hrun := hnew.step (.write (threeBytes 500)) (by decide)
  exact ⟨_, hrun, rfl, rfl, by decide, by decide, by decide, by decide⟩

end Scf
