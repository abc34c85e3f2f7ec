import ScfSecurity.KeyUpdate.Traffic

/-!
# The arithmetic of the traffic limit

`CheckNeedKeyUpdate` compares the bytes sent so far, a 64-bit number, and those of the new
write, a 32-bit number, with a 64-bit limit. The sum may not fit, so the comparison subtracts
from the limit, and the counter stops at the largest number. Here each addition and subtraction
that is carried out is recorded, and none of them wraps.

## Main definitions

- `WordOp`: an addition or a subtraction of 64-bit numbers
- `checkNeedKeyUpdateTrace`: `CheckNeedKeyUpdate` with the reason for the update and the
  operations carried out

## Main results

- `checkNeedKeyUpdate_eq_trace`: the record does not change the function
- `checkNeedKeyUpdate_threshold`: the limit in terms of natural numbers
-/

namespace Scf

/-- An operation on `uint64_t`. -/
inductive WordOp where
  | add (a b : UInt64)
  | sub (a b : UInt64)

/-- The result of the operation is that of the natural numbers. -/
def WordOp.Exact : WordOp → Prop
  | add a b => a.toNat + b.toNat < 2 ^ 64
  | sub a b => b.toNat ≤ a.toNat

/-- Why an update is due. -/
inductive UpdateReason where
  | traffic
  | time
deriving DecidableEq

/-- What a check returns, why, and the operations it carries out. -/
structure CheckTrace where
  ret : Errno
  reason : Option UpdateReason
  obj : SCFPolicyObj
  ops : List WordOp

/-- `CheckTimeInterval`, with the subtraction it carries out. -/
def checkTimeIntervalOps (env : KeyUpdateEnv) (obj : SCFPolicyObj) : List WordOp :=
  let curTime := if env.clockOk then env.now else 0
  if curTime < obj.keyUpdateInfo.lastKeyUpdateTime then []
  else [.sub curTime obj.keyUpdateInfo.lastKeyUpdateTime]

/-- `CheckNeedKeyUpdate` on a TLS 1.3 connection, step by step. -/
def checkNeedKeyUpdateTrace (env : KeyUpdateEnv) (ctx : SCFPolicyCtx) (processDataLen : UInt32)
    (obj : SCFPolicyObj) : CheckTrace :=
  let len := processDataLen.toUInt64
  -- the second half of the condition is evaluated only if the first is false
  let compared := if len ≥ ctx.keyUpdateTraffic then [] else [WordOp.sub ctx.keyUpdateTraffic len]
  if len ≥ ctx.keyUpdateTraffic || obj.total ≥ ctx.keyUpdateTraffic - len then
    let room := 0xffffffffffffffff - obj.total
    { ret := .success
      reason := some .traffic
      obj := obj.setTotal (obj.total + min room len)
      ops := compared ++ [.sub 0xffffffffffffffff obj.total, .add obj.total (min room len)] }
  else
    let counted := obj.setTotal (obj.total + len)
    let ops := compared ++ [.add obj.total len]
    if counted.total ≥ ctx.keyUpdateTraffic then
      { ret := .success, reason := some .traffic, obj := counted, ops }
    else
      let (ret, isTimeToKeyUpdate) := checkTimeInterval env ctx counted
      { ret
        reason := if isTimeToKeyUpdate then some .time else none
        obj := counted
        ops := ops ++ checkTimeIntervalOps env counted }

/-- The record does not change the function: an update is due if there is a reason. -/
theorem checkNeedKeyUpdate_eq_trace {obj : SCFPolicyObj}
    (htls : adaptorGetVersion obj = some tls13VersionStr) (env : KeyUpdateEnv)
    (ctx : SCFPolicyCtx) (processDataLen : UInt32) :
    checkNeedKeyUpdate env ctx processDataLen obj =
      let trace := checkNeedKeyUpdateTrace env ctx processDataLen obj
      (trace.ret, trace.reason.isSome, trace.obj) := by
  unfold checkNeedKeyUpdate checkNeedKeyUpdateTrace
  rw [if_neg (not_not_intro htls)]
  by_cases hreached : trafficReached ctx processDataLen obj.total = true
  · have hcond := hreached
    unfold trafficReached at hcond
    dsimp only
    rw [if_pos hreached, if_pos hcond]
    rfl
  · have hcond := hreached
    unfold trafficReached at hcond
    dsimp only
    rw [if_neg hreached, if_neg hcond]
    by_cases htotal :
        (obj.setTotal (obj.total + processDataLen.toUInt64)).total ≥ ctx.keyUpdateTraffic
    · rw [if_pos htotal, if_pos htotal]
      rfl
    · rw [if_neg htotal, if_neg htotal]
      dsimp only
      cases (checkTimeInterval env ctx
        (obj.setTotal (obj.total + processDataLen.toUInt64))).2 with
      | false => rfl
      | true => rfl

/-- The subtraction of the time check comes after the comparison. -/
theorem checkTimeIntervalOps_exact (env : KeyUpdateEnv) (obj : SCFPolicyObj) :
    ∀ op ∈ checkTimeIntervalOps env obj, op.Exact := by
  unfold checkTimeIntervalOps
  dsimp only
  generalize (if env.clockOk then env.now else 0) = curTime
  split_ifs with hlt
  · exact List.forall_mem_nil _
  · rw [List.forall_mem_singleton]
    rw [UInt64.lt_iff_toNat_lt] at hlt
    show _ ≤ _
    omega

/-- The trace, with the limit in terms of natural numbers. -/
structure CheckTrace.Meets (trace : CheckTrace) (traffic total len : ℕ) : Prop where
  reason : trace.reason = some .traffic ↔ traffic ≤ total + len
  counter : trace.obj.total.toNat = min (total + len) (2 ^ 64 - 1)
  exact : ∀ op ∈ trace.ops, op.Exact

/-- The subtraction in the comparison is carried out only if the new data is below the limit. -/
theorem comparedOps_exact {traffic len : UInt64} :
    ∀ op ∈ (if len ≥ traffic then [] else [WordOp.sub traffic len]), op.Exact := by
  split_ifs with hle
  · exact List.forall_mem_nil _
  · rw [List.forall_mem_singleton]
    rw [ge_iff_le, UInt64.le_iff_toNat_le] at hle
    show _ ≤ _
    omega

theorem checkNeedKeyUpdateTrace_meets (env : KeyUpdateEnv) (ctx : SCFPolicyCtx)
    (processDataLen : UInt32) (obj : SCFPolicyObj) :
    (checkNeedKeyUpdateTrace env ctx processDataLen obj).Meets ctx.keyUpdateTraffic.toNat
      obj.total.toNat processDataLen.toNat := by
  have hmax := ctx.keyUpdateTraffic.toNat_lt
  have htotal := obj.total.toNat_lt
  have hsat := satAdd_toNat obj.total processDataLen
  have hlen : processDataLen.toUInt64.toNat = processDataLen.toNat := UInt32.toNat_toUInt64 _
  unfold checkNeedKeyUpdateTrace
  dsimp only
  by_cases hreached : trafficReached ctx processDataLen obj.total = true
  · have hcond := hreached
    unfold trafficReached at hcond
    have hge : ctx.keyUpdateTraffic.toNat ≤ obj.total.toNat + processDataLen.toNat := by
      by_contra hlt
      rw [trafficReached_eq_false_iff.mpr (by omega)] at hreached
      cases hreached
    rw [if_pos hcond]
    refine ⟨iff_of_true rfl hge, ?_, ?_⟩
    · rw [min_comm]
      exact hsat
    · rw [List.forall_mem_append]
      refine ⟨comparedOps_exact, ?_⟩
      rw [List.forall_mem_cons, List.forall_mem_singleton]
      constructor
      · show obj.total.toNat ≤ 2 ^ 64 - 1
        omega
      · show obj.total.toNat + _ < 2 ^ 64
        rw [toNat_min_room]
        omega
  · have hcond := hreached
    unfold trafficReached at hcond
    have hlt := trafficReached_eq_false_iff.mp (Bool.not_eq_true _ ▸ hreached)
    have hsum : (obj.total + processDataLen.toUInt64).toNat =
        obj.total.toNat + processDataLen.toNat := by
      rw [UInt64.toNat_add, hlen]
      exact Nat.mod_eq_of_lt (by omega)
    -- the second comparison of the source is never true
    have hbelow : ¬ (obj.setTotal (obj.total + processDataLen.toUInt64)).total ≥
        ctx.keyUpdateTraffic := by
      rw [setTotal_total, ge_iff_le, UInt64.le_iff_toNat_le, hsum]
      omega
    rw [if_neg hcond, if_neg hbelow]
    refine ⟨iff_of_false ?_ (by omega), ?_, ?_⟩
    · dsimp only
      split_ifs
      · exact fun h => absurd h (by decide)
      · exact fun h => absurd h (by decide)
    · dsimp only
      rw [setTotal_total, hsum]
      omega
    · dsimp only
      rw [List.forall_mem_append, List.forall_mem_append, List.forall_mem_singleton]
      refine ⟨⟨comparedOps_exact, ?_⟩, checkTimeIntervalOps_exact _ _⟩
      show obj.total.toNat + _ < 2 ^ 64
      rw [hlen]
      omega

/-- On a TLS 1.3 connection `CheckNeedKeyUpdate` asks for an update because of the traffic
exactly if the bytes counted and the new ones reach the limit, as natural numbers; it counts
them up to the largest number, and no operation on the way wraps. The remaining traffic that
`SCF_GetKeyUpdateInfo` reports is the length of the smallest write that reaches the limit. -/
theorem checkNeedKeyUpdate_threshold {obj : SCFPolicyObj}
    (htls : adaptorGetVersion obj = some tls13VersionStr) (env : KeyUpdateEnv)
    (ctx : SCFPolicyCtx) (processDataLen : UInt32) {g : Globals} (hg : g.scfInitialized = true) :
    let trace := checkNeedKeyUpdateTrace env ctx processDataLen obj
    checkNeedKeyUpdate env ctx processDataLen obj =
      (trace.ret, trace.reason.isSome, trace.obj) ∧
    (trace.reason = some .traffic ↔
      ctx.keyUpdateTraffic.toNat ≤
        obj.keyUpdateInfo.totalSizeOfWriteData.toNat + processDataLen.toNat) ∧
    trace.obj.keyUpdateInfo.totalSizeOfWriteData.toNat =
      min (obj.keyUpdateInfo.totalSizeOfWriteData.toNat + processDataLen.toNat) (2 ^ 64 - 1) ∧
    (∀ op ∈ trace.ops, op.Exact) ∧
    ∃ lastKeyUpdateTime timeInterval remainTraffic,
      scfGetKeyUpdateInfo g .valid .valid ctx obj =
        (.success, some (lastKeyUpdateTime, timeInterval, remainTraffic)) ∧
      (trace.reason = some .traffic ↔ remainTraffic.toNat ≤ processDataLen.toNat) := by
  intro trace
  have hmeets : trace.Meets _ _ _ := checkNeedKeyUpdateTrace_meets env ctx processDataLen obj
  refine ⟨checkNeedKeyUpdate_eq_trace htls env ctx processDataLen, hmeets.reason, hmeets.counter,
    hmeets.exact, _, _, _, by simp only [scfGetKeyUpdateInfo, hg]; rfl, ?_⟩
  rw [hmeets.reason]
  split_ifs with hgt
  · have hle : obj.total ≤ ctx.keyUpdateTraffic := UInt64.le_of_lt hgt
    rw [gt_iff_lt, UInt64.lt_iff_toNat_lt] at hgt
    rw [UInt64.toNat_sub_of_le _ _ hle]
    omega
  · rw [gt_iff_lt, UInt64.lt_iff_toNat_lt] at hgt
    exact iff_of_true (by omega) (Nat.zero_le _)

/-- The largest counter and the largest limit. -/
def fullObj : SCFPolicyObj := autoObj.setTotal 0xffffffffffffffff

theorem checkNeedKeyUpdate_threshold_full :
    adaptorGetVersion fullObj = some tls13VersionStr ∧
      Globals.ready.scfInitialized = true ∧
      (checkNeedKeyUpdateTrace ⟨100, true, true, true⟩
        { autoCtx with keyUpdateTraffic := 0xffffffffffffffff } 1
        fullObj).obj.keyUpdateInfo.totalSizeOfWriteData.toNat = 2 ^ 64 - 1 := by
  have htls : adaptorGetVersion fullObj = some tls13VersionStr := rfl
  have hg : Globals.ready.scfInitialized = true := rfl
  exact ⟨htls, hg, (checkNeedKeyUpdate_threshold htls ⟨100, true, true, true⟩
    { autoCtx with keyUpdateTraffic := 0xffffffffffffffff } 1 hg).2.2.1⟩

end Scf
