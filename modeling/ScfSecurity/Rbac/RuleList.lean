import ScfSecurity.Library.OrderedMap
import ScfSecurity.Rbac.RuleNumber

/-!
# Listing the rules

The order in which rules were added is stored nowhere. `SCF_ListPolicyRules` goes through a map
in the order of the rule numbers, and these count up, so it finds the rules in that order
nevertheless: the map stands for a list to which rules are appended and from which they are
taken out.

## Main definitions

- `scfListPolicyRulesOut`: `SCF_ListPolicyRules` with the caller's counter and array
- `surviving`: the list of rules that calls and answers describe

## Main results

- `ruleList_step`: the map follows the list in one call
- `ruleList_after`: and in a run
- `scfListPolicyRules_lists`: what the caller gets
-/

namespace Scf

open Automaton

/-- The variables of the caller: the counter and the memory that the array is in. -/
structure ListOutput where
  actualCount : UInt32
  rules : ℕ → SCFPolicyRule

/-- The loop of `SCF_ListPolicyRules` on the caller's variables. -/
def listPolicyRulesOutLoop (ruleCap : UInt32) (allocOk : ℕ → Bool) :
    List SCFPolicyRule → ListOutput → Errno × ListOutput
  | [], out => (.success, out)
  | rule :: rest, out =>
    if out.actualCount = ruleCap then (.success, out)
    else if !allocOk out.actualCount.toNat then (.memAlloc, out)
    else
      listPolicyRulesOutLoop ruleCap allocOk rest
        { actualCount := out.actualCount + 1
          rules := Function.update out.rules out.actualCount.toNat rule }

/-- `SCF_ListPolicyRules` as the caller sees it: the code, and the variables afterwards. -/
def scfListPolicyRulesOut (g : Globals) (ctxPtr rules : Ptr) (ruleCap : UInt32)
    (actualCount : Ptr) (allocOk : ℕ → Bool) (out : ListOutput) :
    Resumption SCFPolicyCtx (Errno × ListOutput) :=
  if ctxPtr = .null ∨ rules = .null ∨ actualCount = .null then .done (.nullInput, out)
  else if ruleCap = 0 then .done (.invalidParam, out)
  else if !g.scfInitialized then .done (.notInit, out)
  else
    .load fun ctx =>
      listPolicyRulesOutLoop ruleCap allocOk (ruleList ctx.policyRuleMap)
        { out with actualCount := 0 }

/-- The rules that were written. -/
def ListOutput.written (out : ListOutput) : List SCFPolicyRule :=
  (List.range out.actualCount.toNat).map out.rules

/-- The rules after a call, as a list in the order of addition. A rule has the number that its
addition returned. -/
def surviving (rules : List SCFPolicyRule) : RbacCall → RbacAnswer → List SCFPolicyRule
  | .addPolicyRule _ (some subject) (some target) resourceTypeBitmap actionBitmap effect _ _ _,
      .ruleId .success (some ruleId) =>
    rules ++ [⟨ruleId, subject.bytes, target.bytes, resourceTypeBitmap, actionBitmap, effect⟩]
  | .removePolicyRule _ ruleId, .code .success => rules.filter fun rule => rule.ruleId ≠ ruleId
  | _, _ => rules

/-- A context with the list of its rules beside it. -/
def ruleListMachine (lib : LibCrypto) :
    Machine (SCFPolicyCtx × List SCFPolicyRule) (Globals × RbacCall) RbacAnswer where
  initial s := s = (newPolicyCtx, [])
  step s call :=
    let (answer, ctx) := (rbacMachine lib).step s.1 call
    (answer, ctx, surviving s.2 call.2 answer)

/-- The counter is `count`, the array has the first `count` rules of the list, and the memory
behind them is as it was. -/
structure Lists (list : List SCFPolicyRule) (count : ℕ) (out out' : ListOutput) : Prop where
  actualCount : out'.actualCount.toNat = count
  rules : ∀ i < count, list[i]? = some (out'.rules i)
  untouched : ∀ i, count ≤ i → out'.rules i = out.rules i

/-! ### The map and the list -/

/-- A new rule comes last, since its number is above all others. -/
theorem ruleList_addRule {ctx : SCFPolicyCtx} (h : RuleStoreInvariant ctx)
    (hne : ctx.nextPolicyRuleId ≠ 0) (rule : SCFPolicyRule) :
    ruleList (ctx.policyRuleMap.insert ctx.nextPolicyRuleId rule) =
      ruleList ctx.policyRuleMap ++ [rule] := by
  have hlast := OrderedMap.toList_insert_of_lt rule fun id rule' hrule' =>
    Std.compare_eq_lt.mpr (h.below hne id rule' hrule')
  rw [ruleList, hlast, List.map_append]
  rfl

/-- A removed rule leaves the others in their order. -/
theorem ruleList_removeRule {ctx : SCFPolicyCtx} (h : RuleStoreInvariant ctx) (ruleId : UInt32) :
    ruleList (ctx.policyRuleMap.erase ruleId) =
      (ruleList ctx.policyRuleMap).filter fun rule => rule.ruleId ≠ ruleId := by
  rw [ruleList, ruleList, OrderedMap.toList_erase, List.filter_map]
  refine congrArg _ (List.filter_congr fun entry hentry => ?_)
  -- a rule is stored under its own number
  have hnumber := (h.number entry.1 entry.2
    (Std.TreeMap.mem_toList_iff_getElem?_eq_some.mp hentry)).1
  rw [Function.comp_apply, hnumber]

theorem scfAddPolicyRule_surviving {ctx : SCFPolicyCtx} (h : RuleStoreInvariant ctx) (g : Globals)
    (ctxPtr : Ptr) (subject target : Option CString) (resourceTypeBitmap actionBitmap : UInt32)
    (effect : SCFPolicyEffect) (ruleId : Ptr) (copyOk allocOk : Bool) :
    let out := (scfAddPolicyRule g ctxPtr subject target resourceTypeBitmap actionBitmap effect
      ruleId copyOk allocOk).run ctx
    ruleList out.2.policyRuleMap = surviving (ruleList ctx.policyRuleMap)
      (.addPolicyRule ctxPtr subject target resourceTypeBitmap actionBitmap effect ruleId copyOk
        allocOk) (.ruleId out.1.1 out.1.2) := by
  have hnone : ∀ ret, surviving (ruleList ctx.policyRuleMap) (.addPolicyRule ctxPtr subject target
      resourceTypeBitmap actionBitmap effect ruleId copyOk allocOk) (.ruleId ret none) =
        ruleList ctx.policyRuleMap := by
    intro ret
    simp only [surviving]
  unfold scfAddPolicyRule
  split
  case h_2 => exact (hnone _).symm
  case h_1 subject target =>
    split_ifs
    · exact (hnone _).symm
    · exact (hnone _).symm
    · exact (hnone _).symm
    · rw [Resumption.run_critical]
      dsimp only
      obtain ⟨hret, hctx⟩ | ⟨_, _, hne, hadd⟩ := insertPolicyRule_cases
        ⟨0, subject.bytes, target.bytes, resourceTypeBitmap, actionBitmap, effect⟩ allocOk ctx
      · rw [if_pos hret, hctx]
        exact (hnone _).symm
      · rw [hadd]
        exact ruleList_addRule h hne _

theorem scfRemovePolicyRule_surviving {ctx : SCFPolicyCtx} (h : RuleStoreInvariant ctx)
    (g : Globals) (ctxPtr : Ptr) (ruleId : UInt32) :
    let out := (scfRemovePolicyRule g ctxPtr ruleId).run ctx
    ruleList out.2.policyRuleMap =
      surviving (ruleList ctx.policyRuleMap) (.removePolicyRule ctxPtr ruleId) (.code out.1) := by
  unfold scfRemovePolicyRule
  split_ifs
  · rfl
  · rfl
  · rfl
  · rw [Resumption.run_critical, removePolicyRuleLocked]
    split_ifs
    · rfl
    · exact ruleList_removeRule h ruleId

/-- No other call concerns the rules. -/
theorem surviving_of_isRead (rules : List SCFPolicyRule) {call : RbacCall} (h : call.IsRead)
    (answer : RbacAnswer) : surviving rules call answer = rules := by
  cases call with
  | addPolicyRule | removePolicyRule => exact h.elim
  | _ => rfl

/-- **Step lemma**: a call does to the map what it does to the list. -/
theorem ruleList_step (lib : LibCrypto) {ctx : SCFPolicyCtx} (h : RuleStoreInvariant ctx)
    (call : Globals × RbacCall) :
    ruleList ((rbacMachine lib).step ctx call).2.policyRuleMap =
      surviving (ruleList ctx.policyRuleMap) call.2 ((rbacMachine lib).step ctx call).1 := by
  obtain ⟨g, call⟩ := call
  show ruleList ((call.body lib g).run ctx).2.policyRuleMap = _
  by_cases hread : call.IsRead
  · rw [RbacCall.run_of_isRead lib g hread, surviving_of_isRead _ hread]
  cases call with
  | setNodeRoleMapping ctxPtr nodeId role allocOk =>
    simp only [RbacCall.body, Resumption.run_monad_bind, Resumption.run_pure]
    obtain hkeep | ⟨id, _, hrun⟩ := scfSetNodeRoleMapping_run g ctxPtr nodeId role allocOk
    · rw [hkeep]
      rfl
    · rw [hrun]
      obtain ⟨_, hctx⟩ | hset := setMappingLocked_cases id role allocOk ctx
      · rw [hctx]
        rfl
      · rw [hset]
        rfl
  | removeNodeRoleMapping ctxPtr nodeId =>
    simp only [RbacCall.body, Resumption.run_monad_bind, Resumption.run_pure]
    obtain hkeep | ⟨id, _, hrun⟩ := scfRemoveNodeRoleMapping_run g ctxPtr nodeId
    · rw [hkeep]
      rfl
    · rw [hrun]
      obtain ⟨_, hctx⟩ | hset := removeMappingLocked_cases id ctx
      · rw [hctx]
        rfl
      · rw [hset]
        rfl
  | addPolicyRule ctxPtr subject target resource action effect ruleId copyOk allocOk =>
    simp only [rbacMachine, RbacCall.body, Resumption.run_monad_bind, Resumption.run_pure]
    exact scfAddPolicyRule_surviving h g ctxPtr subject target resource action effect ruleId copyOk
      allocOk
  | removePolicyRule ctxPtr ruleId =>
    simp only [rbacMachine, RbacCall.body, Resumption.run_monad_bind, Resumption.run_pure]
    exact scfRemovePolicyRule_surviving h g ctxPtr ruleId
  | enableRbac ctxPtr enable =>
    simp only [RbacCall.body, Resumption.run_monad_bind, Resumption.run_pure, scfEnableRbac]
    split_ifs <;> rfl
  | freeze ctxPtr =>
    simp only [RbacCall.body, Resumption.run_monad_bind, Resumption.run_pure,
      freezeNodeRoleMapping]
    split_ifs <;> rfl
  | _ => exact absurd trivial hread

/-- The map stands for the list, and its numbers are in order. -/
structure RuleListInvariant (s : SCFPolicyCtx × List SCFPolicyRule) : Prop where
  store : RuleStoreInvariant s.1
  list : ruleList s.1.policyRuleMap = s.2

theorem RuleListInvariant.step (lib : LibCrypto) (s : SCFPolicyCtx × List SCFPolicyRule)
    (call : Globals × RbacCall) (h : RuleListInvariant s) :
    RuleListInvariant ((ruleListMachine lib).step s call).2 := by
  refine ⟨?_, ?_⟩
  · exact (RbacCall.guarantees lib call.1 call.2).invariant (I := RuleStoreInvariant)
      (fun _ _ hstep hctx => hstep.ruleStoreInvariant hctx) h.store
  · exact (ruleList_step lib h.store call).trans (by rw [h.list]; rfl)

/-- **Run lemma**: after any number of calls on a new context the map stands for the list. -/
theorem ruleList_after (lib : LibCrypto) (calls : List (Globals × RbacCall)) :
    RuleListInvariant ((ruleListMachine lib).after (newPolicyCtx, []) calls) := by
  have hreach : (ruleListMachine lib).Reachable ((ruleListMachine lib).after (newPolicyCtx, [])
      calls) := (Machine.Reachable.initial rfl).after calls
  refine hreach.invariant ?_ (RuleListInvariant.step lib)
  rintro _ rfl
  exact ⟨newPolicyCtx_ruleStoreInvariant, rfl⟩

/-! ### The loop -/

/-- The list has a rule at each place that is to be written. -/
theorem Lists.next {list : List SCFPolicyRule} {count : ℕ} {out out' : ListOutput}
    (h : Lists list count out out') {rule : SCFPolicyRule} (hrule : list[count]? = some rule)
    (hcount : count + 1 < 2 ^ 32) :
    Lists list (count + 1) out
      { actualCount := out'.actualCount + 1
        rules := Function.update out'.rules out'.actualCount.toNat rule } where
  actualCount := by
    have hone : (1 : UInt32).toNat = 1 := rfl
    rw [UInt32.toNat_add, h.actualCount, hone]
    exact Nat.mod_eq_of_lt hcount
  rules := by
    intro i hi
    dsimp only
    rw [h.actualCount]
    by_cases hlast : i = count
    · subst hlast
      rw [Function.update_self, hrule]
    · rw [Function.update_of_ne hlast]
      exact h.rules i (by omega)
  untouched := by
    intro i hi
    dsimp only
    rw [h.actualCount, Function.update_of_ne (by omega)]
    exact h.untouched i (by omega)

/-- The loop, from the state in which `count` rules are written. It stops at `stop`, where the
array or the list ends or the memory for a copy is missing. -/
theorem listPolicyRulesOutLoop_lists (ruleCap : UInt32) (allocOk : ℕ → Bool)
    (list : List SCFPolicyRule) (out : ListOutput) {stop : ℕ}
    (hstop : stop ≤ min ruleCap.toNat list.length) (halloc : ∀ i < stop, allocOk i = true)
    {ret : Errno}
    (hret : stop = min ruleCap.toNat list.length ∧ ret = .success ∨
      stop < min ruleCap.toNat list.length ∧ allocOk stop = false ∧ ret = .memAlloc) :
    ∀ {count : ℕ} {out' : ListOutput}, Lists list count out out' → count ≤ stop →
      (listPolicyRulesOutLoop ruleCap allocOk (list.drop count) out').1 = ret ∧
        Lists list stop out (listPolicyRulesOutLoop ruleCap allocOk (list.drop count) out').2 := by
  intro count out' h hle
  have hbound := ruleCap.toNat_lt
  -- the induction is on the number of rules still to be written
  induction hleft : stop - count generalizing count out' with
  | zero =>
    obtain rfl : count = stop := by omega
    cases hrest : list.drop count with
    | nil =>
      have hlen : list.length ≤ count := List.drop_eq_nil_iff.mp hrest
      rcases hret with ⟨-, rfl⟩ | ⟨hlt, -, -⟩
      · exact ⟨rfl, h⟩
      · omega
    | cons rule rest =>
      have hlen : count < list.length := by
        by_contra hge
        rw [List.drop_eq_nil_iff.mpr (by omega)] at hrest
        cases hrest
      unfold listPolicyRulesOutLoop
      rcases hret with ⟨heq, rfl⟩ | ⟨hlt, hfail, rfl⟩
      · have hcap : out'.actualCount = ruleCap := by
          apply UInt32.toNat_inj.mp
          rw [h.actualCount]
          omega
        rw [if_pos hcap]
        exact ⟨rfl, h⟩
      · have hcap : out'.actualCount ≠ ruleCap := by
          intro hcap
          have hcount := h.actualCount
          rw [hcap] at hcount
          omega
        rw [if_neg hcap, h.actualCount, hfail]
        exact ⟨rfl, h⟩
  | succ left ih =>
    have hlt : count < stop := by omega
    have hlen : count < list.length := by omega
    have hcap : out'.actualCount ≠ ruleCap := by
      intro hcap
      have hcount := h.actualCount
      rw [hcap] at hcount
      omega
    rw [List.drop_eq_getElem_cons hlen]
    unfold listPolicyRulesOutLoop
    rw [if_neg hcap, h.actualCount, halloc count hlt]
    have hnext := h.next (List.getElem?_eq_getElem hlen) (by omega)
    rw [h.actualCount] at hnext
    exact ih hnext (by omega) (by omega)

/-- What stands in the array is what the loop copies out. -/
theorem listPolicyRulesOutLoop_written (ruleCap : UInt32) (allocOk : ℕ → Bool)
    (rules : List SCFPolicyRule) :
    ∀ out : ListOutput, out.actualCount.toNat ≤ ruleCap.toNat →
      ((listPolicyRulesOutLoop ruleCap allocOk rules out).1,
        (listPolicyRulesOutLoop ruleCap allocOk rules out).2.written) =
          listPolicyRulesLoop ruleCap.toNat allocOk rules out.written := by
  induction rules with
  | nil => exact fun _ _ => rfl
  | cons rule rest ih =>
    intro out hle
    have hlen : out.written.length = out.actualCount.toNat := by simp [ListOutput.written]
    have hbound := ruleCap.toNat_lt
    unfold listPolicyRulesOutLoop listPolicyRulesLoop
    rw [hlen]
    by_cases hcap : out.actualCount = ruleCap
    · rw [if_pos hcap, if_pos (congrArg UInt32.toNat hcap)]
    · have hne : out.actualCount.toNat ≠ ruleCap.toNat := fun heq => hcap (UInt32.toNat_inj.mp heq)
      rw [if_neg hcap, if_neg hne]
      cases hok : allocOk out.actualCount.toNat with
      | false => rfl
      | true =>
        have hsucc : (out.actualCount + 1).toNat = out.actualCount.toNat + 1 := by
          have hone : (1 : UInt32).toNat = 1 := rfl
          rw [UInt32.toNat_add, hone]
          exact Nat.mod_eq_of_lt (by omega)
        have hwritten : ListOutput.written
            { actualCount := out.actualCount + 1
              rules := Function.update out.rules out.actualCount.toNat rule } =
              out.written ++ [rule] := by
          unfold ListOutput.written
          rw [hsucc, List.range_succ, List.map_append, List.map_singleton]
          dsimp only
          rw [Function.update_self]
          congr 1
          refine List.map_congr_left fun i hi => Function.update_of_ne ?_ _ _
          exact Nat.ne_of_lt (List.mem_range.mp hi)
        rw [← hwritten]
        exact ih _ (by dsimp only; omega)

/-- The loop from its beginning. -/
theorem scfListPolicyRulesOut_run {g : Globals} (hg : g.scfInitialized = true) {ruleCap : UInt32}
    (hcap : ruleCap ≠ 0) (allocOk : ℕ → Bool) (out : ListOutput) (ctx : SCFPolicyCtx) :
    (scfListPolicyRulesOut g .valid .valid ruleCap .valid allocOk out).run ctx =
      (listPolicyRulesOutLoop ruleCap allocOk (ruleList ctx.policyRuleMap)
        { out with actualCount := 0 }, ctx) := by
  simp [scfListPolicyRulesOut, hg, hcap]

/-- The caller's variables against the answer without them: the same code, and the rules of the
answer are those in the array. -/
theorem scfListPolicyRules_eq_out {g : Globals} (hg : g.scfInitialized = true) {ruleCap : UInt32}
    (hcap : ruleCap ≠ 0) (allocOk : ℕ → Bool) (out : ListOutput) (ctx : SCFPolicyCtx) :
    let result := (scfListPolicyRulesOut g .valid .valid ruleCap .valid allocOk out).run ctx
    ((scfListPolicyRules g .valid .valid ruleCap .valid allocOk).run ctx).1 =
      (result.1.1, some result.1.2.written) := by
  intro result
  have hresult : result.1 = listPolicyRulesOutLoop ruleCap allocOk (ruleList ctx.policyRuleMap)
      { out with actualCount := 0 } :=
    congrArg Prod.fst (scfListPolicyRulesOut_run hg hcap allocOk out ctx)
  have hwritten := listPolicyRulesOutLoop_written ruleCap allocOk (ruleList ctx.policyRuleMap)
    { out with actualCount := 0 } (Nat.zero_le _)
  have hempty : ListOutput.written { out with actualCount := 0 } = [] := rfl
  rw [hempty] at hwritten
  rw [hresult]
  simp [scfListPolicyRules, hg, hcap, ← hwritten]

/-- After any number of calls on a new context, `SCF_ListPolicyRules` gives the caller the first
rules of the list, as many as the array takes, and touches nothing behind them. Without the
memory for one of the copies it stops there, and the rules before it are in the array. -/
theorem scfListPolicyRules_lists (lib : LibCrypto) (calls : List (Globals × RbacCall))
    {g : Globals} (hg : g.scfInitialized = true) {ruleCap : UInt32} (hcap : ruleCap ≠ 0)
    (out : ListOutput) :
    let s := (ruleListMachine lib).after (newPolicyCtx, []) calls
    let count := min ruleCap.toNat s.2.length
    ruleList s.1.policyRuleMap = s.2 ∧
    (∀ allocOk, (∀ i < count, allocOk i = true) →
      let result := (scfListPolicyRulesOut g .valid .valid ruleCap .valid allocOk out).run s.1
      result.1.1 = .success ∧ Lists s.2 count out result.1.2 ∧ result.2 = s.1) ∧
    ∀ allocOk stop, stop < count → (∀ i < stop, allocOk i = true) → allocOk stop = false →
      let result := (scfListPolicyRulesOut g .valid .valid ruleCap .valid allocOk out).run s.1
      result.1.1 = .memAlloc ∧ Lists s.2 stop out result.1.2 ∧ result.2 = s.1 := by
  intro s count
  have hlist : ruleList s.1.policyRuleMap = s.2 := (ruleList_after lib calls).list
  have hstart : Lists s.2 0 out { out with actualCount := 0 } :=
    ⟨rfl, fun i hi => absurd hi (Nat.not_lt_zero i), fun _ _ => rfl⟩
  refine ⟨hlist, ?_, ?_⟩
  · intro allocOk halloc
    have hloop := listPolicyRulesOutLoop_lists ruleCap allocOk s.2 out (le_refl count) halloc
      (.inl ⟨rfl, rfl⟩) hstart (Nat.zero_le _)
    rw [scfListPolicyRulesOut_run hg hcap, hlist]
    exact ⟨hloop.1, hloop.2, rfl⟩
  · intro allocOk stop hstop halloc hfail
    have hloop := listPolicyRulesOutLoop_lists ruleCap allocOk s.2 out (le_of_lt hstop) halloc
      (.inr ⟨hstop, hfail, rfl⟩) hstart (Nat.zero_le _)
    rw [scfListPolicyRulesOut_run hg hcap, hlist]
    exact ⟨hloop.1, hloop.2, rfl⟩

/-- An array of empty rules. -/
def emptyOutput : ListOutput := ⟨0, fun _ => ⟨0, [], [], 0, 0, .deny⟩⟩

/-- Of the rules 2, 3 and 4 an array of two gets the first two, and only the first one where the
memory for the second is missing. -/
theorem scfListPolicyRules_lists_truncated :
    let s := (ruleListMachine .shortForm).after (newPolicyCtx, []) ruleCalls
    let list := fun allocOk =>
      (scfListPolicyRulesOut .ready .valid .valid 2 .valid allocOk emptyOutput).run s.1
    s.2.map SCFPolicyRule.ruleId = [2, 3, 4] ∧
      (list fun _ => true).1.1 = .success ∧ (list fun _ => true).1.2.actualCount = 2 ∧
      (list fun i => i < 1).1.1 = .memAlloc ∧ (list fun i => i < 1).1.2.actualCount = 1 := by
  intro s list
  have hids : s.2.map SCFPolicyRule.ruleId = [2, 3, 4] := by decide
  have hlength : s.2.length = 3 := by rw [← List.length_map SCFPolicyRule.ruleId, hids]; rfl
  have hcount : min (2 : UInt32).toNat s.2.length = 2 := by rw [hlength]; rfl
  have hg : Globals.ready.scfInitialized = true := rfl
  have hcap : (2 : UInt32) ≠ 0 := by decide
  obtain ⟨-, hall, hstop⟩ := scfListPolicyRules_lists .shortForm ruleCalls hg hcap emptyOutput
  obtain ⟨hsuccess, hfull, -⟩ := hall (fun _ => true) fun _ _ => rfl
  obtain ⟨hfail, hone, -⟩ := hstop (fun i => i < 1) 1 (by rw [hcount]; decide)
    (fun i hi => decide_eq_true hi) rfl
  refine ⟨hids, hsuccess, ?_, hfail, ?_⟩
  · exact UInt32.toNat_inj.mp (hfull.actualCount.trans hcount)
  · exact UInt32.toNat_inj.mp hone.actualCount

end Scf
