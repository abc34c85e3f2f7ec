import ScfSecurity.Rbac.Invariant

/-!
# Rule numbers over a whole run

Every addition takes its number from `nextPolicyRuleId`. Over a run the numbers given out are
`1, 2, 3, …` without a gap, up to the last 32-bit number; then the counter stays at zero and
nothing is added any more. Removing a rule frees no number.

## Main definitions

- `issuedIds`: the numbers given out by a sequence of calls

## Main results

- `rbacMachine_step_number`: what one call does to counter and rules
- `numbering_after`: counter and rules after a run
-/

namespace Scf

open Automaton

/-- The last number. -/
def lastRuleId : UInt32 := 0xffffffff

/-- The number that a successful addition returns. -/
def RbacAnswer.issuedId : RbacAnswer → Option UInt32
  | ruleId ret written => if ret = .success then written else none
  | _ => none

/-- The numbers that the additions among the calls return, on a new context. -/
def issuedIds (lib : LibCrypto) (calls : List (Globals × RbacCall)) : List UInt32 :=
  ((rbacMachine lib).answers newPolicyCtx calls).filterMap RbacAnswer.issuedId

/-- What a call does to the counter and to the numbers in use: nothing but removals, or one
number more. -/
inductive NumberStep (ctx : SCFPolicyCtx) : Option UInt32 → SCFPolicyCtx → Prop
  | kept {ctx' : SCFPolicyCtx} (hnext : ctx'.nextPolicyRuleId = ctx.nextPolicyRuleId)
      (hrules : ∀ id : UInt32, ctx.policyRuleMap[id]? = none → ctx'.policyRuleMap[id]? = none) :
      NumberStep ctx none ctx'
  | issued {ctx' : SCFPolicyCtx} (hne : ctx.nextPolicyRuleId ≠ 0)
      (hnext : ctx'.nextPolicyRuleId = succRuleId ctx.nextPolicyRuleId)
      (hrules : ∀ id : UInt32, id ≠ ctx.nextPolicyRuleId → ctx.policyRuleMap[id]? = none →
        ctx'.policyRuleMap[id]? = none) :
      NumberStep ctx (some ctx.nextPolicyRuleId) ctx'

theorem NumberStep.refl (ctx : SCFPolicyCtx) : NumberStep ctx none ctx :=
  .kept rfl fun _ h => h

theorem scfAddPolicyRule_number (g : Globals) (ctxPtr : Ptr)
    (subjectNodeId targetNodeId : Option CString) (resourceTypeBitmap actionBitmap : UInt32)
    (effect : SCFPolicyEffect) (ruleId : Ptr) (copyOk allocOk : Bool) (ctx : SCFPolicyCtx) :
    let r := (scfAddPolicyRule g ctxPtr subjectNodeId targetNodeId resourceTypeBitmap actionBitmap
      effect ruleId copyOk allocOk).run ctx
    NumberStep ctx (RbacAnswer.ruleId r.1.1 r.1.2).issuedId r.2 := by
  unfold scfAddPolicyRule
  split
  case h_2 => exact .refl ctx
  case h_1 subject target =>
    split_ifs
    · exact .refl ctx
    · exact .refl ctx
    · exact .refl ctx
    · rw [Resumption.run_critical]
      dsimp only
      obtain ⟨hret, hctx⟩ | ⟨_, _, hne, hadd⟩ := insertPolicyRule_cases
        ⟨0, subject.bytes, target.bytes, resourceTypeBitmap, actionBitmap, effect⟩ allocOk ctx
      · rw [if_pos hret, hctx]
        dsimp only [RbacAnswer.issuedId]
        rw [if_neg hret]
        exact .refl ctx
      · rw [hadd]
        refine .issued hne rfl fun id hid hnone => ?_
        show (ctx.policyRuleMap.insert ctx.nextPolicyRuleId _)[id]? = none
        rw [Std.TreeMap.getElem?_insert, if_neg]
        · exact hnone
        · exact fun heq => hid (Std.LawfulEqCmp.eq_of_compare heq).symm

/-- **Step lemma**: every call keeps the counter, or takes one number from it. -/
theorem rbacMachine_step_number (lib : LibCrypto) (call : Globals × RbacCall)
    (ctx : SCFPolicyCtx) :
    NumberStep ctx ((rbacMachine lib).step ctx call).1.issuedId
      ((rbacMachine lib).step ctx call).2 := by
  obtain ⟨g, call⟩ := call
  show NumberStep ctx ((call.body lib g).run ctx).1.issuedId ((call.body lib g).run ctx).2
  by_cases hread : call.IsRead
  · rw [RbacCall.run_of_isRead lib g hread]
    cases call with
    | getNodeRbacRole | listMasterNodes | isMasterNode | listPolicyRules
    | checkResourcePermission =>
      simp only [RbacCall.body, Resumption.run_monad_bind, Resumption.run_pure]
      exact .refl ctx
    | _ => exact hread.elim
  cases call with
  | setNodeRoleMapping ctxPtr nodeId role allocOk =>
    simp only [RbacCall.body, Resumption.run_monad_bind, Resumption.run_pure]
    obtain hkeep | ⟨id, _, hrun⟩ := scfSetNodeRoleMapping_run g ctxPtr nodeId role allocOk
    · rw [hkeep]
      exact .refl ctx
    · rw [hrun]
      obtain ⟨_, hctx⟩ | hset := setMappingLocked_cases id role allocOk ctx
      · rw [hctx]
        exact .refl ctx
      · rw [hset]
        exact .kept rfl fun _ h => h
  | removeNodeRoleMapping ctxPtr nodeId =>
    simp only [RbacCall.body, Resumption.run_monad_bind, Resumption.run_pure]
    obtain hkeep | ⟨id, _, hrun⟩ := scfRemoveNodeRoleMapping_run g ctxPtr nodeId
    · rw [hkeep]
      exact .refl ctx
    · rw [hrun]
      obtain ⟨_, hctx⟩ | hset := removeMappingLocked_cases id ctx
      · rw [hctx]
        exact .refl ctx
      · rw [hset]
        exact .kept rfl fun _ h => h
  | addPolicyRule ctxPtr subject target resource action effect ruleId copyOk allocOk =>
    simp only [RbacCall.body, Resumption.run_monad_bind, Resumption.run_pure]
    exact scfAddPolicyRule_number g ctxPtr subject target resource action effect ruleId copyOk
      allocOk ctx
  | removePolicyRule ctxPtr ruleId =>
    simp only [RbacCall.body, Resumption.run_monad_bind, Resumption.run_pure, scfRemovePolicyRule]
    split_ifs
    · exact .refl ctx
    · exact .refl ctx
    · exact .refl ctx
    · rw [Resumption.run_critical, removePolicyRuleLocked]
      split_ifs
      · exact .refl ctx
      · refine .kept rfl fun id hnone => ?_
        show (ctx.policyRuleMap.erase ruleId)[id]? = none
        rw [Std.TreeMap.getElem?_erase, hnone, ite_self]
  | enableRbac ctxPtr enable =>
    simp only [RbacCall.body, Resumption.run_monad_bind, Resumption.run_pure, scfEnableRbac]
    split_ifs
    · exact .refl ctx
    · exact .refl ctx
    · exact .kept rfl fun _ h => h
  | freeze ctxPtr =>
    simp only [RbacCall.body, Resumption.run_monad_bind, Resumption.run_pure,
      freezeNodeRoleMapping]
    split_ifs
    · exact .refl ctx
    · exact .kept rfl fun _ h => h
  | _ => exact absurd trivial hread

/-- The numbers given out so far are `1, 2, 3, …`, and the counter shows the next one, or
zero if there is none. -/
structure Numbering (ids : List UInt32) (ctx : SCFPolicyCtx) : Prop where
  numbers : ids.map UInt32.toNat = List.range' 1 ids.length
  bound : ids.length < 2 ^ 32
  counter : ctx.nextPolicyRuleId.toNat = (ids.length + 1) % 2 ^ 32

theorem Numbering.step {ids : List UInt32} {ctx ctx' : SCFPolicyCtx} {issued : Option UInt32}
    (h : Numbering ids ctx) (hstep : NumberStep ctx issued ctx') :
    Numbering (ids ++ issued.toList) ctx' := by
  cases hstep with
  | kept hnext hrules =>
    rw [Option.toList_none, List.append_nil]
    exact ⟨h.numbers, h.bound, hnext ▸ h.counter⟩
  | issued hne hnext hrules =>
    have hbound := h.bound
    have hcounter := h.counter
    have hpos : ctx.nextPolicyRuleId.toNat ≠ 0 := fun h0 => hne (UInt32.toNat_inj.mp h0)
    -- the counter has not wrapped, so it is one more than the length
    have hlen : ids.length + 1 < 2 ^ 32 := by omega
    have hid : ctx.nextPolicyRuleId.toNat = ids.length + 1 := by omega
    have hsucc : (succRuleId ctx.nextPolicyRuleId).toNat = (ids.length + 1 + 1) % 2 ^ 32 := by
      unfold succRuleId
      split_ifs with hmax
      · rw [hmax] at hid
        have hlast : (0xffffffff : UInt32).toNat = 2 ^ 32 - 1 := rfl
        have hzero : (0 : UInt32).toNat = 0 := rfl
        omega
      · have hone : (1 : UInt32).toNat = 1 := rfl
        rw [UInt32.toNat_add, hid, hone]
    refine ⟨?_, ?_, ?_⟩
    · rw [Option.toList_some, List.map_append, List.length_append, h.numbers, List.map_singleton,
        hid, List.length_singleton, List.range'_1_concat, Nat.add_comm 1]
    · rw [Option.toList_some, List.length_append, List.length_singleton]
      exact hlen
    · rw [hnext, hsucc, Option.toList_some, List.length_append, List.length_singleton]

/-- **Run lemma**: any number of calls continue the numbering. -/
theorem Numbering.after (lib : LibCrypto) (calls : List (Globals × RbacCall)) :
    ∀ {ids : List UInt32} {ctx : SCFPolicyCtx}, Numbering ids ctx →
      Numbering (ids ++ ((rbacMachine lib).answers ctx calls).filterMap RbacAnswer.issuedId)
        ((rbacMachine lib).after ctx calls) := by
  induction calls with
  | nil =>
    intro ids ctx h
    rw [Machine.answers, List.filterMap_nil, List.append_nil]
    exact h
  | cons call calls ih =>
    intro ids ctx h
    have hnext := ih (h.step (rbacMachine_step_number lib call ctx))
    rw [List.append_assoc] at hnext
    rw [Machine.after_cons, Machine.answers, List.filterMap_cons]
    cases hissued : ((rbacMachine lib).step ctx call).1.issuedId with
    | none => simpa [hissued] using hnext
    | some id => simpa [hissued] using hnext

theorem numbering_newPolicyCtx : Numbering [] newPolicyCtx := ⟨rfl, by decide, rfl⟩

/-- Counter and numbers after a run. -/
theorem numbering_after (lib : LibCrypto) (calls : List (Globals × RbacCall)) :
    Numbering (issuedIds lib calls) ((rbacMachine lib).after newPolicyCtx calls) :=
  numbering_newPolicyCtx.after lib calls

theorem Numbering.pairwise {ids : List UInt32} {ctx : SCFPolicyCtx} (h : Numbering ids ctx) :
    ids.Pairwise (· < ·) := by
  have hrange : (ids.map UInt32.toNat).Pairwise (· < ·) := by
    rw [h.numbers]
    exact List.pairwise_lt_range'
  rw [List.pairwise_map] at hrange
  exact hrange.imp fun hlt => UInt32.lt_iff_toNat_lt.mpr hlt

theorem Numbering.mem {ids : List UInt32} {ctx : SCFPolicyCtx} (h : Numbering ids ctx)
    {id : UInt32} (hid : id ∈ ids) : 1 ≤ id.toNat ∧ id.toNat ≤ ids.length := by
  have hmem : id.toNat ∈ ids.map UInt32.toNat := List.mem_map_of_mem hid
  rw [h.numbers, List.mem_range'_1] at hmem
  omega

/-- The number can be used neither now nor later: it is free, and the counter is past it. -/
structure Retired (ruleId : UInt32) (ctx : SCFPolicyCtx) : Prop where
  free : ctx.policyRuleMap[ruleId]? = none
  past : ctx.nextPolicyRuleId = 0 ∨ ruleId < ctx.nextPolicyRuleId

theorem Retired.step {ruleId : UInt32} {ctx ctx' : SCFPolicyCtx} {issued : Option UInt32}
    (h : Retired ruleId ctx) (hstep : NumberStep ctx issued ctx') : Retired ruleId ctx' := by
  cases hstep with
  | kept hnext hrules => exact ⟨hrules ruleId h.free, hnext ▸ h.past⟩
  | issued hne hnext hrules =>
    have hlt : ruleId < ctx.nextPolicyRuleId := h.past.resolve_left hne
    refine ⟨hrules ruleId (UInt32.ne_of_lt hlt) h.free, ?_⟩
    rw [hnext]
    by_cases hzero : succRuleId ctx.nextPolicyRuleId = 0
    · exact .inl hzero
    · exact .inr (UInt32.lt_trans hlt (lt_succRuleId hzero))

theorem Retired.after {ruleId : UInt32} (lib : LibCrypto) (calls : List (Globals × RbacCall)) :
    ∀ {ctx : SCFPolicyCtx}, Retired ruleId ctx →
      Retired ruleId ((rbacMachine lib).after ctx calls) := by
  induction calls with
  | nil => exact fun h => h
  | cons call calls ih => exact fun h => ih (h.step (rbacMachine_step_number lib call _))

/-- A successful removal retires the number. -/
theorem retired_of_removed {lib : LibCrypto} {ctx : SCFPolicyCtx} (hinv : RuleStoreInvariant ctx)
    {g : Globals} {ctxPtr : Ptr} {ruleId : UInt32}
    (h : ((rbacMachine lib).step ctx (g, .removePolicyRule ctxPtr ruleId)).1 = .code .success) :
    ruleId ≠ 0 ∧
      Retired ruleId ((rbacMachine lib).step ctx (g, .removePolicyRule ctxPtr ruleId)).2 := by
  simp only [rbacMachine, RbacCall.body, Resumption.run_monad_bind, Resumption.run_pure,
    RbacAnswer.code.injEq, scfRemovePolicyRule] at h ⊢
  split_ifs at h ⊢ with hptr hzero hg
  case neg =>
    refine ⟨hzero, ?_⟩
    rw [Resumption.run_critical, removePolicyRuleLocked] at h ⊢
    by_cases hnone : ctx.policyRuleMap[ruleId]? = none
    · rw [if_pos hnone] at h
      cases h
    · rw [if_neg hnone]
      refine ⟨Std.TreeMap.getElem?_erase_self, ?_⟩
      by_cases hnext : ctx.nextPolicyRuleId = 0
      · exact .inl hnext
      · obtain ⟨rule, hrule⟩ := Option.ne_none_iff_exists'.mp hnone
        exact .inr (hinv.below hnext ruleId rule hrule)
  all_goals cases h

/-- A retired number is not found. -/
theorem Retired.notFound {ruleId : UInt32} {ctx : SCFPolicyCtx} (h : Retired ruleId ctx)
    (hne : ruleId ≠ 0) (lib : LibCrypto) {g : Globals} (hg : g.scfInitialized = true) :
    ((rbacMachine lib).step ctx (g, .removePolicyRule .valid ruleId)).1 =
      .code .rbacPolicyNotFound := by
  simp [rbacMachine, RbacCall.body, scfRemovePolicyRule, hne, hg, removePolicyRuleLocked, h.free]

/-- Once the last number is given out, the counter is zero. -/
theorem Numbering.exhausted {ids : List UInt32} {ctx : SCFPolicyCtx} (h : Numbering ids ctx)
    (hlast : lastRuleId ∈ ids) : ctx.nextPolicyRuleId = 0 := by
  have hle := (h.mem hlast).2
  have hval : lastRuleId.toNat = 2 ^ 32 - 1 := rfl
  have hbound := h.bound
  have hcounter := h.counter
  have hzero : (0 : UInt32).toNat = 0 := rfl
  exact UInt32.toNat_inj.mp (by omega)

/-- Without a number left, a rule with a new key is refused as one too many. -/
theorem scfAddPolicyRule_of_exhausted {ctx : SCFPolicyCtx} (hzero : ctx.nextPolicyRuleId = 0)
    {g : Globals} (hg : g.scfInitialized = true) {subject target : CString}
    {resourceTypeBitmap actionBitmap : UInt32} {effect : SCFPolicyEffect}
    (hvalid : isValidPolicyRule subject target resourceTypeBitmap actionBitmap effect = true)
    (hkey : hasPolicyRuleKey ctx.policyRuleMap
      ⟨0, subject.bytes, target.bytes, resourceTypeBitmap, actionBitmap, effect⟩ = false)
    (allocOk : Bool) :
    (scfAddPolicyRule g .valid (some subject) (some target) resourceTypeBitmap actionBitmap effect
      .valid true allocOk).run ctx = ((.rbacPolicyFull, none), ctx) := by
  simp [scfAddPolicyRule, hvalid, hg, insertPolicyRule, hkey, hzero]

/-- Over every run of a context:

* the numbers returned by successful additions strictly increase, and none of them is zero;
* a number that was removed is never found again;
* once the last number has been given out, no addition succeeds any more, and one with valid
  arguments and a new key is refused as one too many, whatever is removed. -/
theorem ruleNumbers_of_run (lib : LibCrypto) :
    (∀ calls, (issuedIds lib calls).Pairwise (· < ·) ∧ 0 ∉ issuedIds lib calls) ∧
    (∀ calls g ctxPtr ruleId later g',
      ((rbacMachine lib).step ((rbacMachine lib).after newPolicyCtx calls)
        (g, .removePolicyRule ctxPtr ruleId)).1 = .code .success →
      g'.scfInitialized = true →
      ((rbacMachine lib).step ((rbacMachine lib).after newPolicyCtx
        (calls ++ (g, .removePolicyRule ctxPtr ruleId) :: later))
        (g', .removePolicyRule .valid ruleId)).1 = .code .rbacPolicyNotFound) ∧
    ∀ calls, lastRuleId ∈ issuedIds lib calls → ∀ later,
      (∀ call, ((rbacMachine lib).step ((rbacMachine lib).after newPolicyCtx (calls ++ later))
        call).1.issuedId = none) ∧
      ∀ g subject target resourceTypeBitmap actionBitmap effect allocOk,
        g.scfInitialized = true →
        isValidPolicyRule subject target resourceTypeBitmap actionBitmap effect = true →
        hasPolicyRuleKey ((rbacMachine lib).after newPolicyCtx (calls ++ later)).policyRuleMap
          ⟨0, subject.bytes, target.bytes, resourceTypeBitmap, actionBitmap, effect⟩ = false →
        ((rbacMachine lib).step ((rbacMachine lib).after newPolicyCtx (calls ++ later))
          (g, .addPolicyRule .valid (some subject) (some target) resourceTypeBitmap actionBitmap
            effect .valid true allocOk)).1 = .ruleId .rbacPolicyFull none := by
  refine ⟨?_, ?_, ?_⟩
  · intro calls
    have hnum := numbering_after lib calls
    refine ⟨hnum.pairwise, fun hzero => ?_⟩
    exact absurd (hnum.mem hzero).1 (by decide)
  · intro calls g ctxPtr ruleId later g' hremoved hg
    have hreach := (reachable_newPolicyCtx lib).after calls
    obtain ⟨hne, hretired⟩ := retired_of_removed (ruleStoreInvariant_of_reachable hreach) hremoved
    rw [Machine.after_append, Machine.after_cons]
    exact (hretired.after lib later).notFound hne lib hg
  · intro calls hlast later
    -- the later calls only lengthen the list of numbers
    have hlast' : lastRuleId ∈ issuedIds lib (calls ++ later) := by
      unfold issuedIds at hlast ⊢
      rw [Machine.answers_append, List.filterMap_append]
      exact List.mem_append_left _ hlast
    have hzero := (numbering_after lib (calls ++ later)).exhausted hlast'
    refine ⟨fun call => ?_, ?_⟩
    · generalize hissued : ((rbacMachine lib).step _ call).1.issuedId = issued
      have hstep := rbacMachine_step_number lib call
        ((rbacMachine lib).after newPolicyCtx (calls ++ later))
      rw [hissued] at hstep
      cases hstep with
      | kept hnext hrules => rfl
      | issued hne hnext hrules => exact absurd hzero hne
    · intro g subject target resource action effect allocOk hg hvalid hkey
      simp only [rbacMachine, RbacCall.body, Resumption.run_monad_bind, Resumption.run_pure] at hkey hzero ⊢
      rw [scfAddPolicyRule_of_exhausted hzero hg hvalid hkey]

/-- Node `a` may not release memory regions of any node. -/
def addRuleA : Globals × RbacCall :=
  (.ready, .addPolicyRule .valid (some nodeA) (some .star) 4 2 .deny .valid true true)

/-- Add a rule and remove it again, so many times. -/
def useNumbers : ℕ → List (Globals × RbacCall)
  | 0 => []
  | n + 1 => useNumbers n ++ [addRuleA, (.ready, .removePolicyRule .valid (n + 1).toUInt32)]

/-- No rule is in force. -/
def NoRules (ctx : SCFPolicyCtx) : Prop := ∀ id : UInt32, ctx.policyRuleMap[id]? = none

theorem step_addRuleA {ctx : SCFPolicyCtx} (hempty : NoRules ctx)
    (hne : ctx.nextPolicyRuleId ≠ 0) (lib : LibCrypto) :
    ∃ rule, (rbacMachine lib).step ctx addRuleA =
      (.ruleId .success (some ctx.nextPolicyRuleId),
        { ctx with
          policyRuleMap := ctx.policyRuleMap.insert ctx.nextPolicyRuleId rule
          nextPolicyRuleId := succRuleId ctx.nextPolicyRuleId }) := by
  have hkey : ∀ rule, hasPolicyRuleKey ctx.policyRuleMap rule = false := by
    intro rule
    rw [hasPolicyRuleKey_eq_false_iff]
    intro id rule' hrule'
    rw [hempty id] at hrule'
    cases hrule'
  have hsize : ctx.policyRuleMap.size = 0 := by
    have hnone : ctx.policyRuleMap.isEmpty = true := by
      rw [Std.TreeMap.isEmpty_iff_forall_not_mem]
      intro id hid
      rw [Std.TreeMap.mem_iff_isSome_getElem?, hempty id] at hid
      cases hid
    simpa [Std.TreeMap.isEmpty_eq_size_eq_zero] using hnone
  have hinsert : ∀ rule, insertPolicyRule rule true ctx =
      (.success, { rule with ruleId := ctx.nextPolicyRuleId },
        { ctx with
          policyRuleMap := ctx.policyRuleMap.insert ctx.nextPolicyRuleId
            { rule with ruleId := ctx.nextPolicyRuleId }
          nextPolicyRuleId := succRuleId ctx.nextPolicyRuleId }) := by
    intro rule
    have hfree : ctx.policyRuleMap.contains ctx.nextPolicyRuleId = false := by
      rw [← Std.TreeMap.isSome_getElem?_eq_contains, hempty]
      rfl
    simp [insertPolicyRule, hkey, hsize, hne, maxPolicyRuleSize, emplace, hfree]
  refine ⟨⟨ctx.nextPolicyRuleId, nodeA.bytes, CString.star.bytes, 4, 2, .deny⟩, ?_⟩
  have hvalid : isValidPolicyRule nodeA CString.star 4 2 .deny = true := by decide
  have hg : Globals.ready.scfInitialized = true := rfl
  simp [rbacMachine, addRuleA, RbacCall.body, scfAddPolicyRule, hvalid, hg, hinsert]

/-- One more number is used up, and no rule is left. -/
theorem after_useNumbers (lib : LibCrypto) :
    ∀ n, n + 1 < 2 ^ 32 →
      NoRules ((rbacMachine lib).after newPolicyCtx (useNumbers n)) ∧
        ((rbacMachine lib).after newPolicyCtx (useNumbers n)).nextPolicyRuleId.toNat = n + 1
  | 0, _ => ⟨fun _ => Std.TreeMap.getElem?_emptyc, rfl⟩
  | n + 1, hn => by
    obtain ⟨hempty, hnext⟩ := after_useNumbers lib n (by omega)
    rw [useNumbers, Machine.after_append]
    generalize (rbacMachine lib).after newPolicyCtx (useNumbers n) = ctx at hempty hnext ⊢
    have hid : (n + 1).toUInt32 = ctx.nextPolicyRuleId := by
      rw [← UInt32.toNat_inj, hnext]
      exact Nat.mod_eq_of_lt (by omega)
    have hne : ctx.nextPolicyRuleId ≠ 0 := by
      intro hzero
      rw [hzero] at hnext
      cases hnext
    obtain ⟨rule, hadd⟩ := step_addRuleA hempty hne lib
    have hg : Globals.ready.scfInitialized = true := rfl
    rw [hid, Machine.after_cons, hadd, Machine.after_cons, Machine.after_nil]
    simp only [rbacMachine, RbacCall.body, Resumption.run_monad_bind, Resumption.run_pure,
      scfRemovePolicyRule, hg, hne, reduceCtorEq, if_false, Bool.not_true, Bool.false_eq_true,
      Resumption.run_critical, removePolicyRuleLocked, Std.TreeMap.getElem?_insert_self]
    refine ⟨fun id => ?_, ?_⟩
    · show ((ctx.policyRuleMap.insert ctx.nextPolicyRuleId rule).erase
        ctx.nextPolicyRuleId)[id]? = none
      rw [Std.TreeMap.getElem?_erase, Std.TreeMap.getElem?_insert, hempty id]
      split_ifs <;> rfl
    · show (succRuleId ctx.nextPolicyRuleId).toNat = n + 1 + 1
      unfold succRuleId
      rw [if_neg]
      · have hone : (1 : UInt32).toNat = 1 := rfl
        rw [UInt32.toNat_add, hnext, hone]
        exact Nat.mod_eq_of_lt hn
      · intro hmax
        rw [hmax] at hnext
        have hlast : (0xffffffff : UInt32).toNat = 2 ^ 32 - 1 := rfl
        omega

/-- Every number can really be given out. -/
theorem issued_useNumbers (lib : LibCrypto) {n : ℕ} (hn : n + 1 < 2 ^ 32) :
    (n + 1).toUInt32 ∈ issuedIds lib (useNumbers n ++ [addRuleA]) := by
  obtain ⟨hempty, hnext⟩ := after_useNumbers lib n hn
  have hid : (n + 1).toUInt32 =
      ((rbacMachine lib).after newPolicyCtx (useNumbers n)).nextPolicyRuleId := by
    rw [← UInt32.toNat_inj, hnext]
    exact Nat.mod_eq_of_lt hn
  have hne : ((rbacMachine lib).after newPolicyCtx (useNumbers n)).nextPolicyRuleId ≠ 0 := by
    intro hzero
    rw [hzero] at hnext
    cases hnext
  obtain ⟨rule, hadd⟩ := step_addRuleA hempty hne lib
  unfold issuedIds
  rw [Machine.answers_append, List.filterMap_append, Machine.answers, hadd, hid]
  exact List.mem_append_right _ List.mem_cons_self

theorem ruleNumbers_of_run_exhausted :
    ∃ calls, lastRuleId ∈ issuedIds .shortForm calls ∧
      ((rbacMachine .shortForm).step ((rbacMachine .shortForm).after newPolicyCtx (calls ++ []))
        (.ready, .addPolicyRule .valid (some nodeB) (some .star) 4 2 .deny .valid true
          true)).1.issuedId = none := by
  have hissued := issued_useNumbers .shortForm (show 4294967294 + 1 < 2 ^ 32 by decide)
  exact ⟨_, hissued, ((ruleNumbers_of_run .shortForm).2.2 _ hissued []).1 _⟩

end Scf
