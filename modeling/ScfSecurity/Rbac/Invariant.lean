import ScfSecurity.Rbac.Transition

/-!
# Invariants of the RBAC state

What holds of the rules and of the role map of a context after any sequence of RBAC
calls. Both invariants are kept by every `RbacStep`, hence also in interleavings.

## Main definitions

- `RuleStoreInvariant`: the rules are bounded, well formed, without duplicates, and
  their numbers are below the next number to be given out
- `RoleMapInvariant`: the role map is bounded and well formed

## Main results

- `reachable_ruleStoreInvariant`: every reachable context has a sound rule store
-/

namespace Scf

open Automaton

/-- A bitmap passes the check exactly if it is a nonempty part of the valid one. -/
theorem isValidBitmap_iff (bitmap validBitmap : UInt32) :
    isValidBitmap bitmap validBitmap = true ↔
      bitmap ≠ 0 ∧ bitmap &&& validBitmap = bitmap := by
  have hsub : bitmap &&& ~~~validBitmap = 0 ↔ bitmap &&& validBitmap = bitmap := by
    have hsplit : bitmap = (bitmap &&& validBitmap) ||| (bitmap &&& ~~~validBitmap) := by
      rw [← UInt32.toBitVec_inj]
      simp only [UInt32.toBitVec_or, UInt32.toBitVec_and, UInt32.toBitVec_not]
      rw [← BitVec.and_or_distrib_left, BitVec.or_not_self, BitVec.and_allOnes]
    constructor
    · intro h
      rw [h, UInt32.or_zero] at hsplit
      exact hsplit.symm
    · intro h
      rw [← h, UInt32.and_assoc, UInt32.and_not_self, UInt32.and_zero]
  simp [isValidBitmap, hsub]

/-- A rule as `SCF_AddPolicyRule` accepts it. -/
structure WellFormedRule (rule : SCFPolicyRule) : Prop where
  subject : ValidNodeId rule.subjectNodeId
  target : 0 < rule.targetNodeId.length ∧ rule.targetNodeId.length ≤ 127
  resource : rule.resourceTypeBitmap ≠ 0 ∧
    rule.resourceTypeBitmap &&& 7 = rule.resourceTypeBitmap
  action : rule.actionBitmap ≠ 0 ∧ rule.actionBitmap &&& 3 = rule.actionBitmap
  effect : rule.effect = .allow ∨ rule.effect = .deny

/-- The four fields that must be unique among the rules in force. -/
def ruleKey (rule : SCFPolicyRule) : StdString × StdString × UInt32 × UInt32 :=
  (rule.subjectNodeId, rule.targetNodeId, rule.resourceTypeBitmap, rule.actionBitmap)

/-- The rules of a context and the number it gives to the next rule. -/
structure RuleStoreInvariant (ctx : SCFPolicyCtx) : Prop where
  size : ctx.policyRuleMap.size ≤ 8192
  number : ∀ (id : UInt32) rule, ctx.policyRuleMap[id]? = some rule →
    rule.ruleId = id ∧ 1 ≤ id
  distinct : ∀ (id id' : UInt32) rule rule', ctx.policyRuleMap[id]? = some rule →
    ctx.policyRuleMap[id']? = some rule' → id ≠ id' → ruleKey rule ≠ ruleKey rule'
  wellFormed : ∀ (id : UInt32) rule, ctx.policyRuleMap[id]? = some rule →
    WellFormedRule rule
  below : ctx.nextPolicyRuleId ≠ 0 → ∀ (id : UInt32) rule,
    ctx.policyRuleMap[id]? = some rule → id < ctx.nextPolicyRuleId

/-- The role map of a context. -/
structure RoleMapInvariant (ctx : SCFPolicyCtx) : Prop where
  size : ctx.nodeRoleMap.size ≤ 4096
  nodeId : ∀ nodeId role, ctx.nodeRoleMap[nodeId]? = some role → ValidNodeId nodeId
  role : ∀ (nodeId : StdString) role, ctx.nodeRoleMap[nodeId]? = some role →
    role = .master ∨ role = .slave

theorem isSamePolicyRuleKey_iff (left right : SCFPolicyRule) :
    isSamePolicyRuleKey left right = true ↔ ruleKey left = ruleKey right := by
  simp [isSamePolicyRuleKey, ruleKey, and_assoc]

theorem hasPolicyRuleKey_eq_false_iff {rules : Std.TreeMap UInt32 SCFPolicyRule}
    {rule : SCFPolicyRule} :
    hasPolicyRuleKey rules rule = false ↔
      ∀ (id : UInt32) rule', rules[id]? = some rule' → ruleKey rule' ≠ ruleKey rule := by
  simp only [hasPolicyRuleKey, List.any_eq_false, Prod.forall, isSamePolicyRuleKey_iff,
    Std.TreeMap.mem_toList_iff_getElem?_eq_some, ne_eq]

/-- The successor of a number is larger, unless the numbers are used up. -/
theorem lt_succRuleId {id : UInt32} (h : succRuleId id ≠ 0) : id < succRuleId id := by
  unfold succRuleId at h ⊢
  split_ifs at h ⊢ with hmax
  · exact absurd rfl h
  · have hlt := id.toNat_lt
    have hne : id.toNat ≠ 4294967295 := fun he => hmax (UInt32.toNat_inj.mp he)
    rw [UInt32.lt_iff_toNat_lt, UInt32.toNat_add]
    have h1 : (1 : UInt32).toNat = 1 := rfl
    omega

/-- Looking up in a map with one more entry. -/
theorem getElem?_insert_cases {α β : Type*} [Ord α] [Std.TransOrd α] [Std.LawfulEqOrd α]
    {m : Std.TreeMap α β} {k k' : α} {v v' : β} (h : (m.insert k v)[k']? = some v') :
    (k' = k ∧ v' = v) ∨ (k' ≠ k ∧ m[k']? = some v') := by
  rw [Std.TreeMap.getElem?_insert] at h
  split_ifs at h with hk
  · cases h
    exact .inl ⟨(Std.LawfulEqCmp.eq_of_compare hk).symm, rfl⟩
  · refine .inr ⟨?_, h⟩
    rintro rfl
    exact hk Std.ReflCmp.compare_self

/-- Looking up in a map with one entry less. -/
theorem getElem?_of_erase {α β : Type*} [Ord α] [Std.TransOrd α]
    {m : Std.TreeMap α β} {k k' : α} {v : β} (h : (m.erase k)[k']? = some v) :
    m[k']? = some v := by
  rw [Std.TreeMap.getElem?_erase] at h
  split_ifs at h
  exact h

theorem newPolicyCtx_ruleStoreInvariant : RuleStoreInvariant newPolicyCtx where
  size := by simp [newPolicyCtx]
  number := by simp [newPolicyCtx]
  distinct := by simp [newPolicyCtx]
  wellFormed := by simp [newPolicyCtx]
  below := by simp [newPolicyCtx]

/-- A new rule keeps the rule store sound. -/
theorem RuleStoreInvariant.addRule {ctx : SCFPolicyCtx} (h : RuleStoreInvariant ctx)
    {rule : SCFPolicyRule} (hkey : hasPolicyRuleKey ctx.policyRuleMap rule = false)
    (hroom : ctx.policyRuleMap.size < maxPolicyRuleSize)
    (hid : rule.ruleId = ctx.nextPolicyRuleId) (hne : ctx.nextPolicyRuleId ≠ 0)
    (hwf : WellFormedRule rule) :
    RuleStoreInvariant
      { ctx with
        policyRuleMap := ctx.policyRuleMap.insert ctx.nextPolicyRuleId rule
        nextPolicyRuleId := succRuleId ctx.nextPolicyRuleId } := by
  have hfresh := hasPolicyRuleKey_eq_false_iff.mp hkey
  refine ⟨?_, ?_, ?_, ?_, ?_⟩
  · have hsize := Std.TreeMap.size_insert_le (t := ctx.policyRuleMap)
      (k := ctx.nextPolicyRuleId) (v := rule)
    have hmax : maxPolicyRuleSize = 8192 := rfl
    show (ctx.policyRuleMap.insert ctx.nextPolicyRuleId rule).size ≤ 8192
    omega
  · intro id rule' hrule
    obtain ⟨rfl, rfl⟩ | ⟨_, hold⟩ := getElem?_insert_cases hrule
    · refine ⟨hid, ?_⟩
      have hpos : ctx.nextPolicyRuleId.toNat ≠ 0 := fun h0 => hne (UInt32.toNat_inj.mp h0)
      have h1 : (1 : UInt32).toNat = 1 := rfl
      rw [UInt32.le_iff_toNat_le]
      omega
    · exact h.number id rule' hold
  · -- one of the two entries is the new one, or both were there before
    intro id id' r r' hr hr' hids
    obtain ⟨rfl, rfl⟩ | ⟨_, hold⟩ := getElem?_insert_cases hr
    · obtain ⟨rfl, rfl⟩ | ⟨_, hold'⟩ := getElem?_insert_cases hr'
      · exact absurd rfl hids
      · exact (hfresh id' r' hold').symm
    · obtain ⟨rfl, rfl⟩ | ⟨_, hold'⟩ := getElem?_insert_cases hr'
      · exact hfresh id r hold
      · exact h.distinct id id' r r' hold hold' hids
  · intro id rule' hrule
    obtain ⟨rfl, rfl⟩ | ⟨_, hold⟩ := getElem?_insert_cases hrule
    · exact hwf
    · exact h.wellFormed id rule' hold
  · intro hnext id rule' hrule
    have hlt := lt_succRuleId hnext
    obtain ⟨rfl, rfl⟩ | ⟨_, hold⟩ := getElem?_insert_cases hrule
    · exact hlt
    · exact UInt32.lt_trans (h.below hne id rule' hold) hlt

/-- Removing a rule keeps the rule store sound. -/
theorem RuleStoreInvariant.removeRule {ctx : SCFPolicyCtx} (h : RuleStoreInvariant ctx)
    (ruleId : UInt32) :
    RuleStoreInvariant
      { ctx with policyRuleMap := ctx.policyRuleMap.erase ruleId } := by
  refine ⟨?_, ?_, ?_, ?_, ?_⟩
  · exact le_trans Std.TreeMap.size_erase_le h.size
  · intro id rule hrule
    exact h.number id rule (getElem?_of_erase hrule)
  · intro id id' r r' hr hr' hids
    exact h.distinct id id' r r' (getElem?_of_erase hr) (getElem?_of_erase hr') hids
  · intro id rule hrule
    exact h.wellFormed id rule (getElem?_of_erase hrule)
  · intro hnext id rule hrule
    exact h.below hnext id rule (getElem?_of_erase hrule)

/-- **Step lemma**: no atomic section breaks the rule store. -/
theorem RbacStep.ruleStoreInvariant {ctx ctx' : SCFPolicyCtx} (hstep : RbacStep ctx ctx')
    (h : RuleStoreInvariant ctx) : RuleStoreInvariant ctx' := by
  cases hstep with
  | read => exact h
  | freeze => exact ⟨h.size, h.number, h.distinct, h.wellFormed, h.below⟩
  | enable => exact ⟨h.size, h.number, h.distinct, h.wellFormed, h.below⟩
  | setRole => exact ⟨h.size, h.number, h.distinct, h.wellFormed, h.below⟩
  | removeRole => exact ⟨h.size, h.number, h.distinct, h.wellFormed, h.below⟩
  | addRule rule hkey hroom hid hne hsubject htarget hresource haction heffect =>
    refine h.addRule hkey hroom hid hne ⟨hsubject, ?_, ?_, ?_, heffect⟩
    · obtain htarget | hstar := htarget
      · exact ⟨htarget.nonempty, htarget.short⟩
      · rw [hstar]
        decide
    · exact (isValidBitmap_iff _ _).mp hresource
    · exact (isValidBitmap_iff _ _).mp haction
  | removeRule ruleId => exact h.removeRule ruleId

/-- **Run lemma**: the rule store is sound after every sequence of RBAC calls. -/
theorem ruleStoreInvariant_of_reachable {lib : LibCrypto} {ctx : SCFPolicyCtx}
    (h : (rbacMachine lib).Reachable ctx) : RuleStoreInvariant ctx :=
  rbacMachine_invariant newPolicyCtx_ruleStoreInvariant
    (fun _ _ hstep hctx => hstep.ruleStoreInvariant hctx) h

/-- With sound rules the number of the next rule is free. -/
theorem RuleStoreInvariant.fresh {ctx : SCFPolicyCtx} (h : RuleStoreInvariant ctx)
    (hne : ctx.nextPolicyRuleId ≠ 0) : ctx.policyRuleMap[ctx.nextPolicyRuleId]? = none := by
  rw [Option.eq_none_iff_forall_ne_some]
  intro rule hrule
  exact UInt32.lt_irrefl _ (h.below hne _ rule hrule)

/-- In every reachable context the rule store is sound, so the number of a new rule is
never in use and `emplace` does not fail. -/
theorem reachable_ruleStoreInvariant {lib : LibCrypto} {ctx : SCFPolicyCtx}
    (h : (rbacMachine lib).Reachable ctx) :
    RuleStoreInvariant ctx ∧
      ∀ rule, ctx.nextPolicyRuleId ≠ 0 →
        emplace ctx.policyRuleMap ctx.nextPolicyRuleId rule =
          (true, ctx.policyRuleMap.insert ctx.nextPolicyRuleId rule) := by
  have hinv := ruleStoreInvariant_of_reachable h
  refine ⟨hinv, fun rule hne => if_neg ?_⟩
  rw [← Std.TreeMap.isSome_getElem?_eq_contains, hinv.fresh hne]
  decide

/-- With sound rules `emplace` finds its number free, so the answer of `InsertPolicyRule` is
decided by the checks before it. -/
theorem insertPolicyRule_eq {ctx : SCFPolicyCtx} (h : RuleStoreInvariant ctx)
    (rule : SCFPolicyRule) (allocOk : Bool) :
    insertPolicyRule rule allocOk ctx =
      if hasPolicyRuleKey ctx.policyRuleMap rule then (.rbacPolicyDuplicate, rule, ctx)
      else if maxPolicyRuleSize ≤ ctx.policyRuleMap.size ∨ ctx.nextPolicyRuleId = 0 then
        (.rbacPolicyFull, rule, ctx)
      else if !allocOk then (.memAlloc, { rule with ruleId := ctx.nextPolicyRuleId }, ctx)
      else
        (.success, { rule with ruleId := ctx.nextPolicyRuleId },
          { ctx with
            policyRuleMap := ctx.policyRuleMap.insert ctx.nextPolicyRuleId
              { rule with ruleId := ctx.nextPolicyRuleId }
            nextPolicyRuleId := succRuleId ctx.nextPolicyRuleId }) := by
  unfold insertPolicyRule
  split_ifs with hkey hfull halloc
  · rfl
  · rfl
  · rfl
  · rw [not_or] at hfull
    have hfree : ¬ ctx.policyRuleMap.contains ctx.nextPolicyRuleId = true := by
      rw [← Std.TreeMap.isSome_getElem?_eq_contains, h.fresh hfull.2]
      decide
    have hemplace : ∀ rule', emplace ctx.policyRuleMap ctx.nextPolicyRuleId rule' =
        (true, ctx.policyRuleMap.insert ctx.nextPolicyRuleId rule') := fun _ => if_neg hfree
    simp only [hemplace, Bool.not_true, Bool.false_eq_true, if_false]

/-- Two nodes, `a` and `b`. -/
def nodeA : CString := ⟨[97], by decide⟩

@[inherit_doc nodeA]
def nodeB : CString := ⟨[98], by decide⟩

/-- Three rules are added, the first is removed, and one more is added. -/
def ruleCalls : List (Globals × RbacCall) :=
  [(.ready, .addPolicyRule .valid (some nodeA) (some .star) 4 2 .deny .valid true true),
    (.ready, .addPolicyRule .valid (some nodeB) (some .star) 4 2 .allow .valid true true),
    (.ready, .addPolicyRule .valid (some nodeA) (some nodeA) 4 2 .allow .valid true true),
    (.ready, .removePolicyRule .valid 1),
    (.ready, .addPolicyRule .valid (some nodeB) (some nodeA) 4 2 .deny .valid true true)]

theorem reachable_ruleStoreInvariant_removed :
    let ctx := (rbacMachine .shortForm).after newPolicyCtx ruleCalls
    ctx.policyRuleMap.size = 3 ∧ ctx.nextPolicyRuleId = 5 ∧ RuleStoreInvariant ctx ∧
      ∀ rule, (emplace ctx.policyRuleMap 5 rule).1 = true := by
  intro ctx
  have hsize : ctx.policyRuleMap.size = 3 := by decide
  have hnext : ctx.nextPolicyRuleId = 5 := by decide
  have hreach : (rbacMachine .shortForm).Reachable ctx := (reachable_newPolicyCtx _).after _
  obtain ⟨hinv, hemplace⟩ := reachable_ruleStoreInvariant hreach
  refine ⟨hsize, hnext, hinv, fun rule => ?_⟩
  have hfree := hemplace rule (by rw [hnext]; decide)
  rw [← hnext, hfree]

theorem newPolicyCtx_roleMapInvariant : RoleMapInvariant newPolicyCtx where
  size := by simp [newPolicyCtx]
  nodeId := by simp [newPolicyCtx]
  role := by simp [newPolicyCtx]

/-- **Step lemma**: no atomic section breaks the role map. -/
theorem RbacStep.roleMapInvariant {ctx ctx' : SCFPolicyCtx} (hstep : RbacStep ctx ctx')
    (h : RoleMapInvariant ctx) : RoleMapInvariant ctx' := by
  cases hstep with
  | read => exact h
  | freeze => exact ⟨h.size, h.nodeId, h.role⟩
  | enable => exact ⟨h.size, h.nodeId, h.role⟩
  | addRule => exact ⟨h.size, h.nodeId, h.role⟩
  | removeRule => exact ⟨h.size, h.nodeId, h.role⟩
  | setRole nodeId role hid hrole hfrozen hroom =>
    refine ⟨?_, ?_, ?_⟩
    · show (ctx.nodeRoleMap.insert nodeId role).size ≤ 4096
      have hmax : maxNodeRoleMapSize = 4096 := rfl
      have hsize := h.size
      rw [Std.TreeMap.size_insert]
      split_ifs with hmem
      · exact hsize
      · -- a new key: the check found room
        obtain hsome | hlt := hroom
        · rw [← Std.TreeMap.isSome_getElem?_eq_contains] at hmem
          exact absurd (Option.isSome_iff_ne_none.mpr hsome) hmem
        · omega
    · intro id r hr
      obtain ⟨rfl, rfl⟩ | ⟨_, hold⟩ := getElem?_insert_cases hr
      · exact hid
      · exact h.nodeId id r hold
    · intro id r hr
      obtain ⟨rfl, rfl⟩ | ⟨_, hold⟩ := getElem?_insert_cases hr
      · exact hrole
      · exact h.role id r hold
  | removeRole nodeId hfrozen =>
    refine ⟨le_trans Std.TreeMap.size_erase_le h.size, ?_, ?_⟩
    · intro id r hr
      exact h.nodeId id r (getElem?_of_erase hr)
    · intro id r hr
      exact h.role id r (getElem?_of_erase hr)

/-- **Run lemma**: the role map is sound after every sequence of RBAC calls. -/
theorem roleMapInvariant_of_reachable {lib : LibCrypto} {ctx : SCFPolicyCtx}
    (h : (rbacMachine lib).Reachable ctx) : RoleMapInvariant ctx :=
  rbacMachine_invariant newPolicyCtx_roleMapInvariant
    (fun _ _ hstep hctx => hstep.roleMapInvariant hctx) h

end Scf
