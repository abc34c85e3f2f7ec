import ScfSecurity.Rbac.Dependence
import Mathlib.Data.Set.Insert

/-!
# Nodes do not influence each other

Two runs from one context differ by calls about other nodes that only the second one makes.
What the runs have in common treats a node in the same way, so every check of that node gives
the same answer in both.

Rule numbers are shared between the nodes: a call about another node shifts the numbers of
all later rules, and `SCF_RemovePolicyRule` with the same number then removes another rule. So
the removals that the two runs have in common are compared by the rule they name and not by
its number.

## Main definitions

- `AgreeOn`: two contexts that treat a node alike
- `Edit`, `Aligned`: two runs side by side

## Main results

- `Foreign.agreeOn`: calls about other nodes
- `AgreeOn.step`: calls that both runs make
- `Aligned.agreeOn`: the contexts that the two runs reach
-/

namespace Scf

open Automaton

/-- Two contexts treat a node alike: its role and the rules about it are the same, and both
are enabled and frozen or not. -/
structure AgreeOn (nodeId : StdString) (ctx ctx' : SCFPolicyCtx) : Prop where
  enabled : ctx.rbacEnabled = ctx'.rbacEnabled
  frozen : ctx.nodeRoleMapFrozen = ctx'.nodeRoleMapFrozen
  role : ctx.nodeRoleMap[nodeId]? = ctx'.nodeRoleMap[nodeId]?
  rules : tuplesOf nodeId ctx = tuplesOf nodeId ctx'

section

variable {nodeId : StdString} {ctx ctx' ctx'' : SCFPolicyCtx}

theorem AgreeOn.refl (nodeId : StdString) (ctx : SCFPolicyCtx) : AgreeOn nodeId ctx ctx :=
  ⟨rfl, rfl, rfl, rfl⟩

theorem AgreeOn.symm (h : AgreeOn nodeId ctx ctx') : AgreeOn nodeId ctx' ctx :=
  ⟨h.enabled.symm, h.frozen.symm, h.role.symm, h.rules.symm⟩

theorem AgreeOn.trans (h : AgreeOn nodeId ctx ctx') (h' : AgreeOn nodeId ctx' ctx'') :
    AgreeOn nodeId ctx ctx'' :=
  ⟨h.enabled.trans h'.enabled, h.frozen.trans h'.frozen, h.role.trans h'.role,
    h.rules.trans h'.rules⟩

end

/-- The contents of the rule with a number, if there is one. -/
def Names (ctx : SCFPolicyCtx) (ruleId : UInt32) (tuple : RuleTuple) : Prop :=
  ∃ rule, ctx.policyRuleMap[ruleId]? = some rule ∧ ruleTuple rule = tuple

theorem names_iff {ctx : SCFPolicyCtx} {ruleId : UInt32} (rule : SCFPolicyRule)
    (h : ctx.policyRuleMap[ruleId]? = some rule) (tuple : RuleTuple) :
    Names ctx ruleId tuple ↔ ruleTuple rule = tuple := by
  constructor
  · rintro ⟨rule', hrule', htuple⟩
    obtain rfl := Option.some.inj (h.symm.trans hrule')
    exact htuple
  · exact fun htuple => ⟨rule, h, htuple⟩

theorem liveTuples_insert {ctx : SCFPolicyCtx} (h : RuleStoreInvariant ctx)
    (hne : ctx.nextPolicyRuleId ≠ 0) (rule : SCFPolicyRule) :
    liveTuples { ctx with
        policyRuleMap := ctx.policyRuleMap.insert ctx.nextPolicyRuleId rule
        nextPolicyRuleId := succRuleId ctx.nextPolicyRuleId } =
      insert (ruleTuple rule) (liveTuples ctx) := by
  ext tuple
  constructor
  · rintro ⟨rule', ⟨id, hid⟩, rfl⟩
    obtain ⟨_, rfl⟩ | ⟨_, hold⟩ := getElem?_insert_cases hid
    · exact .inl rfl
    · exact .inr ⟨rule', ⟨id, hold⟩, rfl⟩
  · rintro (rfl | ⟨rule', ⟨id, hid⟩, rfl⟩)
    · exact ⟨rule, ⟨ctx.nextPolicyRuleId, Std.TreeMap.getElem?_insert_self⟩, rfl⟩
    · refine ⟨rule', ⟨id, ?_⟩, rfl⟩
      have hid' : ctx.nextPolicyRuleId ≠ id := by
        rintro rfl
        rw [h.fresh hne] at hid
        cases hid
      rw [Std.TreeMap.getElem?_insert, if_neg]
      · exact hid
      · exact fun heq => hid' (Std.LawfulEqCmp.eq_of_compare heq)

/-- Removing a number removes the contents it names and nothing else, since no two rules have
the same contents. -/
theorem liveTuples_erase {ctx : SCFPolicyCtx} (h : RuleStoreInvariant ctx) (ruleId : UInt32) :
    liveTuples { ctx with policyRuleMap := ctx.policyRuleMap.erase ruleId } =
      { tuple ∈ liveTuples ctx | ¬ Names ctx ruleId tuple } := by
  ext tuple
  constructor
  · rintro ⟨rule, ⟨id, hid⟩, rfl⟩
    have hold := getElem?_of_erase hid
    refine ⟨⟨rule, ⟨id, hold⟩, rfl⟩, ?_⟩
    rintro ⟨rule', hrule', htuple⟩
    have hne : id ≠ ruleId := by
      rintro rfl
      rw [Std.TreeMap.getElem?_erase_self] at hid
      cases hid
    refine h.distinct id ruleId rule rule' hold hrule' hne ?_
    simp only [ruleTuple, Prod.mk.injEq] at htuple
    simp only [ruleKey, htuple]
  · rintro ⟨⟨rule, ⟨id, hid⟩, rfl⟩, hnot⟩
    refine ⟨rule, ⟨id, ?_⟩, rfl⟩
    rw [Std.TreeMap.getElem?_erase, if_neg]
    · exact hid
    · intro heq
      obtain rfl := Std.LawfulEqCmp.eq_of_compare heq
      exact hnot ⟨rule, hid, rfl⟩

/-- A rule with the key of `rule` is in force exactly if some contents in force have that
key. -/
theorem hasPolicyRuleKey_iff_mem {ctx : SCFPolicyCtx} {rule : SCFPolicyRule} :
    hasPolicyRuleKey ctx.policyRuleMap rule = true ↔
      ∃ effect, (rule.subjectNodeId, rule.targetNodeId, rule.resourceTypeBitmap,
        rule.actionBitmap, effect) ∈ tuplesOf rule.subjectNodeId ctx := by
  rw [← not_iff_not, Bool.not_eq_true, hasPolicyRuleKey_eq_false_iff]
  constructor
  · rintro hnone ⟨effect, ⟨rule', ⟨id, hid⟩, htuple⟩, _⟩
    refine hnone id rule' hid ?_
    simp only [ruleTuple, Prod.mk.injEq] at htuple
    simp only [ruleKey, htuple]
  · intro hnone id rule' hid hkey
    simp only [ruleKey, Prod.mk.injEq] at hkey
    refine hnone ⟨rule'.effect, ⟨rule', ⟨id, hid⟩, ?_⟩, rfl⟩
    simp only [ruleTuple, hkey]

/-- What `SCF_RemovePolicyRule` leaves of the rules about a node. -/
theorem scfRemovePolicyRule_tuplesOf {ctx : SCFPolicyCtx} (h : RuleStoreInvariant ctx)
    (g : Globals) (ctxPtr : Ptr) (ruleId : UInt32) (nodeId : StdString) :
    tuplesOf nodeId ((scfRemovePolicyRule g ctxPtr ruleId).run ctx).2 =
      { tuple ∈ tuplesOf nodeId ctx |
        ctxPtr = .valid → g.scfInitialized = true → ¬ Names ctx ruleId tuple } := by
  -- a call that changes nothing was refused, or the number is not in use
  have hkeep : (ctxPtr = .valid → g.scfInitialized = true → ctx.policyRuleMap[ruleId]? = none) →
      tuplesOf nodeId ctx = { tuple ∈ tuplesOf nodeId ctx |
        ctxPtr = .valid → g.scfInitialized = true → ¬ Names ctx ruleId tuple } := by
    intro hnone
    ext tuple
    refine ⟨fun htuple => ⟨htuple, ?_⟩, fun htuple => htuple.1⟩
    rintro hptr hg ⟨rule, hrule, _⟩
    rw [hnone hptr hg] at hrule
    cases hrule
  unfold scfRemovePolicyRule
  split_ifs with hptr hzero hg
  · refine hkeep fun hvalid => ?_
    rw [hptr] at hvalid
    cases hvalid
  · refine hkeep fun _ _ => ?_
    rw [hzero, Option.eq_none_iff_forall_ne_some]
    intro rule hrule
    exact absurd (h.number 0 rule hrule).2 (by decide)
  · refine hkeep fun _ hinit => ?_
    rw [hinit] at hg
    cases hg
  · rw [Resumption.run_critical, removePolicyRuleLocked]
    split_ifs with hnone
    · exact hkeep fun _ _ => hnone
    · have hvalid : ctxPtr = .valid := by cases ctxPtr <;> simp_all
      have hinit : g.scfInitialized = true := by simpa using hg
      ext tuple
      unfold tuplesOf
      rw [liveTuples_erase h]
      constructor
      · rintro ⟨⟨hmem, hnot⟩, hsubject⟩
        exact ⟨⟨hmem, hsubject⟩, fun _ _ => hnot⟩
      · rintro ⟨⟨hmem, hsubject⟩, hnot⟩
        exact ⟨⟨hmem, hnot hvalid hinit⟩, hsubject⟩

section Frame

variable {nodeId : StdString} {ctx ctx' : SCFPolicyCtx}

/-- The role of a node does not depend on the entries of other nodes. -/
theorem agreeOn_insert_role {other : StdString} (hne : other ≠ nodeId) (role : SCFRbacRole) :
    AgreeOn nodeId ctx { ctx with nodeRoleMap := ctx.nodeRoleMap.insert other role } := by
  refine ⟨rfl, rfl, ?_, rfl⟩
  show _ = (ctx.nodeRoleMap.insert other role)[nodeId]?
  rw [Std.TreeMap.getElem?_insert, if_neg]
  exact fun heq => hne (Std.LawfulEqCmp.eq_of_compare heq)

@[inherit_doc agreeOn_insert_role]
theorem agreeOn_erase_role {other : StdString} (hne : other ≠ nodeId) :
    AgreeOn nodeId ctx { ctx with nodeRoleMap := ctx.nodeRoleMap.erase other } := by
  refine ⟨rfl, rfl, ?_, rfl⟩
  show _ = (ctx.nodeRoleMap.erase other)[nodeId]?
  rw [Std.TreeMap.getElem?_erase, if_neg]
  exact fun heq => hne (Std.LawfulEqCmp.eq_of_compare heq)

theorem agreeOn_setMappingLocked {other : CString} (hne : other.bytes ≠ nodeId)
    (role : SCFRbacRole) (allocOk : Bool) :
    AgreeOn nodeId ctx (setMappingLocked other role allocOk ctx).2 := by
  unfold setMappingLocked
  split_ifs
  · exact .refl _ _
  · exact .refl _ _
  · exact .refl _ _
  · exact agreeOn_insert_role hne role

theorem agreeOn_removeMappingLocked {other : CString} (hne : other.bytes ≠ nodeId) :
    AgreeOn nodeId ctx (removeMappingLocked other ctx).2 := by
  unfold removeMappingLocked
  split_ifs
  · exact .refl _ _
  · exact .refl _ _
  · exact agreeOn_erase_role hne

/-- The rules about a node with one more rule. -/
theorem tuplesOf_insert (hinv : RuleStoreInvariant ctx) (hne : ctx.nextPolicyRuleId ≠ 0)
    (rule : SCFPolicyRule) :
    tuplesOf nodeId { ctx with
        policyRuleMap := ctx.policyRuleMap.insert ctx.nextPolicyRuleId
          { rule with ruleId := ctx.nextPolicyRuleId }
        nextPolicyRuleId := succRuleId ctx.nextPolicyRuleId } =
      { tuple ∈ insert (ruleTuple rule) (liveTuples ctx) | tuple.1 = nodeId } := by
  unfold tuplesOf
  rw [liveTuples_insert hinv hne]
  rfl

theorem agreeOn_insertPolicyRule (hinv : RuleStoreInvariant ctx) {rule : SCFPolicyRule}
    (hne : rule.subjectNodeId ≠ nodeId) (allocOk : Bool) :
    AgreeOn nodeId ctx (insertPolicyRule rule allocOk ctx).2.2 := by
  rw [insertPolicyRule_eq hinv]
  split_ifs with hkey hfull halloc
  · exact .refl _ _
  · exact .refl _ _
  · exact .refl _ _
  · rw [not_or] at hfull
    refine ⟨rfl, rfl, rfl, ?_⟩
    rw [tuplesOf_insert hinv hfull.2]
    ext tuple
    constructor
    · rintro ⟨hmem, hsubject⟩
      exact ⟨.inr hmem, hsubject⟩
    · rintro ⟨rfl | hmem, hsubject⟩
      · exact absurd hsubject hne
      · exact ⟨hmem, hsubject⟩

end Frame

/-- The call changes rules or roles of other nodes only. -/
def RbacCall.Foreign (nodeId : StdString) (ctx : SCFPolicyCtx) : RbacCall → Prop
  | setNodeRoleMapping _ other _ _ => ∀ id, other = some id → id.bytes ≠ nodeId
  | removeNodeRoleMapping _ other => ∀ id, other = some id → id.bytes ≠ nodeId
  | addPolicyRule _ subject _ _ _ _ _ _ _ => ∀ id, subject = some id → id.bytes ≠ nodeId
  | removePolicyRule _ ruleId => ∀ tuple, Names ctx ruleId tuple → tuple.1 ≠ nodeId
  | _ => False

/-- A call about other nodes leaves what a node may do as it is. -/
theorem Foreign.agreeOn {nodeId : StdString} {ctx : SCFPolicyCtx}
    (hinv : RuleStoreInvariant ctx) (lib : LibCrypto) (g : Globals) {call : RbacCall}
    (h : call.Foreign nodeId ctx) : AgreeOn nodeId ctx ((call.body lib g).run ctx).2 := by
  cases call with
  | setNodeRoleMapping ctxPtr other role allocOk =>
    simp only [RbacCall.body, Resumption.run_monad_bind, Resumption.run_pure]
    obtain hkeep | ⟨id, hother, hrun⟩ := scfSetNodeRoleMapping_run g ctxPtr other role allocOk
    · rw [hkeep]
      exact .refl _ _
    · rw [hrun]
      exact agreeOn_setMappingLocked (h id hother) role allocOk
  | removeNodeRoleMapping ctxPtr other =>
    simp only [RbacCall.body, Resumption.run_monad_bind, Resumption.run_pure]
    obtain hkeep | ⟨id, hother, hrun⟩ := scfRemoveNodeRoleMapping_run g ctxPtr other
    · rw [hkeep]
      exact .refl _ _
    · rw [hrun]
      exact agreeOn_removeMappingLocked (h id hother)
  | addPolicyRule ctxPtr subject target resource action effect ruleId copyOk allocOk =>
    simp only [RbacCall.body, Resumption.run_monad_bind, Resumption.run_pure]
    obtain hkeep | ⟨id, rule, hsubject, hrule, hrun⟩ := scfAddPolicyRule_run g ctxPtr subject
      target resource action effect ruleId copyOk allocOk
    · rw [hkeep]
      exact .refl _ _
    · rw [(hrun ctx).2]
      exact agreeOn_insertPolicyRule hinv (hrule ▸ h id hsubject) allocOk
  | removePolicyRule ctxPtr ruleId =>
    simp only [RbacCall.body, Resumption.run_monad_bind, Resumption.run_pure]
    have htuples := scfRemovePolicyRule_tuplesOf hinv g ctxPtr ruleId nodeId
    obtain ⟨rules, hframe⟩ := scfRemovePolicyRule_frame g ctxPtr ruleId ctx
    rw [hframe] at htuples ⊢
    refine ⟨rfl, rfl, rfl, ?_⟩
    rw [htuples]
    ext tuple
    refine ⟨fun hmem => ⟨hmem, fun _ _ hnames => ?_⟩, fun hmem => hmem.1⟩
    exact h tuple hnames hmem.2
  | _ => exact h.elim

/-- The code a call returns. -/
def RbacAnswer.ret : RbacAnswer → Errno
  | code ret | role ret _ | nodes ret _ | isMaster ret _ | ruleId ret _ | rules ret _ => ret

/-- The errors of a full store, of a duplicate rule and of used up rule numbers. -/
def IsLimit (ret : Errno) : Prop :=
  ret = .rbacPolicyFull ∨ ret = .rbacPolicyDuplicate ∨ ret = .rbacMapFull

/-- Neither of two answers is such an error unless the other one is the same. -/
def SameLimits (ret ret' : Errno) : Prop := IsLimit ret ∨ IsLimit ret' → ret = ret'

/-- The two runs make the same call. A removal may name its rule by different numbers, as
long as it is the same rule in both runs if it is about the node in one of them. -/
inductive SameOperation (nodeId : StdString) (ctx ctx' : SCFPolicyCtx) :
    RbacCall → RbacCall → Prop
  | same (call : RbacCall) (h : ∀ ctxPtr ruleId, call ≠ .removePolicyRule ctxPtr ruleId) :
      SameOperation nodeId ctx ctx' call call
  | removal (ctxPtr : Ptr) {ruleId ruleId' : UInt32}
      (h : ∀ tuple : RuleTuple, tuple.1 = nodeId →
        (Names ctx ruleId tuple ↔ Names ctx' ruleId' tuple)) :
      SameOperation nodeId ctx ctx' (.removePolicyRule ctxPtr ruleId)
        (.removePolicyRule ctxPtr ruleId')

section Lockstep

variable {nodeId : StdString} {ctx ctx' : SCFPolicyCtx}

/-- Setting the role of the node in both contexts. -/
theorem AgreeOn.setMappingLocked (h : AgreeOn nodeId ctx ctx') {id : CString}
    (hid : id.bytes = nodeId) {role : SCFRbacRole} {allocOk : Bool}
    (hlimits : SameLimits (setMappingLocked id role allocOk ctx).1
      (setMappingLocked id role allocOk ctx').1) :
    AgreeOn nodeId (setMappingLocked id role allocOk ctx).2
      (setMappingLocked id role allocOk ctx').2 := by
  subst hid
  -- only the test for a full map can turn out differently
  have hcode : (Scf.setMappingLocked id role allocOk ctx).1 =
      (Scf.setMappingLocked id role allocOk ctx').1 := by
    unfold Scf.setMappingLocked at hlimits ⊢
    rw [h.frozen, h.role] at hlimits ⊢
    split_ifs at hlimits ⊢ <;>
      first
        | rfl
        | cases hlimits (.inl (.inr (.inr rfl)))
        | cases hlimits (.inr (.inr (.inr rfl)))
  obtain ⟨hne, hctx⟩ | hset := setMappingLocked_cases id role allocOk ctx
  · obtain ⟨_, hctx'⟩ | hset' := setMappingLocked_cases id role allocOk ctx'
    · rw [hctx, hctx']
      exact h
    · rw [hcode, hset'] at hne
      exact absurd rfl hne
  · obtain ⟨hne', _⟩ | hset' := setMappingLocked_cases id role allocOk ctx'
    · rw [← hcode, hset] at hne'
      exact absurd rfl hne'
    · rw [hset, hset']
      refine ⟨h.enabled, h.frozen, ?_, h.rules⟩
      show (ctx.nodeRoleMap.insert id.bytes role)[id.bytes]? =
        (ctx'.nodeRoleMap.insert id.bytes role)[id.bytes]?
      rw [Std.TreeMap.getElem?_insert_self, Std.TreeMap.getElem?_insert_self]

/-- Removing the role of the node from both contexts. -/
theorem AgreeOn.removeMappingLocked (h : AgreeOn nodeId ctx ctx') {id : CString}
    (hid : id.bytes = nodeId) :
    AgreeOn nodeId (removeMappingLocked id ctx).2 (removeMappingLocked id ctx').2 := by
  subst hid
  have hcode : (Scf.removeMappingLocked id ctx).1 = (Scf.removeMappingLocked id ctx').1 := by
    unfold Scf.removeMappingLocked
    rw [h.frozen, h.role]
    split_ifs <;> rfl
  obtain ⟨hne, hctx⟩ | hset := removeMappingLocked_cases id ctx
  · obtain ⟨_, hctx'⟩ | hset' := removeMappingLocked_cases id ctx'
    · rw [hctx, hctx']
      exact h
    · rw [hcode, hset'] at hne
      exact absurd rfl hne
  · obtain ⟨hne', _⟩ | hset' := removeMappingLocked_cases id ctx'
    · rw [← hcode, hset] at hne'
      exact absurd rfl hne'
    · rw [hset, hset']
      refine ⟨h.enabled, h.frozen, ?_, h.rules⟩
      show (ctx.nodeRoleMap.erase id.bytes)[id.bytes]? =
        (ctx'.nodeRoleMap.erase id.bytes)[id.bytes]?
      rw [Std.TreeMap.getElem?_erase_self, Std.TreeMap.getElem?_erase_self]

/-- Adding a rule about the node to both contexts: its numbers may differ, its contents do
not. -/
theorem AgreeOn.insertPolicyRule (hinv : RuleStoreInvariant ctx)
    (hinv' : RuleStoreInvariant ctx') (h : AgreeOn nodeId ctx ctx') {rule : SCFPolicyRule}
    (hsubject : rule.subjectNodeId = nodeId) {allocOk : Bool}
    (hlimits : SameLimits (insertPolicyRule rule allocOk ctx).1
      (insertPolicyRule rule allocOk ctx').1) :
    AgreeOn nodeId (insertPolicyRule rule allocOk ctx).2.2
      (insertPolicyRule rule allocOk ctx').2.2 := by
  have hkey : hasPolicyRuleKey ctx.policyRuleMap rule =
      hasPolicyRuleKey ctx'.policyRuleMap rule := by
    rw [Bool.eq_iff_iff, hasPolicyRuleKey_iff_mem, hasPolicyRuleKey_iff_mem, hsubject, h.rules]
  have hcode : (Scf.insertPolicyRule rule allocOk ctx).1 =
      (Scf.insertPolicyRule rule allocOk ctx').1 := by
    rw [insertPolicyRule_eq hinv, insertPolicyRule_eq hinv', hkey] at hlimits ⊢
    split_ifs at hlimits ⊢ <;>
      first
        | rfl
        | cases hlimits (.inl (.inl rfl))
        | cases hlimits (.inr (.inl rfl))
  obtain ⟨hne, hctx⟩ | ⟨_, _, hid, hadd⟩ := insertPolicyRule_cases rule allocOk ctx
  · obtain ⟨_, hctx'⟩ | ⟨_, _, _, hadd'⟩ := insertPolicyRule_cases rule allocOk ctx'
    · rw [hctx, hctx']
      exact h
    · rw [hcode, hadd'] at hne
      exact absurd rfl hne
  · obtain ⟨hne', _⟩ | ⟨_, _, hid', hadd'⟩ := insertPolicyRule_cases rule allocOk ctx'
    · rw [← hcode, hadd] at hne'
      exact absurd rfl hne'
    · rw [hadd, hadd']
      refine ⟨h.enabled, h.frozen, h.role, ?_⟩
      rw [tuplesOf_insert hinv hid, tuplesOf_insert hinv' hid']
      have hmem : ∀ tuple : RuleTuple, tuple.1 = nodeId →
          (tuple ∈ liveTuples ctx ↔ tuple ∈ liveTuples ctx') := by
        intro tuple htuple
        have hiff := Set.ext_iff.mp h.rules tuple
        simpa only [tuplesOf, Set.mem_ofPred_eq, htuple, and_true] using hiff
      ext tuple
      simp only [Set.mem_ofPred_eq, Set.mem_insert_iff]
      constructor
      · rintro ⟨htuple, hnode⟩
        exact ⟨htuple.imp_right (hmem tuple hnode).mp, hnode⟩
      · rintro ⟨htuple, hnode⟩
        exact ⟨htuple.imp_right (hmem tuple hnode).mpr, hnode⟩

end Lockstep

/-- **Step lemma**: a call that both runs make keeps the contexts in agreement about the
node, as long as limits are hit in both of them or in neither. -/
theorem AgreeOn.step {nodeId : StdString} {ctx ctx' : SCFPolicyCtx}
    (hinv : RuleStoreInvariant ctx) (hinv' : RuleStoreInvariant ctx')
    (h : AgreeOn nodeId ctx ctx') (lib : LibCrypto) (g : Globals) {call call' : RbacCall}
    (hsame : SameOperation nodeId ctx ctx' call call')
    (hlimits : SameLimits ((call.body lib g).run ctx).1.ret
      ((call'.body lib g).run ctx').1.ret) :
    AgreeOn nodeId ((call.body lib g).run ctx).2 ((call'.body lib g).run ctx').2 := by
  cases hsame with
  | @removal ctxPtr ruleId ruleId' hnames =>
    simp only [RbacCall.body, Resumption.run_monad_bind, Resumption.run_pure]
    have htuples := scfRemovePolicyRule_tuplesOf hinv g ctxPtr ruleId nodeId
    have htuples' := scfRemovePolicyRule_tuplesOf hinv' g ctxPtr ruleId' nodeId
    obtain ⟨rules, hframe⟩ := scfRemovePolicyRule_frame g ctxPtr ruleId ctx
    obtain ⟨rules', hframe'⟩ := scfRemovePolicyRule_frame g ctxPtr ruleId' ctx'
    rw [hframe] at htuples ⊢
    rw [hframe'] at htuples' ⊢
    refine ⟨h.enabled, h.frozen, h.role, ?_⟩
    rw [htuples, htuples', h.rules]
    ext tuple
    simp only [Set.mem_ofPred_eq]
    refine and_congr_right fun hmem => ?_
    rw [hnames tuple hmem.2]
  | same call hcall =>
    by_cases hread : call.IsRead
    · rw [RbacCall.run_of_isRead lib g hread, RbacCall.run_of_isRead lib g hread]
      exact h
    cases call with
    | setNodeRoleMapping ctxPtr other role allocOk =>
      simp only [RbacCall.body, Resumption.run_monad_bind, Resumption.run_pure] at hlimits ⊢
      obtain hkeep | ⟨id, hother, hrun⟩ := scfSetNodeRoleMapping_run g ctxPtr other role allocOk
      · rw [hkeep, hkeep]
        exact h
      · rw [hrun, hrun] at hlimits ⊢
        by_cases hid : id.bytes = nodeId
        · exact h.setMappingLocked hid hlimits
        · exact ((agreeOn_setMappingLocked hid role allocOk).symm.trans h).trans
            (agreeOn_setMappingLocked hid role allocOk)
    | removeNodeRoleMapping ctxPtr other =>
      simp only [RbacCall.body, Resumption.run_monad_bind, Resumption.run_pure]
      obtain hkeep | ⟨id, hother, hrun⟩ := scfRemoveNodeRoleMapping_run g ctxPtr other
      · rw [hkeep, hkeep]
        exact h
      · rw [hrun, hrun]
        by_cases hid : id.bytes = nodeId
        · exact h.removeMappingLocked hid
        · exact ((agreeOn_removeMappingLocked hid).symm.trans h).trans
            (agreeOn_removeMappingLocked hid)
    | addPolicyRule ctxPtr subject target resource action effect ruleId copyOk allocOk =>
      simp only [RbacCall.body, Resumption.run_monad_bind, Resumption.run_pure] at hlimits ⊢
      obtain hkeep | ⟨id, rule, _, _, hrun⟩ := scfAddPolicyRule_run g ctxPtr subject target
        resource action effect ruleId copyOk allocOk
      · rw [hkeep, hkeep]
        exact h
      · rw [(hrun ctx).2, (hrun ctx').2]
        by_cases hid : rule.subjectNodeId = nodeId
        · refine h.insertPolicyRule hinv hinv' hid ?_
          rw [← (hrun ctx).1, ← (hrun ctx').1]
          exact hlimits
        · exact ((agreeOn_insertPolicyRule hinv hid allocOk).symm.trans h).trans
            (agreeOn_insertPolicyRule hinv' hid allocOk)
    | removePolicyRule ctxPtr ruleId => exact absurd rfl (hcall ctxPtr ruleId)
    | enableRbac ctxPtr enable =>
      simp only [RbacCall.body, Resumption.run_monad_bind, Resumption.run_pure, scfEnableRbac]
      split_ifs
      · exact h
      · exact h
      · exact ⟨rfl, h.frozen, h.role, h.rules⟩
    | freeze ctxPtr =>
      simp only [RbacCall.body, Resumption.run_monad_bind, Resumption.run_pure,
        freezeNodeRoleMapping]
      split_ifs
      · exact h
      · exact ⟨h.enabled, rfl, h.role, h.rules⟩
    | _ => exact absurd trivial hread

/-- Two runs side by side: a call of both runs, or a call that only the second one makes. -/
inductive Edit where
  | both (g : Globals) (call call' : RbacCall)
  | inserted (g : Globals) (call : RbacCall)

/-- The call of the first run. -/
def Edit.first : Edit → Option (Globals × RbacCall)
  | both g call _ => some (g, call)
  | inserted _ _ => none

/-- The call of the second run. -/
def Edit.second : Edit → Option (Globals × RbacCall)
  | both g _ call' => some (g, call')
  | inserted g call => some (g, call)

/-- The second run makes the calls of the first one, in the sense of `same`, and calls about
other nodes in between; where both make a call, they hit the same limits. -/
def Aligned (lib : LibCrypto) (nodeId : StdString)
    (same : SCFPolicyCtx → SCFPolicyCtx → RbacCall → RbacCall → Prop) :
    List Edit → SCFPolicyCtx → SCFPolicyCtx → Prop
  | [], _, _ => True
  | .both g call call' :: rest, ctx, ctx' =>
    same ctx ctx' call call' ∧
      SameLimits ((call.body lib g).run ctx).1.ret ((call'.body lib g).run ctx').1.ret ∧
      Aligned lib nodeId same rest ((call.body lib g).run ctx).2 ((call'.body lib g).run ctx').2
  | .inserted g call :: rest, ctx, ctx' =>
    call.Foreign nodeId ctx' ∧ Aligned lib nodeId same rest ctx ((call.body lib g).run ctx').2

/-- **Run lemma**: at the end of both runs the contexts agree about the node. -/
theorem Aligned.agreeOn {lib : LibCrypto} {nodeId : StdString} (edits rest : List Edit) :
    ∀ {ctx ctx' : SCFPolicyCtx}, (rbacMachine lib).Reachable ctx →
      (rbacMachine lib).Reachable ctx' → AgreeOn nodeId ctx ctx' →
      Aligned lib nodeId (SameOperation nodeId) (edits ++ rest) ctx ctx' →
      AgreeOn nodeId ((rbacMachine lib).after ctx (edits.filterMap Edit.first))
        ((rbacMachine lib).after ctx' (edits.filterMap Edit.second)) := by
  induction edits with
  | nil => exact fun _ _ h _ => h
  | cons edit edits ih =>
    intro ctx ctx' hctx hctx' h haligned
    have hinv := ruleStoreInvariant_of_reachable hctx
    have hinv' := ruleStoreInvariant_of_reachable hctx'
    cases edit with
    | both g call call' =>
      obtain ⟨hsame, hlimits, hrest⟩ := haligned
      exact ih (hctx.step (g, call)) (hctx'.step (g, call'))
        (h.step hinv hinv' lib g hsame hlimits) hrest
    | inserted g call =>
      obtain ⟨hforeign, hrest⟩ := haligned
      exact ih hctx (hctx'.step (g, call))
        (h.trans (Foreign.agreeOn hinv' lib g hforeign)) hrest

/-- The wildcard is neither the subject of a rule nor a node with a role nor the identity of
a certificate. -/
structure WildcardFree (lib : LibCrypto) (ctx : SCFPolicyCtx) : Prop where
  subject : ∀ rule, LiveRule ctx.policyRuleMap rule → rule.subjectNodeId ≠ CString.star.bytes
  mapping : ctx.nodeRoleMap[CString.star.bytes]? = none
  identity : ∀ cert nodeId, certNodeId lib cert = .valid nodeId → nodeId ≠ CString.star

theorem wildcardFree_of_reachable {lib : LibCrypto} {ctx : SCFPolicyCtx}
    (h : (rbacMachine lib).Reachable ctx) : WildcardFree lib ctx := by
  refine ⟨?_, ?_, ?_⟩
  · rintro rule ⟨id, hid⟩
    exact ((ruleStoreInvariant_of_reachable h).wellFormed id rule hid).subject.ne_star
  · rw [Option.eq_none_iff_forall_ne_some]
    intro role hrole
    exact ((roleMapInvariant_of_reachable h).nodeId _ role hrole).ne_star rfl
  · rintro cert nodeId hid rfl
    exact ((isValidNodeId_iff _).mp (certNodeId_valid hid)).ne_star rfl

/-- Rules and roles of other nodes never influence what a node may do: if two runs from one
context differ only by calls about other nodes, each check of the node that both of them
make gets the same answer. The wildcard is no node. -/
theorem check_isolated {lib : LibCrypto} {ctx : SCFPolicyCtx}
    (hctx : (rbacMachine lib).Reachable ctx) {nodeId : CString} {edits rest : List Edit}
    {g : Globals} {ctxPtr : Ptr} {cert : X509} {targetNodeId : Option CString}
    {resourceType : UInt32} {action : SCFResourceAction} {check : RbacCall}
    (hcheck : check = .checkResourcePermission ctxPtr (some cert) targetNodeId resourceType action)
    (hcert : certNodeId lib cert = .valid nodeId)
    (hruns : Aligned lib nodeId.bytes (SameOperation nodeId.bytes)
      (edits ++ .both g check check :: rest) ctx ctx) :
    ((rbacMachine lib).step
        ((rbacMachine lib).after ctx (edits.filterMap Edit.first)) (g, check)).1 =
      ((rbacMachine lib).step
        ((rbacMachine lib).after ctx (edits.filterMap Edit.second)) (g, check)).1 ∧
      WildcardFree lib ctx := by
  refine ⟨?_, wildcardFree_of_reachable hctx⟩
  subst hcheck
  have hagree := Aligned.agreeOn edits _ hctx hctx (.refl _ _) hruns
  have hanswer := check_congr
    (ruleStoreInvariant_of_reachable (hctx.after (edits.filterMap Edit.first)))
    (ruleStoreInvariant_of_reachable (hctx.after (edits.filterMap Edit.second)))
    g lib ctxPtr (some cert) targetNodeId resourceType action hagree.enabled ?_
  · simp only [rbacMachine, RbacCall.body, Resumption.run_monad_bind, Resumption.run_pure]
    exact congrArg RbacAnswer.code hanswer
  · intro cert' nodeId' hsome hid
    obtain rfl := Option.some.inj hsome
    rw [hcert] at hid
    cases hid
    exact ⟨hagree.role, hagree.rules⟩

/-- RBAC is enabled and node `a` is a slave. -/
def slaveOnlyCtx : SCFPolicyCtx :=
  (rbacMachine .shortForm).after newPolicyCtx
    [(.ready, .enableRbac .valid true),
      (.ready, .setNodeRoleMapping .valid (some nodeA) .slave true)]

theorem reachable_slaveOnlyCtx : (rbacMachine .shortForm).Reachable slaveOnlyCtx :=
  (reachable_newPolicyCtx _).after _

/-- Node `a` gets a rule that allows it files of any node. -/
def allowA : RbacCall :=
  .addPolicyRule .valid (some nodeA) (some .star) 1 1 .allow .valid true true

/-- Node `b` gets a rule. -/
def allowB : RbacCall :=
  .addPolicyRule .valid (some nodeB) (some .star) 1 1 .allow .valid true true

def checkA : RbacCall := .checkResourcePermission .valid (some certOfNodeA) (some nodeB) 1 1

/-- Node `a` gets a rule and loses it again. In the second run a rule of node `b` comes first,
so the rule of node `a` has another number there. -/
def ownRemoval : List Edit :=
  [.inserted .ready allowB, .both .ready allowA allowA,
    .both .ready (.removePolicyRule .valid 1) (.removePolicyRule .valid 2)]

theorem allowB_foreign (ctx : SCFPolicyCtx) : allowB.Foreign nodeA.bytes ctx := by
  intro id hid
  obtain rfl := Option.some.inj hid
  decide

theorem aligned_ownRemoval :
    Aligned .shortForm nodeA.bytes (SameOperation nodeA.bytes)
      (ownRemoval ++ [.both .ready checkA checkA]) slaveOnlyCtx slaveOnlyCtx := by
  refine ⟨allowB_foreign _, .same _ (by intro _ _; simp [allowA]), fun _ => rfl, .removal _ ?_,
    fun _ => rfl, .same _ (by intro _ _; simp [checkA]), fun _ => rfl, trivial⟩
  intro tuple _
  exact (names_iff ⟨1, nodeA.bytes, CString.star.bytes, 1, 1, .allow⟩ rfl tuple).trans
    (names_iff ⟨2, nodeA.bytes, CString.star.bytes, 1, 1, .allow⟩ rfl tuple).symm

theorem check_isolated_ownRemoval :
    ((rbacMachine .shortForm).step ((rbacMachine .shortForm).after slaveOnlyCtx
        (ownRemoval.filterMap Edit.first)) (.ready, checkA)).1 =
      ((rbacMachine .shortForm).step ((rbacMachine .shortForm).after slaveOnlyCtx
        (ownRemoval.filterMap Edit.second)) (.ready, checkA)).1 :=
  (check_isolated reachable_slaveOnlyCtx rfl rfl aligned_ownRemoval).1

/-- The same calls with the same numbers: the second run removes the rule of node `b`. -/
def sameNumber : List Edit :=
  [.inserted .ready allowB, .both .ready allowA allowA,
    .both .ready (.removePolicyRule .valid 1) (.removePolicyRule .valid 1)]

/-- Compared by its number, a removal ties the nodes together: two runs that make the same
calls, but for a rule of node `b` that the second one adds, answer a check of node `a`
differently. -/
theorem removal_by_number_interferes :
    ∃ (ctx : SCFPolicyCtx) (edits : List Edit), (rbacMachine .shortForm).Reachable ctx ∧
      certNodeId .shortForm certOfNodeA = .valid nodeA ∧
      Aligned .shortForm nodeA.bytes (fun _ _ call call' => call = call')
        (edits ++ [.both .ready checkA checkA]) ctx ctx ∧
      ((rbacMachine .shortForm).step ((rbacMachine .shortForm).after ctx
          (edits.filterMap Edit.first)) (.ready, checkA)).1 = .code .rbacDenied ∧
      ((rbacMachine .shortForm).step ((rbacMachine .shortForm).after ctx
          (edits.filterMap Edit.second)) (.ready, checkA)).1 = .code .success := by
  refine ⟨slaveOnlyCtx, sameNumber, reachable_slaveOnlyCtx, rfl, ?_, by decide, by decide⟩
  refine ⟨allowB_foreign _, rfl, fun _ => rfl, rfl, fun _ => rfl, rfl, ?_, trivial⟩
  -- the answers of the check differ, but neither of them is a limit
  rintro ((h | h | h) | (h | h | h)) <;> cases h

end Scf
