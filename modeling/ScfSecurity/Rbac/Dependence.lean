import ScfSecurity.Rbac.Decision
import Mathlib.Data.Set.Basic

/-!
# What a permission check depends on

The answer of `SCF_CheckResourcePermission` for a node depends on the enabled flag, on the
role of that node and on the contents of the rules about it. The numbers of the rules, the
order in which they were added and what is stored about other nodes play no part.

## Main definitions

- `RuleTuple`: the contents of a rule, without its number
- `liveTuples`: the contents of the rules in force

## Main results

- `decision_congr`: the decision depends on the rules about the local node only
- `check_congr`: so does the answer of the whole check
-/

namespace Scf

open Automaton Selection

/-- The contents of a rule: subject, target, resource bitmap, action bitmap, effect. -/
abbrev RuleTuple := StdString × StdString × UInt32 × UInt32 × SCFPolicyEffect

def ruleTuple (rule : SCFPolicyRule) : RuleTuple :=
  (rule.subjectNodeId, rule.targetNodeId, rule.resourceTypeBitmap, rule.actionBitmap,
    rule.effect)

/-- The contents of the rules in force. -/
def liveTuples (ctx : SCFPolicyCtx) : Set RuleTuple :=
  { tuple | ∃ rule, LiveRule ctx.policyRuleMap rule ∧ ruleTuple rule = tuple }

/-- The rules in force with a given subject. -/
def tuplesOf (nodeId : StdString) (ctx : SCFPolicyCtx) : Set RuleTuple :=
  { tuple ∈ liveTuples ctx | tuple.1 = nodeId }

theorem mem_liveTuples_iff {ctx : SCFPolicyCtx} {tuple : RuleTuple} :
    tuple ∈ liveTuples ctx ↔ tuple ∈ (ruleList ctx.policyRuleMap).map ruleTuple := by
  simp only [liveTuples, Set.mem_ofPred_eq, List.mem_map, mem_ruleList]

/-- Rules with the same contents are treated alike by the scan. -/
theorem ruleSelector_congr (request : PolicyMatchRequest) {rule rule' : SCFPolicyRule}
    (h : ruleTuple rule = ruleTuple rule') :
    (ruleSelector request).applies rule = (ruleSelector request).applies rule' ∧
      (ruleSelector request).rank rule = (ruleSelector request).rank rule' ∧
      (ruleSelector request).value rule = (ruleSelector request).value rule' := by
  simp only [ruleTuple, Prod.mk.injEq] at h
  obtain ⟨hsubject, htarget, hresource, haction, heffect⟩ := h
  simp only [ruleSelector, isRuleMatched, getMatchPriority, hsubject, htarget, hresource,
    haction, heffect, and_self]

/-- The rules of one context stand in for those of the other as far as a request is
concerned. -/
theorem offers_of_tuplesOf {request : PolicyMatchRequest} {ctx ctx' : SCFPolicyCtx}
    (h : tuplesOf request.subjectNodeId.bytes ctx = tuplesOf request.subjectNodeId.bytes ctx') :
    (ruleSelector request).Offers (ruleList ctx.policyRuleMap) (ruleList ctx'.policyRuleMap) := by
  intro rule hrule happ
  -- an applicable rule has the subject of the request
  have hsubject : rule.subjectNodeId = request.subjectNodeId.bytes := by
    have hmatched : isRuleMatched rule request = true := happ
    simp only [isRuleMatched, Bool.and_eq_true, decide_eq_true_eq] at hmatched
    exact hmatched.1.1.1
  have hmem : ruleTuple rule ∈ tuplesOf request.subjectNodeId.bytes ctx :=
    ⟨⟨rule, mem_ruleList.mp hrule, rfl⟩, hsubject⟩
  rw [h] at hmem
  obtain ⟨⟨rule', hlive', htuple⟩, _⟩ := hmem
  obtain ⟨happ', hrank, hvalue⟩ := ruleSelector_congr request htuple
  exact ⟨rule', mem_ruleList.mpr hlive', happ'.trans happ, hrank, hvalue⟩

/-- With sound rules the effect found is `allow` exactly if it does not break ties. -/
theorem matchPolicyRule_allow_iff {request : PolicyMatchRequest} {ctx : SCFPolicyCtx}
    (hrules : RuleStoreInvariant ctx)
    (hfound : (matchPolicyRule ctx.policyRuleMap request (some .deny)).1 = true) :
    (matchPolicyRule ctx.policyRuleMap request (some .deny)).2 = some .allow ↔
      ¬ (ruleSelector request).breaks
        ((ruleSelector request).scan SCFPolicyEffect.deny (ruleList ctx.policyRuleMap)).2 := by
  obtain ⟨rule, htop, heffect⟩ := matchPolicyRule_effect .deny hfound
  obtain ⟨id, hid⟩ := mem_ruleList.mp htop.1
  have hscan : ((ruleSelector request).scan SCFPolicyEffect.deny
      (ruleList ctx.policyRuleMap)).2 = rule.effect := by
    rw [matchPolicyRule_eq_scan] at heffect
    exact Option.some.inj heffect
  rw [heffect, hscan]
  show some rule.effect = some .allow ↔ ¬ decide (rule.effect = .deny) = true
  obtain hallow | hdeny := (hrules.wellFormed id rule hid).effect
  · rw [hallow]
    decide
  · rw [hdeny]
    decide

/-- The decision depends on the contents of the rules about the local node only. -/
theorem decision_congr {request : PolicyMatchRequest} {ctx ctx' : SCFPolicyCtx}
    (hrules : RuleStoreInvariant ctx) (hrules' : RuleStoreInvariant ctx')
    (h : tuplesOf request.subjectNodeId.bytes ctx = tuplesOf request.subjectNodeId.bytes ctx')
    (role : SCFRbacRole) : decision request role ctx = decision request role ctx' := by
  obtain ⟨hrank, hbreaks⟩ := (ruleSelector request).scan_congr SCFPolicyEffect.deny
    (offers_of_tuplesOf h) (offers_of_tuplesOf h.symm)
  have hfound : (matchPolicyRule ctx.policyRuleMap request (some .deny)).1 =
      (matchPolicyRule ctx'.policyRuleMap request (some .deny)).1 := by
    rw [matchPolicyRule_eq_scan, matchPolicyRule_eq_scan, hrank]
  unfold decision
  rw [← hfound]
  by_cases hmatch : (matchPolicyRule ctx.policyRuleMap request (some .deny)).1 = true
  · have hne : ((ruleSelector request).scan SCFPolicyEffect.deny
        (ruleList ctx.policyRuleMap)).1 ≠ 0 := by
      rw [matchPolicyRule_eq_scan] at hmatch
      exact of_decide_eq_true hmatch
    rw [if_pos hmatch, if_pos hmatch]
    simp only [matchPolicyRule_allow_iff hrules hmatch,
      matchPolicyRule_allow_iff hrules' (hfound ▸ hmatch), hbreaks hne]
  · rw [if_neg hmatch, if_neg hmatch]

/-- The answer of the check depends on the flag and, for the node of the certificate, on its
role and on the contents of the rules about it. -/
theorem check_congr {ctx ctx' : SCFPolicyCtx} (hrules : RuleStoreInvariant ctx)
    (hrules' : RuleStoreInvariant ctx') (g : Globals) (lib : LibCrypto) (ctxPtr : Ptr)
    (localCert : Option X509) (targetNodeId : Option CString) (resourceType : UInt32)
    (action : SCFResourceAction) (henabled : ctx.rbacEnabled = ctx'.rbacEnabled)
    (hnode : ∀ cert nodeId, localCert = some cert → certNodeId lib cert = .valid nodeId →
      ctx.nodeRoleMap[nodeId.bytes]? = ctx'.nodeRoleMap[nodeId.bytes]? ∧
        tuplesOf nodeId.bytes ctx = tuplesOf nodeId.bytes ctx') :
    ((scfCheckResourcePermission g lib ctxPtr localCert targetNodeId resourceType
        action).run ctx).1 =
      ((scfCheckResourcePermission g lib ctxPtr localCert targetNodeId resourceType
        action).run ctx').1 := by
  obtain _ | _ := ctxPtr
  · rfl
  obtain _ | cert := localCert
  · rfl
  obtain _ | targetNodeId := targetNodeId
  · rfl
  by_cases hreq : ValidRequest targetNodeId resourceType action
  · cases hg : g.scfInitialized with
    | false =>
      rw [scfCheckResourcePermission_of_not_init hg lib cert hreq]
      rfl
    | true =>
      have hcheck := checkAtomic_eq hg lib cert hreq
      unfold checkAtomic at hcheck
      rw [hcheck, hcheck, henabled]
      cases hid : certNodeId lib cert with
      | absent => rfl
      | malformed => rfl
      | valid nodeId =>
        obtain ⟨hrole, htuples⟩ := hnode cert nodeId rfl hid
        have hlocal : localRole lib cert nodeId ctx = localRole lib cert nodeId ctx' := by
          simp only [localRole, hrole]
        dsimp only
        rw [hlocal]
        cases localRole lib cert nodeId ctx' with
        | error ret => rfl
        | ok role =>
          have hdecision : decision ⟨nodeId, targetNodeId, resourceType, action⟩ role ctx =
              decision ⟨nodeId, targetNodeId, resourceType, action⟩ role ctx' :=
            decision_congr hrules hrules' htuples role
          dsimp only
          rw [hdecision]
  · rw [scfCheckResourcePermission_of_not_validRequest g lib cert hreq]
    rfl

/-- Decisions depend on the contents of the rules in force, on the role map and on the flag:
two histories of a context that end with the same ones answer every check alike, whatever
the order of their calls and the numbers of their rules. -/
theorem check_history_independent {lib : LibCrypto} {ctx ctx' : SCFPolicyCtx}
    (h : (rbacMachine lib).Reachable ctx) (h' : (rbacMachine lib).Reachable ctx')
    (htuples : liveTuples ctx = liveTuples ctx')
    (hroles : ∀ nodeId : StdString, ctx.nodeRoleMap[nodeId]? = ctx'.nodeRoleMap[nodeId]?)
    (henabled : ctx.rbacEnabled = ctx'.rbacEnabled) (g : Globals) (ctxPtr : Ptr)
    (localCert : Option X509) (targetNodeId : Option CString) (resourceType : UInt32)
    (action : SCFResourceAction) :
    ((scfCheckResourcePermission g lib ctxPtr localCert targetNodeId resourceType
        action).run ctx).1 =
      ((scfCheckResourcePermission g lib ctxPtr localCert targetNodeId resourceType
        action).run ctx').1 := by
  refine check_congr (ruleStoreInvariant_of_reachable h) (ruleStoreInvariant_of_reachable h')
    g lib ctxPtr localCert targetNodeId resourceType action henabled ?_
  intro cert nodeId _ _
  refine ⟨hroles nodeId.bytes, ?_⟩
  unfold tuplesOf
  rw [htuples]

/-- Node `a` may open files of any node, but not release anything of node `b`. -/
def twoRulesCtx : SCFPolicyCtx :=
  (rbacMachine .shortForm).after newPolicyCtx
    [(.ready, .enableRbac .valid true),
      (.ready, .setNodeRoleMapping .valid (some nodeA) .slave true),
      (.ready, .addPolicyRule .valid (some nodeA) (some .star) 1 3 .allow .valid true true),
      (.ready, .addPolicyRule .valid (some nodeA) (some nodeB) 7 2 .deny .valid true true)]

/-- The same rules, added the other way round and with other numbers. -/
def twoRulesCtx' : SCFPolicyCtx :=
  (rbacMachine .shortForm).after newPolicyCtx
    [(.ready, .addPolicyRule .valid (some nodeA) (some nodeB) 7 2 .deny .valid true true),
      (.ready, .addPolicyRule .valid (some nodeB) (some nodeA) 1 1 .deny .valid true true),
      (.ready, .setNodeRoleMapping .valid (some nodeA) .slave true),
      (.ready, .addPolicyRule .valid (some nodeA) (some .star) 1 3 .allow .valid true true),
      (.ready, .removePolicyRule .valid 2), (.ready, .enableRbac .valid true)]

theorem liveTuples_twoRulesCtx : liveTuples twoRulesCtx = liveTuples twoRulesCtx' := by
  have hperm : ((ruleList twoRulesCtx.policyRuleMap).map ruleTuple).Perm
      ((ruleList twoRulesCtx'.policyRuleMap).map ruleTuple) := by decide
  ext tuple
  rw [mem_liveTuples_iff, mem_liveTuples_iff, hperm.mem_iff]

theorem check_history_independent_twoRules :
    ((scfCheckResourcePermission .ready .shortForm .valid (some certOfNodeA) (some nodeB) 1
        2).run twoRulesCtx).1 =
      ((scfCheckResourcePermission .ready .shortForm .valid (some certOfNodeA) (some nodeB) 1
        2).run twoRulesCtx').1 :=
  check_history_independent ((reachable_newPolicyCtx _).after _)
    ((reachable_newPolicyCtx _).after _) liveTuples_twoRulesCtx
    (fun _ => rfl) rfl _ _ _ _ _ _

end Scf
