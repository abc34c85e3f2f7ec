import ScfSecurity.Library.Selection
import ScfSecurity.Rbac.NodeIdentity
import Mathlib.Data.Nat.Bitwise

/-!
# Matching policy rules

`policy_matcher.cpp`: the rules are scanned in the order of their numbers, and the
effect of the most specific matching rule is kept; among equally specific rules a
denial wins. The scan is an instance of `Selection.Selector`, so its result is
described without reference to the order.

## Main definitions

- `matchPolicyRule`: `MatchPolicyRule`
- `Covers`: a rule speaks about a request
- `exactFields`: how many fields of a rule are equal to those of the request
- `Decisive`: the covering rules with the most exact fields

## Main results

- `matchPolicyRule_found_iff`: a rule is found exactly if one covers the request
- `matchPolicyRule_deny_iff`: the effect is a denial exactly if a decisive rule
  denies
-/

namespace Scf

open Selection

/-- `PolicyMatchRequest`. -/
structure PolicyMatchRequest where
  subjectNodeId : CString
  targetNodeId : CString
  resourceType : UInt32
  action : SCFResourceAction

/-- `IsRuleMatched`. -/
def isRuleMatched (rule : SCFPolicyRule) (request : PolicyMatchRequest) : Bool :=
  rule.subjectNodeId = request.subjectNodeId.bytes &&
    (rule.targetNodeId = request.targetNodeId.bytes || rule.targetNodeId = ascii "*") &&
    rule.resourceTypeBitmap &&& request.resourceType ≠ 0 &&
    rule.actionBitmap &&& request.action ≠ 0

/-- `GetMatchPriority`: one, and one more for each exact field. -/
def getMatchPriority (rule : SCFPolicyRule) (request : PolicyMatchRequest) : ℕ :=
  1 + (if rule.targetNodeId = request.targetNodeId.bytes then 1 else 0) +
    (if rule.resourceTypeBitmap = request.resourceType then 1 else 0) +
    (if rule.actionBitmap = request.action then 1 else 0)

/-- `ShouldReplaceMatch`. -/
def shouldReplaceMatch (priority : ℕ) (effect : SCFPolicyEffect) (highestPriority : ℕ) :
    Bool :=
  priority > highestPriority || (priority = highestPriority && effect = .deny)

/-- The body of the loop of `MatchPolicyRule`: the highest priority and the effect
so far, and one more rule. -/
def matchStep (request : PolicyMatchRequest) (best : ℕ × SCFPolicyEffect)
    (rule : SCFPolicyRule) : ℕ × SCFPolicyEffect :=
  if !isRuleMatched rule request then best
  else if !shouldReplaceMatch (getMatchPriority rule request) rule.effect best.1 then best
  else (getMatchPriority rule request, rule.effect)

/-- `MatchPolicyRule`: whether a rule matches, and what is in `*effect` afterwards. -/
def matchPolicyRule (rules : Std.TreeMap UInt32 SCFPolicyRule)
    (request : PolicyMatchRequest) (effect : Option SCFPolicyEffect) :
    Bool × Option SCFPolicyEffect :=
  match effect with
  | none => (false, none)
  | some effect =>
    let best := rules.foldl (fun best _ rule => matchStep request best rule) (0, effect)
    (best.1 ≠ 0, some best.2)

/-- A rule is in force. -/
def LiveRule (rules : Std.TreeMap UInt32 SCFPolicyRule) (rule : SCFPolicyRule) : Prop :=
  ∃ id : UInt32, rules[id]? = some rule

/-- A rule speaks about a request: the subject is the same, the target is the same
or the wildcard, and both bitmaps cover the request. -/
structure Covers (rule : SCFPolicyRule) (request : PolicyMatchRequest) : Prop where
  subject : rule.subjectNodeId = request.subjectNodeId.bytes
  target : rule.targetNodeId = request.targetNodeId.bytes ∨
    rule.targetNodeId = CString.star.bytes
  resource : rule.resourceTypeBitmap &&& request.resourceType = request.resourceType
  action : rule.actionBitmap &&& request.action = request.action

/-- How many of target, resource bitmap and action bitmap are exactly those of the
request. -/
def exactFields (rule : SCFPolicyRule) (request : PolicyMatchRequest) : ℕ :=
  (if rule.targetNodeId = request.targetNodeId.bytes then 1 else 0) +
    (if rule.resourceTypeBitmap = request.resourceType then 1 else 0) +
    (if rule.actionBitmap = request.action then 1 else 0)

/-- The rules in force that cover the request with the most exact fields. -/
def Decisive (rules : Std.TreeMap UInt32 SCFPolicyRule) (request : PolicyMatchRequest)
    (rule : SCFPolicyRule) : Prop :=
  LiveRule rules rule ∧ Covers rule request ∧
    ∀ rule', LiveRule rules rule' → Covers rule' request →
      exactFields rule' request ≤ exactFields rule request

/-- The request asks for one resource type and one action, as the permission check
ensures before it matches. -/
def PolicyMatchRequest.Single (request : PolicyMatchRequest) : Prop :=
  isSingleResourceType request.resourceType ∧ isSingleResourceAction request.action

/-- A bitmap meets a single bit exactly if it covers it. -/
theorem and_ne_zero_iff_of_single {bitmap bit : UInt32} {i : ℕ} (hbit : bit.toNat = 2 ^ i) :
    bitmap &&& bit ≠ 0 ↔ bitmap &&& bit = bit := by
  have hand : (bitmap &&& bit).toNat = (bitmap.toNat.testBit i).toNat * 2 ^ i := by
    rw [UInt32.toNat_and, hbit, Nat.and_two_pow]
  have hpos : 2 ^ i ≠ 0 := (Nat.two_pow_pos i).ne'
  rw [ne_eq, ← UInt32.toNat_inj, ← UInt32.toNat_inj, hand, hbit]
  cases bitmap.toNat.testBit i <;> simp [hpos.symm]

theorem PolicyMatchRequest.Single.toNat {request : PolicyMatchRequest} (h : request.Single) :
    (∃ i, request.resourceType.toNat = 2 ^ i) ∧ ∃ j, request.action.toNat = 2 ^ j := by
  obtain ⟨hres, hact⟩ := h
  constructor
  · obtain h | h | h := (isSingleResourceType_iff _).mp hres
    · exact ⟨0, by rw [h]; rfl⟩
    · exact ⟨1, by rw [h]; rfl⟩
    · exact ⟨2, by rw [h]; rfl⟩
  · obtain h | h := (isSingleResourceAction_iff _).mp hact
    · exact ⟨0, by rw [h]; rfl⟩
    · exact ⟨1, by rw [h]; rfl⟩

theorem isRuleMatched_iff {rule : SCFPolicyRule} {request : PolicyMatchRequest}
    (h : request.Single) : isRuleMatched rule request = true ↔ Covers rule request := by
  obtain ⟨⟨i, hi⟩, j, hj⟩ := h.toNat
  have hstar : ascii "*" = CString.star.bytes := by decide
  simp only [isRuleMatched, Bool.and_eq_true, Bool.or_eq_true, decide_eq_true_eq, hstar,
    and_ne_zero_iff_of_single hi, and_ne_zero_iff_of_single hj]
  constructor
  · rintro ⟨⟨⟨hs, ht⟩, hr⟩, ha⟩
    exact ⟨hs, ht, hr, ha⟩
  · rintro ⟨hs, ht, hr, ha⟩
    exact ⟨⟨⟨hs, ht⟩, hr⟩, ha⟩

theorem getMatchPriority_eq (rule : SCFPolicyRule) (request : PolicyMatchRequest) :
    getMatchPriority rule request = 1 + exactFields rule request := by
  simp only [getMatchPriority, exactFields]
  omega

/-- The scan of `MatchPolicyRule` as a selection: matching rules by priority, a
denial breaking ties. -/
def ruleSelector (request : PolicyMatchRequest) : Selector SCFPolicyRule SCFPolicyEffect where
  applies rule := isRuleMatched rule request
  rank rule := getMatchPriority rule request
  value rule := rule.effect
  breaks effect := effect = .deny
  rank_pos rule := by
    rw [getMatchPriority_eq]
    omega

/-- The rules in the order in which the scan visits them. -/
def ruleList (rules : Std.TreeMap UInt32 SCFPolicyRule) : List SCFPolicyRule :=
  rules.toList.map Prod.snd

theorem mem_ruleList {rules : Std.TreeMap UInt32 SCFPolicyRule} {rule : SCFPolicyRule} :
    rule ∈ ruleList rules ↔ LiveRule rules rule := by
  simp [ruleList, LiveRule, Std.TreeMap.mem_toList_iff_getElem?_eq_some]

theorem matchStep_eq_pick (request : PolicyMatchRequest) (best : ℕ × SCFPolicyEffect)
    (rule : SCFPolicyRule) :
    matchStep request best rule = (ruleSelector request).pick best rule := by
  by_cases hm : isRuleMatched rule request
  · by_cases hr : shouldReplaceMatch (getMatchPriority rule request) rule.effect best.1
    · have hr' := hr
      simp only [shouldReplaceMatch, Bool.or_eq_true, Bool.and_eq_true,
        decide_eq_true_eq] at hr'
      simp [matchStep, Selector.pick, ruleSelector, hm, hr, hr']
    · have hr' := hr
      simp only [shouldReplaceMatch, Bool.or_eq_true, Bool.and_eq_true,
        decide_eq_true_eq] at hr'
      simp [matchStep, Selector.pick, ruleSelector, hm, hr, hr']
  · simp [matchStep, Selector.pick, ruleSelector, hm]

/-- `MatchPolicyRule` is the scan of `Selection`. -/
theorem matchPolicyRule_eq_scan (rules : Std.TreeMap UInt32 SCFPolicyRule)
    (request : PolicyMatchRequest) (effect : SCFPolicyEffect) :
    matchPolicyRule rules request (some effect) =
      (decide (((ruleSelector request).scan effect (ruleList rules)).1 ≠ 0),
        some ((ruleSelector request).scan effect (ruleList rules)).2) := by
  have hstep : (fun best (_ : UInt32) rule => matchStep request best rule) =
      fun best _ rule => (ruleSelector request).pick best rule := by
    funext best _ rule
    exact matchStep_eq_pick request best rule
  simp only [matchPolicyRule, hstep, Std.TreeMap.foldl_eq_foldl_toList, Selector.scan,
    ruleList, List.foldl_map]

/-- The decisive rules are the top candidates of the selection. -/
theorem top_iff_decisive {rules : Std.TreeMap UInt32 SCFPolicyRule}
    {request : PolicyMatchRequest} (h : request.Single) {rule : SCFPolicyRule} :
    (ruleSelector request).Top (ruleList rules) rule ↔ Decisive rules request rule := by
  simp only [Selector.Top, ruleSelector, mem_ruleList, isRuleMatched_iff h,
    getMatchPriority_eq, Decisive, Nat.add_le_add_iff_left]

/-- A rule is found exactly if one in force covers the request. -/
theorem matchPolicyRule_found_iff {rules : Std.TreeMap UInt32 SCFPolicyRule}
    {request : PolicyMatchRequest} (h : request.Single) (effect : SCFPolicyEffect) :
    (matchPolicyRule rules request (some effect)).1 = true ↔
      ∃ rule, LiveRule rules rule ∧ Covers rule request := by
  rw [matchPolicyRule_eq_scan, decide_eq_true_eq, Selector.scan_rank_ne_zero_iff]
  simp only [ruleSelector, mem_ruleList, isRuleMatched_iff h]

/-- If a rule is found, the effect is a denial exactly if a decisive rule denies. -/
theorem matchPolicyRule_deny_iff {rules : Std.TreeMap UInt32 SCFPolicyRule}
    {request : PolicyMatchRequest} (h : request.Single) (effect : SCFPolicyEffect)
    (hfound : (matchPolicyRule rules request (some effect)).1 = true) :
    (matchPolicyRule rules request (some effect)).2 = some .deny ↔
      ∃ rule, Decisive rules request rule ∧ rule.effect = .deny := by
  rw [matchPolicyRule_eq_scan, decide_eq_true_eq, Selector.scan_rank_ne_zero_iff] at hfound
  have hbreaks : ∀ e, (ruleSelector request).breaks e = true ↔ e = .deny :=
    fun e => decide_eq_true_iff
  have hdeny := (ruleSelector request).breaks_scan_iff effect hfound
  simp only [top_iff_decisive h, hbreaks] at hdeny
  rw [matchPolicyRule_eq_scan, Option.some.injEq]
  exact hdeny

/-- If a rule is found, the effect is that of a top candidate of the selection. -/
theorem matchPolicyRule_effect {rules : Std.TreeMap UInt32 SCFPolicyRule}
    {request : PolicyMatchRequest} (effect : SCFPolicyEffect)
    (hfound : (matchPolicyRule rules request (some effect)).1 = true) :
    ∃ rule, (ruleSelector request).Top (ruleList rules) rule ∧
      (matchPolicyRule rules request (some effect)).2 = some rule.effect := by
  rw [matchPolicyRule_eq_scan, decide_eq_true_eq, Selector.scan_rank_ne_zero_iff] at hfound
  obtain ⟨rule, htop, _, hval⟩ := (ruleSelector request).exists_top_of_applies effect hfound
  refine ⟨rule, htop, ?_⟩
  rw [matchPolicyRule_eq_scan]
  exact congrArg some hval.symm

end Scf
