import ScfSecurity.Rbac.Decision
import ScfSecurity.Rbac.Mutation
import ScfSecurity.Rbac.RuleList

/-!
# How rules bear on decisions

A rule moves a decision only in the direction of its own effect, whether it is added or taken
away. Between two rules that match a request, the one with more exact fields decides. A rule for
fewer requests has at least as many exact fields, but it may have no more, and then a denial
decides.

## Main definitions

- `Extends`: a list of rules with one more
- `Narrower`: a rule for fewer requests

## Main results

- `check_monotone`: additions and removals move the check in the direction of the effect
- `matchPolicyRule_of_narrower`: the narrower of two matching rules against the wider one
-/

namespace Scf

open Automaton Selection

/-- The second list has the rules of the first and one more. -/
def Extends (rules rules' : List SCFPolicyRule) (rule : SCFPolicyRule) : Prop :=
  ∀ r, r ∈ rules' ↔ r = rule ∨ r ∈ rules

/-- Rule `a` is for fewer requests than rule `b` of the same subject: the target is the same or
`b` has the wildcard, both bitmaps are included, and something is different. -/
structure Narrower (a b : SCFPolicyRule) : Prop where
  subject : a.subjectNodeId = b.subjectNodeId
  target : a.targetNodeId = b.targetNodeId ∨ b.targetNodeId = CString.star.bytes
  resource : a.resourceTypeBitmap &&& b.resourceTypeBitmap = a.resourceTypeBitmap
  action : a.actionBitmap &&& b.actionBitmap = a.actionBitmap
  strict : a.targetNodeId ≠ b.targetNodeId ∨ a.resourceTypeBitmap ≠ b.resourceTypeBitmap ∨
    a.actionBitmap ≠ b.actionBitmap

/-! ### Decisions and selections -/

/-- Rules and role permit a request exactly if the selection of the rules accepts it. -/
theorem grants_iff_accepts {request : PolicyMatchRequest} (h : request.Single)
    (ctx : SCFPolicyCtx) (role : SCFRbacRole) :
    Grants ctx request role ↔
      (ruleSelector request).Accepts (ruleList ctx.policyRuleMap)
        (role = .master ∨ (role = .slave ∧ request.subjectNodeId = request.targetNodeId)) := by
  have hcovered : Covered ctx request ↔
      ∃ rule ∈ ruleList ctx.policyRuleMap, (ruleSelector request).applies rule := by
    simp only [Covered, mem_ruleList, ruleSelector, isRuleMatched_iff h]
  have hbreaks : ∀ e, (ruleSelector request).breaks e = true ↔ e = .deny :=
    fun e => decide_eq_true_iff
  unfold Grants Selector.Accepts
  rw [hcovered]
  simp only [top_iff_decisive h, hbreaks, ne_eq]
  rfl

/-- What a permission check reads apart from the rules is the same. -/
structure SameRoles (ctx ctx' : SCFPolicyCtx) : Prop where
  enabled : ctx'.rbacEnabled = ctx.rbacEnabled
  roles : ctx'.nodeRoleMap = ctx.nodeRoleMap

theorem localRole_congr {ctx ctx' : SCFPolicyCtx} (h : SameRoles ctx ctx') (lib : LibCrypto)
    (cert : X509) (nodeId : CString) :
    localRole lib cert nodeId ctx' = localRole lib cert nodeId ctx := by
  unfold localRole
  rw [h.roles]

/-- A context in which every permitted request of the other is permitted: granted requests stay
granted, and a refusal there is the same refusal here. -/
theorem permissionAnswer_mono {ctx ctx' : SCFPolicyCtx} (hsame : SameRoles ctx ctx')
    (g : Globals) (lib : LibCrypto) (cert : X509) (targetNodeId : CString)
    (resourceType : UInt32) (action : SCFResourceAction)
    (hgrants : ∀ nodeId role,
      PolicyMatchRequest.Single ⟨nodeId, targetNodeId, resourceType, action⟩ →
      Grants ctx ⟨nodeId, targetNodeId, resourceType, action⟩ role →
        Grants ctx' ⟨nodeId, targetNodeId, resourceType, action⟩ role) :
    (permissionAnswer g lib cert targetNodeId resourceType action ctx = .success →
      permissionAnswer g lib cert targetNodeId resourceType action ctx' = .success) ∧
    (permissionAnswer g lib cert targetNodeId resourceType action ctx' ≠ .success →
      permissionAnswer g lib cert targetNodeId resourceType action ctx =
        permissionAnswer g lib cert targetNodeId resourceType action ctx') := by
  unfold permissionAnswer
  by_cases hreq : ValidRequest targetNodeId resourceType action
  case neg => simp [hreq]
  obtain ⟨_, hres, hact⟩ := (validRequest_iff _ _ _).mp hreq
  rw [if_neg (not_not.mpr hreq), if_neg (not_not.mpr hreq), hsame.enabled]
  split_ifs with hinit henabled
  · exact ⟨id, fun _ => rfl⟩
  · exact ⟨id, fun _ => rfl⟩
  · cases certNodeId lib cert with
    | absent => exact ⟨id, fun _ => rfl⟩
    | malformed => exact ⟨id, fun _ => rfl⟩
    | valid nodeId =>
      dsimp only
      rw [localRole_congr hsame]
      cases localRole lib cert nodeId ctx with
      | error ret => exact ⟨id, fun _ => rfl⟩
      | ok role =>
        dsimp only
        have hmono := hgrants nodeId role ⟨hres, hact⟩
        by_cases hgrant : Grants ctx ⟨nodeId, targetNodeId, resourceType, action⟩ role
        · rw [if_pos hgrant, if_pos (hmono hgrant)]
          exact ⟨id, fun _ => rfl⟩
        · rw [if_neg hgrant]
          refine ⟨fun h => absurd h (by decide), fun h => ?_⟩
          split_ifs at h ⊢ with hgrant'
          · exact absurd rfl h
          · rfl

/-- One rule more that does not deny takes no permission away; one more that denies gives none. -/
theorem grants_of_extends {ctx ctx' : SCFPolicyCtx} {rule : SCFPolicyRule}
    (hext : Extends (ruleList ctx.policyRuleMap) (ruleList ctx'.policyRuleMap) rule)
    {request : PolicyMatchRequest} (h : request.Single) (role : SCFRbacRole) :
    (rule.effect ≠ .deny → Grants ctx request role → Grants ctx' request role) ∧
      (rule.effect = .deny → Grants ctx' request role → Grants ctx request role) := by
  have hbreaks : ∀ e, (ruleSelector request).breaks e = true ↔ e = .deny :=
    fun e => decide_eq_true_iff
  rw [grants_iff_accepts h, grants_iff_accepts h]
  constructor
  · intro heffect
    exact Selector.Accepts.insert hext (fun hb => heffect ((hbreaks _).mp hb))
  · intro heffect
    exact Selector.Accepts.of_insert hext ((hbreaks _).mpr heffect)

/-! ### Additions and removals -/

theorem SameRoles.symm {ctx ctx' : SCFPolicyCtx} (h : SameRoles ctx ctx') : SameRoles ctx' ctx :=
  ⟨h.enabled.symm, h.roles.symm⟩

/-- The permission check in a context that permits more. -/
theorem check_mono {ctx ctx' : SCFPolicyCtx} (hrules : RuleStoreInvariant ctx)
    (hroles : RoleMapInvariant ctx) (hrules' : RuleStoreInvariant ctx')
    (hroles' : RoleMapInvariant ctx') (hsame : SameRoles ctx ctx')
    (hgrants : ∀ request role, PolicyMatchRequest.Single request →
      Grants ctx request role → Grants ctx' request role)
    (g : Globals) (lib : LibCrypto) (cert : Option X509) (targetNodeId : Option CString)
    (resourceType : UInt32) (action : SCFResourceAction) :
    let check c := ((scfCheckResourcePermission g lib .valid cert targetNodeId resourceType
      action).run c).1
    (check ctx = .success → check ctx' = .success) ∧
      (check ctx' ≠ .success → check ctx = check ctx') := by
  intro check
  cases cert with
  | none => exact ⟨id, fun _ => rfl⟩
  | some cert =>
    cases targetNodeId with
    | none => exact ⟨id, fun _ => rfl⟩
    | some targetNodeId =>
      have hcheck : ∀ c, check c = checkAtomic g lib cert targetNodeId resourceType action c :=
        fun _ => rfl
      rw [hcheck, hcheck, checkAtomic_eq_permissionAnswer hrules hroles,
        checkAtomic_eq_permissionAnswer hrules' hroles']
      exact permissionAnswer_mono hsame g lib cert targetNodeId resourceType action
        fun nodeId role hsingle => hgrants _ role hsingle

/-- The permission check with one rule more. -/
theorem check_of_extends {ctx ctx' : SCFPolicyCtx} (hrules : RuleStoreInvariant ctx)
    (hroles : RoleMapInvariant ctx) (hrules' : RuleStoreInvariant ctx')
    (hroles' : RoleMapInvariant ctx') (hsame : SameRoles ctx ctx') {rule : SCFPolicyRule}
    (hext : Extends (ruleList ctx.policyRuleMap) (ruleList ctx'.policyRuleMap) rule)
    (g : Globals) (lib : LibCrypto) (cert : Option X509) (targetNodeId : Option CString)
    (resourceType : UInt32) (action : SCFResourceAction) :
    let check c := ((scfCheckResourcePermission g lib .valid cert targetNodeId resourceType
      action).run c).1
    (rule.effect = .allow → (check ctx = .success → check ctx' = .success) ∧
      (check ctx' ≠ .success → check ctx = check ctx')) ∧
    (rule.effect = .deny → (check ctx' = .success → check ctx = .success) ∧
      (check ctx ≠ .success → check ctx' = check ctx)) := by
  intro check
  constructor
  · intro heffect
    have hnot : rule.effect ≠ .deny := by
      rw [heffect]
      decide
    exact check_mono hrules hroles hrules' hroles' hsame
      (fun request role hsingle => (grants_of_extends hext hsingle role).1 hnot)
      g lib cert targetNodeId resourceType action
  · intro heffect
    exact check_mono hrules' hroles' hrules hroles hsame.symm
      (fun request role hsingle => (grants_of_extends hext hsingle role).2 heffect)
      g lib cert targetNodeId resourceType action

theorem extends_withRule {ctx : SCFPolicyCtx} (h : RuleStoreInvariant ctx)
    (hne : ctx.nextPolicyRuleId ≠ 0) (rule : SCFPolicyRule) :
    Extends (ruleList ctx.policyRuleMap) (ruleList (withRule ctx rule).policyRuleMap) rule := by
  intro r
  show r ∈ ruleList (ctx.policyRuleMap.insert ctx.nextPolicyRuleId rule) ↔ _
  rw [ruleList_addRule h hne, List.mem_append, List.mem_singleton, or_comm]

/-- A rule taken away is the only one with its number. -/
theorem extends_erase {ctx : SCFPolicyCtx} (h : RuleStoreInvariant ctx) {ruleId : UInt32}
    {rule : SCFPolicyRule} (hrule : ctx.policyRuleMap[ruleId]? = some rule) :
    Extends (ruleList (ctx.policyRuleMap.erase ruleId)) (ruleList ctx.policyRuleMap) rule := by
  intro r
  rw [ruleList_removeRule h, List.mem_filter, decide_eq_true_eq]
  constructor
  · intro hmem
    by_cases hnumber : r.ruleId = ruleId
    · obtain ⟨id, hid⟩ := mem_ruleList.mp hmem
      have hown := (h.number id r hid).1
      rw [hnumber] at hown
      rw [← hown, hrule] at hid
      exact .inl (Option.some.inj hid).symm
    · exact .inr ⟨hmem, hnumber⟩
  · rintro (rfl | ⟨hmem, -⟩)
    · exact mem_ruleList.mpr ⟨ruleId, hrule⟩
    · exact hmem

/-- In every reachable context an added rule that denies leaves every refusal as it is, and one
that allows leaves every permission; a removed rule that allows leaves every refusal, and one
that denies leaves every permission. -/
theorem check_monotone {lib : LibCrypto} {ctx : SCFPolicyCtx}
    (h : (rbacMachine lib).Reachable ctx) (g g' : Globals) (cert : Option X509)
    (targetNodeId : Option CString) (resourceType : UInt32) (action : SCFResourceAction) :
    let check c := ((scfCheckResourcePermission g lib .valid cert targetNodeId resourceType
      action).run c).1
    (∀ (args : AddPolicyRuleArgs) copyOk allocOk,
      let added := (args.call g' copyOk allocOk).run ctx
      added.1.1 = .success →
        (args.effect = .deny → check ctx ≠ .success → check added.2 = check ctx) ∧
        (args.effect = .allow → check ctx = .success → check added.2 = .success)) ∧
    (∀ ctxPtr ruleId rule, ctx.policyRuleMap[ruleId]? = some rule →
      let removed := (scfRemovePolicyRule g' ctxPtr ruleId).run ctx
      removed.1 = .success →
        (rule.effect = .allow → check ctx ≠ .success → check removed.2 = check ctx) ∧
        (rule.effect = .deny → check ctx = .success → check removed.2 = .success)) := by
  intro check
  have hrules := ruleStoreInvariant_of_reachable h
  have hroles := roleMapInvariant_of_reachable h
  constructor
  · intro args copyOk allocOk added hsuccess
    have hrules' : RuleStoreInvariant added.2 :=
      (scfAddPolicyRule_guarantees g' _ _ _ _ _ _ _ copyOk allocOk).invariant
        (fun _ _ hstep => hstep.ruleStoreInvariant) hrules
    have hroles' : RoleMapInvariant added.2 :=
      (scfAddPolicyRule_guarantees g' _ _ _ _ _ _ _ copyOk allocOk).invariant
        (fun _ _ hstep => hstep.roleMapInvariant) hroles
    have hout := args.outcome g' copyOk allocOk ctx
    have hne := (hout.success.mp hsuccess).2.2.2.2.1
    obtain ⟨subject, target, -, hadded⟩ := hout.added hsuccess
    have hctx : added.2 = withRule ctx (args.rule ctx.nextPolicyRuleId subject target) :=
      congrArg Prod.snd hadded
    have hsame : SameRoles ctx added.2 := by
      rw [hctx]
      exact ⟨rfl, rfl⟩
    have hext : Extends (ruleList ctx.policyRuleMap) (ruleList added.2.policyRuleMap)
        (args.rule ctx.nextPolicyRuleId subject target) := by
      rw [hctx]
      exact extends_withRule hrules hne _
    obtain ⟨hallow, hdeny⟩ := check_of_extends hrules hroles hrules' hroles' hsame hext g lib cert
      targetNodeId resourceType action
    exact ⟨fun heffect => (hdeny heffect).2, fun heffect => (hallow heffect).1⟩
  · intro ctxPtr ruleId rule hrule removed hsuccess
    have hrules' : RuleStoreInvariant removed.2 :=
      (scfRemovePolicyRule_guarantees g' ctxPtr ruleId).invariant
        (fun _ _ hstep => hstep.ruleStoreInvariant) hrules
    have hroles' : RoleMapInvariant removed.2 :=
      (scfRemovePolicyRule_guarantees g' ctxPtr ruleId).invariant
        (fun _ _ hstep => hstep.roleMapInvariant) hroles
    have hctx := ((scfRemovePolicyRule_outcome g' ctxPtr ruleId ctx).2 hsuccess).2
    have hsame : SameRoles ctx removed.2 := by
      rw [hctx]
      exact ⟨rfl, rfl⟩
    have hext : Extends (ruleList removed.2.policyRuleMap) (ruleList ctx.policyRuleMap) rule := by
      rw [hctx]
      exact extends_erase hrules hrule
    obtain ⟨hallow, hdeny⟩ := check_of_extends hrules' hroles' hrules hroles hsame.symm hext g lib
      cert targetNodeId resourceType action
    exact ⟨fun heffect => (hallow heffect).2, fun heffect => (hdeny heffect).1⟩

/-- A rule against the slave `a`, which may not reach memory of node `b` anyway. -/
def denyNumaArgs : AddPolicyRuleArgs :=
  ⟨.valid, some nodeA, some nodeB, SCFResourceType.numa, SCFResourceAction.apply, .deny, .valid⟩

theorem check_monotone_denyNuma :
    let check c := ((scfCheckResourcePermission .ready .shortForm .valid (some certOfNodeA)
      (some nodeB) SCFResourceType.numa SCFResourceAction.apply).run c).1
    let added := (denyNumaArgs.call .ready true true).run slaveCtx
    added.1.1 = .success ∧ check slaveCtx = .rbacDenied ∧ check added.2 = .rbacDenied := by
  intro check added
  have hsuccess : added.1.1 = .success := by decide
  have hdenied : check slaveCtx = .rbacDenied := by decide
  have hkeep := ((check_monotone reachable_slaveCtx .ready .ready (some certOfNodeA) (some nodeB)
    SCFResourceType.numa SCFResourceAction.apply).1 denyNumaArgs true true hsuccess).1 rfl
    (by decide)
  exact ⟨hsuccess, hdenied, hkeep.trans hdenied⟩

/-! ### Narrower rules -/

/-- If the wider bitmap is exactly the request, so is the narrower one. -/
theorem bitmap_eq_of_included {a b bit : UInt32} {i : ℕ} (hbit : bit.toNat = 2 ^ i)
    (hinc : a &&& b = a) (ha : a &&& bit ≠ 0) (hb : b = bit) : a = bit := by
  subst hb
  rw [← hinc]
  exact (and_ne_zero_iff_of_single hbit).mp ha

/-- Where the wider rule is exact, the narrower one is exact too. -/
structure ExactWhere (b a : SCFPolicyRule) (request : PolicyMatchRequest) : Prop where
  target : b.targetNodeId = request.targetNodeId.bytes →
    a.targetNodeId = request.targetNodeId.bytes
  resource : b.resourceTypeBitmap = request.resourceType →
    a.resourceTypeBitmap = request.resourceType
  action : b.actionBitmap = request.action → a.actionBitmap = request.action

theorem exactWhere_of_narrower {a b : SCFPolicyRule} (hab : Narrower a b)
    {request : PolicyMatchRequest} (hsingle : request.Single)
    (ha : isRuleMatched a request = true) : ExactWhere b a request := by
  obtain ⟨⟨i, hi⟩, j, hj⟩ := hsingle.toNat
  have hstar : ascii "*" = CString.star.bytes := by decide
  simp only [isRuleMatched, Bool.and_eq_true, Bool.or_eq_true, decide_eq_true_eq, hstar] at ha
  obtain ⟨⟨⟨-, htarget⟩, hresource⟩, haction⟩ := ha
  refine ⟨?_, bitmap_eq_of_included hi hab.resource hresource,
    bitmap_eq_of_included hj hab.action haction⟩
  intro hexact
  obtain heq | hwild := hab.target
  · rw [heq, hexact]
  · -- the wildcard is exact only for the wildcard
    obtain heq | hstar' := htarget
    · exact heq
    · rw [hstar', ← hwild, hexact]

theorem indicator_le {p q : Prop} [Decidable p] [Decidable q] (h : p → q) :
    (if p then 1 else 0) ≤ (if q then 1 else 0) := by
  by_cases hp : p
  · rw [if_pos hp, if_pos (h hp)]
  · rw [if_neg hp]
    exact Nat.zero_le _

theorem of_indicator_eq {p q : Prop} [Decidable p] [Decidable q]
    (h : (if p then 1 else 0) = (if q then 1 else 0)) (hq : q) : p := by
  by_contra hp
  rw [if_neg hp, if_pos hq] at h
  cases h

theorem getMatchPriority_le_of_exactWhere {a b : SCFPolicyRule} {request : PolicyMatchRequest}
    (h : ExactWhere b a request) : getMatchPriority b request ≤ getMatchPriority a request := by
  have htarget := indicator_le h.target
  have hresource := indicator_le h.resource
  have haction := indicator_le h.action
  unfold getMatchPriority
  omega

/-- The priorities are equal exactly if both rules are exact in the same fields. -/
theorem getMatchPriority_eq_iff {a b : SCFPolicyRule} {request : PolicyMatchRequest}
    (h : ExactWhere b a request) :
    getMatchPriority b request = getMatchPriority a request ↔ ExactWhere a b request := by
  constructor
  · intro heq
    have htarget := indicator_le h.target
    have hresource := indicator_le h.resource
    have haction := indicator_le h.action
    unfold getMatchPriority at heq
    -- three inequalities and equal sums
    exact ⟨of_indicator_eq (by omega), of_indicator_eq (by omega), of_indicator_eq (by omega)⟩
  · intro h'
    exact Nat.le_antisymm (getMatchPriority_le_of_exactWhere h)
      (getMatchPriority_le_of_exactWhere h')

/-- Two rules are the only ones in force that match the request. -/
def OnlyMatching (rules : Std.TreeMap UInt32 SCFPolicyRule) (request : PolicyMatchRequest)
    (a b : SCFPolicyRule) : Prop :=
  LiveRule rules a ∧ LiveRule rules b ∧ isRuleMatched a request = true ∧
    isRuleMatched b request = true ∧
    ∀ rule, LiveRule rules rule → isRuleMatched rule request = true → rule = a ∨ rule = b

/-- Two rules match a request, one of them for fewer requests. The wider one never has the
higher priority. The effect is that of the narrower one, except if both are exact in the same
fields and the wider one denies. -/
theorem matchPolicyRule_of_narrower {rules : Std.TreeMap UInt32 SCFPolicyRule}
    {request : PolicyMatchRequest} (hsingle : request.Single) {a b : SCFPolicyRule}
    (hab : Narrower a b) (honly : OnlyMatching rules request a b)
    (ha : a.effect = .allow ∨ a.effect = .deny) (hb : b.effect = .allow ∨ b.effect = .deny)
    (effect : SCFPolicyEffect) :
    getMatchPriority b request ≤ getMatchPriority a request ∧
    (¬ (ExactWhere a b request ∧ b.effect = .deny) →
      matchPolicyRule rules request (some effect) = (true, some a.effect)) ∧
    (ExactWhere a b request ∧ b.effect = .deny →
      matchPolicyRule rules request (some effect) = (true, some .deny)) := by
  obtain ⟨hlivea, hliveb, hma, hmb, hall⟩ := honly
  have hexact := exactWhere_of_narrower hab hsingle hma
  have hle := getMatchPriority_le_of_exactWhere hexact
  have hfound : (matchPolicyRule rules request (some effect)).1 = true :=
    (matchPolicyRule_found_iff hsingle effect).mpr ⟨a, hlivea, (isRuleMatched_iff hsingle).mp hma⟩
  have hdeny := matchPolicyRule_deny_iff hsingle effect hfound
  -- the narrower rule is always decisive, the wider one exactly in a tie
  have hdecisive : ∀ rule, Decisive rules request rule ↔
      rule = a ∨ (rule = b ∧ getMatchPriority b request = getMatchPriority a request) := by
    intro rule
    rw [← top_iff_decisive hsingle]
    simp only [Selector.Top, ruleSelector, mem_ruleList]
    constructor
    · rintro ⟨hlive, hmatch, hmax⟩
      obtain rfl | rfl := hall rule hlive hmatch
      · exact .inl rfl
      · exact .inr ⟨rfl, Nat.le_antisymm hle (hmax a hlivea hma)⟩
    · have hmax : ∀ rule', LiveRule rules rule' → isRuleMatched rule' request = true →
          getMatchPriority rule' request ≤ getMatchPriority a request := by
        intro rule' hlive hmatch
        obtain rfl | rfl := hall rule' hlive hmatch
        · exact Nat.le_refl _
        · exact hle
      rintro (rfl | ⟨rfl, heq⟩)
      · exact ⟨hlivea, hma, hmax⟩
      · refine ⟨hliveb, hmb, ?_⟩
        rw [heq]
        exact hmax
  have htie := getMatchPriority_eq_iff hexact
  have hpair : ∀ e, (matchPolicyRule rules request (some effect)).2 = some e →
      matchPolicyRule rules request (some effect) = (true, some e) :=
    fun e he => Prod.ext hfound he
  refine ⟨hle, ?_, ?_⟩
  · intro hnot
    apply hpair
    by_cases hdenies : a.effect = .deny
    · rw [hdenies]
      exact hdeny.mpr ⟨a, (hdecisive a).mpr (.inl rfl), hdenies⟩
    · -- the rule found is the narrower one, or in a tie the wider one, which then allows
      obtain ⟨rule, htop, heffect⟩ := matchPolicyRule_effect effect hfound
      rw [heffect]
      obtain rfl | ⟨rfl, heq⟩ := (hdecisive rule).mp ((top_iff_decisive hsingle).mp htop)
      · rfl
      · have hballow : rule.effect = .allow :=
          hb.resolve_right fun hd => hnot ⟨htie.mp heq, hd⟩
        rw [hballow, ha.resolve_right hdenies]
  · rintro ⟨hwhere, hbdeny⟩
    apply hpair
    exact hdeny.mpr ⟨b, (hdecisive b).mpr (.inr ⟨rfl, htie.mpr hwhere⟩), hbdeny⟩

/-- Two rules of node `a` for applications to node `b`: one allows descriptors and memory nodes,
the other denies everything. -/
def allowTwoTypes : SCFPolicyRule :=
  ⟨1, nodeA.bytes, nodeB.bytes, SCFResourceType.fd ||| SCFResourceType.numa,
    SCFResourceAction.apply, .allow⟩

@[inherit_doc allowTwoTypes]
def denyAllTypes : SCFPolicyRule :=
  ⟨2, nodeA.bytes, nodeB.bytes, SCFResourceType.all, SCFResourceAction.apply, .deny⟩

/-- A context with these two rules. -/
def overlapCtx : SCFPolicyCtx :=
  ((rbacMachine .shortForm).step
    ((rbacMachine .shortForm).step newPolicyCtx
      (.ready, .addPolicyRule .valid (some nodeA) (some nodeB) 3 1 .allow .valid true true)).2
    (.ready, .addPolicyRule .valid (some nodeA) (some nodeB) 7 1 .deny .valid true true)).2

/-- Node `a` applies for a descriptor of node `b`. -/
def fdRequest : PolicyMatchRequest :=
  ⟨nodeA, nodeB, SCFResourceType.fd, SCFResourceAction.apply⟩

theorem narrower_overlap : Narrower allowTwoTypes denyAllTypes :=
  ⟨rfl, .inl rfl, by decide, by decide, .inr (.inl (by decide))⟩

theorem onlyMatching_overlap :
    OnlyMatching overlapCtx.policyRuleMap fdRequest allowTwoTypes denyAllTypes := by
  have hlist : ruleList overlapCtx.policyRuleMap = [allowTwoTypes, denyAllTypes] := by decide
  have hlive : ∀ rule, LiveRule overlapCtx.policyRuleMap rule ↔
      rule = allowTwoTypes ∨ rule = denyAllTypes := by
    intro rule
    rw [← mem_ruleList, hlist, List.mem_cons, List.mem_singleton]
  refine ⟨(hlive _).mpr (.inl rfl), (hlive _).mpr (.inr rfl), by decide, by decide, ?_⟩
  exact fun rule hrule _ => (hlive rule).mp hrule

/-- The narrower rule allows the request, but neither bitmap is exactly the type asked for, so
the wider rule has the same priority and its denial decides. -/
theorem matchPolicyRule_denies_narrower :
    Narrower allowTwoTypes denyAllTypes ∧
      OnlyMatching overlapCtx.policyRuleMap fdRequest allowTwoTypes denyAllTypes ∧
      allowTwoTypes.effect = .allow ∧
      matchPolicyRule overlapCtx.policyRuleMap fdRequest (some .deny) = (true, some .deny) :=
  ⟨narrower_overlap, onlyMatching_overlap, rfl, by decide⟩

theorem matchPolicyRule_of_narrower_overlap :
    fdRequest.Single ∧
      getMatchPriority denyAllTypes fdRequest ≤ getMatchPriority allowTwoTypes fdRequest ∧
      matchPolicyRule overlapCtx.policyRuleMap fdRequest (some .deny) = (true, some .deny) := by
  have hsingle : fdRequest.Single := ⟨by decide, by decide⟩
  have hall := matchPolicyRule_of_narrower hsingle narrower_overlap onlyMatching_overlap
    (.inl rfl) (.inr rfl) .deny
  refine ⟨hsingle, hall.1, hall.2.2 ⟨⟨?_, ?_, ?_⟩, rfl⟩⟩
  · exact fun h => h
  · exact fun h => absurd h (by decide)
  · exact fun h => h

end Scf
