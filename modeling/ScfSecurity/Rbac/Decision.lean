import ScfSecurity.Rbac.Invariant

/-!
# What the permission check decides

The answer of `SCF_CheckResourcePermission`, stated without its loop and its order of
evaluation: the decisive rules decide, and without a covering rule the role does.

## Main definitions

- `localRole`: the role of the local node, from the certificate or from the role map
- `Grants`: rules and role permit a request
- `permissionAnswer`: the answer, with the errors in the order of their checks

## Main results

- `resolveLocalIdentity_eq`: identity and role, in terms of what the certificate says
- `scfCheckResourcePermission_answer`: the function gives exactly this answer
-/

namespace Scf

open Automaton

/-- The role of the node of a certificate: the role the certificate names, else the
role the map gives to the node. -/
def localRole (lib : LibCrypto) (cert : X509) (nodeId : CString) (ctx : SCFPolicyCtx) :
    Except Errno SCFRbacRole :=
  match certRole lib cert with
  | .valid role => .ok role
  | .malformed => .error .sslParseCert
  | .absent =>
    match ctx.nodeRoleMap[nodeId.bytes]? with
    | some role => .ok role
    | none => .error .rbacRoleUnknown

/-- The role found is master or slave. -/
theorem localRole_ok {lib : LibCrypto} {cert : X509} {nodeId : CString} {ctx : SCFPolicyCtx}
    (h : RoleMapInvariant ctx) {role : SCFRbacRole}
    (hrole : localRole lib cert nodeId ctx = .ok role) : role = .master ∨ role = .slave := by
  unfold localRole at hrole
  split at hrole
  case h_1 role' hcert =>
    cases hrole
    exact certRole_valid hcert
  case h_2 => cases hrole
  case h_3 =>
    split at hrole
    case h_1 role' hmap =>
      cases hrole
      exact h.role _ _ hmap
    case h_2 => cases hrole

/-- Some rule in force covers the request. -/
def Covered (ctx : SCFPolicyCtx) (request : PolicyMatchRequest) : Prop :=
  ∃ rule, LiveRule ctx.policyRuleMap rule ∧ Covers rule request

/-- The rules permit the request, or no rule speaks about it and the role permits it:
a master may act everywhere, a slave on itself. -/
def Grants (ctx : SCFPolicyCtx) (request : PolicyMatchRequest) (role : SCFRbacRole) : Prop :=
  (Covered ctx request ∧
    ∀ rule, Decisive ctx.policyRuleMap request rule → rule.effect ≠ .deny) ∨
  (¬ Covered ctx request ∧
    (role = .master ∨ (role = .slave ∧ request.subjectNodeId = request.targetNodeId)))

/-- The arguments of a request are well formed: a node identifier, one resource type,
one action. -/
def ValidRequest (targetNodeId : CString) (resourceType : UInt32)
    (action : SCFResourceAction) : Prop :=
  ValidNodeId targetNodeId.bytes ∧
    (resourceType = SCFResourceType.fd ∨ resourceType = SCFResourceType.numa ∨
      resourceType = SCFResourceType.addr) ∧
    (action = SCFResourceAction.apply ∨ action = SCFResourceAction.release)

open Classical in
/-- The answer to a request, its errors in the order in which they are checked. -/
noncomputable def permissionAnswer (g : Globals) (lib : LibCrypto) (cert : X509)
    (targetNodeId : CString) (resourceType : UInt32) (action : SCFResourceAction)
    (ctx : SCFPolicyCtx) : Errno :=
  if ¬ ValidRequest targetNodeId resourceType action then .invalidParam
  else if g.scfInitialized = false then .notInit
  else if ctx.rbacEnabled = false then .rbacDisabled
  else
    match certNodeId lib cert with
    | .absent => .certNodeIdAbsent
    | .malformed => .sslParseCert
    | .valid nodeId =>
      match localRole lib cert nodeId ctx with
      | .error ret => ret
      | .ok role =>
        if Grants ctx ⟨nodeId, targetNodeId, resourceType, action⟩ role then .success
        else .rbacDenied

/-- The role lookup of a node that the certificate identifies. -/
theorem scfGetNodeRbacRole_of_cert {g : Globals} (hg : g.scfInitialized = true)
    {lib : LibCrypto} {cert : X509} {nodeId : CString}
    (hid : certNodeId lib cert = .valid nodeId) :
    scfGetNodeRbacRole g lib .valid (some cert) none .valid .valid =
      match certRole lib cert with
      | .valid role => .done (.success, some (role, .cert))
      | .malformed => .done (.sslParseCert, some (.unknown, .none))
      | .absent => .load fun ctx =>
          match ctx.nodeRoleMap[nodeId.bytes]? with
          | some role => (.success, some (role, .mapping))
          | none => (.rbacRoleUnknown, some (.unknown, .none)) := by
  unfold scfGetNodeRbacRole
  simp only [hg, scfGetCertRbacRole_eq hg, scfGetCertNodeId_eq hg, hid,
    CertOutcome.nodeIdAnswer]
  cases hrole : certRole lib cert with
  | valid role => simp [CertOutcome.roleAnswer]
  | malformed => simp [CertOutcome.roleAnswer]
  | absent =>
    simp only [CertOutcome.roleAnswer, ne_eq, reduceCtorEq, not_true_eq_false, false_and,
      and_false, and_true, or_self, if_false, if_true, Bool.not_true, Bool.false_eq_true,
      getMappingRole_of_valid (certNodeId_valid hid)]
    refine congrArg (Resumption.atomic _) (funext fun ctx => ?_)
    show Resumption.bind (.done _) _ = .done _
    simp only [Resumption.bind]
    cases ctx.nodeRoleMap[nodeId.bytes]? <;> simp

/-- Identity and role of the node of a certificate. The role map is consulted only if
the certificate identifies the node and does not name its role. -/
theorem resolveLocalIdentity_eq {g : Globals} (hg : g.scfInitialized = true)
    (lib : LibCrypto) (cert : X509) :
    resolveLocalIdentity g lib .valid cert =
      match certNodeId lib cert with
      | .absent => .done (.certNodeIdAbsent, none)
      | .malformed => .done (.sslParseCert, none)
      | .valid nodeId =>
        match certRole lib cert with
        | .valid role => .done (.success, some (nodeId, role))
        | .malformed => .done (.sslParseCert, none)
        | .absent => .load fun ctx =>
            match ctx.nodeRoleMap[nodeId.bytes]? with
            | some role => (.success, some (nodeId, role))
            | none => (.rbacRoleUnknown, none) := by
  unfold resolveLocalIdentity
  rw [scfGetCertNodeId_eq hg]
  cases hid : certNodeId lib cert with
  | absent => rfl
  | malformed => rfl
  | valid nodeId =>
    simp only [CertOutcome.nodeIdAnswer, scfGetNodeRbacRole_of_cert hg hid]
    cases certRole lib cert with
    | valid role => rfl
    | malformed => rfl
    | absent =>
      refine congrArg (Resumption.atomic _) (funext fun ctx => ?_)
      show Resumption.bind (.done _) _ = .done _
      simp only [Resumption.bind]
      cases ctx.nodeRoleMap[nodeId.bytes]? <;> simp

/-- The argument checks accept exactly the well-formed requests. -/
theorem validRequest_iff (targetNodeId : CString) (resourceType : UInt32)
    (action : SCFResourceAction) :
    ValidRequest targetNodeId resourceType action ↔
      isValidNodeId (some targetNodeId) = true ∧ isSingleResourceType resourceType = true ∧
        isSingleResourceAction action = true := by
  simp only [ValidRequest, isValidNodeId_iff, isSingleResourceType_iff,
    isSingleResourceAction_iff]

/-- What the check answers once identity and role are known. -/
def decision (request : PolicyMatchRequest) (role : SCFRbacRole) (ctx : SCFPolicyCtx) : Errno :=
  if (matchPolicyRule ctx.policyRuleMap request (some .deny)).1 then
    if (matchPolicyRule ctx.policyRuleMap request (some .deny)).2 = some .allow then .success
    else .rbacDenied
  else checkDefaultResourcePermission role request.subjectNodeId request.targetNodeId

open Classical in
/-- If the rules have valid effects and the role is known, the decision is the
specified one. -/
theorem decision_eq {request : PolicyMatchRequest} (hsingle : request.Single)
    {role : SCFRbacRole} (hrole : role = .master ∨ role = .slave) {ctx : SCFPolicyCtx}
    (heffect : ∀ rule, LiveRule ctx.policyRuleMap rule →
      rule.effect = .allow ∨ rule.effect = .deny) :
    decision request role ctx = if Grants ctx request role then .success else .rbacDenied := by
  have hcovered : (matchPolicyRule ctx.policyRuleMap request (some .deny)).1 = true ↔
      Covered ctx request := matchPolicyRule_found_iff hsingle .deny
  unfold decision
  by_cases hfound : (matchPolicyRule ctx.policyRuleMap request (some .deny)).1 = true
  · have hcov : Covered ctx request := hcovered.mp hfound
    have hdeny := matchPolicyRule_deny_iff hsingle .deny hfound
    obtain ⟨rule, htop, hval⟩ := matchPolicyRule_effect .deny hfound
    have hlive := mem_ruleList.mp htop.1
    -- the effect found is `allow` or `deny`, so it is `allow` iff no decisive rule denies
    have hgrant : Grants ctx request role ↔
        ¬ (matchPolicyRule ctx.policyRuleMap request (some .deny)).2 = some .deny := by
      rw [hdeny]
      constructor
      · rintro (⟨_, hall⟩ | ⟨hnot, _⟩)
        · rintro ⟨rule', hdec, heff⟩
          exact hall rule' hdec heff
        · exact absurd hcov hnot
      · intro hnone
        exact .inl ⟨hcov, fun rule' hdec heff => hnone ⟨rule', hdec, heff⟩⟩
    rw [if_pos hfound]
    obtain hallow | hdenied := heffect rule hlive
    · have hsome : (matchPolicyRule ctx.policyRuleMap request (some .deny)).2 =
          some .allow := by rw [hval, hallow]
      have hne : ¬ (some SCFPolicyEffect.allow) = some SCFPolicyEffect.deny := by decide
      rw [if_pos hsome, if_pos (hgrant.mpr (by rw [hsome]; exact hne))]
    · have hsome : (matchPolicyRule ctx.policyRuleMap request (some .deny)).2 =
          some .deny := by rw [hval, hdenied]
      have hne : ¬ (some SCFPolicyEffect.deny) = some SCFPolicyEffect.allow := by decide
      rw [if_neg (by rw [hsome]; exact hne), if_neg (fun hg => hgrant.mp hg hsome)]
  · have hnot : ¬ Covered ctx request := fun hcov => hfound (hcovered.mpr hcov)
    have hgrant : Grants ctx request role ↔
        (role = .master ∨ (role = .slave ∧ request.subjectNodeId = request.targetNodeId)) := by
      constructor
      · rintro (⟨hcov, _⟩ | ⟨_, hdefault⟩)
        · exact absurd hcov hnot
        · exact hdefault
      · exact fun hdefault => .inr ⟨hnot, hdefault⟩
    have hms : ¬ SCFRbacRole.slave = SCFRbacRole.master := by decide
    rw [if_neg hfound]
    simp only [hgrant, checkDefaultResourcePermission]
    obtain rfl | rfl := hrole
    · simp
    · by_cases heq : request.subjectNodeId = request.targetNodeId
      · simp [heq]
      · simp [heq, hms]

theorem scfCheckResourcePermission_of_not_validRequest (g : Globals) (lib : LibCrypto)
    (cert : X509) {targetNodeId : CString} {resourceType : UInt32}
    {action : SCFResourceAction} (hreq : ¬ ValidRequest targetNodeId resourceType action) :
    scfCheckResourcePermission g lib .valid (some cert) (some targetNodeId) resourceType
      action = .done .invalidParam := by
  have hcond : (!isValidNodeId (some targetNodeId) || !isSingleResourceType resourceType ||
      !isSingleResourceAction action) = true := by
    rw [validRequest_iff] at hreq
    cases hid : isValidNodeId (some targetNodeId) <;>
      cases hres : isSingleResourceType resourceType <;>
      cases hact : isSingleResourceAction action <;> simp_all
  simp only [scfCheckResourcePermission, hcond, if_true]

theorem scfCheckResourcePermission_of_not_init {g : Globals} (hg : g.scfInitialized = false)
    (lib : LibCrypto) (cert : X509) {targetNodeId : CString} {resourceType : UInt32}
    {action : SCFResourceAction} (hreq : ValidRequest targetNodeId resourceType action) :
    scfCheckResourcePermission g lib .valid (some cert) (some targetNodeId) resourceType
      action = .done .notInit := by
  obtain ⟨hid, hres, hact⟩ := (validRequest_iff _ _ _).mp hreq
  simp [scfCheckResourcePermission, hid, hres, hact, hg]

/-- The check, for a well-formed request to an initialised library, section by
section. -/
theorem scfCheckResourcePermission_eq {g : Globals} (hg : g.scfInitialized = true)
    (lib : LibCrypto) (cert : X509) {targetNodeId : CString} {resourceType : UInt32}
    {action : SCFResourceAction} (hreq : ValidRequest targetNodeId resourceType action) :
    scfCheckResourcePermission g lib .valid (some cert) (some targetNodeId) resourceType
        action =
      (do
        let rbacEnabled ← .load SCFPolicyCtx.rbacEnabled
        if !rbacEnabled then .done .rbacDisabled
        else
          let (ret, identity) ← resolveLocalIdentity g lib .valid cert
          match ret, identity with
          | .success, some (nodeId, role) =>
            .load (decision ⟨nodeId, targetNodeId, resourceType, action⟩ role)
          | ret, _ => .done ret) := by
  obtain ⟨hid, hres, hact⟩ := (validRequest_iff _ _ _).mp hreq
  unfold scfCheckResourcePermission
  simp only [hid, hres, hact, hg, Bool.not_true, Bool.or_self, Bool.false_eq_true, if_false]
  refine congrArg (Resumption.atomic _) (funext fun ctx => ?_)
  show Resumption.bind (.done _) _ = Resumption.bind (.done _) _
  simp only [Resumption.bind]
  split_ifs
  · rfl
  · refine congrArg (Resumption.bind _) (funext fun a => ?_)
    obtain ⟨ret, _ | ⟨nodeId, role⟩⟩ := a
    · cases ret <;> rfl
    · cases ret with
      | success =>
        refine congrArg (Resumption.atomic _) (funext fun ctx => ?_)
        show Resumption.bind (.done _) _ = .done _
        simp only [Resumption.bind, decision]
        split_ifs <;> rfl
      | _ => rfl

/-- The atomic answer of the check: what it returns if nothing happens between its
sections. -/
def checkAtomic (g : Globals) (lib : LibCrypto) (cert : X509) (targetNodeId : CString)
    (resourceType : UInt32) (action : SCFResourceAction) (ctx : SCFPolicyCtx) : Errno :=
  ((scfCheckResourcePermission g lib .valid (some cert) (some targetNodeId) resourceType
    action).run ctx).1

/-- The atomic answer for a well-formed request to an initialised library, in terms of
what the certificate says. -/
theorem checkAtomic_eq {g : Globals} (hg : g.scfInitialized = true) (lib : LibCrypto)
    (cert : X509) {targetNodeId : CString} {resourceType : UInt32}
    {action : SCFResourceAction} (hreq : ValidRequest targetNodeId resourceType action)
    (ctx : SCFPolicyCtx) :
    checkAtomic g lib cert targetNodeId resourceType action ctx =
      if ctx.rbacEnabled = false then .rbacDisabled
      else
        match certNodeId lib cert with
        | .absent => .certNodeIdAbsent
        | .malformed => .sslParseCert
        | .valid nodeId =>
          match localRole lib cert nodeId ctx with
          | .error ret => ret
          | .ok role =>
            decision ⟨nodeId, targetNodeId, resourceType, action⟩ role ctx := by
  unfold checkAtomic
  rw [scfCheckResourcePermission_eq hg lib cert hreq, resolveLocalIdentity_eq hg]
  cases henabled : ctx.rbacEnabled with
  | false => simp [henabled]
  | true =>
    cases certNodeId lib cert with
    | absent => simp [henabled]
    | malformed => simp [henabled]
    | valid nodeId =>
      cases hrole : certRole lib cert with
      | valid role => simp [henabled, localRole, hrole]
      | malformed => simp [henabled, localRole, hrole]
      | absent =>
        cases hmap : ctx.nodeRoleMap[nodeId.bytes]? <;>
          simp [henabled, localRole, hrole, hmap]

/-- In a context with a sound RBAC state the check gives the specified answer. -/
theorem checkAtomic_eq_permissionAnswer {ctx : SCFPolicyCtx} (hrules : RuleStoreInvariant ctx)
    (hroles : RoleMapInvariant ctx) (g : Globals) (lib : LibCrypto) (cert : X509)
    (targetNodeId : CString) (resourceType : UInt32) (action : SCFResourceAction) :
    checkAtomic g lib cert targetNodeId resourceType action ctx =
      permissionAnswer g lib cert targetNodeId resourceType action ctx := by
  unfold permissionAnswer
  by_cases hreq : ValidRequest targetNodeId resourceType action
  · rw [if_neg (not_not.mpr hreq)]
    cases hg : g.scfInitialized with
    | false => simp [checkAtomic, scfCheckResourcePermission_of_not_init hg lib cert hreq]
    | true =>
      obtain ⟨_, hres, hact⟩ := (validRequest_iff _ _ _).mp hreq
      rw [checkAtomic_eq hg lib cert hreq ctx]
      rw [if_neg (show ¬ true = false by decide)]
      split_ifs with henabled
      · rfl
      · cases certNodeId lib cert with
        | absent => rfl
        | malformed => rfl
        | valid nodeId =>
          dsimp only
          cases hrole : localRole lib cert nodeId ctx with
          | error ret => rfl
          | ok role =>
            refine decision_eq ⟨hres, hact⟩ ?_ ?_
            · exact localRole_ok hroles hrole
            · rintro rule ⟨id, hlive⟩
              exact (hrules.wellFormed id rule hlive).effect
  · rw [if_pos hreq]
    simp [checkAtomic, scfCheckResourcePermission_of_not_validRequest g lib cert hreq]

/-- The specified answer is success exactly if every condition is met. -/
theorem permissionAnswer_eq_success_iff {ctx : SCFPolicyCtx} (g : Globals) (lib : LibCrypto)
    (cert : X509) (targetNodeId : CString) (resourceType : UInt32)
    (action : SCFResourceAction) :
    permissionAnswer g lib cert targetNodeId resourceType action ctx = .success ↔
      ValidRequest targetNodeId resourceType action ∧ g.scfInitialized = true ∧
        ctx.rbacEnabled = true ∧
        ∃ nodeId, certNodeId lib cert = .valid nodeId ∧
          ∃ role, localRole lib cert nodeId ctx = .ok role ∧
            Grants ctx ⟨nodeId, targetNodeId, resourceType, action⟩ role := by
  -- an error of the role lookup is never the code of success
  have herror : ∀ nodeId ret, localRole lib cert nodeId ctx = .error ret →
      ret ≠ .success := by
    intro nodeId ret hret
    unfold localRole at hret
    split at hret
    · cases hret
    · cases hret
      decide
    · split at hret
      · cases hret
      · cases hret
        decide
  unfold permissionAnswer
  by_cases hreq : ValidRequest targetNodeId resourceType action
  · cases hg : g.scfInitialized with
    | false => simp [hreq]
    | true =>
      cases henabled : ctx.rbacEnabled with
      | false => simp [hreq]
      | true =>
        cases hid : certNodeId lib cert with
        | absent => simp [hreq]
        | malformed => simp [hreq]
        | valid nodeId =>
          cases hrole : localRole lib cert nodeId ctx with
          | error ret =>
            have hne := herror nodeId ret hrole
            simp [hreq, hrole, hne]
          | ok role => simp [hreq, hrole]
  · simp [hreq]

/-- In every reachable context `SCF_CheckResourcePermission` grants a request exactly if
it is well formed, RBAC is enabled, identity and role of the local node are known and
`Grants` holds; otherwise the first failing check determines the error. -/
theorem scfCheckResourcePermission_answer {lib : LibCrypto} {ctx : SCFPolicyCtx}
    (h : (rbacMachine lib).Reachable ctx) (g : Globals) (cert : X509)
    (targetNodeId : CString) (resourceType : UInt32) (action : SCFResourceAction) :
    (((scfCheckResourcePermission g lib .valid (some cert) (some targetNodeId) resourceType
          action).run ctx).1 = .success ↔
        ValidRequest targetNodeId resourceType action ∧ g.scfInitialized = true ∧
          ctx.rbacEnabled = true ∧
          ∃ nodeId, certNodeId lib cert = .valid nodeId ∧
            ∃ role, localRole lib cert nodeId ctx = .ok role ∧
              Grants ctx ⟨nodeId, targetNodeId, resourceType, action⟩ role) ∧
      ((scfCheckResourcePermission g lib .valid (some cert) (some targetNodeId) resourceType
          action).run ctx).1 =
        permissionAnswer g lib cert targetNodeId resourceType action ctx := by
  have hanswer : ((scfCheckResourcePermission g lib .valid (some cert) (some targetNodeId)
      resourceType action).run ctx).1 =
      permissionAnswer g lib cert targetNodeId resourceType action ctx :=
    checkAtomic_eq_permissionAnswer (ruleStoreInvariant_of_reachable h)
      (roleMapInvariant_of_reachable h) g lib cert targetNodeId resourceType action
  refine ⟨?_, hanswer⟩
  rw [hanswer]
  exact permissionAnswer_eq_success_iff g lib cert targetNodeId resourceType action

/-- A certificate of node `a` without a role. -/
def certOfNodeA : X509 := ⟨[⟨oidNodeId, [0x0c, 1, 97]⟩]⟩

/-- A context with RBAC enabled in which node `a` is a slave that may open files of any
node. -/
def slaveCtx : SCFPolicyCtx :=
  ((rbacMachine .shortForm).step
    ((rbacMachine .shortForm).step
      ((rbacMachine .shortForm).step newPolicyCtx (.ready, .enableRbac .valid true)).2
      (.ready, .setNodeRoleMapping .valid (some nodeA) .slave true)).2
    (.ready, .addPolicyRule .valid (some nodeA) (some .star) 1 1 .allow .valid
      true true)).2

theorem reachable_slaveCtx : (rbacMachine .shortForm).Reachable slaveCtx :=
  (((reachable_newPolicyCtx _).step _).step _).step _

theorem scfCheckResourcePermission_answer_slave :
    ∃ nodeId, certNodeId .shortForm certOfNodeA = .valid nodeId ∧
      ∃ role, localRole .shortForm certOfNodeA nodeId slaveCtx = .ok role ∧
        Grants slaveCtx ⟨nodeId, nodeB, 1, 1⟩ role := by
  have hgrant := (scfCheckResourcePermission_answer reachable_slaveCtx .ready certOfNodeA
    nodeB 1 1).1.mp (by decide)
  exact hgrant.2.2.2

end Scf
