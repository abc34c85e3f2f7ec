import ScfSecurity.Library.Machine
import ScfSecurity.Rbac.Permission

/-!
# What RBAC calls can do to a context

`RbacStep` lists every change an atomic section of an RBAC function can make, with
the checks that precede it. Each function guarantees it (`RbacCall.guarantees`), so
an invariant of contexts is proved once, over `RbacStep`, and then holds both along
sequences of calls and in every interleaving.

## Main definitions

- `RbacCall`: the RBAC functions with their arguments
- `rbacMachine`: sequences of calls on one context
- `RbacStep`: the changes of one atomic section
-/

namespace Scf

open Automaton

/-- The RBAC functions with their arguments and with what the environment decides.
`freeze` is the call that `SCF_Connect` and `SCF_Accept` make after a handshake. -/
inductive RbacCall where
  | setNodeRoleMapping (ctxPtr : Ptr) (nodeId : Option CString) (role : SCFRbacRole)
      (allocOk : Bool)
  | removeNodeRoleMapping (ctxPtr : Ptr) (nodeId : Option CString)
  | getNodeRbacRole (ctxPtr : Ptr) (cert : Option X509) (nodeId : Option CString)
      (role src : Ptr)
  | enableRbac (ctxPtr : Ptr) (enable : Bool)
  | listMasterNodes (ctxPtr nodeIdList : Ptr) (listCap : UInt32) (actualCount : Ptr)
      (visit : Std.TreeMap StdString SCFRbacRole → List (StdString × SCFRbacRole))
  | isMasterNode (ctxPtr : Ptr) (nodeId : Option CString) (isMaster : Ptr)
  | addPolicyRule (ctxPtr : Ptr) (subjectNodeId targetNodeId : Option CString)
      (resourceTypeBitmap actionBitmap : UInt32) (effect : SCFPolicyEffect) (ruleId : Ptr)
      (copyOk allocOk : Bool)
  | removePolicyRule (ctxPtr : Ptr) (ruleId : UInt32)
  | listPolicyRules (ctxPtr rules : Ptr) (ruleCap : UInt32) (actualCount : Ptr)
      (allocOk : ℕ → Bool)
  | checkResourcePermission (ctxPtr : Ptr) (localCert : Option X509)
      (targetNodeId : Option CString) (resourceType : UInt32) (action : SCFResourceAction)
  | freeze (ctxPtr : Ptr)

/-- The call only reads the context. -/
def RbacCall.IsRead : RbacCall → Prop
  | getNodeRbacRole .. | listMasterNodes .. | isMasterNode .. | listPolicyRules ..
  | checkResourcePermission .. => True
  | _ => False

/-- What a call returns: its code and what it wrote for the caller. -/
inductive RbacAnswer where
  | code (ret : Errno)
  | role (ret : Errno) (written : Option (SCFRbacRole × SCFRbacRoleSource))
  | nodes (ret : Errno) (written : Option (List StdString))
  | isMaster (ret : Errno) (written : Option Bool)
  | ruleId (ret : Errno) (written : Option UInt32)
  | rules (ret : Errno) (written : Option (List SCFPolicyRule))
deriving DecidableEq

/-- The function a call runs. -/
def RbacCall.body (lib : LibCrypto) (g : Globals) :
    RbacCall → Resumption SCFPolicyCtx RbacAnswer
  | setNodeRoleMapping ctxPtr nodeId role allocOk => do
    return .code (← scfSetNodeRoleMapping g ctxPtr nodeId role allocOk)
  | removeNodeRoleMapping ctxPtr nodeId => do
    return .code (← scfRemoveNodeRoleMapping g ctxPtr nodeId)
  | getNodeRbacRole ctxPtr cert nodeId role src => do
    let (ret, written) ← scfGetNodeRbacRole g lib ctxPtr cert nodeId role src
    return .role ret written
  | enableRbac ctxPtr enable => do
    return .code (← scfEnableRbac g ctxPtr enable)
  | listMasterNodes ctxPtr nodeIdList listCap actualCount visit => do
    let (ret, written) ←
      scfListMasterNodes g ctxPtr nodeIdList listCap actualCount visit
    return .nodes ret written
  | isMasterNode ctxPtr nodeId isMaster => do
    let (ret, written) ← scfIsMasterNode g ctxPtr nodeId isMaster
    return .isMaster ret written
  | addPolicyRule ctxPtr subjectNodeId targetNodeId resourceTypeBitmap actionBitmap effect
      ruleId copyOk allocOk => do
    let (ret, written) ←
      scfAddPolicyRule g ctxPtr subjectNodeId targetNodeId resourceTypeBitmap actionBitmap
        effect ruleId copyOk allocOk
    return .ruleId ret written
  | removePolicyRule ctxPtr ruleId => do
    return .code (← scfRemovePolicyRule g ctxPtr ruleId)
  | listPolicyRules ctxPtr rules ruleCap actualCount allocOk => do
    let (ret, written) ← scfListPolicyRules g ctxPtr rules ruleCap actualCount allocOk
    return .rules ret written
  | checkResourcePermission ctxPtr localCert targetNodeId resourceType action => do
    return .code
      (← scfCheckResourcePermission g lib ctxPtr localCert targetNodeId resourceType action)
  | freeze ctxPtr => do
    freezeNodeRoleMapping ctxPtr
    return .code .success

/-- A context from its creation on, under any sequence of RBAC calls. The library may
be initialised or not at each call. -/
def rbacMachine (lib : LibCrypto) :
    Machine SCFPolicyCtx (Globals × RbacCall) RbacAnswer where
  initial ctx := ∃ g allocOk, scfCreatePolicyCtx g allocOk = some ctx
  step ctx call := (call.2.body lib call.1).run ctx

theorem reachable_newPolicyCtx (lib : LibCrypto) : (rbacMachine lib).Reachable newPolicyCtx :=
  .initial ⟨.ready, true, rfl⟩

/-- The changes one atomic section can make to a context. -/
inductive RbacStep (ctx : SCFPolicyCtx) : SCFPolicyCtx → Prop
  | read : RbacStep ctx ctx
  | freeze : RbacStep ctx { ctx with nodeRoleMapFrozen := true }
  | enable (enable : Bool) : RbacStep ctx { ctx with rbacEnabled := enable }
  | setRole (nodeId : StdString) (role : SCFRbacRole) (hid : ValidNodeId nodeId)
      (hrole : role = .master ∨ role = .slave) (hfrozen : ctx.nodeRoleMapFrozen = false)
      (hroom : ctx.nodeRoleMap[nodeId]? ≠ none ∨
        ctx.nodeRoleMap.size < maxNodeRoleMapSize) :
      RbacStep ctx { ctx with nodeRoleMap := ctx.nodeRoleMap.insert nodeId role }
  | removeRole (nodeId : StdString) (hfrozen : ctx.nodeRoleMapFrozen = false) :
      RbacStep ctx { ctx with nodeRoleMap := ctx.nodeRoleMap.erase nodeId }
  | addRule (rule : SCFPolicyRule)
      (hkey : hasPolicyRuleKey ctx.policyRuleMap rule = false)
      (hroom : ctx.policyRuleMap.size < maxPolicyRuleSize)
      (hid : rule.ruleId = ctx.nextPolicyRuleId) (hne : ctx.nextPolicyRuleId ≠ 0)
      (hsubject : ValidNodeId rule.subjectNodeId)
      (htarget : ValidNodeId rule.targetNodeId ∨ rule.targetNodeId = CString.star.bytes)
      (hresource : isValidBitmap rule.resourceTypeBitmap SCFResourceType.all = true)
      (haction : isValidBitmap rule.actionBitmap allActions = true)
      (heffect : rule.effect = .allow ∨ rule.effect = .deny) :
      RbacStep ctx
        { ctx with
          policyRuleMap := ctx.policyRuleMap.insert ctx.nextPolicyRuleId rule
          nextPolicyRuleId := succRuleId ctx.nextPolicyRuleId }
  | removeRule (ruleId : UInt32) :
      RbacStep ctx { ctx with policyRuleMap := ctx.policyRuleMap.erase ruleId }

section Reading

variable {G : SCFPolicyCtx → SCFPolicyCtx → Prop} (hG : ∀ ctx, G ctx ctx)

include hG

theorem getMappingRole_guarantees (nodeId : Option CString) :
    (getMappingRole nodeId).Guarantees G := by
  unfold getMappingRole
  repeat' split
  all_goals simp [hG]

theorem scfGetNodeRbacRole_guarantees (g : Globals) (lib : LibCrypto) (ctxPtr : Ptr)
    (cert : Option X509) (nodeId : Option CString) (role src : Ptr) :
    (scfGetNodeRbacRole g lib ctxPtr cert nodeId role src).Guarantees G := by
  -- the only section is the one of `GetMappingRole`
  have hmap : ∀ (nodeId : Option CString)
      (k : Errno × Option SCFRbacRole →
        Resumption SCFPolicyCtx (Errno × Option (SCFRbacRole × SCFRbacRoleSource))),
      (∀ a, (k a).Guarantees G) →
      (getMappingRole nodeId >>= k).Guarantees G :=
    fun nodeId _ hk => (getMappingRole_guarantees hG nodeId).monad_bind hk
  unfold scfGetNodeRbacRole
  dsimp only
  split_ifs
  · exact Resumption.guarantees_done _ _
  · exact Resumption.guarantees_done _ _
  · exact Resumption.guarantees_done _ _
  · cases cert with
    | none =>
      refine hmap _ _ fun a => ?_
      split <;> exact Resumption.guarantees_done _ _
    | some cert =>
      dsimp only
      split_ifs
      · exact Resumption.guarantees_done _ _
      · exact Resumption.guarantees_done _ _
      · exact Resumption.guarantees_done _ _
      -- the identity of the mapping is that of the certificate, or else the given one
      all_goals
        refine hmap _ _ fun a => ?_
        split <;> exact Resumption.guarantees_done _ _

theorem scfListMasterNodes_guarantees (g : Globals) (ctxPtr nodeIdList : Ptr) (listCap : UInt32)
    (actualCount : Ptr)
    (visit : Std.TreeMap StdString SCFRbacRole → List (StdString × SCFRbacRole)) :
    (scfListMasterNodes g ctxPtr nodeIdList listCap actualCount visit).Guarantees G := by
  unfold scfListMasterNodes
  repeat' split
  all_goals simp [hG]

theorem scfIsMasterNode_guarantees (g : Globals) (ctxPtr : Ptr) (nodeId : Option CString)
    (isMaster : Ptr) : (scfIsMasterNode g ctxPtr nodeId isMaster).Guarantees G := by
  unfold scfIsMasterNode
  repeat' split
  all_goals simp [hG]

theorem scfListPolicyRules_guarantees (g : Globals) (ctxPtr rules : Ptr) (ruleCap : UInt32)
    (actualCount : Ptr) (allocOk : ℕ → Bool) :
    (scfListPolicyRules g ctxPtr rules ruleCap actualCount allocOk).Guarantees G := by
  unfold scfListPolicyRules
  repeat' split
  all_goals simp [hG]

theorem scfCheckResourcePermission_guarantees (g : Globals) (lib : LibCrypto) (ctxPtr : Ptr)
    (localCert : Option X509) (targetNodeId : Option CString) (resourceType : UInt32)
    (action : SCFResourceAction) :
    (scfCheckResourcePermission g lib ctxPtr localCert targetNodeId resourceType
      action).Guarantees G := by
  have hid : ∀ cert, (resolveLocalIdentity g lib .valid cert).Guarantees G := by
    intro cert
    unfold resolveLocalIdentity
    dsimp only
    split
    · refine (scfGetNodeRbacRole_guarantees hG _ _ _ _ _ _ _).monad_bind fun a => ?_
      split <;> exact Resumption.guarantees_done _ _
    · exact Resumption.guarantees_done _ _
  unfold scfCheckResourcePermission
  split
  case h_2 => exact Resumption.guarantees_done _ _
  case h_1 cert target =>
    split_ifs
    · exact Resumption.guarantees_done _ _
    · exact Resumption.guarantees_done _ _
    · refine (Resumption.guarantees_load.mpr hG).monad_bind fun enabled => ?_
      split_ifs
      · exact Resumption.guarantees_done _ _
      · refine (hid cert).monad_bind fun ⟨ret, identity⟩ => ?_
        dsimp only
        split
        · refine Resumption.Guarantees.monad_bind
            (Resumption.guarantees_load.mpr hG) fun _ => ?_
          split_ifs <;> exact Resumption.guarantees_done _ _
        · exact Resumption.guarantees_done _ _

/-- A call that only reads guarantees any reflexive relation. -/
theorem RbacCall.guarantees_of_isRead (lib : LibCrypto) (g : Globals) {call : RbacCall}
    (h : call.IsRead) : (call.body lib g).Guarantees G := by
  have hpure : ∀ r : RbacAnswer,
      (pure r : Resumption SCFPolicyCtx RbacAnswer).Guarantees G := fun _ => trivial
  cases call with
  | getNodeRbacRole =>
    exact (scfGetNodeRbacRole_guarantees hG _ _ _ _ _ _ _).monad_bind fun _ => hpure _
  | listMasterNodes =>
    exact (scfListMasterNodes_guarantees hG _ _ _ _ _ _).monad_bind fun _ => hpure _
  | isMasterNode =>
    exact (scfIsMasterNode_guarantees hG _ _ _ _).monad_bind fun _ => hpure _
  | listPolicyRules =>
    exact (scfListPolicyRules_guarantees hG _ _ _ _ _ _).monad_bind fun _ => hpure _
  | checkResourcePermission =>
    exact (scfCheckResourcePermission_guarantees hG _ _ _ _ _ _ _).monad_bind fun _ => hpure _
  | _ => exact h.elim

end Reading

/-- A call that only reads leaves the context as it is. -/
theorem RbacCall.run_of_isRead (lib : LibCrypto) (g : Globals) {call : RbacCall}
    (h : call.IsRead) (ctx : SCFPolicyCtx) : ((call.body lib g).run ctx).2 = ctx :=
  (guarantees_of_isRead (G := fun ctx ctx' => ctx' = ctx) (fun _ => rfl) lib g h).invariant
    (fun _ _ hstep hctx => hstep.trans hctx) rfl

theorem scfSetNodeRoleMapping_guarantees (g : Globals) (ctxPtr : Ptr)
    (nodeId : Option CString) (role : SCFRbacRole) (allocOk : Bool) :
    (scfSetNodeRoleMapping g ctxPtr nodeId role allocOk).Guarantees RbacStep := by
  unfold scfSetNodeRoleMapping
  split
  case h_2 => exact Resumption.guarantees_done _ _
  case h_1 nodeId =>
    split_ifs with hvalid hinit
    · exact Resumption.guarantees_done _ _
    · exact Resumption.guarantees_done _ _
    · rw [Resumption.guarantees_critical]
      intro ctx
      have hv : isValidNodeId (some nodeId) = true ∧ isValidRole role = true := by
        simpa using hvalid
      unfold setMappingLocked
      split_ifs with hfrozen hfull halloc
      · exact .read
      · exact .read
      · exact .read
      · refine .setRole _ _ ((isValidNodeId_iff _).mp hv.1) ((isValidRole_iff _).mp hv.2)
          (by simpa using hfrozen) ?_
        by_cases hmem : ctx.nodeRoleMap[nodeId.bytes]? = none
        · exact .inr (by_contra fun h => hfull ⟨hmem, by omega⟩)
        · exact .inl hmem

theorem scfRemoveNodeRoleMapping_guarantees (g : Globals) (ctxPtr : Ptr)
    (nodeId : Option CString) :
    (scfRemoveNodeRoleMapping g ctxPtr nodeId).Guarantees RbacStep := by
  unfold scfRemoveNodeRoleMapping
  split
  case h_2 => exact Resumption.guarantees_done _ _
  case h_1 nodeId =>
    split_ifs
    · exact Resumption.guarantees_done _ _
    · exact Resumption.guarantees_done _ _
    · rw [Resumption.guarantees_critical]
      intro ctx
      unfold removeMappingLocked
      split_ifs with hfrozen habsent
      · exact .read
      · exact .read
      · exact .removeRole _ (by simpa using hfrozen)

theorem scfEnableRbac_guarantees (g : Globals) (ctxPtr : Ptr) (enable : Bool) :
    (scfEnableRbac g ctxPtr enable).Guarantees RbacStep := by
  unfold scfEnableRbac
  split_ifs
  · exact Resumption.guarantees_done _ _
  · exact Resumption.guarantees_done _ _
  · rw [Resumption.guarantees_critical]
    exact fun ctx => .enable enable

theorem freezeNodeRoleMapping_guarantees (ctxPtr : Ptr) :
    (freezeNodeRoleMapping ctxPtr).Guarantees RbacStep := by
  unfold freezeNodeRoleMapping
  split_ifs
  · exact Resumption.guarantees_done _ _
  · rw [Resumption.guarantees_critical]
    exact fun ctx => .freeze

/-- What the argument checks of `SCF_AddPolicyRule` establish. -/
theorem isValidPolicyRule_iff (subjectNodeId targetNodeId : CString)
    (resourceTypeBitmap actionBitmap : UInt32) (effect : SCFPolicyEffect) :
    isValidPolicyRule subjectNodeId targetNodeId resourceTypeBitmap actionBitmap effect =
        true ↔
      ValidNodeId subjectNodeId.bytes ∧
        (ValidNodeId targetNodeId.bytes ∨ targetNodeId.bytes = CString.star.bytes) ∧
        isValidBitmap resourceTypeBitmap SCFResourceType.all = true ∧
        isValidBitmap actionBitmap allActions = true ∧
        (effect = .allow ∨ effect = .deny) := by
  have hstar : targetNodeId = CString.star ↔ targetNodeId.bytes = CString.star.bytes :=
    ⟨congrArg _, CString.ext⟩
  simp only [isValidPolicyRule, Bool.and_eq_true, Bool.or_eq_true, decide_eq_true_eq,
    isValidNodeId_iff, isValidPolicyEffect_iff, hstar, and_assoc]

/-- The context after `InsertPolicyRule`, if it changes. -/
theorem insertPolicyRule_cases (rule : SCFPolicyRule) (allocOk : Bool) (ctx : SCFPolicyCtx) :
    ((insertPolicyRule rule allocOk ctx).1 ≠ .success ∧
      (insertPolicyRule rule allocOk ctx).2.2 = ctx) ∨
    (hasPolicyRuleKey ctx.policyRuleMap rule = false ∧
      ctx.policyRuleMap.size < maxPolicyRuleSize ∧ ctx.nextPolicyRuleId ≠ 0 ∧
      insertPolicyRule rule allocOk ctx =
        (.success, { rule with ruleId := ctx.nextPolicyRuleId },
          { ctx with
            policyRuleMap := ctx.policyRuleMap.insert ctx.nextPolicyRuleId
              { rule with ruleId := ctx.nextPolicyRuleId }
            nextPolicyRuleId := succRuleId ctx.nextPolicyRuleId })) := by
  unfold insertPolicyRule
  split_ifs with hkey hfull halloc
  · exact .inl ⟨by simp, rfl⟩
  · exact .inl ⟨by simp, rfl⟩
  · exact .inl ⟨by simp, rfl⟩
  · rw [not_or] at hfull
    by_cases hmem : ctx.policyRuleMap.contains ctx.nextPolicyRuleId = true
    · have hemplace : ∀ rule', emplace ctx.policyRuleMap ctx.nextPolicyRuleId rule' =
          (false, ctx.policyRuleMap) := fun _ => if_pos hmem
      simp only [hemplace]
      exact .inl ⟨by simp, rfl⟩
    · have hemplace : ∀ rule', emplace ctx.policyRuleMap ctx.nextPolicyRuleId rule' =
          (true, ctx.policyRuleMap.insert ctx.nextPolicyRuleId rule') := fun _ => if_neg hmem
      simp only [hemplace]
      exact .inr ⟨by simpa using hkey, by omega, hfull.2, rfl⟩

theorem scfAddPolicyRule_guarantees (g : Globals) (ctxPtr : Ptr)
    (subjectNodeId targetNodeId : Option CString) (resourceTypeBitmap actionBitmap : UInt32)
    (effect : SCFPolicyEffect) (ruleId : Ptr) (copyOk allocOk : Bool) :
    (scfAddPolicyRule g ctxPtr subjectNodeId targetNodeId resourceTypeBitmap actionBitmap
      effect ruleId copyOk allocOk).Guarantees RbacStep := by
  unfold scfAddPolicyRule
  split
  case h_2 => exact Resumption.guarantees_done _ _
  case h_1 subject target =>
    split_ifs with hvalid
    · exact Resumption.guarantees_done _ _
    · exact Resumption.guarantees_done _ _
    · exact Resumption.guarantees_done _ _
    · obtain ⟨hsubject, htarget, hresource, haction, heffect⟩ :=
        (isValidPolicyRule_iff _ _ _ _ _).mp (by simpa using hvalid)
      rw [Resumption.guarantees_critical]
      intro ctx
      dsimp only
      rcases insertPolicyRule_cases ⟨0, subject.bytes, target.bytes, resourceTypeBitmap,
        actionBitmap, effect⟩ allocOk ctx with ⟨hret, hctx⟩ | ⟨hkey, hroom, hne, heq⟩
      · rw [if_pos hret, hctx]
        exact .read
      · rw [heq]
        exact .addRule _ hkey hroom rfl hne hsubject htarget hresource haction heffect

theorem scfRemovePolicyRule_guarantees (g : Globals) (ctxPtr : Ptr) (ruleId : UInt32) :
    (scfRemovePolicyRule g ctxPtr ruleId).Guarantees RbacStep := by
  unfold scfRemovePolicyRule
  split_ifs
  · exact Resumption.guarantees_done _ _
  · exact Resumption.guarantees_done _ _
  · exact Resumption.guarantees_done _ _
  · rw [Resumption.guarantees_critical]
    intro ctx
    unfold removePolicyRuleLocked
    split_ifs
    · exact .read
    · exact .removeRule _

/-- `SCF_SetNodeRoleMapping` refuses its arguments, or it is its locked part. -/
theorem scfSetNodeRoleMapping_run (g : Globals) (ctxPtr : Ptr) (nodeId : Option CString)
    (role : SCFRbacRole) (allocOk : Bool) :
    (∀ ctx, ((scfSetNodeRoleMapping g ctxPtr nodeId role allocOk).run ctx).2 = ctx) ∨
    ∃ id, nodeId = some id ∧
      ∀ ctx, (scfSetNodeRoleMapping g ctxPtr nodeId role allocOk).run ctx =
        setMappingLocked id role allocOk ctx := by
  unfold scfSetNodeRoleMapping
  split
  · split_ifs
    · exact .inl fun _ => rfl
    · exact .inl fun _ => rfl
    · exact .inr ⟨_, rfl, fun _ => rfl⟩
  · exact .inl fun _ => rfl

/-- `SCF_RemoveNodeRoleMapping` refuses its arguments, or it is its locked part. -/
theorem scfRemoveNodeRoleMapping_run (g : Globals) (ctxPtr : Ptr) (nodeId : Option CString) :
    (∀ ctx, ((scfRemoveNodeRoleMapping g ctxPtr nodeId).run ctx).2 = ctx) ∨
    ∃ id, nodeId = some id ∧
      ∀ ctx, (scfRemoveNodeRoleMapping g ctxPtr nodeId).run ctx = removeMappingLocked id ctx := by
  unfold scfRemoveNodeRoleMapping
  split
  · split_ifs
    · exact .inl fun _ => rfl
    · exact .inl fun _ => rfl
    · exact .inr ⟨_, rfl, fun _ => rfl⟩
  · exact .inl fun _ => rfl

/-- `SCF_AddPolicyRule` refuses its arguments, or it is `InsertPolicyRule` with a rule of its
subject. -/
theorem scfAddPolicyRule_run (g : Globals) (ctxPtr : Ptr)
    (subjectNodeId targetNodeId : Option CString) (resourceTypeBitmap actionBitmap : UInt32)
    (effect : SCFPolicyEffect) (ruleId : Ptr) (copyOk allocOk : Bool) :
    (∀ ctx, ((scfAddPolicyRule g ctxPtr subjectNodeId targetNodeId resourceTypeBitmap
      actionBitmap effect ruleId copyOk allocOk).run ctx).2 = ctx) ∨
    ∃ subject rule, subjectNodeId = some subject ∧ rule.subjectNodeId = subject.bytes ∧
      ∀ ctx, ((scfAddPolicyRule g ctxPtr subjectNodeId targetNodeId resourceTypeBitmap
          actionBitmap effect ruleId copyOk allocOk).run ctx).1.1 =
            (insertPolicyRule rule allocOk ctx).1 ∧
        ((scfAddPolicyRule g ctxPtr subjectNodeId targetNodeId resourceTypeBitmap
          actionBitmap effect ruleId copyOk allocOk).run ctx).2 =
            (insertPolicyRule rule allocOk ctx).2.2 := by
  unfold scfAddPolicyRule
  split
  case h_1 subject target =>
    split_ifs
    · exact .inl fun _ => rfl
    · exact .inl fun _ => rfl
    · exact .inl fun _ => rfl
    · refine .inr ⟨subject, ⟨0, subject.bytes, target.bytes, resourceTypeBitmap, actionBitmap,
        effect⟩, rfl, rfl, fun ctx => ?_⟩
      rw [Resumption.run_critical]
      dsimp only
      split_ifs with hret
      · exact ⟨rfl, rfl⟩
      · exact ⟨(not_not.mp hret).symm, rfl⟩
  case h_2 => exact .inl fun _ => rfl

theorem setMappingLocked_cases (id : CString) (role : SCFRbacRole) (allocOk : Bool)
    (ctx : SCFPolicyCtx) :
    ((setMappingLocked id role allocOk ctx).1 ≠ .success ∧
      (setMappingLocked id role allocOk ctx).2 = ctx) ∨
    setMappingLocked id role allocOk ctx =
      (.success, { ctx with nodeRoleMap := ctx.nodeRoleMap.insert id.bytes role }) := by
  unfold setMappingLocked
  split_ifs
  · exact .inl ⟨by simp, rfl⟩
  · exact .inl ⟨by simp, rfl⟩
  · exact .inl ⟨by simp, rfl⟩
  · exact .inr rfl

theorem removeMappingLocked_cases (id : CString) (ctx : SCFPolicyCtx) :
    ((removeMappingLocked id ctx).1 ≠ .success ∧ (removeMappingLocked id ctx).2 = ctx) ∨
    removeMappingLocked id ctx =
      (.success, { ctx with nodeRoleMap := ctx.nodeRoleMap.erase id.bytes }) := by
  unfold removeMappingLocked
  split_ifs
  · exact .inl ⟨by simp, rfl⟩
  · exact .inl ⟨by simp, rfl⟩
  · exact .inr rfl

/-- `SCF_RemovePolicyRule` changes nothing but the rules. -/
theorem scfRemovePolicyRule_frame (g : Globals) (ctxPtr : Ptr) (ruleId : UInt32)
    (ctx : SCFPolicyCtx) :
    ∃ rules, ((scfRemovePolicyRule g ctxPtr ruleId).run ctx).2 =
      { ctx with policyRuleMap := rules } := by
  unfold scfRemovePolicyRule
  split_ifs
  · exact ⟨_, rfl⟩
  · exact ⟨_, rfl⟩
  · exact ⟨_, rfl⟩
  · rw [Resumption.run_critical, removePolicyRuleLocked]
    split_ifs
    · exact ⟨_, rfl⟩
    · exact ⟨_, rfl⟩

/-- Every RBAC call keeps to `RbacStep` in each of its sections. -/
theorem RbacCall.guarantees (lib : LibCrypto) (g : Globals) (call : RbacCall) :
    (call.body lib g).Guarantees RbacStep := by
  have hpure : ∀ r : RbacAnswer,
      (pure r : Resumption SCFPolicyCtx RbacAnswer).Guarantees RbacStep := fun _ => trivial
  cases call with
  | setNodeRoleMapping =>
    exact (scfSetNodeRoleMapping_guarantees _ _ _ _ _).monad_bind fun _ => hpure _
  | removeNodeRoleMapping =>
    exact (scfRemoveNodeRoleMapping_guarantees _ _ _).monad_bind fun _ => hpure _
  | enableRbac => exact (scfEnableRbac_guarantees _ _ _).monad_bind fun _ => hpure _
  | addPolicyRule =>
    exact (scfAddPolicyRule_guarantees _ _ _ _ _ _ _ _ _ _).monad_bind fun _ => hpure _
  | removePolicyRule =>
    exact (scfRemovePolicyRule_guarantees _ _ _).monad_bind fun _ => hpure _
  | freeze =>
    exact (freezeNodeRoleMapping_guarantees _).monad_bind fun _ => hpure _
  | _ => exact RbacCall.guarantees_of_isRead (fun _ => .read) lib g trivial

/-- **Invariant rule for contexts**: a property of new contexts that every `RbacStep`
keeps holds after every sequence of RBAC calls. -/
theorem rbacMachine_invariant {lib : LibCrypto} {I : SCFPolicyCtx → Prop}
    (hnew : I newPolicyCtx) (hstep : ∀ ctx ctx', RbacStep ctx ctx' → I ctx → I ctx')
    {ctx : SCFPolicyCtx} (h : (rbacMachine lib).Reachable ctx) : I ctx := by
  refine Machine.Reachable.invariant ?_ ?_ h
  · rintro ctx ⟨g, allocOk, hctx⟩
    obtain rfl := eq_newPolicyCtx hctx
    exact hnew
  · intro ctx call hI
    exact (RbacCall.guarantees lib call.1 call.2).invariant hstep hI

end Scf
