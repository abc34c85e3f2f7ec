import ScfSecurity.Rbac.RoleMap
import ScfSecurity.Rbac.RuleStore

/-!
# The permission check

`SCF_CheckResourcePermission` decides whether the node of a certificate may act on a
resource of another node. It loads the enabled flag, looks the role up (under the
lock of the role map, unless the certificate names the role) and matches the rules
(under the lock of the rules): up to three separate atomic sections.
-/

namespace Scf

open Automaton

/-- `ResolveLocalIdentity`: the code and, on success, the local node and its role. -/
def resolveLocalIdentity (g : Globals) (lib : LibCrypto) (ctxPtr : Ptr) (localCert : X509) :
    Resumption SCFPolicyCtx (Errno × Option (CString × SCFRbacRole)) :=
  let (ret, localNodeId) :=
    scfGetCertNodeId g lib (some localCert) .valid maxNodeIdLen .valid
  match ret, localNodeId with
  | .success, some localNodeId => do
    let (ret, written) ←
      scfGetNodeRbacRole g lib ctxPtr (some localCert) none .valid .valid
    if ret ≠ .success then .done (ret, none)
    else .done (.success, written.map fun w => (localNodeId, w.1))
  | ret, _ => .done (ret, none)

/-- `GetCustomPolicyEffect`. -/
def getCustomPolicyEffect (request : PolicyMatchRequest) (effect : SCFPolicyEffect) :
    Resumption SCFPolicyCtx (Bool × Option SCFPolicyEffect) :=
  .load fun ctx => matchPolicyRule ctx.policyRuleMap request (some effect)

/-- `CheckDefaultResourcePermission`. -/
def checkDefaultResourcePermission (role : SCFRbacRole) (localNodeId targetNodeId : CString) :
    Errno :=
  if role = .master then .success
  else if role = .slave ∧ localNodeId = targetNodeId then .success
  else if role = .slave then .rbacDenied
  else .rbacRoleUnknown

/-- `SCF_CheckResourcePermission`. -/
def scfCheckResourcePermission (g : Globals) (lib : LibCrypto) (ctxPtr : Ptr)
    (localCert : Option X509) (targetNodeId : Option CString) (resourceType : UInt32)
    (action : SCFResourceAction) : Resumption SCFPolicyCtx Errno :=
  match ctxPtr, localCert, targetNodeId with
  | .valid, some localCert, some targetNodeId =>
    if !isValidNodeId (some targetNodeId) || !isSingleResourceType resourceType ||
        !isSingleResourceAction action then .done .invalidParam
    else if !g.scfInitialized then .done .notInit
    else do
      let rbacEnabled ← .load SCFPolicyCtx.rbacEnabled
      if !rbacEnabled then .done .rbacDisabled
      else
        let (ret, identity) ← resolveLocalIdentity g lib ctxPtr localCert
        match ret, identity with
        | .success, some (localNodeId, role) =>
          let request := ⟨localNodeId, targetNodeId, resourceType, action⟩
          let (found, effect) ← getCustomPolicyEffect request .deny
          if found then
            if effect = some .allow then .done .success else .done .rbacDenied
          else .done (checkDefaultResourcePermission role localNodeId targetNodeId)
        | ret, _ => .done ret
  | _, _, _ => .done .nullInput

end Scf
