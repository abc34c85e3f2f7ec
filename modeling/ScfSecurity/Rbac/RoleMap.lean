import ScfSecurity.Library.Resumption
import ScfSecurity.Rbac.NodeIdentity

/-!
# The node role map

The functions of `rbac.cpp` on `nodeRoleMap`, which maps node identifiers to roles.
All accesses hold `nodeRoleMapMutex`; the first successful handshake freezes the map.
A function that takes the lock is a `Resumption` whose sections are the locked parts.
-/

namespace Scf

open Automaton

/-- `MAX_NODE_ROLE_MAP_SIZE`. -/
def maxNodeRoleMapSize : ℕ := 4096

/-- `FreezeNodeRoleMapping`. -/
def freezeNodeRoleMapping (ctxPtr : Ptr) : Resumption SCFPolicyCtx Unit :=
  if ctxPtr = .null then .done ()
  else .critical fun ctx => ((), { ctx with nodeRoleMapFrozen := true })

/-- `GetMappingRole`: the code and, on success, the role. -/
def getMappingRole (nodeId : Option CString) :
    Resumption SCFPolicyCtx (Errno × Option SCFRbacRole) :=
  match nodeId with
  | none => .done (.rbacRoleUnknown, none)
  | some nodeId =>
    if !isValidNodeId (some nodeId) then .done (.rbacRoleUnknown, none)
    else
      .load fun ctx =>
        match ctx.nodeRoleMap[nodeId.bytes]? with
        | none => (.rbacRoleUnknown, none)
        | some role => (.success, some role)

theorem getMappingRole_of_valid {nodeId : CString} (h : isValidNodeId (some nodeId) = true) :
    getMappingRole (some nodeId) =
      .load fun ctx =>
        match ctx.nodeRoleMap[nodeId.bytes]? with
        | none => (.rbacRoleUnknown, none)
        | some role => (.success, some role) := by
  simp [getMappingRole, h]

/-- The locked part of `SCF_SetNodeRoleMapping`. Overwriting an entry needs no room in
the map; `allocOk` says whether the memory for the entry can be allocated. -/
def setMappingLocked (nodeId : CString) (role : SCFRbacRole) (allocOk : Bool)
    (ctx : SCFPolicyCtx) : Errno × SCFPolicyCtx :=
  if ctx.nodeRoleMapFrozen then (.rbacMapFrozen, ctx)
  else if ctx.nodeRoleMap[nodeId.bytes]? = none ∧
      maxNodeRoleMapSize ≤ ctx.nodeRoleMap.size then (.rbacMapFull, ctx)
  else if !allocOk then (.memAlloc, ctx)
  else (.success, { ctx with nodeRoleMap := ctx.nodeRoleMap.insert nodeId.bytes role })

/-- `SCF_SetNodeRoleMapping`. -/
def scfSetNodeRoleMapping (g : Globals) (ctxPtr : Ptr) (nodeId : Option CString)
    (role : SCFRbacRole) (allocOk : Bool) : Resumption SCFPolicyCtx Errno :=
  match ctxPtr, nodeId with
  | .valid, some nodeId =>
    if !isValidNodeId (some nodeId) || !isValidRole role then .done .invalidParam
    else if !g.scfInitialized then .done .notInit
    else .critical (setMappingLocked nodeId role allocOk)
  | _, _ => .done .nullInput

theorem scfSetNodeRoleMapping_of_valid {g : Globals} (hg : g.scfInitialized = true)
    {nodeId : CString} (hid : isValidNodeId (some nodeId) = true) {role : SCFRbacRole}
    (hrole : isValidRole role = true) (allocOk : Bool) :
    scfSetNodeRoleMapping g .valid (some nodeId) role allocOk =
      .critical (setMappingLocked nodeId role allocOk) := by
  simp [scfSetNodeRoleMapping, hg, hid, hrole]

/-- The locked part of `SCF_RemoveNodeRoleMapping`. -/
def removeMappingLocked (nodeId : CString) (ctx : SCFPolicyCtx) : Errno × SCFPolicyCtx :=
  if ctx.nodeRoleMapFrozen then (.rbacMapFrozen, ctx)
  else if ctx.nodeRoleMap[nodeId.bytes]? = none then (.rbacMapNotFound, ctx)
  else (.success, { ctx with nodeRoleMap := ctx.nodeRoleMap.erase nodeId.bytes })

/-- `SCF_RemoveNodeRoleMapping`. -/
def scfRemoveNodeRoleMapping (g : Globals) (ctxPtr : Ptr) (nodeId : Option CString) :
    Resumption SCFPolicyCtx Errno :=
  match ctxPtr, nodeId with
  | .valid, some nodeId =>
    if !isValidNodeId (some nodeId) then .done .invalidParam
    else if !g.scfInitialized then .done .notInit
    else .critical (removeMappingLocked nodeId)
  | _, _ => .done .nullInput

theorem scfRemoveNodeRoleMapping_of_valid {g : Globals} (hg : g.scfInitialized = true)
    {nodeId : CString} (hid : isValidNodeId (some nodeId) = true) :
    scfRemoveNodeRoleMapping g .valid (some nodeId) =
      .critical (removeMappingLocked nodeId) := by
  simp [scfRemoveNodeRoleMapping, hg, hid]

/-- `SCF_GetNodeRbacRole`: the code and what is written to `*role` and `*src`, if
anything is. -/
def scfGetNodeRbacRole (g : Globals) (lib : LibCrypto) (ctxPtr : Ptr) (cert : Option X509)
    (nodeId : Option CString) (role src : Ptr) :
    Resumption SCFPolicyCtx (Errno × Option (SCFRbacRole × SCFRbacRoleSource)) :=
  if ctxPtr = .null ∨ (cert = none ∧ nodeId = none) ∨ role = .null ∨ src = .null then
    .done (.nullInput, none)
  else if nodeId ≠ none ∧ !isValidNodeId nodeId then .done (.invalidParam, none)
  else if !g.scfInitialized then .done (.notInit, none)
  else
    let unknown := some (SCFRbacRole.unknown, SCFRbacRoleSource.none)
    let fromMapping (mappingNodeId : Option CString) := do
      let (ret, role) ← getMappingRole mappingNodeId
      if ret ≠ .success then .done (.rbacRoleUnknown, unknown)
      else .done (.success, role.map fun role => (role, .mapping))
    match cert with
    | none => fromMapping nodeId
    | some cert =>
      let (certRoleRet, certRole) := scfGetCertRbacRole g lib (some cert) .valid
      if certRoleRet ≠ .success ∧ certRoleRet ≠ .certRoleExtAbsent then
        .done (certRoleRet, unknown)
      else
        let (certNodeIdRet, certNodeId) :=
          scfGetCertNodeId g lib (some cert) .valid maxNodeIdLen .valid
        if certNodeIdRet ≠ .success ∧ certNodeIdRet ≠ .certNodeIdAbsent then
          .done (certNodeIdRet, unknown)
        else if certRoleRet = .success then
          .done (.success, certRole.map fun role => (role, .cert))
        else fromMapping (if certNodeIdRet = .success then certNodeId else nodeId)

/-- The loop of `SCF_ListMasterNodes` over the entries in the order of the hash map:
the code and the identifiers copied out. -/
def listMasterLoop (listCap : ℕ) (entries : List (StdString × SCFRbacRole))
    (copied : List StdString) : Errno × List StdString :=
  match entries with
  | [] => (.success, copied)
  | (nodeId, role) :: entries =>
    if copied.length = listCap then (.success, copied)
    else if role ≠ .master then listMasterLoop listCap entries copied
    else if !memcpyS maxNodeIdLen nodeId.length then (.memCpy, copied)
    else listMasterLoop listCap entries (copied ++ [nodeId])

/-- `SCF_ListMasterNodes`: the code and the identifiers in the caller's array, if it is
touched. `visit` is the order in which the hash map is iterated. -/
def scfListMasterNodes (g : Globals) (ctxPtr nodeIdList : Ptr) (listCap : UInt32)
    (actualCount : Ptr)
    (visit : Std.TreeMap StdString SCFRbacRole → List (StdString × SCFRbacRole)) :
    Resumption SCFPolicyCtx (Errno × Option (List StdString)) :=
  if ctxPtr = .null ∨ nodeIdList = .null ∨ actualCount = .null then
    .done (.nullInput, none)
  else if listCap = 0 then .done (.invalidParam, none)
  else if !g.scfInitialized then .done (.notInit, none)
  else
    .load fun ctx =>
      let (ret, copied) := listMasterLoop listCap.toNat (visit ctx.nodeRoleMap) []
      (ret, some copied)

/-- `SCF_IsMasterNode`: the code and what is written to `*isMaster`, if anything is. -/
def scfIsMasterNode (g : Globals) (ctxPtr : Ptr) (nodeId : Option CString)
    (isMaster : Ptr) : Resumption SCFPolicyCtx (Errno × Option Bool) :=
  match ctxPtr, nodeId, isMaster with
  | .valid, some nodeId, .valid =>
    if !isValidNodeId (some nodeId) then .done (.invalidParam, none)
    else if !g.scfInitialized then .done (.notInit, none)
    else
      .load fun ctx =>
        match ctx.nodeRoleMap[nodeId.bytes]? with
        | none => (.rbacMapNotFound, some false)
        | some role => (.success, some (role = .master))
  | _, _, _ => .done (.nullInput, none)

/-- `SCF_EnableRbac`: the flag is an atomic variable. -/
def scfEnableRbac (g : Globals) (ctxPtr : Ptr) (enable : Bool) :
    Resumption SCFPolicyCtx Errno :=
  if ctxPtr = .null then .done .nullInput
  else if !g.scfInitialized then .done .notInit
  else .critical fun ctx => (.success, { ctx with rbacEnabled := enable })

end Scf
