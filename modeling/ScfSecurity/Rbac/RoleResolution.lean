import ScfSecurity.Rbac.Decision

/-!
# Where the role of a node comes from

`SCF_GetNodeRbacRole` has three sources: the role in a certificate, the role map under the
identity in a certificate, and the role map under the identity that the caller gives. A
certificate that cannot be read in full is refused, so none of the sources below it is asked.

## Main definitions

- `mappingRole`: the answer of the role map
- `nodeRole`: the answer, by what the certificate says

## Main results

- `scfGetNodeRbacRole_run`: the function gives this answer
- `scfGetNodeRbacRole_resolution`: which source decides, and what a failure leaves behind
-/

namespace Scf

open Automaton

/-- A failing answer: the code, and no role from no source. -/
def noRole (ret : Errno) : Errno × Option (SCFRbacRole × SCFRbacRoleSource) :=
  (ret, some (.unknown, .none))

/-- The role map asked for a node. -/
def mappingRole (ctx : SCFPolicyCtx) (nodeId : Option CString) :
    Errno × Option (SCFRbacRole × SCFRbacRoleSource) :=
  match nodeId with
  | none => noRole .rbacRoleUnknown
  | some nodeId =>
    match ctx.nodeRoleMap[nodeId.bytes]? with
    | none => noRole .rbacRoleUnknown
    | some role => (.success, some (role, .mapping))

/-- The role of a node: a certificate must be readable, its role comes first, and its
identity replaces that of the caller. -/
def nodeRole (lib : LibCrypto) (cert : Option X509) (nodeId : Option CString)
    (ctx : SCFPolicyCtx) : Errno × Option (SCFRbacRole × SCFRbacRoleSource) :=
  match cert with
  | none => mappingRole ctx nodeId
  | some cert =>
    match certRole lib cert, certNodeId lib cert with
    | .malformed, _ => noRole .sslParseCert
    | _, .malformed => noRole .sslParseCert
    | .valid role, _ => (.success, some (role, .cert))
    | .absent, .valid certNodeId => mappingRole ctx (some certNodeId)
    | .absent, .absent => mappingRole ctx nodeId

/-- Two extensions of the certificate have the identifier. -/
def X509.Repeats (cert : X509) (oid : String) : Prop :=
  2 ≤ (cert.extensions.filter fun extension => extension.oid = oid).length

/-! ### Repeated extensions -/

/-- No extension from position `start` on has the identifier. -/
theorem X509.getExtByObj_eq_none_iff (cert : X509) (oid : String) (start : ℕ) :
    cert.getExtByObj oid start = none ↔
      (cert.extensions.drop start).filter (fun extension => extension.oid = oid) = [] := by
  rw [X509.getExtByObj, Option.map_eq_none_iff, List.findIdx?_eq_none_iff, List.filter_eq_nil_iff]
  simp

/-- Up to its first occurrence the identifier occurs once. -/
theorem X509.filter_of_getExtByObj {cert : X509} {oid : String} {index : ℕ}
    (h : cert.getExtByObj oid 0 = some index) :
    ∃ extension, cert.extensions[index]? = some extension ∧ extension.oid = oid ∧
      cert.extensions.filter (fun extension => extension.oid = oid) =
        extension ::
          (cert.extensions.drop (index + 1)).filter fun extension => extension.oid = oid := by
  simp only [X509.getExtByObj, List.drop_zero, Nat.add_zero, Option.map_id'] at h
  obtain ⟨hlt, hoid, hbefore⟩ := List.findIdx?_eq_some_iff_getElem.mp h
  have hoid' : (cert.extensions[index]).oid = oid := by simpa using hoid
  refine ⟨cert.extensions[index], List.getElem?_eq_getElem hlt, hoid', ?_⟩
  -- the list is what comes before the extension, the extension and what comes after it
  have hprefix : (cert.extensions.take index).filter
      (fun extension => extension.oid = oid) = [] := by
    rw [List.filter_eq_nil_iff]
    intro extension hmem
    obtain ⟨i, hi, rfl⟩ := List.getElem_of_mem hmem
    rw [List.length_take] at hi
    rw [List.getElem_take]
    simpa using hbefore i (by omega)
  calc cert.extensions.filter (fun extension => extension.oid = oid)
      = (cert.extensions.take index ++ cert.extensions.drop index).filter
          (fun extension => extension.oid = oid) := by rw [List.take_append_drop]
    _ = _ := by
        rw [List.filter_append, hprefix, List.nil_append, List.drop_eq_getElem_cons hlt,
          List.filter_cons_of_pos (by simpa using hoid')]

/-- A repeated extension is not read. -/
theorem getCertExtensionByOid_of_repeats (lib : LibCrypto) {cert : X509} {oid : String}
    (h : cert.Repeats oid) : (getCertExtensionByOid lib cert oid).1 = .sslParseCert := by
  unfold getCertExtensionByOid
  split_ifs
  · rfl
  · cases hindex : cert.getExtByObj oid 0 with
    | none =>
      rw [X509.getExtByObj_eq_none_iff, List.drop_zero] at hindex
      rw [X509.Repeats, hindex] at h
      exact absurd h (by decide)
    | some index =>
      obtain ⟨extension, _, _, hfilter⟩ := X509.filter_of_getExtByObj hindex
      have hagain : (cert.getExtByObj oid (index + 1)).isSome := by
        rw [Option.isSome_iff_ne_none, ne_eq, X509.getExtByObj_eq_none_iff]
        intro hnil
        rw [X509.Repeats, hfilter, hnil] at h
        exact absurd h (by simp)
      dsimp only
      rw [if_pos hagain]

theorem certRole_of_repeats (lib : LibCrypto) {cert : X509} (h : cert.Repeats oidRbacRole) :
    certRole lib cert = .malformed := by
  simp [certRole, getCertExtensionByOid_of_repeats lib h]

theorem certNodeId_of_repeats (lib : LibCrypto) {cert : X509} (h : cert.Repeats oidNodeId) :
    certNodeId lib cert = .malformed := by
  simp [certNodeId, getCertExtensionByOid_of_repeats lib h]

/-! ### The answer -/

/-- The part of `SCF_GetNodeRbacRole` that asks the role map. -/
theorem getMappingRole_run {nodeId : Option CString}
    (hid : ∀ id ∈ nodeId, isValidNodeId (some id) = true) (ctx : SCFPolicyCtx) :
    ((do
      let (ret, role) ← getMappingRole nodeId
      if ret ≠ .success then .done (noRole .rbacRoleUnknown)
      else .done (.success, role.map fun role => (role, SCFRbacRoleSource.mapping)) :
        Resumption SCFPolicyCtx _).run ctx) = (mappingRole ctx nodeId, ctx) := by
  rw [Resumption.run_monad_bind]
  cases nodeId with
  | none => rfl
  | some id =>
    rw [getMappingRole_of_valid (hid id rfl), Resumption.run_load]
    unfold mappingRole
    dsimp only
    cases ctx.nodeRoleMap[id.bytes]? with
    | none => rfl
    | some role => rfl

/-- Past the checks of its parameters, `SCF_GetNodeRbacRole` answers by what the certificate
says, and changes nothing. -/
theorem scfGetNodeRbacRole_run {g : Globals} (hg : g.scfInitialized = true) (lib : LibCrypto)
    {cert : Option X509} {nodeId : Option CString} (hsome : cert ≠ none ∨ nodeId ≠ none)
    (hid : ∀ id ∈ nodeId, isValidNodeId (some id) = true) (ctx : SCFPolicyCtx) :
    (scfGetNodeRbacRole g lib .valid cert nodeId .valid .valid).run ctx =
      (nodeRole lib cert nodeId ctx, ctx) := by
  have hnull : ¬ (Ptr.valid = .null ∨ (cert = none ∧ nodeId = none) ∨ Ptr.valid = .null ∨
      Ptr.valid = .null) := by
    simp only [reduceCtorEq, false_or, or_false, not_and_or]
    exact hsome
  have hvalid : ¬ (nodeId ≠ none ∧ (!isValidNodeId nodeId) = true) := by
    rintro ⟨hne, hinvalid⟩
    obtain ⟨id, rfl⟩ := Option.ne_none_iff_exists'.mp hne
    rw [hid id rfl] at hinvalid
    cases hinvalid
  unfold scfGetNodeRbacRole
  rw [if_neg hnull, if_neg hvalid, hg]
  simp only [Bool.not_true, Bool.false_eq_true, if_false]
  cases cert with
  | none => exact getMappingRole_run hid ctx
  | some cert =>
    simp only [scfGetCertRbacRole_eq hg, scfGetCertNodeId_eq hg, nodeRole]
    cases certRole lib cert with
    | malformed => rfl
    | valid role =>
      cases certNodeId lib cert with
      | malformed => rfl
      | valid id => rfl
      | absent => rfl
    | absent =>
      cases hnode : certNodeId lib cert with
      | malformed => rfl
      | valid id =>
        have hvalid : ∀ id' ∈ some id, isValidNodeId (some id') = true := by
          intro _ hmem
          rw [← Option.mem_some.mp hmem]
          exact certNodeId_valid hnode
        exact getMappingRole_run hvalid ctx
      | absent => exact getMappingRole_run hid ctx

/-- The role map leaves nothing behind when it does not know the node. -/
theorem mappingRole_of_failure {ctx : SCFPolicyCtx} {nodeId : Option CString}
    (h : (mappingRole ctx nodeId).1 ≠ .success) :
    mappingRole ctx nodeId = noRole .rbacRoleUnknown := by
  unfold mappingRole at h ⊢
  split
  · rfl
  · split
    · rfl
    · rename_i role hrole
      simp [hrole] at h

/-- A failing answer names no role. -/
theorem nodeRole_of_failure {lib : LibCrypto} {cert : Option X509} {nodeId : Option CString}
    {ctx : SCFPolicyCtx} (h : (nodeRole lib cert nodeId ctx).1 ≠ .success) :
    (nodeRole lib cert nodeId ctx).2 = some (.unknown, .none) := by
  unfold nodeRole at h ⊢
  split at h
  · rw [mappingRole_of_failure h]
    rfl
  · split at h
    · rfl
    · rfl
    · exact absurd rfl h
    · rw [mappingRole_of_failure h]
      rfl
    · rw [mappingRole_of_failure h]
      rfl

/-- A certificate that cannot be read in full is refused. -/
theorem nodeRole_of_malformed {lib : LibCrypto} {cert : X509}
    (h : certRole lib cert = .malformed ∨ certNodeId lib cert = .malformed)
    (nodeId : Option CString) (ctx : SCFPolicyCtx) :
    nodeRole lib (some cert) nodeId ctx = noRole .sslParseCert := by
  obtain hrole | hnode := h
  · simp only [nodeRole, hrole]
  · simp only [nodeRole, hnode]
    cases certRole lib cert with
    | _ => rfl

/-- The role of a readable certificate comes first. -/
theorem nodeRole_of_certRole {lib : LibCrypto} {cert : X509} {role : SCFRbacRole}
    (hrole : certRole lib cert = .valid role) (hnode : certNodeId lib cert ≠ .malformed)
    (nodeId : Option CString) (ctx : SCFPolicyCtx) :
    nodeRole lib (some cert) nodeId ctx = (.success, some (role, .cert)) := by
  cases hcert : certNodeId lib cert with
  | malformed => exact absurd hcert hnode
  | valid id => simp only [nodeRole, hrole, hcert]
  | absent => simp only [nodeRole, hrole, hcert]

/-- How `SCF_GetNodeRbacRole` finds a role, once its parameters and the library pass the
checks. -/
theorem scfGetNodeRbacRole_resolution {g : Globals} (hg : g.scfInitialized = true)
    (lib : LibCrypto) (ctx : SCFPolicyCtx) (cert : Option X509) (nodeId : Option CString)
    (hsome : cert ≠ none ∨ nodeId ≠ none)
    (hid : ∀ id ∈ nodeId, isValidNodeId (some id) = true) :
    let call := (scfGetNodeRbacRole g lib .valid cert nodeId .valid .valid).run ctx
    -- the role of the certificate comes first, if the identity is readable or absent
    (∀ c role, cert = some c → certRole lib c = .valid role → certNodeId lib c ≠ .malformed →
      call.1 = (.success, some (role, .cert))) ∧
    -- an unreadable role or identity is an error, whatever the role map says
    (∀ c, cert = some c → certRole lib c = .malformed →
      (scfGetCertRbacRole g lib (some c) .valid).1 = .sslParseCert ∧
        call.1 = noRole (scfGetCertRbacRole g lib (some c) .valid).1) ∧
    (∀ c, cert = some c → certNodeId lib c = .malformed →
      (scfGetCertNodeId g lib (some c) .valid maxNodeIdLen .valid).1 = .sslParseCert ∧
        call.1 = noRole (scfGetCertNodeId g lib (some c) .valid maxNodeIdLen .valid).1) ∧
    (∀ c, cert = some c → c.Repeats oidRbacRole ∨ c.Repeats oidNodeId →
      call.1 = noRole .sslParseCert) ∧
    -- without a role in the certificate the role map is asked, under one identity only
    (∀ c id, cert = some c → certRole lib c = .absent → certNodeId lib c = .valid id →
      call.1 = mappingRole ctx (some id)) ∧
    (∀ c, cert = some c → certRole lib c = .absent → certNodeId lib c = .absent →
      call.1 = mappingRole ctx nodeId) ∧
    (cert = none → call.1 = mappingRole ctx nodeId) ∧
    (call.1.1 ≠ .success → call.1.2 = some (.unknown, .none)) ∧ call.2 = ctx := by
  intro call
  have hcall : call = (nodeRole lib cert nodeId ctx, ctx) :=
    scfGetNodeRbacRole_run hg lib hsome hid ctx
  have hmalformed : ∀ c, cert = some c →
      certRole lib c = .malformed ∨ certNodeId lib c = .malformed →
        call.1 = noRole .sslParseCert := by
    rintro c rfl hbad
    rw [hcall, nodeRole_of_malformed hbad]
  refine ⟨?_, ?_, ?_, ?_, ?_, ?_, ?_, ?_, ?_⟩
  · rintro c role rfl hrole hnode
    rw [hcall, nodeRole_of_certRole hrole hnode]
  · intro c hc hrole
    have hcode : (scfGetCertRbacRole g lib (some c) .valid).1 = .sslParseCert := by
      rw [scfGetCertRbacRole_eq hg, hrole]
      rfl
    rw [hcode]
    exact ⟨rfl, hmalformed c hc (.inl hrole)⟩
  · intro c hc hnode
    have hcode : (scfGetCertNodeId g lib (some c) .valid maxNodeIdLen .valid).1 =
        .sslParseCert := by
      rw [scfGetCertNodeId_eq hg, hnode]
      rfl
    rw [hcode]
    exact ⟨rfl, hmalformed c hc (.inr hnode)⟩
  · intro c hc hrepeats
    exact hmalformed c hc
      (hrepeats.imp (certRole_of_repeats lib) (certNodeId_of_repeats lib))
  · rintro c id rfl hrole hnode
    simp only [hcall, nodeRole, hrole, hnode]
  · rintro c rfl hrole hnode
    simp only [hcall, nodeRole, hrole, hnode]
  · rintro rfl
    rw [hcall]
    rfl
  · intro hfail
    rw [hcall] at hfail ⊢
    exact nodeRole_of_failure hfail
  · rw [hcall]

/-- Node `b` borrows no role: the certificate of node `a` is looked up under `a`. -/
theorem scfGetNodeRbacRole_resolution_nodeA :
    Globals.ready.scfInitialized = true ∧ isValidNodeId (some nodeB) = true ∧
      ((scfGetNodeRbacRole .ready .shortForm .valid (some certOfNodeA) (some nodeB) .valid
        .valid).run slaveCtx).1 = (.success, some (.slave, .mapping)) := by
  have hnode : certNodeId .shortForm certOfNodeA = .valid nodeA := rfl
  have hcall := (scfGetNodeRbacRole_resolution (g := .ready) rfl .shortForm slaveCtx
    (some certOfNodeA) (some nodeB) (.inl (by decide)) (by decide)).2.2.2.2.1 certOfNodeA nodeA
    rfl rfl hnode
  refine ⟨rfl, by decide, hcall.trans ?_⟩
  decide

end Scf
