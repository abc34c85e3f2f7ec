import ScfSecurity.SecureC
import ScfSecurity.Tls.CertExtension
import ScfSecurity.Policy.Context

/-!
# Node identities and roles

Which arguments the RBAC functions of `rbac.cpp` accept, and what a certificate
says about the identity and the role of its node.

## Main results

- `isValidNodeId_iff`: node identifiers have 1 to 127 bytes and are not `*`
- `scfGetCertNodeId_eq`, `scfGetCertRbacRole_eq`: what the functions answer, in
  terms of what the certificate says
-/

namespace Scf

/-- `MAX_NODE_ID_LEN`: 127 bytes and the terminating NUL. -/
def maxNodeIdLen : ℕ := 128

/-- `SCF_OID_NODE_ID`. -/
def oidNodeId : String := "1.3.6.1.4.1.2011.999.1"

/-- `SCF_OID_RBAC_ROLE`. -/
def oidRbacRole : String := "1.3.6.1.4.1.2011.999.2"

/-- `SCF_RESOURCE_TYPE`, a bit set in rules and a single value in requests. -/
abbrev SCFResourceType := UInt32

def SCFResourceType.fd : SCFResourceType := 1
def SCFResourceType.numa : SCFResourceType := 2
def SCFResourceType.addr : SCFResourceType := 4
def SCFResourceType.all : SCFResourceType := 7

/-- `SCF_RESOURCE_ACTION`, a bit set in rules and a single value in requests. -/
abbrev SCFResourceAction := UInt32

def SCFResourceAction.apply : SCFResourceAction := 1
def SCFResourceAction.release : SCFResourceAction := 2

/-- `SCF_RBAC_ROLE_SOURCE`. -/
inductive SCFRbacRoleSource where
  | none
  | cert
  | mapping
deriving DecidableEq, Repr

/-- `IsValidNodeId`. -/
def isValidNodeId : Option CString → Bool
  | none => false
  | some nodeId =>
    if nodeId = CString.star then false
    else 0 < nodeId.strnlen maxNodeIdLen && nodeId.strnlen maxNodeIdLen < maxNodeIdLen

/-- `IsValidRole`. -/
def isValidRole (role : SCFRbacRole) : Bool := role = .master || role = .slave

/-- `IsValidBitmap`. -/
def isValidBitmap (bitmap validBitmap : UInt32) : Bool :=
  bitmap ≠ 0 && bitmap &&& ~~~validBitmap = 0

/-- `IsValidPolicyEffect`. -/
def isValidPolicyEffect (effect : SCFPolicyEffect) : Bool :=
  effect = .allow || effect = .deny

/-- `IsSingleResourceType`. -/
def isSingleResourceType (resourceType : UInt32) : Bool :=
  resourceType = SCFResourceType.fd || resourceType = SCFResourceType.numa ||
    resourceType = SCFResourceType.addr

/-- `IsSingleResourceAction`. -/
def isSingleResourceAction (action : UInt32) : Bool :=
  action = SCFResourceAction.apply || action = SCFResourceAction.release

/-- What a node identifier is: 1 to 127 bytes, not the wildcard `*`. -/
structure ValidNodeId (nodeId : StdString) : Prop where
  nonempty : 0 < nodeId.length
  short : nodeId.length ≤ 127
  ne_star : nodeId ≠ CString.star.bytes

/-- The validation accepts exactly the node identifiers. -/
theorem isValidNodeId_iff (nodeId : CString) :
    isValidNodeId (some nodeId) = true ↔ ValidNodeId nodeId.bytes := by
  have hstar : nodeId = CString.star ↔ nodeId.bytes = CString.star.bytes :=
    ⟨congrArg _, CString.ext⟩
  have hlen : nodeId.strnlen maxNodeIdLen = min nodeId.bytes.length 128 := rfl
  have hmax : maxNodeIdLen = 128 := rfl
  show (if nodeId = CString.star then false else _) = true ↔ _
  constructor
  · intro h
    split at h
    case isTrue => cases h
    case isFalse hne =>
      rw [Bool.and_eq_true, decide_eq_true_eq, decide_eq_true_eq] at h
      exact ⟨by omega, by omega, fun hb => hne (hstar.mpr hb)⟩
  · rintro ⟨hpos, hshort, hne⟩
    rw [if_neg (mt hstar.mp hne), Bool.and_eq_true, decide_eq_true_eq, decide_eq_true_eq]
    omega

@[simp] theorem isValidRole_iff (role : SCFRbacRole) :
    isValidRole role = true ↔ role = .master ∨ role = .slave := by
  simp [isValidRole]

@[simp] theorem isValidPolicyEffect_iff (effect : SCFPolicyEffect) :
    isValidPolicyEffect effect = true ↔ effect = .allow ∨ effect = .deny := by
  simp [isValidPolicyEffect]

@[simp] theorem isSingleResourceType_iff (resourceType : UInt32) :
    isSingleResourceType resourceType = true ↔
      resourceType = SCFResourceType.fd ∨ resourceType = SCFResourceType.numa ∨
        resourceType = SCFResourceType.addr := by
  simp [isSingleResourceType, or_assoc]

@[simp] theorem isSingleResourceAction_iff (action : UInt32) :
    isSingleResourceAction action = true ↔
      action = SCFResourceAction.apply ∨ action = SCFResourceAction.release := by
  simp [isSingleResourceAction]

/-- `SCF_GetCertNodeId`: the code and, on success, the string in the buffer. -/
def scfGetCertNodeId (g : Globals) (lib : LibCrypto) (cert : Option X509)
    (nodeIdBuffer : Ptr) (bufferLen : ℕ) (nodeIdLen : Ptr) : Errno × Option CString :=
  match cert with
  | none => (.nullInput, none)
  | some cert =>
    if nodeIdBuffer = .null ∨ nodeIdLen = .null then (.nullInput, none)
    else if bufferLen = 0 then (.invalidParam, none)
    else if !g.scfInitialized then (.notInit, none)
    else if !g.adaptor then (.invalidParam, none)
    else
      let (ret, nodeId) := getCertExtensionByOid lib cert oidNodeId
      if ret = .sslCertExtAbsent then (.certNodeIdAbsent, none)
      else if ret ≠ .success then (ret, none)
      else if hnul : 0 ∈ nodeId then (.sslParseCert, none)
      else if !isValidNodeId (some ⟨nodeId, hnul⟩) then (.sslParseCert, none)
      else if bufferLen ≤ nodeId.length then (.invalidParam, none)
      else if !memcpyS bufferLen nodeId.length then (.memCpy, none)
      else (.success, some ⟨nodeId, hnul⟩)

/-- `std::tolower` on one byte, in the C locale. -/
def toLowerByte (c : UInt8) : UInt8 := if 65 ≤ c ∧ c ≤ 90 then c + 32 else c

/-- `ToLower`. -/
def toLower (value : StdString) : StdString := value.map toLowerByte

/-- `SCF_GetCertRbacRole`: the code and, on success, the role. -/
def scfGetCertRbacRole (g : Globals) (lib : LibCrypto) (cert : Option X509)
    (role : Ptr) : Errno × Option SCFRbacRole :=
  match cert with
  | none => (.nullInput, none)
  | some cert =>
    if role = .null then (.nullInput, none)
    else if !g.scfInitialized then (.notInit, none)
    else if !g.adaptor then (.invalidParam, none)
    else
      let (ret, value) := getCertExtensionByOid lib cert oidRbacRole
      if ret = .sslCertExtAbsent then (.certRoleExtAbsent, none)
      else if ret ≠ .success then (ret, none)
      else if toLower value = ascii "master" then (.success, some .master)
      else if toLower value = ascii "slave" then (.success, some .slave)
      else (.sslParseCert, none)

/-- What a certificate says about one attribute of its node. -/
inductive CertOutcome (α : Type*) where
  | absent
  | malformed
  | valid (value : α)

/-- What a certificate says about the identity of its node. -/
def certNodeId (lib : LibCrypto) (cert : X509) : CertOutcome CString :=
  let (ret, nodeId) := getCertExtensionByOid lib cert oidNodeId
  if ret = .sslCertExtAbsent then .absent
  else if ret ≠ .success then .malformed
  else if hnul : 0 ∈ nodeId then .malformed
  else if isValidNodeId (some ⟨nodeId, hnul⟩) then .valid ⟨nodeId, hnul⟩
  else .malformed

/-- What a certificate says about the role of its node. -/
def certRole (lib : LibCrypto) (cert : X509) : CertOutcome SCFRbacRole :=
  let (ret, value) := getCertExtensionByOid lib cert oidRbacRole
  if ret = .sslCertExtAbsent then .absent
  else if ret ≠ .success then .malformed
  else if toLower value = ascii "master" then .valid .master
  else if toLower value = ascii "slave" then .valid .slave
  else .malformed

/-- The identity a certificate gives is a node identifier. -/
theorem certNodeId_valid {lib : LibCrypto} {cert : X509} {nodeId : CString}
    (h : certNodeId lib cert = .valid nodeId) : isValidNodeId (some nodeId) = true := by
  unfold certNodeId at h
  generalize getCertExtensionByOid lib cert oidNodeId = ext at h
  obtain ⟨ret, value⟩ := ext
  dsimp only at h
  split_ifs at h with _ _ _ hvalid
  cases h
  exact hvalid

/-- The role a certificate gives is master or slave. -/
theorem certRole_valid {lib : LibCrypto} {cert : X509} {role : SCFRbacRole}
    (h : certRole lib cert = .valid role) : role = .master ∨ role = .slave := by
  unfold certRole at h
  generalize getCertExtensionByOid lib cert oidRbacRole = ext at h
  obtain ⟨ret, value⟩ := ext
  dsimp only at h
  split_ifs at h
  · cases h
    exact .inl rfl
  · cases h
    exact .inr rfl

/-- The answer of `SCF_GetCertNodeId` to a caller with a buffer of full size. -/
def CertOutcome.nodeIdAnswer : CertOutcome CString → Errno × Option CString
  | absent => (.certNodeIdAbsent, none)
  | malformed => (.sslParseCert, none)
  | valid nodeId => (.success, some nodeId)

/-- The answer of `SCF_GetCertRbacRole`. -/
def CertOutcome.roleAnswer : CertOutcome SCFRbacRole → Errno × Option SCFRbacRole
  | absent => (.certRoleExtAbsent, none)
  | malformed => (.sslParseCert, none)
  | valid role => (.success, some role)

/-- The answer of `SCF_GetCertNodeId` to a caller with a buffer of any size. -/
def CertOutcome.nodeIdAnswerIn (bufferLen : ℕ) : CertOutcome CString → Errno × Option CString
  | absent => (.certNodeIdAbsent, none)
  | malformed => (.sslParseCert, none)
  | valid nodeId =>
    if bufferLen ≤ nodeId.bytes.length then (.invalidParam, none)
    else if bufferLen ≤ securecMemMaxLen then (.success, some nodeId)
    else (.memCpy, none)

/-- `SCF_GetCertNodeId` answers as the certificate says and as the buffer admits. -/
theorem scfGetCertNodeId_of_bufferLen {g : Globals} (hg : g.scfInitialized = true)
    (lib : LibCrypto) (cert : X509) {bufferLen : ℕ} (hlen : bufferLen ≠ 0) :
    scfGetCertNodeId g lib (some cert) .valid bufferLen .valid =
      (certNodeId lib cert).nodeIdAnswerIn bufferLen := by
  have hcode := getCertExtensionByOid_code lib cert oidNodeId
  unfold scfGetCertNodeId certNodeId
  simp only [hg, g.adaptor_of_init hg, hlen]
  generalize getCertExtensionByOid lib cert oidNodeId = ext at hcode
  obtain ⟨ret, value⟩ := ext
  dsimp only at hcode
  obtain rfl | rfl | rfl := hcode
  · by_cases hnul : 0 ∈ value
    · simp [hnul, CertOutcome.nodeIdAnswerIn]
    · by_cases hvalid : isValidNodeId (some ⟨value, hnul⟩)
      · by_cases hfits : bufferLen ≤ value.length
        · simp [hnul, hvalid, hfits, CertOutcome.nodeIdAnswerIn]
        · have hcpy : memcpyS bufferLen value.length = decide (bufferLen ≤ securecMemMaxLen) := by
            have hle : value.length ≤ bufferLen := by omega
            simp [memcpyS, hle, Nat.pos_of_ne_zero hlen]
          by_cases hmax : bufferLen ≤ securecMemMaxLen
          · simp [hnul, hvalid, hfits, hcpy, hmax, CertOutcome.nodeIdAnswerIn]
          · simp [hnul, hvalid, hfits, hcpy, hmax, CertOutcome.nodeIdAnswerIn]
      · simp [hnul, hvalid, CertOutcome.nodeIdAnswerIn]
  · simp [CertOutcome.nodeIdAnswerIn]
  · simp [CertOutcome.nodeIdAnswerIn]

/-- With a full-size buffer `SCF_GetCertNodeId` answers as the certificate says. -/
theorem scfGetCertNodeId_eq {g : Globals} (hg : g.scfInitialized = true)
    (lib : LibCrypto) (cert : X509) :
    scfGetCertNodeId g lib (some cert) .valid maxNodeIdLen .valid =
      (certNodeId lib cert).nodeIdAnswer := by
  rw [scfGetCertNodeId_of_bufferLen hg lib cert (by decide)]
  cases hid : certNodeId lib cert with
  | absent => rfl
  | malformed => rfl
  | valid nodeId =>
    have hshort := ((isValidNodeId_iff nodeId).mp (certNodeId_valid hid)).short
    have hfits : ¬ maxNodeIdLen ≤ nodeId.bytes.length := Nat.not_le.mpr (Nat.lt_succ_of_le hshort)
    rw [CertOutcome.nodeIdAnswerIn, if_neg hfits, if_pos (by decide)]
    rfl

/-- `SCF_GetCertRbacRole` answers as the certificate says. -/
theorem scfGetCertRbacRole_eq {g : Globals} (hg : g.scfInitialized = true)
    (lib : LibCrypto) (cert : X509) :
    scfGetCertRbacRole g lib (some cert) .valid = (certRole lib cert).roleAnswer := by
  have hcode := getCertExtensionByOid_code lib cert oidRbacRole
  unfold scfGetCertRbacRole certRole
  simp only [hg, g.adaptor_of_init hg]
  generalize getCertExtensionByOid lib cert oidRbacRole = ext at hcode
  obtain ⟨ret, value⟩ := ext
  dsimp only at hcode
  obtain rfl | rfl | rfl := hcode
  · by_cases hm : toLower value = ascii "master"
    · simp [hm, CertOutcome.roleAnswer]
    · simp only [hm]
      by_cases hs : toLower value = ascii "slave" <;> simp [hs, CertOutcome.roleAnswer]
  · simp [CertOutcome.roleAnswer]
  · simp [CertOutcome.roleAnswer]

end Scf
