import ScfSecurity.Library.Der
import ScfSecurity.Rbac.RoleResolution

/-!
# The grammar of a node identity

Which certificates `SCF_GetCertNodeId` reads, byte by byte: one extension with the identifier,
whose value is the distinguished encoding of a UTF8String of 1 to 127 bytes. The decoder of
libcrypto is lenient, so the adaptor encodes what it got again and compares. The memory of the
caller is part of the model here.

## Main definitions

- `LibCrypto.Conforms`: what is assumed of libcrypto
- `scfGetCertNodeIdOut`: `SCF_GetCertNodeId` on the caller's buffer
- `X509.CarriesNodeId`: the grammar

## Main results

- `certNodeId_eq_valid_iff`: the certificates with a readable identity are those of the grammar
- `scfGetCertNodeId_grammar`: when the function succeeds and what it writes
-/

namespace Scf

open Buffer

/-- The tag of a primitive UTF8String. -/
def utf8StringTag : UInt8 := 0x0c

/-- The bytes are UTF-8. -/
def IsUtf8 (bytes : List UInt8) : Prop := bytes.toByteArray.IsValidUTF8

instance : DecidablePred IsUtf8 := fun bytes =>
  inferInstanceAs (Decidable bytes.toByteArray.IsValidUTF8)

/-- What is assumed of libcrypto, for values whose encoding is shorter than the largest `int`:
the decoder reads what the encoder writes and counts it, the encoder writes nothing else, and
the conversion to UTF-8 only checks. -/
structure LibCrypto.Conforms (lib : LibCrypto) : Prop where
  objTxt2obj : lib.objTxt2obj oidNodeId = true
  decodes : ∀ content rest, (Der.encode utf8StringTag content ++ rest).length < 2 ^ 31 →
    lib.d2iAsn1Utf8String (Der.encode utf8StringTag content ++ rest) =
      some (content, (Der.encode utf8StringTag content).length)
  encodes : ∀ content, (Der.encode utf8StringTag content).length < 2 ^ 31 →
    lib.i2dAsn1Utf8String content = some (Der.encode utf8StringTag content)
  canonical : ∀ content bytes, lib.i2dAsn1Utf8String content = some bytes →
    bytes = Der.encode utf8StringTag content
  utf8 : ∀ content,
    lib.asn1StringToUtf8 content = if IsUtf8 content then some content else none

/-- The variables of the caller: `*nodeIdLen`, and the memory that the buffer is in. -/
structure NodeIdOutput where
  nodeIdLen : ℕ
  nodeIdBuffer : ℕ → UInt8

/-- `SCF_GetCertNodeId` on the caller's variables. -/
def scfGetCertNodeIdOut (g : Globals) (lib : LibCrypto) (cert : Option X509)
    (nodeIdBuffer : Ptr) (bufferLen : ℕ) (nodeIdLen : Ptr) (out : NodeIdOutput) :
    Errno × NodeIdOutput :=
  match cert with
  | none => (.nullInput, out)
  | some cert =>
    if nodeIdBuffer = .null ∨ nodeIdLen = .null then (.nullInput, out)
    else if bufferLen = 0 then (.invalidParam, out)
    else if !g.scfInitialized then (.notInit, out)
    else if !g.adaptor then (.invalidParam, out)
    else
      let (ret, nodeId) := getCertExtensionByOid lib cert oidNodeId
      if ret = .sslCertExtAbsent then (.certNodeIdAbsent, out)
      else if ret ≠ .success then (ret, out)
      else if hnul : 0 ∈ nodeId then (.sslParseCert, out)
      else if !isValidNodeId (some ⟨nodeId, hnul⟩) then (.sslParseCert, out)
      else if bufferLen ≤ nodeId.length then (.invalidParam, out)
      else
        let (copied, buffer) := memcpySInto out.nodeIdBuffer bufferLen nodeId
        if !copied then (.memCpy, { out with nodeIdBuffer := buffer })
        else
          (.success, { nodeIdLen := nodeId.length
                       nodeIdBuffer := Function.update buffer nodeId.length 0 })

/-- What an answer leaves in the caller's variables. -/
def NodeIdOutput.record (out : NodeIdOutput) : Option CString → NodeIdOutput
  | none => out
  | some nodeId => ⟨nodeId.bytes.length, storeString out.nodeIdBuffer nodeId.bytes⟩

/-- The extensions that name the node. -/
def X509.nodeIdExtensions (cert : X509) : List X509Extension :=
  cert.extensions.filter fun extension => extension.oid = oidNodeId

/-- The grammar: the certificate names its node once, and says `content`. -/
structure X509.CarriesNodeId (cert : X509) (content : List UInt8) : Prop where
  once : ∃ extension, cert.nodeIdExtensions = [extension] ∧
    extension.data = Der.encode utf8StringTag content
  utf8 : IsUtf8 content
  nulFree : 0 ∉ content
  valid : ValidNodeId content

/-! ### The layers of the decoder -/

/-- The decoder accepts the distinguished encodings of UTF-8, and gives their contents. -/
theorem decodeDerUtf8String_eq_success_iff {lib : LibCrypto} (hlib : lib.Conforms)
    {value : StdString} (hlen : value.length < 128) (encoded : List UInt8) :
    decodeDerUtf8String lib encoded = (.success, value) ↔
      encoded = Der.encode utf8StringTag value ∧ IsUtf8 value := by
  have hshort : (Der.encode utf8StringTag value).length < 2 ^ 31 := by
    rw [Der.encode_of_lt _ hlen, List.length_cons, List.length_cons]
    omega
  constructor
  · intro h
    unfold decodeDerUtf8String at h
    split at h
    · cases h
    · rename_i content consumed _
      split_ifs at h with hconsumed hcanonical
      · cases h
      · cases h
      · -- the value was encoded again, so the bytes are its encoding
        have hbytes : lib.i2dAsn1Utf8String content = some encoded := by
          simpa [isCanonicalDerUtf8String] using hcanonical
        rw [hlib.utf8] at h
        split_ifs at h with hutf8
        · cases h
          exact ⟨hlib.canonical _ _ hbytes, hutf8⟩
        · cases h
  · rintro ⟨rfl, hutf8⟩
    have hdecode := hlib.decodes value [] (by rwa [List.append_nil])
    rw [List.append_nil] at hdecode
    have hcanonical :
        isCanonicalDerUtf8String lib value (Der.encode utf8StringTag value) = true := by
      rw [isCanonicalDerUtf8String, hlib.encodes value hshort, decide_eq_true rfl]
    unfold decodeDerUtf8String
    rw [hdecode]
    dsimp only
    rw [if_neg (not_not.mpr rfl), hcanonical, hlib.utf8, if_pos hutf8]
    rfl

/-- An extension is read when it occurs once and the decoder takes its value. -/
theorem getCertExtensionByOid_eq_success_iff {lib : LibCrypto} {oid : String}
    (hoid : lib.objTxt2obj oid = true) (cert : X509) (value : StdString) :
    getCertExtensionByOid lib cert oid = (.success, value) ↔
      ∃ extension, cert.extensions.filter (fun extension => extension.oid = oid) = [extension] ∧
        extension.data ≠ [] ∧ decodeDerUtf8String lib extension.data = (.success, value) := by
  unfold getCertExtensionByOid
  rw [hoid]
  simp only [Bool.not_true, Bool.false_eq_true, if_false]
  cases hindex : cert.getExtByObj oid 0 with
  | none =>
    rw [X509.getExtByObj_eq_none_iff, List.drop_zero] at hindex
    rw [hindex]
    simp
  | some index =>
    obtain ⟨extension, hget, _, hfilter⟩ := X509.filter_of_getExtByObj hindex
    dsimp only
    rw [hfilter, hget]
    dsimp only
    by_cases hagain : (cert.getExtByObj oid (index + 1)).isSome
    · -- the second occurrence is in the filtered list
      rw [if_pos hagain]
      rw [Option.isSome_iff_ne_none, ne_eq, X509.getExtByObj_eq_none_iff] at hagain
      constructor
      · intro h
        cases h
      · rintro ⟨_, hone, _⟩
        exact absurd (List.cons.inj hone).2 hagain
    · rw [if_neg hagain]
      rw [Option.not_isSome_iff_eq_none, X509.getExtByObj_eq_none_iff] at hagain
      rw [hagain]
      constructor
      · intro h
        split_ifs at h with hempty
        · cases h
        · exact ⟨extension, rfl, hempty, h⟩
      · rintro ⟨_, hone, hempty, h⟩
        cases hone
        rwa [if_neg hempty]

/-- The certificates with a readable identity are those of the grammar. -/
theorem certNodeId_eq_valid_iff {lib : LibCrypto} (hlib : lib.Conforms) (cert : X509)
    (nodeId : CString) :
    certNodeId lib cert = .valid nodeId ↔ cert.CarriesNodeId nodeId.bytes := by
  have hread : ∀ value : StdString, value.length < 128 →
      (getCertExtensionByOid lib cert oidNodeId = (.success, value) ↔
        (∃ extension, cert.nodeIdExtensions = [extension] ∧
          extension.data = Der.encode utf8StringTag value) ∧ IsUtf8 value) := by
    intro value hlen
    rw [getCertExtensionByOid_eq_success_iff hlib.objTxt2obj]
    constructor
    · rintro ⟨extension, hone, _, hdecode⟩
      obtain ⟨hdata, hutf8⟩ := (decodeDerUtf8String_eq_success_iff hlib hlen _).mp hdecode
      exact ⟨⟨extension, hone, hdata⟩, hutf8⟩
    · rintro ⟨⟨extension, hone, hdata⟩, hutf8⟩
      refine ⟨extension, hone, ?_, (decodeDerUtf8String_eq_success_iff hlib hlen _).mpr
        ⟨hdata, hutf8⟩⟩
      rw [hdata]
      exact List.cons_ne_nil _ _
  constructor
  · intro h
    have hvalid := (isValidNodeId_iff nodeId).mp (certNodeId_valid h)
    have hext : getCertExtensionByOid lib cert oidNodeId = (.success, nodeId.bytes) := by
      unfold certNodeId at h
      generalize getCertExtensionByOid lib cert oidNodeId = ext at h ⊢
      obtain ⟨ret, value⟩ := ext
      dsimp only at h
      split_ifs at h with _ hret _ _
      cases h
      rw [not_not.mp hret]
    obtain ⟨honce, hutf8⟩ := (hread _ (Nat.lt_succ_of_le hvalid.short)).mp hext
    exact ⟨honce, hutf8, nodeId.nulFree, hvalid⟩
  · intro h
    have hext := (hread _ (Nat.lt_succ_of_le h.valid.short)).mpr ⟨h.once, h.utf8⟩
    have hvalid : isValidNodeId (some nodeId) = true := (isValidNodeId_iff nodeId).mpr h.valid
    unfold certNodeId
    rw [hext]
    simp [nodeId.nulFree, hvalid]

/-! ### The caller's buffer -/

/-- An answer, and the same answer on the caller's variables. -/
inductive NodeIdAnswered (out : NodeIdOutput) : Errno × Option CString → Errno × NodeIdOutput → Prop
  | failed {ret : Errno} (h : ret ≠ .success) : NodeIdAnswered out (ret, none) (ret, out)
  | found (nodeId : CString) :
      NodeIdAnswered out (.success, some nodeId) (.success, out.record (some nodeId))

theorem NodeIdAnswered.eq {out : NodeIdOutput} {answer : Errno × Option CString}
    {result : Errno × NodeIdOutput} (h : NodeIdAnswered out answer result) :
    result = (answer.1, out.record answer.2) := by
  cases h with
  | failed h => rfl
  | found nodeId => rfl

theorem NodeIdAnswered.isSome {out : NodeIdOutput} {answer : Errno × Option CString}
    {result : Errno × NodeIdOutput} (h : NodeIdAnswered out answer result) :
    answer.2.isSome ↔ answer.1 = .success := by
  cases h with
  | failed h => simp [h]
  | found nodeId => simp

section Answer

variable (g : Globals) (lib : LibCrypto) (cert : Option X509) (nodeIdBuffer : Ptr) (bufferLen : ℕ)
variable (nodeIdLen : Ptr)

theorem scfGetCertNodeId_answered (out : NodeIdOutput) :
    NodeIdAnswered out (scfGetCertNodeId g lib cert nodeIdBuffer bufferLen nodeIdLen)
      (scfGetCertNodeIdOut g lib cert nodeIdBuffer bufferLen nodeIdLen out) := by
  unfold scfGetCertNodeIdOut scfGetCertNodeId
  cases cert with
  | none => exact .failed (by decide)
  | some cert =>
    dsimp only
    generalize getCertExtensionByOid lib cert oidNodeId = ext
    obtain ⟨ret, nodeId⟩ := ext
    dsimp only
    by_cases hnull : nodeIdBuffer = .null ∨ nodeIdLen = .null
    · rw [if_pos hnull, if_pos hnull]
      exact .failed (by decide)
    rw [if_neg hnull, if_neg hnull]
    by_cases hlen : bufferLen = 0
    · rw [if_pos hlen, if_pos hlen]
      exact .failed (by decide)
    rw [if_neg hlen, if_neg hlen]
    by_cases hinit : (!g.scfInitialized) = true
    · rw [if_pos hinit, if_pos hinit]
      exact .failed (by decide)
    rw [if_neg hinit, if_neg hinit]
    by_cases hadaptor : (!g.adaptor) = true
    · rw [if_pos hadaptor, if_pos hadaptor]
      exact .failed (by decide)
    rw [if_neg hadaptor, if_neg hadaptor]
    by_cases habsent : ret = .sslCertExtAbsent
    · rw [if_pos habsent, if_pos habsent]
      exact .failed (by decide)
    rw [if_neg habsent, if_neg habsent]
    by_cases hret : ret ≠ .success
    · rw [if_pos hret, if_pos hret]
      exact .failed hret
    rw [if_neg hret, if_neg hret]
    by_cases hnul : 0 ∈ nodeId
    · rw [dif_pos hnul, dif_pos hnul]
      exact .failed (by decide)
    rw [dif_neg hnul, dif_neg hnul]
    by_cases hvalid : (!isValidNodeId (some ⟨nodeId, hnul⟩)) = true
    · rw [if_pos hvalid, if_pos hvalid]
      exact .failed (by decide)
    rw [if_neg hvalid, if_neg hvalid]
    by_cases hshort : bufferLen ≤ nodeId.length
    · rw [if_pos hshort, if_pos hshort]
      exact .failed (by decide)
    rw [if_neg hshort, if_neg hshort, ← memcpySInto_fst out.nodeIdBuffer bufferLen nodeId]
    -- the string fits, so `memcpy_s` writes it or does not look at the buffer
    by_cases hmax : securecMemMaxLen < bufferLen
    · have hcopy : memcpySInto out.nodeIdBuffer bufferLen nodeId = (false, out.nodeIdBuffer) :=
        if_pos (.inr hmax)
      rw [hcopy]
      exact .failed (by decide)
    · rw [memcpySInto_of_le out.nodeIdBuffer hlen (by omega) (by omega)]
      exact .found ⟨nodeId, hnul⟩

/-- The function writes its answer and nothing else. -/
theorem scfGetCertNodeIdOut_eq (out : NodeIdOutput) :
    scfGetCertNodeIdOut g lib cert nodeIdBuffer bufferLen nodeIdLen out =
      ((scfGetCertNodeId g lib cert nodeIdBuffer bufferLen nodeIdLen).1,
        out.record (scfGetCertNodeId g lib cert nodeIdBuffer bufferLen nodeIdLen).2) :=
  (scfGetCertNodeId_answered g lib cert nodeIdBuffer bufferLen nodeIdLen out).eq

/-- The function gives a string exactly when it succeeds. -/
theorem scfGetCertNodeId_isSome :
    (scfGetCertNodeId g lib cert nodeIdBuffer bufferLen nodeIdLen).2.isSome ↔
      (scfGetCertNodeId g lib cert nodeIdBuffer bufferLen nodeIdLen).1 = .success :=
  (scfGetCertNodeId_answered g lib cert nodeIdBuffer bufferLen nodeIdLen ⟨0, fun _ => 0⟩).isSome

end Answer

/-- The answer for a buffer of any length: the identity of the certificate, if there is one
that fits and `memcpy_s` takes the buffer. -/
theorem scfGetCertNodeId_eq_success_iff {g : Globals} (hg : g.scfInitialized = true)
    (lib : LibCrypto) (cert : X509) (bufferLen : ℕ) (nodeId : CString) :
    scfGetCertNodeId g lib (some cert) .valid bufferLen .valid = (.success, some nodeId) ↔
      certNodeId lib cert = .valid nodeId ∧ nodeId.bytes.length < bufferLen ∧
        bufferLen ≤ securecMemMaxLen := by
  by_cases hzero : bufferLen = 0
  · subst hzero
    simp [scfGetCertNodeId]
  · rw [scfGetCertNodeId_of_bufferLen hg lib cert hzero]
    cases certNodeId lib cert with
    | absent => simp [CertOutcome.nodeIdAnswerIn]
    | malformed => simp [CertOutcome.nodeIdAnswerIn]
    | valid id =>
      rw [CertOutcome.nodeIdAnswerIn]
      constructor
      · intro h
        split_ifs at h with hfits hmax
        · cases h
        · cases h
          exact ⟨rfl, Nat.not_le.mp hfits, hmax⟩
        · cases h
      · rintro ⟨hid, hfits, hmax⟩
        cases hid
        rw [if_neg (Nat.not_le.mpr hfits), if_pos hmax]

/-- What a failing call leaves of the caller's variables. -/
theorem scfGetCertNodeIdOut_of_failure {g : Globals} {lib : LibCrypto} {cert : Option X509}
    {nodeIdBuffer : Ptr} {bufferLen : ℕ} {nodeIdLen : Ptr} {out : NodeIdOutput}
    (h : (scfGetCertNodeIdOut g lib cert nodeIdBuffer bufferLen nodeIdLen out).1 ≠ .success) :
    (scfGetCertNodeIdOut g lib cert nodeIdBuffer bufferLen nodeIdLen out).2 = out := by
  rw [scfGetCertNodeIdOut_eq] at h ⊢
  rw [ne_eq, ← scfGetCertNodeId_isSome, Option.not_isSome_iff_eq_none] at h
  rw [h]
  rfl

/-- The buffer holds the content, `*nodeIdLen` its length, and nothing else was written. -/
structure NodeIdOutput.Holds (out out' : NodeIdOutput) (content : List UInt8) : Prop where
  nodeIdBuffer : HoldsString out'.nodeIdBuffer content
  nodeIdLen : out'.nodeIdLen = content.length
  untouched : ∀ i, content.length < i → out'.nodeIdBuffer i = out.nodeIdBuffer i

theorem NodeIdOutput.holds_record (out : NodeIdOutput) (nodeId : CString) :
    out.Holds (out.record (some nodeId)) nodeId.bytes where
  nodeIdBuffer := holdsString_storeString _ _
  nodeIdLen := rfl
  untouched _ h := storeString_of_lt _ h

/-- What a successful call says about the certificate, and what it writes. -/
theorem scfGetCertNodeIdOut_of_success {g : Globals} (hg : g.scfInitialized = true)
    {lib : LibCrypto} (hlib : lib.Conforms) {cert : X509} {bufferLen : ℕ} {out : NodeIdOutput}
    (h : (scfGetCertNodeIdOut g lib (some cert) .valid bufferLen .valid out).1 = .success) :
    ∃ content, cert.CarriesNodeId content ∧ content.length < bufferLen ∧
      bufferLen ≤ securecMemMaxLen ∧
      out.Holds (scfGetCertNodeIdOut g lib (some cert) .valid bufferLen .valid out).2 content := by
  rw [scfGetCertNodeIdOut_eq] at h ⊢
  obtain ⟨nodeId, hsome⟩ := Option.isSome_iff_exists.mp
    ((scfGetCertNodeId_isSome g lib (some cert) .valid bufferLen .valid).mpr h)
  obtain ⟨hcert, hfits, hmax⟩ :=
    (scfGetCertNodeId_eq_success_iff hg lib cert bufferLen nodeId).mp (Prod.ext h hsome)
  refine ⟨nodeId.bytes, (certNodeId_eq_valid_iff hlib cert nodeId).mp hcert, hfits, hmax, ?_⟩
  rw [hsome]
  exact out.holds_record nodeId

theorem X509.CarriesNodeId.data_eq {cert : X509} {content : List UInt8}
    (h : cert.CarriesNodeId content) {extension : X509Extension}
    (hone : cert.nodeIdExtensions = [extension]) :
    extension.data = Der.encode utf8StringTag content := by
  obtain ⟨extension', hone', hdata⟩ := h.once
  rw [hone] at hone'
  cases hone'
  exact hdata

/-- A certificate says one thing. -/
theorem X509.CarriesNodeId.unique {cert : X509} {content content' : List UInt8}
    (h : cert.CarriesNodeId content) (h' : cert.CarriesNodeId content') : content = content' := by
  obtain ⟨extension, hone, hdata⟩ := h.once
  have hlen : content.length < 128 := Nat.lt_succ_of_le h.valid.short
  have hlen' : content'.length < 128 := Nat.lt_succ_of_le h'.valid.short
  rw [h'.data_eq hone, Der.encode_of_lt _ hlen, Der.encode_of_lt _ hlen'] at hdata
  exact (List.cons.inj (List.cons.inj hdata).2).2.symm

/-- When `SCF_GetCertNodeId` succeeds and what it writes, for a library that has been
initialised and buffers of any length. -/
theorem scfGetCertNodeId_grammar {lib : LibCrypto} (hlib : lib.Conforms) {g : Globals}
    (hg : g.scfInitialized = true) (cert : X509) (bufferLen : ℕ) (out : NodeIdOutput) :
    let call := scfGetCertNodeIdOut g lib (some cert) .valid bufferLen .valid out
    (call.1 = .success ↔ ∃ content, cert.CarriesNodeId content ∧ content.length < bufferLen ∧
      bufferLen ≤ securecMemMaxLen) ∧
    -- the content and its terminator, and nothing behind it
    (∀ content, call.1 = .success → cert.CarriesNodeId content → out.Holds call.2 content) ∧
    -- an error writes nothing, whatever the arguments are
    (∀ g' cert' nodeIdBuffer nodeIdLen,
      (scfGetCertNodeIdOut g' lib cert' nodeIdBuffer bufferLen nodeIdLen out).1 ≠ .success →
        (scfGetCertNodeIdOut g' lib cert' nodeIdBuffer bufferLen nodeIdLen out).2 = out) ∧
    -- one identity has one encoding
    (∀ (cert' : X509) (bufferLen' : ℕ) (out' : NodeIdOutput) (nodeId : CString) extension
        extension',
      let call' := scfGetCertNodeIdOut g lib (some cert') .valid bufferLen' .valid out'
      call.1 = .success → call'.1 = .success →
      HoldsString call.2.nodeIdBuffer nodeId.bytes →
      HoldsString call'.2.nodeIdBuffer nodeId.bytes →
      cert.nodeIdExtensions = [extension] → cert'.nodeIdExtensions = [extension'] →
        extension.data = extension'.data) := by
  intro call
  refine ⟨⟨?_, ?_⟩, ?_, ?_, ?_⟩
  · intro h
    obtain ⟨content, hcarries, hfits, hmax, _⟩ := scfGetCertNodeIdOut_of_success hg hlib h
    exact ⟨content, hcarries, hfits, hmax⟩
  · rintro ⟨content, hcarries, hfits, hmax⟩
    have hcert := (certNodeId_eq_valid_iff hlib cert ⟨content, hcarries.nulFree⟩).mpr hcarries
    have hanswer := (scfGetCertNodeId_eq_success_iff hg lib cert bufferLen
      ⟨content, hcarries.nulFree⟩).mpr ⟨hcert, hfits, hmax⟩
    show (scfGetCertNodeIdOut g lib (some cert) .valid bufferLen .valid out).1 = .success
    rw [scfGetCertNodeIdOut_eq, hanswer]
  · intro content h hcarries
    obtain ⟨content', hcarries', _, _, hholds⟩ := scfGetCertNodeIdOut_of_success hg hlib h
    obtain rfl := hcarries'.unique hcarries
    exact hholds
  · intro g' cert' nodeIdBuffer nodeIdLen h
    exact scfGetCertNodeIdOut_of_failure h
  · intro cert' bufferLen' out' nodeId extension extension' call' h h' hstring hstring' hone hone'
    obtain ⟨content, hcarries, _, _, hholds⟩ := scfGetCertNodeIdOut_of_success hg hlib h
    obtain ⟨content', hcarries', _, _, hholds'⟩ := scfGetCertNodeIdOut_of_success hg hlib h'
    -- a buffer holds one string, so both contents are the identity
    obtain rfl := hholds.nodeIdBuffer.unique hstring hcarries.nulFree nodeId.nulFree
    obtain rfl := hholds'.nodeIdBuffer.unique hstring' hcarries'.nulFree nodeId.nulFree
    rw [hcarries.data_eq hone, hcarries'.data_eq hone']

/-- libcrypto on UTF8Strings of every definite length. -/
def LibCrypto.definiteForm : LibCrypto where
  objTxt2obj _ := true
  d2iAsn1Utf8String bytes :=
    (Der.decode utf8StringTag bytes).map fun (content, rest) =>
      (content, bytes.length - rest.length)
  i2dAsn1Utf8String content :=
    if (Der.encode utf8StringTag content).length < 2 ^ 31 then
      some (Der.encode utf8StringTag content)
    else none
  asn1StringToUtf8 content := if IsUtf8 content then some content else none

theorem LibCrypto.conforms_definiteForm : LibCrypto.definiteForm.Conforms where
  objTxt2obj := rfl
  decodes content rest hlen := by
    have hcontent : content.length < 256 ^ 126 := by
      rw [List.length_append, Der.encode, List.length_cons, List.length_append] at hlen
      omega
    simp only [LibCrypto.definiteForm, Der.decode_encode _ hcontent, Option.map_some,
      List.length_append, Nat.add_sub_cancel]
  encodes content hlen := if_pos hlen
  canonical content bytes h := by
    simp only [LibCrypto.definiteForm] at h
    split_ifs at h
    exact (Option.some.inj h).symm
  utf8 _ := rfl

/-- The certificate of node `a` is in the grammar. -/
theorem carriesNodeId_certOfNodeA : certOfNodeA.CarriesNodeId nodeA.bytes where
  once := ⟨⟨oidNodeId, [0x0c, 1, 97]⟩, by decide, by decide⟩
  utf8 := .intro ['a'] rfl
  nulFree := nodeA.nulFree
  valid := ⟨by decide, by decide, by decide⟩

theorem scfGetCertNodeId_grammar_nodeA :
    LibCrypto.definiteForm.Conforms ∧ Globals.ready.scfInitialized = true ∧
      ∀ out, (scfGetCertNodeIdOut .ready .definiteForm (some certOfNodeA) .valid 128 .valid
        out).1 = .success := by
  refine ⟨LibCrypto.conforms_definiteForm, rfl, fun out => ?_⟩
  exact (scfGetCertNodeId_grammar LibCrypto.conforms_definiteForm (g := .ready) rfl certOfNodeA
    128 out).1.mpr ⟨nodeA.bytes, carriesNodeId_certOfNodeA, by decide, by decide⟩

/-- A buffer of 2 GiB is long enough, but `memcpy_s` does not take it. -/
theorem scfGetCertNodeId_refuses_long_buffer :
    LibCrypto.definiteForm.Conforms ∧ Globals.ready.scfInitialized = true ∧
      (∃ content, certOfNodeA.CarriesNodeId content ∧ content.length < 2 ^ 31) ∧
      ∀ out, (scfGetCertNodeIdOut .ready .definiteForm (some certOfNodeA) .valid (2 ^ 31) .valid
        out).1 ≠ .success := by
  refine ⟨LibCrypto.conforms_definiteForm, rfl,
    ⟨nodeA.bytes, carriesNodeId_certOfNodeA, by decide⟩, fun out hsuccess => ?_⟩
  obtain ⟨_, _, _, hmax, _⟩ := scfGetCertNodeIdOut_of_success (g := .ready) rfl
    LibCrypto.conforms_definiteForm hsuccess
  exact absurd hmax (by decide)

end Scf
