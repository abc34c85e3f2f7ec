import ScfSecurity.Crypto.Evp
import ScfSecurity.Library.Aes
import ScfSecurity.Library.Buffer

/-!
# Authenticated encryption of the software engine

`EncryptAEAD` and `DecryptAEAD` of `DefaultSoftwareCryptoEngine`, one sequence of calls for
every cipher that `GetCapability` lists. The decryption hands over the tag after the data,
which GCM and ChaCha20-Poly1305 accept and CCM does not.

## Main definitions

- `getCapability`, `encryptAEAD`, `decryptAEAD`: the functions of the engine
- `evpText`: their common part, up to the answer of `EVP_EncryptUpdate` or `EVP_DecryptUpdate`
- `RoundTrips`: what was encrypted is decrypted

## Main results

- `encryptAEAD_eq`, `decryptAEAD_eq`: the functions in two parts
- `encryptAEAD_spec`, `decryptAEAD_spec`: the functions implement the scheme, CCM apart
- `roundTrips_iff`: the listed algorithms that work
-/

namespace Scf

open Buffer

/-- `SymmetricAlgorithm`. -/
inductive SymmetricAlgorithm where
  | aes128Gcm
  | aes256Gcm
  | aes128Ccm
  | chacha20Poly1305
  | sm4Gcm
  | custom
deriving DecidableEq, Repr

/-- `AsymmetricAlgorithm`. -/
inductive AsymmetricAlgorithm where
  | rsa
  | ecdsaP256
  | ecdsaP384
  | ecdsaP521
  | eddsa25519
  | sm2
  | custom
deriving DecidableEq, Repr

/-- `HashAlgorithm`. -/
inductive HashAlgorithm where
  | sha256
  | sha384
  | sha512
  | sm3
  | custom
deriving DecidableEq, Repr

/-- `KeyExchangeAlgorithm`. -/
inductive KeyExchangeAlgorithm where
  | ecdhe
  | dhe
  | psk
  | sm2KeyExchange
  | custom
deriving DecidableEq, Repr

/-- `CryptoEngineCapability`. -/
structure CryptoEngineCapability where
  engineName : String
  engineVersion : String
  hardwareVendor : String
  symmetricAlgos : List SymmetricAlgorithm
  asymmetricAlgos : List AsymmetricAlgorithm
  hashAlgos : List HashAlgorithm
  keyExchangeAlgos : List KeyExchangeAlgorithm
  hardwareAccelerated : Bool
  supportsAsyncOperation : Bool
  supportsOffload : Bool
  maxConcurrentOps : UInt32

/-- `DefaultSoftwareCryptoEngine::GetCapability`; `opensslVersion` is the answer of
`OpenSSL_version`. -/
def getCapability (opensslVersion : String) : CryptoEngineCapability where
  engineName := "OpenSSL Software Engine"
  engineVersion := opensslVersion
  hardwareVendor := "Software"
  hardwareAccelerated := false
  supportsAsyncOperation := false
  supportsOffload := false
  maxConcurrentOps := 0
  symmetricAlgos := [.aes128Gcm, .aes256Gcm, .aes128Ccm, .chacha20Poly1305]
  asymmetricAlgos := [.ecdsaP256, .ecdsaP384, .ecdsaP521]
  hashAlgos := [.sha256, .sha384, .sha512]
  keyExchangeAlgos := [.ecdhe]

/-- `MapSymmetricAlgo`. -/
def mapSymmetricAlgo : SymmetricAlgorithm → Option EvpCipher
  | .aes128Gcm => some .aes128Gcm
  | .aes256Gcm => some .aes256Gcm
  | .aes128Ccm => some .aes128Ccm
  | .chacha20Poly1305 => some .chacha20Poly1305
  | .sm4Gcm => none
  | .custom => none

/-- `static_cast<int>` of a `size_t`. -/
def castInt (n : ℕ) : ℤ := (BitVec.ofNat 32 n).toInt

/-- The beginning of `EncryptAEAD` and `DecryptAEAD`: cipher, length of the initialisation
vector, key and initialisation vector. -/
def evpSetup (lib : LibEvp) (dir : EvpDirection) (ctx : lib.Ctx) (cipher : EvpCipher)
    (key iv : List UInt8) : Option lib.Ctx :=
  let (ok, ctx) := lib.initEx dir ctx (some cipher) none none
  if !ok then none
  else
    let (ok, _, ctx) := lib.cipherCtxCtrl ctx .aeadSetIvlen (castInt iv.length) []
    if !ok then none
    else
      let (ok, ctx) := lib.initEx dir ctx none (some key) (some iv)
      if !ok then none else some ctx

/-- The associated data in `EncryptAEAD` and `DecryptAEAD`; a null pointer and no bytes are the
same. -/
def evpAad (lib : LibEvp) (dir : EvpDirection) (ctx : lib.Ctx) :
    Option (List UInt8) → Option lib.Ctx
  | none => some ctx
  | some aad =>
    if 0 < aad.length then
      let answer := lib.update dir ctx .null (some aad) (castInt aad.length)
      if !answer.ok then none else some answer.ctx
    else some ctx

/-- The variables that `EncryptAEAD` writes. -/
structure EncryptOutput where
  ciphertext : ℕ → UInt8
  ciphertextLen : ℕ
  tag : ℕ → UInt8

/-- `DefaultSoftwareCryptoEngine::EncryptAEAD`. The length of the key is not read. -/
def encryptAEAD (lib : LibEvp) (algo : SymmetricAlgorithm) (key iv plaintext : List UInt8)
    (aad : Option (List UInt8)) (tagLen : ℕ) (out : EncryptOutput) : Bool × EncryptOutput :=
  match mapSymmetricAlgo algo with
  | none => (false, out)
  | some cipher =>
    match lib.cipherCtxNew with
    | none => (false, out)
    | some ctx =>
      match (evpSetup lib .encrypt ctx cipher key iv).bind
          fun ctx => evpAad lib .encrypt ctx aad with
      | none => (false, out)
      | some ctx =>
        if intMax < plaintext.length then (false, out)
        else
          let text := lib.update .encrypt ctx .valid (some plaintext) (castInt plaintext.length)
          let out := { out with ciphertext := store out.ciphertext text.out }
          if !text.ok then (false, out)
          else
            let out := { out with ciphertextLen := text.outl }
            let rest := lib.finalEx .encrypt text.ctx
            let out := { out with ciphertext := storeAt out.ciphertext text.outl rest.out }
            if !rest.ok then (false, out)
            else
              let out := { out with ciphertextLen := out.ciphertextLen + rest.outl }
              let (ok, tag, _) := lib.cipherCtxCtrl rest.ctx .aeadGetTag (castInt tagLen) []
              (ok, { out with tag := store out.tag tag })

/-- The variables that `DecryptAEAD` writes. -/
structure DecryptOutput where
  plaintext : ℕ → UInt8
  plaintextLen : ℕ

/-- `DefaultSoftwareCryptoEngine::DecryptAEAD`. -/
def decryptAEAD (lib : LibEvp) (algo : SymmetricAlgorithm) (key iv ciphertext : List UInt8)
    (aad : Option (List UInt8)) (tag : List UInt8) (out : DecryptOutput) :
    Bool × DecryptOutput :=
  match mapSymmetricAlgo algo with
  | none => (false, out)
  | some cipher =>
    match lib.cipherCtxNew with
    | none => (false, out)
    | some ctx =>
      match (evpSetup lib .decrypt ctx cipher key iv).bind
          fun ctx => evpAad lib .decrypt ctx aad with
      | none => (false, out)
      | some ctx =>
        if intMax < ciphertext.length then (false, out)
        else
          let text := lib.update .decrypt ctx .valid (some ciphertext) (castInt ciphertext.length)
          let out := { out with plaintext := store out.plaintext text.out }
          if !text.ok then (false, out)
          else
            let out := { out with plaintextLen := text.outl }
            -- the tag comes after the data
            let (ok, _, ctx) := lib.cipherCtxCtrl text.ctx .aeadSetTag (castInt tag.length) tag
            if !ok then (false, out)
            else
              let rest := lib.finalEx .decrypt ctx
              let out := { out with plaintext := storeAt out.plaintext text.outl rest.out }
              if !rest.ok then (false, out)
              else (true, { out with plaintextLen := out.plaintextLen + rest.outl })

/-! ### The two parts of a call -/

section Parts

variable (lib : LibEvp) (dir : EvpDirection) (algo : SymmetricAlgorithm) (key iv : List UInt8)
  (aad : Option (List UInt8))

/-- The answer of `EVP_EncryptUpdate` or `EVP_DecryptUpdate` to the text; `none` where the function
of the engine has given up before. -/
def evpText (data : List UInt8) : Option (EvpOutput lib.Ctx) :=
  (mapSymmetricAlgo algo).bind fun cipher => lib.cipherCtxNew.bind fun ctx =>
    (evpSetup lib dir ctx cipher key iv).bind fun ctx =>
      (evpAad lib dir ctx aad).bind fun ctx =>
        if intMax < data.length then none
        else some (lib.update dir ctx .valid (some data) (castInt data.length))

/-- `EncryptAEAD` from the answer of `EVP_EncryptUpdate` on. -/
def encryptFinish (tagLen : ℕ) (text : EvpOutput lib.Ctx) (out : EncryptOutput) :
    Bool × EncryptOutput :=
  let out := { out with ciphertext := store out.ciphertext text.out }
  if !text.ok then (false, out)
  else
    let out := { out with ciphertextLen := text.outl }
    let rest := lib.finalEx .encrypt text.ctx
    let out := { out with ciphertext := storeAt out.ciphertext text.outl rest.out }
    if !rest.ok then (false, out)
    else
      let out := { out with ciphertextLen := out.ciphertextLen + rest.outl }
      let (ok, tag, _) := lib.cipherCtxCtrl rest.ctx .aeadGetTag (castInt tagLen) []
      (ok, { out with tag := store out.tag tag })

/-- `DecryptAEAD` from the answer of `EVP_DecryptUpdate` on. -/
def decryptVerify (tag : List UInt8) (text : EvpOutput lib.Ctx) (out : DecryptOutput) :
    Bool × DecryptOutput :=
  let out := { out with plaintext := store out.plaintext text.out }
  if !text.ok then (false, out)
  else
    let out := { out with plaintextLen := text.outl }
    let (ok, _, ctx) := lib.cipherCtxCtrl text.ctx .aeadSetTag (castInt tag.length) tag
    if !ok then (false, out)
    else
      let rest := lib.finalEx .decrypt ctx
      let out := { out with plaintext := storeAt out.plaintext text.outl rest.out }
      if !rest.ok then (false, out)
      else (true, { out with plaintextLen := out.plaintextLen + rest.outl })

/-- The beginning of both functions, with any continuation. -/
theorem evpText_match {β : Type} (data : List UInt8) (failed : β) (k : EvpOutput lib.Ctx → β) :
    (match mapSymmetricAlgo algo with
      | none => failed
      | some cipher =>
        match lib.cipherCtxNew with
        | none => failed
        | some ctx =>
          match (evpSetup lib dir ctx cipher key iv).bind fun ctx => evpAad lib dir ctx aad with
          | none => failed
          | some ctx =>
            if intMax < data.length then failed
            else k (lib.update dir ctx .valid (some data) (castInt data.length))) =
      match evpText lib dir algo key iv aad data with
      | none => failed
      | some text => k text := by
  unfold evpText
  cases mapSymmetricAlgo algo with
  | none => rfl
  | some cipher =>
    cases lib.cipherCtxNew with
    | none => rfl
    | some ctx =>
      simp only [Option.bind_some]
      cases evpSetup lib dir ctx cipher key iv with
      | none => rfl
      | some ctx =>
        simp only [Option.bind_some]
        cases evpAad lib dir ctx aad with
        | none => rfl
        | some ctx =>
          simp only [Option.bind_some]
          by_cases hlen : intMax < data.length
          · rw [if_pos hlen, if_pos hlen]
          · rw [if_neg hlen, if_neg hlen]

theorem encryptAEAD_eq (plaintext : List UInt8) (tagLen : ℕ) (out : EncryptOutput) :
    encryptAEAD lib algo key iv plaintext aad tagLen out =
      match evpText lib .encrypt algo key iv aad plaintext with
      | none => (false, out)
      | some text => encryptFinish lib tagLen text out :=
  evpText_match lib .encrypt algo key iv aad plaintext (false, out)
    fun text => encryptFinish lib tagLen text out

theorem decryptAEAD_eq (ciphertext tag : List UInt8) (out : DecryptOutput) :
    decryptAEAD lib algo key iv ciphertext aad tag out =
      match evpText lib .decrypt algo key iv aad ciphertext with
      | none => (false, out)
      | some text => decryptVerify lib tag text out :=
  evpText_match lib .decrypt algo key iv aad ciphertext (false, out)
    fun text => decryptVerify lib tag text out

/-- A call that comes to its text. -/
theorem evpText_eq_some_iff (data : List UInt8) (text : EvpOutput lib.Ctx) :
    evpText lib dir algo key iv aad data = some text ↔
      ∃ cipher ctx ctx₁ ctx₂, mapSymmetricAlgo algo = some cipher ∧
        lib.cipherCtxNew = some ctx ∧ evpSetup lib dir ctx cipher key iv = some ctx₁ ∧
        evpAad lib dir ctx₁ aad = some ctx₂ ∧ data.length ≤ intMax ∧
        lib.update dir ctx₂ .valid (some data) (castInt data.length) = text := by
  simp only [evpText, Option.bind_eq_some_iff]
  constructor
  · rintro ⟨cipher, halgo, ctx, hnew, ctx₁, hsetup, ctx₂, haad, htext⟩
    by_cases hlen : intMax < data.length
    · rw [if_pos hlen] at htext
      cases htext
    · rw [if_neg hlen] at htext
      exact ⟨cipher, ctx, ctx₁, ctx₂, halgo, hnew, hsetup, haad, Nat.not_lt.mp hlen,
        Option.some.inj htext⟩
  · rintro ⟨cipher, ctx, ctx₁, ctx₂, halgo, hnew, hsetup, haad, hlen, htext⟩
    exact ⟨cipher, halgo, ctx, hnew, ctx₁, hsetup, ctx₂, haad,
      by rw [if_neg (Nat.not_lt.mpr hlen), htext]⟩

end Parts

/-- The admissible lengths of the arguments. -/
structure AeadAdmissible (aead : Aead) (key iv plaintext : List UInt8)
    (aad : Option (List UInt8)) (tagLen : ℕ) : Prop where
  keyLength : aead.keyLength = key.length
  ivLength : aead.ivLength iv.length = true
  iv_le : iv.length ≤ intMax
  dataLength : aead.dataLength iv.length plaintext.length = true
  data_le : plaintext.length ≤ intMax
  aad_le : (aad.getD []).length ≤ intMax
  tagLength : aead.tagLength tagLen = true
  tag_le : tagLen ≤ intMax

/-- The ciphertext and its tag have admissible lengths too. -/
theorem AeadAdmissible.sealed {aead : Aead} {key iv plaintext : List UInt8}
    {aad : Option (List UInt8)} {tagLen : ℕ}
    (h : AeadAdmissible aead key iv plaintext aad tagLen) :
    AeadAdmissible aead key iv (aead.encrypt key iv (aad.getD []) plaintext) aad
      (aead.tag key iv (aad.getD []) plaintext tagLen).length := by
  have hdata := aead.length_encrypt key iv (aad.getD []) plaintext
  have htag := aead.length_tag key iv (aad.getD []) plaintext tagLen h.tagLength
  exact
    { keyLength := h.keyLength
      ivLength := h.ivLength
      iv_le := h.iv_le
      dataLength := by rw [hdata]; exact h.dataLength
      data_le := by rw [hdata]; exact h.data_le
      aad_le := h.aad_le
      tagLength := by rw [htag]; exact h.tagLength
      tag_le := by rw [htag]; exact h.tag_le }

/-- Encryption succeeds, and decryption of the ciphertext and the tag succeeds with the
plaintext and its length. -/
def RoundTrips (lib : LibEvp) (algo : SymmetricAlgorithm) (key iv plaintext : List UInt8)
    (aad : Option (List UInt8)) (tagLen : ℕ) : Prop :=
  ∀ (out : EncryptOutput) (out' : DecryptOutput),
    let sealed := encryptAEAD lib algo key iv plaintext aad tagLen out
    let opened := decryptAEAD lib algo key iv (read sealed.2.ciphertext sealed.2.ciphertextLen)
      aad (read sealed.2.tag tagLen) out'
    sealed.1 = true ∧ opened.1 = true ∧ opened.2.plaintextLen = plaintext.length ∧
      read opened.2.plaintext plaintext.length = plaintext

/-! ### Setting up a context -/

theorem castInt_of_le {n : ℕ} (h : n ≤ intMax) : castInt n = n := by
  have hlt : n < 2 ^ 31 := Nat.lt_of_le_of_lt h (by decide)
  rw [castInt, BitVec.toInt_eq_toNat_of_lt, BitVec.toNat_ofNat, Nat.mod_eq_of_lt (by omega)]
  rw [BitVec.toNat_ofNat, Nat.mod_eq_of_lt (by omega)]
  omega

section Implements

variable {lib : LibEvp} {cipher : EvpCipher} {aead : Aead} {view : lib.Ctx → EvpView}
variable {key iv : List UInt8}

/-- The set-up succeeds for every cipher. -/
theorem evpSetup_spec (hlib : lib.Implements cipher aead view) (dir : EvpDirection) {ctx : lib.Ctx}
    (hnew : view ctx = .new) (hkey : aead.keyLength = key.length)
    (hiv : aead.ivLength iv.length = true) (hle : iv.length ≤ intMax) :
    ∃ ctx', evpSetup lib dir ctx cipher key iv = some ctx' ∧
      view ctx' = .start cipher dir key iv := by
  obtain ⟨hok₁, hview₁⟩ := hlib.choose dir ctx hnew
  set ctx₁ := (lib.initEx dir ctx (some cipher) none none).2
  obtain ⟨hok₂, hview₂⟩ := hlib.setIvlen ctx₁ iv.length (by rw [hview₁]) (by rw [hview₁]; rfl) hiv
  rw [hview₁] at hview₂
  set ctx₂ := (lib.cipherCtxCtrl ctx₁ .aeadSetIvlen iv.length []).2.2
  obtain ⟨hok₃, hview₃⟩ := hlib.key ctx₂ key iv (by rw [hview₂]) (by rw [hview₂]; rfl) hkey
    (by rw [hview₂])
  have hdir : (view ctx₂).dir = dir := by rw [hview₂]
  rw [hdir, hview₂] at hview₃
  rw [hdir] at hok₃
  refine ⟨(lib.initEx dir ctx₂ none (some key) (some iv)).2, ?_, hview₃⟩
  unfold evpSetup
  rw [castInt_of_le hle]
  dsimp only
  rw [hok₁, hok₂, hok₃]
  rfl

/-- Without CCM the associated data are taken. -/
theorem evpAad_spec (hlib : lib.Implements cipher aead view) (hccm : cipher ≠ .aes128Ccm)
    {dir : EvpDirection} {ctx : lib.Ctx} (hstart : view ctx = .start cipher dir key iv)
    {aad : Option (List UInt8)} (hle : (aad.getD []).length ≤ intMax) :
    ∃ ctx', evpAad lib dir ctx aad = some ctx' ∧
      view ctx' = { EvpView.start cipher dir key iv with aad := aad.getD [] } := by
  cases aad with
  | none => exact ⟨ctx, rfl, hstart⟩
  | some aad =>
    rw [Option.getD_some] at hle
    unfold evpAad
    dsimp only
    by_cases hpos : 0 < aad.length
    · have hopen : (view ctx).Open cipher dir key iv := by
        rw [hstart]
        exact ⟨rfl, rfl, rfl, rfl⟩
      obtain ⟨hok, hview⟩ := hlib.updateAad dir ctx key iv aad hccm hopen (by rw [hstart]; rfl) hle
      rw [hstart] at hview
      refine ⟨_, ?_, hview⟩
      rw [if_pos hpos, castInt_of_le hle, hok]
      rfl
    · obtain rfl : aad = [] := List.length_eq_zero_iff.mp (by omega)
      exact ⟨ctx, rfl, hstart⟩

/-- Without CCM a context takes the associated data and the text. -/
theorem evpText_spec (hlib : lib.Implements cipher aead view) (hccm : cipher ≠ .aes128Ccm)
    (dir : EvpDirection) {ctx : lib.Ctx} (hnew : view ctx = .new) {data : List UInt8}
    {aad : Option (List UInt8)} {tagLen : ℕ} (hadm : AeadAdmissible aead key iv data aad tagLen) :
    ∃ ctx', (evpSetup lib dir ctx cipher key iv).bind (fun ctx => evpAad lib dir ctx aad) =
        some ctx' ∧
      let text := lib.update dir ctx' .valid (some data) data.length
      text.ok = true ∧ text.outl = text.out.length ∧
        view text.ctx =
          { EvpView.start cipher dir key iv with
            aad := aad.getD [], data := data, out := text.out } ∧
        (view text.ctx).Open cipher dir key iv ∧ (view text.ctx).Released aead key iv := by
  obtain ⟨ctx₁, hsetup, hstart⟩ := evpSetup_spec hlib dir hnew hadm.keyLength
    hadm.ivLength hadm.iv_le
  obtain ⟨ctx₂, haad, hview₂⟩ := evpAad_spec hlib hccm hstart hadm.aad_le
  have hopen₂ : (view ctx₂).Open cipher dir key iv := by
    rw [hview₂]
    exact ⟨rfl, rfl, rfl, rfl⟩
  obtain ⟨hok, hlen, hview, hreleased⟩ := hlib.updateData dir ctx₂ key iv data hccm hopen₂
    (by rw [hview₂]; rfl) (by rw [hview₂]; rfl) hadm.data_le hadm.dataLength
  rw [hview₂] at hview
  refine ⟨ctx₂, ?_, hok, hlen, hview, ?_, hreleased⟩
  · rw [hsetup, Option.bind_some]
    exact haad
  · rw [hview]
    exact ⟨rfl, rfl, rfl, rfl⟩

/-- Without CCM `EncryptAEAD` implements the encryption of the scheme. -/
theorem encryptAEAD_spec (hlib : lib.Implements cipher aead view) (hccm : cipher ≠ .aes128Ccm)
    {algo : SymmetricAlgorithm} (halgo : mapSymmetricAlgo algo = some cipher)
    {plaintext : List UInt8} {aad : Option (List UInt8)} {tagLen : ℕ}
    (hadm : AeadAdmissible aead key iv plaintext aad tagLen) (out : EncryptOutput) :
    let sealed := encryptAEAD lib algo key iv plaintext aad tagLen out
    sealed.1 = true ∧ sealed.2.ciphertextLen = plaintext.length ∧
      read sealed.2.ciphertext plaintext.length = aead.encrypt key iv (aad.getD []) plaintext ∧
      read sealed.2.tag tagLen = aead.tag key iv (aad.getD []) plaintext tagLen := by
  obtain ⟨ctx, hnew, hview⟩ := hlib.new
  obtain ⟨ctx₁, hstart, hok₂, hlen₂, hview₂, hopen₂, hreleased⟩ :=
    evpText_spec hlib hccm .encrypt hview hadm
  set text := lib.update .encrypt ctx₁ .valid (some plaintext) plaintext.length
  obtain ⟨hok₃, hlen₃, hout, hview₃⟩ := hlib.encryptFinal text.ctx key iv hccm hopen₂ hreleased
  set rest := lib.finalEx .encrypt text.ctx
  rw [hview₂] at hview₃ hout
  obtain ⟨hok₄, htag⟩ := hlib.getTag rest.ctx key iv tagLen hccm (by rw [hview₃]; rfl)
    (by rw [hview₃]; rfl) (by rw [hview₃]; rfl) (by rw [hview₃]) hadm.tagLength
  rw [hview₃] at htag
  dsimp only at hout htag
  intro sealed
  have hsealed : sealed = (true,
      { ciphertext := storeAt (store out.ciphertext text.out) text.outl rest.out
        ciphertextLen := text.outl + rest.outl
        tag := store out.tag (lib.cipherCtxCtrl rest.ctx .aeadGetTag tagLen []).2.1 }) := by
    show encryptAEAD lib algo key iv plaintext aad tagLen out = _
    unfold encryptAEAD
    rw [halgo, hnew]
    dsimp only
    rw [hstart]
    dsimp only
    rw [if_neg (Nat.not_lt.mpr hadm.data_le), castInt_of_le hadm.data_le, hok₂, hok₃,
      castInt_of_le hadm.tag_le, hok₄]
    rfl
  -- the lengths of both writes add up to that of the ciphertext
  have hlen : text.out.length + rest.out.length = plaintext.length := by
    rw [← List.length_append, hout, aead.length_encrypt]
  rw [hsealed, hlen₂, hlen₃]
  refine ⟨rfl, hlen, ?_, ?_⟩
  · rw [← hlen, ← hout]
    exact read_storeAt _ _ _
  · dsimp only
    rw [htag]
    have hread := read_store out.tag (aead.tag key iv (aad.getD []) plaintext tagLen)
    rwa [aead.length_tag _ _ _ _ _ hadm.tagLength] at hread

/-- Without CCM `DecryptAEAD` implements the decryption of the scheme. -/
theorem decryptAEAD_spec (hlib : lib.Implements cipher aead view) (hccm : cipher ≠ .aes128Ccm)
    {algo : SymmetricAlgorithm} (halgo : mapSymmetricAlgo algo = some cipher)
    {plaintext ciphertext tag : List UInt8} {aad : Option (List UInt8)}
    (hadm : AeadAdmissible aead key iv ciphertext aad tag.length)
    (hdecrypt : aead.decrypt key iv (aad.getD []) ciphertext tag = some plaintext)
    (out : DecryptOutput) :
    let opened := decryptAEAD lib algo key iv ciphertext aad tag out
    opened.1 = true ∧ opened.2.plaintextLen = plaintext.length ∧
      read opened.2.plaintext plaintext.length = plaintext := by
  obtain ⟨ctx, hnew, hview⟩ := hlib.new
  obtain ⟨ctx₁, hstart, hok₂, hlen₂, hview₂, hopen₂, hreleased⟩ :=
    evpText_spec hlib hccm .decrypt hview hadm
  set text := lib.update .decrypt ctx₁ .valid (some ciphertext) ciphertext.length
  obtain ⟨hok₃, hview₃⟩ := hlib.setTag text.ctx key iv tag hccm hopen₂ hadm.tagLength
  set ctx₃ := (lib.cipherCtxCtrl text.ctx .aeadSetTag tag.length tag).2.2
  rw [hview₂] at hview₃ hreleased
  have hopen₃ : (view ctx₃).Open cipher .decrypt key iv := by
    rw [hview₃]
    exact ⟨rfl, rfl, rfl, rfl⟩
  have hreleased₃ : (view ctx₃).Released aead key iv := by
    rw [hview₃]
    exact hreleased
  obtain ⟨hok₄, hlen₄, hout⟩ := hlib.decryptFinal ctx₃ key iv tag plaintext hccm hopen₃ hreleased₃
    (by rw [hview₃]) (by rw [hview₃]; exact hdecrypt)
  set rest := lib.finalEx .decrypt ctx₃
  rw [hview₃] at hout
  dsimp only at hout
  intro opened
  have hopened : opened = (true,
      { plaintext := storeAt (store out.plaintext text.out) text.outl rest.out
        plaintextLen := text.outl + rest.outl }) := by
    show decryptAEAD lib algo key iv ciphertext aad tag out = _
    unfold decryptAEAD
    rw [halgo, hnew]
    dsimp only
    rw [hstart]
    dsimp only
    rw [if_neg (Nat.not_lt.mpr hadm.data_le), castInt_of_le hadm.data_le, hok₂,
      castInt_of_le hadm.tag_le, hok₃, hok₄]
    rfl
  have hlen : text.out.length + rest.out.length = plaintext.length := by
    rw [← List.length_append, hout]
  rw [hopened, hlen₂, hlen₄]
  refine ⟨rfl, hlen, ?_⟩
  rw [← hlen]
  exact (read_storeAt _ _ _).trans hout

/-- CCM refuses associated data, for want of the length of the text. -/
theorem evpAad_ccm (hlib : lib.Implements .aes128Ccm aead view) {dir : EvpDirection}
    {ctx : lib.Ctx} (hstart : view ctx = .start .aes128Ccm dir key iv) {aad : Option (List UInt8)}
    (hle : (aad.getD []).length ≤ intMax) :
    evpAad lib dir ctx aad = if aad.getD [] = [] then some ctx else none := by
  cases aad with
  | none => rfl
  | some aad =>
    rw [Option.getD_some] at hle ⊢
    unfold evpAad
    dsimp only
    by_cases hnil : aad = []
    · subst hnil
      rfl
    · have hopen : (view ctx).Open .aes128Ccm dir key iv := by
        rw [hstart]
        exact ⟨rfl, rfl, rfl, rfl⟩
      have hrefused := hlib.ccmAad dir ctx key iv aad rfl hopen (by rw [hstart]; rfl) hnil hle
      rw [if_pos (List.length_pos_iff.mpr hnil), castInt_of_le hle, hrefused, if_neg hnil]
      rfl

/-- CCM refuses the ciphertext, for want of the tag. -/
theorem decryptAEAD_ccm (hlib : lib.Implements .aes128Ccm aead view)
    {plaintext : List UInt8} {aad : Option (List UInt8)} {tagLen : ℕ}
    (hadm : AeadAdmissible aead key iv plaintext aad tagLen) (ciphertext tag : List UInt8)
    (out : DecryptOutput) :
    (decryptAEAD lib .aes128Ccm key iv ciphertext aad tag out).1 = false := by
  obtain ⟨ctx, hnew, hview⟩ := hlib.new
  obtain ⟨ctx₁, hsetup, hstart⟩ := evpSetup_spec hlib .decrypt hview hadm.keyLength
    hadm.ivLength hadm.iv_le
  unfold decryptAEAD
  rw [show mapSymmetricAlgo .aes128Ccm = some .aes128Ccm from rfl, hnew]
  dsimp only
  rw [hsetup, Option.bind_some, evpAad_ccm hlib hstart hadm.aad_le]
  by_cases hnil : aad.getD [] = []
  · rw [if_pos hnil]
    dsimp only
    by_cases hlong : intMax < ciphertext.length
    · rw [if_pos hlong]
    · have hopen : (view ctx₁).Open .aes128Ccm .decrypt key iv := by
        rw [hstart]
        exact ⟨rfl, rfl, rfl, rfl⟩
      have hrefused := hlib.ccmData ctx₁ key iv ciphertext rfl hopen (by rw [hstart]; rfl)
        (Nat.not_lt.mp hlong)
      rw [if_neg hlong, castInt_of_le (Nat.not_lt.mp hlong), hrefused]
      rfl
  · rw [if_neg hnil]

/-- Among the algorithms that the engine lists, those without CCM work for all keys,
initialisation vectors, plaintexts and associated data of admissible length; CCM works for
none. -/
theorem roundTrips_iff {opensslVersion : String} {algo : SymmetricAlgorithm}
    (halgo : algo ∈ (getCapability opensslVersion).symmetricAlgos)
    (hlib : ∀ cipher ∈ mapSymmetricAlgo algo, lib.Implements cipher aead view)
    {plaintext : List UInt8} {aad : Option (List UInt8)} {tagLen : ℕ}
    (hadm : AeadAdmissible aead key iv plaintext aad tagLen) :
    RoundTrips lib algo key iv plaintext aad tagLen ↔ algo ≠ .aes128Ccm := by
  constructor
  · rintro h rfl
    have hopened := (h ⟨fun _ => 0, 0, fun _ => 0⟩ ⟨fun _ => 0, 0⟩).2.1
    rw [decryptAEAD_ccm (hlib _ rfl) hadm] at hopened
    cases hopened
  · intro hccm out out' sealed opened
    obtain ⟨cipher, hcipher, hne⟩ : ∃ cipher, mapSymmetricAlgo algo = some cipher ∧
        cipher ≠ .aes128Ccm := by
      simp only [getCapability, List.mem_cons, List.not_mem_nil, or_false] at halgo
      obtain rfl | rfl | rfl | rfl := halgo
      · exact ⟨_, rfl, by decide⟩
      · exact ⟨_, rfl, by decide⟩
      · exact absurd rfl hccm
      · exact ⟨_, rfl, by decide⟩
    have hlib := hlib cipher hcipher
    obtain ⟨hok, hlen, hciphertext, htag⟩ := encryptAEAD_spec hlib hne hcipher hadm out
    have hopened : opened = decryptAEAD lib algo key iv
        (aead.encrypt key iv (aad.getD []) plaintext) aad
        (aead.tag key iv (aad.getD []) plaintext tagLen) out' := by
      rw [← hciphertext, ← htag, ← hlen]
    rw [hopened]
    exact ⟨hok, decryptAEAD_spec hlib hne hcipher hadm.sealed
      (aead.decrypt_encrypt key iv _ plaintext tagLen hadm.tagLength) out'⟩

end Implements

/-- The AES modes with 128-bit keys. -/
def aesModes : EvpCipher → Option Aead.Stream
  | .aes128Gcm => some Aes.gcm
  | .aes128Ccm => some Aes.ccm
  | _ => none

/-- A key of zeros. -/
def zeroKey : List UInt8 := List.replicate 16 0

/-- An initialisation vector of zeros. -/
def zeroIv : List UInt8 := List.replicate 12 0

theorem admissible_gcm :
    AeadAdmissible (.ofStream Aes.gcm) zeroKey zeroIv (ascii "Test Message")
      (some (ascii "AuthData")) 16 where
  keyLength := rfl
  ivLength := rfl
  iv_le := by decide
  dataLength := by decide
  data_le := by decide
  aad_le := by decide
  tagLength := rfl
  tag_le := by decide

theorem admissible_ccm :
    AeadAdmissible (.ofStream Aes.ccm) zeroKey zeroIv (ascii "CCM test") none 12 where
  keyLength := rfl
  ivLength := rfl
  iv_le := by decide
  dataLength := by decide
  data_le := by decide
  aad_le := by decide
  tagLength := rfl
  tag_le := by decide

theorem roundTrips_iff_gcm :
    SymmetricAlgorithm.aes128Gcm ∈ (getCapability "OpenSSL").symmetricAlgos ∧
      (streamEvp aesModes).Implements .aes128Gcm (.ofStream Aes.gcm) id ∧
      RoundTrips (streamEvp aesModes) .aes128Gcm zeroKey zeroIv (ascii "Test Message")
        (some (ascii "AuthData")) 16 := by
  have hlib : (streamEvp aesModes).Implements .aes128Gcm (.ofStream Aes.gcm) id :=
    implements_streamEvp rfl
  have hlist : SymmetricAlgorithm.aes128Gcm ∈ (getCapability "OpenSSL").symmetricAlgos := by decide
  have hlibs : ∀ cipher ∈ mapSymmetricAlgo .aes128Gcm,
      (streamEvp aesModes).Implements cipher (.ofStream Aes.gcm) id := by
    intro cipher hcipher
    cases hcipher
    exact hlib
  exact ⟨hlist, hlib, (roundTrips_iff hlist hlibs admissible_gcm).mpr (by decide)⟩

/-- A message is encrypted with CCM, and nobody can decrypt it. -/
theorem ccm_not_decrypted :
    SymmetricAlgorithm.aes128Ccm ∈ (getCapability "OpenSSL").symmetricAlgos ∧
      (streamEvp aesModes).Implements .aes128Ccm (.ofStream Aes.ccm) id ∧
      AeadAdmissible (.ofStream Aes.ccm) zeroKey zeroIv (ascii "CCM test") none 12 ∧
      (∀ out, (encryptAEAD (streamEvp aesModes) .aes128Ccm zeroKey zeroIv (ascii "CCM test") none
        12 out).1 = true) ∧
      ¬ RoundTrips (streamEvp aesModes) .aes128Ccm zeroKey zeroIv (ascii "CCM test") none 12 := by
  have hlib : (streamEvp aesModes).Implements .aes128Ccm (.ofStream Aes.ccm) id :=
    implements_streamEvp rfl
  refine ⟨by decide, hlib, admissible_ccm, fun out => rfl, fun h => ?_⟩
  have hopened := (h ⟨fun _ => 0, 0, fun _ => 0⟩ ⟨fun _ => 0, 0⟩).2.1
  rw [decryptAEAD_ccm hlib admissible_ccm] at hopened
  cases hopened

end Scf
