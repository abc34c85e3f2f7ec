import ScfSecurity.Base
import ScfSecurity.Library.Aead

/-!
# The cipher contexts of libcrypto

`EVP_CIPHER_CTX` objects, as far as the software engine drives them. The functions of
libcrypto are a parameter, `LibEvp`; what their documentation says about authenticated
encryption is `LibEvp.Implements`, which describes a context by what it has been told so far.
GCM and ChaCha20-Poly1305 take a message as it comes. CCM needs its length before associated
data, and for decryption the tag before the data.

## Main definitions

- `LibEvp`: the functions
- `EvpView`: what a context has been told
- `LibEvp.Implements`: the functions implement a scheme for one cipher
- `streamEvp`: functions for any stream modes
-/

namespace Scf

/-- The ciphers of libcrypto that the engine uses. -/
inductive EvpCipher where
  | aes128Gcm
  | aes256Gcm
  | aes128Ccm
  | chacha20Poly1305
deriving DecidableEq, Repr

/-- `EVP_EncryptInit_ex` or `EVP_DecryptInit_ex`, and so for the other functions. -/
inductive EvpDirection where
  | encrypt
  | decrypt
deriving DecidableEq, Repr

/-- The commands of `EVP_CIPHER_CTX_ctrl`. -/
inductive EvpCtrl where
  | aeadSetIvlen
  | aeadGetTag
  | aeadSetTag
deriving DecidableEq, Repr

/-- What `EVP_EncryptUpdate`, `EVP_EncryptFinal_ex` and their counterparts give: whether they
succeed, the bytes they write to `out`, the number they write to `*outl`, and the context. -/
structure EvpOutput (Ctx : Type) where
  ok : Bool
  out : List UInt8
  outl : ℕ
  ctx : Ctx

/-- The functions of libcrypto. A buffer that is read is the list of its bytes, `none` for a
null pointer; lengths are of type `int`. `cipherCtxCtrl` gives the bytes it writes to `ptr`. -/
structure LibEvp where
  Ctx : Type
  cipherCtxNew : Option Ctx
  initEx (dir : EvpDirection) (ctx : Ctx) (cipher : Option EvpCipher)
    (key iv : Option (List UInt8)) : Bool × Ctx
  cipherCtxCtrl (ctx : Ctx) (type : EvpCtrl) (arg : ℤ) (ptr : List UInt8) :
    Bool × List UInt8 × Ctx
  update (dir : EvpDirection) (ctx : Ctx) (out : Ptr) (input : Option (List UInt8)) (inl : ℤ) :
    EvpOutput Ctx
  finalEx (dir : EvpDirection) (ctx : Ctx) : EvpOutput Ctx

/-- `INT_MAX`. -/
def intMax : ℕ := 2 ^ 31 - 1

/-- What a context has been told, and what it has written. -/
structure EvpView where
  cipher : Option EvpCipher
  dir : EvpDirection
  ivLen : ℕ
  keyIv : Option (List UInt8 × List UInt8)
  /-- The length of the message was declared, by an update with neither input nor output. -/
  declared : Bool
  aad : List UInt8
  data : List UInt8
  out : List UInt8
  tag : Option (List UInt8)
  finished : Bool
deriving DecidableEq

namespace EvpView

/-- A context that has been told nothing. -/
def new : EvpView := ⟨none, .encrypt, 0, none, false, [], [], [], none, false⟩

/-- A context that is ready for a message. -/
def start (cipher : EvpCipher) (dir : EvpDirection) (key iv : List UInt8) : EvpView :=
  { new with cipher := some cipher, dir := dir, ivLen := iv.length, keyIv := some (key, iv) }

/-- What was written so far is the beginning of the result, whichever tag the decryption will
be given. -/
def Released (v : EvpView) (aead : Aead) (key iv : List UInt8) : Prop :=
  match v.dir with
  | .encrypt => v.out <+: aead.encrypt key iv v.aad v.data
  | .decrypt => ∀ tag plaintext,
      aead.decrypt key iv v.aad v.data tag = some plaintext → v.out <+: plaintext

/-- The context has a cipher and a key, and the message has not ended. -/
structure Open (v : EvpView) (cipher : EvpCipher) (dir : EvpDirection) (key iv : List UInt8) :
    Prop where
  cipher : v.cipher = some cipher
  dir : v.dir = dir
  keyIv : v.keyIv = some (key, iv)
  finished : v.finished = false

end EvpView

/-- The documented behaviour of the functions for one cipher. A context is described by
`view`. -/
structure LibEvp.Implements (lib : LibEvp) (cipher : EvpCipher) (aead : Aead)
    (view : lib.Ctx → EvpView) : Prop where
  new : ∃ ctx, lib.cipherCtxNew = some ctx ∧ view ctx = .new
  -- setting up: the cipher, the length of the initialisation vector, then both values
  choose : ∀ dir ctx, view ctx = .new →
    (lib.initEx dir ctx (some cipher) none none).1 = true ∧
      view (lib.initEx dir ctx (some cipher) none none).2 =
        { EvpView.new with cipher := some cipher, dir := dir }
  setIvlen : ∀ ctx (n : ℕ), (view ctx).cipher = some cipher → (view ctx).keyIv = none →
    aead.ivLength n = true →
    (lib.cipherCtxCtrl ctx .aeadSetIvlen n []).1 = true ∧
      view (lib.cipherCtxCtrl ctx .aeadSetIvlen n []).2.2 = { view ctx with ivLen := n }
  key : ∀ ctx key iv, (view ctx).cipher = some cipher → (view ctx).keyIv = none →
    aead.keyLength = key.length → (view ctx).ivLen = iv.length →
    (lib.initEx (view ctx).dir ctx none (some key) (some iv)).1 = true ∧
      view (lib.initEx (view ctx).dir ctx none (some key) (some iv)).2 =
        { view ctx with keyIv := some (key, iv) }
  -- GCM and ChaCha20-Poly1305
  updateAad : ∀ dir ctx key iv aad, cipher ≠ .aes128Ccm → (view ctx).Open cipher dir key iv →
    (view ctx).data = [] → aad.length ≤ intMax →
    (lib.update dir ctx .null (some aad) aad.length).ok = true ∧
      view (lib.update dir ctx .null (some aad) aad.length).ctx =
        { view ctx with aad := (view ctx).aad ++ aad }
  updateData : ∀ dir ctx key iv data, cipher ≠ .aes128Ccm → (view ctx).Open cipher dir key iv →
    (view ctx).data = [] → (view ctx).out = [] → data.length ≤ intMax →
    aead.dataLength iv.length data.length = true →
    let answer := lib.update dir ctx .valid (some data) data.length
    answer.ok = true ∧ answer.outl = answer.out.length ∧
      view answer.ctx = { view ctx with data := data, out := answer.out } ∧
      (view answer.ctx).Released aead key iv
  encryptFinal : ∀ ctx key iv, cipher ≠ .aes128Ccm → (view ctx).Open cipher .encrypt key iv →
    (view ctx).Released aead key iv →
    let answer := lib.finalEx .encrypt ctx
    answer.ok = true ∧ answer.outl = answer.out.length ∧
      (view ctx).out ++ answer.out = aead.encrypt key iv (view ctx).aad (view ctx).data ∧
      view answer.ctx = { view ctx with out := (view ctx).out ++ answer.out, finished := true }
  decryptFinal : ∀ ctx key iv tag plaintext, cipher ≠ .aes128Ccm →
    (view ctx).Open cipher .decrypt key iv → (view ctx).Released aead key iv →
    (view ctx).tag = some tag →
    aead.decrypt key iv (view ctx).aad (view ctx).data tag = some plaintext →
    let answer := lib.finalEx .decrypt ctx
    answer.ok = true ∧ answer.outl = answer.out.length ∧
      (view ctx).out ++ answer.out = plaintext
  getTag : ∀ ctx key iv (n : ℕ), cipher ≠ .aes128Ccm → (view ctx).cipher = some cipher →
    (view ctx).dir = .encrypt → (view ctx).keyIv = some (key, iv) →
    (view ctx).finished = true → aead.tagLength n = true →
    (lib.cipherCtxCtrl ctx .aeadGetTag n []).1 = true ∧
      (lib.cipherCtxCtrl ctx .aeadGetTag n []).2.1 =
        aead.tag key iv (view ctx).aad (view ctx).data n
  setTag : ∀ ctx key iv tag, cipher ≠ .aes128Ccm → (view ctx).Open cipher .decrypt key iv →
    aead.tagLength tag.length = true →
    (lib.cipherCtxCtrl ctx .aeadSetTag tag.length tag).1 = true ∧
      view (lib.cipherCtxCtrl ctx .aeadSetTag tag.length tag).2.2 =
        { view ctx with tag := some tag }
  -- CCM: associated data before the length, and ciphertext before the tag, are refused
  ccmAad : ∀ dir ctx key iv aad, cipher = .aes128Ccm → (view ctx).Open cipher dir key iv →
    (view ctx).declared = false → aad ≠ [] → aad.length ≤ intMax →
    (lib.update dir ctx .null (some aad) aad.length).ok = false
  ccmData : ∀ ctx key iv data, cipher = .aes128Ccm → (view ctx).Open cipher .decrypt key iv →
    (view ctx).tag = none → data.length ≤ intMax →
    (lib.update .decrypt ctx .valid (some data) data.length).ok = false

/-! ### Functions for stream modes -/

section StreamModes

variable (modes : EvpCipher → Option Aead.Stream)

/-- The mode and the key of a context. -/
def EvpView.mode (v : EvpView) : Option (EvpCipher × Aead.Stream × List UInt8 × List UInt8) :=
  match v.cipher with
  | none => none
  | some cipher =>
    match modes cipher, v.keyIv with
    | some s, some (key, iv) => some (cipher, s, key, iv)
    | _, _ => none

/-- `EVP_EncryptInit_ex` and `EVP_DecryptInit_ex`, first with a cipher and then with a key. -/
def streamInit (dir : EvpDirection) (v : EvpView) (cipher : Option EvpCipher)
    (key iv : Option (List UInt8)) : Bool × EvpView :=
  match cipher, key, iv with
  | some cipher, none, none =>
    ((modes cipher).isSome, { EvpView.new with cipher := some cipher, dir := dir })
  | none, some key, some iv => (v.cipher.isSome, { v with keyIv := some (key, iv) })
  | _, _, _ => (false, v)

/-- `EVP_CIPHER_CTX_ctrl`. Unless told otherwise CCM writes tags of 12 bytes. -/
def streamCtrl (v : EvpView) (type : EvpCtrl) (arg : ℤ) (ptr : List UInt8) :
    Bool × List UInt8 × EvpView :=
  match type with
  | .aeadSetIvlen =>
    match v.cipher.bind modes with
    | none => (false, [], v)
    | some s => (s.ivLength arg.toNat, [], { v with ivLen := arg.toNat })
  | .aeadGetTag =>
    match v.mode modes with
    | none => (false, [], v)
    | some (cipher, s, key, iv) =>
      (v.dir = .encrypt && v.finished && s.tagLength arg.toNat &&
          (cipher ≠ .aes128Ccm || arg = 12),
        s.tag key iv v.aad v.data arg.toNat, v)
  | .aeadSetTag =>
    match v.cipher.bind modes with
    | none => (false, [], v)
    | some s =>
      (v.dir = .decrypt && s.tagLength arg.toNat, [], { v with tag := some (ptr.take arg.toNat) })

/-- `EVP_EncryptUpdate` and `EVP_DecryptUpdate`. Text is written as it comes. -/
def streamUpdate (dir : EvpDirection) (v : EvpView) (out : Ptr) (input : Option (List UInt8))
    (inl : ℤ) : EvpOutput EvpView :=
  match v.mode modes with
  | none => ⟨false, [], 0, v⟩
  | some (cipher, s, key, iv) =>
    match out, input with
    | .null, none => ⟨true, [], inl.toNat, { v with declared := true }⟩
    | .null, some aad =>
      if cipher = .aes128Ccm ∧ v.declared = false ∧ 0 < inl then ⟨false, [], 0, v⟩
      else ⟨true, [], inl.toNat, { v with aad := v.aad ++ aad.take inl.toNat }⟩
    | .valid, some data =>
      if cipher = .aes128Ccm ∧ dir = .decrypt ∧ v.tag = none then ⟨false, [], 0, v⟩
      else
        let data := data.take inl.toNat
        let text := Aead.xorBytes data (s.keystream key iv data.length)
        ⟨true, text, text.length, { v with data := v.data ++ data, out := v.out ++ text }⟩
    | .valid, none => ⟨true, [], 0, v⟩

/-- The text that a context comes to, if the tag is right. -/
def EvpView.result (v : EvpView) (aead : Aead) (key iv : List UInt8) :
    EvpDirection → Option (List UInt8)
  | .encrypt => some (aead.encrypt key iv v.aad v.data)
  | .decrypt => v.tag.bind (aead.decrypt key iv v.aad v.data)

/-- `EVP_EncryptFinal_ex` and `EVP_DecryptFinal_ex`. -/
def streamFinal (dir : EvpDirection) (v : EvpView) : EvpOutput EvpView :=
  match v.mode modes with
  | none => ⟨false, [], 0, v⟩
  | some (_, s, key, iv) =>
    match v.result (.ofStream s) key iv dir with
    | none => ⟨false, [], 0, v⟩
    | some text =>
      let rest := text.drop v.out.length
      ⟨true, rest, rest.length, { v with out := v.out ++ rest, finished := true }⟩

/-- The functions of libcrypto for the given modes. -/
def streamEvp : LibEvp where
  Ctx := EvpView
  cipherCtxNew := some .new
  initEx := streamInit modes
  cipherCtxCtrl := streamCtrl modes
  update := streamUpdate modes
  finalEx := streamFinal modes

variable {modes} {v : EvpView} {cipher : EvpCipher} {dir : EvpDirection} {key iv : List UInt8}
variable {s : Aead.Stream}

theorem EvpView.mode_of_keyIv (hcipher : v.cipher = some cipher) (hkey : v.keyIv = some (key, iv))
    (h : modes cipher = some s) : v.mode modes = some (cipher, s, key, iv) := by
  rw [EvpView.mode, hcipher]
  dsimp only
  rw [h, hkey]

/-- What is written of a text, and what is left of it, are the text. -/
theorem append_drop_of_isPrefix {out text : List UInt8} (h : out <+: text) :
    out ++ text.drop out.length = text := by
  obtain ⟨rest, rfl⟩ := h
  rw [List.drop_left]

theorem streamCtrl_setIvlen (hcipher : v.cipher = some cipher) (h : modes cipher = some s)
    (n : ℕ) :
    streamCtrl modes v .aeadSetIvlen n [] = (s.ivLength n, [], { v with ivLen := n }) := by
  simp only [streamCtrl, hcipher, Option.bind_some, h, Int.toNat_natCast]

theorem streamCtrl_getTag (hcipher : v.cipher = some cipher) (hkeyIv : v.keyIv = some (key, iv))
    (hdir : v.dir = .encrypt) (hfinished : v.finished = true) (h : modes cipher = some s)
    (hccm : cipher ≠ .aes128Ccm) {n : ℕ} (htag : s.tagLength n = true) :
    streamCtrl modes v .aeadGetTag n [] = (true, s.tag key iv v.aad v.data n, v) := by
  simp [streamCtrl, v.mode_of_keyIv hcipher hkeyIv h, hdir, hfinished, htag, hccm]

theorem streamCtrl_setTag (hopen : v.Open cipher .decrypt key iv) (h : modes cipher = some s)
    {tag : List UInt8} (htag : s.tagLength tag.length = true) :
    streamCtrl modes v .aeadSetTag tag.length tag = (true, [], { v with tag := some tag }) := by
  simp [streamCtrl, hopen.cipher, hopen.dir, h, htag]

theorem streamUpdate_aad (hopen : v.Open cipher dir key iv) (h : modes cipher = some s)
    (hccm : cipher ≠ .aes128Ccm) (aad : List UInt8) :
    streamUpdate modes dir v .null (some aad) aad.length =
      ⟨true, [], aad.length, { v with aad := v.aad ++ aad }⟩ := by
  simp [streamUpdate, v.mode_of_keyIv hopen.cipher hopen.keyIv h, hccm]

theorem streamUpdate_data (hopen : v.Open cipher dir key iv) (h : modes cipher = some s)
    (hccm : cipher ≠ .aes128Ccm) (data : List UInt8) :
    let text := Aead.xorBytes data (s.keystream key iv data.length)
    streamUpdate modes dir v .valid (some data) data.length =
      ⟨true, text, text.length, { v with data := v.data ++ data, out := v.out ++ text }⟩ := by
  simp [streamUpdate, v.mode_of_keyIv hopen.cipher hopen.keyIv h, hccm]

/-- CCM refuses associated data before the length, and ciphertext before the tag. -/
theorem streamUpdate_ccm (hopen : v.Open .aes128Ccm dir key iv) (h : modes .aes128Ccm = some s)
    {input : List UInt8} {out : Ptr}
    (hearly : (out = .null ∧ v.declared = false ∧ input ≠ []) ∨
      (out = .valid ∧ dir = .decrypt ∧ v.tag = none)) :
    (streamUpdate modes dir v out (some input) input.length).ok = false := by
  unfold streamUpdate
  rw [v.mode_of_keyIv hopen.cipher hopen.keyIv h]
  obtain ⟨rfl, hdeclared, hne⟩ | ⟨rfl, hdir, htag⟩ := hearly
  · have hpos : 0 < (input.length : ℤ) := by
      exact_mod_cast List.length_pos_iff.mpr hne
    simp only [hdeclared, hpos, and_self, if_true]
  · simp only [hdir, htag, and_self, if_true]

/-- The whole text is the beginning of the result, for either direction. -/
theorem released_xorBytes (hout : v.out = Aead.xorBytes v.data (s.keystream key iv v.data.length)) :
    v.Released (.ofStream s) key iv := by
  unfold EvpView.Released
  split
  · rw [hout]
    exact List.prefix_refl _
  · intro tag plaintext hplaintext
    simp only [Aead.ofStream] at hplaintext
    split_ifs at hplaintext
    have heq : v.out = plaintext := hout.trans (Option.some.inj hplaintext)
    exact heq ▸ List.prefix_refl _

theorem streamFinal_of_result (hopen : v.Open cipher dir key iv) (h : modes cipher = some s)
    {text : List UInt8} (hbegins : v.out <+: text)
    (htext : v.result (.ofStream s) key iv dir = some text) :
    let answer := streamFinal modes dir v
    answer.ok = true ∧ answer.outl = answer.out.length ∧ v.out ++ answer.out = text ∧
      answer.ctx = { v with out := v.out ++ answer.out, finished := true } := by
  rw [streamFinal, v.mode_of_keyIv hopen.cipher hopen.keyIv h]
  dsimp only
  rw [htext]
  exact ⟨rfl, rfl, append_drop_of_isPrefix hbegins, rfl⟩

/-- The functions implement each mode that they are given. -/
theorem implements_streamEvp (h : modes cipher = some s) :
    (streamEvp modes).Implements cipher (.ofStream s) id where
  new := ⟨.new, rfl, rfl⟩
  choose dir v _ := by
    refine ⟨?_, rfl⟩
    show (modes cipher).isSome = true
    rw [h]
    rfl
  setIvlen v n hcipher _ hiv := by
    have hctrl := streamCtrl_setIvlen hcipher h n
    exact ⟨(congrArg Prod.fst hctrl).trans hiv, congrArg (·.2.2) hctrl⟩
  key v key iv hcipher _ _ _ := ⟨Option.isSome_of_mem hcipher, rfl⟩
  updateAad dir v key iv aad hccm hopen _ _ := by
    have hupdate := streamUpdate_aad hopen h hccm aad
    exact ⟨congrArg EvpOutput.ok hupdate, congrArg EvpOutput.ctx hupdate⟩
  updateData dir v key iv data hccm hopen hdata hout _ _ := by
    have hupdate := streamUpdate_data hopen h hccm data
    dsimp only at hupdate
    rw [hdata, hout, List.nil_append, List.nil_append] at hupdate
    intro answer
    rw [show answer = _ from hupdate]
    exact ⟨rfl, rfl, rfl, released_xorBytes rfl⟩
  encryptFinal v key iv _ hopen hreleased := by
    refine streamFinal_of_result hopen h ?_ rfl
    unfold EvpView.Released at hreleased
    rw [hopen.dir] at hreleased
    exact hreleased
  decryptFinal v key iv tag plaintext _ hopen hreleased htag hplaintext := by
    unfold EvpView.Released at hreleased
    rw [hopen.dir] at hreleased
    have hresult : (id v).result (.ofStream s) key iv .decrypt = some plaintext := by
      unfold EvpView.result
      rw [htag]
      exact hplaintext
    obtain ⟨hok, hlen, htext, _⟩ :=
      streamFinal_of_result hopen h (hreleased tag plaintext hplaintext) hresult
    exact ⟨hok, hlen, htext⟩
  getTag v key iv n hccm hcipher hdir hkeyIv hfinished htag := by
    have hctrl := streamCtrl_getTag hcipher hkeyIv hdir hfinished h hccm htag
    exact ⟨congrArg Prod.fst hctrl, congrArg (·.2.1) hctrl⟩
  setTag v key iv tag _ hopen htag := by
    have hctrl := streamCtrl_setTag hopen h htag
    exact ⟨congrArg Prod.fst hctrl, congrArg (·.2.2) hctrl⟩
  ccmAad dir v key iv aad hccm hopen hdeclared hne _ := by
    subst hccm
    exact streamUpdate_ccm hopen h (.inl ⟨rfl, hdeclared, hne⟩)
  ccmData v key iv data hccm hopen htag _ := by
    subst hccm
    exact streamUpdate_ccm hopen h (.inr ⟨rfl, rfl, htag⟩)

end StreamModes

end Scf
