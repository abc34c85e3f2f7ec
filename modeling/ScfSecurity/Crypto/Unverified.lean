import ScfSecurity.Crypto.Engine

/-!
# Plaintext before the tag is verified

`DecryptAEAD` decrypts into the buffer of its caller and sets `*plaintextLen`, and only then hands
over the tag and lets `EVP_DecryptFinal_ex` verify it. None of its exits takes back what was
written.

## Main definitions

- `DecryptOutput.Withheld`: the variables of the caller are as before, or cleared
- `VerifiedOrBlank`: what the functions of libcrypto answer where nothing is left behind

## Main results

- `decryptAEAD_withholds_iff`: when a failure leaves nothing behind
- `decryptAEAD_wrongTag`: what a wrong tag leaves behind
-/

namespace Scf

open Buffer

/-- The length and each byte are as before, or zero. -/
structure DecryptOutput.Withheld (before after : DecryptOutput) : Prop where
  plaintextLen : after.plaintextLen = before.plaintextLen ∨ after.plaintextLen = 0
  plaintext : ∀ i, after.plaintext i = before.plaintext i ∨ after.plaintext i = 0

/-- Only zeros were written. -/
def Blank (bytes : List UInt8) : Prop := ∀ b ∈ bytes, b = 0

/-- `EVP_CTRL_AEAD_SET_TAG` and `EVP_DecryptFinal_ex` accept the tag, or what was written until one
of the functions failed are zeros and a length of zero. -/
def VerifiedOrBlank (lib : LibEvp) (tag : List UInt8) (text : EvpOutput lib.Ctx) : Prop :=
  let set := lib.cipherCtxCtrl text.ctx .aeadSetTag (castInt tag.length) tag
  let rest := lib.finalEx .decrypt set.2.2
  if text.ok = false then Blank text.out
  else if set.1 = false then text.outl = 0 ∧ Blank text.out
  else rest.ok = true ∨ text.outl = 0 ∧ Blank (rest.out ++ text.out.drop rest.out.length)

/-! ### What is left behind -/

theorem store_withheld_iff (bytes : List UInt8) :
    (∀ (mem : ℕ → UInt8) i, store mem bytes i = mem i ∨ store mem bytes i = 0) ↔ Blank bytes := by
  constructor
  · intro h b hb
    obtain ⟨i, hi, rfl⟩ := List.mem_iff_getElem.mp hb
    -- the buffer of a caller who has cleared it shows every other byte
    have hcell := h (fun _ => 0) i
    rw [store_of_lt _ hi] at hcell
    exact hcell.elim id id
  · intro h mem i
    by_cases hi : i < bytes.length
    · right
      rw [store_of_lt mem hi]
      exact h _ (List.getElem_mem hi)
    · left
      exact store_of_le mem (Nat.not_lt.mp hi)

/-- A failure that has written a length and some bytes. -/
theorem withheld_iff (bytes : List UInt8) (len : ℕ) :
    (∀ out : DecryptOutput, out.Withheld ⟨store out.plaintext bytes, len⟩) ↔
      len = 0 ∧ Blank bytes := by
  constructor
  · intro h
    refine ⟨(h ⟨fun _ => 0, 0⟩).plaintextLen.elim id id, ?_⟩
    rw [← store_withheld_iff]
    exact fun mem => (h ⟨mem, 0⟩).plaintext
  · rintro ⟨rfl, hblank⟩ out
    exact ⟨.inr rfl, (store_withheld_iff bytes).mpr hblank out.plaintext⟩

theorem decryptVerify_withholds_iff (lib : LibEvp) (tag : List UInt8) (text : EvpOutput lib.Ctx) :
    (∀ out, (decryptVerify lib tag text out).1 = false →
        out.Withheld (decryptVerify lib tag text out).2) ↔
      VerifiedOrBlank lib tag text := by
  unfold decryptVerify VerifiedOrBlank
  dsimp only
  cases htext : text.ok with
  | false =>
    simp only [Bool.not_false, if_true, true_imp_iff]
    rw [← store_withheld_iff]
    constructor
    · exact fun h mem => (h ⟨mem, 0⟩).plaintext
    · exact fun h out => ⟨.inl rfl, h out.plaintext⟩
  | true =>
    cases hset : (lib.cipherCtxCtrl text.ctx .aeadSetTag (castInt tag.length) tag).1 with
    | false =>
      simp only [Bool.not_true, Bool.not_false, Bool.false_eq_true, if_true, if_false,
        true_imp_iff, Bool.true_eq_false]
      exact withheld_iff text.out text.outl
    | true =>
      set ctx := (lib.cipherCtxCtrl text.ctx .aeadSetTag (castInt tag.length) tag).2.2
      cases hrest : (lib.finalEx .decrypt ctx).ok with
      | true => simp
      | false =>
        simp only [Bool.not_true, Bool.not_false, Bool.false_eq_true, if_true, if_false,
          true_imp_iff, Bool.true_eq_false, false_or]
        by_cases houtl : text.outl = 0
        · simp only [houtl, storeAt_zero, store_store]
          exact (withheld_iff _ 0).trans (by rw [eq_self])
        · refine iff_of_false (fun h => houtl ?_) fun h => houtl h.1
          exact (h ⟨fun _ => 0, 0⟩).plaintextLen.elim id id

/-- A failed decryption leaves nothing in the variables of the caller exactly if it did not come to
the text, or the tag was accepted, or nothing but zeros had been written. -/
theorem decryptAEAD_withholds_iff (lib : LibEvp) (algo : SymmetricAlgorithm)
    (key iv ciphertext : List UInt8) (aad : Option (List UInt8)) (tag : List UInt8) :
    (∀ out, (decryptAEAD lib algo key iv ciphertext aad tag out).1 = false →
        out.Withheld (decryptAEAD lib algo key iv ciphertext aad tag out).2) ↔
      ∀ text ∈ evpText lib .decrypt algo key iv aad ciphertext, VerifiedOrBlank lib tag text := by
  simp only [decryptAEAD_eq]
  cases evpText lib .decrypt algo key iv aad ciphertext with
  | none => simpa using fun out => ⟨.inl rfl, fun _ => .inl rfl⟩
  | some text =>
    simp only [Option.mem_some_iff, forall_eq']
    exact decryptVerify_withholds_iff lib tag text

/-! ### A wrong tag -/

/-- Every bit of the tag is wrong. -/
def invertTag (tag : List UInt8) : List UInt8 := tag.map (255 ^^^ ·)

theorem invertTag_ne {tag : List UInt8} (h : tag ≠ []) : invertTag tag ≠ tag := by
  obtain ⟨b, rest, rfl⟩ := List.exists_cons_of_ne_nil h
  intro heq
  have hhead : 255 ^^^ b = b := (List.cons.inj heq).1
  have hzero : (255 : UInt8) = 0 := by
    rw [← @UInt8.xor_self b]
    nth_rewrite 1 [← hhead]
    rw [UInt8.xor_assoc, UInt8.xor_self, UInt8.xor_zero]
  cases hzero

section StreamModes

variable {modes : EvpCipher → Option Aead.Stream} {s : Aead.Stream} {algo : SymmetricAlgorithm}
  {cipher : EvpCipher} {key iv ciphertext : List UInt8} {aad : Option (List UInt8)}

/-- A stream mode writes the whole text at once. -/
theorem evpText_streamEvp (h : modes cipher = some s) (hccm : cipher ≠ .aes128Ccm)
    (halgo : mapSymmetricAlgo algo = some cipher) {tagLen : ℕ}
    (hadm : AeadAdmissible (.ofStream s) key iv ciphertext aad tagLen) :
    let text := Aead.xorBytes ciphertext (s.keystream key iv ciphertext.length)
    evpText (streamEvp modes) .decrypt algo key iv aad ciphertext =
      some ⟨true, text, text.length, { EvpView.start cipher .decrypt key iv with
        aad := aad.getD [], data := ciphertext, out := text }⟩ := by
  have hlib : (streamEvp modes).Implements cipher (.ofStream s) id := implements_streamEvp h
  obtain ⟨ctx, hnew, hctx⟩ := hlib.new
  obtain ⟨ctx₁, hsetup, hstart⟩ := evpSetup_spec hlib .decrypt hctx hadm.keyLength hadm.ivLength
    hadm.iv_le
  obtain ⟨ctx₂, haad, hview⟩ := evpAad_spec hlib hccm hstart hadm.aad_le
  rw [id_eq] at hview
  have hopen : EvpView.Open ctx₂ cipher .decrypt key iv := by
    rw [hview]
    exact ⟨rfl, rfl, rfl, rfl⟩
  intro text
  rw [evpText_eq_some_iff]
  refine ⟨cipher, ctx, ctx₁, ctx₂, halgo, hnew, hsetup, haad, hadm.data_le, ?_⟩
  rw [castInt_of_le hadm.data_le]
  refine (streamUpdate_data hopen h hccm ciphertext).trans ?_
  rw [hview]
  rfl

/-- With a wrong tag the caller is left with the text that was not authenticated. -/
theorem decryptAEAD_wrongTag (h : modes cipher = some s) (hccm : cipher ≠ .aes128Ccm)
    (halgo : mapSymmetricAlgo algo = some cipher) {tag : List UInt8}
    (hadm : AeadAdmissible (.ofStream s) key iv ciphertext aad tag.length)
    (htag : (Aead.ofStream s).decrypt key iv (aad.getD []) ciphertext tag = none)
    (out : DecryptOutput) :
    let text := Aead.xorBytes ciphertext (s.keystream key iv ciphertext.length)
    decryptAEAD (streamEvp modes) algo key iv ciphertext aad tag out =
      (false, ⟨store out.plaintext text, text.length⟩) := by
  intro text
  have htext := evpText_streamEvp h hccm halgo hadm
  dsimp only at htext
  rw [decryptAEAD_eq, htext]
  dsimp only
  set v : EvpView := { EvpView.start cipher .decrypt key iv with
    aad := aad.getD [], data := ciphertext, out := text }
  have hopen : v.Open cipher .decrypt key iv := ⟨rfl, rfl, rfl, rfl⟩
  have hset := streamCtrl_setTag hopen h hadm.tagLength
  have hrest : streamFinal modes .decrypt { v with tag := some tag } =
      ⟨false, [], 0, { v with tag := some tag }⟩ := by
    have hresult : { v with tag := some tag }.result (.ofStream s) key iv .decrypt = none := htag
    rw [streamFinal, EvpView.mode_of_keyIv rfl rfl h]
    dsimp only
    rw [hresult]
  simp only [decryptVerify, streamEvp, castInt_of_le hadm.tag_le, hset, hrest, Bool.not_true,
    Bool.not_false, Bool.false_eq_true, if_false, if_true, storeAt_nil]
  rfl

end StreamModes

/-- The ciphertext of `Test` under a key of zeros. -/
def sealedTest : List UInt8 := (Aead.ofStream Aes.gcm).encrypt zeroKey zeroIv [] (ascii "Test")

/-- A tag of 16 bytes, all of them wrong. -/
def invalidTag : List UInt8 := invertTag (Aes.gcm.tag zeroKey zeroIv [] (ascii "Test") 16)

theorem length_sealedTest : sealedTest.length = 4 := (Aead.ofStream Aes.gcm).length_encrypt _ _ _ _

theorem length_invalidTag : invalidTag.length = 16 := by
  rw [invalidTag, invertTag, List.length_map]
  exact Aes.gcm.length_tag _ _ _ _ _ rfl

/-- The text that the key stream gives back. -/
theorem xorBytes_sealedTest :
    Aead.xorBytes sealedTest (Aes.gcm.keystream zeroKey zeroIv sealedTest.length) =
      ascii "Test" := by
  rw [length_sealedTest]
  exact Aead.xorBytes_xorBytes_self (Nat.le_of_eq (Aes.gcm.length_keystream _ _ _).symm)

theorem decrypt_invalidTag :
    (Aead.ofStream Aes.gcm).decrypt zeroKey zeroIv [] sealedTest invalidTag = none := by
  have hne : Aes.gcm.tag zeroKey zeroIv [] (ascii "Test") 16 ≠ invalidTag := by
    refine (invertTag_ne fun hnil => ?_).symm
    have hlength := Aes.gcm.length_tag zeroKey zeroIv [] (ascii "Test") 16 rfl
    rw [hnil] at hlength
    cases hlength
  simp only [Aead.ofStream]
  rw [xorBytes_sealedTest, length_invalidTag, if_neg hne]

theorem admissible_sealedTest :
    AeadAdmissible (.ofStream Aes.gcm) zeroKey zeroIv sealedTest none invalidTag.length where
  keyLength := rfl
  ivLength := rfl
  iv_le := by decide
  dataLength := by rw [length_sealedTest]; rfl
  data_le := by rw [length_sealedTest]; decide
  aad_le := by decide
  tagLength := by rw [length_invalidTag]; rfl
  tag_le := by rw [length_invalidTag]; decide

/-- A decryption with a wrong tag fails, and `Test` is in the buffer of the caller. -/
theorem decryptAEAD_releases :
    let opened := decryptAEAD (streamEvp aesModes) .aes128Gcm zeroKey zeroIv sealedTest none
      invalidTag ⟨fun _ => 0, 0⟩
    opened.1 = false ∧ opened.2.plaintextLen = 4 ∧ read opened.2.plaintext 4 = ascii "Test" ∧
      ¬ DecryptOutput.Withheld ⟨fun _ => 0, 0⟩ opened.2 := by
  have hmode : aesModes .aes128Gcm = some Aes.gcm := rfl
  have halgo : mapSymmetricAlgo .aes128Gcm = some .aes128Gcm := rfl
  have hopened := decryptAEAD_wrongTag hmode (by decide) halgo admissible_sealedTest
    decrypt_invalidTag ⟨fun _ => 0, 0⟩
  dsimp only at hopened
  rw [xorBytes_sealedTest] at hopened
  intro opened
  rw [show opened = _ from hopened]
  refine ⟨rfl, rfl, by decide, fun hwithheld => ?_⟩
  exact absurd hwithheld.plaintextLen (by decide)

end Scf
