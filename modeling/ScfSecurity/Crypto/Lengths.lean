import ScfSecurity.Crypto.Kdf

/-!
# Lengths on their way to libcrypto

The software engine takes lengths as `size_t` and hands most of them to libcrypto as `int`. Some are
compared with `INT_MAX` before they are converted, the others lose all but their lowest 32 bits.

## Main definitions

- `EngineCall`: a call of the engine, with its arguments
- `EngineCall.lengths`: the lengths that reach libcrypto during a call
- `EngineCall.LengthsExact`: a call that succeeds has passed its lengths as they are

## Main results

- `EngineCall.lengths_of_succeeds`: what a call that succeeds has passed
- `lengthsExact_iff`: when all lengths are passed as they are
-/

namespace Scf

open Buffer

/-! ### What reaches libcrypto -/

/-- The length of the initialisation vector, if the cipher is accepted. -/
def evpSetupLengths (lib : LibEvp) (dir : EvpDirection) (ctx : lib.Ctx) (cipher : EvpCipher)
    (iv : List UInt8) : List PassedLength :=
  if !(lib.initEx dir ctx (some cipher) none none).1 then [] else [.cast iv.length]

/-- The length of the associated data, if there are any. -/
def aadInts : Option (List UInt8) → List ℕ
  | none => []
  | some aad => if 0 < aad.length then [aad.length] else []

/-- The lengths that `EncryptAEAD` and `DecryptAEAD` pass up to the text, in the order of the
calls. -/
def evpTextLengths (lib : LibEvp) (dir : EvpDirection) (algo : SymmetricAlgorithm)
    (key iv : List UInt8) (aad : Option (List UInt8)) (data : List UInt8) : List PassedLength :=
  match mapSymmetricAlgo algo, lib.cipherCtxNew with
  | some cipher, some ctx =>
    evpSetupLengths lib dir ctx cipher iv ++
      match evpSetup lib dir ctx cipher key iv with
      | none => []
      | some ctx =>
        (aadInts aad).map .cast ++
          match evpAad lib dir ctx aad with
          | none => []
          | some _ => if intMax < data.length then [] else [.cast data.length]
  | _, _ => []

/-- The lengths that `EncryptAEAD` passes. -/
def encryptAEADLengths (lib : LibEvp) (algo : SymmetricAlgorithm) (key iv plaintext : List UInt8)
    (aad : Option (List UInt8)) (tagLen : ℕ) : List PassedLength :=
  evpTextLengths lib .encrypt algo key iv aad plaintext ++
    match evpText lib .encrypt algo key iv aad plaintext with
    | none => []
    | some text =>
      if !text.ok then []
      else if !(lib.finalEx .encrypt text.ctx).ok then [] else [.cast tagLen]

/-- The lengths that `DecryptAEAD` passes. -/
def decryptAEADLengths (lib : LibEvp) (algo : SymmetricAlgorithm) (key iv ciphertext : List UInt8)
    (aad : Option (List UInt8)) (tag : List UInt8) : List PassedLength :=
  evpTextLengths lib .decrypt algo key iv aad ciphertext ++
    match evpText lib .decrypt algo key iv aad ciphertext with
    | none => []
    | some text => if !text.ok then [] else [.cast tag.length]

/-- libcrypto, as the engine uses it. -/
structure CryptoLib where
  evp : LibEvp
  kdf : LibKdf

/-- A call of the engine, with what its output variables have before it. -/
inductive EngineCall where
  | encryptAEAD (algo : SymmetricAlgorithm) (key iv plaintext : List UInt8)
      (aad : Option (List UInt8)) (tagLen : ℕ) (out : EncryptOutput)
  | decryptAEAD (algo : SymmetricAlgorithm) (key iv ciphertext : List UInt8)
      (aad : Option (List UInt8)) (tag : List UInt8) (out : DecryptOutput)
  | hmac (algo : HashAlgorithm) (key data : List UInt8) (out : KdfOutput)
  | hkdfExtract (algo : HashAlgorithm) (salt ikm : List UInt8) (out : KdfOutput)
  | hkdfExpand (algo : HashAlgorithm) (prk info : List UInt8) (okmLen : ℕ) (okm : ℕ → UInt8)
  | randomBytes (len : ℕ) (buffer : ℕ → UInt8)

namespace EngineCall

/-- What the call returns. -/
def succeeds (lib : CryptoLib) : EngineCall → Bool
  | encryptAEAD algo key iv plaintext aad tagLen out =>
    (Scf.encryptAEAD lib.evp algo key iv plaintext aad tagLen out).1
  | decryptAEAD algo key iv ciphertext aad tag out =>
    (Scf.decryptAEAD lib.evp algo key iv ciphertext aad tag out).1
  | hmac algo key data out => (Scf.hmac lib.kdf algo key data out).1
  | hkdfExtract algo salt ikm out => (Scf.hkdfExtract lib.kdf algo salt ikm out).1
  | hkdfExpand algo prk info okmLen okm => (Scf.hkdfExpand lib.kdf algo prk info okmLen okm).1
  | randomBytes len buffer => (Scf.randomBytes lib.kdf len buffer).1

/-- The lengths that reach libcrypto as an `int` during the call. -/
def lengths (lib : CryptoLib) : EngineCall → List PassedLength
  | encryptAEAD algo key iv plaintext aad tagLen _ =>
    encryptAEADLengths lib.evp algo key iv plaintext aad tagLen
  | decryptAEAD algo key iv ciphertext aad tag _ =>
    decryptAEADLengths lib.evp algo key iv ciphertext aad tag
  | hmac algo key _ _ => hmacLengths algo key
  | hkdfExtract algo salt ikm _ =>
    hkdfContextLengths lib.kdf algo (hkdfExtractCalls lib.kdf salt ikm)
  | hkdfExpand algo prk info _ _ =>
    hkdfContextLengths lib.kdf algo (hkdfExpandCalls lib.kdf prk info)
  | randomBytes len _ => randomBytesLengths len

/-- The arguments of the call that have a length of type `int` in libcrypto. -/
def ints : EngineCall → List ℕ
  | encryptAEAD _ _ iv plaintext aad tagLen _ =>
    iv.length :: (aadInts aad ++ [plaintext.length, tagLen])
  | decryptAEAD _ _ iv ciphertext aad tag _ =>
    iv.length :: (aadInts aad ++ [ciphertext.length, tag.length])
  | hmac _ key _ _ => [key.length]
  | hkdfExtract _ salt ikm _ => [salt.length, ikm.length]
  | hkdfExpand _ prk info _ _ => [prk.length, info.length]
  | randomBytes len _ => [len]

/-- The engine itself refuses the call: it does not know the algorithm, or a length that it compares
with `INT_MAX` is longer. -/
def Refused : EngineCall → Prop
  | encryptAEAD algo _ _ plaintext _ _ _ =>
    mapSymmetricAlgo algo = none ∨ intMax < plaintext.length
  | decryptAEAD algo _ _ ciphertext _ _ _ =>
    mapSymmetricAlgo algo = none ∨ intMax < ciphertext.length
  | hmac algo key _ _ => mapHashAlgo algo = none ∨ intMax < key.length
  | hkdfExtract algo _ _ _ => mapHashAlgo algo = none
  | hkdfExpand algo _ _ _ _ => mapHashAlgo algo = none
  | randomBytes len _ => intMax < len

/-- The associated data of the call. -/
def aad : EngineCall → Option (List UInt8)
  | encryptAEAD _ _ _ _ aad _ _ => aad
  | decryptAEAD _ _ _ _ aad _ _ => aad
  | _ => none

/-- The call with other associated data. -/
def withAad (aad : List UInt8) : EngineCall → EngineCall
  | encryptAEAD algo key iv plaintext _ tagLen out =>
    encryptAEAD algo key iv plaintext (some aad) tagLen out
  | decryptAEAD algo key iv ciphertext _ tag out =>
    decryptAEAD algo key iv ciphertext (some aad) tag out
  | call => call

/-- Each length has reached libcrypto as it is, or the call fails. -/
def LengthsExact (lib : CryptoLib) (call : EngineCall) : Prop :=
  call.succeeds lib = true → call.lengths lib = call.ints.map .exact

/-- The associated data that libcrypto authenticates: as many bytes as the `int` says. -/
def authenticated (aad : List UInt8) : List UInt8 := aad.take (castInt aad.length).toNat

/-- No shorter associated data are authenticated as the same bytes. -/
def AadsDistinct (lib : CryptoLib) (call : EngineCall) : Prop :=
  ∀ aad ∈ call.aad, ∀ aad' : List UInt8, aad'.length < aad.length →
    call.succeeds lib = true → (call.withAad aad').succeeds lib = true →
      authenticated aad' ≠ authenticated aad

end EngineCall

/-! ### Calls that succeed -/

theorem evpSetupLengths_of_some {lib : LibEvp} {dir : EvpDirection} {ctx ctx' : lib.Ctx}
    {cipher : EvpCipher} {key iv : List UInt8}
    (h : evpSetup lib dir ctx cipher key iv = some ctx') :
    evpSetupLengths lib dir ctx cipher iv = [.cast iv.length] := by
  unfold evpSetup at h
  unfold evpSetupLengths
  cases hinit : (lib.initEx dir ctx (some cipher) none none).1 with
  | false => simp [hinit] at h
  | true => rfl

/-- A call that comes to its text has an algorithm and a text that the engine accepts, and has
passed the lengths so far. -/
theorem evpTextLengths_of_some {lib : LibEvp} {dir : EvpDirection} {algo : SymmetricAlgorithm}
    {key iv data : List UInt8} {aad : Option (List UInt8)} {text : EvpOutput lib.Ctx}
    (h : evpText lib dir algo key iv aad data = some text) :
    ¬ (mapSymmetricAlgo algo = none ∨ intMax < data.length) ∧
      evpTextLengths lib dir algo key iv aad data =
        (iv.length :: (aadInts aad ++ [data.length])).map .cast := by
  obtain ⟨cipher, ctx, ctx₁, ctx₂, halgo, hnew, hsetup, haad, hlen, -⟩ :=
    (evpText_eq_some_iff lib dir algo key iv aad data text).mp h
  constructor
  · rw [halgo, not_or]
    exact ⟨Option.some_ne_none cipher, Nat.not_lt.mpr hlen⟩
  · unfold evpTextLengths
    rw [halgo, hnew]
    dsimp only
    rw [evpSetupLengths_of_some hsetup, hsetup]
    dsimp only
    rw [haad]
    dsimp only
    rw [if_neg (Nat.not_lt.mpr hlen), List.map_cons, List.map_append]
    rfl

/-- `EncryptAEAD` succeeds only after it has passed all lengths. -/
theorem encryptAEAD_lengths {lib : LibEvp} {algo : SymmetricAlgorithm}
    {key iv plaintext : List UInt8} {aad : Option (List UInt8)} {tagLen : ℕ} {out : EncryptOutput}
    (h : (encryptAEAD lib algo key iv plaintext aad tagLen out).1 = true) :
    ¬ (mapSymmetricAlgo algo = none ∨ intMax < plaintext.length) ∧
      encryptAEADLengths lib algo key iv plaintext aad tagLen =
        (iv.length :: (aadInts aad ++ [plaintext.length, tagLen])).map .cast := by
  rw [encryptAEAD_eq] at h
  cases htext : evpText lib .encrypt algo key iv aad plaintext with
  | none =>
    rw [htext] at h
    cases h
  | some text =>
    rw [htext] at h
    obtain ⟨haccepted, hlengths⟩ := evpTextLengths_of_some htext
    refine ⟨haccepted, ?_⟩
    simp only [encryptFinish] at h
    have hok : text.ok = true := by
      by_contra hfail
      rw [Bool.not_eq_true] at hfail
      simp [hfail] at h
    have hrest : (lib.finalEx .encrypt text.ctx).ok = true := by
      by_contra hfail
      rw [Bool.not_eq_true] at hfail
      simp [hok, hfail] at h
    simp [encryptAEADLengths, htext, hlengths, hok, hrest]

/-- `DecryptAEAD` succeeds only after it has passed all lengths. -/
theorem decryptAEAD_lengths {lib : LibEvp} {algo : SymmetricAlgorithm}
    {key iv ciphertext tag : List UInt8} {aad : Option (List UInt8)} {out : DecryptOutput}
    (h : (decryptAEAD lib algo key iv ciphertext aad tag out).1 = true) :
    ¬ (mapSymmetricAlgo algo = none ∨ intMax < ciphertext.length) ∧
      decryptAEADLengths lib algo key iv ciphertext aad tag =
        (iv.length :: (aadInts aad ++ [ciphertext.length, tag.length])).map .cast := by
  rw [decryptAEAD_eq] at h
  cases htext : evpText lib .decrypt algo key iv aad ciphertext with
  | none =>
    rw [htext] at h
    cases h
  | some text =>
    rw [htext] at h
    obtain ⟨haccepted, hlengths⟩ := evpTextLengths_of_some htext
    refine ⟨haccepted, ?_⟩
    simp only [decryptVerify] at h
    have hok : text.ok = true := by
      by_contra hfail
      rw [Bool.not_eq_true] at hfail
      simp [hfail] at h
    simp [decryptAEADLengths, htext, hlengths, hok]

section Kdf

variable {lib : LibKdf} {algo : HashAlgorithm}

theorem hmac_lengths {key data : List UInt8} {out : KdfOutput}
    (h : (hmac lib algo key data out).1 = true) :
    ¬ (mapHashAlgo algo = none ∨ intMax < key.length) ∧
      hmacLengths algo key = [key.length].map .cast := by
  unfold hmac at h
  unfold hmacLengths
  by_cases hlen : intMax < key.length
  · rw [if_pos hlen] at h
    cases h
  · rw [if_neg hlen] at h ⊢
    cases halgo : mapHashAlgo algo with
    | none =>
      rw [halgo] at h
      cases h
    | some md => simp [hlen]

theorem hkdfExtract_lengths {salt ikm : List UInt8} {out : KdfOutput}
    (h : (hkdfExtract lib algo salt ikm out).1 = true) :
    ¬ mapHashAlgo algo = none ∧
      hkdfContextLengths lib algo (hkdfExtractCalls lib salt ikm) =
        [salt.length, ikm.length].map .cast := by
  unfold hkdfExtract at h
  cases hctx : hkdfContext lib algo (hkdfExtractCalls lib salt ikm) with
  | none =>
    rw [hctx] at h
    cases h
  | some ctx =>
    obtain ⟨halgo, hlengths⟩ := hkdfContextLengths_of_some hctx
    rw [halgo]
    exact ⟨Option.some_ne_none _, hlengths⟩

theorem hkdfExpand_lengths {prk info : List UInt8} {okmLen : ℕ} {okm : ℕ → UInt8}
    (h : (hkdfExpand lib algo prk info okmLen okm).1 = true) :
    ¬ mapHashAlgo algo = none ∧
      hkdfContextLengths lib algo (hkdfExpandCalls lib prk info) =
        [prk.length, info.length].map .cast := by
  unfold hkdfExpand at h
  cases hctx : hkdfContext lib algo (hkdfExpandCalls lib prk info) with
  | none =>
    rw [hctx] at h
    cases h
  | some ctx =>
    obtain ⟨halgo, hlengths⟩ := hkdfContextLengths_of_some hctx
    rw [halgo]
    exact ⟨Option.some_ne_none _, hlengths⟩

theorem randomBytes_lengths {len : ℕ} {buffer : ℕ → UInt8}
    (h : (randomBytes lib len buffer).1 = true) :
    ¬ intMax < len ∧ randomBytesLengths len = [len].map .cast := by
  unfold randomBytes at h
  unfold randomBytesLengths
  by_cases hlen : intMax < len
  · rw [if_pos hlen] at h
    cases h
  · exact ⟨hlen, if_neg hlen⟩

end Kdf

/-- A call that succeeds was not refused by the engine, and has passed all lengths, converted. -/
theorem EngineCall.lengths_of_succeeds {lib : CryptoLib} {call : EngineCall}
    (h : call.succeeds lib = true) :
    ¬ call.Refused ∧ call.lengths lib = call.ints.map .cast := by
  cases call with
  | encryptAEAD => exact encryptAEAD_lengths h
  | decryptAEAD => exact decryptAEAD_lengths h
  | hmac => exact hmac_lengths h
  | hkdfExtract => exact hkdfExtract_lengths h
  | hkdfExpand => exact hkdfExpand_lengths h
  | randomBytes => exact randomBytes_lengths h

/-! ### Lengths that are passed as they are -/

/-- An `int` is at most `INT_MAX`. -/
theorem castInt_eq_self_iff (n : ℕ) : castInt n = n ↔ n ≤ intMax := by
  refine ⟨fun h => ?_, castInt_of_le⟩
  have hlt : castInt n < 2 ^ 31 := BitVec.toInt_lt
  rw [h] at hlt
  have hmax : intMax = 2 ^ 31 - 1 := rfl
  omega

theorem map_cast_eq_map_exact_iff (l : List ℕ) :
    l.map PassedLength.cast = l.map .exact ↔ ∀ n ∈ l, n ≤ intMax := by
  rw [List.map_inj_left]
  refine forall₂_congr fun n _ => ?_
  rw [← castInt_eq_self_iff, PassedLength.cast, PassedLength.exact, PassedLength.mk.injEq]
  exact and_iff_right rfl

/-- A libcrypto whose functions all succeed. -/
def acceptAll : CryptoLib where
  evp :=
    { Ctx := Unit
      cipherCtxNew := some ()
      initEx := fun _ _ _ _ _ => (true, ())
      cipherCtxCtrl := fun _ _ _ _ => (true, [], ())
      update := fun _ _ _ _ _ => ⟨true, [], 0, ()⟩
      finalEx := fun _ _ => ⟨true, [], 0, ()⟩ }
  kdf :=
    { Ctx := Unit
      pkeyCtxNewId := some ()
      pkeyDeriveInit := fun _ => (true, ())
      setHkdfMd := fun _ _ => (true, ())
      setHkdfSalt := fun _ _ _ => (true, ())
      setHkdfKey := fun _ _ _ => (true, ())
      addHkdfInfo := fun _ _ _ => (true, ())
      setHkdfMode := fun _ _ => (true, ())
      pkeyDerive := fun _ keyLen => ⟨true, [], keyLen⟩
      mdGetSize := fun _ => 32
      hmac := fun _ _ _ _ => ⟨true, [], 0⟩
      randBytes := fun _ => ⟨true, [], 0⟩ }

theorem evpText_acceptAll {algo : SymmetricAlgorithm} {data : List UInt8}
    (h : ¬ (mapSymmetricAlgo algo = none ∨ intMax < data.length)) (dir : EvpDirection)
    (key iv : List UInt8) (aad : Option (List UInt8)) :
    evpText acceptAll.evp dir algo key iv aad data = some ⟨true, [], 0, ()⟩ := by
  obtain ⟨halgo, hlen⟩ := not_or.mp h
  obtain ⟨cipher, hcipher⟩ := Option.ne_none_iff_exists'.mp halgo
  have haad : evpAad acceptAll.evp dir () aad = some () := by
    cases aad with
    | none => rfl
    | some aad => exact ite_self _
  rw [evpText_eq_some_iff]
  exact ⟨cipher, (), (), (), hcipher, rfl, rfl, haad, Nat.not_lt.mp hlen, rfl⟩

/-- What the engine does not refuse succeeds there. -/
theorem EngineCall.succeeds_acceptAll {call : EngineCall} (h : ¬ call.Refused) :
    call.succeeds acceptAll = true := by
  cases call with
  | encryptAEAD algo key iv plaintext aad tagLen out =>
    simp only [succeeds, encryptAEAD_eq, evpText_acceptAll h]
    rfl
  | decryptAEAD algo key iv ciphertext aad tag out =>
    simp only [succeeds, decryptAEAD_eq, evpText_acceptAll h]
    rfl
  | hmac algo key data out =>
    obtain ⟨halgo, hlen⟩ := not_or.mp h
    obtain ⟨md, hmd⟩ := Option.ne_none_iff_exists'.mp halgo
    simp only [succeeds, Scf.hmac, if_neg hlen, hmd]
    rfl
  | hkdfExtract algo salt ikm out =>
    obtain ⟨md, hmd⟩ := Option.ne_none_iff_exists'.mp h
    simp only [succeeds, Scf.hkdfExtract, hkdfContext, hmd]
    rfl
  | hkdfExpand algo prk info okmLen okm =>
    obtain ⟨md, hmd⟩ := Option.ne_none_iff_exists'.mp h
    simp only [succeeds, Scf.hkdfExpand, hkdfContext, hmd]
    rfl
  | randomBytes len buffer =>
    have hlen : ¬ intMax < len := h
    simp only [succeeds, Scf.randomBytes, if_neg hlen]
    rfl

/-- Associated data of at most `INT_MAX` bytes are authenticated as they are. -/
theorem EngineCall.authenticated_of_le {aad : List UInt8} (h : aad.length ≤ intMax) :
    authenticated aad = aad := by
  rw [authenticated, castInt_of_le h, Int.toNat_natCast, List.take_length]

theorem length_le_of_aadInts {aad : List UInt8} {l : List ℕ}
    (h : ∀ n ∈ aadInts (some aad) ++ l, n ≤ intMax) : aad.length ≤ intMax := by
  by_cases hpos : 0 < aad.length
  · refine h aad.length (List.mem_append_left _ ?_)
    rw [aadInts, if_pos hpos]
    exact List.mem_singleton.mpr rfl
  · omega

/-- The associated data of a call whose lengths all fit. -/
theorem EngineCall.aad_le {call : EngineCall} (h : ∀ n ∈ call.ints, n ≤ intMax) {aad : List UInt8}
    (haad : aad ∈ call.aad) : aad.length ≤ intMax := by
  cases call with
  | encryptAEAD algo key iv plaintext aad' tagLen out =>
    cases haad
    exact length_le_of_aadInts fun n hn => h n (List.mem_cons_of_mem _ hn)
  | decryptAEAD algo key iv ciphertext aad' tag out =>
    cases haad
    exact length_le_of_aadInts fun n hn => h n (List.mem_cons_of_mem _ hn)
  | hmac | hkdfExtract | hkdfExpand | randomBytes => cases haad

/-- Whatever libcrypto answers, a call that succeeds has passed its lengths as they are, and no
other associated data are authenticated in their place, exactly if the engine refuses the call or
all its lengths are at most `INT_MAX`. -/
theorem lengthsExact_iff (call : EngineCall) :
    (∀ lib, call.LengthsExact lib ∧ call.AadsDistinct lib) ↔
      call.Refused ∨ ∀ n ∈ call.ints, n ≤ intMax := by
  constructor
  · intro h
    by_cases hrefused : call.Refused
    · exact .inl hrefused
    · have hsucceeds := EngineCall.succeeds_acceptAll hrefused
      have hlengths := (h acceptAll).1 hsucceeds
      rw [(EngineCall.lengths_of_succeeds hsucceeds).2] at hlengths
      exact .inr ((map_cast_eq_map_exact_iff _).mp hlengths)
  · intro h lib
    have hle : call.succeeds lib = true → ∀ n ∈ call.ints, n ≤ intMax := fun hsucceeds =>
      h.resolve_left (EngineCall.lengths_of_succeeds hsucceeds).1
    constructor
    · intro hsucceeds
      rw [(EngineCall.lengths_of_succeeds hsucceeds).2]
      exact (map_cast_eq_map_exact_iff _).mpr (hle hsucceeds)
    · intro aad haad aad' hshorter hsucceeds _ heq
      have hlong := EngineCall.aad_le (hle hsucceeds) haad
      rw [EngineCall.authenticated_of_le hlong, EngineCall.authenticated_of_le (by omega)] at heq
      rw [heq] at hshorter
      exact Nat.lt_irrefl _ hshorter

/-! ### Associated data of more than four gigabytes -/

/-- A stream mode only looks at the bytes it is told of. -/
theorem evpAad_streamEvp_congr (modes : EvpCipher → Option Aead.Stream) (dir : EvpDirection)
    (v : EvpView) {aad aad' : List UInt8} (hpos : 0 < aad.length) (hpos' : 0 < aad'.length)
    (hint : castInt aad.length = castInt aad'.length)
    (hbytes : EngineCall.authenticated aad = EngineCall.authenticated aad') :
    evpAad (streamEvp modes) dir v (some aad) = evpAad (streamEvp modes) dir v (some aad') := by
  have hupdate : streamUpdate modes dir v .null (some aad) (castInt aad.length) =
      streamUpdate modes dir v .null (some aad') (castInt aad'.length) := by
    unfold EngineCall.authenticated at hbytes
    unfold streamUpdate
    rw [hint] at hbytes ⊢
    cases v.mode modes with
    | none => rfl
    | some mode =>
      dsimp only
      rw [hbytes]
  unfold evpAad
  dsimp only
  rw [if_pos hpos, if_pos hpos']
  show (if !(streamUpdate modes dir v .null (some aad) (castInt aad.length)).ok then none
    else some (streamUpdate modes dir v .null (some aad) (castInt aad.length)).ctx) = _
  rw [hupdate]
  rfl

/-- AES-GCM. The other functions are not used. -/
def gcmLib : CryptoLib := ⟨streamEvp aesModes, acceptAll.kdf⟩

/-- An encryption with these associated data. -/
def gcmCall (aad : List UInt8) : EngineCall :=
  .encryptAEAD .aes128Gcm zeroKey zeroIv (ascii "Test Message") (some aad) 16
    ⟨fun _ => 0, 0, fun _ => 0⟩

section Truncated

variable {aad aad' : List UInt8}

/-- Associated data that differ behind the bytes that AES-GCM is told of give the same ciphertext
and the same tag. -/
theorem encryptAEAD_gcm_congr (hpos : 0 < aad.length) (hpos' : 0 < aad'.length)
    (hint : castInt aad.length = castInt aad'.length)
    (hbytes : EngineCall.authenticated aad = EngineCall.authenticated aad')
    (out : EncryptOutput) :
    encryptAEAD gcmLib.evp .aes128Gcm zeroKey zeroIv (ascii "Test Message") (some aad) 16 out =
      encryptAEAD gcmLib.evp .aes128Gcm zeroKey zeroIv (ascii "Test Message") (some aad') 16
        out := by
  have hsame : ∀ v, evpAad gcmLib.evp .encrypt v (some aad) =
      evpAad gcmLib.evp .encrypt v (some aad') :=
    fun v => evpAad_streamEvp_congr aesModes .encrypt v hpos hpos' hint hbytes
  simp only [encryptAEAD_eq, evpText, hsame]

theorem implements_gcmLib : gcmLib.evp.Implements .aes128Gcm (.ofStream Aes.gcm) id :=
  implements_streamEvp rfl

theorem gcmCall_succeeds (hle : aad.length ≤ intMax) : (gcmCall aad).succeeds gcmLib = true := by
  have hadm : AeadAdmissible (.ofStream Aes.gcm) zeroKey zeroIv (ascii "Test Message")
      (some aad) 16 :=
    ⟨rfl, rfl, by decide, by decide, by decide, hle, rfl, by decide⟩
  exact (encryptAEAD_spec implements_gcmLib (by decide) rfl hadm _).1

/-- A call whose associated data are authenticated as shorter ones. -/
theorem gcmCall_truncated (hle : aad'.length ≤ intMax) (hpos : 0 < aad'.length)
    (hlong : intMax < aad.length) (hint : castInt aad.length = aad'.length)
    (hbytes : EngineCall.authenticated aad = aad') :
    (gcmCall aad).succeeds gcmLib = true ∧ ¬ (gcmCall aad).LengthsExact gcmLib ∧
      ¬ (gcmCall aad).AadsDistinct gcmLib := by
  have hshort := gcmCall_succeeds hle
  have hself := EngineCall.authenticated_of_le hle
  have hsucceeds : (gcmCall aad).succeeds gcmLib = true := by
    have hcongr := encryptAEAD_gcm_congr (by omega) hpos (hint.trans (castInt_of_le hle).symm)
      (hbytes.trans hself.symm) ⟨fun _ => 0, 0, fun _ => 0⟩
    exact (congrArg Prod.fst hcongr).trans hshort
  refine ⟨hsucceeds, ?_, ?_⟩
  · intro hexact
    have hlengths := hexact hsucceeds
    rw [(EngineCall.lengths_of_succeeds hsucceeds).2, map_cast_eq_map_exact_iff] at hlengths
    exact absurd (EngineCall.aad_le hlengths rfl) (Nat.not_le.mpr hlong)
  · intro hdistinct
    exact hdistinct aad rfl aad' (by omega) hsucceeds hshort (hself.trans hbytes.symm)

end Truncated

/-- Associated data of `2 ^ 32 + 8` bytes. -/
@[irreducible] def longAad : List UInt8 := List.replicate (2 ^ 32 + 8) 0

/-- Their first eight bytes. -/
def shortAad : List UInt8 := List.replicate 8 0

theorem length_longAad : longAad.length = 2 ^ 32 + 8 := by
  rw [longAad, List.length_replicate]

theorem castInt_longAad : castInt longAad.length = shortAad.length := by
  rw [length_longAad]
  decide

theorem authenticated_longAad : EngineCall.authenticated longAad = shortAad := by
  have hmin : min (Int.toNat shortAad.length) (2 ^ 32 + 8) = 8 := by decide
  rw [EngineCall.authenticated, castInt_longAad, longAad, List.take_replicate, hmin, shortAad]

/-- An encryption succeeds that authenticates only the first eight of `2 ^ 32 + 8` bytes. -/
theorem longAad_truncated :
    gcmLib.evp.Implements .aes128Gcm (.ofStream Aes.gcm) id ∧
      longAad.length = 2 ^ 32 + 8 ∧ (gcmCall longAad).succeeds gcmLib = true ∧
      ¬ (gcmCall longAad).LengthsExact gcmLib ∧ ¬ (gcmCall longAad).AadsDistinct gcmLib := by
  have hlong : intMax < longAad.length := by
    rw [length_longAad]
    decide
  exact ⟨implements_gcmLib, length_longAad,
    gcmCall_truncated (by decide) (by decide) hlong castInt_longAad authenticated_longAad⟩

end Scf
