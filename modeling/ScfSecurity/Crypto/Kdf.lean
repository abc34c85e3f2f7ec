import ScfSecurity.Crypto.Engine

/-!
# Message authentication and key derivation of the software engine

`HMAC`, `HKDFExtract`, `HKDFExpand` and `RandomBytes` of `DefaultSoftwareCryptoEngine`. Lengths are
`size_t` at the interface and `int` in most functions of libcrypto; each model function has beside
it the list of the lengths that reach libcrypto as an `int`, in the order of the calls.

## Main definitions

- `LibKdf`: the functions of libcrypto
- `PassedLength`: a length of the caller and the `int` that libcrypto is given for it
- `hmac`, `hkdfExtract`, `hkdfExpand`, `randomBytes`: the functions of the engine
-/

namespace Scf

open Buffer

/-- The digests of libcrypto that the engine uses. -/
inductive EvpMd where
  | sha256
  | sha384
  | sha512
deriving DecidableEq, Repr

/-- `MapHashAlgo`. -/
def mapHashAlgo : HashAlgorithm → Option EvpMd
  | .sha256 => some .sha256
  | .sha384 => some .sha384
  | .sha512 => some .sha512
  | .sm3 => none
  | .custom => none

/-- `EVP_PKEY_HKDEF_MODE_EXTRACT_ONLY` and `EVP_PKEY_HKDEF_MODE_EXPAND_ONLY`. -/
inductive HkdfMode where
  | extractOnly
  | expandOnly
deriving DecidableEq, Repr

/-- What a function gives that fills a buffer: whether it succeeds, the bytes it writes, and the
length it reports. -/
structure BufferOutput where
  ok : Bool
  out : List UInt8
  outLen : ℕ

/-- The functions of libcrypto, with those of `EVP_PKEY_CTX` for HKDF behind `LibCryptoApi`. A
buffer that is read is the list of its bytes; lengths of type `int` are integers. -/
structure LibKdf where
  Ctx : Type
  pkeyCtxNewId : Option Ctx
  pkeyDeriveInit (ctx : Ctx) : Bool × Ctx
  setHkdfMd (ctx : Ctx) (md : EvpMd) : Bool × Ctx
  setHkdfSalt (ctx : Ctx) (salt : List UInt8) (saltLen : ℤ) : Bool × Ctx
  setHkdfKey (ctx : Ctx) (key : List UInt8) (keyLen : ℤ) : Bool × Ctx
  addHkdfInfo (ctx : Ctx) (info : List UInt8) (infoLen : ℤ) : Bool × Ctx
  setHkdfMode (ctx : Ctx) (mode : HkdfMode) : Bool × Ctx
  pkeyDerive (ctx : Ctx) (keyLen : ℕ) : BufferOutput
  mdGetSize (md : EvpMd) : ℤ
  hmac (md : EvpMd) (key : List UInt8) (keyLen : ℤ) (data : List UInt8) : BufferOutput
  randBytes (num : ℤ) : BufferOutput

/-- A length of the caller and the `int` that libcrypto is given for it. -/
structure PassedLength where
  length : ℕ
  passed : ℤ
deriving DecidableEq

/-- A length that is converted. -/
def PassedLength.cast (n : ℕ) : PassedLength := ⟨n, castInt n⟩

/-- A length that reaches libcrypto as it is. -/
def PassedLength.exact (n : ℕ) : PassedLength := ⟨n, n⟩

/-- The variables that a function writes: a buffer and, where there is one, its length. -/
structure KdfOutput where
  buffer : ℕ → UInt8
  len : ℕ

/-! ### Sequences of calls -/

/-- One call on a context, with the length it passes. -/
structure CtxCall (Ctx : Type) where
  run : Ctx → Bool × Ctx
  length : Option PassedLength

/-- A call that passes a length. -/
def CtxCall.withLength {Ctx : Type} (f : Ctx → ℤ → Bool × Ctx) (n : ℕ) : CtxCall Ctx :=
  ⟨fun ctx => f ctx (castInt n), some (.cast n)⟩

/-- Calls one after the other, until one fails. -/
def runCalls {Ctx : Type} : List (CtxCall Ctx) → Ctx → Option Ctx
  | [], ctx => some ctx
  | call :: calls, ctx =>
    let (ok, ctx) := call.run ctx
    if !ok then none else runCalls calls ctx

/-- The lengths that these calls pass. -/
def runCallsLengths {Ctx : Type} : List (CtxCall Ctx) → Ctx → List PassedLength
  | [], _ => []
  | call :: calls, ctx =>
    let (ok, ctx) := call.run ctx
    call.length.toList ++ if !ok then [] else runCallsLengths calls ctx

/-- If no call fails, all of them pass their lengths. -/
theorem runCallsLengths_of_some {Ctx : Type} {calls : List (CtxCall Ctx)} {ctx ctx' : Ctx}
    (h : runCalls calls ctx = some ctx') :
    runCallsLengths calls ctx = calls.filterMap CtxCall.length := by
  induction calls generalizing ctx with
  | nil => rfl
  | cons call calls ih =>
    simp only [runCalls] at h
    have hok : (call.run ctx).1 = true := by
      by_contra hfail
      simp [hfail] at h
    rw [hok, Bool.not_true, if_neg Bool.false_ne_true] at h
    simp only [runCallsLengths, hok, Bool.not_true, Bool.false_eq_true, if_false, ih h,
      List.filterMap_cons]
    cases call.length with
    | none => rfl
    | some n => rfl

/-! ### The functions -/

/-- `DefaultSoftwareCryptoEngine::HMAC`. The length of the data is a `size_t` in libcrypto too. -/
def hmac (lib : LibKdf) (algo : HashAlgorithm) (key data : List UInt8) (out : KdfOutput) :
    Bool × KdfOutput :=
  if intMax < key.length then (false, out)
  else
    match mapHashAlgo algo with
    | none => (false, out)
    | some md =>
      let answer := lib.hmac md key (castInt key.length) data
      let out := { out with buffer := store out.buffer answer.out }
      if !answer.ok then (false, out) else (true, { out with len := answer.outLen })

def hmacLengths (algo : HashAlgorithm) (key : List UInt8) : List PassedLength :=
  if intMax < key.length then []
  else
    match mapHashAlgo algo with
    | none => []
    | some _ => [.cast key.length]

/-- The common beginning of `HKDFExtract` and `HKDFExpand`: the digest, and a context on which the
calls have succeeded. -/
def hkdfContext (lib : LibKdf) (algo : HashAlgorithm) (calls : EvpMd → List (CtxCall lib.Ctx)) :
    Option (EvpMd × lib.Ctx) :=
  match mapHashAlgo algo, lib.pkeyCtxNewId with
  | some md, some pctx => (runCalls (calls md) pctx).map fun pctx => (md, pctx)
  | _, _ => none

def hkdfContextLengths (lib : LibKdf) (algo : HashAlgorithm)
    (calls : EvpMd → List (CtxCall lib.Ctx)) : List PassedLength :=
  match mapHashAlgo algo, lib.pkeyCtxNewId with
  | some md, some pctx => runCallsLengths (calls md) pctx
  | _, _ => []

theorem hkdfContextLengths_of_some {lib : LibKdf} {algo : HashAlgorithm}
    {calls : EvpMd → List (CtxCall lib.Ctx)} {md : EvpMd} {pctx : lib.Ctx}
    (h : hkdfContext lib algo calls = some (md, pctx)) :
    mapHashAlgo algo = some md ∧
      hkdfContextLengths lib algo calls = (calls md).filterMap CtxCall.length := by
  unfold hkdfContext at h
  unfold hkdfContextLengths
  cases halgo : mapHashAlgo algo with
  | none =>
    rw [halgo] at h
    cases h
  | some md' =>
    cases hnew : lib.pkeyCtxNewId with
    | none =>
      rw [halgo, hnew] at h
      cases h
    | some pctx' =>
      simp only [halgo, hnew, Option.map_eq_some_iff] at h
      obtain ⟨pctx'', hcalls, heq⟩ := h
      obtain ⟨rfl, -⟩ := Prod.mk.inj heq
      exact ⟨rfl, runCallsLengths_of_some hcalls⟩

/-- The calls of `HKDFExtract` before the derivation. -/
def hkdfExtractCalls (lib : LibKdf) (salt ikm : List UInt8) (md : EvpMd) :
    List (CtxCall lib.Ctx) :=
  [⟨lib.pkeyDeriveInit, none⟩,
    ⟨fun ctx => lib.setHkdfMd ctx md, none⟩,
    .withLength (fun ctx saltLen => lib.setHkdfSalt ctx salt saltLen) salt.length,
    .withLength (fun ctx keyLen => lib.setHkdfKey ctx ikm keyLen) ikm.length,
    ⟨fun ctx => lib.setHkdfMode ctx .extractOnly, none⟩]

/-- `DefaultSoftwareCryptoEngine::HKDFExtract`. -/
def hkdfExtract (lib : LibKdf) (algo : HashAlgorithm) (salt ikm : List UInt8) (out : KdfOutput) :
    Bool × KdfOutput :=
  match hkdfContext lib algo (hkdfExtractCalls lib salt ikm) with
  | none => (false, out)
  | some (md, pctx) =>
    let digestSize := lib.mdGetSize md
    if digestSize ≤ 0 then (false, out)
    else
      let answer := lib.pkeyDerive pctx digestSize.toNat
      let out := { out with buffer := store out.buffer answer.out }
      if !answer.ok then (false, out) else (true, { out with len := answer.outLen })

/-- The calls of `HKDFExpand` before the derivation. -/
def hkdfExpandCalls (lib : LibKdf) (prk info : List UInt8) (md : EvpMd) :
    List (CtxCall lib.Ctx) :=
  [⟨lib.pkeyDeriveInit, none⟩,
    ⟨fun ctx => lib.setHkdfMd ctx md, none⟩,
    .withLength (fun ctx keyLen => lib.setHkdfKey ctx prk keyLen) prk.length,
    .withLength (fun ctx infoLen => lib.addHkdfInfo ctx info infoLen) info.length,
    ⟨fun ctx => lib.setHkdfMode ctx .expandOnly, none⟩]

/-- `DefaultSoftwareCryptoEngine::HKDFExpand`. The length of the output is not reported. -/
def hkdfExpand (lib : LibKdf) (algo : HashAlgorithm) (prk info : List UInt8) (okmLen : ℕ)
    (okm : ℕ → UInt8) : Bool × (ℕ → UInt8) :=
  match hkdfContext lib algo (hkdfExpandCalls lib prk info) with
  | none => (false, okm)
  | some (_, pctx) =>
    let answer := lib.pkeyDerive pctx okmLen
    (answer.ok, store okm answer.out)

/-- `DefaultSoftwareCryptoEngine::RandomBytes`. -/
def randomBytes (lib : LibKdf) (len : ℕ) (buffer : ℕ → UInt8) : Bool × (ℕ → UInt8) :=
  if intMax < len then (false, buffer)
  else
    let answer := lib.randBytes (castInt len)
    (answer.ok, store buffer answer.out)

def randomBytesLengths (len : ℕ) : List PassedLength :=
  if intMax < len then [] else [.cast len]

end Scf
