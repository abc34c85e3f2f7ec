import Mathlib.Algebra.Group.Nat.Defs
import ScfSecurity.Library.Aead

/-!
# AES with 128-bit keys, and two modes of it

The block cipher on lists of sixteen bytes, and the Galois/counter mode and the counter mode
with CBC-MAC as stream modes.

## Main definitions

- `Aes.cipher`: the block cipher
- `Aes.gcm`, `Aes.ccm`: the modes
-/

namespace Aes

open Aead

/-! ### The block cipher -/

/-- The block that `f` gives byte by byte. -/
def block (f : ℕ → UInt8) : List UInt8 := (List.range 16).map f

@[simp] theorem length_block (f : ℕ → UInt8) : (block f).length = 16 := by
  rw [block, List.length_map, List.length_range]

/-- Multiplication by the generator of the field with 256 elements. -/
def xtime (a : UInt8) : UInt8 := (a <<< 1) ^^^ (if a < 0x80 then 0 else 0x1b)

/-- Multiplication in the field with 256 elements. -/
def mul (a b : UInt8) : UInt8 :=
  ((List.range 8).foldl
    (fun (sum, power) i => (if b.toNat.testBit i then sum ^^^ power else sum, xtime power))
    ((0 : UInt8), a)).1

/-- The inverse is the power with exponent 254, the product of seven iterated squares. -/
def inverse (a : UInt8) : UInt8 :=
  ((List.range 7).foldl
    (fun (product, power) _ => (mul product (mul power power), mul power power))
    ((1 : UInt8), a)).1

/-- Rotation to the left. -/
def rotate (a : UInt8) (n : UInt8) : UInt8 := (a <<< n) ||| (a >>> (8 - n))

/-- `SubBytes` on one byte. -/
def subByte (a : UInt8) : UInt8 :=
  let b := inverse a
  b ^^^ rotate b 1 ^^^ rotate b 2 ^^^ rotate b 3 ^^^ rotate b 4 ^^^ 0x63

/-- `ShiftRows`; the state has its columns one after the other. -/
def shiftRows (s : List UInt8) : List UInt8 := block fun i => s.getD (5 * i % 16) 0

/-- `MixColumns`. -/
def mixColumns (s : List UInt8) : List UInt8 :=
  block fun i =>
    let column r := s.getD (4 * (i / 4) + (i + r) % 4) 0
    mul 2 (column 0) ^^^ mul 3 (column 1) ^^^ column 2 ^^^ column 3

/-- The round key after `key`. -/
def nextKey (key : List UInt8) (rcon : UInt8) : List UInt8 :=
  block fun i =>
    let first := subByte (key.getD (12 + (i + 1) % 4) 0) ^^^ (if i % 4 = 0 then rcon else 0)
    (List.range (i / 4 + 1)).foldl (fun sum j => sum ^^^ key.getD (4 * j + i % 4) 0) first

/-- `AES-128`. -/
def cipher (key input : List UInt8) : List UInt8 :=
  let start := (xorBytes input key, key, (1 : UInt8))
  let (state, key, rcon) := (List.range 9).foldl
    (fun (state, key, rcon) _ =>
      let key := nextKey key rcon
      (xorBytes (mixColumns (shiftRows (state.map subByte))) key, key, xtime rcon)) start
  xorBytes (shiftRows (state.map subByte)) (nextKey key rcon)

@[simp] theorem length_cipher (key input : List UInt8) : (cipher key input).length = 16 := by
  rw [cipher, length_xorBytes, shiftRows, nextKey, length_block, length_block, Nat.min_self]

/-! ### Blocks and numbers -/

/-- The lowest `k` bytes of a number, the most significant first. -/
def toBytes (k n : ℕ) : List UInt8 :=
  (List.range k).map fun i => UInt8.ofNat (n / 256 ^ (k - 1 - i))

/-- The number with these bytes. -/
def ofBytes (bytes : List UInt8) : ℕ := bytes.foldl (fun n b => 256 * n + b.toNat) 0

@[simp] theorem length_toBytes (k n : ℕ) : (toBytes k n).length = k := by
  rw [toBytes, List.length_map, List.length_range]

/-- Zeros up to a multiple of sixteen bytes. -/
def pad (bytes : List UInt8) : List UInt8 :=
  bytes ++ List.replicate ((16 - bytes.length % 16) % 16) 0

/-- The blocks of a padded string. -/
def blocks (bytes : List UInt8) : List (List UInt8) :=
  (List.range (bytes.length / 16)).map fun i => (bytes.drop (16 * i)).take 16

/-- The first bytes of a sequence of blocks. -/
def stream (f : ℕ → List UInt8) (n : ℕ) : List UInt8 :=
  ((List.range (n / 16 + 1)).flatMap f).take n

theorem length_stream {f : ℕ → List UInt8} (h : ∀ i, (f i).length = 16) (n : ℕ) :
    (stream f n).length = n := by
  have hlen : ∀ m, ((List.range m).flatMap f).length = 16 * m := by
    intro m
    induction m with
    | zero => rfl
    | succ m ih =>
      rw [List.range_succ, List.flatMap_append, List.length_append, ih, List.flatMap_singleton, h]
      omega
  rw [stream, List.length_take, hlen]
  omega

/-- The first bytes of the sum of two blocks. -/
theorem length_take_xorBytes {a b : List UInt8} (ha : a.length = 16) (hb : b.length = 16) {n : ℕ}
    (h : n ≤ 16) : ((xorBytes a b).take n).length = n := by
  rw [List.length_take, length_xorBytes, ha, hb]
  omega

/-! ### Galois/counter mode -/

/-- Multiplication in the field with `2 ^ 128` elements; the first bit is the constant term. -/
def gfMul (x y : ℕ) : ℕ :=
  ((List.range 128).foldl
    (fun (sum, power) i =>
      (if x.testBit (127 - i) then sum ^^^ power else sum,
        if power % 2 = 0 then power / 2 else (power / 2) ^^^ (0xe1 * 2 ^ 120)))
    (0, y)).1

/-- `GHASH`. -/
def ghash (h : ℕ) (bytes : List UInt8) : ℕ :=
  (blocks bytes).foldl (fun sum b => gfMul (sum ^^^ ofBytes b) h) 0

/-- The key of `GHASH`. -/
def hashKey (key : List UInt8) : ℕ := ofBytes (cipher key (toBytes 16 0))

/-- The counter block `i` steps after the first one. -/
def gcmCounter (key iv : List UInt8) (i : ℕ) : List UInt8 :=
  let first :=
    if iv.length = 12 then ofBytes iv * 2 ^ 32 + 1
    else ghash (hashKey key) (pad iv ++ toBytes 16 (8 * iv.length))
  toBytes 16 (first / 2 ^ 32 * 2 ^ 32 + (first + i) % 2 ^ 32)

def gcmKeystream (key iv : List UInt8) (n : ℕ) : List UInt8 :=
  stream (fun i => cipher key (gcmCounter key iv (i + 1))) n

def gcmTag (key iv aad plaintext : List UInt8) (tagLen : ℕ) : List UInt8 :=
  let ciphertext := xorBytes plaintext (gcmKeystream key iv plaintext.length)
  let lengths := toBytes 8 (8 * aad.length) ++ toBytes 8 (8 * ciphertext.length)
  let hash := ghash (hashKey key) (pad aad ++ pad ciphertext ++ lengths)
  (xorBytes (cipher key (gcmCounter key iv 0)) (toBytes 16 hash)).take tagLen

/-- `AES-128-GCM`. -/
def gcm : Aead.Stream where
  keyLength := 16
  ivLength n := 0 < n
  dataLength _ n := n ≤ 2 ^ 36 - 32
  tagLength n := 0 < n && n ≤ 16
  keystream := gcmKeystream
  tag := gcmTag
  length_keystream _ _ := length_stream fun _ => length_cipher _ _
  length_tag key iv aad plaintext tagLen h := by
    rw [Bool.and_eq_true, decide_eq_true_eq, decide_eq_true_eq] at h
    exact length_take_xorBytes (length_cipher _ _) (length_toBytes _ _) h.2

/-! ### Counter mode with CBC-MAC -/

/-- The counter block `i`. -/
def ccmCounter (iv : List UInt8) (i : ℕ) : List UInt8 :=
  UInt8.ofNat (14 - iv.length) :: iv ++ toBytes (15 - iv.length) i

def ccmKeystream (key iv : List UInt8) (n : ℕ) : List UInt8 :=
  stream (fun i => cipher key (ccmCounter iv (i + 1))) n

/-- The length of the associated data, before the data. -/
def ccmAadLength (n : ℕ) : List UInt8 :=
  if n = 0 then []
  else if n < 0xff00 then toBytes 2 n
  else if n < 2 ^ 32 then 0xff :: 0xfe :: toBytes 4 n
  else 0xff :: 0xff :: toBytes 8 n

/-- What is authenticated: a block of flags, lengths and initialisation vector, the associated
data and the plaintext. -/
def ccmInput (iv aad plaintext : List UInt8) (tagLen : ℕ) : List UInt8 :=
  let flags := (if aad = [] then 0 else 64) + 8 * ((tagLen - 2) / 2) + (14 - iv.length)
  (UInt8.ofNat flags :: iv ++ toBytes (15 - iv.length) plaintext.length) ++
    pad (ccmAadLength aad.length ++ aad) ++ pad plaintext

/-- `CBC-MAC`. -/
def cbcMac (key bytes : List UInt8) : List UInt8 :=
  (blocks bytes).foldl (fun sum b => cipher key (xorBytes sum b)) (toBytes 16 0)

theorem length_cbcMac (key bytes : List UInt8) : (cbcMac key bytes).length = 16 :=
  List.foldlRecOn (motive := fun sum : List UInt8 => sum.length = 16) (blocks bytes) _
    (length_toBytes _ _) fun _ _ _ _ => length_cipher _ _

def ccmTag (key iv aad plaintext : List UInt8) (tagLen : ℕ) : List UInt8 :=
  (xorBytes (cipher key (ccmCounter iv 0)) (cbcMac key (ccmInput iv aad plaintext tagLen))).take
    tagLen

/-- `AES-128-CCM`. -/
def ccm : Aead.Stream where
  keyLength := 16
  ivLength n := 7 ≤ n && n ≤ 13
  dataLength ivLen n := n < 256 ^ (15 - ivLen)
  tagLength n := 4 ≤ n && n ≤ 16 && n % 2 = 0
  keystream := ccmKeystream
  tag := ccmTag
  length_keystream _ _ := length_stream fun _ => length_cipher _ _
  length_tag key iv aad plaintext tagLen h := by
    rw [Bool.and_eq_true, Bool.and_eq_true, decide_eq_true_eq, decide_eq_true_eq] at h
    exact length_take_xorBytes (length_cipher _ _) (length_cbcMac _ _) h.1.2

end Aes
