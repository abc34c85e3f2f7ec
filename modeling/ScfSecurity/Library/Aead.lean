import Mathlib.Data.List.Basic
import Mathlib.Tactic.Common

/-!
# Authenticated encryption

Authenticated encryption with associated data as a pair of functions on byte strings, together
with the law that connects them. The modes in use add a key stream to the plaintext and
authenticate it with a tag; `ofStream` is their common shape.

## Main definitions

- `Aead`: encryption, tag and decryption, and that decryption undoes encryption
- `Aead.ofStream`: the scheme of a key stream and a tag
-/

/-- Authenticated encryption with associated data. The tag has as many bytes as asked for. -/
structure Aead where
  keyLength : ℕ
  /-- The admissible lengths of an initialisation vector. -/
  ivLength : ℕ → Bool
  /-- The admissible lengths of a plaintext, by the length of the initialisation vector. -/
  dataLength : ℕ → ℕ → Bool
  /-- The admissible lengths of a tag. -/
  tagLength : ℕ → Bool
  encrypt (key iv aad plaintext : List UInt8) : List UInt8
  tag (key iv aad plaintext : List UInt8) (tagLen : ℕ) : List UInt8
  decrypt (key iv aad ciphertext tag : List UInt8) : Option (List UInt8)
  length_encrypt : ∀ key iv aad plaintext,
    (encrypt key iv aad plaintext).length = plaintext.length
  length_tag : ∀ key iv aad plaintext tagLen, tagLength tagLen = true →
    (tag key iv aad plaintext tagLen).length = tagLen
  decrypt_encrypt : ∀ key iv aad plaintext tagLen, tagLength tagLen = true →
    decrypt key iv aad (encrypt key iv aad plaintext) (tag key iv aad plaintext tagLen) =
      some plaintext

namespace Aead

/-- Bytewise addition. -/
def xorBytes (a b : List UInt8) : List UInt8 := List.zipWith (· ^^^ ·) a b

theorem length_xorBytes (a b : List UInt8) :
    (xorBytes a b).length = min a.length b.length := List.length_zipWith

/-- A key stream that is added twice cancels. -/
theorem xorBytes_xorBytes_self {a b : List UInt8} (h : a.length ≤ b.length) :
    xorBytes (xorBytes a b) b = a := by
  induction a generalizing b with
  | nil => rfl
  | cons x a ih =>
    cases b with
    | nil => exact absurd h (Nat.not_succ_le_zero _)
    | cons y b =>
      have hcancel : x ^^^ y ^^^ y = x := by rw [UInt8.xor_assoc, UInt8.xor_self, UInt8.xor_zero]
      have htail := ih (Nat.le_of_succ_le_succ h)
      simp only [xorBytes, List.zipWith_cons_cons, hcancel] at htail ⊢
      rw [htail]

/-- What a stream mode is made of. -/
structure Stream where
  keyLength : ℕ
  ivLength : ℕ → Bool
  dataLength : ℕ → ℕ → Bool
  tagLength : ℕ → Bool
  /-- The first bytes of the key stream. -/
  keystream (key iv : List UInt8) (n : ℕ) : List UInt8
  tag (key iv aad plaintext : List UInt8) (tagLen : ℕ) : List UInt8
  length_keystream : ∀ key iv n, (keystream key iv n).length = n
  length_tag : ∀ key iv aad plaintext tagLen, tagLength tagLen = true →
    (tag key iv aad plaintext tagLen).length = tagLen

/-- The scheme that adds a key stream to the plaintext. -/
def ofStream (s : Stream) : Aead where
  keyLength := s.keyLength
  ivLength := s.ivLength
  dataLength := s.dataLength
  tagLength := s.tagLength
  encrypt key iv _ plaintext := xorBytes plaintext (s.keystream key iv plaintext.length)
  tag := s.tag
  decrypt key iv aad ciphertext tag :=
    let plaintext := xorBytes ciphertext (s.keystream key iv ciphertext.length)
    if s.tag key iv aad plaintext tag.length = tag then some plaintext else none
  length_encrypt key iv aad plaintext := by
    rw [length_xorBytes, s.length_keystream, Nat.min_self]
  length_tag := s.length_tag
  decrypt_encrypt key iv aad plaintext tagLen htag := by
    have hlen : (xorBytes plaintext (s.keystream key iv plaintext.length)).length =
        plaintext.length := by
      rw [length_xorBytes, s.length_keystream, Nat.min_self]
    have hcancel := xorBytes_xorBytes_self
      (Nat.le_of_eq (s.length_keystream key iv plaintext.length).symm)
    dsimp only
    rw [hlen, hcancel, s.length_tag _ _ _ _ _ htag, if_pos rfl]

end Aead
