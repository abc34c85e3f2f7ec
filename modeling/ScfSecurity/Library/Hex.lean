import Mathlib.Data.List.Basic
import Mathlib.Tactic.Common

/-!
# Bytes as pairs of digits

Each byte is written as two digits, its upper half first. The digits are those of any alphabet from
which their values can be read.

## Main definitions

- `Alphabet`: sixteen digits and their values
- `Alphabet.encode`, `Alphabet.decode`

## Main results

- `Alphabet.decode_encode`: the digits of a byte string have the byte string in them
-/

namespace Hex

/-- The digits for `0` to `15`, with a reader that knows each of them. -/
structure Alphabet (α : Type*) where
  digit : ℕ → α
  value : α → Option ℕ
  value_digit : ∀ n < 16, value (digit n) = some n

namespace Alphabet

variable {α : Type*} (A : Alphabet α)

/-- The two digits of a byte. -/
def pair (b : UInt8) : List α := [A.digit (b.toNat / 16), A.digit (b.toNat % 16)]

/-- The digits of a byte string. -/
def encode (bytes : List UInt8) : List α := bytes.flatMap A.pair

/-- Read two digits at a time. -/
def decode : List α → Option (List UInt8)
  | [] => some []
  | [_] => none
  | c :: d :: rest =>
    match A.value c, A.value d, decode rest with
    | some upper, some lower, some bytes => some (UInt8.ofNat (16 * upper + lower) :: bytes)
    | _, _, _ => none

theorem encode_cons (b : UInt8) (bytes : List UInt8) :
    A.encode (b :: bytes) = A.pair b ++ A.encode bytes := List.flatMap_cons

theorem length_encode (bytes : List UInt8) : (A.encode bytes).length = 2 * bytes.length := by
  induction bytes with
  | nil => rfl
  | cons b bytes ih =>
    rw [encode_cons, List.length_append, ih, List.length_cons]
    simp only [pair, List.length_cons, List.length_nil]
    omega

/-- Nothing but digits is written. -/
theorem exists_digit_of_mem_encode {bytes : List UInt8} {c : α} (h : c ∈ A.encode bytes) :
    ∃ n < 16, c = A.digit n := by
  obtain ⟨b, -, hpair⟩ := List.mem_flatMap.mp h
  have hb := b.toNat_lt
  simp only [pair, List.mem_cons, List.not_mem_nil, or_false] at hpair
  obtain rfl | rfl := hpair
  · exact ⟨_, by omega, rfl⟩
  · exact ⟨_, by omega, rfl⟩

theorem decode_encode (bytes : List UInt8) : A.decode (A.encode bytes) = some bytes := by
  induction bytes with
  | nil => rfl
  | cons b bytes ih =>
    have hb := b.toNat_lt
    have hupper := A.value_digit (b.toNat / 16) (by omega)
    have hlower := A.value_digit (b.toNat % 16) (by omega)
    have hsum : 16 * (b.toNat / 16) + b.toNat % 16 = b.toNat := by omega
    simp only [encode_cons, pair, List.cons_append, List.nil_append, decode, hupper, hlower, ih,
      hsum, UInt8.ofNat_toNat]

end Alphabet

end Hex
