import Mathlib.Data.Nat.Digits.Lemmas

/-!
# Tag, length and contents

The distinguished encoding of a primitive ASN.1 value: its tag, the length of its contents in
as few octets as possible, and the contents. Readers are more lenient than writers, they also
take a length with superfluous octets.

## Main definitions

- `encode`: the distinguished encoding
- `decode`: a reader of every definite length

## Main results

- `decode_encode`: the reader gives back what was written, and what follows it
-/

namespace Der

/-- The octets of a number, the most significant first and none superfluous. -/
def octets (n : ℕ) : List UInt8 := ((Nat.digits 256 n).map UInt8.ofNat).reverse

/-- The number with these octets. -/
def ofOctets (bytes : List UInt8) : ℕ := Nat.ofDigits 256 (bytes.reverse.map UInt8.toNat)

/-- A length below 128 is its own octet; before a longer one stands the number of its octets. -/
def lengthOctets (n : ℕ) : List UInt8 :=
  if n < 128 then [UInt8.ofNat n]
  else UInt8.ofNat (128 + (octets n).length) :: octets n

/-- The distinguished encoding of a primitive value. -/
def encode (tag : UInt8) (content : List UInt8) : List UInt8 :=
  tag :: (lengthOctets content.length ++ content)

/-- Read a length. The indefinite length, which has no octets, is not for primitive values. -/
def readLength : List UInt8 → Option (ℕ × List UInt8)
  | [] => none
  | first :: rest =>
    if first.toNat < 128 then some (first.toNat, rest)
    else if first.toNat = 128 ∨ rest.length < first.toNat - 128 then none
    else some (ofOctets (rest.take (first.toNat - 128)), rest.drop (first.toNat - 128))

/-- Read a primitive value: its contents, and the bytes that follow it. -/
def decode (tag : UInt8) : List UInt8 → Option (List UInt8 × List UInt8)
  | [] => none
  | first :: rest =>
    if first ≠ tag then none
    else
      match readLength rest with
      | none => none
      | some (n, rest) => if rest.length < n then none else some (rest.take n, rest.drop n)

theorem ofOctets_octets (n : ℕ) : ofOctets (octets n) = n := by
  have hdigits : ((Nat.digits 256 n).map UInt8.ofNat).map UInt8.toNat = Nat.digits 256 n := by
    rw [List.map_map, List.map_congr_left (g := id), List.map_id]
    intro digit hmem
    exact UInt8.toNat_ofNat_of_lt' (Nat.digits_lt_base (by decide) hmem)
  rw [ofOctets, octets, List.reverse_reverse, hdigits, Nat.ofDigits_digits]

theorem length_octets_le {n k : ℕ} (h : n < 256 ^ k) : (octets n).length ≤ k := by
  rw [octets, List.length_reverse, List.length_map]
  exact (Nat.digits_length_le_iff (by decide) n).mpr h

theorem octets_ne_nil {n : ℕ} (h : n ≠ 0) : octets n ≠ [] := by
  rw [octets, ne_eq, List.reverse_eq_nil_iff, List.map_eq_nil_iff]
  exact Nat.digits_ne_nil_iff_ne_zero.mpr h

/-- A length is read back, in either form. -/
theorem readLength_lengthOctets {n : ℕ} (h : n < 256 ^ 126) (rest : List UInt8) :
    readLength (lengthOctets n ++ rest) = some (n, rest) := by
  have hsize : UInt8.size = 256 := rfl
  unfold lengthOctets
  split_ifs with hshort
  · have hn : (UInt8.ofNat n).toNat = n := UInt8.toNat_ofNat_of_lt' (by omega)
    rw [List.singleton_append, readLength, hn, if_pos hshort]
  · have hle : (octets n).length ≤ 126 := length_octets_le h
    have hpos : 0 < (octets n).length := List.length_pos_iff.mpr (octets_ne_nil (by omega))
    have hfirst : (UInt8.ofNat (128 + (octets n).length)).toNat = 128 + (octets n).length :=
      UInt8.toNat_ofNat_of_lt' (by omega)
    have hsub : 128 + (octets n).length - 128 = (octets n).length := by omega
    rw [List.cons_append, readLength, hfirst, hsub, if_neg (by omega), if_neg,
      List.take_left, List.drop_left, ofOctets_octets]
    rw [List.length_append]
    omega

/-- What was written is read back, and what follows it is left. -/
theorem decode_encode (tag : UInt8) {content : List UInt8} (h : content.length < 256 ^ 126)
    (rest : List UInt8) : decode tag (encode tag content ++ rest) = some (content, rest) := by
  rw [encode, List.cons_append, List.append_assoc, decode, if_neg (not_not.mpr rfl),
    readLength_lengthOctets h]
  dsimp only
  rw [if_neg, List.take_left, List.drop_left]
  rw [List.length_append]
  omega

/-- Contents of less than 128 bytes have a header of two bytes. -/
theorem encode_of_lt (tag : UInt8) {content : List UInt8} (h : content.length < 128) :
    encode tag content = tag :: UInt8.ofNat content.length :: content := by
  rw [encode, lengthOctets, if_pos h]
  rfl

end Der
