import ScfSecurity.Base
import ScfSecurity.Library.Buffer
import ScfSecurity.Library.Hex

/-!
# The serial number of a certificate in the log

When a certificate is refused, `LogCertError` logs its serial number. `Num2HexStr` writes the bytes
of the number as digits into a buffer on the stack, or nothing if they do not fit. Lengths are
32-bit numbers; the model carries with the state whether one of the computations on them wrapped.

## Main definitions

- `num2HexStr`: `Num2HexStr`, with its loop `num2HexLoop`
- `IsHexStr`: digits that have a byte string in them
- `NoHexStr`: when there is nothing to write

## Main results

- `num2HexLoop_eq`: the loop writes the digits of the bytes that are left
- `num2HexStr_writes`: the buffer afterwards
-/

namespace Scf

/-- `HEX_NUM_BYTES`. -/
def hexNumBytes : UInt32 := 2

/-- `CHAR_MASK_LOW_4BITS`. -/
def charMaskLow4Bits : UInt32 := 0x0f

/-- `CHAR_MASK_HIGH_4BITS`. -/
def charMaskHigh4Bits : UInt32 := 0xf0

/-- `INT32_MAX`, which is compared with a 32-bit unsigned number. -/
def int32MaxWord : UInt32 := 0x7fffffff

def hexTable : StdString := ascii "0123456789abcdef"

/-- `hexTable[n]`; a `std::string` has a NUL behind its end. -/
def hexTableAt (n : UInt32) : UInt8 := hexTable.getD n.toNat 0

/-- The memory at `hexStr`, the offset of the pointer `p` in it, and whether a 32-bit computation
has wrapped. -/
structure HexWriter where
  hexStr : ℕ → UInt8
  p : ℕ
  wrapped : Bool

/-- The loop of `Num2HexStr` from the index `i` on. A `char` is signed. -/
def num2HexLoop (num : ℕ → Int8) (numLen i : UInt32) (w : HexWriter) : HexWriter :=
  if i < numLen then
    let c := (num i.toNat).toUInt8.toUInt32
    let hexStr := Function.update w.hexStr w.p (hexTableAt ((c &&& charMaskHigh4Bits) >>> 4))
    let hexStr := Function.update hexStr (w.p + 1) (hexTableAt (c &&& charMaskLow4Bits))
    num2HexLoop num numLen (i + 1)
      { hexStr := hexStr
        p := w.p + hexNumBytes.toNat
        wrapped := w.wrapped || decide (2 ^ 32 ≤ i.toNat + 1) }
  else w
termination_by numLen.toNat - i.toNat
decreasing_by
  -- the counter is less than a 32-bit number, so it does not wrap
  have hlt : i.toNat < numLen.toNat := UInt32.lt_iff_toNat_lt.mp ‹_›
  have hmax := numLen.toNat_lt
  rw [UInt32.toNat_add, UInt32.toNat_one, Nat.mod_eq_of_lt (by omega)]
  omega

/-- `Num2HexStr`, on the memory at `num` and at `hexStr`: the code, the memory at `hexStr`, and
whether a 32-bit computation wrapped. -/
def num2HexStr (numPtr : Ptr) (num : ℕ → Int8) (numLen : UInt32) (hexStrPtr : Ptr)
    (hexStr : ℕ → UInt8) (hexStrLen : UInt32) : Errno × (ℕ → UInt8) × Bool :=
  if numPtr = .null ∨ hexStrPtr = .null ∨ hexStrLen = 0 then (.invalidParam, hexStr, false)
  else if numLen = 0 ∨ numLen ≥ int32MaxWord then (.success, Function.update hexStr 0 0, false)
  else
    -- the product is computed only here
    let wrapped := decide (2 ^ 32 ≤ numLen.toNat * hexNumBytes.toNat)
    if numLen * hexNumBytes ≥ hexStrLen then (.success, Function.update hexStr 0 0, wrapped)
    else
      let w := num2HexLoop num numLen 0 ⟨hexStr, 0, wrapped⟩
      (.success, Function.update w.hexStr w.p 0, w.wrapped)

/-! ### Digits -/

/-- The lowercase digits, read by their place in the table. -/
def hexDigits : Hex.Alphabet UInt8 where
  digit n := hexTable.getD n 0
  value c := hexTable.idxOf? c
  value_digit := by decide

/-- The bytes of `num` from the index `i` up to its length. -/
def numBytes (num : ℕ → Int8) (i n : ℕ) : List UInt8 :=
  (List.range' i (n - i)).map fun k => (num k).toUInt8

theorem digit_ne_zero : ∀ n < 16, hexDigits.digit n ≠ 0 := by decide

theorem zero_notMem_encode (bytes : List UInt8) : 0 ∉ hexDigits.encode bytes := by
  intro h
  obtain ⟨n, hn, hzero⟩ := hexDigits.exists_digit_of_mem_encode h
  exact digit_ne_zero n hn hzero.symm

theorem hexTableAt_high (b : UInt8) :
    hexTableAt ((b.toUInt32 &&& charMaskHigh4Bits) >>> 4) = hexDigits.digit (b.toNat / 16) := by
  have hb := b.toNat_lt
  have hshift : (b.toNat &&& 0xf0) >>> 4 = b.toNat / 16 := by
    rw [Nat.shiftRight_and_distrib, Nat.shiftRight_eq_div_pow]
    exact (Nat.and_two_pow_sub_one_eq_mod (b.toNat / 16) 4).trans (Nat.mod_eq_of_lt (by omega))
  have hindex : ((b.toUInt32 &&& charMaskHigh4Bits) >>> 4).toNat = b.toNat / 16 := by
    rw [UInt32.toNat_shiftRight, UInt32.toNat_and, UInt8.toNat_toUInt32]
    exact hshift
  rw [hexTableAt, hindex]
  rfl

theorem hexTableAt_low (b : UInt8) :
    hexTableAt (b.toUInt32 &&& charMaskLow4Bits) = hexDigits.digit (b.toNat % 16) := by
  have hindex : (b.toUInt32 &&& charMaskLow4Bits).toNat = b.toNat % 16 := by
    rw [UInt32.toNat_and, UInt8.toNat_toUInt32]
    exact Nat.and_two_pow_sub_one_eq_mod b.toNat 4
  rw [hexTableAt, hindex]
  rfl

/-! ### The loop -/

/-- Two cells written one after the other. -/
theorem update_update_eq_storeAt (mem : ℕ → UInt8) (p : ℕ) (c d : UInt8) :
    Function.update (Function.update mem p c) (p + 1) d = Buffer.storeAt mem p [c, d] := by
  rw [← Buffer.storeAt_singleton mem, ← Buffer.storeAt_singleton]
  exact Buffer.storeAt_storeAt mem p [c] [d]

theorem numBytes_of_lt (num : ℕ → Int8) {i n : ℕ} (h : i < n) :
    numBytes num i n = (num i).toUInt8 :: numBytes num (i + 1) n := by
  obtain ⟨k, rfl⟩ : ∃ k, n = i + (k + 1) := ⟨n - i - 1, by omega⟩
  rw [numBytes, numBytes, Nat.add_sub_cancel_left, List.range'_succ, List.map_cons,
    show i + (k + 1) - (i + 1) = k by omega]

theorem toNat_add_one {i n : UInt32} (h : i < n) : (i + 1).toNat = i.toNat + 1 := by
  have hlt : i.toNat < n.toNat := UInt32.lt_iff_toNat_lt.mp h
  have hmax := n.toNat_lt
  rw [UInt32.toNat_add, UInt32.toNat_one, Nat.mod_eq_of_lt (by omega)]

/-- The loop writes the digits of the bytes from `i` on, and its counter never wraps. -/
theorem num2HexLoop_eq (num : ℕ → Int8) (numLen i : UInt32) (w : HexWriter) :
    num2HexLoop num numLen i w =
      ⟨Buffer.storeAt w.hexStr w.p (hexDigits.encode (numBytes num i.toNat numLen.toNat)),
        w.p + 2 * (numLen.toNat - i.toNat), w.wrapped⟩ := by
  fun_induction num2HexLoop num numLen i w with
  | case1 i w hlt c hexStr hexStr' ih =>
    have hi : i.toNat < numLen.toNat := UInt32.lt_iff_toNat_lt.mp hlt
    have hmax := numLen.toNat_lt
    have hexact : decide (2 ^ 32 ≤ i.toNat + 1) = false := decide_eq_false (by omega)
    have hpair : hexStr' = Buffer.storeAt w.hexStr w.p (hexDigits.pair (num i.toNat).toUInt8) := by
      rw [Hex.Alphabet.pair, ← hexTableAt_high, ← hexTableAt_low]
      exact update_update_eq_storeAt _ _ _ _
    rw [ih, toNat_add_one hlt, hpair, hexact, Bool.or_false, numBytes_of_lt num hi,
      Hex.Alphabet.encode_cons, ← Buffer.storeAt_storeAt]
    refine congrArg (HexWriter.mk _ · _) ?_
    show w.p + 2 + 2 * (numLen.toNat - (i.toNat + 1)) = _
    omega
  | case2 i w hge =>
    have hle : numLen.toNat ≤ i.toNat := Nat.not_lt.mp fun h => hge (UInt32.lt_iff_toNat_lt.mpr h)
    rw [numBytes, Nat.sub_eq_zero_of_le hle]
    exact congrArg (HexWriter.mk · _ _) (Buffer.storeAt_nil _ _).symm

/-! ### The buffer afterwards -/

/-- There are lowercase digits and the bytes can be read from them. -/
structure IsHexStr (bytes : List UInt8) (s : StdString) : Prop where
  length : s.length = 2 * bytes.length
  lowercase : ∀ c ∈ s, c ∈ hexTable
  decode : hexDigits.decode s = some bytes

theorem isHexStr_encode (bytes : List UInt8) : IsHexStr bytes (hexDigits.encode bytes) where
  length := hexDigits.length_encode bytes
  lowercase c hc := by
    obtain ⟨n, hn, rfl⟩ := hexDigits.exists_digit_of_mem_encode hc
    have htable : ∀ n < 16, hexDigits.digit n ∈ hexTable := by decide
    exact htable n hn
  decode := hexDigits.decode_encode bytes

/-- The bytes do not fit, or there are none. -/
def NoHexStr (numLen hexStrLen : UInt32) : Prop :=
  numLen = 0 ∨ 2 ^ 31 - 1 ≤ numLen.toNat ∨ hexStrLen.toNat < 2 * numLen.toNat + 1

theorem int32MaxWord_le_iff (n : UInt32) : n ≥ int32MaxWord ↔ 2 ^ 31 - 1 ≤ n.toNat :=
  UInt32.le_iff_toNat_le

/-- Behind the guard on the length the product is exact. -/
theorem toNat_mul_hexNumBytes {numLen : UInt32} (h : ¬ numLen ≥ int32MaxWord) :
    numLen.toNat * hexNumBytes.toNat < 2 ^ 32 ∧
      (numLen * hexNumBytes).toNat = 2 * numLen.toNat := by
  rw [int32MaxWord_le_iff] at h
  have hbytes : hexNumBytes.toNat = 2 := rfl
  have hlt : numLen.toNat * hexNumBytes.toNat < 2 ^ 32 := by
    rw [hbytes]
    omega
  refine ⟨hlt, ?_⟩
  rw [UInt32.toNat_mul, Nat.mod_eq_of_lt hlt, hbytes, Nat.mul_comm]

section Result

variable (num : ℕ → Int8) {numLen hexStrLen : UInt32} (hexStr : ℕ → UInt8)

/-- Where nothing fits, the function only writes a terminator. -/
theorem num2HexStr_of_noHexStr (hpos : 0 < hexStrLen) (h : NoHexStr numLen hexStrLen) :
    num2HexStr .valid num numLen .valid hexStr hexStrLen =
      (.success, Buffer.storeString hexStr [], false) := by
  have hstore : Function.update hexStr 0 0 = Buffer.storeString hexStr [] := rfl
  have hne : hexStrLen ≠ 0 := UInt32.pos_iff_ne_zero.mp hpos
  unfold num2HexStr
  rw [if_neg (by simp [hne]), hstore]
  by_cases hguard : numLen = 0 ∨ numLen ≥ int32MaxWord
  · rw [if_pos hguard]
  rw [if_neg hguard]
  rw [not_or] at hguard
  obtain ⟨hexact, hmul⟩ := toNat_mul_hexNumBytes hguard.2
  have hshort : hexStrLen.toNat < 2 * numLen.toNat + 1 := by
    obtain hzero | hmax | hshort := h
    · exact absurd hzero hguard.1
    · exact absurd ((int32MaxWord_le_iff numLen).mpr hmax) hguard.2
    · exact hshort
  have hfull : numLen * hexNumBytes ≥ hexStrLen := by
    rw [ge_iff_le, UInt32.le_iff_toNat_le, hmul]
    omega
  dsimp only
  rw [if_pos hfull, decide_eq_false (Nat.not_le.mpr hexact)]

/-- Otherwise it writes the digits of all bytes and a terminator. -/
theorem num2HexStr_of_not_noHexStr (h : ¬ NoHexStr numLen hexStrLen) :
    num2HexStr .valid num numLen .valid hexStr hexStrLen =
      (.success,
        Buffer.storeString hexStr (hexDigits.encode (numBytes num 0 numLen.toNat)), false) := by
  rw [NoHexStr, not_or, not_or, Nat.not_lt] at h
  obtain ⟨hzero, hmax, hfits⟩ := h
  rw [← int32MaxWord_le_iff] at hmax
  obtain ⟨hexact, hmul⟩ := toNat_mul_hexNumBytes hmax
  have hne : hexStrLen ≠ 0 := by
    rintro rfl
    exact absurd hfits (by rw [UInt32.toNat_zero]; omega)
  have hfull : ¬ numLen * hexNumBytes ≥ hexStrLen := by
    rw [ge_iff_le, UInt32.le_iff_toNat_le, hmul]
    omega
  unfold num2HexStr
  dsimp only
  rw [if_neg (by simp [hne]), if_neg (by simp [hzero, hmax]), if_neg hfull,
    decide_eq_false (Nat.not_le.mpr hexact), num2HexLoop_eq]
  have hlength : (hexDigits.encode (numBytes num 0 numLen.toNat)).length =
      0 + 2 * (numLen.toNat - (0 : UInt32).toNat) := by
    rw [hexDigits.length_encode, numBytes, List.length_map, List.length_range']
    simp
  rw [← hlength]
  rfl

end Result

/-- `Num2HexStr` computes within 32 bits, writes only into the buffer and always leaves a string
there: nothing where the bytes do not fit, and otherwise digits that have the bytes in them. -/
theorem num2HexStr_writes (num : ℕ → Int8) (numLen hexStrLen : UInt32) (hexStr : ℕ → UInt8)
    (hpos : 0 < hexStrLen) :
    ∃ hexStr' s,
      num2HexStr .valid num numLen .valid hexStr hexStrLen = (.success, hexStr', false) ∧
      (∀ j, hexStrLen.toNat ≤ j → hexStr' j = hexStr j) ∧
      Buffer.HoldsString hexStr' s ∧ 0 ∉ s ∧ s.length < hexStrLen.toNat ∧
      (s = [] ↔ NoHexStr numLen hexStrLen) ∧
      (¬ NoHexStr numLen hexStrLen → IsHexStr (numBytes num 0 numLen.toNat) s) := by
  -- what is written is a string shorter than the buffer
  have hframe : ∀ s : StdString, s.length < hexStrLen.toNat →
      ∀ j, hexStrLen.toNat ≤ j → Buffer.storeString hexStr s j = hexStr j :=
    fun s hs j hj => Buffer.storeString_of_lt hexStr (Nat.lt_of_lt_of_le hs hj)
  by_cases h : NoHexStr numLen hexStrLen
  · have hlen : ([] : StdString).length < hexStrLen.toNat := UInt32.lt_iff_toNat_lt.mp hpos
    exact ⟨_, [], num2HexStr_of_noHexStr num hexStr hpos h, hframe [] hlen,
      Buffer.holdsString_storeString hexStr [], List.not_mem_nil, hlen, by simp [h],
      fun hnot => absurd h hnot⟩
  · have hdigits := isHexStr_encode (numBytes num 0 numLen.toNat)
    have hbytes : (numBytes num 0 numLen.toNat).length = numLen.toNat := by simp [numBytes]
    have hlength := hdigits.length
    rw [hbytes] at hlength
    have hfits := h
    rw [NoHexStr, not_or, not_or, Nat.not_lt] at hfits
    have hlen : (hexDigits.encode (numBytes num 0 numLen.toNat)).length < hexStrLen.toNat := by
      omega
    have hne : hexDigits.encode (numBytes num 0 numLen.toNat) ≠ [] := by
      intro hnil
      rw [hnil, List.length_nil] at hlength
      exact hfits.1 (UInt32.toNat_inj.mp (by rw [UInt32.toNat_zero]; omega))
    exact ⟨_, _, num2HexStr_of_not_noHexStr num hexStr h, hframe _ hlen,
      Buffer.holdsString_storeString hexStr _, zero_notMem_encode _, hlen, by simp [h, hne],
      fun _ => hdigits⟩

/-- Two bytes into a buffer of five: four digits and the terminator. -/
theorem num2HexStr_writes_two :
    (0 : UInt32) < 5 ∧
    ∃ hexStr' s,
      num2HexStr .valid (fun i => if i = 0 then -1 else 18) 2 .valid (fun _ => 7) 5 =
        (.success, hexStr', false) ∧
      (∀ j, (5 : UInt32).toNat ≤ j → hexStr' j = 7) ∧
      Buffer.HoldsString hexStr' s ∧ 0 ∉ s ∧ s.length < (5 : UInt32).toNat ∧
      (s = [] ↔ NoHexStr 2 5) ∧
      (¬ NoHexStr 2 5 →
        IsHexStr (numBytes (fun i => if i = 0 then -1 else 18) 0 (2 : UInt32).toNat) s) :=
  ⟨by decide, num2HexStr_writes (fun i => if i = 0 then -1 else 18) 2 5 (fun _ => 7) (by decide)⟩

end Scf
