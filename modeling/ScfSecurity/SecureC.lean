import ScfSecurity.Base
import ScfSecurity.Library.Buffer

/-!
# Bounded copies

`memcpy_s` and `memset_s` of the bounds-checking library. They refuse a destination of no bytes, or
of more than `SECUREC_MEM_MAX_LEN`, also where the source would fit.
-/

namespace Scf

/-- `SECUREC_MEM_MAX_LEN`, the largest destination `memcpy_s` accepts. -/
def securecMemMaxLen : ℕ := 0x7fffffff

/-- Whether `memcpy_s` copies `count` bytes into a buffer of `destMax` bytes. -/
def memcpyS (destMax count : ℕ) : Bool :=
  0 < destMax && destMax ≤ securecMemMaxLen && count ≤ destMax

/-- A block after `memset_s` of `destMax` zeros at its start. -/
def memsetS (destMax : ℕ) (block : List UInt8) : List UInt8 :=
  if destMax = 0 ∨ securecMemMaxLen < destMax then block
  else List.replicate destMax 0 ++ block.drop destMax

/-- `memcpy_s` on the memory at the destination: whether it copies, and the memory
afterwards. A destination that is too small is cleared. -/
def memcpySInto (dest : ℕ → UInt8) (destMax : ℕ) (src : List UInt8) : Bool × (ℕ → UInt8) :=
  if destMax = 0 ∨ securecMemMaxLen < destMax then (false, dest)
  else if destMax < src.length then (false, fun i => if i < destMax then 0 else dest i)
  else (true, Buffer.store dest src)

theorem memcpySInto_fst (dest : ℕ → UInt8) (destMax : ℕ) (src : List UInt8) :
    (memcpySInto dest destMax src).1 = memcpyS destMax src.length := by
  unfold memcpySInto memcpyS
  split_ifs with hmax hlen
  · obtain h | h := hmax
    · simp [h]
    · simp [Nat.not_le.mpr h]
  · simp [Nat.not_le.mpr hlen]
  · rw [not_or, Nat.not_lt] at hmax
    simp [Nat.pos_of_ne_zero hmax.1, hmax.2, Nat.not_lt.mp hlen]

/-- A string that fits is copied. -/
theorem memcpySInto_of_le (dest : ℕ → UInt8) {destMax : ℕ} {src : List UInt8}
    (hpos : destMax ≠ 0) (hmax : destMax ≤ securecMemMaxLen) (hlen : src.length ≤ destMax) :
    memcpySInto dest destMax src = (true, Buffer.store dest src) := by
  unfold memcpySInto
  rw [if_neg (by omega), if_neg (by omega)]

/-- `memcpy_s` to an address within the memory. -/
def memcpySAt (mem : ℕ → UInt8) (offset destMax : ℕ) (src : List UInt8) : Bool × (ℕ → UInt8) :=
  let (copied, dest) := memcpySInto (fun i => mem (offset + i)) destMax src
  (copied, fun i => if i < offset then mem i else dest (i - offset))

theorem memcpySAt_of_le (mem : ℕ → UInt8) {offset destMax : ℕ} {src : List UInt8}
    (hpos : destMax ≠ 0) (hmax : destMax ≤ securecMemMaxLen) (hlen : src.length ≤ destMax) :
    memcpySAt mem offset destMax src = (true, Buffer.storeAt mem offset src) := by
  rw [memcpySAt, memcpySInto_of_le _ hpos hmax hlen]
  refine congrArg (Prod.mk true) (funext fun i => ?_)
  unfold Buffer.storeAt Buffer.store
  by_cases hi : i < offset
  · rw [if_pos hi, if_pos hi]
  · rw [if_neg hi, if_neg hi]
    dsimp only
    rw [Nat.add_sub_cancel' (Nat.not_lt.mp hi)]

/-- A destination of more than the limit stays as it is. -/
theorem memcpySAt_of_lt (mem : ℕ → UInt8) {offset destMax : ℕ} (src : List UInt8)
    (hmax : securecMemMaxLen < destMax) : memcpySAt mem offset destMax src = (false, mem) := by
  rw [memcpySAt, memcpySInto, if_pos (.inr hmax)]
  refine congrArg (Prod.mk false) (funext fun i => ?_)
  by_cases hi : i < offset
  · rw [if_pos hi]
  · rw [if_neg hi]
    dsimp only
    rw [Nat.add_sub_cancel' (Nat.not_lt.mp hi)]

end Scf
