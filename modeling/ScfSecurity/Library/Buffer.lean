import Mathlib.Logic.Function.Basic
import Mathlib.Tactic.Common

/-!
# Strings in memory

A buffer is a function from offsets to cells, so what a function leaves alone can be stated
for every offset, also behind the end of the buffer. A string in a buffer ends at the first
zero.

## Main definitions

- `store`, `storeAt`: cells copied to the beginning of a buffer, or behind others
- `read`: the first cells of a buffer
- `storeString`: the same, with a terminator behind them
- `HoldsString`: the buffer has the string and its terminator
-/

namespace Buffer

variable {α : Type*}

/-- Copy a list to the beginning of a buffer. -/
def store (mem : ℕ → α) (s : List α) : ℕ → α := fun i => s[i]?.getD (mem i)

theorem store_of_lt (mem : ℕ → α) {s : List α} {i : ℕ} (h : i < s.length) :
    store mem s i = s[i] := by
  rw [store, List.getElem?_eq_getElem h]
  rfl

theorem store_of_le (mem : ℕ → α) {s : List α} {i : ℕ} (h : s.length ≤ i) :
    store mem s i = mem i := by
  rw [store, List.getElem?_eq_none h]
  rfl

/-- Of two writes, the second covers the beginning of the first. -/
theorem store_store (mem : ℕ → α) (s t : List α) :
    store (store mem s) t = store mem (t ++ s.drop t.length) := by
  funext i
  by_cases hi : i < t.length
  · have hi' : i < (t ++ s.drop t.length).length := by
      rw [List.length_append]
      omega
    rw [store_of_lt _ hi, store_of_lt mem hi', List.getElem_append_left hi]
  · have hle : t.length ≤ i := Nat.not_lt.mp hi
    rw [store_of_le _ hle, store, store, List.getElem?_append_right hle, List.getElem?_drop,
      Nat.add_sub_cancel' hle]

/-- Copy a list into a buffer, behind the first `n` cells. -/
def storeAt (mem : ℕ → α) (n : ℕ) (s : List α) : ℕ → α :=
  fun i => if i < n then mem i else s[i - n]?.getD (mem i)

theorem storeAt_zero (mem : ℕ → α) (s : List α) : storeAt mem 0 s = store mem s := rfl

/-- What is written behind the end of an earlier write makes a longer one of it. -/
theorem storeAt_storeAt (mem : ℕ → α) (n : ℕ) (s t : List α) :
    storeAt (storeAt mem n s) (n + s.length) t = storeAt mem n (s ++ t) := by
  funext i
  unfold storeAt
  by_cases hn : i < n
  · rw [if_pos hn, if_pos hn, if_pos (by omega)]
  rw [if_neg hn, if_neg hn]
  by_cases hs : i < n + s.length
  · rw [if_pos hs, List.getElem?_append_left (by omega)]
  · rw [if_neg hs, List.getElem?_append_right (by omega),
      List.getElem?_eq_none (show s.length ≤ i - n by omega), Nat.sub_add_eq]
    rfl

theorem storeAt_nil (mem : ℕ → α) (n : ℕ) : storeAt mem n [] = mem := by
  funext i
  exact ite_self (mem i)

theorem storeAt_singleton (mem : ℕ → α) (n : ℕ) (a : α) :
    storeAt mem n [a] = Function.update mem n a := by
  funext i
  unfold storeAt
  by_cases hi : i = n
  · subst hi
    rw [if_neg (Nat.lt_irrefl i), Nat.sub_self, Function.update_self]
    rfl
  rw [Function.update_of_ne hi]
  by_cases hlt : i < n
  · rw [if_pos hlt]
  · rw [if_neg hlt, List.getElem?_eq_none (by rw [List.length_singleton]; omega)]
    rfl

/-- The first cells of a buffer. -/
def read (mem : ℕ → α) (n : ℕ) : List α := (List.range n).map mem

theorem read_add (mem : ℕ → α) (m n : ℕ) :
    read mem (m + n) = read mem m ++ (List.range n).map fun i => mem (m + i) := by
  rw [read, List.range_add, List.map_append, List.map_map]
  rfl

/-- Cells that are known one by one. -/
theorem read_eq {mem : ℕ → α} {s : List α} (h : ∀ i (hi : i < s.length), mem i = s[i]) :
    read mem s.length = s := by
  refine List.ext_getElem (by simp [read]) ?_
  intro i _ hi
  simp only [read, List.getElem_map, List.getElem_range]
  exact h i hi

theorem read_store (mem : ℕ → α) (s : List α) : read (store mem s) s.length = s :=
  read_eq fun _ hi => store_of_lt mem hi

/-- Two writes, the second behind the first. -/
theorem read_storeAt (mem : ℕ → α) (s t : List α) :
    read (storeAt (store mem s) s.length t) (s.length + t.length) = s ++ t := by
  refine List.ext_getElem (by simp [read]) ?_
  intro i _ hi
  simp only [read, List.getElem_map, List.getElem_range, storeAt]
  by_cases hlt : i < s.length
  · rw [if_pos hlt, store_of_lt mem hlt, List.getElem_append_left hlt]
  · have hi' : i - s.length < t.length := by
      rw [List.length_append] at hi
      omega
    rw [if_neg hlt, List.getElem_append_right (Nat.not_lt.mp hlt), List.getElem?_eq_getElem hi']
    rfl

variable [OfNat α 0]

/-- Copy a string and its terminator to the beginning of a buffer. -/
def storeString (mem : ℕ → α) (s : List α) : ℕ → α := Function.update (store mem s) s.length 0

/-- The buffer begins with the string and its terminator. -/
structure HoldsString (mem : ℕ → α) (s : List α) : Prop where
  cell : ∀ i (h : i < s.length), mem i = s[i]
  terminator : mem s.length = 0

theorem holdsString_storeString (mem : ℕ → α) (s : List α) :
    HoldsString (storeString mem s) s where
  cell i h := by
    rw [storeString, Function.update_of_ne (Nat.ne_of_lt h)]
    exact store_of_lt mem h
  terminator := Function.update_self _ _ _

/-- A terminator in the place of the last cell that was written. -/
theorem holdsString_dropLast (mem : ℕ → α) (s : List α) :
    HoldsString (Function.update (store mem s) (s.length - 1) 0) s.dropLast where
  cell i h := by
    rw [List.length_dropLast] at h
    rw [Function.update_of_ne (Nat.ne_of_lt h), List.getElem_dropLast]
    exact store_of_lt mem (by omega)
  terminator := by
    rw [List.length_dropLast]
    exact Function.update_self _ _ _

/-- Behind the terminator nothing is written. -/
theorem storeString_of_lt (mem : ℕ → α) {s : List α} {i : ℕ} (h : s.length < i) :
    storeString mem s i = mem i := by
  rw [storeString, Function.update_of_ne (Nat.ne_of_gt h)]
  exact store_of_le mem (Nat.le_of_lt h)

/-- A string without zeros ends where the buffer has its first zero. -/
theorem HoldsString.length_le {mem : ℕ → α} {s s' : List α} (h : HoldsString mem s)
    (h' : HoldsString mem s') (hs' : 0 ∉ s') : s'.length ≤ s.length := by
  by_contra hlt
  have hcell := h'.cell s.length (by omega)
  rw [h.terminator] at hcell
  exact hs' (hcell ▸ List.getElem_mem _)

/-- A buffer holds only one string without zeros. -/
theorem HoldsString.unique {mem : ℕ → α} {s s' : List α} (h : HoldsString mem s)
    (h' : HoldsString mem s') (hs : 0 ∉ s) (hs' : 0 ∉ s') : s = s' := by
  refine List.ext_getElem (Nat.le_antisymm (h'.length_le h hs) (h.length_le h' hs')) ?_
  intro i hi hi'
  rw [← h.cell i hi, ← h'.cell i hi']

end Buffer
