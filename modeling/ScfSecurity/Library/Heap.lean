import Mathlib.Tactic.Common

/-!
# Heaps

Objects that a program creates and frees and refers to by pointers. A pointer is the
number of a cell; cells are handed out one after another and never again, so a pointer to
a freed object stays dangling.

## Main definitions

- `Heap.alloc`, `Heap.read`, `Heap.modify`, `Heap.free`: the operations
- `Heap.size`: how many pointers have been handed out
- `Heap.All`: every object that is alive has a property
- `Heap.count`: how many of the objects that are alive have a property

## Main results

- `Heap.All.alloc`, `Heap.All.modify`, `Heap.All.free`: the operations keep such a property
-/

namespace Automaton

/-- The cells handed out so far; a cell without an object has been freed. -/
structure Heap (α : Type*) where
  cells : List (Option α) := []
deriving DecidableEq

namespace Heap

variable {α : Type*}

/-- The object behind a pointer, unless it has been freed. -/
def read (i : ℕ) (h : Heap α) : Option α := h.cells[i]?.join

/-- A new object and the pointer to it. -/
def alloc (a : α) (h : Heap α) : ℕ × Heap α := (h.cells.length, ⟨h.cells ++ [some a]⟩)

/-- Change the object behind a pointer; through a dangling pointer nothing changes. -/
def modify (i : ℕ) (f : α → α) (h : Heap α) : Heap α := ⟨h.cells.modify i (Option.map f)⟩

def free (i : ℕ) (h : Heap α) : Heap α := ⟨h.cells.set i none⟩

theorem read_alloc (a : α) (h : Heap α) (i : ℕ) :
    (h.alloc a).2.read i = if i = (h.alloc a).1 then some a else h.read i := by
  show (h.cells ++ [some a])[i]?.join = if i = h.cells.length then some a else h.cells[i]?.join
  by_cases hi : i = h.cells.length
  · rw [if_pos hi, hi, List.getElem?_concat_length]
    rfl
  · rw [if_neg hi, List.getElem?_append]
    split
    · rfl
    · rw [List.getElem?_eq_none (by simp; omega), List.getElem?_eq_none (by omega)]

theorem read_modify (i : ℕ) (f : α → α) (h : Heap α) (j : ℕ) :
    (h.modify i f).read j = if i = j then (h.read j).map f else h.read j := by
  show (h.cells.modify i (Option.map f))[j]?.join = _
  rw [List.getElem?_modify, read]
  by_cases hij : i = j
  · obtain _ | _ | a := h.cells[j]? <;> simp [hij]
  · obtain _ | _ | a := h.cells[j]? <;> simp [hij]

/-- A change keeps the objects alive that are, and no others. -/
theorem read_modify_eq_none_iff {i : ℕ} {f : α → α} {h : Heap α} {j : ℕ} :
    (h.modify i f).read j = none ↔ h.read j = none := by
  rw [read_modify]
  split_ifs
  · exact Option.map_eq_none_iff
  · rfl

/-- A new object gets a pointer that nothing was behind. -/
theorem read_alloc_fst (a : α) (h : Heap α) : h.read (h.alloc a).1 = none := by
  show h.cells[h.cells.length]?.join = none
  rw [List.getElem?_eq_none (Nat.le_refl _)]
  rfl

/-- Nothing changes if the object does not. -/
theorem modify_eq_self {i : ℕ} {f : α → α} {h : Heap α} (hf : ∀ a, h.read i = some a → f a = a) :
    h.modify i f = h := by
  refine congrArg Heap.mk (List.ext_getElem? fun j => ?_)
  rw [List.getElem?_modify]
  by_cases hij : i = j
  · subst hij
    cases hcell : h.cells[i]? with
    | none => rfl
    | some cell =>
      cases cell with
      | none => simp
      | some a =>
        have hread : h.read i = some a := by rw [read, hcell]; rfl
        simp [hf a hread]
  · simp [hij]

/-- Two changes of one object. -/
theorem modify_modify (i : ℕ) (f f' : α → α) (h : Heap α) :
    (h.modify i f).modify i f' = h.modify i (f' ∘ f) := by
  refine congrArg Heap.mk (List.ext_getElem? fun j => ?_)
  simp only [modify, List.getElem?_modify]
  split_ifs
  · cases h.cells[j]? <;> simp
  · simp

/-- What is freed need not have been changed before. -/
theorem free_modify (i : ℕ) (f : α → α) (h : Heap α) : (h.modify i f).free i = h.free i := by
  refine congrArg Heap.mk (List.ext_getElem? fun j => ?_)
  simp only [modify, List.getElem?_set, List.length_modify, List.getElem?_modify]
  split_ifs
  · rfl
  · rfl
  · simp

/-- The number of pointers handed out. -/
def size (h : Heap α) : ℕ := h.cells.length

theorem alloc_fst (a : α) (h : Heap α) : (h.alloc a).1 = h.size := rfl

theorem read_alloc_size (a : α) (h : Heap α) : (h.alloc a).2.read h.size = some a := by
  rw [read_alloc, alloc_fst, if_pos rfl]

theorem read_alloc_of_ne (a : α) {h : Heap α} {i : ℕ} (hi : i ≠ h.size) :
    (h.alloc a).2.read i = h.read i := by
  rw [read_alloc, alloc_fst, if_neg hi]

@[simp] theorem size_alloc (a : α) (h : Heap α) : (h.alloc a).2.size = h.size + 1 := by
  simp [size, alloc]

@[simp] theorem size_modify (i : ℕ) (f : α → α) (h : Heap α) : (h.modify i f).size = h.size := by
  simp [size, modify]

@[simp] theorem size_free (i : ℕ) (h : Heap α) : (h.free i).size = h.size := by
  simp [size, free]

/-- A new object that is changed at once. -/
theorem modify_alloc (a : α) (h : Heap α) (f : α → α) :
    (h.alloc a).2.modify h.size f = (h.alloc (f a)).2 := by
  refine congrArg Heap.mk (List.ext_getElem? fun j => ?_)
  simp only [alloc, size, List.getElem?_modify, List.getElem?_append]
  by_cases hj : h.cells.length = j
  · subst hj
    simp
  · have hnone : ∀ b : Option α, j < h.cells.length ∨ [b][j - h.cells.length]? = none := by
      intro b
      by_cases hlt : j < h.cells.length
      · exact .inl hlt
      · exact .inr (List.getElem?_eq_none (by simp; omega))
    rcases hnone (some a) with hlt | ha
    · simp [hj, hlt]
    · rcases hnone (some (f a)) with hlt | hfa
      · simp [hj, hlt]
      · rw [ha, hfa]
        simp [hj]

/-- There is nothing behind a pointer that has not been handed out. -/
theorem lt_size_of_read {i : ℕ} {h : Heap α} (hread : h.read i ≠ none) : i < h.size := by
  by_contra hlt
  exact hread (by rw [read, List.getElem?_eq_none (Nat.le_of_not_lt hlt)]; rfl)

/-- There is nothing behind the pointer that is handed out next. -/
theorem read_size (h : Heap α) : h.read h.size = none := by
  by_contra hread
  exact absurd (lt_size_of_read hread) (Nat.lt_irrefl _)

theorem read_free (i : ℕ) (h : Heap α) (j : ℕ) :
    (h.free i).read j = if i = j then none else h.read j := by
  show (h.cells.set i none)[j]?.join = if i = j then none else h.cells[j]?.join
  rw [List.getElem?_set]
  split_ifs <;> rfl

/-- Every object that is alive has the property. -/
def All (P : α → Prop) (h : Heap α) : Prop := ∀ i a, h.read i = some a → P a

variable {P : α → Prop} {h : Heap α}

theorem all_empty (P : α → Prop) : ({} : Heap α).All P := by
  intro i a ha
  simp [read] at ha

theorem All.alloc (hall : h.All P) {a : α} (ha : P a) : (h.alloc a).2.All P := by
  intro i b hb
  rw [read_alloc] at hb
  split_ifs at hb
  · obtain rfl := Option.some.inj hb
    exact ha
  · exact hall i b hb

theorem All.modify (hall : h.All P) {i : ℕ} {f : α → α}
    (hf : ∀ a, h.read i = some a → P a → P (f a)) : (h.modify i f).All P := by
  intro j b hb
  rw [read_modify] at hb
  split_ifs at hb with hij
  · subst hij
    obtain ⟨a, ha, rfl⟩ := Option.map_eq_some_iff.mp hb
    exact hf a ha (hall i a ha)
  · exact hall j b hb

theorem All.free (hall : h.All P) (i : ℕ) : (h.free i).All P := by
  intro j b hb
  rw [read_free] at hb
  split_ifs at hb
  exact hall j b hb

/-- How many of the objects that are alive have the property. -/
def count (p : α → Bool) (h : Heap α) : ℕ := h.cells.countP fun cell => cell.any p

theorem count_alloc (p : α → Bool) (a : α) (h : Heap α) :
    (h.alloc a).2.count p = h.count p + if p a then 1 else 0 := by
  show (h.cells ++ [some a]).countP _ = _
  rw [List.countP_append, List.countP_singleton]
  rfl

theorem count_free (p : α → Bool) {h : Heap α} {i : ℕ} {a : α} (hread : h.read i = some a) :
    (h.free i).count p = h.count p - if p a then 1 else 0 := by
  have hcell : h.cells[i]? = some (some a) := Option.join_eq_some_iff.mp hread
  obtain ⟨hi, hget⟩ := List.getElem?_eq_some_iff.mp hcell
  show (h.cells.set i none).countP _ = _
  rw [List.countP_set hi, hget]
  rfl

/-- An object with the property is counted. -/
theorem count_pos {p : α → Bool} {h : Heap α} {i : ℕ} {a : α} (hread : h.read i = some a)
    (ha : p a = true) : 0 < h.count p := by
  have hcell : h.cells[i]? = some (some a) := Option.join_eq_some_iff.mp hread
  exact List.countP_pos_iff.mpr ⟨some a, List.mem_of_getElem? hcell, ha⟩

theorem count_eq_zero {p : α → Bool} {h : Heap α} (hall : h.All fun a => p a = false) :
    h.count p = 0 := by
  refine List.countP_eq_zero.mpr fun cell hcell => ?_
  obtain ⟨i, hi⟩ := List.mem_iff_getElem?.mp hcell
  cases cell with
  | none => simp
  | some a =>
    have hread : h.read i = some a := by rw [read, hi]; rfl
    simp [hall i a hread]

end Heap

end Automaton
