import Mathlib.Data.List.Infix
import Mathlib.Tactic.Common

/-!
# Path names

A path is a list with separators in it. Its names are what stands between them; separators that
follow each other have no name between them.

## Main definitions

- `names`: the names of a path
- `Rooted`: the path is empty or begins with a separator

## Main results

- `exists_eq_append`: a path cut at its last separator
- `infix_iff_mem_names`: a name between two separators is one before the last
-/

namespace PathName

variable {α : Type*} {sep : α}

/-- A separator in front of each part. -/
theorem cons_intercalate {parts : List (List α)} (h : parts ≠ []) :
    sep :: [sep].intercalate parts = parts.flatMap (sep :: ·) := by
  induction parts with
  | nil => exact absurd rfl h
  | cons c rest ih =>
    by_cases hrest : rest = []
    · subst hrest
      simp
    · rw [List.intercalate_cons_of_ne_nil hrest, List.flatMap_cons, ← ih hrest]
      simp

variable [DecidableEq α] (sep)

/-- The names of a path. -/
def names (p : List α) : List (List α) := (p.splitOn sep).filter fun c => c ≠ []

/-- The path begins with a separator, if there is anything in it. -/
def Rooted (p : List α) : Prop := p = [] ∨ p.head? = some sep

variable {sep}

theorem mem_names {p c : List α} : c ∈ names sep p ↔ c ∈ p.splitOn sep ∧ c ≠ [] := by
  simp [names]

theorem names_append (p q : List α) : names sep (p ++ sep :: q) = names sep p ++ names sep q := by
  rw [names, List.splitOn_append_cons_self, List.filter_append]
  rfl

theorem names_nil : names sep ([] : List α) = [] := by
  simp [names]

/-- One name, without separators. -/
theorem names_of_notMem {c : List α} (hc : c ≠ []) (hsep : sep ∉ c) : names sep c = [c] := by
  rw [names, List.splitOn_eq_singleton hsep, List.filter_cons_of_pos (by simpa using hc)]
  rfl

/-- A path with a separator, cut at the last one. -/
theorem exists_eq_append {p : List α} (h : sep ∈ p) :
    ∃ dir name, p = dir ++ sep :: name ∧ sep ∉ name := by
  induction p with
  | nil => exact absurd h List.not_mem_nil
  | cons a p ih =>
    by_cases hp : sep ∈ p
    · obtain ⟨dir, name, rfl, hname⟩ := ih hp
      exact ⟨a :: dir, name, rfl, hname⟩
    · obtain rfl | hmem := List.mem_cons.mp h
      · exact ⟨[], p, rfl, hp⟩
      · exact absurd hmem hp

/-- The list before the last separator, found from the end. -/
theorem reverse_dropWhile_tail {dir name : List α} (hname : sep ∉ name) :
    ((dir ++ sep :: name).reverse.dropWhile (· ≠ sep)).tail.reverse = dir := by
  have hall : ∀ a ∈ name.reverse, decide (a ≠ sep) = true := by
    intro a ha
    refine decide_eq_true fun heq => hname ?_
    exact heq ▸ List.mem_reverse.mp ha
  rw [List.reverse_append, List.reverse_cons, List.append_assoc,
    List.dropWhile_append_of_pos hall]
  simp

/-- In a path, a name stands between two separators exactly if it is a name before the last
separator. -/
theorem infix_iff_mem_names {dir name c : List α} (hdir : Rooted sep dir) (hname : sep ∉ name)
    (hc : c ≠ []) (hsep : sep ∉ c) :
    sep :: (c ++ [sep]) <:+: dir ++ sep :: name ↔ c ∈ names sep dir := by
  rw [mem_names]
  constructor
  · rintro ⟨a, b, heq⟩
    refine ⟨?_, hc⟩
    -- the parts of the path, cut once at the infix and once at the last separator
    have hparts : a.splitOn sep ++ c :: b.splitOn sep = dir.splitOn sep ++ [name] := by
      rw [← List.splitOn_eq_singleton hname, ← List.splitOn_append_cons_self, ← heq]
      simp only [List.append_assoc, List.cons_append, List.nil_append]
      rw [List.splitOn_append_cons_self, List.splitOn_append_cons_self_of_not_mem hsep]
    have hdrop := congrArg List.dropLast hparts
    rw [List.dropLast_concat, List.dropLast_append_of_ne_nil (List.cons_ne_nil c _),
      List.dropLast_cons_of_ne_nil (List.splitOn_ne_nil sep b)] at hdrop
    rw [← hdrop]
    exact List.mem_append_right _ List.mem_cons_self
  · rintro ⟨hmem, -⟩
    obtain ⟨r, rfl⟩ : ∃ r, dir = sep :: r := by
      obtain rfl | hhead := hdir
      · simp [hc] at hmem
      · exact List.head?_eq_some_iff.mp hhead
    have hmem' : c ∈ r.splitOn sep := by
      have hcut := List.splitOn_append_cons_self (a := sep) [] r
      rw [List.nil_append, List.splitOn_nil] at hcut
      rw [hcut] at hmem
      exact (List.mem_cons.mp hmem).resolve_left hc
    obtain ⟨xs, ys, hr⟩ := List.append_of_mem hmem'
    have heq : sep :: r = (xs ++ c :: ys).flatMap (sep :: ·) := by
      rw [← hr, ← cons_intercalate (List.splitOn_ne_nil sep r), List.intercalate_splitOn]
    have hnext : ∃ t, ys.flatMap (sep :: ·) ++ sep :: name = sep :: t := by
      cases ys with
      | nil => exact ⟨name, rfl⟩
      | cons y ys => exact ⟨_, rfl⟩
    obtain ⟨t, ht⟩ := hnext
    refine ⟨xs.flatMap (sep :: ·), t, ?_⟩
    rw [heq, List.flatMap_append, List.flatMap_cons, List.append_assoc, List.append_assoc,
      List.append_assoc, ht]
    simp

end PathName
