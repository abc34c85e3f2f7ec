import Mathlib.Data.List.Perm.Lattice
import Mathlib.Tactic.Common

/-!
# Ordered maps as lists

A map that is kept in the order of its keys lists its entries in that order. If each new key is
larger than all keys in use, then this is the order in which the entries came.

## Main results

- `toList_insert_of_lt`: a new largest key comes last
- `toList_erase`: an erased key leaves the others in their order
-/

namespace OrderedMap

variable {α β : Type*} [Ord α] [Std.TransOrd α]

/-- The keys increase along the list. -/
def Increasing (entries : List (α × β)) : Prop :=
  entries.Pairwise fun a b => compare a.1 b.1 = .lt

theorem Increasing.nodup {entries : List (α × β)} (h : Increasing entries) : entries.Nodup := by
  refine List.Pairwise.imp ?_ h
  rintro a b hlt rfl
  rw [Std.ReflOrd.compare_self] at hlt
  cases hlt

/-- The order of the keys leaves only one order for the entries. -/
theorem Increasing.eq_of_mem_iff {entries entries' : List (α × β)} (h : Increasing entries)
    (h' : Increasing entries') (hmem : ∀ a, a ∈ entries ↔ a ∈ entries') : entries = entries' := by
  have hperm : entries.Perm entries' := (List.perm_ext_iff_of_nodup h.nodup h'.nodup).mpr hmem
  refine hperm.eq_of_pairwise ?_ h h'
  intro a b _ _ hab hba
  rw [Std.OrientedOrd.eq_swap, hba] at hab
  cases hab

theorem increasing_toList (t : Std.TreeMap α β) : Increasing t.toList :=
  Std.TreeMap.ordered_keys_toList

variable [Std.LawfulEqOrd α]

/-- A key above all others comes last. -/
theorem toList_insert_of_lt {t : Std.TreeMap α β} {k : α} (v : β)
    (h : ∀ (k' : α) v', t[k']? = some v' → compare k' k = .lt) :
    (t.insert k v).toList = t.toList ++ [(k, v)] := by
  have hincreasing : Increasing (t.toList ++ [(k, v)]) := by
    refine List.pairwise_append.mpr ⟨increasing_toList t, List.pairwise_singleton _ _, ?_⟩
    intro a ha b hb
    rw [List.mem_singleton.mp hb]
    exact h a.1 a.2 (Std.TreeMap.mem_toList_iff_getElem?_eq_some.mp ha)
  refine (increasing_toList _).eq_of_mem_iff hincreasing ?_
  rintro ⟨k', v'⟩
  rw [Std.TreeMap.mem_toList_iff_getElem?_eq_some, List.mem_append, List.mem_singleton,
    Std.TreeMap.mem_toList_iff_getElem?_eq_some, Std.TreeMap.getElem?_insert]
  by_cases hkey : k = k'
  · subst hkey
    have hfree : t[k]? ≠ some v' := by
      intro hsome
      have hlt := h k v' hsome
      rw [Std.ReflOrd.compare_self] at hlt
      cases hlt
    simp [hfree, eq_comm]
  · rw [if_neg fun heq => hkey (Std.LawfulEqOrd.eq_of_compare heq)]
    simp [Ne.symm hkey]

/-- Erasing a key takes its entry out. -/
theorem toList_erase [DecidableEq α] (t : Std.TreeMap α β) (k : α) :
    (t.erase k).toList = t.toList.filter fun a => a.1 ≠ k := by
  refine (increasing_toList _).eq_of_mem_iff ((increasing_toList t).filter _) ?_
  rintro ⟨k', v'⟩
  rw [Std.TreeMap.mem_toList_iff_getElem?_eq_some, List.mem_filter,
    Std.TreeMap.mem_toList_iff_getElem?_eq_some, Std.TreeMap.getElem?_erase]
  by_cases hkey : k = k'
  · subst hkey
    simp
  · rw [if_neg fun heq => hkey (Std.LawfulEqOrd.eq_of_compare heq)]
    simp [Ne.symm hkey]

end OrderedMap
