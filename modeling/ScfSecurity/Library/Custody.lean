import ScfSecurity.Library.Heap
import Mathlib.Data.Set.Insert
import Mathlib.Logic.Function.Basic

/-!
# Custody

Several holders share a heap, and each keeps at most one pointer into it. A holder works through its
own pointer and through pointers to objects it has just created, so it cannot touch what the others
keep. Holders that keep several pointers come at the end.

## Main definitions

- `Heap.Confined`: what a holder may do to the heap and to its pointer
- `Heap.Separate`: no two holders keep the same pointer
- `Heap.Trades`: a step of a holder that neither loses an object nor frees one twice
- `Heap.Ledger`: every object is kept by the holder that has acquired it
- `Heap.Spares`, `Heap.Apart`: the same for holders that keep several pointers
- `Heap.Deals`, `Heap.Estate`: exact custody of several pointers
- `Heap.behind`, `Heap.deref`: holders of one pointer each, and what they see through it
- `Heap.Stable`: what a view shows of the objects stays the same

## Main results

- `Heap.Confined.trans`: one step after another
- `Heap.Separate.update`, `Heap.Separate.read_eq`: a step of one holder keeps the pointers
  separate, and the objects of the others as they are
- `Heap.Trades.trans`, `Heap.Ledger.update`: such steps one after another, and in the ledger
- `Heap.Apart.step`, `Heap.Apart.live`: a step of a holder of several pointers
- `Heap.Deals.trans`, `Heap.Estate.update`: the same with exact custody
- `Heap.Estate.updatePtr`, `Heap.Estate.deref_update`: a step of a holder of one pointer
-/

namespace Automaton

namespace Heap

variable {α : Type*}

/-- A holder with the first pointer changes or frees its own object and creates new ones; of these
it may keep one instead of its own. -/
structure Confined (ptr ptr' : Option ℕ) (h h' : Heap α) : Prop where
  size_le : h.size ≤ h'.size
  others : ∀ i, i < h.size → ptr ≠ some i → h'.read i = h.read i
  kept : ptr' = ptr ∨ ∀ i, ptr' = some i → h.size ≤ i ∧ i < h'.size

theorem Confined.refl (ptr : Option ℕ) (h : Heap α) : Confined ptr ptr h h :=
  ⟨Nat.le_refl _, fun _ _ _ => rfl, .inl rfl⟩

/-- The object behind the pointer is changed or freed. -/
theorem Confined.of_others {ptr ptr' : Option ℕ} {h h' : Heap α} (hsize : h'.size = h.size)
    (hothers : ∀ i, ptr ≠ some i → h'.read i = h.read i) (hkept : ptr' = ptr ∨ ptr' = none) :
    Confined ptr ptr' h h' := by
  refine ⟨by omega, fun i _ hi => hothers i hi, hkept.imp_right fun hnone i hi => ?_⟩
  rw [hnone] at hi
  cases hi

/-- An object is created, and its pointer forgotten. -/
theorem Confined.alloc (ptr : Option ℕ) (a : α) (h : Heap α) :
    Confined ptr ptr h (h.alloc a).2 := by
  refine ⟨by rw [size_alloc]; omega, fun i hi _ => ?_, .inl rfl⟩
  rw [read_alloc, alloc_fst, if_neg (by omega)]

/-- An object is created and kept. -/
theorem Confined.alloc_keep (ptr : Option ℕ) (a : α) (h : Heap α) :
    Confined ptr (some h.size) h (h.alloc a).2 := by
  refine ⟨(alloc ptr a h).size_le, (alloc ptr a h).others, .inr fun i hi => ?_⟩
  obtain rfl := Option.some.inj hi
  rw [size_alloc]
  omega

/-- A step that works with new objects only. -/
theorem Confined.weaken {h h' : Heap α} (hc : Confined none none h h') (ptr : Option ℕ) :
    Confined ptr ptr h h' := ⟨hc.size_le, fun i hi _ => hc.others i hi nofun, .inl rfl⟩

/-- The pointer is given up. -/
theorem Confined.forget {ptr ptr' : Option ℕ} {h h' : Heap α} (hc : Confined ptr ptr' h h') :
    Confined ptr none h h' := ⟨hc.size_le, hc.others, .inr nofun⟩

theorem Confined.trans {ptr ptr' ptr'' : Option ℕ} {h h' h'' : Heap α}
    (hc : Confined ptr ptr' h h') (hc' : Confined ptr' ptr'' h' h'') : Confined ptr ptr'' h h'' := by
  have hsize := hc.size_le
  have hsize' := hc'.size_le
  refine ⟨by omega, fun i hi hne => ?_, ?_⟩
  · have hne' : ptr' ≠ some i := by
      rcases hc.kept with rfl | hfresh
      · exact hne
      · intro heq
        have := (hfresh i heq).1
        omega
    rw [hc'.others i (by omega) hne', hc.others i hi hne]
  · rcases hc'.kept with rfl | hfresh'
    · exact hc.kept.imp_right fun hfresh i hi => ⟨(hfresh i hi).1, by have := (hfresh i hi).2; omega⟩
    · refine .inr fun i hi => ?_
      have := hfresh' i hi
      omega

/-- Every pointer that is kept has been handed out, and to one holder only. -/
structure Separate (held : ℕ → Option ℕ) (h : Heap α) : Prop where
  lt_size : ∀ i x, held i = some x → x < h.size
  unique : ∀ i j x, held i = some x → held j = some x → i = j

theorem separate_none (h : Heap α) : Separate (fun _ => none) h := ⟨nofun, nofun⟩

variable {held : ℕ → Option ℕ} {h h' : Heap α} {i : ℕ} {ptr : Option ℕ}

/-- A step of one holder does not touch what the others keep. -/
theorem Separate.read_eq (hsep : Separate held h) (hc : Confined (held i) ptr h h') {j x : ℕ}
    (hj : j ≠ i) (hx : held j = some x) : h'.read x = h.read x :=
  hc.others x (hsep.lt_size j x hx) fun hi => hj (hsep.unique j i x hx hi)

theorem Separate.update (hsep : Separate held h) (hc : Confined (held i) ptr h h') :
    Separate (Function.update held i ptr) h' := by
  have hsize := hc.size_le
  -- the pointer of the holder is its old one, or new in the heap
  have hnew : ∀ x, ptr = some x → x < h'.size ∧ ∀ j, j ≠ i → held j ≠ some x := by
    intro x hx
    rcases hc.kept with rfl | hfresh
    · have := hsep.lt_size i x hx
      exact ⟨by omega, fun j hj hjx => hj (hsep.unique j i x hjx hx)⟩
    · refine ⟨(hfresh x hx).2, fun j _ hjx => ?_⟩
      have := hsep.lt_size j x hjx
      have := (hfresh x hx).1
      omega
  refine ⟨fun j x hx => ?_, fun j k x hj hk => ?_⟩
  · by_cases hji : j = i
    · subst hji
      rw [Function.update_self] at hx
      exact (hnew x hx).1
    · rw [Function.update_of_ne hji] at hx
      have := hsep.lt_size j x hx
      omega
  · by_cases hji : j = i
    · by_cases hki : k = i
      · rw [hji, hki]
      · rw [hji, Function.update_self] at hj
        rw [Function.update_of_ne hki] at hk
        exact absurd hk ((hnew x hj).2 k hki)
    · rw [Function.update_of_ne hji] at hj
      by_cases hki : k = i
      · rw [hki, Function.update_self] at hk
        exact absurd hj ((hnew x hk).2 j hji)
      · rw [Function.update_of_ne hki] at hk
        exact hsep.unique j k x hj hk

/-! ### Exact custody -/

/-- A holder with the first pointer ends with the second one. Its own object is alive afterwards
exactly if it keeps it, it keeps what it creates, and of the objects of others the view `v` stays as
it is. -/
structure Trades {β : Type*} (v : α → β) (ptr ptr' : Option ℕ) (h h' : Heap α) : Prop where
  size_le : h.size ≤ h'.size
  others : ∀ x, x < h.size → ptr ≠ some x → (h'.read x).map v = (h.read x).map v
  given : ∀ x, ptr = some x → ptr' ≠ some x → h'.read x = none
  fresh : ∀ x, h.size ≤ x → h'.read x ≠ none → ptr' = some x
  kept : ∀ x, ptr' = some x → h'.read x ≠ none ∧ (ptr = some x ∨ h.size ≤ x)

section Trades

variable {β : Type*} {v : α → β}

/-- The same view of an object, or of none. -/
theorem read_ne_none_of_map {h h' : Heap α} {x : ℕ} (hmap : (h'.read x).map v = (h.read x).map v)
    (hne : h.read x ≠ none) : h'.read x ≠ none := by
  intro hnone
  rw [hnone] at hmap
  exact hne (Option.map_eq_none_iff.mp hmap.symm)

/-- Nothing is created or freed, and the holder keeps its pointer. -/
theorem Trades.of_map {ptr : Option ℕ} {h h' : Heap α} (hsize : h'.size = h.size)
    (hmap : ∀ x, ptr ≠ some x → (h'.read x).map v = (h.read x).map v)
    (hlive : ∀ x, ptr = some x → h'.read x ≠ none) : Trades v ptr ptr h h' := by
  refine ⟨by omega, fun x _ => hmap x, fun x hx hne => absurd hx hne, fun x hx hread => ?_,
    fun x hx => ⟨hlive x hx, .inl hx⟩⟩
  have := lt_size_of_read hread
  omega

theorem Trades.refl {ptr : Option ℕ} {h : Heap α} (hlive : ∀ x, ptr = some x → h.read x ≠ none) :
    Trades v ptr ptr h h := .of_map rfl (fun _ _ => rfl) hlive

/-- A holder without an object creates one. -/
theorem Trades.alloc (v : α → β) (a : α) (h : Heap α) :
    Trades v none (some h.size) h (h.alloc a).2 := by
  refine ⟨by rw [size_alloc]; omega, fun x hx _ => ?_, nofun, fun x hx hread => ?_, fun x hx => ?_⟩
  · rw [read_alloc, alloc_fst, if_neg (by omega)]
  · have := lt_size_of_read hread
    rw [size_alloc] at this
    exact congrArg some (by omega)
  · obtain rfl := Option.some.inj hx
    rw [read_alloc, alloc_fst, if_pos rfl]
    exact ⟨nofun, .inr (Nat.le_refl _)⟩

/-- A holder frees its object. -/
theorem Trades.of_freed {ptr : Option ℕ} {h h' : Heap α} (hsize : h'.size = h.size)
    (hmap : ∀ x, ptr ≠ some x → (h'.read x).map v = (h.read x).map v)
    (hfreed : ∀ x, ptr = some x → h'.read x = none) : Trades v ptr none h h' := by
  refine ⟨by omega, fun x _ => hmap x, fun x hx _ => hfreed x hx, fun x hx hread => ?_, nofun⟩
  have := lt_size_of_read hread
  omega

theorem Trades.free (v : α → β) (x : ℕ) (h : Heap α) : Trades v (some x) none h (h.free x) := by
  refine .of_freed (size_free x h) (fun y hy => ?_) fun y hy => ?_
  · rw [read_free, if_neg fun hxy => hy (congrArg some hxy)]
  · rw [read_free, if_pos (Option.some.inj hy)]

theorem Trades.trans {ptr ptr' ptr'' : Option ℕ} {h h' h'' : Heap α}
    (ht : Trades v ptr ptr' h h') (ht' : Trades v ptr' ptr'' h' h'') :
    Trades v ptr ptr'' h h'' := by
  have hsize := ht.size_le
  have hsize' := ht'.size_le
  -- what is dead in the middle and not created after it is dead at the end
  have hdead : ∀ x, h'.read x = none → ptr' ≠ some x → ptr'' ≠ some x → h''.read x = none := by
    intro x hread hne hne'
    by_contra hlive
    by_cases hx : x < h'.size
    · have hmap := ht'.others x hx hne
      rw [hread] at hmap
      exact hlive (Option.map_eq_none_iff.mp hmap)
    · exact hne' (ht'.fresh x (by omega) hlive)
  refine ⟨by omega, fun x hx hne => ?_, fun x hx hne => ?_, fun x hx hlive => ?_, fun x hx => ?_⟩
  · have hne' : ptr' ≠ some x := by
      intro hx'
      rcases (ht.kept x hx').2 with heq | hge
      · exact hne heq
      · omega
    rw [ht'.others x (by omega) hne', ht.others x hx hne]
  · by_cases hx' : ptr' = some x
    · exact ht'.given x hx' hne
    · exact hdead x (ht.given x hx hx') hx' hne
  · by_contra hne
    by_cases hx' : ptr' = some x
    · exact hlive (ht'.given x hx' hne)
    · refine hlive (hdead x ?_ hx' hne)
      by_contra hread
      exact hx' (ht.fresh x hx hread)
  · obtain ⟨hread, hold | hnew⟩ := ht'.kept x hx
    · exact ⟨hread, (ht.kept x hold).2⟩
    · exact ⟨hread, .inr (by omega)⟩

end Trades

/-- The objects that are alive are just those that are kept, each by its owner. -/
structure Ledger (held : ℕ → Option ℕ) (owner : ℕ → ℕ) (h : Heap α) : Prop where
  live : ∀ i x, held i = some x → h.read x ≠ none ∧ owner x = i
  held : ∀ x, h.read x ≠ none → held (owner x) = some x

/-- The owners after a step: what is new belongs to the one that has taken it. -/
def owners (h : Heap α) (i : ℕ) (owner : ℕ → ℕ) (x : ℕ) : ℕ := if x < h.size then owner x else i

section Ledger

variable {β : Type*} {v : α → β} {owner : ℕ → ℕ}

theorem Ledger.trades_eq (hl : Ledger held owner h) (ht : Trades v (held i) ptr h h') {j x : ℕ}
    (hj : j ≠ i) (hx : held j = some x) : (h'.read x).map v = (h.read x).map v := by
  obtain ⟨hlive, hown⟩ := hl.live j x hx
  refine ht.others x (lt_size_of_read hlive) fun hi => hj ?_
  rw [← hown, (hl.live i x hi).2]

/-- **Step rule** of the ledger. -/
theorem Ledger.update (hl : Ledger held owner h) (ht : Trades v (held i) ptr h h') :
    Ledger (Function.update held i ptr) (owners h i owner) h' := by
  have hsize := ht.size_le
  have hlt : ∀ x, h.read x ≠ none → x < h.size := fun x => lt_size_of_read
  refine ⟨fun j x hx => ?_, fun x hread' => ?_⟩
  · unfold owners
    by_cases hj : j = i
    · subst hj
      rw [Function.update_self] at hx
      obtain ⟨hread', hold | hnew⟩ := ht.kept x hx
      · rw [if_pos (hlt x (hl.live j x hold).1)]
        exact ⟨hread', (hl.live j x hold).2⟩
      · rw [if_neg (by omega)]
        exact ⟨hread', rfl⟩
    · rw [Function.update_of_ne hj] at hx
      obtain ⟨hlive, hown⟩ := hl.live j x hx
      rw [if_pos (hlt x hlive)]
      exact ⟨read_ne_none_of_map (hl.trades_eq ht hj hx) hlive, hown⟩
  · unfold owners
    by_cases hx : x < h.size
    · rw [if_pos hx]
      by_cases hptr : ptr = some x
      · have hold := (ht.kept x hptr).2.resolve_right (by omega)
        rw [(hl.live i x hold).2, Function.update_self, hptr]
      · have hne : held i ≠ some x := fun hi => hread' (ht.given x hi hptr)
        have hlive : h.read x ≠ none := read_ne_none_of_map (ht.others x hx hne).symm hread'
        have hkeeps := hl.held x hlive
        have hown : owner x ≠ i := by
          rintro rfl
          exact hne hkeeps
        rw [Function.update_of_ne hown]
        exact hkeeps
    · rw [if_neg hx, Function.update_self]
      exact ht.fresh x (by omega) hread'

end Ledger

/-! ### Holders of several pointers -/

/-- A holder of the first set of pointers frees nothing else. Afterwards it keeps some of them, and
pointers to what it has created. -/
structure Spares (S S' : Set ℕ) (h h' : Heap α) : Prop where
  size_le : h.size ≤ h'.size
  others : ∀ x, x ∉ S → h.read x ≠ none → h'.read x ≠ none
  kept : ∀ x, x ∈ S' → x ∈ S ∨ h.size ≤ x ∧ x < h'.size

theorem Spares.trans {S S' S'' : Set ℕ} {h h' h'' : Heap α} (hs : Spares S S' h h')
    (hs' : Spares S' S'' h' h'') : Spares S S'' h h'' := by
  have hsize := hs.size_le
  have hsize' := hs'.size_le
  refine ⟨by omega, fun x hx hlive => ?_, fun x hx => ?_⟩
  · refine hs'.others x (fun hx' => ?_) (hs.others x hx hlive)
    have hlt := lt_size_of_read hlive
    rcases hs.kept x hx' with hold | hnew
    · exact hx hold
    · omega
  · rcases hs'.kept x hx with hold | hnew
    · exact (hs.kept x hold).imp_right fun hnew => ⟨hnew.1, by omega⟩
    · exact .inr (by omega)

/-- Every pointer that is kept has been handed out, and no two holders keep the same one. -/
structure Apart (held : ℕ → Set ℕ) (h : Heap α) : Prop where
  lt_size : ∀ i x, x ∈ held i → x < h.size
  unique : ∀ i j x, x ∈ held i → x ∈ held j → i = j

/-- **Step rule** for several pointers: one holder takes a step, and the others keep no more than
before. -/
theorem Apart.step {held held' : ℕ → Set ℕ} {h h' : Heap α} {i : ℕ} (ha : Apart held h)
    (hs : Spares (held i) (held' i) h h') (hothers : ∀ j, j ≠ i → held' j ⊆ held j) :
    Apart held' h' := by
  have hsize := hs.size_le
  -- what the holder keeps was its own, or is new
  have hnew : ∀ x, x ∈ held' i → x < h'.size ∧ ∀ j, j ≠ i → x ∉ held j := by
    intro x hx
    rcases hs.kept x hx with hold | hfresh
    · have := ha.lt_size i x hold
      exact ⟨by omega, fun j hj hjx => hj (ha.unique j i x hjx hold)⟩
    · refine ⟨hfresh.2, fun j _ hjx => ?_⟩
      have := ha.lt_size j x hjx
      omega
  refine ⟨fun j x hx => ?_, fun j k x hj hk => ?_⟩
  · by_cases hji : j = i
    · subst hji
      exact (hnew x hx).1
    · have := ha.lt_size j x (hothers j hji hx)
      omega
  · by_cases hji : j = i
    · by_cases hki : k = i
      · rw [hji, hki]
      · subst hji
        exact absurd (hothers k hki hk) ((hnew x hj).2 k hki)
    · by_cases hki : k = i
      · subst hki
        exact absurd (hothers j hji hj) ((hnew x hk).2 j hji)
      · exact ha.unique j k x (hothers j hji hj) (hothers k hki hk)

/-- What another holder keeps stays alive. -/
theorem Apart.live {held : ℕ → Set ℕ} {S : Set ℕ} {h h' : Heap α} {i j x : ℕ} (ha : Apart held h)
    (hs : Spares (held i) S h h') (hj : j ≠ i) (hx : x ∈ held j) (hlive : h.read x ≠ none) :
    h'.read x ≠ none :=
  hs.others x (fun hi => hj (ha.unique j i x hx hi)) hlive

/-! ### Exact custody of several pointers -/

/-- A holder of the first set of pointers ends with the second one. It leaves the objects of others
as they are, and of the objects with the property `P` it loses none: those it gives up it frees. -/
structure Deals (P : α → Prop) (S S' : Set ℕ) (h h' : Heap α) : Prop where
  size_le : h.size ≤ h'.size
  others : ∀ x, x < h.size → x ∉ S → h'.read x = h.read x
  given : ∀ x a, x ∈ S → x ∉ S' → h'.read x = some a → ¬P a
  fresh : ∀ x a, h.size ≤ x → h'.read x = some a → P a → x ∈ S'
  kept : ∀ x, x ∈ S' → h'.read x ≠ none ∧ (x ∈ S ∨ h.size ≤ x)

/-- The object behind a pointer is freed, if there is one. -/
def freePtr (ptr : Option ℕ) (h : Heap α) : Heap α :=
  match ptr with
  | none => h
  | some x => h.free x

theorem read_freePtr_of_ne {ptr : Option ℕ} {x : ℕ} {h : Heap α} (hne : ptr ≠ some x) :
    (h.freePtr ptr).read x = h.read x := by
  cases ptr with
  | none => rfl
  | some y =>
    show (h.free y).read x = _
    rw [read_free, if_neg fun heq : y = x => hne (congrArg some heq)]

section Deals

variable {P : α → Prop} {S S' S'' : Set ℕ} {h h' h'' : Heap α}

theorem Deals.refl (P : α → Prop) (hlive : ∀ x, x ∈ S → h.read x ≠ none) : Deals P S S h h := by
  refine ⟨Nat.le_refl _, fun _ _ _ => rfl, fun x _ hx hx' => absurd hx hx', fun x a hx hread => ?_,
    fun x hx => ⟨hlive x hx, .inl hx⟩⟩
  have := lt_size_of_read (show h.read x ≠ none by rw [hread]; nofun)
  omega

theorem Deals.alloc (P : α → Prop) (hlive : ∀ x, x ∈ S → h.read x ≠ none) (a : α) :
    Deals P S (insert h.size S) h (h.alloc a).2 := by
  have hlt : ∀ x, x ∈ S → x < h.size := fun x hx => lt_size_of_read (hlive x hx)
  refine ⟨by rw [size_alloc]; omega, fun x hx _ => ?_, fun x _ hx hx' => ?_, fun x b hx hread _ => ?_,
    fun x hx => ?_⟩
  · rw [read_alloc, alloc_fst, if_neg (by omega)]
  · exact absurd (Set.mem_insert_of_mem _ hx) hx'
  · have hsize := lt_size_of_read (show (h.alloc a).2.read x ≠ none by rw [hread]; nofun)
    rw [size_alloc] at hsize
    exact .inl (by omega)
  · rw [read_alloc, alloc_fst]
    rcases hx with rfl | hx
    · rw [if_pos rfl]
      exact ⟨nofun, .inr (Nat.le_refl _)⟩
    · have := hlt x hx
      rw [if_neg (by omega)]
      exact ⟨hlive x hx, .inl hx⟩

theorem Deals.free (P : α → Prop) (hlive : ∀ x, x ∈ S → h.read x ≠ none) {x : ℕ} (hx : x ∈ S) :
    Deals P S (S \ {x}) h (h.free x) := by
  have hsize := size_free x h
  refine ⟨by omega, fun y _ hy => ?_, fun y a hy hy' hread => ?_, fun y a hy hread => ?_,
    fun y hy => ?_⟩
  · rw [read_free, if_neg fun heq : x = y => hy (heq ▸ hx)]
  · have heq : x = y := by
      by_contra hne
      exact hy' ⟨hy, fun hmem => hne hmem.symm⟩
    rw [read_free, if_pos heq] at hread
    cases hread
  · have := lt_size_of_read (show (h.free x).read y ≠ none by rw [hread]; nofun)
    omega
  · rw [read_free, if_neg fun heq : x = y => hy.2 heq.symm]
    exact ⟨hlive y hy.1, .inl hy.1⟩

theorem Deals.freePtr (P : α → Prop) (hlive : ∀ x, x ∈ S → h.read x ≠ none) (ptr : Option ℕ)
    (hptr : ∀ x, ptr = some x → x ∈ S) :
    Deals P S {x | x ∈ S ∧ ptr ≠ some x} h (h.freePtr ptr) := by
  cases ptr with
  | none =>
    have hset : {x | x ∈ S ∧ none ≠ some x} = S := by
      ext x
      simp
    rw [hset]
    exact .refl P hlive
  | some y =>
    have hset : {x | x ∈ S ∧ some y ≠ some x} = S \ {y} := by
      ext x
      simp [@eq_comm _ x]
    rw [hset]
    exact .free P hlive (hptr y rfl)

theorem Deals.trans (hd : Deals P S S' h h') (hd' : Deals P S' S'' h' h'') :
    Deals P S S'' h h'' := by
  have hsize := hd.size_le
  have hsize' := hd'.size_le
  refine ⟨by omega, fun x hx hS => ?_, fun x a hS hS'' hread => ?_, fun x a hx hread hP => ?_,
    fun x hx => ?_⟩
  · have hS' : x ∉ S' := fun hmem => (hd.kept x hmem).2.elim hS (by omega)
    rw [hd'.others x (by omega) hS', hd.others x hx hS]
  · by_cases hS' : x ∈ S'
    · exact hd'.given x a hS' hS'' hread
    · by_cases hlt : x < h'.size
      · rw [hd'.others x hlt hS'] at hread
        exact hd.given x a hS hS' hread
      · exact fun hP => hS'' (hd'.fresh x a (by omega) hread hP)
  · by_contra hS''
    by_cases hS' : x ∈ S'
    · exact hd'.given x a hS' hS'' hread hP
    · by_cases hlt : x < h'.size
      · rw [hd'.others x hlt hS'] at hread
        exact hS' (hd.fresh x a hx hread hP)
      · exact hS'' (hd'.fresh x a (by omega) hread hP)
  · obtain ⟨hlive, hold | hnew⟩ := hd'.kept x hx
    · exact ⟨hlive, (hd.kept x hold).2⟩
    · exact ⟨hlive, .inr (by omega)⟩

/-- A new object that is freed at once. -/
theorem Deals.alloc_free (P : α → Prop) (hlive : ∀ x, x ∈ S → h.read x ≠ none) (a : α) :
    Deals P S S h ((h.alloc a).2.free h.size) := by
  have hfresh : ∀ x, x ∈ S → x ≠ h.size := fun x hx => Nat.ne_of_lt (lt_size_of_read (hlive x hx))
  have hset : insert h.size S \ {h.size} = S := by
    ext x
    refine ⟨fun hx => hx.1.resolve_left hx.2, fun hx => ⟨.inr hx, hfresh x hx⟩⟩
  have halloc := Deals.alloc P hlive a
  have hfree := Deals.free P (fun x hx => (halloc.kept x hx).1) (Set.mem_insert h.size S)
  rw [hset] at hfree
  exact halloc.trans hfree

/-- The holder of two objects replaces one of them: the new one is there before the old one is
freed. -/
theorem Deals.replace (P : α → Prop) {old keep : Option ℕ}
    (hlive : ∀ x, old = some x ∨ keep = some x → h.read x ≠ none)
    (hapart : ∀ x, old = some x → keep ≠ some x) (a : α) :
    Deals P {x | old = some x ∨ keep = some x} {x | some h.size = some x ∨ keep = some x} h
      ((h.alloc a).2.freePtr old) := by
  have hfresh : ∀ x, old = some x ∨ keep = some x → x ≠ h.size := fun x hx =>
    Nat.ne_of_lt (lt_size_of_read (hlive x hx))
  have halloc := Deals.alloc (S := {x | old = some x ∨ keep = some x}) P hlive a
  have hfree := Deals.freePtr P (fun x hx => (halloc.kept x hx).1) old
    fun x hx => .inr (.inl hx)
  have hset : {x | x ∈ insert h.size {x | old = some x ∨ keep = some x} ∧ old ≠ some x} =
      {x | some h.size = some x ∨ keep = some x} := by
    ext x
    constructor
    · rintro ⟨rfl | hold | hkeep, hne⟩
      · exact .inl rfl
      · exact absurd hold hne
      · exact .inr hkeep
    · rintro (hnew | hkeep)
      · obtain rfl := Option.some.inj hnew
        exact ⟨.inl rfl, fun hold => hfresh _ (.inl hold) rfl⟩
      · exact ⟨.inr (.inr hkeep), fun hold => hapart x hold hkeep⟩
  rw [hset] at hfree
  exact halloc.trans hfree

/-- The holder forgets pointers to objects without the property. -/
theorem Deals.forget (hd : Deals P S S' h h') (hsub : S'' ⊆ S')
    (hlost : ∀ x a, x ∈ S' → x ∉ S'' → h'.read x = some a → ¬P a) : Deals P S S'' h h' := by
  refine ⟨hd.size_le, hd.others, fun x a hS hS'' hread => ?_, fun x a hx hread hP => ?_,
    fun x hx => hd.kept x (hsub hx)⟩
  · by_cases hS' : x ∈ S'
    · exact hlost x a hS' hS'' hread
    · exact hd.given x a hS hS' hread
  · by_contra hS''
    exact hlost x a (hd.fresh x a hx hread hP) hS'' hread hP

end Deals

/-- Every pointer that is kept leads to an object, no two holders keep the same one, and every
object with the property `P` is kept. -/
structure Estate (P : α → Prop) (held : ℕ → Set ℕ) (h : Heap α) : Prop where
  live : ∀ i x, x ∈ held i → h.read x ≠ none
  unique : ∀ i j x, x ∈ held i → x ∈ held j → i = j
  complete : ∀ x a, h.read x = some a → P a → ∃ i, x ∈ held i

section Estate

variable {P : α → Prop} {held : ℕ → Set ℕ} {S : Set ℕ} {h h' : Heap α} {i : ℕ}

/-- A step of one holder does not touch what the others keep. -/
theorem Estate.read_eq (he : Estate P held h) (hd : Deals P (held i) S h h') {j x : ℕ} (hj : j ≠ i)
    (hx : x ∈ held j) : h'.read x = h.read x :=
  hd.others x (lt_size_of_read (he.live j x hx)) fun hi => hj (he.unique j i x hx hi)

/-- **Step rule** for exact custody of several pointers. -/
theorem Estate.update (he : Estate P held h) (hd : Deals P (held i) S h h') :
    Estate P (Function.update held i S) h' := by
  -- what another holder keeps is not among what this one ends with
  have hapart : ∀ j x, j ≠ i → x ∈ held j → x ∉ S := by
    intro j x hj hx hS
    have hlt := lt_size_of_read (he.live j x hx)
    exact (hd.kept x hS).2.elim (fun hi => hj (he.unique j i x hx hi)) (by omega)
  refine ⟨fun j x hx => ?_, fun j k x hj hk => ?_, fun x a hread hP => ?_⟩
  · by_cases hj : j = i
    · subst hj
      rw [Function.update_self] at hx
      exact (hd.kept x hx).1
    · rw [Function.update_of_ne hj] at hx
      rw [he.read_eq hd hj hx]
      exact he.live j x hx
  · by_cases hji : j = i
    · by_cases hki : k = i
      · rw [hji, hki]
      · rw [hji, Function.update_self] at hj
        rw [Function.update_of_ne hki] at hk
        exact absurd hj (hapart k x hki hk)
    · rw [Function.update_of_ne hji] at hj
      by_cases hki : k = i
      · rw [hki, Function.update_self] at hk
        exact absurd hk (hapart j x hji hj)
      · rw [Function.update_of_ne hki] at hk
        exact he.unique j k x hj hk
  · by_cases hS : x ∈ S
    · exact ⟨i, by rwa [Function.update_self]⟩
    · have hlt : x < h.size := by
        by_contra hge
        exact hS (hd.fresh x a (by omega) hread hP)
      have hi : x ∉ held i := fun hi => hd.given x a hi hS hread hP
      rw [hd.others x hlt hi] at hread
      obtain ⟨j, hj⟩ := he.complete x a hread hP
      have hne : j ≠ i := by
        rintro rfl
        exact hi hj
      exact ⟨j, by rwa [Function.update_of_ne hne]⟩

end Estate

/-- A holder of one pointer, as a holder of a set of them. -/
def behind (ptrs : ℕ → Option ℕ) (i : ℕ) : Set ℕ := {x | ptrs i = some x}

/-- What a holder sees through its pointer. -/
def deref (ptrs : ℕ → Option ℕ) (h : Heap α) (i : ℕ) : Option α := (ptrs i).bind fun x => h.read x

section Behind

variable {P : α → Prop} {ptrs : ℕ → Option ℕ} {ptr : Option ℕ} {h h' : Heap α} {i : ℕ}

theorem behind_update (ptrs : ℕ → Option ℕ) (i : ℕ) (ptr : Option ℕ) :
    behind (Function.update ptrs i ptr) = Function.update (behind ptrs) i {x | ptr = some x} := by
  funext j
  unfold behind
  by_cases hj : j = i
  · subst hj
    rw [Function.update_self, Function.update_self]
  · rw [Function.update_of_ne hj, Function.update_of_ne hj]

theorem Estate.deref_eq_none_iff (he : Estate P (behind ptrs) h) (i : ℕ) :
    deref ptrs h i = none ↔ ptrs i = none := by
  unfold deref
  cases hptr : ptrs i with
  | none => exact iff_of_true rfl rfl
  | some x => exact iff_of_false (he.live i x hptr) nofun

theorem deref_of_ptr {x : ℕ} (hptr : ptrs i = some x) : deref ptrs h i = h.read x := by
  rw [deref, hptr, Option.bind_some]

/-- **Step rule** for a holder of one pointer. -/
theorem Estate.updatePtr (he : Estate P (behind ptrs) h)
    (hd : Deals P (behind ptrs i) {x | ptr = some x} h h') :
    Estate P (behind (Function.update ptrs i ptr)) h' := by
  rw [behind_update]
  exact he.update hd

/-- What the others see does not change. -/
theorem Estate.deref_update (he : Estate P (behind ptrs) h)
    (hd : Deals P (behind ptrs i) {x | ptr = some x} h h') :
    deref (Function.update ptrs i ptr) h' =
      Function.update (deref ptrs h) i (ptr.bind fun x => h'.read x) := by
  funext j
  unfold deref
  by_cases hj : j = i
  · subst hj
    rw [Function.update_self, Function.update_self]
  · rw [Function.update_of_ne hj, Function.update_of_ne hj]
    cases hptr : ptrs j with
    | none => rfl
    | some x => exact he.read_eq hd hj hptr

/-- A holder that has nothing, or need not keep what it has, creates an object. -/
theorem Estate.deals_new (he : Estate P (behind ptrs) h) (a : α)
    (hlost : ∀ x b, ptrs i = some x → h.read x = some b → ¬P b) :
    Deals P (behind ptrs i) {x | some h.size = some x} h (h.alloc a).2 := by
  refine (Deals.alloc P (fun x => he.live i x) a).forget (fun x hx => ?_) fun x b hx hx' hread => ?_
  · exact .inl (Option.some.inj hx).symm
  · rcases hx with rfl | hx
    · exact absurd rfl hx'
    · rw [read_alloc_of_ne a (Nat.ne_of_lt (lt_size_of_read (he.live i x hx)))] at hread
      exact hlost x b hx hread

/-- A holder that has nothing, or need not keep what it has, ends with nothing. -/
theorem Estate.deals_drop (he : Estate P (behind ptrs) h)
    (hlost : ∀ x b, ptrs i = some x → h.read x = some b → ¬P b) :
    Deals P (behind ptrs i) {x | none = some x} h h :=
  (Deals.refl P fun x => he.live i x).forget nofun fun x b hx _ hread => hlost x b hx hread

/-- A holder frees its object. -/
theorem Estate.deals_free (he : Estate P (behind ptrs) h) {x : ℕ} (hptr : ptrs i = some x) :
    Deals P (behind ptrs i) {x | none = some x} h (h.free x) := by
  refine (Deals.free P (fun x => he.live i x) hptr).forget nofun fun y b hy _ _ => ?_
  exact absurd (Option.some.inj (hptr.symm.trans hy.1)).symm hy.2

/-- A holder changes its object. -/
theorem Estate.deals_modify (he : Estate P (behind ptrs) h) {x : ℕ} (hptr : ptrs i = some x)
    (f : α → α) : Deals P (behind ptrs i) {x | ptrs i = some x} h (h.modify x f) := by
  have hsize := size_modify x f h
  refine ⟨by omega, fun y _ hy => ?_, fun y a hy hy' => absurd hy hy', fun y a hy hread => ?_,
    fun y hy => ⟨?_, .inl hy⟩⟩
  · rw [read_modify, if_neg]
    rintro rfl
    exact hy hptr
  · have := lt_size_of_read (show (h.modify x f).read y ≠ none by rw [hread]; nofun)
    omega
  · rw [Ne, read_modify_eq_none_iff]
    exact he.live i y hy

end Behind

/-- What a view shows of the objects of a heap stays the same, as long as they are alive. -/
structure Stable {β : Type*} (v : α → β) (h h' : Heap α) : Prop where
  size_le : h.size ≤ h'.size
  kept : ∀ x a', x < h.size → h'.read x = some a' → ∃ a, h.read x = some a ∧ v a' = v a

section Stable

variable {β : Type*} {v : α → β} {h h' h'' : Heap α}

/-- Nothing is created or freed. -/
theorem Stable.of_map (hsize : h'.size = h.size)
    (hread : ∀ x, (h'.read x).map v = (h.read x).map v) : Stable v h h' := by
  refine ⟨by omega, fun x a' _ ha' => ?_⟩
  have hmap := hread x
  rw [ha'] at hmap
  obtain ⟨a, ha, hv⟩ := Option.map_eq_some_iff.mp hmap.symm
  exact ⟨a, ha, hv.symm⟩

theorem Stable.refl (v : α → β) (h : Heap α) : Stable v h h := .of_map rfl fun _ => rfl

theorem Stable.trans (hs : Stable v h h') (hs' : Stable v h' h'') : Stable v h h'' := by
  have hsize := hs.size_le
  have hsize' := hs'.size_le
  refine ⟨by omega, fun x a'' hx ha'' => ?_⟩
  obtain ⟨a', ha', hv'⟩ := hs'.kept x a'' (by omega) ha''
  obtain ⟨a, ha, hv⟩ := hs.kept x a' hx ha'
  exact ⟨a, ha, hv'.trans hv⟩

theorem Stable.alloc (v : α → β) (a : α) (h : Heap α) : Stable v h (h.alloc a).2 := by
  refine ⟨by rw [size_alloc]; omega, fun x a' hx ha' => ⟨a', ?_, rfl⟩⟩
  rwa [read_alloc_of_ne a (Nat.ne_of_lt hx)] at ha'

theorem Stable.modify {x : ℕ} {f : α → α} (hf : ∀ a, h.read x = some a → v (f a) = v a) :
    Stable v h (h.modify x f) := by
  refine .of_map (size_modify x f h) fun y => ?_
  rw [read_modify]
  split_ifs with hxy
  · subst hxy
    cases hread : h.read x with
    | none => rfl
    | some a => exact congrArg some (hf a hread)
  · rfl

theorem Stable.free (v : α → β) (x : ℕ) (h : Heap α) : Stable v h (h.free x) := by
  refine ⟨Nat.le_of_eq (size_free x h).symm, fun y a' _ ha' => ⟨a', ?_, rfl⟩⟩
  rw [read_free] at ha'
  split_ifs at ha'
  exact ha'

end Stable

end Heap

end Automaton
