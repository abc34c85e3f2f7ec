import ScfSecurity.Library.Custody
import Mathlib.Data.Int.Notation

/-!
# Handles

Objects that a program knows by numbers, as a process knows its open files. A new object gets a
number that no open object has, so numbers are used again. A variable with a number does not
tell for which object the number was obtained; `Handle` remembers it, for the sake of the
specification only. Several holders keep one handle each, and others open and close objects
beside them.

## Main definitions

- `Handles`: the objects, those that the holders have taken, and a log of all accesses
- `Access.Valid`: the number still belongs to the object for which it was obtained
- `Handles.Handled`: what a holder may do with its handle
- `Handles.Kept`: every object that the holders have taken is closed once, or kept by one of
  them

## Main results

- `Handles.Handled.use`, `Handles.Handled.close`, `Handles.Handled.obtain`, and
  `Handles.Handled.trans`: steps of a holder
- `Handles.Kept.update`: such a step keeps the books of all holders
- `Handles.Kept.closings_eq_one`: without holders everything has been closed once
-/

namespace Automaton

/-- A variable with a number, negative for none, and the object for which it was obtained. -/
structure Handle where
  number : ℤ
  object : Option ℕ
deriving DecidableEq

/-- A variable without an object. -/
def Handle.empty : Handle := ⟨-1, none⟩

/-- The object that the variable stands for. -/
def Handle.held (h : Handle) : Option ℕ := if 0 ≤ h.number then h.object else none

/-- A call that uses or closes what a number stands for, and the object that it finds. -/
structure Access where
  handle : Handle
  closes : Bool
  found : Option ℕ
deriving DecidableEq

/-- The number still belongs to the object for which it was obtained. -/
def Access.Valid (a : Access) : Prop := a.found ≠ none ∧ a.found = a.handle.object

instance (a : Access) : Decidable a.Valid := inferInstanceAs (Decidable (_ ∧ _))

/-- The objects with their numbers, the objects that were opened for the holders, and the
accesses of the holders. -/
structure Handles where
  objects : Heap ℕ := {}
  taken : List ℕ := []
  log : List Access := []
deriving DecidableEq

namespace Handles

/-- The open object with a number. -/
def find (n : ℤ) (t : Handles) : Option ℕ :=
  t.objects.cells.findIdx? fun cell => cell.any fun k => (k : ℤ) = n

/-- Use what a number stands for. -/
def use (h : Handle) (t : Handles) : Handles :=
  { t with log := t.log ++ [⟨h, false, t.find h.number⟩] }

/-- Close an object by its number. -/
def closeNumber (n : ℤ) (t : Handles) : Handles :=
  match t.find n with
  | none => t
  | some x => { t with objects := t.objects.free x }

/-- Close what a number stands for. -/
def close (h : Handle) (t : Handles) : Handles :=
  { t.closeNumber h.number with log := t.log ++ [⟨h, true, t.find h.number⟩] }

/-- Open an object under the number of the system's choice. No choice, or the number of an open
object, is a failure. -/
def openNumber (choice : Option ℕ) (t : Handles) : Handle × Handles :=
  match choice with
  | none => (.empty, t)
  | some n =>
    if (t.find n).isSome then (.empty, t)
    else (⟨n, some t.objects.size⟩, { t with objects := (t.objects.alloc n).2 })

/-- Open an object for a holder. -/
def obtain (choice : Option ℕ) (t : Handles) : Handle × Handles :=
  let (h, t') := t.openNumber choice
  (h, { t' with taken := h.object.toList ++ t.taken })

/-- How often an object has been closed by holders. -/
def closings (x : ℕ) (t : Handles) : ℕ := t.log.countP fun a => a.closes && a.found = some x

/-- The number stands for the object for which it was obtained. -/
def Denotes (t : Handles) (h : Handle) : Prop :=
  0 ≤ h.number → ∃ x n, h.object = some x ∧ t.objects.read x = some n ∧ (n : ℤ) = h.number

/-- The books are in order: numbers tell the open objects apart, all accesses were valid, and
what was taken is open or was closed once. -/
structure Sound (t : Handles) : Prop where
  distinct : ∀ x y n, t.objects.read x = some n → t.objects.read y = some n → x = y
  valid : ∀ a ∈ t.log, a.Valid
  taken_lt : ∀ x ∈ t.taken, x < t.objects.size
  closings_eq : ∀ x ∈ t.taken, t.closings x = if t.objects.read x = none then 1 else 0
  closings_of_le : ∀ x, t.objects.size ≤ x → t.closings x = 0

/-- A holder with the first handle ends with the second one. -/
structure Handled (h h' : Handle) (t t' : Handles) : Prop where
  trades : Heap.Trades id h.held h'.held t.objects t'.objects
  denotes : t'.Denotes h'
  sound : t'.Sound
  taken : ∀ x ∈ t'.taken, x ∈ t.taken ∨ t.objects.size ≤ x

/-- The handles of all holders: each stands for an object of its own, and whatever was taken and
is open has its holder. -/
structure Kept (handles : ℕ → Handle) (t : Handles) : Prop where
  sound : t.Sound
  denotes : ∀ i, t.Denotes (handles i)
  unique : ∀ i j x, (handles i).held = some x → (handles j).held = some x → i = j
  kept : ∀ x ∈ t.taken, t.objects.read x ≠ none → ∃ i, (handles i).held = some x

variable {t t' t'' : Handles} {h h' h'' : Handle}

/-! ### Finding objects -/

/-- A cell with the number is an open object with it. -/
theorem any_eq_true_iff {n : ℤ} {x : ℕ} {cell : Option ℕ}
    (hcell : t.objects.cells[x]? = some cell) :
    (cell.any fun k => (k : ℤ) = n) = true ↔ ∃ k : ℕ, t.objects.read x = some k ∧ (k : ℤ) = n := by
  have hread : t.objects.read x = cell := by rw [Heap.read, hcell]; rfl
  rw [hread]
  cases cell with
  | none => simp
  | some k => simp

theorem find_eq_none_iff {n : ℤ} :
    t.find n = none ↔ ∀ x (k : ℕ), t.objects.read x = some k → (k : ℤ) ≠ n := by
  rw [find, List.findIdx?_eq_none_iff]
  constructor
  · intro hnone x k hread hn
    have hcell : t.objects.cells[x]? = some (some k) := Option.join_eq_some_iff.mp hread
    have hany := hnone _ (List.mem_of_getElem? hcell)
    simp [hn] at hany
  · intro hnone cell hmem
    obtain ⟨x, hcell⟩ := List.getElem?_of_mem hmem
    rw [Bool.eq_false_iff, ne_eq, any_eq_true_iff hcell]
    rintro ⟨k, hread, hn⟩
    exact hnone x k hread hn

/-- The open object with a number is the only one. -/
theorem Sound.find_eq_some_iff (hs : t.Sound) {n : ℤ} {x : ℕ} :
    t.find n = some x ↔ ∃ k : ℕ, t.objects.read x = some k ∧ (k : ℤ) = n := by
  have hfound : ∀ {y}, t.find n = some y → ∃ k : ℕ, t.objects.read y = some k ∧ (k : ℤ) = n := by
    intro y hfind
    obtain ⟨hlt, hany, _⟩ := List.findIdx?_eq_some_iff_getElem.mp hfind
    exact (any_eq_true_iff (List.getElem?_eq_getElem hlt)).mp hany
  refine ⟨hfound, ?_⟩
  rintro ⟨k, hread, rfl⟩
  cases hfind : t.find k with
  | none => exact absurd rfl (find_eq_none_iff.mp hfind x k hread)
  | some y =>
    obtain ⟨k', hread', hk⟩ := hfound hfind
    obtain rfl : k' = k := by exact_mod_cast hk
    rw [hs.distinct x y k' hread hread']

/-! ### Steps of a holder -/

theorem denotes_empty (t : Handles) : t.Denotes .empty := fun hneg => absurd hneg (by decide)

/-- The object of a handle with a number is open. -/
theorem Denotes.read_of_held (hd : t.Denotes h) {x : ℕ} (hx : h.held = some x) :
    0 ≤ h.number ∧ h.object = some x ∧ ∃ n : ℕ, t.objects.read x = some n ∧ (n : ℤ) = h.number := by
  unfold Handle.held at hx
  split_ifs at hx with hpos
  obtain ⟨y, n, hy, hread, hn⟩ := hd hpos
  obtain rfl : y = x := Option.some.inj (hy.symm.trans hx)
  exact ⟨hpos, hx, n, hread, hn⟩

theorem Denotes.live (hd : t.Denotes h) : ∀ x, h.held = some x → t.objects.read x ≠ none := by
  intro x hx
  obtain ⟨_, _, n, hread, _⟩ := hd.read_of_held hx
  rw [hread]
  exact Option.some_ne_none n

/-- The number of a handle leads to its object. -/
theorem Denotes.find_eq (hd : t.Denotes h) (hs : t.Sound) (hpos : 0 ≤ h.number) :
    ∃ x, h.held = some x ∧ h.object = some x ∧ t.find h.number = some x := by
  obtain ⟨x, n, hx, hread, hn⟩ := hd hpos
  exact ⟨x, (if_pos hpos).trans hx, hx, hs.find_eq_some_iff.mpr ⟨n, hread, hn⟩⟩

theorem Handled.refl (hs : t.Sound) (hd : t.Denotes h) : Handled h h t t :=
  ⟨.refl hd.live, hd, hs, fun _ => .inl⟩

theorem Handled.trans (h₁ : Handled h h' t t') (h₂ : Handled h' h'' t' t'') :
    Handled h h'' t t'' := by
  refine ⟨h₁.trades.trans h₂.trades, h₂.denotes, h₂.sound, fun x hx => ?_⟩
  obtain hx | hx := h₂.taken x hx
  · exact h₁.taken x hx
  · exact .inr (Nat.le_trans h₁.trades.size_le hx)

/-- Two variables without a number. -/
theorem Handled.of_neg (hs : t.Sound) (hneg : h.number < 0) (hneg' : h'.number < 0) :
    Handled h h' t t := by
  have hheld : h.held = none := if_neg (by omega)
  have hheld' : h'.held = none := if_neg (by omega)
  refine ⟨?_, fun hpos => absurd hpos (by omega), hs, fun _ => .inl⟩
  rw [hheld, hheld']
  exact .refl fun x hx => absurd hx.symm (Option.some_ne_none x)

/-- A variable without a number is as good as none. -/
theorem Handled.forget (hstep : Handled h h' t t') (hneg : h'.number < 0) :
    Handled h .empty t t' :=
  hstep.trans (.of_neg hstep.sound hneg (by decide))

theorem valid_of_mem_concat {log : List Access} {a b : Access} (hlog : ∀ a ∈ log, a.Valid)
    (hb : b.Valid) (ha : a ∈ log ++ [b]) : a.Valid := by
  rw [List.mem_append, List.mem_singleton] at ha
  obtain ha | rfl := ha
  · exact hlog a ha
  · exact hb

/-- A holder uses its object. -/
theorem Handled.use (hs : t.Sound) (hd : t.Denotes h) (hpos : 0 ≤ h.number) :
    Handled h h t (t.use h) := by
  obtain ⟨x, _, hx, hfind⟩ := hd.find_eq hs hpos
  have hclosings : ∀ y, (t.use h).closings y = t.closings y := by
    intro y
    simp [closings, Handles.use, List.countP_append]
  refine ⟨.refl hd.live, hd, ⟨hs.distinct, fun a ha => ?_, hs.taken_lt, fun y hy => ?_,
    fun y hy => ?_⟩, fun _ => .inl⟩
  · refine valid_of_mem_concat hs.valid ?_ ha
    rw [hfind]
    exact ⟨Option.some_ne_none x, hx.symm⟩
  · rw [hclosings]
    exact hs.closings_eq y hy
  · rw [hclosings]
    exact hs.closings_of_le y hy

/-- A holder closes its object. -/
theorem Handled.close (hs : t.Sound) (hd : t.Denotes h) (hpos : 0 ≤ h.number) :
    Handled h .empty t (t.close h) := by
  obtain ⟨x, hheld, hx, hfind⟩ := hd.find_eq hs hpos
  have hlt : x < t.objects.size := Heap.lt_size_of_read (hd.live x hheld)
  have hobjects : (t.close h).objects = t.objects.free x := by
    simp only [Handles.close, closeNumber, hfind]
  have htaken : (t.close h).taken = t.taken := by
    simp only [Handles.close, closeNumber, hfind]
  have hclosings : ∀ y, (t.close h).closings y = t.closings y + if x = y then 1 else 0 := by
    intro y
    simp [closings, Handles.close, List.countP_append, List.countP_singleton, hfind]
  have htrades : Heap.Trades id h.held Handle.empty.held t.objects (t.close h).objects := by
    rw [hheld, hobjects]
    exact .free id x t.objects
  refine ⟨htrades, denotes_empty _, ⟨?_, fun a ha => ?_, ?_, fun y hy => ?_, fun y hy => ?_⟩, ?_⟩
  · intro y z n hy hz
    rw [hobjects, Heap.read_free] at hy hz
    split_ifs at hy hz
    exact hs.distinct y z n hy hz
  · refine valid_of_mem_concat hs.valid ?_ ha
    rw [hfind]
    exact ⟨Option.some_ne_none x, hx.symm⟩
  · rw [htaken, hobjects, Heap.size_free]
    exact hs.taken_lt
  · rw [htaken] at hy
    rw [hclosings, hs.closings_eq y hy, hobjects, Heap.read_free]
    by_cases hxy : x = y
    · subst hxy
      rw [if_neg (hd.live x hheld), if_pos rfl, if_pos rfl, if_pos rfl]
    · rw [if_neg hxy, if_neg hxy, Nat.add_zero]
  · rw [hobjects, Heap.size_free] at hy
    rw [hclosings, hs.closings_of_le y hy, if_neg (by omega)]
  · rw [htaken]
    exact fun _ => .inl

/-- A new object under a number that no open object has. -/
theorem Sound.alloc (hs : t.Sound) {n : ℕ} (hfree : t.find n = none) {taken : List ℕ}
    (htaken : ∀ x ∈ taken, x ∈ t.taken ∨ x = t.objects.size) :
    { t with objects := (t.objects.alloc n).2, taken := taken }.Sound where
  distinct x y k hx hy := by
    rw [Heap.read_alloc, Heap.alloc_fst] at hx hy
    split_ifs at hx hy with hx' hy' hy'
    · rw [hx', hy']
    · obtain rfl := Option.some.inj hx
      exact absurd rfl (find_eq_none_iff.mp hfree y n hy)
    · obtain rfl := Option.some.inj hy
      exact absurd rfl (find_eq_none_iff.mp hfree x n hx)
    · exact hs.distinct x y k hx hy
  valid := hs.valid
  taken_lt x hx := by
    rw [Heap.size_alloc]
    obtain hold | rfl := htaken x hx
    · exact Nat.lt_succ_of_lt (hs.taken_lt x hold)
    · exact Nat.lt_succ_self _
  closings_eq x hx := by
    show t.closings x = _
    rw [Heap.read_alloc, Heap.alloc_fst]
    obtain hold | rfl := htaken x hx
    · rw [if_neg (Nat.ne_of_lt (hs.taken_lt x hold)), hs.closings_eq x hold]
    · rw [if_pos rfl, if_neg (Option.some_ne_none n), hs.closings_of_le _ (Nat.le_refl _)]
  closings_of_le x hx := by
    rw [Heap.size_alloc] at hx
    exact hs.closings_of_le x (by omega)

/-- An object is opened for a holder without one. -/
theorem Handled.obtain (hs : t.Sound) (hneg : h.number < 0) (choice : Option ℕ) :
    Handled h (t.obtain choice).1 t (t.obtain choice).2 := by
  have hheld : h.held = none := if_neg (by omega)
  have hfailed : Handled h .empty t t := .of_neg hs hneg (by decide)
  unfold Handles.obtain openNumber
  cases choice with
  | none => exact hfailed
  | some n =>
    dsimp only
    by_cases hfree : (t.find n).isSome
    · rw [if_pos hfree]
      exact hfailed
    · rw [if_neg hfree]
      rw [Option.not_isSome_iff_eq_none] at hfree
      refine ⟨?_, fun _ => ?_, hs.alloc hfree fun x hx => ?_, fun x hx => ?_⟩
      · rw [hheld]
        exact .alloc id n t.objects
      · refine ⟨t.objects.size, n, rfl, ?_, rfl⟩
        rw [Heap.read_alloc, Heap.alloc_fst, if_pos rfl]
      · obtain rfl | hold := List.mem_cons.mp hx
        · exact .inr rfl
        · exact .inl hold
      · obtain rfl | hold := List.mem_cons.mp hx
        · exact .inr (Nat.le_refl _)
        · exact .inl hold

/-! ### All holders -/

section Kept

variable {handles : ℕ → Handle} {i : ℕ}

/-- The number of a handle is found again where its object is open under the same number. -/
theorem Denotes.of_read (hd : t.Denotes h)
    (hread : ∀ x, h.held = some x → t'.objects.read x = t.objects.read x) : t'.Denotes h := by
  intro hpos
  obtain ⟨x, n, hx, hn, hnumber⟩ := hd hpos
  exact ⟨x, n, hx, (hread x ((if_pos hpos).trans hx)).trans hn, hnumber⟩

/-- A step of one holder leaves the objects of the others alone. -/
theorem Kept.read_eq (hk : Kept handles t) (hstep : Handled (handles i) h' t t') {j x : ℕ}
    (hj : j ≠ i) (hx : (handles j).held = some x) : t'.objects.read x = t.objects.read x := by
  have hlt : x < t.objects.size := Heap.lt_size_of_read ((hk.denotes j).live x hx)
  have hmap := hstep.trades.others x hlt fun hi => hj (hk.unique j i x hx hi)
  rwa [Option.map_id, id_eq, id_eq] at hmap

/-- No two holders have one object, if no other holder has what a holder gets. -/
theorem held_update_unique
    (hunique : ∀ j k x, (handles j).held = some x → (handles k).held = some x → j = k)
    (hnew : ∀ j x, h'.held = some x → (handles j).held = some x → j = i) (j k x : ℕ)
    (hj : (Function.update handles i h' j).held = some x)
    (hk : (Function.update handles i h' k).held = some x) : j = k := by
  by_cases hji : j = i
  · by_cases hki : k = i
    · rw [hji, hki]
    · rw [hji, Function.update_self] at hj
      rw [Function.update_of_ne hki] at hk
      rw [hji, hnew k x hj hk]
  · rw [Function.update_of_ne hji] at hj
    by_cases hki : k = i
    · rw [hki, Function.update_self] at hk
      rw [hki, hnew j x hk hj]
    · rw [Function.update_of_ne hki] at hk
      exact hunique j k x hj hk

/-- **Step rule**: what a holder may do keeps the books of all. -/
theorem Kept.update (hk : Kept handles t) (hstep : Handled (handles i) h' t t') :
    Kept (Function.update handles i h') t' := by
  refine ⟨hstep.sound, ?_, held_update_unique hk.unique fun j x hx hj => ?_,
    fun x hx hread => ?_⟩
  · refine (Function.forall_update_iff handles fun _ h => t'.Denotes h).mpr
      ⟨hstep.denotes, fun j hj => ?_⟩
    exact (hk.denotes j).of_read fun x hx => hk.read_eq hstep hj hx
  · -- what the holder has at the end is its old object, or a new one
    obtain hold | hge := (hstep.trades.kept x hx).2
    · exact hk.unique j i x hj hold
    · exact absurd (Heap.lt_size_of_read ((hk.denotes j).live x hj)) (by omega)
  · by_cases hx' : h'.held = some x
    · exact ⟨i, by rw [Function.update_self]; exact hx'⟩
    · obtain hold | hge := hstep.taken x hx
      · have hlt := hk.sound.taken_lt x hold
        have hne : (handles i).held ≠ some x := fun hi => hread (hstep.trades.given x hi hx')
        have hmap := hstep.trades.others x hlt hne
        rw [Option.map_id, id_eq, id_eq] at hmap
        rw [hmap] at hread
        obtain ⟨j, hj⟩ := hk.kept x hold hread
        have hji : j ≠ i := by
          rintro rfl
          exact hne hj
        exact ⟨j, by rw [Function.update_of_ne hji]; exact hj⟩
      · exact absurd (hstep.trades.fresh x hge hread) hx'

/-- A holder takes over an open object that no holder has. -/
theorem Kept.adopt (hk : Kept handles t) (hnone : (handles i).held = none) {n : ℤ} {x : ℕ}
    (hfind : t.find n = some x) (hfree : ∀ j, (handles j).held ≠ some x) :
    Kept (Function.update handles i ⟨n, some x⟩) t := by
  refine ⟨hk.sound, ?_, held_update_unique hk.unique fun j y hy hj => ?_, fun y hy hread => ?_⟩
  · refine (Function.forall_update_iff handles fun _ h => t.Denotes h).mpr
      ⟨fun _ => ?_, fun j _ => hk.denotes j⟩
    obtain ⟨k, hread, hk'⟩ := hk.sound.find_eq_some_iff.mp hfind
    exact ⟨x, k, rfl, hread, hk'⟩
  · unfold Handle.held at hy
    split_ifs at hy
    obtain rfl := Option.some.inj hy
    exact absurd hj (hfree j)
  · obtain ⟨j, hj⟩ := hk.kept y hy hread
    have hji : j ≠ i := by
      rintro rfl
      rw [hnone] at hj
      cases hj
    exact ⟨j, by rw [Function.update_of_ne hji]; exact hj⟩

/-- Somebody else opens an object. -/
theorem Kept.openNumber (hk : Kept handles t) (choice : Option ℕ) :
    Kept handles (t.openNumber choice).2 := by
  unfold Handles.openNumber
  cases choice with
  | none => exact hk
  | some n =>
    dsimp only
    by_cases hfree : (t.find n).isSome
    · rw [if_pos hfree]
      exact hk
    · rw [if_neg hfree]
      rw [Option.not_isSome_iff_eq_none] at hfree
      have hread : ∀ x, t.objects.read x ≠ none →
          (t.objects.alloc n).2.read x = t.objects.read x := by
        intro x hx
        rw [Heap.read_alloc, Heap.alloc_fst, if_neg (Nat.ne_of_lt (Heap.lt_size_of_read hx))]
      refine ⟨hk.sound.alloc hfree fun x => .inl, fun j => ?_, hk.unique, fun x hx hlive => ?_⟩
      · exact (hk.denotes j).of_read fun x hx => hread x ((hk.denotes j).live x hx)
      · refine hk.kept x hx ?_
        have hne : x ≠ t.objects.size := Nat.ne_of_lt (hk.sound.taken_lt x hx)
        rwa [Heap.read_alloc, Heap.alloc_fst, if_neg hne] at hlive

/-- Somebody else closes an object that no holder has. -/
theorem Kept.closeNumber (hk : Kept handles t) {n : ℤ} (hfree : ∀ j, (handles j).number ≠ n) :
    Kept handles (t.closeNumber n) := by
  unfold Handles.closeNumber
  cases hfind : t.find n with
  | none => exact hk
  | some x =>
    obtain ⟨k, hk', hn⟩ := hk.sound.find_eq_some_iff.mp hfind
    have hnot : ∀ j, (handles j).held ≠ some x := by
      intro j hj
      obtain ⟨_, _, k', hread, hnumber⟩ := (hk.denotes j).read_of_held hj
      rw [hk'] at hread
      cases hread
      exact hfree j (hnumber.symm.trans hn)
    have htaken : ∀ y ∈ t.taken, y ≠ x := by
      rintro y hy rfl
      obtain ⟨j, hj⟩ := hk.kept y hy (by rw [hk']; exact Option.some_ne_none k)
      exact hnot j hj
    have hread : ∀ y, y ≠ x → (t.objects.free x).read y = t.objects.read y := by
      intro y hy
      rw [Heap.read_free, if_neg hy.symm]
    refine ⟨⟨?_, hk.sound.valid, ?_, fun y hy => ?_, ?_⟩, fun j => ?_, hk.unique,
      fun y hy hlive => ?_⟩
    · intro y z m hy hz
      rw [Heap.read_free] at hy hz
      split_ifs at hy hz
      exact hk.sound.distinct y z m hy hz
    · rw [Heap.size_free]
      exact hk.sound.taken_lt
    · rw [hread y (htaken y hy)]
      exact hk.sound.closings_eq y hy
    · rw [Heap.size_free]
      exact hk.sound.closings_of_le
    · refine (hk.denotes j).of_read fun y hy => hread y ?_
      rintro rfl
      exact hnot j hy
    · rw [hread y (htaken y hy)] at hlive
      exact hk.kept y hy hlive

/-- When no holder has anything, everything that was taken has been closed, and once. -/
theorem Kept.closings_eq_one (hk : Kept handles t) (hnone : ∀ i, (handles i).held = none) :
    ∀ x ∈ t.taken, t.objects.read x = none ∧ t.closings x = 1 := by
  intro x hx
  have hread : t.objects.read x = none := by
    by_contra hlive
    obtain ⟨i, hi⟩ := hk.kept x hx hlive
    rw [hnone] at hi
    cases hi
  exact ⟨hread, by rw [hk.sound.closings_eq x hx, if_pos hread]⟩

theorem kept_empty : Kept (fun _ => .empty) {} where
  sound :=
    { distinct := by
        intro x y n hx
        simp [Heap.read] at hx
      valid := List.forall_mem_nil _
      taken_lt := List.forall_mem_nil _
      closings_eq := List.forall_mem_nil _
      closings_of_le := fun _ _ => rfl }
  denotes _ := denotes_empty _
  unique i j x hi _ := absurd hi.symm (Option.some_ne_none x)
  kept := List.forall_mem_nil _

end Kept

end Handles

end Automaton
