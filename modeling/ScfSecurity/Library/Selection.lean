import Mathlib.Tactic.Common
import Mathlib.Data.List.Induction

/-!
# Selecting the highest ranked candidate

A scan over a list of candidates that keeps the rank and the value of the best
applicable one seen so far: a candidate replaces the current best if its rank is
higher, or if the ranks are equal and its value breaks ties. The result of the
scan does not depend on the order of the list: its rank is the highest rank of an
applicable candidate, and its value breaks ties as soon as one of the top
candidates has such a value.

## Main definitions

- `Selector`: which candidates apply, their ranks and values, and which values
  break ties
- `Selector.scan`: the scan
- `Selector.Top`: the applicable candidates of highest rank
- `Selector.Accepts`: no top candidate breaks ties, or none applies and the default says so

## Main results

- `Selector.Accepts.insert`, `Selector.Accepts.of_insert`: one more candidate moves the verdict
  only in the direction of its own value

- `Selector.scan_congr`: lists that offer the same ranks and values give the same result,
  in whatever order
-/

namespace Selection

/-- The parameters of a scan. Rank zero stands for "nothing selected yet", so
applicable candidates have a positive rank. -/
structure Selector (α β : Type*) where
  applies : α → Bool
  rank : α → ℕ
  value : α → β
  breaks : β → Bool
  rank_pos : ∀ a, 0 < rank a

namespace Selector

variable {α β : Type*} (S : Selector α β)

/-- What one candidate does to the best rank and value so far. -/
def pick (acc : ℕ × β) (a : α) : ℕ × β :=
  if S.applies a then
    if acc.1 < S.rank a ∨ (S.rank a = acc.1 ∧ S.breaks (S.value a)) then
      (S.rank a, S.value a)
    else acc
  else acc

/-- Scan the candidates from left to right. -/
def scan (init : β) (l : List α) : ℕ × β := l.foldl S.pick (0, init)

/-- The applicable candidates of highest rank. -/
def Top (l : List α) (a : α) : Prop :=
  a ∈ l ∧ S.applies a ∧ ∀ a' ∈ l, S.applies a' → S.rank a' ≤ S.rank a

/-- What is known of the best rank and value after a prefix of the list. -/
structure IsBest (l : List α) (acc : ℕ × β) : Prop where
  upper : ∀ a ∈ l, S.applies a → S.rank a ≤ acc.1
  attained : acc.1 ≠ 0 → ∃ a ∈ l, S.applies a ∧ S.rank a = acc.1 ∧ S.value a = acc.2
  broken : ∀ a ∈ l, S.applies a → S.rank a = acc.1 → S.breaks (S.value a) →
    S.breaks acc.2

/-- One more candidate keeps the invariant of the scan. -/
theorem IsBest.pick {l : List α} {acc : ℕ × β} (h : S.IsBest l acc) (a : α) :
    S.IsBest (l ++ [a]) (S.pick acc a) := by
  unfold Selector.pick
  split
  case isFalse hna =>
    refine ⟨?_, fun hacc => ?_, ?_⟩
    · intro b hb hab
      obtain hb | hb := List.mem_append.mp hb
      · exact h.upper b hb hab
      · exact absurd (List.mem_singleton.mp hb ▸ hab) hna
    · obtain ⟨b, hb, hrest⟩ := h.attained hacc
      exact ⟨b, List.mem_append_left _ hb, hrest⟩
    · intro b hb hab
      obtain hb | hb := List.mem_append.mp hb
      · exact h.broken b hb hab
      · exact absurd (List.mem_singleton.mp hb ▸ hab) hna
  case isTrue ha =>
    split
    case isTrue hrep =>
      have hle : acc.1 ≤ S.rank a := by omega
      refine ⟨?_, fun _ => ⟨a, by simp, ha, rfl, rfl⟩, ?_⟩
      · intro b hb hab
        obtain hb | hb := List.mem_append.mp hb
        · exact Nat.le_trans (h.upper b hb hab) hle
        · exact List.mem_singleton.mp hb ▸ Nat.le_refl _
      · intro b hb hab hrank hbr
        obtain hb | hb := List.mem_append.mp hb
        · -- an earlier candidate of the same rank: the new one replaced it only
          -- because its own value breaks the tie
          have := h.upper b hb hab
          obtain hlt | hrep := hrep
          · omega
          · exact hrep.2
        · exact List.mem_singleton.mp hb ▸ hbr
    case isFalse hkeep =>
      have hle : S.rank a ≤ acc.1 := by omega
      refine ⟨?_, fun hacc => ?_, ?_⟩
      · intro b hb hab
        obtain hb | hb := List.mem_append.mp hb
        · exact h.upper b hb hab
        · exact List.mem_singleton.mp hb ▸ hle
      · obtain ⟨b, hb, hrest⟩ := h.attained hacc
        exact ⟨b, List.mem_append_left _ hb, hrest⟩
      · intro b hb hab hrank hbr
        obtain hb | hb := List.mem_append.mp hb
        · exact h.broken b hb hab hrank hbr
        · have hba := List.mem_singleton.mp hb
          subst hba
          exact absurd (Or.inr ⟨hrank, hbr⟩) hkeep

theorem isBest_scan (init : β) (l : List α) : S.IsBest l (S.scan init l) := by
  unfold scan
  induction l using List.reverseRecOn with
  | nil => exact ⟨by simp, by simp, by simp⟩
  | append_singleton l a ih =>
    rw [List.foldl_append]
    exact ih.pick S a

/-- The scan finds something exactly if some candidate applies. -/
theorem scan_rank_ne_zero_iff (init : β) (l : List α) :
    (S.scan init l).1 ≠ 0 ↔ ∃ a ∈ l, S.applies a := by
  have hbest := S.isBest_scan init l
  constructor
  · intro h
    obtain ⟨a, ha, happ, _⟩ := hbest.attained h
    exact ⟨a, ha, happ⟩
  · rintro ⟨a, ha, happ⟩
    have := hbest.upper a ha happ
    have := S.rank_pos a
    omega

/-- If some candidate applies, the value found is that of a top candidate. -/
theorem exists_top_of_applies (init : β) {l : List α} (h : ∃ a ∈ l, S.applies a) :
    ∃ a, S.Top l a ∧ S.rank a = (S.scan init l).1 ∧ S.value a = (S.scan init l).2 := by
  have hbest := S.isBest_scan init l
  obtain ⟨a, ha, happ, hrank, hval⟩ :=
    hbest.attained ((S.scan_rank_ne_zero_iff init l).mpr h)
  exact ⟨a, ⟨ha, happ, fun b hb hab => hrank ▸ hbest.upper b hb hab⟩, hrank, hval⟩

/-- If some candidate applies, the value found breaks ties exactly if some top
candidate's value does. -/
theorem breaks_scan_iff (init : β) {l : List α} (h : ∃ a ∈ l, S.applies a) :
    S.breaks (S.scan init l).2 ↔ ∃ a, S.Top l a ∧ S.breaks (S.value a) := by
  obtain ⟨a, htop, hrank, hval⟩ := S.exists_top_of_applies init h
  constructor
  · intro hbr
    exact ⟨a, htop, hval ▸ hbr⟩
  · rintro ⟨b, hb, hbr⟩
    have hle : S.rank a ≤ S.rank b := hb.2.2 a htop.1 htop.2.1
    have hge : S.rank b ≤ S.rank a := htop.2.2 b hb.1 hb.2.1
    exact (S.isBest_scan init l).broken b hb.1 hb.2.1 (by omega) hbr

/-- Every applicable candidate of `l` has a counterpart of the same rank and value
in `l'`. -/
def Offers (l l' : List α) : Prop :=
  ∀ a ∈ l, S.applies a → ∃ a' ∈ l', S.applies a' ∧ S.rank a' = S.rank a ∧ S.value a' = S.value a

theorem scan_rank_le (init : β) {l l' : List α} (h : S.Offers l l') :
    (S.scan init l).1 ≤ (S.scan init l').1 := by
  by_cases hzero : (S.scan init l).1 = 0
  · omega
  · obtain ⟨a, ha, happ, hrank, _⟩ := (S.isBest_scan init l).attained hzero
    obtain ⟨a', ha', happ', hrank', _⟩ := h a ha happ
    have hupper := (S.isBest_scan init l').upper a' ha' happ'
    omega

/-- Lists that offer each other's ranks and values are scanned to the same rank. -/
theorem scan_rank_congr (init : β) {l l' : List α} (h : S.Offers l l') (h' : S.Offers l' l) :
    (S.scan init l).1 = (S.scan init l').1 :=
  Nat.le_antisymm (S.scan_rank_le init h) (S.scan_rank_le init h')

theorem breaks_of_offers (init : β) {l l' : List α} (h : S.Offers l l') (h' : S.Offers l' l)
    (hfound : (S.scan init l).1 ≠ 0) (hbr : S.breaks (S.scan init l).2) :
    S.breaks (S.scan init l').2 := by
  obtain ⟨a, ha, happ, hrank, hval⟩ := (S.isBest_scan init l).attained hfound
  obtain ⟨a', ha', happ', hrank', hval'⟩ := h a ha happ
  refine (S.isBest_scan init l').broken a' ha' happ' ?_ ?_
  · rw [hrank', hrank, S.scan_rank_congr init h h']
  · rw [hval', hval]
    exact hbr

/-- The scan does not depend on the order of the candidates, nor on how often one of them
occurs: the ranks are the same, and if something is found, the values break ties or not
together. -/
theorem scan_congr (init : β) {l l' : List α} (h : S.Offers l l') (h' : S.Offers l' l) :
    (S.scan init l).1 = (S.scan init l').1 ∧
      ((S.scan init l).1 ≠ 0 →
        (S.breaks (S.scan init l).2 ↔ S.breaks (S.scan init l').2)) := by
  have hrank := S.scan_rank_congr init h h'
  refine ⟨hrank, fun hfound => ⟨S.breaks_of_offers init h h' hfound, ?_⟩⟩
  exact S.breaks_of_offers init h' h (hrank ▸ hfound)

/-- The verdict of a selection in which tie-breaking values refuse: some candidate applies and
no top candidate refuses, or none applies and the default accepts. -/
def Accepts (l : List α) (default : Prop) : Prop :=
  ((∃ a ∈ l, S.applies a) ∧ ∀ a, S.Top l a → ¬ S.breaks (S.value a)) ∨
    ((¬ ∃ a ∈ l, S.applies a) ∧ default)

section Insert

variable {S} {l l' : List α} {a : α} {default : Prop} (hmem : ∀ b, b ∈ l' ↔ b = a ∨ b ∈ l)

include hmem

/-- A top candidate of the larger list that the smaller list has is a top candidate there. -/
theorem Top.of_insert {b : α} (h : S.Top l' b) (hb : b ∈ l) : S.Top l b :=
  ⟨hb, h.2.1, fun c hc happ => h.2.2 c ((hmem c).mpr (.inr hc)) happ⟩

/-- A candidate that does not refuse keeps an acceptance. -/
theorem Accepts.insert (ha : ¬ S.breaks (S.value a)) (h : S.Accepts l default) :
    S.Accepts l' default := by
  obtain ⟨⟨b, hb, happ⟩, htop⟩ | ⟨hnone, hdefault⟩ := h
  · refine .inl ⟨⟨b, (hmem b).mpr (.inr hb), happ⟩, fun c hc => ?_⟩
    obtain rfl | hold := (hmem c).mp hc.1
    · exact ha
    · exact htop c (hc.of_insert hmem hold)
  · by_cases happ : S.applies a
    · -- the new candidate is the only one that applies
      refine .inl ⟨⟨a, (hmem a).mpr (.inl rfl), happ⟩, fun c hc => ?_⟩
      obtain rfl | hold := (hmem c).mp hc.1
      · exact ha
      · exact absurd ⟨c, hold, hc.2.1⟩ hnone
    · refine .inr ⟨?_, hdefault⟩
      rintro ⟨c, hc, hcapp⟩
      obtain rfl | hold := (hmem c).mp hc
      · exact happ hcapp
      · exact hnone ⟨c, hold, hcapp⟩

/-- An acceptance in spite of a candidate that refuses does not rest on it. -/
theorem Accepts.of_insert (ha : S.breaks (S.value a)) (h : S.Accepts l' default) :
    S.Accepts l default := by
  obtain ⟨happ, htop⟩ | ⟨hnone, hdefault⟩ := h
  · -- the top candidate found is not the new one, so the smaller list has it
    obtain ⟨t, ht, -, -⟩ := S.exists_top_of_applies (S.value a) happ
    have htl : t ∈ l := by
      obtain rfl | hold := (hmem t).mp ht.1
      · exact absurd ha (htop t ht)
      · exact hold
    refine .inl ⟨⟨t, htl, ht.2.1⟩, fun u hu => htop u ?_⟩
    have htu : S.rank t ≤ S.rank u := hu.2.2 t htl ht.2.1
    refine ⟨(hmem u).mpr (.inr hu.1), hu.2.1, fun c hc hcapp => ?_⟩
    exact Nat.le_trans (ht.2.2 c hc hcapp) htu
  · refine .inr ⟨?_, hdefault⟩
    rintro ⟨c, hc, hcapp⟩
    exact hnone ⟨c, (hmem c).mpr (.inr hc), hcapp⟩

end Insert

end Selector

end Selection
