import ScfSecurity.Library.Pool
import Mathlib.Logic.Relation
import Mathlib.Data.UInt

/-!
# Concurrent releases of a context

Threads that each hold one reference to a context release it at the same time, and create
objects, which take further references. `SCF_FreePolicyCtx` drops a reference with a load and
a compare-exchange loop, and the value that the exchange found decides who destroys the
context. Every access to shared memory is a step of its own here, and the steps of the threads
interleave in any way.

## Main definitions

- `Holder`: where a thread is in its calls
- `RefStep`: the steps of all threads
- `RefPhase`: in use, decided, freed or deleted

## Main results

- `RefInvariant.step`: what every step keeps, as long as there are fewer than 2³² references
- `context_destroyed_once`: the context is destroyed once, by the thread whose exchange found 1
  and after all references are gone, and it is not accessed afterwards
-/

namespace Scf

open Automaton

/-- Where a thread is that holds, or held, a reference to the context. -/
inductive Holder where
  -- the object's reference is counted, but `SCF_CreatePolicyObj` has not returned it yet
  | unborn
  | holding
  -- in `SCF_CreatePolicyObj`, after the `fetch_add` for a new holder
  | creating (child : ℕ)
  -- in the loop of `SCF_FreePolicyCtx`, with its variable `expected`
  | loaded (expected : UInt32)
  -- behind the loop: the exchange replaced `expected`
  | exchanged (expected : UInt32)
  | freedSsl
  | finished (expected : UInt32)
deriving DecidableEq

/-- Whether the thread still has its reference. -/
def Holder.refs : Holder → ℕ
  | unborn | holding | creating _ | loaded _ => 1
  | exchanged _ | freedSsl | finished _ => 0

/-- The thread is, or was, the one to destroy the context. -/
def Holder.IsLast (t : Holder) : Prop := t = .exchanged 1 ∨ t = .freedSsl ∨ t = .finished 1

/-- The context and the threads that share it. `faulted` says that the context was accessed
after its deletion; the two lists, which threads have called `FreeSsl` and `delete`. -/
structure SharedCtx where
  refCnt : UInt32
  alive : Bool
  faulted : Bool
  sslFrees : List ℕ
  deletes : List ℕ
  threads : List Holder

namespace SharedCtx

/-- The number of references that threads have. -/
def refs (s : SharedCtx) : ℕ := Pool.total Holder.refs s.threads

/-- Any access to the context. -/
def access (s : SharedCtx) : SharedCtx := { s with faulted := s.faulted || !s.alive }

/-- Thread `i` goes on to `t`. -/
def goto (i : ℕ) (t : Holder) (s : SharedCtx) : SharedCtx :=
  { s with threads := s.threads.set i t }

end SharedCtx

/-- A new context, which only its creator holds. -/
def newSharedCtx : SharedCtx := ⟨1, true, false, [], [], [.holding]⟩

/-- One step of one thread. -/
inductive RefStep (s : SharedCtx) : SharedCtx → Prop
  -- any call on the context by a thread that has a reference
  | use (i : ℕ) (hi : s.threads[i]? = some .holding) : RefStep s s.access
  -- `SCF_CreatePolicyObj`
  | fetchAdd (i : ℕ) (hi : s.threads[i]? = some .holding) :
      RefStep s { s.access with
        refCnt := s.refCnt + 1
        threads := s.threads.set i (.creating s.threads.length) ++ [.unborn] }
  | readFields (i child : ℕ) (hi : s.threads[i]? = some (.creating child)) : RefStep s s.access
  | created (i child : ℕ) (hi : s.threads[i]? = some (.creating child)) :
      RefStep s ((s.goto i .holding).goto child .holding)
  -- `SCF_FreePolicyCtx`
  | load (i : ℕ) (hi : s.threads[i]? = some .holding) :
      RefStep s (s.access.goto i (.loaded s.refCnt))
  | exchange (i : ℕ) (expected : UInt32) (hi : s.threads[i]? = some (.loaded expected))
      (hpos : expected > 0) (heq : s.refCnt = expected) :
      RefStep s { s.access.goto i (.exchanged expected) with refCnt := expected - 1 }
  -- the counter is not `expected`, or the exchange fails without a reason
  | exchangeFails (i : ℕ) (expected : UInt32) (hi : s.threads[i]? = some (.loaded expected))
      (hpos : expected > 0) : RefStep s (s.access.goto i (.loaded s.refCnt))
  | alreadyZero (i : ℕ) (hi : s.threads[i]? = some (.loaded 0)) : RefStep s (s.goto i (.finished 0))
  | notLast (i : ℕ) (expected : UInt32) (hi : s.threads[i]? = some (.exchanged expected))
      (hgt : expected > 1) : RefStep s (s.goto i (.finished expected))
  | freeSsl (i : ℕ) (hi : s.threads[i]? = some (.exchanged 1)) :
      RefStep s { s.access.goto i .freedSsl with sslFrees := s.sslFrees ++ [i] }
  | delete (i : ℕ) (hi : s.threads[i]? = some .freedSsl) :
      RefStep s { s.access.goto i (.finished 1) with
        alive := false
        deletes := s.deletes ++ [i] }

/-- A step of a run in which there are fewer than 2³² references at any time. -/
def BoundedRefStep (s s' : SharedCtx) : Prop := RefStep s s' ∧ s'.refs < 2 ^ 32

/-! ### What a step does to the threads -/

namespace SharedCtx

variable {s : SharedCtx} {i : ℕ} {t : Holder}

theorem getElem?_goto (hi : s.threads[i]? = some t) (t' : Holder) (j : ℕ) :
    (s.goto i t').threads[j]? = if i = j then some t' else s.threads[j]? := by
  have hlt : i < s.threads.length := (List.getElem?_eq_some_iff.mp hi).1
  show (s.threads.set i t')[j]? = _
  rw [List.getElem?_set]
  split_ifs <;> rfl

theorem refs_goto (hi : s.threads[i]? = some t) (t' : Holder) :
    (s.goto i t').refs + t.refs = s.refs + t'.refs :=
  Pool.total_set Holder.refs hi t'

theorem access_of_alive (h : s.alive = true) : s.access = s := by
  have hfaulted : (s.faulted || !s.alive) = s.faulted := by
    rw [h, Bool.not_true, Bool.or_false]
  rw [access, hfaulted]

theorem refs_pos (hi : s.threads[i]? = some t) (ht : t.refs = 1) : 0 < s.refs := by
  have hle := Pool.le_total Holder.refs hi
  rw [ht] at hle
  exact hle

end SharedCtx

/-- The new holders whose `SCF_CreatePolicyObj` has not returned, and the threads in these
calls, belong together. -/
structure Families (threads : List Holder) : Prop where
  unborn_iff : ∀ c : ℕ, threads[c]? = some .unborn ↔ ∃ i : ℕ, threads[i]? = some (.creating c)
  unique : ∀ {i j c : ℕ}, threads[i]? = some (.creating c) → threads[j]? = some (.creating c) →
    i = j

/-- The thread is not in a creation. -/
def Holder.IsSingle (t : Holder) : Prop := t ≠ .unborn ∧ ∀ c, t ≠ .creating c

/-- Steps outside creations do not touch them. -/
theorem Families.goto {s : SharedCtx} (h : Families s.threads) {i : ℕ} {t t' : Holder}
    (hi : s.threads[i]? = some t) (ht : t.IsSingle) (ht' : t'.IsSingle) :
    Families (s.goto i t').threads := by
  have hsame : ∀ {x : Holder} (j : ℕ), (x = .unborn ∨ ∃ c, x = .creating c) →
      ((s.goto i t').threads[j]? = some x ↔ s.threads[j]? = some x) := by
    intro x j hx
    rw [SharedCtx.getElem?_goto hi]
    split_ifs with hij
    · subst hij
      rw [hi, Option.some.injEq, Option.some.injEq]
      rcases hx with rfl | ⟨c, rfl⟩
      · exact iff_of_false ht'.1 ht.1
      · exact iff_of_false (ht'.2 c) (ht.2 c)
    · rfl
  constructor
  · intro c
    rw [hsame c (.inl rfl), h.unborn_iff c]
    exact exists_congr fun j => (hsame j (.inr ⟨c, rfl⟩)).symm
  · intro j k c hj hk
    rw [hsame _ (.inr ⟨c, rfl⟩)] at hj hk
    exact h.unique hj hk

theorem getElem?_spawn {s : SharedCtx} {i : ℕ} {t : Holder} (hi : s.threads[i]? = some t)
    (t' : Holder) (j : ℕ) :
    (s.threads.set i t' ++ [Holder.unborn])[j]? =
      if j = s.threads.length then some .unborn else if i = j then some t' else s.threads[j]? := by
  by_cases hlast : j = s.threads.length
  · rw [if_pos hlast, hlast, ← List.length_set (i := i) (a := t'), List.getElem?_concat_length]
  · rw [if_neg hlast]
    by_cases hlt : j < s.threads.length
    · rw [List.getElem?_append_left (by simpa using hlt)]
      exact SharedCtx.getElem?_goto hi t' j
    · have hlt' : i < s.threads.length := (List.getElem?_eq_some_iff.mp hi).1
      rw [if_neg (by omega), List.getElem?_eq_none (by simp; omega),
        List.getElem?_eq_none (by omega)]

/-- `fetch_add` begins a creation, for a holder that was not there before. -/
theorem Families.spawn {s : SharedCtx} (h : Families s.threads) {i : ℕ}
    (hi : s.threads[i]? = some .holding) :
    Families (s.threads.set i (.creating s.threads.length) ++ [.unborn]) := by
  have hlt : i < s.threads.length := (List.getElem?_eq_some_iff.mp hi).1
  have hfresh : s.threads[s.threads.length]? = none := List.getElem?_eq_none (Nat.le_refl _)
  -- nobody is waiting for the new holder yet
  have hnobody : ∀ j : ℕ, s.threads[j]? ≠ some (.creating s.threads.length) := by
    intro j hj
    have hunborn := (h.unborn_iff _).mpr ⟨j, hj⟩
    rw [hfresh] at hunborn
    exact Option.some_ne_none _ hunborn.symm
  have hcreating : ∀ j c : ℕ, (s.threads.set i (.creating s.threads.length) ++
      [Holder.unborn])[j]? = some (.creating c) ↔
      (j = i ∧ c = s.threads.length) ∨ (j ≠ i ∧ s.threads[j]? = some (.creating c)) := by
    intro j c
    rw [getElem?_spawn hi]
    by_cases hj : j = s.threads.length
    · rw [if_pos hj, hj, hfresh]
      simp
      omega
    · rw [if_neg hj]
      by_cases hij : i = j
      · subst hij
        simp [eq_comm]
      · simp [hij, Ne.symm hij]
  constructor
  · intro c
    rw [getElem?_spawn hi]
    by_cases hc : c = s.threads.length
    · rw [if_pos hc]
      exact iff_of_true rfl ⟨i, (hcreating i c).mpr (.inl ⟨rfl, hc⟩)⟩
    · rw [if_neg hc]
      constructor
      · intro hunborn
        split_ifs at hunborn with hic
        · simp at hunborn
        · obtain ⟨j, hj⟩ := (h.unborn_iff c).mp hunborn
          refine ⟨j, (hcreating j c).mpr (.inr ⟨?_, hj⟩)⟩
          rintro rfl
          simp [hi] at hj
      · rintro ⟨j, hj⟩
        rcases (hcreating j c).mp hj with ⟨-, hc'⟩ | ⟨-, hj'⟩
        · exact absurd hc' hc
        · have hunborn := (h.unborn_iff c).mpr ⟨j, hj'⟩
          rw [if_neg ?_]
          · exact hunborn
          · rintro rfl
            simp [hi] at hunborn
  · intro j k c hj hk
    rcases (hcreating j c).mp hj with ⟨rfl, rfl⟩ | ⟨-, hj'⟩ <;>
      rcases (hcreating k _).mp hk with ⟨rfl, hc⟩ | ⟨-, hk'⟩
    · rfl
    · exact absurd hk' (hnobody k)
    · subst hc
      exact absurd hj' (hnobody j)
    · exact h.unique hj' hk'

/-- The new holder of a creation is another thread, and it stays where it is when its creator
goes on. -/
theorem Families.unborn_goto {s : SharedCtx} (h : Families s.threads) {i child : ℕ}
    (hi : s.threads[i]? = some (.creating child)) (t' : Holder) :
    (s.goto i t').threads[child]? = some .unborn := by
  have hchild := (h.unborn_iff child).mpr ⟨i, hi⟩
  rw [SharedCtx.getElem?_goto hi, if_neg]
  · exact hchild
  · rintro rfl
    simp [hi] at hchild

/-- The end of a creation: two holders. -/
theorem Families.created {s : SharedCtx} (h : Families s.threads) {i child : ℕ}
    (hi : s.threads[i]? = some (.creating child)) :
    Families ((s.goto i .holding).goto child .holding).threads := by
  have hchild := (h.unborn_iff child).mpr ⟨i, hi⟩
  have hchild' := h.unborn_goto hi .holding
  have hget : ∀ j : ℕ, ((s.goto i .holding).goto child .holding).threads[j]? =
      if child = j then some .holding else if i = j then some .holding else s.threads[j]? := by
    intro j
    rw [SharedCtx.getElem?_goto hchild', SharedCtx.getElem?_goto hi]
  have hcreating : ∀ j c : ℕ, ((s.goto i .holding).goto child .holding).threads[j]? =
      some (.creating c) ↔ c ≠ child ∧ s.threads[j]? = some (.creating c) := by
    intro j c
    rw [hget]
    constructor
    · intro hj
      split_ifs at hj with hcj hij
      · simp at hj
      · simp at hj
      · refine ⟨?_, hj⟩
        rintro rfl
        exact hij (h.unique hi hj)
    · rintro ⟨hc, hj⟩
      rw [if_neg, if_neg]
      · exact hj
      · rintro rfl
        rw [hi] at hj
        simp at hj
        exact hc hj.symm
      · rintro rfl
        simp [hchild] at hj
  constructor
  · intro c
    rw [hget]
    constructor
    · intro hc
      split_ifs at hc with hcc hic
      · simp at hc
      · simp at hc
      · obtain ⟨j, hj⟩ := (h.unborn_iff c).mp hc
        exact ⟨j, (hcreating j c).mpr ⟨Ne.symm hcc, hj⟩⟩
    · rintro ⟨j, hj⟩
      obtain ⟨hc, hj'⟩ := (hcreating j c).mp hj
      have hunborn := (h.unborn_iff c).mpr ⟨j, hj'⟩
      rw [if_neg (Ne.symm hc), if_neg]
      · exact hunborn
      · rintro rfl
        simp [hi] at hunborn
  · intro j k c hj hk
    exact h.unique ((hcreating j c).mp hj).2 ((hcreating k c).mp hk).2

/-! ### The phases of a context -/

/-- The thread `i`, and no other one, is the last. -/
def SharedCtx.OnlyLast (s : SharedCtx) (i : ℕ) : Prop :=
  ∀ (j : ℕ) t, s.threads[j]? = some t → t.IsLast → j = i

/-- A context is in use as long as there are references. Then one thread has found that it is
the last one, and it frees the TLS configuration and deletes the context. -/
inductive RefPhase (s : SharedCtx) : Prop
  | inUse (hrefs : 0 < s.refs) (hlast : ∀ (j : ℕ) t, s.threads[j]? = some t → ¬ t.IsLast)
      (halive : s.alive = true) (hssl : s.sslFrees = []) (hdel : s.deletes = [])
  | decided (i : ℕ) (hrefs : s.refs = 0) (honly : s.OnlyLast i)
      (hi : s.threads[i]? = some (.exchanged 1))
      (halive : s.alive = true) (hssl : s.sslFrees = []) (hdel : s.deletes = [])
  | freed (i : ℕ) (hrefs : s.refs = 0) (honly : s.OnlyLast i) (hi : s.threads[i]? = some .freedSsl)
      (halive : s.alive = true) (hssl : s.sslFrees = [i]) (hdel : s.deletes = [])
  | deleted (i : ℕ) (hrefs : s.refs = 0) (honly : s.OnlyLast i)
      (hi : s.threads[i]? = some (.finished 1)) (hssl : s.sslFrees = [i]) (hdel : s.deletes = [i])

/-- A thread with a reference finds the context in use. -/
theorem RefPhase.of_refs {s : SharedCtx} (h : RefPhase s) {i : ℕ} {t : Holder}
    (hi : s.threads[i]? = some t) (ht : t.refs = 1) :
    (∀ (j : ℕ) t, s.threads[j]? = some t → ¬ t.IsLast) ∧ s.alive = true ∧ s.sslFrees = [] ∧
      s.deletes = [] := by
  have hpos := SharedCtx.refs_pos hi ht
  cases h with
  | inUse hrefs hlast halive hssl hdel => exact ⟨hlast, halive, hssl, hdel⟩
  | decided i hrefs => omega
  | freed i hrefs => omega
  | deleted i hrefs => omega

theorem RefPhase.of_exchanged {s : SharedCtx} (h : RefPhase s) {i : ℕ}
    (hi : s.threads[i]? = some (.exchanged 1)) :
    s.refs = 0 ∧ s.OnlyLast i ∧ s.alive = true ∧ s.sslFrees = [] ∧ s.deletes = [] := by
  have hlast : Holder.IsLast (.exchanged 1) := .inl rfl
  cases h with
  | inUse hrefs hnone => exact absurd hlast (hnone i _ hi)
  | decided k hrefs honly hk halive hssl hdel =>
    obtain rfl := honly i _ hi hlast
    exact ⟨hrefs, honly, halive, hssl, hdel⟩
  | freed k hrefs honly hk =>
    obtain rfl := honly i _ hi hlast
    simp [hi] at hk
  | deleted k hrefs honly hk =>
    obtain rfl := honly i _ hi hlast
    simp [hi] at hk

theorem RefPhase.of_freedSsl {s : SharedCtx} (h : RefPhase s) {i : ℕ}
    (hi : s.threads[i]? = some .freedSsl) :
    s.refs = 0 ∧ s.OnlyLast i ∧ s.alive = true ∧ s.sslFrees = [i] ∧ s.deletes = [] := by
  have hlast : Holder.IsLast .freedSsl := .inr (.inl rfl)
  cases h with
  | inUse hrefs hnone => exact absurd hlast (hnone i _ hi)
  | decided k hrefs honly hk =>
    obtain rfl := honly i _ hi hlast
    simp [hi] at hk
  | freed k hrefs honly hk halive hssl hdel =>
    obtain rfl := honly i _ hi hlast
    exact ⟨hrefs, honly, halive, hssl, hdel⟩
  | deleted k hrefs honly hk =>
    obtain rfl := honly i _ hi hlast
    simp [hi] at hk

/-- No other thread becomes the last. -/
theorem SharedCtx.OnlyLast.goto {s : SharedCtx} {i k : ℕ} {t t' : Holder} (h : s.OnlyLast k)
    (hi : s.threads[i]? = some t) (ht' : t'.IsLast → i = k) : (s.goto i t').OnlyLast k := by
  intro j x hj hx
  rw [SharedCtx.getElem?_goto hi] at hj
  split_ifs at hj with hij
  · obtain rfl := Option.some.inj hj
    exact hij.symm.trans (ht' hx)
  · exact h j x hj hx

/-- Steps of threads that are not the last, and that keep their reference or have none. -/
theorem RefPhase.goto {s : SharedCtx} (h : RefPhase s) {i : ℕ} {t t' : Holder}
    (hi : s.threads[i]? = some t) (hrefs' : t'.refs = t.refs) (ht : ¬ t.IsLast)
    (ht' : ¬ t'.IsLast) : RefPhase (s.goto i t') := by
  have hsame : (s.goto i t').refs = s.refs := by
    have hsum := SharedCtx.refs_goto hi t'
    omega
  have hkeep : ∀ {k : ℕ} {x : Holder}, s.threads[k]? = some x → x.IsLast →
      (s.goto i t').threads[k]? = some x := by
    intro k x hk hx
    rw [SharedCtx.getElem?_goto hi, if_neg]
    · exact hk
    · rintro rfl
      rw [hi] at hk
      exact ht (Option.some.inj hk ▸ hx)
  cases h with
  | inUse hrefs hlast halive hssl hdel =>
    refine .inUse (hsame ▸ hrefs) (fun j x hj => ?_) halive hssl hdel
    rw [SharedCtx.getElem?_goto hi] at hj
    split_ifs at hj
    · exact Option.some.inj hj ▸ ht'
    · exact hlast j x hj
  | decided k hrefs honly hk halive hssl hdel =>
    exact .decided k (hsame ▸ hrefs) (honly.goto hi fun h => absurd h ht') (hkeep hk (.inl rfl))
      halive hssl hdel
  | freed k hrefs honly hk halive hssl hdel =>
    exact .freed k (hsame ▸ hrefs) (honly.goto hi fun h => absurd h ht')
      (hkeep hk (.inr (.inl rfl))) halive hssl hdel
  | deleted k hrefs honly hk hssl hdel =>
    exact .deleted k (hsame ▸ hrefs) (honly.goto hi fun h => absurd h ht')
      (hkeep hk (.inr (.inr rfl))) hssl hdel

/-! ### The invariant -/

/-- `expected` is never 0 in the loop or behind it. -/
def Holder.IsPositive (t : Holder) : Prop := t ≠ .loaded 0 ∧ t ≠ .exchanged 0

structure RefInvariant (s : SharedCtx) : Prop where
  count : s.refCnt.toNat = s.refs
  safe : s.faulted = false
  phase : RefPhase s
  families : Families s.threads
  positive : ∀ (j : ℕ) t, s.threads[j]? = some t → t.IsPositive

theorem refInvariant_newSharedCtx : RefInvariant newSharedCtx := by
  have hget : ∀ (j : ℕ) t, newSharedCtx.threads[j]? = some t → t = .holding := by
    intro j t hj
    obtain ⟨hlt, ht⟩ := List.getElem?_eq_some_iff.mp hj
    obtain rfl : j = 0 := by simpa [newSharedCtx] using hlt
    exact ht.symm
  refine ⟨rfl, rfl, .inUse (by decide) (fun j t hj => ?_) rfl rfl rfl, ⟨fun c => ?_, ?_⟩, ?_⟩
  · rw [hget j t hj]
    simp [Holder.IsLast]
  · constructor
    · intro hc
      exact absurd (hget c _ hc) (by decide)
    · rintro ⟨i, hi⟩
      simpa using hget i _ hi
  · intro i j c hi
    simpa using hget i _ hi
  · intro j t hj
    rw [hget j t hj]
    simp [Holder.IsPositive]

theorem one_lt_toNat {n : UInt32} (hzero : n ≠ 0) (hone : n ≠ 1) : 1 < n.toNat := by
  have hzero' : n.toNat ≠ 0 := fun h => hzero (UInt32.toNat_inj.mp h)
  have hone' : n.toNat ≠ 1 := fun h => hone (UInt32.toNat_inj.mp h)
  omega

theorem SharedCtx.positive_goto {s : SharedCtx}
    (h : ∀ (j : ℕ) t, s.threads[j]? = some t → t.IsPositive) {i : ℕ} {t t' : Holder}
    (hi : s.threads[i]? = some t) (ht' : t'.IsPositive) :
    ∀ (j : ℕ) x, (s.goto i t').threads[j]? = some x → x.IsPositive := by
  intro j x hj
  rw [SharedCtx.getElem?_goto hi] at hj
  split_ifs at hj
  · exact Option.some.inj hj ▸ ht'
  · exact h j x hj

/-- A thread with a reference finds the counter above zero. -/
theorem RefInvariant.refCnt_ne_zero {s : SharedCtx} (h : RefInvariant s) {i : ℕ} {t : Holder}
    (hi : s.threads[i]? = some t) (ht : t.refs = 1) : s.refCnt ≠ 0 := by
  intro hzero
  have hpos := SharedCtx.refs_pos hi ht
  rw [← h.count, hzero, UInt32.toNat_zero] at hpos
  exact Nat.lt_irrefl 0 hpos

/-- A step that moves no reference and concerns no creation. -/
theorem RefInvariant.goto {s : SharedCtx} (h : RefInvariant s) {i : ℕ} {t t' : Holder}
    (hi : s.threads[i]? = some t) (hrefs : t'.refs = t.refs) (ht : ¬ t.IsLast) (ht' : ¬ t'.IsLast)
    (hsingle : t.IsSingle) (hsingle' : t'.IsSingle) (hpositive : t'.IsPositive) :
    RefInvariant (s.goto i t') where
  count := by
    have hsum := SharedCtx.refs_goto hi t'
    have hcount := h.count
    show s.refCnt.toNat = _
    omega
  safe := h.safe
  phase := h.phase.goto hi hrefs ht ht'
  families := h.families.goto hi hsingle hsingle'
  positive := SharedCtx.positive_goto h.positive hi hpositive

/-- The load, and an exchange that fails, only give `expected` a new value. -/
theorem RefInvariant.loaded {s : SharedCtx} (h : RefInvariant s) {i : ℕ} {t : Holder}
    (hi : s.threads[i]? = some t) (ht : t = .holding ∨ ∃ e, t = .loaded e) :
    RefInvariant (s.access.goto i (.loaded s.refCnt)) := by
  have hrefs : t.refs = 1 := by
    rcases ht with rfl | ⟨e, rfl⟩ <;> rfl
  have hne := h.refCnt_ne_zero hi hrefs
  rw [SharedCtx.access_of_alive (h.phase.of_refs hi hrefs).2.1]
  refine h.goto hi hrefs.symm ?_ (by simp [Holder.IsLast]) ?_ (by simp [Holder.IsSingle])
    (by simp [Holder.IsPositive, hne])
  · rcases ht with rfl | ⟨e, rfl⟩ <;> simp [Holder.IsLast]
  · rcases ht with rfl | ⟨e, rfl⟩ <;> simp [Holder.IsSingle]

/-- A new holder brings one reference. -/
theorem SharedCtx.total_refs_spawn {s : SharedCtx} {i : ℕ} (hi : s.threads[i]? = some .holding)
    (child : ℕ) :
    Pool.total Holder.refs (s.threads.set i (.creating child) ++ [.unborn]) = s.refs + 1 := by
  have hsum := Pool.total_set Holder.refs hi (.creating child)
  rw [Pool.total_append]
  simp only [Holder.refs, Pool.total_cons, Pool.total_nil] at hsum ⊢
  unfold SharedCtx.refs
  omega

theorem RefInvariant.fetchAdd {s : SharedCtx} (h : RefInvariant s) {i : ℕ}
    (hi : s.threads[i]? = some .holding) (hroom : s.refs + 1 < 2 ^ 32) :
    RefInvariant { s.access with
      refCnt := s.refCnt + 1
      threads := s.threads.set i (.creating s.threads.length) ++ [.unborn] } := by
  obtain ⟨hlast, halive, hssl, hdel⟩ := h.phase.of_refs hi rfl
  rw [SharedCtx.access_of_alive halive]
  have hrefs := SharedCtx.total_refs_spawn hi s.threads.length
  have hget := getElem?_spawn hi (.creating s.threads.length)
  constructor
  · show (s.refCnt + 1).toNat = Pool.total Holder.refs _
    rw [hrefs, UInt32.toNat_add, h.count, UInt32.toNat_one]
    omega
  · exact h.safe
  · refine .inUse ?_ (fun j t hj => ?_) halive hssl hdel
    · show 0 < Pool.total Holder.refs (s.threads.set i (.creating s.threads.length) ++ [.unborn])
      rw [hrefs]
      exact Nat.succ_pos _
    · rw [hget] at hj
      split_ifs at hj
      · rw [← Option.some.inj hj]
        simp [Holder.IsLast]
      · rw [← Option.some.inj hj]
        simp [Holder.IsLast]
      · exact hlast j t hj
  · exact h.families.spawn hi
  · intro j t hj
    rw [hget] at hj
    split_ifs at hj
    · rw [← Option.some.inj hj]
      simp [Holder.IsPositive]
    · rw [← Option.some.inj hj]
      simp [Holder.IsPositive]
    · exact h.positive j t hj

theorem RefInvariant.created {s : SharedCtx} (h : RefInvariant s) {i child : ℕ}
    (hi : s.threads[i]? = some (.creating child)) :
    RefInvariant ((s.goto i .holding).goto child .holding) := by
  have hchild' := h.families.unborn_goto hi .holding
  have hpositive : Holder.IsPositive .holding := by simp [Holder.IsPositive]
  constructor
  · have hsum := SharedCtx.refs_goto hi .holding
    have hsum' := SharedCtx.refs_goto hchild' .holding
    have hcount := h.count
    simp only [Holder.refs] at hsum hsum'
    show s.refCnt.toNat = _
    omega
  · exact h.safe
  · have hphase : RefPhase (s.goto i .holding) :=
      h.phase.goto hi rfl (by simp [Holder.IsLast]) (by simp [Holder.IsLast])
    exact hphase.goto hchild' rfl (by simp [Holder.IsLast]) (by simp [Holder.IsLast])
  · exact h.families.created hi
  · exact SharedCtx.positive_goto (SharedCtx.positive_goto h.positive hi hpositive) hchild' hpositive

/-- The exchange drops the reference of its thread; if it found 1, then that was the last. -/
theorem RefInvariant.exchange {s : SharedCtx} (h : RefInvariant s) {i : ℕ}
    (hi : s.threads[i]? = some (.loaded s.refCnt)) :
    RefInvariant { s.access.goto i (.exchanged s.refCnt) with refCnt := s.refCnt - 1 } := by
  obtain ⟨hlast, halive, hssl, hdel⟩ := h.phase.of_refs hi rfl
  have hne := h.refCnt_ne_zero hi rfl
  rw [SharedCtx.access_of_alive halive]
  have hsum := SharedCtx.refs_goto hi (.exchanged s.refCnt)
  simp only [Holder.refs, Nat.add_zero] at hsum
  have hle : (1 : UInt32) ≤ s.refCnt := by
    rw [UInt32.le_iff_toNat_le, UInt32.toNat_one, h.count]
    omega
  have hpred : (s.refCnt - 1).toNat = (s.goto i (.exchanged s.refCnt)).refs := by
    rw [UInt32.toNat_sub_of_le _ _ hle, UInt32.toNat_one, h.count]
    omega
  have hother : ∀ (j : ℕ) t, (s.goto i (.exchanged s.refCnt)).threads[j]? = some t → t.IsLast →
      j = i := by
    intro j t hj ht
    rw [SharedCtx.getElem?_goto hi] at hj
    split_ifs at hj with hij
    · exact hij.symm
    · exact absurd ht (hlast j t hj)
  have hself : (s.goto i (.exchanged s.refCnt)).threads[i]? = some (.exchanged s.refCnt) := by
    rw [SharedCtx.getElem?_goto hi, if_pos rfl]
  constructor
  · exact hpred
  · exact h.safe
  · by_cases hone : s.refCnt = 1
    · refine .decided i ?_ hother (hone ▸ hself) halive hssl hdel
      show (s.goto i (.exchanged s.refCnt)).refs = 0
      rw [← hpred, hone]
      rfl
    · refine .inUse ?_ (fun j t hj ht => ?_) halive hssl hdel
      · show 0 < (s.goto i (.exchanged s.refCnt)).refs
        have hcount := h.count
        have hlt := one_lt_toNat hne hone
        omega
      · obtain rfl := hother j t hj ht
        rw [show _ = some t from hj] at hself
        obtain rfl := Option.some.inj hself
        simp [Holder.IsLast, hone] at ht
  · exact h.families.goto hi (by simp [Holder.IsSingle]) (by simp [Holder.IsSingle])
  · exact SharedCtx.positive_goto h.positive hi (by simp [Holder.IsPositive, hne])

theorem RefInvariant.freeSsl {s : SharedCtx} (h : RefInvariant s) {i : ℕ}
    (hi : s.threads[i]? = some (.exchanged 1)) :
    RefInvariant { s.access.goto i .freedSsl with sslFrees := s.sslFrees ++ [i] } := by
  obtain ⟨hrefs, honly, halive, hssl, hdel⟩ := h.phase.of_exchanged hi
  rw [SharedCtx.access_of_alive halive]
  have hsum := SharedCtx.refs_goto hi .freedSsl
  simp only [Holder.refs, Nat.add_zero] at hsum
  constructor
  · exact h.count.trans hsum.symm
  · exact h.safe
  · refine .freed i (hsum.trans hrefs) (honly.goto hi fun _ => rfl) ?_ halive ?_ hdel
    · exact (SharedCtx.getElem?_goto hi .freedSsl i).trans (if_pos rfl)
    · show s.sslFrees ++ [i] = [i]
      rw [hssl, List.nil_append]
  · exact h.families.goto hi (by simp [Holder.IsSingle]) (by simp [Holder.IsSingle])
  · exact SharedCtx.positive_goto h.positive hi (by simp [Holder.IsPositive])

theorem RefInvariant.delete {s : SharedCtx} (h : RefInvariant s) {i : ℕ}
    (hi : s.threads[i]? = some .freedSsl) :
    RefInvariant { s.access.goto i (.finished 1) with
      alive := false
      deletes := s.deletes ++ [i] } := by
  obtain ⟨hrefs, honly, halive, hssl, hdel⟩ := h.phase.of_freedSsl hi
  rw [SharedCtx.access_of_alive halive]
  have hsum := SharedCtx.refs_goto hi (.finished 1)
  simp only [Holder.refs, Nat.add_zero] at hsum
  constructor
  · exact h.count.trans hsum.symm
  · exact h.safe
  · refine .deleted i (hsum.trans hrefs) (honly.goto hi fun _ => rfl) ?_ hssl ?_
    · exact (SharedCtx.getElem?_goto hi (.finished 1) i).trans (if_pos rfl)
    · show s.deletes ++ [i] = [i]
      rw [hdel, List.nil_append]
  · exact h.families.goto hi (by simp [Holder.IsSingle]) (by simp [Holder.IsSingle])
  · exact SharedCtx.positive_goto h.positive hi (by simp [Holder.IsPositive])

/-- **Step lemma**. -/
theorem RefInvariant.step {s s' : SharedCtx} (h : RefInvariant s) (hstep : BoundedRefStep s s') :
    RefInvariant s' := by
  obtain ⟨hstep, hbound⟩ := hstep
  cases hstep with
  | use i hi =>
    rw [SharedCtx.access_of_alive (h.phase.of_refs hi rfl).2.1]
    exact h
  | fetchAdd i hi =>
    rw [SharedCtx.refs, SharedCtx.total_refs_spawn hi] at hbound
    exact h.fetchAdd hi hbound
  | readFields i child hi =>
    rw [SharedCtx.access_of_alive (h.phase.of_refs hi rfl).2.1]
    exact h
  | created i child hi => exact h.created hi
  | load i hi => exact h.loaded hi (.inl rfl)
  | exchange i expected hi hpos heq =>
    subst heq
    exact h.exchange hi
  | exchangeFails i expected hi hpos => exact h.loaded hi (.inr ⟨expected, rfl⟩)
  | alreadyZero i hi => exact absurd rfl (h.positive i _ hi).1
  | notLast i expected hi hgt =>
    have hne : expected ≠ 1 := by
      rintro rfl
      exact absurd hgt (by decide)
    exact h.goto hi rfl (by simp [Holder.IsLast, hne]) (by simp [Holder.IsLast, hne])
      (by simp [Holder.IsSingle]) (by simp [Holder.IsSingle]) (by simp [Holder.IsPositive])
  | freeSsl i hi => exact h.freeSsl hi
  | delete i hi => exact h.delete hi

/-- **Run lemma**. -/
theorem RefInvariant.run {s s' : SharedCtx} (h : RefInvariant s)
    (hrun : Relation.ReflTransGen BoundedRefStep s s') : RefInvariant s' := by
  induction hrun with
  | refl => exact h
  | tail _ hstep ih => exact ih.step hstep

/-! ### Completion -/

/-- How many steps a thread has left when nobody disturbs it. -/
def Holder.left : Holder → ℕ
  | unborn | creating _ => 5
  | holding => 4
  | loaded _ => 3
  | exchanged _ => 2
  | freedSsl => 1
  | finished _ => 0

/-- The thread has released its reference and returned. -/
def Holder.IsFinished (t : Holder) : Prop := ∃ expected, t = .finished expected

/-- All threads have released their references and returned. -/
def SharedCtx.Completed (s : SharedCtx) : Prop :=
  ∀ (i : ℕ) t, s.threads[i]? = some t → t.IsFinished

def SharedCtx.left (s : SharedCtx) : ℕ := Pool.total Holder.left s.threads

theorem SharedCtx.left_goto {s : SharedCtx} {i : ℕ} {t : Holder} (hi : s.threads[i]? = some t)
    (t' : Holder) : (s.goto i t').left + t.left = s.left + t'.left :=
  Pool.total_set Holder.left hi t'

theorem RefInvariant.refs_lt {s : SharedCtx} (h : RefInvariant s) : s.refs < 2 ^ 32 := by
  rw [← h.count]
  exact s.refCnt.toNat_lt

/-- A step that takes no reference stays within the bound. -/
theorem RefInvariant.refs_goto_lt {s : SharedCtx} (h : RefInvariant s) {i : ℕ} {t t' : Holder}
    (hi : s.threads[i]? = some t) (hrefs : t'.refs ≤ t.refs) : (s.goto i t').refs < 2 ^ 32 := by
  have hsum := SharedCtx.refs_goto hi t'
  have hlt := h.refs_lt
  omega

/-- A step that brings one thread on and takes no reference. -/
theorem RefInvariant.left_step {s s' : SharedCtx} (h : RefInvariant s) {i : ℕ} {t t' : Holder}
    (hi : s.threads[i]? = some t) (hstep : RefStep s s')
    (hthreads : s'.threads = s.threads.set i t') (hrefs : t'.refs ≤ t.refs)
    (hleft : t'.left < t.left) : ∃ s', BoundedRefStep s s' ∧ s'.left < s.left := by
  have hsum := SharedCtx.left_goto hi t'
  have hbound : s'.refs < 2 ^ 32 := by
    rw [SharedCtx.refs, hthreads]
    exact h.refs_goto_lt hi hrefs
  refine ⟨s', ⟨hstep, hbound⟩, ?_⟩
  rw [SharedCtx.left, hthreads]
  show (s.goto i t').left < s.left
  omega

/-- The call of `SCF_CreatePolicyObj` returns. -/
theorem RefInvariant.left_created {s : SharedCtx} (h : RefInvariant s) {i child : ℕ}
    (hi : s.threads[i]? = some (.creating child)) :
    ∃ s', BoundedRefStep s s' ∧ s'.left < s.left := by
  have hchild' := h.families.unborn_goto hi .holding
  refine ⟨_, ⟨.created i child hi, ?_⟩, ?_⟩
  · have hsum := SharedCtx.refs_goto hi .holding
    have hsum' := SharedCtx.refs_goto hchild' .holding
    have hlt := h.refs_lt
    simp only [Holder.refs] at hsum hsum'
    omega
  · have hsum := SharedCtx.left_goto hi .holding
    have hsum' := SharedCtx.left_goto hchild' .holding
    simp only [Holder.left] at hsum hsum'
    omega

/-- A thread in the loop whose `expected` is the counter leaves it. -/
theorem RefInvariant.left_exchange {s : SharedCtx} (h : RefInvariant s) {i : ℕ}
    (hi : s.threads[i]? = some (.loaded s.refCnt)) :
    ∃ s', BoundedRefStep s s' ∧ s'.left < s.left := by
  have hpos : s.refCnt > 0 := UInt32.pos_iff_ne_zero.mpr (h.refCnt_ne_zero hi rfl)
  exact h.left_step hi (.exchange i s.refCnt hi hpos rfl) rfl (Nat.zero_le _) (Nat.lt_succ_self 2)

/-- As long as a thread has not returned, some thread gets on. -/
theorem RefInvariant.progress {s : SharedCtx} (h : RefInvariant s) (hopen : ¬ s.Completed) :
    ∃ s', Relation.ReflTransGen BoundedRefStep s s' ∧ s'.left < s.left := by
  have hone : (∃ s', BoundedRefStep s s' ∧ s'.left < s.left) →
      ∃ s', Relation.ReflTransGen BoundedRefStep s s' ∧ s'.left < s.left := by
    rintro ⟨s', hstep, hleft⟩
    exact ⟨s', .single hstep, hleft⟩
  simp only [SharedCtx.Completed, not_forall] at hopen
  obtain ⟨i, t, hi, hfinished⟩ := hopen
  cases t with
  | unborn =>
    obtain ⟨j, hj⟩ := (h.families.unborn_iff i).mp hi
    exact hone (h.left_created hj)
  | creating child => exact hone (h.left_created hi)
  | holding =>
    exact hone (h.left_step hi (.load i hi) rfl (Nat.le_refl _) (Nat.lt_succ_self 3))
  | loaded expected =>
    by_cases heq : expected = s.refCnt
    · subst heq
      exact hone (h.left_exchange hi)
    · -- the exchange fails once, and then it finds the counter as it expects it
      have hpos : expected > 0 := by
        refine UInt32.pos_iff_ne_zero.mpr ?_
        rintro rfl
        exact (h.positive i _ hi).1 rfl
      have halive := (h.phase.of_refs hi rfl).2.1
      have hstep : BoundedRefStep s (s.goto i (.loaded s.refCnt)) := by
        refine ⟨?_, h.refs_goto_lt hi (Nat.le_refl _)⟩
        have hfails := RefStep.exchangeFails i expected hi hpos
        rwa [SharedCtx.access_of_alive halive] at hfails
      have hi' : (s.goto i (.loaded s.refCnt)).threads[i]? = some (.loaded s.refCnt) := by
        rw [SharedCtx.getElem?_goto hi, if_pos rfl]
      obtain ⟨s', hstep', hleft⟩ := (h.step hstep).left_exchange hi'
      have hsum := SharedCtx.left_goto hi (.loaded s.refCnt)
      simp only [Holder.left] at hsum
      exact ⟨s', .head hstep (.single hstep'), by omega⟩
  | exchanged expected =>
    by_cases heq : expected = 1
    · subst heq
      exact hone (h.left_step hi (.freeSsl i hi) rfl (Nat.le_refl _) (Nat.lt_succ_self 1))
    · have hgt : expected > 1 := by
        have hne : expected ≠ 0 := by
          rintro rfl
          exact (h.positive i _ hi).2 rfl
        rw [gt_iff_lt, UInt32.lt_iff_toNat_lt, UInt32.toNat_one]
        exact one_lt_toNat hne heq
      exact hone (h.left_step hi (.notLast i expected hi hgt) rfl (Nat.le_refl _) Nat.two_pos)
  | freedSsl =>
    exact hone (h.left_step hi (.delete i hi) rfl (Nat.le_refl _) Nat.one_pos)
  | finished expected => exact absurd ⟨expected, rfl⟩ hfinished

/-- Every run can be brought to an end. -/
theorem RefInvariant.completes {s : SharedCtx} (h : RefInvariant s) :
    ∃ s', Relation.ReflTransGen BoundedRefStep s s' ∧ s'.Completed := by
  induction hleft : s.left using Nat.strong_induction_on generalizing s with
  | _ n ih =>
    by_cases hdone : s.Completed
    · exact ⟨s, .refl, hdone⟩
    · obtain ⟨s₁, hrun, hlt⟩ := h.progress hdone
      obtain ⟨s', hrun', hdone'⟩ := ih s₁.left (hleft ▸ hlt) (h.run hrun) rfl
      exact ⟨s', hrun.trans hrun', hdone'⟩

/-- When all threads have returned, the context has been destroyed. -/
theorem RefInvariant.deleted_of_completed {s : SharedCtx} (h : RefInvariant s)
    (hdone : s.Completed) : ∃ i, s.sslFrees = [i] ∧ s.deletes = [i] := by
  have hrefs : s.refs = 0 := by
    refine (Pool.total_eq_zero_iff Holder.refs).mpr fun i t hi => ?_
    obtain ⟨expected, rfl⟩ := hdone i t hi
    rfl
  cases h.phase with
  | inUse hpos => omega
  | decided i hrefs honly hi =>
    obtain ⟨expected, heq⟩ := hdone i _ hi
    simp at heq
  | freed i hrefs honly hi =>
    obtain ⟨expected, heq⟩ := hdone i _ hi
    simp at heq
  | deleted i hrefs honly hi hssl hdel => exact ⟨i, hssl, hdel⟩

/-- What holds of the end of a context in every state of a run. -/
structure DestroyedOnce (s : SharedCtx) : Prop where
  -- nobody accesses the context after its deletion
  safe : s.faulted = false
  freedOnce : s.sslFrees.length ≤ 1
  deletedOnce : s.deletes.length ≤ 1
  -- the thread that frees and deletes is the one whose exchange found 1
  byLast : ∀ i, i ∈ s.sslFrees ∨ i ∈ s.deletes →
    s.threads[i]? = some .freedSsl ∨ s.threads[i]? = some (.finished 1)
  -- it begins after all references are released
  afterAll : s.sslFrees ≠ [] ∨ s.deletes ≠ [] → ∀ (j : ℕ) t, s.threads[j]? = some t → t.refs = 0
  -- and when all threads have returned, it has happened
  completed : s.Completed → ∃ i, s.sslFrees = [i] ∧ s.deletes = [i]

theorem RefInvariant.destroyedOnce {s : SharedCtx} (h : RefInvariant s) : DestroyedOnce s := by
  have hzero : s.refs = 0 → ∀ (j : ℕ) t, s.threads[j]? = some t → t.refs = 0 :=
    (Pool.total_eq_zero_iff Holder.refs).mp
  refine ⟨h.safe, ?_, ?_, ?_, ?_, h.deleted_of_completed⟩
  · cases h.phase <;> simp [*]
  · cases h.phase <;> simp [*]
  · intro i hmem
    cases h.phase with
    | inUse hrefs hlast halive hssl hdel => simp [hssl, hdel] at hmem
    | decided k hrefs honly hk halive hssl hdel => simp [hssl, hdel] at hmem
    | freed k hrefs honly hk halive hssl hdel =>
      obtain rfl : i = k := by simpa [hssl, hdel] using hmem
      exact .inl hk
    | deleted k hrefs honly hk hssl hdel =>
      obtain rfl : i = k := by simpa [hssl, hdel] using hmem
      exact .inr hk
  · intro hbegun
    cases h.phase with
    | inUse hrefs hlast halive hssl hdel => simp [hssl, hdel] at hbegun
    | decided k hrefs => exact hzero hrefs
    | freed k hrefs => exact hzero hrefs
    | deleted k hrefs => exact hzero hrefs

/-- As long as there are fewer than 2³² references at a time: in every state of every run the
context is destroyed at most once, by the thread whose exchange found 1 and after all references
are released, and nobody accesses it afterwards. Every run can be brought to an end, and then
the context has been destroyed. -/
theorem context_destroyed_once (s : SharedCtx)
    (h : Relation.ReflTransGen BoundedRefStep newSharedCtx s) :
    DestroyedOnce s ∧ ∃ s', Relation.ReflTransGen BoundedRefStep s s' ∧ s'.Completed := by
  have hs := refInvariant_newSharedCtx.run h
  exact ⟨hs.destroyedOnce, hs.completes⟩

/-- The creator and an object are released at the same time: the exchange of the second thread
fails once, because the first one was faster. -/
theorem context_destroyed_once_twoThreads :
    DestroyedOnce ⟨0, false, false, [1], [1], [.finished 2, .finished 1]⟩ := by
  have h1 : BoundedRefStep newSharedCtx ⟨2, true, false, [], [], [.creating 1, .unborn]⟩ :=
    ⟨.fetchAdd 0 rfl, by decide⟩
  have h2 : BoundedRefStep ⟨2, true, false, [], [], [.creating 1, .unborn]⟩
      ⟨2, true, false, [], [], [.holding, .holding]⟩ := ⟨.created 0 1 rfl, by decide⟩
  have h3 : BoundedRefStep ⟨2, true, false, [], [], [.holding, .holding]⟩
      ⟨2, true, false, [], [], [.loaded 2, .holding]⟩ := ⟨.load 0 rfl, by decide⟩
  have h4 : BoundedRefStep ⟨2, true, false, [], [], [.loaded 2, .holding]⟩
      ⟨2, true, false, [], [], [.loaded 2, .loaded 2]⟩ := ⟨.load 1 rfl, by decide⟩
  have h5 : BoundedRefStep ⟨2, true, false, [], [], [.loaded 2, .loaded 2]⟩
      ⟨1, true, false, [], [], [.exchanged 2, .loaded 2]⟩ :=
    ⟨.exchange 0 2 rfl (by decide) rfl, by decide⟩
  have h6 : BoundedRefStep ⟨1, true, false, [], [], [.exchanged 2, .loaded 2]⟩
      ⟨1, true, false, [], [], [.exchanged 2, .loaded 1]⟩ :=
    ⟨.exchangeFails 1 2 rfl (by decide), by decide⟩
  have h7 : BoundedRefStep ⟨1, true, false, [], [], [.exchanged 2, .loaded 1]⟩
      ⟨0, true, false, [], [], [.exchanged 2, .exchanged 1]⟩ :=
    ⟨.exchange 1 1 rfl (by decide) rfl, by decide⟩
  have h8 : BoundedRefStep ⟨0, true, false, [], [], [.exchanged 2, .exchanged 1]⟩
      ⟨0, true, false, [1], [], [.exchanged 2, .freedSsl]⟩ := ⟨.freeSsl 1 rfl, by decide⟩
  have h9 : BoundedRefStep ⟨0, true, false, [1], [], [.exchanged 2, .freedSsl]⟩
      ⟨0, false, false, [1], [1], [.exchanged 2, .finished 1]⟩ := ⟨.delete 1 rfl, by decide⟩
  have h10 : BoundedRefStep ⟨0, false, false, [1], [1], [.exchanged 2, .finished 1]⟩
      ⟨0, false, false, [1], [1], [.finished 2, .finished 1]⟩ :=
    ⟨.notLast 0 2 rfl (by decide), by decide⟩
  have hrun := ((((((((Relation.ReflTransGen.single h1).tail h2).tail h3).tail h4).tail h5).tail
    h6).tail h7).tail h8).tail h9
  exact (context_destroyed_once _ (hrun.tail h10)).1

/-! ### Too many references -/

/-- The creator has made `n` objects. -/
def grownCtx (n : ℕ) : SharedCtx :=
  ⟨UInt32.ofNat (n + 1), true, false, [], [], List.replicate (n + 1) .holding⟩

theorem replicate_holding_spawn (n : ℕ) :
    (((List.replicate (n + 1) Holder.holding).set 0 (.creating (n + 1)) ++
      [Holder.unborn]).set 0 .holding).set (n + 1) .holding = List.replicate (n + 2) .holding := by
  rw [List.replicate_succ, List.set_cons_zero, List.cons_append, List.set_cons_zero,
    List.set_cons_succ, List.set_append_right _ _ (by simp), List.length_replicate, Nat.sub_self,
    List.set_cons_zero, ← List.replicate_succ', ← List.replicate_succ]

theorem reach_grownCtx (n : ℕ) : Relation.ReflTransGen RefStep newSharedCtx (grownCtx n) := by
  induction n with
  | zero => exact .refl
  | succ n ih =>
    have hadd := RefStep.fetchAdd (s := grownCtx n) 0 (by simp [grownCtx])
    have hcreated := RefStep.created (s := { (grownCtx n).access with
        refCnt := (grownCtx n).refCnt + 1
        threads := (grownCtx n).threads.set 0 (.creating (grownCtx n).threads.length) ++ [.unborn] })
      0 (n + 1) (by simp [grownCtx, List.replicate_succ])
    have hgrown : grownCtx (n + 1) = SharedCtx.goto (n + 1) .holding (SharedCtx.goto 0 .holding
        { (grownCtx n).access with
          refCnt := (grownCtx n).refCnt + 1
          threads := (grownCtx n).threads.set 0 (.creating (grownCtx n).threads.length) ++
            [.unborn] }) := by
      simp only [grownCtx, SharedCtx.goto, SharedCtx.access, List.length_replicate,
        replicate_holding_spawn, UInt32.ofNat_add]
      rfl
    rw [hgrown]
    exact (ih.tail hadd).tail hcreated

/-- A thread that finds the counter at 1 destroys the context, whatever the others hold. -/
theorem destroy_run {s : SharedCtx} {i : ℕ} (hi : s.threads[i]? = some .holding)
    (hcnt : s.refCnt = 1) :
    ∃ s', Relation.ReflTransGen RefStep s s' ∧ s'.alive = false ∧
      ∀ j : ℕ, i ≠ j → s'.threads[j]? = s.threads[j]? := by
  -- the state after the load, the exchange, the release of the configuration and the deletion
  let s₁ : SharedCtx := s.access.goto i (.loaded s.refCnt)
  let s₂ : SharedCtx := { s₁.access.goto i (.exchanged 1) with refCnt := 1 - 1 }
  let s₃ : SharedCtx := { s₂.access.goto i .freedSsl with sslFrees := s₂.sslFrees ++ [i] }
  let s₄ : SharedCtx :=
    { s₃.access.goto i (.finished 1) with alive := false, deletes := s₃.deletes ++ [i] }
  have hget₁ : ∀ j : ℕ, s₁.threads[j]? = if i = j then some (.loaded s.refCnt) else s.threads[j]? :=
    SharedCtx.getElem?_goto (s := s.access) hi _
  have hi₁ : s₁.threads[i]? = some (.loaded 1) := by
    rw [hget₁, if_pos rfl, hcnt]
  have hget₂ : ∀ j : ℕ, s₂.threads[j]? = if i = j then some (.exchanged 1) else s₁.threads[j]? :=
    SharedCtx.getElem?_goto (s := s₁.access) hi₁ _
  have hi₂ : s₂.threads[i]? = some (.exchanged 1) := by
    rw [hget₂, if_pos rfl]
  have hget₃ : ∀ j : ℕ, s₃.threads[j]? = if i = j then some .freedSsl else s₂.threads[j]? :=
    SharedCtx.getElem?_goto (s := s₂.access) hi₂ _
  have hi₃ : s₃.threads[i]? = some .freedSsl := by
    rw [hget₃, if_pos rfl]
  have hget₄ : ∀ j : ℕ, s₄.threads[j]? = if i = j then some (.finished 1) else s₃.threads[j]? :=
    SharedCtx.getElem?_goto (s := s₃.access) hi₃ _
  have h₁ : RefStep s s₁ := .load i hi
  have h₂ : RefStep s₁ s₂ := .exchange i 1 hi₁ (by decide) hcnt
  have h₃ : RefStep s₂ s₃ := .freeSsl i hi₂
  have h₄ : RefStep s₃ s₄ := .delete i hi₃
  refine ⟨s₄, (((Relation.ReflTransGen.single h₁).tail h₂).tail h₃).tail h₄, rfl, fun j hj => ?_⟩
  rw [hget₄, if_neg hj, hget₃, if_neg hj, hget₂, if_neg hj, hget₁, if_neg hj]

/-- With 2³² objects the counter is 1 again: the creator's release destroys the context, and the
next use of an object accesses it. -/
theorem wrapped_counter_destroys_used_context :
    ¬ ∀ s, Relation.ReflTransGen RefStep newSharedCtx s → DestroyedOnce s := by
  intro hall
  have hwrap : (grownCtx (2 ^ 32)).refCnt = 1 := by decide
  have hget : ∀ j < 2, (grownCtx (2 ^ 32)).threads[j]? = some .holding := by
    intro j hj
    rw [grownCtx, List.getElem?_replicate, if_pos (by omega)]
  obtain ⟨s, hrun, halive, hsame⟩ := destroy_run (hget 0 (by decide)) hwrap
  have huse := RefStep.use 1 ((hsame 1 (by decide)).trans (hget 1 (by decide)))
  have hfaulted : s.access.faulted = true := by
    rw [SharedCtx.access, halive, Bool.not_false, Bool.or_true]
  have hsafe := (hall _ (((reach_grownCtx (2 ^ 32)).trans hrun).tail huse)).safe
  exact absurd (hsafe.symm.trans hfaulted) (by decide)

end Scf
