import Mathlib.Tactic.Common
import Mathlib.Logic.Relation

/-!
# State machines with answers

A component that is called again and again is a `Machine`: a set of initial
states and a total step function from a state and a call to an answer and the
next state. Whatever a call cannot decide itself (the clock, a failing
allocation, a foreign library) is part of the call, so every behaviour of the
environment is some sequence of calls.

## Main definitions

- `Machine`: initial states and the step function
- `Machine.ReachableBy`: states reached by runs all of whose steps meet a side
  condition on the state before the step and on the call
- `Machine.Reachable`: states reached by any run
- `Machine.after`, `Machine.answers`: the state after a list of calls, and the answers to them
- `Machine.Admits`, `Machine.Throughout`: a condition on all steps, or on all states, of a run

## Main results

- `Machine.Reachable.invariant`, `Machine.throughout_iff_of_invariant`: invariants of runs
- `Machine.simulation`: runs of two machines side by side
-/

namespace Automaton

/-- A state machine whose calls `ι` return an answer in `ο`. -/
structure Machine (σ ι ο : Type*) where
  initial : σ → Prop
  step : σ → ι → ο × σ

namespace Machine

variable {σ ι ο : Type*} {M : Machine σ ι ο} {ok ok' : σ → ι → Prop}

/-- The states at the end of a run that starts initially and whose steps all
meet `ok`, a condition on the state before the step and on the call. -/
inductive ReachableBy (M : Machine σ ι ο) (ok : σ → ι → Prop) : σ → Prop
  | initial {s : σ} (h : M.initial s) : ReachableBy M ok s
  | step {s : σ} (h : ReachableBy M ok s) (i : ι) (hok : ok s i) :
      ReachableBy M ok (M.step s i).2

/-- The states at the end of any run. -/
def Reachable (M : Machine σ ι ο) : σ → Prop := M.ReachableBy fun _ _ => True

theorem Reachable.initial {s : σ} (h : M.initial s) : M.Reachable s :=
  ReachableBy.initial h

theorem Reachable.step {s : σ} (h : M.Reachable s) (i : ι) :
    M.Reachable (M.step s i).2 :=
  ReachableBy.step h i trivial

/-- The state after a list of calls. -/
def after (M : Machine σ ι ο) (s : σ) (calls : List ι) : σ :=
  calls.foldl (fun s i => (M.step s i).2) s

@[simp] theorem after_nil (s : σ) : M.after s [] = s := rfl

@[simp] theorem after_cons (s : σ) (i : ι) (calls : List ι) :
    M.after s (i :: calls) = M.after (M.step s i).2 calls := rfl

@[simp] theorem after_append (s : σ) (calls calls' : List ι) :
    M.after s (calls ++ calls') = M.after (M.after s calls) calls' :=
  List.foldl_append

/-- The answers to a list of calls. -/
def answers (M : Machine σ ι ο) : σ → List ι → List ο
  | _, [] => []
  | s, i :: calls => (M.step s i).1 :: M.answers (M.step s i).2 calls

theorem answers_append (s : σ) (calls calls' : List ι) :
    M.answers s (calls ++ calls') = M.answers s calls ++ M.answers (M.after s calls) calls' := by
  induction calls generalizing s with
  | nil => rfl
  | cons i calls ih => exact congrArg _ (ih _)

theorem Reachable.after {s : σ} (h : M.Reachable s) (calls : List ι) :
    M.Reachable (M.after s calls) := by
  induction calls generalizing s with
  | nil => exact h
  | cons i calls ih => exact ih (h.step i)

/-- Every step of the run meets `ok`. -/
def Admits (M : Machine σ ι ο) (ok : σ → ι → Prop) : σ → List ι → Prop
  | _, [] => True
  | s, i :: calls => ok s i ∧ M.Admits ok (M.step s i).2 calls

/-- Every state of the run satisfies `P`. -/
def Throughout (M : Machine σ ι ο) (P : σ → Prop) : σ → List ι → Prop
  | s, [] => P s
  | s, i :: calls => P s ∧ M.Throughout P (M.step s i).2 calls

theorem Throughout.head {P : σ → Prop} {s : σ} {calls : List ι} (h : M.Throughout P s calls) :
    P s := by
  cases calls with
  | nil => exact h
  | cons i calls => exact h.1

theorem ReachableBy.after {s : σ} (h : M.ReachableBy ok s) {calls : List ι}
    (hcalls : M.Admits ok s calls) : M.ReachableBy ok (M.after s calls) := by
  induction calls generalizing s with
  | nil => exact h
  | cons i calls ih => exact ih (h.step i hcalls.1) hcalls.2

theorem admits_of_forall (h : ∀ s i, ok s i) (s : σ) (calls : List ι) : M.Admits ok s calls := by
  induction calls generalizing s with
  | nil => trivial
  | cons i calls ih => exact ⟨h s i, ih _⟩

/-- Let `I` be an invariant of the steps that meet `ok`, under a side condition `ok'`, and let a
step that does not meet `ok` lead from `I` to a state without `P`. Then the states of a run all
satisfy `P` exactly when its steps all meet `ok`. -/
theorem throughout_iff_of_invariant {I P : σ → Prop} (hIP : ∀ s, I s → P s)
    (hkeep : ∀ s i, I s → ok' s i → ok s i → I (M.step s i).2)
    (hbreak : ∀ s i, I s → ok' s i → P (M.step s i).2 → ok s i) {s : σ} (hs : I s)
    {calls : List ι} (hcalls : M.Admits ok' s calls) :
    M.Throughout P s calls ↔ M.Admits ok s calls := by
  induction calls generalizing s with
  | nil => exact iff_of_true (hIP s hs) trivial
  | cons i calls ih =>
    constructor
    · rintro ⟨-, hrest⟩
      have hi := hbreak s i hs hcalls.1 hrest.head
      exact ⟨hi, (ih (hkeep s i hs hcalls.1 hi) hcalls.2).mp hrest⟩
    · rintro ⟨hi, hrest⟩
      exact ⟨hIP s hs, (ih (hkeep s i hs hcalls.1 hi) hcalls.2).mpr hrest⟩

/-- If a step from a good state ends in a good state exactly when it meets `ok`, then the
states of a run are all good exactly when its steps all meet `ok`. -/
theorem throughout_iff {P : σ → Prop} (hstep : ∀ s i, P s → (P (M.step s i).2 ↔ ok s i)) {s : σ}
    (hs : P s) (calls : List ι) : M.Throughout P s calls ↔ M.Admits ok s calls :=
  throughout_iff_of_invariant (fun _ h => h) (fun s i h _ hi => (hstep s i h).mpr hi)
    (fun s i h _ hi => (hstep s i h).mp hi) hs (admits_of_forall (fun _ _ => trivial) s calls)

/-- Two conditions that are equivalent wherever an invariant holds are equivalent throughout a
run. -/
theorem throughout_congr {I P Q : σ → Prop} (hkeep : ∀ s i, I s → I (M.step s i).2)
    (hPQ : ∀ s, I s → (P s ↔ Q s)) {s : σ} (hs : I s) (calls : List ι) :
    M.Throughout P s calls ↔ M.Throughout Q s calls := by
  induction calls generalizing s with
  | nil => exact hPQ s hs
  | cons i calls ih => exact and_congr (hPQ s hs) (ih (hkeep s i hs))

/-- **Invariant rule**: a predicate that holds initially and that every admitted
step keeps holds in every state such runs reach. -/
theorem ReachableBy.invariant {I : σ → Prop} (h0 : ∀ s, M.initial s → I s)
    (hstep : ∀ s i, I s → ok s i → I (M.step s i).2) :
    ∀ {s : σ}, M.ReachableBy ok s → I s := by
  intro s hs
  induction hs with
  | initial h => exact h0 _ h
  | step _ i hok ih => exact hstep _ i ih hok

/-- The invariant rule for runs without a side condition. -/
theorem Reachable.invariant {I : σ → Prop} (h0 : ∀ s, M.initial s → I s)
    (hstep : ∀ s i, I s → I (M.step s i).2) {s : σ} (hs : M.Reachable s) : I s :=
  ReachableBy.invariant h0 (fun s i hi _ => hstep s i hi) hs

/-- **Simulation rule**: if related states answer a call alike, up to `f`, and go to related states,
then they answer every run alike. -/
theorem simulation {σ' ο' : Type*} {N : Machine σ' ι ο'} {R : σ → σ' → Prop} {f : ο' → ο}
    (hstep : ∀ s t i, R s t → (M.step s i).1 = f (N.step t i).1 ∧ R (M.step s i).2 (N.step t i).2)
    {s : σ} {t : σ'} (hst : R s t) (calls : List ι) :
    M.answers s calls = (N.answers t calls).map f ∧ R (M.after s calls) (N.after t calls) := by
  induction calls generalizing s t with
  | nil => exact ⟨rfl, hst⟩
  | cons i calls ih =>
    obtain ⟨hanswer, hnext⟩ := hstep s t i hst
    obtain ⟨hanswers, hlast⟩ := ih hnext
    refine ⟨?_, hlast⟩
    rw [answers, answers, List.map_cons, hanswer, hanswers]

end Machine

end Automaton
