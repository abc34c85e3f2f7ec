import Mathlib.Data.List.Infix
import Mathlib.Tactic.Common

/-!
# Scripts of calls

A function that makes one call after another and gives up at the first one that fails follows a
script: the list of its calls, and whether it accepts in the end. The answer to a call may depend on
the calls before it; if they change a state, it is the answer in the state that they have left.

## Main definitions

- `Script`, `Script.andThen`: calls, and one script after another
- `Script.run`: how far a script gets
- `Script.replay`, `Script.answers`: the state that calls leave, and what they answer there
- `Script.execute`: the calls on a state
- `Script.Accepted`, `Script.Stopped`: what a script leaves if it is accepted, and if it is not

## Main results

- `Script.run_andThen`: a script behind another
- `Script.execute_answers`: a script that is run with the answers of a state executes on it
- `Script.accepted_andThen`, `Script.stopped_andThen`: what a script leaves, part by part
-/

namespace Automaton

/-- Calls that are made one after another, and what comes of it if none fails. -/
structure Script (κ : Type*) where
  calls : List κ
  accepts : Bool

namespace Script

variable {κ σ : Type*}

/-- Nothing is left to do. -/
def done : Script κ := ⟨[], true⟩

/-- It cannot go on. -/
def reject : Script κ := ⟨[], false⟩

/-- One call. -/
def call (k : κ) : Script κ := ⟨[k], true⟩

/-- One script, and if it was accepted another. -/
def andThen (s t : Script κ) : Script κ :=
  if s.accepts then ⟨s.calls ++ t.calls, t.accepts⟩ else s

/-- Scripts one after another. -/
def sequence (scripts : List (Script κ)) : Script κ := scripts.foldr andThen done

@[simp] theorem andThen_done (s : Script κ) : s.andThen done = s := by
  obtain ⟨calls, accepts⟩ := s
  cases accepts with
  | false => rfl
  | true => exact congrArg (Script.mk · true) (List.append_nil calls)

theorem andThen_assoc (s t u : Script κ) : (s.andThen t).andThen u = s.andThen (t.andThen u) := by
  obtain ⟨calls, accepts⟩ := s
  obtain ⟨calls', accepts'⟩ := t
  cases accepts with
  | false => rfl
  | true =>
    cases accepts' with
    | false => rfl
    | true => exact congrArg (Script.mk · u.accepts) (List.append_assoc calls calls' u.calls)

@[simp] theorem sequence_cons (s : Script κ) (scripts : List (Script κ)) :
    sequence (s :: scripts) = s.andThen (sequence scripts) := rfl

/-! ### How far a script gets -/

section Run

-- whether a call succeeds after the calls before it
variable (ok : List κ → κ → Bool)

/-- Make the calls up to the first that fails: whether none does, and all calls made so far. -/
def perform (made : List κ) : List κ → Bool × List κ
  | [] => (true, made)
  | k :: rest => if ok made k then perform (made ++ [k]) rest else (false, made ++ [k])

/-- Whether the script is accepted, and all calls made so far. -/
def run (s : Script κ) (made : List κ) : Bool × List κ :=
  ((perform ok made s.calls).1 && s.accepts, (perform ok made s.calls).2)

variable {ok}

theorem perform_append (made calls calls' : List κ) :
    perform ok made (calls ++ calls') =
      if (perform ok made calls).1 then perform ok (perform ok made calls).2 calls'
      else perform ok made calls := by
  induction calls generalizing made with
  | nil => rfl
  | cons k calls ih =>
    rw [List.cons_append, perform, perform]
    by_cases hk : ok made k = true
    · simp only [if_pos hk, ih]
    · simp only [if_neg hk, Bool.false_eq_true, if_false]

/-- The second script begins where the first one ends. -/
theorem run_andThen (s t : Script κ) (made : List κ) :
    (s.andThen t).run ok made =
      if (s.run ok made).1 then t.run ok (s.run ok made).2 else s.run ok made := by
  obtain ⟨calls, accepts⟩ := s
  cases accepts with
  | false =>
    have hfail : ¬ ((Script.mk calls false).run ok made).1 = true := by
      simp [run]
    rw [if_neg hfail]
    rfl
  | true =>
    have hrun : (Script.mk calls true).run ok made = perform ok made calls :=
      Prod.ext (Bool.and_true _) rfl
    have hseq : ((Script.mk calls true).andThen t).run ok made =
        ((perform ok made (calls ++ t.calls)).1 && t.accepts,
          (perform ok made (calls ++ t.calls)).2) := rfl
    rw [hrun, hseq, perform_append]
    split_ifs with hcalls
    · rfl
    · rw [Bool.not_eq_true] at hcalls
      exact Prod.ext (by rw [hcalls]; rfl) rfl

theorem run_call (k : κ) (made : List κ) :
    (call k).run ok made = (ok made k, made ++ [k]) := by
  show ((perform ok made [k]).1 && true, (perform ok made [k]).2) = _
  rw [Bool.and_true, perform]
  cases ok made k <;> rfl

end Run

/-! ### Calls that change a state -/

section Execute

-- what a call does to a state after the calls before it
variable (step : List κ → κ → σ → Bool × σ)

/-- The state that calls leave. -/
def replay (w : σ) (made : List κ) : σ :=
  (made.foldl (fun p k => (p.1 ++ [k], (step p.1 k p.2).2)) ([], w)).2

/-- What a call answers in the state that those before it leave. -/
def answers (w : σ) (made : List κ) (k : κ) : Bool := (step made k (replay step w made)).1

/-- Make the calls on a state up to the first that fails. -/
def execute (made : List κ) : List κ → σ → Bool × σ
  | [], w => (true, w)
  | k :: rest, w =>
    let (ok, w) := step made k w
    if ok then execute (made ++ [k]) rest w else (false, w)

variable {step}

theorem replay_foldl_fst (made made' : List κ) (w : σ) :
    (made'.foldl (fun p k => (p.1 ++ [k], (step p.1 k p.2).2)) (made, w)).1 = made ++ made' := by
  induction made' generalizing made w with
  | nil => exact (List.append_nil made).symm
  | cons k made' ih => rw [List.foldl_cons, ih, List.append_assoc, List.singleton_append]

theorem replay_snoc (w : σ) (made : List κ) (k : κ) :
    replay step w (made ++ [k]) = (step made k (replay step w made)).2 := by
  rw [replay, List.foldl_append, List.foldl_cons, List.foldl_nil, replay_foldl_fst, List.nil_append]
  rfl

/-- The answers of a state lead through the states that the calls leave. -/
theorem execute_answers (w : σ) (made calls : List κ) :
    execute step made calls (replay step w made) =
      ((perform (answers step w) made calls).1,
        replay step w (perform (answers step w) made calls).2) := by
  induction calls generalizing made with
  | nil => rfl
  | cons k calls ih =>
    rw [execute, perform]
    show (if answers step w made k = true then _ else _) = _
    by_cases hk : answers step w made k = true
    · rw [if_pos hk, if_pos hk, ← replay_snoc, ih]
    · rw [if_neg hk, if_neg hk, ← replay_snoc]

theorem execute_of_ok {made : List κ} {k : κ} {w : σ} (hk : (step made k w).1 = true)
    (rest : List κ) :
    execute step made (k :: rest) w = execute step (made ++ [k]) rest (step made k w).2 :=
  if_pos hk

theorem execute_of_fail {made : List κ} {k : κ} {w : σ} (hk : (step made k w).1 ≠ true)
    (rest : List κ) : execute step made (k :: rest) w = (false, (step made k w).2) :=
  if_neg hk

theorem execute_append (made calls calls' : List κ) (w : σ) :
    execute step made (calls ++ calls') w =
      if (execute step made calls w).1 then
        execute step (made ++ calls) calls' (execute step made calls w).2
      else execute step made calls w := by
  induction calls generalizing made w with
  | nil => simp [execute]
  | cons k calls ih =>
    rw [List.cons_append]
    by_cases hk : (step made k w).1 = true
    · simp only [execute_of_ok hk, ih, List.append_assoc, List.singleton_append]
    · simp only [execute_of_fail hk, Bool.false_eq_true, if_false]

/-- After `made`, all calls of the script succeed on a state and leave `w'`, and it is accepted. -/
def Accepted (step : List κ → κ → σ → Bool × σ) (made : List κ) (w : σ) (s : Script κ) (w' : σ) :
    Prop := s.accepts = true ∧ execute step made s.calls w = (true, w')

variable {made : List κ} {w w' : σ} {s t : Script κ}

@[simp] theorem accepted_done : Accepted step made w done w' ↔ w' = w := by
  constructor
  · rintro ⟨-, h⟩
    exact (Prod.mk.inj h).2.symm
  · rintro rfl
    exact ⟨rfl, rfl⟩

@[simp] theorem not_accepted_reject : ¬ Accepted step made w reject w' := fun h =>
  Bool.false_ne_true h.1

@[simp] theorem accepted_call {k : κ} :
    Accepted step made w (call k) w' ↔ step made k w = (true, w') := by
  have hexec : execute step made [k] w = step made k w := by
    by_cases hk : (step made k w).1 = true
    · rw [execute_of_ok hk]
      exact Prod.ext hk.symm rfl
    · rw [execute_of_fail hk]
      exact Prod.ext (Bool.eq_false_iff.mpr hk).symm rfl
  show (true = true ∧ execute step made [k] w = _) ↔ _
  rw [hexec, and_iff_right rfl]

theorem accepted_andThen :
    Accepted step made w (s.andThen t) w' ↔
      ∃ v, Accepted step made w s v ∧ Accepted step (made ++ s.calls) v t w' := by
  obtain ⟨calls, accepts⟩ := s
  cases accepts with
  | false => exact iff_of_false (fun h => Bool.false_ne_true h.1) fun ⟨_, h, _⟩ =>
      Bool.false_ne_true h.1
  | true =>
    show (t.accepts = true ∧ execute step made (calls ++ t.calls) w = _) ↔ _
    rw [execute_append]
    constructor
    · rintro ⟨haccepts, h⟩
      by_cases hcalls : (execute step made calls w).1 = true
      · rw [if_pos hcalls] at h
        exact ⟨_, ⟨rfl, Prod.ext hcalls rfl⟩, haccepts, h⟩
      · rw [if_neg hcalls] at h
        exact absurd (congrArg Prod.fst h) hcalls
    · rintro ⟨v, ⟨-, hcalls⟩, haccepts, h⟩
      rw [hcalls]
      exact ⟨haccepts, h⟩

/-- After `made`, the script is not accepted on a state, and leaves `w'`. -/
def Stopped (step : List κ → κ → σ → Bool × σ) (made : List κ) (w : σ) (s : Script κ) (w' : σ) :
    Prop :=
  ((execute step made s.calls w).1 && s.accepts) = false ∧ w' = (execute step made s.calls w).2

@[simp] theorem not_stopped_done : ¬ Stopped step made w done w' := fun h =>
  Bool.false_ne_true h.1.symm

@[simp] theorem stopped_reject : Stopped step made w reject w' ↔ w' = w :=
  and_iff_right rfl

theorem stopped_call {k : κ} :
    Stopped step made w (call k) w' ↔ step made k w = (false, w') := by
  show (((execute step made [k] w).1 && true) = false ∧ w' = (execute step made [k] w).2) ↔ _
  rw [Bool.and_true]
  by_cases hk : (step made k w).1 = true
  · rw [execute_of_ok hk]
    exact iff_of_false (fun h => Bool.false_ne_true h.1.symm) fun h =>
      Bool.false_ne_true ((congrArg Prod.fst h).symm.trans hk)
  · rw [execute_of_fail hk]
    constructor
    · rintro ⟨-, rfl⟩
      exact Prod.ext (Bool.eq_false_iff.mpr hk) rfl
    · intro h
      exact ⟨rfl, (congrArg Prod.snd h).symm⟩

/-- Either part of a script can stop it. -/
theorem stopped_andThen (h : Stopped step made w (s.andThen t) w') :
    Stopped step made w s w' ∨
      ∃ v, Accepted step made w s v ∧ Stopped step (made ++ s.calls) v t w' := by
  obtain ⟨calls, accepts⟩ := s
  cases accepts with
  | false => exact .inl h
  | true =>
    obtain ⟨hstop, rfl⟩ : ((execute step made (calls ++ t.calls) w).1 && t.accepts) = false ∧
      w' = (execute step made (calls ++ t.calls) w).2 := h
    rw [execute_append] at hstop ⊢
    by_cases hcalls : (execute step made calls w).1 = true
    · rw [if_pos hcalls] at hstop ⊢
      exact .inr ⟨_, ⟨rfl, Prod.ext hcalls rfl⟩, hstop, rfl⟩
    · rw [if_neg hcalls]
      exact .inl ⟨by rw [Bool.and_true]; exact Bool.eq_false_iff.mpr hcalls, rfl⟩

theorem stopped_of_run (h : (s.run (answers step w) made).1 = false) :
    Stopped step made (replay step w made) s (replay step w (s.run (answers step w) made).2) := by
  unfold Stopped
  rw [execute_answers]
  exact ⟨h, rfl⟩

/-- A script that is accepted with the answers of a state is accepted on it. -/
theorem accepted_of_run (h : (s.run (answers step w) made).1 = true) :
    Accepted step made (replay step w made) s
      (replay step w (s.run (answers step w) made).2) := by
  obtain ⟨hcalls, haccepts⟩ := Bool.and_eq_true_iff.mp h
  refine ⟨haccepts, ?_⟩
  rw [execute_answers, hcalls]
  rfl

end Execute

end Script

end Automaton
