import Mathlib.Algebra.GroupWithZero.Nat
import Mathlib.Algebra.Order.BigOperators.Group.List
import Mathlib.Algebra.Order.Group.Nat
import Mathlib.Tactic.Common

/-!
# Pools of threads

The threads of a program as a list of their states: a step changes the state of one thread,
and new threads are added at the end. What all threads have together, such as the references
they hold or the steps they have left, is a sum over the pool.

## Main definitions

- `Pool.total`: the sum of a number that each thread has

## Main results

- `Pool.total_set`, `Pool.total_append`: how a step and a new thread change it
-/

namespace Automaton

namespace Pool

variable {α : Type*} (f : α → ℕ)

/-- The sum of `f` over the threads. -/
def total (threads : List α) : ℕ := (threads.map f).sum

@[simp] theorem total_nil : total f [] = 0 := rfl

@[simp] theorem total_cons (a : α) (threads : List α) :
    total f (a :: threads) = f a + total f threads := by
  simp [total]

@[simp] theorem total_append (threads threads' : List α) :
    total f (threads ++ threads') = total f threads + total f threads' := by
  simp [total]

/-- One thread takes a step from `a` to `b`. -/
theorem total_set {threads : List α} {i : ℕ} {a : α} (h : threads[i]? = some a) (b : α) :
    total f (threads.set i b) + f a = total f threads + f b := by
  induction threads generalizing i with
  | nil => simp at h
  | cons c threads ih =>
    cases i with
    | zero =>
      obtain rfl : c = a := by simpa using h
      rw [List.set_cons_zero, total_cons, total_cons]
      omega
    | succ i =>
      have hrest := ih (i := i) (by simpa using h)
      rw [List.set_cons_succ, total_cons, total_cons]
      omega

/-- A thread has no more than all together. -/
theorem le_total {threads : List α} {i : ℕ} {a : α} (h : threads[i]? = some a) :
    f a ≤ total f threads :=
  List.single_le_sum (fun _ _ => Nat.zero_le _) _
    (List.mem_map_of_mem (List.mem_of_getElem? h))

theorem total_eq_zero_iff {threads : List α} :
    total f threads = 0 ↔ ∀ (i : ℕ) (a : α), threads[i]? = some a → f a = 0 := by
  constructor
  · intro h i a ha
    have hle := le_total f ha
    omega
  · intro h
    induction threads with
    | nil => rfl
    | cons a threads ih =>
      rw [total_cons, h 0 a rfl, ih fun i b hb => h (i + 1) b hb]

end Pool

end Automaton
