import Mathlib.Tactic.Common
import Mathlib.Logic.Relation

/-!
# Calls made of atomic sections

A call on a shared state is a `Resumption`: it either is done, or performs one
atomic section (a critical section of a lock, an atomic load or store) and goes
on in a way that depends on the state the section saw. Between two sections of
one call other threads may change the state, so the same object serves both
readings: `run` executes the call with nothing in between, `resume` replays it
against the states its sections happened to see.

## Main definitions

- `Resumption`: calls on a state `σ` that return a value in `ρ`
- `Resumption.bind`: one call after another
- `Resumption.run`: the call executed without interference
- `Resumption.resume`: the answer, given the states the sections saw
- `Resumption.Guarantees`: every section relates the states around it
- `Resumption.Ensures`: guarantee and postcondition under interference
-/

namespace Automaton

/-- A call on a shared state `σ`: finished with an answer, or about to perform
one atomic section that updates the state and, from the state before the
update, decides how the call goes on. -/
inductive Resumption (σ ρ : Type*) where
  | done (r : ρ)
  | atomic (update : σ → σ) (next : σ → Resumption σ ρ)

namespace Resumption

variable {σ τ ρ α : Type*}

/-- A call that consists of one critical section. -/
def critical (f : σ → ρ × σ) : Resumption σ ρ :=
  atomic (fun s => (f s).2) (fun s => done (f s).1)

/-- A call that consists of one atomic read. -/
def load (g : σ → ρ) : Resumption σ ρ := critical fun s => (g s, s)

/-- Perform one call after the other; other threads may run in between. -/
def bind : Resumption σ α → (α → Resumption σ ρ) → Resumption σ ρ
  | done a, k => k a
  | atomic update next, k => atomic update (fun s => (next s).bind k)

instance : Monad (Resumption σ) where
  pure := done
  bind := bind

/-- Execute a call with no interference from other threads. -/
def run : Resumption σ ρ → σ → ρ × σ
  | done r, s => (r, s)
  | atomic update next, s => run (next s) (update s)

@[simp] theorem run_done (r : ρ) (s : σ) : (done r).run s = (r, s) := rfl

@[simp] theorem run_critical (f : σ → ρ × σ) (s : σ) : (critical f).run s = f s := rfl

@[simp] theorem run_load (g : σ → ρ) (s : σ) : (load g).run s = (g s, s) := rfl

/-- Without interference, the second call starts where the first one ended. -/
theorem run_bind (p : Resumption σ α) (k : α → Resumption σ ρ) (s : σ) :
    (p.bind k).run s = (k (p.run s).1).run (p.run s).2 := by
  induction p generalizing s with
  | done a => rfl
  | atomic update next ih => exact ih s (update s)

@[simp] theorem run_monad_bind {α ρ : Type _} (p : Resumption σ α)
    (k : α → Resumption σ ρ) (s : σ) :
    (p >>= k).run s = (k (p.run s).1).run (p.run s).2 :=
  run_bind p k s

@[simp] theorem run_pure {ρ : Type _} (r : ρ) (s : σ) :
    (pure r : Resumption σ ρ).run s = (r, s) := rfl

/-- Lift a call on a part of the state to the whole state. -/
def zoom (get : τ → σ) (set : σ → τ → τ) : Resumption σ ρ → Resumption τ ρ
  | done r => done r
  | atomic update next =>
      atomic (fun t => set (update (get t)) t) (fun t => (next (get t)).zoom get set)

/-- The answer of a call whose sections saw the listed states, if the list has
one state for each section the call performed. -/
def resume : Resumption σ ρ → List σ → Option ρ
  | done r, [] => some r
  | done _, _ :: _ => none
  | atomic _ _, [] => none
  | atomic _ next, s :: seen => resume (next s) seen

@[simp] theorem resume_done_eq_some {r r' : ρ} {seen : List σ} :
    (done r).resume seen = some r' ↔ seen = [] ∧ r = r' := by
  cases seen <;> simp [resume]

@[simp] theorem resume_critical_eq_some {f : σ → ρ × σ} {r : ρ} {seen : List σ} :
    (critical f).resume seen = some r ↔ ∃ s, seen = [s] ∧ (f s).1 = r := by
  obtain _ | ⟨s, _ | ⟨s', seen⟩⟩ := seen <;> simp [critical, resume]

@[simp] theorem resume_load_eq_some {g : σ → ρ} {r : ρ} {seen : List σ} :
    (load g).resume seen = some r ↔ ∃ s, seen = [s] ∧ g s = r :=
  resume_critical_eq_some

/-- The sections of a composed call are those of the first part, then those of
the second. -/
theorem resume_bind_eq_some {p : Resumption σ α} {k : α → Resumption σ ρ} {r : ρ}
    {seen : List σ} :
    (p.bind k).resume seen = some r ↔
      ∃ a first rest, seen = first ++ rest ∧ p.resume first = some a ∧
        (k a).resume rest = some r := by
  induction p generalizing seen with
  | done a =>
    constructor
    · intro h
      exact ⟨a, [], seen, rfl, rfl, h⟩
    · rintro ⟨a', first, rest, rfl, hfirst, hrest⟩
      obtain ⟨rfl, rfl⟩ := resume_done_eq_some.mp hfirst
      exact hrest
  | atomic update next ih =>
    cases seen with
    | nil => simp [bind, resume]
    | cons s seen =>
      show ((next s).bind k).resume seen = some r ↔ _
      rw [ih s]
      constructor
      · rintro ⟨a, first, rest, rfl, hfirst, hrest⟩
        exact ⟨a, s :: first, rest, rfl, hfirst, hrest⟩
      · rintro ⟨a, first, rest, hseen, hfirst, hrest⟩
        cases first with
        | nil => simp [resume] at hfirst
        | cons s' first =>
          obtain ⟨rfl, rfl⟩ := List.cons.inj hseen
          exact ⟨a, first, rest, rfl, hfirst, hrest⟩

@[simp] theorem resume_monad_bind_eq_some {α ρ : Type _} {p : Resumption σ α}
    {k : α → Resumption σ ρ} {r : ρ} {seen : List σ} :
    (p >>= k).resume seen = some r ↔
      ∃ a first rest, seen = first ++ rest ∧ p.resume first = some a ∧
        (k a).resume rest = some r :=
  resume_bind_eq_some

/-- A lifted call answers from the parts of the states its sections saw. -/
@[simp] theorem resume_zoom (get : τ → σ) (set : σ → τ → τ) (p : Resumption σ ρ)
    (seen : List τ) : (p.zoom get set).resume seen = p.resume (seen.map get) := by
  induction p generalizing seen with
  | done r => cases seen <;> rfl
  | atomic update next ih =>
    cases seen with
    | nil => rfl
    | cons t seen => exact ih (get t) seen

/-- Every atomic section of the call relates the states before and after it. -/
def Guarantees (G : σ → σ → Prop) : Resumption σ ρ → Prop
  | done _ => True
  | atomic update next => ∀ s, G s (update s) ∧ (next s).Guarantees G

@[simp] theorem guarantees_done (G : σ → σ → Prop) (r : ρ) :
    (done r).Guarantees G := trivial

@[simp] theorem guarantees_critical {G : σ → σ → Prop} {f : σ → ρ × σ} :
    (critical f).Guarantees G ↔ ∀ s, G s (f s).2 := by
  simp [critical, Guarantees]

@[simp] theorem guarantees_load {G : σ → σ → Prop} {g : σ → ρ} :
    (load g).Guarantees G ↔ ∀ s, G s s :=
  guarantees_critical

theorem Guarantees.bind {G : σ → σ → Prop} {p : Resumption σ α}
    {k : α → Resumption σ ρ} (hp : p.Guarantees G) (hk : ∀ a, (k a).Guarantees G) :
    (p.bind k).Guarantees G := by
  induction p with
  | done a => exact hk a
  | atomic update next ih => exact fun s => ⟨(hp s).1, ih s (hp s).2⟩

theorem Guarantees.monad_bind {α ρ : Type _} {G : σ → σ → Prop} {p : Resumption σ α}
    {k : α → Resumption σ ρ} (hp : p.Guarantees G) (hk : ∀ a, (k a).Guarantees G) :
    (p >>= k).Guarantees G :=
  hp.bind hk

/-- Two guarantees at once. -/
theorem Guarantees.and {G H : σ → σ → Prop} :
    ∀ {p : Resumption σ ρ}, p.Guarantees G → p.Guarantees H →
      p.Guarantees fun s s' => G s s' ∧ H s s'
  | done _, _, _ => trivial
  | atomic _ _, hG, hH => fun s => ⟨⟨(hG s).1, (hH s).1⟩, (hG s).2.and (hH s).2⟩

/-- Executed without interference, a call moves the state by what its sections
guarantee. -/
theorem Guarantees.run {G : σ → σ → Prop} {p : Resumption σ ρ} (h : p.Guarantees G)
    (s : σ) : Relation.ReflTransGen G s (p.run s).2 := by
  induction p generalizing s with
  | done r => exact .refl
  | atomic update next ih => exact .head (h s).1 (ih s (h s).2 (update s))

/-- A property that the guarantee keeps survives the call. -/
theorem Guarantees.invariant {G : σ → σ → Prop} {I : σ → Prop} {p : Resumption σ ρ}
    (h : p.Guarantees G) (hI : ∀ s s', G s s' → I s → I s') {s : σ} (hs : I s) :
    I (p.run s).2 := by
  have hreach : ∀ s', Relation.ReflTransGen G s s' → I s' := by
    intro s' hrun
    induction hrun with
    | refl => exact hs
    | tail _ hstep ih => exact hI _ _ hstep ih
  exact hreach _ (h.run s)

/-- Lifting a call lifts what its sections guarantee. -/
theorem Guarantees.zoom {G : σ → σ → Prop} {H : τ → τ → Prop} {get : τ → σ}
    {set : σ → τ → τ} (hset : ∀ t s, G (get t) s → H t (set s t)) :
    ∀ {p : Resumption σ ρ}, p.Guarantees G → (p.zoom get set).Guarantees H
  | done _, _ => trivial
  | atomic _ _, h => fun t => ⟨hset t _ (h (get t)).1, (h (get t)).2.zoom hset⟩

/-- Started in `s`, every section of the call keeps to `G` and the call returns only
answers that meet `Q`, whatever other threads do between its sections as long as they
keep to `G` as well. -/
def Ensures (G : σ → σ → Prop) (Q : ρ → σ → Prop) : Resumption σ ρ → σ → Prop
  | done r, s => Q r s
  | atomic update next, s =>
      ∀ s', Relation.ReflTransGen G s s' →
        G s' (update s') ∧ (next s').Ensures G Q (update s')

/-- Interference does not invalidate a call whose postcondition is stable. -/
theorem Ensures.stable {G : σ → σ → Prop} {Q : ρ → σ → Prop}
    (hQ : ∀ r s s', G s s' → Q r s → Q r s') {p : Resumption σ ρ} {s s' : σ}
    (h : p.Ensures G Q s) (hs : G s s') : p.Ensures G Q s' := by
  cases p with
  | done r => exact hQ r s s' hs h
  | atomic update next =>
    intro s'' hs''
    exact h s'' (Relation.ReflTransGen.head hs hs'')

/-- A call that keeps to `G` unconditionally meets a postcondition that says nothing. -/
theorem Guarantees.ensures {G : σ → σ → Prop} {Q : ρ → σ → Prop} (hQ : ∀ r s, Q r s) :
    ∀ {p : Resumption σ ρ}, p.Guarantees G → ∀ s, p.Ensures G Q s
  | done r, _, s => hQ r s
  | atomic _ _, h, _ => fun s' _ => ⟨(h s').1, (h s').2.ensures hQ _⟩

end Resumption

end Automaton
