import ScfSecurity.Library.Resumption
import Mathlib.Logic.Function.Basic
import Mathlib.Data.List.Basic

/-!
# Interleavings of concurrent calls

Any number of threads call operations `κ` on one shared state. An operation is
carried out by its `body`, a `Resumption`; one step of the system is the
invocation of a call by an idle thread, one atomic section of a running call, or
the return of a finished one. A `Run` lists the events with the configurations
they lead to, so it is one interleaving; quantifying over runs quantifies over
all of them.

## Main results

- `Run.ensures`: the shared state moves only as the calls guarantee
- `Run.returned`: a returned call meets its postcondition
- `Run.observed`: the answer of a call is the one its sections give on states
  the shared state really had, in the order in which it had them
-/

namespace Automaton

variable {ι κ σ ρ : Type*}

/-- The shared state and, for each thread, the call it is in the middle of. -/
structure Config (ι κ σ ρ : Type*) where
  shared : σ
  threads : ι → Option (κ × Resumption σ ρ)

/-- What happens in one step of the system. -/
inductive Event (ι κ ρ : Type*) where
  | invoke (t : ι) (c : κ)
  | tick (t : ι)
  | ret (t : ι) (c : κ) (r : ρ)

/-- The event starts or ends a call of thread `t`. -/
def Event.Delimits (t : ι) : Event ι κ ρ → Prop
  | invoke t' _ => t' = t
  | tick _ => False
  | ret t' _ _ => t' = t

/-- The configuration at the end of an interleaving. -/
def lastConfig (C : Config ι κ σ ρ) (tr : List (Event ι κ ρ × Config ι κ σ ρ)) :
    Config ι κ σ ρ :=
  (tr.getLast?.map Prod.snd).getD C

@[simp] theorem lastConfig_nil (C : Config ι κ σ ρ) : lastConfig C [] = C := rfl

@[simp] theorem lastConfig_cons (C : Config ι κ σ ρ) (x : Event ι κ ρ × Config ι κ σ ρ)
    (tr : List (Event ι κ ρ × Config ι κ σ ρ)) :
    lastConfig C (x :: tr) = lastConfig x.2 tr := by
  cases tr with
  | nil => rfl
  | cons y tr => simp [lastConfig, List.getLast?_cons]

@[simp] theorem lastConfig_append (C : Config ι κ σ ρ)
    (tr tr' : List (Event ι κ ρ × Config ι κ σ ρ)) :
    lastConfig C (tr ++ tr') = lastConfig (lastConfig C tr) tr' := by
  induction tr generalizing C with
  | nil => rfl
  | cons x tr ih => simp [ih]

variable [DecidableEq ι] {body : κ → Resumption σ ρ}

/-- One step of one thread. -/
inductive Step (body : κ → Resumption σ ρ) :
    Config ι κ σ ρ → Event ι κ ρ → Config ι κ σ ρ → Prop
  | invoke {C : Config ι κ σ ρ} {t : ι} (h : C.threads t = none) (c : κ) :
      Step body C (.invoke t c)
        { C with threads := Function.update C.threads t (some (c, body c)) }
  | tick {C : Config ι κ σ ρ} {t : ι} {c : κ} {update : σ → σ}
      {next : σ → Resumption σ ρ} (h : C.threads t = some (c, .atomic update next)) :
      Step body C (.tick t)
        { shared := update C.shared
          threads := Function.update C.threads t (some (c, next C.shared)) }
  | ret {C : Config ι κ σ ρ} {t : ι} {c : κ} {r : ρ}
      (h : C.threads t = some (c, .done r)) :
      Step body C (.ret t c r)
        { C with threads := Function.update C.threads t none }

/-- An interleaving: the events after a configuration, each with the
configuration it leads to. -/
inductive Run (body : κ → Resumption σ ρ) :
    Config ι κ σ ρ → List (Event ι κ ρ × Config ι κ σ ρ) → Prop
  | nil {C : Config ι κ σ ρ} : Run body C []
  | cons {C C' : Config ι κ σ ρ} {e : Event ι κ ρ}
      {tr : List (Event ι κ ρ × Config ι κ σ ρ)}
      (hstep : Step body C e C') (hrun : Run body C' tr) : Run body C ((e, C') :: tr)

/-- An interleaving is cut at any point into two interleavings. -/
theorem Run.append_iff {C : Config ι κ σ ρ}
    {tr tr' : List (Event ι κ ρ × Config ι κ σ ρ)} :
    Run body C (tr ++ tr') ↔ Run body C tr ∧ Run body (lastConfig C tr) tr' := by
  induction tr generalizing C with
  | nil => simp [Run.nil]
  | cons x tr ih =>
    constructor
    · intro h
      cases h with
      | cons hstep hrun => exact ⟨.cons hstep (ih.mp hrun).1, by simpa using (ih.mp hrun).2⟩
    · rintro ⟨h, h'⟩
      cases h with
      | cons hstep hrun => exact .cons hstep (ih.mpr ⟨hrun, by simpa using h'⟩)

/-- Every running call satisfies `P`, a property of the call, of what is left of
it and of the shared state. -/
def EveryThread (P : κ → Resumption σ ρ → σ → Prop) (C : Config ι κ σ ρ) : Prop :=
  ∀ t c p, C.threads t = some (c, p) → P c p C.shared

/-- Replacing what one thread runs, only that thread has to be checked again. -/
theorem EveryThread.update {P : κ → Resumption σ ρ → σ → Prop} {C : Config ι κ σ ρ}
    {s : σ} {t : ι} {v : Option (κ × Resumption σ ρ)}
    (h : ∀ t' c p, t' ≠ t → C.threads t' = some (c, p) → P c p s)
    (hv : ∀ c p, v = some (c, p) → P c p s) :
    EveryThread P (⟨s, Function.update C.threads t v⟩ : Config ι κ σ ρ) := by
  intro t' c p hp
  by_cases ht : t' = t
  · subst ht
    exact hv c p (by simpa using hp)
  · exact h t' c p ht (by simpa [Function.update_of_ne ht] using hp)

/-- One step moves the shared state by the common guarantee, or not at all, and keeps
every running call on its way to its postcondition. -/
theorem Step.ensures {G : σ → σ → Prop} {Q : κ → ρ → σ → Prop}
    (hQ : ∀ c r s s', G s s' → Q c r s → Q c r s')
    (hbody : ∀ c s, (body c).Ensures G (Q c) s) {C C' : Config ι κ σ ρ}
    {e : Event ι κ ρ} (h : Step body C e C')
    (hC : EveryThread (fun c p s => p.Ensures G (Q c) s) C) :
    Relation.ReflTransGen G C.shared C'.shared ∧
      EveryThread (fun c p s => p.Ensures G (Q c) s) C' := by
  cases h with
  | @invoke t hidle c =>
    refine ⟨.refl, EveryThread.update (fun t' c p _ => hC t' c p) ?_⟩
    intro c' p hp
    cases hp
    exact hbody c C.shared
  | @tick t c update next hrun =>
    have hp := hC t c _ hrun C.shared .refl
    refine ⟨.single hp.1, EveryThread.update
      (fun t' c' p _ hp' => (hC t' c' p hp').stable (hQ c') hp.1) ?_⟩
    intro c' p hp'
    cases hp'
    exact hp.2
  | @ret t c r hdone =>
    exact ⟨.refl, EveryThread.update (fun t' c p _ => hC t' c p) (by simp)⟩

/-- **Guarantee rule**: along an interleaving the shared state moves only by the
guarantee of the calls. -/
theorem Run.ensures {G : σ → σ → Prop} {Q : κ → ρ → σ → Prop}
    (hQ : ∀ c r s s', G s s' → Q c r s → Q c r s')
    (hbody : ∀ c s, (body c).Ensures G (Q c) s) {C : Config ι κ σ ρ}
    {tr : List (Event ι κ ρ × Config ι κ σ ρ)} (h : Run body C tr)
    (hC : EveryThread (fun c p s => p.Ensures G (Q c) s) C) :
    Relation.ReflTransGen G C.shared (lastConfig C tr).shared ∧
      EveryThread (fun c p s => p.Ensures G (Q c) s) (lastConfig C tr) := by
  induction h with
  | nil => exact ⟨.refl, hC⟩
  | cons hstep _ ih =>
    obtain ⟨hs, hC'⟩ := hstep.ensures hQ hbody hC
    obtain ⟨hs', hC''⟩ := ih hC'
    simpa using ⟨hs.trans hs', hC''⟩

/-- The guarantee rule for the configurations inside an interleaving. -/
theorem Run.ensures_mem {G : σ → σ → Prop} {Q : κ → ρ → σ → Prop}
    (hQ : ∀ c r s s', G s s' → Q c r s → Q c r s')
    (hbody : ∀ c s, (body c).Ensures G (Q c) s) {C : Config ι κ σ ρ}
    {tr : List (Event ι κ ρ × Config ι κ σ ρ)} (h : Run body C tr)
    (hC : EveryThread (fun c p s => p.Ensures G (Q c) s) C)
    {x : Event ι κ ρ × Config ι κ σ ρ} (hx : x ∈ tr) :
    Relation.ReflTransGen G C.shared x.2.shared := by
  obtain ⟨pre, post, rfl⟩ := List.append_of_mem hx
  rw [List.append_cons, Run.append_iff] at h
  simpa using (h.1.ensures hQ hbody hC).1

/-- **Postcondition rule**: in every interleaving a call returns only answers
that meet its postcondition in the shared state of that moment. -/
theorem Run.returned {G : σ → σ → Prop} {Q : κ → ρ → σ → Prop}
    (hQ : ∀ c r s s', G s s' → Q c r s → Q c r s')
    (hbody : ∀ c s, (body c).Ensures G (Q c) s) {C C' : Config ι κ σ ρ}
    {tr : List (Event ι κ ρ × Config ι κ σ ρ)} {t : ι} {c : κ} {r : ρ}
    (h : Run body C (tr ++ [(.ret t c r, C')]))
    (hC : EveryThread (fun c p s => p.Ensures G (Q c) s) C) : Q c r C'.shared := by
  rw [Run.append_iff] at h
  have hlast := (h.1.ensures hQ hbody hC).2
  cases h.2 with
  | cons hstep _ =>
    cases hstep with
    | ret hdone => exact hlast t c _ hdone

/-- A step that neither starts nor ends a call of `t` either is a section of
the call `t` runs or leaves that call alone. -/
theorem Step.thread {C C' : Config ι κ σ ρ} {e : Event ι κ ρ} {t : ι} {c : κ}
    {p : Resumption σ ρ} (h : Step body C e C') (he : ¬ e.Delimits t)
    (hp : C.threads t = some (c, p)) :
    C'.threads t = some (c, p) ∨
      ∃ update next, p = .atomic update next ∧
        C'.threads t = some (c, next C.shared) := by
  cases h with
  | @invoke t' _ c' =>
    have ht : t ≠ t' := fun ht => he ht.symm
    exact .inl (by simpa [Function.update_of_ne ht] using hp)
  | @tick t' c' update next hrun =>
    by_cases ht : t = t'
    · subst ht
      rw [hp] at hrun
      cases hrun
      exact .inr ⟨update, next, rfl, by simp⟩
    · exact .inl (by simpa [Function.update_of_ne ht] using hp)
  | @ret t' c' r hdone =>
    have ht : t ≠ t' := fun ht => he ht.symm
    exact .inl (by simpa [Function.update_of_ne ht] using hp)

/-- **Observation rule**: the answer of a call is the one its sections give on
states the shared state had while the call ran, in that order. -/
theorem Run.observed {C C' : Config ι κ σ ρ}
    {tr : List (Event ι κ ρ × Config ι κ σ ρ)} {t : ι} {c : κ} {p : Resumption σ ρ}
    {r : ρ} (h : Run body C (tr ++ [(.ret t c r, C')]))
    (htr : ∀ x ∈ tr, ¬ x.1.Delimits t) (hp : C.threads t = some (c, p)) :
    ∃ seen, seen.Sublist (C.shared :: tr.map fun x => x.2.shared) ∧
      p.resume seen = some r := by
  induction tr generalizing C p with
  | nil =>
    cases h with
    | cons hstep _ =>
      cases hstep with
      | ret hdone =>
        rw [hp] at hdone
        cases hdone
        exact ⟨[], List.nil_sublist _, rfl⟩
  | cons x tr ih =>
    cases h with
    | cons hstep hrun =>
      have htr' : ∀ y ∈ tr, ¬ y.1.Delimits t :=
        fun y hy => htr y (List.mem_cons_of_mem _ hy)
      obtain hp' | ⟨update, next, rfl, hp'⟩ := hstep.thread (htr _ List.mem_cons_self) hp
      · obtain ⟨seen, hsub, hr⟩ := ih hrun htr' hp'
        exact ⟨seen, hsub.cons _, hr⟩
      · obtain ⟨seen, hsub, hr⟩ := ih hrun htr' hp'
        exact ⟨C.shared :: seen, hsub.cons_cons _, hr⟩

/-- The observation rule for a call inside an interleaving, from its invocation to its
return. -/
theorem Run.observed_call {C E F : Config ι κ σ ρ}
    {pre mid post : List (Event ι κ ρ × Config ι κ σ ρ)} {t : ι} {c : κ} {r : ρ}
    (h : Run body C (pre ++ (.invoke t c, E) :: mid ++ (.ret t c r, F) :: post))
    (hmid : ∀ x ∈ mid, ¬ x.1.Delimits t) :
    ∃ seen, seen.Sublist (E.shared :: mid.map fun x => x.2.shared) ∧
      (body c).resume seen = some r := by
  rw [List.append_assoc, Run.append_iff, List.cons_append, List.append_cons] at h
  cases h.2 with
  | cons hstep hrun =>
    refine (Run.append_iff.mp hrun).1.observed hmid ?_
    cases hstep with
    | invoke => exact Function.update_self _ _ _

end Automaton
