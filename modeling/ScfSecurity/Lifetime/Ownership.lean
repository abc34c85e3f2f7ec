import ScfSecurity.Connection.Process
import ScfSecurity.Library.Machine

/-!
# Who holds a context

A context counts its references: one for the owner, who created it, and one for each object
made from it. `SCF_FreePolicyCtx` through the owner's variable and `SCF_FreePolicyObj` both
drop one. The variable is set to null only by the call that destroys the context, so the
owner of a context that still has objects can release it again, at the cost of an object.

## Main definitions

- `ownerMachine`: owners and objects, one call after another
- `LifetimeSound`: no object outlives its context, and a released variable is null
- `OwnerCall.Prompt`: the owner releases a context only after all of its objects are gone

## Main results

- `lifetimeSound_throughout_iff`: the states of a run are sound exactly if its calls are prompt
-/

namespace Scf

open Automaton

/-- `SCF_FreePolicyCtx`: the variable and the memory afterwards. What the call does through a
dangling variable has no meaning; here it does nothing. -/
def scfFreePolicyCtx (g : Globals) (handle : Option ℕ) (p : Process) : Option ℕ × Process :=
  match handle with
  | none => (none, p)
  | some ctx =>
    if !g.scfInitialized || !g.adaptor then (some ctx, p)
    else
      match p.ctxs.read ctx with
      | none => (some ctx, p)
      | some c =>
        if c.refCnt = 0 then (some ctx, p)
        else if c.refCnt > 1 then
          (some ctx, { p with ctxs := p.ctxs.modify ctx fun c => { c with refCnt := c.refCnt - 1 } })
        else (none, { p with ctxs := p.ctxs.free ctx })

/-- On the memory this is the release that `SCF_FreePolicyObj` makes. -/
theorem scfFreePolicyCtx_process (g : Globals) (ctx : ℕ) (p : Process) :
    (scfFreePolicyCtx g (some ctx) p).2 = ((freePolicyCtx g ctx).run p).2 := by
  unfold scfFreePolicyCtx freePolicyCtx Process.releaseCtx
  rw [Resumption.run_critical]
  dsimp only
  split_ifs
  · rfl
  · cases p.ctxs.read ctx with
    | none => rfl
    | some c =>
      dsimp only
      split_ifs <;> rfl

/-- The memory, the variables of the owners, and through which of them `SCF_FreePolicyCtx` was
called since they were set. -/
structure Lifetime where
  process : Process := {}
  handles : ℕ → Option ℕ := fun _ => none
  released : ℕ → Bool := fun _ => false

/-- The calls of owners and of the users of objects; the library is initialised and stays so. -/
inductive OwnerCall where
  | createCtx (owner : ℕ) (allocOk : Bool)
  | createObj (owner : ℕ) (clock : Option UInt64) (allocOk : Bool)
  | freeObj (obj : ℕ)
  | freeCtx (owner : ℕ)

/-- The owner stores the result of `SCF_CreatePolicyCtx` in a variable. -/
def Lifetime.createCtx (owner : ℕ) (allocOk : Bool) (s : Lifetime) : Lifetime :=
  let (ctx, process) := (newCtx .ready allocOk).run s.process
  { process
    handles := Function.update s.handles owner ctx
    released := Function.update s.released owner false }

/-- `SCF_CreatePolicyObj` with the context in the owner's variable. -/
def Lifetime.createObj (owner : ℕ) (clock : Option UInt64) (allocOk : Bool) (s : Lifetime) :
    Lifetime :=
  match s.handles owner with
  | none => s
  | some ctx => { s with process := ((newObj .ready ctx clock allocOk).run s.process).2 }

def Lifetime.freeObj (obj : ℕ) (s : Lifetime) : Lifetime :=
  { s with process := ((freePolicyObj .ready obj).run s.process).2 }

/-- `SCF_FreePolicyCtx` with the address of the owner's variable. -/
def Lifetime.freeCtx (owner : ℕ) (s : Lifetime) : Lifetime :=
  let (handle, process) := scfFreePolicyCtx .ready (s.handles owner) s.process
  { process
    handles := Function.update s.handles owner handle
    released := Function.update s.released owner true }

def Lifetime.apply (s : Lifetime) : OwnerCall → Lifetime
  | .createCtx owner allocOk => s.createCtx owner allocOk
  | .createObj owner clock allocOk => s.createObj owner clock allocOk
  | .freeObj obj => s.freeObj obj
  | .freeCtx owner => s.freeCtx owner

def ownerMachine : Machine Lifetime OwnerCall Unit where
  initial s := s = {}
  step s call := ((), s.apply call)

/-- The object refers to the context. -/
def BoundObj.refersTo (ctx : ℕ) (o : BoundObj) : Bool := o.policyCtx = ctx

/-- How many objects refer to the context. -/
def Lifetime.objCount (s : Lifetime) (ctx : ℕ) : ℕ := s.process.objs.count (BoundObj.refersTo ctx)

/-- No object outlives its context, and a variable through which `SCF_FreePolicyCtx` was called
is null, so that another call through it does nothing. -/
structure LifetimeSound (s : Lifetime) : Prop where
  alive : ∀ obj o, s.process.objs.read obj = some o → s.process.ctxs.read o.policyCtx ≠ none
  null : ∀ owner, s.released owner = true → s.handles owner = none
  again : ∀ owner, s.released owner = true → s.freeCtx owner = s

/-- The owner releases a context when no object refers to it. -/
def OwnerCall.Prompt (s : Lifetime) : OwnerCall → Prop
  | .freeCtx owner => ∀ ctx, s.handles owner = some ctx → s.objCount ctx = 0
  | _ => True

/-- The counter has room for another object. -/
def OwnerCall.HasRoom (s : Lifetime) : OwnerCall → Prop
  | .createObj owner _ _ => ∀ ctx, s.handles owner = some ctx → s.objCount ctx + 2 < 2 ^ 32
  | _ => True

/-- What prompt calls keep: the variables of the owners hold different contexts, all alive, and
each counter is the number of objects and one for the owner. -/
structure LifetimeInvariant (s : Lifetime) : Prop where
  handle : ∀ owner ctx, s.handles owner = some ctx → s.process.ctxs.read ctx ≠ none
  unique : ∀ owner owner' ctx, s.handles owner = some ctx → s.handles owner' = some ctx →
    owner = owner'
  count : ∀ ctx c, s.process.ctxs.read ctx = some c → c.refCnt.toNat = 1 + s.objCount ctx
  object : ∀ obj o, s.process.objs.read obj = some o → s.process.ctxs.read o.policyCtx ≠ none
  released : ∀ owner, s.released owner = true → s.handles owner = none

theorem LifetimeInvariant.sound {s : Lifetime} (h : LifetimeInvariant s) : LifetimeSound s := by
  refine ⟨h.object, h.released, fun owner hreleased => ?_⟩
  have hnull := h.released owner hreleased
  have hhandles : Function.update s.handles owner none = s.handles := by
    rw [← hnull, Function.update_eq_self]
  have hreleased' : Function.update s.released owner true = s.released := by
    rw [← hreleased, Function.update_eq_self]
  unfold Lifetime.freeCtx
  rw [hnull]
  simp only [scfFreePolicyCtx]
  rw [hhandles, hreleased']

theorem lifetimeInvariant_empty : LifetimeInvariant {} where
  handle := by simp
  unique := by simp
  count := by simp [Heap.read]
  object := by simp [Heap.read]
  released := by simp

/-! ### One call -/

/-- A variable that becomes null. -/
theorem LifetimeInvariant.dropHandle {s : Lifetime} (h : LifetimeInvariant s) (owner : ℕ)
    (called : Bool) :
    LifetimeInvariant { s with
      handles := Function.update s.handles owner none
      released := Function.update s.released owner called } where
  handle owner' ctx hctx := by
    dsimp only at hctx
    rw [Function.update_apply] at hctx
    split_ifs at hctx
    exact h.handle owner' ctx hctx
  unique owner₁ owner₂ ctx h₁ h₂ := by
    dsimp only at h₁ h₂
    rw [Function.update_apply] at h₁ h₂
    split_ifs at h₁ h₂
    exact h.unique owner₁ owner₂ ctx h₁ h₂
  count := h.count
  object := h.object
  released owner' hreleased := by
    dsimp only at hreleased ⊢
    rw [Function.update_apply] at hreleased ⊢
    split_ifs at hreleased ⊢
    · rfl
    · exact h.released owner' hreleased

/-- No object refers to a context that is not there. -/
theorem LifetimeInvariant.objCount_eq_zero {s : Lifetime} (h : LifetimeInvariant s) {ctx : ℕ}
    (hctx : s.process.ctxs.read ctx = none) : s.objCount ctx = 0 := by
  refine Heap.count_eq_zero fun obj o ho => ?_
  by_contra hrefers
  have heq : o.policyCtx = ctx := by simpa [BoundObj.refersTo] using hrefers
  exact h.object obj o ho (heq ▸ hctx)

theorem Lifetime.createCtx_true (owner : ℕ) (s : Lifetime) :
    s.createCtx owner true =
      { process := { s.process with ctxs := (s.process.ctxs.alloc newPolicyCtx).2 }
        handles := Function.update s.handles owner (some (s.process.ctxs.alloc newPolicyCtx).1)
        released := Function.update s.released owner false } := rfl

theorem Lifetime.createCtx_invariant {s : Lifetime} (h : LifetimeInvariant s) (owner : ℕ)
    (allocOk : Bool) : LifetimeInvariant (s.createCtx owner allocOk) := by
  cases allocOk with
  | false => exact h.dropHandle owner false
  | true =>
    rw [Lifetime.createCtx_true]
    have hfree := Heap.read_alloc_fst newPolicyCtx s.process.ctxs
    -- a context that was there is not the new one
    have hold : ∀ {ctx}, s.process.ctxs.read ctx ≠ none →
        ctx ≠ (s.process.ctxs.alloc newPolicyCtx).1 := by
      rintro ctx hctx rfl
      exact hctx hfree
    constructor
    · intro owner' ctx hctx
      dsimp only at hctx ⊢
      rw [Heap.read_alloc]
      rw [Function.update_apply] at hctx
      split_ifs at hctx
      · rw [if_pos (Option.some.inj hctx).symm]
        exact Option.some_ne_none _
      · have hctx' := h.handle owner' ctx hctx
        rw [if_neg (hold hctx')]
        exact hctx'
    · intro owner₁ owner₂ ctx h₁ h₂
      dsimp only at h₁ h₂
      rw [Function.update_apply] at h₁ h₂
      split_ifs at h₁ h₂ with heq₁ heq₂ heq₂
      · exact heq₁.trans heq₂.symm
      · exact absurd (Option.some.inj h₁).symm (hold (h.handle owner₂ ctx h₂))
      · exact absurd (Option.some.inj h₂).symm (hold (h.handle owner₁ ctx h₁))
      · exact h.unique owner₁ owner₂ ctx h₁ h₂
    · intro ctx c hc
      dsimp only at hc
      rw [Heap.read_alloc] at hc
      split_ifs at hc with hnew
      · obtain rfl := Option.some.inj hc
        have hcount : s.objCount ctx = 0 := h.objCount_eq_zero (hnew ▸ hfree)
        show 1 = 1 + s.objCount ctx
        rw [hcount]
      · exact h.count ctx c hc
    · intro obj o ho
      have hctx := h.object obj o ho
      dsimp only
      rw [Heap.read_alloc, if_neg (hold hctx)]
      exact hctx
    · intro owner' hreleased
      dsimp only at hreleased ⊢
      rw [Function.update_apply] at hreleased ⊢
      split_ifs at hreleased ⊢
      exact h.released owner' hreleased

/-- A new object counts as a reference to the context in the owner's variable. -/
theorem Lifetime.createObj_invariant {s : Lifetime} (h : LifetimeInvariant s) {owner : ℕ}
    {clock : Option UInt64} {allocOk : Bool}
    (hroom : OwnerCall.HasRoom s (.createObj owner clock allocOk)) :
    LifetimeInvariant (s.createObj owner clock allocOk) := by
  unfold Lifetime.createObj newObj
  cases hhandle : s.handles owner with
  | none => exact h
  | some ctx =>
    obtain ⟨c, hc⟩ := Option.ne_none_iff_exists'.mp (h.handle owner ctx hhandle)
    simp only [Resumption.run_critical, hc]
    rcases hcreate : scfCreatePolicyObj .ready .valid clock allocOk c with ⟨_ | obj, c'⟩
    · exact h
    · obtain ⟨now, -, -, rfl⟩ := scfCreatePolicyObj_some hcreate
      have hroom' : s.objCount ctx + 2 < 2 ^ 32 := hroom ctx hhandle
      have hcount := h.count ctx c hc
      constructor
      · intro owner' ctx' hctx'
        exact mt Heap.read_modify_eq_none_iff.mp (h.handle owner' ctx' hctx')
      · exact h.unique
      · intro ctx' c' hc'
        dsimp only at hc'
        rw [Heap.read_modify] at hc'
        show c'.refCnt.toNat = 1 + (s.process.objs.alloc ⟨obj, ctx⟩).2.count (BoundObj.refersTo ctx')
        rw [Heap.count_alloc]
        split_ifs at hc' with heq
        · subst heq
          rw [hc, Option.map_some, Option.some.injEq] at hc'
          subst hc'
          rw [if_pos (by simp [BoundObj.refersTo])]
          show (c.refCnt + 1).toNat = 1 + (s.objCount ctx + 1)
          rw [UInt32.toNat_add, hcount]
          simp only [UInt32.toNat_one]
          omega
        · rw [if_neg (by simpa [BoundObj.refersTo] using heq)]
          exact h.count ctx' c' hc'
      · refine Heap.All.alloc (fun obj o ho => ?_) ?_
        · exact mt Heap.read_modify_eq_none_iff.mp (h.object obj o ho)
        · exact mt Heap.read_modify_eq_none_iff.mp (h.handle owner ctx hhandle)
      · exact h.released

/-- An object that is freed gives its reference back; the one of the owner stays. -/
theorem Lifetime.freeObj_invariant {s : Lifetime} (h : LifetimeInvariant s) (obj : ℕ) :
    LifetimeInvariant (s.freeObj obj) := by
  unfold Lifetime.freeObj freePolicyObj
  rw [Resumption.run_critical, if_neg (by decide)]
  cases hobj : s.process.objs.read obj with
  | none => exact h
  | some o =>
    obtain ⟨c, hc⟩ := Option.ne_none_iff_exists'.mp (h.object obj o hobj)
    have hcount := h.count o.policyCtx c hc
    have hpos : 0 < s.objCount o.policyCtx := Heap.count_pos hobj (by simp [BoundObj.refersTo])
    have hone : ¬ c.refCnt = 0 := by
      intro hzero
      rw [hzero] at hcount
      simp at hcount
      omega
    have hgt : c.refCnt > 1 := by
      rw [gt_iff_lt, UInt32.lt_iff_toNat_lt, hcount, UInt32.toNat_one]
      omega
    have hrelease : s.process.releaseCtx o.policyCtx =
        { s.process with
          ctxs := s.process.ctxs.modify o.policyCtx fun c => { c with refCnt := c.refCnt - 1 } } := by
      rw [Process.releaseCtx, hc]
      simp only [if_neg hone, if_pos hgt]
    dsimp only
    rw [hrelease]
    constructor
    · intro owner ctx hctx
      exact mt Heap.read_modify_eq_none_iff.mp (h.handle owner ctx hctx)
    · exact h.unique
    · intro ctx' c' hc'
      dsimp only at hc'
      rw [Heap.read_modify] at hc'
      show c'.refCnt.toNat = 1 + (s.process.objs.free obj).count (BoundObj.refersTo ctx')
      rw [Heap.count_free _ hobj]
      split_ifs at hc' with heq
      · subst heq
        rw [hc, Option.map_some, Option.some.injEq] at hc'
        subst hc'
        rw [if_pos (by simp [BoundObj.refersTo])]
        show (c.refCnt - 1).toNat = 1 + (s.objCount o.policyCtx - 1)
        rw [UInt32.toNat_sub_of_le _ _ (UInt32.le_of_lt hgt), hcount, UInt32.toNat_one]
        omega
      · rw [if_neg (by simpa [BoundObj.refersTo] using heq)]
        exact h.count ctx' c' hc'
    · refine Heap.All.free (fun obj o ho => ?_) obj
      exact mt Heap.read_modify_eq_none_iff.mp (h.object obj o ho)
    · exact h.released

/-- The owner's release destroys the context and clears the variable exactly if there are no
objects; otherwise it takes away a reference and leaves the variable as it is. -/
theorem LifetimeInvariant.freeCtx_cases {s : Lifetime} (h : LifetimeInvariant s) {owner ctx : ℕ}
    (hhandle : s.handles owner = some ctx) :
    s.objCount ctx = 0 ∧ scfFreePolicyCtx .ready (s.handles owner) s.process =
        (none, { s.process with ctxs := s.process.ctxs.free ctx }) ∨
      s.objCount ctx ≠ 0 ∧ (scfFreePolicyCtx .ready (s.handles owner) s.process).1 = some ctx := by
  obtain ⟨c, hc⟩ := Option.ne_none_iff_exists'.mp (h.handle owner ctx hhandle)
  have hcount := h.count ctx c hc
  have hne : ¬ c.refCnt = 0 := by
    intro hzero
    rw [hzero, UInt32.toNat_zero] at hcount
    omega
  have hgt : c.refCnt > 1 ↔ s.objCount ctx ≠ 0 := by
    rw [gt_iff_lt, UInt32.lt_iff_toNat_lt, hcount, UInt32.toNat_one]
    omega
  have hready : (!Globals.ready.scfInitialized || !Globals.ready.adaptor) = false := rfl
  rw [hhandle]
  simp only [scfFreePolicyCtx, hready, hc, Bool.false_eq_true, if_false, if_neg hne]
  by_cases hzero : s.objCount ctx = 0
  · rw [if_neg (fun h => hgt.mp h hzero)]
    exact .inl ⟨hzero, rfl⟩
  · rw [if_pos (hgt.mpr hzero)]
    exact .inr ⟨hzero, rfl⟩

theorem Lifetime.freeCtx_invariant {s : Lifetime} (h : LifetimeInvariant s) {owner : ℕ}
    (hprompt : OwnerCall.Prompt s (.freeCtx owner)) : LifetimeInvariant (s.freeCtx owner) := by
  unfold Lifetime.freeCtx
  cases hhandle : s.handles owner with
  | none => exact h.dropHandle owner true
  | some ctx =>
    rcases h.freeCtx_cases hhandle with ⟨hzero, hfree⟩ | ⟨hpos, -⟩
    · rw [hhandle] at hfree
      rw [hfree]
      -- what is alive and is not this context stays alive
      have hother : ∀ {ctx'}, ctx' ≠ ctx → s.process.ctxs.read ctx' ≠ none →
          (s.process.ctxs.free ctx).read ctx' ≠ none := by
        intro ctx' hne hctx'
        rw [Heap.read_free, if_neg hne.symm]
        exact hctx'
      have hdrop := h.dropHandle owner true
      constructor
      · intro owner' ctx' hctx'
        have hne : owner' ≠ owner := by
          rintro rfl
          simp at hctx'
        dsimp only at hctx'
        rw [Function.update_of_ne hne] at hctx'
        refine hother ?_ (h.handle owner' ctx' hctx')
        rintro rfl
        exact hne (h.unique owner' owner ctx' hctx' hhandle)
      · exact hdrop.unique
      · intro ctx' c' hc'
        dsimp only at hc'
        rw [Heap.read_free] at hc'
        split_ifs at hc'
        exact h.count ctx' c' hc'
      · intro obj o ho
        refine hother ?_ (h.object obj o ho)
        intro heq
        have hpos : 0 < s.objCount ctx := Heap.count_pos ho (by simp [BoundObj.refersTo, heq])
        omega
      · exact hdrop.released
    · exact absurd (hprompt ctx hhandle) hpos

/-- **Step lemma**: prompt calls keep the invariant. -/
theorem LifetimeInvariant.step {s : Lifetime} (h : LifetimeInvariant s) (call : OwnerCall)
    (hroom : call.HasRoom s) (hprompt : call.Prompt s) : LifetimeInvariant (s.apply call) := by
  cases call with
  | createCtx owner allocOk => exact Lifetime.createCtx_invariant h owner allocOk
  | createObj owner clock allocOk => exact Lifetime.createObj_invariant h hroom
  | freeObj obj => exact Lifetime.freeObj_invariant h obj
  | freeCtx owner => exact Lifetime.freeCtx_invariant h hprompt

/-- A release that is not prompt leaves a variable behind that is not null. -/
theorem LifetimeInvariant.prompt_of_sound {s : Lifetime} (h : LifetimeInvariant s)
    (call : OwnerCall) (hsound : LifetimeSound (s.apply call)) : call.Prompt s := by
  cases call with
  | freeCtx owner =>
    intro ctx hhandle
    rcases h.freeCtx_cases hhandle with ⟨hzero, -⟩ | ⟨-, hstays⟩
    · exact hzero
    · have hreleased : (s.freeCtx owner).released owner = true := Function.update_self ..
      have hhandle' : (s.freeCtx owner).handles owner = some ctx :=
        (Function.update_self ..).trans hstays
      exact absurd (hhandle'.symm.trans (hsound.null owner hreleased)) (Option.some_ne_none ctx)
  | _ => trivial

/-- A run in which the counters never overflow is sound in all its states, exactly if the owners
release contexts only after all of their objects are gone. -/
theorem lifetimeSound_throughout_iff (calls : List OwnerCall)
    (hroom : ownerMachine.Admits (fun s call => call.HasRoom s) {} calls) :
    ownerMachine.Throughout LifetimeSound {} calls ↔
      ownerMachine.Admits (fun s call => call.Prompt s) {} calls :=
  Machine.throughout_iff_of_invariant (fun _ h => h.sound)
    (fun _ call h hroom hprompt => h.step call hroom hprompt)
    (fun _ call h _ hsound => h.prompt_of_sound call hsound) lifetimeInvariant_empty hroom

/-- A context with one object, which is freed before the owner releases the context twice. -/
theorem lifetimeSound_throughout_prompt :
    ownerMachine.Throughout LifetimeSound {}
      [.createCtx 0 true, .createObj 0 (some 0) true, .freeObj 0, .freeCtx 0, .freeCtx 0] := by
  refine (lifetimeSound_throughout_iff _ ?_).mpr ?_
  · refine ⟨trivial, fun ctx hctx => ?_, trivial, trivial, trivial, trivial⟩
    obtain rfl := Option.some.inj hctx
    decide
  · refine ⟨trivial, trivial, trivial, fun ctx hctx => ?_, fun ctx hctx => ?_, trivial⟩
    · obtain rfl := Option.some.inj hctx
      decide
    · exact absurd hctx.symm (Option.some_ne_none ctx)

/-- The owner of a context with an object releases it twice through the same variable: the
variable is not null after the first call, and the second one destroys the context while the
object still refers to it. -/
theorem second_release_destroys_used_context :
    let calls : List OwnerCall := [.createCtx 0 true, .createObj 0 (some 0) true, .freeCtx 0]
    let once := ownerMachine.after {} calls
    let twice := ownerMachine.after {} (calls ++ [.freeCtx 0])
    once.released 0 = true ∧ once.handles 0 = some 0 ∧
      (∃ o, twice.process.objs.read 0 = some o ∧ o.policyCtx = 0) ∧
      twice.process.ctxs.read 0 = none ∧ ¬ LifetimeSound once ∧ ¬ LifetimeSound twice := by
  intro calls once twice
  refine ⟨rfl, rfl, ⟨_, rfl, rfl⟩, rfl, fun h => ?_, fun h => ?_⟩
  · exact Option.some_ne_none 0 (h.null 0 rfl)
  · exact h.alive 0 _ rfl rfl

end Scf
