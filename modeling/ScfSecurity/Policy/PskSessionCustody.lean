import ScfSecurity.Policy.PskSessionRuns

/-!
# Giving PSK sessions back

An application can free every session and every version that it has asked for at any time, as long
as it does not let `SCF_SessionNew` overwrite a handle and asks for a version only with an empty
variable: if `SCF_SessionGetProtocolVersion` fails, it has set the length to zero, and
`SCF_FreeBuffer` then leaves alone what is still in the variable.

## Main definitions

- `SessionWorld.Clean`: everything can be given back
- `SessionWorld.Lost`: something cannot

## Main results

- `SessionWorld.Holds.clean`, `SessionWorld.Lost.not_clean`: while nothing is lost, and after that
- `session_run_clean_iff`: when an application keeps being able to give everything back
-/

namespace Scf

open Automaton

/-! ### Releases -/

/-- The calls that give something back. -/
def PskSessionCall.Releases : PskSessionCall → Prop
  | .free _ | .freeBuffer _ => True
  | _ => False

/-- Some calls that give something back, made while the framework is initialised, lead from one
state to the other. -/
def SessionWorld.GivesBack (w w' : SessionWorld) : Prop :=
  ∃ calls : List PskSessionCall, (∀ call ∈ calls, call.Releases) ∧
    pskSessionMachine.after w (calls.map (Globals.ready, ·)) = w'

/-- The application can give everything back. -/
def SessionWorld.Clean (w : SessionWorld) : Prop :=
  ∃ w', w.GivesBack w' ∧ (∀ x, w'.sessions.read x = none) ∧ ∀ b, w'.buffers.read b = none

namespace SessionWorld

variable {w w' w'' : SessionWorld}

/-- Nothing is created, and nothing comes back. -/
structure Fewer (w w' : SessionWorld) : Prop where
  sessions : ∀ x, w.sessions.read x = none → w'.sessions.read x = none
  buffers : ∀ b, w.buffers.read b = none → w'.buffers.read b = none

theorem Fewer.refl (w : SessionWorld) : Fewer w w := ⟨fun _ => id, fun _ => id⟩

theorem Fewer.trans (h : Fewer w w') (h' : Fewer w' w'') : Fewer w w'' :=
  ⟨fun x hx => h'.sessions x (h.sessions x hx), fun b hb => h'.buffers b (h.buffers b hb)⟩

theorem fewer_free (g : Globals) (sess : Option ℕ) (w : SessionWorld) :
    Fewer w (w.scfSessionFree g sess) := by
  unfold scfSessionFree
  split
  · exact .refl w
  · split
    · exact .refl w
    · split_ifs
      · exact .refl w
      · refine ⟨fun x hx => ?_, fun _ => id⟩
        rw [Heap.read_free]
        split_ifs
        · rfl
        · exact hx

theorem fewer_freeBuffer (g : Globals) (buffer : Option ℕ) (w : SessionWorld) :
    Fewer w (w.scfFreeBuffer g buffer) := by
  unfold scfFreeBuffer
  split
  · exact .refl w
  · split
    · exact .refl w
    · split_ifs
      · exact .refl w
      · exact .refl w
      · split
        · exact ⟨fun _ => id, fun _ => id⟩
        · refine ⟨fun _ => id, fun b hb => ?_⟩
          rw [Heap.read_free]
          split_ifs
          · rfl
          · exact hb

theorem fewer_apply (g : Globals) {call : PskSessionCall} (h : call.Releases) (w : SessionWorld) :
    Fewer w (call.apply g w).2 := by
  cases call with
  | free sess => exact fewer_free g sess w
  | freeBuffer buffer => exact fewer_freeBuffer g buffer w
  | _ => exact h.elim

/-- What every such call keeps, all of them keep. -/
theorem GivesBack.invariant (h : w.GivesBack w') {I : SessionWorld → Prop} (hw : I w)
    (hstep : ∀ w call, PskSessionCall.Releases call → I w → I (call.apply .ready w).2) : I w' := by
  obtain ⟨calls, hcalls, rfl⟩ := h
  induction calls generalizing w with
  | nil => exact hw
  | cons call calls ih =>
    exact ih (hstep w call (hcalls call (List.mem_cons_self ..)) hw) fun call' hmem =>
      hcalls call' (List.mem_cons_of_mem _ hmem)

theorem GivesBack.refl (w : SessionWorld) : w.GivesBack w := ⟨[], nofun, rfl⟩

theorem GivesBack.one {call : PskSessionCall} (h : call.Releases) (w : SessionWorld) :
    w.GivesBack (call.apply .ready w).2 :=
  ⟨[call], fun _ hmem => List.mem_singleton.mp hmem ▸ h, rfl⟩

theorem GivesBack.trans (h : w.GivesBack w') (h' : w'.GivesBack w'') : w.GivesBack w'' := by
  obtain ⟨calls, hcalls, rfl⟩ := h
  obtain ⟨calls', hcalls', rfl⟩ := h'
  refine ⟨calls ++ calls', fun call hmem => ?_, ?_⟩
  · exact (List.mem_append.mp hmem).elim (hcalls call) (hcalls' call)
  · rw [List.map_append, Machine.after_append]

theorem GivesBack.fewer (h : w.GivesBack w') : Fewer w w' :=
  h.invariant (.refl w) fun _ _ hrel hfewer => hfewer.trans (fewer_apply .ready hrel _)

theorem GivesBack.holds {full : Prop} (h : w.GivesBack w') (hw : w.Holds full) : w'.Holds full := by
  refine h.invariant hw fun w call hrel hholds => (hholds.apply call fun _ => ?_).1
  cases call with
  | free _ => trivial
  | freeBuffer _ => trivial
  | _ => exact hrel.elim

/-! If nothing has been lost, one object after the other can be given back. -/

theorem ready_init : Globals.ready.scfInitialized = true := rfl

theorem ready_adaptor : Globals.ready.adaptor = true := rfl

theorem Holds.freeSession (h : w.Holds True) (x : ℕ) :
    ∃ w', w.GivesBack w' ∧ w'.sessions.read x = none := by
  cases hread : w.sessions.read x with
  | none => exact ⟨w, .refl w, hread⟩
  | some sess =>
    obtain ⟨v, hv⟩ := h.sessions.complete x sess hread trivial
    have hptr : w.handles v = some x := hv
    refine ⟨_, .one (show PskSessionCall.Releases (.free (some v)) from trivial) w, ?_⟩
    have heq : (w.scfSessionFree .ready (some v)).sessions = w.sessions.free x := by
      simp [scfSessionFree, hptr, ready_init, ready_adaptor]
    show (w.scfSessionFree .ready (some v)).sessions.read x = none
    rw [heq, Heap.read_free, if_pos rfl]

theorem Holds.freeBufferAt (h : w.Holds True) (b : ℕ) :
    ∃ w', w.GivesBack w' ∧ w'.buffers.read b = none := by
  cases hread : w.buffers.read b with
  | none => exact ⟨w, .refl w, hread⟩
  | some content =>
    obtain ⟨o, ho⟩ := h.buffers.complete b content hread trivial
    have hptr : (w.versions o).ptr = some b := ho
    have htext : w.text o = some content := (Heap.deref_of_ptr ho).trans hread
    have hlen : (w.versions o).len ≠ 0 := by
      intro hzero
      rcases h.measured o content htext with ⟨-, hno⟩ | ⟨text, hne, -, hlength⟩
      · exact hno trivial
      · exact hne (List.length_eq_zero_iff.mp (hlength.symm.trans hzero))
    refine ⟨_, .one (show PskSessionCall.Releases (.freeBuffer (some o)) from trivial) w, ?_⟩
    have heq : (w.scfFreeBuffer .ready (some o)).buffers = w.buffers.free b := by
      simp [scfFreeBuffer, hptr, hlen, hread, ready_init, ready_adaptor]
    show (w.scfFreeBuffer .ready (some o)).buffers.read b = none
    rw [heq, Heap.read_free, if_pos rfl]

/-- All objects below a number can be given back. -/
theorem Holds.freeBelow (h : w.Holds True) (n : ℕ) :
    ∃ w', w.GivesBack w' ∧ ∀ x, x < n → w'.sessions.read x = none ∧ w'.buffers.read x = none := by
  induction n with
  | zero => exact ⟨w, .refl w, fun x hx => absurd hx (Nat.not_lt_zero x)⟩
  | succ n ih =>
    obtain ⟨w₁, hback₁, hbelow⟩ := ih
    obtain ⟨w₂, hback₂, hsession⟩ := (hback₁.holds h).freeSession n
    obtain ⟨w₃, hback₃, hbuffer⟩ := (hback₂.holds (hback₁.holds h)).freeBufferAt n
    refine ⟨w₃, (hback₁.trans hback₂).trans hback₃, fun x hx => ?_⟩
    rcases Nat.lt_succ_iff_lt_or_eq.mp hx with hlt | rfl
    · obtain ⟨hs, hb⟩ := hbelow x hlt
      exact ⟨(hback₂.trans hback₃).fewer.sessions x hs, (hback₂.trans hback₃).fewer.buffers x hb⟩
    · exact ⟨hback₃.fewer.sessions x hsession, hbuffer⟩

theorem Holds.clean (h : w.Holds True) : w.Clean := by
  obtain ⟨w', hback, hbelow⟩ := h.freeBelow (max w.sessions.size w.buffers.size)
  refine ⟨w', hback, fun x => ?_, fun b => ?_⟩
  · by_contra hlive
    have hread : w.sessions.read x ≠ none := fun hnone => hlive (hback.fewer.sessions x hnone)
    have hlt := Heap.lt_size_of_read hread
    exact hlive (hbelow x (by omega)).1
  · by_contra hlive
    have hread : w.buffers.read b ≠ none := fun hnone => hlive (hback.fewer.buffers b hnone)
    have hlt := Heap.lt_size_of_read hread
    exact hlive (hbelow b (by omega)).2

/-! What has been lost stays so. -/

/-- A session without a handle, or a buffer without a variable, or with one whose length is zero. -/
def Lost (w : SessionWorld) : Prop :=
  (∃ x, w.sessions.read x ≠ none ∧ ∀ v, w.handles v ≠ some x) ∨
    ∃ b, w.buffers.read b ≠ none ∧ ∀ o, w.bufferPtrs o = some b → (w.versions o).len = 0

theorem Lost.free (h : w.Lost) (g : Globals) (sess : Option ℕ) :
    (w.scfSessionFree g sess).Lost := by
  unfold scfSessionFree
  split
  · exact h
  · next v =>
    split
    · exact h
    · next x hptr =>
      split_ifs
      · exact h
      · refine h.imp_left fun hsession => ?_
        obtain ⟨y, hlive, hnone⟩ := hsession
        refine ⟨y, ?_, fun v' => ?_⟩
        · rw [Heap.read_free, if_neg]
          · exact hlive
          · rintro rfl
            exact hnone v hptr
        · dsimp only
          by_cases hv : v' = v
          · subst hv
            rw [Function.update_self]
            exact nofun
          · rw [Function.update_of_ne hv]
            exact hnone v'

theorem Lost.freeBuffer (h : w.Lost) (g : Globals) (buffer : Option ℕ) :
    (w.scfFreeBuffer g buffer).Lost := by
  unfold scfFreeBuffer
  split
  · exact h
  · next o =>
    split
    · exact h
    · next b hptr =>
      split_ifs with hlen
      · exact h
      · exact h
      · split
        · exact h
        · refine h.imp_right fun hbuffer => ?_
          obtain ⟨c, hlive, hzero⟩ := hbuffer
          refine ⟨c, ?_, fun o' => ?_⟩
          · rw [Heap.read_free, if_neg]
            · exact hlive
            · rintro rfl
              exact hlen (hzero o hptr)
          · show (Function.update w.versions o ⟨none, 0⟩ o').ptr = some c →
              (Function.update w.versions o ⟨none, 0⟩ o').len = 0
            by_cases ho : o' = o
            · subst ho
              rw [Function.update_self]
              exact fun _ => rfl
            · rw [Function.update_of_ne ho]
              exact hzero o'

theorem Lost.not_clean (h : w.Lost) : ¬w.Clean := by
  rintro ⟨w', hback, hsessions, hbuffers⟩
  have hlost : w'.Lost := by
    refine hback.invariant h fun w call hrel hlost => ?_
    cases call with
    | free sess => exact hlost.free .ready sess
    | freeBuffer buffer => exact hlost.freeBuffer .ready buffer
    | _ => exact hrel.elim
  rcases hlost with ⟨x, hlive, -⟩ | ⟨b, hlive, -⟩
  · exact hlive (hsessions x)
  · exact hlive (hbuffers b)

/-- A call that is not careful loses what was in the variable. -/
theorem Holds.lost_of_not_careful (h : w.Holds True) {g : Globals} {call : PskSessionCall}
    (hcareless : ¬w.Careful g call) : (call.apply g w).2.Lost := by
  cases call with
  | new v newOk =>
    obtain ⟨x, hptr⟩ := Option.ne_none_iff_exists'.mp hcareless
    have hlive := h.sessions.live v x hptr
    have hlt := Heap.lt_size_of_read hlive
    have hother : ∀ ptr, ptr ≠ some x → ∀ v', Function.update w.handles v ptr v' ≠ some x := by
      intro ptr hne v'
      by_cases hv : v' = v
      · subst hv
        rwa [Function.update_self]
      · rw [Function.update_of_ne hv]
        exact fun hptr' => hv (h.sessions.unique v' v x hptr' hptr)
    refine .inl ⟨x, ?_⟩
    show (w.scfSessionNew g newOk v).sessions.read x ≠ none ∧
      ∀ v', (w.scfSessionNew g newOk v).handles v' ≠ some x
    unfold SessionWorld.scfSessionNew
    cases Scf.scfSessionNew g newOk with
    | none => exact ⟨hlive, hother none nofun⟩
    | some sess =>
      refine ⟨?_, hother _ fun heq => ?_⟩
      · dsimp only
        rwa [Heap.read_alloc_of_ne sess (Nat.ne_of_lt hlt)]
      · exact Nat.ne_of_gt hlt (Option.some.inj heq)
  | getProtocolVersion v version allocOk =>
    cases version with
    | none => exact absurd trivial hcareless
    | some o =>
      obtain ⟨hhandle, hrest⟩ := Classical.not_imp.mp hcareless
      obtain ⟨hinit, hbuffer⟩ := Classical.not_imp.mp hrest
      obtain ⟨x, hptr⟩ := Option.ne_none_iff_exists'.mp hhandle
      obtain ⟨b, hb⟩ := Option.ne_none_iff_exists'.mp hbuffer
      obtain ⟨sess, hread⟩ := Option.ne_none_iff_exists'.mp (h.sessions.live v x hptr)
      have hlive := h.buffers.live o b hb
      have hothers : ∀ o' (var : BufferVar), (o' = o → var.ptr = some b → var.len = 0) →
          (Function.update w.versions o var o').ptr = some b →
          (Function.update w.versions o var o').len = 0 := by
        intro o' var hvar
        by_cases ho : o' = o
        · subst ho
          rw [Function.update_self]
          exact hvar rfl
        · rw [Function.update_of_ne ho]
          exact fun hptr' => absurd (h.buffers.unique o' o b hptr' hb) ho
      refine .inr ⟨b, ?_⟩
      show (w.scfSessionGetProtocolVersion g v (some o) allocOk).2.buffers.read b ≠ none ∧
        ∀ o', ((w.scfSessionGetProtocolVersion g v (some o) allocOk).2.versions o').ptr = some b →
          ((w.scfSessionGetProtocolVersion g v (some o) allocOk).2.versions o').len = 0
      cases htext : adaptorSessionGetProtocolVersion allocOk sess with
      | none =>
        -- the buffer stays in the variable, without its length
        have heq : (w.scfSessionGetProtocolVersion g v (some o) allocOk).2 = { w with
            versions := Function.update w.versions o ⟨(w.versions o).ptr, 0⟩ } := by
          simp [scfSessionGetProtocolVersion, hptr, hinit, g.adaptor_of_init hinit, hread, htext]
        rw [heq]
        exact ⟨hlive, fun o' => hothers o' _ fun _ _ => rfl⟩
      | some text =>
        -- another buffer takes its place
        have heq : (w.scfSessionGetProtocolVersion g v (some o) allocOk).2 = { w with
            buffers := (w.buffers.alloc (text ++ [0])).2
            versions := Function.update w.versions o ⟨some w.buffers.size, text.length⟩ } := by
          simp [scfSessionGetProtocolVersion, hptr, hinit, g.adaptor_of_init hinit, hread, htext,
            Heap.alloc_fst]
        have hne : b ≠ w.buffers.size := Nat.ne_of_lt (Heap.lt_size_of_read hlive)
        rw [heq]
        refine ⟨?_, fun o' => hothers o' _ fun _ hptr' => ?_⟩
        · dsimp only
          rwa [Heap.read_alloc_of_ne _ hne]
        · exact absurd (Option.some.inj hptr').symm hne
  | _ => exact absurd trivial hcareless

end SessionWorld

/-- **Run theorem**: an application is able to give everything back at any time of a run just if it
never lets `SCF_SessionNew` overwrite a handle that has a session, and never gives
`SCF_SessionGetProtocolVersion` a variable that has a buffer, unless the handle is null or the
framework is not initialised. -/
theorem session_run_clean_iff (calls : List (Globals × PskSessionCall)) :
    pskSessionMachine.Throughout SessionWorld.Clean {} calls ↔
      pskSessionMachine.Admits (fun w call => w.Careful call.1 call.2) {} calls := by
  refine Machine.throughout_iff_of_invariant (I := SessionWorld.Holds True)
    (fun w h => h.clean) (fun w call h _ hok => (h.apply (g := call.1) call.2 fun _ => hok).1)
    (fun w call h _ hclean => ?_) (SessionWorld.holds_start True)
    (Machine.admits_of_forall (fun _ _ => trivial) _ _)
  by_contra hcareless
  exact (h.lost_of_not_careful hcareless).not_clean hclean

end Scf
