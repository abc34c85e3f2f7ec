import ScfSecurity.Policy.PskSession

/-!
# Runs with PSK sessions

An application that uses the functions on sessions in any order, and shuts the framework down and
starts it again in between, never works on a session or a buffer that has been freed, and its
variables behave as if they held values. What it reads from a session is what it has set last.

## Main definitions

- `SessionWorld.Holds`: every pointer is good and, if nothing has been lost, everything is held
- `SessionWorld.Careful`: the calls that lose nothing
- `SessionRecord`: what can be told about a session from the calls and their answers

## Main results

- `SessionWorld.Holds.apply`: one call, on the heap and on the values
- `session_run_simulates`: every run behaves as one on values
- `session_run_reads_back`: what is read from a session is what was set last
-/

namespace Scf

open Automaton

/-- An initialised framework has its adaptor. -/
theorem notReady_eq (g : Globals) : (!g.scfInitialized || !g.adaptor) = !g.scfInitialized := by
  cases hinit : g.scfInitialized with
  | false => rfl
  | true => rw [g.adaptor_of_init hinit]; rfl

namespace SessionWorld

variable {full : Prop} {w : SessionWorld} {g : Globals}

/-- The pointers to buffers. -/
def bufferPtrs (w : SessionWorld) (o : ℕ) : Option ℕ := (w.versions o).ptr

/-- The buffer belongs to the length beside it, unless this is zero and something may be lost. -/
def Measured (full : Prop) (len : ℕ) (content : StdString) : Prop :=
  len = 0 ∧ ¬full ∨ ∃ text, text ≠ [] ∧ content = text ++ [0] ∧ len = text.length

/-- Every pointer leads to a session or a buffer of its own, what was deleted had been wiped, and if
`full` every session and every buffer has a variable that it can be freed with. -/
structure Holds (full : Prop) (w : SessionWorld) : Prop where
  sessions : Heap.Estate (fun _ => full) (Heap.behind w.handles) w.sessions
  buffers : Heap.Estate (fun _ => full) (Heap.behind w.bufferPtrs) w.buffers
  measured : ∀ o content, w.text o = some content → Measured full (w.versions o).len content
  wiped : ∀ content ∈ w.deleted, ∀ byte ∈ content, byte = 0
  valid : w.dangling = false

theorem holds_start (full : Prop) : ({} : SessionWorld).Holds full where
  sessions := ⟨nofun, nofun, nofun⟩
  buffers := ⟨nofun, nofun, nofun⟩
  measured := nofun
  wiped := nofun
  valid := rfl

/-! ### Steps on one variable -/

/-- A step of one handle. -/
theorem Holds.stepHandle (h : w.Holds full) {v : ℕ} {ptr : Option ℕ} {sessions : Heap SslSession}
    (hd : Heap.Deals (fun _ => full) (Heap.behind w.handles v) {x | ptr = some x} w.sessions
      sessions) :
    let w' := { w with sessions, handles := Function.update w.handles v ptr }
    w'.Holds full ∧ w'.view = { w.view with
      sessions := Function.update w.view.sessions v (ptr.bind fun x => sessions.read x) } := by
  refine ⟨⟨h.sessions.updatePtr hd, h.buffers, h.measured, h.wiped, h.valid⟩, ?_⟩
  show SessionStore.mk _ _ _ = _
  congr 1
  exact h.sessions.deref_update hd

theorem bufferPtrs_update (versions : ℕ → BufferVar) (o : ℕ) (var : BufferVar) :
    (fun o' => (Function.update versions o var o').ptr) =
      Function.update (fun o' => (versions o').ptr) o var.ptr := by
  funext o'
  by_cases ho : o' = o
  · subst ho
    rw [Function.update_self, Function.update_self]
  · rw [Function.update_of_ne ho, Function.update_of_ne ho]

/-- A step of one variable for versions. -/
theorem Holds.stepVersion (h : w.Holds full) (o : ℕ) (var : BufferVar) {buffers : Heap StdString}
    {deleted : List StdString}
    (hd : Heap.Deals (fun _ => full) (Heap.behind w.bufferPtrs o) {b | var.ptr = some b} w.buffers
      buffers)
    (hmeasured : ∀ content, (var.ptr.bind fun b => buffers.read b) = some content →
      Measured full var.len content)
    (hwiped : ∀ content ∈ deleted, ∀ byte ∈ content, byte = 0) :
    let w' := { w with buffers, deleted, versions := Function.update w.versions o var }
    w'.Holds full ∧ w'.view = { w.view with
      texts := Function.update w.view.texts o
        (var.ptr.bind fun b => buffers.read b, var.len) } := by
  have hptrs := bufferPtrs_update w.versions o var
  have htext : ∀ o', ((Function.update w.versions o var o').ptr.bind fun b => buffers.read b) =
      Function.update w.text o (var.ptr.bind fun b => buffers.read b) o' := by
    intro o'
    refine (congrFun (congrArg (Heap.deref · buffers) hptrs) o').trans ?_
    exact congrFun (h.buffers.deref_update hd) o'
  refine ⟨⟨h.sessions, ?_, fun o' content hcontent => ?_, hwiped, h.valid⟩, ?_⟩
  · show Heap.Estate _ (Heap.behind fun o' => (Function.update w.versions o var o').ptr) buffers
    rw [hptrs]
    exact h.buffers.updatePtr hd
  · have hcontent' := (htext o').symm.trans hcontent
    dsimp only
    by_cases ho : o' = o
    · subst ho
      rw [Function.update_self] at hcontent' ⊢
      exact hmeasured content hcontent'
    · rw [Function.update_of_ne ho] at hcontent' ⊢
      exact h.measured o' content hcontent'
  · show SessionStore.mk _ _ _ = SessionStore.mk _ _ _
    congr 1
    funext o'
    refine Prod.ext ?_ ?_
    · refine (htext o').trans ?_
      by_cases ho : o' = o
      · subst ho
        rw [Function.update_self, Function.update_self]
      · rw [Function.update_of_ne ho, Function.update_of_ne ho]
        rfl
    · dsimp only
      by_cases ho : o' = o
      · subst ho
        rw [Function.update_self, Function.update_self]
      · rw [Function.update_of_ne ho, Function.update_of_ne ho]
        rfl

/-! ### One call -/

/-- `SCF_SessionNew` overwrites the handle. -/
theorem Holds.new (h : w.Holds full) {v : ℕ} (hfree : full → w.handles v = none) (newOk : Bool) :
    (w.scfSessionNew g newOk v).Holds full ∧ (w.scfSessionNew g newOk v).view =
      { w.view with
        sessions := Function.update w.view.sessions v (Scf.scfSessionNew g newOk) } := by
  have hlost : ∀ x b, w.handles v = some x → w.sessions.read x = some b → ¬full := by
    intro x b hx _ hfull
    rw [hfree hfull] at hx
    cases hx
  unfold SessionWorld.scfSessionNew
  cases Scf.scfSessionNew g newOk with
  | none => exact h.stepHandle (h.sessions.deals_drop hlost)
  | some sess =>
    have hstep := h.stepHandle (h.sessions.deals_new sess hlost)
    rw [Option.bind_some, Heap.read_alloc_size] at hstep
    exact hstep

theorem Holds.free (h : w.Holds full) (v : ℕ) :
    (w.scfSessionFree g (some v)).Holds full ∧ (w.scfSessionFree g (some v)).view =
      if g.scfInitialized then
        { w.view with sessions := Function.update w.view.sessions v none } else w.view := by
  cases hptr : w.handles v with
  | none =>
    have heq : w.scfSessionFree g (some v) = w := by simp [scfSessionFree, hptr]
    have hnone : w.view.sessions v = none := (h.sessions.deref_eq_none_iff v).mpr hptr
    rw [heq, ← hnone, Function.update_eq_self, ite_self]
    exact ⟨h, rfl⟩
  | some x =>
    obtain ⟨sess, hread⟩ := Option.ne_none_iff_exists'.mp (h.sessions.live v x hptr)
    cases hinit : g.scfInitialized with
    | false =>
      have heq : w.scfSessionFree g (some v) = w := by simp [scfSessionFree, hptr, hinit]
      rw [heq]
      exact ⟨h, rfl⟩
    | true =>
      have heq : w.scfSessionFree g (some v) = { w with
          sessions := w.sessions.free x
          handles := Function.update w.handles v none } := by
        simp [scfSessionFree, hptr, hinit, g.adaptor_of_init hinit, hread]
      rw [heq]
      exact h.stepHandle (h.sessions.deals_free hptr)

/-- A function on the session of a handle. -/
theorem Holds.onSession (h : w.Holds full) {v x : ℕ} (hptr : w.handles v = some x)
    (f : SslSession → Errno × SslSession) :
    ∃ sess, w.view.sessions v = some sess ∧ (w.onSession x f).1 = (f sess).1 ∧
      (w.onSession x f).2.Holds full ∧ (w.onSession x f).2.view =
        { w.view with sessions := Function.update w.view.sessions v (some (f sess).2) } := by
  obtain ⟨sess, hread⟩ := Option.ne_none_iff_exists'.mp (h.sessions.live v x hptr)
  have hstep := h.stepHandle (h.sessions.deals_modify hptr fun _ => (f sess).2)
  rw [Function.update_eq_self, hptr, Option.bind_some, Heap.read_modify, if_pos rfl, hread] at hstep
  unfold SessionWorld.onSession
  rw [hread]
  exact ⟨sess, (Heap.deref_of_ptr hptr).trans hread, rfl, hstep⟩

/-- A function that sets something in the session of a handle, or refuses a null handle. -/
theorem Holds.updates (h : w.Holds full) (v : ℕ) (refused : Errno)
    (f : SslSession → Errno × SslSession) :
    let out := match w.handles v with
      | none => (refused, w)
      | some x => w.onSession x f
    out.2.Holds full ∧ SessionAnswer.code out.1 = (w.view.update v refused f).1 ∧
      out.2.view = (w.view.update v refused f).2 := by
  unfold SessionStore.update
  cases hptr : w.handles v with
  | none =>
    rw [show w.view.sessions v = none from (h.sessions.deref_eq_none_iff v).mpr hptr]
    exact ⟨h, rfl, rfl⟩
  | some x =>
    obtain ⟨sess, hsess, hret, hholds, hview⟩ := h.onSession hptr f
    rw [hsess]
    exact ⟨hholds, congrArg SessionAnswer.code hret, hview⟩

/-- The cipher suites belong to OpenSSL. -/
theorem Holds.withCiphers (h : w.Holds full) (ciphers : ℕ → CipherVar) :
    ({ w with ciphers } : SessionWorld).Holds full ∧
      ({ w with ciphers } : SessionWorld).view = { w.view with ciphers } :=
  ⟨⟨h.sessions, h.buffers, h.measured, h.wiped, h.valid⟩, rfl⟩

theorem Holds.getCipher (h : w.Holds full) (v c : ℕ) :
    (w.scfSessionGetCipher g v (some c)).2.Holds full ∧
      (w.scfSessionGetCipher g v (some c)).1 = (w.view.showCipher g v c).1 ∧
      (w.scfSessionGetCipher g v (some c)).2.view = (w.view.showCipher g v c).2 := by
  unfold scfSessionGetCipher SessionStore.showCipher
  cases hptr : w.handles v with
  | none =>
    rw [show w.view.sessions v = none from (h.sessions.deref_eq_none_iff v).mpr hptr]
    exact ⟨h, rfl, rfl⟩
  | some x =>
    obtain ⟨sess, hread⟩ := Option.ne_none_iff_exists'.mp (h.sessions.live v x hptr)
    rw [show w.view.sessions v = some sess from (Heap.deref_of_ptr hptr).trans hread]
    cases hinit : g.scfInitialized with
    | false => exact ⟨h, rfl, rfl⟩
    | true =>
      simp only [g.adaptor_of_init hinit, hread, Bool.not_true, Bool.false_eq_true, if_false,
        if_true]
      obtain ⟨hholds, hview⟩ := h.withCiphers
        (Function.update w.ciphers c (adaptorSessionGetCipher sess).2)
      exact ⟨hholds, trivial, hview⟩

theorem Holds.freeCipher (h : w.Holds full) (c : ℕ) :
    (w.scfSessionFreeCipher g (some c)).Holds full ∧ (w.scfSessionFreeCipher g (some c)).view =
      if (w.ciphers c).ptr = none ∨ (w.ciphers c).len = 0 ∨ g.scfInitialized = false then w.view
      else { w.view with ciphers := Function.update w.view.ciphers c ⟨none, 0⟩ } := by
  have hstep := h.withCiphers (Function.update w.ciphers c ⟨none, 0⟩)
  unfold scfSessionFreeCipher
  simp only [notReady_eq, ← or_assoc]
  by_cases hempty : (w.ciphers c).ptr = none ∨ (w.ciphers c).len = 0
  · rw [if_pos hempty, if_pos (.inl hempty)]
    exact ⟨h, rfl⟩
  · rw [if_neg hempty]
    cases hinit : g.scfInitialized with
    | false => exact ⟨h, (if_pos (.inr rfl)).symm⟩
    | true =>
      rw [if_neg (by decide), if_neg (not_or.mpr ⟨hempty, by decide⟩)]
      exact hstep

/-- The text for a version is not empty. -/
theorem adaptorSessionGetProtocolVersion_ne_nil {allocOk : Bool} {sess : SslSession}
    {text : StdString} (h : adaptorSessionGetProtocolVersion allocOk sess = some text) :
    text ≠ [] := by
  unfold adaptorSessionGetProtocolVersion protocolIntToStr at h
  rintro rfl
  by_cases h12 : sess.protocolVersion = tls12Version
  · rw [h12] at h
    cases allocOk <;> exact absurd h (by decide)
  · by_cases h13 : sess.protocolVersion = tls13Version
    · rw [h13] at h
      cases allocOk <;> exact absurd h (by decide)
    · simp [List.lookup_cons, beq_eq_false_iff_ne.mpr h12, beq_eq_false_iff_ne.mpr h13] at h

/-- A variable that is not empty would lose its buffer, or the length of it. -/
theorem Holds.getProtocolVersion (h : w.Holds full) (v o : ℕ) (allocOk : Bool)
    (hempty : full → w.handles v ≠ none → g.scfInitialized = true → w.bufferPtrs o = none) :
    (w.scfSessionGetProtocolVersion g v (some o) allocOk).2.Holds full ∧
      (w.scfSessionGetProtocolVersion g v (some o) allocOk).1 =
        (w.view.showVersion g v o allocOk).1 ∧
      (w.scfSessionGetProtocolVersion g v (some o) allocOk).2.view =
        (w.view.showVersion g v o allocOk).2 := by
  unfold scfSessionGetProtocolVersion SessionStore.showVersion
  cases hptr : w.handles v with
  | none =>
    rw [show w.view.sessions v = none from (h.sessions.deref_eq_none_iff v).mpr hptr]
    exact ⟨h, rfl, rfl⟩
  | some x =>
    obtain ⟨sess, hread⟩ := Option.ne_none_iff_exists'.mp (h.sessions.live v x hptr)
    rw [show w.view.sessions v = some sess from (Heap.deref_of_ptr hptr).trans hread]
    cases hinit : g.scfInitialized with
    | false => exact ⟨h, rfl, rfl⟩
    | true =>
      simp only [g.adaptor_of_init hinit, hread, Bool.not_true, Bool.false_eq_true, if_false,
        if_true]
      have hlost : ∀ b content, w.bufferPtrs o = some b → w.buffers.read b = some content →
          ¬full := by
        intro b content hb _ hfull
        rw [hempty hfull (by rw [hptr]; exact nofun) hinit] at hb
        cases hb
      cases htext : adaptorSessionGetProtocolVersion allocOk sess with
      | none =>
        have hlive : ∀ b, b ∈ Heap.behind w.bufferPtrs o → w.buffers.read b ≠ none :=
          h.buffers.live o
        have hzero : ∀ content, ((w.versions o).ptr.bind fun b => w.buffers.read b) = some content →
            Measured full 0 content := by
          intro content hcontent
          obtain ⟨b, hb, hread'⟩ := Option.bind_eq_some_iff.mp hcontent
          exact .inl ⟨rfl, hlost b content hb hread'⟩
        obtain ⟨hholds, hview⟩ :=
          h.stepVersion o ⟨(w.versions o).ptr, 0⟩ (.refl _ hlive) hzero h.wiped
        exact ⟨hholds, rfl, hview⟩
      | some text =>
        have hnew : (w.buffers.alloc (text ++ [0])).2.read (w.buffers.alloc (text ++ [0])).1 =
            some (text ++ [0]) := Heap.read_alloc_size _ _
        have hlong : ∀ content, (some (w.buffers.alloc (text ++ [0])).1).bind (fun b =>
            (w.buffers.alloc (text ++ [0])).2.read b) = some content →
            Measured full text.length content := by
          intro content hcontent
          obtain rfl := Option.some.inj (hnew.symm.trans hcontent)
          exact .inr ⟨text, adaptorSessionGetProtocolVersion_ne_nil htext, rfl, rfl⟩
        obtain ⟨hholds, hview⟩ :=
          h.stepVersion o ⟨some (w.buffers.alloc (text ++ [0])).1, text.length⟩
            (h.buffers.deals_new (text ++ [0]) hlost) hlong h.wiped
        refine ⟨hholds, rfl, hview.trans ?_⟩
        rw [Option.bind_some, hnew]

theorem wipe_measured {len : ℕ} {content : StdString} (h : Measured full len content)
    (hlen : len ≠ 0) : ∀ byte ∈ wipe len content, byte = 0 := by
  obtain ⟨text, -, rfl, rfl⟩ := h.resolve_left fun hzero => hlen hzero.1
  intro byte hbyte
  rw [wipe, List.drop_left] at hbyte
  rcases List.mem_append.mp hbyte with hzero | hlast
  · exact List.eq_of_mem_replicate hzero
  · exact List.mem_singleton.mp hlast

theorem Holds.freeBuffer (h : w.Holds full) (o : ℕ) :
    (w.scfFreeBuffer g (some o)).Holds full ∧ (w.scfFreeBuffer g (some o)).view =
      if (w.text o) = none ∨ (w.versions o).len = 0 ∨ g.scfInitialized = false then w.view
      else { w.view with texts := Function.update w.view.texts o (none, 0) } := by
  cases hptr : (w.versions o).ptr with
  | none =>
    have heq : w.scfFreeBuffer g (some o) = w := by simp [scfFreeBuffer, hptr]
    rw [heq, if_pos (.inl ((h.buffers.deref_eq_none_iff o).mpr hptr))]
    exact ⟨h, rfl⟩
  | some b =>
    obtain ⟨content, hread⟩ := Option.ne_none_iff_exists'.mp (h.buffers.live o b hptr)
    have htext : w.text o = some content :=
      (Heap.deref_of_ptr (show w.bufferPtrs o = some b from hptr)).trans hread
    by_cases hidle : (w.versions o).len = 0 ∨ g.scfInitialized = false
    · have heq : w.scfFreeBuffer g (some o) = w := by
        unfold scfFreeBuffer
        simp only [hptr, notReady_eq]
        rcases hidle with hlen | hinit
        · rw [if_pos hlen]
        · rw [hinit]
          split_ifs <;> first | rfl | contradiction
      rw [heq, if_pos (.inr hidle)]
      exact ⟨h, rfl⟩
    · obtain ⟨hlen, hinit⟩ := not_or.mp hidle
      have hready : (!g.scfInitialized || !g.adaptor) = false := by
        rw [notReady_eq, Bool.eq_true_of_not_eq_false hinit]
        rfl
      have heq : w.scfFreeBuffer g (some o) = { w with
          buffers := w.buffers.free b
          deleted := w.deleted ++ [wipe (w.versions o).len content]
          versions := Function.update w.versions o ⟨none, 0⟩ } := by
        simp only [scfFreeBuffer, hptr, hlen, hready, hread, Bool.false_eq_true, if_false]
      rw [heq, if_neg (not_or.mpr ⟨by rw [htext]; exact nofun, hidle⟩)]
      refine h.stepVersion o ⟨none, 0⟩ (h.buffers.deals_free hptr) nofun fun content' hmem => ?_
      rcases List.mem_append.mp hmem with hold | hlast
      · exact h.wiped content' hold
      · obtain rfl := List.mem_singleton.mp hlast
        exact wipe_measured (h.measured o content htext) hlen

/-- The calls that lose nothing. A handle is not overwritten, and a version is only asked for with
an empty variable. -/
def Careful (w : SessionWorld) (g : Globals) : PskSessionCall → Prop
  | .new v _ => w.handles v = none
  | .getProtocolVersion v (some o) _ =>
    w.handles v ≠ none → g.scfInitialized = true → w.bufferPtrs o = none
  | _ => True

/-- A function that refuses before it gets to the session. -/
theorem update_refused (s : SessionStore) (v : ℕ) (refused : Errno) :
    s.update v refused (fun sess => (refused, sess)) = (.code refused, s) := by
  unfold SessionStore.update
  cases hsess : s.sessions v with
  | none => rfl
  | some sess =>
    dsimp only
    rw [← hsess, Function.update_eq_self]

/-- What a setter does, when what is to be set is there. -/
theorem scfSessionSetCipher_some (v : ℕ) (suite : UInt16) (setOk : Bool) :
    w.scfSessionSetCipher g v (some suite) setOk = match w.handles v with
      | none => (.nullInput, w)
      | some x => w.onSession x (Scf.scfSessionSetCipher g suite setOk) := by
  unfold scfSessionSetCipher
  cases w.handles v <;> rfl

@[inherit_doc scfSessionSetCipher_some]
theorem scfSessionSetProtocolVersion_some (v : ℕ) (version : String) (setOk : Bool) :
    w.scfSessionSetProtocolVersion g v (some version) setOk = match w.handles v with
      | none => (.nullInput, w)
      | some x => w.onSession x (Scf.scfSessionSetProtocolVersion g version setOk) := by
  unfold scfSessionSetProtocolVersion
  cases w.handles v <;> rfl

/-- A call with a null pointer for a variable, or for what is to be set, changes nothing. -/
theorem apply_null (g : Globals) (w : SessionWorld) (v : ℕ) (ok : Bool) :
    PskSessionCall.apply g (.setCipher v none ok) w = (.code .nullInput, w) ∧
      PskSessionCall.apply g (.setProtocolVersion v none ok) w = (.code .nullInput, w) ∧
      PskSessionCall.apply g (.getCipher v none) w = (.code .nullInput, w) ∧
      PskSessionCall.apply g (.getProtocolVersion v none ok) w = (.code .nullInput, w) := by
  cases hptr : w.handles v with
  | none =>
    simp [PskSessionCall.apply, scfSessionSetCipher, scfSessionSetProtocolVersion,
      scfSessionGetCipher, scfSessionGetProtocolVersion, SessionAnswer.ofCipher,
      SessionAnswer.ofVersion, hptr]
  | some x =>
    simp [PskSessionCall.apply, scfSessionSetCipher, scfSessionSetProtocolVersion,
      scfSessionGetCipher, scfSessionGetProtocolVersion, SessionAnswer.ofCipher,
      SessionAnswer.ofVersion, hptr]

/-- A call on the heap does to the values of the variables what it does to them without a heap, and
answers the same. -/
def Follows (full : Prop) (g : Globals) (call : PskSessionCall) (w : SessionWorld) : Prop :=
  (call.apply g w).2.Holds full ∧ (call.apply g w).1 = (w.view.apply g call).1 ∧
    (call.apply g w).2.view = (w.view.apply g call).2

theorem Holds.unchanged (h : w.Holds full) {call : PskSessionCall} {answer : SessionAnswer}
    (hworld : call.apply g w = (answer, w)) (hstore : w.view.apply g call = (answer, w.view)) :
    w.Follows full g call := by
  unfold Follows
  rw [hworld, hstore]
  exact ⟨h, rfl, rfl⟩

/-- **Step lemma** for every call. -/
theorem Holds.apply (h : w.Holds full) (call : PskSessionCall)
    (hcareful : full → w.Careful g call) :
    w.Follows full g call := by
  cases call with
  | new v newOk =>
    obtain ⟨hholds, hview⟩ := h.new (g := g) hcareful newOk
    exact ⟨hholds, rfl, hview⟩
  | free sess =>
    cases sess with
    | none => exact ⟨h, rfl, rfl⟩
    | some v =>
      obtain ⟨hholds, hview⟩ := h.free (g := g) v
      exact ⟨hholds, rfl, hview⟩
  | setMasterKey v decryptFunction masterKey isCipher setOk =>
    exact h.updates v .invalidParam fun sess =>
      let call : KeyCall := ⟨g, decryptFunction, .valid, masterKey, isCipher, setOk⟩
      ((call.run sess).ret, (call.run sess).sess)
  | setCipher v cipherSuite setOk =>
    cases cipherSuite with
    | none => exact h.unchanged (apply_null g w v setOk).1 (update_refused _ _ _)
    | some suite =>
      have hstep := h.updates v .nullInput (Scf.scfSessionSetCipher g suite setOk)
      rw [← scfSessionSetCipher_some] at hstep
      exact hstep
  | setProtocolVersion v version setOk =>
    cases version with
    | none => exact h.unchanged (apply_null g w v setOk).2.1 (update_refused _ _ _)
    | some version =>
      have hstep := h.updates v .nullInput (Scf.scfSessionSetProtocolVersion g version setOk)
      rw [← scfSessionSetProtocolVersion_some] at hstep
      exact hstep
  | getCipher v cipherSuite =>
    cases cipherSuite with
    | none => exact h.unchanged (apply_null g w v true).2.2.1 rfl
    | some c =>
      obtain ⟨hholds, hret, hview⟩ := h.getCipher (g := g) v c
      refine ⟨hholds, ?_, hview⟩
      show SessionAnswer.cipher _ ((w.scfSessionGetCipher g v (some c)).2.view.ciphers c) = _
      rw [hret, hview]
      rfl
  | freeCipher cipherSuite =>
    cases cipherSuite with
    | none => exact ⟨h, rfl, rfl⟩
    | some c =>
      obtain ⟨hholds, hview⟩ := h.freeCipher (g := g) c
      exact ⟨hholds, rfl, hview⟩
  | getProtocolVersion v version allocOk =>
    cases version with
    | none => exact h.unchanged (apply_null g w v allocOk).2.2.2 rfl
    | some o =>
      obtain ⟨hholds, hret, hview⟩ := h.getProtocolVersion (g := g) v o allocOk hcareful
      refine ⟨hholds, ?_, hview⟩
      have htexts : ((w.scfSessionGetProtocolVersion g v (some o) allocOk).2.view.texts o) =
          (w.view.showVersion g v o allocOk).2.texts o := by rw [hview]
      exact congrArg₂ (fun ret text => SessionAnswer.version ret text.1 text.2) hret htexts
  | freeBuffer buffer =>
    cases buffer with
    | none => exact ⟨h, rfl, rfl⟩
    | some o =>
      obtain ⟨hholds, hview⟩ := h.freeBuffer (g := g) o
      exact ⟨hholds, rfl, hview⟩

end SessionWorld

/-! ### What is read back -/

/-- What has been set in a session. -/
structure SessionRecord where
  masterKey : List UInt8 := []
  version : Option String := none
  cipher : Option UInt16 := none

namespace SessionRecord

/-- The session with these settings. -/
def session (record : SessionRecord) : SslSession where
  masterKey := record.masterKey
  protocolVersion := (record.version.bind protocolStrToInt).getD 0
  cipher := record.cipher

/-- What a setter sets. -/
def set (record : SessionRecord) : PskSessionCall → SessionRecord
  | .setMasterKey _ decryptFunction (some masterKey) isCipher _ => { record with
      masterKey := if isCipher then (cryptoUtilDecrypt decryptFunction masterKey).2 else masterKey }
  | .setCipher _ (some suite) _ => { record with cipher := some suite }
  | .setProtocolVersion _ (some version) _ => { record with version := some version }
  | _ => record

/-- What the application can tell about the session in a handle from a call and its answer. -/
def note (v : ℕ) (record : Option SessionRecord) (g : Globals) (call : PskSessionCall)
    (answer : SessionAnswer) : Option SessionRecord :=
  match call with
  | .new v' _ =>
    if v' = v then if answer = .created true then some {} else none else record
  | .free sess => if sess = some v ∧ g.scfInitialized = true then none else record
  | .setMasterKey v' .. | .setCipher v' .. | .setProtocolVersion v' .. =>
    if v' = v ∧ answer = .code .success then record.map (·.set call) else record
  | _ => record

/-- The same from the calls and answers of a run. -/
def ofRun (v : ℕ) (calls : List (Globals × PskSessionCall)) (answers : List SessionAnswer)
    (record : Option SessionRecord) : Option SessionRecord :=
  (calls.zip answers).foldl (fun record out => note v record out.1.1 out.1.2 out.2) record

/-- The versions that are set have a number. -/
def Known (record : SessionRecord) : Prop :=
  ∀ version, record.version = some version → protocolStrToInt version ≠ none

end SessionRecord

/-- The two tables of versions are inverse to each other. -/
theorem protocolIntToStr_of_strToInt {version : String} {n : UInt32}
    (h : protocolStrToInt version = some n) : protocolIntToStr n = some version := by
  unfold protocolStrToInt at h
  by_cases h12 : version = "TLSv1.2"
  · subst h12
    obtain rfl := Option.some.inj h
    decide
  · by_cases h13 : version = "TLSv1.3"
    · subst h13
      obtain rfl := Option.some.inj h
      decide
    · simp [List.lookup_cons, beq_eq_false_iff_ne.mpr h12, beq_eq_false_iff_ne.mpr h13] at h

/-- A function that either succeeds and sets what the call says, or fails and sets nothing. -/
def PskSessionCall.SetBy (call : PskSessionCall) (f : SslSession → Errno × SslSession) : Prop :=
  ∀ record : SessionRecord, record.Known →
    (f record.session).1 = .success ∧ (f record.session).2 = (record.set call).session ∧
        (record.set call).Known ∨
      (f record.session).1 ≠ .success ∧ (f record.session).2 = record.session

section SetBy

variable (g : Globals) (v : ℕ) (setOk : Bool)

theorem setCipher_setBy (suite : UInt16) : (PskSessionCall.setCipher v (some suite) setOk).SetBy
    (scfSessionSetCipher g suite setOk) := by
  intro record hknown
  unfold scfSessionSetCipher
  split_ifs
  · exact .inr ⟨nofun, rfl⟩
  · exact .inr ⟨nofun, rfl⟩
  · exact .inr ⟨nofun, rfl⟩
  · exact .inl ⟨rfl, rfl, hknown⟩

theorem setProtocolVersion_setBy (version : String) :
    (PskSessionCall.setProtocolVersion v (some version) setOk).SetBy
      (scfSessionSetProtocolVersion g version setOk) := by
  intro record _
  unfold scfSessionSetProtocolVersion
  cases hversion : protocolStrToInt version with
  | none =>
    dsimp only
    split_ifs <;> exact .inr ⟨nofun, rfl⟩
  | some n =>
    dsimp only
    split_ifs
    · exact .inr ⟨nofun, rfl⟩
    · exact .inr ⟨nofun, rfl⟩
    · exact .inr ⟨nofun, rfl⟩
    · refine .inl ⟨rfl, ?_, fun version' hset => ?_⟩
      · simp [SessionRecord.session, SessionRecord.set, hversion]
      · obtain rfl := Option.some.inj hset
        rw [hversion]
        exact nofun

/-- A key that is not there, or cannot be decrypted, is not set. -/
theorem setMasterKey_setBy (decryptFunction : Option DecryptFunction)
    (masterKey : Option (List UInt8)) (isCipher : Bool) :
    (PskSessionCall.setMasterKey v decryptFunction masterKey isCipher setOk).SetBy fun sess =>
      let call : KeyCall := ⟨g, decryptFunction, .valid, masterKey, isCipher, setOk⟩
      ((call.run sess).ret, (call.run sess).sess) := by
  intro record hknown
  unfold KeyCall.run setFinalKey
  cases masterKey with
  | none => exact .inr ⟨nofun, rfl⟩
  | some masterKey =>
    dsimp only
    split_ifs with hempty hinit hadaptor hcipher hdecrypted hok hok
    any_goals exact .inr ⟨nofun, rfl⟩
    · exact .inl ⟨rfl, by simp [SessionRecord.session, SessionRecord.set, hcipher], hknown⟩
    · exact .inl ⟨rfl, by simp [SessionRecord.session, SessionRecord.set, hcipher], hknown⟩

end SetBy

/-! ### What the store shows -/

/-- The store has in the handle what has been noted. -/
def SessionStore.Shows (s : SessionStore) (v : ℕ) (record : Option SessionRecord) : Prop :=
  s.sessions v = record.map SessionRecord.session ∧ ∀ r, record = some r → r.Known

namespace SessionStore

variable {s : SessionStore} {v : ℕ} {record : Option SessionRecord}

theorem Shows.update (h : s.Shows v record) {v' : ℕ} {refused : Errno} {call : PskSessionCall}
    {f : SslSession → Errno × SslSession} (hset : call.SetBy f) :
    (s.update v' refused f).2.Shows v
      (if v' = v ∧ (s.update v' refused f).1 = .code .success then record.map (·.set call)
        else record) := by
  obtain ⟨hsession, hknown⟩ := h
  unfold SessionStore.update
  by_cases hv : v' = v
  · subst hv
    cases record with
    | none =>
      rw [hsession, Option.map_none, Option.map_none, ite_self]
      exact ⟨hsession, hknown⟩
    | some r =>
      rw [hsession, Option.map_some, Option.map_some]
      dsimp only
      rcases hset r (hknown r rfl) with ⟨hret, hsess, hknown'⟩ | ⟨hret, hsess⟩
      · rw [if_pos ⟨rfl, congrArg _ hret⟩, hsess]
        refine ⟨Function.update_self .., fun r' hr' => ?_⟩
        obtain rfl := Option.some.inj hr'
        exact hknown'
      · rw [if_neg fun hand => hret (SessionAnswer.code.inj hand.2), hsess]
        exact ⟨Function.update_self .., hknown⟩
  · rw [if_neg fun hand => hv hand.1]
    cases s.sessions v' with
    | none => exact ⟨hsession, hknown⟩
    | some sess => exact ⟨(Function.update_of_ne (Ne.symm hv) _ _).trans hsession, hknown⟩

theorem showCipher_sessions (g : Globals) (v c : ℕ) :
    (s.showCipher g v c).2.sessions = s.sessions := by
  unfold showCipher
  cases s.sessions v with
  | none => rfl
  | some sess => dsimp only; split_ifs <;> rfl

theorem showVersion_sessions (g : Globals) (v o : ℕ) (allocOk : Bool) :
    (s.showVersion g v o allocOk).2.sessions = s.sessions := by
  unfold showVersion
  cases s.sessions v with
  | none => rfl
  | some sess =>
    dsimp only
    split_ifs
    · cases adaptorSessionGetProtocolVersion allocOk sess <;> rfl
    · rfl

/-- **Step lemma**: what is noted about a call is what it has done to the session. -/
theorem Shows.apply (h : s.Shows v record) (g : Globals) (call : PskSessionCall) :
    (s.apply g call).2.Shows v (SessionRecord.note v record g call (s.apply g call).1) := by
  have hsame : ∀ s' : SessionStore, s'.sessions = s.sessions → s'.Shows v record := by
    intro s' hsessions
    exact ⟨(congrFun hsessions v).trans h.1, h.2⟩
  cases call with
  | new v' newOk =>
    show SessionStore.Shows _ v (if v' = v then _ else record)
    by_cases hv : v' = v
    · subst hv
      rw [if_pos rfl]
      show SessionStore.Shows _ v' (if SessionAnswer.created (scfSessionNew g newOk).isSome =
        .created true then some {} else none)
      have hnew : scfSessionNew g newOk = none ∨ scfSessionNew g newOk = some {} := by
        unfold scfSessionNew
        split_ifs <;> simp
      rcases hnew with hnew | hnew
      · rw [hnew, if_neg (by decide)]
        refine ⟨?_, nofun⟩
        show Function.update s.sessions v' (scfSessionNew g newOk) v' = _
        rw [Function.update_self, hnew]
        rfl
      · rw [hnew, Option.isSome_some, if_pos rfl]
        refine ⟨?_, fun r hr => ?_⟩
        · show Function.update s.sessions v' (scfSessionNew g newOk) v' = _
          rw [Function.update_self, hnew]
          rfl
        · obtain rfl := Option.some.inj hr
          exact nofun
    · rw [if_neg hv]
      exact ⟨(Function.update_of_ne (Ne.symm hv) _ _).trans h.1, h.2⟩
  | free sess =>
    cases sess with
    | none => exact h
    | some v' =>
      show SessionStore.Shows (if g.scfInitialized then _ else s) v
        (if some v' = some v ∧ g.scfInitialized = true then none else record)
      cases hinit : g.scfInitialized with
      | false =>
        rw [if_neg Bool.false_ne_true, if_neg fun hand => Bool.false_ne_true hand.2]
        exact h
      | true =>
        rw [if_pos rfl]
        by_cases hv : v' = v
        · subst hv
          rw [if_pos ⟨rfl, rfl⟩]
          exact ⟨Function.update_self .., nofun⟩
        · rw [if_neg fun hand => hv (Option.some.inj hand.1)]
          exact ⟨(Function.update_of_ne (Ne.symm hv) _ _).trans h.1, h.2⟩
  | setMasterKey v' decryptFunction masterKey isCipher setOk =>
    exact h.update (setMasterKey_setBy g v' setOk decryptFunction masterKey isCipher)
  | setCipher v' cipherSuite setOk =>
    cases cipherSuite with
    | none => exact h.update fun r hr => .inr ⟨nofun, rfl⟩
    | some suite => exact h.update (setCipher_setBy g v' setOk suite)
  | setProtocolVersion v' version setOk =>
    cases version with
    | none => exact h.update fun r hr => .inr ⟨nofun, rfl⟩
    | some version => exact h.update (setProtocolVersion_setBy g v' setOk version)
  | getCipher v' cipherSuite =>
    cases cipherSuite with
    | none => exact h
    | some c => exact hsame _ (showCipher_sessions g v' c)
  | freeCipher cipherSuite =>
    cases cipherSuite with
    | none => exact h
    | some c =>
      refine hsame _ ?_
      unfold SessionStore.apply
      dsimp only
      split_ifs <;> rfl
  | getProtocolVersion v' version allocOk =>
    cases version with
    | none => exact h
    | some o => exact hsame _ (showVersion_sessions g v' o allocOk)
  | freeBuffer buffer =>
    cases buffer with
    | none => exact h
    | some o =>
      refine hsame _ ?_
      unfold SessionStore.apply
      dsimp only
      split_ifs <;> rfl

/-- **Run lemma**: the same for all calls of a run. -/
theorem Shows.run (h : s.Shows v record) (calls : List (Globals × PskSessionCall)) :
    (storeMachine.after s calls).Shows v
      (SessionRecord.ofRun v calls (storeMachine.answers s calls) record) := by
  induction calls generalizing s record with
  | nil => exact h
  | cons call calls ih => exact ih (h.apply call.1 call.2)

end SessionStore

/-! ### Runs -/

/-- **Run lemma**: a run on the heap beside the same run on values. -/
theorem pskSessionMachine_simulates (calls : List (Globals × PskSessionCall)) :
    pskSessionMachine.answers {} calls = storeMachine.answers {} calls ∧
      (pskSessionMachine.after {} calls).Holds False ∧
      (pskSessionMachine.after {} calls).view = storeMachine.after {} calls := by
  have hrun := Machine.simulation (M := pskSessionMachine) (N := storeMachine)
    (R := fun w s => w.Holds False ∧ w.view = s) (f := id)
    (fun w s call hR => ?_) (s := {}) (t := {}) ⟨SessionWorld.holds_start False, rfl⟩ calls
  · rw [List.map_id] at hrun
    exact hrun
  · obtain ⟨hholds, rfl⟩ := hR
    obtain ⟨hholds', hanswer, hview⟩ := hholds.apply (g := call.1) call.2 False.elim
    exact ⟨hanswer, hholds', hview⟩

/-- **Run theorem**: in every run, the calls answer as if every variable held a value of its own,
and leave the values that they leave then. No pointer to something freed is ever used, and every
buffer is all zeros when it is deleted. -/
theorem session_run_simulates (calls : List (Globals × PskSessionCall)) :
    pskSessionMachine.answers {} calls = storeMachine.answers {} calls ∧
      (pskSessionMachine.after {} calls).view = storeMachine.after {} calls ∧
      (pskSessionMachine.after {} calls).dangling = false ∧
      ∀ content ∈ (pskSessionMachine.after {} calls).deleted, ∀ byte ∈ content, byte = 0 := by
  obtain ⟨hanswers, hholds, hview⟩ := pskSessionMachine_simulates calls
  exact ⟨hanswers, hview, hholds.valid, hholds.wiped⟩

/-- What `SCF_SessionGetCipher` answers for a session. -/
def SessionRecord.cipherAnswer (record : SessionRecord) : SessionAnswer :=
  record.cipher.elim (.cipher .sslSessGetCipher ⟨none, 0⟩) fun suite =>
    .cipher .success ⟨some suite, 1⟩

/-- What `SCF_SessionGetProtocolVersion` answers for a session, with a variable that has this
text. -/
def SessionRecord.versionAnswer (record : SessionRecord) (old : Option StdString) : SessionAnswer :=
  record.version.elim (.version .sslSessGetProtocolVer old 0) fun version =>
    .version .success (some (ascii version ++ [0])) (ascii version).length

theorem SessionRecord.adaptorSessionGetProtocolVersion_session {record : SessionRecord}
    (h : record.Known) :
    adaptorSessionGetProtocolVersion true record.session = record.version.map ascii := by
  unfold adaptorSessionGetProtocolVersion SessionRecord.session
  cases hversion : record.version with
  | none => rfl
  | some version =>
    obtain ⟨n, hn⟩ := Option.ne_none_iff_exists'.mp (h version hversion)
    rw [Option.bind_some, hn, Option.getD_some, protocolIntToStr_of_strToInt hn]
    rfl

theorem SessionRecord.adaptorSessionGetCipher_session (record : SessionRecord) :
    SessionAnswer.cipher (adaptorSessionGetCipher record.session).1
      (adaptorSessionGetCipher record.session).2 = record.cipherAnswer := by
  obtain ⟨masterKey, version, cipher⟩ := record
  cases cipher <;> rfl

/-- **Run theorem**: in every run, a handle has a session just if the last `SCF_SessionNew` for it
succeeded and no `SCF_SessionFree` of an initialised framework came after it, and the session has
what was accepted for it last. That is what it is read back as, whatever happened to other handles
and however many calls have failed. -/
theorem session_run_reads_back (calls : List (Globals × PskSessionCall)) (v : ℕ) :
    let w := pskSessionMachine.after {} calls
    let record := SessionRecord.ofRun v calls (pskSessionMachine.answers {} calls) none
    w.view.sessions v = record.map SessionRecord.session ∧
      ∀ r, record = some r → ∀ g : Globals, g.scfInitialized = true → ∀ i,
        (PskSessionCall.apply g (.getCipher v (some i)) w).1 = r.cipherAnswer ∧
          (PskSessionCall.apply g (.getProtocolVersion v (some i) true) w).1 =
            r.versionAnswer (w.text i) := by
  obtain ⟨hanswers, hholds, hview⟩ := pskSessionMachine_simulates calls
  have hstart : SessionStore.Shows {} v none := ⟨rfl, nofun⟩
  have hshows := hstart.run calls
  rw [← hanswers, ← hview] at hshows
  intro w record
  refine ⟨hshows.1, fun r hr g hinit i => ?_⟩
  have hsession : w.view.sessions v = some r.session := by
    rw [hshows.1]
    exact congrArg _ hr
  obtain ⟨-, hcipher, -⟩ := hholds.apply (g := g) (.getCipher v (some i)) False.elim
  obtain ⟨-, hversion, -⟩ := hholds.apply (g := g) (.getProtocolVersion v (some i) true) False.elim
  refine ⟨hcipher.trans ?_, hversion.trans ?_⟩
  · show SessionAnswer.cipher (w.view.showCipher g v i).1
      ((w.view.showCipher g v i).2.ciphers i) = _
    unfold SessionStore.showCipher
    rw [hsession]
    dsimp only
    rw [if_pos hinit]
    dsimp only
    rw [Function.update_self]
    exact r.adaptorSessionGetCipher_session
  · show SessionAnswer.version (w.view.showVersion g v i true).1 _ _ = _
    unfold SessionStore.showVersion SessionRecord.versionAnswer
    rw [hsession]
    dsimp only
    rw [if_pos hinit,
      SessionRecord.adaptorSessionGetProtocolVersion_session (hshows.2 r hr)]
    cases r.version with
    | none =>
      show SessionAnswer.version _ (Function.update w.view.texts i _ i).1
        (Function.update w.view.texts i _ i).2 = _
      rw [Function.update_self]
      rfl
    | some version =>
      show SessionAnswer.version _ (Function.update w.view.texts i _ i).1
        (Function.update w.view.texts i _ i).2 = _
      rw [Function.update_self]
      rfl

/-- A session that is set up, and then a second one; the second call for a version has to fail. -/
def sessionCalls : List (Globals × PskSessionCall) :=
  [(.ready, .new 0 true), (.ready, .setProtocolVersion 0 (some "TLSv1.3") true),
    (.ready, .setCipher 0 (some 0x1301) true), (.ready, .new 1 true),
    (.ready, .setProtocolVersion 1 (some "TLSv1.2") true),
    (.ready, .setProtocolVersion 0 (some "SSLv3") true)]

/-- The first session is still read back as it was set. -/
theorem session_run_reads_back_first :
    (PskSessionCall.apply .ready (.getProtocolVersion 0 (some 0) true)
      (pskSessionMachine.after {} sessionCalls)).1 =
      .version .success (some (ascii "TLSv1.3" ++ [0])) 7 ∧
    (PskSessionCall.apply .ready (.getCipher 0 (some 0))
      (pskSessionMachine.after {} sessionCalls)).1 =
      .cipher .success ⟨some 0x1301, 1⟩ := by
  obtain ⟨hcipher, hversion⟩ := (session_run_reads_back sessionCalls 0).2
    ⟨[], some "TLSv1.3", some 0x1301⟩ (by rfl) .ready rfl 0
  exact ⟨hversion, hcipher⟩

end Scf
