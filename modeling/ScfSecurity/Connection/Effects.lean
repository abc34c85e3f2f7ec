import ScfSecurity.Connection.System

/-!
# What the functions of a connection do

The functions of a connection change the connection and the memory of the process. Here each of
them is described once by what it leaves behind, so that properties of runs need not go into the
functions again.

## Main definitions

- `SCFConnectionImpl.released`, `Process.released`: what `Cleanup` leaves behind

## Main results

- `close_run`, `cleanup_run`: closing and releasing
- `onConn_eq`, `deleteConn_eq`, `acceptOn_eq`: the calls of the system, by what the functions do
-/

namespace Scf

open Automaton

/-- Change what a pointer refers to, unless the pointer is null. -/
def Process.atPtr (ptr : Option ℕ) (f : ℕ → Process → Process) (p : Process) : Process :=
  match ptr with
  | none => p
  | some i => f i p

theorem forPtr_run {f : ℕ → Resumption Process Unit} {f' : ℕ → Process → Process}
    (hf : ∀ i p, (f i).run p = ((), f' i p)) (ptr : Option ℕ) (p : Process) :
    (forPtr ptr f).run p = ((), p.atPtr ptr f') := by
  cases ptr with
  | none => rfl
  | some i => exact hf i p

/-- A transport is closed. -/
def Process.shut (t : ℕ) (p : Process) : Process :=
  { p with transports := p.transports.modify t fun _ => .shut }

/-- An object is freed, unless the library is not initialised. -/
def Process.dropObj (g : Globals) (obj : ℕ) (p : Process) : Process :=
  if !g.scfInitialized || !g.adaptor then p
  else
    match p.objs.read obj with
    | none => p
    | some o => { p.releaseCtx o.policyCtx with objs := p.objs.free obj }

/-- A reference to a context is dropped, unless the library is not initialised. -/
def Process.dropCtx (g : Globals) (ctx : ℕ) (p : Process) : Process :=
  if !g.scfInitialized || !g.adaptor then p else p.releaseCtx ctx

def Process.dropTransport (t : ℕ) (p : Process) : Process :=
  { p with transports := p.transports.free t }

/-- An engine is finalised, and the adaptor has none. -/
def Process.dropEngine (g : Globals) (e : ℕ) (p : Process) : Process :=
  { p with
    engines := p.engines.free e
    adaptorEngine := if g.adaptor then none else p.adaptorEngine }

/-- The engine that a connection has to finalise. -/
def SCFConnectionImpl.ownEngine (conn : SCFConnectionImpl) : Option ℕ :=
  if conn.ownsCryptoEngine then conn.cryptoEngine else none

/-- The memory after the `Cleanup` of a connection. -/
def Process.released (g : Globals) (conn : SCFConnectionImpl) (p : Process) : Process :=
  (((p.atPtr conn.policyObj (dropObj g)).atPtr conn.policyCtx (dropCtx g)).atPtr conn.transport
    dropTransport).atPtr conn.ownEngine (dropEngine g)

/-- The connection after its `Cleanup`. A borrowed engine stays with it. -/
def SCFConnectionImpl.released (conn : SCFConnectionImpl) : SCFConnectionImpl :=
  { conn with
    state := .closed
    policyCtx := none
    policyObj := none
    transport := none
    cryptoEngine := if conn.ownsCryptoEngine then none else conn.cryptoEngine
    ownsCryptoEngine := conn.ownsCryptoEngine && conn.cryptoEngine = none
    handshakeDone :=
      conn.handshakeDone && !(conn.state = .connected || conn.state = .connecting) }

/-! ### Closing and releasing -/

/-- A function that only reads an object leaves the memory as it is. -/
theorem withObj_run_of_read {ρ : Type} (default : ρ) (obj : ℕ)
    (f : SCFPolicyCtx → SCFPolicyObj → ρ) (p : Process) :
    ((withObj default obj fun c o => (f c o, o)).run p).2 = p := by
  rw [withObj, Resumption.run_critical]
  cases p.objs.read obj with
  | none => rfl
  | some o =>
    dsimp only
    cases p.ctxs.read o.policyCtx with
    | none => rfl
    | some c =>
      dsimp only
      rw [Heap.modify_eq_self fun _ _ => rfl]

/-- A function that leaves a view of objects as it is. -/
theorem withObj_map {ρ β : Type} (default : ρ) (obj : ℕ)
    {f : SCFPolicyCtx → SCFPolicyObj → ρ × SCFPolicyObj} {v : SCFPolicyObj → β}
    (hf : ∀ c o, v (f c o).2 = v o) (p : Process) (i : ℕ) :
    (((withObj default obj f).run p).2.objs.read i).map (fun o => v o.obj) =
      (p.objs.read i).map fun o => v o.obj := by
  rw [withObj, Resumption.run_critical]
  cases p.objs.read obj with
  | none => rfl
  | some o =>
    dsimp only
    cases p.ctxs.read o.policyCtx with
    | none => rfl
    | some c =>
      show ((p.objs.modify obj _).read i).map _ = (p.objs.read i).map _
      rw [Heap.read_modify]
      split_ifs
      · cases p.objs.read i with
        | none => rfl
        | some o => exact congrArg some (hf c o.obj)
      · rfl

/-- `Close` shuts the transport, unless the connection is closed already. -/
theorem close_run (g : Globals) (env : ConnEnv) (conn : SCFConnectionImpl) (p : Process) :
    (conn.state = .closed ∨ conn.state = .closing) ∧
        (close g env conn).run p = ((.success, conn), p) ∨
      conn.state ≠ .closed ∧ conn.state ≠ .closing ∧
        ∃ ret, (close g env conn).run p =
          ((ret, { conn with state := .closed, handshakeDone := false }),
            p.atPtr conn.transport Process.shut) := by
  unfold close
  by_cases hclosed : (conn.state = .closed || conn.state = .closing) = true
  · rw [if_pos hclosed]
    refine .inl ⟨?_, rfl⟩
    simpa using hclosed
  rw [if_neg hclosed]
  simp only [Bool.or_eq_true, decide_eq_true_eq, not_or] at hclosed
  refine .inr ⟨hclosed.1, hclosed.2, ?_⟩
  have hshut : ∀ p, (forPtr conn.transport fun t => setTransport t .shut).run p =
      ((), p.atPtr conn.transport Process.shut) := forPtr_run (fun _ _ => rfl) conn.transport
  cases conn.policyObj with
  | none =>
    refine ⟨.success, ?_⟩
    rw [Resumption.run_bind, Resumption.run_done, Resumption.run_bind, hshut]
    rfl
  | some obj =>
    refine ⟨((withObj Errno.error obj fun _ o => (scfClose g env.shutdown o, o)).run p).1, ?_⟩
    rw [Resumption.run_bind, Resumption.run_bind, withObj_run_of_read, hshut]
    rfl

/-- A context after one of its references is dropped. -/
def SCFPolicyCtx.dropRef (c : SCFPolicyCtx) : Option SCFPolicyCtx :=
  if c.refCnt = 0 then some c
  else if c.refCnt > 1 then some { c with refCnt := c.refCnt - 1 }
  else none

theorem read_releaseCtx (ctx : ℕ) (p : Process) (i : ℕ) :
    (p.releaseCtx ctx).ctxs.read i =
      if ctx = i then (p.ctxs.read i).bind SCFPolicyCtx.dropRef else p.ctxs.read i := by
  unfold Process.releaseCtx
  cases hread : p.ctxs.read ctx with
  | none =>
    split_ifs with hi
    · rw [← hi, hread]
      rfl
    · rfl
  | some c =>
    by_cases hi : ctx = i
    · subst hi
      rw [if_pos rfl, hread]
      unfold SCFPolicyCtx.dropRef
      dsimp only [Option.bind_some]
      split_ifs
      · exact hread
      · show (p.ctxs.modify ctx _).read ctx = _
        rw [Heap.read_modify, if_pos rfl, hread]
        rfl
      · show (p.ctxs.free ctx).read ctx = _
        rw [Heap.read_free, if_pos rfl]
    · rw [if_neg hi]
      dsimp only
      split_ifs
      · rfl
      · show (p.ctxs.modify ctx _).read i = _
        rw [Heap.read_modify, if_neg hi]
      · show (p.ctxs.free ctx).read i = _
        rw [Heap.read_free, if_neg hi]

theorem releaseCtx_shut (ctx t : ℕ) (p : Process) :
    (p.shut t).releaseCtx ctx = (p.releaseCtx ctx).shut t := by
  unfold Process.releaseCtx Process.shut
  dsimp only
  cases p.ctxs.read ctx with
  | none => rfl
  | some c =>
    dsimp only
    split_ifs <;> rfl

theorem dropCtx_shut (g : Globals) (ctx t : ℕ) (p : Process) :
    (p.shut t).dropCtx g ctx = (p.dropCtx g ctx).shut t := by
  unfold Process.dropCtx
  split_ifs
  · rfl
  · exact releaseCtx_shut ctx t p

theorem dropObj_shut (g : Globals) (obj t : ℕ) (p : Process) :
    (p.shut t).dropObj g obj = (p.dropObj g obj).shut t := by
  unfold Process.dropObj
  split_ifs
  · rfl
  · show (match p.objs.read obj with
      | none => p.shut t
      | some o => { (p.shut t).releaseCtx o.policyCtx with objs := p.objs.free obj }) = _
    cases p.objs.read obj with
    | none => rfl
    | some o =>
      dsimp only
      rw [releaseCtx_shut]
      rfl

theorem atPtr_shut {f : ℕ → Process → Process} (hf : ∀ i t p, f i (p.shut t) = (f i p).shut t)
    (ptr : Option ℕ) (t : ℕ) (p : Process) : (p.shut t).atPtr ptr f = (p.atPtr ptr f).shut t := by
  cases ptr with
  | none => rfl
  | some i => exact hf i t p

/-- What is freed need not have been closed before. -/
theorem dropTransport_shut (t : ℕ) (p : Process) :
    (p.shut t).dropTransport t = p.dropTransport t := by
  unfold Process.shut Process.dropTransport
  dsimp only
  rw [Heap.free_modify]

/-- Closing first makes no difference to what `Cleanup` leaves. -/
theorem released_shut (g : Globals) (conn : SCFConnectionImpl) (p : Process) :
    (p.atPtr conn.transport Process.shut).released g conn = p.released g conn := by
  unfold Process.released
  cases conn.transport with
  | none => rfl
  | some t =>
    show (((((p.shut t).atPtr conn.policyObj (Process.dropObj g)).atPtr conn.policyCtx
      (Process.dropCtx g)).dropTransport t).atPtr conn.ownEngine (Process.dropEngine g)) = _
    rw [atPtr_shut (dropObj_shut g), atPtr_shut (dropCtx_shut g), dropTransport_shut]
    rfl

/-- The part of `Cleanup` behind `Close`. -/
theorem cleanup_run_of_state {g : Globals} {env : ConnEnv} {conn : SCFConnectionImpl}
    (hstate : (conn.state = .connected || conn.state = .connecting) = false) (p : Process) :
    (cleanup g env conn).run p = (conn.released, p.released g conn) := by
  have hobj : ∀ p, (forPtr conn.policyObj fun obj => freePolicyObj g obj).run p =
      ((), p.atPtr conn.policyObj (Process.dropObj g)) := by
    refine forPtr_run (fun obj p => ?_) conn.policyObj
    rw [freePolicyObj, Resumption.run_critical, Process.dropObj]
    split_ifs
    · rfl
    · cases p.objs.read obj <;> rfl
  have hctx : ∀ p, (forPtr conn.policyCtx fun ctx => freePolicyCtx g ctx).run p =
      ((), p.atPtr conn.policyCtx (Process.dropCtx g)) := by
    refine forPtr_run (fun ctx p => ?_) conn.policyCtx
    rw [freePolicyCtx, Resumption.run_critical, Process.dropCtx]
    split_ifs <;> rfl
  have htransport : ∀ p, (forPtr conn.transport fun t => freeTransport t).run p =
      ((), p.atPtr conn.transport Process.dropTransport) := forPtr_run (fun _ _ => rfl) _
  unfold cleanup
  rw [hstate]
  simp only [Bool.false_eq_true, if_false, Resumption.run_bind, Resumption.run_done, hobj, hctx,
    htransport]
  unfold Process.released SCFConnectionImpl.released SCFConnectionImpl.ownEngine
  rw [hstate]
  cases hengine : conn.cryptoEngine with
  | none => simp [Process.atPtr]
  | some e =>
    by_cases howns : conn.ownsCryptoEngine = true
    · cases hadaptor : g.adaptor <;>
        simp [howns, Process.atPtr, Process.dropEngine, Resumption.run_bind, setCryptoEngine,
          freeEngine, hadaptor]
    · simp [Process.atPtr, howns]

/-- `Cleanup` releases everything that the connection has. -/
theorem cleanup_run (g : Globals) (env : ConnEnv) (conn : SCFConnectionImpl) (p : Process) :
    (cleanup g env conn).run p = (conn.released, p.released g conn) := by
  cases hstate : (conn.state = .connected || conn.state = .connecting : Bool) with
  | false => exact cleanup_run_of_state hstate p
  | true =>
    have hopen : conn.state ≠ .closed ∧ conn.state ≠ .closing := by
      rcases (by simpa using hstate : conn.state = .connected ∨ conn.state = .connecting) with
        h | h <;> simp [h]
    rcases close_run g env conn p with ⟨hclosed, -⟩ | ⟨-, -, ret, hclose⟩
    · exact absurd hclosed (not_or.mpr hopen)
    have hrest : (cleanup g env conn).run p =
        (cleanup g env { conn with state := .closed, handshakeDone := false }).run
          (p.atPtr conn.transport Process.shut) := by
      unfold cleanup
      rw [hstate, if_pos rfl, Resumption.run_bind, hclose]
      rfl
    have hconn : SCFConnectionImpl.released { conn with state := .closed, handshakeDone := false } =
        conn.released := by
      unfold SCFConnectionImpl.released
      rw [hstate]
      simp
    rw [hrest, cleanup_run_of_state rfl, hconn]
    exact congrArg _ (released_shut g conn p)

/-! ### Calls of the system -/

/-- The pointers that the connections keep. -/
def System.held (f : SCFConnectionImpl → Option ℕ) (s : System) (i : ℕ) : Option ℕ :=
  (s.conns.read i).bind f

/-- Behind a function on the memory there is only the answer. -/
theorem answering_run {ρ : Type} {r : Resumption Process ρ} {k : ρ → ConnAnswer × SCFConnectionImpl}
    {p p' : Process} {answer : ConnAnswer} {conn' : SCFConnectionImpl}
    (h : (r.bind fun x => .done (k x)).run p = ((answer, conn'), p')) :
    (k (r.run p).1).2 = conn' ∧ (r.run p).2 = p' := by
  rw [Resumption.run_bind] at h
  obtain ⟨hpair, hp⟩ := Prod.mk.inj h
  exact ⟨congrArg Prod.snd hpair, hp⟩

theorem returning_run {r : Resumption Process (Errno × SCFConnectionImpl)} {p p' : Process}
    {answer : ConnAnswer} {conn' : SCFConnectionImpl}
    (h : (returning r).run p = ((answer, conn'), p')) :
    ∃ ret, r.run p = ((ret, conn'), p') := by
  rw [returning, Resumption.run_bind] at h
  generalize r.run p = out at h
  obtain ⟨⟨ret, conn''⟩, p''⟩ := out
  obtain ⟨hpair, rfl⟩ := Prod.mk.inj h
  obtain ⟨-, rfl⟩ := Prod.mk.inj hpair
  exact ⟨ret, rfl⟩

section System

variable {i : ℕ} {s : System} {conn : SCFConnectionImpl}

theorem onConn_eq_none (h : s.conns.read i = none)
    (f : SCFConnectionImpl → Resumption Process (ConnAnswer × SCFConnectionImpl)) :
    s.onConn i f = ((none, none), s) := by
  unfold System.onConn
  rw [h]

theorem onConn_eq {f : SCFConnectionImpl → Resumption Process (ConnAnswer × SCFConnectionImpl)}
    (h : s.conns.read i = some conn) {answer : ConnAnswer} {conn' : SCFConnectionImpl}
    {p' : Process} (hrun : (f conn).run s.process = ((answer, conn'), p')) :
    s.onConn i f = (answer, ⟨p', s.conns.modify i fun _ => conn'⟩) := by
  unfold System.onConn
  rw [h]
  dsimp only
  rw [hrun]

theorem deleteConn_eq_none (h : s.conns.read i = none) (g : Globals) (env : ConnEnv) :
    s.deleteConn i g env = ((none, none), s) := by
  unfold System.deleteConn
  rw [h]

theorem deleteConn_eq (h : s.conns.read i = some conn) (g : Globals) (env : ConnEnv) :
    s.deleteConn i g env = ((none, none), ⟨s.process.released g conn, s.conns.free i⟩) := by
  unfold System.deleteConn
  rw [h]
  dsimp only
  rw [cleanup_run]

theorem acceptOn_eq_none (h : s.conns.read i = none) (g : Globals) (env : ConnEnv) :
    s.acceptOn i g env = ((none, none), s) := by
  unfold System.acceptOn
  rw [h]

theorem acceptOn_eq (h : s.conns.read i = some conn) {g : Globals} {env : ConnEnv}
    {child : Option SCFConnectionImpl} {p' : Process}
    (hrun : (accept g env conn).run s.process = (child, p')) :
    s.acceptOn i g env = { s with process := p' }.addConn child := by
  unfold System.acceptOn
  rw [h]
  dsimp only
  rw [hrun]

end System

end Scf
