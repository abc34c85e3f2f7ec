import ScfSecurity.Connection.Opening

/-!
# What the calls do to the connections of a process

Of what a call does, most does not matter to the life of the things that connections hold: a
connection that is used or closed keeps its pointers, and what they refer to stays alive.
`CallOutcome` lists what is left.

## Main definitions

- `SameHoldings`, `Calm`: pointers of a connection, and what is alive, stay as they are
- `CallOutcome`: how a call changes connections and memory

## Main results

- `connCall_outcome`: every call does one of these
-/

namespace Scf

open Automaton

/-- Both have the same pointers. -/
structure SameHoldings (conn conn' : SCFConnectionImpl) : Prop where
  policyCtx : conn'.policyCtx = conn.policyCtx
  policyObj : conn'.policyObj = conn.policyObj
  transport : conn'.transport = conn.transport
  cryptoEngine : conn'.cryptoEngine = conn.cryptoEngine
  ownsCryptoEngine : conn'.ownsCryptoEngine = conn.ownsCryptoEngine

theorem SameHoldings.refl (conn : SCFConnectionImpl) : SameHoldings conn conn :=
  ⟨rfl, rfl, rfl, rfl, rfl⟩

theorem shaken_sameHoldings (ret : Errno) (version : String) (conn : SCFConnectionImpl) :
    SameHoldings conn (conn.shaken ret version) := by
  unfold SCFConnectionImpl.shaken
  split_ifs <;> exact ⟨rfl, rfl, rfl, rfl, rfl⟩

/-- Nothing is created or freed, and no reference to a context changes. -/
structure Calm (p p' : Process) : Prop where
  engines : p'.engines = p.engines
  adaptorEngine : p'.adaptorEngine = p.adaptorEngine
  transportSize : p'.transports.size = p.transports.size
  transports : ∀ i, p'.transports.read i = none ↔ p.transports.read i = none
  ctxSize : p'.ctxs.size = p.ctxs.size
  ctxs : ∀ i, (p'.ctxs.read i).map SCFPolicyCtx.essence = (p.ctxs.read i).map SCFPolicyCtx.essence
  objSize : p'.objs.size = p.objs.size
  objs : ∀ i, (p'.objs.read i).map BoundObj.policyCtx = (p.objs.read i).map BoundObj.policyCtx

theorem Calm.refl (p : Process) : Calm p p :=
  ⟨rfl, rfl, rfl, fun _ => Iff.rfl, rfl, fun _ => rfl, rfl, fun _ => rfl⟩

theorem Quiet.calm {obj : ℕ} {p p' : Process} (h : Quiet obj p p') : Calm p p' :=
  ⟨h.engines, h.adaptorEngine, by rw [h.transports], fun i => by rw [h.transports], h.ctxSize,
    h.ctxs, h.objSize, h.objs⟩

theorem shut_calm (t : ℕ) (p : Process) : Calm p (p.shut t) :=
  ⟨rfl, rfl, Heap.size_modify _ _ _, fun _ => Heap.read_modify_eq_none_iff, rfl, fun _ => rfl, rfl,
    fun _ => rfl⟩

/-- A call of the policy interface on the object of a connection. -/
theorem withObj_calm {ρ : Type} (default : ρ) (obj : ℕ)
    (f : SCFPolicyCtx → SCFPolicyObj → ρ × SCFPolicyObj) (p : Process) :
    Calm p ((withObj default obj f).run p).2 :=
  (quiet_run (withObj_quiet default obj f) p).calm

theorem connectionWrite_calm (call : WriteCall) (conn : SCFConnectionImpl) (p : Process) :
    Calm p ((connectionWrite call conn).run p).2 := by
  unfold connectionWrite
  cases conn.policyObj with
  | none => exact .refl p
  | some obj =>
    dsimp only
    split_ifs
    · exact .refl p
    · exact withObj_calm _ obj _ p

theorem triggerKeyUpdate_calm (g : Globals) (env : KeyUpdateEnv) (conn : SCFConnectionImpl)
    (p : Process) : Calm p ((triggerKeyUpdate g env conn).run p).2 := by
  unfold triggerKeyUpdate
  cases conn.policyObj with
  | none => exact .refl p
  | some obj => exact withObj_calm _ obj _ p

theorem setUserData_calm (g : Globals) (userData : Option Address) (conn : SCFConnectionImpl)
    (p : Process) :
    ∃ p', (setUserData g userData conn).run p = ({ conn with userData }, p') ∧ Calm p p' := by
  unfold setUserData forPtr
  rw [Resumption.run_bind]
  refine ⟨_, rfl, ?_⟩
  cases conn.policyObj with
  | none => exact .refl p
  | some obj =>
    dsimp only
    rw [Resumption.run_bind]
    exact withObj_calm _ obj _ p

theorem HandshakeStepOutcome.calm {g : Globals} {env : ConnEnv} {conn conn' : SCFConnectionImpl}
    {p p' : Process} {ret : Errno} (h : HandshakeStepOutcome g env conn p ((ret, conn'), p')) :
    SameHoldings conn conn' ∧ Calm p p' := by
  cases h with
  | noObj h => exact ⟨.refl conn, .refl p⟩
  | dangling h hread => exact ⟨shaken_sameHoldings _ _ conn, .refl p⟩
  | done h hread hp hread' => exact ⟨shaken_sameHoldings _ _ conn, hp.calm⟩

theorem close_calm (g : Globals) (env : ConnEnv) (conn : SCFConnectionImpl) (p : Process) :
    ∃ ret conn' p', (close g env conn).run p = ((ret, conn'), p') ∧ SameHoldings conn conn' ∧
      Calm p p' := by
  rcases close_run g env conn p with ⟨-, hrun⟩ | ⟨-, -, ret, hrun⟩
  · exact ⟨_, _, _, hrun, .refl conn, .refl p⟩
  · refine ⟨_, _, _, hrun, ⟨rfl, rfl, rfl, rfl, rfl⟩, ?_⟩
    cases conn.transport with
    | none => exact .refl p
    | some t => exact shut_calm t p

/-- The place of the connection that a call is about; with `Accept` this is the new one. -/
def ConnCall.actor (s : System) : ConnCall → ℕ
  | create _ _ => s.conns.size
  | accept _ _ => s.conns.size
  | connect i _ => i
  | listen i _ => i
  | handshakeStep i _ => i
  | write i _ => i
  | triggerKeyUpdate i _ => i
  | setUserData i _ => i
  | close i _ => i
  | destroy i _ => i

/-- How a call changes the connections and the memory. -/
inductive CallOutcome (g : Globals) (s : System) : ConnCall → System → Prop
  -- there is no such connection, or no memory for a new one
  | idle {call : ConnCall} : CallOutcome g s call s
  | created {config : SCFConnectionConfig} :
      CallOutcome g s (.create config true)
        { s with conns := (s.conns.alloc (newConnection config)).2 }
  | connected {i : ℕ} {env : ConnEnv} {conn conn' : SCFConnectionImpl} {ret : Errno} {p' : Process}
      (hread : s.conns.read i = some conn)
      (h : ConnectOutcome g env conn s.process ((ret, conn'), p')) :
      CallOutcome g s (.connect i env) ⟨p', s.conns.modify i fun _ => conn'⟩
  | listened {i : ℕ} {env : ConnEnv} {conn conn' : SCFConnectionImpl} {ret : Errno} {p' : Process}
      (hread : s.conns.read i = some conn)
      (h : ListenOutcome g env conn s.process ((ret, conn'), p')) :
      CallOutcome g s (.listen i env) ⟨p', s.conns.modify i fun _ => conn'⟩
  | accepted {i : ℕ} {env : ConnEnv} {conn : SCFConnectionImpl} {child : Option SCFConnectionImpl}
      {p' : Process} (hread : s.conns.read i = some conn)
      (h : AcceptOutcome g env conn s.process (child, p')) :
      CallOutcome g s (.accept i env) ({ s with process := p' }.addConn child).2
  | used {call : ConnCall} {conn conn' : SCFConnectionImpl} {p' : Process}
      (hread : s.conns.read (call.actor s) = some conn) (hconn : SameHoldings conn conn')
      (hp : Calm s.process p') :
      CallOutcome g s call ⟨p', s.conns.modify (call.actor s) fun _ => conn'⟩
  | destroyed {i : ℕ} {env : ConnEnv} {conn : SCFConnectionImpl}
      (hread : s.conns.read i = some conn) :
      CallOutcome g s (.destroy i env) ⟨s.process.released g conn, s.conns.free i⟩

/-- A function on one connection, by what it does to the connection. -/
theorem onConn_outcome {g : Globals} {s : System} {call : ConnCall} {i : ℕ}
    {f : SCFConnectionImpl → Resumption Process (ConnAnswer × SCFConnectionImpl)}
    (hf : ∀ conn answer conn' p', s.conns.read i = some conn →
      (f conn).run s.process = ((answer, conn'), p') →
      CallOutcome g s call ⟨p', s.conns.modify i fun _ => conn'⟩) :
    CallOutcome g s call (s.onConn i f).2 := by
  cases hread : s.conns.read i with
  | none =>
    rw [onConn_eq_none hread]
    exact .idle
  | some conn =>
    rcases hrun : (f conn).run s.process with ⟨⟨answer, conn'⟩, p'⟩
    rw [onConn_eq hread hrun]
    exact hf conn answer conn' p' hread hrun

/-- A function that leaves its connection as it is. -/
theorem onConn_used {ρ : Type} {g : Globals} {s : System} {call : ConnCall}
    {f : SCFConnectionImpl → Resumption Process ρ}
    (hf : ∀ conn, Calm s.process ((f conn).run s.process).2) (answer : ρ → ConnAnswer) :
    CallOutcome g s call
      (s.onConn (call.actor s) fun conn => (f conn).bind fun r => .done (answer r, conn)).2 := by
  refine onConn_outcome fun conn ans conn' p' hread hrun => ?_
  obtain ⟨rfl, rfl⟩ := answering_run hrun
  exact .used hread (.refl conn) (hf conn)

/-- **Inversion lemma** for the calls on connections. -/
theorem connCall_outcome (g : Globals) (s : System) (call : ConnCall) :
    CallOutcome g s call (call.apply g s).2 := by
  cases call with
  | create config allocOk =>
    cases allocOk with
    | false => exact .idle
    | true => exact .created
  | connect i env =>
    refine onConn_outcome fun conn answer conn' p' hread hrun => ?_
    obtain ⟨ret, hrun⟩ := returning_run hrun
    have hout := connect_outcome g env conn s.process
    rw [hrun] at hout
    exact .connected hread hout
  | listen i env =>
    refine onConn_outcome fun conn answer conn' p' hread hrun => ?_
    obtain ⟨ret, hrun⟩ := returning_run hrun
    have hout := listen_outcome g env conn s.process
    rw [hrun] at hout
    exact .listened hread hout
  | accept i env =>
    show CallOutcome g s (.accept i env) (s.acceptOn i g env).2
    cases hread : s.conns.read i with
    | none =>
      rw [acceptOn_eq_none hread]
      exact .idle
    | some conn =>
      rcases hrun : (accept g env conn).run s.process with ⟨child, p'⟩
      have hout := accept_outcome g env conn s.process
      rw [hrun] at hout
      rw [acceptOn_eq hread hrun]
      exact .accepted hread hout
  | handshakeStep i env =>
    refine onConn_outcome fun conn answer conn' p' hread hrun => ?_
    obtain ⟨ret, hrun⟩ := returning_run hrun
    have hout := handshakeStep_outcome g env conn s.process
    rw [hrun] at hout
    exact .used hread hout.calm.1 hout.calm.2
  | write i call => exact onConn_used (fun conn => connectionWrite_calm call conn s.process) _
  | triggerKeyUpdate i env =>
    exact onConn_used (fun conn => triggerKeyUpdate_calm g env conn s.process) _
  | setUserData i userData =>
    refine onConn_outcome fun conn answer conn' p' hread hrun => ?_
    obtain ⟨p₁, hrun₁, hcalm⟩ := setUserData_calm g userData conn s.process
    rw [Resumption.run_bind, hrun₁] at hrun
    obtain ⟨hpair, rfl⟩ := Prod.mk.inj hrun
    obtain ⟨-, rfl⟩ := Prod.mk.inj hpair
    exact .used hread ⟨rfl, rfl, rfl, rfl, rfl⟩ hcalm
  | close i env =>
    refine onConn_outcome fun conn answer conn' p' hread hrun => ?_
    obtain ⟨ret, hrun⟩ := returning_run hrun
    obtain ⟨ret', conn'', p'', hrun', hsame, hcalm⟩ := close_calm g env conn s.process
    rw [hrun] at hrun'
    obtain ⟨hpair, rfl⟩ := Prod.mk.inj hrun'
    obtain ⟨-, rfl⟩ := Prod.mk.inj hpair
    exact .used hread hsame hcalm
  | destroy i env =>
    show CallOutcome g s (.destroy i env) (s.deleteConn i g env).2
    cases hread : s.conns.read i with
    | none =>
      rw [deleteConn_eq_none hread]
      exact .idle
    | some conn =>
      rw [deleteConn_eq hread]
      exact .destroyed hread

/-! ### The pointers of the connections -/

section Held

variable {s s' : System} {i : ℕ} {conn : SCFConnectionImpl} {conn' : Option SCFConnectionImpl}

theorem held_eq (f : SCFConnectionImpl → Option ℕ) (h : s.conns.read i = some conn) :
    s.held f i = f conn := by
  rw [System.held, h]
  rfl

/-- One place has another connection, or none, and the others are the same. -/
structure Replaced (i : ℕ) (conn' : Option SCFConnectionImpl) (s s' : System) : Prop where
  self : s'.conns.read i = conn'
  others : ∀ j, j ≠ i → s'.conns.read j = s.conns.read j

theorem Replaced.refl (i : ℕ) (s : System) : Replaced i (s.conns.read i) s s :=
  ⟨rfl, fun _ _ => rfl⟩

theorem Replaced.held_eq (h : Replaced i conn' s s') (f : SCFConnectionImpl → Option ℕ) :
    s'.held f = Function.update (s.held f) i (conn'.bind f) := by
  funext j
  by_cases hj : j = i
  · rw [hj, Function.update_self, System.held, h.self]
  · rw [Function.update_of_ne hj, System.held, h.others j hj]
    rfl

theorem replaced_modify (hread : s.conns.read i = some conn) (conn₁ : SCFConnectionImpl)
    (p' : Process) : Replaced i (some conn₁) s ⟨p', s.conns.modify i fun _ => conn₁⟩ := by
  constructor
  · show (s.conns.modify i fun _ => conn₁).read i = some conn₁
    rw [Heap.read_modify, if_pos rfl, hread]
    rfl
  · intro j hj
    show (s.conns.modify i fun _ => conn₁).read j = _
    rw [Heap.read_modify, if_neg (Ne.symm hj)]

theorem replaced_free (p' : Process) : Replaced i none s ⟨p', s.conns.free i⟩ := by
  constructor
  · show (s.conns.free i).read i = none
    rw [Heap.read_free, if_pos rfl]
  · intro j hj
    show (s.conns.free i).read j = _
    rw [Heap.read_free, if_neg (Ne.symm hj)]

theorem replaced_addConn (p' : Process) (conn' : Option SCFConnectionImpl) :
    Replaced s.conns.size conn' s ({ s with process := p' }.addConn conn').2 := by
  cases conn' with
  | none => exact ⟨Heap.read_size s.conns, fun _ _ => rfl⟩
  | some conn =>
    constructor
    · show (s.conns.alloc conn).2.read s.conns.size = some conn
      rw [Heap.read_alloc, Heap.alloc_fst, if_pos rfl]
    · intro j hj
      show (s.conns.alloc conn).2.read j = _
      rw [Heap.read_alloc, Heap.alloc_fst, if_neg hj]

variable (f : SCFConnectionImpl → Option ℕ)

theorem held_modify (hread : s.conns.read i = some conn) (conn₁ : SCFConnectionImpl)
    (p' : Process) :
    System.held f ⟨p', s.conns.modify i fun _ => conn₁⟩ =
      Function.update (s.held f) i (f conn₁) :=
  (replaced_modify hread conn₁ p').held_eq f

theorem held_free (p' : Process) :
    System.held f ⟨p', s.conns.free i⟩ = Function.update (s.held f) i none :=
  (replaced_free p').held_eq f

theorem held_addConn (p' : Process) (conn' : Option SCFConnectionImpl) :
    ({ s with process := p' }.addConn conn').2.held f =
      Function.update (s.held f) s.conns.size (conn'.bind f) :=
  (replaced_addConn p' conn').held_eq f

end Held

end Scf
