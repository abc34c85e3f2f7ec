import ScfSecurity.Connection.Calls
import ScfSecurity.Connection.Locality
import ScfSecurity.Connection.NonBlocking

/-!
# What it means to be connected

A connection that says it is connected should have an open transport, and a handshake should have
succeeded on its object since it was closed for the last time. `HandshakeStep` does not look at the
state of the connection, and OpenSSL reports success for a handshake that has long been completed,
so that a closed connection can come back to life without a transport.

To say this, a history goes along with the connections: the object on which a handshake of each of
them has completed since its last `Close`.

## Main definitions

- `UserCall`, `connectedMachine`: the calls on connections, with the history
- `TrulyConnected`: connected connections have an open transport and a handshake behind them
- `SoundShake`: a handshake that will succeed has an open transport, and is not a repetition of one
  before `Close`
- `SlotStep`: one connection takes a step, or comes or goes

## Main results

- `connCall_slotStep`: what a call does is confined to one connection
- `trulyConnected_throughout_iff`: connected connections are truly connected throughout a run,
  exactly if all handshakes of the run are sound
-/

namespace Scf

open Automaton

/-- The calls on connections, with `Read`. -/
inductive UserCall where
  | conn (call : ConnCall)
  | read (conn : ℕ) (call : ReadCall)

def UserCall.apply (g : Globals) (s : System) : UserCall → ConnAnswer × System
  | conn call => call.apply g s
  | read i call => s.onConn i fun conn =>
    (connectionRead call conn).bind fun (ret, _) => .done ((some ret, none), conn)

/-- The call closes the connection. -/
def UserCall.closes (i : ℕ) : UserCall → Bool
  | conn (.close j _) => i = j
  | _ => false

/-- The TLS connection of the object has completed a handshake. -/
def SCFPolicyObj.finished (o : SCFPolicyObj) : Bool := o.sslCtx.any Ssl.initFinished

/-- There is such an object, and it has completed a handshake. -/
def Process.finished (obj : ℕ) (p : Process) : Bool :=
  (p.objs.read obj).any fun o => o.obj.finished

/-- The object of the last handshake, after a step that leaves the connection like this. -/
def recorded (p p' : Process) (conn' : SCFConnectionImpl) (shook : Option ℕ) : Option ℕ :=
  match conn'.policyObj with
  | none => shook
  | some obj => if p'.finished obj && !p.finished obj then some obj else shook

/-- The connections, and for each of them the object on which a handshake has completed since it
was closed for the last time. -/
abbrev History := System × (ℕ → Option ℕ)

def connectedMachine : Machine History (Globals × UserCall) ConnAnswer where
  initial s := s = ({}, fun _ => none)
  step s call :=
    let (answer, s') := call.2.apply call.1 s.1
    (answer, s', fun i =>
      let shook := if call.2.closes i then none else s.2 i
      match s'.conns.read i with
      | none => shook
      | some conn => recorded s.1.process s'.process conn shook)

/-- The connection has a transport, and it is open. -/
def TransportOpen (p : Process) (conn : SCFConnectionImpl) : Prop :=
  ∃ t transport, conn.transport = some t ∧ p.transports.read t = some transport ∧
    transport.isOpen = true

/-- `IsConnected`. -/
def SCFConnectionImpl.isConnected (conn : SCFConnectionImpl) : Bool :=
  conn.state = .connected && conn.handshakeDone

/-- In the state `CONNECTED` the transport exists and is open, and a handshake has completed on the
object of the connection since the last `Close`. -/
def TrulyConnected (s : History) : Prop :=
  ∀ i conn, s.1.conns.read i = some conn → conn.state = .connected →
    TransportOpen s.1.process conn ∧ ∃ obj, conn.policyObj = some obj ∧ s.2 i = some obj

/-- The TLS library gets to see the handshake, and reports success. -/
structure TlsSucceeds (g : Globals) (env : ConnEnv) (conn : SCFConnectionImpl) (o : SCFPolicyObj) :
    Prop where
  init : g.scfInitialized = true
  ssl : o.sslCtx ≠ none
  role : o.role = handshakeRole conn.isServer
  success : ∃ version, env.handshake = .success version

/-- A handshake that succeeds has an open transport; and if the object has completed a handshake
before, then the connection still knows about it. -/
def SoundShake (s : History) (call : Globals × UserCall) : Prop :=
  ∀ i env conn obj o, call.2 = .conn (.handshakeStep i env) → s.1.conns.read i = some conn →
    conn.policyObj = some obj → s.1.process.objs.read obj = some o →
    TlsSucceeds call.1 env conn o.obj →
    TransportOpen s.1.process conn ∧ (o.obj.finished = true → conn.handshakeDone = true)

/-! ### Handshakes on objects -/

theorem handshakeRole_ne (isServer : Bool) : handshakeRole isServer ≠ .none := by
  cases isServer <;> decide

theorem handshakeOn_success_iff (g : Globals) (env : ConnEnv) (conn : SCFConnectionImpl)
    (o : SCFPolicyObj) :
    (handshakeOn g conn.isServer env.handshake o).1 = .success ↔ TlsSucceeds g env conn o := by
  unfold handshakeOn
  by_cases hnone : o.role = .none
  · rw [if_pos hnone]
    refine iff_of_false (show Errno.nullInput ≠ .success by decide) fun h => ?_
    exact handshakeRole_ne conn.isServer (h.role.symm.trans hnone)
  rw [if_neg hnone]
  cases hinit : g.scfInitialized with
  | false =>
    refine iff_of_false (show Errno.notInit ≠ .success by decide) fun h => ?_
    exact absurd (hinit.symm.trans h.init) (by decide)
  | true =>
    show (adaptorHandshake (handshakeRole conn.isServer) env.handshake o).1 = .success ↔ _
    unfold adaptorHandshake
    cases hssl : o.sslCtx with
    | none => exact iff_of_false (show Errno.nullInput ≠ .success by decide) fun h => h.ssl hssl
    | some ssl =>
      by_cases hrole : o.role = handshakeRole conn.isServer
      · cases hshake : env.handshake with
        | success version => simpa [hrole] using
            (⟨hinit, by simp [hssl], hrole, version, hshake⟩ : TlsSucceeds g env conn o)
        | failure errorCode =>
          refine iff_of_false ?_ fun h => ?_
          rotate_left
          · obtain ⟨version, hversion⟩ := h.success
            exact absurd (hshake.symm.trans hversion) (by simp)
          simpa [hrole] using handleTransPortError_ne_success errorCode
      · refine iff_of_false ?_ fun h => hrole h.role
        simp [hrole]

/-- A successful handshake is completed; any other leaves the object as it was. -/
theorem handshakeOn_finished (g : Globals) (isServer : Bool) (outcome : HandshakeOutcome)
    (o : SCFPolicyObj) :
    ((handshakeOn g isServer outcome o).1 = .success →
      (handshakeOn g isServer outcome o).2.finished = true) ∧
    ((handshakeOn g isServer outcome o).1 ≠ .success →
      (handshakeOn g isServer outcome o).2.finished = o.finished) := by
  unfold handshakeOn
  split_ifs
  · exact ⟨nofun, fun _ => rfl⟩
  · exact ⟨nofun, fun _ => rfl⟩
  · unfold adaptorHandshake
    cases hssl : o.sslCtx with
    | none => exact ⟨nofun, fun _ => rfl⟩
    | some ssl =>
      dsimp only
      split_ifs
      · exact ⟨nofun, fun _ => rfl⟩
      · cases outcome with
        | success => exact ⟨fun _ => rfl, fun h => absurd rfl h⟩
        | failure errorCode =>
          refine ⟨fun h => absurd h (handleTransPortError_ne_success errorCode), fun _ => ?_⟩
          simp [SCFPolicyObj.finished, hssl]

/-! ### One connection -/

/-- What holds of a connection and its history in every run. -/
structure Watched (p : Process) (shook : Option ℕ) (conn : SCFConnectionImpl) : Prop where
  notClosing : conn.state ≠ .closing
  closed : conn.state = .closed → conn.policyObj = none ∨ conn.handshakeDone = false
  -- of an object with a completed handshake the flag says whether it was before the last `Close`
  done : ∀ obj, conn.policyObj = some obj → p.finished obj = true →
    (conn.handshakeDone = true ↔ shook = some obj)
  connected : conn.state = .connected →
    TransportOpen p conn ∧ ∃ obj, conn.policyObj = some obj ∧ shook = some obj

/-- Without an object there is nothing to say about a closed connection. -/
theorem watched_of_no_obj {conn : SCFConnectionImpl} (hobj : conn.policyObj = none)
    (hclosing : conn.state ≠ .closing) (hconnected : conn.state ≠ .connected) (p : Process)
    (shook : Option ℕ) : Watched p shook conn := by
  refine ⟨hclosing, fun _ => .inl hobj, fun obj hsome => ?_, fun h => absurd h hconnected⟩
  rw [hobj] at hsome
  cases hsome

theorem watched_released (conn : SCFConnectionImpl) (p : Process) (shook : Option ℕ) :
    Watched p shook conn.released :=
  watched_of_no_obj rfl (show SCFConnectionState.closed ≠ .closing by decide)
    (show SCFConnectionState.closed ≠ .connected by decide) p shook

/-- The same object in another state of the connection that does not count as connected. -/
theorem Watched.setState {p p' : Process} {shook : Option ℕ} {conn conn' : SCFConnectionImpl}
    (h : Watched p shook conn) (hobj : conn'.policyObj = conn.policyObj)
    (hdone : conn'.handshakeDone = conn.handshakeDone)
    (hfinished : ∀ obj, conn.policyObj = some obj → p'.finished obj = p.finished obj)
    (hclosing : conn'.state ≠ .closing) (hclosed : conn'.state ≠ .closed)
    (hconnected : conn'.state ≠ .connected) : Watched p' shook conn' := by
  refine ⟨hclosing, fun h => absurd h hclosed, fun obj hsome hfin => ?_,
    fun h => absurd h hconnected⟩
  rw [hobj] at hsome
  rw [hfinished obj hsome] at hfin
  rw [hdone]
  exact h.done obj hsome hfin

/-- Transport and object of the connection are as they were. -/
theorem Watched.frame {p p' : Process} {shook : Option ℕ} {conn : SCFConnectionImpl}
    (h : Watched p shook conn)
    (htransport : ∀ t, conn.transport = some t → p'.transports.read t = p.transports.read t)
    (hfinished : ∀ obj, conn.policyObj = some obj → p'.finished obj = p.finished obj) :
    Watched p' shook conn := by
  refine ⟨h.notClosing, h.closed, fun obj hsome hfin => ?_, fun hconnected => ?_⟩
  · rw [hfinished obj hsome] at hfin
    exact h.done obj hsome hfin
  · obtain ⟨⟨t, transport, ht, hread, hopen⟩, hshook⟩ := h.connected hconnected
    exact ⟨⟨t, transport, ht, (htransport t ht).trans hread, hopen⟩, hshook⟩

/-- Without a new handshake the history stays. -/
theorem recorded_same {p p' : Process} {conn' : SCFConnectionImpl} {shook : Option ℕ}
    (h : ∀ obj, conn'.policyObj = some obj → p'.finished obj = p.finished obj) :
    recorded p p' conn' shook = shook := by
  unfold recorded
  cases hobj : conn'.policyObj with
  | none => rfl
  | some obj =>
    dsimp only
    rw [h obj hobj]
    cases p.finished obj <;> rfl

theorem finished_eq_of_read {p p' : Process} {obj : ℕ}
    (h : p'.objs.read obj = p.objs.read obj) : p'.finished obj = p.finished obj := by
  unfold Process.finished
  rw [h]

/-- An object that has not been created has no handshake behind it. -/
theorem finished_of_size_le {p : Process} {obj : ℕ} (h : p.objs.size ≤ obj) :
    p.finished obj = false := by
  have hread : p.objs.read obj = none := by
    by_contra hne
    have := Heap.lt_size_of_read hne
    omega
  rw [Process.finished, hread]
  rfl

theorem finished_of_read {p : Process} {obj : ℕ} {o : BoundObj}
    (h : p.objs.read obj = some o) : p.finished obj = o.obj.finished := by
  rw [Process.finished, h]
  rfl

theorem Unshaken.finished {o : SCFPolicyObj} (h : Unshaken o) : o.finished = false := by
  unfold SCFPolicyObj.finished
  cases hssl : o.sslCtx with
  | none => rfl
  | some ssl => exact h ssl hssl

/-- A handshake on an object that is new to the history. -/
theorem HandshakeStepOutcome.watched_new {g : Globals} {env : ConnEnv}
    {conn conn' : SCFConnectionImpl} {p p' p₀ : Process} {ret : Errno} {obj : ℕ} {o : BoundObj}
    (h : HandshakeStepOutcome g env conn p ((ret, conn'), p')) (hobj : conn.policyObj = some obj)
    (hread : p.objs.read obj = some o) (hnew : p₀.finished obj = false)
    (hunshaken : o.obj.finished = false) (hopen : TransportOpen p conn) (shook : Option ℕ) :
    Watched p' (recorded p₀ p' conn' shook) conn' := by
  cases h with
  | noObj h => rw [hobj] at h; cases h
  | dangling h hdead =>
    obtain rfl := Option.some.inj (hobj.symm.trans h)
    rw [hread] at hdead
    cases hdead
  | @done obj' o' version p' h hread₁ hp hread' =>
    obtain rfl := Option.some.inj (hobj.symm.trans h)
    obtain rfl := Option.some.inj (hread.symm.trans hread₁)
    obtain ⟨hfin, hsame⟩ := handshakeOn_finished g conn.isServer env.handshake o.obj
    have hfinished := finished_of_read hread'
    generalize handshakeOn g conn.isServer env.handshake o.obj = out at *
    obtain ⟨ret, o'⟩ := out
    dsimp only at *
    by_cases hret : ret = .success
    · have hconn : conn.shaken ret version =
          { conn with handshakeDone := true, state := .connected, negotiatedVersion := version } :=
        if_pos hret
      have hrecorded : recorded p₀ p' (conn.shaken ret version) shook = some obj := by
        unfold recorded
        rw [shaken_policyObj, hobj]
        dsimp only
        rw [hfinished, hfin hret, hnew]
        rfl
      rw [hrecorded, hconn]
      refine ⟨nofun, nofun, fun obj' hobj' _ => ?_, fun _ => ⟨?_, obj, hobj, rfl⟩⟩
      · exact iff_of_true rfl (hobj.symm.trans hobj')
      · obtain ⟨t, transport, ht, htread, hisOpen⟩ := hopen
        exact ⟨t, transport, ht, by rw [hp.transports]; exact htread, hisOpen⟩
    · have hstate : (conn.shaken ret version).state = .connecting ∨
          (conn.shaken ret version).state = .error := by
        unfold SCFConnectionImpl.shaken
        rw [if_neg hret]
        split_ifs
        · exact .inl rfl
        · exact .inr rfl
      refine ⟨?_, ?_, fun obj' hobj' hfin' => ?_, ?_⟩
      · rcases hstate with h | h <;> simp [h]
      · rcases hstate with h | h <;> simp [h]
      · rw [shaken_policyObj] at hobj'
        obtain rfl := Option.some.inj (hobj.symm.trans hobj')
        rw [hfinished, hsame hret, hunshaken] at hfin'
        cases hfin'
      · rcases hstate with h | h <;> simp [h]

/-- `SetupPolicyContext` leaves the handshakes of older objects alone. -/
theorem SetupKeeps.finished {conn conn' : SCFConnectionImpl} {p p' : Process}
    (h : SetupKeeps conn conn' p p') {obj : ℕ} (hlt : obj < p.objs.size) :
    p'.finished obj = p.finished obj :=
  finished_eq_of_read (h.objs.others obj hlt nofun)

/-- A transport that has just been opened is open. -/
theorem TransportOutcome.transportOpen {env : ConnEnv} {opened : SCFConnectionState}
    {conn conn' : SCFConnectionImpl} {p p' : Process}
    (h : TransportOutcome env opened conn p ((.success, conn'), p')) : TransportOpen p' conn' := by
  cases h with
  | done h hopen =>
    refine ⟨p.transports.size, ⟨true, env.nativeHandle⟩, rfl, ?_, rfl⟩
    show (p.transports.alloc _).2.read _ = _
    rw [Heap.read_alloc, Heap.alloc_fst, if_pos rfl]

/-- A new object, and the handshake on it. -/
theorem ObjOutcome.watched {g : Globals} {env : ConnEnv} {conn conn₁ conn' : SCFConnectionImpl}
    {ctx : ℕ} {c : SCFPolicyCtx} {p p₁ p' p₀ : Process} {ret : Errno}
    (h : ObjOutcome g env conn ctx c p ((.success, conn₁), p₁))
    (hshake : HandshakeStepOutcome g env conn₁ p₁ ((ret, conn'), p'))
    (hopen : TransportOpen p conn) (hsize : p₀.objs.size ≤ p.objs.size) (shook : Option ℕ) :
    Watched p' (recorded p₀ p' conn' shook) conn' := by
  cases h with
  | created h hret hwants ho =>
    refine hshake.watched_new rfl (read_bindObj ctx c _ p) (finished_of_size_le hsize)
      ho.unshaken.finished ?_ shook
    exact hopen

/-- Behind `SetupPolicyContext`, with the old object, a connection is not connected. -/
theorem SetupKeeps.watched {conn conn₁ conn₂ : SCFConnectionImpl} {p p₁ p₂ : Process}
    {shook : Option ℕ} (hkeeps : SetupKeeps conn conn₁ p p₁) (hw : Watched p shook conn)
    (hlt : ∀ obj, conn.policyObj = some obj → obj < p.objs.size) (hobjs : p₂.objs = p₁.objs)
    (hobj : conn₂.policyObj = conn₁.policyObj)
    (hdone : conn₂.handshakeDone = conn₁.handshakeDone)
    (hstate : conn₂.state = .error ∨ conn₂.state = .init) :
    Watched p₂ (recorded p p₂ conn₂ shook) conn₂ := by
  have hfinished : ∀ obj, conn.policyObj = some obj → p₂.finished obj = p.finished obj := by
    intro obj hobj
    rw [← hkeeps.finished (hlt obj hobj), Process.finished, hobjs]
    rfl
  have hobj' := hobj.trans hkeeps.policyObj
  rw [recorded_same fun obj hsome => hfinished obj (hobj'.symm.trans hsome)]
  refine hw.setState hobj' (hdone.trans hkeeps.handshakeDone) hfinished ?_ ?_ ?_
  · rcases hstate with h | h <;> simp [h]
  · rcases hstate with h | h <;> simp [h]
  · rcases hstate with h | h <;> simp [h]

theorem ConnectOutcome.watched {g : Globals} {env : ConnEnv} {conn conn' : SCFConnectionImpl}
    {p p' : Process} {ret : Errno} {shook : Option ℕ}
    (h : ConnectOutcome g env conn p ((ret, conn'), p')) (hw : Watched p shook conn)
    (hlt : ∀ obj, conn.policyObj = some obj → obj < p.objs.size) :
    Watched p' (recorded p p' conn' shook) conn' := by
  cases h with
  | notSetUp hret hsetup => exact hsetup.keeps.watched hw hlt rfl rfl rfl (.inl rfl)
  | noTransport hsetup hret htransport => exact watched_released _ _ _
  | noObj hsetup htransport hctx hread hconf hret hobj => exact watched_released _ _ _
  | handshake hsetup htransport hctx hread hconf hobj hshake =>
    refine hobj.watched hshake htransport.transportOpen ?_ shook
    rw [htransport.objs.1]
    exact hsetup.keeps.objs.size_le

theorem ListenOutcome.watched {g : Globals} {env : ConnEnv} {conn conn' : SCFConnectionImpl}
    {p p' : Process} {ret : Errno} {shook : Option ℕ}
    (h : ListenOutcome g env conn p ((ret, conn'), p')) (hw : Watched p shook conn)
    (hlt : ∀ obj, conn.policyObj = some obj → obj < p.objs.size) :
    Watched p' (recorded p p' conn' shook) conn' := by
  cases h with
  | notSetUp hret hsetup => exact hsetup.keeps.watched hw hlt rfl rfl rfl (.inl rfl)
  | noTransport hsetup hret htransport =>
    obtain ⟨hobjs, hobj, hdone⟩ := htransport.objs
    exact hsetup.keeps.watched hw hlt hobjs hobj hdone (.inl rfl)
  | done hsetup htransport =>
    cases htransport with
    | done h hopen => exact hsetup.keeps.watched hw hlt rfl rfl rfl (.inr rfl)

theorem AcceptOutcome.watched {g : Globals} {env : ConnEnv} {conn conn' : SCFConnectionImpl}
    {p p' : Process} (h : AcceptOutcome g env conn p (some conn', p')) (shook : Option ℕ) :
    Watched p' (recorded p p' conn' shook) conn' := by
  cases h with
  | child hreach h =>
    cases h with
    | @handshake ret conn₁ conn₂ conn₃ p₁ p₂ p₃ ctx c hsetup hctx hread hobj hret hshake =>
      have hkeeps := hsetup.keeps
      obtain ⟨-, hobjs, htransports, -⟩ := atPtr_inject g conn.cryptoEngine
        (p.addTransport ⟨true, env.nativeHandle⟩)
      refine hobj.watched hshake ?_ ?_ shook
      · refine ⟨p.transports.size, ⟨true, env.nativeHandle⟩, hkeeps.transport, ?_, rfl⟩
        rw [hkeeps.transports, htransports]
        show (p.transports.alloc _).2.read _ = _
        rw [Heap.read_alloc, Heap.alloc_fst, if_pos rfl]
      · have hsize := hkeeps.objs.size_le
        rw [hobjs] at hsize
        exact hsize

/-- A `HandshakeStep` whose success is sound. -/
theorem HandshakeStepOutcome.watched {g : Globals} {env : ConnEnv}
    {conn conn' : SCFConnectionImpl} {p p' : Process} {ret : Errno} {shook : Option ℕ}
    (h : HandshakeStepOutcome g env conn p ((ret, conn'), p')) (hw : Watched p shook conn)
    (hsound : ∀ obj o, conn.policyObj = some obj → p.objs.read obj = some o →
      TlsSucceeds g env conn o.obj →
      TransportOpen p conn ∧ (o.obj.finished = true → conn.handshakeDone = true)) :
    Watched p' (recorded p p' conn' shook) conn' := by
  cases h with
  | noObj h =>
    rw [recorded_same fun _ _ => rfl]
    exact hw
  | dangling h hread =>
    rw [recorded_same fun _ _ => rfl]
    exact hw.setState rfl rfl (fun _ _ => rfl) nofun nofun nofun
  | @done obj o version p' h hread hp hread' =>
    have hsound := hsound obj o h hread
    rw [← handshakeOn_success_iff] at hsound
    have hbefore := finished_of_read hread
    have hafter := finished_of_read hread'
    obtain ⟨hfin, hsame⟩ := handshakeOn_finished g conn.isServer env.handshake o.obj
    generalize handshakeOn g conn.isServer env.handshake o.obj = out at *
    obtain ⟨ret, o'⟩ := out
    dsimp only at *
    by_cases hret : ret = .success
    · obtain ⟨⟨t, transport, ht, htread, hopen⟩, hagain⟩ := hsound hret
      have hconn : conn.shaken ret version =
          { conn with handshakeDone := true, state := .connected, negotiatedVersion := version } :=
        if_pos hret
      have hrecorded : recorded p p' (conn.shaken ret version) shook = some obj := by
        unfold recorded
        rw [shaken_policyObj, h]
        dsimp only
        rw [hafter, hfin hret]
        cases hfinished : p.finished obj with
        | false => rfl
        | true => exact (hw.done obj h hfinished).mp (hagain (hbefore.symm.trans hfinished))
      rw [hrecorded, hconn]
      refine ⟨nofun, nofun, fun obj' hobj' _ => ?_, fun _ => ⟨?_, obj, h, rfl⟩⟩
      · exact iff_of_true rfl (h.symm.trans hobj')
      · exact ⟨t, transport, ht, by rw [hp.transports]; exact htread, hopen⟩
    · have hfinished : ∀ obj', conn.policyObj = some obj' →
          p'.finished obj' = p.finished obj' := by
        intro obj' hobj'
        obtain rfl := Option.some.inj (h.symm.trans hobj')
        rw [hafter, hsame hret, hbefore]
      rw [recorded_same fun obj' hobj' =>
        hfinished obj' ((shaken_policyObj ret version conn).symm.trans hobj')]
      unfold SCFConnectionImpl.shaken
      rw [if_neg hret]
      split_ifs
      · exact hw.setState rfl rfl hfinished nofun nofun nofun
      · exact hw.setState rfl rfl hfinished nofun nofun nofun

/-- `Close` ends the history of the connection. -/
theorem close_watched (g : Globals) (env : ConnEnv) {conn : SCFConnectionImpl} {p : Process}
    {shook : Option ℕ} (hw : Watched p shook conn) :
    let out := (close g env conn).run p
    Watched out.2 (recorded p out.2 out.1.2 none) out.1.2 := by
  rcases close_run g env conn p with ⟨hstate, hrun⟩ | ⟨-, -, ret, hrun⟩
  · have hclosed : conn.state = .closed := hstate.resolve_right hw.notClosing
    simp only [hrun]
    rw [recorded_same fun _ _ => rfl]
    refine ⟨hw.notClosing, hw.closed, fun obj hobj _ => ?_, fun h => ?_⟩
    · rcases hw.closed hclosed with hnone | hdone
      · rw [hnone] at hobj
        cases hobj
      · rw [hdone]
        exact iff_of_false nofun nofun
    · rw [hclosed] at h
      cases h
  · have hobjs : (p.atPtr conn.transport Process.shut).objs = p.objs := by
      cases conn.transport <;> rfl
    have hfinished : ∀ obj,
        (p.atPtr conn.transport Process.shut).finished obj = p.finished obj := by
      intro obj
      rw [Process.finished, hobjs]
      rfl
    simp only [hrun]
    rw [recorded_same fun obj _ => hfinished obj]
    exact ⟨nofun, fun _ => .inr rfl, fun obj _ _ => iff_of_false nofun nofun, nofun⟩

/-! ### Calls that only use the object -/

/-- A function on objects that completes no handshake and undoes none. -/
theorem withObj_finished {ρ : Type} (default : ρ) (obj : ℕ)
    {f : SCFPolicyCtx → SCFPolicyObj → ρ × SCFPolicyObj}
    (hf : ∀ c o, (f c o).2.finished = o.finished) (p : Process) (i : ℕ) :
    ((withObj default obj f).run p).2.finished i = p.finished i := by
  have hmap := congrArg (Option.any id) (withObj_map default obj hf p i)
  rw [Option.any_map, Option.any_map] at hmap
  exact hmap

theorem keyUpdateFree_finished : KeyUpdateFree SCFPolicyObj.finished where
  setInfo _ _ := rfl
  keyUpdate o ssl hssl := by simp [SCFPolicyObj.finished, hssl, Ssl.keyUpdate]

theorem finished_take (bytes : List UInt8) (o : SCFPolicyObj) :
    (o.take bytes).finished = o.finished := by
  unfold SCFPolicyObj.take SCFPolicyObj.finished
  cases o.sslCtx <;> rfl

theorem finished_takePart (data : List UInt8) (n : ℕ) (o : SCFPolicyObj) :
    (o.takePart data n).finished = o.finished := by
  unfold SCFPolicyObj.takePart SCFPolicyObj.finished
  cases o.sslCtx <;> rfl

/-- A step that is quiet on the object of a connection and completes no handshake. -/
theorem Watched.quiet {p p' : Process} {shook : Option ℕ} {conn : SCFConnectionImpl}
    (hw : Watched p shook conn) (htransports : p'.transports = p.transports)
    (hfinished : ∀ obj, p'.finished obj = p.finished obj) :
    Watched p' (recorded p p' conn shook) conn := by
  rw [recorded_same fun obj _ => hfinished obj]
  refine hw.frame (fun t _ => ?_) fun obj _ => hfinished obj
  rw [htransports]

/-- Such a function of a connection is local, and the history stays. -/
def KeepsObj {ρ : Type} (conn : SCFConnectionImpl) (r : Resumption Process ρ) : Prop :=
  ∀ p, Local conn conn p (r.run p).2 ∧ (r.run p).2.transports = p.transports ∧
    ∀ obj, (r.run p).2.finished obj = p.finished obj

theorem keepsObj_done {ρ : Type} (conn : SCFConnectionImpl) (r : ρ) :
    KeepsObj conn (.done r) := fun p => ⟨.refl conn p, rfl, fun _ => rfl⟩

theorem keepsObj_withObj {ρ : Type} {conn : SCFConnectionImpl} {obj : ℕ}
    (hobj : conn.policyObj = some obj) (default : ρ)
    {f : SCFPolicyCtx → SCFPolicyObj → ρ × SCFPolicyObj}
    (hf : ∀ c o, (f c o).2.finished = o.finished) : KeepsObj conn (withObj default obj f) := by
  intro p
  have hquiet := quiet_run (withObj_quiet default obj f) p
  exact ⟨hquiet.isLocal hobj rfl rfl, hquiet.transports, withObj_finished default obj hf p⟩

theorem connectionWrite_keepsObj (call : WriteCall) (conn : SCFConnectionImpl) :
    KeepsObj conn (connectionWrite call conn) := by
  unfold connectionWrite
  cases hobj : conn.policyObj with
  | none => exact keepsObj_done conn _
  | some obj =>
    dsimp only
    split_ifs
    · exact keepsObj_done conn _
    · exact keepsObj_withObj hobj _
        (keyUpdateFree_finished.scfWrite finished_take finished_takePart _)

theorem connectionRead_keepsObj (call : ReadCall) (conn : SCFConnectionImpl) :
    KeepsObj conn (connectionRead call conn) := by
  unfold connectionRead
  cases hobj : conn.policyObj with
  | none => exact keepsObj_done conn _
  | some obj =>
    dsimp only
    split_ifs
    · exact keepsObj_done conn _
    · exact keepsObj_withObj hobj _ fun _ _ => rfl

theorem triggerKeyUpdate_keepsObj (g : Globals) (env : KeyUpdateEnv) (conn : SCFConnectionImpl) :
    KeepsObj conn (triggerKeyUpdate g env conn) := by
  unfold triggerKeyUpdate
  cases hobj : conn.policyObj with
  | none => exact keepsObj_done conn _
  | some obj =>
    exact keepsObj_withObj hobj _ fun _ => keyUpdateFree_finished.scfObjKeyUpdate g .valid env

theorem setUserData_run (g : Globals) (userData : Option Address) (conn : SCFConnectionImpl)
    (p : Process) :
    ∃ p', (setUserData g userData conn).run p = ({ conn with userData }, p') ∧
      Local conn conn p p' ∧ p'.transports = p.transports ∧
      ∀ obj, p'.finished obj = p.finished obj := by
  unfold setUserData
  rw [Resumption.run_bind]
  refine ⟨_, rfl, ?_⟩
  unfold forPtr
  cases hobj : conn.policyObj with
  | none => exact keepsObj_done conn () p
  | some obj =>
    have hset : ∀ (c : SCFPolicyCtx) (o : SCFPolicyObj),
        (scfSetUserData g userData o).2.finished = o.finished := by
      intro _ o
      unfold scfSetUserData
      split_ifs <;> rfl
    dsimp only
    rw [Resumption.run_bind]
    exact keepsObj_withObj hobj _ hset p

/-! ### What a call is confined to -/

/-- One connection takes a step, or comes or goes. -/
structure SlotStep (i : ℕ) (s s' : System) : Prop where
  others : ∀ j, j ≠ i → s'.conns.read j = s.conns.read j
  transports : Heap.Confined (s.held SCFConnectionImpl.transport i)
    (s'.held SCFConnectionImpl.transport i) s.process.transports s'.process.transports
  objs : Heap.Confined (s.held SCFConnectionImpl.policyObj i)
    (s'.held SCFConnectionImpl.policyObj i) s.process.objs s'.process.objs

theorem SlotStep.refl (i : ℕ) (s : System) : SlotStep i s s :=
  ⟨fun _ _ => rfl, .refl _ _, .refl _ _⟩

theorem SlotStep.held_eq {i : ℕ} {s s' : System} (h : SlotStep i s s')
    (f : SCFConnectionImpl → Option ℕ) :
    s'.held f = Function.update (s.held f) i (s'.held f i) :=
  Replaced.held_eq ⟨rfl, h.others⟩ f

section SlotStep

variable {g : Globals} {s s' : System} {i : ℕ} {conn' : Option SCFConnectionImpl}

/-- One connection is replaced by what it becomes, or by none. -/
theorem Replaced.slotStep (hrep : Replaced i conn' s s')
    (htransports : Heap.Confined (s.held SCFConnectionImpl.transport i)
      (conn'.bind SCFConnectionImpl.transport) s.process.transports s'.process.transports)
    (hobjs : Heap.Confined (s.held SCFConnectionImpl.policyObj i)
      (conn'.bind SCFConnectionImpl.policyObj) s.process.objs s'.process.objs) :
    SlotStep i s s' := by
  refine ⟨hrep.others, ?_, ?_⟩
  · rw [System.held.eq_def _ s', hrep.self]
    exact htransports
  · rw [System.held.eq_def _ s', hrep.self]
    exact hobjs

/-- A function on one connection that is local to it. -/
theorem onConn_slotStep
    {f : SCFConnectionImpl → Resumption Process (ConnAnswer × SCFConnectionImpl)}
    (hf : ∀ conn answer conn' p', (f conn).run s.process = ((answer, conn'), p') →
      Local conn conn' s.process p') : SlotStep i s (s.onConn i f).2 := by
  cases hread : s.conns.read i with
  | none =>
    rw [onConn_eq_none hread]
    exact .refl i s
  | some conn =>
    rcases hrun : (f conn).run s.process with ⟨⟨answer, conn'⟩, p'⟩
    have hlocal := hf conn answer conn' p' hrun
    rw [onConn_eq hread hrun]
    refine (replaced_modify hread conn' p').slotStep ?_ ?_
    · rw [held_eq _ hread]
      exact hlocal.transports
    · rw [held_eq _ hread]
      exact hlocal.objs

/-- A function that uses the object of its connection and returns. -/
theorem keepsObj_slotStep {ρ : Type} {f : SCFConnectionImpl → Resumption Process ρ}
    (hf : ∀ conn, KeepsObj conn (f conn)) (answer : ρ → ConnAnswer) :
    SlotStep i s (s.onConn i fun conn => (f conn).bind fun r => .done (answer r, conn)).2 := by
  refine onConn_slotStep fun conn ans conn' p' hrun => ?_
  obtain ⟨hlocal, -, -⟩ := hf conn s.process
  obtain ⟨rfl, rfl⟩ := answering_run hrun
  exact hlocal

theorem addConn_slotStep {p' : Process}
    (htransports : Heap.Confined none (conn'.bind SCFConnectionImpl.transport)
      s.process.transports p'.transports)
    (hobjs : Heap.Confined none (conn'.bind SCFConnectionImpl.policyObj) s.process.objs p'.objs) :
    SlotStep s.conns.size s ({ s with process := p' }.addConn conn').2 := by
  have hfresh : ∀ f : SCFConnectionImpl → Option ℕ, s.held f s.conns.size = none := by
    intro f
    rw [System.held, Heap.read_size]
    rfl
  have hprocess := addConn_process conn' { s with process := p' }
  refine (replaced_addConn p' conn').slotStep ?_ ?_
  · rw [hfresh, hprocess]
    exact htransports
  · rw [hfresh, hprocess]
    exact hobjs

/-- What a call does is confined to the connection it is about. -/
theorem connCall_slotStep (g : Globals) (s : System) (call : ConnCall) :
    SlotStep (call.actor s) s (call.apply g s).2 := by
  cases call with
  | create config allocOk =>
    cases allocOk with
    | false => exact .refl _ s
    | true =>
      have htransports : Heap.Confined none
          ((some (newConnection config)).bind SCFConnectionImpl.transport) s.process.transports
          s.process.transports := .refl _ _
      have hobjs : Heap.Confined none
          ((some (newConnection config)).bind SCFConnectionImpl.policyObj) s.process.objs
          s.process.objs := .refl _ _
      exact addConn_slotStep htransports hobjs
  | connect i env =>
    refine onConn_slotStep fun conn answer conn' p' hrun => ?_
    obtain ⟨ret, hrun⟩ := returning_run hrun
    have hout := connect_outcome g env conn s.process
    rw [hrun] at hout
    exact hout.isLocal
  | listen i env =>
    refine onConn_slotStep fun conn answer conn' p' hrun => ?_
    obtain ⟨ret, hrun⟩ := returning_run hrun
    have hout := listen_outcome g env conn s.process
    rw [hrun] at hout
    exact hout.isLocal
  | accept i env =>
    show SlotStep s.conns.size s (s.acceptOn i g env).2
    cases hread : s.conns.read i with
    | none =>
      rw [acceptOn_eq_none hread]
      exact .refl _ s
    | some conn =>
      rcases hrun : (accept g env conn).run s.process with ⟨child, p'⟩
      have hout := accept_outcome g env conn s.process
      rw [hrun] at hout
      rw [acceptOn_eq hread hrun]
      exact addConn_slotStep hout.confined.1 hout.confined.2
  | handshakeStep i env =>
    refine onConn_slotStep fun conn answer conn' p' hrun => ?_
    obtain ⟨ret, hrun⟩ := returning_run hrun
    have hout := handshakeStep_outcome g env conn s.process
    rw [hrun] at hout
    exact hout.isLocal
  | write i call => exact keepsObj_slotStep (connectionWrite_keepsObj call) _
  | triggerKeyUpdate i env => exact keepsObj_slotStep (triggerKeyUpdate_keepsObj g env) _
  | setUserData i userData =>
    refine onConn_slotStep fun conn answer conn' p' hrun => ?_
    obtain ⟨p₁, hrun₁, hlocal, -, -⟩ := setUserData_run g userData conn s.process
    rw [Resumption.run_bind, hrun₁] at hrun
    obtain ⟨hpair, rfl⟩ := Prod.mk.inj hrun
    obtain ⟨-, rfl⟩ := Prod.mk.inj hpair
    exact hlocal.congr rfl rfl rfl rfl
  | close i env =>
    refine onConn_slotStep fun conn answer conn' p' hrun => ?_
    obtain ⟨ret, hrun⟩ := returning_run hrun
    have hlocal := close_isLocal g env conn s.process
    rw [hrun] at hlocal
    exact hlocal
  | destroy i env =>
    show SlotStep i s (s.deleteConn i g env).2
    cases hread : s.conns.read i with
    | none =>
      rw [deleteConn_eq_none hread]
      exact .refl i s
    | some conn =>
      rw [deleteConn_eq hread]
      obtain ⟨ht, ho⟩ := released_confined g conn s.process
      refine (replaced_free _).slotStep ?_ ?_
      · rw [held_eq _ hread]
        exact ht
      · rw [held_eq _ hread]
        exact ho

end SlotStep

/-! ### All connections -/

/-- The connections work on different transports and objects, and each is watched. -/
structure AllWatched (s : History) : Prop where
  transports : Heap.Separate (s.1.held SCFConnectionImpl.transport) s.1.process.transports
  objs : Heap.Separate (s.1.held SCFConnectionImpl.policyObj) s.1.process.objs
  watched : ∀ i conn, s.1.conns.read i = some conn → Watched s.1.process (s.2 i) conn

theorem AllWatched.trulyConnected {s : History} (h : AllWatched s) : TrulyConnected s :=
  fun i conn hread hstate => (h.watched i conn hread).connected hstate

/-- The history after a step, where `shook` is the history without its handshakes. -/
def newHistory (s s' : System) (shook : ℕ → Option ℕ) (i : ℕ) : Option ℕ :=
  match s'.conns.read i with
  | none => shook i
  | some conn => recorded s.process s'.process conn (shook i)

/-- **Step lemma**: if the connection that takes a step is watched afterwards, then all are. -/
theorem AllWatched.step {i : ℕ} {s s' : System} {shook shook' : ℕ → Option ℕ}
    (h : AllWatched (s, shook)) (hstep : SlotStep i s s') (hshook : ∀ j, j ≠ i → shook' j = shook j)
    (hi : ∀ conn, s'.conns.read i = some conn →
      Watched s'.process (recorded s.process s'.process conn (shook' i)) conn) :
    AllWatched (s', newHistory s s' shook') := by
  have htransports := h.transports
  have hobjs := h.objs
  refine ⟨?_, ?_, fun j conn hread => ?_⟩
  · rw [hstep.held_eq]
    exact htransports.update hstep.transports
  · rw [hstep.held_eq]
    exact hobjs.update hstep.objs
  have hnew : newHistory s s' shook' j = recorded s.process s'.process conn (shook' j) := by
    unfold newHistory
    rw [show s'.conns.read j = some conn from hread]
  show Watched s'.process (newHistory s s' shook' j) conn
  rw [hnew]
  by_cases hj : j = i
  · subst hj
    exact hi conn hread
  · -- another connection: its transport and its object have not been touched
    have hold : s.conns.read j = some conn := by
      rw [← hstep.others j hj]
      exact hread
    have hfinished : ∀ obj, conn.policyObj = some obj →
        s'.process.finished obj = s.process.finished obj := fun obj hobj =>
      finished_eq_of_read (hobjs.read_eq hstep.objs hj ((held_eq _ hold).trans hobj))
    rw [recorded_same hfinished, hshook j hj]
    refine (h.watched j conn hold).frame (fun t ht => ?_) hfinished
    exact htransports.read_eq hstep.transports hj ((held_eq _ hold).trans ht)

/-- Nothing happens if there is no such connection. -/
theorem AllWatched.idle {i : ℕ} {s : System} {shook shook' : ℕ → Option ℕ}
    (h : AllWatched (s, shook)) (hread : s.conns.read i = none)
    (hshook : ∀ j, j ≠ i → shook' j = shook j) : AllWatched (s, newHistory s s shook') := by
  refine h.step (.refl i s) hshook fun conn hconn => ?_
  rw [hread] at hconn
  cases hconn

/-- A function on one connection, as a step of the system. -/
theorem AllWatched.onConn {i : ℕ} {s : System}
    {f : SCFConnectionImpl → Resumption Process (ConnAnswer × SCFConnectionImpl)}
    {shook shook' : ℕ → Option ℕ} (h : AllWatched (s, shook))
    (hstep : SlotStep i s (s.onConn i f).2)
    (hshook : ∀ j, j ≠ i → shook' j = shook j)
    (hf : ∀ conn, s.conns.read i = some conn → ∀ answer conn' p',
      (f conn).run s.process = ((answer, conn'), p') →
      Watched p' (recorded s.process p' conn' (shook' i)) conn') :
    AllWatched ((s.onConn i f).2, newHistory s (s.onConn i f).2 shook') := by
  refine h.step hstep hshook fun conn₁ hread₁ => ?_
  cases hread : s.conns.read i with
  | none =>
    rw [onConn_eq_none hread, hread] at hread₁
    cases hread₁
  | some conn =>
    rcases hrun : (f conn).run s.process with ⟨⟨answer, conn'⟩, p'⟩
    rw [onConn_eq hread hrun, (replaced_modify hread conn' p').self] at hread₁
    obtain rfl := Option.some.inj hread₁
    rw [onConn_eq hread hrun]
    exact hf conn hread answer conn' p' hrun

/-- A new connection, or none. -/
theorem AllWatched.addConn {s : System} {p' : Process} {conn' : Option SCFConnectionImpl}
    {shook : ℕ → Option ℕ} (h : AllWatched (s, shook))
    (hstep : SlotStep s.conns.size s ({ s with process := p' }.addConn conn').2)
    (hwatched : ∀ conn, conn' = some conn →
      Watched p' (recorded s.process p' conn (shook s.conns.size)) conn) :
    AllWatched (({ s with process := p' }.addConn conn').2,
      newHistory s ({ s with process := p' }.addConn conn').2 shook) := by
  refine h.step hstep (fun _ _ => rfl) fun conn hread => ?_
  rw [(replaced_addConn (s := s) p' conn').self] at hread
  rw [addConn_process]
  exact hwatched conn hread

/-- A function that uses the object of its connection and returns. -/
theorem AllWatched.keepsObj {ρ : Type} {i : ℕ} {s : System} {shook : ℕ → Option ℕ}
    {f : SCFConnectionImpl → Resumption Process ρ} (h : AllWatched (s, shook))
    (hf : ∀ conn, KeepsObj conn (f conn)) (answer : ρ → ConnAnswer) :
    let s' := (s.onConn i fun conn => (f conn).bind fun r => .done (answer r, conn)).2
    AllWatched (s', newHistory s s' shook) := by
  refine h.onConn (keepsObj_slotStep hf answer) (fun _ _ => rfl)
    fun conn hread ans conn' p' hrun => ?_
  obtain ⟨-, htransports, hfinished⟩ := hf conn s.process
  obtain ⟨rfl, rfl⟩ := answering_run hrun
  exact (h.watched i conn hread).quiet htransports hfinished

/-- The object of a watched connection has been created. -/
theorem AllWatched.lt_size {s : History} (h : AllWatched s) {i : ℕ} {conn : SCFConnectionImpl}
    (hread : s.1.conns.read i = some conn) :
    ∀ obj, conn.policyObj = some obj → obj < s.1.process.objs.size := by
  intro obj hobj
  exact h.objs.lt_size i obj ((held_eq _ hread).trans hobj)

/-- Every call keeps all connections watched, if its handshake is sound. -/
theorem AllWatched.call {s : History} (h : AllWatched s) (call : Globals × UserCall)
    (hsound : SoundShake s call) : AllWatched (connectedMachine.step s call).2 := by
  obtain ⟨s, shook⟩ := s
  obtain ⟨g, call⟩ := call
  cases call with
  | read i call => exact h.keepsObj (connectionRead_keepsObj call) _
  | conn call =>
    have hstep := connCall_slotStep g s call
    cases call with
    | create config allocOk =>
      cases allocOk with
      | false => exact h.idle (i := s.conns.size) (Heap.read_size s.conns) fun _ _ => rfl
      | true =>
        refine h.addConn hstep fun conn hconn => ?_
        obtain rfl := Option.some.inj hconn
        exact watched_of_no_obj rfl (show SCFConnectionState.init ≠ .closing by decide)
          (show SCFConnectionState.init ≠ .connected by decide) _ _
    | connect i env =>
      refine h.onConn hstep (fun _ _ => rfl) fun conn hread answer conn' p' hrun => ?_
      obtain ⟨ret, hrun⟩ := returning_run hrun
      have hout := connect_outcome g env conn s.process
      rw [hrun] at hout
      exact hout.watched (h.watched i conn hread) (h.lt_size hread)
    | listen i env =>
      refine h.onConn hstep (fun _ _ => rfl) fun conn hread answer conn' p' hrun => ?_
      obtain ⟨ret, hrun⟩ := returning_run hrun
      have hout := listen_outcome g env conn s.process
      rw [hrun] at hout
      exact hout.watched (h.watched i conn hread) (h.lt_size hread)
    | accept i env =>
      show AllWatched ((s.acceptOn i g env).2, newHistory s (s.acceptOn i g env).2 shook)
      have hstep : SlotStep s.conns.size s (s.acceptOn i g env).2 := hstep
      cases hread : s.conns.read i with
      | none =>
        rw [acceptOn_eq_none hread]
        exact h.idle hread fun _ _ => rfl
      | some conn =>
        rcases hrun : (accept g env conn).run s.process with ⟨child, p'⟩
        have hout := accept_outcome g env conn s.process
        rw [hrun] at hout
        rw [acceptOn_eq hread hrun] at hstep ⊢
        refine h.addConn hstep fun conn' hconn' => ?_
        subst hconn'
        exact hout.watched _
    | handshakeStep i env =>
      refine h.onConn hstep (fun _ _ => rfl) fun conn hread answer conn' p' hrun => ?_
      obtain ⟨ret, hrun⟩ := returning_run hrun
      have hout := handshakeStep_outcome g env conn s.process
      rw [hrun] at hout
      exact hout.watched (h.watched i conn hread) fun obj o => hsound i env conn obj o rfl hread
    | write i call => exact h.keepsObj (connectionWrite_keepsObj call) _
    | triggerKeyUpdate i env => exact h.keepsObj (triggerKeyUpdate_keepsObj g env) _
    | setUserData i userData =>
      refine h.onConn hstep (fun _ _ => rfl) fun conn hread answer conn' p' hrun => ?_
      obtain ⟨p₁, hrun₁, -, htransports, hfinished⟩ := setUserData_run g userData conn s.process
      rw [Resumption.run_bind, hrun₁] at hrun
      obtain ⟨hpair, rfl⟩ := Prod.mk.inj hrun
      obtain ⟨-, rfl⟩ := Prod.mk.inj hpair
      obtain ⟨hclosing, hclosed, hdone, hconnected⟩ :=
        (h.watched i conn hread).quiet htransports hfinished
      exact ⟨hclosing, hclosed, hdone, hconnected⟩
    | close i env =>
      have hshook : ∀ j, j ≠ i →
          (if (UserCall.conn (.close i env)).closes j then none else shook j) = shook j := by
        intro j hj
        exact if_neg (by simpa [UserCall.closes] using hj)
      refine h.onConn hstep hshook fun conn hread answer conn' p' hrun => ?_
      obtain ⟨ret, hrun⟩ := returning_run hrun
      have hwatched := close_watched g env (h.watched i conn hread)
      simp only [hrun] at hwatched
      rw [if_pos (by simp [UserCall.closes])]
      exact hwatched
    | destroy i env =>
      refine h.step hstep (fun _ _ => rfl) fun conn hread => ?_
      change (s.deleteConn i g env).2.conns.read i = some conn at hread
      cases hold : s.conns.read i with
      | none =>
        rw [deleteConn_eq_none hold, hold] at hread
        cases hread
      | some conn₀ =>
        rw [deleteConn_eq hold, (replaced_free (s := s) (i := i) _).self] at hread
        cases hread

/-- What a handshake that succeeds leaves behind shows that it was sound. -/
theorem soundShake_of_trulyConnected {s : History} (h : AllWatched s) {call : Globals × UserCall}
    (hafter : TrulyConnected (connectedMachine.step s call).2) : SoundShake s call := by
  obtain ⟨s, shook⟩ := s
  obtain ⟨g, call⟩ := call
  intro i env conn obj o hcall hread hobj hobjread htls
  dsimp only at hcall hread hobjread htls ⊢
  subst hcall
  obtain ⟨hret, hobj'⟩ := handshakeObj_run g conn.isServer env.handshake hobjread
  rw [(handshakeOn_success_iff g env conn o.obj).mpr htls] at hret
  have hquiet := quiet_run (handshakeObj_quiet g conn.isServer obj env.handshake) s.process
  obtain ⟨version, hrun⟩ := handshakeStep_run g env hobj s.process
  generalize (handshakeObj g conn.isServer obj env.handshake).run s.process = out at *
  obtain ⟨ret, p'⟩ := out
  dsimp only at hret hrun hquiet
  subst hret
  have hreturns : (returning (handshakeStep g env conn)).run s.process =
      (((some .success, none), conn.shaken .success version), p') := by
    rw [returning, Resumption.run_bind, hrun]
    rfl
  have hsystem : ((UserCall.conn (.handshakeStep i env)).apply g s).2 =
      ⟨p', s.conns.modify i fun _ => conn.shaken .success version⟩ :=
    congrArg Prod.snd (onConn_eq (f := fun conn => returning (handshakeStep g env conn)) hread
      hreturns)
  have hread' : (s.conns.modify i fun _ => conn.shaken .success version).read i =
      some (conn.shaken .success version) := by
    rw [Heap.read_modify, if_pos rfl, hread]
    rfl
  have hstep : (connectedMachine.step (s, shook) (g, .conn (.handshakeStep i env))).2 =
      (((UserCall.conn (.handshakeStep i env)).apply g s).2,
        newHistory s ((UserCall.conn (.handshakeStep i env)).apply g s).2 shook) := rfl
  rw [hstep, hsystem] at hafter
  obtain ⟨⟨t, transport, ht, htread, hopen⟩, obj', hobj₁, hshook⟩ := hafter i _ hread' rfl
  refine ⟨⟨t, transport, ?_, ?_, hopen⟩, fun hfinished => ?_⟩
  · exact (shaken_transport .success version conn).symm.trans ht
  · rw [← hquiet.transports]
    exact htread
  · have hfinished : s.process.finished obj = true := (finished_of_read hobjread).trans hfinished
    obtain rfl := Option.some.inj
      (hobj.symm.trans ((shaken_policyObj .success version conn).symm.trans hobj₁))
    refine ((h.watched i conn hread).done obj hobj hfinished).mpr ?_
    have hnew : newHistory s ⟨p', s.conns.modify i fun _ => conn.shaken .success version⟩ shook i =
        shook i := by
      unfold newHistory recorded
      rw [hread']
      dsimp only
      rw [hobj₁]
      dsimp only
      rw [hfinished, if_neg (by simp)]
    exact hnew.symm.trans hshook

theorem allWatched_initial : AllWatched ({}, fun _ => none) := by
  have hnone : ∀ i, ({} : System).conns.read i = none := fun _ => rfl
  have hheld : ∀ f, ({} : System).held f = fun _ => none := fun f => funext fun _ => rfl
  refine ⟨?_, ?_, fun i conn hread => ?_⟩
  · rw [hheld]
    exact Heap.separate_none _
  · rw [hheld]
    exact Heap.separate_none _
  · rw [hnone] at hread
    cases hread

/-- **Run theorem**: throughout a run every connection in the state `CONNECTED` has an open
transport and a completed handshake since its last `Close`, exactly if every `HandshakeStep` of the
run that succeeds finds the transport open and does not repeat a handshake from before a `Close`. -/
theorem trulyConnected_throughout_iff (calls : List (Globals × UserCall)) :
    connectedMachine.Throughout TrulyConnected ({}, fun _ => none) calls ↔
      connectedMachine.Admits SoundShake ({}, fun _ => none) calls :=
  Machine.throughout_iff_of_invariant (I := AllWatched) (fun _ h => h.trulyConnected)
    (fun _ call h _ hsound => h.call call hsound)
    (fun _ _ h _ hafter => soundShake_of_trulyConnected h hafter) allWatched_initial
    (Machine.admits_of_forall (fun _ _ => trivial) _ calls)

/-- A client that connects, closes, and makes a handshake step. -/
def revivedCalls : List (Globals × UserCall) :=
  [(.ready, .conn (.create {} true)), (.ready, .conn (.connect 0 .plain)),
    (.ready, .conn (.close 0 .plain)), (.ready, .conn (.handshakeStep 0 .plain))]

/-- The closed client is connected again, on a closed transport. -/
theorem closed_client_revived :
    let s := connectedMachine.after ({}, fun _ => none) revivedCalls
    ∃ conn, s.1.conns.read 0 = some conn ∧ conn.isConnected = true ∧ s.2 0 = none ∧
      ¬ TransportOpen s.1.process conn ∧ ¬ TrulyConnected s := by
  have hclosed : ∀ conn, (connectedMachine.after ({}, fun _ => none) revivedCalls).1.conns.read 0 =
      some conn → ¬ TransportOpen
        (connectedMachine.after ({}, fun _ => none) revivedCalls).1.process conn := by
    rintro conn hread ⟨t, transport, ht, htread, hopen⟩
    obtain rfl := Option.some.inj hread
    obtain rfl := Option.some.inj ht
    obtain rfl := Option.some.inj htread
    cases hopen
  refine ⟨_, rfl, rfl, rfl, hclosed _ rfl, fun h => ?_⟩
  exact hclosed _ rfl (h 0 _ rfl rfl).1

end Scf
