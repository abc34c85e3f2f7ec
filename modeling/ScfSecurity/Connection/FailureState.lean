import ScfSecurity.Connection.Opening

/-!
# The state after a failure

A connection that cannot be opened is put into the state `ERROR`. `Connect` does so at every stage,
but behind the policy context it then releases what it has, and this ends in the state `CLOSED`.

## Main definitions

- `FailsIntoError`: a result that is a failure comes with the state `ERROR`
- `TransportAndObjOk`: the stages behind the policy context do not fail

## Main results

- `failsIntoError_iff`: `Listen` and `HandshakeStep` keep to this, and when `Connect` does
-/

namespace Scf

open Automaton

/-- If the code is an error that does not ask for a repetition, then the state is `ERROR`. -/
def FailsIntoError (out : Errno × SCFConnectionImpl) : Prop :=
  out.1 ≠ .success → ¬ out.1.Wants → out.2.state = .error

/-- The transport of a client can be opened, and an object be created and bound to its handle. -/
structure TransportAndObjOk (g : Globals) (env : ConnEnv) : Prop where
  transport : env.transportOk = true
  opened : env.openOk = true
  obj : ObjOk g env.clock env.objAllocOk
  bind : env.nativeHandle < 0 ∨ env.ssl.setExDataOk = true ∧ env.ssl.setFdOk = true

/-- A context that is set up binds objects unless OpenSSL fails. -/
theorem Configured.bindOk_iff {config : SCFConnectionConfig} {c : SCFPolicyCtx}
    (h : Configured config c) (hrole : checkRole config.role = .success) (env : SslEnv)
    (fd : Int32) :
    BindOk env fd c ↔ fd < 0 ∨ env.setExDataOk = true ∧ env.setFdOk = true := by
  have hne : c.role ≠ .none := by
    rw [h.role]
    intro hnone
    rw [hnone] at hrole
    exact absurd hrole (by decide)
  exact or_congr_right ⟨fun hb => hb.2.2, fun hb => ⟨hne, h.checkVersion, hb⟩⟩

/-- The handle of a transport that has just been opened. -/
theorem TransportOutcome.nativeHandle {env : ConnEnv} {opened : SCFConnectionState}
    {conn conn' : SCFConnectionImpl} {p p' : Process}
    (h : TransportOutcome env opened conn p ((.success, conn'), p')) :
    p'.nativeHandle conn'.transport = env.nativeHandle := by
  cases h with
  | done h hopen =>
    show (((p.transports.alloc ⟨true, env.nativeHandle⟩).2.read p.transports.size).map
      Transport.nativeHandle).getD (-1) = _
    rw [Heap.read_alloc, Heap.alloc_fst, if_pos rfl]
    rfl

theorem TransportOutcome.success_iff {env : ConnEnv} {opened : SCFConnectionState}
    {conn conn' : SCFConnectionImpl} {p p' : Process} {ret : Errno}
    (h : TransportOutcome env opened conn p ((ret, conn'), p')) :
    (ret = .success ↔ env.transportOk = true ∧ env.openOk = true) ∧ ¬ ret.Wants := by
  cases h with
  | notCreated h => exact ⟨iff_of_false (by decide) (by simp [h]), by decide⟩
  | notOpened h hopen => exact ⟨iff_of_false (by decide) (by simp [hopen]), by decide⟩
  | done h hopen => exact ⟨iff_of_true rfl ⟨h, hopen⟩, by decide⟩

theorem ObjOutcome.success_iff {g : Globals} {env : ConnEnv} {conn conn' : SCFConnectionImpl}
    {ctx : ℕ} {c : SCFPolicyCtx} {p p' : Process} {ret : Errno}
    (h : ObjOutcome g env conn ctx c p ((ret, conn'), p')) :
    (ret = .success ↔ ObjOk g env.clock env.objAllocOk ∧
      BindOk env.ssl (p.nativeHandle conn.transport) c) ∧ ¬ ret.Wants := by
  cases h with
  | notCreated h => exact ⟨iff_of_false (by decide) fun hok => h hok.1, by decide⟩
  | created h hret hwants ho => exact ⟨hret.trans (and_iff_right h).symm, hwants⟩

/-- A handshake on an object sets the state by its code. -/
theorem shaken_failsIntoError (ret : Errno) (version : String) (conn : SCFConnectionImpl) :
    FailsIntoError (ret, conn.shaken ret version) := by
  intro hret hwants
  show (conn.shaken ret version).state = .error
  unfold SCFConnectionImpl.shaken
  rw [if_neg hret, if_neg hwants]

theorem HandshakeStepOutcome.failsIntoError {g : Globals} {env : ConnEnv}
    {conn : SCFConnectionImpl} {p : Process} {out : (Errno × SCFConnectionImpl) × Process}
    (h : HandshakeStepOutcome g env conn p out) (hobj : conn.policyObj ≠ none) :
    FailsIntoError out.1 := by
  cases h with
  | noObj h => exact absurd h hobj
  | dangling h hread => exact shaken_failsIntoError _ _ conn
  | done h hread hp hread' => exact shaken_failsIntoError _ _ conn

theorem ListenOutcome.failsIntoError {g : Globals} {env : ConnEnv} {conn : SCFConnectionImpl}
    {p : Process} {out : (Errno × SCFConnectionImpl) × Process}
    (h : ListenOutcome g env conn p out) : FailsIntoError out.1 := by
  cases h with
  | notSetUp hret hsetup => exact fun _ _ => rfl
  | noTransport hsetup hret htransport => exact fun _ _ => rfl
  | done hsetup htransport => exact fun hret => absurd rfl hret

/-- A cleanup does not end in the state `ERROR`. -/
theorem not_failsIntoError_released {ret : Errno} (hret : ret ≠ .success) (hwants : ¬ ret.Wants)
    (conn : SCFConnectionImpl) : ¬ FailsIntoError (ret, conn.released) := fun hfails =>
  absurd (hfails hret hwants) (show SCFConnectionState.closed ≠ .error by decide)

/-- What transport and object of a `Connect` that gets as far as its handshake say about the
environment. -/
theorem SetupOutcome.transportAndObjOk {g : Globals} {env : ConnEnv}
    {conn conn₁ conn₂ conn₃ : SCFConnectionImpl} {p p₁ p₂ p₃ : Process} {ctx : ℕ}
    {c : SCFPolicyCtx} (hsetup : SetupOutcome g env.setup conn p ((.success, conn₁), p₁))
    (htransport : TransportOutcome env .connecting conn₁ p₁ ((.success, conn₂), p₂))
    (hconf : Configured conn.config c)
    (hobj : ObjOutcome g env conn₂ ctx c p₂ ((.success, conn₃), p₃)) : TransportAndObjOk g env := by
  obtain ⟨hiff, -⟩ := hobj.success_iff
  obtain ⟨hok, hbind⟩ := hiff.mp rfl
  obtain ⟨hopened, -⟩ := htransport.success_iff
  have hrole := (hsetup.success_iff.mp rfl).basic.role
  rw [htransport.nativeHandle, hconf.bindOk_iff hrole] at hbind
  exact ⟨(hopened.mp rfl).1, (hopened.mp rfl).2, hok, hbind⟩

theorem ConnectOutcome.intoError_iff {g : Globals} {env : ConnEnv} {conn : SCFConnectionImpl}
    {p : Process} {out : (Errno × SCFConnectionImpl) × Process}
    (h : ConnectOutcome g env conn p out) :
    FailsIntoError out.1 ↔ (SetupOk g env.setup conn p → TransportAndObjOk g env) := by
  cases h with
  | notSetUp hret hsetup =>
    exact iff_of_true (fun _ _ => rfl) fun hok => absurd (hsetup.success_iff.mpr hok) hret
  | noTransport hsetup hret htransport =>
    obtain ⟨hiff, hwants⟩ := htransport.success_iff
    refine iff_of_false (not_failsIntoError_released hret hwants _) fun hok => hret (hiff.mpr ?_)
    have hok := hok (hsetup.success_iff.mp rfl)
    exact ⟨hok.transport, hok.opened⟩
  | noObj hsetup htransport hctx hread hconf hret hobj =>
    obtain ⟨hiff, hwants⟩ := hobj.success_iff
    refine iff_of_false (not_failsIntoError_released hret hwants _) fun hok => hret (hiff.mpr ?_)
    have hsetup := hsetup.success_iff.mp rfl
    have hok := hok hsetup
    rw [htransport.nativeHandle, hconf.bindOk_iff hsetup.basic.role]
    exact ⟨hok.obj, hok.bind⟩
  | handshake hsetup htransport hctx hread hconf hobj hshake =>
    refine iff_of_true (hshake.failsIntoError ?_) fun _ =>
      hsetup.transportAndObjOk htransport hconf hobj
    cases hobj with
    | created h hret hwants ho => simp

/-- Whatever fails in `Listen` or in a `HandshakeStep` on an object, the state is `ERROR`
afterwards. A failing `Connect` ends in `ERROR` exactly if it does not get past the policy context,
or if transport and object do not fail. -/
theorem failsIntoError_iff (g : Globals) (env : ConnEnv) (conn : SCFConnectionImpl) (p : Process) :
    (FailsIntoError ((connect g env conn).run p).1 ↔
      (SetupOk g env.setup conn p → TransportAndObjOk g env)) ∧
    FailsIntoError ((listen g env conn).run p).1 ∧
    (conn.policyObj ≠ none → FailsIntoError ((handshakeStep g env conn).run p).1) :=
  ⟨(connect_outcome g env conn p).intoError_iff, (listen_outcome g env conn p).failsIntoError,
    (handshakeStep_outcome g env conn p).failsIntoError⟩

/-- Everything succeeds except for the connection of the socket. -/
def unreachableEnv : ConnEnv := { ConnEnv.plain with openOk := false }

/-- A client whose server does not answer is `CLOSED`, not in the state `ERROR`. -/
theorem unreachable_client_closed :
    let out := ((connect .ready unreachableEnv (newConnection {})).run {}).1
    out.1 = .secureTransport ∧ ¬ out.1.Wants ∧ out.2.state = .closed ∧ ¬ FailsIntoError out := by
  refine ⟨rfl, by decide, rfl, fun h => ?_⟩
  exact absurd (h (by decide) (by decide)) (by decide)

end Scf
