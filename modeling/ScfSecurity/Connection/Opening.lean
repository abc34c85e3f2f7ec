import ScfSecurity.Connection.Stages

/-!
# Opening a connection

How `Connect`, `Listen` and `Accept` end, in terms of their stages. `Connect` that fails behind the
policy context releases everything, `Listen` nothing; `Accept` never leaves a connection that has
failed.

## Main definitions

- `ConnectOutcome`, `ListenOutcome`, `AcceptOutcome`

## Main results

- `connect_outcome`, `listen_outcome`, `accept_outcome`
-/

namespace Scf

open Automaton

/-- Behind a successful `SetupPolicyContext` the connection has a live context. -/
theorem SetupOutcome.ctx {g : Globals} {env : SetupEnv} {conn conn' : SCFConnectionImpl}
    {p p' : Process} (h : SetupOutcome g env conn p ((.success, conn'), p')) :
    ∃ ctx c, conn'.policyCtx = some ctx ∧ p'.ctxs.read ctx = some c ∧ Configured conn.config c := by
  cases h with
  | noAdaptor hret hnot hengine => exact absurd rfl hret
  | @withCtx conn'' q q' ret hinit halloc hengine hprovider hctx =>
    cases hctx with
    | plain hlookup hret hc hconf => exact ⟨_, _, rfl, read_addCtx _ _, hconf rfl⟩
    | lookup hlookup hret hc hconf =>
      exact ⟨_, _, rfl, read_addCtx _ _, (hconf rfl).setRefCnt 2⟩

/-- How `Connect` ends. -/
inductive ConnectOutcome (g : Globals) (env : ConnEnv) (conn : SCFConnectionImpl) (p : Process) :
    (Errno × SCFConnectionImpl) × Process → Prop
  -- nothing is released
  | notSetUp {ret : Errno} {conn₁ : SCFConnectionImpl} {p₁ : Process} (hret : ret ≠ .success)
      (hsetup : SetupOutcome g env.setup conn p ((ret, conn₁), p₁)) :
      ConnectOutcome g env conn p ((ret, { conn₁ with state := .error }), p₁)
  | noTransport {ret : Errno} {conn₁ conn₂ : SCFConnectionImpl} {p₁ p₂ : Process}
      (hsetup : SetupOutcome g env.setup conn p ((.success, conn₁), p₁)) (hret : ret ≠ .success)
      (htransport : TransportOutcome env .connecting conn₁ p₁ ((ret, conn₂), p₂)) :
      ConnectOutcome g env conn p
        ((ret, SCFConnectionImpl.released { conn₂ with state := .error }), p₂.released g conn₂)
  | noObj {ret : Errno} {conn₁ conn₂ conn₃ : SCFConnectionImpl} {p₁ p₂ p₃ : Process} {ctx : ℕ}
      {c : SCFPolicyCtx} (hsetup : SetupOutcome g env.setup conn p ((.success, conn₁), p₁))
      (htransport : TransportOutcome env .connecting conn₁ p₁ ((.success, conn₂), p₂))
      (hctx : conn₁.policyCtx = some ctx) (hread : p₁.ctxs.read ctx = some c)
      (hconf : Configured conn.config c) (hret : ret ≠ .success)
      (hobj : ObjOutcome g env conn₂ ctx c p₂ ((ret, conn₃), p₃)) :
      ConnectOutcome g env conn p
        ((ret, SCFConnectionImpl.released { conn₃ with state := .error }), p₃.released g conn₃)
  | handshake {conn₁ conn₂ conn₃ : SCFConnectionImpl} {p₁ p₂ p₃ : Process} {ctx : ℕ}
      {c : SCFPolicyCtx} {out : (Errno × SCFConnectionImpl) × Process}
      (hsetup : SetupOutcome g env.setup conn p ((.success, conn₁), p₁))
      (htransport : TransportOutcome env .connecting conn₁ p₁ ((.success, conn₂), p₂))
      (hctx : conn₁.policyCtx = some ctx) (hread : p₁.ctxs.read ctx = some c)
      (hconf : Configured conn.config c)
      (hobj : ObjOutcome g env conn₂ ctx c p₂ ((.success, conn₃), p₃))
      (hshake : HandshakeStepOutcome g env conn₃ p₃ out) : ConnectOutcome g env conn p out

/-- A transport does not concern the contexts. -/
theorem TransportOutcome.ctxs {env : ConnEnv} {opened : SCFConnectionState}
    {conn conn' : SCFConnectionImpl} {p p' : Process} {ret : Errno}
    (h : TransportOutcome env opened conn p ((ret, conn'), p')) :
    p'.ctxs = p.ctxs ∧ conn'.policyCtx = conn.policyCtx := by
  cases h with
  | notCreated h => exact ⟨rfl, rfl⟩
  | notOpened h hopen => exact ⟨rfl, rfl⟩
  | done h hopen => exact ⟨rfl, rfl⟩

theorem TransportOutcome.objs {env : ConnEnv} {opened : SCFConnectionState}
    {conn conn' : SCFConnectionImpl} {p p' : Process} {ret : Errno}
    (h : TransportOutcome env opened conn p ((ret, conn'), p')) :
    p'.objs = p.objs ∧ conn'.policyObj = conn.policyObj ∧
      conn'.handshakeDone = conn.handshakeDone := by
  cases h with
  | notCreated h => exact ⟨rfl, rfl, rfl⟩
  | notOpened h hopen => exact ⟨rfl, rfl, rfl⟩
  | done h hopen => exact ⟨rfl, rfl, rfl⟩

theorem abandon_run (g : Globals) (env : ConnEnv) (ret : Errno) (conn : SCFConnectionImpl)
    (p : Process) :
    (abandon g env ret conn).run p =
      ((ret, SCFConnectionImpl.released { conn with state := .error }), p.released g conn) := by
  rw [abandon, Resumption.run_bind, cleanup_run]
  rfl

theorem connect_outcome (g : Globals) (env : ConnEnv) (conn : SCFConnectionImpl) (p : Process) :
    ConnectOutcome g env conn p ((connect g env conn).run p) := by
  have hsetup := setupPolicyContext_outcome g env.setup conn p
  unfold connect
  rw [Resumption.run_bind]
  generalize (setupPolicyContext g env.setup conn).run p = out₁ at *
  obtain ⟨⟨ret, conn₁⟩, p₁⟩ := out₁
  dsimp only
  by_cases hret : ret = .success
  case neg =>
    rw [if_pos hret]
    exact .notSetUp hret hsetup
  subst hret
  obtain ⟨ctx, c, hctx, hread, hconf⟩ := hsetup.ctx
  have htransport := setupTransport_outcome env .connecting conn₁ p₁
  rw [if_neg (not_not.mpr rfl), setupTransportClient, Resumption.run_bind]
  generalize (setupTransport env .connecting conn₁).run p₁ = out₂ at *
  obtain ⟨⟨ret, conn₂⟩, p₂⟩ := out₂
  dsimp only
  by_cases hret : ret = .success
  case neg =>
    rw [if_pos hret, abandon_run]
    exact .noTransport hsetup hret htransport
  subst hret
  obtain ⟨hctxs, hctx'⟩ := htransport.ctxs
  have hobj := createPolicyObj_outcome g env (hctx'.trans hctx) (hctxs ▸ hread)
  rw [if_neg (not_not.mpr rfl), Resumption.run_bind]
  generalize (createPolicyObj g env conn₂).run p₂ = out₃ at *
  obtain ⟨⟨ret, conn₃⟩, p₃⟩ := out₃
  dsimp only
  by_cases hret : ret = .success
  case neg =>
    rw [if_pos hret, abandon_run]
    exact .noObj hsetup htransport hctx hread hconf hret hobj
  subst hret
  rw [if_neg (not_not.mpr rfl)]
  exact .handshake hsetup htransport hctx hread hconf hobj (handshakeStep_outcome g env conn₃ p₃)

/-- How `Listen` ends. -/
inductive ListenOutcome (g : Globals) (env : ConnEnv) (conn : SCFConnectionImpl) (p : Process) :
    (Errno × SCFConnectionImpl) × Process → Prop
  | notSetUp {ret : Errno} {conn₁ : SCFConnectionImpl} {p₁ : Process} (hret : ret ≠ .success)
      (hsetup : SetupOutcome g env.setup conn p ((ret, conn₁), p₁)) :
      ListenOutcome g env conn p ((ret, { conn₁ with state := .error }), p₁)
  | noTransport {ret : Errno} {conn₁ conn₂ : SCFConnectionImpl} {p₁ p₂ : Process}
      (hsetup : SetupOutcome g env.setup conn p ((.success, conn₁), p₁)) (hret : ret ≠ .success)
      (htransport : TransportOutcome env .init conn₁ p₁ ((ret, conn₂), p₂)) :
      ListenOutcome g env conn p ((ret, { conn₂ with state := .error }), p₂)
  | done {conn₁ conn₂ : SCFConnectionImpl} {p₁ p₂ : Process}
      (hsetup : SetupOutcome g env.setup conn p ((.success, conn₁), p₁))
      (htransport : TransportOutcome env .init conn₁ p₁ ((.success, conn₂), p₂)) :
      ListenOutcome g env conn p ((.success, conn₂), p₂)

theorem listen_outcome (g : Globals) (env : ConnEnv) (conn : SCFConnectionImpl) (p : Process) :
    ListenOutcome g env conn p ((listen g env conn).run p) := by
  have hsetup := setupPolicyContext_outcome g env.setup conn p
  unfold listen
  rw [Resumption.run_bind]
  generalize (setupPolicyContext g env.setup conn).run p = out₁ at *
  obtain ⟨⟨ret, conn₁⟩, p₁⟩ := out₁
  dsimp only
  by_cases hret : ret = .success
  case neg =>
    rw [if_pos hret]
    exact .notSetUp hret hsetup
  subst hret
  have htransport := setupTransport_outcome env .init conn₁ p₁
  rw [if_neg (not_not.mpr rfl), setupTransportServer, Resumption.run_bind]
  generalize (setupTransport env .init conn₁).run p₁ = out₂ at *
  obtain ⟨⟨ret, conn₂⟩, p₂⟩ := out₂
  dsimp only
  by_cases hret : ret = .success
  case neg =>
    rw [if_pos hret]
    exact .noTransport hsetup hret htransport
  subst hret
  rw [if_neg (not_not.mpr rfl)]
  exact .done hsetup htransport

/-- The connection that `Accept` creates, on its transport. -/
def SCFConnectionImpl.child (transport : ℕ) (conn : SCFConnectionImpl) : SCFConnectionImpl :=
  { newConnection conn.config with
    transport := some transport
    isServer := true
    cryptoEngine := conn.cryptoEngine }

/-- Injecting an engine concerns the adaptor only. -/
theorem atPtr_inject (g : Globals) (engine : Option ℕ) (p : Process) :
    (p.atPtr engine (Process.inject g)).ctxs = p.ctxs ∧
      (p.atPtr engine (Process.inject g)).objs = p.objs ∧
      (p.atPtr engine (Process.inject g)).transports = p.transports ∧
      (p.atPtr engine (Process.inject g)).engines = p.engines := by
  cases engine <;> exact ⟨rfl, rfl, rfl, rfl⟩

/-- The new connection is set up in the library context in which the listening one would be. -/
theorem child_libraryCtx (g : Globals) (env : SetupEnv) (transport : Transport) (t : ℕ)
    (conn : SCFConnectionImpl) (p : Process) :
    (conn.child t).libraryCtx env
        ((p.addTransport transport).atPtr conn.cryptoEngine (Process.inject g)) =
      conn.libraryCtx env p := by
  unfold SCFConnectionImpl.libraryCtx SCFConnectionImpl.child
  cases conn.cryptoEngine with
  | none => rfl
  | some e => rfl

/-- How `Accept` ends for the new connection. -/
inductive AcceptOnOutcome (g : Globals) (env : ConnEnv) (conn : SCFConnectionImpl) (p : Process) :
    Option SCFConnectionImpl × Process → Prop
  | notSetUp {ret : Errno} {conn₁ : SCFConnectionImpl} {p₁ : Process} (hret : ret ≠ .success)
      (hsetup : SetupOutcome g env.setup conn p ((ret, conn₁), p₁)) :
      AcceptOnOutcome g env conn p (none, p₁.released g conn₁)
  | noObj {ret : Errno} {conn₁ conn₂ : SCFConnectionImpl} {p₁ p₂ : Process} {ctx : ℕ}
      {c : SCFPolicyCtx} (hsetup : SetupOutcome g env.setup conn p ((.success, conn₁), p₁))
      (hctx : conn₁.policyCtx = some ctx) (hread : p₁.ctxs.read ctx = some c)
      (hret : ret ≠ .success) (hobj : ObjOutcome g env conn₁ ctx c p₁ ((ret, conn₂), p₂)) :
      AcceptOnOutcome g env conn p (none, p₂.released g conn₂)
  | notShaken {ret : Errno} {conn₁ conn₂ conn₃ : SCFConnectionImpl} {p₁ p₂ p₃ : Process} {ctx : ℕ}
      {c : SCFPolicyCtx} (hsetup : SetupOutcome g env.setup conn p ((.success, conn₁), p₁))
      (hctx : conn₁.policyCtx = some ctx) (hread : p₁.ctxs.read ctx = some c)
      (hobj : ObjOutcome g env conn₁ ctx c p₁ ((.success, conn₂), p₂)) (hret : ret ≠ .success)
      (hwants : ¬ ret.Wants) (hshake : HandshakeStepOutcome g env conn₂ p₂ ((ret, conn₃), p₃)) :
      AcceptOnOutcome g env conn p (none, p₃.released g conn₃)
  | handshake {ret : Errno} {conn₁ conn₂ conn₃ : SCFConnectionImpl} {p₁ p₂ p₃ : Process} {ctx : ℕ}
      {c : SCFPolicyCtx} (hsetup : SetupOutcome g env.setup conn p ((.success, conn₁), p₁))
      (hctx : conn₁.policyCtx = some ctx) (hread : p₁.ctxs.read ctx = some c)
      (hobj : ObjOutcome g env conn₁ ctx c p₁ ((.success, conn₂), p₂))
      (hret : ret = .success ∨ ret.Wants)
      (hshake : HandshakeStepOutcome g env conn₂ p₂ ((ret, conn₃), p₃)) :
      AcceptOnOutcome g env conn p (some conn₃, p₃)

theorem discard_run (g : Globals) (env : ConnEnv) (conn : SCFConnectionImpl) (p : Process) :
    (discard g env conn).run p = (none, p.released g conn) := by
  rw [discard, Resumption.run_bind, cleanup_run]
  rfl

/-- Behind a handshake that has not failed, `Accept` has nothing left to set. -/
theorem HandshakeStepOutcome.state {g : Globals} {env : ConnEnv} {conn conn' : SCFConnectionImpl}
    {p p' : Process} {ret : Errno} (h : HandshakeStepOutcome g env conn p ((ret, conn'), p')) :
    (ret = .success → { conn' with state := .connected, handshakeDone := true } = conn') ∧
      (ret.Wants → { conn' with state := .connecting } = conn') := by
  have hshaken : ∀ version, (ret = .success →
      { conn.shaken ret version with state := .connected, handshakeDone := true } =
        conn.shaken ret version) ∧
      (ret.Wants → { conn.shaken ret version with state := .connecting } =
        conn.shaken ret version) := by
    intro version
    unfold SCFConnectionImpl.shaken
    refine ⟨fun hret => ?_, fun hwants => ?_⟩
    · rw [if_pos hret]
    · have hret : ret ≠ .success := by
        rintro rfl
        exact absurd hwants (by decide)
      rw [if_neg hret, if_pos hwants]
  cases h with
  | noObj h => exact ⟨nofun, fun hwants => absurd hwants (by decide)⟩
  | dangling h hread => exact hshaken _
  | done h hread hp hread' => exact hshaken _

theorem acceptOn_outcome (g : Globals) (env : ConnEnv) (conn : SCFConnectionImpl) (p : Process) :
    AcceptOnOutcome g env conn p ((acceptOn g env conn).run p) := by
  have hsetup := setupPolicyContext_outcome g env.setup conn p
  unfold acceptOn
  rw [Resumption.run_bind]
  generalize (setupPolicyContext g env.setup conn).run p = out₁ at *
  obtain ⟨⟨ret, conn₁⟩, p₁⟩ := out₁
  dsimp only
  by_cases hret : ret = .success
  case neg =>
    rw [if_pos hret, discard_run]
    exact .notSetUp hret hsetup
  subst hret
  obtain ⟨ctx, c, hctx, hread, -⟩ := hsetup.ctx
  have hobj := createPolicyObj_outcome g env hctx hread
  rw [if_neg (not_not.mpr rfl), Resumption.run_bind]
  generalize (createPolicyObj g env conn₁).run p₁ = out₂ at *
  obtain ⟨⟨ret, conn₂⟩, p₂⟩ := out₂
  dsimp only
  by_cases hret : ret = .success
  case neg =>
    rw [if_pos hret, discard_run]
    exact .noObj hsetup hctx hread hret hobj
  subst hret
  have hshake := handshakeStep_outcome g env conn₂ p₂
  rw [if_neg (not_not.mpr rfl), Resumption.run_bind]
  generalize (handshakeStep g env conn₂).run p₂ = out₃ at *
  obtain ⟨⟨ret, conn₃⟩, p₃⟩ := out₃
  dsimp only
  obtain ⟨hsuccess, hwant⟩ := hshake.state
  by_cases hwants : ret.Wants
  · rw [if_pos (by simpa [Errno.Wants] using hwants), hwant hwants]
    exact .handshake hsetup hctx hread hobj (.inr hwants) hshake
  rw [if_neg (by simpa [Errno.Wants] using hwants)]
  by_cases hret : ret = .success
  · rw [if_neg (not_not.mpr hret), hsuccess hret]
    exact .handshake hsetup hctx hread hobj (.inl hret) hshake
  · rw [if_pos hret, discard_run]
    exact .notShaken hsetup hctx hread hobj hret hwants hshake

/-- `Accept` gets as far as a new connection. -/
structure AcceptReaches (env : ConnEnv) (conn : SCFConnectionImpl) : Prop where
  server : conn.isServer = true
  transport : conn.transport ≠ none
  accepted : env.acceptOk = true
  alloc : env.connAllocOk = true

/-- How `Accept` ends. -/
inductive AcceptOutcome (g : Globals) (env : ConnEnv) (conn : SCFConnectionImpl) (p : Process) :
    Option SCFConnectionImpl × Process → Prop
  | nothing : AcceptOutcome g env conn p (none, p)
  | noConn : AcceptOutcome g env conn p
      (none, (p.addTransport ⟨true, env.nativeHandle⟩).dropTransport p.transports.size)
  | child {out : Option SCFConnectionImpl × Process} (hreach : AcceptReaches env conn)
      (h : AcceptOnOutcome g env (conn.child p.transports.size)
        ((p.addTransport ⟨true, env.nativeHandle⟩).atPtr conn.cryptoEngine (Process.inject g)) out) :
      AcceptOutcome g env conn p out

/-- `Accept` ends early, or sets up a new connection. -/
theorem accept_run_cases (g : Globals) (env : ConnEnv) (conn : SCFConnectionImpl) (p : Process) :
    (accept g env conn).run p = (none, p) ∨
      (accept g env conn).run p =
        (none, (p.addTransport ⟨true, env.nativeHandle⟩).dropTransport p.transports.size) ∨
      AcceptReaches env conn ∧ (accept g env conn).run p =
        (acceptOn g env (conn.child p.transports.size)).run
          ((p.addTransport ⟨true, env.nativeHandle⟩).atPtr conn.cryptoEngine (Process.inject g)) := by
  unfold accept
  by_cases hserver : (!conn.isServer || conn.transport = none) = true
  · rw [if_pos hserver]
    exact .inl rfl
  rw [if_neg hserver]
  cases haccepted : env.acceptOk with
  | false => exact .inl rfl
  | true =>
    rw [if_neg (by decide), Resumption.run_bind]
    cases halloc : env.connAllocOk with
    | false => exact .inr (.inl rfl)
    | true =>
      rw [if_neg (by decide), Resumption.run_bind]
      have hinject : (if conn.cryptoEngine ≠ none && g.adaptor then
          setCryptoEngine conn.cryptoEngine else .done ()).run
            (p.addTransport ⟨true, env.nativeHandle⟩) =
          ((), (p.addTransport ⟨true, env.nativeHandle⟩).atPtr conn.cryptoEngine
            (Process.inject g)) := by
        cases conn.cryptoEngine with
        | none => rfl
        | some e => cases hadaptor : g.adaptor <;> simp [Process.atPtr, Process.inject, hadaptor,
            setCryptoEngine]
      simp only [Bool.or_eq_true, Bool.not_eq_true', decide_eq_true_eq, not_or,
        Bool.not_eq_false] at hserver
      refine .inr (.inr ⟨⟨hserver.1, hserver.2, haccepted, halloc⟩, ?_⟩)
      show (acceptOn g env (conn.child p.transports.size)).run
        ((if conn.cryptoEngine ≠ none && g.adaptor then setCryptoEngine conn.cryptoEngine
          else .done ()).run (p.addTransport ⟨true, env.nativeHandle⟩)).2 = _
      rw [hinject]

theorem accept_outcome (g : Globals) (env : ConnEnv) (conn : SCFConnectionImpl) (p : Process) :
    AcceptOutcome g env conn p ((accept g env conn).run p) := by
  rcases accept_run_cases g env conn p with hrun | hrun | ⟨hreach, hrun⟩
  · rw [hrun]
    exact .nothing
  · rw [hrun]
    exact .noConn
  · rw [hrun]
    exact .child hreach (acceptOn_outcome g env _ _)

end Scf
