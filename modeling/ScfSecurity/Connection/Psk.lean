import ScfSecurity.Connection.System

/-!
# Connections with a pre-shared key

A configuration with `usePSK` is meant to authenticate the peer by a pre-shared key, and
`SCF_NewPSKConnection` switches the verification of certificates off for it. `SetupPSK`
makes a session with the key but frees it again, and nothing else registers a callback, so
no context of a connection ever has one: such connections authenticate nobody.

## Main definitions

- `PskFree`: a context without PSK callbacks
- `PskInstalled`: the connection can supply its key in a handshake

## Main results

- `pskFree_ctxInvariant`: nothing that connections do installs a callback
- `connected_psk_not_installed`: no connected PSK connection has its key installed
-/

namespace Scf

open Automaton

/-- No PSK callback is recorded in the context or installed in its TLS configuration. -/
structure PskFree (ctx : SCFPolicyCtx) : Prop where
  find : ctx.pskFindSessionCb = none
  use : ctx.pskUseSessionCb = none
  config : ∀ cfg ∈ ctx.sslConfig, cfg.auth.2 = (false, false)

/-- The context of a connection has the callback of the role, and the session that this
callback supplies has the configured key. `sessionOf` says which session a callback
supplies. -/
def PskInstalled (sessionOf : Address → Option SslSession) (p : Process)
    (conn : SCFConnectionImpl) : Prop :=
  ∃ i ctx cfg cb sess, conn.policyCtx = some i ∧ p.ctxs.read i = some ctx ∧
    ctx.sslConfig = some cfg ∧
    (if conn.isServer then ctx.pskFindSessionCb else ctx.pskUseSessionCb) = some cb ∧
    (if conn.isServer then cfg.pskFindSessionCallback else cfg.pskUseSessionCallback) = true ∧
    sessionOf cb = some sess ∧ sess.masterKey = conn.config.pskKey

/-- Another TLS configuration without PSK callbacks. -/
theorem PskFree.setSslConfig {ctx : SCFPolicyCtx} (h : PskFree ctx) {cfg : Option SslCtx}
    (hcfg : ∀ c ∈ cfg, c.auth.2 = (false, false)) : PskFree (ctx.setSslConfig cfg) :=
  ⟨h.find, h.use, hcfg⟩

theorem PskFree.settingStep {ctx ctx' : SCFPolicyCtx} (hstep : SettingStep ctx ctx')
    (h : PskFree ctx) : PskFree ctx' := by
  cases hstep with
  | keep => exact h
  | config hauth =>
    refine h.setSslConfig fun c hc => ?_
    -- the new configuration authenticates like the old one
    rw [Option.mem_def] at hc
    rw [hc, Option.map_some] at hauth
    obtain ⟨c', hc', hauth'⟩ := Option.map_eq_some_iff.mp hauth.symm
    rw [← hauth']
    exact h.config c' hc'
  | updateFlag isNeedKeyUpdate => exact ⟨h.find, h.use, h.config⟩
  | updateParams hmin hmax htraffic => exact ⟨h.find, h.use, h.config⟩

theorem PskFree.initStep {ctx ctx' : SCFPolicyCtx} (hstep : InitStep ctx ctx')
    (h : PskFree ctx) : PskFree ctx' := by
  cases hstep with
  | keep => exact h
  | lost => exact h.setSslConfig fun c hc => by cases hc
  | created hauth =>
    refine h.setSslConfig fun c hc => ?_
    obtain rfl := Option.some.inj hc
    rw [hauth]

theorem PskFree.setPolicyStep {role : SCFRole} {verifyMode : SCFVerifyMode}
    {policyMode : SCFPolicyMode} {ctx ctx' : SCFPolicyCtx}
    (hstep : SetPolicyStep role verifyMode policyMode ctx ctx') (h : PskFree ctx) :
    PskFree ctx' := by
  have hpolicy : PskFree (ctx.setPolicy role verifyMode policyMode) := ⟨h.find, h.use, h.config⟩
  cases hstep with
  | rejected => exact h
  | failed hinit => exact hpolicy.initStep hinit
  | @done ctx₁ hinit =>
    have h₁ := hpolicy.initStep hinit
    unfold setVerifyMode
    cases hcfg : ctx₁.sslConfig with
    | none => exact h₁
    | some cfg =>
      refine h₁.setSslConfig fun c hc => ?_
      obtain rfl := Option.some.inj hc
      exact h₁.config cfg hcfg

/-- Nothing that connections do to their contexts installs a PSK callback. -/
theorem pskFree_ctxInvariant : CtxInvariant PskFree where
  new := ⟨rfl, rfl, fun c hc => by cases hc⟩
  setPolicy h := h.setPolicyStep (scfSetPolicy_step _ _ _ _ _ _ _)
  setting hstep h := h.settingStep hstep
  refCnt _ h := ⟨h.find, h.use, h.config⟩
  freeze h := ⟨h.find, h.use, h.config⟩

/-- In every run, a connection that uses a pre-shared key and is connected does not have
its key installed. -/
theorem connected_psk_not_installed {s : System} (h : connectionMachine.Reachable s) :
    ∀ i conn, s.conns.read i = some conn → conn.config.usePSK = true →
      conn.state = .connected →
      ∀ sessionOf : Address → Option SslSession, ¬ PskInstalled sessionOf s.process conn := by
  intro i conn _ _ _ sessionOf hinstalled
  obtain ⟨i, ctx, cfg, cb, sess, -, hctx, -, hcb, -⟩ := hinstalled
  have hfree : PskFree ctx := connectionMachine_ctxs pskFree_ctxInvariant h i ctx hctx
  rw [hfree.find, hfree.use, ite_self] at hcb
  cases hcb

/-- A client with an eight byte key. -/
def pskClientCall : ConnCall :=
  .newPSKConnection .bit128 .client (ascii "client") [1, 2, 3, 4, 5, 6, 7, 8] true

/-- A client that connects to any server that answers. -/
theorem connected_psk_not_installed_client :
    ∃ s conn, connectionMachine.Reachable s ∧ s.conns.read 0 = some conn ∧
      conn.config.usePSK = true ∧ conn.state = .connected ∧
      ∀ sessionOf : Address → Option SslSession, ¬ PskInstalled sessionOf s.process conn := by
  have hinit : connectionMachine.Reachable {} := .initial rfl
  have hrun := (hinit.step (.ready, pskClientCall)).step (.ready, .connect 0 .plain)
  exact ⟨_, _, hrun, rfl, rfl, rfl, connected_psk_not_installed hrun 0 _ rfl rfl rfl⟩

/-- The connected client has no PSK callback, and its TLS layer does not verify the peer. -/
theorem pskClient_unauthenticated :
    ∃ s conn ctx, connectionMachine.Reachable s ∧ s.conns.read 0 = some conn ∧
      conn.config.usePSK = true ∧ conn.state = .connected ∧
      (conn.policyCtx.bind fun i => s.process.ctxs.read i) = some ctx ∧
      ctx.pskUseSessionCb = none ∧ ctx.tlsVerifyMode = some sslVerifyNone ∧
      ∀ sessionOf : Address → Option SslSession, ¬ PskInstalled sessionOf s.process conn := by
  have hinit : connectionMachine.Reachable {} := .initial rfl
  have hrun := (hinit.step (.ready, pskClientCall)).step (.ready, .connect 0 .plain)
  refine ⟨_, _, _, hrun, rfl, rfl, rfl, rfl, rfl, rfl, ?_⟩
  rintro sessionOf ⟨i, ctx, cfg, cb, sess, hi, hctx, -, hcb, -⟩
  obtain rfl := Option.some.inj hi
  obtain rfl := Option.some.inj hctx
  cases hcb

end Scf
