import ScfSecurity.Connection.Stages

/-!
# The verification callback of a connection

`SCFConnectionConfig` offers a certificate verification callback. `SetupPolicyContext` hands it to
`SCF_SetAppVerifyCallback`, which takes callbacks in the mode `SCF_POLICY_CUSTOMER` only, and no
security level is mapped to that mode: a connection with a callback is never set up.

## Main definitions

- `SCFConnectionImpl.withAppVerify`: the connection with a callback in its configuration
- `HonoursAppVerify`: `SetupPolicyContext` succeeds and leaves the callback installed

## Main results

- `configureCtx_withAppVerify`: the configuration gets as far as the callback, and stops there
- `appVerifyCb_never_honoured`: no configuration that succeeds without a callback does with one
-/

namespace Scf

open Automaton

/-- The configuration with a callback and its argument. -/
def SCFConnectionConfig.withAppVerify (config : SCFConnectionConfig) (cb arg : Address) :
    SCFConnectionConfig :=
  { config with appVerifyCb := some cb, appVerifyArg := arg }

def SCFConnectionImpl.withAppVerify (conn : SCFConnectionImpl) (cb arg : Address) :
    SCFConnectionImpl :=
  { conn with config := conn.config.withAppVerify cb arg }

/-- The callback that is installed on the policy context of a connection. -/
def installedAppVerify (conn : SCFConnectionImpl) (p : Process) : Option (Address × Address) := do
  let ctx ← conn.policyCtx
  let c ← p.ctxs.read ctx
  let cfg ← c.sslConfig
  cfg.certVerifyCallback

/-- With the callback in the configuration `SetupPolicyContext` succeeds, and leaves it installed
with its argument. -/
def HonoursAppVerify (g : Globals) (env : SetupEnv) (conn : SCFConnectionImpl) (p : Process)
    (cb arg : Address) : Prop :=
  let ((ret, conn'), p') := (setupPolicyContext g env (conn.withAppVerify cb arg)).run p
  ret = .success ∧ installedAppVerify conn' p' = some (cb, arg)

/-! ### No callback before -/

/-- The peer is judged by OpenSSL alone. -/
def JudgedByLibrary (c : SCFPolicyCtx) : Prop :=
  ∀ cfg, c.sslConfig = some cfg → cfg.certVerifyCallback = none

theorem judgedByLibrary_newPolicyCtx : JudgedByLibrary newPolicyCtx := nofun

theorem JudgedByLibrary.setSslConfig_some {cfg : SslCtx} (h : cfg.certVerifyCallback = none)
    (c : SCFPolicyCtx) : JudgedByLibrary (c.setSslConfig (some cfg)) := by
  intro cfg' hcfg'
  obtain rfl := Option.some.inj hcfg'
  exact h

/-- A change of the configuration that leaves the callback alone. -/
theorem JudgedByLibrary.setSslConfig_map {c : SCFPolicyCtx} (h : JudgedByLibrary c)
    {f : SslCtx → SslCtx} (hf : ∀ cfg, (f cfg).certVerifyCallback = cfg.certVerifyCallback) :
    JudgedByLibrary (c.setSslConfig (c.sslConfig.map f)) := by
  intro cfg' hcfg'
  obtain ⟨cfg, hcfg, rfl⟩ := Option.map_eq_some_iff.mp hcfg'
  rw [hf]
  exact h cfg hcfg

theorem JudgedByLibrary.thenCtx {f f' : SCFPolicyCtx → Errno × SCFPolicyCtx}
    (hf : ∀ c, JudgedByLibrary c → JudgedByLibrary (f c).2)
    (hf' : ∀ c, JudgedByLibrary c → JudgedByLibrary (f' c).2) (c : SCFPolicyCtx)
    (h : JudgedByLibrary c) : JudgedByLibrary (thenCtx f f' c).2 := by
  unfold Scf.thenCtx
  split_ifs
  · exact hf c h
  · exact hf' _ (hf c h)

theorem setVerifyMode_judgedByLibrary (verifyMode : SCFVerifyMode) {c : SCFPolicyCtx}
    (h : JudgedByLibrary c) : JudgedByLibrary (setVerifyMode verifyMode c).2 := by
  unfold setVerifyMode
  cases hcfg : c.sslConfig with
  | none => exact h
  | some cfg =>
    refine .setSslConfig_some ?_ c
    exact h cfg hcfg

theorem scfSetPolicy_judgedByLibrary (g : Globals) (ctxPtr : Ptr) (policy : PolicyArgs)
    (env : SslCtxEnv) (c : SCFPolicyCtx) (h : JudgedByLibrary c) :
    JudgedByLibrary (policy.set g ctxPtr env c).2 := by
  have hinit : ∀ c, JudgedByLibrary c → JudgedByLibrary (initPolicyByMode env c).2 := by
    intro c h
    rcases initPolicyByMode_cases env c with hsame | ⟨config, hconfig, hinitial⟩
    · rw [hsame]
      exact h
    · rw [hconfig]
      exact fun cfg hcfg => (hinitial cfg hcfg).certVerifyCallback
  unfold PolicyArgs.set scfSetPolicy
  split_ifs
  · exact h
  · exact h
  · exact h
  · have hpolicy : JudgedByLibrary
        (c.setPolicy policy.role policy.verifyMode policy.policyMode) := h
    dsimp only
    split_ifs
    · exact hinit _ hpolicy
    · exact setVerifyMode_judgedByLibrary _ (hinit _ hpolicy)

theorem groupSettings_judgedByLibrary (g : Globals) (env : SetupEnv) (config : SCFConnectionConfig)
    (c : SCFPolicyCtx) (h : JudgedByLibrary c) :
    JudgedByLibrary (groupSettings g env config c).2 := by
  unfold groupSettings
  dsimp only
  split_ifs
  · exact h
  · rcases setKeyExchangeGroups_cases (getSecurityLevelMapping
      config.securityLevel).keyExchangeGroups env.groupsOk c with hsame | hset
    · rw [hsame]
      exact h
    · rw [hset]
      exact h.setSslConfig_map fun _ => rfl

theorem versionSettings_judgedByLibrary (g : Globals) (env : SetupEnv)
    (config : SCFConnectionConfig) (c : SCFPolicyCtx) (h : JudgedByLibrary c) :
    JudgedByLibrary (versionSettings g env config c).2 := by
  let mapping := getSecurityLevelMapping config.securityLevel
  have hout := setVersion_outcome
    ⟨⟨mapping.protocolVersionMin, mapping.protocolVersionMax, []⟩, g, .valid, env.setMinOk,
      env.setMaxOk⟩ c
  change SetVersionOutcome _ c (versionSettings g env config c) at hout
  generalize versionSettings g env config c = out at hout ⊢
  cases hout with
  | rejected hret hreach => exact h
  | refused hret hreach hnot =>
    have hnone := h _ hreach.config
    refine .setSslConfig_some ?_ c
    exact hnone
  | done hreach hcompletes hforbid =>
    have hnone := h _ hreach.config
    refine .setSslConfig_some ?_ c
    exact hnone

theorem suiteSettings_judgedByLibrary (g : Globals) (env : SetupEnv) (config : SCFConnectionConfig)
    (c : SCFPolicyCtx) (h : JudgedByLibrary c) :
    JudgedByLibrary (suiteSettings g env config c).2 := by
  unfold suiteSettings
  dsimp only
  split_ifs
  · exact h
  · rcases scfSetCipherSuites_cases g .valid _ env.cipherAllocOk env.cipherSetOk c with
      ⟨ret, -, hsame⟩ | ⟨suites, -, hset⟩
    · rw [hsame]
      exact h
    · rw [hset]
      exact h.setSslConfig_map fun _ => rfl

theorem basicSettings_judgedByLibrary (g : Globals) (env : SetupEnv) (config : SCFConnectionConfig)
    (providerCtx : Option Address) :
    JudgedByLibrary (basicSettings g env config providerCtx newPolicyCtx).2 :=
  JudgedByLibrary.thenCtx (scfSetPolicy_judgedByLibrary g .valid _ _)
    (JudgedByLibrary.thenCtx (groupSettings_judgedByLibrary g env config)
      (JudgedByLibrary.thenCtx (versionSettings_judgedByLibrary g env config)
        (suiteSettings_judgedByLibrary g env config)))
    newPolicyCtx judgedByLibrary_newPolicyCtx

/-! ### The configuration with a callback -/

theorem sslSecLevelMismatch_ne_success : Errno.sslSecLevelMismatch ≠ .success := by decide

theorem lateSettings_withAppVerify {g : Globals} (hinit : g.scfInitialized = true)
    (config : SCFConnectionConfig) (cb arg : Address) {c : SCFPolicyCtx} (hrole : c.role ≠ .none)
    (hmode : c.policyMode ≠ .customer) :
    lateSettings g (config.withAppVerify cb arg) c = (.sslSecLevelMismatch, c) := by
  have hset : scfSetAppVerifyCallback g .valid (some cb) arg c = (.sslSecLevelMismatch, c) := by
    unfold scfSetAppVerifyCallback
    rw [if_neg (by decide), if_neg hrole, hinit, if_neg (by decide),
      if_pos (show (c.policyMode ≠ .customer || c.verifyMode &&& .customer = 0) = true by
        simp [hmode])]
  have hret : (scfSetAppVerifyCallback g .valid (some cb) arg c).1 ≠ .success := by
    rw [hset]
    exact sslSecLevelMismatch_ne_success
  exact (if_pos hret).trans hset

/-- Keys or certificates that can be set up leave the policy and the TLS configuration of the
context alone. -/
theorem setupKeys_run {g : Globals} {env : SetupEnv} {config : SCFConnectionConfig}
    (hkeys : KeysOk g env config) {ctx : ℕ} {p : Process} {c : SCFPolicyCtx}
    (hread : p.ctxs.read ctx = some c) :
    ∃ p' c', (if config.usePSK then setupPSK g env.psk config ctx
        else .done (setupCertificates env.certs config)).run p = (.success, p') ∧
      p'.ctxs.read ctx = some c' ∧ c'.policy = c.policy ∧ c'.sslConfig = c.sslConfig := by
  unfold KeysOk at hkeys
  cases hpsk : config.usePSK with
  | false =>
    rw [hpsk] at hkeys
    have hcerts : setupCertificates env.certs config = .success :=
      (setupCertificates_success_iff _ _).mpr hkeys
    refine ⟨p, c, ?_, hread, rfl, rfl⟩
    rw [hcerts]
    rfl
  | true =>
    rw [hpsk] at hkeys
    rcases setupPSK_run g env.psk config hread with
      ⟨hnot, -⟩ | ⟨-, -, hrun⟩ | ⟨-, -, now, hrun⟩
    · exact absurd hkeys hnot
    · exact ⟨p, c, hrun, hread, rfl, rfl⟩
    · refine ⟨_, { c with refCnt := c.refCnt + 1 }, hrun, ?_, rfl, rfl⟩
      exact read_setCtx hread _

/-- Keys and certificates have nothing to do with the callback. -/
theorem KeysOk.withAppVerify {g : Globals} {env : SetupEnv} {config : SCFConnectionConfig}
    (hkeys : KeysOk g env config) (cb arg : Address) :
    KeysOk g env (config.withAppVerify cb arg) := by
  unfold KeysOk SCFConnectionConfig.withAppVerify at *
  dsimp only
  split_ifs at hkeys with hpsk
  · rw [if_pos hpsk]
    exact ⟨hkeys.init, hkeys.newOk, hkeys.key, hkeys.setKey, hkeys.setVersion⟩
  · rw [if_neg hpsk]
    exact ⟨hkeys.ca, hkeys.own, hkeys.crl⟩

/-- The settings before the callback succeed as they do without one. -/
theorem configureCtx_withAppVerify {g : Globals} {env : SetupEnv} {config : SCFConnectionConfig}
    {p : Process} (hbasic : BasicOk g env config p.providerCtx) (hkeys : KeysOk g env config)
    (cb arg : Address) :
    ∃ p' c', (configureCtx g env (config.withAppVerify cb arg) p.ctxs.size).run
        (p.addCtx newPolicyCtx) = (.sslSecLevelMismatch, p') ∧
      p'.ctxs.read p.ctxs.size = some c' ∧ JudgedByLibrary c' := by
  obtain ⟨-, hbasic_iff, hconfigured⟩ := basicSettings_spec g env config p.providerCtx
  have hjudged := basicSettings_judgedByLibrary g env config p.providerCtx
  have hret := hbasic_iff.mpr hbasic
  have hconf := hconfigured hret
  rw [configureCtx_run g env _ (read_addCtx newPolicyCtx p)]
  have hsame : basicSettings g env (config.withAppVerify cb arg) (p.addCtx newPolicyCtx).providerCtx
      newPolicyCtx = basicSettings g env config p.providerCtx newPolicyCtx := rfl
  rw [hsame]
  generalize basicSettings g env config p.providerCtx newPolicyCtx = out at *
  obtain ⟨ret, c⟩ := out
  dsimp only at hret hconf hjudged ⊢
  rw [if_neg (not_not.mpr hret), setCtx_addCtx]
  obtain ⟨p', c', hrun, hread, hpolicy, hcfg⟩ :=
    setupKeys_run (hkeys.withAppVerify cb arg) (read_addCtx c p)
  rw [andThen_run _ _ hrun, if_neg (not_not.mpr rfl), onCtx_lateSettings g _ _ p' c' hread]
  dsimp only
  have hrole : c'.role = config.role := (congrArg PolicyArgs.role hpolicy).trans hconf.role
  have hrole_ne : c'.role ≠ .none := by
    intro hnone
    have hcheck := hbasic.role
    rw [← hrole, hnone] at hcheck
    exact absurd hcheck (by decide)
  have hmode : c'.policyMode ≠ .customer := by
    rw [show c'.policyMode = c.policyMode from congrArg PolicyArgs.policyMode hpolicy]
    exact hconf.mode_ne
  rw [lateSettings_withAppVerify hbasic.init config cb arg hrole_ne hmode]
  refine ⟨_, c', rfl, read_setCtx hread c', ?_⟩
  intro cfg hcfg'
  exact hjudged cfg (hcfg ▸ hcfg')

theorem setupPolicyContext_withAppVerify {g : Globals} {env : SetupEnv} {conn : SCFConnectionImpl}
    {p : Process} (hok : SetupOk g env conn p) (cb arg : Address) :
    ∃ conn' p', (setupPolicyContext g env (conn.withAppVerify cb arg)).run p =
        ((.sslSecLevelMismatch, conn'), p') ∧
      installedAppVerify conn' p' = none := by
  have hengine := setupCryptoEngine_outcome g env (conn.withAppVerify cb arg) p
  have hprovider := setupCryptoEngine_providerCtx (g.adaptor_of_init hok.basic.init) env
    (conn.withAppVerify cb arg) p
  unfold setupPolicyContext
  rw [Resumption.run_bind]
  generalize (setupCryptoEngine g env (conn.withAppVerify cb arg)).run p = out at *
  obtain ⟨⟨ret, conn'⟩, p'⟩ := out
  dsimp only at hprovider ⊢
  have hret : ret = .success := by
    by_contra hret
    exact absurd ((hengine.ret hret).symm.trans hok.basic.init) (by decide)
  rw [if_neg (not_not.mpr hret), Resumption.run_bind]
  rcases newCtx_run g env.ctxAllocOk p' with ⟨hnot, -⟩ | ⟨-, hrun⟩
  · exact absurd ⟨hok.basic.init, hok.alloc⟩ hnot
  have hbasic : BasicOk g env conn.config p'.providerCtx := by
    rw [hprovider]
    exact hok.basic
  obtain ⟨p'', c, hctx, hread, hjudged⟩ := configureCtx_withAppVerify hbasic hok.keys cb arg
  have hconfig : conn'.config = conn.config.withAppVerify cb arg := hengine.config
  rw [hrun]
  dsimp only
  rw [Resumption.run_bind, hconfig, hctx]
  refine ⟨{ conn' with policyCtx := some p'.ctxs.size }, p'', ?_, ?_⟩
  · rw [← hconfig]
    rfl
  · show (do
      let c ← p''.ctxs.read p'.ctxs.size
      let cfg ← c.sslConfig
      cfg.certVerifyCallback) = none
    rw [hread]
    cases hcfg : c.sslConfig with
    | none => simp [hcfg]
    | some cfg => simp [hcfg, hjudged cfg hcfg]

/-- The callback that the configuration offers is not honoured, whatever the security level and the
verification policy: where `SetupPolicyContext` succeeds (and so the configuration has no callback),
it refuses every callback as a mismatch of the security level, and none is installed. -/
theorem appVerifyCb_never_honoured {g : Globals} {env : SetupEnv} {conn : SCFConnectionImpl}
    {p : Process} (hok : ((setupPolicyContext g env conn).run p).1.1 = .success)
    (cb arg : Address) :
    let out := (setupPolicyContext g env (conn.withAppVerify cb arg)).run p
    conn.config.appVerifyCb = none ∧ ¬ HonoursAppVerify g env conn p cb arg ∧
      out.1.1 = .sslSecLevelMismatch ∧ installedAppVerify out.1.2 out.2 = none := by
  have hsetup : SetupOk g env conn p :=
    (setupPolicyContext_outcome g env conn p).success_iff.mp hok
  obtain ⟨conn', p', hrun, hnone⟩ := setupPolicyContext_withAppVerify hsetup cb arg
  unfold HonoursAppVerify
  dsimp only
  rw [hrun]
  exact ⟨hsetup.noCallback, fun h => sslSecLevelMismatch_ne_success h.1, rfl, hnone⟩

/-- The client that `SCFConnectionConfig` describes by default verifies its peer; it is set up
without a callback. -/
theorem appVerifyCb_never_honoured_default :
    ((setupPolicyContext .ready .plain (newConnection {})).run {}).1.1 = .success ∧
      ¬ HonoursAppVerify .ready .plain (newConnection {}) {} 1 2 := by
  have hok : ((setupPolicyContext .ready .plain (newConnection {})).run {}).1.1 = .success := rfl
  exact ⟨hok, (appVerifyCb_never_honoured hok 1 2).2.1⟩

theorem appVerifyCb_refused :
    ∃ (env : SetupEnv) (config : SCFConnectionConfig) (cb arg : Address),
      config.appVerifyCb = none ∧ config.certVerifyPolicy = .required ∧
      ((setupPolicyContext .ready env (newConnection config)).run {}).1.1 = .success ∧
      ((setupPolicyContext .ready env ((newConnection config).withAppVerify cb arg)).run {}).1.1 =
        .sslSecLevelMismatch ∧
      ¬ HonoursAppVerify .ready env (newConnection config) {} cb arg := by
  have hrefused : ((setupPolicyContext .ready .plain ((newConnection {}).withAppVerify 1 2)).run
    {}).1.1 = .sslSecLevelMismatch := rfl
  refine ⟨.plain, {}, 1, 2, rfl, rfl, rfl, hrefused, fun h => ?_⟩
  exact sslSecLevelMismatch_ne_success (hrefused.symm.trans h.1)

end Scf
