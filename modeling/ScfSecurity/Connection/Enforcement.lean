import ScfSecurity.Connection.View
import ScfSecurity.Policy.Deployment

/-!
# What the configuration of a connection asks for

A user chooses a role, a security level and a certificate policy, and `SetupPolicyContext` turns
them into settings of OpenSSL: the method, version bounds, cipher suites, groups and the
verification mode. A set-up that succeeds has gone through all of them. Only the groups may be
missing: a failure to set them is no error.

## Main definitions

- `SslCtx.Enforces`: a TLS configuration with the settings of a connection
- `Enforced`: the object of a connection works under the settings of the connection

## Main results

- `SslCtx.Enforces.enables_iff`, `installedMode_mapCertVerifyPolicy`: what the settings mean
- `setupPolicyContext_enforces`: a successful set-up leaves all settings
-/

namespace Scf

open Automaton

/-- The key exchange groups of a security level, as OpenSSL gets them. -/
def SecurityLevelMapping.groupsStr (mapping : SecurityLevelMapping) : StdString :=
  ascii (String.intercalate ":" mapping.keyExchangeGroups)

/-- A TLS configuration with the settings of a connection. The groups may be missing, unless they
are `known` to OpenSSL. -/
structure SslCtx.Enforces (known : Prop) (config : SCFConnectionConfig) (cfg : SslCtx) : Prop where
  method : calGetSslMethod config.role = some cfg.method
  verifyMode : cfg.verifyMode = installedMode (mapCertVerifyPolicy config.certVerifyPolicy)
  noPsk : cfg.pskFindSessionCallback = false ∧ cfg.pskUseSessionCallback = false
  options : cfg.options = sslOpNoRenegotiation
  minVersion : cfg.minProtoVersion =
    (getSecurityLevelMapping config.securityLevel).protocolVersionMin
  maxVersion : cfg.maxProtoVersion =
    (getSecurityLevelMapping config.securityLevel).protocolVersionMax
  suites : cfg.ciphersuites =
    some (cipherSuitesStr (getSecurityLevelMapping config.securityLevel).tls13CipherSuites).dropLast
  groups : cfg.groups = some (getSecurityLevelMapping config.securityLevel).groupsStr ∨
    ¬ known ∧ cfg.groups = none

/-- What a TLS connection takes over from its configuration. -/
def SslCtx.settings (cfg : SslCtx) : SslMethod × UInt32 × Bool × Bool :=
  (cfg.method, cfg.verifyMode, cfg.pskFindSessionCallback, cfg.pskUseSessionCallback)

/-- The object of the connection belongs to a context with the settings of the connection, and its
TLS connection has them too. -/
def Enforced (known : Prop) (p : Process) (conn : SCFConnectionImpl) : Prop :=
  ∀ obj o c, conn.policyObj = some obj → p.objs.read obj = some o →
    p.ctxs.read o.policyCtx = some c →
    ∃ cfg, c.sslConfig = some cfg ∧ cfg.Enforces known conn.config ∧
      ∀ ssl, o.obj.sslCtx = some ssl → ssl.settings = cfg.settings

theorem enforced_of_no_obj {conn : SCFConnectionImpl} (h : conn.policyObj = none) (known : Prop)
    (p : Process) : Enforced known p conn := by
  intro obj o c hobj
  rw [h] at hobj
  cases hobj

/-! ### What the settings mean -/

/-- TLS 1.3, and TLS 1.2 at 112 bits, are the versions between the bounds of a security level. -/
theorem protocolVersions_iff (level : SCFSecurityLevel) (version : UInt32) :
    (getSecurityLevelMapping level).protocolVersionMin ≤ version ∧
        version ≤ (getSecurityLevelMapping level).protocolVersionMax ↔
      version = tls13Version ∨ version = tls12Version ∧ level = .bit112 := by
  have hmin : (getSecurityLevelMapping level).protocolVersionMin =
      if level = .bit112 then tls12Version else tls13Version := by
    unfold getSecurityLevelMapping
    split_ifs <;> rfl
  obtain ⟨-, hmax, -⟩ := getSecurityLevelMapping_spec level
  rw [hmin, hmax]
  simp only [tls13Version, tls12Version, UInt32.le_iff_toNat_le, ← UInt32.toNat_inj]
  split_ifs with hlevel
  · simp only [hlevel, and_true, UInt32.toNat_ofNat]
    omega
  · simp only [hlevel, and_false, or_false, UInt32.toNat_ofNat]
    omega

/-- Every certificate policy other than `NONE` requires a certificate of the peer, also the
optional one. -/
theorem installedMode_mapCertVerifyPolicy (policy : SCFCertVerifyPolicy) :
    installedMode (mapCertVerifyPolicy policy) =
      if policy = .none then sslVerifyNone else sslVerifyPeer ||| sslVerifyFailIfNoPeerCert := by
  unfold mapCertVerifyPolicy
  split_ifs <;> decide

theorem SslCtx.Enforces.enables_iff {known : Prop} {config : SCFConnectionConfig} {cfg : SslCtx}
    (h : cfg.Enforces known config) (version : UInt32) :
    cfg.Enables version ↔
      version = tls13Version ∨ version = tls12Version ∧ config.securityLevel = .bit112 := by
  rw [← protocolVersions_iff]
  unfold SslCtx.Enables
  have hbounds := getSecurityLevelMapping_spec config.securityLevel
  have hoptions : (mapVersion2NoOpt version).all fun sslOp => cfg.options &&& sslOp = 0 := by
    rw [h.options]
    unfold mapVersion2NoOpt
    split_ifs <;> decide
  have hmin : cfg.minProtoVersion ≠ 0 := by
    rw [h.minVersion]
    rcases hbounds.1 with ⟨-, hmin⟩ | ⟨-, hmin⟩
    · rw [hmin]
      decide
    · rw [hmin]
      decide
  have hmax : cfg.maxProtoVersion ≠ 0 := by
    rw [h.maxVersion, hbounds.2.1]
    decide
  rw [← h.minVersion, ← h.maxVersion]
  simp [hoptions, hmin, hmax]

/-! ### The settings of a new context -/

/-- OpenSSL makes a configuration with its own default groups. -/
theorem initPolicyByMode_groups {env : SslCtxEnv} {ctx : SCFPolicyCtx}
    (hnone : ctx.sslConfig = none) {cfg : SslCtx}
    (h : (initPolicyByMode env ctx).2.sslConfig = some cfg) : cfg.groups = none := by
  have hset : ∀ minVersion : UInt32, ∀ cfg', cfg'.groups = none →
      (setProtocolVersion minVersion tls13Version [] env.setMinOk env.setMaxOk cfg').2.groups =
        none := by
    intro minVersion cfg' hcfg'
    obtain ⟨_, _, _, heq, -⟩ :=
      setProtocolVersion_spec minVersion tls13Version [] env.setMinOk env.setMaxOk cfg'
    rw [heq]
    exact hcfg'
  have hssl : ∀ minVersion, (initSsl env minVersion ctx).2.sslConfig = some cfg →
      cfg.groups = none := by
    intro minVersion h
    unfold initSsl at h
    cases hmethod : calGetSslMethod ctx.role with
    | none => simp [hmethod, hnone] at h
    | some method =>
      cases hnew : newSslCtx env method with
      | none => simp [hmethod, hnew, hnone] at h
      | some cfg' =>
        obtain ⟨libCtx, rfl, -⟩ := newSslCtx_eq hnew
        simp only [hmethod, hnew] at h
        split_ifs at h
        · simp [hnone] at h
        · simp at h
        · obtain rfl := Option.some.inj h
          exact hset minVersion _ rfl
  unfold initPolicyByMode at h
  split_ifs at h
  · exact hssl _ h
  · exact hssl _ h
  · unfold initSslCustomer at h
    cases hmethod : calGetSslMethod ctx.role with
    | none => simp [hmethod, hnone] at h
    | some method =>
      cases hnew : newSslCtx env method with
      | none => simp [hmethod, hnew, hnone] at h
      | some cfg' =>
        obtain ⟨libCtx, rfl, -⟩ := newSslCtx_eq hnew
        simp only [hmethod, hnew] at h
        split_ifs at h
        · simp [hnone] at h
        · obtain rfl := Option.some.inj h
          rfl

/-- What `SCF_SetPolicy` leaves in a new context. -/
structure SslCtx.Policed (config : SCFConnectionConfig) (cfg : SslCtx) : Prop where
  built : cfg.BuiltFor config.policy
  noPsk : cfg.pskFindSessionCallback = false ∧ cfg.pskUseSessionCallback = false
  options : cfg.options = sslOpNoRenegotiation
  groups : cfg.groups = none

/-- On a context without a configuration `SCF_SetPolicy` leaves none, or one without groups. -/
theorem setPolicy_groups {g : Globals} {policy : PolicyArgs} {env : SslCtxEnv}
    {ctx : SCFPolicyCtx} (hnone : ctx.sslConfig = none) (hacc : PolicyAccepted g .valid policy)
    {cfg : SslCtx} (h : (policy.set g .valid env ctx).2.sslConfig = some cfg) :
    cfg.groups = none := by
  have hnone' : (ctx.setPolicy policy.role policy.verifyMode policy.policyMode).sslConfig = none :=
    hnone
  have hinit : ∀ cfg, (initPolicyByMode env (ctx.setPolicy policy.role policy.verifyMode
      policy.policyMode)).2.sslConfig = some cfg → cfg.groups = none := fun cfg =>
    initPolicyByMode_groups hnone'
  rw [scfSetPolicy_accepted hacc] at h
  generalize initPolicyByMode env (ctx.setPolicy policy.role policy.verifyMode
    policy.policyMode) = out at h hinit
  dsimp only at h
  split_ifs at h
  · exact hinit cfg h
  · unfold setVerifyMode at h
    cases hout : out.2.sslConfig with
    | none => simp [hout] at h
    | some cfg' =>
      rw [hout] at h
      obtain rfl := Option.some.inj h
      exact hinit cfg' hout

theorem setPolicy_policed {g : Globals} {env : SslCtxEnv} {config : SCFConnectionConfig}
    (h : (config.policy.set g .valid env newPolicyCtx).1 = .success) :
    ∃ cfg, (config.policy.set g .valid env newPolicyCtx).2.sslConfig = some cfg ∧
      cfg.Policed config := by
  have hout := scfSetPolicy_outcome g .valid config.policy env newPolicyCtx
  have hborn : ∀ cfg, (config.policy.set g .valid env newPolicyCtx).2.sslConfig = some cfg →
      cfg.Born (env.usedCtx env.providerCtx) := fun cfg => scfSetPolicy_born rfl
  have hgroups : ∀ cfg, PolicyAccepted g .valid config.policy →
      (config.policy.set g .valid env newPolicyCtx).2.sslConfig = some cfg → cfg.groups = none :=
    fun cfg hacc => setPolicy_groups rfl hacc
  generalize config.policy.set g .valid env newPolicyCtx = out at *
  cases hout with
  | rejected hacc hret => exact absurd h hret
  | notCreated hacc henv hret => exact absurd h hret
  | lost hacc henv hbounds hret => exact absurd h hret
  | done hacc henv hbounds hbuilt hfind huse =>
    exact ⟨_, rfl, hbuilt, ⟨hfind, huse⟩, (hborn _ rfl).options, hgroups _ hacc rfl⟩

section Settings

variable {g : Globals} {env : SetupEnv} {config : SCFConnectionConfig} {c : SCFPolicyCtx}
  {cfg : SslCtx}

/-- The groups are set, if OpenSSL takes them. -/
theorem groupSettings_sslConfig (env : SetupEnv) (config : SCFConnectionConfig)
    (hadaptor : g.adaptor = true) (hcfg : c.sslConfig = some cfg) :
    (groupSettings g env config c).2.sslConfig = some { cfg with
      groups := if env.groupsOk then some (getSecurityLevelMapping config.securityLevel).groupsStr
        else cfg.groups } := by
  have hgroups :
      (getSecurityLevelMapping config.securityLevel).keyExchangeGroups.isEmpty = false := by
    unfold getSecurityLevelMapping
    split_ifs <;> rfl
  unfold groupSettings setKeyExchangeGroups
  simp only [hadaptor, hgroups, hcfg]
  cases env.groupsOk with
  | false => exact hcfg
  | true => rfl

/-- The bounds are set. No version is forbidden. -/
theorem versionSettings_sslConfig (hcfg : c.sslConfig = some cfg)
    (h : (versionSettings g env config c).1 = .success) :
    (versionSettings g env config c).2.sslConfig = some { cfg with
      minProtoVersion := (getSecurityLevelMapping config.securityLevel).protocolVersionMin
      maxProtoVersion := (getSecurityLevelMapping config.securityLevel).protocolVersionMax } := by
  let call : VersionCall := ⟨⟨(getSecurityLevelMapping config.securityLevel).protocolVersionMin,
    (getSecurityLevelMapping config.securityLevel).protocolVersionMax, []⟩, g, .valid, env.setMinOk,
    env.setMaxOk⟩
  have hout : SetVersionOutcome call c (versionSettings g env config c) := setVersion_outcome call c
  generalize versionSettings g env config c = out at *
  cases hout with
  | rejected hret hreach => exact absurd h hret
  | refused hret hreach hnot => exact absurd h hret
  | done hreach hcomp hforbid =>
    obtain rfl := Option.some.inj (hcfg.symm.trans hreach.config)
    obtain rfl : (0 : UInt64) = _ := Option.some.inj hforbid
    rw [UInt64.or_zero]
    rfl

/-- The cipher suites are set. -/
theorem suiteSettings_sslConfig (hcfg : c.sslConfig = some cfg)
    (h : (suiteSettings g env config c).1 = .success) :
    (suiteSettings g env config c).2.sslConfig = some { cfg with
      ciphersuites := some
        (cipherSuitesStr (getSecurityLevelMapping config.securityLevel).tls13CipherSuites).dropLast
        } := by
  obtain ⟨-, -, hsuites, -⟩ := getSecurityLevelMapping_spec config.securityLevel
  have heq : suiteSettings g env config c = scfSetCipherSuites g .valid
      (some (getSecurityLevelMapping config.securityLevel).tls13CipherSuites) env.cipherAllocOk
      env.cipherSetOk c := if_neg (by rw [hsuites]; decide)
  rw [heq] at h ⊢
  rcases scfSetCipherSuites_cases g .valid
      (some (getSecurityLevelMapping config.securityLevel).tls13CipherSuites) env.cipherAllocOk
      env.cipherSetOk c with ⟨ret, hret, hsame⟩ | ⟨suites, hsome, hset⟩
  · rw [hsame] at h
    exact absurd h hret
  · obtain rfl := Option.some.inj hsome
    rw [hset, setSslConfig_sslConfig, hcfg]
    rfl

end Settings

/-- The first settings, on a new context. -/
theorem basicSettings_enforces {known : Prop} {g : Globals} {env : SetupEnv}
    (config : SCFConnectionConfig) (providerCtx : Option Address)
    (hknown : known → env.groupsOk = true)
    (h : (basicSettings g env config providerCtx newPolicyCtx).1 = .success) :
    ∃ cfg, (basicSettings g env config providerCtx newPolicyCtx).2.sslConfig = some cfg ∧
      cfg.Enforces known config := by
  have hinit := ((basicSettings_spec g env config providerCtx).2.1.mp h).init
  have hgroups : ∀ c, (groupSettings g env config c).1 = .success := by
    intro c
    unfold groupSettings
    dsimp only
    split_ifs <;> rfl
  unfold basicSettings at h ⊢
  obtain ⟨hpolicy, hrest⟩ := thenCtx_success_iff.mp h
  obtain ⟨-, hrest⟩ := thenCtx_success_iff.mp hrest
  obtain ⟨hversions, hsuites⟩ := thenCtx_success_iff.mp hrest
  obtain ⟨cfg, hcfg, hpoliced⟩ := setPolicy_policed hpolicy
  have hgroups_cfg := groupSettings_sslConfig env config (g.adaptor_of_init hinit) hcfg
  have hversions_cfg := versionSettings_sslConfig hgroups_cfg hversions
  have hsuites_cfg := suiteSettings_sslConfig hversions_cfg hsuites
  have hthen : ∀ (f f' : SCFPolicyCtx → Errno × SCFPolicyCtx) c, (f c).1 = .success →
      thenCtx f f' c = f' (f c).2 := fun _ _ _ hret => if_neg (not_not.mpr hret)
  rw [hthen _ _ _ hpolicy, hthen _ _ _ (hgroups _), hthen _ _ _ hversions]
  refine ⟨_, hsuites_cfg, hpoliced.built.method, hpoliced.built.verifyMode, hpoliced.noPsk,
    hpoliced.options, rfl, rfl, rfl, ?_⟩
  dsimp only
  by_cases hok : env.groupsOk = true
  · exact .inl (if_pos hok)
  · exact .inr ⟨fun hk => hok (hknown hk), (if_neg hok).trans hpoliced.groups⟩

/-! ### Setting up a connection -/

/-- The context has this TLS configuration. -/
def Process.HasConfig (ctx : ℕ) (cfg : SslCtx) (p : Process) : Prop :=
  ∃ c, p.ctxs.read ctx = some c ∧ c.sslConfig = some cfg

section Setup

variable {known : Prop} {g : Globals} {env : SetupEnv} {config : SCFConnectionConfig}
  {conn conn' : SCFConnectionImpl} {p p' : Process} {ret : Errno}

/-- The last settings leave the TLS configuration alone. -/
theorem lateSettings_sslConfig {c : SCFPolicyCtx} (hmode : c.policyMode ≠ .customer) :
    (lateSettings g config c).2.sslConfig = c.sslConfig := by
  have hupdate : ∀ c : SCFPolicyCtx, (scfSetKeyAutoUpdateParam g .valid true
      defaultUpdateIntervalSec defaultUpdateByteLimit c).2.sslConfig = c.sslConfig := by
    intro c
    unfold scfSetKeyAutoUpdateParam
    dsimp only
    split_ifs <;> rfl
  unfold lateSettings thenCtx
  cases hcb : config.appVerifyCb with
  | none =>
    dsimp only
    rw [if_neg (not_not.mpr rfl)]
    split_ifs
    · exact hupdate c
    · rfl
  | some cb =>
    obtain ⟨ret, hret, hrefused⟩ :=
      scfSetAppVerifyCallback_refused g .valid (some cb) config.appVerifyArg hmode
    simp only [hrefused, if_pos hret]

/-- The last settings, in the memory. -/
theorem lateSettings_hasConfig (g : Globals) (config : SCFConnectionConfig) {ctx : ℕ}
    {cfg : SslCtx} {c : SCFPolicyCtx}
    (hread : p.ctxs.read ctx = some c) (hcfg : c.sslConfig = some cfg)
    (hmode : c.policyMode ≠ .customer) :
    ((andThen (setupAppVerify g config ctx) (setupKeyAutoUpdate g config ctx)).run p).2.HasConfig
      ctx cfg := by
  rw [onCtx_lateSettings g config ctx p c hread]
  exact ⟨_, read_setCtx hread _, (lateSettings_sslConfig hmode).trans hcfg⟩

/-- Keys and certificates do not concern the settings. -/
theorem configureCtx_enforces (hknown : known → env.groupsOk = true)
    (hrun : (configureCtx g env config p.ctxs.size).run (p.addCtx newPolicyCtx) =
      (.success, p')) :
    ∃ cfg, p'.HasConfig p.ctxs.size cfg ∧ cfg.Enforces known config := by
  have hread := read_addCtx newPolicyCtx p
  rw [configureCtx_run g env config hread] at hrun
  have hspec := basicSettings_spec g env config (p.addCtx newPolicyCtx).providerCtx
  have henforces := basicSettings_enforces (g := g) config
    (p.addCtx newPolicyCtx).providerCtx hknown
  generalize basicSettings g env config (p.addCtx newPolicyCtx).providerCtx newPolicyCtx = out at *
  obtain ⟨ret, c⟩ := out
  dsimp only at hrun hspec henforces
  by_cases hret : ret = .success
  case neg =>
    rw [if_pos hret] at hrun
    exact absurd (congrArg Prod.fst hrun) hret
  rw [if_neg (not_not.mpr hret)] at hrun
  obtain ⟨cfg, hcfg, hcfg'⟩ := henforces hret
  have hmode := (hspec.2.2 hret).mode_ne
  have hread' := read_setCtx hread c
  have hlate : ∀ q c', q.ctxs.read p.ctxs.size = some c' → c'.sslConfig = some cfg →
      c'.policyMode ≠ .customer → (andThen (setupAppVerify g config p.ctxs.size)
        (setupKeyAutoUpdate g config p.ctxs.size)).run q = (.success, p') →
      ∃ cfg, p'.HasConfig p.ctxs.size cfg ∧ cfg.Enforces known config := by
    intro q c' hq hc' hmode' hrun
    have hhas := lateSettings_hasConfig g config hq hc' hmode'
    rw [hrun] at hhas
    exact ⟨cfg, hhas, hcfg'⟩
  cases hpsk : config.usePSK with
  | false =>
    rw [hpsk, if_neg (by decide), andThen_run _ _ (Resumption.run_done _ _)] at hrun
    split_ifs at hrun with hcerts
    · exact absurd (congrArg Prod.fst hrun) hcerts
    · exact hlate _ c hread' hcfg hmode hrun
  | true =>
    rw [hpsk, if_pos rfl] at hrun
    rcases setupPSK_run g env.psk config hread' with
      ⟨-, ret', hret', hsetup⟩ | ⟨-, -, hsetup⟩ | ⟨-, -, now, hsetup⟩
    · rw [andThen_run _ _ hsetup, if_pos hret'] at hrun
      exact absurd (congrArg Prod.fst hrun) hret'
    · rw [andThen_run _ _ hsetup, if_neg (not_not.mpr rfl)] at hrun
      exact hlate _ c hread' hcfg hmode hrun
    · rw [andThen_run _ _ hsetup, if_neg (not_not.mpr rfl)] at hrun
      have hread'' : (((p.addCtx newPolicyCtx).setCtx p.ctxs.size c).bindObj p.ctxs.size c
          (newPolicyObj c now)).ctxs.read p.ctxs.size = some { c with refCnt := c.refCnt + 1 } :=
        read_setCtx hread' _
      exact hlate _ _ hread'' hcfg hmode hrun

/-- Behind a successful `SetupPolicyContext` the context of the connection has the settings. -/
theorem setupPolicyContext_enforces (hknown : known → env.groupsOk = true)
    (hrun : (setupPolicyContext g env conn).run p = ((.success, conn'), p')) :
    ∃ ctx cfg, conn'.policyCtx = some ctx ∧ p'.HasConfig ctx cfg ∧
      cfg.Enforces known conn.config := by
  have hengine := setupCryptoEngine_outcome g env conn p
  unfold setupPolicyContext at hrun
  rw [Resumption.run_bind] at hrun
  generalize (setupCryptoEngine g env conn).run p = out at *
  obtain ⟨⟨ret, conn₁⟩, p₁⟩ := out
  dsimp only at hrun
  by_cases hret : ret = .success
  case neg =>
    rw [if_pos hret] at hrun
    exact absurd (congrArg (fun out => out.1.1) hrun) hret
  subst hret
  rw [if_neg (not_not.mpr rfl), Resumption.run_bind] at hrun
  rcases newCtx_run g env.ctxAllocOk p₁ with ⟨-, hnew⟩ | ⟨-, hnew⟩
  · rw [hnew] at hrun
    exact absurd (congrArg (fun out => out.1.1) hrun) (show Errno.memAlloc ≠ .success by decide)
  · rw [hnew] at hrun
    dsimp only at hrun
    rw [Resumption.run_bind] at hrun
    rcases hconf : (configureCtx g env conn₁.config p₁.ctxs.size).run
      (p₁.addCtx newPolicyCtx) with ⟨ret, p₂⟩
    rw [hconf] at hrun
    obtain ⟨hpair, rfl⟩ := Prod.mk.inj hrun
    obtain ⟨rfl, rfl⟩ := Prod.mk.inj hpair
    obtain ⟨cfg, hhas, henforces⟩ := configureCtx_enforces hknown hconf
    rw [hengine.config] at henforces
    exact ⟨_, cfg, rfl, hhas, henforces⟩

end Setup

end Scf
