import ScfSecurity.Connection.Effects
import ScfSecurity.Policy.ProtocolVersion

/-!
# What the set-up of a connection does to its context

`SetupPolicyContext` takes a new context through the functions of the policy interface until one
of them fails. Without pre-shared keys it touches nothing but the context, and each function is
one on contexts, so that the whole is one as well.

## Main definitions

- `OnCtx`: a call that is a function on one context
- `basicSettings`, `lateSettings`: the functions before and after keys and certificates
- `BasicOk`: the environment lets the first of them succeed

## Main results

- `configureCtx_run`: the set-up in terms of these functions
- `basicSettings_spec`: the context behind the first of them
-/

namespace Scf

open Automaton

/-- A context is in another state. -/
def Process.setCtx (ctx : ℕ) (c : SCFPolicyCtx) (p : Process) : Process :=
  { p with ctxs := p.ctxs.modify ctx fun _ => c }

/-- A new object. -/
def Process.addObj (o : BoundObj) (p : Process) : Process :=
  { p with objs := (p.objs.alloc o).2 }

theorem read_setCtx {ctx : ℕ} {c : SCFPolicyCtx} {p : Process} (h : p.ctxs.read ctx = some c)
    (c' : SCFPolicyCtx) : (p.setCtx ctx c').ctxs.read ctx = some c' := by
  show (p.ctxs.modify ctx fun _ => c').read ctx = some c'
  rw [Heap.read_modify, if_pos rfl, h]
  rfl

theorem setCtx_self {ctx : ℕ} {c : SCFPolicyCtx} {p : Process} (h : p.ctxs.read ctx = some c) :
    p.setCtx ctx c = p := by
  have hsame : p.ctxs.modify ctx (fun _ => c) = p.ctxs :=
    Heap.modify_eq_self fun a ha => Option.some.inj (h.symm.trans ha)
  unfold Process.setCtx
  rw [hsame]

theorem setCtx_setCtx (ctx : ℕ) (c c' : SCFPolicyCtx) (p : Process) :
    (p.setCtx ctx c).setCtx ctx c' = p.setCtx ctx c' := by
  unfold Process.setCtx
  dsimp only
  rw [Heap.modify_modify]
  rfl

/-- One function on a context after another, until one fails. -/
def thenCtx (f f' : SCFPolicyCtx → Errno × SCFPolicyCtx) (c : SCFPolicyCtx) :
    Errno × SCFPolicyCtx :=
  if (f c).1 ≠ .success then f c else f' (f c).2

/-- The call does to the context what the function does, which may depend on the library context
of the adaptor's engine, and nothing else. -/
def OnCtx (ctx : ℕ) (m : Resumption Process Errno)
    (f : Option Address → SCFPolicyCtx → Errno × SCFPolicyCtx) : Prop :=
  ∀ p c, p.ctxs.read ctx = some c →
    m.run p = ((f p.providerCtx c).1, p.setCtx ctx (f p.providerCtx c).2)

theorem onCtx_withCtx (ctx : ℕ) (f : SCFPolicyCtx → Errno × SCFPolicyCtx) :
    OnCtx ctx (withCtx ctx f) fun _ => f := by
  intro p c hread
  rw [withCtx, Resumption.run_critical, hread]
  rfl

theorem onCtx_done (ctx : ℕ) (ret : Errno) : OnCtx ctx (.done ret) fun _ c => (ret, c) := by
  intro p c hread
  rw [Resumption.run_done, setCtx_self hread]

/-- A call whose failure does not count. -/
theorem OnCtx.ignore {ctx : ℕ} {m : Resumption Process Errno}
    {f : Option Address → SCFPolicyCtx → Errno × SCFPolicyCtx} (h : OnCtx ctx m f) :
    OnCtx ctx (m.bind fun _ => .done .success) fun a c => (.success, (f a c).2) := by
  intro p c hread
  rw [Resumption.run_bind, h p c hread]
  rfl

theorem OnCtx.andThen_run {ctx : ℕ} {m : Resumption Process Errno}
    {f : Option Address → SCFPolicyCtx → Errno × SCFPolicyCtx} (h : OnCtx ctx m f)
    (m' : Resumption Process Errno) {p : Process} {c : SCFPolicyCtx}
    (hread : p.ctxs.read ctx = some c) :
    (andThen m m').run p =
      if (f p.providerCtx c).1 ≠ .success then
        ((f p.providerCtx c).1, p.setCtx ctx (f p.providerCtx c).2)
      else m'.run (p.setCtx ctx (f p.providerCtx c).2) := by
  rw [andThen, Resumption.run_bind, h p c hread]
  split_ifs <;> rfl

theorem OnCtx.andThen {ctx : ℕ} {m m' : Resumption Process Errno}
    {f f' : Option Address → SCFPolicyCtx → Errno × SCFPolicyCtx} (h : OnCtx ctx m f)
    (h' : OnCtx ctx m' f') : OnCtx ctx (andThen m m') fun a => thenCtx (f a) (f' a) := by
  intro p c hread
  rw [h.andThen_run m' hread]
  unfold thenCtx
  dsimp only
  by_cases hret : (f p.providerCtx c).1 ≠ .success
  · rw [if_pos hret, if_pos hret]
  · rw [if_neg hret, if_neg hret, h' _ _ (read_setCtx hread _), setCtx_setCtx]
    rfl

theorem andThen_assoc {σ : Type} (m m' m'' : Resumption σ Errno) :
    Scf.andThen m (Scf.andThen m' m'') = Scf.andThen (Scf.andThen m m') m'' := by
  induction m with
  | done ret =>
    by_cases hret : ret = .success
    · subst hret
      rfl
    · have hdone : ∀ q, Scf.andThen (.done ret) q = (.done ret : Resumption σ Errno) :=
        fun _ => if_pos hret
      rw [hdone, hdone, hdone]
  | atomic update next ih => exact congrArg (Resumption.atomic update) (funext ih)

/-- The policy of a configuration. -/
def SCFConnectionConfig.policy (config : SCFConnectionConfig) : PolicyArgs where
  role := config.role
  verifyMode := mapCertVerifyPolicy config.certVerifyPolicy
  policyMode := (getSecurityLevelMapping config.securityLevel).policyMode

/-- The key exchange groups of a configuration, on a context. -/
def groupSettings (g : Globals) (env : SetupEnv) (config : SCFConnectionConfig)
    (c : SCFPolicyCtx) : Errno × SCFPolicyCtx :=
  let groups := (getSecurityLevelMapping config.securityLevel).keyExchangeGroups
  if groups.isEmpty || !g.adaptor then (.success, c)
  else (.success, (setKeyExchangeGroups groups env.groupsOk c).2)

/-- The versions of a configuration, on a context. -/
def versionSettings (g : Globals) (env : SetupEnv) (config : SCFConnectionConfig) :
    SCFPolicyCtx → Errno × SCFPolicyCtx :=
  let mapping := getSecurityLevelMapping config.securityLevel
  scfSetProtocolVersion g .valid mapping.protocolVersionMin mapping.protocolVersionMax []
    env.setMinOk env.setMaxOk

/-- The cipher suites of a configuration, on a context. -/
def suiteSettings (g : Globals) (env : SetupEnv) (config : SCFConnectionConfig)
    (c : SCFPolicyCtx) : Errno × SCFPolicyCtx :=
  let suites := (getSecurityLevelMapping config.securityLevel).tls13CipherSuites
  if suites.isEmpty then (.success, c)
  else scfSetCipherSuites g .valid (some suites) env.cipherAllocOk env.cipherSetOk c

/-- The settings before the keys and certificates, on a context. -/
def basicSettings (g : Globals) (env : SetupEnv) (config : SCFConnectionConfig)
    (providerCtx : Option Address) : SCFPolicyCtx → Errno × SCFPolicyCtx :=
  thenCtx (config.policy.set g .valid { env.sslCtx with providerCtx }) <|
  thenCtx (groupSettings g env config) <|
  thenCtx (versionSettings g env config) (suiteSettings g env config)

/-- The verification callback and the automatic key update of a configuration, on a context. -/
def lateSettings (g : Globals) (config : SCFConnectionConfig) : SCFPolicyCtx → Errno × SCFPolicyCtx :=
  thenCtx (fun c =>
    match config.appVerifyCb with
    | none => (.success, c)
    | some cb => scfSetAppVerifyCallback g .valid (some cb) config.appVerifyArg c) fun c =>
    if config.enableKeyAutoUpdate then
      (.success, (scfSetKeyAutoUpdateParam g .valid true defaultUpdateIntervalSec
        defaultUpdateByteLimit c).2)
    else (.success, c)

theorem onCtx_lateSettings (g : Globals) (config : SCFConnectionConfig) (ctx : ℕ) :
    OnCtx ctx (andThen (setupAppVerify g config ctx) (setupKeyAutoUpdate g config ctx))
      fun _ => lateSettings g config := by
  refine @OnCtx.andThen ctx _ _ (fun _ _ => _) (fun _ _ => _) ?_ ?_
  · unfold setupAppVerify
    cases config.appVerifyCb with
    | none => exact onCtx_done ctx .success
    | some cb => exact onCtx_withCtx ctx _
  · unfold setupKeyAutoUpdate
    cases config.enableKeyAutoUpdate with
    | false => exact onCtx_done ctx .success
    | true => exact (onCtx_withCtx ctx _).ignore

/-- The context after the basic settings, with what follows on it. -/
theorem configureCtx_run (g : Globals) (env : SetupEnv) (config : SCFConnectionConfig) {ctx : ℕ}
    {p : Process} {c : SCFPolicyCtx} (hread : p.ctxs.read ctx = some c) :
    (configureCtx g env config ctx).run p =
      let out := basicSettings g env config p.providerCtx c
      if out.1 ≠ .success then (out.1, p.setCtx ctx out.2)
      else (andThen (if config.usePSK then setupPSK g env.psk config ctx
        else .done (setupCertificates env.certs config))
        (andThen (setupAppVerify g config ctx) (setupKeyAutoUpdate g config ctx))).run
          (p.setCtx ctx out.2) := by
  have hpolicy : OnCtx ctx (setupPolicy g env config ctx) fun providerCtx =>
      config.policy.set g .valid { env.sslCtx with providerCtx } := by
    intro p c hread
    rw [setupPolicy, Resumption.run_bind, Resumption.run_load]
    exact onCtx_withCtx ctx _ p c hread
  have hgroups : OnCtx ctx (setupGroups g env config ctx) fun _ => groupSettings g env config := by
    unfold setupGroups groupSettings
    dsimp only
    split_ifs
    · exact onCtx_done ctx .success
    · exact (onCtx_withCtx ctx _).ignore
  have hversion : OnCtx ctx (setupProtocolVersion g env config ctx) fun _ =>
      versionSettings g env config := onCtx_withCtx ctx _
  have hsuites : OnCtx ctx (setupCipherSuites g env config ctx) fun _ =>
      suiteSettings g env config := by
    unfold setupCipherSuites suiteSettings
    dsimp only
    split_ifs
    · exact onCtx_done ctx .success
    · exact onCtx_withCtx ctx _
  have hbasic : OnCtx ctx (andThen (setupPolicy g env config ctx)
      (andThen (setupGroups g env config ctx) (andThen (setupProtocolVersion g env config ctx)
        (setupCipherSuites g env config ctx)))) (basicSettings g env config) :=
    hpolicy.andThen (hgroups.andThen (hversion.andThen hsuites))
  rw [← hbasic.andThen_run _ hread, ← andThen_assoc, ← andThen_assoc, ← andThen_assoc]
  rfl

/-! ### The context -/

/-- The library context in which OpenSSL makes a configuration for an engine with this one. -/
def SslCtxEnv.usedCtx (env : SslCtxEnv) (providerCtx : Option Address) : Option Address :=
  if env.hasNewEx && env.newExOk then providerCtx else none

/-- A configuration as `SCF_SetPolicy` makes it: in the library context of the engine, or in none,
and without forbidden versions. -/
structure SslCtx.Born (providerCtx : Option Address) (cfg : SslCtx) : Prop where
  libCtx : cfg.libCtx = none ∨ cfg.libCtx = providerCtx
  options : cfg.options = sslOpNoRenegotiation

theorem SslCtx.Initial.born {env : SslCtxEnv} {cfg : SslCtx} (h : cfg.Initial env) :
    cfg.Born (env.usedCtx env.providerCtx) := by
  refine ⟨h.libCtx.imp_right fun hused => ?_, h.options⟩
  rw [SslCtxEnv.usedCtx, if_pos hused.1]
  exact hused.2

/-- On a context without a configuration `SCF_SetPolicy` leaves none, or a new one. -/
theorem scfSetPolicy_born {g : Globals} {ctxPtr : Ptr} {role : SCFRole}
    {verifyMode : SCFVerifyMode} {policyMode : SCFPolicyMode} {env : SslCtxEnv}
    {ctx : SCFPolicyCtx} (hnone : ctx.sslConfig = none) {cfg : SslCtx}
    (h : (scfSetPolicy g ctxPtr role verifyMode policyMode env ctx).2.sslConfig = some cfg) :
    cfg.Born (env.usedCtx env.providerCtx) := by
  have hinit : ∀ cfg, (initPolicyByMode env (ctx.setPolicy role verifyMode
      policyMode)).2.sslConfig = some cfg → cfg.Born (env.usedCtx env.providerCtx) := by
    intro cfg hcfg
    have hnone' : (ctx.setPolicy role verifyMode policyMode).sslConfig = none := hnone
    rcases initPolicyByMode_cases env (ctx.setPolicy role verifyMode policyMode) with
      hsame | ⟨config, hconfig, hinitial⟩
    · rw [hsame, hnone'] at hcfg
      cases hcfg
    · rw [hconfig] at hcfg
      exact (hinitial cfg hcfg).born
  unfold scfSetPolicy at h
  split_ifs at h with hargs hg hadaptor
  · rw [hnone] at h
    cases h
  · rw [hnone] at h
    cases h
  · rw [hnone] at h
    cases h
  · generalize initPolicyByMode env (ctx.setPolicy role verifyMode policyMode) = out at h hinit
    dsimp only at h
    split_ifs at h
    · exact hinit cfg h
    · unfold setVerifyMode at h
      cases hout : out.2.sslConfig with
      | none =>
        rw [hout] at h
        exact absurd (hout.symm.trans h) (by simp)
      | some cfg' =>
        rw [hout] at h
        obtain rfl := Option.some.inj h
        obtain ⟨hlib, hoptions⟩ := hinit cfg' hout
        exact ⟨hlib, hoptions⟩

/-- A change of a context that concerns neither its references nor its policy, and of its
configuration neither the versions nor the library context. -/
structure Tuned (c c' : SCFPolicyCtx) : Prop where
  refCnt : c'.refCnt = c.refCnt
  policy : c'.policy = c.policy
  config : ∃ f : SslCtx → SslCtx, c'.sslConfig = c.sslConfig.map f ∧
    ∀ cfg, (f cfg).libCtx = cfg.libCtx ∧ (f cfg).options = cfg.options ∧
      (f cfg).minProtoVersion = cfg.minProtoVersion ∧ (f cfg).maxProtoVersion = cfg.maxProtoVersion

theorem Tuned.of_eq {c c' : SCFPolicyCtx} (hrefs : c'.refCnt = c.refCnt)
    (hpolicy : c'.policy = c.policy) (hcfg : c'.sslConfig = c.sslConfig) : Tuned c c' :=
  ⟨hrefs, hpolicy, id, by rw [hcfg, Option.map_id, id_eq], fun _ => ⟨rfl, rfl, rfl, rfl⟩⟩

theorem Tuned.refl (c : SCFPolicyCtx) : Tuned c c := .of_eq rfl rfl rfl

theorem Tuned.trans {c c' c'' : SCFPolicyCtx} (h : Tuned c c') (h' : Tuned c' c'') :
    Tuned c c'' := by
  obtain ⟨f, hcfg, hf⟩ := h.config
  obtain ⟨f', hcfg', hf'⟩ := h'.config
  refine ⟨h'.refCnt.trans h.refCnt, h'.policy.trans h.policy, f' ∘ f, ?_, fun cfg => ?_⟩
  · rw [hcfg', hcfg, Option.map_map]
  · obtain ⟨hlib, hoptions, hmin, hmax⟩ := hf cfg
    obtain ⟨hlib', hoptions', hmin', hmax'⟩ := hf' (f cfg)
    exact ⟨hlib'.trans hlib, hoptions'.trans hoptions, hmin'.trans hmin, hmax'.trans hmax⟩

theorem setKeyExchangeGroups_tuned (groups : List String) (setOk : Bool) (c : SCFPolicyCtx) :
    Tuned c (setKeyExchangeGroups groups setOk c).2 := by
  rcases setKeyExchangeGroups_cases groups setOk c with hsame | hset
  · rw [hsame]
    exact .refl c
  · rw [hset]
    exact ⟨rfl, rfl, _, rfl, fun _ => ⟨rfl, rfl, rfl, rfl⟩⟩

theorem scfSetCipherSuites_tuned (g : Globals) (ctxPtr : Ptr) (cipherSuites : Option (List UInt16))
    (allocOk setOk : Bool) (c : SCFPolicyCtx) :
    Tuned c (scfSetCipherSuites g ctxPtr cipherSuites allocOk setOk c).2 := by
  rcases scfSetCipherSuites_cases g ctxPtr cipherSuites allocOk setOk c with
    ⟨ret, -, hsame⟩ | ⟨suites, -, hset⟩
  · rw [hsame]
    exact .refl c
  · rw [hset]
    exact ⟨rfl, rfl, _, rfl, fun _ => ⟨rfl, rfl, rfl, rfl⟩⟩

theorem scfSetKeyAutoUpdateParam_tuned (g : Globals) (ctxPtr : Ptr) (isNeedKeyUpdate : Bool)
    (keyUpdateTime : UInt32) (keyUpdateTraffic : UInt64) (c : SCFPolicyCtx) :
    Tuned c (scfSetKeyAutoUpdateParam g ctxPtr isNeedKeyUpdate keyUpdateTime keyUpdateTraffic
      c).2 := by
  unfold scfSetKeyAutoUpdateParam
  dsimp only
  split_ifs <;> exact .of_eq rfl rfl rfl

/-- No mode of a connection lets a verification callback through. -/
theorem scfSetAppVerifyCallback_refused (g : Globals) (ctxPtr : Ptr) (cb : Option Address)
    (arg : Address) {c : SCFPolicyCtx} (hmode : c.policyMode ≠ .customer) :
    ∃ ret, ret ≠ .success ∧ scfSetAppVerifyCallback g ctxPtr cb arg c = (ret, c) := by
  unfold scfSetAppVerifyCallback
  rw [if_pos (show (c.policyMode ≠ .customer || c.verifyMode &&& .customer = 0) = true by
    simp [hmode])]
  split_ifs <;> exact ⟨_, by decide, rfl⟩

/-- The last settings only fail at a verification callback. -/
theorem lateSettings_spec (g : Globals) (config : SCFConnectionConfig) {c : SCFPolicyCtx}
    (hmode : c.policyMode ≠ .customer) :
    ((lateSettings g config c).1 = .success ↔ config.appVerifyCb = none) ∧
      Tuned c (lateSettings g config c).2 := by
  unfold lateSettings thenCtx
  cases hcb : config.appVerifyCb with
  | none =>
    dsimp only
    rw [if_neg (not_not.mpr rfl)]
    split_ifs
    · exact ⟨iff_of_true rfl rfl, scfSetKeyAutoUpdateParam_tuned _ _ _ _ _ c⟩
    · exact ⟨iff_of_true rfl rfl, .refl c⟩
  | some cb =>
    obtain ⟨ret, hret, hrefused⟩ :=
      scfSetAppVerifyCallback_refused g .valid (some cb) config.appVerifyArg hmode
    simp only [hrefused, if_pos hret]
    exact ⟨iff_of_false hret (by simp), .refl c⟩

/-! ### The first settings -/

/-- The environment lets the first settings succeed. -/
structure BasicOk (g : Globals) (env : SetupEnv) (config : SCFConnectionConfig)
    (providerCtx : Option Address) : Prop where
  role : checkRole config.role = .success
  init : g.scfInitialized = true
  creates : SslCtxEnv.creates { env.sslCtx with providerCtx } = true
  policyVersions : (env.sslCtx.setMinOk && env.sslCtx.setMaxOk) = true
  versions : (env.setMinOk && env.setMaxOk) = true
  suites : (env.cipherAllocOk && env.cipherSetOk) = true

/-- A context with the policy, the versions and the cipher suites of a configuration. -/
structure Configured (config : SCFConnectionConfig) (c : SCFPolicyCtx) : Prop where
  role : c.role = config.role
  mode : c.policyMode = (getSecurityLevelMapping config.securityLevel).policyMode
  versions : ∃ cfg, c.sslConfig = some cfg ∧ cfg.options = sslOpNoRenegotiation ∧
    cfg.minProtoVersion = (getSecurityLevelMapping config.securityLevel).protocolVersionMin ∧
    cfg.maxProtoVersion = (getSecurityLevelMapping config.securityLevel).protocolVersionMax

/-- A context with one reference and a configuration as it was made, if it has one. -/
structure Furnished (providerCtx : Option Address) (c : SCFPolicyCtx) : Prop where
  refCnt : c.refCnt = 1
  born : ∀ cfg, c.sslConfig = some cfg → cfg.Born providerCtx

theorem furnished_newPolicyCtx (providerCtx : Option Address) :
    Furnished providerCtx newPolicyCtx := ⟨rfl, nofun⟩

theorem Furnished.tuned {providerCtx : Option Address} {c c' : SCFPolicyCtx}
    (h : Furnished providerCtx c) (htuned : Tuned c c') : Furnished providerCtx c' := by
  obtain ⟨f, hcfg, hf⟩ := htuned.config
  refine ⟨htuned.refCnt.trans h.refCnt, fun cfg' hcfg' => ?_⟩
  rw [hcfg] at hcfg'
  obtain ⟨cfg, hsome, rfl⟩ := Option.map_eq_some_iff.mp hcfg'
  obtain ⟨hlib, hoptions, -⟩ := hf cfg
  obtain ⟨hborn, hoptions'⟩ := h.born cfg hsome
  exact ⟨by rwa [hlib], hoptions.trans hoptions'⟩

theorem Configured.tuned {config : SCFConnectionConfig} {c c' : SCFPolicyCtx}
    (h : Configured config c) (htuned : Tuned c c') : Configured config c' := by
  obtain ⟨f, hcfg, hf⟩ := htuned.config
  obtain ⟨cfg, hsome, hoptions, hmin, hmax⟩ := h.versions
  obtain ⟨-, hoptions', hmin', hmax'⟩ := hf cfg
  have hrole : c'.role = c.role := congrArg PolicyArgs.role htuned.policy
  have hmode : c'.policyMode = c.policyMode := congrArg PolicyArgs.policyMode htuned.policy
  refine ⟨hrole.trans h.role, hmode.trans h.mode, f cfg, ?_, hoptions'.trans hoptions,
    hmin'.trans hmin, hmax'.trans hmax⟩
  rw [hcfg, hsome]
  rfl

theorem checkVerifyMode_map (policy : SCFCertVerifyPolicy) :
    checkVerifyMode (mapCertVerifyPolicy policy) = .success := by
  unfold mapCertVerifyPolicy
  split_ifs <;> decide

/-- What the mappings of the security levels have in common. -/
theorem getSecurityLevelMapping_spec (level : SCFSecurityLevel) :
    let mapping := getSecurityLevelMapping level
    (mapping.policyMode = .high ∧ mapping.protocolVersionMin = tls13Version ∨
        mapping.policyMode = .middle ∧ mapping.protocolVersionMin = tls12Version) ∧
      mapping.protocolVersionMax = tls13Version ∧ mapping.tls13CipherSuites.isEmpty = false ∧
      (cipherSuitesStr mapping.tls13CipherSuites).length ≠ 0 := by
  unfold getSecurityLevelMapping
  dsimp only
  split_ifs <;> decide

/-- Every configured context has a version that is not forbidden. -/
theorem Configured.checkVersion {config : SCFConnectionConfig} {c : SCFPolicyCtx}
    (h : Configured config c) : Scf.checkVersion c = true := by
  obtain ⟨cfg, hcfg, hoptions, hmin, hmax⟩ := h.versions
  obtain ⟨hmode, hmax', -⟩ := getSecurityLevelMapping_spec config.securityLevel
  unfold Scf.checkVersion
  rw [hcfg]
  dsimp only
  rw [hoptions, hmin, hmax, hmax']
  rcases hmode with ⟨-, hmin'⟩ | ⟨-, hmin'⟩
  · rw [hmin']
    decide
  · rw [hmin']
    decide

theorem policyMode_spec (config : SCFConnectionConfig) :
    checkPolicyMode config.policy.policyMode = .success ∧ config.policy.policyMode ≠ .customer := by
  have hpolicy : config.policy.policyMode =
    (getSecurityLevelMapping config.securityLevel).policyMode := rfl
  obtain ⟨⟨hmode, -⟩ | ⟨hmode, -⟩, -⟩ := getSecurityLevelMapping_spec config.securityLevel
  · rw [hpolicy, hmode]
    decide
  · rw [hpolicy, hmode]
    decide

/-- The first of the settings, on a new context. -/
theorem setPolicy_spec (g : Globals) (env : SslCtxEnv) (config : SCFConnectionConfig) :
    let out := config.policy.set g .valid env newPolicyCtx
    Furnished (env.usedCtx env.providerCtx) out.2 ∧
      (out.1 = .success ↔ checkRole config.role = .success ∧ g.scfInitialized = true ∧
        env.creates = true ∧ (env.setMinOk && env.setMaxOk) = true) ∧
      (out.1 = .success → out.2.policy = config.policy ∧ out.2.sslConfig ≠ none) := by
  obtain ⟨hmode, hcustomer⟩ := policyMode_spec config
  have haccepted : PolicyAccepted g .valid config.policy ↔
      checkRole config.role = .success ∧ g.scfInitialized = true :=
    ⟨fun h => ⟨h.2.1, h.2.2.2.2⟩, fun h => ⟨by decide, h.1, checkVerifyMode_map _, hmode, h.2⟩⟩
  have hbounds' : env.bounds config.policy.policyMode = (env.setMinOk && env.setMaxOk) := by
    simp [SslCtxEnv.bounds, hcustomer]
  have hborn : ∀ cfg, (config.policy.set g .valid env newPolicyCtx).2.sslConfig = some cfg →
      cfg.Born (env.usedCtx env.providerCtx) := fun cfg => scfSetPolicy_born rfl
  have hout := scfSetPolicy_outcome g .valid config.policy env newPolicyCtx
  generalize config.policy.set g .valid env newPolicyCtx = out at hout hborn
  dsimp only
  cases hout with
  | rejected hacc hret =>
    refine ⟨furnished_newPolicyCtx _, iff_of_false hret fun h => ?_, fun h => absurd h hret⟩
    exact hacc (haccepted.mpr ⟨h.1, h.2.1⟩)
  | notCreated hacc henv hret =>
    refine ⟨⟨rfl, hborn⟩, iff_of_false hret fun h => ?_, fun h => absurd h hret⟩
    exact absurd (henv.symm.trans h.2.2.1) (by decide)
  | lost hacc henv hbounds hret =>
    refine ⟨⟨rfl, hborn⟩, iff_of_false hret fun h => ?_, fun h => absurd h hret⟩
    exact absurd ((hbounds.symm.trans hbounds').trans h.2.2.2) (by decide)
  | done hacc henv hbounds hbuilt hfind huse =>
    have haccepted := haccepted.mp hacc
    refine ⟨⟨rfl, hborn⟩, iff_of_true rfl ?_, fun _ => ⟨rfl, by simp⟩⟩
    exact ⟨haccepted.1, haccepted.2, henv, hbounds'.symm.trans hbounds⟩

/-- A context with the policy of a configuration, behind `SCF_SetPolicy`. -/
structure HasPolicy (g : Globals) (config : SCFConnectionConfig) (providerCtx : Option Address)
    (c : SCFPolicyCtx) : Prop where
  init : g.scfInitialized = true
  role : checkRole config.role = .success
  policy : c.policy = config.policy
  config : c.sslConfig ≠ none
  furnished : Furnished providerCtx c

theorem HasPolicy.role_ne {g : Globals} {config : SCFConnectionConfig}
    {providerCtx : Option Address} {c : SCFPolicyCtx} (h : HasPolicy g config providerCtx c) :
    c.role = config.role ∧ config.role ≠ .none := by
  refine ⟨congrArg PolicyArgs.role h.policy, fun hnone => ?_⟩
  have hrole := h.role
  rw [hnone] at hrole
  exact absurd hrole (by decide)

theorem HasPolicy.groups {g : Globals} {config : SCFConnectionConfig}
    {providerCtx : Option Address} {c : SCFPolicyCtx} (h : HasPolicy g config providerCtx c)
    (env : SetupEnv) :
    (groupSettings g env config c).1 = .success ∧
      HasPolicy g config providerCtx (groupSettings g env config c).2 := by
  have hset : ∀ c', Tuned c c' → HasPolicy g config providerCtx c' := by
    intro c' htuned
    obtain ⟨f, hcfg, -⟩ := htuned.config
    refine ⟨h.init, h.role, htuned.policy.trans h.policy, ?_, h.furnished.tuned htuned⟩
    rw [hcfg, ne_eq, Option.map_eq_none_iff]
    exact h.config
  unfold groupSettings
  dsimp only
  split_ifs
  · exact ⟨rfl, h⟩
  · exact ⟨rfl, hset _ (setKeyExchangeGroups_tuned _ _ c)⟩

theorem HasPolicy.versions {g : Globals} {config : SCFConnectionConfig}
    {providerCtx : Option Address} {c : SCFPolicyCtx} (h : HasPolicy g config providerCtx c)
    (env : SetupEnv) :
    let out := versionSettings g env config c
    Furnished providerCtx out.2 ∧ (out.1 = .success ↔ (env.setMinOk && env.setMaxOk) = true) ∧
      (out.1 = .success → Configured config out.2) := by
  obtain ⟨hmode, hmax, -⟩ := getSecurityLevelMapping_spec config.securityLevel
  have hmode' : c.policyMode = (getSecurityLevelMapping config.securityLevel).policyMode :=
    congrArg PolicyArgs.policyMode h.policy
  obtain ⟨hrole', hrole_ne⟩ := h.role_ne
  obtain ⟨cfg, hcfg⟩ := Option.ne_none_iff_exists'.mp h.config
  let call : VersionCall := ⟨⟨(getSecurityLevelMapping config.securityLevel).protocolVersionMin,
    (getSecurityLevelMapping config.securityLevel).protocolVersionMax, []⟩, g, .valid, env.setMinOk,
    env.setMaxOk⟩
  have hreaches : env.setMinOk = true → call.Reaches c cfg := by
    intro hmin
    refine ⟨show Ptr.valid ≠ .null by decide, hrole' ▸ hrole_ne, fun hhigh => ?_, h.init,
      g.adaptor_of_init h.init, hcfg, hmin⟩
    rcases hmode with ⟨-, hmin'⟩ | ⟨hmiddle, -⟩
    · exact ⟨hmin', hmax⟩
    · rw [hmode', hmiddle] at hhigh
      exact absurd hhigh (by decide)
  have hcompletes : call.Completes ↔ env.setMaxOk = true := ⟨fun h => h.1, fun h => ⟨h, nofun⟩⟩
  have hout : SetVersionOutcome call c (versionSettings g env config c) := setVersion_outcome call c
  generalize versionSettings g env config c = out at hout
  dsimp only
  cases hout with
  | rejected hret hreach =>
    refine ⟨h.furnished, iff_of_false hret fun hok => ?_, fun hok => absurd hok hret⟩
    exact hreach cfg (hreaches (Bool.and_eq_true_iff.mp hok).1)
  | refused hret hreach hnot =>
    refine ⟨⟨h.furnished.refCnt, ?_⟩, iff_of_false hret fun hok => ?_, fun hok => absurd hok hret⟩
    · intro cfg' hcfg'
      obtain rfl := Option.some.inj hcfg'
      obtain ⟨hlib, hoptions⟩ := h.furnished.born _ hreach.config
      exact ⟨hlib, hoptions⟩
    · exact hnot (hcompletes.mpr (Bool.and_eq_true_iff.mp hok).2)
  | done hreach hcomp hforbid =>
    obtain rfl : (0 : UInt64) = _ := Option.some.inj hforbid
    obtain ⟨hlib, hoptions⟩ := h.furnished.born _ hreach.config
    have hoptions' := (UInt64.or_zero).trans hoptions
    have hok : (env.setMinOk && env.setMaxOk) = true :=
      Bool.and_eq_true_iff.mpr ⟨hreach.setMin, hcompletes.mp hcomp⟩
    refine ⟨⟨h.furnished.refCnt, ?_⟩, iff_of_true rfl hok, fun _ => ⟨hrole', hmode', _, rfl,
      hoptions', rfl, rfl⟩⟩
    intro cfg' hcfg'
    obtain rfl := Option.some.inj hcfg'
    exact ⟨hlib, hoptions'⟩

/-- The cipher suites of a configuration, on a context with a role. -/
theorem suiteSettings_spec {g : Globals} (env : SetupEnv) (config : SCFConnectionConfig)
    {c : SCFPolicyCtx} (hrole : c.role ≠ .none) (hinit : g.scfInitialized = true) :
    Tuned c (suiteSettings g env config c).2 ∧
      ((suiteSettings g env config c).1 = .success ↔
        (env.cipherAllocOk && env.cipherSetOk) = true) := by
  obtain ⟨-, -, hsuites, hstr⟩ := getSecurityLevelMapping_spec config.securityLevel
  have hlength : (getSecurityLevelMapping config.securityLevel).tls13CipherSuites.length ≠ 0 := by
    intro h
    rw [List.length_eq_zero_iff.mp h] at hsuites
    exact absurd hsuites (by decide)
  unfold suiteSettings
  dsimp only
  rw [if_neg (by rw [hsuites]; decide)]
  refine ⟨scfSetCipherSuites_tuned _ _ _ _ _ c, ?_⟩
  unfold scfSetCipherSuites
  simp only [if_neg hlength, if_neg hrole, hinit, g.adaptor_of_init hinit]
  unfold setCipherSuites
  rw [if_neg hstr]
  cases env.cipherAllocOk with
  | false => exact iff_of_false (show Errno.memAlloc ≠ .success by decide) Bool.false_ne_true
  | true =>
    cases env.cipherSetOk with
    | false => exact iff_of_false (show Errno.sslSetCipher ≠ .success by decide) Bool.false_ne_true
    | true => exact iff_of_true rfl rfl

theorem thenCtx_success_iff {f f' : SCFPolicyCtx → Errno × SCFPolicyCtx} {c : SCFPolicyCtx} :
    (thenCtx f f' c).1 = .success ↔ (f c).1 = .success ∧ (f' (f c).2).1 = .success := by
  unfold thenCtx
  by_cases h : (f c).1 = .success
  · rw [if_neg (not_not.mpr h)]
    exact (and_iff_right h).symm
  · rw [if_pos h]
    exact iff_of_false h fun hc => h hc.1

/-- The settings behind `SCF_SetPolicy`. -/
theorem HasPolicy.settings {g : Globals} {config : SCFConnectionConfig}
    {providerCtx : Option Address} {c : SCFPolicyCtx} (h : HasPolicy g config providerCtx c)
    (env : SetupEnv) :
    let out := thenCtx (groupSettings g env config)
      (thenCtx (versionSettings g env config) (suiteSettings g env config)) c
    Furnished providerCtx out.2 ∧
      (out.1 = .success ↔ (env.setMinOk && env.setMaxOk) = true ∧
        (env.cipherAllocOk && env.cipherSetOk) = true) ∧
      (out.1 = .success → Configured config out.2) := by
  obtain ⟨hgroups_ok, hgroups⟩ := h.groups env
  obtain ⟨hversions, hversions_iff, hconfigured⟩ := hgroups.versions env
  have hout : thenCtx (groupSettings g env config)
      (thenCtx (versionSettings g env config) (suiteSettings g env config)) c =
      thenCtx (versionSettings g env config) (suiteSettings g env config)
        (groupSettings g env config c).2 := if_neg (not_not.mpr hgroups_ok)
  dsimp only
  rw [hout, thenCtx_success_iff, hversions_iff]
  generalize (groupSettings g env config c).2 = c' at *
  by_cases hret : (versionSettings g env config c').1 = .success
  · have hthen : thenCtx (versionSettings g env config) (suiteSettings g env config) c' =
        suiteSettings g env config (versionSettings g env config c').2 :=
      if_neg (not_not.mpr hret)
    have hrole : (versionSettings g env config c').2.role ≠ .none := by
      rw [(hconfigured hret).role]
      exact hgroups.role_ne.2
    obtain ⟨htuned, hsuites_iff⟩ := suiteSettings_spec env config hrole hgroups.init
    rw [hthen]
    exact ⟨hversions.tuned htuned, and_congr_right' hsuites_iff, fun _ =>
      (hconfigured hret).tuned htuned⟩
  · have hthen : thenCtx (versionSettings g env config) (suiteSettings g env config) c' =
        versionSettings g env config c' := if_pos hret
    rw [hthen]
    exact ⟨hversions, iff_of_false (fun hok => hret (hversions_iff.mpr hok.1))
      (fun hok => hret (hversions_iff.mpr hok.1)), fun hok =>
        absurd (hversions_iff.mpr hok.1) hret⟩

/-- The first settings on a new context. -/
theorem basicSettings_spec (g : Globals) (env : SetupEnv) (config : SCFConnectionConfig)
    (providerCtx : Option Address) :
    let out := basicSettings g env config providerCtx newPolicyCtx
    Furnished (env.sslCtx.usedCtx providerCtx) out.2 ∧
      (out.1 = .success ↔ BasicOk g env config providerCtx) ∧
      (out.1 = .success → Configured config out.2) := by
  obtain ⟨hfurnished, hpolicy_iff, hpolicy⟩ :=
    setPolicy_spec g { env.sslCtx with providerCtx } config
  unfold basicSettings
  generalize config.policy.set g .valid { env.sslCtx with providerCtx } = set at *
  dsimp only at hfurnished hpolicy_iff hpolicy ⊢
  by_cases hret : (set newPolicyCtx).1 = .success
  · obtain ⟨hrole, hinit, hcreates, hbounds⟩ := hpolicy_iff.mp hret
    have hhas : HasPolicy g config (env.sslCtx.usedCtx providerCtx) (set newPolicyCtx).2 :=
      ⟨hinit, hrole, (hpolicy hret).1, (hpolicy hret).2, hfurnished⟩
    obtain ⟨hlater, hlater_iff, hconfigured⟩ := hhas.settings env
    have hthen : ∀ f, thenCtx set f newPolicyCtx = f (set newPolicyCtx).2 := fun _ =>
      if_neg (not_not.mpr hret)
    rw [hthen, hlater_iff]
    exact ⟨hlater, ⟨fun h => ⟨hrole, hinit, hcreates, hbounds, h.1, h.2⟩, fun h =>
      ⟨h.versions, h.suites⟩⟩, fun h => hconfigured (hlater_iff.mpr h)⟩
  · have hthen : ∀ f, thenCtx set f newPolicyCtx = set newPolicyCtx := fun _ => if_pos hret
    rw [hthen]
    refine ⟨hfurnished, iff_of_false hret fun h => ?_, fun h => absurd h hret⟩
    exact hret (hpolicy_iff.mpr ⟨h.role, h.init, h.creates, h.policyVersions⟩)

end Scf
