import ScfSecurity.Policy.Lifecycle

/-!
# The recorded policy and the TLS configuration

`SCF_SetPolicy` records its arguments in the context before it creates the TLS configuration
that goes with them. The other functions test the recorded role and then use the
configuration, so the two have to agree at any time. They do as long as every failing call
finds its own arguments recorded already and no configuration to lose.

## Main definitions

- `SetPolicyOutcome`: the answer of `SCF_SetPolicy` and the context it leaves
- `HarmlessPolicy`: the call succeeds, or fails without a trace

## Main results

- `scfSetPolicy_outcome`: every call has one of these outcomes
- `policyConsistent_of_harmless`: runs of harmless calls keep policy and configuration
  together, and no other failing calls leave the context as it was
-/

namespace Scf

open Automaton

/-- The arguments of `SCF_SetPolicy` that a context records. -/
structure PolicyArgs where
  role : SCFRole
  verifyMode : SCFVerifyMode
  policyMode : SCFPolicyMode
deriving DecidableEq

/-- `SCF_SetPolicy` with these arguments. -/
def PolicyArgs.set (policy : PolicyArgs) (g : Globals) (ctxPtr : Ptr) (env : SslCtxEnv)
    (ctx : SCFPolicyCtx) : Errno × SCFPolicyCtx :=
  scfSetPolicy g ctxPtr policy.role policy.verifyMode policy.policyMode env ctx

def SCFPolicyCtx.policy (ctx : SCFPolicyCtx) : PolicyArgs :=
  ⟨ctx.role, ctx.verifyMode, ctx.policyMode⟩

/-- The configuration allows a protocol version: it is within the bounds, of which zero means
none, and its option is not set. -/
def SslCtx.Enables (cfg : SslCtx) (version : UInt32) : Prop :=
  (cfg.minProtoVersion = 0 ∨ cfg.minProtoVersion ≤ version) ∧
    (cfg.maxProtoVersion = 0 ∨ version ≤ cfg.maxProtoVersion) ∧
    (mapVersion2NoOpt version).all fun sslOp => cfg.options &&& sslOp = 0

instance (cfg : SslCtx) (version : UInt32) : Decidable (cfg.Enables version) :=
  inferInstanceAs (Decidable (_ ∧ _ ∧ _))

/-- What `SCF_SetPolicy` fixes in the configuration it creates. -/
structure SslCtx.BuiltFor (policy : PolicyArgs) (cfg : SslCtx) : Prop where
  method : calGetSslMethod policy.role = some cfg.method
  verifyMode : cfg.verifyMode = installedMode policy.verifyMode
  minVersion : policy.policyMode = .high → cfg.minProtoVersion = tls13Version

/-- A high policy allows no version below TLS 1.3. -/
theorem SslCtx.BuiltFor.not_enables {policy : PolicyArgs} {cfg : SslCtx} (h : cfg.BuiltFor policy)
    (hhigh : policy.policyMode = .high) {version : UInt32} (hlow : version < tls13Version) :
    ¬ cfg.Enables version := by
  rintro ⟨hmin, -, -⟩
  rw [h.minVersion hhigh] at hmin
  rcases hmin with hzero | hle
  · exact absurd hzero (by decide)
  · exact UInt32.not_lt.mpr hle hlow

/-! ### The outcome of a call -/

/-- The call gets as far as recording its arguments. -/
def PolicyAccepted (g : Globals) (ctxPtr : Ptr) (policy : PolicyArgs) : Prop :=
  ctxPtr ≠ .null ∧ checkRole policy.role = .success ∧
    checkVerifyMode policy.verifyMode = .success ∧
    checkPolicyMode policy.policyMode = .success ∧ g.scfInitialized = true

instance (g : Globals) (ctxPtr : Ptr) (policy : PolicyArgs) :
    Decidable (PolicyAccepted g ctxPtr policy) :=
  inferInstanceAs (Decidable (_ ∧ _ ∧ _ ∧ _ ∧ _))

/-- OpenSSL creates a configuration and switches its session cache off. -/
def SslCtxEnv.creates (env : SslCtxEnv) : Bool :=
  ((env.providerCtx.isSome && env.hasNewEx && env.newExOk) || env.newOk) && env.cacheModeOff

/-- OpenSSL accepts the version bounds, which a customer policy does not set. -/
def SslCtxEnv.bounds (env : SslCtxEnv) (policyMode : SCFPolicyMode) : Bool :=
  policyMode = .customer || (env.setMinOk && env.setMaxOk)

/-- The answer of `SCF_SetPolicy` and the context it leaves, by what the environment does. -/
inductive SetPolicyOutcome (g : Globals) (ctxPtr : Ptr) (policy : PolicyArgs) (env : SslCtxEnv)
    (ctx : SCFPolicyCtx) : Errno × SCFPolicyCtx → Prop
  | rejected {ret : Errno} (hacc : ¬ PolicyAccepted g ctxPtr policy) (hret : ret ≠ .success) :
      SetPolicyOutcome g ctxPtr policy env ctx (ret, ctx)
  -- the arguments are recorded, the configuration is the old one
  | notCreated {ret : Errno} (hacc : PolicyAccepted g ctxPtr policy) (henv : env.creates = false)
      (hret : ret ≠ .success) :
      SetPolicyOutcome g ctxPtr policy env ctx
        (ret, ctx.setPolicy policy.role policy.verifyMode policy.policyMode)
  -- the old configuration is gone and so is the new one
  | lost {ret : Errno} (hacc : PolicyAccepted g ctxPtr policy) (henv : env.creates = true)
      (hbounds : env.bounds policy.policyMode = false) (hret : ret ≠ .success) :
      SetPolicyOutcome g ctxPtr policy env ctx
        (ret, (ctx.setPolicy policy.role policy.verifyMode policy.policyMode).setSslConfig none)
  | done {cfg : SslCtx} (hacc : PolicyAccepted g ctxPtr policy) (henv : env.creates = true)
      (hbounds : env.bounds policy.policyMode = true) (hbuilt : cfg.BuiltFor policy)
      (hfind : cfg.pskFindSessionCallback = false) (huse : cfg.pskUseSessionCallback = false) :
      SetPolicyOutcome g ctxPtr policy env ctx (.success,
        (ctx.setPolicy policy.role policy.verifyMode policy.policyMode).setSslConfig (some cfg))

/-- A configuration fresh from OpenSSL. -/
structure SslCtx.Fresh (method : SslMethod) (cfg : SslCtx) : Prop where
  method : cfg.method = method
  auth : cfg.auth = (sslVerifyNone, false, false)

theorem newSslCtx_spec (env : SslCtxEnv) (method : SslMethod) :
    (newSslCtx env method).isSome =
        ((env.providerCtx.isSome && env.hasNewEx && env.newExOk) || env.newOk) ∧
      ∀ cfg, newSslCtx env method = some cfg → cfg.Fresh method := by
  refine ⟨?_, fun cfg hcfg => ?_⟩
  · unfold newSslCtx
    cases env.providerCtx <;> cases env.hasNewEx <;> cases env.newExOk <;> cases env.newOk <;> rfl
  · obtain ⟨libCtx, rfl, -⟩ := newSslCtx_eq hcfg
    exact ⟨rfl, rfl⟩

/-- How creating the configuration ends, where `bounds` says whether OpenSSL accepts the
version bounds and `P` what is known of a created configuration. -/
inductive InitOutcome (env : SslCtxEnv) (bounds : Bool) (P : SslCtx → Prop) (ctx : SCFPolicyCtx) :
    Errno × SCFPolicyCtx → Prop
  | notCreated {ret : Errno} (henv : env.creates = false) (hret : ret ≠ .success) :
      InitOutcome env bounds P ctx (ret, ctx)
  | lost {ret : Errno} (henv : env.creates = true) (hbounds : bounds = false)
      (hret : ret ≠ .success) : InitOutcome env bounds P ctx (ret, ctx.setSslConfig none)
  | done {cfg : SslCtx} (henv : env.creates = true) (hbounds : bounds = true) (hcfg : P cfg) :
      InitOutcome env bounds P ctx (.success, ctx.setSslConfig (some cfg))

theorem InitOutcome.mono {env : SslCtxEnv} {bounds : Bool} {P Q : SslCtx → Prop}
    {ctx : SCFPolicyCtx} {out : Errno × SCFPolicyCtx} (h : InitOutcome env bounds P ctx out)
    (hPQ : ∀ cfg, P cfg → Q cfg) : InitOutcome env bounds Q ctx out := by
  cases h with
  | notCreated henv hret => exact .notCreated henv hret
  | lost henv hbounds hret => exact .lost henv hbounds hret
  | done henv hbounds hcfg => exact .done henv hbounds (hPQ _ hcfg)

theorem creates_of_newSslCtx_none {env : SslCtxEnv} {method : SslMethod}
    (h : newSslCtx env method = none) : env.creates = false := by
  have hsome := (newSslCtx_spec env method).1
  rw [h, Option.isSome_none] at hsome
  rw [SslCtxEnv.creates, ← hsome, Bool.false_and]

theorem creates_of_newSslCtx_some {env : SslCtxEnv} {method : SslMethod} {cfg : SslCtx}
    (h : newSslCtx env method = some cfg) : env.creates = env.cacheModeOff := by
  have hsome := (newSslCtx_spec env method).1
  rw [h, Option.isSome_some] at hsome
  rw [SslCtxEnv.creates, ← hsome, Bool.true_and]

theorem initSsl_outcome {env : SslCtxEnv} {minVersion : UInt32} {ctx : SCFPolicyCtx}
    {method : SslMethod} (hmethod : calGetSslMethod ctx.role = some method) :
    InitOutcome env (env.setMinOk && env.setMaxOk)
      (fun cfg => cfg.Fresh method ∧ cfg.minProtoVersion = minVersion) ctx
      (initSsl env minVersion ctx) := by
  unfold initSsl
  rw [hmethod]
  dsimp only
  cases hnew : newSslCtx env method with
  | none => exact .notCreated (creates_of_newSslCtx_none hnew) (by decide)
  | some cfg =>
    have hcreates := creates_of_newSslCtx_some hnew
    have hfresh := (newSslCtx_spec env method).2 cfg hnew
    dsimp only
    cases hoff : env.cacheModeOff with
    | false => exact .notCreated (hcreates.trans hoff) (by decide)
    | true =>
      rw [if_neg (by decide)]
      rcases setProtocolVersion_nil minVersion tls13Version env.setMinOk env.setMaxOk
        { cfg with securityLevel := some sslSecurityLevelTwo } with ⟨hbounds, hret⟩ | ⟨hbounds, hset⟩
      · rw [if_pos hret]
        exact .lost (hcreates.trans hoff) hbounds hret
      · rw [hset, if_neg (not_not.mpr rfl)]
        exact .done (hcreates.trans hoff) hbounds ⟨⟨hfresh.method, hfresh.auth⟩, rfl⟩

theorem initSslCustomer_outcome {env : SslCtxEnv} {ctx : SCFPolicyCtx} {method : SslMethod}
    (hmethod : calGetSslMethod ctx.role = some method) :
    InitOutcome env true (fun cfg => cfg.Fresh method) ctx (initSslCustomer env ctx) := by
  unfold initSslCustomer
  rw [hmethod]
  dsimp only
  cases hnew : newSslCtx env method with
  | none => exact .notCreated (creates_of_newSslCtx_none hnew) (by decide)
  | some cfg =>
    have hcreates := creates_of_newSslCtx_some hnew
    have hfresh := (newSslCtx_spec env method).2 cfg hnew
    dsimp only
    cases hoff : env.cacheModeOff with
    | false => exact .notCreated (hcreates.trans hoff) (by decide)
    | true => exact .done (hcreates.trans hoff) rfl ⟨hfresh.method, hfresh.auth⟩

theorem initPolicyByMode_outcome (env : SslCtxEnv) (ctx : SCFPolicyCtx) {method : SslMethod}
    (hmethod : calGetSslMethod ctx.role = some method)
    (hmode : checkPolicyMode ctx.policyMode = .success) :
    InitOutcome env (env.bounds ctx.policyMode)
      (fun cfg => cfg.Fresh method ∧
        (ctx.policyMode = .high → cfg.minProtoVersion = tls13Version)) ctx
      (initPolicyByMode env ctx) := by
  unfold initPolicyByMode
  by_cases hhigh : ctx.policyMode = .high
  · rw [if_pos hhigh]
    have hbounds : env.bounds ctx.policyMode = (env.setMinOk && env.setMaxOk) := by
      rw [hhigh]
      rfl
    rw [hbounds]
    exact (initSsl_outcome hmethod).mono fun cfg h => ⟨h.1, fun _ => h.2⟩
  · rw [if_neg hhigh]
    by_cases hmiddle : ctx.policyMode = .middle
    · rw [if_pos hmiddle]
      have hbounds : env.bounds ctx.policyMode = (env.setMinOk && env.setMaxOk) := by
        rw [hmiddle]
        rfl
      rw [hbounds]
      exact (initSsl_outcome hmethod).mono fun cfg h => ⟨h.1, fun hc => absurd hc hhigh⟩
    · rw [if_neg hmiddle]
      have hcustomer : ctx.policyMode = .customer := by
        by_contra hcustomer
        simp [checkPolicyMode, hhigh, hmiddle, hcustomer] at hmode
      have hbounds : env.bounds ctx.policyMode = true := by simp [SslCtxEnv.bounds, hcustomer]
      rw [hbounds]
      exact (initSslCustomer_outcome hmethod).mono fun cfg h => ⟨h, fun hc => absurd hc hhigh⟩

/-- An accepted role has a method. -/
theorem calGetSslMethod_of_checkRole {role : SCFRole} (h : checkRole role = .success) :
    ∃ method, calGetSslMethod role = some method := by
  unfold calGetSslMethod
  by_cases hserver : role = .server
  · exact ⟨.tlsServer, if_pos hserver⟩
  · have hclient : role = .client := by
      by_contra hclient
      simp [checkRole, hserver, hclient] at h
    exact ⟨.tlsClient, by rw [if_neg hserver, if_pos hclient]⟩

/-- A rejected call changes nothing. -/
theorem scfSetPolicy_rejected {g : Globals} {ctxPtr : Ptr} {policy : PolicyArgs}
    (hacc : ¬ PolicyAccepted g ctxPtr policy) (env : SslCtxEnv) (ctx : SCFPolicyCtx) :
    ∃ ret, ret ≠ .success ∧ policy.set g ctxPtr env ctx = (ret, ctx) := by
  unfold PolicyArgs.set scfSetPolicy
  split_ifs with hargs hinit hadaptor
  · exact ⟨.invalidParam, by decide, rfl⟩
  · exact ⟨.notInit, by decide, rfl⟩
  · exact ⟨.invalidParam, by decide, rfl⟩
  · simp only [Bool.or_eq_true, decide_eq_true_eq, not_or, not_not] at hargs
    obtain ⟨⟨⟨hptr, hrole⟩, hverify⟩, hmode⟩ := hargs
    exact absurd ⟨hptr, hrole, hverify, hmode, by simpa using hinit⟩ hacc

theorem scfSetPolicy_accepted {g : Globals} {ctxPtr : Ptr} {policy : PolicyArgs} {env : SslCtxEnv}
    {ctx : SCFPolicyCtx} (hacc : PolicyAccepted g ctxPtr policy) :
    policy.set g ctxPtr env ctx =
      let (ret, ctx) := initPolicyByMode env
        (ctx.setPolicy policy.role policy.verifyMode policy.policyMode)
      if ret ≠ .success then (ret, ctx)
      else setVerifyMode (effectiveVerifyMode policy.verifyMode) ctx := by
  obtain ⟨hptr, hrole, hverify, hmode, hinit⟩ := hacc
  have hadaptor := g.adaptor_of_init hinit
  simp [PolicyArgs.set, scfSetPolicy, hptr, hrole, hverify, hmode, hinit, hadaptor]

/-- Every call of `SCF_SetPolicy` has one of the outcomes. -/
theorem scfSetPolicy_outcome (g : Globals) (ctxPtr : Ptr) (policy : PolicyArgs) (env : SslCtxEnv)
    (ctx : SCFPolicyCtx) :
    SetPolicyOutcome g ctxPtr policy env ctx (policy.set g ctxPtr env ctx) := by
  by_cases hacc : PolicyAccepted g ctxPtr policy
  · rw [scfSetPolicy_accepted hacc]
    obtain ⟨method, hmethod⟩ := calGetSslMethod_of_checkRole hacc.2.1
    have hinit := initPolicyByMode_outcome env
      (ctx.setPolicy policy.role policy.verifyMode policy.policyMode) hmethod hacc.2.2.2.1
    generalize initPolicyByMode env (ctx.setPolicy policy.role policy.verifyMode
      policy.policyMode) = out at hinit ⊢
    cases hinit with
    | notCreated henv hret =>
      dsimp only
      rw [if_pos hret]
      exact .notCreated hacc henv hret
    | lost henv hbounds hret =>
      dsimp only
      rw [if_pos hret]
      exact .lost hacc henv hbounds hret
    | @done cfg henv hbounds hcfg =>
      obtain ⟨hfresh, hmin⟩ := hcfg
      have hauth := hfresh.auth
      simp only [SslCtx.auth, Prod.mk.injEq] at hauth
      have hbuilt : SslCtx.BuiltFor policy
          { cfg with verifyMode := installedMode policy.verifyMode } :=
        ⟨hmethod.trans (congrArg some hfresh.method.symm), rfl, hmin⟩
      exact .done hacc henv hbounds hbuilt hauth.2.1 hauth.2.2
  · obtain ⟨ret, hret, heq⟩ := scfSetPolicy_rejected hacc env ctx
    rw [heq]
    exact .rejected hacc hret

/-! ### Calls that keep the policy -/

/-- The policy stays and so does what it fixed in the configuration. -/
structure KeepsPolicy (ctx ctx' : SCFPolicyCtx) : Prop where
  policy : ctx'.policy = ctx.policy
  config : ∃ f : SslCtx → SslCtx, ctx'.sslConfig = ctx.sslConfig.map f ∧
    ∀ cfg, cfg.BuiltFor ctx.policy → (f cfg).BuiltFor ctx.policy

theorem KeepsPolicy.of_eq {ctx ctx' : SCFPolicyCtx} (hpolicy : ctx'.policy = ctx.policy)
    (hcfg : ctx'.sslConfig = ctx.sslConfig) : KeepsPolicy ctx ctx' :=
  ⟨hpolicy, id, by rw [hcfg, Option.map_id, id_eq], fun _ h => h⟩

theorem KeepsPolicy.refl (ctx : SCFPolicyCtx) : KeepsPolicy ctx ctx := .of_eq rfl rfl

/-- A change inside the configuration that concerns none of the three. -/
theorem KeepsPolicy.map {ctx : SCFPolicyCtx} {f : SslCtx → SslCtx}
    (hmethod : ∀ cfg, (f cfg).method = cfg.method)
    (hverify : ∀ cfg, (f cfg).verifyMode = cfg.verifyMode)
    (hmin : ∀ cfg, (f cfg).minProtoVersion = cfg.minProtoVersion) :
    KeepsPolicy ctx (ctx.setSslConfig (ctx.sslConfig.map f)) := by
  refine ⟨rfl, f, rfl, fun cfg h => ⟨?_, ?_, fun hhigh => ?_⟩⟩
  · rw [hmethod, h.method]
  · rw [hverify, h.verifyMode]
  · rw [hmin, h.minVersion hhigh]

/-- A high policy lets `SCF_SetProtocolVersion` set no other bound than TLS 1.3. -/
theorem scfSetProtocolVersion_keepsPolicy (g : Globals) (ctxPtr : Ptr)
    (minVersion maxVersion : UInt32) (forbidVersion : List UInt32) (setMinOk setMaxOk : Bool)
    (ctx : SCFPolicyCtx) :
    KeepsPolicy ctx (scfSetProtocolVersion g ctxPtr minVersion maxVersion forbidVersion
      setMinOk setMaxOk ctx).2 := by
  rcases scfSetProtocolVersion_cases g ctxPtr minVersion maxVersion forbidVersion setMinOk setMaxOk
    ctx with hsame | ⟨hhigh, hset⟩
  · rw [hsame]
    exact .refl ctx
  · rw [hset]
    refine ⟨rfl, _, rfl, fun cfg h => ?_⟩
    obtain ⟨_, _, _, hcfg, hmin⟩ := setProtocolVersion_spec minVersion maxVersion forbidVersion
      setMinOk setMaxOk cfg
    rw [hcfg]
    refine ⟨h.method, h.verifyMode, fun hmode => ?_⟩
    rcases hmin with hkeep | hnew
    · exact hkeep.trans (h.minVersion hmode)
    · exact hnew.trans (hhigh hmode)

theorem scfSetPskCallback_keepsPolicy {install : SslCtx → SCFPolicyCtx → SCFPolicyCtx}
    (hinstall : ∀ cfg ctx, ctx.sslConfig = some cfg → KeepsPolicy ctx (install cfg ctx))
    (g : Globals) (ctxPtr : Ptr) (ctx : SCFPolicyCtx) :
    KeepsPolicy ctx (scfSetPskCallback install g ctxPtr ctx).2 := by
  rcases scfSetPskCallback_cases install g ctxPtr ctx with ⟨ret, -, hsame⟩ | ⟨cfg, hcfg, hset⟩
  · rw [hsame]
    exact .refl ctx
  · rw [hset]
    exact hinstall cfg ctx hcfg

theorem scfSetCipherSuites_keepsPolicy (g : Globals) (ctxPtr : Ptr)
    (cipherSuites : Option (List UInt16)) (allocOk setOk : Bool) (ctx : SCFPolicyCtx) :
    KeepsPolicy ctx (scfSetCipherSuites g ctxPtr cipherSuites allocOk setOk ctx).2 := by
  rcases scfSetCipherSuites_cases g ctxPtr cipherSuites allocOk setOk ctx with
    ⟨ret, -, hsame⟩ | ⟨suites, -, hset⟩
  · rw [hsame]
    exact .refl ctx
  · rw [hset]
    exact .map (fun _ => rfl) (fun _ => rfl) (fun _ => rfl)

theorem setKeyExchangeGroups_keepsPolicy (groups : List String) (setOk : Bool)
    (ctx : SCFPolicyCtx) : KeepsPolicy ctx (setKeyExchangeGroups groups setOk ctx).2 := by
  rcases setKeyExchangeGroups_cases groups setOk ctx with hsame | hset
  · rw [hsame]
    exact .refl ctx
  · rw [hset]
    exact .map (fun _ => rfl) (fun _ => rfl) (fun _ => rfl)

theorem scfSetAppVerifyCallback_keepsPolicy (g : Globals) (ctxPtr : Ptr) (cb : Option Address)
    (arg : Address) (ctx : SCFPolicyCtx) :
    KeepsPolicy ctx (scfSetAppVerifyCallback g ctxPtr cb arg ctx).2 := by
  rcases scfSetAppVerifyCallback_cases g ctxPtr cb arg ctx with ⟨ret, -, hsame⟩ | hset
  · rw [hsame]
    exact .refl ctx
  · rw [hset]
    exact .map (fun _ => rfl) (fun _ => rfl) (fun _ => rfl)

theorem installPskFind_keepsPolicy (cb : Option Address) {cfg : SslCtx} {ctx : SCFPolicyCtx}
    (hcfg : ctx.sslConfig = some cfg) : KeepsPolicy ctx (installPskFind cb cfg ctx) := by
  refine ⟨rfl, fun cfg => { cfg with pskFindSessionCallback := cb.isSome }, ?_, fun cfg h => ?_⟩
  · rw [hcfg]
    rfl
  · exact ⟨h.method, h.verifyMode, h.minVersion⟩

theorem installPskUse_keepsPolicy (cb : Option Address) {cfg : SslCtx} {ctx : SCFPolicyCtx}
    (hcfg : ctx.sslConfig = some cfg) : KeepsPolicy ctx (installPskUse cb cfg ctx) := by
  refine ⟨rfl, fun cfg => { cfg with pskUseSessionCallback := cb.isSome }, ?_, fun cfg h => ?_⟩
  · rw [hcfg]
    rfl
  · exact ⟨h.method, h.verifyMode, h.minVersion⟩

theorem scfSetKeyAutoUpdateParam_keepsPolicy (g : Globals) (ctxPtr : Ptr) (isNeedKeyUpdate : Bool)
    (keyUpdateTime : UInt32) (keyUpdateTraffic : UInt64) (ctx : SCFPolicyCtx) :
    KeepsPolicy ctx (scfSetKeyAutoUpdateParam g ctxPtr isNeedKeyUpdate keyUpdateTime
      keyUpdateTraffic ctx).2 := by
  unfold scfSetKeyAutoUpdateParam
  split_ifs <;> exact .of_eq rfl rfl

/-- No settings call touches the policy. -/
theorem ConfigCall.keepsPolicy (g : Globals) (ctxPtr : Ptr) (call : ConfigCall)
    (ctx : SCFPolicyCtx) : KeepsPolicy ctx (call.apply g ctxPtr ctx).2 := by
  cases call with
  | setProtocolVersion minVersion maxVersion forbidVersion setMinOk setMaxOk =>
    exact scfSetProtocolVersion_keepsPolicy g ctxPtr minVersion maxVersion forbidVersion
      setMinOk setMaxOk ctx
  | setCipherSuites cipherSuites allocOk setOk =>
    exact scfSetCipherSuites_keepsPolicy g ctxPtr cipherSuites allocOk setOk ctx
  | setKeyExchangeGroups groups setOk => exact setKeyExchangeGroups_keepsPolicy groups setOk ctx
  | setAppVerifyCallback cb arg => exact scfSetAppVerifyCallback_keepsPolicy g ctxPtr cb arg ctx
  | setPskFindSessionCallback cb =>
    exact scfSetPskCallback_keepsPolicy (fun _ _ h => installPskFind_keepsPolicy cb h) g ctxPtr ctx
  | setPskUseSessionCallback cb =>
    exact scfSetPskCallback_keepsPolicy (fun _ _ h => installPskUse_keepsPolicy cb h) g ctxPtr ctx
  | setKeyAutoUpdateParam isNeedKeyUpdate keyUpdateTime keyUpdateTraffic =>
    exact scfSetKeyAutoUpdateParam_keepsPolicy g ctxPtr isNeedKeyUpdate keyUpdateTime
      keyUpdateTraffic ctx

theorem RbacStep.keepsPolicy {ctx ctx' : SCFPolicyCtx} (h : RbacStep ctx ctx') :
    KeepsPolicy ctx ctx' := by
  cases h <;> exact .of_eq rfl rfl

/-! ### Runs -/

/-- Policy and configuration agree: what the policy fixed is there. -/
structure PolicyInvariant (ctx : SCFPolicyCtx) : Prop where
  present : ctx.role ≠ .none → ctx.sslConfig ≠ none
  built : ∀ cfg, ctx.sslConfig = some cfg → cfg.BuiltFor ctx.policy

theorem policyInvariant_newPolicyCtx : PolicyInvariant newPolicyCtx :=
  ⟨fun h => absurd rfl h, fun _ h => nomatch h⟩

theorem PolicyInvariant.keepsPolicy {ctx ctx' : SCFPolicyCtx} (h : PolicyInvariant ctx)
    (hkeep : KeepsPolicy ctx ctx') : PolicyInvariant ctx' := by
  obtain ⟨hpolicy, f, hcfg', hbuilt⟩ := hkeep
  refine ⟨fun hrole => ?_, fun cfg hcfg => ?_⟩
  · rw [show ctx'.role = ctx.role from congrArg PolicyArgs.role hpolicy] at hrole
    rw [hcfg']
    simpa using h.present hrole
  · rw [hcfg'] at hcfg
    obtain ⟨cfg₀, hcfg₀, rfl⟩ := Option.map_eq_some_iff.mp hcfg
    rw [hpolicy]
    exact hbuilt cfg₀ (h.built cfg₀ hcfg₀)

/-- The call succeeds or fails without a trace: if it gets as far as recording its arguments,
then OpenSSL does all that is asked of it, or the arguments were recorded before and there is
no configuration that gets lost. -/
def HarmlessPolicy (g : Globals) (ctxPtr : Ptr) (policy : PolicyArgs) (env : SslCtxEnv)
    (ctx : SCFPolicyCtx) : Prop :=
  PolicyAccepted g ctxPtr policy →
    env.creates = true ∧ env.bounds policy.policyMode = true ∨
      ctx.policy = policy ∧ (env.creates = true → ctx.sslConfig = none)

instance (g : Globals) (ctxPtr : Ptr) (policy : PolicyArgs) (env : SslCtxEnv)
    (ctx : SCFPolicyCtx) : Decidable (HarmlessPolicy g ctxPtr policy env ctx) :=
  inferInstanceAs (Decidable (_ → _ ∨ _ ∧ (_ → _)))

/-- If the call returns an error, then role, modes and configuration are as they were. -/
def FailureKeepsPolicy (g : Globals) (ctxPtr : Ptr) (policy : PolicyArgs) (env : SslCtxEnv)
    (ctx : SCFPolicyCtx) : Prop :=
  (policy.set g ctxPtr env ctx).1 ≠ .success →
    (policy.set g ctxPtr env ctx).2.policy = ctx.policy ∧
      (policy.set g ctxPtr env ctx).2.sslConfig = ctx.sslConfig

/-- A failing call leaves policy and configuration alone exactly if it is harmless. -/
theorem failureKeepsPolicy_iff (g : Globals) (ctxPtr : Ptr) (policy : PolicyArgs)
    (env : SslCtxEnv) (ctx : SCFPolicyCtx) :
    FailureKeepsPolicy g ctxPtr policy env ctx ↔ HarmlessPolicy g ctxPtr policy env ctx := by
  unfold FailureKeepsPolicy HarmlessPolicy
  have hout := scfSetPolicy_outcome g ctxPtr policy env ctx
  generalize policy.set g ctxPtr env ctx = out at hout
  cases hout with
  | rejected hacc hret => exact ⟨fun _ h => absurd h hacc, fun _ _ => ⟨rfl, rfl⟩⟩
  | notCreated hacc henv hret =>
    constructor
    · intro h _
      exact .inr ⟨(h hret).1.symm, fun hc => absurd (henv.symm.trans hc) (by decide)⟩
    · intro h _
      rcases h hacc with ⟨hc, -⟩ | ⟨hpolicy, -⟩
      · exact absurd (henv.symm.trans hc) (by decide)
      · exact ⟨hpolicy.symm, rfl⟩
  | lost hacc henv hbounds hret =>
    constructor
    · intro h _
      exact .inr ⟨(h hret).1.symm, fun _ => (h hret).2.symm⟩
    · intro h _
      rcases h hacc with ⟨-, hb⟩ | ⟨hpolicy, hnone⟩
      · exact absurd (hbounds.symm.trans hb) (by decide)
      · exact ⟨hpolicy.symm, (hnone henv).symm⟩
  | done hacc henv hbounds hbuilt hfind huse =>
    exact ⟨fun _ _ => .inl ⟨henv, hbounds⟩, fun _ h => absurd rfl h⟩

/-- A harmless call keeps policy and configuration together. -/
theorem PolicyInvariant.setPolicy {g : Globals} {ctxPtr : Ptr} {policy : PolicyArgs}
    {env : SslCtxEnv} {ctx : SCFPolicyCtx} (h : PolicyInvariant ctx)
    (hharmless : HarmlessPolicy g ctxPtr policy env ctx) :
    PolicyInvariant (policy.set g ctxPtr env ctx).2 := by
  have hkeep := (failureKeepsPolicy_iff g ctxPtr policy env ctx).mpr hharmless
  unfold FailureKeepsPolicy at hkeep
  have hout := scfSetPolicy_outcome g ctxPtr policy env ctx
  generalize policy.set g ctxPtr env ctx = out at hout hkeep
  cases hout with
  | rejected hacc hret => exact h
  | notCreated hacc henv hret => exact h.keepsPolicy (.of_eq (hkeep hret).1 (hkeep hret).2)
  | lost hacc henv hbounds hret => exact h.keepsPolicy (.of_eq (hkeep hret).1 (hkeep hret).2)
  | done hacc henv hbounds hbuilt hfind huse =>
    refine ⟨fun _ => Option.some_ne_none _, fun cfg hcfg => ?_⟩
    rw [← Option.some.inj hcfg]
    exact hbuilt

/-- Every `SCF_SetPolicy` of the run is harmless; the other calls are not restricted. -/
def PolicyCall.Harmless (ctx : SCFPolicyCtx) : Globals × Ptr × PolicyCall → Prop
  | (g, ctxPtr, .setPolicy role verifyMode policyMode env) =>
    HarmlessPolicy g ctxPtr ⟨role, verifyMode, policyMode⟩ env ctx
  | _ => True

instance (ctx : SCFPolicyCtx) : DecidablePred (PolicyCall.Harmless ctx)
  | (g, ctxPtr, .setPolicy role verifyMode policyMode env) =>
    inferInstanceAs (Decidable (HarmlessPolicy g ctxPtr ⟨role, verifyMode, policyMode⟩ env ctx))
  | (_, _, .settings _) => .isTrue trivial
  | (_, _, .rbac _) => .isTrue trivial

theorem PolicyInvariant.step {lib : LibCrypto} {ctx : SCFPolicyCtx} (h : PolicyInvariant ctx)
    (call : Globals × Ptr × PolicyCall) (hcall : PolicyCall.Harmless ctx call) :
    PolicyInvariant ((policyMachine lib).step ctx call).2 := by
  obtain ⟨g, ctxPtr, call⟩ := call
  cases call with
  | setPolicy role verifyMode policyMode env =>
    have hset : PolicyInvariant
        (PolicyArgs.set ⟨role, verifyMode, policyMode⟩ g ctxPtr env ctx).2 := h.setPolicy hcall
    exact hset
  | settings call => exact h.keepsPolicy (call.keepsPolicy g ctxPtr ctx)
  | rbac call =>
    exact (RbacCall.guarantees lib g call).invariant (fun _ _ hstep h => h.keepsPolicy
      hstep.keepsPolicy) h

/-- In every run of harmless calls the recorded policy is the one the configuration was
created for. -/
theorem policyInvariant_of_harmless {lib : LibCrypto} {ctx : SCFPolicyCtx}
    (h : (policyMachine lib).ReachableBy PolicyCall.Harmless ctx) : PolicyInvariant ctx := by
  refine Machine.ReachableBy.invariant ?_ ?_ h
  · rintro ctx ⟨g, allocOk, hnew⟩
    rw [eq_newPolicyCtx hnew]
    exact policyInvariant_newPolicyCtx
  · intro ctx call hctx hcall
    exact hctx.step call hcall

/-- A context with a role has a configuration with the method of that role and the recorded
verification mode, and under a high policy no version below TLS 1.3 is enabled. -/
structure PolicyConsistent (ctx : SCFPolicyCtx) : Prop where
  configured : ctx.role ≠ .none → ∃ cfg, ctx.sslConfig = some cfg ∧
    calGetSslMethod ctx.role = some cfg.method ∧ cfg.verifyMode = installedMode ctx.verifyMode
  high : ctx.policyMode = .high → ∀ cfg, ctx.sslConfig = some cfg →
    ∀ version < tls13Version, ¬ cfg.Enables version

theorem PolicyInvariant.consistent {ctx : SCFPolicyCtx} (h : PolicyInvariant ctx) :
    PolicyConsistent ctx := by
  refine ⟨fun hrole => ?_, fun hhigh cfg hcfg version hlow => ?_⟩
  · obtain ⟨cfg, hcfg⟩ := Option.ne_none_iff_exists'.mp (h.present hrole)
    exact ⟨cfg, hcfg, (h.built cfg hcfg).method, (h.built cfg hcfg).verifyMode⟩
  · exact (h.built cfg hcfg).not_enables hhigh hlow

/-- As long as every `SCF_SetPolicy` is harmless, every state is consistent; and harmless
calls are exactly those that leave the context alone when they fail. -/
theorem policyConsistent_of_harmless (lib : LibCrypto) :
    (∀ ctx, (policyMachine lib).ReachableBy PolicyCall.Harmless ctx → PolicyConsistent ctx) ∧
      ∀ g ctxPtr policy env ctx,
        FailureKeepsPolicy g ctxPtr policy env ctx ↔ HarmlessPolicy g ctxPtr policy env ctx :=
  ⟨fun _ h => (policyInvariant_of_harmless h).consistent, failureKeepsPolicy_iff⟩

/-- A context with a middle policy, a failing repetition of it, and then a high policy. -/
theorem policyConsistent_of_harmless_repeated :
    let calls : List (Globals × Ptr × PolicyCall) :=
      [(.ready, .valid, .setPolicy .client .default .middle .plain),
       (.ready, .valid, .setPolicy .client .default .middle { SslCtxEnv.plain with newOk := false }),
       (.ready, .valid, .setPolicy .client .none .high .plain)]
    PolicyConsistent ((policyMachine .shortForm).after newPolicyCtx calls) := by
  intro calls
  have hinit : (policyMachine .shortForm).initial newPolicyCtx := ⟨.ready, true, rfl⟩
  have hcalls : (policyMachine .shortForm).Admits PolicyCall.Harmless newPolicyCtx calls :=
    ⟨by decide, by decide, by decide, trivial⟩
  exact (policyConsistent_of_harmless .shortForm).1 _
    ((Machine.ReachableBy.initial hinit).after hcalls)

/-- Memory runs out in the first `SCF_SetPolicy`: the call fails, but the context now has a role
and no configuration. A second context gets a middle policy and then, from a call that fails,
the high mode, while TLS 1.2 stays enabled. -/
theorem failed_setPolicy_is_recorded :
    let noMem : SslCtxEnv := { SslCtxEnv.plain with newOk := false }
    let first := scfSetPolicy .ready .valid .client .default .high noMem newPolicyCtx
    let middle := (scfSetPolicy .ready .valid .client .default .middle .plain newPolicyCtx).2
    let second := scfSetPolicy .ready .valid .client .default .high noMem middle
    (first.1 = .memAlloc ∧ first.2.role = .client ∧ first.2.sslConfig = none) ∧
      (second.1 = .memAlloc ∧ second.2.policyMode = .high ∧
        ∃ cfg, second.2.sslConfig = some cfg ∧ cfg.Enables tls12Version) ∧
      ¬ ∀ ctx, (policyMachine .shortForm).Reachable ctx → PolicyConsistent ctx := by
  intro noMem first middle second
  refine ⟨⟨by decide, by decide, by decide⟩, ⟨by decide, by decide, _, rfl, by decide⟩, ?_⟩
  intro hall
  have hinit : (policyMachine .shortForm).initial newPolicyCtx := ⟨.ready, true, rfl⟩
  have hreach := (Machine.Reachable.initial hinit).step
    (.ready, .valid, .setPolicy .client .default .high noMem)
  obtain ⟨cfg, hcfg, -⟩ := (hall _ hreach).configured (by decide)
  exact Option.some_ne_none cfg hcfg.symm

end Scf
