import ScfSecurity.Policy.Context
import Mathlib.Data.Nat.Bitwise

/-!
# Setting a policy

`SCF_SetPolicy` checks its arguments, creates a TLS configuration for the role and the
policy mode, and installs the verification mode. Protocol versions, cipher suites and key
exchange groups are set on that configuration afterwards.

## Main results

- `initPolicyByMode_cases`: what creating the configuration can do to a context
- `scfSetPolicy_step`: what a call can do to a context
- `scfSetPolicy_success`: a successful call leaves a configuration whose verification
  mode is the one the policy asks for
- `installedMode_ne_none`: that mode verifies the peer unless the policy says `NONE`
-/

namespace Scf

def checkRole (role : SCFRole) : Errno :=
  if role = .client || role = .server then .success else .invalidParam

def checkVerifyMode (verifyMode : SCFVerifyMode) : Errno :=
  if verifyMode = .none || verifyMode = .default || verifyMode &&& .peer = .peer then .success
  else .invalidParam

def checkPolicyMode (policyMode : SCFPolicyMode) : Errno :=
  if policyMode = .high || policyMode = .middle || policyMode = .customer then .success
  else .invalidParam

/-- What OpenSSL and the crypto engine answer while a configuration is created. -/
structure SslCtxEnv where
  -- the library context of the crypto engine, if there is an engine that has one
  providerCtx : Option Address
  -- the symbol `SSL_CTX_new_ex` was found
  hasNewEx : Bool
  newExOk : Bool
  newOk : Bool
  -- the session cache reads back as off
  cacheModeOff : Bool
  setMinOk : Bool
  setMaxOk : Bool
deriving DecidableEq

/-- Every call succeeds, without a crypto engine. -/
def SslCtxEnv.plain : SslCtxEnv := ⟨none, true, true, true, true, true, true⟩

def mapVersion2NoOpt (version : UInt32) : Option UInt64 :=
  if version = tls12Version then some sslOpNoTls12
  else if version = tls13Version then some sslOpNoTls13
  else none

/-- The loop over the forbidden versions: the option bits of all of them, unless one is
unknown. -/
def forbidOptions : List UInt32 → UInt64 → Option UInt64
  | [], forbidOpt => some forbidOpt
  | version :: rest, forbidOpt =>
    match mapVersion2NoOpt version with
    | none => none
    | some sslOp => forbidOptions rest (forbidOpt ||| sslOp)

/-- `OpenSSLAdaptor::SetProtocolVersion` on a configuration. An empty list stands for a
null pointer or a length of zero. OpenSSL is assumed to store every bound that it accepts,
which it does not do with the version numbers of DTLS. -/
def setProtocolVersion (minVersion maxVersion : UInt32) (forbidVersion : List UInt32)
    (setMinOk setMaxOk : Bool) (cfg : SslCtx) : Errno × SslCtx :=
  if !setMinOk then (.sslSetProtocolVer, cfg)
  else
    let cfg := { cfg with minProtoVersion := minVersion }
    if !setMaxOk then (.sslSetProtocolVer, cfg)
    else
      let cfg := { cfg with maxProtoVersion := maxVersion }
      match forbidOptions forbidVersion 0 with
      | none => (.sslSetVerForbid, cfg)
      | some forbidOpt => (.success, { cfg with options := cfg.options ||| forbidOpt })

def calGetSslMethod (role : SCFRole) : Option SslMethod :=
  if role = .server then some .tlsServer
  else if role = .client then some .tlsClient
  else none

/-- The part that `InitSsl` and `InitSslCustomer` share: a configuration in the library
context of the engine, or else a plain one. -/
def newSslCtx (env : SslCtxEnv) (method : SslMethod) : Option SslCtx :=
  match env.providerCtx with
  | some providerCtx =>
    if env.hasNewEx && env.newExOk then some { method, libCtx := some providerCtx }
    else if env.newOk then some { method, libCtx := none }
    else none
  | none => if env.newOk then some { method, libCtx := none } else none

/-- `SSL_SECURITY_LEVEL_TWO`. -/
def sslSecurityLevelTwo : ℕ := 2

/-- Put another TLS configuration, or none, into the context. -/
def SCFPolicyCtx.setSslConfig (cfg : Option SslCtx) (ctx : SCFPolicyCtx) : SCFPolicyCtx :=
  { ctx with sslConfig := cfg }

@[simp] theorem setSslConfig_sslConfig (cfg : Option SslCtx) (ctx : SCFPolicyCtx) :
    (ctx.setSslConfig cfg).sslConfig = cfg := rfl

def initSsl (env : SslCtxEnv) (minVersion : UInt32) (ctx : SCFPolicyCtx) :
    Errno × SCFPolicyCtx :=
  match calGetSslMethod ctx.role with
  | none => (.sslRole, ctx)
  | some method =>
    match newSslCtx env method with
    | none => (.memAlloc, ctx)
    | some cfg =>
      let cfg := { cfg with securityLevel := some sslSecurityLevelTwo }
      if !env.cacheModeOff then (.sslSetSessTicket, ctx)
      else
        -- the old configuration is freed before the new one takes its place
        let (ret, cfg) :=
          setProtocolVersion minVersion tls13Version [] env.setMinOk env.setMaxOk cfg
        if ret ≠ .success then (ret, ctx.setSslConfig none)
        else
          let cfg := { cfg with options := cfg.options ||| sslOpNoRenegotiation }
          (.success, ctx.setSslConfig (some cfg))

def initSslCustomer (env : SslCtxEnv) (ctx : SCFPolicyCtx) : Errno × SCFPolicyCtx :=
  match calGetSslMethod ctx.role with
  | none => (.sslRole, ctx)
  | some method =>
    match newSslCtx env method with
    | none => (.memAlloc, ctx)
    | some cfg =>
      if !env.cacheModeOff then (.sslSetSessTicket, ctx)
      else
        let cfg := { cfg with options := cfg.options ||| sslOpNoRenegotiation }
        (.success, ctx.setSslConfig (some cfg))

def initPolicyByMode (env : SslCtxEnv) (ctx : SCFPolicyCtx) : Errno × SCFPolicyCtx :=
  if ctx.policyMode = .high then initSsl env tls13Version ctx
  else if ctx.policyMode = .middle then initSsl env tls12Version ctx
  else initSslCustomer env ctx

/-- The `SSL_VERIFY_*` bits of a verification mode, as `SetVerifyMode` computes them. -/
def sslVerifyBits (verifyMode : SCFVerifyMode) : UInt32 :=
  if verifyMode = .none then sslVerifyNone
  else
    (if verifyMode &&& .peer = .peer then sslVerifyPeer else 0) |||
      (if verifyMode &&& .failIfNoPeerCert = .failIfNoPeerCert then sslVerifyFailIfNoPeerCert
        else 0)

/-- `OpenSSLAdaptor::SetVerifyMode`. -/
def setVerifyMode (verifyMode : SCFVerifyMode) (ctx : SCFPolicyCtx) : Errno × SCFPolicyCtx :=
  match ctx.sslConfig with
  | none => (.invalidParam, ctx)
  | some cfg =>
    (.success, ctx.setSslConfig (some { cfg with verifyMode := sslVerifyBits verifyMode }))

/-- The mode that `SCF_SetPolicy` hands to the adaptor: the default is to require a
certificate of the peer. -/
def effectiveVerifyMode (verifyMode : SCFVerifyMode) : SCFVerifyMode :=
  if verifyMode = .default then .peer ||| .failIfNoPeerCert else verifyMode

/-- Record the arguments of `SCF_SetPolicy` in the context. -/
def SCFPolicyCtx.setPolicy (role : SCFRole) (verifyMode : SCFVerifyMode)
    (policyMode : SCFPolicyMode) (ctx : SCFPolicyCtx) : SCFPolicyCtx :=
  { ctx with role, verifyMode, policyMode }

def scfSetPolicy (g : Globals) (ctxPtr : Ptr) (role : SCFRole) (verifyMode : SCFVerifyMode)
    (policyMode : SCFPolicyMode) (env : SslCtxEnv) (ctx : SCFPolicyCtx) :
    Errno × SCFPolicyCtx :=
  if ctxPtr = .null || checkRole role ≠ .success || checkVerifyMode verifyMode ≠ .success ||
      checkPolicyMode policyMode ≠ .success then (.invalidParam, ctx)
  else if !g.scfInitialized then (.notInit, ctx)
  else if !g.adaptor then (.invalidParam, ctx)
  else
    let (ret, ctx) := initPolicyByMode env (ctx.setPolicy role verifyMode policyMode)
    if ret ≠ .success then (ret, ctx)
    else setVerifyMode (effectiveVerifyMode verifyMode) ctx

/-- The verification mode that `SCF_SetPolicy` installs in the TLS configuration. -/
def installedMode (verifyMode : SCFVerifyMode) : UInt32 :=
  sslVerifyBits (effectiveVerifyMode verifyMode)

/-- An accepted mode other than `NONE` makes the TLS layer verify the peer. -/
theorem installedMode_ne_none {verifyMode : SCFVerifyMode}
    (hcheck : checkVerifyMode verifyMode = .success) (hne : verifyMode ≠ .none) :
    installedMode verifyMode ≠ sslVerifyNone := by
  by_cases hdef : verifyMode = .default
  · subst hdef
    decide
  · have hpeer : verifyMode &&& .peer = .peer := by
      by_contra hpeer
      simp [checkVerifyMode, hne, hdef, hpeer] at hcheck
    rw [installedMode, effectiveVerifyMode, if_neg hdef, sslVerifyBits, if_neg hne, if_pos hpeer]
    split_ifs <;> decide

/-- The part of a TLS configuration that decides how the peer is authenticated: the
verification mode and whether the PSK callbacks are installed. -/
def SslCtx.auth (cfg : SslCtx) : UInt32 × Bool × Bool :=
  (cfg.verifyMode, cfg.pskFindSessionCallback, cfg.pskUseSessionCallback)

/-- Only the version bounds and the options change. The lower bound stays or becomes the given
one, also in a call that fails later. -/
theorem setProtocolVersion_spec (minVersion maxVersion : UInt32) (forbidVersion : List UInt32)
    (setMinOk setMaxOk : Bool) (cfg : SslCtx) :
    ∃ minVersion' maxVersion' options',
      (setProtocolVersion minVersion maxVersion forbidVersion setMinOk setMaxOk cfg).2 =
        { cfg with
          minProtoVersion := minVersion'
          maxProtoVersion := maxVersion'
          options := options' } ∧
      (minVersion' = cfg.minProtoVersion ∨ minVersion' = minVersion) := by
  unfold setProtocolVersion
  split_ifs
  · exact ⟨_, _, _, rfl, .inl rfl⟩
  · exact ⟨_, _, _, rfl, .inr rfl⟩
  · dsimp only
    cases forbidOptions forbidVersion 0 with
    | none => exact ⟨_, _, _, rfl, .inr rfl⟩
    | some forbidOpt => exact ⟨_, _, _, rfl, .inr rfl⟩

@[simp] theorem setProtocolVersion_auth (minVersion maxVersion : UInt32)
    (forbidVersion : List UInt32) (setMinOk setMaxOk : Bool) (cfg : SslCtx) :
    (setProtocolVersion minVersion maxVersion forbidVersion setMinOk setMaxOk cfg).2.auth =
      cfg.auth := by
  obtain ⟨_, _, _, hset, -⟩ := setProtocolVersion_spec minVersion maxVersion forbidVersion
    setMinOk setMaxOk cfg
  rw [hset]
  rfl

/-- What creating the TLS configuration can do to a context: the configuration stays, or is
lost, or gives way to a new one that verifies no peer and has no PSK callbacks. -/
inductive InitStep (ctx : SCFPolicyCtx) : SCFPolicyCtx → Prop
  | keep : InitStep ctx ctx
  | lost : InitStep ctx (ctx.setSslConfig none)
  | created {cfg : SslCtx} (h : cfg.auth = (sslVerifyNone, false, false)) :
      InitStep ctx (ctx.setSslConfig (some cfg))

theorem InitStep.eq_setSslConfig {ctx ctx' : SCFPolicyCtx} (h : InitStep ctx ctx') :
    ∃ cfg, ctx' = ctx.setSslConfig cfg := by
  cases h with
  | keep => exact ⟨ctx.sslConfig, rfl⟩
  | lost => exact ⟨none, rfl⟩
  | created h => exact ⟨_, rfl⟩

/-- OpenSSL makes a blank configuration, in the library context of the engine or in none. -/
theorem newSslCtx_eq {env : SslCtxEnv} {method : SslMethod} {cfg : SslCtx}
    (h : newSslCtx env method = some cfg) :
    ∃ libCtx, cfg = { method, libCtx } ∧
      (libCtx = none ∨ (env.hasNewEx && env.newExOk) = true ∧ libCtx = env.providerCtx) := by
  unfold newSslCtx at h
  cases hctx : env.providerCtx with
  | none =>
    rw [hctx] at h
    dsimp only at h
    split_ifs at h
    exact ⟨none, (Option.some.inj h).symm, .inl rfl⟩
  | some providerCtx =>
    rw [hctx] at h
    dsimp only at h
    split_ifs at h with hnew
    · exact ⟨some providerCtx, (Option.some.inj h).symm, .inr ⟨hnew, rfl⟩⟩
    · exact ⟨none, (Option.some.inj h).symm, .inl rfl⟩

/-- Without forbidden versions only the bounds can fail. -/
theorem setProtocolVersion_nil (minVersion maxVersion : UInt32) (setMinOk setMaxOk : Bool)
    (cfg : SslCtx) :
    (setMinOk && setMaxOk) = false ∧
        (setProtocolVersion minVersion maxVersion [] setMinOk setMaxOk cfg).1 ≠ .success ∨
      (setMinOk && setMaxOk) = true ∧
        setProtocolVersion minVersion maxVersion [] setMinOk setMaxOk cfg =
          (.success, { cfg with minProtoVersion := minVersion, maxProtoVersion := maxVersion }) := by
  cases setMinOk with
  | false => exact .inl ⟨rfl, show Errno.sslSetProtocolVer ≠ .success by decide⟩
  | true =>
    cases setMaxOk with
    | false => exact .inl ⟨rfl, show Errno.sslSetProtocolVer ≠ .success by decide⟩
    | true =>
      refine .inr ⟨rfl, ?_⟩
      simp [setProtocolVersion, forbidOptions]

/-- A configuration as `InitSsl` and `InitSslCustomer` leave it. -/
structure SslCtx.Initial (env : SslCtxEnv) (cfg : SslCtx) : Prop where
  auth : cfg.auth = (sslVerifyNone, false, false)
  certVerifyCallback : cfg.certVerifyCallback = none
  libCtx : cfg.libCtx = none ∨ (env.hasNewEx && env.newExOk) = true ∧ cfg.libCtx = env.providerCtx
  options : cfg.options = sslOpNoRenegotiation

/-- **Inversion lemma** for `InitSsl`: the context stays, or its configuration is lost or gives way
to a new one. -/
theorem initSsl_cases (env : SslCtxEnv) (minVersion : UInt32) (ctx : SCFPolicyCtx) :
    (initSsl env minVersion ctx).2 = ctx ∨
      ∃ config, (initSsl env minVersion ctx).2 = ctx.setSslConfig config ∧
        ∀ cfg ∈ config, cfg.Initial env := by
  unfold initSsl
  cases calGetSslMethod ctx.role with
  | none => exact .inl rfl
  | some method =>
    dsimp only
    cases hnew : newSslCtx env method with
    | none => exact .inl rfl
    | some cfg =>
      obtain ⟨libCtx, rfl, hlib⟩ := newSslCtx_eq hnew
      dsimp only
      split_ifs with hcache hret
      · exact .inl rfl
      · exact .inr ⟨none, rfl, nofun⟩
      · refine .inr ⟨_, rfl, fun cfg hcfg => ?_⟩
        obtain rfl := Option.some.inj hcfg
        obtain ⟨-, hset⟩ := (setProtocolVersion_nil _ _ _ _ _).resolve_left fun h => hret h.2
        rw [hset]
        exact ⟨rfl, rfl, hlib, UInt64.zero_or⟩

theorem initSslCustomer_cases (env : SslCtxEnv) (ctx : SCFPolicyCtx) :
    (initSslCustomer env ctx).2 = ctx ∨
      ∃ config, (initSslCustomer env ctx).2 = ctx.setSslConfig config ∧
        ∀ cfg ∈ config, cfg.Initial env := by
  unfold initSslCustomer
  cases calGetSslMethod ctx.role with
  | none => exact .inl rfl
  | some method =>
    dsimp only
    cases hnew : newSslCtx env method with
    | none => exact .inl rfl
    | some cfg =>
      obtain ⟨libCtx, rfl, hlib⟩ := newSslCtx_eq hnew
      dsimp only
      split_ifs with hcache
      · exact .inl rfl
      · refine .inr ⟨_, rfl, fun cfg hcfg => ?_⟩
        obtain rfl := Option.some.inj hcfg
        exact ⟨rfl, rfl, hlib, UInt64.zero_or⟩

/-- Creating the TLS configuration changes nothing else of the context. -/
theorem initPolicyByMode_cases (env : SslCtxEnv) (ctx : SCFPolicyCtx) :
    (initPolicyByMode env ctx).2 = ctx ∨
      ∃ config, (initPolicyByMode env ctx).2 = ctx.setSslConfig config ∧
        ∀ cfg ∈ config, cfg.Initial env := by
  unfold initPolicyByMode
  split_ifs
  · exact initSsl_cases env tls13Version ctx
  · exact initSsl_cases env tls12Version ctx
  · exact initSslCustomer_cases env ctx

theorem initPolicyByMode_step (env : SslCtxEnv) (ctx : SCFPolicyCtx) :
    InitStep ctx (initPolicyByMode env ctx).2 := by
  rcases initPolicyByMode_cases env ctx with hsame | ⟨config, hconfig, hinitial⟩
  · rw [hsame]
    exact .keep
  · rw [hconfig]
    cases config with
    | none => exact .lost
    | some cfg => exact .created (hinitial cfg rfl).auth

/-- What `SCF_SetPolicy` can do to a context, whether it succeeds or not. -/
inductive SetPolicyStep (role : SCFRole) (verifyMode : SCFVerifyMode)
    (policyMode : SCFPolicyMode) (ctx : SCFPolicyCtx) : SCFPolicyCtx → Prop
  | rejected : SetPolicyStep role verifyMode policyMode ctx ctx
  | failed {ctx' : SCFPolicyCtx} (h : InitStep (ctx.setPolicy role verifyMode policyMode) ctx') :
      SetPolicyStep role verifyMode policyMode ctx ctx'
  | done {ctx' : SCFPolicyCtx} (h : InitStep (ctx.setPolicy role verifyMode policyMode) ctx') :
      SetPolicyStep role verifyMode policyMode ctx
        (setVerifyMode (effectiveVerifyMode verifyMode) ctx').2

theorem scfSetPolicy_step (g : Globals) (ctxPtr : Ptr) (role : SCFRole) (verifyMode : SCFVerifyMode)
    (policyMode : SCFPolicyMode) (env : SslCtxEnv) (ctx : SCFPolicyCtx) :
    SetPolicyStep role verifyMode policyMode ctx
      (scfSetPolicy g ctxPtr role verifyMode policyMode env ctx).2 := by
  have hinit := initPolicyByMode_step env (ctx.setPolicy role verifyMode policyMode)
  unfold scfSetPolicy
  split_ifs
  case neg =>
    dsimp only
    split_ifs
    · exact .failed hinit
    · exact .done hinit
  all_goals exact .rejected

/-- A successful `SetVerifyMode` found a configuration and installed the mode in it. -/
theorem setVerifyMode_success {verifyMode : SCFVerifyMode} {ctx ctx' : SCFPolicyCtx}
    (h : setVerifyMode verifyMode ctx = (.success, ctx')) :
    ∃ cfg, cfg.verifyMode = sslVerifyBits verifyMode ∧ ctx' = ctx.setSslConfig (some cfg) := by
  unfold setVerifyMode at h
  cases hcfg : ctx.sslConfig with
  | none => simp [hcfg] at h
  | some cfg =>
    simp only [hcfg, Prod.mk.injEq, true_and] at h
    exact ⟨_, rfl, h.symm⟩

/-- What a successful `SCF_SetPolicy` has checked and done. -/
structure PolicySet (role : SCFRole) (verifyMode : SCFVerifyMode) (policyMode : SCFPolicyMode)
    (ctx ctx' : SCFPolicyCtx) : Prop where
  validMode : checkVerifyMode verifyMode = .success
  installed : ∃ cfg, cfg.verifyMode = installedMode verifyMode ∧
    ctx' = (ctx.setPolicy role verifyMode policyMode).setSslConfig (some cfg)

theorem scfSetPolicy_success {g : Globals} {ctxPtr : Ptr} {role : SCFRole}
    {verifyMode : SCFVerifyMode} {policyMode : SCFPolicyMode} {env : SslCtxEnv}
    {ctx ctx' : SCFPolicyCtx}
    (h : scfSetPolicy g ctxPtr role verifyMode policyMode env ctx = (.success, ctx')) :
    PolicySet role verifyMode policyMode ctx ctx' := by
  unfold scfSetPolicy at h
  obtain ⟨cfg, hcfg⟩ :=
    (initPolicyByMode_step env (ctx.setPolicy role verifyMode policyMode)).eq_setSslConfig
  split_ifs at h with hargs hinit hadaptor
  case neg =>
    have hmode : checkVerifyMode verifyMode = .success := by
      by_contra hmode
      exact hargs (by simp [hmode])
    rcases hret : initPolicyByMode env (ctx.setPolicy role verifyMode policyMode) with ⟨ret, ctx₁⟩
    rw [hret] at h hcfg
    dsimp only at h hcfg
    subst hcfg
    split_ifs at h with hfail
    · exact absurd (congrArg Prod.fst h) hfail
    · obtain ⟨cfg', hmode', hctx'⟩ := setVerifyMode_success h
      exact ⟨hmode, cfg', hmode', hctx'⟩
  all_goals simp at h

end Scf
