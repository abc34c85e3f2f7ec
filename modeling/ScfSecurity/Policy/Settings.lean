import ScfSecurity.Policy.Setup

/-!
# Settings of a policy context

The interface functions that change a context after its policy was set: protocol versions,
cipher suites, key exchange groups, the callbacks of the application and the parameters of
the automatic key update. Certificates and keys go into parts of the TLS configuration that
the model leaves out.

## Main definitions

- `ConfigCall`: one such call, with what the environment answers
- `configure`: any number of them, one after another

## Main results

- `SettingStep`, `ConfigStep`, `ConfigCall.apply_step`: what one such call can change
- `configure_verification`: none of them changes the verification mode or the role
-/

namespace Scf

/-- `SCF_SetProtocolVersion`. Without a configuration OpenSSL refuses the version. -/
def scfSetProtocolVersion (g : Globals) (ctxPtr : Ptr) (minVersion maxVersion : UInt32)
    (forbidVersion : List UInt32) (setMinOk setMaxOk : Bool) (ctx : SCFPolicyCtx) :
    Errno × SCFPolicyCtx :=
  if ctxPtr = .null then (.nullInput, ctx)
  else if ctx.role = .none then (.invalidParam, ctx)
  else if ctx.policyMode = .high && (minVersion ≠ tls13Version || maxVersion ≠ tls13Version) then
    (.sslPolicyVersion, ctx)
  else if !g.scfInitialized then (.notInit, ctx)
  else if !g.adaptor then (.invalidParam, ctx)
  else
    match ctx.sslConfig with
    | none => (.sslSetProtocolVer, ctx)
    | some cfg =>
      let (ret, cfg) := setProtocolVersion minVersion maxVersion forbidVersion setMinOk setMaxOk cfg
      (ret, ctx.setSslConfig (some cfg))

/-- `SCF_SSL_AES_128_GCM_SHA256`. -/
def cipherAes128GcmSha256 : UInt16 := 0x1301

/-- `SCF_SSL_AES_256_GCM_SHA384`. -/
def cipherAes256GcmSha384 : UInt16 := 0x1302

/-- `SCF_SSL_CHACHA20_POLY1305_SHA256`. -/
def cipherChacha20Poly1305Sha256 : UInt16 := 0x1303

/-- The table of `CipherId2CipherStr`. -/
def cipherNames : List (UInt16 × String) :=
  [(0xC02B, "TLS_ECDHE_ECDSA_WITH_AES_128_GCM_SHA256:"),
   (0xC02C, "TLS_ECDHE_ECDSA_WITH_AES_256_GCM_SHA384:"),
   (0xC02F, "TLS_ECDHE_RSA_WITH_AES_128_GCM_SHA256:"),
   (0xC030, "TLS_ECDHE_RSA_WITH_AES_256_GCM_SHA384:"),
   (0xCCA8, "TLS_ECDHE_RSA_WITH_CHACHA20_POLY1305_SHA256:"),
   (0xCCA9, "TLS_ECDHE_ECDSA_WITH_CHACHA20_POLY1305_SHA256:"),
   (cipherAes128GcmSha256, "TLS_AES_128_GCM_SHA256:"),
   (cipherAes256GcmSha384, "TLS_AES_256_GCM_SHA384:"),
   (cipherChacha20Poly1305Sha256, "TLS_CHACHA20_POLY1305_SHA256:"),
   (0x1304, "TLS_AES_128_CCM_SHA256:")]

def cipherId2CipherStr (cipherId : UInt16) : Option StdString :=
  (cipherNames.lookup cipherId).map ascii

/-- The names of all known cipher suites of the list, each followed by a colon. -/
def cipherSuitesStr (cipherSuites : List UInt16) : StdString :=
  cipherSuites.flatMap fun cipherId => (cipherId2CipherStr cipherId).getD []

/-- `OpenSSLAdaptor::SetCipherSuites`; `setOk` is the answer of OpenSSL to the string. -/
def setCipherSuites (cipherSuites : List UInt16) (allocOk setOk : Bool) (ctx : SCFPolicyCtx) :
    Errno × SCFPolicyCtx :=
  if (cipherSuitesStr cipherSuites).length = 0 then (.sslSetCipher, ctx)
  else if !allocOk then (.memAlloc, ctx)
  else if !setOk then (.sslSetCipher, ctx)
  else
    -- the last colon gives way to the terminator
    let suites := (cipherSuitesStr cipherSuites).dropLast
    (.success, ctx.setSslConfig (ctx.sslConfig.map fun cfg =>
      { cfg with ciphersuites := some suites }))

def scfSetCipherSuites (g : Globals) (ctxPtr : Ptr) (cipherSuites : Option (List UInt16))
    (allocOk setOk : Bool) (ctx : SCFPolicyCtx) : Errno × SCFPolicyCtx :=
  match ctxPtr, cipherSuites with
  | .valid, some cipherSuites =>
    if cipherSuites.length = 0 then (.invalidParam, ctx)
    else if ctx.role = .none then (.invalidParam, ctx)
    else if !g.scfInitialized then (.notInit, ctx)
    else if !g.adaptor then (.invalidParam, ctx)
    else setCipherSuites cipherSuites allocOk setOk ctx
  | _, _ => (.nullInput, ctx)

/-- `OpenSSLAdaptor::SetKeyExchangeGroups`. Groups that OpenSSL does not know are no
error. -/
def setKeyExchangeGroups (groups : List String) (setOk : Bool) (ctx : SCFPolicyCtx) :
    Errno × SCFPolicyCtx :=
  match ctx.sslConfig with
  | none => (.nullInput, ctx)
  | some cfg =>
    if groups.isEmpty then (.success, ctx)
    else if !setOk then (.success, ctx)
    else
      let groupsStr := ascii (String.intercalate ":" groups)
      (.success, ctx.setSslConfig (some { cfg with groups := some groupsStr }))

/-- `SCF_SetAppVerifyCallback`. The adaptor hands callback and argument to
`SSL_CTX_set_cert_verify_callback` as they are; a null callback stands for the
verification built into OpenSSL. -/
def scfSetAppVerifyCallback (g : Globals) (ctxPtr : Ptr) (cb : Option Address) (arg : Address)
    (ctx : SCFPolicyCtx) : Errno × SCFPolicyCtx :=
  if ctxPtr = .null then (.nullInput, ctx)
  else if ctx.role = .none then (.invalidParam, ctx)
  else if !g.scfInitialized then (.notInit, ctx)
  else if ctx.policyMode ≠ .customer || ctx.verifyMode &&& .customer = 0 then
    (.sslSecLevelMismatch, ctx)
  else if !g.adaptor then (.invalidParam, ctx)
  else
    (.success, ctx.setSslConfig (ctx.sslConfig.map fun cfg =>
      { cfg with certVerifyCallback := cb.map fun f => (f, arg) }))

/-- The common body of `SCF_SetPskFindSessionCallback` and `SCF_SetPskUseSessionCallback`
with their adaptor functions. -/
def scfSetPskCallback (install : SslCtx → SCFPolicyCtx → SCFPolicyCtx) (g : Globals)
    (ctxPtr : Ptr) (ctx : SCFPolicyCtx) : Errno × SCFPolicyCtx :=
  if ctxPtr = .null then (.nullInput, ctx)
  else if !g.scfInitialized then (.notInit, ctx)
  else if !g.adaptor then (.invalidParam, ctx)
  else
    match ctx.sslConfig with
    | none => (.invalidParam, ctx)
    | some cfg => (.success, install cfg ctx)

/-- The context remembers the callback, OpenSSL gets the wrapper if there is one. -/
def installPskFind (cb : Option Address) (cfg : SslCtx) (ctx : SCFPolicyCtx) : SCFPolicyCtx :=
  { ctx with
    pskFindSessionCb := cb
    sslConfig := some { cfg with pskFindSessionCallback := cb.isSome } }

@[inherit_doc installPskFind]
def installPskUse (cb : Option Address) (cfg : SslCtx) (ctx : SCFPolicyCtx) : SCFPolicyCtx :=
  { ctx with
    pskUseSessionCb := cb
    sslConfig := some { cfg with pskUseSessionCallback := cb.isSome } }

def scfSetPskFindSessionCallback (g : Globals) (ctxPtr : Ptr) (cb : Option Address) :
    SCFPolicyCtx → Errno × SCFPolicyCtx :=
  scfSetPskCallback (installPskFind cb) g ctxPtr

def scfSetPskUseSessionCallback (g : Globals) (ctxPtr : Ptr) (cb : Option Address) :
    SCFPolicyCtx → Errno × SCFPolicyCtx :=
  scfSetPskCallback (installPskUse cb) g ctxPtr

/-- `MIN_KEY_UPDATE_TIME` and `MAX_KEY_UPDATE_TIME`, in seconds. -/
def minKeyUpdateTime : UInt32 := 1

@[inherit_doc minKeyUpdateTime]
def maxKeyUpdateTime : UInt32 := 31536000

/-- `MIN_KEY_UPDATE_TRAFFIC` and `MAX_KEY_UPDATE_TRAFFIC`, in bytes. -/
def minKeyUpdateTraffic : UInt64 := 1000

@[inherit_doc minKeyUpdateTraffic]
def maxKeyUpdateTraffic : UInt64 := 0xffffffffffffffff

/-- `SCF_SetKeyAutoUpdateParam`. The flag is set before the parameters are checked. -/
def scfSetKeyAutoUpdateParam (g : Globals) (ctxPtr : Ptr) (isNeedKeyUpdate : Bool)
    (keyUpdateTime : UInt32) (keyUpdateTraffic : UInt64) (ctx : SCFPolicyCtx) :
    Errno × SCFPolicyCtx :=
  if ctxPtr = .null then (.nullInput, ctx)
  else if !g.scfInitialized then (.notInit, ctx)
  else
    let ctx := { ctx with isNeedKeyUpdate }
    if !isNeedKeyUpdate then (.success, ctx)
    else if keyUpdateTime < minKeyUpdateTime || keyUpdateTime > maxKeyUpdateTime ||
        keyUpdateTraffic < minKeyUpdateTraffic || keyUpdateTraffic > maxKeyUpdateTraffic then
      (.sslSetUpdateParam, ctx)
    else (.success, { ctx with keyUpdateTime, keyUpdateTraffic })

/-- One call that changes the settings of a context, with what the environment answers. -/
inductive ConfigCall where
  | setProtocolVersion (minVersion maxVersion : UInt32) (forbidVersion : List UInt32)
      (setMinOk setMaxOk : Bool)
  | setCipherSuites (cipherSuites : Option (List UInt16)) (allocOk setOk : Bool)
  | setKeyExchangeGroups (groups : List String) (setOk : Bool)
  | setAppVerifyCallback (cb : Option Address) (arg : Address)
  | setPskFindSessionCallback (cb : Option Address)
  | setPskUseSessionCallback (cb : Option Address)
  | setKeyAutoUpdateParam (isNeedKeyUpdate : Bool) (keyUpdateTime : UInt32)
      (keyUpdateTraffic : UInt64)

def ConfigCall.apply (g : Globals) (ctxPtr : Ptr) :
    ConfigCall → SCFPolicyCtx → Errno × SCFPolicyCtx
  | setProtocolVersion minVersion maxVersion forbidVersion setMinOk setMaxOk =>
    scfSetProtocolVersion g ctxPtr minVersion maxVersion forbidVersion setMinOk setMaxOk
  | setCipherSuites cipherSuites allocOk setOk =>
    scfSetCipherSuites g ctxPtr cipherSuites allocOk setOk
  | setKeyExchangeGroups groups setOk => Scf.setKeyExchangeGroups groups setOk
  | setAppVerifyCallback cb arg => scfSetAppVerifyCallback g ctxPtr cb arg
  | setPskFindSessionCallback cb => scfSetPskFindSessionCallback g ctxPtr cb
  | setPskUseSessionCallback cb => scfSetPskUseSessionCallback g ctxPtr cb
  | setKeyAutoUpdateParam isNeedKeyUpdate keyUpdateTime keyUpdateTraffic =>
    scfSetKeyAutoUpdateParam g ctxPtr isNeedKeyUpdate keyUpdateTime keyUpdateTraffic

/-- Carry out the calls one after another; whether they fail does not matter. -/
def configure (calls : List (Globals × Ptr × ConfigCall)) (ctx : SCFPolicyCtx) : SCFPolicyCtx :=
  calls.foldl (fun ctx call => (call.2.2.apply call.1 call.2.1 ctx).2) ctx

/-- The verification mode of the TLS configuration, if there is one. -/
def SCFPolicyCtx.tlsVerifyMode (ctx : SCFPolicyCtx) : Option UInt32 :=
  ctx.sslConfig.map SslCtx.verifyMode

/-! ### What the calls do

Each call leaves the context alone, or it gets as far as its one change to the configuration. -/

/-- Under a high policy no other lower bound than TLS 1.3 gets this far. -/
theorem scfSetProtocolVersion_cases (g : Globals) (ctxPtr : Ptr) (minVersion maxVersion : UInt32)
    (forbidVersion : List UInt32) (setMinOk setMaxOk : Bool) (ctx : SCFPolicyCtx) :
    (scfSetProtocolVersion g ctxPtr minVersion maxVersion forbidVersion setMinOk setMaxOk
        ctx).2 = ctx ∨
      (ctx.policyMode = .high → minVersion = tls13Version) ∧
        (scfSetProtocolVersion g ctxPtr minVersion maxVersion forbidVersion setMinOk setMaxOk
          ctx).2 = ctx.setSslConfig (ctx.sslConfig.map fun cfg =>
            (setProtocolVersion minVersion maxVersion forbidVersion setMinOk setMaxOk cfg).2) := by
  unfold scfSetProtocolVersion
  split_ifs with hptr hrole hversion
  case neg =>
    cases hcfg : ctx.sslConfig with
    | none => exact .inl rfl
    | some cfg =>
      refine .inr ⟨fun hhigh => ?_, rfl⟩
      by_contra hmin
      exact hversion (by simp [hhigh, hmin])
  all_goals exact .inl rfl

theorem setCipherSuites_cases (cipherSuites : List UInt16) (allocOk setOk : Bool)
    (ctx : SCFPolicyCtx) :
    (∃ ret, ret ≠ .success ∧ setCipherSuites cipherSuites allocOk setOk ctx = (ret, ctx)) ∨
      setCipherSuites cipherSuites allocOk setOk ctx =
        (.success, ctx.setSslConfig (ctx.sslConfig.map fun cfg =>
          { cfg with ciphersuites := some (cipherSuitesStr cipherSuites).dropLast })) := by
  unfold setCipherSuites
  by_cases hempty : (cipherSuitesStr cipherSuites).length = 0
  · exact .inl ⟨.sslSetCipher, by decide, if_pos hempty⟩
  · rw [if_neg hempty]
    cases allocOk with
    | false => exact .inl ⟨.memAlloc, by decide, rfl⟩
    | true =>
      cases setOk with
      | false => exact .inl ⟨.sslSetCipher, by decide, rfl⟩
      | true => exact .inr rfl

theorem scfSetCipherSuites_cases (g : Globals) (ctxPtr : Ptr) (cipherSuites : Option (List UInt16))
    (allocOk setOk : Bool) (ctx : SCFPolicyCtx) :
    (∃ ret, ret ≠ .success ∧
      scfSetCipherSuites g ctxPtr cipherSuites allocOk setOk ctx = (ret, ctx)) ∨
    ∃ suites, cipherSuites = some suites ∧
      scfSetCipherSuites g ctxPtr cipherSuites allocOk setOk ctx =
        (.success, ctx.setSslConfig (ctx.sslConfig.map fun cfg =>
          { cfg with ciphersuites := some (cipherSuitesStr suites).dropLast })) := by
  unfold scfSetCipherSuites
  split
  case h_1 suites =>
    split_ifs
    · exact .inl ⟨.invalidParam, by decide, rfl⟩
    · exact .inl ⟨.invalidParam, by decide, rfl⟩
    · exact .inl ⟨.notInit, by decide, rfl⟩
    · exact .inl ⟨.invalidParam, by decide, rfl⟩
    · rcases setCipherSuites_cases suites allocOk setOk ctx with hfail | hset
      · exact .inl hfail
      · exact .inr ⟨suites, rfl, hset⟩
  case h_2 => exact .inl ⟨.nullInput, by decide, rfl⟩

theorem setKeyExchangeGroups_cases (groups : List String) (setOk : Bool) (ctx : SCFPolicyCtx) :
    (setKeyExchangeGroups groups setOk ctx).2 = ctx ∨
      (setKeyExchangeGroups groups setOk ctx).2 = ctx.setSslConfig (ctx.sslConfig.map fun cfg =>
        { cfg with groups := some (ascii (String.intercalate ":" groups)) }) := by
  unfold setKeyExchangeGroups
  cases hcfg : ctx.sslConfig with
  | none => exact .inl rfl
  | some cfg =>
    dsimp only
    split_ifs
    · exact .inl rfl
    · exact .inl rfl
    · exact .inr rfl

theorem scfSetAppVerifyCallback_cases (g : Globals) (ctxPtr : Ptr) (cb : Option Address)
    (arg : Address) (ctx : SCFPolicyCtx) :
    (∃ ret, ret ≠ .success ∧ scfSetAppVerifyCallback g ctxPtr cb arg ctx = (ret, ctx)) ∨
      scfSetAppVerifyCallback g ctxPtr cb arg ctx =
        (.success, ctx.setSslConfig (ctx.sslConfig.map fun cfg =>
          { cfg with certVerifyCallback := cb.map fun f => (f, arg) })) := by
  unfold scfSetAppVerifyCallback
  split_ifs
  case neg => exact .inr rfl
  all_goals exact .inl ⟨_, by decide, rfl⟩

/-- Registering a callback takes a configuration. -/
theorem scfSetPskCallback_cases (install : SslCtx → SCFPolicyCtx → SCFPolicyCtx) (g : Globals)
    (ctxPtr : Ptr) (ctx : SCFPolicyCtx) :
    (∃ ret, ret ≠ .success ∧ scfSetPskCallback install g ctxPtr ctx = (ret, ctx)) ∨
      ∃ cfg, ctx.sslConfig = some cfg ∧
        scfSetPskCallback install g ctxPtr ctx = (.success, install cfg ctx) := by
  unfold scfSetPskCallback
  split_ifs
  · exact .inl ⟨.nullInput, by decide, rfl⟩
  · exact .inl ⟨.notInit, by decide, rfl⟩
  · exact .inl ⟨.invalidParam, by decide, rfl⟩
  · cases hcfg : ctx.sslConfig with
    | none => exact .inl ⟨.invalidParam, by decide, rfl⟩
    | some cfg => exact .inr ⟨cfg, rfl, rfl⟩

/-- The changes to a context by a settings call that does not concern pre-shared keys. -/
inductive SettingStep (ctx : SCFPolicyCtx) : SCFPolicyCtx → Prop
  | keep : SettingStep ctx ctx
  | config {cfg : Option SslCtx} (h : cfg.map SslCtx.auth = ctx.sslConfig.map SslCtx.auth) :
      SettingStep ctx (ctx.setSslConfig cfg)
  | updateFlag (isNeedKeyUpdate : Bool) : SettingStep ctx { ctx with isNeedKeyUpdate }
  | updateParams {keyUpdateTime : UInt32} {keyUpdateTraffic : UInt64}
      (hmin : minKeyUpdateTime ≤ keyUpdateTime) (hmax : keyUpdateTime ≤ maxKeyUpdateTime)
      (htraffic : minKeyUpdateTraffic ≤ keyUpdateTraffic) :
      SettingStep ctx { ctx with isNeedKeyUpdate := true, keyUpdateTime, keyUpdateTraffic }

/-- The changes one settings call can make to a context. -/
inductive ConfigStep (ctx : SCFPolicyCtx) : SCFPolicyCtx → Prop
  | setting {ctx' : SCFPolicyCtx} (h : SettingStep ctx ctx') : ConfigStep ctx ctx'
  | pskFind {cfg : SslCtx} (cb : Option Address) (h : ctx.sslConfig = some cfg) :
      ConfigStep ctx (installPskFind cb cfg ctx)
  | pskUse {cfg : SslCtx} (cb : Option Address) (h : ctx.sslConfig = some cfg) :
      ConfigStep ctx (installPskUse cb cfg ctx)

/-- A change inside the configuration that leaves the authentication alone. -/
theorem SettingStep.map {ctx : SCFPolicyCtx} {f : SslCtx → SslCtx}
    (hf : ∀ cfg, (f cfg).auth = cfg.auth) :
    SettingStep ctx (ctx.setSslConfig (ctx.sslConfig.map f)) := by
  refine .config ?_
  rw [Option.map_map]
  congr 1
  funext cfg
  exact hf cfg

theorem scfSetProtocolVersion_step (g : Globals) (ctxPtr : Ptr) (minVersion maxVersion : UInt32)
    (forbidVersion : List UInt32) (setMinOk setMaxOk : Bool) (ctx : SCFPolicyCtx) :
    SettingStep ctx (scfSetProtocolVersion g ctxPtr minVersion maxVersion forbidVersion
      setMinOk setMaxOk ctx).2 := by
  rcases scfSetProtocolVersion_cases g ctxPtr minVersion maxVersion forbidVersion setMinOk setMaxOk
    ctx with hsame | ⟨-, hset⟩
  · rw [hsame]
    exact .keep
  · rw [hset]
    exact .map fun cfg => setProtocolVersion_auth minVersion maxVersion forbidVersion setMinOk
      setMaxOk cfg

theorem scfSetCipherSuites_step (g : Globals) (ctxPtr : Ptr) (cipherSuites : Option (List UInt16))
    (allocOk setOk : Bool) (ctx : SCFPolicyCtx) :
    SettingStep ctx (scfSetCipherSuites g ctxPtr cipherSuites allocOk setOk ctx).2 := by
  rcases scfSetCipherSuites_cases g ctxPtr cipherSuites allocOk setOk ctx with
    ⟨ret, -, hsame⟩ | ⟨suites, -, hset⟩
  · rw [hsame]
    exact .keep
  · rw [hset]
    exact .map fun _ => rfl

theorem setKeyExchangeGroups_step (groups : List String) (setOk : Bool) (ctx : SCFPolicyCtx) :
    SettingStep ctx (setKeyExchangeGroups groups setOk ctx).2 := by
  rcases setKeyExchangeGroups_cases groups setOk ctx with hsame | hset
  · rw [hsame]
    exact .keep
  · rw [hset]
    exact .map fun _ => rfl

theorem scfSetAppVerifyCallback_step (g : Globals) (ctxPtr : Ptr) (cb : Option Address)
    (arg : Address) (ctx : SCFPolicyCtx) :
    SettingStep ctx (scfSetAppVerifyCallback g ctxPtr cb arg ctx).2 := by
  rcases scfSetAppVerifyCallback_cases g ctxPtr cb arg ctx with ⟨ret, -, hsame⟩ | hset
  · rw [hsame]
    exact .keep
  · rw [hset]
    exact .map fun _ => rfl

theorem scfSetPskCallback_step {install : SslCtx → SCFPolicyCtx → SCFPolicyCtx}
    (hinstall : ∀ cfg ctx, ctx.sslConfig = some cfg → ConfigStep ctx (install cfg ctx))
    (g : Globals) (ctxPtr : Ptr) (ctx : SCFPolicyCtx) :
    ConfigStep ctx (scfSetPskCallback install g ctxPtr ctx).2 := by
  rcases scfSetPskCallback_cases install g ctxPtr ctx with ⟨ret, -, hsame⟩ | ⟨cfg, hcfg, hset⟩
  · rw [hsame]
    exact .setting .keep
  · rw [hset]
    exact hinstall cfg ctx hcfg

theorem scfSetKeyAutoUpdateParam_step (g : Globals) (ctxPtr : Ptr) (isNeedKeyUpdate : Bool)
    (keyUpdateTime : UInt32) (keyUpdateTraffic : UInt64) (ctx : SCFPolicyCtx) :
    SettingStep ctx
      (scfSetKeyAutoUpdateParam g ctxPtr isNeedKeyUpdate keyUpdateTime keyUpdateTraffic ctx).2 := by
  unfold scfSetKeyAutoUpdateParam
  split_ifs with hptr hinit hneed hrange
  · exact .keep
  · exact .keep
  · exact .updateFlag isNeedKeyUpdate
  · exact .updateFlag isNeedKeyUpdate
  · simp only [Bool.or_eq_true, decide_eq_true_eq, not_or, UInt32.not_lt, UInt64.not_lt,
      gt_iff_lt] at hrange
    obtain ⟨⟨⟨hmin, hmax⟩, htraffic⟩, -⟩ := hrange
    have htrue : isNeedKeyUpdate = true := by simpa using hneed
    subst htrue
    exact .updateParams hmin hmax htraffic

/-- Every settings call makes one of these changes. -/
theorem ConfigCall.apply_step (g : Globals) (ctxPtr : Ptr) (call : ConfigCall)
    (ctx : SCFPolicyCtx) : ConfigStep ctx (call.apply g ctxPtr ctx).2 := by
  cases call with
  | setProtocolVersion minVersion maxVersion forbidVersion setMinOk setMaxOk =>
    exact .setting (scfSetProtocolVersion_step g ctxPtr minVersion maxVersion forbidVersion
      setMinOk setMaxOk ctx)
  | setCipherSuites cipherSuites allocOk setOk =>
    exact .setting (scfSetCipherSuites_step g ctxPtr cipherSuites allocOk setOk ctx)
  | setKeyExchangeGroups groups setOk =>
    exact .setting (setKeyExchangeGroups_step groups setOk ctx)
  | setAppVerifyCallback cb arg =>
    exact .setting (scfSetAppVerifyCallback_step g ctxPtr cb arg ctx)
  | setPskFindSessionCallback cb =>
    exact scfSetPskCallback_step (fun _ _ h => .pskFind cb h) g ctxPtr ctx
  | setPskUseSessionCallback cb =>
    exact scfSetPskCallback_step (fun _ _ h => .pskUse cb h) g ctxPtr ctx
  | setKeyAutoUpdateParam isNeedKeyUpdate keyUpdateTime keyUpdateTraffic =>
    exact .setting (scfSetKeyAutoUpdateParam_step g ctxPtr isNeedKeyUpdate keyUpdateTime
      keyUpdateTraffic ctx)

theorem SettingStep.verification {ctx ctx' : SCFPolicyCtx} (h : SettingStep ctx ctx') :
    ctx'.role = ctx.role ∧ ctx'.tlsVerifyMode = ctx.tlsVerifyMode := by
  cases h with
  | keep => exact ⟨rfl, rfl⟩
  | config h =>
    refine ⟨rfl, ?_⟩
    have hmode := congrArg (Option.map Prod.fst) h
    rw [Option.map_map, Option.map_map] at hmode
    exact hmode
  | updateFlag isNeedKeyUpdate => exact ⟨rfl, rfl⟩
  | updateParams hmin hmax htraffic => exact ⟨rfl, rfl⟩

/-- No settings call changes the role or the verification mode. -/
theorem ConfigStep.verification {ctx ctx' : SCFPolicyCtx} (h : ConfigStep ctx ctx') :
    ctx'.role = ctx.role ∧ ctx'.tlsVerifyMode = ctx.tlsVerifyMode := by
  cases h with
  | setting h => exact h.verification
  | pskFind cb h =>
    refine ⟨rfl, ?_⟩
    rw [SCFPolicyCtx.tlsVerifyMode, SCFPolicyCtx.tlsVerifyMode, h]
    rfl
  | pskUse cb h =>
    refine ⟨rfl, ?_⟩
    rw [SCFPolicyCtx.tlsVerifyMode, SCFPolicyCtx.tlsVerifyMode, h]
    rfl

/-- Any number of settings calls leave role and verification mode alone. -/
theorem configure_verification (calls : List (Globals × Ptr × ConfigCall)) (ctx : SCFPolicyCtx) :
    (configure calls ctx).role = ctx.role ∧
      (configure calls ctx).tlsVerifyMode = ctx.tlsVerifyMode := by
  induction calls generalizing ctx with
  | nil => exact ⟨rfl, rfl⟩
  | cons call calls ih =>
    have hstep := (call.2.2.apply_step call.1 call.2.1 ctx).verification
    have hrest := ih (call.2.2.apply call.1 call.2.1 ctx).2
    exact ⟨hrest.1.trans hstep.1, hrest.2.trans hstep.2⟩

end Scf
