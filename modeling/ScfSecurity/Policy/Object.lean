import ScfSecurity.Policy.Setup

/-!
# Binding an object to a socket

`SCF_SetFd` creates the TLS connection of an object from the configuration of its context,
unless it has one, and binds it to a file descriptor. The connection copies the
verification mode and the PSK callbacks of the configuration at this moment.
-/

namespace Scf

/-- The loop of `CheckVersion` over the versions from the lower to the upper bound: an
unknown version is an error, the first one that is not forbidden is enough. -/
def checkVersionLoop (options : UInt64) : List ℕ → Bool
  | [] => false
  | version :: rest =>
    match mapVersion2NoOpt version.toUInt32 with
    | none => false
    | some sslOp => if sslOp &&& options = 0 then true else checkVersionLoop options rest

/-- `OpenSSLAdaptor::CheckVersion`: some version of the configuration is not forbidden. -/
def checkVersion (ctx : SCFPolicyCtx) : Bool :=
  match ctx.sslConfig with
  | none => false
  | some cfg =>
    if cfg.minProtoVersion = 0 && cfg.maxProtoVersion = 0 then true
    else
      checkVersionLoop cfg.options (List.range' cfg.minProtoVersion.toNat
        (cfg.maxProtoVersion.toNat + 1 - cfg.minProtoVersion.toNat))

/-- What OpenSSL answers while a connection is created and bound. `SetFd` does not check the
result of `SSL_new` and crashes if there was no memory for the connection; such calls have no
answer here. -/
structure SslEnv where
  setExDataOk : Bool
  setFdOk : Bool
  -- what `SSL_get_version` says of the connection before a handshake
  version : String
deriving DecidableEq

/-- Every call succeeds and the connection speaks TLS 1.3. -/
def SslEnv.plain : SslEnv := ⟨true, true, tls13VersionStr⟩

/-- The connection of an object before `SSL_set_fd`: the present one, or a new one. -/
def sslForFd (env : SslEnv) (ctx : SCFPolicyCtx) (obj : SCFPolicyObj) : Except Errno Ssl :=
  match obj.sslCtx with
  | some ssl => .ok ssl
  | none =>
    if !checkVersion ctx then .error .sslPolicyVersion
    else
      match ctx.sslConfig with
      | none => .error .sslPolicyVersion
      | some cfg =>
        if !env.setExDataOk then .error .sslSetExData else .ok (cfg.newSsl env.version)

/-- The object with a connection bound to a file descriptor. -/
def SCFPolicyObj.bindFd (ssl : Ssl) (fd : Int32) (obj : SCFPolicyObj) : SCFPolicyObj :=
  { obj with sslCtx := some { ssl with fd := some fd }, fd }

/-- `OpenSSLAdaptor::SetFd`. A new connection that cannot be bound is freed again. -/
def adaptorSetFd (fd : Int32) (env : SslEnv) (ctx : SCFPolicyCtx) (obj : SCFPolicyObj) :
    Errno × SCFPolicyObj :=
  match sslForFd env ctx obj with
  | .error ret => (ret, obj)
  | .ok ssl =>
    if !env.setFdOk then (.sslSetSocketFd, obj)
    else (.success, obj.bindFd ssl fd)

def scfSetFd (g : Globals) (objPtr : Ptr) (fd : Int32) (env : SslEnv) (ctx : SCFPolicyCtx)
    (obj : SCFPolicyObj) : Errno × SCFPolicyObj :=
  if !g.scfInitialized then (.notInit, obj)
  else if !g.adaptor then (.invalidParam, obj)
  else if objPtr = .null then (.nullInput, obj)
  else if obj.role = .none || fd < 0 then (.invalidParam, obj)
  else adaptorSetFd fd env ctx obj

/-- The connection of an object that had none is made from the configuration. -/
theorem sslForFd_ok {env : SslEnv} {ctx : SCFPolicyCtx} {obj : SCFPolicyObj} {ssl : Ssl}
    (hnew : obj.sslCtx = none) (h : sslForFd env ctx obj = .ok ssl) :
    ∃ cfg, ctx.sslConfig = some cfg ∧ ssl = cfg.newSsl env.version := by
  unfold sslForFd at h
  rw [hnew] at h
  dsimp only at h
  cases hcfg : ctx.sslConfig with
  | none => simp [checkVersion, hcfg] at h
  | some cfg =>
    rw [hcfg] at h
    dsimp only at h
    split_ifs at h
    exact ⟨cfg, rfl, (Except.ok.inj h).symm⟩

/-- A connection that cannot be made is reported as an error. -/
theorem sslForFd_error {env : SslEnv} {ctx : SCFPolicyCtx} {obj : SCFPolicyObj} {ret : Errno}
    (h : sslForFd env ctx obj = .error ret) : ret ≠ .success := by
  rintro rfl
  unfold sslForFd at h
  cases hssl : obj.sslCtx with
  | some ssl => simp [hssl] at h
  | none =>
    cases hcfg : ctx.sslConfig with
    | none => simp [hssl, hcfg] at h
    | some cfg =>
      simp only [hssl, hcfg] at h
      split_ifs at h <;> simp at h

theorem adaptorSetFd_success {fd : Int32} {env : SslEnv} {ctx : SCFPolicyCtx}
    {obj obj' : SCFPolicyObj} (h : adaptorSetFd fd env ctx obj = (.success, obj')) :
    ∃ ssl, sslForFd env ctx obj = .ok ssl ∧ obj' = obj.bindFd ssl fd := by
  unfold adaptorSetFd at h
  cases hssl : sslForFd env ctx obj with
  | error ret =>
    rw [hssl] at h
    exact absurd (Prod.mk.inj h).1 (sslForFd_error hssl)
  | ok ssl =>
    rw [hssl] at h
    dsimp only at h
    split_ifs at h
    · simp at h
    · exact ⟨ssl, rfl, (Prod.mk.inj h).2.symm⟩

theorem scfSetFd_success {g : Globals} {objPtr : Ptr} {fd : Int32} {env : SslEnv}
    {ctx : SCFPolicyCtx} {obj obj' : SCFPolicyObj}
    (h : scfSetFd g objPtr fd env ctx obj = (.success, obj')) :
    ∃ ssl, sslForFd env ctx obj = .ok ssl ∧ obj' = obj.bindFd ssl fd := by
  unfold scfSetFd at h
  split_ifs at h
  case neg => exact adaptorSetFd_success h
  all_goals simp at h

end Scf
