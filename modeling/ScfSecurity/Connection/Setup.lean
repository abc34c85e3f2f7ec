import ScfSecurity.Connection.Config
import ScfSecurity.Connection.Process

/-!
# Setting up the context of a connection

`SetupPolicyContext` creates a crypto engine and a policy context for a connection and
configures the context from the security level, the certificate policy and either the
certificates or the pre-shared key of the configuration.

For a pre-shared key a TLS session is made, given the key, and freed again; the context
does not get to know it.

## Main definitions

- `setupPSK`, `setupCertificates`, `setupCipherSuites`: the steps of the configuration
- `configureCtx`: all of them, in the order of `SetupPolicyContext`
- `setupPolicyContext`: engine, context and configuration
-/

namespace Scf

open Automaton

/-- What the environment answers to the functions on PSK sessions, and to the creation of
the object that is used to look up a cipher suite. -/
structure PskEnv where
  sessionNewOk : Bool
  setMasterKeyOk : Bool
  setVersionOk : Bool
  clock : Option UInt64
  objAllocOk : Bool
  -- the suite that `SSL_CIPHER_find` finds
  cipherFind : Option UInt16
  setCipherOk : Bool
deriving DecidableEq

/-- Everything succeeds. -/
def PskEnv.plain : PskEnv := ⟨true, true, true, some 0, true, none, true⟩

def scfSessionNew (g : Globals) (newOk : Bool) : Option SslSession :=
  if !g.scfInitialized then none
  else if !g.adaptor then none
  else if !newOk then none
  else some {}

/-- `SCF_SessionSetMasterKey` with a key that is not encrypted. -/
def scfSessionSetMasterKey (g : Globals) (masterKey : List UInt8) (setOk : Bool)
    (sess : SslSession) : Errno × SslSession :=
  if masterKey.length = 0 then (.invalidParam, sess)
  else if !g.scfInitialized then (.notInit, sess)
  else if !g.adaptor then (.invalidParam, sess)
  else if !setOk then (.sslSessSetKey, sess)
  else (.success, { sess with masterKey })

def protocolStrToInt (version : String) : Option UInt32 :=
  [("TLSv1.2", tls12Version), ("TLSv1.3", tls13Version)].lookup version

def scfSessionSetProtocolVersion (g : Globals) (version : String) (setOk : Bool)
    (sess : SslSession) : Errno × SslSession :=
  if !g.scfInitialized then (.notInit, sess)
  else if !g.adaptor then (.invalidParam, sess)
  else
    match protocolStrToInt version with
    | none => (.sslVersion, sess)
    | some sslVersion =>
      if !setOk then (.sslSessSetProtocolVer, sess)
      else (.success, { sess with protocolVersion := sslVersion })

/-- `SCF_CipherFind`; it needs an object that has a connection. -/
def scfCipherFind (g : Globals) (find : Option UInt16) (obj : SCFPolicyObj) : Option UInt16 :=
  if !g.scfInitialized then none
  else if !g.adaptor then none
  else if obj.sslCtx = none then none
  else find

def scfSessionSetCipher (g : Globals) (cipherSuite : UInt16) (setOk : Bool)
    (sess : SslSession) : Errno × SslSession :=
  if !g.scfInitialized then (.notInit, sess)
  else if !g.adaptor then (.invalidParam, sess)
  else if !setOk then (.sslSessSetCipher, sess)
  else (.success, { sess with cipher := some cipherSuite })

/-- The session that `SetupPSK` makes for a key, before a cipher suite is looked up. -/
def pskSession (g : Globals) (env : PskEnv) (pskKey : List UInt8) : Except Errno SslSession :=
  match scfSessionNew g env.sessionNewOk with
  | none => .error .memAlloc
  | some sess =>
    let (ret, sess) := scfSessionSetMasterKey g pskKey env.setMasterKeyOk sess
    if ret ≠ .success then .error ret
    else
      let (ret, sess) := scfSessionSetProtocolVersion g tls13VersionStr env.setVersionOk sess
      if ret ≠ .success then .error ret else .ok sess

/-- The session with the suite that is found for an object. Failures are ignored. -/
def chooseCipher (g : Globals) (env : PskEnv) (sess : SslSession) (obj : SCFPolicyObj) :
    SslSession :=
  match scfCipherFind g env.cipherFind obj with
  | none => sess
  | some cipherSuite => (scfSessionSetCipher g cipherSuite env.setCipherOk sess).2

/-- `SCFConnectionImpl::SetupPSK`. The object for the lookup is not freed; the session is,
and no callback is registered. -/
def setupPSK (g : Globals) (env : PskEnv) (config : SCFConnectionConfig) (ctx : ℕ) :
    Resumption Process Errno :=
  match pskSession g env config.pskKey with
  | .error ret => .done ret
  | .ok sess =>
    if (getSecurityLevelMapping config.securityLevel).tls13CipherSuites.isEmpty then .done .success
    else
      (newObj g ctx env.clock env.objAllocOk).bind fun
        | none => .done .success
        | some obj =>
          (withObj sess obj fun _ o => (chooseCipher g env sess o, o)).bind fun _ =>
            .done .success

/-- How the steps of loading one file end: the allocation of its `SCF_FILE_CTX`, the path,
the password, and the use of the contents. -/
structure FileEnv where
  newOk : Bool
  setBuf : Errno
  setPwd : Errno
  use : Errno
deriving DecidableEq

def FileEnv.plain : FileEnv := ⟨true, .success, .success, .success⟩

/-- Load a file into the context, with a password if there is one. -/
def loadFile (env : FileEnv) (password : StdString) : Errno :=
  if !env.newOk then .memAlloc
  else if env.setBuf ≠ .success then env.setBuf
  else if !password.isEmpty && env.setPwd ≠ .success then env.setPwd
  else env.use

structure CertEnv where
  ca : FileEnv
  cert : FileEnv
  key : FileEnv
  crl : FileEnv
deriving DecidableEq

def CertEnv.plain : CertEnv := ⟨.plain, .plain, .plain, .plain⟩

/-- `SCFConnectionImpl::SetupCertificates`. Certificates and keys go into parts of the TLS
configuration that the model leaves out. -/
def setupCertificates (env : CertEnv) (config : SCFConnectionConfig) : Errno :=
  let ca := if config.caCertPath.isEmpty then .success else loadFile env.ca []
  if ca ≠ .success then ca
  else
    let own :=
      if config.certPath.isEmpty || config.keyPath.isEmpty then .success
      else
        let cert := loadFile env.cert []
        if cert ≠ .success then cert else loadFile env.key config.keyPassword
    if own ≠ .success then own
    else if config.crlPath.isEmpty then .success
    else loadFile env.crl []

/-- What the environment answers while a connection is set up. -/
structure SetupEnv where
  -- what the factory of crypto engines creates, and whether it can be initialised
  engine : Option CryptoEngine
  engineInit : Bool
  ctxAllocOk : Bool
  sslCtx : SslCtxEnv
  groupsOk : Bool
  setMinOk : Bool
  setMaxOk : Bool
  cipherAllocOk : Bool
  cipherSetOk : Bool
  psk : PskEnv
  certs : CertEnv
deriving DecidableEq

/-- Everything succeeds, without a crypto engine. -/
def SetupEnv.plain : SetupEnv :=
  ⟨none, true, true, .plain, true, true, true, true, true, .plain, .plain⟩

/-- The policy of the security level, on a configuration in the library context of the
engine that the adaptor uses. -/
def setupPolicy (g : Globals) (env : SetupEnv) (config : SCFConnectionConfig) (ctx : ℕ) :
    Resumption Process Errno :=
  (Resumption.load Process.providerCtx).bind fun providerCtx =>
    withCtx ctx (scfSetPolicy g .valid config.role (mapCertVerifyPolicy config.certVerifyPolicy)
      (getSecurityLevelMapping config.securityLevel).policyMode { env.sslCtx with providerCtx })

/-- The key exchange groups; a failure is only logged. -/
def setupGroups (g : Globals) (env : SetupEnv) (config : SCFConnectionConfig) (ctx : ℕ) :
    Resumption Process Errno :=
  let groups := (getSecurityLevelMapping config.securityLevel).keyExchangeGroups
  if groups.isEmpty || !g.adaptor then .done .success
  else (withCtx ctx (setKeyExchangeGroups groups env.groupsOk)).bind fun _ => .done .success

def setupProtocolVersion (g : Globals) (env : SetupEnv) (config : SCFConnectionConfig) (ctx : ℕ) :
    Resumption Process Errno :=
  let mapping := getSecurityLevelMapping config.securityLevel
  withCtx ctx (scfSetProtocolVersion g .valid mapping.protocolVersionMin
    mapping.protocolVersionMax [] env.setMinOk env.setMaxOk)

/-- `SCFConnectionImpl::SetupCipherSuites`. -/
def setupCipherSuites (g : Globals) (env : SetupEnv) (config : SCFConnectionConfig) (ctx : ℕ) :
    Resumption Process Errno :=
  let suites := (getSecurityLevelMapping config.securityLevel).tls13CipherSuites
  if suites.isEmpty then .done .success
  else withCtx ctx (scfSetCipherSuites g .valid (some suites) env.cipherAllocOk env.cipherSetOk)

def setupAppVerify (g : Globals) (config : SCFConnectionConfig) (ctx : ℕ) :
    Resumption Process Errno :=
  match config.appVerifyCb with
  | none => .done .success
  | some cb => withCtx ctx (scfSetAppVerifyCallback g .valid (some cb) config.appVerifyArg)

/-- `kDefaultKeyUpdateIntervalSec`. -/
def defaultUpdateIntervalSec : UInt32 := 300

/-- `kDefaultKeyUpdateByteLimit`. -/
def defaultUpdateByteLimit : UInt64 := 1073741824

/-- The automatic key update; a failure is only logged. -/
def setupKeyAutoUpdate (g : Globals) (config : SCFConnectionConfig) (ctx : ℕ) :
    Resumption Process Errno :=
  if config.enableKeyAutoUpdate then
    (withCtx ctx (scfSetKeyAutoUpdateParam g .valid true defaultUpdateIntervalSec
      defaultUpdateByteLimit)).bind fun _ => .done .success
  else .done .success

/-- Configure a new context, until a step fails. -/
def configureCtx (g : Globals) (env : SetupEnv) (config : SCFConnectionConfig) (ctx : ℕ) :
    Resumption Process Errno :=
  andThen (setupPolicy g env config ctx) <|
  andThen (setupGroups g env config ctx) <|
  andThen (setupProtocolVersion g env config ctx) <|
  andThen (setupCipherSuites g env config ctx) <|
  andThen
    (if config.usePSK then setupPSK g env.psk config ctx
      else .done (setupCertificates env.certs config)) <|
  andThen (setupAppVerify g config ctx) <|
  setupKeyAutoUpdate g config ctx

end Scf
