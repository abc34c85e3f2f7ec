import ScfSecurity.Policy.Settings

/-!
# Configuration of connections

What a user of `SCFConnection` chooses, and how the choice is translated to the policy
interface: a security level becomes protocol versions, cipher suites and key exchange
groups, a certificate policy becomes a verification mode.
-/

namespace Scf

/-- `SCF_SECURITY_LEVEL`. -/
abbrev SCFSecurityLevel := UInt32

def SCFSecurityLevel.bit112 : SCFSecurityLevel := 0
def SCFSecurityLevel.bit128 : SCFSecurityLevel := 1
def SCFSecurityLevel.bit192 : SCFSecurityLevel := 2
def SCFSecurityLevel.bit256 : SCFSecurityLevel := 3
def SCFSecurityLevel.bit128PQ : SCFSecurityLevel := 4
def SCFSecurityLevel.bit256PQ : SCFSecurityLevel := 5

/-- `SCF_CERT_VERIFY_POLICY`. -/
abbrev SCFCertVerifyPolicy := UInt32

def SCFCertVerifyPolicy.none : SCFCertVerifyPolicy := 0
def SCFCertVerifyPolicy.optional : SCFCertVerifyPolicy := 1
def SCFCertVerifyPolicy.required : SCFCertVerifyPolicy := 2
def SCFCertVerifyPolicy.strict : SCFCertVerifyPolicy := 3

/-- `SCF_CONNECTION_STATE`. -/
inductive SCFConnectionState where
  | init
  | connecting
  | connected
  | closing
  | closed
  | error
deriving DecidableEq, Repr

/-- `SCFConnectionConfig` with its defaults. What the factories for transports and crypto
engines create is decided by the environment; the options that no function reads are left
out. -/
structure SCFConnectionConfig where
  securityLevel : SCFSecurityLevel := .bit128
  role : SCFRole := .client
  caCertPath : StdString := []
  certPath : StdString := []
  keyPath : StdString := []
  keyPassword : StdString := []
  crlPath : StdString := []
  certVerifyPolicy : SCFCertVerifyPolicy := .required
  pskIdentity : StdString := []
  pskKey : List UInt8 := []
  usePSK : Bool := false
  appVerifyCb : Option Address := none
  appVerifyArg : Address := 0
  enableKeyAutoUpdate : Bool := true
deriving DecidableEq

/-- `SecurityLevelMapping`, without the fields that only appear in log messages. -/
structure SecurityLevelMapping where
  protocolVersionMin : UInt32
  protocolVersionMax : UInt32
  tls13CipherSuites : List UInt16
  keyExchangeGroups : List String
  policyMode : SCFPolicyMode
deriving DecidableEq

def make112bitMapping : SecurityLevelMapping where
  protocolVersionMin := tls12Version
  protocolVersionMax := tls13Version
  tls13CipherSuites := [cipherAes128GcmSha256, cipherAes256GcmSha384]
  keyExchangeGroups := ["X25519", "P-256"]
  policyMode := .middle

def make128bitMapping : SecurityLevelMapping where
  protocolVersionMin := tls13Version
  protocolVersionMax := tls13Version
  tls13CipherSuites :=
    [cipherAes128GcmSha256, cipherAes256GcmSha384, cipherChacha20Poly1305Sha256]
  keyExchangeGroups := ["X25519", "P-256"]
  policyMode := .high

def make192bitMapping : SecurityLevelMapping where
  protocolVersionMin := tls13Version
  protocolVersionMax := tls13Version
  tls13CipherSuites := [cipherAes256GcmSha384, cipherAes128GcmSha256]
  keyExchangeGroups := ["P-384", "X25519"]
  policyMode := .high

def make256bitMapping : SecurityLevelMapping where
  protocolVersionMin := tls13Version
  protocolVersionMax := tls13Version
  tls13CipherSuites := [cipherAes256GcmSha384, cipherAes128GcmSha256]
  keyExchangeGroups := ["P-521", "P-384", "X25519"]
  policyMode := .high

def make128bitPQMapping : SecurityLevelMapping where
  protocolVersionMin := tls13Version
  protocolVersionMax := tls13Version
  tls13CipherSuites := [cipherAes128GcmSha256, cipherAes256GcmSha384]
  -- the hybrid groups come first, the classical ones are the fallback
  keyExchangeGroups := ["x25519_kyber512", "p256_kyber512", "x25519_kyber768", "X25519", "P-256"]
  policyMode := .high

def make256bitPQMapping : SecurityLevelMapping where
  protocolVersionMin := tls13Version
  protocolVersionMax := tls13Version
  tls13CipherSuites := [cipherAes256GcmSha384]
  keyExchangeGroups := ["p521_kyber1024", "p521_mlkem1024", "p384_kyber768", "P-521", "P-384"]
  policyMode := .high

/-- `GetSecurityLevelMapping`; an unknown level counts as 128 bits. -/
def getSecurityLevelMapping (level : SCFSecurityLevel) : SecurityLevelMapping :=
  if level = .bit112 then make112bitMapping
  else if level = .bit192 then make192bitMapping
  else if level = .bit256 then make256bitMapping
  else if level = .bit128PQ then make128bitPQMapping
  else if level = .bit256PQ then make256bitPQMapping
  else make128bitMapping

def mapCertVerifyPolicy (policy : SCFCertVerifyPolicy) : SCFVerifyMode :=
  if policy = .none then .none
  else if policy = .required || policy = .strict then .default ||| .peer ||| .failIfNoPeerCert
  else .default

/-- The configuration of `SCF_NewPSKConnection`: a pre-shared key, and no verification of
certificates. -/
def pskConnectionConfig (securityLevel : SCFSecurityLevel) (role : SCFRole)
    (pskIdentity : StdString) (pskKey : List UInt8) : SCFConnectionConfig :=
  { securityLevel, role, pskIdentity, pskKey, usePSK := true, certVerifyPolicy := .none }

end Scf
