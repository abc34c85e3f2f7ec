import ScfSecurity.Base

/-!
# TLS library objects

The parts of OpenSSL's `SSL_CTX`, `SSL` and `SSL_SESSION` that the adaptor
configures and reads. What OpenSSL itself decides (whether a call succeeds, how a
handshake ends) is passed to the modelled functions as a value; here is only the
state the documented calls set and copy.
-/

namespace Scf

/-- `SSL_SUCCESS` and `SSL_ERROR`, the return values of most library calls. -/
def sslSuccess : Int32 := 1

@[inherit_doc sslSuccess]
def sslError : Int32 := 0

/-- `SSL_ERROR_WANT_READ`. -/
def sslErrorWantRead : Int32 := 2

/-- `SSL_ERROR_WANT_WRITE`. -/
def sslErrorWantWrite : Int32 := 3

/-- `SSL_VERIFY_NONE`. -/
def sslVerifyNone : UInt32 := 0x00

/-- `SSL_VERIFY_PEER`. -/
def sslVerifyPeer : UInt32 := 0x01

/-- `SSL_VERIFY_FAIL_IF_NO_PEER_CERT`. -/
def sslVerifyFailIfNoPeerCert : UInt32 := 0x02

/-- `SSL_OP_NO_TLSv1_2`. -/
def sslOpNoTls12 : UInt64 := 0x08000000

/-- `SSL_OP_NO_TLSv1_3`. -/
def sslOpNoTls13 : UInt64 := 0x20000000

/-- `SSL_OP_NO_RENEGOTIATION`. -/
def sslOpNoRenegotiation : UInt64 := 0x40000000

/-- `TLS1_2_VERSION`, which is also `SCF_SSL_VERSION_TLS12`. -/
def tls12Version : UInt32 := 0x0303

/-- `TLS1_3_VERSION`, which is also `SCF_SSL_VERSION_TLS13`. -/
def tls13Version : UInt32 := 0x0304

/-- `SCF_SSL_VERSION_TLS13_STR`. -/
def tls13VersionStr : String := "TLSv1.3"

/-- The `SSL_METHOD` a configuration is created with. -/
inductive SslMethod where
  | tlsServer
  | tlsClient
deriving DecidableEq, Repr

/-- A TLS configuration, `SSL_CTX`. A new one has the given method and library
context and the library's defaults for the rest: no version bounds, no peer
verification, no callbacks. -/
structure SslCtx where
  method : SslMethod
  libCtx : Option Address
  securityLevel : Option ℕ := none
  minProtoVersion : UInt32 := 0
  maxProtoVersion : UInt32 := 0
  options : UInt64 := 0
  verifyMode : UInt32 := sslVerifyNone
  certVerifyCallback : Option (Address × Address) := none
  pskFindSessionCallback : Bool := false
  pskUseSessionCallback : Bool := false
  ciphersuites : Option StdString := none
  groups : Option StdString := none
deriving DecidableEq

/-- A PSK session, `SSL_SESSION`. -/
structure SslSession where
  masterKey : List UInt8 := []
  protocolVersion : UInt32 := 0
  cipher : Option UInt16 := none
deriving DecidableEq

/-- A TLS connection, `SSL`. It takes method, verification mode and PSK callbacks from
its configuration when it is created. `sent` is the application data of the writes that
`SSL_write_ex` has reported as done, `keyUpdates` how often the sending key was changed. A large
write may fail when only its first records are made: `taken` is the data in all records so far,
and `pending` counts the bytes of a failed write in them. They are passed over when the write is
repeated, since `SSL_MODE_ENABLE_PARTIAL_WRITE` is never set. -/
structure Ssl where
  method : SslMethod
  verifyMode : UInt32
  pskFindSessionCallback : Bool
  pskUseSessionCallback : Bool
  version : String
  fd : Option Int32 := none
  initFinished : Bool := false
  sent : List UInt8 := []
  taken : List UInt8 := []
  pending : ℕ := 0
  keyUpdates : ℕ := 0
deriving DecidableEq

/-- `SSL_new`: the settings of the configuration, before any handshake. -/
def SslCtx.newSsl (cfg : SslCtx) (version : String) : Ssl where
  method := cfg.method
  verifyMode := cfg.verifyMode
  pskFindSessionCallback := cfg.pskFindSessionCallback
  pskUseSessionCallback := cfg.pskUseSessionCallback
  version := version

end Scf
