import ScfSecurity.Library.Json
import ScfSecurity.Policy.FileContext
import ScfSecurity.Tls.OpenSsl

/-!
# Parsing a configuration file

`SCF_ParseConfig` reads a JSON document and fills a `Config` from its sections. A string of the
document becomes a `std::string` or is measured by `strlen`, so that what stands behind a NUL in it
is lost. The functions write into the `Config` as they go along, also where they fail later.

## Main definitions

- `Config`: what the document is read into
- `scfParseConfig`: `SCF_ParseConfig` on the document that `SCF_ReadConfig` returned
-/

namespace Scf

/-- A document, with the numbers left open: no function looks at one. -/
abbrev Document (Num : Type) := JsonValue Num StdString

/-! ### The keys and tables -/

def tlsVersionKey : StdString := ascii "tlsVersion"
def minVersionKey : StdString := ascii "minVersion"
def maxVersionKey : StdString := ascii "maxVersion"
def forbidVersionKey : StdString := ascii "forbidVersion"
def tlsCipherSuitesKey : StdString := ascii "tlsCipherSuites"
def certKey : StdString := ascii "cert"
def certsKey : StdString := ascii "certs"
def certTypeKey : StdString := ascii "certType"
def storeBufKey : StdString := ascii "storeBuf"
def isCipherKey : StdString := ascii "isCipher"
def privateKeyKey : StdString := ascii "privKey"
def keyAuthKey : StdString := ascii "keyAuth"

/-- `MAX_FORBIN_VERSION_LENGTH`. -/
def maxForbinVersionLength : ℕ := 5

/-- `MAX_TLS_CIPHER_SUITES_LENGTH`. -/
def maxTlsCipherSuitesLength : ℕ := 20

/-- `find` in one of the tables. -/
def findByName {α : Type} (table : List (String × α)) (name : StdString) : Option α :=
  (table.find? fun entry => ascii entry.1 = name).map Prod.snd

def cipherMap : List (String × UInt16) :=
  [("SCF_SSL_ECDHE_ECDSA_WITH_AES_128_GCM_SHA256", 0xC02B),
   ("SCF_SSL_ECDHE_ECDSA_WITH_AES_256_GCM_SHA384", 0xC02C),
   ("SCF_SSL_ECDHE_RSA_WITH_AES_128_GCM_SHA256", 0xC02F),
   ("SCF_SSL_ECDHE_RSA_WITH_AES_256_GCM_SHA384", 0xC030),
   ("SCF_SSL_ECDHE_RSA_WITH_CHACHA20_POLY1305_SHA256", 0xCCA8),
   ("SCF_SSL_ECDHE_ECDSA_WITH_CHACHA20_POLY1305_SHA256", 0xCCA9),
   ("SCF_SSL_AES_128_GCM_SHA256", 0x1301),
   ("SCF_SSL_AES_256_GCM_SHA384", 0x1302),
   ("SCF_SSL_CHACHA20_POLY1305_SHA256", 0x1303),
   ("SCF_SSL_AES_128_CCM_SHA256", 0x1304)]

def tlsVersionMap : List (String × UInt32) :=
  [("SSL_VERSION_TLS12", tls12Version), ("SSL_VERSION_TLS13", tls13Version)]

/-- `tlsCertTypeMap`, with the values of `SCF_CERT_TYPE`. -/
def tlsCertTypeMap : List (String × UInt32) := [("CA", 0), ("EE", 1), ("CRL", 2), ("EE_CHAIN", 3)]

/-! ### The result -/

structure Cert where
  certType : StdString
  storeBuf : StdString
deriving DecidableEq

structure TlsVersion where
  minVersion : UInt32
  maxVersion : UInt32
  forbidVersion : List UInt32
deriving DecidableEq

/-- `KeyAuth`; `storeBuf` is the password of the private key. -/
structure KeyAuth where
  storeBuf : List UInt8
  isCipher : Bool
deriving DecidableEq

structure PrivKey where
  storeBuf : StdString
  keyAuth : KeyAuth
deriving DecidableEq

/-- `Config`, the contents of a configuration file. -/
structure SCFConfig where
  tlsVersion : TlsVersion
  tlsCipherSuites : List UInt16
  certs : List Cert
  privKey : PrivKey
deriving DecidableEq

/-- The constructor of `Config`. -/
def newConfig : SCFConfig where
  tlsVersion := ⟨0, 0, []⟩
  tlsCipherSuites := []
  certs := []
  privKey := ⟨[], ⟨[], true⟩⟩

/-! ### The functions -/

section Parse

variable {Num α : Type}

/-- A loop over the elements of an array that stops at the first one it cannot use. -/
def fillEach (item : Document Num → Access (Option α)) :
    List (Document Num) → List α → Access (Errno × List α)
  | [], out => pure (.success, out)
  | v :: rest, out => do
    match ← item v with
    | none => pure (.error, out)
    | some a => fillEach item rest (out ++ [a])

/-- An element that is a name of a table. -/
def nameItem (table : List (String × α)) (v : Document Num) : Access (Option α) :=
  if !v.isString then pure none
  else do
    let name ← v.getString
    pure (findByName table (cStr name))

def fillTlsVersion (tlsVersion : Document Num) (out : TlsVersion) :
    Access (Errno × TlsVersion) := do
  let minVersionStr ← (← tlsVersion.get minVersionKey).getString
  let maxVersionStr ← (← tlsVersion.get maxVersionKey).getString
  match findByName tlsVersionMap (cStr minVersionStr) with
  | none => pure (.error, out)
  | some minVersion =>
    let out := { out with minVersion }
    match findByName tlsVersionMap (cStr maxVersionStr) with
    | none => pure (.error, out)
    | some maxVersion => pure (.success, { out with maxVersion })

def fillTlsForbidVersion (tlsVersion : Document Num) (out : TlsVersion) :
    Access (Errno × TlsVersion) := do
  let versions ← (← tlsVersion.get forbidVersionKey).getArray
  let (ret, forbidVersion) ← fillEach (nameItem tlsVersionMap) versions out.forbidVersion
  pure (ret, { out with forbidVersion })

def scfParseTLSVersion (tlsVersion : Document Num) (out : TlsVersion) :
    Access (Errno × TlsVersion) := do
  -- the only function that does not ask first whether its value is an object
  let hasMember ← tlsVersion.hasMember minVersionKey <&&> tlsVersion.hasMember maxVersionKey <&&>
    tlsVersion.hasMember forbidVersionKey
  if !hasMember then pure (.error, out)
  else
    let strings ← JsonValue.isString <$> tlsVersion.get minVersionKey <&&>
      JsonValue.isString <$> tlsVersion.get maxVersionKey
    if !strings then pure (.error, out)
    else
      let (ret, out) ← fillTlsVersion tlsVersion out
      if ret ≠ .success then pure (.error, out)
      else
        let forbidVersion ← tlsVersion.get forbidVersionKey
        let forbidVersionInValid ← pure (!forbidVersion.isArray) <||>
          (fun size => decide (size > maxForbinVersionLength)) <$> forbidVersion.size
        if forbidVersionInValid then pure (.error, out)
        else
          let (ret, out) ← fillTlsForbidVersion tlsVersion out
          if ret ≠ .success then pure (.error, out) else pure (.success, out)

def fillTlsCipherSuites (tlsCiphersuites : Document Num) (out : List UInt16) :
    Access (Errno × List UInt16) := do
  let ciphers ← tlsCiphersuites.getArray
  fillEach (nameItem cipherMap) ciphers out

def scfParseTLSCiphersuites (tlsCiphersuites : Document Num) (out : List UInt16) :
    Access (Errno × List UInt16) := do
  let tlsCiphersuitesInvalid ← pure (!tlsCiphersuites.isArray) <||>
    (fun size => decide (size > maxTlsCipherSuitesLength)) <$> tlsCiphersuites.size
  if tlsCiphersuitesInvalid then pure (.error, out)
  else
    let (ret, out) ← fillTlsCipherSuites tlsCiphersuites out
    if ret ≠ .success then pure (.error, out)
    else if out = [] then pure (.error, out)
    else pure (.success, out)

def checkCertType (certType : StdString) : Errno :=
  if (findByName tlsCertTypeMap certType).isSome then .success else .error

variable (checkFile : StdString → Bool)

/-- The body of the loop of `FillCerts`. -/
def certItem (certObj : Document Num) : Access (Option Cert) := do
  let certObjInvalid ← pure (!certObj.isObject) <||> not <$> certObj.hasMember certKey
  if certObjInvalid then pure none
  else
    let cert ← certObj.get certKey
    if !cert.isObject then pure none
    else
      let certValid ← cert.hasMember certTypeKey <&&> cert.hasMember storeBufKey <&&>
        JsonValue.isString <$> cert.get certTypeKey <&&>
        JsonValue.isString <$> cert.get storeBufKey
      if !certValid then pure none
      else
        let certType ← cStr <$> (← cert.get certTypeKey).getString
        let certStoreBuf ← cStr <$> (← cert.get storeBufKey).getString
        if checkCertType certType ≠ .success || !checkFile certStoreBuf then pure none
        else pure (some ⟨certType, certStoreBuf⟩)

def fillCerts (certs : Document Num) (out : List Cert) : Access (Errno × List Cert) := do
  let certObjs ← certs.getArray
  fillEach (certItem checkFile) certObjs out

def scfParseCertsJson (certs : Document Num) (out : List Cert) : Access (Errno × List Cert) :=
  if !certs.isArray then pure (.error, out)
  else do
    let (ret, out) ← fillCerts checkFile certs out
    if ret ≠ .success then pure (.error, out) else pure (.success, out)

def scfParseKeyAuthJson (keyAuth : Document Num) (out : KeyAuth) : Access (Errno × KeyAuth) := do
  let keyAuthInvalid ← pure (!keyAuth.isObject) <||>
    not <$> keyAuth.hasMember storeBufKey <||>
    (not ∘ JsonValue.isString) <$> keyAuth.get storeBufKey <||>
    not <$> keyAuth.hasMember isCipherKey <||>
    (not ∘ JsonValue.isBool) <$> keyAuth.get isCipherKey
  if keyAuthInvalid then pure (.error, out)
  else
    -- the length is that of `strlen`
    let storeBuf ← cStr <$> (← keyAuth.get storeBufKey).getString
    let isCipher ← (← keyAuth.get isCipherKey).getBool
    pure (.success, ⟨out.storeBuf ++ storeBuf, isCipher⟩)

def scfParsePrivKeyJson (privKey : Document Num) (out : PrivKey) : Access (Errno × PrivKey) :=
  if !privKey.isObject then pure (.error, out)
  else do
    let privKeyInvalid ← not <$> privKey.hasMember storeBufKey <||>
      (not ∘ JsonValue.isString) <$> privKey.get storeBufKey <||>
      not <$> privKey.hasMember keyAuthKey <||>
      (not ∘ JsonValue.isObject) <$> privKey.get keyAuthKey
    if privKeyInvalid then pure (.error, out)
    else
      let privKeyStoreBuf ← cStr <$> (← privKey.get storeBufKey).getString
      if !checkFile privKeyStoreBuf then pure (.error, out)
      else
        let out := { out with storeBuf := privKeyStoreBuf }
        let (ret, keyAuth) ← scfParseKeyAuthJson (← privKey.get keyAuthKey) out.keyAuth
        let out := { out with keyAuth }
        if ret ≠ .success then pure (.error, out) else pure (.success, out)

/-- A section of the document: it may be absent, and is parsed if not. -/
def parseSection {β : Type} (key : StdString) (parse : Document Num → β → Access (Errno × β))
    (configDoc : Document Num) (out : β) : Access (Errno × β) := do
  if !(← configDoc.hasMember key) then pure (.success, out)
  else
    let (ret, out) ← parse (← configDoc.get key) out
    if ret ≠ .success then pure (.error, out) else pure (.success, out)

def parseTLS (configDoc : Document Num) (cfg : SCFConfig) : Access (Errno × SCFConfig) := do
  let (ret, tlsVersion) ← parseSection tlsVersionKey scfParseTLSVersion configDoc cfg.tlsVersion
  let cfg := { cfg with tlsVersion }
  if ret ≠ .success then pure (.error, cfg)
  else
    let (ret, tlsCipherSuites) ←
      parseSection tlsCipherSuitesKey scfParseTLSCiphersuites configDoc cfg.tlsCipherSuites
    let cfg := { cfg with tlsCipherSuites }
    if ret ≠ .success then pure (.error, cfg) else pure (.success, cfg)

def parseCertAndKey (configDoc : Document Num) (cfg : SCFConfig) : Access (Errno × SCFConfig) := do
  let (ret, certs) ← parseSection certsKey (scfParseCertsJson checkFile) configDoc cfg.certs
  let cfg := { cfg with certs }
  if ret ≠ .success then pure (.error, cfg)
  else
    let (ret, privKey) ←
      parseSection privateKeyKey (scfParsePrivKeyJson checkFile) configDoc cfg.privKey
    let cfg := { cfg with privKey }
    if ret ≠ .success then pure (.error, cfg) else pure (.success, cfg)

/-- `SCF_ParseConfig` behind `SCF_ReadConfig`; `checkFile` is `SCF_CheckFilePathAndStat`. A file that
cannot be read or is no document is the document `null`. -/
def scfParseConfig (configDoc : Document Num) (cfg : SCFConfig) : Access (Errno × SCFConfig) :=
  if configDoc.isNull then pure (.error, cfg)
  else do
    let (ret, cfg) ← parseTLS configDoc cfg
    if ret ≠ .success then pure (.error, cfg)
    else
      let (ret, cfg) ← parseCertAndKey checkFile configDoc cfg
      if ret ≠ .success then pure (.error, cfg) else pure (.success, cfg)

end Parse

end Scf
