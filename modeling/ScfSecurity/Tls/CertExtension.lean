import ScfSecurity.Base

/-!
# Certificate extensions

The adaptor reads the node identity and the role of a peer from two private
certificate extensions, each an ASN.1 UTF8String in DER inside the extension's
OCTET STRING. Parsing and encoding are done by libcrypto; `LibCrypto` holds what
its functions return, and nothing is assumed of them.

## Main definitions

- `X509`: the extensions of a certificate in the order of the certificate
- `LibCrypto`: the libcrypto functions the decoder calls
- `getCertExtensionByOid`: `OpenSSLAdaptor::GetCertExtensionByOid`
-/

namespace Scf

/-- An extension: its object identifier as text and the contents of its OCTET
STRING. -/
structure X509Extension where
  oid : String
  data : List UInt8
deriving DecidableEq

/-- A certificate, as far as extensions are concerned. -/
structure X509 where
  extensions : List X509Extension
deriving DecidableEq

/-- What libcrypto answers. An `ASN1_UTF8STRING` is represented by its contents:
`d2iAsn1Utf8String` gives them with the number of bytes read,
`i2dAsn1Utf8String` encodes them, `asn1StringToUtf8` checks that they are UTF-8. -/
structure LibCrypto where
  objTxt2obj : String → Bool
  d2iAsn1Utf8String : List UInt8 → Option (List UInt8 × ℕ)
  i2dAsn1Utf8String : List UInt8 → Option (List UInt8)
  asn1StringToUtf8 : List UInt8 → Option (List UInt8)

/-- libcrypto on UTF8Strings of less than 128 bytes of ASCII: tag, length, contents. -/
def LibCrypto.shortForm : LibCrypto where
  objTxt2obj _ := true
  d2iAsn1Utf8String
    | 0x0c :: len :: rest =>
      if len < 128 ∧ len.toNat ≤ rest.length then
        some (rest.take len.toNat, len.toNat + 2)
      else none
    | _ => none
  i2dAsn1Utf8String value :=
    if value.length < 128 then some (0x0c :: value.length.toUInt8 :: value) else none
  asn1StringToUtf8 value := if value.all (· < 128) then some value else none

/-- `X509_get_ext_by_OBJ`: the first extension with the identifier at or after
position `start`. OpenSSL counts from the position before, so its `-1` is `0` here. -/
def X509.getExtByObj (cert : X509) (oid : String) (start : ℕ) : Option ℕ :=
  ((cert.extensions.drop start).findIdx? fun e => e.oid = oid).map (· + start)

/-- `IsCanonicalDerUtf8String`: encoding the value again gives the same bytes. -/
def isCanonicalDerUtf8String (lib : LibCrypto) (utf8String encoded : List UInt8) : Bool :=
  lib.i2dAsn1Utf8String utf8String = some encoded

/-- `DecodeDerUtf8String`. -/
def decodeDerUtf8String (lib : LibCrypto) (encoded : List UInt8) : Errno × StdString :=
  match lib.d2iAsn1Utf8String encoded with
  | none => (.sslParseCert, [])
  | some (utf8String, consumed) =>
    -- trailing bytes after the UTF8String are refused
    if consumed ≠ encoded.length then (.sslParseCert, [])
    else if !isCanonicalDerUtf8String lib utf8String encoded then (.sslParseCert, [])
    else
      match lib.asn1StringToUtf8 utf8String with
      | none => (.sslParseCert, [])
      | some value => (.success, value)

/-- `OpenSSLAdaptor::GetCertExtensionByOid`. -/
def getCertExtensionByOid (lib : LibCrypto) (cert : X509) (oid : String) :
    Errno × StdString :=
  if !lib.objTxt2obj oid then (.sslParseCert, [])
  else
    match cert.getExtByObj oid 0 with
    | none => (.sslCertExtAbsent, [])
    | some index =>
      if (cert.getExtByObj oid (index + 1)).isSome then (.sslParseCert, [])
      else
        match cert.extensions[index]? with
        | none => (.sslParseCert, [])
        | some extension =>
          if extension.data = [] then (.sslParseCert, [])
          else decodeDerUtf8String lib extension.data

theorem decodeDerUtf8String_code (lib : LibCrypto) (encoded : List UInt8) :
    (decodeDerUtf8String lib encoded).1 = .success ∨
      (decodeDerUtf8String lib encoded).1 = .sslParseCert := by
  unfold decodeDerUtf8String
  repeat' split
  all_goals simp

/-- An extension is read, absent or malformed; there is no other outcome. -/
theorem getCertExtensionByOid_code (lib : LibCrypto) (cert : X509) (oid : String) :
    (getCertExtensionByOid lib cert oid).1 = .success ∨
      (getCertExtensionByOid lib cert oid).1 = .sslCertExtAbsent ∨
      (getCertExtensionByOid lib cert oid).1 = .sslParseCert := by
  unfold getCertExtensionByOid
  repeat' split
  all_goals first
    | exact (decodeDerUtf8String_code lib _).imp_right Or.inr
    | simp

end Scf
