import ScfSecurity.Loading.DynamicLibrary
import ScfSecurity.Tls.OpenSsl

/-!
# The functions of OpenSSL

`LibCryptoApi` and `LibSslApi` differ in the shared object they open, the functions they look up,
the members they reset, and the function that initialises the shared object. Which functions are
looked up depends on the version of OpenSSL.

## Main definitions

- `LibApi`: what one of the two libraries consists of
- `Loading.loadAll`, `Loading.unInit`, `Loading.init`: loading and unloading it
- `libCryptoApi`, `libSslApi`: the two libraries

## Main results

- `libCryptoApi_wellFormed`, `libSslApi_wellFormed`: what is looked up has a member of its own, and
  is reset again
-/

namespace Scf

/-- `SSL_VERSION_3_X`. -/
def sslVersion3X : UInt64 := 0x30000000

/-- The functions of OpenSSL that are looked up by name. -/
inductive OpensslFun where
  -- in libcrypto
  | OpenSSL_version_num | OPENSSL_init_crypto | X509_STORE_add_cert | X509_STORE_add_crl
  | X509_STORE_set_flags | X509_free | X509_CRL_free | X509_get_version | X509_getm_notBefore
  | X509_getm_notAfter | X509_get_serialNumber | X509_get0_serialNumber | X509_verify_cert
  | X509_STORE_CTX_get_error | OBJ_txt2obj | ASN1_OBJECT_free | X509_get_ext_by_OBJ | X509_get_ext
  | X509_EXTENSION_get_data | ASN1_STRING_get0_data | ASN1_STRING_length | d2i_ASN1_UTF8STRING
  | i2d_ASN1_UTF8STRING | ASN1_STRING_to_UTF8 | ASN1_UTF8STRING_free | CRYPTO_free
  | BIO_new_mem_buf | BIO_free | EVP_PKEY_free | ERR_get_error | ERR_error_string
  | ERR_print_errors_cb | OpenSSL_version | EVP_sha256 | EVP_sha384 | EVP_aes_128_gcm
  | EVP_aes_256_gcm | EVP_aes_128_ccm | EVP_chacha20_poly1305 | EVP_CIPHER_CTX_new
  | EVP_CIPHER_CTX_free | EVP_CIPHER_CTX_ctrl | EVP_EncryptInit_ex | EVP_EncryptUpdate
  | EVP_EncryptFinal_ex | EVP_DecryptInit_ex | EVP_DecryptUpdate | EVP_DecryptFinal_ex
  | EVP_sha512 | EVP_MD_CTX_new | EVP_MD_CTX_free | EVP_DigestInit_ex | EVP_DigestUpdate
  | EVP_DigestFinal_ex | EVP_MD_get_size | EVP_MD_size | HMAC | EVP_PKEY_new | EVP_PKEY_CTX_new_id
  | EVP_PKEY_CTX_new | EVP_PKEY_CTX_free | EVP_PKEY_keygen_init | EVP_PKEY_keygen
  | EVP_PKEY_derive_init | EVP_PKEY_derive_set_peer | EVP_PKEY_derive | d2i_PUBKEY | RAND_bytes
  | EVP_PKEY_CTX_ctrl | EVP_PKEY_CTX_set_ec_paramgen_curve_nid | EVP_PKEY_CTX_set_hkdf_md
  | EVP_PKEY_CTX_set1_hkdf_salt | EVP_PKEY_CTX_set1_hkdf_key | EVP_PKEY_CTX_set_hkdf_mode
  | EVP_PKEY_CTX_add1_hkdf_info | OSSL_LIB_CTX_new | OSSL_LIB_CTX_free | OSSL_PROVIDER_load
  | OSSL_PROVIDER_unload | ERR_error_string_n
  -- in libssl
  | OPENSSL_init_ssl | SSL_new | SSL_free | SSL_connect | SSL_accept | SSL_get_error | SSL_read_ex
  | SSL_write_ex | SSL_shutdown | SSL_set_ex_data | SSL_get_ex_data | SSL_set_fd
  | SSL_is_init_finished | SSL_key_update | SSL_get_version | SSL_get1_peer_certificate
  | SSL_get_peer_certificate | SSL_get_certificate | SSL_set_verify | SSL_CIPHER_find
  | SSL_CIPHER_get_id | SSL_CTX_new | SSL_CTX_new_ex | SSL_CTX_free
  | SSL_CTX_load_verify_locations | SSL_CTX_get_cert_store | SSL_CTX_use_certificate_file
  | SSL_CTX_use_certificate | SSL_CTX_use_certificate_chain_file | SSL_CTX_use_PrivateKey_file
  | SSL_CTX_use_PrivateKey | SSL_CTX_set_default_passwd_cb_userdata | SSL_CTX_set_ciphersuites
  | SSL_get_current_cipher | SSL_CTX_set_options | SSL_CTX_get_options
  | SSL_CTX_set_cert_verify_callback | SSL_CTX_check_private_key | SSL_CTX_set_verify
  | SSL_CTX_set_security_level | SSL_CTX_set_psk_find_session_callback
  | SSL_CTX_set_psk_use_session_callback | SSL_CTX_get_ciphers | SSL_CTX_ctrl
  | SSL_CTX_set_default_passwd_cb | SSL_SESSION_new | SSL_SESSION_free | SSL_SESSION_get0_cipher
  | SSL_SESSION_set1_master_key | SSL_SESSION_set_cipher | SSL_SESSION_set_protocol_version
  | SSL_SESSION_get_protocol_version | TLS_server_method | TLS_client_method | PEM_read_bio_X509
  | PEM_read_bio_X509_CRL | PEM_read_bio_PrivateKey | PEM_read_X509_CRL | OPENSSL_sk_num
  | OPENSSL_sk_value
deriving DecidableEq

/-- `CONNECTOR_SELF_DLSYM`: a member named like the function. -/
def connectorSelfDlsym (name : OpensslFun) : OpensslFun × OpensslFun := (name, name)

/-- A library: the file, the functions that are looked up after the version number, each with its
member, the members that are reset, and the member with the initialisation function. -/
structure LibApi where
  libName : StdString
  symbols : UInt64 → List (OpensslFun × OpensslFun)
  resets : List OpensslFun
  initFun : OpensslFun

namespace LibApi

/-- All functions that are looked up in a library of the given version. -/
def lookups (api : LibApi) (versionNum : UInt64) : List (OpensslFun × OpensslFun) :=
  connectorSelfDlsym .OpenSSL_version_num :: api.symbols versionNum

end LibApi

namespace Loading

/-- `LoadAll`. -/
def loadAll (api : LibApi) (s : Loading OpensslFun) : Except DlFault (Errno × Loading OpensslFun) :=
  let (ret, s) := selfDlSym .OpenSSL_version_num .OpenSSL_version_num s
  if ret ≠ .success then .ok (.loadSymbol, s)
  else do
    let object ← s.linker.call (s.lib.funs .OpenSSL_version_num)
    let s := { s with lib := { s.lib with versionNum := object.versionNum } }
    let (ret, s) := loadSymbols (api.symbols s.lib.versionNum) s
    if ret ≠ Errno.success.value then .ok (.loadSymbol, s) else .ok (.success, s)

/-- `UnLoadAll`. -/
def unLoadAll (api : LibApi) (s : Loading OpensslFun) : Loading OpensslFun :=
  { s with lib := { s.lib.resetAll api.resets with versionNum := 0 } }

/-- `UnInit`. -/
def unInit (api : LibApi) (s : Loading OpensslFun) : Loading OpensslFun := selfDlClose (unLoadAll api s)

/-- `Init`. -/
def init (api : LibApi) (host : Host OpensslFun) (libPath : StdString) (s : Loading OpensslFun) :
    Except DlFault (Errno × Loading OpensslFun) :=
  let s := unInit api s
  let (ret, s) := selfDlOpen host (libPath ++ ascii "/" ++ api.libName) s
  if ret ≠ .success then .ok (ret, s)
  else do
    let (ret, s) ← loadAll api s
    if ret ≠ .success then .ok (ret, unInit api s)
    else do
      let object ← s.linker.call (s.lib.funs api.initFun)
      if object.initRet ≠ sslSuccess then .ok (.initOpensslCrypto, unInit api s)
      else .ok (.success, s)

end Loading

/-! ### `LibCryptoApi` -/

namespace LibCryptoApi

/-- The members of `LoadCryptoAlgorithmSymbols` before `EVP_MD_get_size`. -/
def algorithmNames : List OpensslFun :=
  [.EVP_sha256, .EVP_sha384, .EVP_aes_128_gcm, .EVP_aes_256_gcm, .EVP_aes_128_ccm,
   .EVP_chacha20_poly1305, .EVP_CIPHER_CTX_new, .EVP_CIPHER_CTX_free, .EVP_CIPHER_CTX_ctrl,
   .EVP_EncryptInit_ex, .EVP_EncryptUpdate, .EVP_EncryptFinal_ex, .EVP_DecryptInit_ex,
   .EVP_DecryptUpdate, .EVP_DecryptFinal_ex, .EVP_sha512, .EVP_MD_CTX_new, .EVP_MD_CTX_free,
   .EVP_DigestInit_ex, .EVP_DigestUpdate, .EVP_DigestFinal_ex]

/-- The members of `LoadCoreSymbols` before the algorithms. -/
def coreNames : List OpensslFun :=
  [.OPENSSL_init_crypto, .X509_STORE_add_cert, .X509_STORE_add_crl, .X509_STORE_set_flags,
   .X509_free, .X509_CRL_free, .X509_get_version, .X509_getm_notBefore, .X509_getm_notAfter,
   .X509_get_serialNumber, .X509_get0_serialNumber, .X509_verify_cert,
   .X509_STORE_CTX_get_error, .OBJ_txt2obj, .ASN1_OBJECT_free, .X509_get_ext_by_OBJ,
   .X509_get_ext, .X509_EXTENSION_get_data, .ASN1_STRING_get0_data, .ASN1_STRING_length,
   .d2i_ASN1_UTF8STRING, .i2d_ASN1_UTF8STRING, .ASN1_STRING_to_UTF8, .ASN1_UTF8STRING_free,
   .CRYPTO_free, .BIO_new_mem_buf, .BIO_free, .EVP_PKEY_free, .ERR_get_error,
   .ERR_error_string, .ERR_print_errors_cb]

/-- The members of `LoadPkeySymbols` for every version. -/
def pkeyNames : List OpensslFun :=
  [.EVP_PKEY_new, .EVP_PKEY_CTX_new_id, .EVP_PKEY_CTX_new, .EVP_PKEY_CTX_free,
   .EVP_PKEY_keygen_init, .EVP_PKEY_keygen, .EVP_PKEY_derive_init, .EVP_PKEY_derive_set_peer,
   .EVP_PKEY_derive, .d2i_PUBKEY, .RAND_bytes, .EVP_PKEY_CTX_ctrl]

/-- The members of `LoadPkeySymbols` from version 3 on. -/
def pkeyNames3X : List OpensslFun :=
  [.EVP_PKEY_CTX_set_ec_paramgen_curve_nid, .EVP_PKEY_CTX_set_hkdf_md,
   .EVP_PKEY_CTX_set1_hkdf_salt, .EVP_PKEY_CTX_set1_hkdf_key, .EVP_PKEY_CTX_set_hkdf_mode,
   .EVP_PKEY_CTX_add1_hkdf_info, .OSSL_LIB_CTX_new, .OSSL_LIB_CTX_free, .OSSL_PROVIDER_load,
   .OSSL_PROVIDER_unload, .ERR_error_string_n]

def loadCryptoAlgorithmSymbols (versionNum : UInt64) : List (OpensslFun × OpensslFun) :=
  algorithmNames.map connectorSelfDlsym ++
    [if versionNum ≥ sslVersion3X then connectorSelfDlsym .EVP_MD_get_size
     else (.EVP_MD_size, .EVP_MD_get_size)] ++
    [connectorSelfDlsym .HMAC]

def loadCoreSymbols (versionNum : UInt64) : List (OpensslFun × OpensslFun) :=
  coreNames.map connectorSelfDlsym ++ loadCryptoAlgorithmSymbols versionNum ++
    [connectorSelfDlsym .OpenSSL_version]

def loadPkeySymbols (versionNum : UInt64) : List (OpensslFun × OpensslFun) :=
  pkeyNames.map connectorSelfDlsym ++
    if versionNum ≥ sslVersion3X then pkeyNames3X.map connectorSelfDlsym else []

def unloadCryptoAlgorithmSymbols : List OpensslFun := algorithmNames ++ [.EVP_MD_get_size, .HMAC]

def unloadCoreSymbols : List OpensslFun :=
  coreNames ++ unloadCryptoAlgorithmSymbols ++ [.OpenSSL_version]

def unloadPkeySymbols : List OpensslFun :=
  [.EVP_PKEY_new, .EVP_PKEY_CTX_new_id, .EVP_PKEY_CTX_new, .EVP_PKEY_CTX_free,
   .EVP_PKEY_keygen_init, .EVP_PKEY_keygen, .EVP_PKEY_CTX_set_ec_paramgen_curve_nid,
   .EVP_PKEY_derive_init, .EVP_PKEY_derive_set_peer, .EVP_PKEY_derive, .EVP_PKEY_CTX_ctrl,
   .EVP_PKEY_CTX_set_hkdf_md, .EVP_PKEY_CTX_set1_hkdf_salt, .EVP_PKEY_CTX_set1_hkdf_key,
   .EVP_PKEY_CTX_set_hkdf_mode, .EVP_PKEY_CTX_add1_hkdf_info, .d2i_PUBKEY, .RAND_bytes,
   .OpenSSL_version_num, .OSSL_LIB_CTX_new, .OSSL_LIB_CTX_free, .OSSL_PROVIDER_load,
   .OSSL_PROVIDER_unload, .ERR_error_string_n]

end LibCryptoApi

/-- `LibCryptoApi`. -/
def libCryptoApi : LibApi where
  libName := ascii "libcrypto.so"
  symbols versionNum :=
    LibCryptoApi.loadCoreSymbols versionNum ++ LibCryptoApi.loadPkeySymbols versionNum
  resets := LibCryptoApi.unloadCoreSymbols ++ LibCryptoApi.unloadPkeySymbols
  initFun := .OPENSSL_init_crypto

/-! ### `LibSslApi` -/

namespace LibSslApi

/-- The members of `LoadAll` before `SSL_get_peer_certificate`. -/
def sslNames : List OpensslFun :=
  [.OPENSSL_init_ssl, .SSL_new, .SSL_free, .SSL_connect, .SSL_accept, .SSL_get_error,
   .SSL_read_ex, .SSL_write_ex, .SSL_shutdown, .SSL_set_ex_data, .SSL_get_ex_data,
   .SSL_set_fd, .SSL_is_init_finished, .SSL_key_update, .SSL_get_version]

/-- The members of `LoadCtx` after `SSL_CTX_new_ex`. -/
def ctxNames : List OpensslFun :=
  [.SSL_CTX_free, .SSL_CTX_load_verify_locations, .SSL_CTX_get_cert_store,
   .SSL_CTX_use_certificate_file, .SSL_CTX_use_certificate,
   .SSL_CTX_use_certificate_chain_file, .SSL_CTX_use_PrivateKey_file, .SSL_CTX_use_PrivateKey,
   .SSL_CTX_set_default_passwd_cb_userdata, .SSL_CTX_set_ciphersuites, .SSL_get_current_cipher,
   .SSL_CTX_set_options, .SSL_CTX_get_options, .SSL_CTX_set_cert_verify_callback,
   .SSL_CTX_check_private_key, .SSL_CTX_set_verify, .SSL_CTX_set_security_level,
   .SSL_CTX_set_psk_find_session_callback, .SSL_CTX_set_psk_use_session_callback,
   .SSL_CTX_get_ciphers, .SSL_CTX_ctrl, .SSL_CTX_set_default_passwd_cb]

def unLoadCipherSuit : List OpensslFun := [.SSL_CIPHER_find, .SSL_CIPHER_get_id]

def unLoadCtx : List OpensslFun := [.SSL_CTX_new, .SSL_CTX_new_ex] ++ ctxNames

def unLoadSSLObj : List OpensslFun :=
  [.SSL_SESSION_new, .SSL_SESSION_free, .SSL_SESSION_get0_cipher,
   .SSL_SESSION_set1_master_key, .SSL_SESSION_set_cipher, .SSL_SESSION_set_protocol_version,
   .SSL_SESSION_get_protocol_version]

def unLoadTLSMethod : List OpensslFun := [.TLS_server_method, .TLS_client_method]

def unLoadBIO : List OpensslFun :=
  [.PEM_read_bio_X509, .PEM_read_bio_X509_CRL, .PEM_read_bio_PrivateKey, .PEM_read_X509_CRL]

def unLoadStackOpt : List OpensslFun := [.OPENSSL_sk_num, .OPENSSL_sk_value]

/-- `LoadCipherSuit`, and below the functions that look up just what their counterparts reset. -/
def loadCipherSuit : List (OpensslFun × OpensslFun) := unLoadCipherSuit.map connectorSelfDlsym

def loadCtx (versionNum : UInt64) : List (OpensslFun × OpensslFun) :=
  [connectorSelfDlsym .SSL_CTX_new] ++
    (if versionNum ≥ sslVersion3X then [connectorSelfDlsym .SSL_CTX_new_ex] else []) ++
    ctxNames.map connectorSelfDlsym

def loadSSLObj : List (OpensslFun × OpensslFun) := unLoadSSLObj.map connectorSelfDlsym

def loadTLSMethod : List (OpensslFun × OpensslFun) := unLoadTLSMethod.map connectorSelfDlsym

def loadBIO : List (OpensslFun × OpensslFun) := unLoadBIO.map connectorSelfDlsym

def loadStackOpt : List (OpensslFun × OpensslFun) := unLoadStackOpt.map connectorSelfDlsym

end LibSslApi

/-- `LibSslApi`. Its `UnLoadAll` does not reset `OpenSSL_version_num`. -/
def libSslApi : LibApi where
  libName := ascii "libssl.so"
  symbols versionNum :=
    LibSslApi.sslNames.map connectorSelfDlsym ++
      [(if versionNum ≥ sslVersion3X then .SSL_get1_peer_certificate
        else .SSL_get_peer_certificate, .SSL_get_peer_certificate)] ++
      [.SSL_get_certificate, .SSL_set_verify].map connectorSelfDlsym ++
      LibSslApi.loadCipherSuit ++ LibSslApi.loadCtx versionNum ++ LibSslApi.loadSSLObj ++
      LibSslApi.loadTLSMethod ++ LibSslApi.loadBIO ++ LibSslApi.loadStackOpt
  resets :=
    LibSslApi.sslNames ++ [.SSL_get_peer_certificate, .SSL_get_certificate, .SSL_set_verify] ++
      LibSslApi.unLoadCipherSuit ++ LibSslApi.unLoadCtx ++ LibSslApi.unLoadSSLObj ++
      LibSslApi.unLoadTLSMethod ++ LibSslApi.unLoadBIO ++ LibSslApi.unLoadStackOpt
  initFun := .OPENSSL_init_ssl

/-! ### What the tables have in common -/

/-- Every function that is looked up has a member of its own, the initialisation function is among
them, and all members but the version number are reset. -/
structure LibApi.WellFormed (api : LibApi) : Prop where
  nodup : ∀ versionNum, ((api.lookups versionNum).map Prod.snd).Nodup
  reset : ∀ versionNum, ∀ pair ∈ api.symbols versionNum, pair.2 ∈ api.resets
  initFun : ∀ versionNum, (api.initFun, api.initFun) ∈ api.symbols versionNum

/-- A table that distinguishes two kinds of versions need be looked at for two versions only. -/
theorem LibApi.WellFormed.of_two {api : LibApi} (old new : UInt64)
    (hold : ∀ v, ¬v ≥ sslVersion3X → api.symbols v = api.symbols old)
    (hnew : ∀ v, v ≥ sslVersion3X → api.symbols v = api.symbols new)
    (h : ∀ v, v = old ∨ v = new → ((api.lookups v).map Prod.snd).Nodup ∧
      (∀ pair ∈ api.symbols v, pair.2 ∈ api.resets) ∧
        (api.initFun, api.initFun) ∈ api.symbols v) : api.WellFormed := by
  have hall : ∀ v, ((api.lookups v).map Prod.snd).Nodup ∧
      (∀ pair ∈ api.symbols v, pair.2 ∈ api.resets) ∧
        (api.initFun, api.initFun) ∈ api.symbols v := by
    intro v
    simp only [lookups]
    by_cases hv : v ≥ sslVersion3X
    · rw [hnew v hv]
      exact h new (.inr rfl)
    · rw [hold v hv]
      exact h old (.inl rfl)
  exact ⟨fun v => (hall v).1, fun v => (hall v).2.1, fun v => (hall v).2.2⟩

theorem libCryptoApi_wellFormed : libCryptoApi.WellFormed := by
  refine .of_two 0 sslVersion3X (fun v hv => ?_) (fun v hv => ?_) ?_
  · simp only [libCryptoApi, LibCryptoApi.loadCoreSymbols, LibCryptoApi.loadPkeySymbols,
      LibCryptoApi.loadCryptoAlgorithmSymbols, if_neg hv]
    rfl
  · simp only [libCryptoApi, LibCryptoApi.loadCoreSymbols, LibCryptoApi.loadPkeySymbols,
      LibCryptoApi.loadCryptoAlgorithmSymbols, if_pos hv]
    rfl
  · rintro v (rfl | rfl)
    · decide +kernel
    · decide +kernel

theorem libSslApi_wellFormed : libSslApi.WellFormed := by
  refine .of_two 0 sslVersion3X (fun v hv => ?_) (fun v hv => ?_) ?_
  · simp only [libSslApi, LibSslApi.loadCtx, if_neg hv]
    rfl
  · simp only [libSslApi, LibSslApi.loadCtx, if_pos hv]
    rfl
  · rintro v (rfl | rfl)
    · decide +kernel
    · decide +kernel

/-- Only one of the two libraries resets the version number. -/
theorem versionNum_mem_resets :
    .OpenSSL_version_num ∈ libCryptoApi.resets ∧ .OpenSSL_version_num ∉ libSslApi.resets := by
  decide +kernel

end Scf
