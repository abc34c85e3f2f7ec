import Mathlib.Tactic.Common

/-!
# Return codes

The codes of `scf_errno.h`. The library returns them as `int32_t`; an error code
is the project identifier, a module number and a number within the module, put
together bit by bit. Inside the model the codes are an enumeration; `Errno.code`
gives the integer a caller, or a foreign library, sees.
-/

namespace Scf

/-- The return codes of the library: `SCF_SUCCESS`, `SCF_ERROR`, then the codes
`SCF_ERRNO_*`, `SCF_CFG_ERRNO_*` and `SCF_SSL_ERR_*`. -/
inductive Errno where
  | success
  | error
  -- SCF_MOD_COMMON
  | nullInput | invalidParam | memAlloc | memCpy | notSupport | initBsm | largeFile
  | systemTimeError | filePathError | readFileError
  -- SCF_MOD_RBAC
  | rbacDisabled | rbacDenied | rbacRoleUnknown | rbacNodeIdEmpty | rbacMapFull
  | rbacMapNotFound | certNodeIdAbsent | certRoleExtAbsent | rbacPolicyNotFound
  | rbacPolicyFull | rbacPolicyDuplicate | rbacPolicyInvalid | rbacMapFrozen
  -- SCF_MOD_CAL
  | initHitlsBsl | initHitlsCrypto | initHitlsTls | nullHitlsCtx | nullHitlsCfg
  | secureTransport | initOpenssl | initOpensslErr | initOpensslCrypto | initOpensslAlgo
  | nullCallback | tlsAlreadyInit | invalidTlsType | loadLib | unloadLib | loadSymbol
  | initHitlsPse | initSecurec | notInit
  -- SCF_MOD_CONFIG
  | cfgParse | cfgCertArrayGet | cfgCertItemGet | cfgCertAdd | cfgPrivkeyGet
  | cfgPrivkeyAdd | cfgCipherSuitesArrayGet | cfgCipherSuitesItemGet | cfgTlsVersionGet
  | cfgTlsVersionSet | cfgTlsForbidVersionGet | cfgKeyUpdate
  -- SCF_SUBMOD_SSL_RETRY
  | sslSsl | sslWantRead | sslWantWrite | sslWantX509Lookup | sslSyscall | sslZeroReturn
  | sslWantConnect | sslWantAccept | sslWantAsync | sslWantAsyncJob | sslWantClientHelloCb
  | sslWantBackep
  -- SCF_SUBMOD_SSL
  | sslFormatType | sslStoreType | sslParseCert | sslAddCertToStore | sslLoadKey
  | sslPathTooLong | sslCheckPkey | sslRole | sslInitTls13 | sslPskCbHash | sslGetVersion
  | sslPskMismatch | sslVersion | sslPolicyVersion | sslSetPass | sslParseKey | sslLoadCrl
  | sslSetRole | sslSessSetCipher | sslSessSetKey | sslSessSetProtocolVer | sslRead
  | sslWrite | sslClose | sslSetCipher | sslSetProtocolVer | sslSetVerForbid | sslGetCipher
  | sslAddCaCertToStore | sslAddEeCertToStore | sslAddCrlToStore | sslInitTls
  | sslSetSecLevel | sslSetSessTicket | sslSetSocketFd | sslSecLevelMismatch
  | sslGetCertStore | sslKeyUpdate | sslIsInitFinished | sslSetUpdateParam
  | sslSetCrlCheckFlags | sslLoadCaCertChain | sslAddEeChainToStore | sslX509VerifyChain
  | sslSetExData | sslSessGetCipher | sslSessGetProtocolVer | sslCertExtAbsent
deriving DecidableEq, Repr

namespace Errno

/-- `SCF_PROJECT_ID`. -/
def projectId : UInt32 := 0x75000000

/-- `SCF_MOD_MAKE`. -/
def modMake (m : UInt32) : UInt32 := projectId ||| (m <<< 8)

def modCommon : UInt32 := modMake 0x0000
def modCal : UInt32 := modMake 0x0010
def submodSslRetry : UInt32 := modMake 0x0020
def submodSsl : UInt32 := modMake 0x0021
def modConfig : UInt32 := modMake 0x0011
def modRbac : UInt32 := modMake 0x0030

/-- The value of a return code as the unsigned word the macros compute. -/
def value : Errno → UInt32
  | success => 0
  | error => 1
  | nullInput => modCommon ||| 1
  | invalidParam => modCommon ||| 2
  | memAlloc => modCommon ||| 3
  | memCpy => modCommon ||| 4
  | notSupport => modCommon ||| 5
  | initBsm => modCommon ||| 6
  | largeFile => modCommon ||| 7
  | systemTimeError => modCommon ||| 8
  | filePathError => modCommon ||| 9
  | readFileError => modCommon ||| 10
  | rbacDisabled => modRbac ||| 1
  | rbacDenied => modRbac ||| 2
  | rbacRoleUnknown => modRbac ||| 3
  | rbacNodeIdEmpty => modRbac ||| 4
  | rbacMapFull => modRbac ||| 5
  | rbacMapNotFound => modRbac ||| 6
  | certNodeIdAbsent => modRbac ||| 7
  | certRoleExtAbsent => modRbac ||| 8
  | rbacPolicyNotFound => modRbac ||| 9
  | rbacPolicyFull => modRbac ||| 10
  | rbacPolicyDuplicate => modRbac ||| 11
  | rbacPolicyInvalid => modRbac ||| 12
  | rbacMapFrozen => modRbac ||| 13
  | initHitlsBsl => modCal ||| 1
  | initHitlsCrypto => modCal ||| 2
  | initHitlsTls => modCal ||| 3
  | nullHitlsCtx => modCal ||| 4
  | nullHitlsCfg => modCal ||| 5
  | secureTransport => modCal ||| 6
  | initOpenssl => modCal ||| 7
  | initOpensslErr => modCal ||| 8
  | initOpensslCrypto => modCal ||| 9
  | initOpensslAlgo => modCal ||| 10
  | nullCallback => modCal ||| 11
  | tlsAlreadyInit => modCal ||| 12
  | invalidTlsType => modCal ||| 13
  | loadLib => modCal ||| 14
  | unloadLib => modCal ||| 15
  | loadSymbol => modCal ||| 16
  | initHitlsPse => modCal ||| 17
  | initSecurec => modCal ||| 18
  | notInit => modCal ||| 19
  | cfgParse => modConfig ||| 1
  | cfgCertArrayGet => modConfig ||| 2
  | cfgCertItemGet => modConfig ||| 3
  | cfgCertAdd => modConfig ||| 4
  | cfgPrivkeyGet => modConfig ||| 5
  | cfgPrivkeyAdd => modConfig ||| 6
  | cfgCipherSuitesArrayGet => modConfig ||| 7
  | cfgCipherSuitesItemGet => modConfig ||| 8
  | cfgTlsVersionGet => modConfig ||| 9
  | cfgTlsVersionSet => modConfig ||| 10
  | cfgTlsForbidVersionGet => modConfig ||| 11
  | cfgKeyUpdate => modConfig ||| 12
  | sslSsl => submodSslRetry ||| 1
  | sslWantRead => submodSslRetry ||| 2
  | sslWantWrite => submodSslRetry ||| 3
  | sslWantX509Lookup => submodSslRetry ||| 4
  | sslSyscall => submodSslRetry ||| 5
  | sslZeroReturn => submodSslRetry ||| 6
  | sslWantConnect => submodSslRetry ||| 7
  | sslWantAccept => submodSslRetry ||| 8
  | sslWantAsync => submodSslRetry ||| 9
  | sslWantAsyncJob => submodSslRetry ||| 10
  | sslWantClientHelloCb => submodSslRetry ||| 11
  | sslWantBackep => submodSslRetry ||| 12
  | sslFormatType => submodSsl ||| 1
  | sslStoreType => submodSsl ||| 2
  | sslParseCert => submodSsl ||| 3
  | sslAddCertToStore => submodSsl ||| 4
  | sslLoadKey => submodSsl ||| 5
  | sslPathTooLong => submodSsl ||| 6
  | sslCheckPkey => submodSsl ||| 7
  | sslRole => submodSsl ||| 8
  | sslInitTls13 => submodSsl ||| 9
  | sslPskCbHash => submodSsl ||| 10
  | sslGetVersion => submodSsl ||| 11
  | sslPskMismatch => submodSsl ||| 12
  | sslVersion => submodSsl ||| 13
  | sslPolicyVersion => submodSsl ||| 14
  | sslSetPass => submodSsl ||| 15
  | sslParseKey => submodSsl ||| 16
  | sslLoadCrl => submodSsl ||| 17
  | sslSetRole => submodSsl ||| 18
  | sslSessSetCipher => submodSsl ||| 19
  | sslSessSetKey => submodSsl ||| 20
  | sslSessSetProtocolVer => submodSsl ||| 21
  | sslRead => submodSsl ||| 22
  | sslWrite => submodSsl ||| 23
  | sslClose => submodSsl ||| 24
  | sslSetCipher => submodSsl ||| 25
  | sslSetProtocolVer => submodSsl ||| 26
  | sslSetVerForbid => submodSsl ||| 27
  | sslGetCipher => submodSsl ||| 28
  | sslAddCaCertToStore => submodSsl ||| 29
  | sslAddEeCertToStore => submodSsl ||| 30
  | sslAddCrlToStore => submodSsl ||| 31
  | sslInitTls => submodSsl ||| 32
  | sslSetSecLevel => submodSsl ||| 33
  | sslSetSessTicket => submodSsl ||| 34
  | sslSetSocketFd => submodSsl ||| 35
  | sslSecLevelMismatch => submodSsl ||| 36
  | sslGetCertStore => submodSsl ||| 37
  | sslKeyUpdate => submodSsl ||| 38
  | sslIsInitFinished => submodSsl ||| 39
  | sslSetUpdateParam => submodSsl ||| 40
  | sslSetCrlCheckFlags => submodSsl ||| 41
  | sslLoadCaCertChain => submodSsl ||| 42
  | sslAddEeChainToStore => submodSsl ||| 43
  | sslX509VerifyChain => submodSsl ||| 44
  | sslSetExData => submodSsl ||| 45
  | sslSessGetCipher => submodSsl ||| 46
  | sslSessGetProtocolVer => submodSsl ||| 47
  | sslCertExtAbsent => submodSsl ||| 48

/-- The return code as the `int32_t` the caller receives. -/
def code (e : Errno) : Int32 := e.value.toInt32

/-- Every error code is a positive `int32_t`. -/
theorem code_pos {e : Errno} (he : e ≠ success) : 0 < e.code := by
  cases e <;> first | decide | exact absurd rfl he

/-- Only `SCF_SUCCESS` has the value zero. -/
theorem code_eq_zero_iff {e : Errno} : e.code = 0 ↔ e = success := by
  constructor
  · intro h
    by_contra he
    have := code_pos he
    rw [h] at this
    exact absurd this (by decide)
  · rintro rfl
    decide

end Errno

end Scf
