import ScfSecurity.Policy.Settings

/-!
# Certificate verification by the application

The adaptor registers the application's verification function with OpenSSL as it is. The
library's convention for the result is zero for success and a positive error code
otherwise; OpenSSL takes a positive result for success. `acceptsPeer` is OpenSSL's reading
of the result, `FollowsContract` is what `SCF_AppVerifyFunc` asks of the function.

## Main definitions

- `Verifiers`: the functions that judge a certificate store context
- `SslCtx.acceptsPeer`: whether a handshake accepts the certificate of the peer
- `x509VerifyChain`: the library's own chain verification

## Main results

- `acceptsPeer_registered`: a function that follows the contract is read the wrong way
  round
-/

namespace Scf

/-- The functions that judge an `X509_STORE_CTX`: `X509_verify_cert`, and the functions of
the application by their addresses. -/
structure Verifiers (StoreCtx : Type*) where
  x509VerifyCert : StoreCtx → Int32
  appVerify : Address → StoreCtx → Address → Int32

variable {StoreCtx : Type*}

/-- A handshake under this configuration accepts the certificate of the peer: the function
given to `SSL_CTX_set_cert_verify_callback`, if there is one, or else `X509_verify_cert`
returns a positive value. -/
def SslCtx.acceptsPeer (cfg : SslCtx) (verifiers : Verifiers StoreCtx) (storeCtx : StoreCtx) :
    Bool :=
  match cfg.certVerifyCallback with
  | some (cb, arg) => 0 < verifiers.appVerify cb storeCtx arg
  | none => 0 < verifiers.x509VerifyCert storeCtx

/-- `OpenSSLAdaptor::X509VerifyChain`. -/
def x509VerifyChain (verifiers : Verifiers StoreCtx) (storeCtx : Option StoreCtx) : Errno :=
  match storeCtx with
  | none => .nullInput
  | some storeCtx =>
    if verifiers.x509VerifyCert storeCtx ≠ sslSuccess then .sslX509VerifyChain else .success

/-- The contract of `SCF_AppVerifyFunc`: `SCF_SUCCESS` or an error code of the library. -/
def FollowsContract (appVerify : StoreCtx → Address → Int32) : Prop :=
  ∀ storeCtx arg, ∃ e : Errno, appVerify storeCtx arg = e.code

/-- After a successful registration the TLS configuration refers to the function. -/
theorem scfSetAppVerifyCallback_registered {g : Globals} {ctxPtr : Ptr} {cb : Option Address}
    {arg : Address} {ctx ctx' : SCFPolicyCtx} {cfg : SslCtx}
    (h : scfSetAppVerifyCallback g ctxPtr cb arg ctx = (.success, ctx'))
    (hcfg : ctx'.sslConfig = some cfg) :
    cfg.certVerifyCallback = cb.map fun f => (f, arg) := by
  rcases scfSetAppVerifyCallback_cases g ctxPtr cb arg ctx with ⟨ret, hret, hfail⟩ | hset
  · rw [hfail] at h
    exact absurd (congrArg Prod.fst h) hret
  · rw [hset] at h
    obtain rfl := congrArg Prod.snd h
    rw [setSslConfig_sslConfig, Option.map_eq_some_iff] at hcfg
    obtain ⟨cfg₀, _, rfl⟩ := hcfg
    rfl

/-- OpenSSL takes the library's codes the wrong way round: a positive value is an error. -/
theorem code_pos_iff (e : Errno) : 0 < e.code ↔ e ≠ .success := by
  constructor
  · rintro hpos rfl
    exact absurd hpos (by decide)
  · exact Errno.code_pos

/-- A function that follows the contract is accepted exactly when it fails. -/
theorem acceptsPeer_registered {cfg : SslCtx} {cb arg : Address}
    (hcfg : cfg.certVerifyCallback = some (cb, arg)) {verifiers : Verifiers StoreCtx}
    {storeCtx : StoreCtx} {e : Errno} (he : verifiers.appVerify cb storeCtx arg = e.code) :
    cfg.acceptsPeer verifiers storeCtx = true ↔ e ≠ .success := by
  unfold SslCtx.acceptsPeer
  rw [hcfg]
  dsimp only
  rw [decide_eq_true_eq, he, code_pos_iff]

/-- Whatever function of the application that follows the contract is registered, for no
certificate store context does the handshake accept the peer exactly if the function
returned `SCF_SUCCESS`; and a function that returns the result of `X509VerifyChain` accepts
exactly the chains that do not verify. -/
theorem appVerify_read_inverted {g : Globals} {ctxPtr : Ptr} {cb arg : Address}
    {ctx ctx' : SCFPolicyCtx} {cfg : SslCtx}
    (hset : scfSetAppVerifyCallback g ctxPtr (some cb) arg ctx = (.success, ctx'))
    (hcfg : ctx'.sslConfig = some cfg) (verifiers : Verifiers StoreCtx)
    (hcontract : FollowsContract (verifiers.appVerify cb)) (storeCtx : StoreCtx) :
    ¬(cfg.acceptsPeer verifiers storeCtx = true ↔
        verifiers.appVerify cb storeCtx arg = Errno.success.code) ∧
      (verifiers.appVerify cb storeCtx arg = (x509VerifyChain verifiers (some storeCtx)).code →
        (cfg.acceptsPeer verifiers storeCtx = true ↔
          verifiers.x509VerifyCert storeCtx ≠ sslSuccess)) := by
  have hreg : cfg.certVerifyCallback = some (cb, arg) :=
    scfSetAppVerifyCallback_registered hset hcfg
  constructor
  · obtain ⟨e, he⟩ := hcontract storeCtx arg
    have hsucc : verifiers.appVerify cb storeCtx arg = Errno.success.code ↔ e = .success := by
      rw [he]
      exact Errno.code_eq_zero_iff
    rw [acceptsPeer_registered hreg he, hsucc]
    tauto
  · intro hchain
    rw [acceptsPeer_registered hreg hchain]
    simp only [x509VerifyChain]
    split_ifs with hverify
    · simp [hverify]
    · simp [hverify]

/-- A server context whose policy lets the application verify certificates. -/
def customerCtx : SCFPolicyCtx :=
  (scfSetPolicy .ready .valid .server (SCFVerifyMode.peer ||| SCFVerifyMode.customer) .customer
    .plain newPolicyCtx).2

/-- The context after the application registered its function at address 1. -/
def registeredCtx : SCFPolicyCtx :=
  (scfSetAppVerifyCallback .ready .valid (some 1) 0 customerCtx).2

/-- The application returns the result of `X509VerifyChain`; the certificate store contexts
are those of a chain that verifies and of one that does not. -/
def chainVerifiers : Verifiers Bool where
  x509VerifyCert verifies := if verifies then 1 else 0
  appVerify _ verifies _ := if verifies then Errno.success.code else Errno.sslX509VerifyChain.code

theorem chainVerifiers_followsContract (cb : Address) :
    FollowsContract (chainVerifiers.appVerify cb) := by
  intro verifies arg
  cases verifies with
  | false => exact ⟨.sslX509VerifyChain, rfl⟩
  | true => exact ⟨.success, rfl⟩

theorem appVerify_read_inverted_chain :
    scfSetAppVerifyCallback .ready .valid (some 1) 0 customerCtx = (.success, registeredCtx) ∧
      ∃ cfg, registeredCtx.sslConfig = some cfg ∧
        ¬(cfg.acceptsPeer chainVerifiers true = true ↔
          chainVerifiers.appVerify 1 true 0 = Errno.success.code) := by
  have hset : scfSetAppVerifyCallback .ready .valid (some 1) 0 customerCtx =
      (.success, registeredCtx) := rfl
  obtain ⟨cfg, hcfg⟩ : ∃ cfg, registeredCtx.sslConfig = some cfg := ⟨_, rfl⟩
  exact ⟨hset, cfg, hcfg, (appVerify_read_inverted hset hcfg chainVerifiers
    (chainVerifiers_followsContract 1) true).1⟩

/-- A chain that verifies is rejected, a chain that does not verify is accepted. -/
theorem appVerify_accepts_unverified :
    scfSetAppVerifyCallback .ready .valid (some 1) 0 customerCtx = (.success, registeredCtx) ∧
      FollowsContract (chainVerifiers.appVerify 1) ∧
      ∃ cfg, registeredCtx.sslConfig = some cfg ∧
        (chainVerifiers.appVerify 1 true 0 = Errno.success.code ∧
          cfg.acceptsPeer chainVerifiers true = false) ∧
        (chainVerifiers.appVerify 1 false 0 ≠ Errno.success.code ∧
          cfg.acceptsPeer chainVerifiers false = true) :=
  ⟨rfl, chainVerifiers_followsContract 1, _, rfl, by decide, by decide⟩

end Scf
