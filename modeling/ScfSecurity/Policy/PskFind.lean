import ScfSecurity.Policy.Settings
import ScfSecurity.Policy.Object
import ScfSecurity.Tls.Handshake

/-!
# Finding PSK sessions and verifying the peer

A TLS 1.3 client may offer PSK identities. OpenSSL calls the wrapper of the application's
callback for each of them; the wrapper turns the verification of the peer off when it
believes that a session was found. Whether OpenSSL then uses the session is decided
afterwards, so the verification may be off in a handshake that goes on with certificates.

## Main definitions

- `PskOffer`: one offered identity with the answers of the application and of OpenSSL
- `pskFindSessionCbWrapper`: the wrapper
- `serverHandshake`: `SCF_Accept` called again until the handshake completes

## Main results

- `processOffers_notSelected`: what the identities of one client message do to the
  connection if none is used
- `serverHandshake_notSelected`: what they do in a whole handshake
-/

namespace Scf

/-- What OpenSSL does with the answer of the wrapper. -/
inductive PskDecision where
  | decline
  | select
  | abort
deriving DecidableEq

/-- An identity the client offers, what the application's `SCF_PskFindSessionCb` returns and
stores for it, and what OpenSSL makes of the result. -/
structure PskOffer where
  identity : StdString
  ret : Int32
  session : Option SslSession
  decision : PskDecision
deriving DecidableEq

/-- `SSL_set_verify`. -/
def Ssl.setVerify (mode : UInt32) (ssl : Ssl) : Ssl := { ssl with verifyMode := mode }

/-- `PskFindSessionCbWrapper`: the result, the session handed to OpenSSL and the
connection. -/
def pskFindSessionCbWrapper (obj : Option SCFPolicyObj) (offer : PskOffer) (ssl : Ssl) :
    Int32 × Option SslSession × Ssl :=
  match obj with
  | none => (sslError, none, ssl)
  | some obj =>
    if obj.pskFindSessionCb = none then (sslError, none, ssl)
    else if offer.ret ≠ Errno.success.code then (sslError, offer.session, ssl)
    else
      match offer.session with
      | some sess =>
        if sess.cipher = none then (sslError, none, ssl)
        else (sslSuccess, some sess, ssl.setVerify sslVerifyNone)
      | none => (sslSuccess, none, ssl.setVerify sslVerifyNone)

/-- How the PSK identities of a client message were dealt with. -/
inductive PskResult where
  | notSelected
  | selected (sess : SslSession)
  | aborted
deriving DecidableEq

/-- OpenSSL goes through the offered identities until it uses a session or gives up. It
calls the wrapper only if one is installed in the connection, and it can only use a session
that came with a success. -/
def processOffers (obj : SCFPolicyObj) : List PskOffer → Ssl → PskResult × Ssl
  | [], ssl => (.notSelected, ssl)
  | offer :: rest, ssl =>
    if !ssl.pskFindSessionCallback then processOffers obj rest ssl
    else
      let (ret, sess, ssl) := pskFindSessionCbWrapper (some obj) offer ssl
      match offer.decision with
      | .abort => (.aborted, ssl)
      | .decline => processOffers obj rest ssl
      | .select =>
        match if ret = sslSuccess then sess else none with
        | none => processOffers obj rest ssl
        | some sess => (.selected sess, ssl)

/-- One call of `SCF_Accept`: the identities of the client message it reads, if it reads
one, and how `SSL_accept` ends unless the identities make OpenSSL give up. -/
structure ServerFlight where
  offers : List PskOffer
  outcome : HandshakeOutcome

/-- The object of the server and the session OpenSSL decided to use, if any. -/
structure ServerState where
  obj : SCFPolicyObj
  selected : Option SslSession

/-- `SSL_ERROR_SSL`. -/
def sslErrorSsl : Int32 := 1

/-- `OpenSSLAdaptor::Accept`, with the PSK identities that `SSL_accept` comes across. -/
def pskAccept (flight : ServerFlight) (st : ServerState) : Errno × ServerState :=
  match st.obj.sslCtx with
  | none => (.nullInput, st)
  | some ssl =>
    if st.obj.role ≠ .server then (.sslRole, st)
    else
      let (result, ssl) := processOffers st.obj flight.offers ssl
      let obj := st.obj.setSsl ssl
      match result with
      | .aborted =>
        let (ret, obj) := adaptorAccept (.failure sslErrorSsl) obj
        (ret, { st with obj })
      | .selected sess =>
        let (ret, obj) := adaptorAccept flight.outcome obj
        (ret, { obj, selected := some sess })
      | .notSelected =>
        let (ret, obj) := adaptorAccept flight.outcome obj
        (ret, { st with obj })

/-- `SCF_Accept` on the object; what it does to the role map of the context plays no part
here. -/
def scfAcceptPsk (g : Globals) (flight : ServerFlight) (st : ServerState) : Errno × ServerState :=
  if st.obj.role = .none then (.nullInput, st)
  else if !g.scfInitialized then (.notInit, st)
  else if !g.adaptor then (.invalidParam, st)
  else pskAccept flight st

/-- The application calls `SCF_Accept` again as long as it is told to retry. The result is
the state in which the last of the calls completed the handshake. -/
def serverHandshake (g : Globals) : List ServerFlight → ServerState → Option ServerState
  | [], _ => none
  | flight :: rest, st =>
    let (ret, st) := scfAcceptPsk g flight st
    if ret = .success then if rest.isEmpty then some st else none
    else if ret = .sslWantRead || ret = .sslWantWrite then serverHandshake g rest st
    else none

/-- The answer of the application makes the wrapper turn the verification off: a success
with a session that has a cipher, or with no session at all. -/
def PskOffer.switchesOff (offer : PskOffer) : Bool :=
  offer.ret = Errno.success.code &&
    match offer.session with
    | some sess => sess.cipher.isSome
    | none => true

/-- What the verification of the peer rests on: the mode of the connection, whether the
wrapper is installed in it, and the callback that the wrapper finds in the object. -/
structure PskView where
  verifyMode : UInt32
  installed : Bool
  callback : Option Address
deriving DecidableEq

/-- The wrapper is called and has a callback to call. -/
def PskView.registered (v : PskView) : Bool := v.installed && v.callback.isSome

/-- The view after identities have been offered and none was used. -/
def PskView.offer (offers : List PskOffer) (v : PskView) : PskView :=
  if v.registered && offers.any PskOffer.switchesOff then { v with verifyMode := sslVerifyNone }
  else v

@[simp] theorem PskView.offer_nil (v : PskView) : v.offer [] = v := by
  simp [PskView.offer]

/-- Offering identities in two groups is offering them all. -/
theorem PskView.offer_append (offers offers' : List PskOffer) (v : PskView) :
    v.offer (offers ++ offers') = (v.offer offers).offer offers' := by
  have hsame : ∀ mode, PskView.registered { v with verifyMode := mode } = v.registered :=
    fun _ => rfl
  unfold PskView.offer
  rw [List.any_append]
  cases hreg : v.registered with
  | false => simp [hreg]
  | true =>
    cases offers.any PskOffer.switchesOff <;> cases offers'.any PskOffer.switchesOff <;>
      simp [hreg, hsame]

theorem PskView.offer_of_not_registered {v : PskView} (h : v.registered = false)
    (offers : List PskOffer) : v.offer offers = v := by
  simp [PskView.offer, h]

/-- A mode that verifies the peer is kept exactly if no answer of a registered callback
turns the verification off. -/
theorem PskView.offer_verifyMode_eq_iff {v : PskView} (hmode : v.verifyMode ≠ sslVerifyNone)
    (offers : List PskOffer) :
    (v.offer offers).verifyMode = v.verifyMode ↔
      (v.registered = true → ∀ offer ∈ offers, offer.switchesOff = false) := by
  unfold PskView.offer
  cases hreg : v.registered with
  | false => simp
  | true =>
    cases hany : offers.any PskOffer.switchesOff with
    | false =>
      simp only [Bool.and_false, Bool.false_eq_true, if_false, true_iff, forall_const]
      simpa using hany
    | true =>
      obtain ⟨offer, hmem, hoff⟩ := List.any_eq_true.mp hany
      constructor
      · intro h
        exact absurd h.symm hmode
      · intro h
        rw [h rfl offer hmem] at hoff
        cases hoff

/-- The view of a connection with the callback of its object. -/
def Ssl.pskView (callback : Option Address) (ssl : Ssl) : PskView :=
  ⟨ssl.verifyMode, ssl.pskFindSessionCallback, callback⟩

/-- The view of an object that has a connection. -/
def SCFPolicyObj.pskView (obj : SCFPolicyObj) : Option PskView :=
  obj.sslCtx.map fun ssl => ssl.pskView obj.pskFindSessionCb

/-- The wrapper turns the verification off exactly for the answers that `switchesOff`
describes. -/
theorem pskFindSessionCbWrapper_pskView {obj : SCFPolicyObj} {ssl : Ssl}
    (hinstalled : ssl.pskFindSessionCallback = true) (offer : PskOffer) :
    (pskFindSessionCbWrapper (some obj) offer ssl).2.2.pskView obj.pskFindSessionCb =
      (ssl.pskView obj.pskFindSessionCb).offer [offer] := by
  unfold pskFindSessionCbWrapper PskView.offer PskView.registered Ssl.pskView
  cases hcb : obj.pskFindSessionCb with
  | none => simp [hcb]
  | some cb =>
    by_cases hret : offer.ret = Errno.success.code
    · cases hsess : offer.session with
      | none => simp [hinstalled, hcb, hret, hsess, PskOffer.switchesOff, Ssl.setVerify]
      | some sess =>
        cases hcipher : sess.cipher <;>
          simp [hinstalled, hcb, hret, hsess, hcipher, PskOffer.switchesOff, Ssl.setVerify]
    · simp [hcb, hret, PskOffer.switchesOff]

/-- What the identities of one client message do if OpenSSL uses none of them. -/
theorem processOffers_notSelected {obj : SCFPolicyObj} {offers : List PskOffer} {ssl ssl' : Ssl}
    (h : processOffers obj offers ssl = (.notSelected, ssl')) :
    ssl'.pskView obj.pskFindSessionCb = (ssl.pskView obj.pskFindSessionCb).offer offers := by
  induction offers generalizing ssl with
  | nil =>
    rw [processOffers, Prod.mk.injEq] at h
    rw [PskView.offer_nil, h.2]
  | cons offer rest ih =>
    rw [processOffers] at h
    by_cases hinstalled : ssl.pskFindSessionCallback = true
    · -- the wrapper was called, and the loop went on with the next identity
      have hview : (pskFindSessionCbWrapper (some obj) offer ssl).2.2.pskView _ = _ :=
        pskFindSessionCbWrapper_pskView hinstalled offer
      rcases hwrap : pskFindSessionCbWrapper (some obj) offer ssl with ⟨ret, sess, ssl₁⟩
      rw [hwrap] at h hview
      have hnext : processOffers obj rest ssl₁ = (.notSelected, ssl') := by
        simp only [hinstalled, Bool.not_true, Bool.false_eq_true, if_false] at h
        split at h
        · simp at h
        · exact h
        · split at h
          · exact h
          · simp at h
      rw [ih hnext, hview, ← PskView.offer_append, List.singleton_append]
    · rw [if_pos (by simpa using hinstalled)] at h
      have hreg : (ssl.pskView obj.pskFindSessionCb).registered = false := by
        simp [PskView.registered, Ssl.pskView, hinstalled]
      rw [ih h, PskView.offer_of_not_registered hreg, PskView.offer_of_not_registered hreg]

/-- How a handshake call ends has no influence on the view. -/
theorem adaptorHandshake_pskView (required : SCFRole) (outcome : HandshakeOutcome)
    (obj : SCFPolicyObj) : (adaptorHandshake required outcome obj).2.pskView = obj.pskView := by
  unfold adaptorHandshake SCFPolicyObj.pskView
  cases hssl : obj.sslCtx with
  | none => simp [hssl]
  | some ssl =>
    by_cases hrole : obj.role = required
    · cases outcome with
      | failure errorCode => simp [hrole]
      | success => simp [hrole, Ssl.pskView]
    · simp [hrole, hssl]

/-- `SSL_accept` that gave up over the identities is not reported as a success and not as
a reason to call again. -/
theorem adaptorAccept_aborted {obj : SCFPolicyObj} {ssl : Ssl} (hssl : obj.sslCtx = some ssl)
    (hrole : obj.role = .server) :
    (adaptorAccept (.failure sslErrorSsl) obj).1 = .secureTransport := by
  unfold adaptorAccept adaptorHandshake
  rw [hssl]
  dsimp only
  rw [if_neg (not_not_intro hrole)]
  rfl

/-- The call completed the handshake, or it can be followed by another one. -/
def Proceeds (ret : Errno) : Prop := ret = .success ∨ ret = .sslWantRead ∨ ret = .sslWantWrite

/-- **Step lemma**: a call of `SCF_Accept` after which the handshake goes on, and in which
OpenSSL used no session. -/
theorem scfAcceptPsk_notSelected {g : Globals} {flight : ServerFlight} {st : ServerState}
    (hret : Proceeds (scfAcceptPsk g flight st).1)
    (hsel : (scfAcceptPsk g flight st).2.selected = none) :
    st.selected = none ∧
      (scfAcceptPsk g flight st).2.obj.pskView =
        st.obj.pskView.map (·.offer flight.offers) := by
  unfold scfAcceptPsk at hret hsel ⊢
  split_ifs at hret hsel ⊢
  case neg =>
    unfold pskAccept at hret hsel ⊢
    cases hssl : st.obj.sslCtx with
    | none => simp [hssl, Proceeds] at hret
    | some ssl =>
      rw [hssl] at hret hsel
      dsimp only at hret hsel ⊢
      by_cases hrole : st.obj.role = .server
      · rw [if_neg (not_not_intro hrole)] at hret hsel ⊢
        rcases hoffers : processOffers st.obj flight.offers ssl with ⟨result, ssl'⟩
        rw [hoffers] at hret hsel
        cases result with
        | aborted =>
          dsimp only at hret
          rw [adaptorAccept_aborted (setSsl_sslCtx ssl' st.obj) hrole] at hret
          simp [Proceeds] at hret
        | selected sess => cases hsel
        | notSelected =>
          refine ⟨hsel, ?_⟩
          dsimp only
          rw [adaptorAccept, adaptorHandshake_pskView, SCFPolicyObj.pskView, SCFPolicyObj.pskView,
            setSsl_sslCtx, hssl, Option.map_some, Option.map_some, Option.map_some]
          have hview := processOffers_notSelected hoffers
          exact congrArg some hview
      · simp [hrole, Proceeds] at hret
  all_goals simp [Proceeds] at hret

/-- **Run lemma**: a completed handshake in which OpenSSL used no session. -/
theorem serverHandshake_notSelected {g : Globals} {flights : List ServerFlight}
    {st st' : ServerState} (h : serverHandshake g flights st = some st')
    (hsel : st'.selected = none) :
    st.selected = none ∧
      st'.obj.pskView = st.obj.pskView.map (·.offer (flights.flatMap ServerFlight.offers)) := by
  induction flights generalizing st with
  | nil => simp [serverHandshake] at h
  | cons flight rest ih =>
    rw [serverHandshake] at h
    dsimp only at h
    split_ifs at h with hsucc hlast hretry
    · have hrest : rest = [] := by simpa using hlast
      obtain rfl := Option.some.inj h
      obtain ⟨hst, hview⟩ := scfAcceptPsk_notSelected (Or.inl hsucc) hsel
      refine ⟨hst, ?_⟩
      rw [hview, hrest]
      simp
    · obtain ⟨hst₁, hview₁⟩ := ih h
      have hproceeds : Proceeds (scfAcceptPsk g flight st).1 := by
        obtain hread | hwrite := Bool.or_eq_true_iff.mp hretry
        · exact Or.inr (Or.inl (by simpa using hread))
        · exact Or.inr (Or.inr (by simpa using hwrite))
      obtain ⟨hst, hview⟩ := scfAcceptPsk_notSelected hproceeds hst₁
      refine ⟨hst, ?_⟩
      rw [hview₁, hview, Option.map_map, List.flatMap_cons]
      congr 1
      funext v
      exact (PskView.offer_append _ _ v).symm

/-- A context that was given a policy, with any settings made before and after an object is
created from it: the connection of the object verifies as the policy says. -/
theorem boundObject_verifyMode {g g₁ g₂ : Globals} {ctxPtr ctxPtr' objPtr : Ptr} {role : SCFRole}
    {verifyMode : SCFVerifyMode} {policyMode : SCFPolicyMode} {env : SslCtxEnv}
    {ctx ctx₁ ctx₂ : SCFPolicyCtx} {calls calls' : List (Globals × Ptr × ConfigCall)}
    {clock : Option UInt64} {allocOk : Bool} {obj obj₁ : SCFPolicyObj} {fd : Int32}
    {sslEnv : SslEnv}
    (hpolicy : scfSetPolicy g ctxPtr role verifyMode policyMode env ctx = (.success, ctx₁))
    (hobj : scfCreatePolicyObj g₁ ctxPtr' clock allocOk (configure calls ctx₁) = (some obj, ctx₂))
    (hfd : scfSetFd g₂ objPtr fd sslEnv (configure calls' ctx₂) obj = (.success, obj₁)) :
    ∃ ssl₁, obj₁.sslCtx = some ssl₁ ∧ ssl₁.verifyMode = installedMode verifyMode := by
  obtain ⟨cfg, hcfg, hctx₁⟩ := (scfSetPolicy_success hpolicy).installed
  obtain ⟨now, -, hnew, hctx₂⟩ := scfCreatePolicyObj_some hobj
  have hnone : obj.sslCtx = none := by rw [hnew]; rfl
  obtain ⟨ssl, hssl, hobj₁⟩ := scfSetFd_success hfd
  obtain ⟨cfg', hcfg', rfl⟩ := sslForFd_ok hnone hssl
  -- the mode travels from the configuration of the policy to the one the connection copies
  have hmode : (configure calls' ctx₂).tlsVerifyMode = some (installedMode verifyMode) := by
    calc (configure calls' ctx₂).tlsVerifyMode
        = ctx₂.tlsVerifyMode := (configure_verification calls' ctx₂).2
      _ = (configure calls ctx₁).tlsVerifyMode := by rw [hctx₂]; rfl
      _ = ctx₁.tlsVerifyMode := (configure_verification calls ctx₁).2
      _ = some cfg.verifyMode := by rw [hctx₁]; rfl
      _ = some (installedMode verifyMode) := by rw [hcfg]
  rw [SCFPolicyCtx.tlsVerifyMode, hcfg', Option.map_some, Option.some.injEq] at hmode
  refine ⟨_, by rw [hobj₁]; rfl, ?_⟩
  exact hmode

/-- A server whose policy verifies the peer, with any settings made before and after its
object is created: in a completed handshake in which OpenSSL used no session, the
verification mode is still the one the policy installed exactly if the registered callback,
if there is one, answered no offered identity with a success that came with no session or
with a session that has a cipher. -/
theorem serverHandshake_verifyMode_iff {g g₁ g₂ g₃ : Globals} {ctxPtr ctxPtr' objPtr : Ptr}
    {verifyMode : SCFVerifyMode} {policyMode : SCFPolicyMode} {env : SslCtxEnv}
    {ctx ctx₁ ctx₂ : SCFPolicyCtx} {calls calls' : List (Globals × Ptr × ConfigCall)}
    {clock : Option UInt64} {allocOk : Bool} {obj obj₁ : SCFPolicyObj} {fd : Int32}
    {sslEnv : SslEnv} {flights : List ServerFlight} {st : ServerState}
    (hpolicy : scfSetPolicy g ctxPtr .server verifyMode policyMode env ctx = (.success, ctx₁))
    (hmode : verifyMode ≠ .none)
    (hobj : scfCreatePolicyObj g₁ ctxPtr' clock allocOk (configure calls ctx₁) = (some obj, ctx₂))
    (hfd : scfSetFd g₂ objPtr fd sslEnv (configure calls' ctx₂) obj = (.success, obj₁))
    (hdone : serverHandshake g₃ flights ⟨obj₁, none⟩ = some st) (hsel : st.selected = none) :
    ∃ ssl₁ ssl, obj₁.sslCtx = some ssl₁ ∧ st.obj.sslCtx = some ssl ∧
      (ssl.verifyMode = installedMode verifyMode ↔
        (ssl₁.pskFindSessionCallback = true → obj₁.pskFindSessionCb ≠ none →
          ∀ flight ∈ flights, ∀ offer ∈ flight.offers, offer.switchesOff = false)) := by
  obtain ⟨ssl₁, hssl₁, hinstalled⟩ := boundObject_verifyMode hpolicy hobj hfd
  have hne : ssl₁.verifyMode ≠ sslVerifyNone := by
    rw [hinstalled]
    exact installedMode_ne_none (scfSetPolicy_success hpolicy).validMode hmode
  obtain ⟨-, hview⟩ := serverHandshake_notSelected hdone hsel
  rw [SCFPolicyObj.pskView, SCFPolicyObj.pskView, hssl₁, Option.map_some, Option.map_some,
    Option.map_eq_some_iff] at hview
  obtain ⟨ssl, hssl, hview⟩ := hview
  refine ⟨ssl₁, ssl, hssl₁, hssl, ?_⟩
  have hkept := PskView.offer_verifyMode_eq_iff (v := ssl₁.pskView obj₁.pskFindSessionCb) hne
    (flights.flatMap ServerFlight.offers)
  rw [← hview] at hkept
  rw [← hinstalled]
  refine hkept.trans ?_
  simp only [PskView.registered, Ssl.pskView, Bool.and_eq_true, Option.isSome_iff_ne_none,
    List.mem_flatMap, forall_exists_index, and_imp]
  constructor
  · intro h hwrapper hcb flight hflight offer hoffer
    exact h hwrapper hcb offer flight hflight hoffer
  · intro h hwrapper hcb offer flight hflight hoffer
    exact h hwrapper hcb flight hflight offer hoffer

/-- The certificate server of the examples below: it verifies the peer and looks for PSK
sessions with the callback at address 1. -/
def pskServerCtx : SCFPolicyCtx :=
  configure [(.ready, .valid, .setPskFindSessionCallback (some 1))]
    (scfSetPolicy .ready .valid .server .default .high .plain newPolicyCtx).2

def pskServerObj : SCFPolicyObj := newPolicyObj pskServerCtx 0

def boundPskServerObj : SCFPolicyObj :=
  (scfSetFd .ready .valid 3 .plain { pskServerCtx with refCnt := 2 } pskServerObj).2

/-- The client offers an identity that the application does not know. -/
def unknownOffer (ret : Int32) : PskOffer := ⟨[120], ret, none, .decline⟩

/-- An unknown identity for which the application returns an error leaves the verification
on. -/
theorem serverHandshake_verifyMode_unknown_error :
    ∃ st, serverHandshake .ready [⟨[unknownOffer Errno.error.code], .success⟩]
        ⟨boundPskServerObj, none⟩ = some st ∧ st.selected = none ∧
      ∃ ssl, st.obj.sslCtx = some ssl ∧ ssl.verifyMode = installedMode .default := by
  have hpolicy : scfSetPolicy .ready .valid .server .default .high .plain newPolicyCtx =
    (.success, (scfSetPolicy .ready .valid .server .default .high .plain newPolicyCtx).2) := rfl
  have hobj : scfCreatePolicyObj .ready .valid (some 0) true pskServerCtx =
    (some pskServerObj, { pskServerCtx with refCnt := 2 }) := rfl
  have hfd : scfSetFd .ready .valid 3 .plain (configure [] { pskServerCtx with refCnt := 2 })
    pskServerObj = (.success, boundPskServerObj) := rfl
  obtain ⟨st, hst, hsel⟩ : ∃ st, serverHandshake .ready
      [⟨[unknownOffer Errno.error.code], .success⟩] ⟨boundPskServerObj, none⟩ = some st ∧
      st.selected = none := ⟨_, rfl, rfl⟩
  obtain ⟨ssl₁, ssl, -, hssl, hiff⟩ :=
    serverHandshake_verifyMode_iff hpolicy (by decide) hobj hfd hst hsel
  exact ⟨st, hst, hsel, ssl, hssl, hiff.mpr (fun _ _ => by decide)⟩

/-- An unknown identity for which the application returns success without a session: the
handshake completes with certificates, and the certificate of the peer is not verified. -/
theorem serverHandshake_unverified :
    ∃ st, scfSetPolicy .ready .valid .server .default .high .plain newPolicyCtx =
        (.success, (scfSetPolicy .ready .valid .server .default .high .plain newPolicyCtx).2) ∧
      scfCreatePolicyObj .ready .valid (some 0) true pskServerCtx =
        (some pskServerObj, { pskServerCtx with refCnt := 2 }) ∧
      scfSetFd .ready .valid 3 .plain { pskServerCtx with refCnt := 2 } pskServerObj =
        (.success, boundPskServerObj) ∧
      serverHandshake .ready [⟨[unknownOffer Errno.success.code], .success⟩]
        ⟨boundPskServerObj, none⟩ = some st ∧ st.selected = none ∧
      ∃ ssl, st.obj.sslCtx = some ssl ∧ ssl.verifyMode ≠ installedMode .default ∧
        ssl.verifyMode = sslVerifyNone :=
  ⟨_, rfl, rfl, rfl, rfl, rfl, _, rfl, by decide, by decide⟩

end Scf
