import ScfSecurity.Library.Heap
import ScfSecurity.Policy.PskAgreement
import ScfSecurity.Policy.PskFind

/-!
# Objects and the policy they were created under

An object copies policy and PSK callbacks from its context when it is created. Its TLS
connection is made later, by the first `SCF_SetFd`, from the configuration that the context
has by then. Here a context and its objects take calls in any order. The states also record
what is nowhere in the memory of the process: for which policy and callbacks a configuration
was made, and from which of them a connection was.

## Main definitions

- `deployMachine`: a context with its objects
- `TrackedObj.Faithful`: the connection of an object was made for what the object has copied
- `DeployCall.Timely`: the condition on the calls of a run

## Main results

- `DeployInvariant.step`: timely calls keep all connections faithful
- `deployment_faithful_of_timely`: so all states of a run of timely calls are faithful, and in
  such a run a connection made at any other time is not
-/

namespace Scf

open Automaton

/-- The policy and the PSK callbacks that a configuration was made for. -/
structure SslOrigin where
  policy : PolicyArgs
  pskFindSessionCb : Option Address
  pskUseSessionCb : Option Address
deriving DecidableEq

/-- The policy and the callbacks that the context records at present. -/
def SCFPolicyCtx.recorded (ctx : SCFPolicyCtx) : SslOrigin :=
  ⟨ctx.policy, ctx.pskFindSessionCb, ctx.pskUseSessionCb⟩

/-- The policy and the callbacks that the object has copied. -/
def SCFPolicyObj.copied (obj : SCFPolicyObj) : SslOrigin :=
  ⟨⟨obj.role, obj.verifyMode, obj.policyMode⟩, obj.pskFindSessionCb, obj.pskUseSessionCb⟩

/-- An object, the session a handshake on it uses, and the origin of the configuration from
which its connection was made. -/
structure TrackedObj where
  obj : SCFPolicyObj
  selected : Option SslSession := none
  origin : Option SslOrigin := none

/-- A context with the origin of its present configuration, and the objects created from it. -/
structure Deployment where
  ctx : SCFPolicyCtx
  origin : SslOrigin
  objs : Heap TrackedObj

/-- The calls on a context and on its objects. -/
inductive DeployCall where
  | policy (call : PolicyCall)
  | create (clock : Option UInt64) (allocOk : Bool)
  | setFd (obj : ℕ) (fd : Int32) (env : SslEnv)
  | connect (obj : ℕ) (outcome : HandshakeOutcome)
  | accept (obj : ℕ) (flight : ServerFlight)

inductive DeployAnswer where
  | policy (answer : RbacAnswer)
  | created (obj : Option ℕ)
  | code (ret : Errno)

/-- The origin of the configuration after a call on the context: a successful `SCF_SetPolicy`
makes a new one, a successful registration adds its callback. -/
def SslOrigin.track (origin : SslOrigin) : PolicyCall → RbacAnswer → SslOrigin
  | .setPolicy role verifyMode policyMode _, .code .success =>
    ⟨⟨role, verifyMode, policyMode⟩, none, none⟩
  | .settings (.setPskFindSessionCallback cb), .code .success =>
    { origin with pskFindSessionCb := cb }
  | .settings (.setPskUseSessionCallback cb), .code .success =>
    { origin with pskUseSessionCb := cb }
  | _, _ => origin

/-- `SCF_SetFd`; a new connection comes from the present configuration. -/
def TrackedObj.setFd (g : Globals) (fd : Int32) (env : SslEnv) (ctx : SCFPolicyCtx)
    (origin : SslOrigin) (t : TrackedObj) : Errno × TrackedObj :=
  let (ret, obj) := scfSetFd g .valid fd env ctx t.obj
  (ret, { t with obj, origin := if t.obj.sslCtx = none then some origin else t.origin })

/-- `SCF_Connect`, except for the freeze. -/
def TrackedObj.connect (g : Globals) (outcome : HandshakeOutcome) (t : TrackedObj) :
    Errno × TrackedObj :=
  if t.obj.role = .none then (.nullInput, t)
  else if !g.scfInitialized then (.notInit, t)
  else if !g.adaptor then (.invalidParam, t)
  else
    let (ret, obj) := adaptorConnect outcome t.obj
    (ret, { t with obj })

/-- `SCF_Accept`, except for the freeze. -/
def TrackedObj.accept (g : Globals) (flight : ServerFlight) (t : TrackedObj) :
    Errno × TrackedObj :=
  let (ret, st) := scfAcceptPsk g flight ⟨t.obj, t.selected⟩
  (ret, { t with obj := st.obj, selected := st.selected })

/-- Carry out a handshake call on one object and freeze the role map after a success. -/
def Deployment.handshake (obj : ℕ) (f : TrackedObj → Errno × TrackedObj) (d : Deployment) :
    DeployAnswer × Deployment :=
  match d.objs.read obj with
  | none => (.code .nullInput, d)
  | some t =>
    (.code (f t).1,
      { d with
        ctx := if (f t).1 = .success then { d.ctx with nodeRoleMapFrozen := true } else d.ctx
        objs := d.objs.modify obj fun t => (f t).2 })

/-- One call on the context or on an object. -/
def Deployment.apply (lib : LibCrypto) (d : Deployment) :
    Globals × Ptr × DeployCall → DeployAnswer × Deployment
  | (g, ctxPtr, .policy call) =>
    let (answer, ctx) := call.apply lib g ctxPtr d.ctx
    (.policy answer, { d with ctx, origin := d.origin.track call answer })
  | (g, ctxPtr, .create clock allocOk) =>
    match scfCreatePolicyObj g ctxPtr clock allocOk d.ctx with
    | (none, ctx) => (.created none, { d with ctx })
    | (some obj, ctx) =>
      (.created (some (d.objs.alloc { obj }).1), { d with ctx, objs := (d.objs.alloc { obj }).2 })
  | (g, _, .setFd obj fd env) =>
    match d.objs.read obj with
    | none => (.code .nullInput, d)
    | some t =>
      (.code (t.setFd g fd env d.ctx d.origin).1,
        { d with objs := d.objs.modify obj fun t => (t.setFd g fd env d.ctx d.origin).2 })
  | (g, _, .connect obj outcome) => d.handshake obj (TrackedObj.connect g outcome)
  | (g, _, .accept obj flight) => d.handshake obj (TrackedObj.accept g flight)

/-- A new context without objects; what is recorded as the origin of a configuration that is
not there does not matter. -/
def newDeployment : Deployment := ⟨newPolicyCtx, newPolicyCtx.recorded, {}⟩

def deployMachine (lib : LibCrypto) :
    Machine Deployment (Globals × Ptr × DeployCall) DeployAnswer where
  initial d := d = newDeployment
  step d call := d.apply lib call

/-- The connection of the object, if it has one, was made from a configuration for exactly the
policy and the callbacks that the object has copied. It has the method of the object's role,
calls the object's callbacks and verifies the peer as the object says; so `SSL_connect` never
runs on a connection of a server. -/
structure TrackedObj.Faithful (t : TrackedObj) (ssl : Ssl) : Prop where
  origin : t.origin = some t.obj.copied
  method : calGetSslMethod t.obj.role = some ssl.method
  connect : t.obj.role = .client → ssl.method ≠ .tlsServer
  find : ssl.pskFindSessionCallback = t.obj.pskFindSessionCb.isSome
  use : ssl.pskUseSessionCallback = t.obj.pskUseSessionCb.isSome
  verifyMode : ssl.verifyMode = installedMode t.obj.verifyMode

/-! ### Handshakes -/

/-- What a connection takes from its configuration. -/
def Ssl.settings (ssl : Ssl) : SslMethod × UInt32 × Bool × Bool :=
  (ssl.method, ssl.verifyMode, ssl.pskFindSessionCallback, ssl.pskUseSessionCallback)

/-- The object has still copied the same and its connection, if any, has the same settings. -/
structure SameSettings (obj obj' : SCFPolicyObj) : Prop where
  copied : obj'.copied = obj.copied
  ssl : obj'.sslCtx.map Ssl.settings = obj.sslCtx.map Ssl.settings

theorem SameSettings.refl (obj : SCFPolicyObj) : SameSettings obj obj := ⟨rfl, rfl⟩

/-- Every connection of the object is faithful. -/
def TrackedObj.AllFaithful (t : TrackedObj) : Prop := ∀ ssl, t.obj.sslCtx = some ssl → t.Faithful ssl

theorem TrackedObj.AllFaithful.of_sameSettings {t t' : TrackedObj} (h : t.AllFaithful)
    (hsame : SameSettings t.obj t'.obj) (horigin : t'.origin = t.origin) : t'.AllFaithful := by
  intro ssl' hssl'
  have hmap := hsame.ssl
  rw [hssl', Option.map_some, eq_comm, Option.map_eq_some_iff] at hmap
  obtain ⟨ssl, hssl, hsettings⟩ := hmap
  simp only [Ssl.settings, Prod.mk.injEq] at hsettings
  obtain ⟨hmethod, hverify, hfind, huse⟩ := hsettings
  have hcopied := hsame.copied
  simp only [SCFPolicyObj.copied, SslOrigin.mk.injEq, PolicyArgs.mk.injEq] at hcopied
  obtain ⟨⟨hrole, hmode, -⟩, hfindCb, huseCb⟩ := hcopied
  have hold := h ssl hssl
  constructor
  · rw [horigin, hold.origin, hsame.copied]
  · rw [hrole, hold.method, hmethod]
  · rw [hrole, ← hmethod]
    exact hold.connect
  · rw [← hfind, hold.find, hfindCb]
  · rw [← huse, hold.use, huseCb]
  · rw [← hverify, hold.verifyMode, hmode]

theorem adaptorHandshake_sameSettings (required : SCFRole) (outcome : HandshakeOutcome)
    (obj : SCFPolicyObj) : SameSettings obj (adaptorHandshake required outcome obj).2 := by
  unfold adaptorHandshake
  cases hssl : obj.sslCtx with
  | none => exact .refl obj
  | some ssl =>
    by_cases hrole : obj.role = required
    · dsimp only
      rw [if_neg (not_not_intro hrole)]
      cases outcome with
      | failure errorCode =>
        refine ⟨rfl, ?_⟩
        rw [hssl]
      | success =>
        refine ⟨rfl, ?_⟩
        rw [hssl]
        rfl
    · dsimp only
      rw [if_pos hrole]
      exact .refl obj

theorem TrackedObj.connect_allFaithful {t : TrackedObj} (h : t.AllFaithful) (g : Globals)
    (outcome : HandshakeOutcome) : (t.connect g outcome).2.AllFaithful := by
  unfold TrackedObj.connect
  split_ifs
  case neg => exact h.of_sameSettings (adaptorHandshake_sameSettings .client outcome t.obj) rfl
  all_goals exact h

/-- The identities that OpenSSL looks at: none after one that makes it give up. -/
def readOffers : List PskOffer → List PskOffer
  | [] => []
  | offer :: rest => offer :: if offer.decision = .abort then [] else readOffers rest

/-- The connection verifies nobody anyway, or no callback is asked about the identities, or the
callback answers none of them in a way that turns the verification off. -/
def Ssl.Unswitched (callback : Option Address) (offers : List PskOffer) (ssl : Ssl) : Prop :=
  ssl.verifyMode = sslVerifyNone ∨ (ssl.pskView callback).registered = false ∨
    ∀ offer ∈ readOffers offers, offer.switchesOff = false

/-- The wrapper changes nothing if it has no callback, or the answer does not turn the
verification off, or it is off already. -/
theorem pskFindSessionCbWrapper_ssl {obj : SCFPolicyObj} {offer : PskOffer} {ssl : Ssl}
    (h : ssl.verifyMode = sslVerifyNone ∨ obj.pskFindSessionCb = none ∨
      offer.switchesOff = false) :
    (pskFindSessionCbWrapper (some obj) offer ssl).2.2 = ssl := by
  have hsame : ssl.verifyMode = sslVerifyNone → ssl.setVerify sslVerifyNone = ssl := by
    intro hnone
    rw [Ssl.setVerify, ← hnone]
  unfold pskFindSessionCbWrapper
  dsimp only
  split_ifs with hcb hret
  · rfl
  · rfl
  · have hret : offer.ret = Errno.success.code := not_not.mp hret
    cases hsess : offer.session with
    | none =>
      refine hsame (h.resolve_right ?_)
      rintro (hnone | hoff)
      · exact hcb hnone
      · simp [PskOffer.switchesOff, hret, hsess] at hoff
    | some sess =>
      dsimp only
      split_ifs with hcipher
      · rfl
      · refine hsame (h.resolve_right ?_)
        rintro (hnone | hoff)
        · exact hcb hnone
        · simp [PskOffer.switchesOff, hret, hsess, hcipher] at hoff

/-- The identities of a client message leave such a connection alone. -/
theorem processOffers_ssl {obj : SCFPolicyObj} {offers : List PskOffer} {ssl : Ssl}
    (h : ssl.Unswitched obj.pskFindSessionCb offers) : (processOffers obj offers ssl).2 = ssl := by
  induction offers with
  | nil => rfl
  | cons offer rest ih =>
    rw [processOffers]
    by_cases hinstalled : ssl.pskFindSessionCallback = true
    · have hwrapper : (pskFindSessionCbWrapper (some obj) offer ssl).2.2 = ssl := by
        refine pskFindSessionCbWrapper_ssl (h.imp_right (Or.imp ?_ fun hall => ?_))
        · intro hreg
          simpa [PskView.registered, Ssl.pskView, hinstalled] using hreg
        · exact hall offer (by simp [readOffers])
      have hrest : offer.decision ≠ .abort → (processOffers obj rest ssl).2 = ssl := by
        intro habort
        refine ih (h.imp_right (Or.imp_right fun hall o ho => hall o ?_))
        simp [readOffers, habort, ho]
      rcases hwrap : pskFindSessionCbWrapper (some obj) offer ssl with ⟨ret, sess, ssl₁⟩
      rw [hwrap] at hwrapper
      dsimp only at hwrapper
      subst hwrapper
      rw [if_neg (by simp [hinstalled])]
      cases hdecision : offer.decision with
      | abort => rfl
      | decline => exact hrest (by simp [hdecision])
      | select =>
        dsimp only
        split
        · exact hrest (by simp [hdecision])
        · rfl
    · rw [if_pos (by simpa using hinstalled)]
      refine ih (.inr (.inl ?_))
      simp [PskView.registered, Ssl.pskView, hinstalled]

/-- The identities of the client do not turn the verification of a server's object off. -/
def SCFPolicyObj.KeepsVerifying (offers : List PskOffer) (obj : SCFPolicyObj) : Prop :=
  ∀ ssl, obj.sslCtx = some ssl → obj.role = .server → ssl.Unswitched obj.pskFindSessionCb offers

theorem pskAccept_sameSettings (flight : ServerFlight) (st : ServerState)
    (h : st.obj.KeepsVerifying flight.offers) :
    SameSettings st.obj (pskAccept flight st).2.obj := by
  unfold pskAccept
  cases hssl : st.obj.sslCtx with
  | none => exact .refl st.obj
  | some ssl =>
    by_cases hrole : st.obj.role = .server
    · dsimp only
      rw [if_neg (not_not_intro hrole)]
      have hoffers := processOffers_ssl (h ssl hssl hrole)
      rcases hprocess : processOffers st.obj flight.offers ssl with ⟨result, ssl₁⟩
      rw [hprocess] at hoffers
      dsimp only at hoffers
      subst hoffers
      have hobj : st.obj.setSsl ssl₁ = st.obj := by
        rw [SCFPolicyObj.setSsl, ← hssl]
      dsimp only
      rw [hobj]
      cases result with
      | notSelected => exact adaptorHandshake_sameSettings .server flight.outcome st.obj
      | selected sess => exact adaptorHandshake_sameSettings .server flight.outcome st.obj
      | aborted => exact adaptorHandshake_sameSettings .server (.failure sslErrorSsl) st.obj
    · dsimp only
      rw [if_pos hrole]
      exact .refl st.obj

theorem TrackedObj.accept_allFaithful {t : TrackedObj} (h : t.AllFaithful) (g : Globals)
    {flight : ServerFlight} (hkeeps : t.obj.KeepsVerifying flight.offers) :
    (t.accept g flight).2.AllFaithful := by
  have hsame : SameSettings t.obj (scfAcceptPsk g flight ⟨t.obj, t.selected⟩).2.obj := by
    unfold scfAcceptPsk
    split_ifs
    case neg => exact pskAccept_sameSettings flight ⟨t.obj, t.selected⟩ hkeeps
    all_goals exact .refl t.obj
  exact h.of_sameSettings hsame rfl

/-! ### The present configuration -/

/-- The context is in order: policy and configuration agree, callbacks and wrappers agree, and
the configuration was made for what the context records. -/
structure Settled (ctx : SCFPolicyCtx) (origin : SslOrigin) : Prop where
  policy : PolicyInvariant ctx
  psk : PskAgree ctx
  origin : ctx.sslConfig ≠ none → origin = ctx.recorded

theorem settled_newPolicyCtx : Settled newPolicyCtx newPolicyCtx.recorded :=
  ⟨policyInvariant_newPolicyCtx, ⟨rfl, rfl⟩, fun _ => rfl⟩

/-- A settings call that does not concern PSK leaves alone what the context records. -/
theorem SettingStep.recorded {ctx ctx' : SCFPolicyCtx} (h : SettingStep ctx ctx') :
    ctx'.recorded = ctx.recorded ∧ (ctx'.sslConfig ≠ none → ctx.sslConfig ≠ none) := by
  cases h with
  | config hauth =>
    refine ⟨rfl, fun hcfg hnone => hcfg ?_⟩
    rw [hnone, Option.map_none, Option.map_eq_none_iff] at hauth
    exact hauth
  | _ => exact ⟨rfl, id⟩

theorem RbacStep.recorded {ctx ctx' : SCFPolicyCtx} (h : RbacStep ctx ctx') :
    ctx'.recorded = ctx.recorded ∧ ctx'.sslConfig = ctx.sslConfig := by
  cases h <;> exact ⟨rfl, rfl⟩

/-- An origin changes only with a success. -/
theorem SslOrigin.track_of_ne_success (origin : SslOrigin) (call : PolicyCall) {ret : Errno}
    (hret : ret ≠ .success) : origin.track call (.code ret) = origin := by
  unfold SslOrigin.track
  split
  · rename_i h
    exact absurd (RbacAnswer.code.inj h) hret
  · rename_i h
    exact absurd (RbacAnswer.code.inj h) hret
  · rename_i h
    exact absurd (RbacAnswer.code.inj h) hret
  · rfl

/-- A harmless `SCF_SetPolicy` that finds no callbacks keeps the origin right. -/
theorem Settled.setPolicy {g : Globals} {ctxPtr : Ptr} {policy : PolicyArgs} {env : SslCtxEnv}
    {ctx : SCFPolicyCtx} {origin : SslOrigin} (h : Settled ctx origin)
    (hharmless : HarmlessPolicy g ctxPtr policy env ctx)
    (hfree : PskFreePolicy g ctxPtr policy env ctx) :
    Settled (policy.set g ctxPtr env ctx).2 (origin.track
      (.setPolicy policy.role policy.verifyMode policy.policyMode env)
      (.code (policy.set g ctxPtr env ctx).1)) := by
  refine ⟨h.policy.setPolicy hharmless, (h.psk.setPolicy_iff policy).mpr hfree, ?_⟩
  have hkeep := (failureKeepsPolicy_iff g ctxPtr policy env ctx).mpr hharmless
  unfold FailureKeepsPolicy at hkeep
  have hout := scfSetPolicy_outcome g ctxPtr policy env ctx
  generalize policy.set g ctxPtr env ctx = out at hout hkeep ⊢
  cases hout with
  | rejected hacc hret =>
    rw [SslOrigin.track_of_ne_success _ _ hret]
    exact h.origin
  | notCreated hacc henv hret =>
    intro hcfg
    rw [SslOrigin.track_of_ne_success _ _ hret, h.origin hcfg]
    exact congrArg (SslOrigin.mk · ctx.pskFindSessionCb ctx.pskUseSessionCb) (hkeep hret).1.symm
  | lost hacc henv hbounds hret => exact fun hcfg => absurd rfl hcfg
  | done hacc henv hbounds hbuilt hfind huse =>
    intro _
    obtain ⟨hfindCb, huseCb⟩ := hfree hacc henv
    show SslOrigin.mk policy none none = ⟨policy, ctx.pskFindSessionCb, ctx.pskUseSessionCb⟩
    rw [hfindCb, huseCb]

/-- Registering a callback changes the origin as it changes what the context records. -/
theorem Settled.origin_pskCallback {ctx : SCFPolicyCtx} {origin : SslOrigin}
    (h : Settled ctx origin) {install : SslCtx → SCFPolicyCtx → SCFPolicyCtx}
    (track : SslOrigin → SslOrigin) {g : Globals} {ctxPtr : Ptr} {call : ConfigCall}
    (hcall : call.apply g ctxPtr ctx = scfSetPskCallback install g ctxPtr ctx)
    (htrack : origin.track (.settings call) (.code .success) = track origin)
    (hinstall : ∀ cfg, (install cfg ctx).recorded = track ctx.recorded) :
    (call.apply g ctxPtr ctx).2.sslConfig ≠ none →
      origin.track (.settings call) (.code (call.apply g ctxPtr ctx).1) =
        (call.apply g ctxPtr ctx).2.recorded := by
  rw [hcall]
  rcases scfSetPskCallback_cases install g ctxPtr ctx with ⟨ret, hret, heq⟩ | ⟨cfg, hcfg, heq⟩
  · rw [heq, SslOrigin.track_of_ne_success _ _ hret]
    exact h.origin
  · have hsome : ctx.sslConfig ≠ none := by
      rw [hcfg]
      exact Option.some_ne_none cfg
    rw [heq]
    intro _
    rw [htrack, hinstall, h.origin hsome]

/-- So do the settings calls; a registered callback becomes part of the origin. -/
theorem Settled.settings {ctx : SCFPolicyCtx} {origin : SslOrigin} (h : Settled ctx origin)
    (g : Globals) (ctxPtr : Ptr) (call : ConfigCall) :
    Settled (call.apply g ctxPtr ctx).2
      (origin.track (.settings call) (.code (call.apply g ctxPtr ctx).1)) := by
  refine ⟨h.policy.keepsPolicy (call.keepsPolicy g ctxPtr ctx),
    h.psk.configStep (call.apply_step g ctxPtr ctx), ?_⟩
  -- the calls that record nothing
  have hother : ∀ {ctx'}, SettingStep ctx ctx' → ctx'.sslConfig ≠ none → origin = ctx'.recorded := by
    intro ctx' hstep hcfg
    rw [hstep.recorded.1]
    exact h.origin (hstep.recorded.2 hcfg)
  cases call with
  | setPskFindSessionCallback cb =>
    exact h.origin_pskCallback (fun o => { o with pskFindSessionCb := cb }) rfl rfl
      fun _ => rfl
  | setPskUseSessionCallback cb =>
    exact h.origin_pskCallback (fun o => { o with pskUseSessionCb := cb }) rfl rfl
      fun _ => rfl
  | setProtocolVersion minVersion maxVersion forbidVersion setMinOk setMaxOk =>
    exact hother (scfSetProtocolVersion_step g ctxPtr minVersion maxVersion forbidVersion
      setMinOk setMaxOk ctx)
  | setCipherSuites cipherSuites allocOk setOk =>
    exact hother (scfSetCipherSuites_step g ctxPtr cipherSuites allocOk setOk ctx)
  | setKeyExchangeGroups groups setOk =>
    exact hother (setKeyExchangeGroups_step groups setOk ctx)
  | setAppVerifyCallback cb arg =>
    exact hother (scfSetAppVerifyCallback_step g ctxPtr cb arg ctx)
  | setKeyAutoUpdateParam isNeedKeyUpdate keyUpdateTime keyUpdateTraffic =>
    exact hother (scfSetKeyAutoUpdateParam_step g ctxPtr isNeedKeyUpdate keyUpdateTime
      keyUpdateTraffic ctx)

/-- Calls that change neither the configuration nor what is recorded. -/
theorem Settled.of_recorded {ctx ctx' : SCFPolicyCtx} {origin : SslOrigin} (h : Settled ctx origin)
    (hrecorded : ctx'.recorded = ctx.recorded) (hcfg : ctx'.sslConfig = ctx.sslConfig) :
    Settled ctx' origin := by
  have hpolicy : ctx'.policy = ctx.policy := congrArg SslOrigin.policy hrecorded
  have hfind : ctx'.pskFindSessionCb = ctx.pskFindSessionCb :=
    congrArg SslOrigin.pskFindSessionCb hrecorded
  have huse : ctx'.pskUseSessionCb = ctx.pskUseSessionCb :=
    congrArg SslOrigin.pskUseSessionCb hrecorded
  refine ⟨h.policy.keepsPolicy (.of_eq hpolicy hcfg), h.psk.of_auth ?_ hfind huse, ?_⟩
  · rw [hcfg]
  · rw [hcfg, hrecorded]
    exact h.origin

theorem SslOrigin.track_rbac (origin : SslOrigin) (call : RbacCall) (answer : RbacAnswer) :
    origin.track (.rbac call) answer = origin := rfl

/-- The context stays in order under harmless calls that find no callbacks. -/
theorem Settled.apply {lib : LibCrypto} {ctx : SCFPolicyCtx} {origin : SslOrigin}
    (h : Settled ctx origin) {g : Globals} {ctxPtr : Ptr} {call : PolicyCall}
    (hharmless : PolicyCall.Harmless ctx (g, ctxPtr, call))
    (hfree : PolicyCall.PskFree ctx (g, ctxPtr, call)) :
    Settled (call.apply lib g ctxPtr ctx).2 (origin.track call (call.apply lib g ctxPtr ctx).1) := by
  cases call with
  | setPolicy role verifyMode policyMode env =>
    let policy : PolicyArgs := ⟨role, verifyMode, policyMode⟩
    have hset : Settled (policy.set g ctxPtr env ctx).2 (origin.track
        (.setPolicy role verifyMode policyMode env) (.code (policy.set g ctxPtr env ctx).1)) :=
      h.setPolicy hharmless hfree
    exact hset
  | settings call => exact h.settings g ctxPtr call
  | rbac call =>
    rw [SslOrigin.track_rbac]
    have hkeep : ∀ c c', RbacStep c c' → Settled c origin → Settled c' origin :=
      fun _ _ hstep h => h.of_recorded hstep.recorded.1 hstep.recorded.2
    exact (RbacCall.guarantees lib g call).invariant hkeep h

/-! ### Creating a connection -/

/-- `SCF_SetFd` fails and changes nothing, or it binds a connection. -/
theorem scfSetFd_cases (g : Globals) (objPtr : Ptr) (fd : Int32) (env : SslEnv)
    (ctx : SCFPolicyCtx) (obj : SCFPolicyObj) :
    (∃ ret, ret ≠ .success ∧ scfSetFd g objPtr fd env ctx obj = (ret, obj)) ∨
      obj.role ≠ .none ∧ ∃ ssl, sslForFd env ctx obj = .ok ssl ∧
        scfSetFd g objPtr fd env ctx obj = (.success, obj.bindFd ssl fd) := by
  unfold scfSetFd
  split_ifs with hinit hadaptor hptr hrole
  · exact .inl ⟨.notInit, by decide, rfl⟩
  · exact .inl ⟨.invalidParam, by decide, rfl⟩
  · exact .inl ⟨.nullInput, by decide, rfl⟩
  · exact .inl ⟨.invalidParam, by decide, rfl⟩
  · unfold adaptorSetFd
    cases hssl : sslForFd env ctx obj with
    | error ret => exact .inl ⟨ret, sslForFd_error hssl, rfl⟩
    | ok ssl =>
      dsimp only
      split_ifs
      · exact .inl ⟨.sslSetSocketFd, by decide, rfl⟩
      · refine .inr ⟨fun hnone => hrole ?_, ssl, rfl, rfl⟩
        simp [hnone]

/-- A new connection is faithful exactly if the context still records what the object has
copied. -/
theorem Settled.bindFd_faithful_iff {ctx : SCFPolicyCtx} {origin : SslOrigin}
    (h : Settled ctx origin) {t : TrackedObj} {env : SslEnv} {ssl : Ssl}
    (hnew : t.obj.sslCtx = none) (hssl : sslForFd env ctx t.obj = .ok ssl) (fd : Int32) :
    TrackedObj.AllFaithful { t with obj := t.obj.bindFd ssl fd, origin := some origin } ↔
      t.obj.copied = ctx.recorded := by
  obtain ⟨cfg, hcfg, rfl⟩ := sslForFd_ok hnew hssl
  have hbuilt := h.policy.built cfg hcfg
  have horigin : origin = ctx.recorded := h.origin (by rw [hcfg]; exact Option.some_ne_none cfg)
  have hfind : cfg.pskFindSessionCallback = ctx.pskFindSessionCb.isSome := by
    rw [← h.psk.find, SCFPolicyCtx.pskFindInstalled, hcfg]
    rfl
  have huse : cfg.pskUseSessionCallback = ctx.pskUseSessionCb.isSome := by
    rw [← h.psk.use, SCFPolicyCtx.pskUseInstalled, hcfg]
    rfl
  constructor
  · intro hall
    have hnow := (hall _ rfl).origin
    rw [horigin, Option.some.injEq] at hnow
    exact hnow.symm
  · intro hcopied ssl' hssl'
    obtain rfl := Option.some.inj hssl'
    have hfields := hcopied
    simp only [SCFPolicyObj.copied, SCFPolicyCtx.recorded, SCFPolicyCtx.policy, SslOrigin.mk.injEq,
      PolicyArgs.mk.injEq] at hfields
    obtain ⟨⟨hrole, hmode, -⟩, hfindCb, huseCb⟩ := hfields
    have hmethod : calGetSslMethod t.obj.role = some cfg.method := by
      rw [hrole]
      exact hbuilt.method
    constructor
    · rw [horigin, ← hcopied]
      rfl
    · exact hmethod
    · intro hclient hserver
      have hserver' : cfg.method = .tlsServer := hserver
      rw [show t.obj.role = .client from hclient, hserver'] at hmethod
      exact absurd hmethod (by decide)
    · exact hfind.trans (congrArg Option.isSome hfindCb.symm)
    · exact huse.trans (congrArg Option.isSome huseCb.symm)
    · exact hbuilt.verifyMode.trans (congrArg installedMode hmode.symm)

theorem TrackedObj.setFd_allFaithful {t : TrackedObj} (h : t.AllFaithful) {ctx : SCFPolicyCtx}
    {origin : SslOrigin} (hctx : Settled ctx origin) (g : Globals) (fd : Int32) (env : SslEnv)
    (htimely : t.obj.sslCtx = none → t.obj.role ≠ .none → t.obj.copied = ctx.recorded) :
    (t.setFd g fd env ctx origin).2.AllFaithful := by
  unfold TrackedObj.setFd
  rcases scfSetFd_cases g .valid fd env ctx t.obj with ⟨ret, -, heq⟩ | ⟨hrole, ssl, hssl, heq⟩
  · rw [heq]
    intro ssl hssl
    have hsome : t.obj.sslCtx ≠ none := by
      rw [show t.obj.sslCtx = some ssl from hssl]
      exact Option.some_ne_none ssl
    simp only [if_neg hsome] at hssl ⊢
    exact h ssl hssl
  · rw [heq]
    by_cases hnew : t.obj.sslCtx = none
    · simp only [if_pos hnew]
      exact (hctx.bindFd_faithful_iff hnew hssl fd).mpr (htimely hnew hrole)
    · -- the connection is there already and only gets another descriptor
      simp only [if_neg hnew]
      obtain ⟨ssl₀, hssl₀⟩ := Option.ne_none_iff_exists'.mp hnew
      rw [sslForFd, hssl₀, Except.ok.injEq] at hssl
      subst hssl
      refine h.of_sameSettings ⟨rfl, ?_⟩ rfl
      rw [hssl₀]
      rfl

/-! ### Runs -/

/-- The calls of a run that keep connections faithful: every `SCF_SetPolicy` is harmless and
finds no callbacks, every connection is made while the context records what the object has
copied, and the identities of a client do not turn the verification off. -/
def DeployCall.Timely (d : Deployment) : Globals × Ptr × DeployCall → Prop
  | (g, ctxPtr, .policy call) =>
    PolicyCall.Harmless d.ctx (g, ctxPtr, call) ∧ PolicyCall.PskFree d.ctx (g, ctxPtr, call)
  | (_, _, .setFd obj _ _) => ∀ t, d.objs.read obj = some t → t.obj.sslCtx = none →
    t.obj.role ≠ .none → t.obj.copied = d.ctx.recorded
  | (_, _, .accept obj flight) => ∀ t, d.objs.read obj = some t →
    t.obj.KeepsVerifying flight.offers
  | _ => True

structure DeployInvariant (d : Deployment) : Prop where
  settled : Settled d.ctx d.origin
  faithful : d.objs.All TrackedObj.AllFaithful

/-- A handshake call that keeps the object faithful. -/
theorem DeployInvariant.handshake {d : Deployment} (h : DeployInvariant d) {obj : ℕ}
    {f : TrackedObj → Errno × TrackedObj}
    (hf : ∀ t, d.objs.read obj = some t → t.AllFaithful → (f t).2.AllFaithful) :
    DeployInvariant (d.handshake obj f).2 := by
  unfold Deployment.handshake
  cases hread : d.objs.read obj with
  | none => exact h
  | some t =>
    refine ⟨?_, h.faithful.modify fun t ht => hf t ht⟩
    dsimp only
    split_ifs
    · exact h.settled.of_recorded rfl rfl
    · exact h.settled

/-- **Step lemma**: timely calls keep the context in order and the connections faithful. -/
theorem DeployInvariant.step {lib : LibCrypto} {d : Deployment} (h : DeployInvariant d)
    (call : Globals × Ptr × DeployCall) (htimely : DeployCall.Timely d call) :
    DeployInvariant ((deployMachine lib).step d call).2 := by
  obtain ⟨g, ctxPtr, call⟩ := call
  show DeployInvariant (d.apply lib (g, ctxPtr, call)).2
  cases call with
  | policy call => exact ⟨h.settled.apply htimely.1 htimely.2, h.faithful⟩
  | create clock allocOk =>
    unfold Deployment.apply
    dsimp only
    rcases hcreate : scfCreatePolicyObj g ctxPtr clock allocOk d.ctx with ⟨_ | obj, ctx⟩
    · rw [scfCreatePolicyObj_none hcreate]
      exact h
    · obtain ⟨now, -, rfl, rfl⟩ := scfCreatePolicyObj_some hcreate
      refine ⟨h.settled.of_recorded rfl rfl, h.faithful.alloc ?_⟩
      exact fun ssl hssl => nomatch hssl
  | setFd obj fd env =>
    unfold Deployment.apply
    dsimp only
    cases hread : d.objs.read obj with
    | none => exact h
    | some t =>
      refine ⟨h.settled, h.faithful.modify fun t ht hall => ?_⟩
      exact TrackedObj.setFd_allFaithful hall h.settled g fd env (htimely t ht)
  | connect obj outcome =>
    exact h.handshake fun t _ hall => TrackedObj.connect_allFaithful hall g outcome
  | accept obj flight =>
    exact h.handshake fun t ht hall => TrackedObj.accept_allFaithful hall g (htimely t ht)

/-- **Run lemma**. -/
theorem deployInvariant_of_timely {lib : LibCrypto} {d : Deployment}
    (h : (deployMachine lib).ReachableBy DeployCall.Timely d) : DeployInvariant d := by
  refine Machine.ReachableBy.invariant ?_ ?_ h
  · rintro d rfl
    exact ⟨settled_newPolicyCtx, Heap.all_empty _⟩
  · intro d call hd htimely
    exact hd.step call htimely

/-- In every run of timely calls each connection was made for what its object has copied. A
connection that `SCF_SetFd` makes after such a run is so exactly if the context still records
what the object has copied. -/
theorem deployment_faithful_of_timely (lib : LibCrypto) (d : Deployment)
    (h : (deployMachine lib).ReachableBy DeployCall.Timely d) :
    d.objs.All TrackedObj.AllFaithful ∧
      ∀ g fd env obj t, d.objs.read obj = some t → t.obj.sslCtx = none →
        (t.setFd g fd env d.ctx d.origin).1 = .success →
          ((t.setFd g fd env d.ctx d.origin).2.AllFaithful ↔ t.obj.copied = d.ctx.recorded) := by
  have hd := deployInvariant_of_timely h
  refine ⟨hd.faithful, fun g fd env obj t _ hnew hret => ?_⟩
  unfold TrackedObj.setFd at hret ⊢
  rcases scfSetFd_cases g .valid fd env d.ctx t.obj with ⟨ret, hne, heq⟩ | ⟨-, ssl, hssl, heq⟩
  · rw [heq] at hret
    exact absurd hret hne
  · rw [heq]
    simp only [if_pos hnew]
    exact hd.settled.bindFd_faithful_iff hnew hssl fd

/-- A client that gets its policy, a callback, an object, a connection and a handshake in this
order. -/
theorem deployment_faithful_of_timely_client :
    let calls : List (Globals × Ptr × DeployCall) :=
      [(.ready, .valid, .policy (.setPolicy .client .default .high .plain)),
       (.ready, .valid, .policy (.settings (.setPskUseSessionCallback (some 0x1000)))),
       (.ready, .valid, .create (some 0) true), (.ready, .valid, .setFd 0 3 .plain),
       (.ready, .valid, .connect 0 .success)]
    ((deployMachine .shortForm).after newDeployment calls).objs.All TrackedObj.AllFaithful := by
  intro calls
  have hfree : PskFreePolicy .ready .valid ⟨.client, .default, .high⟩ .plain newPolicyCtx :=
    fun _ _ => ⟨rfl, rfl⟩
  have hcalls : (deployMachine .shortForm).Admits DeployCall.Timely newDeployment calls := by
    refine ⟨⟨by decide, hfree⟩, ⟨trivial, trivial⟩, trivial, ?_, trivial, trivial⟩
    intro t ht _ _
    obtain rfl := Option.some.inj ht
    rfl
  exact (deployment_faithful_of_timely .shortForm _
    ((Machine.ReachableBy.initial rfl).after hcalls)).1

/-- A client's object is created, then the context becomes a server that verifies nobody, and
only then the object is bound: `SCF_Connect` passes its check of the role and runs on the
connection of a server, which does not verify the peer as the object says. -/
theorem connect_runs_on_server_ssl :
    let calls : List (Globals × Ptr × DeployCall) :=
      [(.ready, .valid, .policy (.setPolicy .client .default .high .plain)),
       (.ready, .valid, .create (some 0) true),
       (.ready, .valid, .policy (.setPolicy .server .none .high .plain)),
       (.ready, .valid, .setFd 0 3 .plain),
       (.ready, .valid, .connect 0 (.failure sslErrorSsl))]
    (deployMachine .shortForm).answers newDeployment calls =
        [.policy (.code .success), .created (some 0), .policy (.code .success), .code .success,
          .code .secureTransport] ∧
      ∃ t ssl, ((deployMachine .shortForm).after newDeployment calls).objs.read 0 = some t ∧
        t.obj.sslCtx = some ssl ∧ t.obj.role = .client ∧ ssl.method = .tlsServer ∧
        ssl.verifyMode = sslVerifyNone ∧ installedMode t.obj.verifyMode ≠ sslVerifyNone ∧
        ¬ t.Faithful ssl := by
  refine ⟨rfl, _, _, rfl, rfl, rfl, rfl, rfl, by decide, fun h => ?_⟩
  exact h.connect rfl rfl

end Scf
