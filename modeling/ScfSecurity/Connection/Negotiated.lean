import ScfSecurity.Connection.View

/-!
# What was negotiated

A connection keeps the version and the cipher suite that were negotiated, so that the application
can ask for them. Every path that completes a handshake goes through `HandshakeStep`, which asks
the adaptor for the version. Nothing ever asks it for the suite.

What OpenSSL has negotiated is a parameter: the id of the suite that the TLS connection of an
object uses at the moment, if there is one.

## Main definitions

- `getTLSVersion`, `SCFConnectionImpl.getCipherSuite`: what the application is told
- `adaptorNegotiateCipherSuite`: what the adaptor reports
- `ReportsNegotiated`: connected connections tell what the adaptor reports of their objects
- `NullSuites`: connected connections use the suite with the code 0

## Main results

- `reportsNegotiated_throughout_iff`: the application is told the truth throughout a run, exactly
  if only that suite is used
-/

namespace Scf

open Automaton

/-- `SCFConnectionImpl::GetTLSVersion`; the result may be a null pointer. -/
def getTLSVersion (g : Globals) (conn : SCFConnectionImpl) : Resumption Process (Option String) :=
  if conn.handshakeDone && conn.negotiatedVersion ≠ "" then .done (some conn.negotiatedVersion)
  else
    match conn.policyObj with
    | some obj => withObj none obj fun _ o => (scfGetProtocolVersion g o, o)
    | none => .done (some "")

/-- `SCFConnectionImpl::GetCipherSuite`. -/
def SCFConnectionImpl.getCipherSuite (conn : SCFConnectionImpl) : UInt16 :=
  conn.negotiatedCipherSuite

/-- `OpenSSLAdaptor::NegotiateCipherSuite`: the result, and the value stored in `*data`. The
parameter is the id of the cipher that `SSL_get_current_cipher` finds, of which the low 16 bits
count. -/
def adaptorNegotiateCipherSuite (currentCipher : Ssl → Option UInt32) (obj : Option SCFPolicyObj) :
    Errno × Option UInt16 :=
  match obj.bind SCFPolicyObj.sslCtx with
  | none => (.nullInput, none)
  | some ssl =>
    match currentCipher ssl with
    | none => (.sslGetCipher, none)
    | some cipher => (.success, some cipher.toUInt16)

/-- What OpenSSL says about the cipher of the TLS connection of each object. -/
abbrev CurrentCipher := ℕ → Ssl → Option UInt32

/-- Whatever a connected connection tells about version and suite is what the adaptor reports of
its object. -/
def ReportsNegotiated (currentCipher : CurrentCipher) (s : System) : Prop :=
  ∀ i conn, s.conns.read i = some conn → conn.isConnected = true →
    ∃ obj o, conn.policyObj = some obj ∧ s.process.objs.read obj = some o ∧
      (∀ g : Globals, g.scfInitialized = true →
        ((getTLSVersion g conn).run s.process).1 = adaptorGetVersion o.obj) ∧
      adaptorNegotiateCipherSuite (currentCipher obj) (some o.obj) =
        (.success, some conn.getCipherSuite)

/-- The suites that connected connections use have the code 0, which stands for no encryption. -/
def NullSuites (currentCipher : CurrentCipher) (s : System) : Prop :=
  ∀ i conn obj o ssl, s.conns.read i = some conn → conn.isConnected = true →
    conn.policyObj = some obj → s.process.objs.read obj = some o → o.obj.sslCtx = some ssl →
    ∃ cipher, currentCipher obj ssl = some cipher ∧ cipher.toUInt16 = 0

/-! ### One connection with its object -/

/-- No suite has been stored; and a connected connection knows the version of its object. -/
structure View.Tells (v : View) : Prop where
  suite : v.conn.negotiatedCipherSuite = 0
  version : v.conn.state = .connected →
    ∃ o, v.obj = some o ∧ adaptorGetVersion o = some v.conn.negotiatedVersion

section View

variable {g : Globals} {env : ConnEnv} {conn : SCFConnectionImpl} {o : SCFPolicyObj} {v v' : View}

@[simp] theorem shaken_negotiatedCipherSuite (ret : Errno) (version : String)
    (conn : SCFConnectionImpl) :
    (conn.shaken ret version).negotiatedCipherSuite = conn.negotiatedCipherSuite := by
  unfold SCFConnectionImpl.shaken
  split_ifs <;> rfl

/-- A handshake leads to the state `CONNECTED` only if it succeeds, and then the version is kept. -/
theorem shaken_connected {ret : Errno} {version : String}
    (h : (conn.shaken ret version).state = .connected) :
    ret = .success ∧ (conn.shaken ret version).negotiatedVersion = version := by
  unfold SCFConnectionImpl.shaken at h ⊢
  split_ifs at h ⊢ with hret
  exact ⟨hret, rfl⟩

theorem View.Rests.tells (h : v.Rests v') (hv : v.Tells) : v'.Tells :=
  ⟨h.remembers.cipherSuite.trans hv.suite, fun hstate => absurd hstate h.state⟩

/-- Every handshake that succeeds refreshes the version. -/
theorem View.Shaken.tells (h : View.Shaken g env conn o v')
    (hsuite : conn.negotiatedCipherSuite = 0) : v'.Tells := by
  obtain ⟨version, hconn, hversion⟩ := h.version
  constructor
  · rw [hconn, shaken_negotiatedCipherSuite]
    exact hsuite
  · intro hstate
    rw [hconn] at hstate
    obtain ⟨hret, hsame⟩ := shaken_connected hstate
    refine ⟨_, h.obj, ?_⟩
    rw [hconn, hsame]
    exact hversion hret

/-- Objects that tell the same have the same version. -/
theorem tells_of_told {obj obj' : Option SCFPolicyObj}
    (h : obj'.map SCFPolicyObj.told = obj.map SCFPolicyObj.told)
    (hv : View.Tells ⟨conn, obj⟩) : View.Tells ⟨conn, obj'⟩ := by
  refine ⟨hv.suite, fun hstate => ?_⟩
  obtain ⟨o, ho, hversion⟩ := hv.version hstate
  have ho : obj = some o := ho
  rw [ho] at h
  obtain ⟨o', ho', htold⟩ := Option.map_eq_some_iff.mp h
  exact ⟨o', ho', (congrArg Prod.snd htold).trans hversion⟩

theorem scfSetUserData_version (g : Globals) (userData : Option Address) (o : SCFPolicyObj) :
    adaptorGetVersion (scfSetUserData g userData o).2 = adaptorGetVersion o := by
  unfold scfSetUserData
  split_ifs <;> rfl

/-- **Step lemma** for a connection with its object. -/
theorem ViewStep.tells {p : Process} {call : ConnCall} {v v' : Option View}
    (h : ViewStep g p call v v') (hv : ∀ w, v = some w → w.Tells) :
    ∀ w, v' = some w → w.Tells := by
  intro w hw
  cases h with
  | absent => cases hw
  | created =>
    obtain rfl := Option.some.inj hw
    exact ⟨rfl, fun hstate => by cases hstate⟩
  | notOpened hnot hrests =>
    obtain rfl := Option.some.inj hw
    exact hrests.tells (hv _ rfl)
  | opened hopens hconn ho hshaken =>
    obtain rfl := Option.some.inj hw
    exact hshaken.tells (hconn.cipherSuite.trans (hv _ rfl).suite)
  | listened hrests =>
    obtain rfl := Option.some.inj hw
    exact hrests.tells (hv _ rfl)
  | accepted hconn ho hshaken =>
    obtain rfl := Option.some.inj hw
    exact hshaken.tells (hconn.cipherSuite.trans rfl)
  | noObj => exact hv w hw
  | shaken hshaken =>
    obtain rfl := Option.some.inj hw
    exact hshaken.tells (hv _ rfl).suite
  | wrote htold =>
    obtain rfl := Option.some.inj hw
    exact tells_of_told htold (hv _ rfl)
  | updated htold =>
    obtain rfl := Option.some.inj hw
    exact tells_of_told htold (hv _ rfl)
  | @userDataSet _ userData conn obj =>
    obtain rfl := Option.some.inj hw
    refine ⟨(hv _ rfl).suite, fun hstate => ?_⟩
    obtain ⟨o, ho, hversion⟩ := (hv _ rfl).version hstate
    have ho : obj = some o := ho
    exact ⟨_, by rw [ho]; rfl, (scfSetUserData_version g userData o).trans hversion⟩
  | closed hrests =>
    obtain rfl := Option.some.inj hw
    exact hrests.tells (hv _ rfl)
  | destroyed => cases hw

end View

/-! ### All connections -/

/-- All connections with their objects tell the version. -/
def AllTell (s : System) : Prop := ∀ i v, s.view i = some v → v.Tells

section System

variable {s : System}

theorem AllTell.call (htell : AllTell s) (h : Attached s) (g : Globals) (call : ConnCall) :
    AllTell (call.apply g s).2 := by
  intro i v hv
  by_cases hi : i = call.actor s
  · subst hi
    exact (connCall_view h g call).tells (htell _) v hv
  · rw [view_other h (connCall_slotStep g s call) hi] at hv
    exact htell i v hv

/-- The version of a connected connection. -/
theorem getTLSVersion_run {conn : SCFConnectionImpl} {obj : ℕ} {o : BoundObj} {c : SCFPolicyCtx}
    {p : Process} {g : Globals} (hinit : g.scfInitialized = true)
    (hdone : conn.handshakeDone = true) (hobj : conn.policyObj = some obj)
    (hread : p.objs.read obj = some o) (hctx : p.ctxs.read o.policyCtx = some c)
    (hversion : adaptorGetVersion o.obj = some conn.negotiatedVersion) :
    ((getTLSVersion g conn).run p).1 = adaptorGetVersion o.obj := by
  unfold getTLSVersion
  rw [hdone]
  by_cases hempty : conn.negotiatedVersion = ""
  · rw [if_neg (by simp [hempty]), hobj]
    refine (withObj_run_alive none _ hread hctx).1.trans ?_
    unfold scfGetProtocolVersion
    rw [hinit, g.adaptor_of_init hinit]
    rfl
  · rw [if_pos (by simp [hempty]), hversion]
    rfl

/-- The suite that a connection tells is always 0. -/
theorem adaptorNegotiateCipherSuite_eq_zero_iff {currentCipher : Ssl → Option UInt32}
    {o : SCFPolicyObj} {ssl : Ssl} (hssl : o.sslCtx = some ssl) :
    adaptorNegotiateCipherSuite currentCipher (some o) = (.success, some 0) ↔
      ∃ cipher, currentCipher ssl = some cipher ∧ cipher.toUInt16 = 0 := by
  unfold adaptorNegotiateCipherSuite
  rw [Option.bind_some, hssl]
  dsimp only
  cases currentCipher ssl with
  | none => exact iff_of_false (by simp) (by simp)
  | some cipher => simp

/-- In a state in which connections tell the version, they tell the suite exactly if it is 0. -/
theorem reportsNegotiated_iff (currentCipher : CurrentCipher) (h : Attached s) (htell : AllTell s) :
    ReportsNegotiated currentCipher s ↔ NullSuites currentCipher s := by
  have hsuite : ∀ {i conn}, s.conns.read i = some conn → conn.getCipherSuite = 0 :=
    fun hread => (htell _ _ (view_eq hread)).suite
  constructor
  · intro hreports i conn obj o ssl hread hconnected hobj hobjRead hssl
    obtain ⟨obj', o', hobj', hobjRead', -, hreported⟩ := hreports i conn hread hconnected
    obtain rfl := Option.some.inj (hobj.symm.trans hobj')
    obtain rfl := Option.some.inj (hobjRead.symm.trans hobjRead')
    rw [hsuite hread] at hreported
    exact (adaptorNegotiateCipherSuite_eq_zero_iff hssl).mp hreported
  · intro hnull i conn hread hconnected
    have hparts : conn.state = .connected ∧ conn.handshakeDone = true := by
      simpa [SCFConnectionImpl.isConnected] using hconnected
    obtain ⟨o, ho, hversion⟩ := (htell _ _ (view_eq hread)).version hparts.1
    obtain ⟨bound, hbound, rfl⟩ := Option.map_eq_some_iff.mp ho
    obtain ⟨obj, hobj, hobjRead⟩ := Option.bind_eq_some_iff.mp hbound
    obtain ⟨o', c, ho', hctx⟩ := h.alive i conn hread obj hobj
    obtain rfl := Option.some.inj (hobjRead.symm.trans ho')
    obtain ⟨ssl, hssl, -⟩ := Option.map_eq_some_iff.mp hversion
    refine ⟨obj, bound, hobj, hobjRead, fun g hinit => ?_, ?_⟩
    · exact getTLSVersion_run hinit hparts.2 hobj hobjRead hctx hversion
    · rw [hsuite hread]
      exact (adaptorNegotiateCipherSuite_eq_zero_iff hssl).mpr
        (hnull i conn obj bound ssl hread hconnected hobj hobjRead hssl)

end System

/-- **Run theorem**: throughout a run every connected connection tells the version and the suite
that the adaptor reports of its object, exactly if the suite that its TLS connection uses has the
code 0. The version is always right. -/
theorem reportsNegotiated_throughout_iff (currentCipher : CurrentCipher)
    (calls : List (Globals × ConnCall)) :
    connectionMachine.Throughout (ReportsNegotiated currentCipher) {} calls ↔
      connectionMachine.Throughout (NullSuites currentCipher) {} calls := by
  refine Machine.throughout_congr (I := fun s => Attached s ∧ AllTell s) (fun s call h => ?_)
    (fun s h => reportsNegotiated_iff currentCipher h.1 h.2) ⟨attached_empty, ?_⟩ calls
  · exact ⟨h.1.call call.1 call.2, h.2.call h.1 call.1 call.2⟩
  · intro i v hv
    cases hv

/-- A client that connects. -/
def plainClientCalls : List (Globals × ConnCall) :=
  [(.ready, .create {} true), (.ready, .connect 0 .plain)]

/-- All TLS connections use `TLS_AES_256_GCM_SHA384`. -/
def aes256Gcm : CurrentCipher := fun _ _ => some 0x03001302

/-- The client is connected with this suite, and tells that its suite is 0. -/
theorem connected_client_tells_no_suite :
    let s := connectionMachine.after {} plainClientCalls
    ∃ conn obj o, s.conns.read 0 = some conn ∧ conn.isConnected = true ∧
      conn.policyObj = some obj ∧ s.process.objs.read obj = some o ∧ conn.getCipherSuite = 0 ∧
      adaptorNegotiateCipherSuite (aes256Gcm obj) (some o.obj) = (.success, some 0x1302) ∧
      ¬ ReportsNegotiated aes256Gcm s := by
  refine ⟨_, _, _, rfl, rfl, rfl, rfl, rfl, rfl, fun h => ?_⟩
  obtain ⟨obj, o, hobj, ho, -, hsuite⟩ := h 0 _ rfl rfl
  obtain rfl := Option.some.inj hobj
  obtain rfl := Option.some.inj ho
  exact absurd hsuite (by decide)

end Scf
