import ScfSecurity.Connection.Configure

/-!
# The stages of opening a connection

`Connect`, `Listen` and `Accept` go through the same stages: a crypto engine, a policy context with
its configuration, a transport, an object, and the handshake. Each of them is described once here:
what it leaves in the connection and in the memory, and when it succeeds.

## Main definitions

- `EngineOutcome`, `ConfigureOutcome`, `SetupOutcome`: the stages of `SetupPolicyContext`
- `SetupOk`: the environment lets `SetupPolicyContext` succeed
- `PskLookup`: `SetupPSK` creates an object, which nobody frees
- `TransportOutcome`, `ObjOutcome`, `HandshakeStepOutcome`: the other stages

## Main results

- `setupPolicyContext_outcome`, `setupTransport_outcome`, `createPolicyObj_outcome`,
  `handshakeStep_outcome`
-/

namespace Scf

open Automaton

/-- A call may be repeated later. -/
def Errno.Wants (ret : Errno) : Prop := ret = .sslWantRead ∨ ret = .sslWantWrite

instance (ret : Errno) : Decidable ret.Wants := inferInstanceAs (Decidable (_ ∨ _))

/-! ### Keys and certificates -/

/-- One code after another, until one is an error. -/
theorem firstError_success_iff {ret ret' : Errno} :
    (if ret ≠ .success then ret else ret') = .success ↔ ret = .success ∧ ret' = .success := by
  by_cases h : ret = .success
  · rw [if_neg (not_not.mpr h)]
    exact (and_iff_right h).symm
  · rw [if_pos h]
    exact iff_of_false h fun hc => h hc.1

/-- A code that only counts if a condition fails. -/
theorem skipped_success_iff {skip : Bool} {ret : Errno} :
    (if skip then .success else ret) = .success ↔ (skip = false → ret = .success) := by
  cases skip with
  | false => simp
  | true => exact iff_of_true rfl nofun

/-- A file can be loaded. -/
def FileEnv.Loads (password : StdString) (env : FileEnv) : Prop :=
  env.newOk = true ∧ env.setBuf = .success ∧ (password.isEmpty = false → env.setPwd = .success) ∧
    env.use = .success

theorem loadFile_success_iff (env : FileEnv) (password : StdString) :
    loadFile env password = .success ↔ env.Loads password := by
  have hpwd : (if !password.isEmpty && env.setPwd ≠ .success then env.setPwd else env.use) =
      .success ↔ (password.isEmpty = false → env.setPwd = .success) ∧ env.use = .success := by
    cases password.isEmpty with
    | true => simp
    | false => simpa using firstError_success_iff
  unfold loadFile FileEnv.Loads
  cases env.newOk with
  | false => exact iff_of_false (show Errno.memAlloc ≠ .success by decide) (by simp)
  | true =>
    rw [if_neg (by decide), firstError_success_iff, hpwd]
    exact (and_iff_right rfl).symm

/-- The certificates of a configuration can be loaded. -/
structure CertsOk (env : CertEnv) (config : SCFConnectionConfig) : Prop where
  ca : config.caCertPath.isEmpty = false → env.ca.Loads []
  own : (config.certPath.isEmpty || config.keyPath.isEmpty) = false →
    env.cert.Loads [] ∧ env.key.Loads config.keyPassword
  crl : config.crlPath.isEmpty = false → env.crl.Loads []

/-- The session of a configuration can be made. -/
structure PskOk (g : Globals) (env : PskEnv) (config : SCFConnectionConfig) : Prop where
  init : g.scfInitialized = true
  newOk : env.sessionNewOk = true
  key : config.pskKey.length ≠ 0
  setKey : env.setMasterKeyOk = true
  setVersion : env.setVersionOk = true

/-- The keys or the certificates of a configuration can be set up. -/
def KeysOk (g : Globals) (env : SetupEnv) (config : SCFConnectionConfig) : Prop :=
  if config.usePSK then PskOk g env.psk config else CertsOk env.certs config

theorem setupCertificates_success_iff (env : CertEnv) (config : SCFConnectionConfig) :
    setupCertificates env config = .success ↔ CertsOk env config := by
  unfold setupCertificates
  simp only [firstError_success_iff, skipped_success_iff, loadFile_success_iff]
  exact ⟨fun h => ⟨h.1, h.2.1, h.2.2⟩, fun h => ⟨h.ca, h.own, h.crl⟩⟩

/-- The session exists, or the code says why not. -/
theorem pskSession_cases (g : Globals) (env : PskEnv) (config : SCFConnectionConfig) :
    ¬ PskOk g env config ∧
        (∃ ret, ret ≠ .success ∧ pskSession g env config.pskKey = .error ret) ∨
      PskOk g env config ∧ ∃ sess, pskSession g env config.pskKey = .ok sess := by
  unfold pskSession scfSessionNew scfSessionSetMasterKey scfSessionSetProtocolVersion
  cases hinit : g.scfInitialized with
  | false =>
    exact .inl ⟨fun h => absurd (hinit.symm.trans h.init) (by decide), .memAlloc, by decide, rfl⟩
  | true =>
    rw [g.adaptor_of_init hinit]
    cases hnew : env.sessionNewOk with
    | false =>
      exact .inl ⟨fun h => absurd (hnew.symm.trans h.newOk) (by decide), .memAlloc, by decide, rfl⟩
    | true =>
      by_cases hkey : config.pskKey.length = 0
      · refine .inl ⟨fun h => h.key hkey, .invalidParam, by decide, ?_⟩
        simp [hkey]
      cases hset : env.setMasterKeyOk with
      | false =>
        refine .inl ⟨fun h => absurd (hset.symm.trans h.setKey) (by decide), .sslSessSetKey,
          by decide, ?_⟩
        simp [hkey]
      | true =>
        have hversion : protocolStrToInt tls13VersionStr = some tls13Version := by decide
        cases hver : env.setVersionOk with
        | false =>
          refine .inl ⟨fun h => absurd (hver.symm.trans h.setVersion) (by decide),
            .sslSessSetProtocolVer, by decide, ?_⟩
          simp [hkey, hversion]
        | true =>
          refine .inr ⟨⟨hinit, hnew, hkey, hset, hver⟩, ?_⟩
          simp [hkey, hversion]

/-! ### New objects -/

/-- `SCF_CreatePolicyObj` finds the library initialised, the time and memory. -/
def ObjOk (g : Globals) (clock : Option UInt64) (allocOk : Bool) : Prop :=
  g.scfInitialized = true ∧ clock ≠ none ∧ allocOk = true

/-- A new object on a context, which counts one more reference. -/
def Process.bindObj (ctx : ℕ) (c : SCFPolicyCtx) (o : SCFPolicyObj) (p : Process) : Process :=
  (p.setCtx ctx { c with refCnt := c.refCnt + 1 }).addObj ⟨o, ctx⟩

theorem newObj_run (g : Globals) {ctx : ℕ} (clock : Option UInt64) (allocOk : Bool) {p : Process}
    {c : SCFPolicyCtx} (hread : p.ctxs.read ctx = some c) :
    ¬ ObjOk g clock allocOk ∧ (newObj g ctx clock allocOk).run p = (none, p) ∨
      ObjOk g clock allocOk ∧ ∃ now, (newObj g ctx clock allocOk).run p =
        (some p.objs.size, p.bindObj ctx c (newPolicyObj c now)) := by
  rw [newObj, Resumption.run_critical]
  simp only [hread]
  unfold scfCreatePolicyObj ObjOk
  cases g.scfInitialized with
  | false => exact .inl ⟨by simp, rfl⟩
  | true =>
    cases clock with
    | none => exact .inl ⟨by simp, rfl⟩
    | some now =>
      cases allocOk with
      | false => exact .inl ⟨by simp, rfl⟩
      | true => exact .inr ⟨by simp, now, rfl⟩

/-! ### The context -/

/-- A new context. -/
def Process.addCtx (c : SCFPolicyCtx) (p : Process) : Process :=
  { p with ctxs := (p.ctxs.alloc c).2 }

theorem read_addCtx (c : SCFPolicyCtx) (p : Process) :
    (p.addCtx c).ctxs.read p.ctxs.size = some c := by
  show (p.ctxs.alloc c).2.read p.ctxs.size = some c
  rw [Heap.read_alloc, Heap.alloc_fst, if_pos rfl]

theorem setCtx_addCtx (c c' : SCFPolicyCtx) (p : Process) :
    (p.addCtx c).setCtx p.ctxs.size c' = p.addCtx c' := by
  unfold Process.setCtx Process.addCtx
  dsimp only
  rw [Heap.modify_alloc]

/-- `SetupPSK` creates an object for its lookup. Nothing keeps a pointer to it. -/
structure PskLookup (g : Globals) (env : SetupEnv) (config : SCFConnectionConfig)
    (providerCtx : Option Address) : Prop where
  usePSK : config.usePSK = true
  basic : BasicOk g env config providerCtx
  session : PskOk g env.psk config
  obj : ObjOk g env.psk.clock env.psk.objAllocOk

theorem setupPSK_run (g : Globals) (env : PskEnv) (config : SCFConnectionConfig) {ctx : ℕ}
    {p : Process} {c : SCFPolicyCtx} (hread : p.ctxs.read ctx = some c) :
    ¬ PskOk g env config ∧ (∃ ret, ret ≠ .success ∧
        (setupPSK g env config ctx).run p = (ret, p)) ∨
      PskOk g env config ∧ ¬ ObjOk g env.clock env.objAllocOk ∧
        (setupPSK g env config ctx).run p = (.success, p) ∨
      PskOk g env config ∧ ObjOk g env.clock env.objAllocOk ∧
        ∃ now, (setupPSK g env config ctx).run p =
          (.success, p.bindObj ctx c (newPolicyObj c now)) := by
  obtain ⟨-, -, hsuites, -⟩ := getSecurityLevelMapping_spec config.securityLevel
  unfold setupPSK
  rcases pskSession_cases g env config with ⟨hnot, ret, hret, hsess⟩ | ⟨hok, sess, hsess⟩
  · rw [hsess]
    exact .inl ⟨hnot, ret, hret, rfl⟩
  refine .inr ?_
  rw [hsess]
  dsimp only
  rw [if_neg (by rw [hsuites]; decide), Resumption.run_bind]
  rcases newObj_run g env.clock env.objAllocOk hread with ⟨hobj, hrun⟩ | ⟨hobj, now, hrun⟩
  · rw [hrun]
    exact .inl ⟨hok, hobj, rfl⟩
  · rw [hrun]
    refine .inr ⟨hok, hobj, now, ?_⟩
    dsimp only
    rw [Resumption.run_bind, withObj_run_of_read]
    rfl

/-- How the configuration of a new context ends, and what it adds to the memory. -/
inductive ConfigureOutcome (g : Globals) (env : SetupEnv) (config : SCFConnectionConfig)
    (p : Process) : Errno × Process → Prop
  | plain {ret : Errno} {c : SCFPolicyCtx} (hlookup : ¬ PskLookup g env config p.providerCtx)
      (hret : ret = .success ↔
        BasicOk g env config p.providerCtx ∧ KeysOk g env config ∧ config.appVerifyCb = none)
      (hc : Furnished (env.sslCtx.usedCtx p.providerCtx) c)
      (hconf : ret = .success → Configured config c) :
      ConfigureOutcome g env config p (ret, p.addCtx c)
  -- the object of the lookup stays, and it counts as a reference
  | lookup {ret : Errno} {c : SCFPolicyCtx} {o : SCFPolicyObj}
      (hlookup : PskLookup g env config p.providerCtx)
      (hret : ret = .success ↔
        BasicOk g env config p.providerCtx ∧ KeysOk g env config ∧ config.appVerifyCb = none)
      (hc : Furnished (env.sslCtx.usedCtx p.providerCtx) c)
      (hconf : ret = .success → Configured config c) :
      ConfigureOutcome g env config p
        (ret, (p.addCtx { c with refCnt := 2 }).addObj ⟨o, p.ctxs.size⟩)

/-- A call behind one that has returned. -/
theorem andThen_run (m m' : Resumption Process Errno) {p p' : Process} {ret : Errno}
    (h : m.run p = (ret, p')) :
    (andThen m m').run p = if ret ≠ .success then (ret, p') else m'.run p' := by
  rw [andThen, Resumption.run_bind, h]
  split_ifs <;> rfl

/-- The settings behind keys and certificates, in the memory. -/
theorem lateSettings_run (g : Globals) (config : SCFConnectionConfig) {ctx : ℕ} {p : Process}
    {c : SCFPolicyCtx} (hread : p.ctxs.read ctx = some c) (hmode : c.policyMode ≠ .customer) :
    ∃ ret c', (andThen (setupAppVerify g config ctx) (setupKeyAutoUpdate g config ctx)).run p =
        (ret, p.setCtx ctx c') ∧
      (ret = .success ↔ config.appVerifyCb = none) ∧ Tuned c c' := by
  obtain ⟨hret, htuned⟩ := lateSettings_spec g config hmode
  exact ⟨_, _, onCtx_lateSettings g config ctx p c hread, hret, htuned⟩

theorem Configured.mode_ne {config : SCFConnectionConfig} {c : SCFPolicyCtx}
    (h : Configured config c) : c.policyMode ≠ .customer := by
  rw [h.mode]
  exact (policyMode_spec config).2

theorem Configured.setRefCnt {config : SCFConnectionConfig} {c : SCFPolicyCtx}
    (h : Configured config c) (n : UInt32) : Configured config { c with refCnt := n } :=
  ⟨h.role, h.mode, h.versions⟩

section AfterBasics

variable {g : Globals} {env : SetupEnv} {config : SCFConnectionConfig} {p : Process}
  {c : SCFPolicyCtx}

theorem configureOutcome_keysRefused {ret : Errno}
    (hlookup : ¬ PskLookup g env config p.providerCtx) (hkeys : ¬ KeysOk g env config)
    (hc : Furnished (env.sslCtx.usedCtx p.providerCtx) c) (hret : ret ≠ .success) :
    ConfigureOutcome g env config p (ret, p.addCtx c) :=
  .plain hlookup (iff_of_false hret fun h => hkeys h.2.1) hc fun h => absurd h hret

/-- Keys and certificates are set up without an object; the late settings follow. -/
theorem configureOutcome_late (hlookup : ¬ PskLookup g env config p.providerCtx)
    (hbasic : BasicOk g env config p.providerCtx) (hkeys : KeysOk g env config)
    (hc : Furnished (env.sslCtx.usedCtx p.providerCtx) c) (hconf : Configured config c) :
    ConfigureOutcome g env config p
      ((andThen (setupAppVerify g config p.ctxs.size) (setupKeyAutoUpdate g config p.ctxs.size)).run
        (p.addCtx c)) := by
  obtain ⟨ret, c', hrun, hret, htuned⟩ := lateSettings_run g config (read_addCtx c p) hconf.mode_ne
  rw [hrun, setCtx_addCtx]
  exact .plain hlookup (hret.trans ⟨fun h => ⟨hbasic, hkeys, h⟩, fun h => h.2.2⟩)
    (hc.tuned htuned) fun _ => hconf.tuned htuned

/-- The memory with the object of the lookup, after the late settings. -/
theorem bindObj_setCtx (o : SCFPolicyObj) (c c' : SCFPolicyCtx) (p : Process) :
    ((p.addCtx c).bindObj p.ctxs.size c o).setCtx p.ctxs.size c' =
      (p.addCtx c').addObj ⟨o, p.ctxs.size⟩ := by
  show ((((p.addCtx c).setCtx p.ctxs.size { c with refCnt := c.refCnt + 1 }).setCtx
    p.ctxs.size c').addObj ⟨o, p.ctxs.size⟩) = _
  rw [setCtx_setCtx, setCtx_addCtx]

/-- The late settings find the context with one more reference, that of the lookup's object. -/
theorem configureOutcome_lookup (hlookup : PskLookup g env config p.providerCtx)
    (hkeys : KeysOk g env config) (hc : Furnished (env.sslCtx.usedCtx p.providerCtx) c)
    (hconf : Configured config c) (o : SCFPolicyObj) :
    ConfigureOutcome g env config p
      ((andThen (setupAppVerify g config p.ctxs.size) (setupKeyAutoUpdate g config p.ctxs.size)).run
        ((p.addCtx c).bindObj p.ctxs.size c o)) := by
  have hread : ((p.addCtx c).bindObj p.ctxs.size c o).ctxs.read p.ctxs.size =
      some { c with refCnt := c.refCnt + 1 } := read_setCtx (read_addCtx c p) _
  obtain ⟨ret, c', hrun, hret, htuned⟩ :=
    lateSettings_run g config hread (hconf.setRefCnt _).mode_ne
  have hc' : ({ ({ c' with refCnt := 1 } : SCFPolicyCtx) with refCnt := 2 } : SCFPolicyCtx) = c' := by
    have hrefs : c'.refCnt = 2 := by
      rw [htuned.refCnt, hc.refCnt]
      rfl
    rw [← hrefs]
  rw [hrun, bindObj_setCtx, ← hc']
  have htuned' : Tuned c { c' with refCnt := 1 } := ⟨hc.refCnt.symm, htuned.policy, htuned.config⟩
  exact .lookup hlookup (hret.trans ⟨fun h => ⟨hlookup.basic, hkeys, h⟩, fun h => h.2.2⟩)
    (hc.tuned htuned') fun _ => ((hconf.setRefCnt _).tuned htuned).setRefCnt 1

end AfterBasics

/-- The configuration of a new context. -/
theorem configureCtx_outcome (g : Globals) (env : SetupEnv) (config : SCFConnectionConfig)
    (p : Process) :
    ConfigureOutcome g env config p
      ((configureCtx g env config p.ctxs.size).run (p.addCtx newPolicyCtx)) := by
  rw [configureCtx_run g env config (read_addCtx newPolicyCtx p)]
  have hprovider : (p.addCtx newPolicyCtx).providerCtx = p.providerCtx := rfl
  rw [hprovider]
  obtain ⟨hfurnished, hbasic, hconfigured⟩ := basicSettings_spec g env config p.providerCtx
  generalize basicSettings g env config p.providerCtx newPolicyCtx = out at *
  obtain ⟨ret, c⟩ := out
  dsimp only at hfurnished hbasic hconfigured ⊢
  rw [setCtx_addCtx]
  by_cases hret : ret = .success
  case neg =>
    rw [if_pos hret]
    refine .plain (fun h => hret (hbasic.mpr h.basic)) ?_ hfurnished fun h => absurd h hret
    exact iff_of_false hret fun h => hret (hbasic.mpr h.1)
  have hbasic := hbasic.mp hret
  have hconfigured := hconfigured hret
  rw [if_neg (not_not.mpr hret)]
  cases hpsk : config.usePSK with
  | false =>
    have hnot : ¬ PskLookup g env config p.providerCtx := fun h =>
      absurd (hpsk.symm.trans h.usePSK) (by decide)
    have hkeys : KeysOk g env config ↔ setupCertificates env.certs config = .success := by
      rw [setupCertificates_success_iff, KeysOk, hpsk]
      rfl
    rw [if_neg (by decide), andThen_run _ _ (Resumption.run_done _ _)]
    by_cases hcerts : setupCertificates env.certs config = .success
    · rw [if_neg (not_not.mpr hcerts)]
      exact configureOutcome_late hnot hbasic (hkeys.mpr hcerts) hfurnished hconfigured
    · rw [if_pos hcerts]
      exact configureOutcome_keysRefused hnot (mt hkeys.mp hcerts) hfurnished hcerts
  | true =>
    have hkeys : KeysOk g env config ↔ PskOk g env.psk config := by
      rw [KeysOk, hpsk]
      rfl
    rw [if_pos rfl]
    rcases setupPSK_run g env.psk config (read_addCtx c p) with
      ⟨hnot, ret', hret', hrun⟩ | ⟨hok, hobj, hrun⟩ | ⟨hok, hobj, now, hrun⟩
    · rw [andThen_run _ _ hrun, if_pos hret']
      exact configureOutcome_keysRefused (fun h => hnot h.session) (mt hkeys.mp hnot) hfurnished hret'
    · rw [andThen_run _ _ hrun, if_neg (not_not.mpr rfl)]
      exact configureOutcome_late (fun h => hobj h.obj) hbasic (hkeys.mpr hok) hfurnished hconfigured
    · rw [andThen_run _ _ hrun, if_neg (not_not.mpr rfl)]
      exact configureOutcome_lookup ⟨hpsk, hbasic, hok, hobj⟩ (hkeys.mpr hok) hfurnished hconfigured _

/-! ### The engine -/

/-- The adaptor gets an engine, if there is an adaptor. -/
def Process.inject (g : Globals) (engine : ℕ) (p : Process) : Process :=
  { p with adaptorEngine := if g.adaptor then some engine else p.adaptorEngine }

/-- A new engine. -/
def Process.addEngine (engine : CryptoEngine) (p : Process) : Process :=
  { p with engines := (p.engines.alloc engine).2 }

/-- How the engine part of `SetupPolicyContext` ends. -/
inductive EngineOutcome (g : Globals) (env : SetupEnv) (conn : SCFConnectionImpl) (p : Process) :
    (Errno × SCFConnectionImpl) × Process → Prop
  | reused {e : ℕ} (h : conn.cryptoEngine = some e) :
      EngineOutcome g env conn p ((.success, conn), p.inject g e)
  | absent (h : conn.cryptoEngine = none) : EngineOutcome g env conn p ((.success, conn), p)
  | created {engine : CryptoEngine} (h : conn.cryptoEngine = none)
      (henv : env.engine = some engine) (hinit : env.engineInit = true) :
      EngineOutcome g env conn p
        ((if g.adaptor then .success else .invalidParam, { conn with
          cryptoEngine := some p.engines.size
          ownsCryptoEngine := true }), (p.addEngine engine).inject g p.engines.size)

/-- The library context of the adaptor's engine, behind the engine part. -/
def SCFConnectionImpl.libraryCtx (env : SetupEnv) (p : Process) (conn : SCFConnectionImpl) :
    Option Address :=
  match conn.cryptoEngine with
  | some e => (p.engines.read e).bind CryptoEngine.providerCtx
  | none =>
    match env.engine with
    | some engine => if env.engineInit then engine.providerCtx else p.providerCtx
    | none => p.providerCtx

theorem setupCryptoEngine_outcome (g : Globals) (env : SetupEnv) (conn : SCFConnectionImpl)
    (p : Process) : EngineOutcome g env conn p ((setupCryptoEngine g env conn).run p) := by
  unfold setupCryptoEngine
  cases hengine : conn.cryptoEngine with
  | some e =>
    have hout : EngineOutcome g env conn p _ := .reused hengine
    unfold Process.inject at hout
    cases hadaptor : g.adaptor with
    | false =>
      rw [hadaptor] at hout
      exact hout
    | true =>
      rw [hadaptor] at hout
      exact hout
  | none =>
    cases hfactory : env.engine with
    | none => exact .absent hengine
    | some engine =>
      cases hinit : env.engineInit with
      | false => exact .absent hengine
      | true =>
        have hout : EngineOutcome g env conn p _ := .created hengine hfactory hinit
        unfold Process.inject at hout
        cases hadaptor : g.adaptor with
        | false =>
          rw [hadaptor] at hout
          exact hout
        | true =>
          rw [hadaptor] at hout
          exact hout

theorem setupCryptoEngine_providerCtx {g : Globals} (hadaptor : g.adaptor = true) (env : SetupEnv)
    (conn : SCFConnectionImpl) (p : Process) :
    ((setupCryptoEngine g env conn).run p).2.providerCtx = conn.libraryCtx env p := by
  unfold setupCryptoEngine SCFConnectionImpl.libraryCtx
  rw [hadaptor]
  cases conn.cryptoEngine with
  | some e => rfl
  | none =>
    cases env.engine with
    | none => rfl
    | some engine =>
      cases env.engineInit with
      | false => rfl
      | true =>
        show ((p.engines.alloc engine).2.read (p.engines.alloc engine).1).bind _ = _
        rw [Heap.read_alloc, if_pos rfl]
        rfl

/-! ### The context of a connection -/

/-- The environment lets `SetupPolicyContext` succeed. -/
structure SetupOk (g : Globals) (env : SetupEnv) (conn : SCFConnectionImpl) (p : Process) :
    Prop where
  alloc : env.ctxAllocOk = true
  basic : BasicOk g env conn.config (conn.libraryCtx env p)
  keys : KeysOk g env conn.config
  noCallback : conn.config.appVerifyCb = none

/-- How `SetupPolicyContext` ends: without a context, or with a new one. -/
inductive SetupOutcome (g : Globals) (env : SetupEnv) (conn : SCFConnectionImpl) (p : Process) :
    (Errno × SCFConnectionImpl) × Process → Prop
  | noAdaptor {ret : Errno} {conn' : SCFConnectionImpl} {p' : Process} (hret : ret ≠ .success)
      (hnot : g.scfInitialized = false)
      (hengine : EngineOutcome g env conn p ((ret, conn'), p')) :
      SetupOutcome g env conn p ((ret, conn'), p')
  | noCtx {conn' : SCFConnectionImpl} {p' : Process}
      (hnot : ¬ (g.scfInitialized = true ∧ env.ctxAllocOk = true))
      (hengine : EngineOutcome g env conn p ((.success, conn'), p')) :
      SetupOutcome g env conn p ((.memAlloc, { conn' with policyCtx := none }), p')
  | withCtx {conn' : SCFConnectionImpl} {p' p'' : Process} {ret : Errno}
      (hinit : g.scfInitialized = true) (halloc : env.ctxAllocOk = true)
      (hengine : EngineOutcome g env conn p ((.success, conn'), p'))
      (hprovider : p'.providerCtx = conn.libraryCtx env p)
      (hctx : ConfigureOutcome g env conn.config p' (ret, p'')) :
      SetupOutcome g env conn p ((ret, { conn' with policyCtx := some p'.ctxs.size }), p'')

theorem newCtx_run (g : Globals) (allocOk : Bool) (p : Process) :
    ¬ (g.scfInitialized = true ∧ allocOk = true) ∧ (newCtx g allocOk).run p = (none, p) ∨
      (g.scfInitialized = true ∧ allocOk = true) ∧
        (newCtx g allocOk).run p = (some p.ctxs.size, p.addCtx newPolicyCtx) := by
  rw [newCtx, Resumption.run_critical]
  unfold scfCreatePolicyCtx
  cases hinit : g.scfInitialized with
  | false => exact .inl ⟨by simp, rfl⟩
  | true =>
    rw [g.adaptor_of_init hinit]
    cases allocOk with
    | false => exact .inl ⟨by simp, rfl⟩
    | true => exact .inr ⟨by simp, rfl⟩

/-- The engine part leaves the configuration of the connection alone. -/
theorem EngineOutcome.config {g : Globals} {env : SetupEnv} {conn conn' : SCFConnectionImpl}
    {p p' : Process} {ret : Errno} (h : EngineOutcome g env conn p ((ret, conn'), p')) :
    conn'.config = conn.config := by
  cases h with
  | reused h => rfl
  | absent h => rfl
  | created h henv hinit => rfl

theorem EngineOutcome.ret {g : Globals} {env : SetupEnv} {conn conn' : SCFConnectionImpl}
    {p p' : Process} {ret : Errno} (h : EngineOutcome g env conn p ((ret, conn'), p'))
    (hret : ret ≠ .success) : g.scfInitialized = false := by
  cases h with
  | reused h => exact absurd rfl hret
  | absent h => exact absurd rfl hret
  | created h henv hinit =>
    by_contra hg
    have hadaptor := g.adaptor_of_init (by simpa using hg)
    exact hret (if_pos hadaptor)

theorem setupPolicyContext_outcome (g : Globals) (env : SetupEnv) (conn : SCFConnectionImpl)
    (p : Process) : SetupOutcome g env conn p ((setupPolicyContext g env conn).run p) := by
  have hengine := setupCryptoEngine_outcome g env conn p
  have hprovider := fun h => setupCryptoEngine_providerCtx (g.adaptor_of_init h) env conn p
  unfold setupPolicyContext
  rw [Resumption.run_bind]
  generalize (setupCryptoEngine g env conn).run p = out at *
  obtain ⟨⟨ret, conn'⟩, p'⟩ := out
  dsimp only
  by_cases hret : ret = .success
  case neg =>
    rw [if_pos hret]
    exact .noAdaptor hret (hengine.ret hret) hengine
  subst hret
  rw [if_neg (not_not.mpr rfl), Resumption.run_bind]
  rcases newCtx_run g env.ctxAllocOk p' with ⟨hnot, hrun⟩ | ⟨hok, hrun⟩
  · rw [hrun]
    exact .noCtx hnot hengine
  · rw [hrun]
    dsimp only
    have hctx := configureCtx_outcome g env conn'.config p'
    rw [Resumption.run_bind]
    generalize (configureCtx g env conn'.config p'.ctxs.size).run (p'.addCtx newPolicyCtx) = out
      at *
    obtain ⟨ret, p''⟩ := out
    rw [hengine.config] at hctx
    exact .withCtx hok.1 hok.2 hengine (hprovider hok.1) hctx

/-- `SetupPolicyContext` succeeds exactly if the environment lets it. -/
theorem SetupOutcome.success_iff {g : Globals} {env : SetupEnv} {conn conn' : SCFConnectionImpl}
    {p p' : Process} {ret : Errno} (h : SetupOutcome g env conn p ((ret, conn'), p')) :
    ret = .success ↔ SetupOk g env conn p := by
  cases h with
  | noAdaptor hret hnot hengine =>
    exact iff_of_false hret fun h => absurd (hnot.symm.trans h.basic.init) (by decide)
  | noCtx hnot hengine => exact iff_of_false (by decide) fun h => hnot ⟨h.basic.init, h.alloc⟩
  | withCtx hinit halloc hengine hprovider hctx =>
    have hret : ret = .success ↔ BasicOk g env conn.config (conn.libraryCtx env p) ∧
        KeysOk g env conn.config ∧ conn.config.appVerifyCb = none := by
      rw [← hprovider]
      cases hctx with
      | plain hlookup hret hc hconf => exact hret
      | lookup hlookup hret hc hconf => exact hret
    exact hret.trans ⟨fun h => ⟨halloc, h.1, h.2.1, h.2.2⟩, fun h => ⟨h.basic, h.keys, h.noCallback⟩⟩

/-! ### The transport -/

/-- A new transport. -/
def Process.addTransport (transport : Transport) (p : Process) : Process :=
  { p with transports := (p.transports.alloc transport).2 }

/-- How a new transport is opened. -/
inductive TransportOutcome (env : ConnEnv) (opened : SCFConnectionState) (conn : SCFConnectionImpl)
    (p : Process) : (Errno × SCFConnectionImpl) × Process → Prop
  | notCreated (h : env.transportOk = false) :
      TransportOutcome env opened conn p ((.memAlloc, { conn with transport := none }), p)
  | notOpened (h : env.transportOk = true) (hopen : env.openOk = false) :
      TransportOutcome env opened conn p
        ((.secureTransport, { conn with transport := some p.transports.size }),
          p.addTransport .shut)
  | done (h : env.transportOk = true) (hopen : env.openOk = true) :
      TransportOutcome env opened conn p
        ((.success, { conn with transport := some p.transports.size, state := opened }),
          p.addTransport ⟨true, env.nativeHandle⟩)

theorem setupTransport_outcome (env : ConnEnv) (opened : SCFConnectionState)
    (conn : SCFConnectionImpl) (p : Process) :
    TransportOutcome env opened conn p ((setupTransport env opened conn).run p) := by
  unfold setupTransport
  cases hnew : env.transportOk with
  | false => exact .notCreated hnew
  | true =>
    cases hopen : env.openOk with
    | false => exact .notOpened hnew hopen
    | true =>
      have hset : ((p.transports.alloc .shut).2.modify p.transports.size fun _ =>
          ⟨true, env.nativeHandle⟩) = (p.transports.alloc ⟨true, env.nativeHandle⟩).2 :=
        Heap.modify_alloc _ _ _
      have hout : TransportOutcome env opened conn p _ := .done hnew hopen
      rw [Process.addTransport, ← hset] at hout
      exact hout

/-! ### The object -/

/-- A new object can be bound to the socket of its transport, or need not be. -/
def BindOk (env : SslEnv) (fd : Int32) (c : SCFPolicyCtx) : Prop :=
  fd < 0 ∨ c.role ≠ .none ∧ checkVersion c = true ∧ env.setExDataOk = true ∧ env.setFdOk = true

/-- The TLS connection of an object, if it has one, has not completed a handshake. -/
def Unshaken (o : SCFPolicyObj) : Prop := ∀ ssl, o.sslCtx = some ssl → ssl.initFinished = false

/-- A new object of a context, after the attempt to bind it to a socket. -/
structure Prepared (c : SCFPolicyCtx) (fd : Int32) (ret : Errno) (o : SCFPolicyObj) : Prop where
  unshaken : Unshaken o
  role : o.role = c.role
  ssl : ret = .success → ¬ fd < 0 → o.sslCtx ≠ none

theorem scfSetFd_new {g : Globals} (hinit : g.scfInitialized = true) {fd : Int32} (hfd : ¬ fd < 0)
    (env : SslEnv) (c : SCFPolicyCtx) (now : UInt64) :
    let out := scfSetFd g .valid fd env c (newPolicyObj c now)
    (out.1 = .success ↔ BindOk env fd c) ∧ ¬ out.1.Wants ∧ Prepared c fd out.1 out.2 := by
  have hnew : ∀ ret, ret ≠ .success → Prepared c fd ret (newPolicyObj c now) := fun _ hret =>
    ⟨nofun, rfl, fun h => absurd h hret⟩
  have hrole : (newPolicyObj c now).role = c.role := rfl
  unfold scfSetFd BindOk Errno.Wants
  rw [hinit, g.adaptor_of_init hinit, hrole]
  by_cases hnone : c.role = .none
  · simp [hnone, hfd, hnew]
  simp only [hnone, hfd, Bool.not_true, Bool.false_eq_true, if_false, reduceCtorEq, decide_false,
    Bool.or_self, false_or, ne_eq, not_false_eq_true, true_and]
  unfold adaptorSetFd sslForFd
  have hssl : (newPolicyObj c now).sslCtx = none := rfl
  rw [hssl]
  cases hversion : checkVersion c with
  | false => simp [hnew]
  | true =>
    cases hcfg : c.sslConfig with
    | none => simp [checkVersion, hcfg] at hversion
    | some cfg =>
      cases env.setExDataOk with
      | false => simp [hnew]
      | true =>
        cases env.setFdOk with
        | false => simp [hnew]
        | true =>
          refine ⟨by simp, by simp, fun ssl hssl => ?_, rfl, fun _ _ => Option.some_ne_none _⟩
          obtain rfl := Option.some.inj hssl
          rfl

/-- How `CreatePolicyObj` ends for a connection with a live context. -/
inductive ObjOutcome (g : Globals) (env : ConnEnv) (conn : SCFConnectionImpl) (ctx : ℕ)
    (c : SCFPolicyCtx) (p : Process) : (Errno × SCFConnectionImpl) × Process → Prop
  | notCreated (h : ¬ ObjOk g env.clock env.objAllocOk) :
      ObjOutcome g env conn ctx c p ((.memAlloc, { conn with policyObj := none }), p)
  | created {ret : Errno} {o : SCFPolicyObj} (h : ObjOk g env.clock env.objAllocOk)
      (hret : ret = .success ↔ BindOk env.ssl (p.nativeHandle conn.transport) c)
      (hwants : ¬ ret.Wants) (ho : Prepared c (p.nativeHandle conn.transport) ret o) :
      ObjOutcome g env conn ctx c p
        ((ret, { conn with policyObj := some p.objs.size }), p.bindObj ctx c o)

theorem read_bindObj (ctx : ℕ) (c : SCFPolicyCtx) (o : SCFPolicyObj) (p : Process) :
    (p.bindObj ctx c o).objs.read p.objs.size = some ⟨o, ctx⟩ := by
  show (p.objs.alloc ⟨o, ctx⟩).2.read p.objs.size = _
  rw [Heap.read_alloc, Heap.alloc_fst, if_pos rfl]

theorem createPolicyObj_outcome (g : Globals) (env : ConnEnv) {conn : SCFConnectionImpl} {ctx : ℕ}
    {c : SCFPolicyCtx} {p : Process} (hctx : conn.policyCtx = some ctx)
    (hread : p.ctxs.read ctx = some c) :
    ObjOutcome g env conn ctx c p ((createPolicyObj g env conn).run p) := by
  unfold createPolicyObj
  rw [hctx]
  dsimp only
  rw [Resumption.run_bind]
  rcases newObj_run g env.clock env.objAllocOk hread with ⟨hnot, hrun⟩ | ⟨hok, now, hrun⟩
  · have hout : ObjOutcome g env conn ctx c p _ := .notCreated hnot
    rw [hctx] at hout
    rw [hrun]
    exact hout
  rw [hrun]
  dsimp only
  rw [Resumption.run_bind, Resumption.run_load]
  have hfd : (p.bindObj ctx c (newPolicyObj c now)).nativeHandle conn.transport =
    p.nativeHandle conn.transport := rfl
  rw [hfd]
  by_cases hneg : p.nativeHandle conn.transport < 0
  · have hnew : Prepared c (p.nativeHandle conn.transport) .success (newPolicyObj c now) :=
      ⟨nofun, rfl, fun _ h => absurd hneg h⟩
    have hout : ObjOutcome g env conn ctx c p _ :=
      .created hok (iff_of_true rfl (.inl hneg)) (by decide) hnew
    rw [hctx] at hout
    rw [if_pos hneg]
    exact hout
  rw [if_neg hneg, Resumption.run_bind]
  have hread' : (p.bindObj ctx c (newPolicyObj c now)).ctxs.read ctx =
    some { c with refCnt := c.refCnt + 1 } := read_setCtx hread _
  obtain ⟨hret, hwants, ho⟩ := scfSetFd_new hok.1 hneg env.ssl c now
  -- the function on the object sees the context with the new reference, which it does not use
  have hset : ∀ o, scfSetFd g .valid (p.nativeHandle conn.transport) env.ssl
      { c with refCnt := c.refCnt + 1 } o =
      scfSetFd g .valid (p.nativeHandle conn.transport) env.ssl c o := fun _ => rfl
  have hwith : (withObj Errno.error p.objs.size fun c o =>
      scfSetFd g .valid (p.nativeHandle conn.transport) env.ssl c o).run
        (p.bindObj ctx c (newPolicyObj c now)) =
      ((scfSetFd g .valid (p.nativeHandle conn.transport) env.ssl c (newPolicyObj c now)).1,
        p.bindObj ctx c (scfSetFd g .valid (p.nativeHandle conn.transport) env.ssl c
          (newPolicyObj c now)).2) := by
    rw [withObj, Resumption.run_critical]
    simp only [read_bindObj, hread', hset]
    refine congrArg (Prod.mk _) ?_
    unfold Process.bindObj Process.addObj Process.setCtx
    dsimp only
    rw [Heap.modify_alloc]
  have hout : ObjOutcome g env conn ctx c p _ := .created hok hret hwants ho
  rw [hctx] at hout
  rw [hwith]
  exact hout

/-! ### The handshake -/

/-- What the life of a context and of its engine depends on. -/
def SCFPolicyCtx.essence (c : SCFPolicyCtx) : UInt32 × Option SslCtx := (c.refCnt, c.sslConfig)

/-- Only the state of one object changes, and nothing essential of contexts. -/
structure Quiet (obj : ℕ) (p p' : Process) : Prop where
  engines : p'.engines = p.engines
  adaptorEngine : p'.adaptorEngine = p.adaptorEngine
  transports : p'.transports = p.transports
  ctxSize : p'.ctxs.size = p.ctxs.size
  ctxs : ∀ i, (p'.ctxs.read i).map SCFPolicyCtx.essence = (p.ctxs.read i).map SCFPolicyCtx.essence
  objSize : p'.objs.size = p.objs.size
  objs : ∀ i, (p'.objs.read i).map BoundObj.policyCtx = (p.objs.read i).map BoundObj.policyCtx
  others : ∀ i, i ≠ obj → p'.objs.read i = p.objs.read i

theorem Quiet.refl (obj : ℕ) (p : Process) : Quiet obj p p :=
  ⟨rfl, rfl, rfl, rfl, fun _ => rfl, rfl, fun _ => rfl, fun _ _ => rfl⟩

theorem Quiet.trans {obj : ℕ} {p p' p'' : Process} (h : Quiet obj p p') (h' : Quiet obj p' p'') :
    Quiet obj p p'' where
  engines := h'.engines.trans h.engines
  adaptorEngine := h'.adaptorEngine.trans h.adaptorEngine
  transports := h'.transports.trans h.transports
  ctxSize := h'.ctxSize.trans h.ctxSize
  ctxs i := (h'.ctxs i).trans (h.ctxs i)
  objSize := h'.objSize.trans h.objSize
  objs i := (h'.objs i).trans (h.objs i)
  others i hi := (h'.others i hi).trans (h.others i hi)

/-- A call all of whose sections are quiet is quiet. -/
theorem quiet_run {ρ : Type} {obj : ℕ} {r : Resumption Process ρ} (h : r.Guarantees (Quiet obj))
    (p : Process) : Quiet obj p (r.run p).2 :=
  h.invariant (I := Quiet obj p) (fun _ _ hstep hp => hp.trans hstep) (.refl obj p)

/-- A change of the object behind a pointer that keeps its context. -/
theorem quiet_modify (obj : ℕ) (f : BoundObj → BoundObj) (hf : ∀ o, (f o).policyCtx = o.policyCtx)
    (ctx : ℕ) (f' : SCFPolicyCtx → SCFPolicyCtx) {p : Process}
    (hf' : ∀ c, p.ctxs.read ctx = some c → (f' c).essence = c.essence) :
    Quiet obj p { p with objs := p.objs.modify obj f, ctxs := p.ctxs.modify ctx f' } where
  engines := rfl
  adaptorEngine := rfl
  transports := rfl
  ctxSize := Heap.size_modify _ _ _
  ctxs i := by
    show ((p.ctxs.modify ctx f').read i).map _ = _
    rw [Heap.read_modify]
    split_ifs with hi
    · subst hi
      cases hread : p.ctxs.read ctx with
      | none => rfl
      | some c => exact congrArg some (hf' c hread)
    · rfl
  objSize := Heap.size_modify _ _ _
  objs i := by
    show ((p.objs.modify obj f).read i).map _ = _
    rw [Heap.read_modify]
    split_ifs
    · cases p.objs.read i with
      | none => rfl
      | some o => exact congrArg some (hf o)
    · rfl
  others i hi := by
    show (p.objs.modify obj f).read i = _
    rw [Heap.read_modify, if_neg (Ne.symm hi)]

theorem withObj_quiet {ρ : Type} (default : ρ) (obj : ℕ)
    (f : SCFPolicyCtx → SCFPolicyObj → ρ × SCFPolicyObj) :
    (withObj default obj f).Guarantees (Quiet obj) := by
  rw [withObj, Resumption.guarantees_critical]
  intro p
  cases p.objs.read obj with
  | none => exact .refl obj p
  | some o =>
    dsimp only
    cases p.ctxs.read o.policyCtx with
    | none => exact .refl obj p
    | some c =>
      have hsame : p.ctxs.modify o.policyCtx id = p.ctxs := Heap.modify_eq_self fun _ _ => rfl
      have hquiet := quiet_modify (p := p) obj (fun o => { o with obj := (f c o.obj).2 })
        (fun _ => rfl) o.policyCtx id fun _ _ => rfl
      rw [hsame] at hquiet
      exact hquiet

/-- A handshake may freeze the role map of the context. -/
theorem scfHandshake_essence (g : Globals) (handshake : SCFPolicyObj → Errno × SCFPolicyObj)
    (obj : ℕ) :
    (scfHandshake g handshake obj).Guarantees fun s s' => s'.ctx.essence = s.ctx.essence := by
  refine Resumption.Guarantees.monad_bind ?_ fun ret => ?_
  · rw [Resumption.guarantees_critical]
    intro s
    obtain ⟨-, heq⟩ | ⟨o, -, heq⟩ := handshakeSection_cases g handshake obj s
    · rw [heq]
    · rw [heq]
  · split_ifs
    · refine Resumption.Guarantees.monad_bind ?_ fun _ => trivial
      refine Resumption.Guarantees.zoom (G := fun c c' => c'.essence = c.essence)
        (fun _ _ h => h) ?_
      exact Resumption.guarantees_critical.mpr fun _ => rfl
    · trivial

theorem handshakeObj_quiet (g : Globals) (isServer : Bool) (obj : ℕ) (outcome : HandshakeOutcome) :
    (handshakeObj g isServer obj outcome).Guarantees (Quiet obj) := by
  unfold handshakeObj
  have hbody : (if isServer then scfAccept g obj outcome else
      scfConnect g obj outcome).Guarantees fun s s' => s'.ctx.essence = s.ctx.essence := by
    split_ifs <;> exact scfHandshake_essence g _ obj
  refine hbody.zoom ?_
  intro p s hs
  unfold Process.setShared
  cases hread : p.objs.read obj with
  | none => exact .refl obj p
  | some o =>
    refine quiet_modify obj (fun o => { o with obj := (s.objs obj).getD o.obj }) (fun _ => rfl)
      o.policyCtx (fun _ => s.ctx) fun c hc => ?_
    have hctx : (p.shared obj).ctx = c := by simp [Process.shared, hread, hc]
    rw [hs, hctx]

/-- The role that a handshake needs. -/
def handshakeRole (isServer : Bool) : SCFRole := if isServer then .server else .client

/-- What a handshake does to an object. -/
def handshakeOn (g : Globals) (isServer : Bool) (outcome : HandshakeOutcome) (o : SCFPolicyObj) :
    Errno × SCFPolicyObj :=
  if o.role = .none then (.nullInput, o)
  else if !g.scfInitialized then (.notInit, o)
  else adaptorHandshake (handshakeRole isServer) outcome o

/-- What a section of a handshake leaves of the object. -/
theorem read_setShared {obj : ℕ} {p : Process} {o : BoundObj} (hread : p.objs.read obj = some o)
    (s : Shared) :
    (p.setShared obj s).objs.read obj = some ⟨(s.objs obj).getD o.obj, o.policyCtx⟩ := by
  unfold Process.setShared
  simp only [hread]
  rw [Heap.read_modify, if_pos rfl, hread]
  rfl

theorem handshakeSection_shared (g : Globals) (isServer : Bool) {obj : ℕ}
    (outcome : HandshakeOutcome) {p : Process} {o : BoundObj} (hread : p.objs.read obj = some o) :
    let out := handshakeSection g (adaptorHandshake (handshakeRole isServer) outcome) obj
      (p.shared obj)
    out.1 = (handshakeOn g isServer outcome o.obj).1 ∧
      out.2.objs obj = some (handshakeOn g isServer outcome o.obj).2 := by
  have hobj : (p.shared obj).objs obj = some o.obj := by simp [Process.shared, hread]
  unfold handshakeSection handshakeOn
  simp only [hobj]
  by_cases hrole : o.obj.role = .none
  · rw [if_pos hrole, if_pos hrole]
    exact ⟨rfl, hobj⟩
  rw [if_neg hrole, if_neg hrole]
  cases hinit : g.scfInitialized with
  | false => exact ⟨rfl, hobj⟩
  | true =>
    rw [g.adaptor_of_init hinit]
    exact ⟨rfl, Function.update_self ..⟩

/-- The section on the object, and the one that freezes the role map. -/
theorem handshakeObj_run_eq (g : Globals) (isServer : Bool) (obj : ℕ) (outcome : HandshakeOutcome)
    (p : Process) :
    (handshakeObj g isServer obj outcome).run p =
      let out := handshakeSection g (adaptorHandshake (handshakeRole isServer) outcome) obj
        (p.shared obj)
      let p' := p.setShared obj out.2
      if out.1 = .success then
        (.success, p'.setShared obj
          ((p'.shared obj).setCtx { (p'.shared obj).ctx with nodeRoleMapFrozen := true }))
      else (out.1, p') := by
  have hbody : (if isServer then scfAccept g obj outcome else scfConnect g obj outcome) =
      scfHandshake g (adaptorHandshake (handshakeRole isServer) outcome) obj := by
    cases isServer <;> rfl
  unfold handshakeObj
  rw [hbody]
  dsimp only
  set out := handshakeSection g (adaptorHandshake (handshakeRole isServer) outcome) obj
    (p.shared obj)
  show (Resumption.zoom (Process.shared obj) (Process.setShared obj)
    (if out.1 = .success then _ else Resumption.done out.1)).run (p.setShared obj out.2) = _
  by_cases hok : out.1 = .success
  · rw [if_pos hok, if_pos hok]
    rfl
  · rw [if_neg hok, if_neg hok]
    rfl

/-- A handshake on a live object, by what it does to the object. -/
theorem handshakeObj_run (g : Globals) (isServer : Bool) {obj : ℕ} (outcome : HandshakeOutcome)
    {p : Process} {o : BoundObj} (hread : p.objs.read obj = some o) :
    ((handshakeObj g isServer obj outcome).run p).1 = (handshakeOn g isServer outcome o.obj).1 ∧
      ((handshakeObj g isServer obj outcome).run p).2.objs.read obj =
        some ⟨(handshakeOn g isServer outcome o.obj).2, o.policyCtx⟩ := by
  obtain ⟨hret, hobj⟩ := handshakeSection_shared g isServer outcome hread
  rw [handshakeObj_run_eq]
  generalize handshakeSection g (adaptorHandshake (handshakeRole isServer) outcome) obj
    (p.shared obj) = out at *
  have hread' : (p.setShared obj out.2).objs.read obj =
      some ⟨(handshakeOn g isServer outcome o.obj).2, o.policyCtx⟩ := by
    rw [read_setShared hread, hobj]
    rfl
  dsimp only
  by_cases hok : out.1 = .success
  · rw [if_pos hok, ← hret]
    refine ⟨hok.symm, ?_⟩
    rw [read_setShared hread']
    have hshared : ((p.setShared obj out.2).shared obj).objs obj =
        some (handshakeOn g isServer outcome o.obj).2 := by simp [Process.shared, hread']
    show some (⟨(((p.setShared obj out.2).shared obj).objs obj).getD _, _⟩ : BoundObj) = _
    rw [hshared]
    rfl
  · rw [if_neg hok]
    exact ⟨hret, hread'⟩

theorem handshakeObj_dangling (g : Globals) (isServer : Bool) {obj : ℕ}
    (outcome : HandshakeOutcome) {p : Process} (hread : p.objs.read obj = none) :
    (handshakeObj g isServer obj outcome).run p = (.nullInput, p) := by
  have hsection : handshakeSection g (adaptorHandshake (handshakeRole isServer) outcome) obj
      (p.shared obj) = (.nullInput, p.shared obj) := by
    simp [handshakeSection, Process.shared, hread]
  have hset : ∀ s, p.setShared obj s = p := by
    intro s
    simp [Process.setShared, hread]
  rw [handshakeObj_run_eq, hsection]
  exact congrArg (Prod.mk _) (hset _)

/-- The connection after a handshake on its object with this code and version. -/
def SCFConnectionImpl.shaken (ret : Errno) (version : String) (conn : SCFConnectionImpl) :
    SCFConnectionImpl :=
  if ret = .success then
    { conn with handshakeDone := true, state := .connected, negotiatedVersion := version }
  else if ret.Wants then { conn with state := .connecting }
  else { conn with state := .error }

/-- How `HandshakeStep` ends. -/
inductive HandshakeStepOutcome (g : Globals) (env : ConnEnv) (conn : SCFConnectionImpl)
    (p : Process) : (Errno × SCFConnectionImpl) × Process → Prop
  | noObj (h : conn.policyObj = none) : HandshakeStepOutcome g env conn p ((.nullInput, conn), p)
  -- a call through a dangling pointer, which has no meaning
  | dangling {obj : ℕ} {version : String} (h : conn.policyObj = some obj)
      (hread : p.objs.read obj = none) :
      HandshakeStepOutcome g env conn p ((.nullInput, conn.shaken .nullInput version), p)
  | done {obj : ℕ} {o : BoundObj} {version : String} {p' : Process}
      (h : conn.policyObj = some obj) (hread : p.objs.read obj = some o) (hp : Quiet obj p p')
      (hread' : p'.objs.read obj =
        some ⟨(handshakeOn g conn.isServer env.handshake o.obj).2, o.policyCtx⟩) :
      HandshakeStepOutcome g env conn p
        (((handshakeOn g conn.isServer env.handshake o.obj).1,
          conn.shaken (handshakeOn g conn.isServer env.handshake o.obj).1 version), p')

/-- `HandshakeStep` behind the handshake itself, with the version that is reported after it. -/
theorem handshakeStep_run_eq (g : Globals) (env : ConnEnv) {conn : SCFConnectionImpl} {obj : ℕ}
    (h : conn.policyObj = some obj) (p : Process) :
    (handshakeStep g env conn).run p =
      let out := (handshakeObj g conn.isServer obj env.handshake).run p
      let ver := ((withObj none obj fun _ o => (scfGetProtocolVersion g o, o)).run out.2).1
      ((out.1, conn.shaken out.1 (ver.getD conn.negotiatedVersion)), out.2) := by
  have hstep : handshakeStep g env conn =
      (handshakeObj g conn.isServer obj env.handshake).bind fun ret =>
        if ret = .success then
          (withObj none obj fun _ o => (scfGetProtocolVersion g o, o)).bind fun ver =>
            .done (ret, { conn with
              handshakeDone := true
              state := .connected
              negotiatedVersion := ver.getD conn.negotiatedVersion })
        else if ret = .sslWantRead || ret = .sslWantWrite then
          .done (ret, { conn with state := .connecting })
        else .done (ret, { conn with state := .error }) := by
    unfold handshakeStep
    rw [h]
  rw [hstep, Resumption.run_bind]
  generalize (handshakeObj g conn.isServer obj env.handshake).run p = out
  obtain ⟨ret, p'⟩ := out
  dsimp only
  unfold SCFConnectionImpl.shaken
  by_cases hret : ret = .success
  · rw [if_pos hret, if_pos hret, Resumption.run_bind, withObj_run_of_read]
    rfl
  · rw [if_neg hret, if_neg hret]
    by_cases hwants : ret.Wants
    · rw [if_pos hwants, if_pos (by simpa [Errno.Wants] using hwants)]
      rfl
    · rw [if_neg hwants, if_neg (by simpa [Errno.Wants] using hwants)]
      rfl

theorem handshakeStep_run (g : Globals) (env : ConnEnv) {conn : SCFConnectionImpl} {obj : ℕ}
    (h : conn.policyObj = some obj) (p : Process) :
    ∃ version, (handshakeStep g env conn).run p =
      let out := (handshakeObj g conn.isServer obj env.handshake).run p
      ((out.1, conn.shaken out.1 version), out.2) :=
  ⟨_, handshakeStep_run_eq g env h p⟩

theorem handshakeStep_outcome (g : Globals) (env : ConnEnv) (conn : SCFConnectionImpl)
    (p : Process) : HandshakeStepOutcome g env conn p ((handshakeStep g env conn).run p) := by
  cases hobj : conn.policyObj with
  | none =>
    have hrun : (handshakeStep g env conn).run p = ((.nullInput, conn), p) := by
      unfold handshakeStep
      rw [hobj]
      rfl
    rw [hrun]
    exact .noObj hobj
  | some obj =>
    obtain ⟨version, hrun⟩ := handshakeStep_run g env hobj p
    rw [hrun]
    cases hread : p.objs.read obj with
    | none =>
      rw [handshakeObj_dangling g conn.isServer env.handshake hread]
      exact .dangling hobj hread
    | some o =>
      obtain ⟨hret, hread'⟩ := handshakeObj_run g conn.isServer env.handshake hread
      have hp := quiet_run (handshakeObj_quiet g conn.isServer obj env.handshake) p
      generalize (handshakeObj g conn.isServer obj env.handshake).run p = out at *
      obtain ⟨ret, p'⟩ := out
      dsimp only at hret hread' hp ⊢
      rw [hret]
      exact .done hobj hread hp hread'

end Scf
