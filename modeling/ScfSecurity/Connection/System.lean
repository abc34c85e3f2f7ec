import ScfSecurity.Connection.Impl

/-!
# Runs of connections

Any number of connections in one process, created, opened, used, closed and destroyed in
any order. Contexts appear only inside connections here, and what connections do to them is
little; `CtxInvariant` lists it, so that a property of contexts is proved for all runs by
going through this list.

## Main definitions

- `System`, `ConnCall`, `connectionMachine`: the connections of a process and their runs
- `CtxInvariant`: the properties of contexts that nothing a connection does can destroy

## Main results

- `connectionMachine_ctxs`: such a property holds of every context in every run
-/

namespace Scf

open Automaton

/-- `SCFConnectionImpl::Write`: the result and the value stored in `*writeLen`. -/
def connectionWrite (call : WriteCall) (conn : SCFConnectionImpl) :
    Resumption Process (Errno × Option UInt32) :=
  match conn.policyObj with
  | none => .done (.invalidParam, none)
  | some obj =>
    if conn.state ≠ .connected then .done (.invalidParam, none)
    else
      withObj (.error, none) obj fun c o =>
        let (ret, writeLen, o) := scfWrite { call with objPtr := .valid } c o
        ((ret, writeLen), o)

/-- `SCFConnectionImpl::TriggerKeyUpdate`. -/
def triggerKeyUpdate (g : Globals) (env : KeyUpdateEnv) (conn : SCFConnectionImpl) :
    Resumption Process Errno :=
  match conn.policyObj with
  | none => .done .nullInput
  | some obj => withObj Errno.error obj fun _ o => scfObjKeyUpdate g .valid env o

def scfSetUserData (g : Globals) (userData : Option Address) (obj : SCFPolicyObj) :
    Errno × SCFPolicyObj :=
  if userData = none then (.nullInput, obj)
  else if !g.scfInitialized then (.notInit, obj)
  else (.success, { obj with userData })

/-- `SCFConnectionImpl::SetUserData`; the result of `SCF_SetUserData` is ignored. -/
def setUserData (g : Globals) (userData : Option Address) (conn : SCFConnectionImpl) :
    Resumption Process SCFConnectionImpl :=
  (forPtr conn.policyObj fun obj =>
    (withObj Errno.error obj fun _ o => scfSetUserData g userData o).bind fun _ => .done ()).bind
    fun _ => .done { conn with userData }

/-- The connections of a process. -/
structure System where
  process : Process := {}
  conns : Heap SCFConnectionImpl := {}

/-- The calls on connections, with what the environment answers. -/
inductive ConnCall where
  | create (config : SCFConnectionConfig) (allocOk : Bool)
  | connect (conn : ℕ) (env : ConnEnv)
  | listen (conn : ℕ) (env : ConnEnv)
  | accept (conn : ℕ) (env : ConnEnv)
  | handshakeStep (conn : ℕ) (env : ConnEnv)
  | write (conn : ℕ) (call : WriteCall)
  | triggerKeyUpdate (conn : ℕ) (env : KeyUpdateEnv)
  | setUserData (conn : ℕ) (userData : Option Address)
  | close (conn : ℕ) (env : ConnEnv)
  | destroy (conn : ℕ) (env : ConnEnv)

/-- `SCF_NewPSKConnection`. -/
def ConnCall.newPSKConnection (securityLevel : SCFSecurityLevel) (role : SCFRole)
    (pskIdentity : StdString) (pskKey : List UInt8) (allocOk : Bool) : ConnCall :=
  .create (pskConnectionConfig securityLevel role pskIdentity pskKey) allocOk

/-- What a call returns: its code, if it has one, and the pointer to a new connection. -/
abbrev ConnAnswer := Option Errno × Option ℕ

/-- Run a function on one connection. Nothing happens if there is no such connection. -/
def System.onConn (i : ℕ) (s : System)
    (f : SCFConnectionImpl → Resumption Process (ConnAnswer × SCFConnectionImpl)) :
    ConnAnswer × System :=
  match s.conns.read i with
  | none => ((none, none), s)
  | some conn =>
    let ((answer, conn), process) := (f conn).run s.process
    (answer, ⟨process, s.conns.modify i fun _ => conn⟩)

/-- The answer of a function that returns a code. -/
def returning (r : Resumption Process (Errno × SCFConnectionImpl)) :
    Resumption Process (ConnAnswer × SCFConnectionImpl) :=
  r.bind fun (ret, conn) => .done ((some ret, none), conn)

/-- Put a new connection into the memory. -/
def System.addConn (conn : Option SCFConnectionImpl) (s : System) : ConnAnswer × System :=
  match conn with
  | none => ((none, none), s)
  | some conn =>
    ((none, some (s.conns.alloc conn).1), { s with conns := (s.conns.alloc conn).2 })

/-- Accept on a listening connection. -/
def System.acceptOn (i : ℕ) (g : Globals) (env : ConnEnv) (s : System) : ConnAnswer × System :=
  match s.conns.read i with
  | none => ((none, none), s)
  | some conn =>
    let (child, process) := (accept g env conn).run s.process
    { s with process }.addConn child

/-- Delete a connection, which runs its destructor. -/
def System.deleteConn (i : ℕ) (g : Globals) (env : ConnEnv) (s : System) : ConnAnswer × System :=
  match s.conns.read i with
  | none => ((none, none), s)
  | some conn => ((none, none), ⟨((cleanup g env conn).run s.process).2, s.conns.free i⟩)

def ConnCall.apply (g : Globals) (s : System) : ConnCall → ConnAnswer × System
  | create config allocOk => s.addConn (if allocOk then some (newConnection config) else none)
  | connect i env => s.onConn i fun conn => returning (Scf.connect g env conn)
  | listen i env => s.onConn i fun conn => returning (Scf.listen g env conn)
  | accept i env => s.acceptOn i g env
  | handshakeStep i env => s.onConn i fun conn => returning (Scf.handshakeStep g env conn)
  | write i call => s.onConn i fun conn =>
    (connectionWrite call conn).bind fun (ret, _) => .done ((some ret, none), conn)
  | triggerKeyUpdate i env => s.onConn i fun conn =>
    (Scf.triggerKeyUpdate g env conn).bind fun ret => .done ((some ret, none), conn)
  | setUserData i userData => s.onConn i fun conn =>
    (Scf.setUserData g userData conn).bind fun conn => .done ((none, none), conn)
  | close i env => s.onConn i fun conn => returning (Scf.close g env conn)
  | destroy i env => s.deleteConn i g env

/-- The runs of all connections of a process. The library may be initialised or not at each
call. -/
def connectionMachine : Machine System (Globals × ConnCall) ConnAnswer where
  initial s := s = {}
  step s call := call.2.apply call.1 s

/-- A property of contexts that holds of a new one and that nothing a connection does to its
contexts destroys. -/
structure CtxInvariant (I : SCFPolicyCtx → Prop) : Prop where
  new : I newPolicyCtx
  setPolicy : ∀ {g role verifyMode policyMode env ctx}, I ctx →
    I (scfSetPolicy g .valid role verifyMode policyMode env ctx).2
  setting : ∀ {ctx ctx'}, SettingStep ctx ctx' → I ctx → I ctx'
  refCnt : ∀ {ctx} n, I ctx → I { ctx with refCnt := n }
  freeze : ∀ {ctx}, I ctx → I { ctx with nodeRoleMapFrozen := true }

/-- The property holds of all contexts afterwards if it does before. -/
def Keeps (I : SCFPolicyCtx → Prop) (p p' : Process) : Prop := p.ctxs.All I → p'.ctxs.All I

section Keeps

variable {I : SCFPolicyCtx → Prop}

/-- A call of the policy interface that keeps the property of its context. -/
theorem withCtx_keeps {f : SCFPolicyCtx → Errno × SCFPolicyCtx} (ctx : ℕ)
    (hf : ∀ c, I c → I (f c).2) : (withCtx ctx f).Guarantees (Keeps I) := by
  rw [withCtx, Resumption.guarantees_critical]
  intro p hall
  cases hread : p.ctxs.read ctx with
  | none => exact hall
  | some c => exact hall.modify fun _ _ _ => hf c (hall ctx c hread)

theorem withObj_keeps {ρ : Type} (r : ρ) (obj : ℕ)
    (f : SCFPolicyCtx → SCFPolicyObj → ρ × SCFPolicyObj) :
    (withObj r obj f).Guarantees (Keeps I) := by
  rw [withObj, Resumption.guarantees_critical]
  intro p
  cases p.objs.read obj with
  | none => exact id
  | some o =>
    dsimp only
    cases p.ctxs.read o.policyCtx <;> exact id

theorem andThen_keeps {p q : Resumption Process Errno} (hp : p.Guarantees (Keeps I))
    (hq : q.Guarantees (Keeps I)) : (andThen p q).Guarantees (Keeps I) := by
  refine hp.bind fun ret => ?_
  split_ifs
  · trivial
  · exact hq

/-- A section that does not touch the contexts. -/
theorem critical_keeps {ρ : Type} {f : Process → ρ × Process}
    (hf : ∀ p, (f p).2.ctxs = p.ctxs) : (Resumption.critical f).Guarantees (Keeps I) := by
  rw [Resumption.guarantees_critical]
  intro p hall
  rw [hf p]
  exact hall

theorem forPtr_keeps {f : ℕ → Resumption Process Unit} (hf : ∀ i, (f i).Guarantees (Keeps I))
    (ptr : Option ℕ) : (forPtr ptr f).Guarantees (Keeps I) := by
  cases ptr with
  | none => trivial
  | some i => exact hf i

theorem setupCryptoEngine_keeps (g : Globals) (env : SetupEnv) (conn : SCFConnectionImpl) :
    (setupCryptoEngine g env conn).Guarantees (Keeps I) := by
  unfold setupCryptoEngine
  have hset : ∀ engine, (setCryptoEngine engine).Guarantees (Keeps I) := fun _ =>
    critical_keeps fun _ => rfl
  cases conn.cryptoEngine with
  | some engine =>
    dsimp only
    split_ifs
    · exact (hset _).bind fun _ => trivial
    · trivial
  | none =>
    cases env.engine with
    | none => trivial
    | some engine =>
      dsimp only
      split_ifs
      · trivial
      · refine Resumption.Guarantees.bind (critical_keeps fun _ => rfl) fun e => ?_
        trivial
      · refine Resumption.Guarantees.bind (critical_keeps fun _ => rfl) fun e => ?_
        exact (hset _).bind fun _ => trivial

theorem setupTransport_keeps (env : ConnEnv) (opened : SCFConnectionState)
    (conn : SCFConnectionImpl) : (setupTransport env opened conn).Guarantees (Keeps I) := by
  unfold setupTransport
  split_ifs
  · trivial
  · refine Resumption.Guarantees.bind (critical_keeps fun _ => rfl) fun t => ?_
    trivial
  · refine Resumption.Guarantees.bind (critical_keeps fun _ => rfl) fun t => ?_
    exact Resumption.Guarantees.bind (critical_keeps fun _ => rfl) fun _ => trivial

theorem close_keeps (g : Globals) (env : ConnEnv) (conn : SCFConnectionImpl) :
    (close g env conn).Guarantees (Keeps I) := by
  unfold close
  split_ifs
  · trivial
  · dsimp only
    refine Resumption.Guarantees.bind ?_ fun ret => ?_
    · cases conn.policyObj with
      | none => trivial
      | some obj => exact withObj_keeps _ obj _
    · refine (forPtr_keeps (fun t => ?_) conn.transport).bind fun _ => trivial
      exact critical_keeps fun _ => rfl

theorem connectionWrite_keeps (call : WriteCall) (conn : SCFConnectionImpl) :
    (connectionWrite call conn).Guarantees (Keeps I) := by
  unfold connectionWrite
  cases conn.policyObj with
  | none => trivial
  | some obj =>
    dsimp only
    split_ifs
    · trivial
    · exact withObj_keeps _ obj _

theorem triggerKeyUpdate_keeps (g : Globals) (env : KeyUpdateEnv) (conn : SCFConnectionImpl) :
    (triggerKeyUpdate g env conn).Guarantees (Keeps I) := by
  unfold triggerKeyUpdate
  cases conn.policyObj with
  | none => trivial
  | some obj => exact withObj_keeps _ obj _

theorem setUserData_keeps (g : Globals) (userData : Option Address) (conn : SCFConnectionImpl) :
    (setUserData g userData conn).Guarantees (Keeps I) := by
  refine Resumption.Guarantees.bind (forPtr_keeps (fun obj => ?_) _) fun _ => trivial
  exact (withObj_keeps _ obj _).bind fun _ => trivial

theorem returning_keeps {r : Resumption Process (Errno × SCFConnectionImpl)}
    (hr : r.Guarantees (Keeps I)) : (returning r).Guarantees (Keeps I) :=
  hr.bind fun _ => trivial

/-- A function on a connection that keeps the property, as a call of the system. -/
theorem onConn_keeps {i : ℕ} {s : System}
    {f : SCFConnectionImpl → Resumption Process (ConnAnswer × SCFConnectionImpl)}
    (hf : ∀ conn, (f conn).Guarantees (Keeps I)) (hall : s.process.ctxs.All I) :
    (s.onConn i f).2.process.ctxs.All I := by
  unfold System.onConn
  cases s.conns.read i with
  | none => exact hall
  | some conn => exact (hf conn).invariant (fun _ _ h => h) hall

theorem addConn_process (conn : Option SCFConnectionImpl) (s : System) :
    (s.addConn conn).2.process = s.process := by
  cases conn <;> rfl

variable (hI : CtxInvariant I)

include hI

theorem newCtx_keeps (g : Globals) (allocOk : Bool) :
    (newCtx g allocOk).Guarantees (Keeps I) := by
  rw [newCtx, Resumption.guarantees_critical]
  intro p hall
  cases hctx : scfCreatePolicyCtx g allocOk with
  | none => exact hall
  | some ctx =>
    obtain rfl := eq_newPolicyCtx hctx
    exact hall.alloc hI.new

theorem releaseCtx_keeps (ctx : ℕ) (p : Process) : Keeps I p (p.releaseCtx ctx) := by
  intro hall
  unfold Process.releaseCtx
  cases p.ctxs.read ctx with
  | none => exact hall
  | some c =>
    dsimp only
    split_ifs
    · exact hall
    · exact hall.modify fun _ _ h => hI.refCnt _ h
    · exact hall.free ctx

theorem freePolicyCtx_keeps (g : Globals) (ctx : ℕ) :
    (freePolicyCtx g ctx).Guarantees (Keeps I) := by
  rw [freePolicyCtx, Resumption.guarantees_critical]
  intro p
  split_ifs
  · exact id
  · exact releaseCtx_keeps hI ctx p

theorem freePolicyObj_keeps (g : Globals) (obj : ℕ) :
    (freePolicyObj g obj).Guarantees (Keeps I) := by
  rw [freePolicyObj, Resumption.guarantees_critical]
  intro p
  split_ifs
  · exact id
  · cases p.objs.read obj with
    | none => exact id
    | some o => exact releaseCtx_keeps hI o.policyCtx p

theorem newObj_keeps (g : Globals) (ctx : ℕ) (clock : Option UInt64) (allocOk : Bool) :
    (newObj g ctx clock allocOk).Guarantees (Keeps I) := by
  rw [newObj, Resumption.guarantees_critical]
  intro p hall
  cases hread : p.ctxs.read ctx with
  | none => exact hall
  | some c =>
    rcases hnew : scfCreatePolicyObj g .valid clock allocOk c with ⟨_ | obj, c'⟩
    · simpa [hnew] using hall
    · obtain ⟨now, -, -, rfl⟩ := scfCreatePolicyObj_some hnew
      simp only [hnew]
      exact hall.modify fun a ha h => hI.refCnt _ (hall ctx c hread)

/-- A handshake may freeze the role map, and changes nothing else of a context. -/
theorem scfHandshake_ctx (g : Globals) (handshake : SCFPolicyObj → Errno × SCFPolicyObj)
    (obj : ℕ) :
    (scfHandshake g handshake obj).Guarantees fun s s' => I s.ctx → I s'.ctx := by
  refine Resumption.Guarantees.monad_bind ?_ fun ret => ?_
  · rw [Resumption.guarantees_critical]
    intro s
    obtain ⟨-, heq⟩ | ⟨o, -, heq⟩ := handshakeSection_cases g handshake obj s
    · rw [heq]
      exact id
    · rw [heq]
      exact id
  · split_ifs
    · refine Resumption.Guarantees.monad_bind ?_ fun _ => trivial
      refine Resumption.Guarantees.zoom (G := fun ctx ctx' => I ctx → I ctx') (fun _ _ h => h) ?_
      exact Resumption.guarantees_critical.mpr fun _ => hI.freeze
    · trivial

theorem handshakeObj_keeps (g : Globals) (isServer : Bool) (obj : ℕ)
    (outcome : HandshakeOutcome) : (handshakeObj g isServer obj outcome).Guarantees (Keeps I) := by
  unfold handshakeObj
  have hbody : (if isServer then scfAccept g obj outcome else
      scfConnect g obj outcome).Guarantees fun s s' => I s.ctx → I s'.ctx := by
    split_ifs <;> exact scfHandshake_ctx hI g _ obj
  refine hbody.zoom ?_
  -- what the handshake leaves of the context goes back to the same pointer
  intro p s hs hall
  unfold Process.setShared
  cases hread : p.objs.read obj with
  | none => exact hall
  | some o =>
    refine hall.modify fun c hc h => hs ?_
    have hctx : (p.shared obj).ctx = c := by simp [Process.shared, hread, hc]
    rwa [hctx]

theorem setupPSK_keeps (g : Globals) (env : PskEnv) (config : SCFConnectionConfig) (ctx : ℕ) :
    (setupPSK g env config ctx).Guarantees (Keeps I) := by
  unfold setupPSK
  cases pskSession g env config.pskKey with
  | error ret => trivial
  | ok sess =>
    dsimp only
    split_ifs
    · trivial
    · refine (newObj_keeps hI g ctx _ _).bind fun obj => ?_
      cases obj with
      | none => trivial
      | some obj => exact (withObj_keeps _ obj _).bind fun _ => trivial

theorem setupPolicy_keeps (g : Globals) (env : SetupEnv) (config : SCFConnectionConfig) (ctx : ℕ) :
    (setupPolicy g env config ctx).Guarantees (Keeps I) := by
  refine Resumption.Guarantees.bind ?_ fun providerCtx => ?_
  · exact critical_keeps fun _ => rfl
  · exact withCtx_keeps ctx fun _ => hI.setPolicy

/-- Every step of the configuration keeps the property. -/
theorem configureCtx_keeps (g : Globals) (env : SetupEnv) (config : SCFConnectionConfig)
    (ctx : ℕ) : (configureCtx g env config ctx).Guarantees (Keeps I) := by
  refine andThen_keeps (setupPolicy_keeps hI g env config ctx) <|
    andThen_keeps ?groups <| andThen_keeps ?version <| andThen_keeps ?suites <|
    andThen_keeps ?auth <| andThen_keeps ?verify ?update
  case groups =>
    unfold setupGroups
    dsimp only
    split_ifs
    · trivial
    · refine Resumption.Guarantees.bind ?_ fun _ => trivial
      exact withCtx_keeps ctx fun c => hI.setting (setKeyExchangeGroups_step _ _ c)
  case version =>
    exact withCtx_keeps ctx fun c => hI.setting (scfSetProtocolVersion_step _ _ _ _ _ _ _ c)
  case suites =>
    unfold setupCipherSuites
    dsimp only
    split_ifs
    · trivial
    · exact withCtx_keeps ctx fun c => hI.setting (scfSetCipherSuites_step _ _ _ _ _ c)
  case auth =>
    split_ifs
    · exact setupPSK_keeps hI g env.psk config ctx
    · trivial
  case verify =>
    unfold setupAppVerify
    cases config.appVerifyCb with
    | none => trivial
    | some cb =>
      exact withCtx_keeps ctx fun c => hI.setting (scfSetAppVerifyCallback_step _ _ _ _ c)
  case update =>
    unfold setupKeyAutoUpdate
    split_ifs
    · refine Resumption.Guarantees.bind ?_ fun _ => trivial
      exact withCtx_keeps ctx fun c => hI.setting (scfSetKeyAutoUpdateParam_step _ _ _ _ _ c)
    · trivial

theorem setupPolicyContext_keeps (g : Globals) (env : SetupEnv) (conn : SCFConnectionImpl) :
    (setupPolicyContext g env conn).Guarantees (Keeps I) := by
  refine (setupCryptoEngine_keeps g env conn).bind fun ⟨ret, conn⟩ => ?_
  dsimp only
  split_ifs
  · trivial
  · refine (newCtx_keeps hI g _).bind fun ctx => ?_
    cases ctx with
    | none => trivial
    | some ctx =>
      exact (configureCtx_keeps hI g env conn.config ctx).bind fun _ => trivial

theorem createPolicyObj_keeps (g : Globals) (env : ConnEnv) (conn : SCFConnectionImpl) :
    (createPolicyObj g env conn).Guarantees (Keeps I) := by
  unfold createPolicyObj
  cases conn.policyCtx with
  | none => trivial
  | some ctx =>
    refine (newObj_keeps hI g ctx _ _).bind fun obj => ?_
    cases obj with
    | none => trivial
    | some obj =>
      refine Resumption.Guarantees.bind (critical_keeps fun _ => rfl) fun fd => ?_
      split_ifs
      · trivial
      · exact (withObj_keeps _ obj _).bind fun _ => trivial

theorem handshakeStep_keeps (g : Globals) (env : ConnEnv) (conn : SCFConnectionImpl) :
    (handshakeStep g env conn).Guarantees (Keeps I) := by
  unfold handshakeStep
  cases conn.policyObj with
  | none => trivial
  | some obj =>
    refine (handshakeObj_keeps hI g conn.isServer obj env.handshake).bind fun ret => ?_
    split_ifs
    · exact (withObj_keeps _ obj _).bind fun _ => trivial
    · trivial
    · trivial

theorem cleanup_keeps (g : Globals) (env : ConnEnv) (conn : SCFConnectionImpl) :
    (cleanup g env conn).Guarantees (Keeps I) := by
  refine Resumption.Guarantees.bind ?_ fun ⟨_, conn⟩ => ?_
  · split_ifs
    · exact close_keeps g env conn
    · trivial
  refine (forPtr_keeps (fun obj => freePolicyObj_keeps hI g obj) _).bind fun _ => ?_
  refine (forPtr_keeps (fun ctx => freePolicyCtx_keeps hI g ctx) _).bind fun _ => ?_
  refine (forPtr_keeps (fun t => critical_keeps fun _ => rfl) _).bind fun _ => ?_
  dsimp only
  cases conn.cryptoEngine with
  | none => trivial
  | some e =>
    dsimp only
    split
    · refine Resumption.Guarantees.bind ?_ fun _ => ?_
      · split_ifs
        · exact critical_keeps fun _ => rfl
        · trivial
      · exact Resumption.Guarantees.bind (critical_keeps fun _ => rfl) fun _ => trivial
    · trivial

theorem connect_keeps (g : Globals) (env : ConnEnv) (conn : SCFConnectionImpl) :
    (connect g env conn).Guarantees (Keeps I) := by
  have habandon : ∀ ret conn, (abandon g env ret conn).Guarantees (Keeps I) := fun _ _ =>
    (cleanup_keeps hI g env _).bind fun _ => trivial
  refine (setupPolicyContext_keeps hI g env.setup conn).bind fun ⟨ret, conn⟩ => ?_
  dsimp only
  split_ifs
  · trivial
  refine (setupTransport_keeps env _ conn).bind fun ⟨ret, conn⟩ => ?_
  dsimp only
  split_ifs
  · exact habandon ret conn
  refine (createPolicyObj_keeps hI g env conn).bind fun ⟨ret, conn⟩ => ?_
  dsimp only
  split_ifs
  · exact habandon ret conn
  · exact handshakeStep_keeps hI g env conn

theorem listen_keeps (g : Globals) (env : ConnEnv) (conn : SCFConnectionImpl) :
    (listen g env conn).Guarantees (Keeps I) := by
  refine (setupPolicyContext_keeps hI g env.setup conn).bind fun ⟨ret, conn⟩ => ?_
  dsimp only
  split_ifs
  · trivial
  refine (setupTransport_keeps env _ conn).bind fun ⟨ret, conn⟩ => ?_
  dsimp only
  split_ifs <;> trivial

theorem acceptOn_keeps (g : Globals) (env : ConnEnv) (conn : SCFConnectionImpl) :
    (acceptOn g env conn).Guarantees (Keeps I) := by
  have hdiscard : ∀ conn, (discard g env conn).Guarantees (Keeps I) := fun conn =>
    (cleanup_keeps hI g env conn).bind fun _ => trivial
  refine (setupPolicyContext_keeps hI g env.setup conn).bind fun ⟨ret, conn⟩ => ?_
  dsimp only
  split_ifs
  · exact hdiscard conn
  refine (createPolicyObj_keeps hI g env conn).bind fun ⟨ret, conn⟩ => ?_
  dsimp only
  split_ifs
  · exact hdiscard conn
  refine (handshakeStep_keeps hI g env conn).bind fun ⟨ret, conn⟩ => ?_
  dsimp only
  split_ifs
  · trivial
  · exact hdiscard conn
  · trivial

theorem accept_keeps (g : Globals) (env : ConnEnv) (conn : SCFConnectionImpl) :
    (accept g env conn).Guarantees (Keeps I) := by
  unfold accept
  split
  · trivial
  split
  · trivial
  refine Resumption.Guarantees.bind (critical_keeps fun _ => rfl) fun t => ?_
  split
  · exact Resumption.Guarantees.bind (critical_keeps fun _ => rfl) fun _ => trivial
  refine Resumption.Guarantees.bind ?_ fun _ => acceptOn_keeps hI g env _
  split_ifs
  · exact critical_keeps fun _ => rfl
  · trivial

theorem connCall_keeps (g : Globals) (call : ConnCall) {s : System}
    (hall : s.process.ctxs.All I) : (call.apply g s).2.process.ctxs.All I := by
  cases call with
  | create config allocOk =>
    show (s.addConn _).2.process.ctxs.All I
    rwa [addConn_process]
  | connect i env =>
    exact onConn_keeps (fun conn => returning_keeps (connect_keeps hI g env conn)) hall
  | listen i env =>
    exact onConn_keeps (fun conn => returning_keeps (listen_keeps hI g env conn)) hall
  | accept i env =>
    show (s.acceptOn i g env).2.process.ctxs.All I
    unfold System.acceptOn
    cases s.conns.read i with
    | none => exact hall
    | some conn =>
      dsimp only
      rw [addConn_process]
      exact (accept_keeps hI g env conn).invariant (fun _ _ h => h) hall
  | handshakeStep i env =>
    exact onConn_keeps (fun conn => returning_keeps (handshakeStep_keeps hI g env conn)) hall
  | write i call =>
    exact onConn_keeps (fun conn => (connectionWrite_keeps call conn).bind fun _ => trivial) hall
  | triggerKeyUpdate i env =>
    exact onConn_keeps (fun conn => (triggerKeyUpdate_keeps g env conn).bind fun _ => trivial) hall
  | setUserData i userData =>
    exact onConn_keeps (fun conn => (setUserData_keeps g userData conn).bind fun _ => trivial) hall
  | close i env => exact onConn_keeps (fun conn => returning_keeps (close_keeps g env conn)) hall
  | destroy i env =>
    show (s.deleteConn i g env).2.process.ctxs.All I
    unfold System.deleteConn
    cases s.conns.read i with
    | none => exact hall
    | some conn => exact (cleanup_keeps hI g env conn).invariant (fun _ _ h => h) hall

/-- **Run lemma**: what connections do to contexts keeps such a property, so every context
of every run has it. -/
theorem connectionMachine_ctxs {s : System} (h : connectionMachine.Reachable s) :
    s.process.ctxs.All I := by
  refine Machine.Reachable.invariant (I := fun s => s.process.ctxs.All I) ?_ ?_ h
  · rintro s rfl
    exact Heap.all_empty I
  · intro s call hall
    exact connCall_keeps hI call.1 call.2 hall

end Keeps

end Scf
