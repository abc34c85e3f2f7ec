import ScfSecurity.Connection.Attached
import ScfSecurity.Connection.FailureState
import ScfSecurity.KeyUpdate.Session

/-!
# Connections with their objects

Connections do not share objects, so a connection and the object it points to can be looked at
together, without the memory in between. `ViewStep` lists what a call does to such a pair; the
pairs of all other connections stay as they are.

## Main definitions

- `View`, `System.view`: a connection with its object
- `Opens`: the environment lets `Connect` get as far as a handshake
- `ViewStep`: what the calls do to a connection with its object

## Main results

- `view_other`: a call does not concern the other connections
- `connCall_view`: every call makes a `ViewStep`
-/

namespace Scf

open Automaton

/-- A connection and its object. -/
structure View where
  conn : SCFConnectionImpl
  obj : Option SCFPolicyObj

/-- The object that a connection points to. -/
def Process.objOf (p : Process) (conn : SCFConnectionImpl) : Option SCFPolicyObj :=
  (conn.policyObj.bind fun obj => p.objs.read obj).map BoundObj.obj

def System.view (s : System) (i : ℕ) : Option View :=
  (s.conns.read i).map fun conn => ⟨conn, s.process.objOf conn⟩

/-- What an object tells about its session: the data of the user and the version. -/
def SCFPolicyObj.told (o : SCFPolicyObj) : Option Address × Option String :=
  (o.userData, adaptorGetVersion o)

/-- `Connect` creates an object and goes on to the handshake. -/
def Opens (g : Globals) (env : ConnEnv) (conn : SCFConnectionImpl) (p : Process) : Prop :=
  SetupOk g env.setup conn p ∧ TransportAndObjOk g env

/-- What a connection tells about its session, except for the version. -/
structure Remembers (conn conn' : SCFConnectionImpl) : Prop where
  userData : conn'.userData = conn.userData
  cipherSuite : conn'.negotiatedCipherSuite = conn.negotiatedCipherSuite

/-- The connection is not connected afterwards. It keeps its object, or has none. -/
structure View.Rests (v v' : View) : Prop where
  remembers : Remembers v.conn v'.conn
  state : v'.conn.state ≠ .connected
  obj : v'.obj = v.obj ∨ v'.obj = none

/-- A handshake on the object `o`. If it succeeds, the version is that of the object. -/
structure View.Shaken (g : Globals) (env : ConnEnv) (conn : SCFConnectionImpl) (o : SCFPolicyObj)
    (v' : View) : Prop where
  version : ∃ version,
    v'.conn = conn.shaken (handshakeOn g conn.isServer env.handshake o).1 version ∧
    ((handshakeOn g conn.isServer env.handshake o).1 = .success →
      adaptorGetVersion (handshakeOn g conn.isServer env.handshake o).2 = some version)
  obj : v'.obj = some (handshakeOn g conn.isServer env.handshake o).2

/-- What a call does to the connection it is about, with its object. -/
inductive ViewStep (g : Globals) (p : Process) : ConnCall → Option View → Option View → Prop
  -- there is no such connection, or no memory for a new one, or it is gone again
  | absent {call : ConnCall} : ViewStep g p call none none
  | created {config : SCFConnectionConfig} {allocOk : Bool} :
      ViewStep g p (.create config allocOk) none (some ⟨newConnection config, none⟩)
  | notOpened {i : ℕ} {env : ConnEnv} {v v' : View} (hnot : ¬ Opens g env v.conn p)
      (h : v.Rests v') : ViewStep g p (.connect i env) (some v) (some v')
  | opened {i : ℕ} {env : ConnEnv} {v v' : View} {conn₁ : SCFConnectionImpl} {o₁ : SCFPolicyObj}
      (hopens : Opens g env v.conn p) (hconn : Remembers v.conn conn₁) (ho : o₁.userData = none)
      (h : View.Shaken g env conn₁ o₁ v') : ViewStep g p (.connect i env) (some v) (some v')
  | listened {i : ℕ} {env : ConnEnv} {v v' : View} (h : v.Rests v') :
      ViewStep g p (.listen i env) (some v) (some v')
  | accepted {i : ℕ} {env : ConnEnv} {v' : View} {config : SCFConnectionConfig}
      {conn₁ : SCFConnectionImpl} {o₁ : SCFPolicyObj}
      (hconn : Remembers (newConnection config) conn₁) (ho : o₁.userData = none)
      (h : View.Shaken g env conn₁ o₁ v') : ViewStep g p (.accept i env) none (some v')
  | noObj {i : ℕ} {env : ConnEnv} {conn : SCFConnectionImpl} :
      ViewStep g p (.handshakeStep i env) (some ⟨conn, none⟩) (some ⟨conn, none⟩)
  | shaken {i : ℕ} {env : ConnEnv} {conn : SCFConnectionImpl} {o : SCFPolicyObj} {v' : View}
      (h : View.Shaken g env conn o v') :
      ViewStep g p (.handshakeStep i env) (some ⟨conn, some o⟩) (some v')
  | wrote {i : ℕ} {call : WriteCall} {conn : SCFConnectionImpl} {obj obj' : Option SCFPolicyObj}
      (h : obj'.map SCFPolicyObj.told = obj.map SCFPolicyObj.told) :
      ViewStep g p (.write i call) (some ⟨conn, obj⟩) (some ⟨conn, obj'⟩)
  | updated {i : ℕ} {env : KeyUpdateEnv} {conn : SCFConnectionImpl}
      {obj obj' : Option SCFPolicyObj}
      (h : obj'.map SCFPolicyObj.told = obj.map SCFPolicyObj.told) :
      ViewStep g p (.triggerKeyUpdate i env) (some ⟨conn, obj⟩) (some ⟨conn, obj'⟩)
  | userDataSet {i : ℕ} {userData : Option Address} {conn : SCFConnectionImpl}
      {obj : Option SCFPolicyObj} :
      ViewStep g p (.setUserData i userData) (some ⟨conn, obj⟩)
        (some ⟨{ conn with userData }, obj.map fun o => (scfSetUserData g userData o).2⟩)
  | closed {i : ℕ} {env : ConnEnv} {v v' : View} (h : v.Rests v') :
      ViewStep g p (.close i env) (some v) (some v')
  | destroyed {i : ℕ} {env : ConnEnv} {v : View} : ViewStep g p (.destroy i env) (some v) none

/-! ### What objects tell -/

theorem keyUpdateFree_told : KeyUpdateFree SCFPolicyObj.told where
  setInfo _ _ := rfl
  keyUpdate o ssl hssl := by
    simp [SCFPolicyObj.told, adaptorGetVersion, hssl, SCFPolicyObj.setSsl, Ssl.keyUpdate]

theorem told_take (bytes : List UInt8) (o : SCFPolicyObj) : (o.take bytes).told = o.told :=
  congrArg (Prod.mk o.userData) (adaptorGetVersion_take bytes o)

theorem told_takePart (data : List UInt8) (n : ℕ) (o : SCFPolicyObj) :
    (o.takePart data n).told = o.told :=
  congrArg (Prod.mk o.userData) (sameRecord_takePart data n o).version

/-- A handshake, whatever its result, does not touch the data of the user. -/
theorem handshakeOn_userData (g : Globals) (isServer : Bool) (outcome : HandshakeOutcome)
    (o : SCFPolicyObj) : (handshakeOn g isServer outcome o).2.userData = o.userData := by
  unfold handshakeOn
  split_ifs
  · rfl
  · rfl
  · unfold adaptorHandshake
    cases o.sslCtx with
    | none => rfl
    | some ssl =>
      dsimp only
      split_ifs
      · rfl
      · cases outcome with
        | failure errorCode => rfl
        | success version => rfl

/-! ### Objects of connections -/

section ObjOf

variable {g : Globals} {env : ConnEnv} {conn conn' : SCFConnectionImpl} {p p' : Process}

theorem objOf_eq {obj : ℕ} (h : conn.policyObj = some obj) :
    p.objOf conn = (p.objs.read obj).map BoundObj.obj := by
  rw [Process.objOf, h]
  rfl

theorem objOf_eq_none (h : conn.policyObj = none) : p.objOf conn = none := by
  rw [Process.objOf, h]
  rfl

/-- The object of a connection is the same if the pointer is, and what it points to. -/
theorem objOf_congr (hptr : conn'.policyObj = conn.policyObj)
    (hread : ∀ obj, conn.policyObj = some obj → p'.objs.read obj = p.objs.read obj) :
    p'.objOf conn' = p.objOf conn := by
  cases hobj : conn.policyObj with
  | none => rw [objOf_eq_none hobj, objOf_eq_none (hptr.trans hobj)]
  | some obj => rw [objOf_eq hobj, objOf_eq (hptr.trans hobj), hread obj hobj]

/-- A call on a live object whose context is alive. -/
theorem withObj_run_alive {ρ : Type} (default : ρ) {obj : ℕ}
    (f : SCFPolicyCtx → SCFPolicyObj → ρ × SCFPolicyObj) {o : BoundObj} {c : SCFPolicyCtx}
    (hread : p.objs.read obj = some o) (hctx : p.ctxs.read o.policyCtx = some c) :
    ((withObj default obj f).run p).1 = (f c o.obj).1 ∧
      (((withObj default obj f).run p).2.objs.read obj).map BoundObj.obj =
        some (f c o.obj).2 := by
  have hrun : (withObj default obj f).run p = ((f c o.obj).1,
      { p with objs := p.objs.modify obj fun o => { o with obj := (f c o.obj).2 } }) := by
    rw [withObj, Resumption.run_critical]
    simp only [hread, hctx]
  rw [hrun]
  refine ⟨rfl, ?_⟩
  show ((p.objs.modify obj _).read obj).map BoundObj.obj = _
  rw [Heap.read_modify, if_pos rfl, hread]
  rfl

/-- A call on an object that changes nothing of what objects tell. -/
theorem withObj_told {ρ : Type} (default : ρ) (obj : ℕ)
    {f : SCFPolicyCtx → SCFPolicyObj → ρ × SCFPolicyObj} (hf : ∀ c o, (f c o).2.told = o.told)
    (p : Process) (conn : SCFConnectionImpl) :
    (((withObj default obj f).run p).2.objOf conn).map SCFPolicyObj.told =
      (p.objOf conn).map SCFPolicyObj.told := by
  cases hobj : conn.policyObj with
  | none => rw [objOf_eq_none hobj, objOf_eq_none hobj]
  | some i =>
    rw [objOf_eq hobj, objOf_eq hobj, Option.map_map, Option.map_map]
    exact withObj_map default obj hf p i

theorem connectionWrite_told (call : WriteCall) (conn : SCFConnectionImpl) (p : Process) :
    (((connectionWrite call conn).run p).2.objOf conn).map SCFPolicyObj.told =
      (p.objOf conn).map SCFPolicyObj.told := by
  unfold connectionWrite
  cases conn.policyObj with
  | none => rfl
  | some obj =>
    dsimp only
    by_cases hstate : conn.state ≠ .connected
    · rw [if_pos hstate, Resumption.run_done]
    · rw [if_neg hstate]
      refine withObj_told _ obj (fun c o => ?_) p conn
      exact keyUpdateFree_told.scfWrite told_take told_takePart { call with objPtr := .valid } c o

theorem triggerKeyUpdate_told (g : Globals) (env : KeyUpdateEnv) (conn : SCFConnectionImpl)
    (p : Process) :
    (((triggerKeyUpdate g env conn).run p).2.objOf conn).map SCFPolicyObj.told =
      (p.objOf conn).map SCFPolicyObj.told := by
  unfold triggerKeyUpdate
  cases conn.policyObj with
  | none => rfl
  | some obj =>
    exact withObj_told _ obj (fun _ => keyUpdateFree_told.scfObjKeyUpdate g .valid env) p conn

/-- `SetUserData` passes the data on to the object. -/
theorem setUserData_objOf (h : ObjAlive p conn) (g : Globals) (userData : Option Address) :
    ((setUserData g userData conn).run p).1 = { conn with userData } ∧
      ((setUserData g userData conn).run p).2.objOf { conn with userData } =
        (p.objOf conn).map fun o => (scfSetUserData g userData o).2 := by
  have hrun : (setUserData g userData conn).run p = ({ conn with userData },
      ((forPtr conn.policyObj fun obj =>
        (withObj Errno.error obj fun _ o => scfSetUserData g userData o).bind fun _ =>
          .done ()).run p).2) := by
    unfold setUserData
    rw [Resumption.run_bind]
    rfl
  rw [hrun]
  refine ⟨rfl, ?_⟩
  dsimp only
  have hptr : ({ conn with userData } : SCFConnectionImpl).policyObj = conn.policyObj := rfl
  generalize ({ conn with userData } : SCFConnectionImpl) = conn' at *
  unfold forPtr
  cases hobj : conn.policyObj with
  | none =>
    rw [objOf_eq_none hobj]
    exact objOf_eq_none (hptr.trans hobj)
  | some obj =>
    obtain ⟨o, c, hread, hctx⟩ := h obj hobj
    dsimp only
    rw [Resumption.run_bind, objOf_eq (hptr.trans hobj), objOf_eq hobj, hread]
    exact (withObj_run_alive _ _ hread hctx).2

/-! ### Handshakes -/

/-- After a handshake that has succeeded, the adaptor reports a version. -/
theorem handshakeOn_version {isServer : Bool} {outcome : HandshakeOutcome} {o : SCFPolicyObj}
    (h : (handshakeOn g isServer outcome o).1 = .success) :
    ∃ version, adaptorGetVersion (handshakeOn g isServer outcome o).2 = some version ∧
      scfGetProtocolVersion g (handshakeOn g isServer outcome o).2 = some version := by
  have hfinished := (handshakeOn_finished g isServer outcome o).1 h
  have hinit : g.scfInitialized = true := by
    unfold handshakeOn at h
    split_ifs at h with hrole hinit
    simpa using hinit
  generalize (handshakeOn g isServer outcome o).2 = o' at *
  unfold SCFPolicyObj.finished at hfinished
  unfold scfGetProtocolVersion adaptorGetVersion
  rw [hinit, g.adaptor_of_init hinit]
  cases hssl : o'.sslCtx with
  | none =>
    rw [hssl] at hfinished
    cases hfinished
  | some ssl => exact ⟨ssl.version, rfl, rfl⟩

/-- `HandshakeStep` on an object that is alive. -/
theorem handshakeStep_shaken {obj : ℕ} {o : BoundObj} {c : SCFPolicyCtx}
    (hobj : conn.policyObj = some obj) (hread : p.objs.read obj = some o)
    (hctx : p.ctxs.read o.policyCtx = some c) (g : Globals) (env : ConnEnv) :
    let out := (handshakeStep g env conn).run p
    View.Shaken g env conn o.obj ⟨out.1.2, out.2.objOf out.1.2⟩ := by
  obtain ⟨hret, hread'⟩ := handshakeObj_run g conn.isServer env.handshake hread
  have hquiet := quiet_run (handshakeObj_quiet g conn.isServer obj env.handshake) p
  rw [handshakeStep_run_eq g env hobj]
  generalize (handshakeObj g conn.isServer obj env.handshake).run p = out at *
  obtain ⟨ret, p'⟩ := out
  dsimp only at hret hread' hquiet ⊢
  subst hret
  have hlive : p'.ctxs.read o.policyCtx ≠ none :=
    Heap.read_ne_none_of_map (hquiet.ctxs o.policyCtx) (by rw [hctx]; exact nofun)
  obtain ⟨c', hctx'⟩ := Option.ne_none_iff_exists'.mp hlive
  have hver := (withObj_run_alive none (fun _ o => (scfGetProtocolVersion g o, o)) hread' hctx').1
  refine ⟨⟨_, rfl, fun hsuccess => ?_⟩, ?_⟩
  · obtain ⟨version, hversion, hreported⟩ := handshakeOn_version hsuccess
    rw [hver, hversion]
    dsimp only
    rw [hreported]
    rfl
  · rw [objOf_eq ((shaken_policyObj _ _ conn).trans hobj), hread']
    rfl

/-! ### Opening -/

/-- The objects from a pointer on have no user data. -/
def BlankFrom (n : ℕ) (p : Process) : Prop :=
  ∀ obj o, n ≤ obj → p.objs.read obj = some o → o.obj.userData = none

theorem scfSetFd_userData (g : Globals) (objPtr : Ptr) (fd : Int32) (env : SslEnv)
    (c : SCFPolicyCtx) (o : SCFPolicyObj) :
    (scfSetFd g objPtr fd env c o).2.userData = o.userData := by
  unfold scfSetFd
  split_ifs
  · rfl
  · rfl
  · rfl
  · rfl
  · unfold adaptorSetFd
    cases sslForFd env c o with
    | error ret => rfl
    | ok ssl =>
      dsimp only
      split_ifs <;> rfl

/-- `CreatePolicyObj` does not set the data of the object it creates. -/
theorem createPolicyObj_blank (g : Globals) (env : ConnEnv) (conn : SCFConnectionImpl) (n : ℕ) :
    (createPolicyObj g env conn).Guarantees fun p p' => BlankFrom n p → BlankFrom n p' := by
  unfold createPolicyObj
  cases conn.policyCtx with
  | none => trivial
  | some ctx =>
    refine Resumption.Guarantees.bind ?_ fun obj => ?_
    · rw [newObj, Resumption.guarantees_critical]
      intro p hblank
      cases p.ctxs.read ctx with
      | none => exact hblank
      | some c =>
        rcases hnew : scfCreatePolicyObj g .valid env.clock env.objAllocOk c with ⟨_ | obj, c'⟩
        · simpa [hnew] using hblank
        obtain ⟨now, -, rfl, -⟩ := scfCreatePolicyObj_some hnew
        simp only [hnew]
        intro i o hi hread
        change (p.objs.alloc ⟨newPolicyObj c now, ctx⟩).2.read i = some o at hread
        rw [Heap.read_alloc] at hread
        split_ifs at hread
        · obtain rfl := Option.some.inj hread
          rfl
        · exact hblank i o hi hread
    cases obj with
    | none => trivial
    | some obj =>
      refine Resumption.Guarantees.bind (Resumption.guarantees_critical.mpr fun _ => id)
        fun fd => ?_
      split_ifs
      · trivial
      refine Resumption.Guarantees.bind ?_ fun _ => trivial
      rw [withObj, Resumption.guarantees_critical]
      intro p hblank
      cases p.objs.read obj with
      | none => exact hblank
      | some o =>
        dsimp only
        cases p.ctxs.read o.policyCtx with
        | none => exact hblank
        | some c =>
          intro i o' hi hread
          change (p.objs.modify obj _).read i = some o' at hread
          rw [Heap.read_modify] at hread
          split_ifs at hread
          · obtain ⟨o, ho, rfl⟩ := Option.map_eq_some_iff.mp hread
            exact (scfSetFd_userData _ _ _ _ _ _).trans (hblank i o hi ho)
          · exact hblank i o' hi hread

theorem Remembers.refl (conn : SCFConnectionImpl) : Remembers conn conn := ⟨rfl, rfl⟩

theorem Remembers.trans {conn'' : SCFConnectionImpl} (h : Remembers conn conn')
    (h' : Remembers conn' conn'') : Remembers conn conn'' :=
  ⟨h'.userData.trans h.userData, h'.cipherSuite.trans h.cipherSuite⟩

theorem SetupOutcome.remembers {env : SetupEnv} {ret : Errno}
    (h : SetupOutcome g env conn p ((ret, conn'), p')) : Remembers conn conn' := by
  have hengine : ∀ {ret conn₁ p₁}, EngineOutcome g env conn p ((ret, conn₁), p₁) →
      Remembers conn conn₁ := by
    intro ret conn₁ p₁ h
    cases h with
    | reused h => exact .refl conn
    | absent h => exact .refl conn
    | created h henv hinit => exact ⟨rfl, rfl⟩
  cases h with
  | noAdaptor hret hnot h => exact hengine h
  | noCtx hnot h => exact (hengine h).trans ⟨rfl, rfl⟩
  | withCtx hinit halloc h hprovider hctx => exact (hengine h).trans ⟨rfl, rfl⟩

theorem TransportOutcome.remembers {opened : SCFConnectionState} {ret : Errno}
    (h : TransportOutcome env opened conn p ((ret, conn'), p')) : Remembers conn conn' := by
  cases h with
  | notCreated h => exact ⟨rfl, rfl⟩
  | notOpened h hopen => exact ⟨rfl, rfl⟩
  | done h hopen => exact ⟨rfl, rfl⟩

/-- A new object has been created for the connection, on its context. -/
def Created (g : Globals) (env : ConnEnv) (conn conn' : SCFConnectionImpl) (p' : Process) : Prop :=
  ∃ conn₂ p₂ ctx c, Remembers conn conn₂ ∧ conn₂.policyCtx = some ctx ∧
    p₂.ctxs.read ctx = some c ∧ (createPolicyObj g env conn₂).run p₂ = ((.success, conn'), p')

/-- A handshake on a new object, which has no data. -/
theorem Created.shaken (h : Created g env conn conn' p') :
    ∃ o, o.userData = none ∧ Remembers conn conn' ∧
      let out := (handshakeStep g env conn').run p'
      View.Shaken g env conn' o ⟨out.1.2, out.2.objOf out.1.2⟩ := by
  obtain ⟨conn₂, p₂, ctx, c, hconn, hctx, hread, hrun⟩ := h
  have hout := createPolicyObj_outcome g env hctx hread
  have hblank : BlankFrom p₂.objs.size ((createPolicyObj g env conn₂).run p₂).2 := by
    refine (createPolicyObj_blank g env conn₂ p₂.objs.size).invariant (fun _ _ h => h) ?_
    intro obj o hobj ho
    have := Heap.lt_size_of_read (show p₂.objs.read obj ≠ none by rw [ho]; exact nofun)
    omega
  rw [hrun] at hout hblank
  cases hout with
  | @created _ o hok hret hwants ho =>
    have hread' := read_bindObj ctx c o p₂
    refine ⟨o, hblank _ _ (Nat.le_refl _) hread', hconn.trans ⟨rfl, rfl⟩, ?_⟩
    exact handshakeStep_shaken rfl hread' (read_setCtx hread _) g env

/-- `Connect`, if the environment lets it, up to the handshake. -/
theorem connect_opened (h : Opens g env conn p) :
    ∃ conn₃ p₃, Created g env conn conn₃ p₃ ∧
      (connect g env conn).run p = (handshakeStep g env conn₃).run p₃ := by
  obtain ⟨hsetupOk, hok⟩ := h
  have hsetup := setupPolicyContext_outcome g env.setup conn p
  unfold connect
  rw [Resumption.run_bind]
  generalize (setupPolicyContext g env.setup conn).run p = out₁ at *
  obtain ⟨⟨ret, conn₁⟩, p₁⟩ := out₁
  obtain rfl : ret = .success := hsetup.success_iff.mpr hsetupOk
  obtain ⟨ctx, c, hctx, hread, hconf⟩ := hsetup.ctx
  have htransport := setupTransport_outcome env .connecting conn₁ p₁
  dsimp only
  rw [if_neg (not_not.mpr rfl), setupTransportClient, Resumption.run_bind]
  generalize (setupTransport env .connecting conn₁).run p₁ = out₂ at *
  obtain ⟨⟨ret, conn₂⟩, p₂⟩ := out₂
  obtain rfl : ret = .success := htransport.success_iff.1.mpr ⟨hok.transport, hok.opened⟩
  obtain ⟨hctxs, hctx'⟩ := htransport.ctxs
  have hctx₂ := hctx'.trans hctx
  have hread₂ : p₂.ctxs.read ctx = some c := by rwa [hctxs]
  have hobj := createPolicyObj_outcome g env hctx₂ hread₂
  dsimp only
  rw [if_neg (not_not.mpr rfl), Resumption.run_bind]
  rcases hrun : (createPolicyObj g env conn₂).run p₂ with ⟨⟨ret, conn₃⟩, p₃⟩
  rw [hrun] at hobj
  obtain rfl : ret = .success := by
    refine hobj.success_iff.1.mpr ⟨hok.obj, ?_⟩
    rw [htransport.nativeHandle, hconf.bindOk_iff hsetupOk.basic.role]
    exact hok.bind
  dsimp only
  rw [if_neg (not_not.mpr rfl)]
  exact ⟨conn₃, p₃, ⟨conn₂, p₂, ctx, c, hsetup.remembers.trans htransport.remembers, hctx₂, hread₂,
    hrun⟩, rfl⟩

/-- The new connection of `Accept`, if it is kept. -/
theorem acceptOn_opened (h : (acceptOn g env conn).run p = (some conn', p')) :
    ∃ conn₂ p₂ ret, Created g env conn conn₂ p₂ ∧
      (handshakeStep g env conn₂).run p₂ = ((ret, conn'), p') := by
  have hsetup := setupPolicyContext_outcome g env.setup conn p
  unfold acceptOn at h
  rw [Resumption.run_bind] at h
  generalize (setupPolicyContext g env.setup conn).run p = out₁ at *
  obtain ⟨⟨ret, conn₁⟩, p₁⟩ := out₁
  dsimp only at h
  by_cases hret : ret = .success
  case neg =>
    rw [if_pos hret, discard_run] at h
    cases h
  subst hret
  obtain ⟨ctx, c, hctx, hread, -⟩ := hsetup.ctx
  rw [if_neg (not_not.mpr rfl), Resumption.run_bind] at h
  rcases hrun : (createPolicyObj g env conn₁).run p₁ with ⟨⟨ret, conn₂⟩, p₂⟩
  rw [hrun] at h
  dsimp only at h
  by_cases hret : ret = .success
  case neg =>
    rw [if_pos hret, discard_run] at h
    cases h
  subst hret
  have hshake := handshakeStep_outcome g env conn₂ p₂
  rw [if_neg (not_not.mpr rfl), Resumption.run_bind] at h
  rcases hrun' : (handshakeStep g env conn₂).run p₂ with ⟨⟨ret, conn₃⟩, p₃⟩
  rw [hrun'] at h hshake
  dsimp only at h
  obtain ⟨hsuccess, hwant⟩ := hshake.state
  -- the state that `Accept` sets is the one that the handshake has set
  have hsame : (some conn₃, p₃) = (some conn', p') := by
    by_cases hwants : ret.Wants
    · rw [if_pos (by simpa [Errno.Wants] using hwants), hwant hwants] at h
      exact h
    rw [if_neg (by simpa [Errno.Wants] using hwants)] at h
    by_cases hret : ret = .success
    · rw [if_neg (not_not.mpr hret), hsuccess hret] at h
      exact h
    · rw [if_pos hret, discard_run] at h
      cases h
  obtain ⟨hconn, rfl⟩ := Prod.mk.inj hsame
  obtain rfl := Option.some.inj hconn
  exact ⟨conn₂, p₂, ret, ⟨conn₁, p₁, ctx, c, hsetup.remembers, hctx, hread, hrun⟩, hrun'⟩

theorem accept_opened (h : (accept g env conn).run p = (some conn', p')) :
    ∃ conn₂ p₂ ret, Created g env (newConnection conn.config) conn₂ p₂ ∧
      (handshakeStep g env conn₂).run p₂ = ((ret, conn'), p') := by
  rcases accept_run_cases g env conn p with hrun | hrun | ⟨-, hrun⟩
  · rw [hrun] at h
    cases h
  · rw [hrun] at h
    cases h
  · rw [hrun] at h
    obtain ⟨conn₂, p₂, ret, hcreated, hshake⟩ := acceptOn_opened h
    obtain ⟨conn₁, p₁, ctx, c, hconn, hrest⟩ := hcreated
    have hchild : Remembers (newConnection conn.config) (conn.child p.transports.size) := ⟨rfl, rfl⟩
    exact ⟨conn₂, p₂, ret, ⟨conn₁, p₁, ctx, c, hchild.trans hconn, hrest⟩, hshake⟩

/-! ### Calls that do not open -/

/-- A connection that has been released has no object. -/
theorem rests_released (obj : Option SCFPolicyObj) (h : Remembers conn conn') (p : Process)
    (state : SCFConnectionState) :
    View.Rests ⟨conn, obj⟩ ⟨SCFConnectionImpl.released { conn' with state },
      p.objOf (SCFConnectionImpl.released { conn' with state })⟩ := by
  have hnone : p.objOf (SCFConnectionImpl.released { conn' with state }) = none := objOf_eq_none rfl
  rw [hnone]
  exact ⟨h.trans ⟨rfl, rfl⟩, show SCFConnectionState.closed ≠ .connected by decide, .inr rfl⟩

/-- `SetupPolicyContext` leaves the object of the connection as it is. -/
theorem SetupOutcome.objOf {env : SetupEnv} {ret : Errno} {conn₁ conn₂ : SCFConnectionImpl}
    {p₁ p₂ : Process} (h : SetupOutcome g env conn p ((ret, conn₁), p₁)) (halive : ObjAlive p conn)
    (hobjs : p₂.objs = p₁.objs) (hobj : conn₂.policyObj = conn₁.policyObj) :
    p₂.objOf conn₂ = p.objOf conn := by
  refine objOf_congr (hobj.trans h.keeps.policyObj) fun obj hsome => ?_
  obtain ⟨o, -, hread, -⟩ := halive obj hsome
  have hlt := Heap.lt_size_of_read (show p.objs.read obj ≠ none by rw [hread]; exact nofun)
  rw [hobjs]
  exact h.keeps.objs.others obj hlt nofun

theorem ConnectOutcome.rests {ret : Errno} (h : ConnectOutcome g env conn p ((ret, conn'), p'))
    (halive : ObjAlive p conn) (hnot : ¬ Opens g env conn p) :
    View.Rests ⟨conn, p.objOf conn⟩ ⟨conn', p'.objOf conn'⟩ := by
  cases h with
  | notSetUp hret hsetup =>
    exact ⟨hsetup.remembers.trans ⟨rfl, rfl⟩, show SCFConnectionState.error ≠ .connected by decide,
      .inl (hsetup.objOf halive rfl rfl)⟩
  | noTransport hsetup hret htransport =>
    exact rests_released _ (hsetup.remembers.trans htransport.remembers) _ _
  | noObj hsetup htransport hctx hread hconf hret hobj =>
    refine rests_released _ (hsetup.remembers.trans (htransport.remembers.trans ?_)) _ _
    cases hobj with
    | notCreated h => exact ⟨rfl, rfl⟩
    | created h hret hwants ho => exact ⟨rfl, rfl⟩
  | handshake hsetup htransport hctx hread hconf hobj hshake =>
    refine absurd ⟨hsetup.success_iff.mp rfl, ?_⟩ hnot
    exact hsetup.transportAndObjOk htransport hconf hobj

theorem ListenOutcome.rests {ret : Errno} (h : ListenOutcome g env conn p ((ret, conn'), p'))
    (halive : ObjAlive p conn) : View.Rests ⟨conn, p.objOf conn⟩ ⟨conn', p'.objOf conn'⟩ := by
  cases h with
  | notSetUp hret hsetup =>
    exact ⟨hsetup.remembers.trans ⟨rfl, rfl⟩, show SCFConnectionState.error ≠ .connected by decide,
      .inl (hsetup.objOf halive rfl rfl)⟩
  | noTransport hsetup hret htransport =>
    obtain ⟨hobjs, hobj, -⟩ := htransport.objs
    exact ⟨hsetup.remembers.trans (htransport.remembers.trans ⟨rfl, rfl⟩),
      show SCFConnectionState.error ≠ .connected by decide, .inl (hsetup.objOf halive hobjs hobj)⟩
  | done hsetup htransport =>
    obtain ⟨hobjs, hobj, -⟩ := htransport.objs
    refine ⟨hsetup.remembers.trans htransport.remembers, ?_,
      .inl (hsetup.objOf halive hobjs hobj)⟩
    cases htransport with
    | done h hopen => exact show SCFConnectionState.init ≠ .connected by decide

theorem close_rests (g : Globals) (env : ConnEnv) (conn : SCFConnectionImpl) (p : Process) :
    let out := (close g env conn).run p
    View.Rests ⟨conn, p.objOf conn⟩ ⟨out.1.2, out.2.objOf out.1.2⟩ := by
  rcases close_run g env conn p with ⟨hstate, hrun⟩ | ⟨-, -, ret, hrun⟩
  · rw [hrun]
    refine ⟨.refl conn, ?_, .inl rfl⟩
    rcases hstate with h | h <;> simp [h]
  · rw [hrun]
    refine ⟨⟨rfl, rfl⟩, show SCFConnectionState.closed ≠ .connected by decide,
      .inl (objOf_congr rfl fun obj _ => ?_)⟩
    cases conn.transport <;> rfl

end ObjOf

/-! ### Views of the system -/

section System

variable {s s' : System} {i j : ℕ} {conn : SCFConnectionImpl}

theorem view_eq (h : s.conns.read i = some conn) :
    s.view i = some ⟨conn, s.process.objOf conn⟩ := by
  rw [System.view, h]
  rfl

theorem view_eq_none (h : s.conns.read i = none) : s.view i = none := by
  rw [System.view, h]
  rfl

/-- **Frame lemma**: a call does not concern the other connections and their objects. -/
theorem view_other (h : Attached s) (hstep : SlotStep i s s') (hj : j ≠ i) :
    s'.view j = s.view j := by
  unfold System.view
  rw [hstep.others j hj]
  cases hread : s.conns.read j with
  | none => rfl
  | some conn =>
    have hobj : s'.process.objOf conn = s.process.objOf conn :=
      objOf_congr rfl fun obj hobj => h.read_obj hstep hj hread hobj
    exact congrArg (fun obj => some (⟨conn, obj⟩ : View)) hobj

/-- A function on one connection, by what it does to the connection with its object. -/
theorem onConn_view {g : Globals} {call : ConnCall}
    {f : SCFConnectionImpl → Resumption Process (ConnAnswer × SCFConnectionImpl)}
    (hf : ∀ conn answer conn' p', s.conns.read i = some conn →
      (f conn).run s.process = ((answer, conn'), p') →
      ViewStep g s.process call (some ⟨conn, s.process.objOf conn⟩)
        (some ⟨conn', p'.objOf conn'⟩)) :
    ViewStep g s.process call (s.view i) ((s.onConn i f).2.view i) := by
  cases hread : s.conns.read i with
  | none =>
    rw [onConn_eq_none hread, view_eq_none hread]
    exact .absent
  | some conn =>
    rcases hrun : (f conn).run s.process with ⟨⟨answer, conn'⟩, p'⟩
    rw [onConn_eq hread hrun, view_eq hread, view_eq (replaced_modify hread conn' p').self]
    exact hf conn answer conn' p' hread hrun

/-- A new connection, or none. -/
theorem addConn_view {g : Globals} {call : ConnCall} {p' : Process}
    {conn' : Option SCFConnectionImpl}
    (hconn : ∀ conn, conn' = some conn →
      ViewStep g s.process call none (some ⟨conn, p'.objOf conn⟩)) :
    ViewStep g s.process call (s.view s.conns.size)
      (({ s with process := p' }.addConn conn').2.view s.conns.size) := by
  have hself := (replaced_addConn (s := s) p' conn').self
  rw [view_eq_none (Heap.read_size s.conns)]
  cases conn' with
  | none =>
    rw [view_eq_none hself]
    exact .absent
  | some conn =>
    rw [view_eq hself]
    exact hconn conn rfl

/-- `Connect`: either it comes to a handshake on a new object, or the connection is not connected. -/
theorem connect_view {g : Globals} {env : ConnEnv} {conn conn' : SCFConnectionImpl} {p p' : Process}
    {ret : Errno} (halive : ObjAlive p conn)
    (hrun : (connect g env conn).run p = ((ret, conn'), p')) :
    ViewStep g p (.connect i env) (some ⟨conn, p.objOf conn⟩) (some ⟨conn', p'.objOf conn'⟩) := by
  by_cases hopens : Opens g env conn p
  · obtain ⟨conn₃, p₃, hcreated, hrun'⟩ := connect_opened hopens
    obtain ⟨o, ho, hconn, hshaken⟩ := hcreated.shaken
    rw [← hrun', hrun] at hshaken
    exact .opened hopens hconn ho hshaken
  · have hout := connect_outcome g env conn p
    rw [hrun] at hout
    exact .notOpened hopens (hout.rests halive hopens)

theorem handshakeStep_view {g : Globals} {env : ConnEnv} {conn conn' : SCFConnectionImpl}
    {p p' : Process} {ret : Errno} (halive : ObjAlive p conn)
    (hrun : (handshakeStep g env conn).run p = ((ret, conn'), p')) :
    ViewStep g p (.handshakeStep i env) (some ⟨conn, p.objOf conn⟩)
      (some ⟨conn', p'.objOf conn'⟩) := by
  cases hobj : conn.policyObj with
  | none =>
    have hout := handshakeStep_outcome g env conn p
    rw [hrun] at hout
    cases hout with
    | noObj hnone =>
      rw [objOf_eq_none hnone]
      exact .noObj
    | dangling hsome _ => rw [hobj] at hsome; cases hsome
    | done hsome _ _ _ => rw [hobj] at hsome; cases hsome
  | some obj =>
    obtain ⟨o, c, ho, hc⟩ := halive obj hobj
    have hshaken := handshakeStep_shaken hobj ho hc g env
    rw [hrun] at hshaken
    rw [objOf_eq hobj, ho]
    exact .shaken hshaken

/-- **Inversion lemma** for connections with their objects. -/
theorem connCall_view (h : Attached s) (g : Globals) (call : ConnCall) :
    ViewStep g s.process call (s.view (call.actor s))
      ((call.apply g s).2.view (call.actor s)) := by
  cases call with
  | create config allocOk =>
    show ViewStep g s.process _ (s.view s.conns.size)
      (({ s with process := s.process }.addConn
        (if allocOk then some (newConnection config) else none)).2.view s.conns.size)
    refine addConn_view fun conn hconn => ?_
    split_ifs at hconn
    obtain rfl := Option.some.inj hconn
    exact .created
  | connect i env =>
    refine onConn_view fun conn answer conn' p' hread hrun => ?_
    obtain ⟨ret, hrun⟩ := returning_run hrun
    exact connect_view (h.alive _ _ hread) hrun
  | listen i env =>
    refine onConn_view fun conn answer conn' p' hread hrun => ?_
    obtain ⟨ret, hrun⟩ := returning_run hrun
    have hout := listen_outcome g env conn s.process
    rw [hrun] at hout
    exact .listened (hout.rests (h.alive _ _ hread))
  | accept i env =>
    show ViewStep g s.process _ (s.view s.conns.size) ((s.acceptOn i g env).2.view s.conns.size)
    cases hread : s.conns.read i with
    | none =>
      rw [acceptOn_eq_none hread, view_eq_none (Heap.read_size s.conns)]
      exact .absent
    | some conn =>
      rcases hrun : (accept g env conn).run s.process with ⟨child, p'⟩
      rw [acceptOn_eq hread hrun]
      refine addConn_view fun conn' hconn' => ?_
      subst hconn'
      obtain ⟨conn₂, p₂, ret, hcreated, hrun'⟩ := accept_opened hrun
      obtain ⟨o, ho, hconn, hshaken⟩ := hcreated.shaken
      rw [hrun'] at hshaken
      exact .accepted hconn ho hshaken
  | handshakeStep i env =>
    refine onConn_view fun conn answer conn' p' hread hrun => ?_
    obtain ⟨ret, hrun⟩ := returning_run hrun
    exact handshakeStep_view (h.alive _ _ hread) hrun
  | write i call =>
    refine onConn_view fun conn answer conn' p' hread hrun => ?_
    obtain ⟨rfl, rfl⟩ := answering_run hrun
    exact .wrote (connectionWrite_told call conn s.process)
  | triggerKeyUpdate i env =>
    refine onConn_view fun conn answer conn' p' hread hrun => ?_
    obtain ⟨rfl, rfl⟩ := answering_run hrun
    exact .updated (triggerKeyUpdate_told g env conn s.process)
  | setUserData i userData =>
    refine onConn_view fun conn answer conn' p' hread hrun => ?_
    obtain ⟨hconn, hobj⟩ := setUserData_objOf (h.alive _ _ hread) g userData
    obtain ⟨rfl, rfl⟩ := answering_run hrun
    rw [hconn, hobj]
    exact .userDataSet
  | close i env =>
    refine onConn_view fun conn answer conn' p' hread hrun => ?_
    obtain ⟨ret, hrun⟩ := returning_run hrun
    have hrests := close_rests g env conn s.process
    rw [hrun] at hrests
    exact .closed hrests
  | destroy i env =>
    show ViewStep g s.process _ (s.view i) ((s.deleteConn i g env).2.view i)
    cases hread : s.conns.read i with
    | none =>
      rw [deleteConn_eq_none hread, view_eq_none hread]
      exact .absent
    | some conn =>
      have hself := (replaced_free (s := s) (i := i) (s.process.released g conn)).self
      rw [deleteConn_eq hread, view_eq hread, view_eq_none hself]
      exact .destroyed

end System

end Scf
