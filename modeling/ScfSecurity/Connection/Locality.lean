import ScfSecurity.Connection.Opening
import ScfSecurity.Library.Custody

/-!
# A connection works on its own transport and object

No function of a connection touches the transport or the object of another one: it works through
its own pointers, and through pointers to what it has just created.

## Main definitions

- `Local`: a step of a connection is confined to its transport and its object

## Main results

- `ConnectOutcome.isLocal`, `ListenOutcome.isLocal`, `HandshakeStepOutcome.isLocal`,
  `AcceptOutcome.confined`, `released_confined`: the functions of a connection
-/

namespace Scf

open Automaton

/-- A step of a connection is confined to its transport and its object. -/
structure Local (conn conn' : SCFConnectionImpl) (p p' : Process) : Prop where
  transports : Heap.Confined conn.transport conn'.transport p.transports p'.transports
  objs : Heap.Confined conn.policyObj conn'.policyObj p.objs p'.objs

theorem Local.refl (conn : SCFConnectionImpl) (p : Process) : Local conn conn p p :=
  ⟨.refl _ _, .refl _ _⟩

theorem Local.trans {conn conn' conn'' : SCFConnectionImpl} {p p' p'' : Process}
    (h : Local conn conn' p p') (h' : Local conn' conn'' p' p'') : Local conn conn'' p p'' :=
  ⟨h.transports.trans h'.transports, h.objs.trans h'.objs⟩

/-- The pointers of two connections are the same. -/
theorem Local.congr {conn conn' conn₁ conn₁' : SCFConnectionImpl} {p p' : Process}
    (h : Local conn conn' p p') (ht : conn₁.transport = conn.transport)
    (ho : conn₁.policyObj = conn.policyObj) (ht' : conn₁'.transport = conn'.transport)
    (ho' : conn₁'.policyObj = conn'.policyObj) : Local conn₁ conn₁' p p' := by
  refine ⟨?_, ?_⟩
  · rw [ht, ht']
    exact h.transports
  · rw [ho, ho']
    exact h.objs

/-- What `SetupPolicyContext` leaves alone. -/
structure SetupKeeps (conn conn' : SCFConnectionImpl) (p p' : Process) : Prop where
  transport : conn'.transport = conn.transport
  policyObj : conn'.policyObj = conn.policyObj
  handshakeDone : conn'.handshakeDone = conn.handshakeDone
  isServer : conn'.isServer = conn.isServer
  transports : p'.transports = p.transports
  objs : Heap.Confined none none p.objs p'.objs

theorem EngineOutcome.keeps {g : Globals} {env : SetupEnv} {conn conn' : SCFConnectionImpl}
    {p p' : Process} {ret : Errno} (h : EngineOutcome g env conn p ((ret, conn'), p')) :
    SetupKeeps conn conn' p p' := by
  cases h with
  | reused h => exact ⟨rfl, rfl, rfl, rfl, rfl, .refl _ _⟩
  | absent h => exact ⟨rfl, rfl, rfl, rfl, rfl, .refl _ _⟩
  | created h henv hinit => exact ⟨rfl, rfl, rfl, rfl, rfl, .refl _ _⟩

theorem SetupOutcome.keeps {g : Globals} {env : SetupEnv} {conn conn' : SCFConnectionImpl}
    {p p' : Process} {ret : Errno} (h : SetupOutcome g env conn p ((ret, conn'), p')) :
    SetupKeeps conn conn' p p' := by
  cases h with
  | noAdaptor hret hnot hengine => exact hengine.keeps
  | noCtx hnot hengine =>
    obtain ⟨ht, ho, hd, hs, hts, hos⟩ := hengine.keeps
    exact ⟨ht, ho, hd, hs, hts, hos⟩
  | withCtx hinit halloc hengine hprovider hctx =>
    obtain ⟨ht, ho, hd, hs, hts, hos⟩ := hengine.keeps
    cases hctx with
    | plain hlookup hret hc hconf => exact ⟨ht, ho, hd, hs, hts, hos⟩
    | lookup hlookup hret hc hconf =>
      exact ⟨ht, ho, hd, hs, hts, hos.trans (.alloc none _ _)⟩

theorem SetupKeeps.isLocal {conn conn' : SCFConnectionImpl} {p p' : Process}
    (h : SetupKeeps conn conn' p p') : Local conn conn' p p' := by
  refine ⟨?_, ?_⟩
  · rw [h.transport, h.transports]
    exact .refl _ _
  · rw [h.policyObj]
    exact h.objs.weaken _

theorem TransportOutcome.isLocal {env : ConnEnv} {opened : SCFConnectionState}
    {conn conn' : SCFConnectionImpl} {p p' : Process} {ret : Errno}
    (h : TransportOutcome env opened conn p ((ret, conn'), p')) : Local conn conn' p p' := by
  cases h with
  | notCreated h => exact ⟨(Heap.Confined.refl _ _).forget, .refl _ _⟩
  | notOpened h hopen => exact ⟨.alloc_keep _ _ _, .refl _ _⟩
  | done h hopen => exact ⟨.alloc_keep _ _ _, .refl _ _⟩

theorem ObjOutcome.isLocal {g : Globals} {env : ConnEnv} {conn conn' : SCFConnectionImpl} {ctx : ℕ}
    {c : SCFPolicyCtx} {p p' : Process} {ret : Errno}
    (h : ObjOutcome g env conn ctx c p ((ret, conn'), p')) : Local conn conn' p p' := by
  cases h with
  | notCreated h => exact ⟨.refl _ _, (Heap.Confined.refl _ _).forget⟩
  | created h hret hwants ho => exact ⟨.refl _ _, .alloc_keep _ _ _⟩

/-- A quiet step on the object of a connection. -/
theorem Quiet.isLocal {conn conn' : SCFConnectionImpl} {obj : ℕ} {p p' : Process}
    (h : Quiet obj p p') (hobj : conn.policyObj = some obj)
    (ht : conn'.transport = conn.transport) (ho : conn'.policyObj = conn.policyObj) :
    Local conn conn' p p' := by
  refine ⟨?_, ?_⟩
  · rw [ht, h.transports]
    exact .refl _ _
  · refine .of_others h.objSize (fun i hi => h.others i fun hio => hi ?_) (.inl ho)
    rw [hobj, hio]

@[simp] theorem shaken_transport (ret : Errno) (version : String) (conn : SCFConnectionImpl) :
    (conn.shaken ret version).transport = conn.transport := by
  unfold SCFConnectionImpl.shaken
  split_ifs <;> rfl

@[simp] theorem shaken_policyObj (ret : Errno) (version : String) (conn : SCFConnectionImpl) :
    (conn.shaken ret version).policyObj = conn.policyObj := by
  unfold SCFConnectionImpl.shaken
  split_ifs <;> rfl

theorem HandshakeStepOutcome.isLocal {g : Globals} {env : ConnEnv} {conn conn' : SCFConnectionImpl}
    {p p' : Process} {ret : Errno} (h : HandshakeStepOutcome g env conn p ((ret, conn'), p')) :
    Local conn conn' p p' := by
  cases h with
  | noObj h => exact .refl conn p
  | dangling h hread =>
    exact (Local.refl conn p).congr rfl rfl (shaken_transport _ _ conn) (shaken_policyObj _ _ conn)
  | done h hread hp hread' =>
    exact hp.isLocal h (shaken_transport _ _ conn) (shaken_policyObj _ _ conn)

/-! ### Releasing -/

theorem releaseCtx_keeps_others (ctx : ℕ) (p : Process) :
    (p.releaseCtx ctx).transports = p.transports ∧ (p.releaseCtx ctx).objs = p.objs := by
  unfold Process.releaseCtx
  cases p.ctxs.read ctx with
  | none => exact ⟨rfl, rfl⟩
  | some c =>
    dsimp only
    split_ifs <;> exact ⟨rfl, rfl⟩

theorem dropCtx_keeps_others (g : Globals) (ctx : ℕ) (p : Process) :
    (p.dropCtx g ctx).transports = p.transports ∧ (p.dropCtx g ctx).objs = p.objs := by
  unfold Process.dropCtx
  split_ifs
  · exact ⟨rfl, rfl⟩
  · exact releaseCtx_keeps_others ctx p

theorem dropObj_others (g : Globals) (obj : ℕ) (p : Process) :
    (p.dropObj g obj).transports = p.transports ∧ (p.dropObj g obj).objs.size = p.objs.size ∧
      ∀ i, i ≠ obj → (p.dropObj g obj).objs.read i = p.objs.read i := by
  unfold Process.dropObj
  split_ifs
  · exact ⟨rfl, rfl, fun _ _ => rfl⟩
  · cases p.objs.read obj with
    | none => exact ⟨rfl, rfl, fun _ _ => rfl⟩
    | some o =>
      refine ⟨(releaseCtx_keeps_others o.policyCtx p).1, Heap.size_free _ _, fun i hi => ?_⟩
      show (p.objs.free obj).read i = _
      rw [Heap.read_free, if_neg (Ne.symm hi)]

/-- `Cleanup` only frees what the connection has. -/
theorem released_confined (g : Globals) (conn : SCFConnectionImpl) (p : Process) :
    Heap.Confined conn.transport none p.transports (p.released g conn).transports ∧
      Heap.Confined conn.policyObj none p.objs (p.released g conn).objs := by
  -- the memory after each of the four parts
  set p₁ := p.atPtr conn.policyObj (Process.dropObj g) with hp₁
  set p₂ := p₁.atPtr conn.policyCtx (Process.dropCtx g) with hp₂
  set p₃ := p₂.atPtr conn.transport Process.dropTransport with hp₃
  have h₁ : p₁.transports = p.transports ∧ p₁.objs.size = p.objs.size ∧
      ∀ i, conn.policyObj ≠ some i → p₁.objs.read i = p.objs.read i := by
    rw [hp₁]
    cases conn.policyObj with
    | none => exact ⟨rfl, rfl, fun _ _ => rfl⟩
    | some obj =>
      obtain ⟨ht, hsize, hread⟩ := dropObj_others g obj p
      exact ⟨ht, hsize, fun i hi => hread i fun hio => hi (congrArg some hio.symm)⟩
  have h₂ : p₂.transports = p₁.transports ∧ p₂.objs = p₁.objs := by
    rw [hp₂]
    cases conn.policyCtx with
    | none => exact ⟨rfl, rfl⟩
    | some ctx => exact dropCtx_keeps_others g ctx p₁
  have h₃ : p₃.transports.size = p₂.transports.size ∧
      (∀ i, conn.transport ≠ some i → p₃.transports.read i = p₂.transports.read i) ∧
      p₃.objs = p₂.objs := by
    rw [hp₃]
    cases conn.transport with
    | none => exact ⟨rfl, fun _ _ => rfl, rfl⟩
    | some t =>
      refine ⟨Heap.size_free _ _, fun i hi => ?_, rfl⟩
      show (p₂.transports.free t).read i = _
      rw [Heap.read_free, if_neg fun hti => hi (congrArg some hti)]
  have h₄ : (p.released g conn).transports = p₃.transports ∧
      (p.released g conn).objs = p₃.objs := by
    show (p₃.atPtr conn.ownEngine (Process.dropEngine g)).transports = _ ∧
      (p₃.atPtr conn.ownEngine (Process.dropEngine g)).objs = _
    cases conn.ownEngine with
    | none => exact ⟨rfl, rfl⟩
    | some e => exact ⟨rfl, rfl⟩
  constructor
  · rw [h₄.1]
    refine .of_others ?_ (fun i hi => ?_) (.inr rfl)
    · rw [h₃.1, h₂.1, h₁.1]
    · rw [h₃.2.1 i hi, h₂.1, h₁.1]
  · rw [h₄.2, h₃.2.2, h₂.2]
    exact .of_others h₁.2.1 h₁.2.2 (.inr rfl)

theorem released_isLocal (g : Globals) (conn : SCFConnectionImpl) (p : Process) :
    Local conn conn.released p (p.released g conn) :=
  ⟨(released_confined g conn p).1, (released_confined g conn p).2⟩

theorem close_isLocal (g : Globals) (env : ConnEnv) (conn : SCFConnectionImpl) (p : Process) :
    Local conn ((close g env conn).run p).1.2 p ((close g env conn).run p).2 := by
  rcases close_run g env conn p with ⟨-, hrun⟩ | ⟨-, -, ret, hrun⟩
  · rw [hrun]
    exact .refl conn p
  · rw [hrun]
    show Local conn { conn with state := .closed, handshakeDone := false } p
      (p.atPtr conn.transport Process.shut)
    cases htransport : conn.transport with
    | none => exact (Local.refl conn p).congr rfl rfl htransport.symm rfl
    | some t =>
      refine ⟨?_, .refl _ _⟩
      rw [htransport]
      refine .of_others (Heap.size_modify _ _ _) (fun i hi => ?_) (.inl rfl)
      show (p.transports.modify t fun _ => .shut).read i = _
      rw [Heap.read_modify, if_neg fun hti => hi (congrArg some hti)]

/-! ### Opening -/

theorem ConnectOutcome.isLocal {g : Globals} {env : ConnEnv} {conn conn' : SCFConnectionImpl}
    {p p' : Process} {ret : Errno} (h : ConnectOutcome g env conn p ((ret, conn'), p')) :
    Local conn conn' p p' := by
  cases h with
  | notSetUp hret hsetup => exact hsetup.keeps.isLocal.congr rfl rfl rfl rfl
  | @noTransport _ conn₁ conn₂ p₁ p₂ hsetup hret htransport =>
    refine (hsetup.keeps.isLocal.trans htransport.isLocal).trans ?_
    exact (released_isLocal g conn₂ p₂).congr rfl rfl rfl rfl
  | @noObj _ conn₁ conn₂ conn₃ p₁ p₂ p₃ ctx c hsetup htransport hctx hread hconf hret hobj =>
    refine ((hsetup.keeps.isLocal.trans htransport.isLocal).trans hobj.isLocal).trans ?_
    exact (released_isLocal g conn₃ p₃).congr rfl rfl rfl rfl
  | handshake hsetup htransport hctx hread hconf hobj hshake =>
    exact ((hsetup.keeps.isLocal.trans htransport.isLocal).trans hobj.isLocal).trans hshake.isLocal

theorem ListenOutcome.isLocal {g : Globals} {env : ConnEnv} {conn conn' : SCFConnectionImpl}
    {p p' : Process} {ret : Errno} (h : ListenOutcome g env conn p ((ret, conn'), p')) :
    Local conn conn' p p' := by
  cases h with
  | notSetUp hret hsetup => exact hsetup.keeps.isLocal.congr rfl rfl rfl rfl
  | noTransport hsetup hret htransport =>
    exact (hsetup.keeps.isLocal.trans htransport.isLocal).congr rfl rfl rfl rfl
  | done hsetup htransport => exact hsetup.keeps.isLocal.trans htransport.isLocal

/-- What `Accept` does is confined to the new connection. -/
theorem AcceptOnOutcome.confined {g : Globals} {env : ConnEnv} {conn : SCFConnectionImpl}
    {conn' : Option SCFConnectionImpl} {p p' : Process}
    (h : AcceptOnOutcome g env conn p (conn', p')) :
    Heap.Confined conn.transport (conn'.bind SCFConnectionImpl.transport) p.transports
        p'.transports ∧
      Heap.Confined conn.policyObj (conn'.bind SCFConnectionImpl.policyObj) p.objs p'.objs := by
  have hreleased : ∀ {conn₁ p₁}, Local conn conn₁ p p₁ →
      Heap.Confined conn.transport none p.transports (p₁.released g conn₁).transports ∧
        Heap.Confined conn.policyObj none p.objs (p₁.released g conn₁).objs := fun {conn₁ p₁} h =>
    ⟨h.transports.trans (released_confined g conn₁ p₁).1,
      h.objs.trans (released_confined g conn₁ p₁).2⟩
  cases h with
  | notSetUp hret hsetup => exact hreleased hsetup.keeps.isLocal
  | noObj hsetup hctx hread hret hobj =>
    exact hreleased (hsetup.keeps.isLocal.trans hobj.isLocal)
  | notShaken hsetup hctx hread hobj hret hwants hshake =>
    exact hreleased ((hsetup.keeps.isLocal.trans hobj.isLocal).trans hshake.isLocal)
  | handshake hsetup hctx hread hobj hret hshake =>
    have hlocal := (hsetup.keeps.isLocal.trans hobj.isLocal).trans hshake.isLocal
    exact ⟨hlocal.transports, hlocal.objs⟩

theorem AcceptOutcome.confined {g : Globals} {env : ConnEnv} {conn : SCFConnectionImpl}
    {conn' : Option SCFConnectionImpl} {p p' : Process}
    (h : AcceptOutcome g env conn p (conn', p')) :
    Heap.Confined none (conn'.bind SCFConnectionImpl.transport) p.transports p'.transports ∧
      Heap.Confined none (conn'.bind SCFConnectionImpl.policyObj) p.objs p'.objs := by
  cases h with
  | nothing => exact ⟨.refl _ _, .refl _ _⟩
  | noConn =>
    refine ⟨(Heap.Confined.alloc_keep none ⟨true, env.nativeHandle⟩ p.transports).trans ?_,
      .refl _ _⟩
    refine .of_others (Heap.size_free _ _) (fun i hi => ?_) (.inr rfl)
    show ((p.transports.alloc _).2.free p.transports.size).read i = _
    rw [Heap.read_free, if_neg fun hti => hi (congrArg some hti)]
  | child hreach h =>
    obtain ⟨-, hobjs, htransports, -⟩ := atPtr_inject g conn.cryptoEngine
      (p.addTransport ⟨true, env.nativeHandle⟩)
    obtain ⟨ht, ho⟩ := h.confined
    rw [htransports] at ht
    rw [hobjs] at ho
    exact ⟨(Heap.Confined.alloc_keep none _ p.transports).trans ht, ho⟩

end Scf
