import ScfSecurity.Connection.EngineLife
import ScfSecurity.Library.Custody

/-!
# What connections hold

A connection acquires a context, an object, a transport and a crypto engine, and `Cleanup` gives
them back. It knows them by one pointer each, so that whatever a pointer is overwritten with must
not be all there is. `SetupPolicyContext` overwrites the pointer to the context without looking at
it, and `SetupPSK` keeps no pointer at all to the object it creates.

A history goes along with the connections that says which of them has acquired what.

## Main definitions

- `ledgerMachine`: the connections of a process, with the owners of everything
- `NothingLeft`: what is alive was acquired by a connection that still exists
- `Cleans`: where `Cleanup` is called, and on what
- `FindsAll`: `Cleanup` finds everything alive that it releases, with the references it drops
- `Orderly`: a call overwrites no pointer, and creates no object for a lookup

## Main results

- `releasedOnce_of_orderly`: in a run of such calls nothing is left behind, and nothing is released
  twice
-/

namespace Scf

open Automaton

/-- The connections that have acquired contexts, objects, transports and engines. -/
structure Owners where
  ctxs : ℕ → ℕ := fun _ => 0
  objs : ℕ → ℕ := fun _ => 0
  transports : ℕ → ℕ := fun _ => 0
  engines : ℕ → ℕ := fun _ => 0

/-- The owners after a call on this memory, in which connection `i` acquires what is new. -/
def Owners.after (p : Process) (i : ℕ) (o : Owners) : Owners where
  ctxs := p.ctxs.owners i o.ctxs
  objs := p.objs.owners i o.objs
  transports := p.transports.owners i o.transports
  engines := p.engines.owners i o.engines

/-- The connections, and the owners of everything they have acquired. -/
abbrev OwnerHistory := System × Owners

def ledgerMachine (g : Globals) : Machine OwnerHistory ConnCall ConnAnswer where
  initial s := s = ({}, {})
  step s call :=
    let (answer, s') := call.apply g s.1
    (answer, s', s.2.after s.1.process (call.actor s.1))

/-- What is alive was acquired by a connection that still exists. So what a connection has acquired
is gone when it is destroyed, or given up by `Accept`. -/
structure NothingLeft (s : OwnerHistory) : Prop where
  ctxs : ∀ x, s.1.process.ctxs.read x ≠ none → s.1.conns.read (s.2.ctxs x) ≠ none
  objs : ∀ x, s.1.process.objs.read x ≠ none → s.1.conns.read (s.2.objs x) ≠ none
  transports : ∀ x, s.1.process.transports.read x ≠ none → s.1.conns.read (s.2.transports x) ≠ none
  engines : ∀ x, s.1.process.engines.read x ≠ none → s.1.conns.read (s.2.engines x) ≠ none

/-- `Cleanup` finds everything alive that it releases. The context has a reference for the
connection and one for its object, and no others. -/
structure FindsAll (g : Globals) (p : Process) (conn : SCFConnectionImpl) : Prop where
  init : conn.policyCtx ≠ none → g.scfInitialized = true
  ctx : ∀ ctx, conn.policyCtx = some ctx →
    ∃ c, p.ctxs.read ctx = some c ∧ c.refCnt = if conn.policyObj = none then 1 else 2
  obj : ∀ obj, conn.policyObj = some obj →
    ∃ o, p.objs.read obj = some o ∧ conn.policyCtx = some o.policyCtx
  transport : ∀ t, conn.transport = some t → p.transports.read t ≠ none
  engine : ∀ e, conn.ownEngine = some e → p.engines.read e ≠ none

/-- The call runs `Cleanup` on this connection and this memory: the destructor, `Connect` behind a
transport or an object that has failed, and `Accept` when it deletes the new connection. -/
inductive Cleans (g : Globals) (s : System) : ConnCall → SCFConnectionImpl → Process → Prop
  | destroyed {i : ℕ} {env : ConnEnv} {conn : SCFConnectionImpl}
      (hread : s.conns.read i = some conn) : Cleans g s (.destroy i env) conn s.process
  | noTransport {i : ℕ} {env : ConnEnv} {conn conn₁ conn₂ : SCFConnectionImpl} {p₁ p₂ : Process}
      {ret : Errno} (hread : s.conns.read i = some conn)
      (hsetup : (setupPolicyContext g env.setup conn).run s.process = ((.success, conn₁), p₁))
      (htransport : (setupTransportClient env conn₁).run p₁ = ((ret, conn₂), p₂))
      (hret : ret ≠ .success) :
      Cleans g s (.connect i env) { conn₂ with state := .error } p₂
  | noObj {i : ℕ} {env : ConnEnv} {conn conn₁ conn₂ conn₃ : SCFConnectionImpl} {p₁ p₂ p₃ : Process}
      {ret : Errno} (hread : s.conns.read i = some conn)
      (hsetup : (setupPolicyContext g env.setup conn).run s.process = ((.success, conn₁), p₁))
      (htransport : (setupTransportClient env conn₁).run p₁ = ((.success, conn₂), p₂))
      (hobj : (createPolicyObj g env conn₂).run p₂ = ((ret, conn₃), p₃)) (hret : ret ≠ .success) :
      Cleans g s (.connect i env) { conn₃ with state := .error } p₃
  | childNotSetUp {i : ℕ} {env : ConnEnv} {conn conn₁ : SCFConnectionImpl} {p₀ p₁ : Process}
      {ret : Errno} (hread : s.conns.read i = some conn) (hreach : AcceptReaches env conn)
      (hchild : p₀ = (s.process.addTransport ⟨true, env.nativeHandle⟩).atPtr conn.cryptoEngine
        (Process.inject g))
      (hsetup : (setupPolicyContext g env.setup (conn.child s.process.transports.size)).run p₀ =
        ((ret, conn₁), p₁)) (hret : ret ≠ .success) :
      Cleans g s (.accept i env) conn₁ p₁
  | childNoObj {i : ℕ} {env : ConnEnv} {conn conn₁ conn₂ : SCFConnectionImpl} {p₀ p₁ p₂ : Process}
      {ret : Errno} (hread : s.conns.read i = some conn) (hreach : AcceptReaches env conn)
      (hchild : p₀ = (s.process.addTransport ⟨true, env.nativeHandle⟩).atPtr conn.cryptoEngine
        (Process.inject g))
      (hsetup : (setupPolicyContext g env.setup (conn.child s.process.transports.size)).run p₀ =
        ((.success, conn₁), p₁))
      (hobj : (createPolicyObj g env conn₁).run p₁ = ((ret, conn₂), p₂)) (hret : ret ≠ .success) :
      Cleans g s (.accept i env) conn₂ p₂
  | childNotShaken {i : ℕ} {env : ConnEnv} {conn conn₁ conn₂ conn₃ : SCFConnectionImpl}
      {p₀ p₁ p₂ p₃ : Process} {ret : Errno} (hread : s.conns.read i = some conn)
      (hreach : AcceptReaches env conn)
      (hchild : p₀ = (s.process.addTransport ⟨true, env.nativeHandle⟩).atPtr conn.cryptoEngine
        (Process.inject g))
      (hsetup : (setupPolicyContext g env.setup (conn.child s.process.transports.size)).run p₀ =
        ((.success, conn₁), p₁))
      (hobj : (createPolicyObj g env conn₁).run p₁ = ((.success, conn₂), p₂))
      (hshake : (handshakeStep g env conn₂).run p₂ = ((ret, conn₃), p₃)) (hret : ret ≠ .success)
      (hwants : ¬ ret.Wants) :
      Cleans g s (.accept i env) conn₃ p₃

/-- `SetupPSK` creates an object for its lookup. -/
def LooksUp (g : Globals) (env : SetupEnv) (conn : SCFConnectionImpl) (p : Process) : Prop :=
  env.ctxAllocOk = true ∧ PskLookup g env conn.config (conn.libraryCtx env p)

/-- A connection is opened only if it has neither a context nor a transport, and no object is
created for a lookup. -/
def Orderly (g : Globals) (s : OwnerHistory) : ConnCall → Prop
  | .connect i env | .listen i env => ∀ conn, s.1.conns.read i = some conn →
    conn.policyCtx = none ∧ conn.transport = none ∧ ¬ LooksUp g env.setup conn s.1.process
  | .accept i env => ∀ conn, s.1.conns.read i = some conn → AcceptReaches env conn →
    ¬ LooksUp g env.setup conn s.1.process
  | _ => True

/-! ### Exchanges -/

/-- A connection, or none, becomes another one, or none: what it held before it holds still or has
freed, and it holds all it has created. References and objects of others do not change. -/
structure Exchange (conn conn' : Option SCFConnectionImpl) (p p' : Process) : Prop where
  ctxs : Heap.Trades SCFPolicyCtx.refCnt (conn.bind SCFConnectionImpl.policyCtx)
    (conn'.bind SCFConnectionImpl.policyCtx) p.ctxs p'.ctxs
  objs : Heap.Trades BoundObj.policyCtx (conn.bind SCFConnectionImpl.policyObj)
    (conn'.bind SCFConnectionImpl.policyObj) p.objs p'.objs
  transports : Heap.Trades (fun _ => ()) (conn.bind SCFConnectionImpl.transport)
    (conn'.bind SCFConnectionImpl.transport) p.transports p'.transports
  engines : Heap.Trades (fun _ => ()) (conn.bind SCFConnectionImpl.ownEngine)
    (conn'.bind SCFConnectionImpl.ownEngine) p.engines p'.engines

theorem Exchange.trans {conn conn' conn'' : Option SCFConnectionImpl} {p p' p'' : Process}
    (h : Exchange conn conn' p p') (h' : Exchange conn' conn'' p' p'') : Exchange conn conn'' p p'' :=
  ⟨h.ctxs.trans h'.ctxs, h.objs.trans h'.objs, h.transports.trans h'.transports,
    h.engines.trans h'.engines⟩

section Exchange

variable {g : Globals} {conn conn' : SCFConnectionImpl} {p p' : Process}

theorem FindsAll.ctx_live (h : FindsAll g p conn) :
    ∀ ctx, conn.policyCtx = some ctx → p.ctxs.read ctx ≠ none := by
  intro ctx hctx
  obtain ⟨c, hread, -⟩ := h.ctx ctx hctx
  rw [hread]
  nofun

theorem FindsAll.obj_live (h : FindsAll g p conn) :
    ∀ obj, conn.policyObj = some obj → p.objs.read obj ≠ none := by
  intro obj hobj
  obtain ⟨o, hread, -⟩ := h.obj obj hobj
  rw [hread]
  nofun

/-- Without a context there is no object. -/
theorem FindsAll.noObj (h : FindsAll g p conn) (hctx : conn.policyCtx = none) :
    conn.policyObj = none := by
  by_contra hne
  obtain ⟨obj, hobj⟩ := Option.ne_none_iff_exists'.mp hne
  obtain ⟨o, -, hbound⟩ := h.obj obj hobj
  rw [hctx] at hbound
  cases hbound

/-- A step of a connection that keeps the books in order. -/
structure Proper (g : Globals) (conn conn' : SCFConnectionImpl) (p p' : Process) : Prop where
  exchange : Exchange (some conn) (some conn') p p'
  finds : FindsAll g p' conn'

theorem Proper.trans {conn'' : SCFConnectionImpl} {p'' : Process} (h : Proper g conn conn' p p')
    (h' : Proper g conn' conn'' p' p'') : Proper g conn conn'' p p'' :=
  ⟨h.exchange.trans h'.exchange, h'.finds⟩

/-- Only the adaptor's engine changes. -/
theorem FindsAll.proper (h : FindsAll g p conn) (hctxs : p'.ctxs = p.ctxs) (hobjs : p'.objs = p.objs)
    (htransports : p'.transports = p.transports) (hengines : p'.engines = p.engines) :
    Proper g conn conn p p' := by
  refine ⟨⟨?_, ?_, ?_, ?_⟩, h.init, ?_, ?_, ?_, ?_⟩
  · rw [hctxs]
    exact .refl h.ctx_live
  · rw [hobjs]
    exact .refl h.obj_live
  · rw [htransports]
    exact .refl h.transport
  · rw [hengines]
    exact .refl h.engine
  · rw [hctxs]
    exact h.ctx
  · rw [hobjs]
    exact h.obj
  · rw [htransports]
    exact h.transport
  · rw [hengines]
    exact h.engine

theorem FindsAll.refl (h : FindsAll g p conn) : Proper g conn conn p p := h.proper rfl rfl rfl rfl

/-- A calm step keeps pointers and references. -/
theorem Calm.proper (hp : Calm p p') (hconn : SameHoldings conn conn') (h : FindsAll g p conn) :
    Proper g conn conn' p p' := by
  have hrefs : ∀ x, (p'.ctxs.read x).map SCFPolicyCtx.refCnt =
      (p.ctxs.read x).map SCFPolicyCtx.refCnt := by
    intro x
    have hessence := congrArg (Option.map Prod.fst) (hp.ctxs x)
    rw [Option.map_map, Option.map_map] at hessence
    exact hessence
  have hunit : ∀ x, (p'.transports.read x).map (fun _ => ()) =
      (p.transports.read x).map fun _ => () := by
    intro x
    have := hp.transports x
    cases h' : p'.transports.read x <;> cases h : p.transports.read x <;> simp_all
  have hctx : ∀ ctx, conn.policyCtx = some ctx → p'.ctxs.read ctx ≠ none := fun ctx hctx =>
    Heap.read_ne_none_of_map (hrefs ctx) (h.ctx_live ctx hctx)
  have hobj : ∀ obj, conn.policyObj = some obj → p'.objs.read obj ≠ none := fun obj hobj =>
    Heap.read_ne_none_of_map (hp.objs obj) (h.obj_live obj hobj)
  have htransport : ∀ t, conn.transport = some t → p'.transports.read t ≠ none := fun t ht =>
    Heap.read_ne_none_of_map (hunit t) (h.transport t ht)
  refine ⟨⟨?_, ?_, ?_, ?_⟩, ?_, ?_, ?_, ?_, ?_⟩
  · show Heap.Trades _ conn.policyCtx conn'.policyCtx _ _
    rw [hconn.policyCtx]
    exact .of_map hp.ctxSize (fun x _ => hrefs x) hctx
  · show Heap.Trades _ conn.policyObj conn'.policyObj _ _
    rw [hconn.policyObj]
    exact .of_map hp.objSize (fun x _ => hp.objs x) hobj
  · show Heap.Trades _ conn.transport conn'.transport _ _
    rw [hconn.transport]
    exact .of_map hp.transportSize (fun x _ => hunit x) htransport
  · show Heap.Trades _ conn.ownEngine conn'.ownEngine _ _
    rw [hconn.ownEngine, hp.engines]
    exact .refl h.engine
  · rw [hconn.policyCtx]
    exact h.init
  · rw [hconn.policyCtx, hconn.policyObj]
    intro ctx hctx'
    obtain ⟨c, hread, hc⟩ := h.ctx ctx hctx'
    have hmap := hrefs ctx
    rw [hread] at hmap
    obtain ⟨c', hread', hc'⟩ := Option.map_eq_some_iff.mp hmap
    exact ⟨c', hread', hc'.trans hc⟩
  · rw [hconn.policyCtx, hconn.policyObj]
    intro obj hobj'
    obtain ⟨o, hread, ho⟩ := h.obj obj hobj'
    have hmap := hp.objs obj
    rw [hread] at hmap
    obtain ⟨o', hread', ho'⟩ := Option.map_eq_some_iff.mp hmap
    exact ⟨o', hread', ho.trans (congrArg some ho'.symm)⟩
  · rw [hconn.transport]
    exact htransport
  · rw [hconn.ownEngine, hp.engines]
    exact h.engine

end Exchange

/-! ### The stages of opening -/

section Stages

variable {g : Globals} {conn conn' : SCFConnectionImpl} {p p' : Process} {ret : Errno}

theorem EngineOutcome.proper {env : SetupEnv} (h : EngineOutcome g env conn p ((ret, conn'), p'))
    (hf : FindsAll g p conn) :
    Proper g conn conn' p p' ∧ conn'.policyCtx = conn.policyCtx ∧
      conn'.policyObj = conn.policyObj := by
  cases h with
  | reused h => exact ⟨hf.proper rfl rfl rfl rfl, rfl, rfl⟩
  | absent h => exact ⟨hf.refl, rfl, rfl⟩
  | @created engine h henv hinit =>
    have hnone : conn.ownEngine = none := by
      unfold SCFConnectionImpl.ownEngine
      rw [h]
      exact ite_self none
    refine ⟨⟨⟨.refl hf.ctx_live, .refl hf.obj_live, .refl hf.transport, ?_⟩, hf.init, hf.ctx, hf.obj,
      hf.transport, fun e he => ?_⟩, rfl, rfl⟩
    · show Heap.Trades _ conn.ownEngine (some p.engines.size) p.engines (p.engines.alloc engine).2
      rw [hnone]
      exact .alloc _ engine p.engines
    · obtain rfl := Option.some.inj he
      show (p.engines.alloc engine).2.read p.engines.size ≠ none
      rw [Heap.read_alloc, Heap.alloc_fst, if_pos rfl]
      nofun

/-- A connection without a context gets one, and has the only reference to it. -/
theorem SetupOutcome.proper {env : SetupEnv} (h : SetupOutcome g env conn p ((ret, conn'), p'))
    (hf : FindsAll g p conn) (hctx : conn.policyCtx = none) (hlook : ¬ LooksUp g env conn p) :
    Proper g conn conn' p p' ∧ conn'.policyObj = none := by
  have hobj := hf.noObj hctx
  cases h with
  | noAdaptor hret hnot hengine =>
    obtain ⟨hproper, -, hobj'⟩ := hengine.proper hf
    exact ⟨hproper, hobj'.trans hobj⟩
  | @noCtx conn'' _ hnot hengine =>
    obtain ⟨hproper, hctx', hobj'⟩ := hengine.proper hf
    have hsame : { conn'' with policyCtx := none } = conn'' := by rw [← hctx, ← hctx']
    rw [hsame]
    exact ⟨hproper, hobj'.trans hobj⟩
  | @withCtx conn'' q _ _ hinit halloc hengine hprovider hctx'' =>
    obtain ⟨hproper, hctx', hobj'⟩ := hengine.proper hf
    have hnoctx := hctx'.trans hctx
    have hnoobj := hobj'.trans hobj
    cases hctx'' with
    | lookup hlookup hret hc hconf =>
      rw [hprovider] at hlookup
      exact absurd ⟨halloc, hlookup⟩ hlook
    | @plain _ c hlookup hret hc hconf =>
      have hfq := hproper.finds
      refine ⟨hproper.trans ⟨⟨?_, .refl hfq.obj_live, .refl hfq.transport, .refl hfq.engine⟩,
        fun _ => hinit, fun ctx hsome => ?_, fun obj hsome => ?_, hfq.transport, hfq.engine⟩, hnoobj⟩
      · show Heap.Trades _ conn''.policyCtx (some q.ctxs.size) q.ctxs (q.ctxs.alloc c).2
        rw [hnoctx]
        exact .alloc _ c q.ctxs
      · obtain rfl := Option.some.inj hsome
        refine ⟨c, read_addCtx c q, ?_⟩
        show c.refCnt = if conn''.policyObj = none then 1 else 2
        rw [if_pos hnoobj, hc.refCnt]
      · change conn''.policyObj = some obj at hsome
        rw [hnoobj] at hsome
        cases hsome

theorem TransportOutcome.proper {env : ConnEnv} {opened : SCFConnectionState}
    (h : TransportOutcome env opened conn p ((ret, conn'), p')) (hf : FindsAll g p conn)
    (ht : conn.transport = none) : Proper g conn conn' p p' := by
  -- a transport that is created and kept
  have hadded : ∀ (transport : Transport) (state : SCFConnectionState),
      Proper g conn { conn with transport := some p.transports.size, state } p
        (p.addTransport transport) := by
    intro transport state
    refine ⟨⟨.refl hf.ctx_live, .refl hf.obj_live, ?_, .refl hf.engine⟩, hf.init, hf.ctx, hf.obj,
      fun t hsome => ?_, hf.engine⟩
    · show Heap.Trades _ conn.transport (some p.transports.size) p.transports
        (p.transports.alloc transport).2
      rw [ht]
      exact .alloc _ transport p.transports
    · obtain rfl := Option.some.inj hsome
      show (p.transports.alloc transport).2.read p.transports.size ≠ none
      rw [Heap.read_alloc, Heap.alloc_fst, if_pos rfl]
      nofun
  cases h with
  | notCreated h =>
    have hsame : { conn with transport := none } = conn := by rw [← ht]
    rw [hsame]
    exact hf.refl
  | notOpened h hopen => exact hadded .shut conn.state
  | done h hopen => exact hadded ⟨true, env.nativeHandle⟩ opened

/-- A connection without an object gets one on its context. -/
theorem ObjOutcome.proper {env : ConnEnv} {ctx : ℕ} {c : SCFPolicyCtx}
    (h : ObjOutcome g env conn ctx c p ((ret, conn'), p')) (hf : FindsAll g p conn)
    (hctx : conn.policyCtx = some ctx) (hread : p.ctxs.read ctx = some c)
    (hobj : conn.policyObj = none) : Proper g conn conn' p p' := by
  cases h with
  | notCreated h =>
    have hsame : { conn with policyObj := none } = conn := by rw [← hobj]
    rw [hsame]
    exact hf.refl
  | @created _ o h hret hwants ho =>
    have hread' : (p.bindObj ctx c o).ctxs.read ctx = some { c with refCnt := c.refCnt + 1 } :=
      read_setCtx hread _
    have hone : c.refCnt = 1 := by
      obtain ⟨c', hread₁, hc'⟩ := hf.ctx ctx hctx
      obtain rfl := Option.some.inj (hread.symm.trans hread₁)
      rw [hc', if_pos hobj]
    refine ⟨⟨?_, ?_, .refl hf.transport, .refl hf.engine⟩, hf.init, fun ctx' hsome => ?_,
      fun obj hsome => ?_, hf.transport, hf.engine⟩
    · refine .of_map (Heap.size_modify _ _ _) (fun x hx => ?_) fun x hx => ?_
      · show ((p.ctxs.modify ctx _).read x).map _ = _
        rw [Heap.read_modify, if_neg (fun hxx : ctx = x => hx (hxx ▸ hctx))]
      · obtain rfl := Option.some.inj (hctx.symm.trans hx)
        rw [hread']
        nofun
    · show Heap.Trades _ conn.policyObj (some p.objs.size) p.objs (p.objs.alloc ⟨o, ctx⟩).2
      rw [hobj]
      exact .alloc _ _ p.objs
    · obtain rfl := Option.some.inj (hctx.symm.trans hsome)
      refine ⟨_, hread', ?_⟩
      show c.refCnt + 1 = 2
      rw [hone]
      rfl
    · obtain rfl := Option.some.inj hsome
      exact ⟨_, read_bindObj ctx c o p, hctx⟩

end Stages

/-! ### Releasing -/

section Releasing

variable {g : Globals} {conn : SCFConnectionImpl} {p : Process}

theorem FindsAll.holdsAll (h : FindsAll g p conn) {ctx : ℕ} (hctx : conn.policyCtx = some ctx) :
    ∃ c, p.ctxs.read ctx = some c ∧ HoldsAll g p conn ctx c := by
  have hinit := h.init (by rw [hctx]; nofun)
  obtain ⟨c, hread, hc⟩ := h.ctx ctx hctx
  refine ⟨c, hread, hinit, hctx, ?_⟩
  cases hobj : conn.policyObj with
  | none =>
    rw [hobj, if_pos rfl] at hc
    exact .inl hc
  | some obj =>
    rw [hobj, if_neg nofun] at hc
    obtain ⟨o, hobjread, hbound⟩ := h.obj obj hobj
    exact .inr ⟨hc, obj, o, rfl, hobjread, Option.some.inj (hbound.symm.trans hctx)⟩

/-- The objects behind a `Cleanup` that finds everything. -/
theorem FindsAll.released_objs (h : FindsAll g p conn) :
    (p.released g conn).objs =
      match conn.policyObj with
      | none => p.objs
      | some obj => p.objs.free obj := by
  have hlater : (p.released g conn).objs = (p.atPtr conn.policyObj (Process.dropObj g)).objs := by
    rw [released_eq]
    unfold Process.stripped
    generalize p.atPtr conn.policyObj (Process.dropObj g) = q
    have hengine : ∀ q : Process, (q.atPtr conn.ownEngine (Process.dropEngine g)).objs = q.objs := by
      intro q
      cases conn.ownEngine <;> rfl
    have htransport : ∀ q : Process, (q.atPtr conn.transport Process.dropTransport).objs = q.objs := by
      intro q
      cases conn.transport <;> rfl
    rw [hengine, htransport]
    cases conn.policyCtx with
    | none => rfl
    | some ctx => exact (dropCtx_keeps_others g ctx q).2
  rw [hlater]
  cases hobj : conn.policyObj with
  | none => rfl
  | some obj =>
    obtain ⟨o, hread, hbound⟩ := h.obj obj hobj
    have hinit := h.init (by rw [hbound]; nofun)
    show (p.dropObj g obj).objs = _
    unfold Process.dropObj
    rw [hinit, g.adaptor_of_init hinit, hread]
    rfl

theorem released_transports (g : Globals) (conn : SCFConnectionImpl) (p : Process) :
    (p.released g conn).transports =
      match conn.transport with
      | none => p.transports
      | some t => p.transports.free t := by
  have hbefore : ((p.atPtr conn.policyObj (Process.dropObj g)).atPtr conn.policyCtx
      (Process.dropCtx g)).transports = p.transports := by
    have hobj : (p.atPtr conn.policyObj (Process.dropObj g)).transports = p.transports := by
      cases conn.policyObj with
      | none => rfl
      | some obj => exact (dropObj_others g obj p).1
    cases conn.policyCtx with
    | none => exact hobj
    | some ctx => exact (dropCtx_keeps_others g ctx _).1.trans hobj
  have hengine : ∀ q : Process,
      (q.atPtr conn.ownEngine (Process.dropEngine g)).transports = q.transports := by
    intro q
    cases conn.ownEngine <;> rfl
  rw [released_eq, hengine]
  unfold Process.stripped
  cases conn.transport with
  | none => exact hbefore
  | some t => exact congrArg (Heap.free t) hbefore

/-- The contexts of others behind a `Cleanup` that finds everything. -/
theorem FindsAll.released_ctxs (h : FindsAll g p conn) {x : ℕ} (hx : conn.policyCtx ≠ some x) :
    (p.released g conn).ctxs.read x = p.ctxs.read x := by
  have hlater : (p.released g conn).ctxs = ((p.atPtr conn.policyObj (Process.dropObj g)).atPtr
      conn.policyCtx (Process.dropCtx g)).ctxs := by
    rw [released_eq]
    unfold Process.stripped
    cases conn.ownEngine <;> cases conn.transport <;> rfl
  have hobj : (p.atPtr conn.policyObj (Process.dropObj g)).ctxs.read x = p.ctxs.read x := by
    cases hobj : conn.policyObj with
    | none => rfl
    | some obj =>
      obtain ⟨o, hread, hbound⟩ := h.obj obj hobj
      have hinit := h.init (by rw [hbound]; nofun)
      show (p.dropObj g obj).ctxs.read x = _
      unfold Process.dropObj
      rw [hinit, g.adaptor_of_init hinit, hread]
      show (p.releaseCtx o.policyCtx).ctxs.read x = _
      rw [read_releaseCtx, if_neg (fun heq : o.policyCtx = x => hx (heq ▸ hbound))]
  rw [hlater, ← hobj]
  cases hctx : conn.policyCtx with
  | none => rfl
  | some ctx =>
    show (Process.dropCtx g ctx _).ctxs.read x = _
    unfold Process.dropCtx
    split_ifs
    · rfl
    · rw [read_releaseCtx, if_neg (fun heq : ctx = x => hx (heq ▸ hctx))]

/-- A `Cleanup` that finds everything gives everything back. -/
theorem FindsAll.release (h : FindsAll g p conn) :
    Exchange (some conn) none p (p.released g conn) := by
  refine ⟨?_, ?_, ?_, ?_⟩
  · refine .of_freed (released_ctxSize g conn p) (fun x hx => ?_) fun x hx => ?_
    · rw [h.released_ctxs hx]
    · obtain ⟨c, hread, hholds⟩ := h.holdsAll hx
      have hfreed := stripped_frees hholds hread
      rw [released_eq]
      cases conn.ownEngine <;> exact hfreed
  · show Heap.Trades _ conn.policyObj none _ _
    rw [h.released_objs]
    cases conn.policyObj with
    | none => exact .refl nofun
    | some obj => exact .free _ obj p.objs
  · show Heap.Trades _ conn.transport none _ _
    rw [released_transports]
    cases conn.transport with
    | none => exact .refl nofun
    | some t => exact .free _ t p.transports
  · show Heap.Trades _ conn.ownEngine none _ _
    rcases released_engines g conn p with ⟨hown, hengines, -⟩ | ⟨e, hown, hengines, -⟩
    · rw [hown, hengines]
      exact .refl nofun
    · rw [hown, hengines]
      exact .free _ e p.engines

/-- A released connection holds nothing. -/
theorem released_ownEngine (conn : SCFConnectionImpl) : conn.released.ownEngine = none := by
  unfold SCFConnectionImpl.released SCFConnectionImpl.ownEngine
  cases conn.ownsCryptoEngine with
  | false => rfl
  | true =>
    show (if _ then none else none) = none
    exact ite_self none

theorem FindsAll.released (h : FindsAll g p conn) :
    Proper g conn conn.released p (p.released g conn) := by
  have hex := h.release
  refine ⟨⟨hex.ctxs, hex.objs, hex.transports, ?_⟩, fun hne => absurd rfl hne, nofun, nofun, nofun,
    fun e he => ?_⟩
  · show Heap.Trades _ conn.ownEngine conn.released.ownEngine _ _
    rw [released_ownEngine]
    exact hex.engines
  · rw [released_ownEngine] at he
    cases he

end Releasing

/-! ### Opening -/

section Opening

variable {g : Globals} {env : ConnEnv} {conn conn' : SCFConnectionImpl} {p p' : Process}

/-- The state of a connection does not concern what it holds. -/
theorem Proper.setState (h : Proper g conn conn' p p') (state : SCFConnectionState) :
    Proper g conn { conn' with state } p p' :=
  ⟨⟨h.exchange.ctxs, h.exchange.objs, h.exchange.transports, h.exchange.engines⟩, h.finds.init,
    h.finds.ctx, h.finds.obj, h.finds.transport, h.finds.engine⟩

/-- Context and transport of a connection that had neither. -/
theorem SetupOutcome.transport_proper {opened : SCFConnectionState}
    {conn₁ conn₂ : SCFConnectionImpl} {p₁ p₂ : Process} {ret ret' : Errno}
    (hsetup : SetupOutcome g env.setup conn p ((ret, conn₁), p₁))
    (htransport : TransportOutcome env opened conn₁ p₁ ((ret', conn₂), p₂))
    (hf : FindsAll g p conn) (hctx : conn.policyCtx = none) (ht : conn.transport = none)
    (hlook : ¬ LooksUp g env.setup conn p) :
    Proper g conn conn₂ p p₂ ∧ conn₂.policyObj = none := by
  obtain ⟨hproper, hobj⟩ := hsetup.proper hf hctx hlook
  have ht₁ : conn₁.transport = none := hsetup.keeps.transport.trans ht
  exact ⟨hproper.trans (htransport.proper hproper.finds ht₁), htransport.objs.2.1.trans hobj⟩

/-- Context, transport and object of a connection that had none of them. -/
theorem SetupOutcome.obj_proper {opened : SCFConnectionState}
    {conn₁ conn₂ conn₃ : SCFConnectionImpl} {p₁ p₂ p₃ : Process} {ret : Errno} {ctx : ℕ}
    {c : SCFPolicyCtx} (hsetup : SetupOutcome g env.setup conn p ((.success, conn₁), p₁))
    (htransport : TransportOutcome env opened conn₁ p₁ ((.success, conn₂), p₂))
    (hctx₁ : conn₁.policyCtx = some ctx) (hread : p₁.ctxs.read ctx = some c)
    (hobj : ObjOutcome g env conn₂ ctx c p₂ ((ret, conn₃), p₃))
    (hf : FindsAll g p conn) (hctx : conn.policyCtx = none) (ht : conn.transport = none)
    (hlook : ¬ LooksUp g env.setup conn p) : Proper g conn conn₃ p p₃ := by
  obtain ⟨hproper, hnoobj⟩ := hsetup.transport_proper htransport hf hctx ht hlook
  obtain ⟨hctxs, hctx₂⟩ := htransport.ctxs
  have hread₂ := (congrArg (Heap.read ctx) hctxs).trans hread
  exact hproper.trans (hobj.proper hproper.finds (hctx₂.trans hctx₁) hread₂ hnoobj)

theorem ConnectOutcome.proper {ret : Errno} (h : ConnectOutcome g env conn p ((ret, conn'), p'))
    (hf : FindsAll g p conn) (hctx : conn.policyCtx = none) (ht : conn.transport = none)
    (hlook : ¬ LooksUp g env.setup conn p) : Proper g conn conn' p p' := by
  cases h with
  | notSetUp hret hsetup => exact (hsetup.proper hf hctx hlook).1.setState .error
  | noTransport hsetup hret htransport =>
    have hproper := (hsetup.transport_proper htransport hf hctx ht hlook).1.setState .error
    exact hproper.trans hproper.finds.released
  | noObj hsetup htransport hctx₁ hread hconf hret hobj =>
    have hproper := (hsetup.obj_proper htransport hctx₁ hread hobj hf hctx ht hlook).setState .error
    exact hproper.trans hproper.finds.released
  | handshake hsetup htransport hctx₁ hread hconf hobj hshake =>
    have hproper := hsetup.obj_proper htransport hctx₁ hread hobj hf hctx ht hlook
    obtain ⟨hsame, hcalm⟩ := hshake.calm
    exact hproper.trans (hcalm.proper hsame hproper.finds)

theorem ListenOutcome.proper {ret : Errno} (h : ListenOutcome g env conn p ((ret, conn'), p'))
    (hf : FindsAll g p conn) (hctx : conn.policyCtx = none) (ht : conn.transport = none)
    (hlook : ¬ LooksUp g env.setup conn p) : Proper g conn conn' p p' := by
  cases h with
  | notSetUp hret hsetup => exact (hsetup.proper hf hctx hlook).1.setState .error
  | noTransport hsetup hret htransport =>
    exact (hsetup.transport_proper htransport hf hctx ht hlook).1.setState .error
  | done hsetup htransport => exact (hsetup.transport_proper htransport hf hctx ht hlook).1

/-- Context and object of a new connection. -/
theorem SetupOutcome.child_proper {conn₁ conn₂ : SCFConnectionImpl} {p₁ p₂ : Process} {ret : Errno}
    {ctx : ℕ} {c : SCFPolicyCtx}
    (hsetup : SetupOutcome g env.setup conn p ((.success, conn₁), p₁))
    (hctx₁ : conn₁.policyCtx = some ctx) (hread : p₁.ctxs.read ctx = some c)
    (hobj : ObjOutcome g env conn₁ ctx c p₁ ((ret, conn₂), p₂)) (hf : FindsAll g p conn)
    (hctx : conn.policyCtx = none) (hlook : ¬ LooksUp g env.setup conn p) :
    Proper g conn conn₂ p p₂ := by
  obtain ⟨hproper, hnoobj⟩ := hsetup.proper hf hctx hlook
  exact hproper.trans (hobj.proper hproper.finds hctx₁ hread hnoobj)

theorem AcceptOnOutcome.proper {conn' : Option SCFConnectionImpl}
    (h : AcceptOnOutcome g env conn p (conn', p')) (hf : FindsAll g p conn)
    (hctx : conn.policyCtx = none) (hlook : ¬ LooksUp g env.setup conn p) :
    Exchange (some conn) conn' p p' ∧ ∀ conn₁, conn' = some conn₁ → FindsAll g p' conn₁ := by
  have hdiscard : ∀ {conn₁ p₁}, Proper g conn conn₁ p p₁ →
      Exchange (some conn) none p (p₁.released g conn₁) ∧
        ∀ conn₂, none = some conn₂ → FindsAll g (p₁.released g conn₁) conn₂ := fun hproper =>
    ⟨hproper.exchange.trans hproper.finds.release, fun _ hnone => nomatch hnone⟩
  cases h with
  | notSetUp hret hsetup => exact hdiscard (hsetup.proper hf hctx hlook).1
  | noObj hsetup hctx₁ hread hret hobj =>
    exact hdiscard (hsetup.child_proper hctx₁ hread hobj hf hctx hlook)
  | notShaken hsetup hctx₁ hread hobj hret hwants hshake =>
    have hproper := hsetup.child_proper hctx₁ hread hobj hf hctx hlook
    obtain ⟨hsame, hcalm⟩ := hshake.calm
    exact hdiscard (hproper.trans (hcalm.proper hsame hproper.finds))
  | handshake hsetup hctx₁ hread hobj hret hshake =>
    have hproper := hsetup.child_proper hctx₁ hread hobj hf hctx hlook
    obtain ⟨hsame, hcalm⟩ := hshake.calm
    have hproper' := hproper.trans (hcalm.proper hsame hproper.finds)
    refine ⟨hproper'.exchange, fun conn₁ hconn₁ => ?_⟩
    obtain rfl := Option.some.inj hconn₁
    exact hproper'.finds

/-- The new connection in `Accept` has its transport, and nothing else. -/
theorem child_proper (g : Globals) (env : ConnEnv) (conn : SCFConnectionImpl) (p : Process) :
    let p' := (p.addTransport ⟨true, env.nativeHandle⟩).atPtr conn.cryptoEngine (Process.inject g)
    Exchange none (some (conn.child p.transports.size)) p p' ∧
      FindsAll g p' (conn.child p.transports.size) := by
  dsimp only
  obtain ⟨hctxs, hobjs, htransports, hengines⟩ := atPtr_inject g conn.cryptoEngine
    (p.addTransport ⟨true, env.nativeHandle⟩)
  refine ⟨⟨?_, ?_, ?_, ?_⟩, fun hne => absurd rfl hne, nofun, nofun, fun t ht => ?_, nofun⟩
  · rw [hctxs]
    exact .refl nofun
  · rw [hobjs]
    exact .refl nofun
  · rw [htransports]
    exact .alloc _ _ p.transports
  · rw [hengines]
    exact .refl nofun
  · obtain rfl := Option.some.inj ht
    rw [htransports]
    show (p.transports.alloc _).2.read p.transports.size ≠ none
    rw [Heap.read_alloc, Heap.alloc_fst, if_pos rfl]
    nofun

/-- The new connection looks up a cipher suite exactly if the listening one would. -/
theorem child_looksUp (g : Globals) (env : SetupEnv) (transport : Transport) (t : ℕ)
    (conn : SCFConnectionImpl) (p : Process) :
    LooksUp g env (conn.child t)
        ((p.addTransport transport).atPtr conn.cryptoEngine (Process.inject g)) ↔
      LooksUp g env conn p := by
  unfold LooksUp
  rw [child_libraryCtx]
  rfl

theorem AcceptOutcome.proper {conn' : Option SCFConnectionImpl}
    (h : AcceptOutcome g env conn p (conn', p'))
    (hlook : AcceptReaches env conn → ¬ LooksUp g env.setup conn p) :
    Exchange none conn' p p' ∧ ∀ conn₁, conn' = some conn₁ → FindsAll g p' conn₁ := by
  cases h with
  | nothing =>
    exact ⟨⟨.refl nofun, .refl nofun, .refl nofun, .refl nofun⟩, fun _ hnone => nomatch hnone⟩
  | noConn =>
    refine ⟨⟨.refl nofun, .refl nofun, ?_, .refl nofun⟩, fun _ hnone => nomatch hnone⟩
    exact (Heap.Trades.alloc _ ⟨true, env.nativeHandle⟩ p.transports).trans (.free _ _ _)
  | child hreach h =>
    obtain ⟨hex, hfinds⟩ := child_proper g env conn p
    obtain ⟨hex', hfinds'⟩ := h.proper hfinds rfl
      (mt (child_looksUp g env.setup _ _ conn p).mp (hlook hreach))
    exact ⟨hex.trans hex', hfinds'⟩

end Opening

/-! ### All connections -/

/-- What is alive is held by the connection that has acquired it, and all connections find what
they hold. -/
structure Balanced (g : Globals) (s : OwnerHistory) : Prop where
  ctxs : Heap.Ledger (s.1.held SCFConnectionImpl.policyCtx) s.2.ctxs s.1.process.ctxs
  objs : Heap.Ledger (s.1.held SCFConnectionImpl.policyObj) s.2.objs s.1.process.objs
  transports : Heap.Ledger (s.1.held SCFConnectionImpl.transport) s.2.transports
    s.1.process.transports
  engines : Heap.Ledger (s.1.held SCFConnectionImpl.ownEngine) s.2.engines s.1.process.engines
  finds : ∀ i conn, s.1.conns.read i = some conn → FindsAll g s.1.process conn

section Balanced

variable {g : Globals} {s s' : System} {o : Owners} {i : ℕ}

/-- What another connection holds is not touched by an exchange. -/
theorem Balanced.others (h : Balanced g (s, o)) {conn : Option SCFConnectionImpl} {p' : Process}
    (hex : Exchange (s.conns.read i) conn s.process p') {j : ℕ} (hj : j ≠ i)
    {conn' : SCFConnectionImpl} (hread : s.conns.read j = some conn') : FindsAll g p' conn' := by
  have hf := h.finds j conn' hread
  refine ⟨hf.init, fun ctx hctx => ?_, fun obj hobj => ?_, fun t ht => ?_, fun e he => ?_⟩
  · obtain ⟨c, hctxread, hc⟩ := hf.ctx ctx hctx
    have hmap := h.ctxs.trades_eq hex.ctxs hj ((held_eq _ hread).trans hctx)
    rw [hctxread] at hmap
    obtain ⟨c', hread', hc'⟩ := Option.map_eq_some_iff.mp hmap
    exact ⟨c', hread', hc'.trans hc⟩
  · obtain ⟨b, hobjread, hb⟩ := hf.obj obj hobj
    have hmap := h.objs.trades_eq hex.objs hj ((held_eq _ hread).trans hobj)
    rw [hobjread] at hmap
    obtain ⟨b', hread', hb'⟩ := Option.map_eq_some_iff.mp hmap
    exact ⟨b', hread', hb.trans (congrArg some hb'.symm)⟩
  · exact Heap.read_ne_none_of_map
      (h.transports.trades_eq hex.transports hj ((held_eq _ hread).trans ht)) (hf.transport t ht)
  · exact Heap.read_ne_none_of_map
      (h.engines.trades_eq hex.engines hj ((held_eq _ hread).trans he)) (hf.engine e he)

/-- **Step lemma**: an exchange of one connection keeps the books balanced. -/
theorem Balanced.step (h : Balanced g (s, o)) {conn' : Option SCFConnectionImpl}
    (hrep : Replaced i conn' s s') (hex : Exchange (s.conns.read i) conn' s.process s'.process)
    (hfinds : ∀ conn, conn' = some conn → FindsAll g s'.process conn) :
    Balanced g (s', o.after s.process i) := by
  refine ⟨?_, ?_, ?_, ?_, fun j conn hread => ?_⟩
  · rw [hrep.held_eq]
    exact h.ctxs.update hex.ctxs
  · rw [hrep.held_eq]
    exact h.objs.update hex.objs
  · rw [hrep.held_eq]
    exact h.transports.update hex.transports
  · rw [hrep.held_eq]
    exact h.engines.update hex.engines
  · by_cases hj : j = i
    · subst hj
      exact hfinds conn (hrep.self.symm.trans hread)
    · exact h.others hex hj ((hrep.others j hj).symm.trans hread)

/-- A function on one connection. -/
theorem Balanced.modify (h : Balanced g (s, o)) {conn conn' : SCFConnectionImpl} {p' : Process}
    (hread : s.conns.read i = some conn) (hproper : Proper g conn conn' s.process p') :
    Balanced g (⟨p', s.conns.modify i fun _ => conn'⟩, o.after s.process i) := by
  refine h.step (replaced_modify hread conn' p') ?_ fun conn₁ hconn₁ => ?_
  · rw [hread]
    exact hproper.exchange
  · obtain rfl := Option.some.inj hconn₁
    exact hproper.finds

/-- A new connection, or none. -/
theorem Balanced.addConn (h : Balanced g (s, o)) {conn : Option SCFConnectionImpl} {p' : Process}
    (hex : Exchange none conn s.process p') (hfinds : ∀ conn₁, conn = some conn₁ → FindsAll g p' conn₁) :
    Balanced g (({ s with process := p' }.addConn conn).2, o.after s.process s.conns.size) := by
  refine h.step (replaced_addConn p' conn) ?_ fun conn₁ hconn₁ => ?_
  · rw [Heap.read_size, addConn_process]
    exact hex
  · rw [addConn_process]
    exact hfinds conn₁ hconn₁

theorem Balanced.call {call : ConnCall} (h : Balanced g (s, o)) (hout : CallOutcome g s call s')
    (hok : Orderly g (s, o) call) : Balanced g (s', o.after s.process (call.actor s)) := by
  cases hout with
  | idle =>
    refine h.step (.refl _ s) ?_ fun conn hread => h.finds _ conn hread
    cases hread : s.conns.read (call.actor s) with
    | none => exact ⟨.refl nofun, .refl nofun, .refl nofun, .refl nofun⟩
    | some conn => exact (h.finds _ conn hread).refl.exchange
  | @created config =>
    have hex : Exchange none (some (newConnection config)) s.process s.process :=
      ⟨.refl nofun, .refl nofun, .refl nofun, .refl nofun⟩
    refine h.addConn hex fun conn hconn => ?_
    obtain rfl := Option.some.inj hconn
    exact ⟨fun hne => absurd rfl hne, nofun, nofun, nofun, nofun⟩
  | connected hread hout =>
    obtain ⟨hctx, ht, hlook⟩ := hok _ hread
    exact h.modify hread (hout.proper (h.finds _ _ hread) hctx ht hlook)
  | listened hread hout =>
    obtain ⟨hctx, ht, hlook⟩ := hok _ hread
    exact h.modify hread (hout.proper (h.finds _ _ hread) hctx ht hlook)
  | accepted hread hout =>
    obtain ⟨hex, hfinds⟩ := hout.proper (hok _ hread)
    exact h.addConn hex hfinds
  | used hread hconn hp => exact h.modify hread (hp.proper hconn (h.finds _ _ hread))
  | @destroyed i env conn hread =>
    refine h.step (i := i) (replaced_free _) ?_ fun conn' hconn' => (nomatch hconn')
    rw [hread]
    exact (h.finds i conn hread).release

theorem Balanced.nothingLeft (h : Balanced g (s, o)) : NothingLeft (s, o) := by
  -- the holder of a pointer is there
  have hthere : ∀ {α : Type} {heap : Heap α} {f : SCFConnectionImpl → Option ℕ} {owner : ℕ → ℕ},
      Heap.Ledger (s.held f) owner heap → ∀ x, heap.read x ≠ none → s.conns.read (owner x) ≠ none := by
    intro α heap f owner hledger x hread hnone
    have hheld := hledger.held x hread
    rw [System.held, hnone] at hheld
    cases hheld
  exact ⟨hthere h.ctxs, hthere h.objs, hthere h.transports, hthere h.engines⟩

/-- An orderly `Accept` has no lookup on the new connection. -/
theorem Orderly.child {env : ConnEnv} {conn : SCFConnectionImpl}
    (h : Orderly g (s, o) (.accept i env)) (hread : s.conns.read i = some conn)
    (hreach : AcceptReaches env conn) :
    ¬ LooksUp g env.setup (conn.child s.process.transports.size)
      ((s.process.addTransport ⟨true, env.nativeHandle⟩).atPtr conn.cryptoEngine
        (Process.inject g)) :=
  mt (child_looksUp g env.setup ⟨true, env.nativeHandle⟩ s.process.transports.size conn
    s.process).mp (h conn hread hreach)

/-- Wherever `Cleanup` is called, it finds everything. -/
theorem Balanced.cleans (h : Balanced g (s, o)) {call : ConnCall} (hok : Orderly g (s, o) call)
    {conn : SCFConnectionImpl} {p : Process} (hc : Cleans g s call conn p) : FindsAll g p conn := by
  cases hc with
  | destroyed hread => exact h.finds _ _ hread
  | @noTransport i env conn conn₁ conn₂ p₁ p₂ ret hread hsetup htransport hret =>
    obtain ⟨hctx, ht, hlook⟩ := hok _ hread
    have hout₁ := setupPolicyContext_outcome g env.setup conn s.process
    have hout₂ := setupTransport_outcome env .connecting conn₁ p₁
    rw [hsetup] at hout₁
    rw [show (setupTransport env .connecting conn₁).run p₁ = _ from htransport] at hout₂
    have hproper := (hout₁.transport_proper hout₂ (h.finds i conn hread) hctx ht hlook).1
    exact (hproper.setState .error).finds
  | @noObj i env conn conn₁ conn₂ conn₃ p₁ p₂ p₃ ret hread hsetup htransport hobj hret =>
    obtain ⟨hctx, ht, hlook⟩ := hok _ hread
    have hout₁ := setupPolicyContext_outcome g env.setup conn s.process
    have hout₂ := setupTransport_outcome env .connecting conn₁ p₁
    rw [hsetup] at hout₁
    rw [show (setupTransport env .connecting conn₁).run p₁ = _ from htransport] at hout₂
    obtain ⟨ctx, c, hctx₁, hread₁, -⟩ := hout₁.ctx
    have hread₂ := (congrArg (Heap.read ctx) hout₂.ctxs.1).trans hread₁
    have hout₃ := createPolicyObj_outcome g env (hout₂.ctxs.2.trans hctx₁) hread₂
    rw [hobj] at hout₃
    have hproper := hout₁.obj_proper hout₂ hctx₁ hread₁ hout₃ (h.finds i conn hread) hctx ht hlook
    exact (hproper.setState .error).finds
  | @childNotSetUp i env conn conn₁ p₀ p₁ ret hread hreach hchild hsetup hret =>
    subst hchild
    have hlook := Orderly.child hok hread hreach
    have hout₁ := setupPolicyContext_outcome g env.setup (conn.child s.process.transports.size)
      ((s.process.addTransport ⟨true, env.nativeHandle⟩).atPtr conn.cryptoEngine (Process.inject g))
    rw [hsetup] at hout₁
    exact (hout₁.proper (child_proper g env conn s.process).2 rfl hlook).1.finds
  | @childNoObj i env conn conn₁ conn₂ p₀ p₁ p₂ ret hread hreach hchild hsetup hobj hret =>
    subst hchild
    have hlook := Orderly.child hok hread hreach
    have hout₁ := setupPolicyContext_outcome g env.setup (conn.child s.process.transports.size)
      ((s.process.addTransport ⟨true, env.nativeHandle⟩).atPtr conn.cryptoEngine (Process.inject g))
    rw [hsetup] at hout₁
    obtain ⟨ctx, c, hctx₁, hread₁, -⟩ := hout₁.ctx
    have hout₂ := createPolicyObj_outcome g env hctx₁ hread₁
    rw [hobj] at hout₂
    exact (hout₁.child_proper hctx₁ hread₁ hout₂ (child_proper g env conn s.process).2 rfl hlook).finds
  | @childNotShaken i env conn conn₁ conn₂ conn₃ p₀ p₁ p₂ p₃ ret hread hreach hchild hsetup hobj
      hshake hret hwants =>
    subst hchild
    have hlook := Orderly.child hok hread hreach
    have hout₁ := setupPolicyContext_outcome g env.setup (conn.child s.process.transports.size)
      ((s.process.addTransport ⟨true, env.nativeHandle⟩).atPtr conn.cryptoEngine (Process.inject g))
    rw [hsetup] at hout₁
    obtain ⟨ctx, c, hctx₁, hread₁, -⟩ := hout₁.ctx
    have hout₂ := createPolicyObj_outcome g env hctx₁ hread₁
    rw [hobj] at hout₂
    have hout₃ := handshakeStep_outcome g env conn₂ p₂
    rw [hshake] at hout₃
    have hproper := hout₁.child_proper hctx₁ hread₁ hout₂ (child_proper g env conn s.process).2 rfl
      hlook
    exact (hout₃.calm.2.proper hout₃.calm.1 hproper.finds).finds

end Balanced

/-- **Run theorem**: in a run whose calls open only connections that hold nothing yet, and create no
objects for lookups, whatever a connection has acquired is gone with it, and every `Cleanup` finds
what it releases alive, with the references that it drops. -/
theorem releasedOnce_of_orderly (g : Globals) {s : OwnerHistory}
    (h : (ledgerMachine g).ReachableBy (Orderly g) s) :
    NothingLeft s ∧ ∀ call, Orderly g s call → ∀ conn p, Cleans g s.1 call conn p →
      FindsAll g p conn := by
  have hbalanced : Balanced g s := by
    refine Machine.ReachableBy.invariant (I := Balanced g) ?_ ?_ h
    · rintro s rfl
      have hempty : ∀ {α : Type} (f : SCFConnectionImpl → Option ℕ) (owner : ℕ → ℕ),
          Heap.Ledger (({} : System).held f) owner ({} : Heap α) := fun _ _ =>
        ⟨fun _ _ hheld => (nomatch hheld), fun _ hread => absurd rfl hread⟩
      exact ⟨hempty _ _, hempty _ _, hempty _ _, hempty _ _, fun _ _ hread => (nomatch hread)⟩
    · rintro ⟨s, o⟩ call hbalanced hok
      exact hbalanced.call (connCall_outcome g s call) hok
  exact ⟨hbalanced.nothingLeft, fun call hok conn p hc => hbalanced.cleans hok hc⟩

/-- A client with certificates and an engine connects, and then is destroyed. -/
theorem releasedOnce_certificate_client :
    let s := (ledgerMachine .ready).after ({}, {}) [clientCall, .connect 0 (engineEnv 10)]
    let s' := ((ledgerMachine .ready).step s (.destroy 0 .plain)).2
    ∃ conn, s.1.conns.read 0 = some conn ∧ conn.state = .connected ∧
      FindsAll .ready s.1.process conn ∧ NothingLeft s' := by
  have hconnected : (ledgerMachine .ready).ReachableBy (Orderly .ready)
      ((ledgerMachine .ready).after ({}, {}) [clientCall, .connect 0 (engineEnv 10)]) := by
    refine .step (.step (.initial rfl) clientCall trivial) (.connect 0 (engineEnv 10))
      fun conn hread => ?_
    obtain rfl := Option.some.inj hread
    exact ⟨rfl, rfl, fun hlook => absurd hlook.2.usePSK (by decide)⟩
  refine ⟨_, rfl, rfl, ?_, ?_⟩
  · exact (releasedOnce_of_orderly .ready hconnected).2 (.destroy 0 .plain) trivial _ _
      (.destroyed rfl)
  · exact (releasedOnce_of_orderly .ready (.step hconnected (.destroy 0 .plain) trivial)).1

/-- A client with a pre-shared key connects and is destroyed. -/
def pskClientCalls : List ConnCall :=
  [.newPSKConnection .bit128 .client [] [1, 2, 3] true, .connect 0 .plain, .destroy 0 .plain]

/-- The object of the lookup stays, and with it the context. -/
theorem psk_client_leaks :
    let s := (ledgerMachine .ready).after ({}, {}) pskClientCalls
    s.1.conns.read 0 = none ∧ s.2.objs 0 = 0 ∧ s.1.process.objs.read 0 ≠ none ∧ s.2.ctxs 0 = 0 ∧
      (s.1.process.ctxs.read 0).map SCFPolicyCtx.refCnt = some 1 ∧ ¬ NothingLeft s := by
  refine ⟨rfl, rfl, nofun, rfl, rfl, fun h => ?_⟩
  exact h.objs 0 nofun rfl

end Scf
