import ScfSecurity.Connection.Connected
import ScfSecurity.Connection.EngineLife

/-!
# Objects and their contexts

A connection reaches its object through a pointer, and the object its context. A `Connect` that is
repeated gives the connection a new context while its object may still be the old one, so that a
connection uses up to two contexts. Nothing it does drops a reference of another connection, and
the object of a connection and the context of that object are alive whatever has happened before.

## Main definitions

- `Process.uses`, `System.uses`: the contexts that a connection refers to
- `ObjAlive`: the object of a connection is alive, and so is its context
- `Attached`: all objects are alive, and connections share neither objects nor contexts

## Main results

- `attached_of_reachable`: the objects of all connections are alive in every run
-/

namespace Scf

open Automaton

/-- The contexts that a connection refers to: its own, and that of its object. -/
def Process.uses (p : Process) (conn : SCFConnectionImpl) : Set ℕ :=
  {x | conn.policyCtx = some x ∨
    ∃ obj o, conn.policyObj = some obj ∧ p.objs.read obj = some o ∧ o.policyCtx = x}

def System.uses (s : System) (i : ℕ) : Set ℕ :=
  {x | ∃ conn, s.conns.read i = some conn ∧ x ∈ s.process.uses conn}

/-- The object of the connection, if it has one, is alive, and so is the context of the object. -/
def ObjAlive (p : Process) (conn : SCFConnectionImpl) : Prop :=
  ∀ obj, conn.policyObj = some obj →
    ∃ o c, p.objs.read obj = some o ∧ p.ctxs.read o.policyCtx = some c

/-- The objects of the connections are alive with their contexts, and neither are shared. -/
structure Attached (s : System) : Prop where
  objs : Heap.Separate (s.held SCFConnectionImpl.policyObj) s.process.objs
  ctxs : Heap.Apart s.uses s.process.ctxs
  alive : ∀ i conn, s.conns.read i = some conn → ObjAlive s.process conn

/-! ### One connection -/

/-- A step of a connection frees no context but its own, and its object is alive afterwards. -/
structure Attaches (conn conn' : SCFConnectionImpl) (p p' : Process) : Prop where
  ctxs : Heap.Spares (p.uses conn) (p'.uses conn') p.ctxs p'.ctxs
  alive : ObjAlive p' conn'

theorem Attaches.trans {conn conn' conn'' : SCFConnectionImpl} {p p' p'' : Process}
    (h : Attaches conn conn' p p') (h' : Attaches conn' conn'' p' p'') :
    Attaches conn conn'' p p'' :=
  ⟨h.ctxs.trans h'.ctxs, h'.alive⟩

/-- Only the pointers of the connection matter. -/
theorem Attaches.congr {conn conn' conn'' : SCFConnectionImpl} {p p' : Process}
    (h : Attaches conn conn' p p') (hctx : conn''.policyCtx = conn'.policyCtx)
    (hobj : conn''.policyObj = conn'.policyObj) : Attaches conn conn'' p p' := by
  have huses : p'.uses conn'' = p'.uses conn' := by
    unfold Process.uses
    rw [hctx, hobj]
  refine ⟨?_, fun obj ho => h.alive obj (hobj.symm.trans ho)⟩
  rw [huses]
  exact h.ctxs

/-- Pointers, contexts of objects, and what is alive stay as they are. -/
theorem attaches_of_same {conn conn' : SCFConnectionImpl} {p p' : Process}
    (halive : ObjAlive p conn) (hctx : conn'.policyCtx = conn.policyCtx)
    (hobj : conn'.policyObj = conn.policyObj)
    (hobjs : ∀ i, (p'.objs.read i).map BoundObj.policyCtx = (p.objs.read i).map BoundObj.policyCtx)
    (hsize : p'.ctxs.size = p.ctxs.size)
    (hctxs : ∀ x, p.ctxs.read x ≠ none → p'.ctxs.read x ≠ none) : Attaches conn conn' p p' := by
  refine ⟨⟨by omega, fun x _ => hctxs x, fun x hx => .inl ?_⟩, fun obj ho => ?_⟩
  · rcases hx with hown | ⟨obj, o', ho, hread', hx⟩
    · exact .inl (hctx.symm.trans hown)
    · have hmap := hobjs obj
      rw [hread'] at hmap
      obtain ⟨o, hread, ho'⟩ := Option.map_eq_some_iff.mp hmap.symm
      exact .inr ⟨obj, o, hobj.symm.trans ho, hread, ho'.trans hx⟩
  · obtain ⟨o, c, hread, hread'⟩ := halive obj (hobj.symm.trans ho)
    have hmap := hobjs obj
    rw [hread] at hmap
    obtain ⟨o', ho', heq⟩ := Option.map_eq_some_iff.mp hmap
    obtain ⟨c', hc'⟩ := Option.ne_none_iff_exists'.mp
      (hctxs o.policyCtx (by rw [hread']; exact nofun))
    exact ⟨o', c', ho', by rw [heq]; exact hc'⟩

theorem ObjAlive.attaches {conn conn' : SCFConnectionImpl} {p p' : Process} (h : ObjAlive p conn)
    (hctx : conn'.policyCtx = conn.policyCtx) (hobj : conn'.policyObj = conn.policyObj)
    (hobjs : p'.objs = p.objs) (hctxs : p'.ctxs = p.ctxs) : Attaches conn conn' p p' :=
  attaches_of_same h hctx hobj (fun i => by rw [hobjs]) (by rw [hctxs]) fun x hx => by rwa [hctxs]

theorem Calm.attaches {conn conn' : SCFConnectionImpl} {p p' : Process} (hp : Calm p p')
    (hconn : SameHoldings conn conn') (h : ObjAlive p conn) : Attaches conn conn' p p' :=
  attaches_of_same h hconn.policyCtx hconn.policyObj hp.objs hp.ctxSize fun x =>
    Heap.read_ne_none_of_map (hp.ctxs x)

/-- A new context, and perhaps an object on it that nothing keeps. -/
theorem ObjAlive.attaches_addCtx {conn conn' : SCFConnectionImpl} {p p' : Process}
    {c : SCFPolicyCtx} (h : ObjAlive p conn) (hctx : conn'.policyCtx = some p.ctxs.size)
    (hobj : conn'.policyObj = conn.policyObj) (hctxs : p'.ctxs = (p.ctxs.alloc c).2)
    (hobjs : ∀ obj, obj < p.objs.size → p'.objs.read obj = p.objs.read obj) :
    Attaches conn conn' p p' := by
  have hold : ∀ obj o, conn.policyObj = some obj →
      (p'.objs.read obj = some o ↔ p.objs.read obj = some o) := by
    intro obj o ho
    obtain ⟨o', -, hread, -⟩ := h obj ho
    rw [hobjs obj (Heap.lt_size_of_read (by rw [hread]; exact nofun))]
  have hlive : ∀ x, p.ctxs.read x ≠ none → p'.ctxs.read x ≠ none := by
    intro x hx
    have := Heap.lt_size_of_read hx
    rwa [hctxs, Heap.read_alloc, Heap.alloc_fst, if_neg (by omega)]
  refine ⟨⟨?_, fun x _ => hlive x, fun x hx => ?_⟩, fun obj ho => ?_⟩
  · rw [hctxs, Heap.size_alloc]
    omega
  · rcases hx with hown | ⟨obj, o, ho, hread, hx⟩
    · obtain rfl := Option.some.inj (hctx.symm.trans hown)
      rw [hctxs, Heap.size_alloc]
      exact .inr (by omega)
    · have ho := hobj.symm.trans ho
      exact .inl (.inr ⟨obj, o, ho, (hold obj o ho).mp hread, hx⟩)
  · have ho := hobj.symm.trans ho
    obtain ⟨o, c, hread, hread'⟩ := h obj ho
    obtain ⟨c', hc'⟩ := Option.ne_none_iff_exists'.mp
      (hlive o.policyCtx (by rw [hread']; exact nofun))
    exact ⟨o, c', (hold obj o ho).mpr hread, hc'⟩

/-! ### Opening -/

section Opening

variable {g : Globals} {env : ConnEnv} {conn conn' : SCFConnectionImpl} {p p' : Process}
  {ret : Errno}

theorem EngineOutcome.attaches {env : SetupEnv} (h : EngineOutcome g env conn p ((ret, conn'), p'))
    (halive : ObjAlive p conn) : Attaches conn conn' p p' := by
  cases h with
  | reused h => exact halive.attaches rfl rfl rfl rfl
  | absent h => exact halive.attaches rfl rfl rfl rfl
  | created h henv hinit => exact halive.attaches rfl rfl rfl rfl

theorem SetupOutcome.attaches {env : SetupEnv} (h : SetupOutcome g env conn p ((ret, conn'), p'))
    (halive : ObjAlive p conn) : Attaches conn conn' p p' := by
  cases h with
  | noAdaptor hret hnot hengine => exact hengine.attaches halive
  | @noCtx conn₁ _ hnot hengine =>
    have hengine := hengine.attaches halive
    refine ⟨⟨hengine.ctxs.size_le, hengine.ctxs.others, fun x hx => hengine.ctxs.kept x ?_⟩,
      hengine.alive⟩
    exact hx.elim nofun .inr
  | withCtx hinit halloc hengine hprovider hctx =>
    have hengine := hengine.attaches halive
    refine hengine.trans ?_
    cases hctx with
    | plain hlookup hret hc hconf =>
      exact hengine.alive.attaches_addCtx rfl rfl rfl fun _ _ => rfl
    | @lookup _ _ o hlookup hret hc hconf =>
      refine hengine.alive.attaches_addCtx rfl rfl rfl fun obj hlt => ?_
      show (Heap.alloc _ _).2.read obj = _
      rw [Heap.read_alloc, Heap.alloc_fst]
      exact if_neg (Nat.ne_of_lt hlt)

theorem TransportOutcome.attaches {opened : SCFConnectionState}
    (h : TransportOutcome env opened conn p ((ret, conn'), p')) (halive : ObjAlive p conn) :
    Attaches conn conn' p p' := by
  obtain ⟨hctxs, hctx⟩ := h.ctxs
  obtain ⟨hobjs, hobj, -⟩ := h.objs
  exact halive.attaches hctx hobj hobjs hctxs

theorem ObjOutcome.attaches {ctx : ℕ} {c : SCFPolicyCtx}
    (h : ObjOutcome g env conn ctx c p ((ret, conn'), p')) (hctx : conn.policyCtx = some ctx)
    (hread : p.ctxs.read ctx = some c) : Attaches conn conn' p p' := by
  cases h with
  | notCreated h =>
    refine ⟨⟨Nat.le_refl _, fun _ _ hlive => hlive, fun x hx => .inl (hx.elim .inl ?_)⟩, nofun⟩
    rintro ⟨obj, o, ho, -⟩
    cases ho
  | @created _ o h hret hwants ho =>
    have hlive : ∀ x, p.ctxs.read x ≠ none → (p.bindObj ctx c o).ctxs.read x ≠ none := by
      intro x hx hnone
      exact hx (Heap.read_modify_eq_none_iff.mp hnone)
    refine ⟨⟨?_, fun x _ => hlive x, fun x hx => .inl (hx.elim .inl ?_)⟩, fun obj hobj => ?_⟩
    · exact Nat.le_of_eq (Heap.size_modify _ _ _).symm
    · rintro ⟨obj, o', hobj, ho', rfl⟩
      obtain rfl := Option.some.inj hobj
      obtain rfl := Option.some.inj ((read_bindObj ctx c o p).symm.trans ho')
      exact .inl hctx
    · obtain rfl := Option.some.inj hobj
      exact ⟨⟨o, ctx⟩, _, read_bindObj ctx c o p, read_setCtx hread _⟩

theorem HandshakeStepOutcome.attaches
    (h : HandshakeStepOutcome g env conn p ((ret, conn'), p')) (halive : ObjAlive p conn) :
    Attaches conn conn' p p' :=
  h.calm.2.attaches h.calm.1 halive

/-- Dropping a reference frees at most this context. -/
theorem read_dropCtx {ctx x : ℕ} (hx : x ≠ ctx) (g : Globals) (p : Process) :
    (p.dropCtx g ctx).ctxs.read x = p.ctxs.read x := by
  unfold Process.dropCtx
  split_ifs
  · rfl
  · rw [read_releaseCtx, if_neg (Ne.symm hx)]

theorem read_dropObj {obj x : ℕ} (hx : ∀ o, p.objs.read obj = some o → x ≠ o.policyCtx)
    (g : Globals) : (p.dropObj g obj).ctxs.read x = p.ctxs.read x := by
  unfold Process.dropObj
  split_ifs
  · rfl
  · cases hread : p.objs.read obj with
    | none => rfl
    | some o =>
      show (p.releaseCtx o.policyCtx).ctxs.read x = _
      rw [read_releaseCtx, if_neg (Ne.symm (hx o hread))]

/-- `Cleanup` frees no context but those that the connection uses. -/
theorem read_released {x : ℕ} (hx : x ∉ p.uses conn) (g : Globals) :
    (p.released g conn).ctxs.read x = p.ctxs.read x := by
  have hobj : (p.atPtr conn.policyObj (Process.dropObj g)).ctxs.read x = p.ctxs.read x := by
    cases hptr : conn.policyObj with
    | none => rfl
    | some obj =>
      refine read_dropObj (fun o hread heq => hx ?_) g
      exact .inr ⟨obj, o, hptr, hread, heq.symm⟩
  have hctx : ∀ q : Process,
      (q.atPtr conn.policyCtx (Process.dropCtx g)).ctxs.read x = q.ctxs.read x := by
    intro q
    cases hptr : conn.policyCtx with
    | none => rfl
    | some ctx =>
      refine read_dropCtx (fun heq => hx ?_) g q
      exact .inl (hptr.trans (congrArg some heq.symm))
  have hrest : (p.released g conn).ctxs =
      ((p.atPtr conn.policyObj (Process.dropObj g)).atPtr conn.policyCtx
        (Process.dropCtx g)).ctxs := by
    unfold Process.released
    cases conn.transport <;> cases conn.ownEngine <;> rfl
  rw [hrest, hctx, hobj]

theorem released_spares (g : Globals) (conn : SCFConnectionImpl) (p : Process) :
    Heap.Spares (p.uses conn) ∅ p.ctxs (p.released g conn).ctxs := by
  refine ⟨Nat.le_of_eq (released_ctxSize g conn p).symm, fun x hx hlive => ?_, nofun⟩
  rwa [read_released hx]

/-- A connection that has been released has no object. -/
theorem Attaches.release (h : Attaches conn conn' p p') (g : Globals) (state : SCFConnectionState) :
    Attaches conn (SCFConnectionImpl.released { conn' with state }) p (p'.released g conn') := by
  have huses :
      (p'.released g conn').uses (SCFConnectionImpl.released { conn' with state }) = ∅ := by
    refine Set.eq_empty_iff_forall_notMem.mpr fun x hx => ?_
    rcases hx with hctx | ⟨obj, o, hobj, -⟩
    · cases hctx
    · cases hobj
  refine ⟨?_, nofun⟩
  rw [huses]
  exact h.ctxs.trans (released_spares g conn' p')

theorem ConnectOutcome.attaches (h : ConnectOutcome g env conn p ((ret, conn'), p'))
    (halive : ObjAlive p conn) : Attaches conn conn' p p' := by
  cases h with
  | notSetUp hret hsetup => exact (hsetup.attaches halive).congr rfl rfl
  | noTransport hsetup hret htransport =>
    have hsetup := hsetup.attaches halive
    exact (hsetup.trans (htransport.attaches hsetup.alive)).release g _
  | noObj hsetup htransport hctx hread hconf hret hobj =>
    have hsetup := hsetup.attaches halive
    obtain ⟨hctxs, hctx'⟩ := htransport.ctxs
    have hobj := hobj.attaches (hctx'.trans hctx) (by rwa [hctxs])
    exact ((hsetup.trans (htransport.attaches hsetup.alive)).trans hobj).release g _
  | handshake hsetup htransport hctx hread hconf hobj hshake =>
    have hsetup := hsetup.attaches halive
    obtain ⟨hctxs, hctx'⟩ := htransport.ctxs
    have hobj := hobj.attaches (hctx'.trans hctx) (by rwa [hctxs])
    exact ((hsetup.trans (htransport.attaches hsetup.alive)).trans hobj).trans
      (hshake.attaches hobj.alive)

theorem ListenOutcome.attaches (h : ListenOutcome g env conn p ((ret, conn'), p'))
    (halive : ObjAlive p conn) : Attaches conn conn' p p' := by
  cases h with
  | notSetUp hret hsetup => exact (hsetup.attaches halive).congr rfl rfl
  | noTransport hsetup hret htransport =>
    have hsetup := hsetup.attaches halive
    exact (hsetup.trans (htransport.attaches hsetup.alive)).congr rfl rfl
  | done hsetup htransport =>
    have hsetup := hsetup.attaches halive
    exact hsetup.trans (htransport.attaches hsetup.alive)

/-- The memory in which `Accept` sets up a new connection, which has no pointers to contexts yet. -/
theorem child_uses (g : Globals) (env : ConnEnv) (conn : SCFConnectionImpl) (p : Process) :
    let q := (p.addTransport ⟨true, env.nativeHandle⟩).atPtr conn.cryptoEngine (Process.inject g)
    q.ctxs = p.ctxs ∧ q.uses (conn.child p.transports.size) = ∅ := by
  refine ⟨(atPtr_inject g conn.cryptoEngine _).1, Set.eq_empty_iff_forall_notMem.mpr fun x hx => ?_⟩
  rcases hx with hctx | ⟨obj, o, hobj, -⟩
  · cases hctx
  · cases hobj

/-- A new connection is attached; one that is given up leaves the contexts of others alone. -/
theorem AcceptOutcome.attaches {child : Option SCFConnectionImpl}
    (h : AcceptOutcome g env conn p (child, p')) :
    (child = none → Heap.Spares ∅ ∅ p.ctxs p'.ctxs) ∧
      ∀ conn', child = some conn' →
        Heap.Spares ∅ (p'.uses conn') p.ctxs p'.ctxs ∧ ObjAlive p' conn' := by
  have hrefl : Heap.Spares ∅ ∅ p.ctxs p.ctxs :=
    ⟨Nat.le_refl _, fun _ _ hlive => hlive, fun _ hx => .inl hx⟩
  cases h with
  | nothing => exact ⟨fun _ => hrefl, fun _ hconn => nomatch hconn⟩
  | noConn => exact ⟨fun _ => hrefl, fun _ hconn => nomatch hconn⟩
  | child hreach h =>
    obtain ⟨hctxs, huses⟩ := child_uses g env conn p
    generalize (p.addTransport ⟨true, env.nativeHandle⟩).atPtr conn.cryptoEngine
      (Process.inject g) = q at *
    have halive : ObjAlive q (conn.child p.transports.size) := fun _ hobj => nomatch hobj
    have hgone : ∀ {conn₁ p₁}, Attaches (conn.child p.transports.size) conn₁ q p₁ →
        Heap.Spares ∅ ∅ p.ctxs (p₁.released g conn₁).ctxs := by
      intro conn₁ p₁ h
      have hspares := h.ctxs.trans (released_spares g conn₁ p₁)
      rwa [huses, hctxs] at hspares
    cases h with
    | notSetUp hret hsetup =>
      exact ⟨fun _ => hgone (hsetup.attaches halive), fun _ hconn => nomatch hconn⟩
    | noObj hsetup hctx hread hret hobj =>
      have hall := (hsetup.attaches halive).trans (hobj.attaches hctx hread)
      exact ⟨fun _ => hgone hall, fun _ hconn => nomatch hconn⟩
    | notShaken hsetup hctx hread hobj hret hwants hshake =>
      have hobj := hobj.attaches hctx hread
      have hall := ((hsetup.attaches halive).trans hobj).trans (hshake.attaches hobj.alive)
      exact ⟨fun _ => hgone hall, fun _ hconn => nomatch hconn⟩
    | handshake hsetup hctx hread hobj hret hshake =>
      have hobj := hobj.attaches hctx hread
      have hall := ((hsetup.attaches halive).trans hobj).trans (hshake.attaches hobj.alive)
      refine ⟨fun hconn => (nomatch hconn), fun conn' hconn' => ?_⟩
      obtain rfl := Option.some.inj hconn'
      have hspares := hall.ctxs
      rw [huses, hctxs] at hspares
      exact ⟨hspares, hall.alive⟩

end Opening

/-! ### All connections -/

section System

variable {s s' : System} {i : ℕ}

theorem uses_eq {conn : SCFConnectionImpl} (h : s.conns.read i = some conn) :
    s.uses i = s.process.uses conn := by
  ext x
  refine ⟨fun ⟨conn₁, hread, hx⟩ => ?_, fun hx => ⟨conn, h, hx⟩⟩
  obtain rfl := Option.some.inj (h.symm.trans hread)
  exact hx

theorem uses_eq_empty (h : s.conns.read i = none) : s.uses i = ∅ := by
  refine Set.eq_empty_iff_forall_notMem.mpr ?_
  rintro x ⟨conn, hread, -⟩
  rw [h] at hread
  cases hread

/-- The object of a connection is not touched by the calls on others. -/
theorem Attached.read_obj {i j obj : ℕ} (h : Attached s) (hstep : SlotStep i s s') (hj : j ≠ i)
    {conn : SCFConnectionImpl} (hread : s.conns.read j = some conn)
    (hobj : conn.policyObj = some obj) : s'.process.objs.read obj = s.process.objs.read obj :=
  h.objs.read_eq hstep.objs hj ((held_eq _ hread).trans hobj)

/-- **Step lemma**: if the connection that takes a step is attached afterwards, then all are. -/
theorem Attached.step (h : Attached s) (hstep : SlotStep i s s')
    (hctxs : Heap.Spares (s.uses i) (s'.uses i) s.process.ctxs s'.process.ctxs)
    (halive : ∀ conn, s'.conns.read i = some conn → ObjAlive s'.process conn) : Attached s' := by
  have hobjs := h.objs
  refine ⟨?_, h.ctxs.step hctxs fun j hj => ?_, fun j conn hread => ?_⟩
  · rw [hstep.held_eq]
    exact hobjs.update hstep.objs
  · rintro x ⟨conn, hread, hx⟩
    rw [hstep.others j hj] at hread
    refine ⟨conn, hread, hx.imp_right ?_⟩
    rintro ⟨obj, o, hobj, ho, heq⟩
    exact ⟨obj, o, hobj, (h.read_obj hstep hj hread hobj).symm.trans ho, heq⟩
  · by_cases hj : j = i
    · subst hj
      exact halive conn hread
    rw [hstep.others j hj] at hread
    intro obj hobj
    obtain ⟨o, c, ho, hc⟩ := h.alive j conn hread obj hobj
    -- the context of another object is none of those that the step may free
    have hlive : s'.process.ctxs.read o.policyCtx ≠ none := by
      refine h.ctxs.live hctxs hj (x := o.policyCtx) ?_ (by rw [hc]; exact nofun)
      exact ⟨conn, hread, .inr ⟨obj, o, hobj, ho, rfl⟩⟩
    obtain ⟨c', hc'⟩ := Option.ne_none_iff_exists'.mp hlive
    exact ⟨o, c', (h.read_obj hstep hj hread hobj).trans ho, hc'⟩

/-- A connection becomes another one. -/
theorem Attached.modify (h : Attached s) {conn conn' : SCFConnectionImpl} {p' : Process}
    (hread : s.conns.read i = some conn)
    (hstep : SlotStep i s ⟨p', s.conns.modify i fun _ => conn'⟩)
    (hconn : Attaches conn conn' s.process p') :
    Attached ⟨p', s.conns.modify i fun _ => conn'⟩ := by
  have hself := (replaced_modify hread conn' p').self
  refine h.step hstep ?_ fun conn₁ hread₁ => ?_
  · rw [uses_eq hread, uses_eq hself]
    exact hconn.ctxs
  · obtain rfl := Option.some.inj (hself.symm.trans hread₁)
    exact hconn.alive

/-- There is a new connection, or none. -/
theorem Attached.addConn (h : Attached s) {child : Option SCFConnectionImpl} {p' : Process}
    (hstep : SlotStep s.conns.size s ({ s with process := p' }.addConn child).2)
    (hnone : child = none → Heap.Spares ∅ ∅ s.process.ctxs p'.ctxs)
    (hsome : ∀ conn', child = some conn' →
      Heap.Spares ∅ (p'.uses conn') s.process.ctxs p'.ctxs ∧ ObjAlive p' conn') :
    Attached ({ s with process := p' }.addConn child).2 := by
  have hself := (replaced_addConn (s := s) p' child).self
  have hprocess := addConn_process child { s with process := p' }
  have hfresh := uses_eq_empty (Heap.read_size s.conns)
  cases child with
  | none =>
    refine h.step hstep ?_ fun conn hread => ?_
    · rw [hfresh, uses_eq_empty hself, hprocess]
      exact hnone rfl
    · rw [hself] at hread
      cases hread
  | some conn' =>
    obtain ⟨hctxs, halive⟩ := hsome conn' rfl
    refine h.step hstep ?_ fun conn hread => ?_
    · rw [hfresh, uses_eq hself, hprocess]
      exact hctxs
    · obtain rfl := Option.some.inj (hself.symm.trans hread)
      rw [hprocess]
      exact halive

/-- Every call leaves all connections attached. -/
theorem Attached.call (h : Attached s) (g : Globals) (call : ConnCall) :
    Attached (call.apply g s).2 := by
  have hstep := connCall_slotStep g s call
  have hout := connCall_outcome g s call
  generalize (call.apply g s).2 = s' at *
  cases hout with
  | idle => exact h
  | @created config =>
    show Attached ({ s with process := s.process }.addConn (some (newConnection config))).2
    refine h.addConn hstep (fun hnone => nomatch hnone) fun conn' hconn' => ?_
    obtain rfl := Option.some.inj hconn'
    refine ⟨⟨Nat.le_refl _, fun _ _ hlive => hlive, fun x hx => ?_⟩, fun obj hobj => nomatch hobj⟩
    rcases hx with hctx | ⟨obj, o, hobj, -⟩
    · cases hctx
    · cases hobj
  | connected hread hout => exact h.modify hread hstep (hout.attaches (h.alive _ _ hread))
  | listened hread hout => exact h.modify hread hstep (hout.attaches (h.alive _ _ hread))
  | accepted hread hout => exact h.addConn hstep hout.attaches.1 hout.attaches.2
  | used hread hconn hp => exact h.modify hread hstep (hp.attaches hconn (h.alive _ _ hread))
  | @destroyed i env conn hread =>
    have hself := (replaced_free (s := s) (i := i) (s.process.released g conn)).self
    refine h.step hstep ?_ fun conn' hread' => ?_
    · rw [show ConnCall.actor s (.destroy i env) = i from rfl, uses_eq hread, uses_eq_empty hself]
      exact released_spares g conn s.process
    · exact absurd (hself.symm.trans hread') nofun

theorem attached_empty : Attached {} := by
  have hnone : ∀ i, ({} : System).conns.read i = none := fun _ => rfl
  have hheld : ({} : System).held SCFConnectionImpl.policyObj = fun _ => none := funext fun _ => rfl
  refine ⟨?_, ⟨fun i x hx => ?_, fun i j x hx => ?_⟩, fun i conn hread => ?_⟩
  · rw [hheld]
    exact Heap.separate_none _
  · rw [uses_eq_empty (hnone i)] at hx
    exact hx.elim
  · rw [uses_eq_empty (hnone i)] at hx
    exact hx.elim
  · rw [hnone] at hread
    cases hread

/-- **Run lemma**: the objects of all connections are alive in every run, with their contexts, and
no two connections share them. -/
theorem attached_of_reachable (h : connectionMachine.Reachable s) : Attached s := by
  refine Machine.Reachable.invariant (I := Attached) ?_ (fun s call hs => hs.call call.1 call.2) h
  rintro s rfl
  exact attached_empty

end System

end Scf
