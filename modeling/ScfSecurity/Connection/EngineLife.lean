import ScfSecurity.Connection.Calls
import ScfSecurity.Connection.Engines
import ScfSecurity.Connection.FailureState
import ScfSecurity.Connection.Locality

/-!
# The life of crypto engines

An engine is referred to by the adaptor, by the connection that has created it, by the connections
that this one has accepted, and by every context whose configuration was made while the adaptor had
the engine. The connection that has created it finalises it, whoever else is still there.

To say which engine a context belongs to, a history goes along with the connections: the engine that
the adaptor had when the context was set up.

## Main definitions

- `engineMachine`: the connections of a process, with the engines of their contexts
- `EnginesAlive`: nothing refers to an engine that has been finalised
- `SafeFinalise`: a call finalises no engine that anything else refers to

## Main results

- `enginesAlive_of_safeFinalise`: in a run of such calls all references to engines stay valid
-/

namespace Scf

open Automaton

/-- The library context in which the configuration of a context was made. -/
def SCFPolicyCtx.libCtx (c : SCFPolicyCtx) : Option Address := c.sslConfig.bind SslCtx.libCtx

/-- The engines that contexts belong to, after a step. New ones belong to the engine that the
adaptor has. -/
def origins (p p' : Process) (origin : ℕ → Option ℕ) (ctx : ℕ) : Option ℕ :=
  if ctx < p.ctxs.size then origin ctx else p'.adaptorEngine

/-- The connections, and the engines that contexts belong to. -/
abbrev EngineHistory := System × (ℕ → Option ℕ)

def engineMachine (g : Globals) : Machine EngineHistory ConnCall ConnAnswer where
  initial s := s = ({}, fun _ => none)
  step s call :=
    let (answer, s') := call.apply g s.1
    (answer, s', origins s.1.process s'.process s.2)

/-- The engines of the adaptor and of the connections are alive, and so is the engine in whose
library context the configuration of a context was made. -/
structure EnginesAlive (s : EngineHistory) : Prop where
  adaptor : ∀ e, s.1.process.adaptorEngine = some e → s.1.process.engines.read e ≠ none
  conns : ∀ i conn e, s.1.conns.read i = some conn → conn.cryptoEngine = some e →
    s.1.process.engines.read e ≠ none
  ctxs : ∀ ctx c a, s.1.process.ctxs.read ctx = some c → c.libCtx = some a →
    ∃ e engine, s.2 ctx = some e ∧ s.1.process.engines.read e = some engine ∧
      engine.providerCtx = some a

/-- The connection gives back all references to the context there are: its own, and that of its
object. -/
structure HoldsAll (g : Globals) (p : Process) (conn : SCFConnectionImpl) (ctx : ℕ)
    (c : SCFPolicyCtx) : Prop where
  init : g.scfInitialized = true
  own : conn.policyCtx = some ctx
  refs : c.refCnt = 1 ∨ c.refCnt = 2 ∧
    ∃ obj o, conn.policyObj = some obj ∧ p.objs.read obj = some o ∧ o.policyCtx = ctx

/-- No other connection uses the engine. -/
def OnlyUser (s : System) (i e : ℕ) : Prop :=
  ∀ j conn, j ≠ i → s.conns.read j = some conn → conn.cryptoEngine ≠ some e

/-- The contexts that belong to the engine all satisfy `P`. -/
def BelongingTo (s : EngineHistory) (e : ℕ) (P : ℕ → SCFPolicyCtx → Prop) : Prop :=
  ∀ ctx c, s.1.process.ctxs.read ctx = some c → c.libCtx ≠ none → s.2 ctx = some e → P ctx c

/-- `SetupPSK` leaves an object behind, on a context that is set up in the library context of an
engine. -/
def LeavesLookup (g : Globals) (env : SetupEnv) (conn : SCFConnectionImpl) (p : Process) : Prop :=
  PskLookup g env conn.config (conn.libraryCtx env p) ∧
    env.sslCtx.usedCtx (conn.libraryCtx env p) ≠ none

/-- `SetupPolicyContext` creates an engine. -/
structure CreatesEngine (env : SetupEnv) (conn : SCFConnectionImpl) : Prop where
  absent : conn.cryptoEngine = none
  factory : env.engine ≠ none
  init : env.engineInit = true

/-- A handshake succeeds, or is to be continued. -/
def ShakeOk (outcome : HandshakeOutcome) : Prop :=
  (∃ version, outcome = .success version) ∨
    ∃ code, outcome = .failure code ∧ (handleTransPortError code).Wants

/-- `Accept` keeps the new connection. -/
structure AcceptOk (g : Globals) (env : ConnEnv) (conn : SCFConnectionImpl) (p : Process) :
    Prop where
  setup : SetupOk g env.setup conn p
  role : conn.config.role = .server
  obj : ObjOk g env.clock env.objAllocOk
  handle : ¬ env.nativeHandle < 0
  bind : env.ssl.setExDataOk = true ∧ env.ssl.setFdOk = true
  shake : ShakeOk env.handshake

/-- The call finalises no engine that anything else refers to. An engine is finalised with its
connection, by a `Connect` that fails behind the policy context, and by an `Accept` that gives up a
connection with an engine of its own. -/
def SafeFinalise (g : Globals) (s : EngineHistory) : ConnCall → Prop
  | .destroy i _ => ∀ conn e, s.1.conns.read i = some conn → conn.ownEngine = some e →
    OnlyUser s.1 i e ∧ BelongingTo s e (HoldsAll g s.1.process conn)
  | .connect i env => ∀ conn, s.1.conns.read i = some conn →
    SetupOk g env.setup conn s.1.process → ¬ TransportAndObjOk g env →
    (CreatesEngine env.setup conn ∨ conn.ownEngine ≠ none →
      ¬ LeavesLookup g env.setup conn s.1.process) ∧
    ∀ e, conn.ownEngine = some e → OnlyUser s.1 i e ∧ BelongingTo s e fun _ _ => False
  | .accept i env => ∀ conn, s.1.conns.read i = some conn → AcceptReaches env conn →
    CreatesEngine env.setup conn → LeavesLookup g env.setup conn s.1.process →
    AcceptOk g env conn s.1.process
  | _ => True

/-! ### The memory -/

/-- The engines stay as they are, and contexts are changed or freed but not created. -/
structure Steady (p p' : Process) : Prop where
  engines : p'.engines = p.engines
  adaptorEngine : p'.adaptorEngine = p.adaptorEngine
  ctxSize : p'.ctxs.size = p.ctxs.size
  ctxs : ∀ ctx c', p'.ctxs.read ctx = some c' → ∃ c, p.ctxs.read ctx = some c ∧ c'.libCtx = c.libCtx

theorem Steady.of_ctxs {p p' : Process} (hengines : p'.engines = p.engines)
    (hadaptor : p'.adaptorEngine = p.adaptorEngine) (hctxs : p'.ctxs = p.ctxs) : Steady p p' := by
  refine ⟨hengines, hadaptor, by rw [hctxs], fun ctx c' hread => ⟨c', ?_, rfl⟩⟩
  rwa [← hctxs]

theorem Steady.refl (p : Process) : Steady p p := .of_ctxs rfl rfl rfl

theorem Steady.trans {p p' p'' : Process} (h : Steady p p') (h' : Steady p' p'') :
    Steady p p'' := by
  refine ⟨h'.engines.trans h.engines, h'.adaptorEngine.trans h.adaptorEngine,
    h'.ctxSize.trans h.ctxSize, fun ctx c'' hread'' => ?_⟩
  obtain ⟨c', hread', hlib'⟩ := h'.ctxs ctx c'' hread''
  obtain ⟨c, hread, hlib⟩ := h.ctxs ctx c' hread'
  exact ⟨c, hread, hlib'.trans hlib⟩

theorem Calm.steady {p p' : Process} (h : Calm p p') : Steady p p' := by
  refine ⟨h.engines, h.adaptorEngine, h.ctxSize, fun ctx c' hread' => ?_⟩
  have hessence := h.ctxs ctx
  rw [hread'] at hessence
  obtain ⟨c, hread, hc⟩ := Option.map_eq_some_iff.mp hessence.symm
  have hcfg : c'.sslConfig = c.sslConfig := congrArg Prod.snd hc.symm
  refine ⟨c, hread, ?_⟩
  rw [SCFPolicyCtx.libCtx, hcfg]
  rfl

theorem dropRef_libCtx {c c' : SCFPolicyCtx} (h : c.dropRef = some c') : c'.libCtx = c.libCtx := by
  unfold SCFPolicyCtx.dropRef at h
  split_ifs at h
  · rw [← Option.some.inj h]
  · rw [← Option.some.inj h]
    rfl

theorem releaseCtx_size (ctx : ℕ) (p : Process) :
    (p.releaseCtx ctx).ctxs.size = p.ctxs.size := by
  unfold Process.releaseCtx
  cases p.ctxs.read ctx with
  | none => rfl
  | some c =>
    dsimp only
    split_ifs
    · rfl
    · exact Heap.size_modify _ _ _
    · exact Heap.size_free _ _

theorem releaseCtx_steady (ctx : ℕ) (p : Process) : Steady p (p.releaseCtx ctx) := by
  refine ⟨(releaseCtx_engines ctx p).1, (releaseCtx_engines ctx p).2, releaseCtx_size ctx p,
    fun i c' hread' => ?_⟩
  rw [read_releaseCtx] at hread'
  split_ifs at hread'
  · obtain ⟨c, hread, hdrop⟩ := Option.bind_eq_some_iff.mp hread'
    exact ⟨c, hread, dropRef_libCtx hdrop⟩
  · exact ⟨c', hread', rfl⟩

theorem dropCtx_steady (g : Globals) (ctx : ℕ) (p : Process) : Steady p (p.dropCtx g ctx) := by
  unfold Process.dropCtx
  split_ifs
  · exact .refl p
  · exact releaseCtx_steady ctx p

theorem dropObj_steady (g : Globals) (obj : ℕ) (p : Process) : Steady p (p.dropObj g obj) := by
  unfold Process.dropObj
  split_ifs
  · exact .refl p
  · cases p.objs.read obj with
    | none => exact .refl p
    | some o => exact (releaseCtx_steady o.policyCtx p).trans (.of_ctxs rfl rfl rfl)

theorem atPtr_steady {f : ℕ → Process → Process} (hf : ∀ i p, Steady p (f i p))
    (ptr : Option ℕ) (p : Process) : Steady p (p.atPtr ptr f) := by
  cases ptr with
  | none => exact .refl p
  | some i => exact hf i p

/-- The memory after a `Cleanup`, up to the engine. -/
def Process.stripped (g : Globals) (conn : SCFConnectionImpl) (p : Process) : Process :=
  ((p.atPtr conn.policyObj (dropObj g)).atPtr conn.policyCtx (dropCtx g)).atPtr conn.transport
    dropTransport

theorem released_eq (g : Globals) (conn : SCFConnectionImpl) (p : Process) :
    p.released g conn = (p.stripped g conn).atPtr conn.ownEngine (Process.dropEngine g) := rfl

theorem stripped_steady (g : Globals) (conn : SCFConnectionImpl) (p : Process) :
    Steady p (p.stripped g conn) := by
  have hobj := atPtr_steady (dropObj_steady g) conn.policyObj p
  have hctx := atPtr_steady (dropCtx_steady g) conn.policyCtx
    (p.atPtr conn.policyObj (Process.dropObj g))
  exact (hobj.trans hctx).trans
    (atPtr_steady (f := Process.dropTransport) (fun _ _ => .of_ctxs rfl rfl rfl) _ _)

theorem released_ctxSize (g : Globals) (conn : SCFConnectionImpl) (p : Process) :
    (p.released g conn).ctxs.size = p.ctxs.size := by
  rw [released_eq, ← (stripped_steady g conn p).ctxSize]
  cases conn.ownEngine <;> rfl

/-- What the object of a connection leaves of a context to which the connection has all
references. -/
theorem dropObj_lastRef {g : Globals} {p : Process} {conn : SCFConnectionImpl} {ctx : ℕ}
    {c : SCFPolicyCtx} (h : HoldsAll g p conn ctx c) (hread : p.ctxs.read ctx = some c) :
    ∀ c', (p.atPtr conn.policyObj (Process.dropObj g)).ctxs.read ctx = some c' → c'.refCnt = 1 := by
  intro c' hread'
  have hadaptor := g.adaptor_of_init h.init
  -- freeing an object drops one reference to its context
  have hdrop : ∀ obj o, conn.policyObj = some obj → p.objs.read obj = some o →
      (p.atPtr conn.policyObj (Process.dropObj g)).ctxs = (p.releaseCtx o.policyCtx).ctxs := by
    intro obj o hobj hobjread
    rw [hobj]
    show (p.dropObj g obj).ctxs = _
    unfold Process.dropObj
    rw [h.init, hadaptor, hobjread]
    rfl
  rcases h.refs with hone | ⟨htwo, obj, o, hobj, hobjread, hbound⟩
  · cases hobj : conn.policyObj with
    | none =>
      rw [hobj] at hread'
      obtain rfl := Option.some.inj (hread.symm.trans hread')
      exact hone
    | some obj =>
      cases hobjread : p.objs.read obj with
      | none =>
        have hsame : p.dropObj g obj = p := by
          unfold Process.dropObj
          rw [hobjread]
          exact ite_self p
        rw [hobj] at hread'
        change (p.dropObj g obj).ctxs.read ctx = some c' at hread'
        rw [hsame] at hread'
        obtain rfl := Option.some.inj (hread.symm.trans hread')
        exact hone
      | some o =>
        rw [hdrop obj o hobj hobjread, read_releaseCtx, hread] at hread'
        split_ifs at hread'
        · simp [SCFPolicyCtx.dropRef, hone] at hread'
        · obtain rfl := Option.some.inj hread'
          exact hone
  · rw [hdrop obj o hobj hobjread, read_releaseCtx, if_pos hbound, hread] at hread'
    simp only [Option.bind_some, SCFPolicyCtx.dropRef, htwo] at hread'
    obtain rfl := Option.some.inj hread'
    rfl

/-- A context to which the connection has all references is freed with it. -/
theorem stripped_frees {g : Globals} {p : Process} {conn : SCFConnectionImpl} {ctx : ℕ}
    {c : SCFPolicyCtx} (h : HoldsAll g p conn ctx c) (hread : p.ctxs.read ctx = some c) :
    (p.stripped g conn).ctxs.read ctx = none := by
  have hlast := dropObj_lastRef h hread
  have htransport : (p.stripped g conn).ctxs =
      ((p.atPtr conn.policyObj (Process.dropObj g)).atPtr conn.policyCtx (Process.dropCtx g)).ctxs := by
    unfold Process.stripped
    cases conn.transport <;> rfl
  rw [htransport, h.own]
  show ((p.atPtr conn.policyObj (Process.dropObj g)).dropCtx g ctx).ctxs.read ctx = none
  generalize p.atPtr conn.policyObj (Process.dropObj g) = q at hlast ⊢
  unfold Process.dropCtx
  rw [h.init, g.adaptor_of_init h.init, if_neg (by decide), read_releaseCtx, if_pos rfl]
  cases hq : q.ctxs.read ctx with
  | none => rfl
  | some c' => simp [SCFPolicyCtx.dropRef, hlast c' hq]

/-! ### References to engines -/

/-- Whatever refers to an engine refers to one that is alive: the adaptor, the holders of pointers,
and the contexts. -/
structure Grounded (g : Globals) (p : Process) (origin held : ℕ → Option ℕ) : Prop where
  adaptor : ∀ e, p.adaptorEngine = some e → p.engines.read e ≠ none
  held : ∀ i e, held i = some e → p.engines.read e ≠ none
  ctxs : ∀ ctx c a, p.ctxs.read ctx = some c → c.libCtx = some a →
    ∃ e engine, origin ctx = some e ∧ p.engines.read e = some engine ∧ engine.providerCtx = some a
  unused : g.adaptor = false → p.adaptorEngine = none

section Grounded

variable {g : Globals} {p p' : Process} {origin held : ℕ → Option ℕ}

theorem Grounded.steady (h : Grounded g p origin held) (hp : Steady p p') :
    Grounded g p' origin held := by
  refine ⟨?_, ?_, fun ctx c' a hread' hlib' => ?_, ?_⟩
  · rw [hp.adaptorEngine, hp.engines]
    exact h.adaptor
  · rw [hp.engines]
    exact h.held
  · obtain ⟨c, hread, hlib⟩ := hp.ctxs ctx c' hread'
    rw [hp.engines]
    exact h.ctxs ctx c a hread (hlib.symm.trans hlib')
  · rw [hp.adaptorEngine]
    exact h.unused

/-- Only the engines of contexts that are alive and made in a library context matter. -/
theorem Grounded.congr {origin' : ℕ → Option ℕ} (h : Grounded g p origin held)
    (horigin : ∀ ctx c, p.ctxs.read ctx = some c → c.libCtx ≠ none → origin' ctx = origin ctx) :
    Grounded g p origin' held := by
  refine ⟨h.adaptor, h.held, fun ctx c a hread hlib => ?_, h.unused⟩
  rw [horigin ctx c hread (by rw [hlib]; nofun)]
  exact h.ctxs ctx c a hread hlib

/-- A holder has another pointer, to an engine that is alive. -/
theorem Grounded.setHeld (h : Grounded g p origin held) (i : ℕ) {ptr : Option ℕ}
    (hptr : ∀ e, ptr = some e → p.engines.read e ≠ none) :
    Grounded g p origin (Function.update held i ptr) := by
  refine ⟨h.adaptor, fun j e hj => ?_, h.ctxs, h.unused⟩
  by_cases hji : j = i
  · rw [hji, Function.update_self] at hj
    exact hptr e hj
  · rw [Function.update_of_ne hji] at hj
    exact h.held j e hj

/-- The adaptor gets an engine that is alive. -/
theorem Grounded.inject (h : Grounded g p origin held) {e : ℕ} (he : p.engines.read e ≠ none) :
    Grounded g (p.inject g e) origin held := by
  refine ⟨fun e' he' => ?_, h.held, h.ctxs, fun hg => ?_⟩
  · change (if g.adaptor then some e else p.adaptorEngine) = some e' at he'
    split_ifs at he'
    · obtain rfl := Option.some.inj he'
      exact he
    · exact h.adaptor e' he'
  · show (if g.adaptor then some e else p.adaptorEngine) = none
    rw [if_neg (by rw [hg]; decide)]
    exact h.unused hg

theorem read_addEngine {e : ℕ} {engine : CryptoEngine} (new : CryptoEngine)
    (h : p.engines.read e = some engine) : (p.addEngine new).engines.read e = some engine := by
  have hlt : e < p.engines.size := Heap.lt_size_of_read (by rw [h]; nofun)
  show (p.engines.alloc new).2.read e = some engine
  rw [Heap.read_alloc, Heap.alloc_fst, if_neg (by omega)]
  exact h

theorem Grounded.addEngine (h : Grounded g p origin held) (new : CryptoEngine) :
    Grounded g (p.addEngine new) origin held := by
  have hkeep : ∀ e, p.engines.read e ≠ none → (p.addEngine new).engines.read e ≠ none := by
    intro e he
    obtain ⟨engine, hengine⟩ := Option.ne_none_iff_exists'.mp he
    rw [read_addEngine new hengine]
    nofun
  refine ⟨fun e he => hkeep e (h.adaptor e he), fun i e hi => hkeep e (h.held i e hi),
    fun ctx c a hread hlib => ?_, h.unused⟩
  obtain ⟨e, engine, horigin, hengine, ha⟩ := h.ctxs ctx c a hread hlib
  exact ⟨e, engine, horigin, read_addEngine new hengine, ha⟩

/-- A new context belongs to the engine that the adaptor has. -/
theorem Grounded.addCtx (h : Grounded g p origin held) {c : SCFPolicyCtx}
    (hc : ∀ a, c.libCtx = some a → p.providerCtx = some a) :
    Grounded g (p.addCtx c) (origins p (p.addCtx c) origin) held := by
  refine ⟨h.adaptor, h.held, fun ctx c' a hread hlib => ?_, h.unused⟩
  change (p.ctxs.alloc c).2.read ctx = some c' at hread
  rw [Heap.read_alloc, Heap.alloc_fst] at hread
  unfold origins
  by_cases hctx : ctx = p.ctxs.size
  · rw [if_pos hctx] at hread
    obtain rfl := Option.some.inj hread
    obtain ⟨engine, hengine, ha⟩ := Option.bind_eq_some_iff.mp (hc a hlib)
    obtain ⟨e, he, hread⟩ := Option.bind_eq_some_iff.mp hengine
    rw [if_neg (by omega)]
    exact ⟨e, engine, he, hread, ha⟩
  · rw [if_neg hctx] at hread
    have hlt : ctx < p.ctxs.size := Heap.lt_size_of_read (by rw [hread]; nofun)
    rw [if_pos hlt]
    exact h.ctxs ctx c' a hread hlib

/-- An engine is finalised that neither a holder nor a context refers to. -/
theorem Grounded.dropEngine (h : Grounded g p origin held) {e : ℕ} (hheld : ∀ i, held i ≠ some e)
    (hctxs : ∀ ctx c, p.ctxs.read ctx = some c → c.libCtx ≠ none → origin ctx ≠ some e) :
    Grounded g (p.dropEngine g e) origin held := by
  have hkeep : ∀ e', e' ≠ e → (p.dropEngine g e).engines.read e' = p.engines.read e' := by
    intro e' hne
    show (p.engines.free e).read e' = _
    rw [Heap.read_free, if_neg (Ne.symm hne)]
  have hslot : (p.dropEngine g e).adaptorEngine = none := by
    show (if g.adaptor then none else p.adaptorEngine) = none
    cases hg : g.adaptor with
    | true => rfl
    | false => exact h.unused hg
  refine ⟨fun e' he' => ?_, fun i e' hi => ?_, fun ctx c a hread hlib => ?_, fun _ => hslot⟩
  · rw [hslot] at he'
    cases he'
  · have hne : e' ≠ e := fun heq => hheld i (heq ▸ hi)
    rw [hkeep e' hne]
    exact h.held i e' hi
  · obtain ⟨e', engine, horigin, hengine, ha⟩ := h.ctxs ctx c a hread hlib
    have hne : e' ≠ e := by
      rintro rfl
      exact hctxs ctx c hread (by rw [hlib]; nofun) horigin
    exact ⟨e', engine, horigin, (hkeep e' hne).trans hengine, ha⟩

end Grounded

/-! ### Setting up -/

theorem Furnished.libCtx {env : SslCtxEnv} {providerCtx : Option Address} {c : SCFPolicyCtx}
    (h : Furnished (env.usedCtx providerCtx) c) {a : Address} (ha : c.libCtx = some a) :
    env.usedCtx providerCtx = some a ∧ providerCtx = some a := by
  obtain ⟨cfg, hcfg, hlib⟩ := Option.bind_eq_some_iff.mp ha
  have hused : env.usedCtx providerCtx = some a := by
    rcases (h.born cfg hcfg).libCtx with hnone | hsome
    · rw [hlib] at hnone
      cases hnone
    · exact hsome.symm.trans hlib
  refine ⟨hused, ?_⟩
  unfold SslCtxEnv.usedCtx at hused
  split_ifs at hused
  exact hused

theorem EngineOutcome.ctxs {g : Globals} {env : SetupEnv} {conn conn' : SCFConnectionImpl}
    {p p' : Process} {ret : Errno} (h : EngineOutcome g env conn p ((ret, conn'), p')) :
    p'.ctxs = p.ctxs := by
  cases h with
  | reused h => rfl
  | absent h => rfl
  | created h henv hinit => rfl

theorem EngineOutcome.grounded {g : Globals} {env : SetupEnv} {conn conn' : SCFConnectionImpl}
    {p p' : Process} {ret : Errno} (h : EngineOutcome g env conn p ((ret, conn'), p'))
    {origin held : ℕ → Option ℕ} (hg : Grounded g p origin held)
    (hlive : ∀ e, conn.cryptoEngine = some e → p.engines.read e ≠ none) (i : ℕ) :
    Grounded g p' origin (Function.update held i conn'.cryptoEngine) := by
  cases h with
  | @reused e h => exact (hg.setHeld i hlive).inject (hlive e h)
  | absent h => exact hg.setHeld i hlive
  | @created engine h henv hinit =>
    have hnew : (p.addEngine engine).engines.read p.engines.size ≠ none := by
      show (p.engines.alloc engine).2.read p.engines.size ≠ none
      rw [Heap.read_alloc, Heap.alloc_fst, if_pos rfl]
      nofun
    refine ((hg.addEngine engine).setHeld i fun e he => ?_).inject hnew
    obtain rfl := Option.some.inj he
    exact hnew

/-- What a configuration leaves behind, in the engines' view: a context with one reference, unless
the object of a lookup stays. -/
theorem ConfigureOutcome.added {g : Globals} {env : SetupEnv} {config : SCFConnectionConfig}
    {p p' : Process} {ret : Errno} (h : ConfigureOutcome g env config p (ret, p')) :
    ∃ c, Steady (p.addCtx c) p' ∧ (∀ a, c.libCtx = some a → p.providerCtx = some a) ∧
      p'.ctxs.read p.ctxs.size = some c ∧
      (c.libCtx ≠ none → ¬ (PskLookup g env config p.providerCtx ∧
        env.sslCtx.usedCtx p.providerCtx ≠ none) → c.refCnt = 1) := by
  cases h with
  | @plain _ c hlookup hret hc hconf =>
    exact ⟨c, .refl _, fun a ha => (hc.libCtx ha).2, read_addCtx c p, fun _ _ => hc.refCnt⟩
  | @lookup _ c o hlookup hret hc hconf =>
    refine ⟨{ c with refCnt := 2 }, .of_ctxs rfl rfl rfl, fun a ha => (hc.libCtx ha).2,
      read_addCtx _ p, fun hlib hnot => ?_⟩
    obtain ⟨a, ha⟩ := Option.ne_none_iff_exists'.mp hlib
    exact absurd ⟨hlookup, by rw [(hc.libCtx ha).1]; nofun⟩ hnot

/-- The contexts after `SetupPolicyContext`: as before, or with a new one that the connection has. -/
theorem SetupOutcome.ctxs {g : Globals} {env : SetupEnv} {conn conn' : SCFConnectionImpl}
    {p p' : Process} {ret : Errno} (h : SetupOutcome g env conn p ((ret, conn'), p')) :
    (∀ ctx, ctx < p.ctxs.size → ∀ c', p'.ctxs.read ctx = some c' →
      ∃ c, p.ctxs.read ctx = some c ∧ c'.libCtx = c.libCtx) ∧ p'.ctxs.size ≤ p.ctxs.size + 1 ∧
    ∀ c, p'.ctxs.read p.ctxs.size = some c → c.libCtx ≠ none → ¬ LeavesLookup g env conn p →
      g.scfInitialized = true ∧ conn'.policyCtx = some p.ctxs.size ∧ c.refCnt = 1 := by
  have hsame : ∀ {q : Process}, q.ctxs = p.ctxs →
      (∀ ctx, ctx < p.ctxs.size → ∀ c', q.ctxs.read ctx = some c' →
        ∃ c, p.ctxs.read ctx = some c ∧ c'.libCtx = c.libCtx) ∧ q.ctxs.size ≤ p.ctxs.size + 1 ∧
      ∀ c, q.ctxs.read p.ctxs.size ≠ some c := by
    intro q hq
    rw [hq]
    refine ⟨fun ctx _ c' hread => ⟨c', hread, rfl⟩, by omega, fun c hread => ?_⟩
    have := Heap.lt_size_of_read (h := p.ctxs) (i := p.ctxs.size) (by rw [hread]; nofun)
    omega
  cases h with
  | noAdaptor hret hnot hengine =>
    obtain ⟨hold, hsize, hnone⟩ := hsame hengine.ctxs
    exact ⟨hold, hsize, fun c hread => absurd hread (hnone c)⟩
  | noCtx hnot hengine =>
    obtain ⟨hold, hsize, hnone⟩ := hsame hengine.ctxs
    exact ⟨hold, hsize, fun c hread => absurd hread (hnone c)⟩
  | @withCtx conn'' q _ _ hinit halloc hengine hprovider hctx =>
    obtain ⟨c, hsteady, hprov, hread, hrefs⟩ := hctx.added
    have hq := hengine.ctxs
    have hsize : p'.ctxs.size = p.ctxs.size + 1 := by
      rw [hsteady.ctxSize]
      show (q.ctxs.alloc c).2.size = _
      rw [Heap.size_alloc, hq]
    refine ⟨fun ctx hlt c' hread' => ?_, by omega, fun c' hread' hlib hnot => ⟨hinit, ?_, ?_⟩⟩
    · obtain ⟨c₁, hread₁, hlib⟩ := hsteady.ctxs ctx c' hread'
      change (q.ctxs.alloc c).2.read ctx = some c₁ at hread₁
      rw [Heap.read_alloc, Heap.alloc_fst, hq, if_neg (by omega)] at hread₁
      exact ⟨c₁, hread₁, hlib⟩
    · show some q.ctxs.size = _
      rw [hq]
    · rw [hq] at hread
      obtain rfl := Option.some.inj (hread.symm.trans hread')
      refine hrefs hlib ?_
      rw [hprovider]
      exact hnot

theorem SetupOutcome.grounded {g : Globals} {env : SetupEnv} {conn conn' : SCFConnectionImpl}
    {p p' : Process} {ret : Errno} (h : SetupOutcome g env conn p ((ret, conn'), p'))
    {origin held : ℕ → Option ℕ} (hg : Grounded g p origin held)
    (hlive : ∀ e, conn.cryptoEngine = some e → p.engines.read e ≠ none) (i : ℕ) :
    Grounded g p' (origins p p' origin) (Function.update held i conn'.cryptoEngine) := by
  -- without a new context the engines that contexts belong to stay as they are
  have hsame : ∀ {q : Process} {held' : ℕ → Option ℕ}, q.ctxs = p.ctxs → Grounded g q origin held' →
      Grounded g q (origins p q origin) held' := by
    intro q held' hq hgq
    refine hgq.congr fun ctx c hread _ => if_pos ?_
    rw [← hq]
    exact Heap.lt_size_of_read (by rw [hread]; nofun)
  cases h with
  | noAdaptor hret hnot hengine => exact hsame hengine.ctxs (hengine.grounded hg hlive i)
  | noCtx hnot hengine => exact hsame hengine.ctxs (hengine.grounded hg hlive i)
  | @withCtx conn'' q _ _ hinit halloc hengine hprovider hctx =>
    obtain ⟨c, hsteady, hprov, -⟩ := hctx.added
    have horigins : origins p p' origin = origins q (q.addCtx c) origin := by
      funext ctx
      unfold origins
      rw [hengine.ctxs, hsteady.adaptorEngine]
    rw [horigins]
    exact ((hengine.grounded hg hlive i).addCtx hprov).steady hsteady

/-- The engine that a connection has to finalise is its own from before, or a new one. -/
theorem SetupOutcome.ownEngine {g : Globals} {env : SetupEnv} {conn conn' : SCFConnectionImpl}
    {p p' : Process} {ret : Errno} (h : SetupOutcome g env conn p ((ret, conn'), p')) {e : ℕ}
    (he : conn'.ownEngine = some e) :
    conn.ownEngine = some e ∨ CreatesEngine env conn ∧ e = p.engines.size := by
  have hengine : ∀ {ret conn₁ p₁}, EngineOutcome g env conn p ((ret, conn₁), p₁) →
      conn₁.ownEngine = some e →
      conn.ownEngine = some e ∨ CreatesEngine env conn ∧ e = p.engines.size := by
    intro ret conn₁ p₁ h he
    cases h with
    | reused h => exact .inl he
    | absent h => exact .inl he
    | created h henv hinit =>
      exact .inr ⟨⟨h, by rw [henv]; nofun, hinit⟩, (Option.some.inj he).symm⟩
  cases h with
  | noAdaptor hret hnot h => exact hengine h he
  | noCtx hnot h => exact hengine h he
  | withCtx hinit halloc h hprovider hctx => exact hengine h he

/-! ### Releasing -/

/-- A connection is released whose engine nothing else refers to. -/
theorem Grounded.release {g : Globals} {p : Process} {origin held : ℕ → Option ℕ}
    (h : Grounded g p origin held) (conn : SCFConnectionImpl) (i : ℕ)
    (hlive : ∀ e, conn.cryptoEngine = some e → p.engines.read e ≠ none)
    (hheld : ∀ e, conn.ownEngine = some e → ∀ j, j ≠ i → held j ≠ some e)
    (hctxs : ∀ e, conn.ownEngine = some e → ∀ ctx c, (p.stripped g conn).ctxs.read ctx = some c →
      c.libCtx ≠ none → origin ctx ≠ some e) :
    Grounded g (p.released g conn) origin
      (Function.update held i conn.released.cryptoEngine) := by
  have hstripped := stripped_steady g conn p
  have hreleased : conn.released.cryptoEngine =
    if conn.ownsCryptoEngine then none else conn.cryptoEngine := rfl
  rw [released_eq]
  cases hown : conn.ownEngine with
  | none =>
    refine (h.steady hstripped).setHeld i fun e he => ?_
    rw [hreleased] at he
    split_ifs at he
    rw [hstripped.engines]
    exact hlive e he
  | some e =>
    have hnone : conn.released.cryptoEngine = none := by
      unfold SCFConnectionImpl.ownEngine at hown
      split_ifs at hown with howns
      rw [hreleased, if_pos howns]
    rw [hnone]
    have hset : Grounded g (p.stripped g conn) origin (Function.update held i none) :=
      (h.steady hstripped).setHeld i fun _ he => nomatch he
    refine hset.dropEngine (fun j hj => ?_) (hctxs e hown)
    by_cases hji : j = i
    · rw [hji, Function.update_self] at hj
      cases hj
    · rw [Function.update_of_ne hji] at hj
      exact hheld e hown j hji hj

/-- The engines that contexts belong to are the same behind a step that leaves the adaptor alone. -/
theorem origins_steady {p p₁ p₂ : Process} (h : Steady p₁ p₂) (origin : ℕ → Option ℕ) :
    origins p p₂ origin = origins p p₁ origin := by
  funext ctx
  unfold origins
  rw [h.adaptorEngine]

/-- Nothing refers to an engine that has yet to be created. -/
theorem Grounded.fresh {g : Globals} {p : Process} {origin held : ℕ → Option ℕ}
    (hg : Grounded g p origin held) :
    (∀ j, held j ≠ some p.engines.size) ∧
      ∀ ctx c, p.ctxs.read ctx = some c → c.libCtx ≠ none → origin ctx ≠ some p.engines.size := by
  have hfresh : p.engines.read p.engines.size = none := Heap.read_size p.engines
  refine ⟨fun j hj => hg.held j _ hj hfresh, fun ctx c hread hlib horigin => ?_⟩
  obtain ⟨a, ha⟩ := Option.ne_none_iff_exists'.mp hlib
  obtain ⟨e', engine, horigin', hengine, -⟩ := hg.ctxs ctx c a hread ha
  obtain rfl := Option.some.inj (horigin'.symm.trans horigin)
  rw [hfresh] at hengine
  cases hengine

/-- The engine of a connection that was set up is the one from before, or a new one; nothing from
before the set-up refers to it, if this is so of the one from before. -/
theorem SetupOutcome.onlyUser {g : Globals} {env : SetupEnv} {conn conn₁ : SCFConnectionImpl}
    {p p₁ : Process} {ret : Errno} (h : SetupOutcome g env conn p ((ret, conn₁), p₁))
    {origin held : ℕ → Option ℕ} (hg : Grounded g p origin held) {i : ℕ}
    (halone : ∀ e, conn.ownEngine = some e → (∀ j, j ≠ i → held j ≠ some e) ∧
      ∀ ctx c, p.ctxs.read ctx = some c → c.libCtx ≠ none → origin ctx ≠ some e)
    {e : ℕ} (he : conn₁.ownEngine = some e) :
    (∀ j, j ≠ i → held j ≠ some e) ∧
      (∀ ctx c, p.ctxs.read ctx = some c → c.libCtx ≠ none → origin ctx ≠ some e) ∧
      (CreatesEngine env conn ∨ conn.ownEngine ≠ none) := by
  rcases h.ownEngine he with hbefore | ⟨hcreates, rfl⟩
  · exact ⟨(halone e hbefore).1, (halone e hbefore).2, .inr (by rw [hbefore]; nofun)⟩
  · exact ⟨fun j _ => hg.fresh.1 j, hg.fresh.2, .inl hcreates⟩

/-- A connection that was set up is released at once. Its new context has to go with it. -/
theorem SetupOutcome.giveUp {g : Globals} {env : SetupEnv} {conn conn₁ conn₂ : SCFConnectionImpl}
    {p p₁ p₂ : Process} {ret : Errno} (h : SetupOutcome g env conn p ((ret, conn₁), p₁))
    {origin held : ℕ → Option ℕ} (hg : Grounded g p origin held) {i : ℕ}
    (hlive : ∀ e, conn.cryptoEngine = some e → p.engines.read e ≠ none) (hp : Steady p₁ p₂)
    (hengine : conn₂.cryptoEngine = conn₁.cryptoEngine) (hown : conn₂.ownEngine = conn₁.ownEngine)
    (halone : ∀ e, conn.ownEngine = some e → (∀ j, j ≠ i → held j ≠ some e) ∧
      ∀ ctx c, p.ctxs.read ctx = some c → c.libCtx ≠ none → origin ctx ≠ some e)
    (hnew : CreatesEngine env conn ∨ conn.ownEngine ≠ none → ∀ c,
      p₂.ctxs.read p.ctxs.size = some c → c.libCtx ≠ none → HoldsAll g p₂ conn₂ p.ctxs.size c) :
    Grounded g (p₂.released g conn₂) (origins p (p₂.released g conn₂) origin)
      (Function.update held i conn₂.released.cryptoEngine) := by
  have hg₂ := (h.grounded hg hlive i).steady hp
  have hlive₂ : ∀ e, conn₂.cryptoEngine = some e → p₂.engines.read e ≠ none := fun e he =>
    hg₂.held i e (by rw [Function.update_self, ← hengine]; exact he)
  have hstripped := stripped_steady g conn₂ p₂
  obtain ⟨hold, hsize, -⟩ := h.ctxs
  have hfinal := fun e (he : conn₂.ownEngine = some e) =>
    h.onlyUser hg halone (hown.symm.trans he)
  -- a context that is left belongs to the engine from before
  have hleft : ∀ e, conn₂.ownEngine = some e → ∀ ctx c,
      (p₂.stripped g conn₂).ctxs.read ctx = some c → c.libCtx ≠ none →
      ctx < p.ctxs.size ∧ origin ctx ≠ some e := by
    intro e he ctx c hread hlib
    obtain ⟨-, hctxs, hwhich⟩ := hfinal e he
    obtain ⟨c₂, hread₂, hlib₂⟩ := hstripped.ctxs ctx c hread
    obtain ⟨c₁, hread₁, hlib₁⟩ := hp.ctxs ctx c₂ hread₂
    have hlt : ctx < p.ctxs.size := by
      by_contra hge
      have hlt₁ := Heap.lt_size_of_read (h := p₁.ctxs) (i := ctx) (by rw [hread₁]; nofun)
      obtain rfl : ctx = p.ctxs.size := by omega
      have hfreed := stripped_frees (hnew hwhich c₂ hread₂ (by rwa [← hlib₂])) hread₂
      rw [hread] at hfreed
      cases hfreed
    obtain ⟨c₀, hread₀, hlib₀⟩ := hold ctx hlt c₁ hread₁
    exact ⟨hlt, hctxs ctx c₀ hread₀ (by rwa [← hlib₀, ← hlib₁, ← hlib₂])⟩
  have hreleased := hg₂.release conn₂ i hlive₂
    (fun e he j hj => by rw [Function.update_of_ne hj]; exact (hfinal e he).1 j hj)
    (fun e he ctx c hread hlib => by
      rw [origins, if_pos (hleft e he ctx c hread hlib).1]
      exact (hleft e he ctx c hread hlib).2)
  rw [Function.update_idem] at hreleased
  refine hreleased.congr fun ctx c hread hlib => ?_
  cases hown₂ : conn₂.ownEngine with
  | none =>
    rw [released_eq, hown₂]
    exact congrFun (origins_steady (hp.trans hstripped) origin) ctx
  | some e =>
    rw [released_eq, hown₂] at hread
    have hlt := (hleft e hown₂ ctx c hread hlib).1
    rw [origins, origins, if_pos hlt, if_pos hlt]

/-! ### Opening -/

theorem SetupOutcome.policyCtx {g : Globals} {env : SetupEnv} {conn conn' : SCFConnectionImpl}
    {p p' : Process} (h : SetupOutcome g env conn p ((.success, conn'), p')) :
    conn'.policyCtx = some p.ctxs.size := by
  cases h with
  | noAdaptor hret hnot hengine => exact absurd rfl hret
  | @withCtx conn'' q _ _ hinit halloc hengine hprovider hctx =>
    show some q.ctxs.size = _
    rw [hengine.ctxs]

/-- The only reference to a new context is that of its connection. -/
theorem SetupOutcome.holdsAll {g : Globals} {env : SetupEnv} {conn conn₁ conn₂ : SCFConnectionImpl}
    {p p₁ p₂ : Process} {ret : Errno} (h : SetupOutcome g env conn p ((ret, conn₁), p₁))
    (hnot : ¬ LeavesLookup g env conn p) (hctxs : p₂.ctxs = p₁.ctxs)
    (hctx : conn₂.policyCtx = conn₁.policyCtx) :
    ∀ c, p₂.ctxs.read p.ctxs.size = some c → c.libCtx ≠ none →
      c.refCnt = 1 ∧ HoldsAll g p₂ conn₂ p.ctxs.size c := by
  intro c hread hlib
  rw [hctxs] at hread
  obtain ⟨hinit, hown, hrefs⟩ := h.ctxs.2.2 c hread hlib hnot
  exact ⟨hrefs, hinit, hctx.trans hown, .inl hrefs⟩

theorem TransportOutcome.engine {env : ConnEnv} {opened : SCFConnectionState}
    {conn conn' : SCFConnectionImpl} {p p' : Process} {ret : Errno}
    (h : TransportOutcome env opened conn p ((ret, conn'), p')) :
    Steady p p' ∧ conn'.cryptoEngine = conn.cryptoEngine ∧ conn'.ownEngine = conn.ownEngine := by
  cases h with
  | notCreated h => exact ⟨.refl p, rfl, rfl⟩
  | notOpened h hopen => exact ⟨.of_ctxs rfl rfl rfl, rfl, rfl⟩
  | done h hopen => exact ⟨.of_ctxs rfl rfl rfl, rfl, rfl⟩

section ObjOutcome

variable {g : Globals} {env : ConnEnv} {conn conn' : SCFConnectionImpl} {ctx : ℕ} {c : SCFPolicyCtx}
  {p p' : Process} {ret : Errno}

theorem ObjOutcome.engine (h : ObjOutcome g env conn ctx c p ((ret, conn'), p'))
    (hread : p.ctxs.read ctx = some c) :
    Steady p p' ∧ conn'.cryptoEngine = conn.cryptoEngine ∧ conn'.ownEngine = conn.ownEngine := by
  cases h with
  | notCreated h => exact ⟨.refl p, rfl, rfl⟩
  | created h hret hwants ho =>
    refine ⟨⟨rfl, rfl, Heap.size_modify _ _ _, fun i c' hread' => ?_⟩, rfl, rfl⟩
    change (p.ctxs.modify ctx fun _ => { c with refCnt := c.refCnt + 1 }).read i = some c' at hread'
    rw [Heap.read_modify] at hread'
    split_ifs at hread' with hi
    · rw [← hi, hread] at hread'
      obtain rfl := Option.some.inj hread'
      exact ⟨c, hi ▸ hread, rfl⟩
    · exact ⟨c', hread', rfl⟩

/-- The references to a context are those of its connection and of the new object. -/
theorem ObjOutcome.holdsAll (h : ObjOutcome g env conn ctx c p ((ret, conn'), p'))
    (hread : p.ctxs.read ctx = some c)
    (hrefs : c.libCtx ≠ none → c.refCnt = 1 ∧ HoldsAll g p conn ctx c) :
    ∀ c', p'.ctxs.read ctx = some c' → c'.libCtx ≠ none → HoldsAll g p' conn' ctx c' := by
  intro c' hread' hlib
  cases h with
  | notCreated h =>
    obtain rfl := Option.some.inj (hread.symm.trans hread')
    obtain ⟨hone, hholds⟩ := hrefs hlib
    exact ⟨hholds.init, hholds.own, .inl hone⟩
  | @created _ o h hret hwants ho =>
    have hread'' : (p.bindObj ctx c o).ctxs.read ctx = some { c with refCnt := c.refCnt + 1 } :=
      read_setCtx hread _
    obtain rfl := Option.some.inj (hread''.symm.trans hread')
    obtain ⟨hone, hholds⟩ := hrefs hlib
    refine ⟨hholds.init, hholds.own, .inr ⟨?_, _, _, rfl, read_bindObj ctx c o p, rfl⟩⟩
    show c.refCnt + 1 = 2
    rw [hone]
    rfl

end ObjOutcome

theorem SameHoldings.ownEngine {conn conn' : SCFConnectionImpl} (h : SameHoldings conn conn') :
    conn'.ownEngine = conn.ownEngine := by
  unfold SCFConnectionImpl.ownEngine
  rw [h.ownsCryptoEngine, h.cryptoEngine]

/-- The references to contexts stay where they are. -/
theorem HoldsAll.of_calm {g : Globals} {conn conn' : SCFConnectionImpl} {ctx : ℕ} {p p' : Process}
    (h : ∀ c, p.ctxs.read ctx = some c → c.libCtx ≠ none → HoldsAll g p conn ctx c)
    (hsame : SameHoldings conn conn') (hcalm : Calm p p') :
    ∀ c', p'.ctxs.read ctx = some c' → c'.libCtx ≠ none → HoldsAll g p' conn' ctx c' := by
  intro c' hread' hlib
  have hessence := hcalm.ctxs ctx
  rw [hread'] at hessence
  obtain ⟨c, hread, hc⟩ := Option.map_eq_some_iff.mp hessence.symm
  have hrefs : c'.refCnt = c.refCnt := congrArg Prod.fst hc.symm
  have hcfg : c'.sslConfig = c.sslConfig := congrArg Prod.snd hc.symm
  rw [SCFPolicyCtx.libCtx, hcfg] at hlib
  obtain ⟨hinit, hown, hone | ⟨htwo, obj, o, hobj, hobjread, hbound⟩⟩ := h c hread hlib
  · exact ⟨hinit, hsame.policyCtx.trans hown, .inl (hrefs.trans hone)⟩
  · have hobjs := hcalm.objs obj
    rw [hobjread] at hobjs
    obtain ⟨o', hobjread', hbound'⟩ := Option.map_eq_some_iff.mp hobjs
    exact ⟨hinit, hsame.policyCtx.trans hown, .inr ⟨hrefs.trans htwo, obj, o',
      hsame.policyObj.trans hobj, hobjread', hbound'.trans hbound⟩⟩

section Opening

variable {g : Globals} {env : ConnEnv} {conn : SCFConnectionImpl} {p p' : Process}
  {origin held : ℕ → Option ℕ} {i : ℕ}

theorem ConnectOutcome.grounded {conn' : SCFConnectionImpl} {ret : Errno}
    (h : ConnectOutcome g env conn p ((ret, conn'), p')) (hg : Grounded g p origin held)
    (hlive : ∀ e, conn.cryptoEngine = some e → p.engines.read e ≠ none)
    (hok : SetupOk g env.setup conn p → ¬ TransportAndObjOk g env →
      (CreatesEngine env.setup conn ∨ conn.ownEngine ≠ none →
        ¬ LeavesLookup g env.setup conn p) ∧
      ∀ e, conn.ownEngine = some e → (∀ j, j ≠ i → held j ≠ some e) ∧
        ∀ ctx c, p.ctxs.read ctx = some c → c.libCtx ≠ none → origin ctx ≠ some e) :
    Grounded g p' (origins p p' origin) (Function.update held i conn'.cryptoEngine) := by
  have hiff := h.intoError_iff
  cases h with
  | notSetUp hret hsetup => exact hsetup.grounded hg hlive i
  | noTransport hsetup hret htransport =>
    obtain ⟨hsetupOk, hnot⟩ := Classical.not_imp.mp
      (mt hiff.mpr (not_failsIntoError_released hret htransport.success_iff.2 _))
    obtain ⟨hleaves, halone⟩ := hok hsetupOk hnot
    obtain ⟨hsteady, hengine, hown⟩ := htransport.engine
    refine hsetup.giveUp hg hlive hsteady hengine hown halone fun hwhich c hread hlib => ?_
    exact (hsetup.holdsAll (hleaves hwhich) htransport.ctxs.1 htransport.ctxs.2 c hread hlib).2
  | noObj hsetup htransport hctx hread hconf hret hobj =>
    obtain ⟨hsetupOk, hnot⟩ := Classical.not_imp.mp
      (mt hiff.mpr (not_failsIntoError_released hret hobj.success_iff.2 _))
    obtain ⟨hleaves, halone⟩ := hok hsetupOk hnot
    obtain ⟨hsteady, hengine, hown⟩ := htransport.engine
    obtain ⟨hctxs, hctx'⟩ := htransport.ctxs
    have hread₂ := (congrArg (Heap.read _) hctxs).trans hread
    obtain ⟨hsteady', hengine', hown'⟩ := hobj.engine hread₂
    obtain rfl := Option.some.inj (hctx.symm.trans hsetup.policyCtx)
    refine hsetup.giveUp hg hlive (hsteady.trans hsteady') (hengine'.trans hengine)
      (hown'.trans hown) halone fun hwhich => ?_
    exact hobj.holdsAll hread₂ (hsetup.holdsAll (hleaves hwhich) hctxs hctx' _ hread₂)
  | handshake hsetup htransport hctx hread hconf hobj hshake =>
    obtain ⟨hsteady, hengine, -⟩ := htransport.engine
    have hread₂ := (congrArg (Heap.read _) htransport.ctxs.1).trans hread
    obtain ⟨hsteady', hengine', -⟩ := hobj.engine hread₂
    obtain ⟨hsame, hcalm⟩ := hshake.calm
    have hall := (hsteady.trans hsteady').trans hcalm.steady
    rw [origins_steady hall, hsame.cryptoEngine, hengine', hengine]
    exact (hsetup.grounded hg hlive i).steady hall

theorem ListenOutcome.grounded {conn' : SCFConnectionImpl} {ret : Errno}
    (h : ListenOutcome g env conn p ((ret, conn'), p')) (hg : Grounded g p origin held)
    (hlive : ∀ e, conn.cryptoEngine = some e → p.engines.read e ≠ none) :
    Grounded g p' (origins p p' origin) (Function.update held i conn'.cryptoEngine) := by
  have hdone : ∀ {ret₁ ret₂ conn₁ conn₂ p₁ p₂},
      SetupOutcome g env.setup conn p ((ret₁, conn₁), p₁) →
      TransportOutcome env .init conn₁ p₁ ((ret₂, conn₂), p₂) →
      Grounded g p₂ (origins p p₂ origin) (Function.update held i conn₂.cryptoEngine) := by
    intro ret₁ ret₂ conn₁ conn₂ p₁ p₂ hsetup htransport
    obtain ⟨hsteady, hengine, -⟩ := htransport.engine
    rw [origins_steady hsteady, hengine]
    exact (hsetup.grounded hg hlive i).steady hsteady
  cases h with
  | notSetUp hret hsetup => exact hsetup.grounded hg hlive i
  | noTransport hsetup hret htransport =>
    have hgrounded := hdone hsetup htransport
    exact hgrounded
  | done hsetup htransport => exact hdone hsetup htransport

/-- A handshake on a new object of a server, as the TLS library lets it end. -/
theorem handshakeOn_shakeOk {o : SCFPolicyObj} {outcome : HandshakeOutcome}
    (hinit : g.scfInitialized = true) (hssl : o.sslCtx ≠ none) (hrole : o.role = .server)
    (hshake : ShakeOk outcome) :
    (handshakeOn g true outcome o).1 = .success ∨ (handshakeOn g true outcome o).1.Wants := by
  obtain ⟨ssl, hssl⟩ := Option.ne_none_iff_exists'.mp hssl
  have hrole' : o.role = handshakeRole true := hrole
  unfold handshakeOn adaptorHandshake
  rw [if_neg (by rw [hrole]; decide), hinit, hssl]
  rcases hshake with ⟨version, rfl⟩ | ⟨code, rfl, hwants⟩
  · left
    simp [hrole']
  · right
    simpa [hrole'] using hwants

/-- If everything goes well, `Accept` gives no connection up. -/
theorem AcceptOnOutcome.kept (h : AcceptOnOutcome g env conn p (none, p'))
    (hserver : conn.isServer = true) (hhandle : p.nativeHandle conn.transport = env.nativeHandle) :
    ¬ AcceptOk g env conn p := by
  intro hok
  -- the transport is the same behind the set-up
  have hhandle₁ : ∀ {ret conn₁ p₁}, SetupOutcome g env.setup conn p ((ret, conn₁), p₁) →
      p₁.nativeHandle conn₁.transport = env.nativeHandle := by
    intro ret conn₁ p₁ hsetup
    rw [Process.nativeHandle, hsetup.keeps.transport, hsetup.keeps.transports]
    exact hhandle
  have hbind : ∀ {conn₁ p₁ ctx c}, SetupOutcome g env.setup conn p ((.success, conn₁), p₁) →
      conn₁.policyCtx = some ctx → p₁.ctxs.read ctx = some c →
      Configured conn.config c ∧ BindOk env.ssl (p₁.nativeHandle conn₁.transport) c := by
    intro conn₁ p₁ ctx c hsetup hctx hread
    obtain ⟨ctx', c', hctx', hread', hconf⟩ := hsetup.ctx
    obtain rfl := Option.some.inj (hctx.symm.trans hctx')
    obtain rfl := Option.some.inj (hread.symm.trans hread')
    exact ⟨hconf, (hconf.bindOk_iff hok.setup.basic.role _ _).mpr (.inr hok.bind)⟩
  cases h with
  | notSetUp hret hsetup => exact hret (hsetup.success_iff.mpr hok.setup)
  | noObj hsetup hctx hread hret hobj =>
    exact hret (hobj.success_iff.1.mpr ⟨hok.obj, (hbind hsetup hctx hread).2⟩)
  | @notShaken _ conn₁ _ _ p₁ _ _ _ c hsetup hctx hread hobj hret hwants hshake =>
    cases hobj with
    | @created _ o h hsuccess hnot ho =>
      have hrole : o.role = .server := by
        rw [ho.role, (hbind hsetup hctx hread).1.role]
        exact hok.role
      have hssl : o.sslCtx ≠ none := ho.ssl rfl (by rw [hhandle₁ hsetup]; exact hok.handle)
      have hserver₁ : conn₁.isServer = true := hsetup.keeps.isServer.trans hserver
      cases hshake with
      | noObj h => cases h
      | dangling h hread' =>
        obtain rfl := Option.some.inj h
        rw [read_bindObj] at hread'
        cases hread'
      | done h hread' hp hread'' =>
        obtain rfl := Option.some.inj h
        rw [read_bindObj] at hread'
        obtain rfl := Option.some.inj hread'
        change (handshakeOn g conn₁.isServer env.handshake o).1 ≠ .success at hret
        change ¬ (handshakeOn g conn₁.isServer env.handshake o).1.Wants at hwants
        rw [hserver₁] at hret hwants
        rcases handshakeOn_shakeOk hok.setup.basic.init hssl hrole hok.shake with hdone | hcont
        · exact hret hdone
        · exact hwants hcont

/-- The new connection in `Accept`, in a place where there is none yet. -/
theorem AcceptOnOutcome.grounded {conn' : Option SCFConnectionImpl}
    (h : AcceptOnOutcome g env conn p (conn', p')) (hg : Grounded g p origin held)
    (hlive : ∀ e, conn.cryptoEngine = some e → p.engines.read e ≠ none)
    (hown : conn.ownEngine = none) (hserver : conn.isServer = true)
    (hhandle : p.nativeHandle conn.transport = env.nativeHandle)
    (hok : CreatesEngine env.setup conn → LeavesLookup g env.setup conn p →
      AcceptOk g env conn p) :
    Grounded g p' (origins p p' origin)
      (Function.update held i (conn'.bind SCFConnectionImpl.cryptoEngine)) := by
  -- a connection that is given up leaves its place empty
  have hempty : ∀ {ptr}, Grounded g p' (origins p p' origin) (Function.update held i ptr) →
      Grounded g p' (origins p p' origin) (Function.update held i none) := by
    intro ptr hgrounded
    have hset := hgrounded.setHeld i (fun _ he => nomatch he : ∀ e, none = some e → _)
    rwa [Function.update_idem] at hset
  have hleaves : conn' = none → CreatesEngine env.setup conn ∨ conn.ownEngine ≠ none →
      ¬ LeavesLookup g env.setup conn p := by
    rintro rfl (hcreates | hne) hleaves
    · exact h.kept hserver hhandle (hok hcreates hleaves)
    · exact hne hown
  have halone : ∀ e, conn.ownEngine = some e → (∀ j, j ≠ i → held j ≠ some e) ∧
      ∀ ctx c, p.ctxs.read ctx = some c → c.libCtx ≠ none → origin ctx ≠ some e := by
    intro e he
    rw [hown] at he
    cases he
  cases h with
  | notSetUp hret hsetup =>
    refine hempty (hsetup.giveUp hg hlive (.refl _) rfl rfl halone fun hwhich c hread hlib => ?_)
    exact (hsetup.holdsAll (hleaves rfl hwhich) rfl rfl c hread hlib).2
  | noObj hsetup hctx hread hret hobj =>
    obtain ⟨hsteady, hengine, hown'⟩ := hobj.engine hread
    obtain rfl := Option.some.inj (hctx.symm.trans hsetup.policyCtx)
    refine hempty (hsetup.giveUp hg hlive hsteady hengine hown' halone fun hwhich => ?_)
    exact hobj.holdsAll hread (hsetup.holdsAll (hleaves rfl hwhich) rfl rfl _ hread)
  | notShaken hsetup hctx hread hobj hret hwants hshake =>
    obtain ⟨hsteady, hengine, hown'⟩ := hobj.engine hread
    obtain ⟨hsame, hcalm⟩ := hshake.calm
    obtain rfl := Option.some.inj (hctx.symm.trans hsetup.policyCtx)
    have hown₃ := hsame.ownEngine.trans hown'
    refine hempty (hsetup.giveUp hg hlive (hsteady.trans hcalm.steady)
      (hsame.cryptoEngine.trans hengine) hown₃ halone fun hwhich => ?_)
    refine HoldsAll.of_calm (hobj.holdsAll hread ?_) hsame hcalm
    exact hsetup.holdsAll (hleaves rfl hwhich) rfl rfl _ hread
  | handshake hsetup hctx hread hobj hret hshake =>
    obtain ⟨hsteady, hengine, -⟩ := hobj.engine hread
    obtain ⟨hsame, hcalm⟩ := hshake.calm
    have hall := hsteady.trans hcalm.steady
    rw [origins_steady hall]
    show Grounded _ _ _ (Function.update held i _)
    rw [Option.bind_some, hsame.cryptoEngine, hengine]
    exact (hsetup.grounded hg hlive i).steady hall

theorem AcceptOutcome.grounded {conn' : Option SCFConnectionImpl}
    (h : AcceptOutcome g env conn p (conn', p')) (hg : Grounded g p origin held)
    (hlive : ∀ e, conn.cryptoEngine = some e → p.engines.read e ≠ none) (hi : held i = none)
    (hok : AcceptReaches env conn → CreatesEngine env.setup conn →
      LeavesLookup g env.setup conn p → AcceptOk g env conn p) :
    Grounded g p' (origins p p' origin)
      (Function.update held i (conn'.bind SCFConnectionImpl.cryptoEngine)) := by
  have hkeep : ∀ {q}, Steady p q →
      Grounded g q (origins p q origin) (Function.update held i none) := by
    intro q hsteady
    rw [← hi, Function.update_eq_self]
    refine (hg.steady hsteady).congr fun ctx c hread _ => if_pos ?_
    rw [← hsteady.ctxSize]
    exact Heap.lt_size_of_read (by rw [hread]; nofun)
  cases h with
  | nothing => exact hkeep (.refl p)
  | noConn => exact hkeep (.of_ctxs rfl rfl rfl)
  | child hreach h =>
    have hadded : Grounded g (p.addTransport ⟨true, env.nativeHandle⟩) origin held :=
      hg.steady (.of_ctxs rfl rfl rfl)
    have hinjected : Grounded g ((p.addTransport ⟨true, env.nativeHandle⟩).atPtr conn.cryptoEngine
        (Process.inject g)) origin held := by
      cases hengine : conn.cryptoEngine with
      | none => exact hadded
      | some e => exact hadded.inject (hlive e hengine)
    obtain ⟨hctxs, -, htransports, hengines⟩ := atPtr_inject g conn.cryptoEngine
      (p.addTransport ⟨true, env.nativeHandle⟩)
    have hhandle : Process.nativeHandle (conn.child p.transports.size).transport
        ((p.addTransport ⟨true, env.nativeHandle⟩).atPtr conn.cryptoEngine (Process.inject g)) =
        env.nativeHandle := by
      rw [Process.nativeHandle, htransports]
      show ((((p.transports.alloc ⟨true, env.nativeHandle⟩).2.read p.transports.size).map
        Transport.nativeHandle).getD (-1)) = _
      rw [Heap.read_alloc, Heap.alloc_fst, if_pos rfl]
      rfl
    have horigins : origins p p' origin = origins ((p.addTransport ⟨true, env.nativeHandle⟩).atPtr
        conn.cryptoEngine (Process.inject g)) p' origin := by
      funext ctx
      unfold origins
      rw [hctxs]
      rfl
    rw [horigins]
    refine h.grounded hinjected (fun e he => ?_) rfl rfl hhandle fun hcreates hleaves => ?_
    · rw [hengines]
      exact hlive e he
    · -- a connection without an engine meets the adaptor as it is
      have hnone : conn.cryptoEngine = none := hcreates.absent
      have hcreates' : CreatesEngine env.setup conn := ⟨hnone, hcreates.factory, hcreates.init⟩
      unfold LeavesLookup at hleaves hok
      rw [child_libraryCtx] at hleaves
      obtain ⟨⟨halloc, hbasic, hkeys, hcallback⟩, hrole, hobj, hhandle, hbind, hshake⟩ :=
        hok hreach hcreates' hleaves
      rw [← child_libraryCtx g env.setup ⟨true, env.nativeHandle⟩ p.transports.size conn p] at hbasic
      exact ⟨⟨halloc, hbasic, hkeys, hcallback⟩, hrole, hobj, hhandle, hbind, hshake⟩

end Opening

/-! ### All connections -/

theorem enginesAlive_of_grounded {g : Globals} {s : EngineHistory}
    (h : Grounded g s.1.process s.2 (s.1.held SCFConnectionImpl.cryptoEngine)) : EnginesAlive s :=
  ⟨h.adaptor, fun i _ e hread he => h.held i e ((held_eq _ hread).trans he), h.ctxs⟩

/-- The other users of an engine, as holders of pointers. -/
theorem OnlyUser.held {s : System} {i e : ℕ} (h : OnlyUser s i e) :
    ∀ j, j ≠ i → s.held SCFConnectionImpl.cryptoEngine j ≠ some e := by
  intro j hj hheld
  obtain ⟨conn, hread, he⟩ := Option.bind_eq_some_iff.mp hheld
  exact h j conn hj hread he

/-- **Step lemma**: a call that finalises no engine that is in use keeps all references valid. -/
theorem Grounded.call {g : Globals} {s s' : System} {origin : ℕ → Option ℕ} {call : ConnCall}
    (hout : CallOutcome g s call s')
    (h : Grounded g s.process origin (s.held SCFConnectionImpl.cryptoEngine))
    (hok : SafeFinalise g (s, origin) call) :
    Grounded g s'.process (origins s.process s'.process origin)
      (s'.held SCFConnectionImpl.cryptoEngine) := by
  have hlive : ∀ {i conn}, s.conns.read i = some conn → ∀ e, conn.cryptoEngine = some e →
      s.process.engines.read e ≠ none := fun {i conn} hread e he =>
    h.held i e ((held_eq _ hread).trans he)
  have hfresh : s.held SCFConnectionImpl.cryptoEngine s.conns.size = none := by
    rw [System.held, Heap.read_size]
    rfl
  -- a step that leaves engines and contexts alone
  have hsteady : ∀ {p' held'}, Steady s.process p' →
      Grounded g s.process origin held' → Grounded g p' (origins s.process p' origin) held' := by
    intro p' held' hp hg
    refine (hg.steady hp).congr fun ctx c hread _ => if_pos ?_
    rw [← hp.ctxSize]
    exact Heap.lt_size_of_read (by rw [hread]; exact Option.some_ne_none _)
  cases hout with
  | idle => exact hsteady (.refl _) h
  | @created config =>
    have hheld := held_addConn SCFConnectionImpl.cryptoEngine (s := s) s.process
      (some (newConnection config))
    refine hsteady (.refl _) ?_
    change Grounded g s.process origin
      (({ s with process := s.process }.addConn (some (newConnection config))).2.held _)
    rw [hheld]
    exact h.setHeld _ fun e he => absurd he.symm (Option.some_ne_none e)
  | connected hread hout =>
    rw [held_modify _ hread]
    refine hout.grounded h (hlive hread) fun hsetup hnot => ?_
    obtain ⟨hleaves, halone⟩ := hok _ hread hsetup hnot
    exact ⟨hleaves, fun e he => ⟨(halone e he).1.held, fun ctx c hctx hlib horigin =>
      (halone e he).2 ctx c hctx hlib horigin⟩⟩
  | listened hread hout =>
    rw [held_modify _ hread]
    exact hout.grounded h (hlive hread)
  | accepted hread hout =>
    rw [addConn_process, held_addConn]
    exact hout.grounded h (hlive hread) hfresh (hok _ hread)
  | used hread hconn hp =>
    rw [held_modify _ hread, hconn.cryptoEngine, ← held_eq SCFConnectionImpl.cryptoEngine hread,
      Function.update_eq_self]
    exact hsteady hp.steady h
  | @destroyed i env conn hread =>
    rw [held_free]
    have hstripped := stripped_steady g conn s.process
    have hreleased := h.release conn i (hlive hread)
      (fun e he => (hok conn e hread he).1.held) fun e he ctx c hctx hlib horigin => by
        obtain ⟨c₀, hctx₀, hlib₀⟩ := hstripped.ctxs ctx c hctx
        have hholds := (hok conn e hread he).2 ctx c₀ hctx₀ (by rwa [← hlib₀]) horigin
        rw [stripped_frees hholds hctx₀] at hctx
        cases hctx
    have hnone : ∀ e, none = some e → (s.process.released g conn).engines.read e ≠ none :=
      fun e he => absurd he.symm (Option.some_ne_none e)
    have hset := hreleased.setHeld i hnone
    rw [Function.update_idem] at hset
    refine hset.congr fun ctx c hctx _ => if_pos ?_
    rw [← released_ctxSize g conn]
    exact Heap.lt_size_of_read (by rw [hctx]; exact Option.some_ne_none _)

/-- **Run theorem**: in a run whose calls finalise no engine that anything else refers to, the
engines of the adaptor, of all connections and of all contexts stay alive. -/
theorem enginesAlive_of_safeFinalise (g : Globals) {s : EngineHistory}
    (h : (engineMachine g).ReachableBy (SafeFinalise g) s) : EnginesAlive s := by
  refine enginesAlive_of_grounded (g := g) ?_
  refine Machine.ReachableBy.invariant
    (I := fun s => Grounded g s.1.process s.2 (s.1.held SCFConnectionImpl.cryptoEngine)) ?_ ?_ h
  · rintro s rfl
    exact ⟨nofun, fun i e he => (nomatch he), fun ctx c a hread => (nomatch hread), fun _ => rfl⟩
  · rintro ⟨s, origin⟩ call hgrounded hok
    exact Grounded.call (connCall_outcome g s call) hgrounded hok

/-- No other connection uses the engine of this one, and one context belongs to it, which this
connection holds together with an object on it. -/
theorem safeFinalise_destroy {s : EngineHistory} {i e ctx obj : ℕ} (env : ConnEnv)
    (hown : s.1.held SCFConnectionImpl.ownEngine i = some e)
    (hothers : ∀ j < s.1.conns.size, j ≠ i → s.1.held SCFConnectionImpl.cryptoEngine j ≠ some e)
    (hbelong : ∀ c < s.1.process.ctxs.size, c ≠ ctx → s.2 c ≠ some e)
    (hrefs : (s.1.process.ctxs.read ctx).map SCFPolicyCtx.refCnt = some 2)
    (hctx : s.1.held SCFConnectionImpl.policyCtx i = some ctx)
    (hobj : s.1.held SCFConnectionImpl.policyObj i = some obj)
    (hbound : (s.1.process.objs.read obj).map BoundObj.policyCtx = some ctx) :
    SafeFinalise .ready s (.destroy i env) := by
  intro conn e' hread he'
  rw [held_eq _ hread] at hctx hobj hown
  obtain rfl : e' = e := Option.some.inj (he'.symm.trans hown)
  refine ⟨fun j conn' hj hread' hengine => ?_, fun c ctx' hctxread hlib horigin => ?_⟩
  · have hlt := Heap.lt_size_of_read (h := s.1.conns) (i := j) (by rw [hread']; nofun)
    exact hothers j hlt hj ((held_eq _ hread').trans hengine)
  · have hlt := Heap.lt_size_of_read (h := s.1.process.ctxs) (i := c) (by rw [hctxread]; nofun)
    obtain rfl : c = ctx := by
      by_contra hne
      exact hbelong c hlt hne horigin
    rw [hctxread] at hrefs
    obtain ⟨o, hobjread, ho⟩ := Option.map_eq_some_iff.mp hbound
    exact ⟨rfl, hctx, .inr ⟨Option.some.inj hrefs, obj, o, hobj, hobjread, ho⟩⟩

/-- Two clients connect, each with an engine, and the first one is destroyed: the engine of the
other stays alive. -/
theorem enginesAlive_two_clients :
    let s := (engineMachine .ready).after ({}, fun _ => none)
      [clientCall, clientCall, .connect 0 (engineEnv 10), .connect 1 (engineEnv 20),
        .destroy 0 .plain]
    s.1.held SCFConnectionImpl.cryptoEngine 1 = some 1 ∧ s.1.process.engines.read 0 = none ∧
      s.1.process.engines.read 1 ≠ none ∧ EnginesAlive s := by
  intro s
  have hconnect : ∀ a, TransportAndObjOk .ready (engineEnv a) :=
    fun _ => ⟨rfl, rfl, ⟨rfl, nofun, rfl⟩, .inr ⟨rfl, rfl⟩⟩
  have halive : EnginesAlive s :=
    enginesAlive_of_safeFinalise .ready (.step (.step (.step (.step (.step (.initial rfl)
      clientCall trivial) clientCall trivial)
      (.connect 0 (engineEnv 10)) fun conn hread hsetup hnot => absurd (hconnect 10) hnot)
      (.connect 1 (engineEnv 20)) fun conn hread hsetup hnot => absurd (hconnect 20) hnot)
      (.destroy 0 .plain)
      (safeFinalise_destroy .plain rfl (by decide) (by decide) rfl rfl rfl rfl))
  have hheld : s.1.held SCFConnectionImpl.cryptoEngine 1 = some 1 := rfl
  obtain ⟨conn, hread, hengine⟩ := Option.bind_eq_some_iff.mp hheld
  exact ⟨hheld, rfl, halive.conns 1 conn 1 hread hengine, halive⟩

/-- A server with an engine accepts a connection and is destroyed before it. -/
def orphanCalls : List ConnCall :=
  [.create { role := .server } true, .listen 0 (engineEnv 10), .accept 0 .plain,
    .destroy 0 .plain]

/-- The accepted connection is connected, with an engine that has been finalised and a context in
its library context. -/
theorem accepted_connection_orphaned :
    let s := (engineMachine .ready).after ({}, fun _ => none) orphanCalls
    ∃ conn c, s.1.conns.read 1 = some conn ∧ conn.state = .connected ∧
      conn.cryptoEngine = some 0 ∧ s.1.process.engines.read 0 = none ∧
      conn.policyCtx = some 1 ∧ s.1.process.ctxs.read 1 = some c ∧ c.libCtx = some 10 ∧
      s.2 1 = some 0 ∧ ¬ EnginesAlive s :=
  ⟨_, _, rfl, rfl, rfl, rfl, rfl, rfl, rfl, rfl, fun h => h.conns 1 _ 0 rfl rfl rfl⟩

end Scf
