import ScfSecurity.Connection.Effects

/-!
# Crypto engines

A connection with hardware acceleration creates a crypto engine and hands it to the TLS adaptor,
which has room for one. The engine is finalised with the connection, and the adaptor then has
none, whoever the engine in it belonged to.

## Main definitions

- `SparesOthers`: a cleanup leaves the engines of other connections in effect

## Main results

- `cleanup_sparesOthers_iff`: when a cleanup does
-/

namespace Scf

open Automaton

/-! ### The engine of the adaptor -/

/-- The adaptor's engine changes only if it is the connection's own. Otherwise configurations
are made in the same library context as before. -/
structure SparesOthers (conn : SCFConnectionImpl) (p p' : Process) : Prop where
  slot : p'.adaptorEngine ≠ p.adaptorEngine → p.adaptorEngine = conn.ownEngine
  inEffect : p.adaptorEngine ≠ conn.ownEngine → p'.providerCtx = p.providerCtx

/-- If the connection has an engine to finalise, then the adaptor has this one or none. -/
def OwnEngineInSlot (g : Globals) (conn : SCFConnectionImpl) (p : Process) : Prop :=
  g.adaptor = true → conn.ownEngine ≠ none →
    p.adaptorEngine = none ∨ p.adaptorEngine = conn.ownEngine

/-- Objects, contexts and transports are released without touching the engines. -/
theorem releaseCtx_engines (ctx : ℕ) (p : Process) :
    (p.releaseCtx ctx).engines = p.engines ∧ (p.releaseCtx ctx).adaptorEngine = p.adaptorEngine := by
  unfold Process.releaseCtx
  cases p.ctxs.read ctx with
  | none => exact ⟨rfl, rfl⟩
  | some c =>
    dsimp only
    split_ifs <;> exact ⟨rfl, rfl⟩

theorem dropObj_engines (g : Globals) (obj : ℕ) (p : Process) :
    (p.dropObj g obj).engines = p.engines ∧ (p.dropObj g obj).adaptorEngine = p.adaptorEngine := by
  unfold Process.dropObj
  split_ifs
  · exact ⟨rfl, rfl⟩
  · cases p.objs.read obj with
    | none => exact ⟨rfl, rfl⟩
    | some o => exact releaseCtx_engines o.policyCtx p

theorem dropCtx_engines (g : Globals) (ctx : ℕ) (p : Process) :
    (p.dropCtx g ctx).engines = p.engines ∧ (p.dropCtx g ctx).adaptorEngine = p.adaptorEngine := by
  unfold Process.dropCtx
  split_ifs
  · exact ⟨rfl, rfl⟩
  · exact releaseCtx_engines ctx p

theorem atPtr_engines {f : ℕ → Process → Process}
    (hf : ∀ i p, (f i p).engines = p.engines ∧ (f i p).adaptorEngine = p.adaptorEngine)
    (ptr : Option ℕ) (p : Process) :
    (p.atPtr ptr f).engines = p.engines ∧ (p.atPtr ptr f).adaptorEngine = p.adaptorEngine := by
  cases ptr with
  | none => exact ⟨rfl, rfl⟩
  | some i => exact hf i p

/-- What `Cleanup` does to the engines. -/
theorem released_engines (g : Globals) (conn : SCFConnectionImpl) (p : Process) :
    conn.ownEngine = none ∧ (p.released g conn).engines = p.engines ∧
        (p.released g conn).adaptorEngine = p.adaptorEngine ∨
      ∃ e, conn.ownEngine = some e ∧ (p.released g conn).engines = p.engines.free e ∧
        (p.released g conn).adaptorEngine = if g.adaptor then none else p.adaptorEngine := by
  have hobj := atPtr_engines (dropObj_engines g) conn.policyObj p
  have hctx := atPtr_engines (dropCtx_engines g) conn.policyCtx
    (p.atPtr conn.policyObj (Process.dropObj g))
  have htransport := atPtr_engines (f := Process.dropTransport) (fun _ _ => ⟨rfl, rfl⟩)
    conn.transport ((p.atPtr conn.policyObj (Process.dropObj g)).atPtr conn.policyCtx
      (Process.dropCtx g))
  have hengines := htransport.1.trans (hctx.1.trans hobj.1)
  have hslot := htransport.2.trans (hctx.2.trans hobj.2)
  unfold Process.released
  cases hown : conn.ownEngine with
  | none => exact .inl ⟨rfl, hengines, hslot⟩
  | some e =>
    refine .inr ⟨e, rfl, congrArg (Heap.free e) hengines, ?_⟩
    rw [← hslot]
    rfl

theorem released_sparesOthers_iff (g : Globals) (conn : SCFConnectionImpl) (p : Process) :
    SparesOthers conn p (p.released g conn) ↔ OwnEngineInSlot g conn p := by
  rcases released_engines g conn p with ⟨hown, hengines, hslot⟩ | ⟨e, hown, hengines, hslot⟩
  · refine iff_of_true ⟨fun hne => absurd hslot hne, fun _ => ?_⟩ fun _ hne => absurd hown hne
    rw [Process.providerCtx, Process.providerCtx, hslot, hengines]
  · rw [OwnEngineInSlot, hown]
    cases hadaptor : g.adaptor with
    | false =>
      rw [hadaptor] at hslot
      refine iff_of_true ⟨fun hne => absurd hslot hne, fun hne => ?_⟩ fun hc => absurd hc (by decide)
      rw [hown] at hne
      -- the finalised engine is another one than that of the adaptor
      rw [Process.providerCtx, Process.providerCtx, hslot, hengines]
      cases hadapted : p.adaptorEngine with
      | none => rfl
      | some e' =>
        have hother : e ≠ e' := fun heq => hne (hadapted.trans (congrArg some heq.symm))
        show ((p.engines.free e).read e').bind _ = (p.engines.read e').bind _
        rw [Heap.read_free, if_neg hother]
    | true =>
      rw [hadaptor, if_pos rfl] at hslot
      constructor
      · intro h _ _
        rw [← hown]
        by_cases hnone : p.adaptorEngine = none
        · exact .inl hnone
        · exact .inr (h.slot fun heq => hnone (heq.symm.trans hslot))
      · intro h
        refine ⟨fun hne => ?_, fun hne => ?_⟩
        · rcases h rfl (by simp) with hnone | hsome
          · exact absurd (hslot.trans hnone.symm) hne
          · rw [hsome, hown]
        · rcases h rfl (by simp) with hnone | hsome
          · rw [Process.providerCtx, Process.providerCtx, hslot, hnone]
            rfl
          · exact absurd (hsome.trans hown.symm) hne

/-- Whoever is destroyed, or cleaned up after a failure in `Connect` or `Accept`: the engines that
other connections have put into the adaptor stay in effect exactly if the adaptor has no engine,
or the one that is finalised. -/
theorem cleanup_sparesOthers_iff (g : Globals) (env : ConnEnv) :
    (∀ (s : System) i conn, s.conns.read i = some conn →
      (SparesOthers conn s.process (s.deleteConn i g env).2.process ↔
        OwnEngineInSlot g conn s.process)) ∧
    (∀ ret conn p, SparesOthers conn p ((abandon g env ret conn).run p).2 ↔
      OwnEngineInSlot g conn p) ∧
    ∀ conn p, SparesOthers conn p ((discard g env conn).run p).2 ↔ OwnEngineInSlot g conn p := by
  refine ⟨fun s i conn hconn => ?_, fun ret conn p => ?_, fun conn p => ?_⟩
  · have hdelete : (s.deleteConn i g env).2.process = s.process.released g conn := by
      unfold System.deleteConn
      rw [hconn]
      dsimp only
      rw [cleanup_run]
    rw [hdelete]
    exact released_sparesOthers_iff g conn s.process
  · have habandon : ((abandon g env ret conn).run p).2 = p.released g conn := by
      unfold abandon
      rw [Resumption.run_bind, cleanup_run]
      rfl
    rw [habandon]
    exact released_sparesOthers_iff g conn p
  · have hdiscard : ((discard g env conn).run p).2 = p.released g conn := by
      unfold discard
      rw [Resumption.run_bind, cleanup_run]
      rfl
    rw [hdiscard]
    exact released_sparesOthers_iff g conn p

/-- A client that only has a configuration. -/
def clientCall : ConnCall := .create {} true

/-- Everything succeeds, with a crypto engine whose provider has this library context. -/
def engineEnv (providerCtx : Address) : ConnEnv :=
  { ConnEnv.plain with setup := { SetupEnv.plain with engine := some ⟨some providerCtx⟩ } }

/-- Two clients connect, each with an engine. -/
def twoClients : System :=
  connectionMachine.after {} [(.ready, clientCall), (.ready, clientCall),
    (.ready, .connect 0 (engineEnv 10)), (.ready, .connect 1 (engineEnv 20))]

/-- The second client, whose engine the adaptor has, is destroyed. -/
theorem cleanup_sparesOthers_second :
    ∃ conn, twoClients.conns.read 1 = some conn ∧ conn.state = .connected ∧
      conn.ownEngine = some 1 ∧ twoClients.process.adaptorEngine = some 1 ∧
      SparesOthers conn twoClients.process
        (twoClients.deleteConn 1 .ready .plain).2.process := by
  have hread : (twoClients.conns.read 1).map (fun conn => (conn.state, conn.ownEngine)) =
      some (.connected, some 1) := rfl
  obtain ⟨conn, hread, heq⟩ := Option.map_eq_some_iff.mp hread
  obtain ⟨hstate, hown⟩ := Prod.mk.inj heq
  have hslot : twoClients.process.adaptorEngine = some 1 := rfl
  refine ⟨conn, hread, hstate, hown, hslot, ?_⟩
  refine ((cleanup_sparesOthers_iff .ready .plain).1 twoClients 1 conn hread).mpr fun _ _ => ?_
  exact .inr (hslot.trans hown.symm)

/-- The second client's engine is in the adaptor when the first client is destroyed, and then it is
not. -/
theorem destroyed_client_clears_slot :
    let s := twoClients
    let s' := (connectionMachine.step s (.ready, .destroy 0 .plain)).2
    (s.conns.read 0).map SCFConnectionImpl.ownEngine = some (some 0) ∧
      (s.conns.read 1).map SCFConnectionImpl.state = some .connected ∧
      s.process.adaptorEngine = some 1 ∧ s'.process.adaptorEngine = none ∧
      s.process.providerCtx = some 20 ∧ s'.process.providerCtx = none ∧
      ∀ conn, s.conns.read 0 = some conn → ¬ SparesOthers conn s.process s'.process := by
  refine ⟨rfl, rfl, rfl, rfl, rfl, rfl, fun conn hconn h => ?_⟩
  have hslot := h.slot (by decide)
  obtain rfl := Option.some.inj hconn
  exact absurd hslot (by decide)

end Scf
