import ScfSecurity.Connection.Enforcement

/-!
# The settings of connections throughout a run

The context of a connection is its own, and behind the set-up nothing changes its TLS
configuration: not the object, nor the handshake, and no call on another connection. So whatever
calls are made in whatever order, the object of a connection works under the settings that the
configuration of this connection asks for.

## Main definitions

- `SettingsKept`: what exists keeps its settings
- `AllEnforced`: all connections work under their settings

## Main results

- `Enforced.settled`, `AllEnforced.call`: the settings of a connection, and of all, after a call
- `connection_enforces_config`: the settings of every connection, in every run
- `connection_tls_policy`: the verification of the peer and the versions, in every run
-/

namespace Scf

open Automaton

/-! ### What exists keeps its settings -/

/-- The context of an object, and the settings of its TLS connection. -/
def BoundObj.settings (o : BoundObj) : ℕ × Option (SslMethod × UInt32 × Bool × Bool) :=
  (o.policyCtx, o.obj.sslCtx.map Ssl.settings)

/-- The contexts keep their TLS configurations and the objects their settings, as long as they are
alive. -/
structure SettingsKept (p p' : Process) : Prop where
  ctxs : Heap.Stable SCFPolicyCtx.sslConfig p.ctxs p'.ctxs
  objs : Heap.Stable BoundObj.settings p.objs p'.objs

theorem SettingsKept.of_eq {p p' : Process} (hctxs : p'.ctxs = p.ctxs) (hobjs : p'.objs = p.objs) :
    SettingsKept p p' := by
  refine ⟨?_, ?_⟩
  · rw [hctxs]
    exact .refl _ _
  · rw [hobjs]
    exact .refl _ _

theorem SettingsKept.refl (p : Process) : SettingsKept p p := .of_eq rfl rfl

theorem SettingsKept.trans {p p' p'' : Process} (h : SettingsKept p p') (h' : SettingsKept p' p'') :
    SettingsKept p p'' := ⟨h.ctxs.trans h'.ctxs, h.objs.trans h'.objs⟩

/-- What is essential of contexts stays, and so do the settings of the objects. -/
theorem Calm.settled {p p' : Process} (h : Calm p p')
    (hobjs : ∀ i, (p'.objs.read i).map (fun o => o.obj.sslCtx.map Ssl.settings) =
      (p.objs.read i).map fun o => o.obj.sslCtx.map Ssl.settings) : SettingsKept p p' := by
  refine ⟨.of_map h.ctxSize fun i => ?_, .of_map h.objSize fun i => ?_⟩
  · have hessence := congrArg (Option.map Prod.snd) (h.ctxs i)
    rw [Option.map_map, Option.map_map] at hessence
    exact hessence
  · have hctx := h.objs i
    have hssl := hobjs i
    cases hread : p.objs.read i with
    | none =>
      rw [hread, Option.map_none, Option.map_eq_none_iff] at hctx
      rw [hctx]
    | some o =>
      rw [hread] at hctx hssl
      obtain ⟨o', ho', hctx⟩ := Option.map_eq_some_iff.mp hctx
      rw [ho'] at hssl ⊢
      exact congrArg some (Prod.ext hctx (Option.some.inj hssl))

/-- A connection keeps its settings as long as its object and its configuration are the same. -/
theorem Enforced.settled {known : Prop} {p p' : Process} {conn conn' : SCFConnectionImpl}
    (h : Enforced known p conn) (halive : ObjAlive p conn) (hp : SettingsKept p p')
    (hconfig : conn'.config = conn.config) (hobj : conn'.policyObj = conn.policyObj) :
    Enforced known p' conn' := by
  intro obj o' c' ho hread' hctx'
  have ho := hobj.symm.trans ho
  obtain ⟨o, c, hread, hctx⟩ := halive obj ho
  have hlt := Heap.lt_size_of_read (show p.objs.read obj ≠ none by rw [hread]; exact nofun)
  have hlt' := Heap.lt_size_of_read (show p.ctxs.read o.policyCtx ≠ none by rw [hctx]; exact nofun)
  obtain ⟨o₁, hread₁, hsame⟩ := hp.objs.kept obj o' hlt hread'
  obtain rfl := Option.some.inj (hread.symm.trans hread₁)
  have hptr : o'.policyCtx = o.policyCtx := congrArg Prod.fst hsame
  have hssl : o'.obj.sslCtx.map Ssl.settings = o.obj.sslCtx.map Ssl.settings :=
    congrArg Prod.snd hsame
  rw [hptr] at hctx'
  obtain ⟨c₁, hctx₁, hcfg'⟩ := hp.ctxs.kept o.policyCtx c' hlt' hctx'
  obtain rfl := Option.some.inj (hctx.symm.trans hctx₁)
  obtain ⟨cfg, hcfg, henforces, htaken⟩ := h obj o c ho hread hctx
  refine ⟨cfg, hcfg'.trans hcfg, by rwa [hconfig], fun ssl' hssl' => ?_⟩
  rw [hssl'] at hssl
  obtain ⟨ssl, hsome, heq⟩ := Option.map_eq_some_iff.mp hssl.symm
  exact heq.symm.trans (htaken ssl hsome)

section Outcomes

variable {g : Globals} {env : ConnEnv} {conn conn' : SCFConnectionImpl} {p p' : Process}
  {ret : Errno}

theorem EngineOutcome.settled {env : SetupEnv}
    (h : EngineOutcome g env conn p ((ret, conn'), p')) : SettingsKept p p' := by
  cases h with
  | reused h => exact .of_eq rfl rfl
  | absent h => exact .of_eq rfl rfl
  | created h henv hinit => exact .of_eq rfl rfl

/-- A new context, and perhaps an object on it. -/
theorem SetupOutcome.settled {env : SetupEnv} (h : SetupOutcome g env conn p ((ret, conn'), p')) :
    SettingsKept p p' := by
  cases h with
  | noAdaptor hret hnot hengine => exact hengine.settled
  | noCtx hnot hengine => exact hengine.settled
  | withCtx hinit halloc hengine hprovider hctx =>
    refine hengine.settled.trans ?_
    cases hctx with
    | plain hlookup hret hc hconf => exact ⟨.alloc _ _ _, .refl _ _⟩
    | lookup hlookup hret hc hconf => exact ⟨.alloc _ _ _, .alloc _ _ _⟩

theorem SetupOutcome.config {env : SetupEnv} (h : SetupOutcome g env conn p ((ret, conn'), p')) :
    conn'.config = conn.config := by
  cases h with
  | noAdaptor hret hnot hengine => exact hengine.config
  | noCtx hnot hengine => exact hengine.config
  | withCtx hinit halloc hengine hprovider hctx => exact hengine.config

theorem TransportOutcome.settled {opened : SCFConnectionState}
    (h : TransportOutcome env opened conn p ((ret, conn'), p')) :
    SettingsKept p p' ∧ conn'.config = conn.config := by
  obtain ⟨hctxs, -⟩ := h.ctxs
  obtain ⟨hobjs, -⟩ := h.objs
  refine ⟨.of_eq hctxs hobjs, ?_⟩
  cases h with
  | notCreated h => rfl
  | notOpened h hopen => rfl
  | done h hopen => rfl

theorem ObjOutcome.settled {ctx : ℕ} {c : SCFPolicyCtx} (hread : p.ctxs.read ctx = some c)
    (h : ObjOutcome g env conn ctx c p ((ret, conn'), p')) :
    SettingsKept p p' ∧ conn'.config = conn.config := by
  cases h with
  | notCreated h => exact ⟨.refl p, rfl⟩
  | created h hret hwants ho =>
    refine ⟨⟨.modify fun a ha => ?_, .alloc _ _ _⟩, rfl⟩
    obtain rfl := Option.some.inj (hread.symm.trans ha)
    rfl

/-- A handshake leaves the settings of its TLS connection alone. -/
theorem handshakeOn_settings (g : Globals) (isServer : Bool) (outcome : HandshakeOutcome)
    (o : SCFPolicyObj) :
    (handshakeOn g isServer outcome o).2.sslCtx.map Ssl.settings =
      o.sslCtx.map Ssl.settings := by
  unfold handshakeOn
  split_ifs
  · rfl
  · rfl
  · exact (adaptorHandshake_sameSettings _ outcome o).ssl

@[simp] theorem shaken_config (ret : Errno) (version : String) (conn : SCFConnectionImpl) :
    (conn.shaken ret version).config = conn.config := by
  unfold SCFConnectionImpl.shaken
  split_ifs <;> rfl

theorem HandshakeStepOutcome.settled (h : HandshakeStepOutcome g env conn p ((ret, conn'), p')) :
    SettingsKept p p' ∧ conn'.config = conn.config ∧ conn'.policyObj = conn.policyObj := by
  cases h with
  | noObj h => exact ⟨.refl p, rfl, rfl⟩
  | dangling h hread => exact ⟨.refl p, shaken_config _ _ conn, shaken_policyObj _ _ conn⟩
  | @done obj o _ _ h hread hp hread' =>
    refine ⟨hp.calm.settled fun i => ?_, shaken_config _ _ conn, shaken_policyObj _ _ conn⟩
    by_cases hi : i = obj
    · subst hi
      rw [hread, hread']
      exact congrArg some (handshakeOn_settings g conn.isServer env.handshake o.obj)
    · rw [hp.others i hi]

theorem settled_atPtr {f : ℕ → Process → Process} (hf : ∀ i p, SettingsKept p (f i p))
    (ptr : Option ℕ) (p : Process) : SettingsKept p (p.atPtr ptr f) := by
  cases ptr with
  | none => exact .refl p
  | some i => exact hf i p

theorem releaseCtx_settled (ctx : ℕ) (p : Process) : SettingsKept p (p.releaseCtx ctx) := by
  unfold Process.releaseCtx
  cases hread : p.ctxs.read ctx with
  | none => exact .refl p
  | some c =>
    dsimp only
    split_ifs
    · exact .refl p
    · refine ⟨.modify fun a ha => ?_, .refl _ _⟩
      obtain rfl := Option.some.inj (hread.symm.trans ha)
      rfl
    · exact ⟨.free _ ctx _, .refl _ _⟩

/-- `Cleanup` frees objects and contexts, and changes none that stay. -/
theorem released_settled (g : Globals) (conn : SCFConnectionImpl) (p : Process) :
    SettingsKept p (p.released g conn) := by
  have hobj : ∀ obj p, SettingsKept p (Process.dropObj g obj p) := by
    intro obj p
    unfold Process.dropObj
    split_ifs
    · exact .refl p
    · cases p.objs.read obj with
      | none => exact .refl p
      | some o => exact ⟨(releaseCtx_settled o.policyCtx p).ctxs, .free _ obj _⟩
  have hctx : ∀ ctx p, SettingsKept p (Process.dropCtx g ctx p) := by
    intro ctx p
    unfold Process.dropCtx
    split_ifs
    · exact .refl p
    · exact releaseCtx_settled ctx p
  have htransport : ∀ t p, SettingsKept p (Process.dropTransport t p) := fun _ _ => .of_eq rfl rfl
  have hengine : ∀ e p, SettingsKept p (Process.dropEngine g e p) := fun _ _ => .of_eq rfl rfl
  exact (((settled_atPtr hobj _ p).trans (settled_atPtr hctx _ _)).trans
    (settled_atPtr htransport _ _)).trans (settled_atPtr hengine _ _)

theorem ConnectOutcome.settled (h : ConnectOutcome g env conn p ((ret, conn'), p')) :
    SettingsKept p p' := by
  cases h with
  | notSetUp hret hsetup => exact hsetup.settled
  | noTransport hsetup hret htransport =>
    exact (hsetup.settled.trans htransport.settled.1).trans (released_settled g _ _)
  | noObj hsetup htransport hctx hread hconf hret hobj =>
    have hread' := htransport.ctxs.1 ▸ hread
    exact ((hsetup.settled.trans htransport.settled.1).trans (hobj.settled hread').1).trans
      (released_settled g _ _)
  | handshake hsetup htransport hctx hread hconf hobj hshake =>
    have hread' := htransport.ctxs.1 ▸ hread
    exact ((hsetup.settled.trans htransport.settled.1).trans (hobj.settled hread').1).trans
      hshake.settled.1

theorem ListenOutcome.settled (h : ListenOutcome g env conn p ((ret, conn'), p')) :
    SettingsKept p p' ∧ conn'.config = conn.config ∧ conn'.policyObj = conn.policyObj := by
  cases h with
  | notSetUp hret hsetup => exact ⟨hsetup.settled, hsetup.config, hsetup.keeps.policyObj⟩
  | noTransport hsetup hret htransport =>
    obtain ⟨hp, hconfig⟩ := htransport.settled
    exact ⟨hsetup.settled.trans hp, hconfig.trans hsetup.config,
      htransport.objs.2.1.trans hsetup.keeps.policyObj⟩
  | done hsetup htransport =>
    obtain ⟨hp, hconfig⟩ := htransport.settled
    exact ⟨hsetup.settled.trans hp, hconfig.trans hsetup.config,
      htransport.objs.2.1.trans hsetup.keeps.policyObj⟩

theorem AcceptOutcome.settled {child : Option SCFConnectionImpl}
    (h : AcceptOutcome g env conn p (child, p')) : SettingsKept p p' := by
  cases h with
  | nothing => exact .refl p
  | noConn => exact .of_eq rfl rfl
  | child hreach h =>
    obtain ⟨hctxs, hobjs, -⟩ := atPtr_inject g conn.cryptoEngine
      (p.addTransport ⟨true, env.nativeHandle⟩)
    refine SettingsKept.trans (.of_eq hctxs hobjs) ?_
    cases h with
    | notSetUp hret hsetup => exact hsetup.settled.trans (released_settled g _ _)
    | noObj hsetup hctx hread hret hobj =>
      exact (hsetup.settled.trans (hobj.settled hread).1).trans (released_settled g _ _)
    | notShaken hsetup hctx hread hobj hret hwants hshake =>
      exact ((hsetup.settled.trans (hobj.settled hread).1).trans hshake.settled.1).trans
        (released_settled g _ _)
    | handshake hsetup hctx hread hobj hret hshake =>
      exact (hsetup.settled.trans (hobj.settled hread).1).trans hshake.settled.1

end Outcomes

/-! ### New objects -/

section Opening

variable {known : Prop} {g : Globals} {env : ConnEnv} {conn conn' : SCFConnectionImpl}
  {p p' : Process} {ret : Errno}

/-- A TLS connection that is made for an object takes over the settings of the context. -/
theorem scfSetFd_settings {g : Globals} {objPtr : Ptr} {fd : Int32} {env : SslEnv}
    {c : SCFPolicyCtx} {o : SCFPolicyObj} {cfg : SslCtx} (hcfg : c.sslConfig = some cfg)
    (ho : ∀ ssl, o.sslCtx = some ssl → ssl.settings = cfg.settings) :
    ∀ ssl, (scfSetFd g objPtr fd env c o).2.sslCtx = some ssl → ssl.settings = cfg.settings := by
  unfold scfSetFd
  split_ifs
  · exact ho
  · exact ho
  · exact ho
  · exact ho
  unfold adaptorSetFd
  cases hssl : sslForFd env c o with
  | error ret => exact ho
  | ok ssl₁ =>
    dsimp only
    split_ifs
    · exact ho
    intro ssl hssl'
    obtain rfl := Option.some.inj hssl'
    show ssl₁.settings = cfg.settings
    cases hold : o.sslCtx with
    | some ssl₂ =>
      rw [sslForFd, hold] at hssl
      obtain rfl := Except.ok.inj hssl
      exact ho _ hold
    | none =>
      obtain ⟨cfg', hcfg', rfl⟩ := sslForFd_ok hold hssl
      obtain rfl := Option.some.inj (hcfg.symm.trans hcfg')
      rfl

/-- The objects from a pointer on are those of a context with this TLS configuration, and their
TLS connections have its settings. -/
structure TakenFrom (n ctx : ℕ) (cfg : SslCtx) (p : Process) : Prop where
  config : ∀ c, p.ctxs.read ctx = some c → c.sslConfig = some cfg
  objs : ∀ obj o, n ≤ obj → p.objs.read obj = some o →
    o.policyCtx = ctx ∧ ∀ ssl, o.obj.sslCtx = some ssl → ssl.settings = cfg.settings

theorem createPolicyObj_takenFrom (g : Globals) (env : ConnEnv) {conn : SCFConnectionImpl} {ctx : ℕ}
    (hctx : conn.policyCtx = some ctx) (n : ℕ) (cfg : SslCtx) :
    (createPolicyObj g env conn).Guarantees fun p p' =>
      TakenFrom n ctx cfg p → TakenFrom n ctx cfg p' := by
  unfold createPolicyObj
  rw [hctx]
  dsimp only
  refine Resumption.Guarantees.bind ?_ fun obj => ?_
  · rw [newObj, Resumption.guarantees_critical]
    intro p htaken
    cases hread : p.ctxs.read ctx with
    | none => exact htaken
    | some c =>
      rcases hnew : scfCreatePolicyObj g .valid env.clock env.objAllocOk c with ⟨_ | obj, c'⟩
      · simpa [hnew] using htaken
      obtain ⟨now, -, rfl, rfl⟩ := scfCreatePolicyObj_some hnew
      simp only [hnew]
      refine ⟨fun c' hc' => ?_, fun i o hi hread' => ?_⟩
      · change (p.ctxs.modify ctx _).read ctx = some c' at hc'
        rw [Heap.read_modify, if_pos rfl, hread] at hc'
        obtain rfl := Option.some.inj hc'
        exact htaken.config c hread
      · change (p.objs.alloc ⟨newPolicyObj c now, ctx⟩).2.read i = some o at hread'
        rw [Heap.read_alloc] at hread'
        split_ifs at hread'
        · obtain rfl := Option.some.inj hread'
          exact ⟨rfl, fun ssl hssl => absurd hssl.symm (Option.some_ne_none ssl)⟩
        · exact htaken.objs i o hi hread'
  cases obj with
  | none => trivial
  | some obj =>
    refine Resumption.Guarantees.bind (Resumption.guarantees_critical.mpr fun _ => id)
      fun fd => ?_
    split_ifs
    · trivial
    refine Resumption.Guarantees.bind ?_ fun _ => trivial
    rw [withObj, Resumption.guarantees_critical]
    intro p htaken
    cases hobj : p.objs.read obj with
    | none => exact htaken
    | some o =>
      dsimp only
      cases hread : p.ctxs.read o.policyCtx with
      | none => exact htaken
      | some c =>
        refine ⟨htaken.config, fun i o' hi hread' => ?_⟩
        change (p.objs.modify obj _).read i = some o' at hread'
        rw [Heap.read_modify] at hread'
        split_ifs at hread' with heq
        · subst heq
          rw [hobj] at hread'
          obtain rfl := Option.some.inj hread'
          obtain ⟨hctx', hssl⟩ := htaken.objs obj o hi hobj
          rw [hctx'] at hread
          exact ⟨hctx', scfSetFd_settings (htaken.config c hread) hssl⟩
        · exact htaken.objs i o' hi hread'

/-- A new object works under the settings of the context that it is created on. -/
theorem createPolicyObj_enforced {ctx : ℕ} {cfg : SslCtx} (hctx : conn.policyCtx = some ctx)
    (hhas : p.HasConfig ctx cfg) (henforces : cfg.Enforces known conn.config)
    (hrun : (createPolicyObj g env conn).run p = ((.success, conn'), p')) :
    Enforced known p' conn' := by
  obtain ⟨c, hread, hcfg⟩ := hhas
  have hout := createPolicyObj_outcome g env hctx hread
  have htaken : TakenFrom p.objs.size ctx cfg ((createPolicyObj g env conn).run p).2 := by
    refine (createPolicyObj_takenFrom g env hctx p.objs.size cfg).invariant (fun _ _ h => h) ?_
    refine ⟨fun c' hc' => ?_, fun obj o hobj ho => ?_⟩
    · obtain rfl := Option.some.inj (hread.symm.trans hc')
      exact hcfg
    · have := Heap.lt_size_of_read (show p.objs.read obj ≠ none by rw [ho]; exact nofun)
      omega
  rw [hrun] at hout htaken
  cases hout with
  | @created _ o hok hret hwants ho =>
    intro obj o' c' hobj hread' hctx'
    obtain rfl := Option.some.inj hobj
    obtain ⟨hptr, hssl⟩ := htaken.objs _ o' (Nat.le_refl _) hread'
    rw [hptr] at hctx'
    exact ⟨cfg, htaken.config c' hctx', henforces, hssl⟩

/-- A handshake on an object that works under the settings of its connection. -/
theorem handshakeStep_enforced (g : Globals) (env : ConnEnv) (h : Enforced known p conn)
    (halive : ObjAlive p conn) :
    Enforced known ((handshakeStep g env conn).run p).2 ((handshakeStep g env conn).run p).1.2 := by
  obtain ⟨hp, hconfig, hobj⟩ := (handshakeStep_outcome g env conn p).settled
  exact h.settled halive hp hconfig hobj

/-- The transport does not concern the settings of the context. -/
theorem HasConfig.transport {opened : SCFConnectionState} {ctx : ℕ} {cfg : SslCtx}
    (hhas : p.HasConfig ctx cfg)
    (h : TransportOutcome env opened conn p ((ret, conn'), p')) : p'.HasConfig ctx cfg := by
  obtain ⟨c, hread, hcfg⟩ := hhas
  exact ⟨c, h.ctxs.1 ▸ hread, hcfg⟩

/-- The object, the handshake on it, or the end of the connection. -/
theorem created_enforced {ctx : ℕ} {cfg : SslCtx} (hctx : conn.policyCtx = some ctx)
    (hhas : p.HasConfig ctx cfg) (henforces : cfg.Enforces known conn.config)
    (hrun : (createPolicyObj g env conn).run p = ((.success, conn'), p')) :
    Enforced known p' conn' ∧ ObjAlive p' conn' := by
  refine ⟨createPolicyObj_enforced hctx hhas henforces hrun, ?_⟩
  obtain ⟨c, hread, -⟩ := hhas
  have hout := createPolicyObj_outcome g env hctx hread
  rw [hrun] at hout
  exact (hout.attaches hctx hread).alive

/-- `Connect`: a new object, or the old one, or none. -/
theorem connect_enforced (hknown : known → env.setup.groupsOk = true)
    (h : Enforced known p conn) (halive : ObjAlive p conn) :
    Enforced known ((connect g env conn).run p).2 ((connect g env conn).run p).1.2 := by
  have habandon : ∀ ret conn q, Enforced known ((abandon g env ret conn).run q).2
      ((abandon g env ret conn).run q).1.2 := by
    intro ret conn q
    rw [abandon_run]
    exact enforced_of_no_obj rfl known _
  have hsetup := setupPolicyContext_outcome g env.setup conn p
  unfold connect
  rw [Resumption.run_bind]
  rcases hrun₁ : (setupPolicyContext g env.setup conn).run p with ⟨⟨ret, conn₁⟩, p₁⟩
  rw [hrun₁] at hsetup
  dsimp only
  by_cases hret : ret = .success
  case neg =>
    rw [if_pos hret]
    exact h.settled halive hsetup.settled hsetup.config hsetup.keeps.policyObj
  subst hret
  obtain ⟨ctx, cfg, hctx, hhas, henforces⟩ := setupPolicyContext_enforces hknown hrun₁
  have htransport := setupTransport_outcome env .connecting conn₁ p₁
  rw [if_neg (not_not.mpr rfl), setupTransportClient, Resumption.run_bind]
  generalize (setupTransport env .connecting conn₁).run p₁ = out at *
  obtain ⟨⟨ret, conn₂⟩, p₂⟩ := out
  dsimp only
  by_cases hret : ret = .success
  case neg =>
    rw [if_pos hret]
    exact habandon ret conn₂ p₂
  rw [if_neg (not_not.mpr hret), Resumption.run_bind]
  rcases hrun₃ : (createPolicyObj g env conn₂).run p₂ with ⟨⟨ret, conn₃⟩, p₃⟩
  dsimp only
  by_cases hret : ret = .success
  case neg =>
    rw [if_pos hret]
    exact habandon ret conn₃ p₃
  subst hret
  have hconfig : conn₂.config = conn.config := htransport.settled.2.trans hsetup.config
  rw [← hconfig] at henforces
  obtain ⟨henforced, halive₃⟩ := created_enforced (htransport.ctxs.2.trans hctx)
    (HasConfig.transport hhas htransport) henforces hrun₃
  rw [if_neg (not_not.mpr rfl)]
  exact handshakeStep_enforced g env henforced halive₃

/-- `Accept`: the new connection works under the settings of the listening one. -/
theorem acceptOn_enforced (hknown : known → env.setup.groupsOk = true)
    (hrun : (acceptOn g env conn).run p = (some conn', p')) :
    Enforced known p' conn' ∧ conn'.config = conn.config := by
  have hsetup := setupPolicyContext_outcome g env.setup conn p
  unfold acceptOn at hrun
  rw [Resumption.run_bind] at hrun
  rcases hrun₁ : (setupPolicyContext g env.setup conn).run p with ⟨⟨ret, conn₁⟩, p₁⟩
  rw [hrun₁] at hsetup hrun
  dsimp only at hrun
  by_cases hret : ret = .success
  case neg =>
    rw [if_pos hret, discard_run] at hrun
    cases hrun
  subst hret
  obtain ⟨ctx, cfg, hctx, hhas, henforces⟩ := setupPolicyContext_enforces hknown hrun₁
  rw [if_neg (not_not.mpr rfl), Resumption.run_bind] at hrun
  rcases hrun₂ : (createPolicyObj g env conn₁).run p₁ with ⟨⟨ret, conn₂⟩, p₂⟩
  rw [hrun₂] at hrun
  dsimp only at hrun
  by_cases hret : ret = .success
  case neg =>
    rw [if_pos hret, discard_run] at hrun
    cases hrun
  subst hret
  rw [← hsetup.config] at henforces
  obtain ⟨henforced, halive⟩ := created_enforced hctx hhas henforces hrun₂
  have hshaken := handshakeStep_enforced g env henforced halive
  have hobj := createPolicyObj_outcome g env hctx hhas.choose_spec.1
  have hshake := handshakeStep_outcome g env conn₂ p₂
  rw [hrun₂] at hobj
  rw [if_neg (not_not.mpr rfl), Resumption.run_bind] at hrun
  rcases hrun₃ : (handshakeStep g env conn₂).run p₂ with ⟨⟨ret, conn₃⟩, p₃⟩
  rw [hrun₃] at hrun hshaken hshake
  have hconfig : conn₃.config = conn.config :=
    (hshake.settled.2.1.trans (hobj.settled hhas.choose_spec.1).2).trans hsetup.config
  -- `Accept` sets the state of the new connection once more
  have hstate : ∀ q : Resumption Process (Option SCFConnectionImpl), q.run p₃ = (some conn', p') →
      ∀ state done, q = .done (some { conn₃ with state, handshakeDone := done }) →
      Enforced known p' conn' ∧ conn'.config = conn.config := by
    intro q hq state done heq
    rw [heq] at hq
    obtain ⟨hconn, rfl⟩ := Prod.mk.inj hq
    obtain rfl := Option.some.inj hconn
    exact ⟨hshaken, hconfig⟩
  dsimp only at hrun
  split_ifs at hrun with hwants hret
  · exact hstate _ hrun .connecting conn₃.handshakeDone rfl
  · rw [discard_run] at hrun
    cases hrun
  · exact hstate _ hrun .connected true rfl

theorem accept_enforced (hknown : known → env.setup.groupsOk = true)
    (hrun : (accept g env conn).run p = (some conn', p')) :
    Enforced known p' conn' ∧ conn'.config = conn.config := by
  rcases accept_run_cases g env conn p with heq | heq | ⟨-, heq⟩
  · rw [heq] at hrun
    cases hrun
  · rw [heq] at hrun
    cases hrun
  · rw [heq] at hrun
    obtain ⟨henforced, hconfig⟩ := acceptOn_enforced hknown hrun
    exact ⟨henforced, hconfig⟩

end Opening

/-! ### All connections -/

section System

variable {known : Prop} {g : Globals} {s : System}

/-- A view of the TLS connection of an object in which neither the data nor the keys show. -/
theorem keyUpdateFree_settings :
    KeyUpdateFree fun o : SCFPolicyObj => o.sslCtx.map Ssl.settings where
  setInfo _ _ := rfl
  keyUpdate o ssl hssl := by
    rw [hssl]
    rfl

theorem settings_take (bytes : List UInt8) (o : SCFPolicyObj) :
    (o.take bytes).sslCtx.map Ssl.settings = o.sslCtx.map Ssl.settings := by
  unfold SCFPolicyObj.take
  cases o.sslCtx <;> rfl

theorem settings_takePart (data : List UInt8) (n : ℕ) (o : SCFPolicyObj) :
    (o.takePart data n).sslCtx.map Ssl.settings = o.sslCtx.map Ssl.settings := by
  unfold SCFPolicyObj.takePart
  cases o.sslCtx <;> rfl

/-- A function on an object that leaves the settings of its TLS connection alone. -/
theorem withObj_settled {ρ : Type} (default : ρ) (obj : ℕ)
    {f : SCFPolicyCtx → SCFPolicyObj → ρ × SCFPolicyObj}
    (hf : ∀ c o, (f c o).2.sslCtx.map Ssl.settings = o.sslCtx.map Ssl.settings) (p : Process) :
    SettingsKept p ((withObj default obj f).run p).2 :=
  (withObj_calm default obj f p).settled
    (withObj_map (v := fun o => o.sslCtx.map Ssl.settings) default obj hf p)

theorem connectionWrite_settled (call : WriteCall) (conn : SCFConnectionImpl) (p : Process) :
    SettingsKept p ((connectionWrite call conn).run p).2 := by
  unfold connectionWrite
  cases conn.policyObj with
  | none => exact .refl p
  | some obj =>
    dsimp only
    split_ifs
    · exact .refl p
    · refine withObj_settled _ obj (fun c o => ?_) p
      exact keyUpdateFree_settings.scfWrite settings_take settings_takePart
        { call with objPtr := .valid } c o

theorem triggerKeyUpdate_settled (g : Globals) (env : KeyUpdateEnv) (conn : SCFConnectionImpl)
    (p : Process) : SettingsKept p ((triggerKeyUpdate g env conn).run p).2 := by
  unfold triggerKeyUpdate
  cases conn.policyObj with
  | none => exact .refl p
  | some obj =>
    exact withObj_settled _ obj (fun _ => keyUpdateFree_settings.scfObjKeyUpdate g .valid env) p

theorem setUserData_settled (g : Globals) (userData : Option Address) (conn : SCFConnectionImpl)
    (p : Process) :
    ∃ p', (setUserData g userData conn).run p = ({ conn with userData }, p') ∧
      SettingsKept p p' := by
  unfold setUserData forPtr
  rw [Resumption.run_bind]
  refine ⟨_, rfl, ?_⟩
  cases conn.policyObj with
  | none => exact .refl p
  | some obj =>
    dsimp only
    rw [Resumption.run_bind]
    refine withObj_settled _ obj (fun c o => ?_) p
    unfold scfSetUserData
    split_ifs <;> rfl

theorem close_settled (g : Globals) (env : ConnEnv) (conn : SCFConnectionImpl) (p : Process) :
    ∃ ret conn' p', (close g env conn).run p = ((ret, conn'), p') ∧ SettingsKept p p' ∧
      conn'.config = conn.config ∧ conn'.policyObj = conn.policyObj := by
  rcases close_run g env conn p with ⟨-, hrun⟩ | ⟨-, -, ret, hrun⟩
  · exact ⟨_, _, _, hrun, .refl p, rfl, rfl⟩
  · have hshut : ∀ t p, SettingsKept p (Process.shut t p) := fun _ _ => .of_eq rfl rfl
    exact ⟨_, _, _, hrun, settled_atPtr hshut _ p, rfl, rfl⟩

/-- All connections work under their settings. -/
def AllEnforced (known : Prop) (s : System) : Prop :=
  ∀ i conn, s.conns.read i = some conn → Enforced known s.process conn

/-- OpenSSL takes the groups if the call sets a context up. -/
def ConnCall.GroupsKnown : ConnCall → Prop
  | connect _ env => env.setup.groupsOk = true
  | accept _ env => env.setup.groupsOk = true
  | _ => True

variable {s' : System} {i : ℕ} {p' : Process}

/-- **Step lemma**: the other connections keep their objects, and those their settings. -/
theorem AllEnforced.step (h : AllEnforced known s) (hattached : Attached s)
    (hothers : ∀ j, j ≠ i → s'.conns.read j = s.conns.read j)
    (hp : SettingsKept s.process s'.process)
    (hself : ∀ conn, s'.conns.read i = some conn → Enforced known s'.process conn) :
    AllEnforced known s' := by
  intro j conn hread
  by_cases hj : j = i
  · subst hj
    exact hself conn hread
  · rw [hothers j hj] at hread
    exact (h j conn hread).settled (hattached.alive j conn hread) hp rfl rfl

theorem AllEnforced.onConn (h : AllEnforced known s) (hattached : Attached s)
    {f : SCFConnectionImpl → Resumption Process (ConnAnswer × SCFConnectionImpl)}
    (hf : ∀ conn answer conn' p', Enforced known s.process conn → ObjAlive s.process conn →
      (f conn).run s.process = ((answer, conn'), p') →
      SettingsKept s.process p' ∧ Enforced known p' conn') :
    AllEnforced known (s.onConn i f).2 := by
  cases hread : s.conns.read i with
  | none =>
    rw [onConn_eq_none hread]
    exact h
  | some conn =>
    rcases hrun : (f conn).run s.process with ⟨⟨answer, conn'⟩, p'⟩
    obtain ⟨hp, henforced⟩ := hf conn answer conn' p' (h i conn hread)
      (hattached.alive i conn hread) hrun
    have hrep := replaced_modify hread conn' p'
    rw [onConn_eq hread hrun]
    refine h.step hattached hrep.others hp fun conn₁ hread₁ => ?_
    obtain rfl := Option.some.inj (hrep.self.symm.trans hread₁)
    exact henforced

/-- A function that uses the object of its connection, or changes the rest of the connection. -/
theorem AllEnforced.used (h : AllEnforced known s) (hattached : Attached s)
    {f : SCFConnectionImpl → Resumption Process (ConnAnswer × SCFConnectionImpl)}
    (hf : ∀ conn answer conn' p', (f conn).run s.process = ((answer, conn'), p') →
      SettingsKept s.process p' ∧ conn'.config = conn.config ∧ conn'.policyObj = conn.policyObj) :
    AllEnforced known (s.onConn i f).2 := by
  refine h.onConn hattached fun conn answer conn' p' henforced halive hrun => ?_
  obtain ⟨hp, hconfig, hobj⟩ := hf conn answer conn' p' hrun
  exact ⟨hp, henforced.settled halive hp hconfig hobj⟩

theorem AllEnforced.addConn (h : AllEnforced known s) (hattached : Attached s)
    {child : Option SCFConnectionImpl} (hp : SettingsKept s.process p')
    (hchild : ∀ conn', child = some conn' → Enforced known p' conn') :
    AllEnforced known ({ s with process := p' }.addConn child).2 := by
  have hprocess := addConn_process child { s with process := p' }
  have hrep := replaced_addConn (s := s) p' child
  refine h.step hattached hrep.others (hprocess ▸ hp) fun conn hread => ?_
  rw [hprocess]
  exact hchild conn (hrep.self.symm.trans hread)

/-- **Step lemma** for the calls on connections. -/
theorem AllEnforced.call (h : AllEnforced known s) (hattached : Attached s) (g : Globals)
    {call : ConnCall} (hknown : known → call.GroupsKnown) :
    AllEnforced known (call.apply g s).2 := by
  cases call with
  | create config allocOk =>
    show AllEnforced known ({ s with process := s.process }.addConn _).2
    refine h.addConn hattached (.refl _) fun conn hconn => ?_
    split_ifs at hconn
    obtain rfl := Option.some.inj hconn
    exact enforced_of_no_obj rfl known _
  | connect i env =>
    refine h.onConn hattached fun conn answer conn' p' henforced halive hrun => ?_
    obtain ⟨ret, hrun⟩ := returning_run hrun
    have hout := connect_outcome g env conn s.process
    have hconnect := connect_enforced (g := g) hknown henforced halive
    rw [hrun] at hout hconnect
    exact ⟨hout.settled, hconnect⟩
  | listen i env =>
    refine h.used hattached fun conn answer conn' p' hrun => ?_
    obtain ⟨ret, hrun⟩ := returning_run hrun
    have hout := listen_outcome g env conn s.process
    rw [hrun] at hout
    exact hout.settled
  | accept i env =>
    show AllEnforced known (s.acceptOn i g env).2
    cases hread : s.conns.read i with
    | none =>
      rw [acceptOn_eq_none hread]
      exact h
    | some conn =>
      rcases hrun : (accept g env conn).run s.process with ⟨child, p'⟩
      have hout := accept_outcome g env conn s.process
      rw [hrun] at hout
      rw [acceptOn_eq hread hrun]
      refine h.addConn hattached hout.settled fun conn' hconn' => ?_
      subst hconn'
      exact (accept_enforced hknown hrun).1
  | handshakeStep i env =>
    refine h.used hattached fun conn answer conn' p' hrun => ?_
    obtain ⟨ret, hrun⟩ := returning_run hrun
    have hout := handshakeStep_outcome g env conn s.process
    rw [hrun] at hout
    exact hout.settled
  | write i call =>
    refine h.used hattached fun conn answer conn' p' hrun => ?_
    obtain ⟨rfl, rfl⟩ := answering_run hrun
    exact ⟨connectionWrite_settled call conn s.process, rfl, rfl⟩
  | triggerKeyUpdate i env =>
    refine h.used hattached fun conn answer conn' p' hrun => ?_
    obtain ⟨rfl, rfl⟩ := answering_run hrun
    exact ⟨triggerKeyUpdate_settled g env conn s.process, rfl, rfl⟩
  | setUserData i userData =>
    refine h.used hattached fun conn answer conn' p' hrun => ?_
    obtain ⟨p₁, hrun₁, hp⟩ := setUserData_settled g userData conn s.process
    obtain ⟨rfl, rfl⟩ := answering_run hrun
    rw [hrun₁]
    exact ⟨hp, rfl, rfl⟩
  | close i env =>
    refine h.used hattached fun conn answer conn' p' hrun => ?_
    obtain ⟨ret, hrun⟩ := returning_run hrun
    obtain ⟨ret₁, conn₁, p₁, hrun₁, hsettled⟩ := close_settled g env conn s.process
    obtain ⟨hpair, rfl⟩ := Prod.mk.inj (hrun₁.symm.trans hrun)
    obtain ⟨-, rfl⟩ := Prod.mk.inj hpair
    exact hsettled
  | destroy i env =>
    show AllEnforced known (s.deleteConn i g env).2
    cases hread : s.conns.read i with
    | none =>
      rw [deleteConn_eq_none hread]
      exact h
    | some conn =>
      have hrep := replaced_free (s := s) (i := i) (s.process.released g conn)
      rw [deleteConn_eq hread]
      refine h.step hattached hrep.others (released_settled g conn s.process) fun conn' hread' => ?_
      exact absurd (hrep.self.symm.trans hread') nofun

theorem attached_after (calls : List (Globals × ConnCall)) :
    Attached (connectionMachine.after {} calls) :=
  attached_of_reachable (Machine.Reachable.after (.initial rfl) calls)

/-- **Run lemma**: the connections of every run work under their settings. -/
theorem allEnforced_of_run (known : Prop) (calls : List (Globals × ConnCall))
    (hknown : ∀ call ∈ calls, known → call.2.GroupsKnown) :
    AllEnforced known (connectionMachine.after {} calls) := by
  induction calls using List.reverseRecOn with
  | nil => exact fun i conn hread => nomatch hread
  | append_singleton calls call ih =>
    have hall : AllEnforced known (connectionMachine.after {} calls) :=
      ih fun call' hcall' => hknown call' (List.mem_append_left _ hcall')
    rw [Machine.after_append]
    exact hall.call (attached_after calls) call.1
      (hknown call (List.mem_append_right _ (List.mem_singleton_self call)))

end System

/-! ### Runs -/

/-- **Run theorem**: whatever happens to the other connections, the object of a connection belongs
to a live context with the settings that the configuration of the connection asks for, and a TLS
connection has taken them over. The groups of the security level are among them if OpenSSL has taken
its groups throughout the run; otherwise OpenSSL may be left with its default. -/
theorem connection_enforces_config (calls : List (Globals × ConnCall)) {i obj : ℕ}
    {conn : SCFConnectionImpl}
    (hread : (connectionMachine.after {} calls).conns.read i = some conn)
    (hobj : conn.policyObj = some obj) :
    ∃ o c cfg, (connectionMachine.after {} calls).process.objs.read obj = some o ∧
      (connectionMachine.after {} calls).process.ctxs.read o.policyCtx = some c ∧
      c.sslConfig = some cfg ∧
      cfg.Enforces (∀ call ∈ calls, call.2.GroupsKnown) conn.config ∧
      ∀ ssl, o.obj.sslCtx = some ssl → ssl.settings = cfg.settings := by
  have hall := allEnforced_of_run (∀ call ∈ calls, call.2.GroupsKnown) calls
    fun call hcall hknown => hknown call hcall
  obtain ⟨o, c, ho, hc⟩ := (attached_after calls).alive i conn hread obj hobj
  obtain ⟨cfg, hcfg, henforces, hssl⟩ := hall i conn hread obj o c hobj ho hc
  exact ⟨o, c, cfg, ho, hc, hcfg, henforces, hssl⟩

/-- A client with the default configuration that connects. -/
def clientCalls : List (Globals × ConnCall) :=
  [(.ready, .create {} true), (.ready, .connect 0 .plain)]

theorem connection_enforces_config_client :
    ∃ conn o c cfg, (connectionMachine.after {} clientCalls).conns.read 0 = some conn ∧
      conn.state = .connected ∧
      (connectionMachine.after {} clientCalls).process.objs.read 0 = some o ∧
      (connectionMachine.after {} clientCalls).process.ctxs.read o.policyCtx = some c ∧
      c.sslConfig = some cfg ∧ cfg.Enforces True {} := by
  obtain ⟨conn, hread, hobj, hstate, hconfig⟩ : ∃ conn,
      (connectionMachine.after {} clientCalls).conns.read 0 = some conn ∧
      conn.policyObj = some 0 ∧ conn.state = .connected ∧ conn.config = {} :=
    ⟨_, rfl, rfl, rfl, rfl⟩
  obtain ⟨o, c, cfg, ho, hc, hcfg, henforces, -⟩ :=
    connection_enforces_config clientCalls hread hobj
  have hknown : ∀ call ∈ clientCalls, call.2.GroupsKnown := by
    intro call hcall
    rcases List.mem_pair.mp hcall with rfl | rfl
    · trivial
    · rfl
  rw [eq_true hknown, hconfig] at henforces
  exact ⟨conn, o, c, cfg, hread, hstate, ho, hc, hcfg, henforces⟩

/-- **Run theorem**: in every run, the TLS connection of a connection verifies the peer and requires
its certificate, exactly if the certificate policy is not `NONE`; it knows no pre-shared keys; and
its context allows TLS 1.3, and no other version unless the security level is that of 112 bits,
which adds TLS 1.2. -/
theorem connection_tls_policy (calls : List (Globals × ConnCall)) {i obj : ℕ}
    {conn : SCFConnectionImpl} {o : BoundObj} {ssl : Ssl}
    (hread : (connectionMachine.after {} calls).conns.read i = some conn)
    (hobj : conn.policyObj = some obj)
    (ho : (connectionMachine.after {} calls).process.objs.read obj = some o)
    (hssl : o.obj.sslCtx = some ssl) :
    ssl.verifyMode = (if conn.config.certVerifyPolicy = .none then sslVerifyNone
      else sslVerifyPeer ||| sslVerifyFailIfNoPeerCert) ∧
    ssl.pskFindSessionCallback = false ∧ ssl.pskUseSessionCallback = false ∧
    ∃ c cfg, (connectionMachine.after {} calls).process.ctxs.read o.policyCtx = some c ∧
      c.sslConfig = some cfg ∧
      ∀ version, cfg.Enables version ↔
        version = tls13Version ∨ version = tls12Version ∧ conn.config.securityLevel = .bit112 := by
  have hall := allEnforced_of_run False calls fun _ _ => False.elim
  obtain ⟨o₁, c, ho₁, hc⟩ := (attached_after calls).alive i conn hread obj hobj
  obtain rfl := Option.some.inj (ho.symm.trans ho₁)
  obtain ⟨cfg, hcfg, henforces, htaken⟩ := hall i conn hread obj o c hobj ho hc
  have hsettings := htaken ssl hssl
  simp only [Ssl.settings, SslCtx.settings, Prod.mk.injEq] at hsettings
  obtain ⟨-, hverify, hfind, huse⟩ := hsettings
  refine ⟨?_, hfind.trans henforces.noPsk.1, huse.trans henforces.noPsk.2, c, cfg, hc, hcfg,
    henforces.enables_iff⟩
  rw [hverify, henforces.verifyMode, installedMode_mapCertVerifyPolicy]

theorem connection_tls_policy_client :
    ∃ conn o ssl, (connectionMachine.after {} clientCalls).conns.read 0 = some conn ∧
      (connectionMachine.after {} clientCalls).process.objs.read 0 = some o ∧
      o.obj.sslCtx = some ssl ∧ ssl.verifyMode = sslVerifyPeer ||| sslVerifyFailIfNoPeerCert ∧
      ∃ c cfg, (connectionMachine.after {} clientCalls).process.ctxs.read o.policyCtx = some c ∧
        c.sslConfig = some cfg ∧ ∀ version, cfg.Enables version ↔ version = tls13Version := by
  obtain ⟨conn, o, ssl, hread, hobj, hconfig, ho, hssl⟩ : ∃ conn o ssl,
      (connectionMachine.after {} clientCalls).conns.read 0 = some conn ∧
      conn.policyObj = some 0 ∧ conn.config = {} ∧
      (connectionMachine.after {} clientCalls).process.objs.read 0 = some o ∧
      o.obj.sslCtx = some ssl := ⟨_, _, _, rfl, rfl, rfl, rfl, rfl⟩
  obtain ⟨hverify, -, -, c, cfg, hc, hcfg, henables⟩ :=
    connection_tls_policy clientCalls hread hobj ho hssl
  rw [hconfig] at hverify henables
  refine ⟨conn, o, ssl, hread, ho, hssl, hverify, c, cfg, hc, hcfg, fun version => ?_⟩
  exact (henables version).trans ⟨fun h => h.resolve_right fun h => absurd h.2 (by decide), .inl⟩

end Scf
