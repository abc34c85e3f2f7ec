import ScfSecurity.Crypto.ProviderEngine

/-!
# What provider engines hold

Every engine owns the library context and the providers it has loaded, and its software engine. An
engine that is finalised, or destroyed, gives them back to the library they came from; so it needs
that library.

## Main definitions

- `KAEProviderEngine.Sound`: the members of an engine fit together
- `ProviderWorld.Invariant`: what holds in every run
- `ProviderWorld.Intact`: every engine can still be finalised

## Main results

- `provider_run_custody`: what the engines of a run hold
- `provider_run_intact_iff`: when they can all be finalised
- `provider_run_leak_iff`: when no software engine is lost
-/

namespace Scf

open Automaton

namespace KAEProviderEngine

variable {e e' : KAEProviderEngine} {objects objects' : Heap EngineObject} {libs : Libraries}
  {P : EngineObject → Prop}

/-- The objects that the engine has pointers to. -/
def held (e : KAEProviderEngine) : Set ℕ :=
  {x | e.libCtx = some x ∨ e.defaultProv = some x ∨ e.kaeProv = some x ∨ e.fallbackEngine = some x}

theorem mem_held {x : ℕ} : x ∈ e.held ↔ e.libCtx = some x ∨ e.defaultProv = some x ∨
    e.kaeProv = some x ∨ e.fallbackEngine = some x := Iff.rfl

/-- The engine has been initialised with the library of the given handle: it has a context there, and
in it the default provider and, if it was found, the hardware provider. -/
structure LoadedFrom (e : KAEProviderEngine) (objects : Heap EngineObject) (lib ctx prov : ℕ) :
    Prop where
  libCtx : e.libCtx = some ctx
  defaultProv : e.defaultProv = some prov
  read_ctx : objects.read ctx = some (.libCtx lib)
  read_prov : objects.read prov = some (.provider lib ctx (ascii "default"))
  kaeProv : ∀ kae, e.kaeProv = some kae → kae ≠ prov ∧
    objects.read kae = some (.provider lib ctx e.kaeConfig.kaeProviderName)

/-- The members of an engine fit together: it has a context and the default provider just if it is
initialised, and the hardware provider just if it says so. -/
structure Sound (e : KAEProviderEngine) (objects : Heap EngineObject) : Prop where
  idle : e.initialized = false → e.libCtx = none ∧ e.defaultProv = none ∧ e.kaeProv = none
  loaded : e.initialized = true → ∃ lib ctx prov, e.LoadedFrom objects lib ctx prov
  kaeLoaded : e.kaeLoaded = e.kaeProv.isSome
  fallbackEngine : ∀ x, e.fallbackEngine = some x → objects.read x = some .software

theorem LoadedFrom.congr {lib ctx prov : ℕ} (h : e.LoadedFrom objects lib ctx prov)
    (hread : ∀ x ∈ e.held, objects'.read x = objects.read x) :
    e.LoadedFrom objects' lib ctx prov := by
  refine ⟨h.libCtx, h.defaultProv, ?_, ?_, fun kae hkae => ⟨(h.kaeProv kae hkae).1, ?_⟩⟩
  · rw [hread ctx (.inl h.libCtx), h.read_ctx]
  · rw [hread prov (.inr (.inl h.defaultProv)), h.read_prov]
  · rw [hread kae (.inr (.inr (.inl hkae))), (h.kaeProv kae hkae).2]

/-- Only the objects of the engine matter. -/
theorem Sound.congr (h : e.Sound objects) (hread : ∀ x ∈ e.held, objects'.read x = objects.read x) :
    e.Sound objects' := by
  refine ⟨h.idle, fun hinit => ?_, h.kaeLoaded, fun x hx => ?_⟩
  · obtain ⟨lib, ctx, prov, hloaded⟩ := h.loaded hinit
    exact ⟨lib, ctx, prov, hloaded.congr hread⟩
  · rw [hread x (.inr (.inr (.inr hx))), h.fallbackEngine x hx]

/-- There is an object behind every pointer of the engine. -/
theorem Sound.live (h : e.Sound objects) : ∀ x ∈ e.held, objects.read x ≠ none := by
  intro x hx
  by_cases hinit : e.initialized = true
  · obtain ⟨lib, ctx, prov, hloaded⟩ := h.loaded hinit
    rcases hx with hx | hx | hx | hx
    · obtain rfl := Option.some.inj (hloaded.libCtx.symm.trans hx)
      rw [hloaded.read_ctx]
      nofun
    · obtain rfl := Option.some.inj (hloaded.defaultProv.symm.trans hx)
      rw [hloaded.read_prov]
      nofun
    · rw [(hloaded.kaeProv x hx).2]
      nofun
    · rw [h.fallbackEngine x hx]
      nofun
  · obtain ⟨hctx, hprov, hkae⟩ := h.idle (Bool.eq_false_iff.mpr hinit)
    rcases hx with hx | hx | hx | hx
    · rw [hctx] at hx
      cases hx
    · rw [hprov] at hx
      cases hx
    · rw [hkae] at hx
      cases hx
    · rw [h.fallbackEngine x hx]
      nofun

/-- What `Initialize` takes over from the configuration changes no pointer. -/
theorem configured_eq (config : CryptoEngineConfig) (e : KAEProviderEngine) :
    ∃ kaeConfig, e.configured config = { e with kaeConfig := kaeConfig } := by
  unfold configured
  split_ifs
  · exact ⟨_, rfl⟩
  · exact ⟨_, rfl⟩
  · exact ⟨_, rfl⟩
  · exact ⟨_, rfl⟩

/-! ### `Initialize` -/

/-- An engine that is not initialised has at most its software engine. -/
theorem Sound.held_of_idle (h : e.Sound objects) (hinit : e.initialized = false) :
    e.held = {x | e.fallbackEngine = some x} := by
  obtain ⟨hctx, hprov, hkae⟩ := h.idle hinit
  ext x
  simp [held, hctx, hprov, hkae]

/-- What `Initialize` ends with, from an engine that is not initialised. -/
structure Initialised (libs : Libraries) (e : KAEProviderEngine) (objects : Heap EngineObject)
    (e' : KAEProviderEngine) (objects' : Heap EngineObject) : Prop where
  sound : e'.Sound objects'
  deals : ∀ P, Heap.Deals P e.held e'.held objects objects'
  provides : e'.initialized = true → ∃ lib ctx prov, e'.LoadedFrom objects' lib ctx prov ∧
    libs.Provides lib

/-- It fails and takes everything back. -/
theorem Initialised.failed (h : e.Sound objects) (hinit : e.initialized = false)
    (hread : ∀ x, objects'.read x = objects.read x) (hsize : objects.size ≤ objects'.size)
    {kaeConfig : KAEProviderConfig} :
    Initialised libs e objects { e with kaeConfig := kaeConfig } objects' := by
  have hheld : ({ e with kaeConfig := kaeConfig } : KAEProviderEngine).held = e.held := rfl
  refine ⟨⟨h.idle, fun hyes => ?_, h.kaeLoaded, fun x hx => ?_⟩, fun P => ?_, fun hyes => ?_⟩
  · exact absurd (hinit.symm.trans hyes) (by decide)
  · rw [hread]
    exact h.fallbackEngine x hx
  · rw [hheld]
    refine ⟨hsize, fun x _ _ => hread x, fun x _ hx hx' => absurd hx hx', fun x a hx hsome _ => ?_,
      fun x hx => ⟨?_, .inl hx⟩⟩
    · rw [hread] at hsome
      have := Heap.lt_size_of_read (show objects.read x ≠ none by rw [hsome]; nofun)
      omega
    · rw [hread]
      exact h.live x hx
  · exact absurd (hinit.symm.trans hyes) (by decide)

/-- It succeeds: a context, the default provider, and the hardware provider if it is found. -/
theorem Initialised.succeeded (h : e.Sound objects) (hinit : e.initialized = false) {lib : ℕ}
    (hprovides : libs.Provides lib) (kaeConfig : KAEProviderConfig) (kaeFound : Bool) :
    let objects₁ := (objects.alloc (.libCtx lib)).2
    let objects₂ := (objects₁.alloc (.provider lib objects.size (ascii "default"))).2
    let objects₃ := (objects₂.alloc (.provider lib objects.size kaeConfig.kaeProviderName)).2
    Initialised libs e objects
      { e with
        kaeConfig := kaeConfig, initialized := true, libCtx := some objects.size,
        defaultProv := some objects₁.size,
        kaeProv := if kaeFound then some objects₂.size else none, kaeLoaded := kaeFound }
      (if kaeFound then objects₃ else objects₂) := by
  intro objects₁ objects₂ objects₃
  obtain ⟨-, -, hkae⟩ := h.idle hinit
  have hsize₁ : objects₁.size = objects.size + 1 := Heap.size_alloc _ _
  have hsize₂ : objects₂.size = objects.size + 2 := by
    show (objects₁.alloc _).2.size = _
    rw [Heap.size_alloc, hsize₁]
  have hctx₂ : objects₂.read objects.size = some (.libCtx lib) := by
    show (objects₁.alloc _).2.read _ = _
    rw [Heap.read_alloc_of_ne _ (by omega)]
    exact Heap.read_alloc_size _ _
  have hprov₂ : objects₂.read objects₁.size =
      some (.provider lib objects.size (ascii "default")) := Heap.read_alloc_size _ _
  have hold₂ : ∀ x, x < objects.size → objects₂.read x = objects.read x := by
    intro x hx
    show (objects₁.alloc _).2.read _ = _
    rw [Heap.read_alloc_of_ne _ (by omega)]
    exact Heap.read_alloc_of_ne _ (by omega)
  have hold₃ : ∀ x, x < objects₂.size → objects₃.read x = objects₂.read x :=
    fun x hx => Heap.read_alloc_of_ne _ (by omega)
  have hfallback : ∀ x, e.fallbackEngine = some x →
      x < objects.size ∧ objects.read x = some .software := by
    intro x hx
    have hread := h.fallbackEngine x hx
    exact ⟨Heap.lt_size_of_read (by rw [hread]; nofun), hread⟩
  have hheld := h.held_of_idle hinit
  -- one object after the other
  have hdeals₁ : ∀ P, Heap.Deals P e.held (insert objects.size e.held) objects objects₁ :=
    fun P => .alloc P h.live _
  have hdeals₂ : ∀ P, Heap.Deals P e.held (insert objects₁.size (insert objects.size e.held))
      objects objects₂ :=
    fun P => (hdeals₁ P).trans (.alloc P (fun x hx => ((hdeals₁ P).kept x hx).1) _)
  have hdeals₃ : ∀ P, Heap.Deals P e.held
      (insert objects₂.size (insert objects₁.size (insert objects.size e.held))) objects objects₃ :=
    fun P => (hdeals₂ P).trans (.alloc P (fun x hx => ((hdeals₂ P).kept x hx).1) _)
  cases kaeFound with
  | false =>
    have hloaded : LoadedFrom { e with
        kaeConfig := kaeConfig, initialized := true, libCtx := some objects.size,
        defaultProv := some objects₁.size, kaeProv := none, kaeLoaded := false }
        objects₂ lib objects.size objects₁.size := ⟨rfl, rfl, hctx₂, hprov₂, nofun⟩
    refine ⟨⟨nofun, fun _ => ⟨_, _, _, hloaded⟩, rfl, fun x hx => ?_⟩, fun P => ?_,
      fun _ => ⟨_, _, _, hloaded, hprovides⟩⟩
    · obtain ⟨hlt, hread⟩ := hfallback x hx
      exact (hold₂ x hlt).trans hread
    · show Heap.Deals P e.held _ objects objects₂
      convert hdeals₂ P using 1
      ext x
      rw [hheld]
      simp only [mem_held, Set.mem_insert_iff, Set.mem_ofPred_eq, Option.some.injEq, @eq_comm _ x,
        Bool.false_eq_true, if_false, reduceCtorEq, false_or]
      tauto
  | true =>
    have hloaded : LoadedFrom { e with
        kaeConfig := kaeConfig, initialized := true, libCtx := some objects.size,
        defaultProv := some objects₁.size, kaeProv := some objects₂.size, kaeLoaded := true }
        objects₃ lib objects.size objects₁.size := by
      refine ⟨rfl, rfl, (hold₃ _ (by omega)).trans hctx₂, (hold₃ _ (by omega)).trans hprov₂, ?_⟩
      rintro kae hkae'
      obtain rfl := Option.some.inj hkae'
      exact ⟨by omega, Heap.read_alloc_size _ _⟩
    refine ⟨⟨nofun, fun _ => ⟨_, _, _, hloaded⟩, rfl, fun x hx => ?_⟩, fun P => ?_,
      fun _ => ⟨_, _, _, hloaded, hprovides⟩⟩
    · obtain ⟨hlt, hread⟩ := hfallback x hx
      exact (hold₃ x (by omega)).trans ((hold₂ x hlt).trans hread)
    · show Heap.Deals P e.held _ objects objects₃
      convert hdeals₃ P using 1
      ext x
      rw [hheld]
      simp only [mem_held, Set.mem_insert_iff, Set.mem_ofPred_eq, Option.some.injEq, @eq_comm _ x,
        if_true]
      tauto

/-- `Initialize` never faults. It leaves an engine that is initialised as it is, and otherwise loads
everything or nothing. -/
theorem engineInitialize_spec (hlibs : libs.Invariant) (h : e.Sound objects)
    (config : CryptoEngineConfig) (env : ProviderEnv) :
    ∃ e' objects', e.engineInitialize libs config env objects =
        .ok (e'.initialized, e', objects') ∧
      if e.initialized then e' = e ∧ objects' = objects
      else Initialised libs e objects e' objects' := by
  by_cases hinit : e.initialized = true
  · exact ⟨e, objects, by simp [engineInitialize, hinit], by simp [hinit]⟩
  rw [Bool.not_eq_true] at hinit
  obtain ⟨kaeConfig, hconfigured⟩ := configured_eq config e
  obtain ⟨hctx, hprov, hkae⟩ := h.idle hinit
  simp only [engineInitialize, hinit, hconfigured, Bool.false_eq_true, if_false]
  by_cases hfun : (libs.lib .crypto).funs .OSSL_LIB_CTX_new = none
  · exact ⟨{ e with kaeConfig := kaeConfig }, objects, by simp [hfun, hinit],
      .failed h hinit (fun _ => rfl) (Nat.le_refl _)⟩
  obtain ⟨lib, hprovides⟩ := hlibs.provides (.inl rfl) hfun
  have hnew := hprovides .OSSL_LIB_CTX_new (by decide)
  have hload := hprovides .OSSL_PROVIDER_load (by decide)
  have hfree := hprovides .OSSL_LIB_CTX_free (by decide)
  have herr := hprovides .ERR_get_error (by decide)
  have hstr := hprovides .ERR_error_string_n (by decide)
  obtain ⟨ctxNew, defaultLoad, kaeLoad⟩ := env
  cases ctxNew with
  | false =>
    refine ⟨{ e with kaeConfig := kaeConfig }, objects, ?_,
      .failed h hinit (fun _ => rfl) (Nat.le_refl _)⟩
    simp [hfun, osslLibCtxNew, hnew, bind, Except.bind, hinit, hctx]
  | true =>
    have hread₁ : (objects.alloc (.libCtx lib)).2.read objects.size = some (.libCtx lib) :=
      Heap.read_alloc_size _ _
    cases defaultLoad with
    | false =>
      refine ⟨{ e with kaeConfig := kaeConfig },
        (objects.alloc (.libCtx lib)).2.free objects.size, ?_,
        .failed h hinit (fun x => ?_) (by simp)⟩
      · simp [hfun, osslLibCtxNew, osslProviderLoad, osslLibCtxFree, hnew, hload, hfree, hread₁,
          bind, Except.bind, hinit, hctx, hprov]
      · rw [Heap.read_free]
        split_ifs with hx
        · rw [← hx, Heap.read_size]
        · exact Heap.read_alloc_of_ne _ (Ne.symm hx)
    | true =>
      have hread₂ : ((objects.alloc (.libCtx lib)).2.alloc
          (.provider lib objects.size (ascii "default"))).2.read objects.size =
            some (.libCtx lib) := by
        rw [Heap.read_alloc_of_ne _ (by simp)]
        exact hread₁
      refine ⟨_, _, ?_, .succeeded h hinit hprovides kaeConfig kaeLoad⟩
      cases kaeLoad with
      | false =>
        simp [hfun, osslLibCtxNew, osslProviderLoad, loadKAEProvider, hnew, hload, herr, hstr,
          hread₁, hread₂, bind, Except.bind]
      | true =>
        simp [hfun, osslLibCtxNew, osslProviderLoad, loadKAEProvider, hnew, hload, hread₁,
          hread₂, bind, Except.bind]

/-! ### `Finalize` -/

/-- The engine without its pointers. -/
def emptied (e : KAEProviderEngine) : KAEProviderEngine :=
  { e with
    initialized := false, kaeLoaded := false, libCtx := none, defaultProv := none, kaeProv := none,
    fallbackEngine := none }

@[simp] theorem held_emptied (e : KAEProviderEngine) : e.emptied.held = ∅ := by
  ext x
  simp [mem_held, emptied]

theorem sound_emptied (e : KAEProviderEngine) (objects : Heap EngineObject) :
    e.emptied.Sound objects :=
  ⟨fun _ => ⟨rfl, rfl, rfl⟩, nofun, rfl, nofun⟩

/-- All pointers of the engine, in the order of `Finalize`. -/
def giveBackAll (e : KAEProviderEngine) (objects : Heap EngineObject) : Heap EngineObject :=
  (((objects.freePtr e.kaeProv).freePtr e.defaultProv).freePtr e.libCtx).freePtr e.fallbackEngine

/-- The pointers of an engine are different. -/
structure Distinct (e : KAEProviderEngine) : Prop where
  defaultProv : ∀ x, e.defaultProv = some x → e.kaeProv ≠ some x
  libCtx : ∀ x, e.libCtx = some x → e.kaeProv ≠ some x ∧ e.defaultProv ≠ some x
  fallbackEngine : ∀ x, e.fallbackEngine = some x →
    e.kaeProv ≠ some x ∧ e.defaultProv ≠ some x ∧ e.libCtx ≠ some x

theorem LoadedFrom.distinct {lib ctx prov : ℕ} (h : e.LoadedFrom objects lib ctx prov)
    (hsound : e.Sound objects) : e.Distinct := by
  have hkae : ∀ x, e.kaeProv = some x → x ≠ prov ∧ x ≠ ctx ∧ e.fallbackEngine ≠ some x := by
    intro x hx
    obtain ⟨hne, hread⟩ := h.kaeProv x hx
    refine ⟨hne, ?_, fun hf => ?_⟩
    · rintro rfl
      rw [h.read_ctx] at hread
      cases hread
    · rw [hsound.fallbackEngine x hf] at hread
      cases hread
  have hprov : prov ≠ ctx ∧ e.fallbackEngine ≠ some prov := by
    have hread := h.read_prov
    refine ⟨?_, fun hf => ?_⟩
    · rintro rfl
      rw [h.read_ctx] at hread
      cases hread
    · rw [hsound.fallbackEngine prov hf] at hread
      cases hread
  have hctx : e.fallbackEngine ≠ some ctx := by
    intro hf
    have hread := hsound.fallbackEngine ctx hf
    rw [h.read_ctx] at hread
    cases hread
  refine ⟨fun x hx hk => ?_, fun x hx => ⟨fun hk => ?_, fun hd => ?_⟩,
    fun x hx => ⟨fun hk => (hkae x hk).2.2 hx, fun hd => ?_, fun hc => ?_⟩⟩
  · obtain rfl := Option.some.inj (h.defaultProv.symm.trans hx)
    exact (hkae _ hk).1 rfl
  · obtain rfl := Option.some.inj (h.libCtx.symm.trans hx)
    exact (hkae _ hk).2.1 rfl
  · obtain rfl := Option.some.inj (h.libCtx.symm.trans hx)
    obtain rfl := Option.some.inj (h.defaultProv.symm.trans hd)
    exact hprov.1 rfl
  · obtain rfl := Option.some.inj (h.defaultProv.symm.trans hd)
    exact hprov.2 hx
  · obtain rfl := Option.some.inj (h.libCtx.symm.trans hc)
    exact hctx hx

theorem Distinct.deals (h : e.Distinct) (P : EngineObject → Prop)
    (hlive : ∀ x ∈ e.held, objects.read x ≠ none) :
    Heap.Deals P e.held ∅ objects (giveBackAll e objects) := by
  have hd₁ := Heap.Deals.freePtr P hlive e.kaeProv fun x hx => .inr (.inr (.inl hx))
  have hd₂ := Heap.Deals.freePtr P (fun x hx => (hd₁.kept x hx).1) e.defaultProv
    fun x hx => ⟨.inr (.inl hx), h.defaultProv x hx⟩
  have hd₃ := Heap.Deals.freePtr P (fun x hx => (hd₂.kept x hx).1) e.libCtx
    fun x hx => ⟨⟨.inl hx, (h.libCtx x hx).1⟩, (h.libCtx x hx).2⟩
  have hd₄ := Heap.Deals.freePtr P (fun x hx => (hd₃.kept x hx).1) e.fallbackEngine fun x hx =>
    ⟨⟨⟨.inr (.inr (.inr hx)), (h.fallbackEngine x hx).1⟩, (h.fallbackEngine x hx).2.1⟩,
      (h.fallbackEngine x hx).2.2⟩
  have hall := ((hd₁.trans hd₂).trans hd₃).trans hd₄
  rw [giveBackAll]
  convert hall using 1
  ext x
  simp only [mem_held, Set.mem_empty_iff_false, Set.mem_ofPred_eq, false_iff]
  tauto

theorem unload_eq {lib : ℕ} (htarget : libs.target .OSSL_PROVIDER_unload = .ok lib)
    (ptr : Option ℕ) (hread : ∀ x, ptr = some x → ∃ ctx name,
      objects.read x = some (.provider lib ctx name)) :
    unload libs ptr objects = .ok (objects.freePtr ptr) := by
  cases ptr with
  | none => rfl
  | some x =>
    obtain ⟨ctx, name, hx⟩ := hread x rfl
    simp [unload, osslProviderUnload, htarget, hx, Heap.freePtr, bind, Except.bind]

theorem freeCtx_eq {lib : ℕ} (htarget : libs.target .OSSL_LIB_CTX_free = .ok lib)
    (ptr : Option ℕ) (hread : ∀ x, ptr = some x → objects.read x = some (.libCtx lib)) :
    freeCtx libs ptr objects = .ok (objects.freePtr ptr) := by
  cases ptr with
  | none => rfl
  | some x => simp [freeCtx, osslLibCtxFree, htarget, hread x rfl, Heap.freePtr, bind, Except.bind]

/-- `Finalize` of an engine that is not initialised does nothing. Otherwise it gives back all objects
if the library is the one the engine was initialised with, and faults if it is not. -/
theorem finalize_spec (hlibs : libs.Invariant) (h : e.Sound objects) :
    if e.initialized then
      ∃ lib ctx prov, e.LoadedFrom objects lib ctx prov ∧
        ((libs.Provides lib ∧
            e.finalize libs objects = .ok (e.emptied, giveBackAll e objects)) ∨
          ¬libs.Provides lib ∧ ∃ fault, e.finalize libs objects = .error fault)
    else e.finalize libs objects = .ok (e, objects) := by
  split_ifs with hinit
  swap
  · simp [finalize, hinit]
  obtain ⟨lib, ctx, prov, hloaded⟩ := h.loaded hinit
  have hdistinct := hloaded.distinct h
  refine ⟨lib, ctx, prov, hloaded, ?_⟩
  by_cases hprovides : libs.Provides lib
  · refine .inl ⟨hprovides, ?_⟩
    have hunload := hprovides .OSSL_PROVIDER_unload (by decide)
    have hfree := hprovides .OSSL_LIB_CTX_free (by decide)
    have hprov : (objects.freePtr e.kaeProv).read prov =
        some (.provider lib ctx (ascii "default")) := by
      rw [Heap.read_freePtr_of_ne (hdistinct.defaultProv prov hloaded.defaultProv)]
      exact hloaded.read_prov
    have hctx : ((objects.freePtr e.kaeProv).freePtr e.defaultProv).read ctx =
        some (.libCtx lib) := by
      rw [Heap.read_freePtr_of_ne (hdistinct.libCtx ctx hloaded.libCtx).2,
        Heap.read_freePtr_of_ne (hdistinct.libCtx ctx hloaded.libCtx).1]
      exact hloaded.read_ctx
    have h₁ := unload_eq hunload e.kaeProv fun x hx => ⟨ctx, _, (hloaded.kaeProv x hx).2⟩
    have h₂ := unload_eq hunload e.defaultProv fun x hx => by
      obtain rfl := Option.some.inj (hloaded.defaultProv.symm.trans hx)
      exact ⟨ctx, _, hprov⟩
    have h₃ := freeCtx_eq hfree e.libCtx fun x hx => by
      obtain rfl := Option.some.inj (hloaded.libCtx.symm.trans hx)
      exact hctx
    simp only [finalize, hinit, Bool.not_true, Bool.false_eq_true, if_false, h₁, h₂, h₃, bind,
      Except.bind, giveBackAll]
    cases hf : e.fallbackEngine with
    | none => simp [releaseFallbackEngine, Heap.freePtr, emptied]
    | some software => simp [releaseFallbackEngine, Heap.freePtr, emptied]
  · refine .inr ⟨hprovides, ?_⟩
    -- the first provider cannot be unloaded
    have hfirst : ∃ x name, (e.kaeProv = some x ∨ e.kaeProv = none ∧ e.defaultProv = some x) ∧
        objects.read x = some (.provider lib ctx name) := by
      cases hkae : e.kaeProv with
      | some kae => exact ⟨kae, _, .inl rfl, (hloaded.kaeProv kae hkae).2⟩
      | none => exact ⟨prov, _, .inr ⟨rfl, hloaded.defaultProv⟩, hloaded.read_prov⟩
    obtain ⟨x, name, hx, hread⟩ := hfirst
    have hfault : ∃ fault, osslProviderUnload libs x objects = .error fault := by
      by_cases hfun : (libs.lib .crypto).funs .OSSL_PROVIDER_unload = none
      · exact ⟨_, by rw [osslProviderUnload, Libraries.target_of_none hfun]; rfl⟩
      · obtain ⟨lib', hlib'⟩ := hlibs.provides (.inr rfl) hfun
        have hne : lib ≠ lib' := by
          rintro rfl
          exact hprovides hlib'
        refine ⟨.foreign, ?_⟩
        simp [osslProviderUnload, hlib' .OSSL_PROVIDER_unload (by decide), hread, hne, bind,
          Except.bind]
    obtain ⟨fault, hfault⟩ := hfault
    refine ⟨fault, ?_⟩
    rcases hx with hkae | ⟨hkae, hprov⟩
    · simp [finalize, hinit, hkae, unload, hfault, bind, Except.bind]
    · simp [finalize, hinit, hkae, hprov, unload, hfault, bind, Except.bind]

/-! ### The software engine -/

/-- A direct operation creates the software engine if there is none yet, and keeps everything
else. -/
theorem operation_spec (h : e.Sound objects) (allocOk : Bool) :
    (∃ fallback objects', e.operation allocOk objects =
        .ok ({ e with fallbackEngine := some fallback }, objects') ∧
      ({ e with fallbackEngine := some fallback } : KAEProviderEngine).Sound objects' ∧
      (∀ lib ctx prov, e.LoadedFrom objects lib ctx prov →
        ({ e with fallbackEngine := some fallback } : KAEProviderEngine).LoadedFrom objects'
          lib ctx prov) ∧
      ∀ P, Heap.Deals P e.held ({ e with fallbackEngine := some fallback } : KAEProviderEngine).held
        objects objects') ∨
      e.operation allocOk objects = .error .nullEngine := by
  cases hf : e.fallbackEngine with
  | some fallback =>
    have heq : ({ e with fallbackEngine := some fallback } : KAEProviderEngine) = e := by
      rw [← hf]
    refine .inl ⟨fallback, objects, ?_⟩
    rw [heq]
    exact ⟨by simp [operation, getFallbackEngine, hf], h, fun _ _ _ hloaded => hloaded,
      fun P => .refl P h.live⟩
  | none =>
    cases allocOk with
    | false => exact .inr (by simp [operation, getFallbackEngine, hf])
    | true =>
      have hread : ∀ x ∈ e.held, (objects.alloc .software).2.read x = objects.read x := by
        intro x hx
        have := Heap.lt_size_of_read (h.live x hx)
        exact Heap.read_alloc_of_ne _ (by omega)
      have hkeeps : ∀ lib ctx prov, e.LoadedFrom objects lib ctx prov →
          ({ e with fallbackEngine := some objects.size } : KAEProviderEngine).LoadedFrom
            (objects.alloc .software).2 lib ctx prov := by
        intro lib ctx prov hl
        have hloaded := hl.congr hread
        exact ⟨hloaded.libCtx, hloaded.defaultProv, hloaded.read_ctx, hloaded.read_prov,
          hloaded.kaeProv⟩
      refine .inl ⟨objects.size, (objects.alloc .software).2, ?_, ?_, hkeeps, fun P => ?_⟩
      · simp [operation, getFallbackEngine, hf]
      · refine ⟨h.idle, fun hinit => ?_, h.kaeLoaded, fun x hx => ?_⟩
        · obtain ⟨lib, ctx, prov, hloaded⟩ := h.loaded hinit
          exact ⟨lib, ctx, prov, hkeeps lib ctx prov hloaded⟩
        · obtain rfl := Option.some.inj hx
          exact Heap.read_alloc_size _ _
      · convert Heap.Deals.alloc P h.live .software using 1
        ext x
        simp only [mem_held, hf, Set.mem_insert_iff, Option.some.injEq, @eq_comm _ x, reduceCtorEq,
          or_false]
        tauto

end KAEProviderEngine

/-! ### Runs -/

namespace ProviderWorld

variable {w : ProviderWorld} {P : EngineObject → Prop} {i : ℕ} {e e' : KAEProviderEngine}
  {objects : Heap EngineObject}

/-- What the engines hold; one that has been destroyed holds nothing. -/
def held (w : ProviderWorld) (i : ℕ) : Set ℕ :=
  match w.engines.read i with
  | none => ∅
  | some e => e.held

theorem held_of_read (hread : w.engines.read i = some e) : w.held i = e.held := by
  rw [held, hread]

/-- The members of every engine fit together, no two engines share an object, and every object with
the property belongs to one. -/
structure Holds (P : EngineObject → Prop) (w : ProviderWorld) : Prop where
  libs : w.libs.Invariant
  sound : ∀ i e, w.engines.read i = some e → e.Sound w.objects
  estate : Heap.Estate P w.held w.objects

theorem holds_start (P : EngineObject → Prop) : ({} : ProviderWorld).Holds P := by
  refine ⟨Libraries.invariant_start, fun i e he => ?_, fun i x hx => ?_, fun i j x hx => ?_,
    fun x a hx => ?_⟩
  · simp [Heap.read] at he
  · simp [held, Heap.read] at hx
  · simp [held, Heap.read] at hx
  · simp [Heap.read] at hx

theorem read_put (i : ℕ) (e : KAEProviderEngine) (objects : Heap EngineObject) (w : ProviderWorld)
    (j : ℕ) : (w.put i e objects).engines.read j =
      if i = j then (w.engines.read j).map fun _ => e else w.engines.read j :=
  Heap.read_modify ..

theorem held_put (hread : w.engines.read i = some e) :
    (w.put i e' objects).held = Function.update w.held i e'.held := by
  funext j
  rw [held, read_put]
  by_cases hij : i = j
  · subst hij
    rw [if_pos rfl, hread, Function.update_self]
    rfl
  · rw [if_neg hij, Function.update_of_ne (Ne.symm hij), held]

/-- The other engines find their objects as they were. -/
theorem Holds.read_eq (h : w.Holds P) (hread : w.engines.read i = some e) {S : Set ℕ}
    (hdeals : Heap.Deals P e.held S w.objects objects) {j : ℕ} (hj : j ≠ i)
    {other : KAEProviderEngine} (hother : w.engines.read j = some other) :
    ∀ x ∈ other.held, objects.read x = w.objects.read x := by
  intro x hx
  rw [← held_of_read hread] at hdeals
  exact h.estate.read_eq hdeals hj (by rwa [held_of_read hother])

/-- **Step rule**: one engine takes a step of its own. -/
theorem Holds.put (h : w.Holds P) (hread : w.engines.read i = some e) (hsound : e'.Sound objects)
    (hdeals : Heap.Deals P e.held e'.held w.objects objects) : (w.put i e' objects).Holds P := by
  refine ⟨h.libs, fun j other hother => ?_, ?_⟩
  · rw [read_put] at hother
    by_cases hij : i = j
    · subst hij
      rw [if_pos rfl, hread] at hother
      obtain rfl := Option.some.inj hother
      exact hsound
    · rw [if_neg hij] at hother
      exact (h.sound j other hother).congr (h.read_eq hread hdeals (Ne.symm hij) hother)
  · rw [held_put hread]
    exact h.estate.update (by rwa [held_of_read hread])

/-- **Step rule**: an engine is destroyed. -/
theorem Holds.free (h : w.Holds P) (hread : w.engines.read i = some e)
    (hdeals : Heap.Deals P e.held ∅ w.objects objects) :
    ({ w with objects := objects, engines := w.engines.free i } : ProviderWorld).Holds P := by
  have hheld : ({ w with objects := objects, engines := w.engines.free i } : ProviderWorld).held =
      Function.update w.held i ∅ := by
    funext j
    rw [held, Heap.read_free]
    by_cases hij : i = j
    · subst hij
      rw [if_pos rfl, Function.update_self]
    · rw [if_neg hij, Function.update_of_ne (Ne.symm hij), held]
  refine ⟨h.libs, fun j other hother => ?_, ?_⟩
  · rw [Heap.read_free] at hother
    by_cases hij : i = j
    · rw [if_pos hij] at hother
      cases hother
    · rw [if_neg hij] at hother
      exact (h.sound j other hother).congr (h.read_eq hread hdeals (Ne.symm hij) hother)
  · rw [hheld]
    exact h.estate.update (by rwa [held_of_read hread])

/-- **Step rule**: a new engine holds nothing. -/
theorem Holds.create (h : w.Holds P) (config : KAEProviderConfig) :
    ({ w with engines := (w.engines.alloc { kaeConfig := config }).2 } : ProviderWorld).Holds P := by
  have hheld : ({ w with engines := (w.engines.alloc { kaeConfig := config }).2 } :
      ProviderWorld).held = w.held := by
    funext j
    rw [held, held, Heap.read_alloc, Heap.alloc_fst]
    by_cases hj : j = w.engines.size
    · subst hj
      rw [if_pos rfl, Heap.read_size]
      ext x
      simp [KAEProviderEngine.mem_held]
    · rw [if_neg hj]
  refine ⟨h.libs, fun j other hother => ?_, by rw [hheld]; exact h.estate⟩
  rw [Heap.read_alloc, Heap.alloc_fst] at hother
  by_cases hj : j = w.engines.size
  · rw [if_pos hj] at hother
    obtain rfl := Option.some.inj hother
    exact ⟨fun _ => ⟨rfl, rfl, rfl⟩, nofun, rfl, nofun⟩
  · rw [if_neg hj] at hother
    exact h.sound j other hother

/-- The library that the engine was initialised with is the one that is loaded. -/
def EngineIntact (w : ProviderWorld) (e : KAEProviderEngine) : Prop :=
  e.initialized = true → ∃ lib ctx prov, e.LoadedFrom w.objects lib ctx prov ∧ w.libs.Provides lib

/-- What a call can do. -/
inductive CallStep (w : ProviderWorld) : ProviderCall → ProviderWorld → Prop
  | same (call : ProviderCall) : CallStep w call w
  | library (call : LibraryCall) :
      CallStep w (.library call) { w with libs := (call.apply w.libs).2 }
  | create (config : KAEProviderConfig) :
      CallStep w (.create config)
        { w with engines := (w.engines.alloc { kaeConfig := config }).2 }
  | move (call : ProviderCall) {i : ℕ} {e e' : KAEProviderEngine} {objects : Heap EngineObject}
      (hread : w.engines.read i = some e) (hsound : e'.Sound objects)
      (hdeals : ∀ P, Heap.Deals P e.held e'.held w.objects objects)
      (hintact : w.EngineIntact e → e'.initialized = true → ∃ lib ctx prov,
        e'.LoadedFrom objects lib ctx prov ∧ w.libs.Provides lib) :
      CallStep w call (w.put i e' objects)
  | destroy {i : ℕ} {e : KAEProviderEngine} {objects : Heap EngineObject}
      (hread : w.engines.read i = some e)
      (hdeals : ∀ P, Heap.Deals P e.held ∅ w.objects objects) :
      CallStep w (.destroy i) { w with objects := objects, engines := w.engines.free i }
  | lose {i : ℕ} {e : KAEProviderEngine} (hread : w.engines.read i = some e)
      (hinit : e.initialized = false) :
      CallStep w (.destroy i) { w with engines := w.engines.free i }

theorem Holds.callStep (h : w.Holds P) (call : ProviderCall) :
    CallStep w call (call.apply w).2 := by
  cases call with
  | library call => exact .library call
  | create config => exact .create config
  | engineInitialize i config env =>
    cases hread : w.engines.read i with
    | none => simpa [ProviderCall.apply, hread] using .same _
    | some e =>
      have hsound := h.sound i e hread
      obtain ⟨e', objects, heq, hcases⟩ := e.engineInitialize_spec h.libs hsound config env
      simp only [ProviderCall.apply, hread, heq]
      split_ifs at hcases with hinit
      · obtain ⟨rfl, rfl⟩ := hcases
        exact .move _ hread hsound (fun P => .refl P hsound.live) id
      · exact .move _ hread hcases.sound hcases.deals fun _ => hcases.provides
  | finalize i =>
    cases hread : w.engines.read i with
    | none => simpa [ProviderCall.apply, hread] using .same _
    | some e =>
      have hsound := h.sound i e hread
      have hspec := e.finalize_spec h.libs hsound
      split_ifs at hspec with hinit
      · obtain ⟨lib, ctx, prov, hloaded, ⟨-, heq⟩ | ⟨-, fault, heq⟩⟩ := hspec
        · simp only [ProviderCall.apply, hread, heq]
          refine .move _ hread (e.sound_emptied _) (fun P => ?_) fun _ => nofun
          rw [KAEProviderEngine.held_emptied]
          exact (hloaded.distinct hsound).deals P hsound.live
        · simp only [ProviderCall.apply, hread, heq]
          exact .same _
      · simp only [ProviderCall.apply, hread, hspec]
        exact .move _ hread hsound (fun P => .refl P hsound.live) id
  | operation i allocOk =>
    cases hread : w.engines.read i with
    | none => simpa [ProviderCall.apply, hread] using .same _
    | some e =>
      rcases KAEProviderEngine.operation_spec (h.sound i e hread) allocOk with
        ⟨fallback, objects, heq, hsound, hkeeps, hdeals⟩ | heq
      · simp only [ProviderCall.apply, hread, heq]
        refine .move _ hread hsound hdeals fun hintact hinit => ?_
        obtain ⟨lib, ctx, prov, hloaded, hprovides⟩ := hintact hinit
        exact ⟨lib, ctx, prov, hkeeps _ _ _ hloaded, hprovides⟩
      · simp only [ProviderCall.apply, hread, heq]
        exact .same _
  | destroy i =>
    cases hread : w.engines.read i with
    | none => simpa [ProviderCall.apply, hread] using .same _
    | some e =>
      have hsound := h.sound i e hread
      have hspec := e.finalize_spec h.libs hsound
      split_ifs at hspec with hinit
      · obtain ⟨lib, ctx, prov, hloaded, ⟨-, heq⟩ | ⟨-, fault, heq⟩⟩ := hspec
        · simp only [ProviderCall.apply, hread, heq]
          exact .destroy hread fun P => (hloaded.distinct hsound).deals P hsound.live
        · simp only [ProviderCall.apply, hread, heq]
          exact .same _
      · simp only [ProviderCall.apply, hread, hspec]
        exact .lose hread (Bool.eq_false_iff.mpr hinit)

/-- A destruction loses no object with the property: the engine is initialised, or it has no
software engine. -/
def Tidies (P : EngineObject → Prop) (w : ProviderWorld) : ProviderCall → Prop
  | .destroy i => ∀ e, w.engines.read i = some e → e.initialized = true ∨
      ∀ x, e.fallbackEngine = some x → ¬P .software
  | _ => True

/-- **Step rule**: every call that loses no object keeps the custody. -/
theorem Holds.apply (h : w.Holds P) {call : ProviderCall} (htidies : w.Tidies P call) :
    (call.apply w).2.Holds P := by
  have hstep := h.callStep call
  generalize (call.apply w).2 = w' at hstep ⊢
  cases hstep with
  | same => exact h
  | library call => exact ⟨(h.libs.apply call).2, h.sound, h.estate⟩
  | create config => exact h.create config
  | move _ hread hsound hdeals _ => exact h.put hread hsound (hdeals P)
  | destroy hread hdeals => exact h.free hread (hdeals P)
  | @lose i e hread hinit =>
    have hsound := h.sound i e hread
    have hlost := (htidies e hread).resolve_left (by rw [hinit]; decide)
    have hdeals : Heap.Deals P e.held ∅ w.objects w.objects := by
      refine (Heap.Deals.refl P hsound.live).forget (Set.empty_subset _) fun x a hx _ hread' hP => ?_
      rw [hsound.held_of_idle hinit] at hx
      rw [hsound.fallbackEngine x hx] at hread'
      obtain rfl := Option.some.inj hread'
      exact hlost x hx hP
    exact h.free hread hdeals

theorem tidies_ne_software (w : ProviderWorld) (call : ProviderCall) :
    w.Tidies (· ≠ .software) call := by
  cases call with
  | destroy i => exact fun _ _ => .inr fun _ _ hP => hP rfl
  | _ => trivial

theorem holds_after (calls : List ProviderCall) :
    (providerMachine.after {} calls).Holds (· ≠ .software) :=
  Machine.Reachable.invariant (fun _ hw => hw ▸ holds_start _)
    (fun w call h => h.apply (tidies_ne_software w call)) (.after (.initial rfl) calls)

/-! ### The library of an engine -/

/-- Every engine that is initialised finds its library. -/
def Intact (w : ProviderWorld) : Prop := ∀ i e, w.engines.read i = some e → w.EngineIntact e

/-- `SCF_DeInit` is not called while an engine is initialised, unless it does nothing. -/
def Orderly (w : ProviderWorld) : ProviderCall → Prop
  | .library .scfDeInit => w.libs.scfInitialized = true →
      ∀ i e, w.engines.read i = some e → e.initialized = false
  | _ => True

/-- A call of the library leaves the engines their library. -/
theorem Holds.provides_apply (h : w.Holds P) {call : LibraryCall}
    (hok : w.Orderly (.library call)) {i : ℕ} {e : KAEProviderEngine}
    (hread : w.engines.read i = some e) (hinit : e.initialized = true) {lib : ℕ}
    (hprovides : w.libs.Provides lib) : (call.apply w.libs).2.Provides lib := by
  have hlibs : w.libs.scfInitialized = true := by
    by_contra hno
    exact Libraries.not_provides_of_not_init h.libs (Bool.eq_false_iff.mpr hno) lib hprovides
  cases call with
  | scfInit host flag settings =>
    have heq : w.libs.scfInit host flag settings = .ok (.success, w.libs) := by
      simp [Libraries.scfInit, hlibs]
    simpa only [LibraryCall.apply, heq] using hprovides
  | scfDeInit => exact absurd (hok hlibs i e hread) (by rw [hinit]; decide)
  | setCryptoEngine engine => exact hprovides

theorem Intact.apply (h : w.Holds P) (hintact : w.Intact) {call : ProviderCall}
    (hok : w.Orderly call) : (call.apply w).2.Intact := by
  have hstep := h.callStep call
  generalize (call.apply w).2 = w' at hstep ⊢
  cases hstep with
  | same => exact hintact
  | library call =>
    intro i e hread hinit
    obtain ⟨lib, ctx, prov, hloaded, hprovides⟩ := hintact i e hread hinit
    exact ⟨lib, ctx, prov, hloaded, h.provides_apply hok hread hinit hprovides⟩
  | create config =>
    intro i e hread hinit
    rw [Heap.read_alloc, Heap.alloc_fst] at hread
    split_ifs at hread
    · obtain rfl := Option.some.inj hread
      cases hinit
    · exact hintact i e hread hinit
  | @move _ i e e' objects hread hsound hdeals hkeeps =>
    intro j other hother hinit
    rw [read_put] at hother
    by_cases hij : i = j
    · subst hij
      rw [if_pos rfl, hread] at hother
      obtain rfl := Option.some.inj hother
      exact hkeeps (hintact i e hread) hinit
    · rw [if_neg hij] at hother
      obtain ⟨lib, ctx, prov, hloaded, hprovides⟩ := hintact j other hother hinit
      exact ⟨lib, ctx, prov,
        hloaded.congr (h.read_eq hread (hdeals P) (Ne.symm hij) hother), hprovides⟩
  | @destroy i e objects hread hdeals =>
    intro j other hother hinit
    rw [Heap.read_free] at hother
    split_ifs at hother with hij
    obtain ⟨lib, ctx, prov, hloaded, hprovides⟩ := hintact j other hother hinit
    exact ⟨lib, ctx, prov,
      hloaded.congr (h.read_eq hread (hdeals P) (Ne.symm hij) hother), hprovides⟩
  | @lose i e hread _ =>
    intro j other hother hinit
    rw [Heap.read_free] at hother
    split_ifs at hother with hij
    exact hintact j other hother hinit

/-- After another call no engine could be finalised any more. -/
theorem Intact.orderly (h : w.Holds P) {call : ProviderCall} (hafter : (call.apply w).2.Intact) :
    w.Orderly call := by
  cases call with
  | library call =>
    cases call with
    | scfDeInit =>
      intro _ i e hread
      by_contra hinit
      obtain ⟨lib, ctx, prov, -, hprovides⟩ := hafter i e hread (Bool.not_eq_false _ ▸ hinit)
      obtain ⟨hinv, hno⟩ := Libraries.scfDeInit_spec h.libs
      exact Libraries.not_provides_of_not_init hinv hno lib hprovides
    | _ => trivial
  | _ => trivial

/-- A destruction loses nothing if afterwards every object belongs to an engine. -/
theorem tidies_of_complete (h : w.Holds P) {call : ProviderCall}
    (hafter : ∀ x, (call.apply w).2.objects.read x ≠ none → ∃ i, x ∈ (call.apply w).2.held i) :
    w.Tidies (fun _ => True) call := by
  cases call with
  | destroy i =>
    intro e hread
    by_contra hno
    rw [not_or, Bool.not_eq_true] at hno
    obtain ⟨hinit, hno⟩ := hno
    have hsound := h.sound i e hread
    obtain ⟨x, hx⟩ : ∃ x, e.fallbackEngine = some x := by
      by_contra hnone
      exact hno fun x hx => absurd ⟨x, hx⟩ hnone
    have hspec := e.finalize_spec h.libs hsound
    rw [hinit, if_neg (by decide)] at hspec
    have happly : (ProviderCall.apply (.destroy i) w).2 =
        { w with engines := w.engines.free i } := by
      simp only [ProviderCall.apply, hread, hspec]
    rw [happly] at hafter
    obtain ⟨j, hj⟩ := hafter x (hsound.live x (.inr (.inr (.inr hx))))
    rw [held, Heap.read_free] at hj
    by_cases hij : i = j
    · rw [if_pos hij] at hj
      exact hj
    · rw [if_neg hij] at hj
      refine hij (h.estate.unique i j x ?_ hj)
      rw [held_of_read hread]
      exact .inr (.inr (.inr hx))
  | _ => trivial

end ProviderWorld

open ProviderWorld

/-- In every run the members of every engine fit together, no two engines share an object, and every
library context and every provider belongs to an engine that has not been destroyed. -/
theorem provider_run_custody (calls : List ProviderCall) :
    let w := providerMachine.after {} calls
    (∀ i e, w.engines.read i = some e → e.Sound w.objects) ∧
      (∀ i j x, x ∈ w.held i → x ∈ w.held j → i = j) ∧
      ∀ x object, w.objects.read x = some object → object ≠ .software → ∃ i, x ∈ w.held i :=
  have h := holds_after calls
  ⟨h.sound, h.estate.unique, h.estate.complete⟩

/-- In every run an engine can be finalised, and destroyed, just if it is not initialised or the
library it was initialised with is loaded. Finalising one that is leaves it nothing, and frees all it
had. -/
theorem provider_run_finalize (calls : List ProviderCall) (i : ℕ) (e : KAEProviderEngine)
    (hread : (providerMachine.after {} calls).engines.read i = some e) :
    let w := providerMachine.after {} calls
    ((∃ ret, (providerMachine.step w (.finalize i)).1 = .ok ret) ↔ w.EngineIntact e) ∧
      ((∃ ret, (providerMachine.step w (.destroy i)).1 = .ok ret) ↔ w.EngineIntact e) ∧
      (e.initialized = true → w.EngineIntact e →
        let w' := (providerMachine.step w (.finalize i)).2
        w'.held i = ∅ ∧ ∀ x ∈ w.held i, w'.objects.read x = none) := by
  intro w
  have h : w.Holds (· ≠ .software) := holds_after calls
  have hread : w.engines.read i = some e := hread
  have hsound := h.sound i e hread
  have hspec := e.finalize_spec h.libs hsound
  have hfinalize : providerMachine.step w (.finalize i) = ProviderCall.apply (.finalize i) w := rfl
  have hdestroy : providerMachine.step w (.destroy i) = ProviderCall.apply (.destroy i) w := rfl
  simp only [hfinalize, hdestroy, ProviderCall.apply, hread]
  split_ifs at hspec with hinit
  · obtain ⟨lib, ctx, prov, hloaded, ⟨hprovides, heq⟩ | ⟨hno, fault, heq⟩⟩ := hspec
    · have hintact : w.EngineIntact e := fun _ => ⟨lib, ctx, prov, hloaded, hprovides⟩
      simp only [heq]
      refine ⟨iff_of_true ⟨_, rfl⟩ hintact, iff_of_true ⟨_, rfl⟩ hintact, fun _ _ => ⟨?_, ?_⟩⟩
      · rw [held_put hread, Function.update_self, KAEProviderEngine.held_emptied]
      · intro x hx
        rw [held_of_read hread] at hx
        show (e.giveBackAll w.objects).read x = none
        by_contra hlive
        obtain ⟨object, hobject⟩ := Option.ne_none_iff_exists'.mp hlive
        exact ((hloaded.distinct hsound).deals (fun _ => True) hsound.live).given x object hx
          (Set.notMem_empty x) hobject trivial
    · have hnot : ¬w.EngineIntact e := by
        intro hintact
        obtain ⟨lib', ctx', prov', hloaded', hprovides⟩ := hintact hinit
        obtain rfl := Option.some.inj (hloaded.libCtx.symm.trans hloaded'.libCtx)
        have hlib := hloaded.read_ctx.symm.trans hloaded'.read_ctx
        simp only [Option.some.injEq, EngineObject.libCtx.injEq] at hlib
        exact hno (hlib ▸ hprovides)
      simp only [heq]
      exact ⟨iff_of_false nofun hnot, iff_of_false nofun hnot, fun _ hintact => absurd hintact hnot⟩
  · have hintact : w.EngineIntact e := fun hyes => absurd hyes hinit
    simp only [hspec]
    exact ⟨iff_of_true ⟨_, rfl⟩ hintact, iff_of_true ⟨_, rfl⟩ hintact,
      fun hyes => absurd hyes hinit⟩

/-- An engine finds both providers, and is asked for a direct operation. -/
def engineCalls : List ProviderCall :=
  [.library (.scfInit opensslHost initFlagOpenssl (some opensslDir)), .create {},
    .engineInitialize 0 {} ⟨true, true, true⟩, .operation 0 true]

/-- The engine has a context, two providers and a software engine, and finalising it frees all of
them. -/
theorem provider_run_finalize_initialized :
    ∃ e, (providerMachine.after {} engineCalls).engines.read 0 = some e ∧
      e.libCtx = some 0 ∧ e.defaultProv = some 1 ∧ e.kaeProv = some 2 ∧
      e.fallbackEngine = some 3 ∧ (providerMachine.after {} engineCalls).EngineIntact e ∧
      ∀ x < 4, (providerMachine.step (providerMachine.after {} engineCalls)
        (.finalize 0)).2.objects.read x = none := by
  have hmembers : ((providerMachine.after {} engineCalls).engines.read 0).map (fun e =>
      (e.initialized, e.libCtx, e.defaultProv, e.kaeProv, e.fallbackEngine)) =
        some (true, some 0, some 1, some 2, some 3) := by decide +kernel
  have hok : (providerMachine.step (providerMachine.after {} engineCalls)
      (.finalize 0)).1.toBool = true := by decide +kernel
  have hreturns : ∀ r : Except EngineFault Bool, r.toBool = true → ∃ ret, r = .ok ret := by
    intro r hr
    cases r with
    | ok ret => exact ⟨ret, rfl⟩
    | error fault => cases hr
  obtain ⟨e, hread, heq⟩ := Option.map_eq_some_iff.mp hmembers
  simp only [Prod.mk.injEq] at heq
  obtain ⟨hinit, hctx, hprov, hkae, hfallback⟩ := heq
  obtain ⟨hfinalize, -, hfrees⟩ := provider_run_finalize engineCalls 0 e hread
  have hintact := hfinalize.mp (hreturns _ hok)
  have hfreed := (hfrees hinit hintact).2
  refine ⟨e, hread, hctx, hprov, hkae, hfallback, hintact, fun x hx => hfreed x ?_⟩
  rw [held_of_read hread, KAEProviderEngine.mem_held, hctx, hprov, hkae, hfallback]
  simp only [Option.some.injEq]
  omega

/-- The engines of a run can be finalised in each of its states just if no `SCF_DeInit` of the run
unloads the libraries while an engine is initialised. -/
theorem provider_run_intact_iff (calls : List ProviderCall) :
    providerMachine.Throughout Intact {} calls ↔ providerMachine.Admits Orderly {} calls := by
  have hstart : ({} : ProviderWorld).Intact := by
    intro i e he
    have hnone : ({} : ProviderWorld).engines.read i = none := by simp [Heap.read]
    rw [hnone] at he
    cases he
  have hall : providerMachine.Admits (fun _ _ => True) {} calls :=
    Machine.admits_of_forall (fun _ _ => trivial) _ _
  exact Machine.throughout_iff_of_invariant
    (I := fun w : ProviderWorld => w.Holds (· ≠ .software) ∧ w.Intact) (fun _ h => h.2)
    (fun w call h _ hok => ⟨h.1.apply (tidies_ne_software w call), h.2.apply h.1 hok⟩)
    (fun _ _ h _ hafter => hafter.orderly h.1) ⟨holds_start _, hstart⟩ hall

/-- In each state of a run every object belongs to an engine, just if no engine that has a software
engine is destroyed while it is not initialised. -/
theorem provider_run_leak_iff (calls : List ProviderCall) :
    providerMachine.Throughout (fun w => ∀ x, w.objects.read x ≠ none → ∃ i, x ∈ w.held i) {} calls ↔
      providerMachine.Admits (fun w call => ∀ i e, call = .destroy i → w.engines.read i = some e →
        e.initialized = true ∨ e.fallbackEngine = none) {} calls := by
  have htidies : ∀ (w : ProviderWorld) (call : ProviderCall), w.Tidies (fun _ => True) call ↔
      ∀ i e, call = .destroy i → w.engines.read i = some e →
        e.initialized = true ∨ e.fallbackEngine = none := by
    intro w call
    cases call with
    | destroy i =>
      constructor
      · intro h j e heq hread
        obtain rfl := ProviderCall.destroy.inj heq
        refine (h e hread).imp_right fun hno => ?_
        by_contra hne
        obtain ⟨x, hx⟩ := Option.ne_none_iff_exists'.mp hne
        exact hno x hx trivial
      · intro h e hread
        refine (h i e rfl hread).imp_right fun hnone x hx => ?_
        rw [hnone] at hx
        cases hx
    | _ => exact iff_of_true trivial fun _ _ heq => by cases heq
  have hall : providerMachine.Admits (fun _ _ => True) {} calls :=
    Machine.admits_of_forall (fun _ _ => trivial) _ _
  refine Machine.throughout_iff_of_invariant (I := fun w : ProviderWorld => w.Holds fun _ => True)
    (fun w h x hlive => ?_) (fun w call h _ hok => h.apply ((htidies w call).mpr hok))
    (fun w call h _ hafter => (htidies w call).mp (tidies_of_complete h hafter)) (holds_start _) hall
  obtain ⟨object, hobject⟩ := Option.ne_none_iff_exists'.mp hlive
  exact h.estate.complete x object hobject trivial

end Scf
