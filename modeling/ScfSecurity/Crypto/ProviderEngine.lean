import ScfSecurity.Loading.Initialisation

/-!
# The provider engine

`KAEProviderEngine` loads a hardware provider into a library context of its own, and keeps a
software engine that it creates when it is first asked for a direct operation. All of this is reached
through the functions of `LibCryptoApi`, so an engine depends on the library that was loaded when it
was initialised.

## Main definitions

- `EngineObject`: library contexts, providers and software engines
- `KAEProviderEngine.engineInitialize`, `KAEProviderEngine.finalize`, `KAEProviderEngine.getFallbackEngine`
- `providerMachine`: runs with any number of engines, and with `SCF_Init` and `SCF_DeInit`
-/

namespace Scf

open Automaton

/-! ### Objects of the library -/

/-- The objects that engines create: a library context and a provider loaded into one, with the
handle of the library that made them, and a `DefaultSoftwareCryptoEngine`. -/
inductive EngineObject where
  | libCtx (lib : ℕ)
  | provider (lib ctx : ℕ) (name : StdString)
  | software
deriving DecidableEq

/-- What can be wrong with a call of an engine: the function it calls, or an object of another
library that it passes on; an operation can also find that there is no software engine. -/
inductive EngineFault where
  | dlFun (fault : DlFault)
  | foreign
  | nullEngine
deriving DecidableEq, Repr

/-- The library whose function a member of `LibCryptoApi` calls. -/
def Libraries.target (name : OpensslFun) (libs : Libraries) : Except EngineFault ℕ :=
  match (libs.lib .crypto).funs name with
  | none => .error (.dlFun .noFunction)
  | some symbol =>
    if libs.linker.objects.read symbol.handle = none then .error (.dlFun .unloaded)
    else .ok symbol.handle

section Provider

variable (libs : Libraries)

/-- `OSSL_LIB_CTX_new`. -/
def osslLibCtxNew (ok : Bool) (objects : Heap EngineObject) :
    Except EngineFault (Option ℕ × Heap EngineObject) := do
  let lib ← libs.target .OSSL_LIB_CTX_new
  if ok then .ok (some objects.size, (objects.alloc (.libCtx lib)).2) else .ok (none, objects)

/-- `OSSL_PROVIDER_load`. -/
def osslProviderLoad (ctx : ℕ) (name : StdString) (ok : Bool) (objects : Heap EngineObject) :
    Except EngineFault (Option ℕ × Heap EngineObject) := do
  let lib ← libs.target .OSSL_PROVIDER_load
  if objects.read ctx ≠ some (.libCtx lib) then .error .foreign
  else if ok then .ok (some objects.size, (objects.alloc (.provider lib ctx name)).2)
  else .ok (none, objects)

/-- `OSSL_PROVIDER_unload`. -/
def osslProviderUnload (prov : ℕ) (objects : Heap EngineObject) :
    Except EngineFault (Heap EngineObject) := do
  let lib ← libs.target .OSSL_PROVIDER_unload
  match objects.read prov with
  | some (.provider lib' _ _) => if lib' = lib then .ok (objects.free prov) else .error .foreign
  | _ => .error .foreign

/-- `OSSL_LIB_CTX_free`. -/
def osslLibCtxFree (ctx : ℕ) (objects : Heap EngineObject) :
    Except EngineFault (Heap EngineObject) := do
  let lib ← libs.target .OSSL_LIB_CTX_free
  if objects.read ctx ≠ some (.libCtx lib) then .error .foreign else .ok (objects.free ctx)

end Provider

/-! ### The engine -/

/-- The fields of `CryptoEngineConfig` that the engine reads. -/
structure CryptoEngineConfig where
  configFilePath : StdString := []
  enableAsyncMode : Bool := false
  asyncQueueDepth : UInt32 := 64

/-- `KAEProviderConfig`. -/
structure KAEProviderConfig where
  kaeProviderName : StdString := ascii "kae"
  kaeConfigFile : StdString := []
  enableAsyncPolling : Bool := false
  asyncPollTimeoutMs : UInt32 := 100

/-- The members of `KAEProviderEngine`. -/
structure KAEProviderEngine where
  kaeConfig : KAEProviderConfig
  initialized : Bool := false
  kaeLoaded : Bool := false
  libCtx : Option ℕ := none
  defaultProv : Option ℕ := none
  kaeProv : Option ℕ := none
  fallbackEngine : Option ℕ := none

/-- How the library answers while an engine is initialised: whether it creates the context, and
whether it finds the two providers. -/
structure ProviderEnv where
  ctxNew : Bool
  defaultLoad : Bool
  kaeLoad : Bool

namespace KAEProviderEngine

variable (libs : Libraries)

/-- What `Initialize` takes over from the configuration. -/
def configured (config : CryptoEngineConfig) (e : KAEProviderEngine) : KAEProviderEngine :=
  let e := if config.configFilePath ≠ [] then
    { e with kaeConfig := { e.kaeConfig with kaeConfigFile := config.configFilePath } } else e
  if config.enableAsyncMode then
    { e with kaeConfig := { e.kaeConfig with
      enableAsyncPolling := true, asyncPollTimeoutMs := config.asyncQueueDepth } } else e

/-- `LoadKAEProvider`. -/
def loadKAEProvider (ctx : ℕ) (env : ProviderEnv) (e : KAEProviderEngine)
    (objects : Heap EngineObject) :
    Except EngineFault (Bool × KAEProviderEngine × Heap EngineObject) := do
  let (prov, objects) ← osslProviderLoad libs ctx e.kaeConfig.kaeProviderName env.kaeLoad objects
  match prov with
  | none =>
    let _ ← libs.target .ERR_get_error
    let _ ← libs.target .ERR_error_string_n
    .ok (false, { e with kaeProv := none, kaeLoaded := false }, objects)
  | some prov => .ok (true, { e with kaeProv := some prov, kaeLoaded := true }, objects)

/-- `Initialize`. -/
def engineInitialize (config : CryptoEngineConfig) (env : ProviderEnv) (e : KAEProviderEngine)
    (objects : Heap EngineObject) :
    Except EngineFault (Bool × KAEProviderEngine × Heap EngineObject) :=
  if e.initialized then .ok (true, e, objects)
  else
    let e := e.configured config
    -- the provider functions are missing before version 3
    if (libs.lib .crypto).funs .OSSL_LIB_CTX_new = none then .ok (false, e, objects)
    else do
      let (ctx, objects) ← osslLibCtxNew libs env.ctxNew objects
      match ctx with
      | none => .ok (false, { e with libCtx := none }, objects)
      | some ctx =>
        let (prov, objects) ← osslProviderLoad libs ctx (ascii "default") env.defaultLoad objects
        match prov with
        | none =>
          let objects ← osslLibCtxFree libs ctx objects
          .ok (false, { e with libCtx := none, defaultProv := none }, objects)
        | some prov =>
          let (_, e, objects) ←
            loadKAEProvider libs ctx env { e with libCtx := some ctx, defaultProv := some prov } objects
          .ok (true, { e with initialized := true }, objects)

/-- `ReleaseFallbackEngine`. -/
def releaseFallbackEngine (e : KAEProviderEngine) (objects : Heap EngineObject) :
    KAEProviderEngine × Heap EngineObject :=
  match e.fallbackEngine with
  | none => (e, objects)
  | some software => ({ e with fallbackEngine := none }, objects.free software)

/-- `OSSL_PROVIDER_unload`, unless the pointer is null. -/
def unload : Option ℕ → Heap EngineObject → Except EngineFault (Heap EngineObject)
  | none, objects => .ok objects
  | some prov, objects => osslProviderUnload libs prov objects

/-- `OSSL_LIB_CTX_free`, unless the pointer is null. -/
def freeCtx : Option ℕ → Heap EngineObject → Except EngineFault (Heap EngineObject)
  | none, objects => .ok objects
  | some ctx, objects => osslLibCtxFree libs ctx objects

/-- `Finalize`, and the destructor. -/
def finalize (e : KAEProviderEngine) (objects : Heap EngineObject) :
    Except EngineFault (KAEProviderEngine × Heap EngineObject) :=
  if !e.initialized then .ok (e, objects)
  else do
    let objects ← unload libs e.kaeProv objects
    let objects ← unload libs e.defaultProv objects
    let objects ← freeCtx libs e.libCtx objects
    let (e, objects) := releaseFallbackEngine
      { e with kaeProv := none, defaultProv := none, libCtx := none } objects
    .ok ({ e with initialized := false, kaeLoaded := false }, objects)

/-- `GetFallbackEngine`; a new engine is also initialised, which does nothing. -/
def getFallbackEngine (allocOk : Bool) (e : KAEProviderEngine) (objects : Heap EngineObject) :
    Option ℕ × KAEProviderEngine × Heap EngineObject :=
  match e.fallbackEngine with
  | some software => (some software, e, objects)
  | none =>
    if allocOk then
      (some objects.size, { e with fallbackEngine := some objects.size },
        (objects.alloc .software).2)
    else (none, e, objects)

/-- A direct operation such as `EncryptAEAD`, which is passed on to the software engine. -/
def operation (allocOk : Bool) (e : KAEProviderEngine) (objects : Heap EngineObject) :
    Except EngineFault (KAEProviderEngine × Heap EngineObject) :=
  match getFallbackEngine allocOk e objects with
  | (none, _, _) => .error .nullEngine
  | (some _, e, objects) => .ok (e, objects)

end KAEProviderEngine

/-! ### Runs -/

/-- The process: its libraries, the objects of the engines, and the engines. -/
structure ProviderWorld where
  libs : Libraries := {}
  objects : Heap EngineObject := {}
  engines : Heap KAEProviderEngine := {}

/-- `SCF_Init` and `SCF_DeInit`, and what is done with the engines. -/
inductive ProviderCall where
  | library (call : LibraryCall)
  | create (config : KAEProviderConfig)
  | engineInitialize (i : ℕ) (config : CryptoEngineConfig) (env : ProviderEnv)
  | finalize (i : ℕ)
  | operation (i : ℕ) (allocOk : Bool)
  | destroy (i : ℕ)

namespace ProviderWorld

/-- One engine has taken a step. -/
def put (i : ℕ) (e : KAEProviderEngine) (objects : Heap EngineObject) (w : ProviderWorld) :
    ProviderWorld :=
  { w with objects := objects, engines := w.engines.modify i fun _ => e }

end ProviderWorld

/-- A call; one that faults throws before it has changed anything. -/
def ProviderCall.apply : ProviderCall → ProviderWorld → Except EngineFault Bool × ProviderWorld
  | .library call, w => (.ok true, { w with libs := (call.apply w.libs).2 })
  | .create config, w => (.ok true, { w with engines := (w.engines.alloc { kaeConfig := config }).2 })
  | .engineInitialize i config env, w =>
    match w.engines.read i with
    | none => (.ok false, w)
    | some e =>
      match e.engineInitialize w.libs config env w.objects with
      | .error fault => (.error fault, w)
      | .ok (ret, e, objects) => (.ok ret, w.put i e objects)
  | .finalize i, w =>
    match w.engines.read i with
    | none => (.ok false, w)
    | some e =>
      match e.finalize w.libs w.objects with
      | .error fault => (.error fault, w)
      | .ok (e, objects) => (.ok true, w.put i e objects)
  | .operation i allocOk, w =>
    match w.engines.read i with
    | none => (.ok false, w)
    | some e =>
      match e.operation allocOk w.objects with
      | .error fault => (.error fault, w)
      | .ok (e, objects) => (.ok true, w.put i e objects)
  | .destroy i, w =>
    match w.engines.read i with
    | none => (.ok false, w)
    | some e =>
      match e.finalize w.libs w.objects with
      | .error fault => (.error fault, w)
      | .ok (_, objects) => (.ok true, { w with objects := objects, engines := w.engines.free i })

def providerMachine : Machine ProviderWorld ProviderCall (Except EngineFault Bool) where
  initial w := w = {}
  step w call := call.apply w

/-! ### Which functions an engine finds -/

/-- The functions of `LibCryptoApi` that an engine calls. -/
def providerFuns : List OpensslFun :=
  [.OSSL_LIB_CTX_new, .OSSL_LIB_CTX_free, .OSSL_PROVIDER_load, .OSSL_PROVIDER_unload,
   .ERR_get_error, .ERR_error_string_n]

namespace Libraries

variable {libs : Libraries}

/-- All of these are functions of the library with the given handle. -/
def Provides (libs : Libraries) (handle : ℕ) : Prop :=
  ∀ name ∈ providerFuns, libs.target name = .ok handle

theorem target_of_none {name : OpensslFun} (h : (libs.lib .crypto).funs name = none) :
    libs.target name = .error (.dlFun .noFunction) := by
  rw [target, h]

/-- From version 3 on the table has all of them. -/
theorem providerFuns_mem_lookups {versionNum : UInt64} (hv : versionNum ≥ sslVersion3X)
    {name : OpensslFun} (hname : name ∈ providerFuns) :
    (name, name) ∈ libCryptoApi.lookups versionNum := by
  have hcases : ∀ name ∈ providerFuns,
      name ∈ LibCryptoApi.pkeyNames3X ∨ name ∈ LibCryptoApi.coreNames := by decide
  refine List.mem_cons_of_mem _ ?_
  rcases hcases name hname with hmem | hmem
  · refine List.mem_append_right _ (List.mem_append_right _ ?_)
    rw [if_pos hv]
    exact List.mem_map_of_mem hmem
  · exact List.mem_append_left _ (List.mem_append_left _ (List.mem_append_left _
      (List.mem_map_of_mem hmem)))

/-- Before version 3 it has no provider functions. -/
theorem le_of_mem_lookups {versionNum : UInt64} {name : OpensslFun}
    (hname : name = .OSSL_LIB_CTX_new ∨ name = .OSSL_PROVIDER_unload)
    (hmem : name ∈ (libCryptoApi.lookups versionNum).map Prod.snd) :
    versionNum ≥ sslVersion3X := by
  by_contra hv
  have heq : libCryptoApi.lookups versionNum = libCryptoApi.lookups 0 := by
    simp only [LibApi.lookups, libCryptoApi, LibCryptoApi.loadCoreSymbols,
      LibCryptoApi.loadPkeySymbols, LibCryptoApi.loadCryptoAlgorithmSymbols, if_neg hv]
    rfl
  rw [heq] at hmem
  rcases hname with rfl | rfl
  · exact absurd hmem (by decide)
  · exact absurd hmem (by decide)

/-- If the library has one of the provider functions, it has all of them. -/
theorem Invariant.provides (h : libs.Invariant) {name : OpensslFun}
    (hname : name = .OSSL_LIB_CTX_new ∨ name = .OSSL_PROVIDER_unload)
    (hne : (libs.lib .crypto).funs name ≠ none) : ∃ handle, libs.Provides handle := by
  have hinit : libs.scfInitialized = true := by
    by_contra hno
    have hidle := h.idle_of_not_init (Bool.eq_false_iff.mpr hno)
    exact absurd (hidle.eq_versionNum hne).1 (by decide)
  obtain ⟨handle, object, hready⟩ := h.loaded_of_init hinit .crypto
  have hv : object.versionNum ≥ sslVersion3X := by
    refine le_of_mem_lookups hname ?_
    by_contra hmem
    exact hne (hready.others name hmem)
  refine ⟨handle, fun name' hname' => ?_⟩
  have hfun : (libs.lib .crypto).funs name' = some ⟨handle, name'⟩ :=
    hready.funs _ (providerFuns_mem_lookups hv hname')
  have hread : libs.linker.objects.read handle = some object := hready.read
  simp [target, hfun, hread]

theorem Provides.unique {handle handle' : ℕ} (h : libs.Provides handle)
    (h' : libs.Provides handle') : handle = handle' := by
  have hmem : OpensslFun.OSSL_LIB_CTX_new ∈ providerFuns := by decide
  exact Except.ok.inj ((h _ hmem).symm.trans (h' _ hmem))

theorem not_provides_of_not_init (h : libs.Invariant) (hinit : libs.scfInitialized = false)
    (handle : ℕ) : ¬libs.Provides handle := by
  intro hprovides
  have hnone : (libs.lib .crypto).funs .OSSL_LIB_CTX_new = none := by
    by_contra hne
    exact absurd ((h.idle_of_not_init hinit).eq_versionNum hne).1 (by decide)
  have htarget := hprovides .OSSL_LIB_CTX_new (by decide)
  rw [target_of_none hnone] at htarget
  cases htarget

end Libraries

end Scf
