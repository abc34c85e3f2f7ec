import ScfSecurity.Library.Machine
import ScfSecurity.Loading.LoadSpec

/-!
# Initialising the library

`SCF_Init` and `SCF_DeInit` load and unload the two libraries of OpenSSL together. A process can
call them in any order and any number of times, on hosts whose files change in between.

## Main definitions

- `Libraries`: what these calls work on
- `Libraries.adaptorInit`, `Libraries.adaptorDeInit`: `OpenSSLAdaptor::Init` and `DeInit`
- `Libraries.scfInit`, `Libraries.scfDeInit`: the calls
- `libraryMachine`: runs of the calls
- `Libraries.Sound`: what every state of a run satisfies

## Main results

- `library_run_loaded`: between two calls both libraries are loaded or none is
- `library_run_closed`: every handle is closed once
- `library_run_functions`, `scfDeInit_dangling`: which functions can be called
- `scfInit_code`, `library_run_simulates_globals`: the codes, and the global variables alone
-/

namespace Scf

open Automaton

/-- The two libraries. -/
inductive OpensslLib where
  | crypto
  | ssl
deriving DecidableEq, Repr

def OpensslLib.api : OpensslLib → LibApi
  | .crypto => libCryptoApi
  | .ssl => libSslApi

theorem OpensslLib.wellFormed : ∀ which : OpensslLib, which.api.WellFormed
  | .crypto => libCryptoApi_wellFormed
  | .ssl => libSslApi_wellFormed

/-- The process as the calls see it: the linker, the instances of `LibCryptoApi` and `LibSslApi`,
the engine pointer of the adaptor, `g_scfInitialized`, `g_isTlsInit`, and whether `g_adaptor` points
to the adaptor. -/
structure Libraries where
  linker : Linker OpensslFun := {}
  lib : OpensslLib → DlOpenLib OpensslFun := fun _ => {}
  cryptoEngine : Option Address := none
  scfInitialized : Bool := false
  isTlsInit : Bool := false
  adaptor : Bool := false

namespace Libraries

/-- One of the libraries, with the linker. -/
def loading (which : OpensslLib) (p : Libraries) : Loading OpensslFun := ⟨p.linker, p.lib which⟩

/-- One of the libraries has taken a step. -/
def put (which : OpensslLib) (s : Loading OpensslFun) (p : Libraries) : Libraries :=
  { p with linker := s.linker, lib := Function.update p.lib which s.lib }

/-- `OpenSSLAdaptor::DeInit`. -/
def adaptorDeInit (p : Libraries) : Libraries :=
  let p := { p with cryptoEngine := none }
  let p := p.put .crypto (Loading.unInit libCryptoApi (p.loading .crypto))
  p.put .ssl (Loading.unInit libSslApi (p.loading .ssl))

/-- `OpenSSLAdaptor::Init`. -/
def adaptorInit (host : Host OpensslFun) (settings : Option CString) (p : Libraries) :
    Except DlFault (Errno × Libraries) :=
  match settings with
  | none => .ok (.loadLib, p)
  | some libPath => do
    let (ret, s) ← Loading.init libCryptoApi host libPath.bytes (p.loading .crypto)
    let p := p.put .crypto s
    if ret ≠ .success then .ok (ret, p.adaptorDeInit)
    else do
      let (ret, s) ← Loading.init libSslApi host libPath.bytes (p.loading .ssl)
      let p := p.put .ssl s
      if ret ≠ .success then .ok (ret, p.adaptorDeInit)
      else .ok (.success, p)

/-- `RegisterTlsAdaptor`. -/
def registerTlsAdaptor (host : Host OpensslFun) (flag : UInt64) (settings : Option CString)
    (p : Libraries) : Except DlFault (Errno × Libraries) :=
  if p.isTlsInit then .ok (.tlsAlreadyInit, p)
  else if flag = initFlagOpenssl then do
    let (ret, p) ← p.adaptorInit host settings
    if ret ≠ .success then .ok (ret, p)
    else .ok (.success, { p with isTlsInit := true, adaptor := true })
  else .ok (.invalidParam, p)

/-- `UnRegisterTlsAdaptor`. -/
def unRegisterTlsAdaptor (p : Libraries) : Libraries :=
  if !p.isTlsInit || !p.adaptor then p
  else { p.adaptorDeInit with adaptor := false, isTlsInit := false }

/-- `SCFInitInner`. -/
def scfInitInner (host : Host OpensslFun) (flag : UInt64) (settings : Option CString)
    (p : Libraries) : Except DlFault (Errno × Libraries) :=
  if p.scfInitialized then .ok (.success, p)
  else do
    let (ret, p) ← p.registerTlsAdaptor host flag settings
    if ret ≠ .success then .ok (ret, p)
    else .ok (.success, { p with scfInitialized := true })

/-- `SCFDeInitInner`. -/
def scfDeInitInner (p : Libraries) : Libraries :=
  if !p.scfInitialized then p
  else { p.unRegisterTlsAdaptor with scfInitialized := false }

/-- `SCF_Init`. -/
def scfInit (host : Host OpensslFun) (flag : UInt64) (settings : Option CString) (p : Libraries) :
    Except DlFault (Errno × Libraries) :=
  if p.scfInitialized then .ok (.success, p)
  else if flag ≠ initFlagOpenssl then .ok (.invalidParam, p)
  else do
    let (ret, p) ← p.scfInitInner host flag settings
    if ret ≠ .success then .ok (ret, p)
    else .ok (ret, { p with scfInitialized := true })

/-- `SCF_DeInit`. -/
def scfDeInit (p : Libraries) : Libraries :=
  if !p.scfInitialized then p
  else { p.scfDeInitInner with scfInitialized := false }

end Libraries

/-- The calls of an application; the adaptor has an engine set between them. -/
inductive LibraryCall where
  | scfInit (host : Host OpensslFun) (flag : UInt64) (settings : Option CString)
  | scfDeInit
  | setCryptoEngine (engine : Option Address)

/-- A call; one that faults does not return. -/
def LibraryCall.apply : LibraryCall → Libraries → Except DlFault Errno × Libraries
  | .scfInit host flag settings, p =>
    match p.scfInit host flag settings with
    | .error fault => (.error fault, p)
    | .ok (ret, p) => (.ok ret, p)
  | .scfDeInit, p => (.ok .success, p.scfDeInit)
  | .setCryptoEngine engine, p => (.ok .success, { p with cryptoEngine := engine })

def libraryMachine : Machine Libraries LibraryCall (Except DlFault Errno) where
  initial p := p = {}
  step p call := call.apply p

/-! ### What the steps of the libraries keep -/

namespace Libraries

variable {p : Libraries} {which other : OpensslLib} {s : Loading OpensslFun}

/-- The handles of the two libraries, as holders of shared objects. -/
def held (p : Libraries) : ℕ → Option ℕ
  | 0 => (p.lib .crypto).libptr
  | 1 => (p.lib .ssl).libptr
  | _ => none

def number : OpensslLib → ℕ
  | .crypto => 0
  | .ssl => 1

theorem held_number (p : Libraries) : ∀ which, p.held (number which) = (p.lib which).libptr
  | .crypto => rfl
  | .ssl => rfl

theorem number_injective : ∀ {which other : OpensslLib}, number which = number other → which = other
  | .crypto, .crypto, _ => rfl
  | .ssl, .ssl, _ => rfl

theorem held_put (which : OpensslLib) (s : Loading OpensslFun) (p : Libraries) :
    (p.put which s).held = Function.update p.held (number which) s.lib.libptr := by
  funext i
  cases which with
  | crypto =>
    match i with
    | 0 => rfl
    | 1 => rfl
    | _ + 2 => rfl
  | ssl =>
    match i with
    | 0 => rfl
    | 1 => rfl
    | _ + 2 => rfl

/-- The libraries hold just the shared objects that are open, each its own, and nothing is closed
twice. -/
structure Sound (p : Libraries) : Prop where
  exact : p.linker.Exact
  ledger : ∃ owner, Heap.Ledger p.held owner p.linker.objects
  tidy : ∀ which, (p.lib which).Tidy which.api
  rooted : ∀ which, (p.loading which).Rooted

theorem sound_start : ({} : Libraries).Sound where
  exact := Linker.exact_start
  ledger := by
    refine ⟨fun _ => 0, fun i x hx => ?_, fun x hx => ?_⟩
    · match i with
      | 0 => cases hx
      | 1 => cases hx
      | _ + 2 => cases hx
    · exact absurd (Heap.lt_size_of_read hx) (Nat.not_lt_zero _)
  tidy which := (DlOpenLib.idle_new which.api).tidy
  rooted _ _ _ h := by cases h

theorem Sound.live (h : p.Sound) (which : OpensslLib) : (p.loading which).Live := by
  obtain ⟨owner, hledger⟩ := h.ledger
  exact fun handle hptr => (hledger.live _ handle ((p.held_number which).trans hptr)).1

/-- What the other library has open stays open. -/
theorem Sound.read_put (h : p.Sound) (hmoves : (p.loading which).Moves s) (hne : other ≠ which)
    {handle : ℕ} (hptr : (p.lib other).libptr = some handle) :
    s.linker.objects.read handle = p.linker.objects.read handle := by
  obtain ⟨owner, hledger⟩ := h.ledger
  have htrades := hmoves.trades
  rw [show (p.loading which).lib.libptr = p.held (number which) from (p.held_number which).symm]
    at htrades
  have hmap := hledger.trades_eq htrades (fun heq => hne (number_injective heq))
    ((p.held_number other).trans hptr)
  simpa using hmap

theorem Sound.put (h : p.Sound) (hmoves : (p.loading which).Moves s)
    (htidy : s.lib.Tidy which.api) (hrooted : s.Rooted) : (p.put which s).Sound := by
  refine ⟨hmoves.exact h.exact, ?_, fun other => ?_, fun other => ?_⟩
  · obtain ⟨owner, hledger⟩ := h.ledger
    have htrades := hmoves.trades
    rw [show (p.loading which).lib.libptr = p.held (number which) from (p.held_number which).symm]
      at htrades
    rw [held_put]
    exact ⟨_, hledger.update htrades⟩
  · by_cases heq : other = which
    · subst heq
      simpa [Libraries.put] using htidy
    · simpa [Libraries.put, heq] using h.tidy other
  · by_cases heq : other = which
    · subst heq
      simpa [Libraries.put, loading] using hrooted
    · intro field symbol hfield
      have hold := h.rooted other field symbol (by simpa [Libraries.put, loading, heq] using hfield)
      refine hold.imp (fun hown => ?_) fun hclosed => hmoves.closed hclosed
      simpa [Libraries.put, loading, heq] using hown

/-- `g_scfInitialized`, `g_isTlsInit` and `g_adaptor`. -/
def flags (p : Libraries) : Bool × Bool × Bool := (p.scfInitialized, p.isTlsInit, p.adaptor)

/-- The library has been loaded. -/
def Loaded (p : Libraries) (which : OpensslLib) : Prop :=
  ∃ handle object, Loading.Ready which.api (p.loading which) handle object

def AllIdle (p : Libraries) : Prop := ∀ which, (p.lib which).Idle which.api

@[simp] theorem put_lib_self (which : OpensslLib) (s : Loading OpensslFun) (p : Libraries) :
    (p.put which s).lib which = s.lib := Function.update_self ..

theorem loading_put_self (which : OpensslLib) (s : Loading OpensslFun) (p : Libraries) :
    (p.put which s).loading which = s := by
  simp [loading, put]

/-- The other library stays loaded. -/
theorem Sound.loaded_put (h : p.Sound) (hmoves : (p.loading which).Moves s) (hne : other ≠ which)
    (hloaded : p.Loaded other) : (p.put which s).Loaded other := by
  obtain ⟨handle, object, hready⟩ := hloaded
  have hlib : ((p.put which s).loading other).lib = p.lib other := Function.update_of_ne hne ..
  refine ⟨handle, object, ?_, (h.read_put hmoves hne hready.libptr).trans hready.read, ?_,
    hready.initRet, hready.exports, fun pair hpair => ?_, fun field hfield => ?_⟩
  · rw [hlib]
    exact hready.libptr
  · rw [hlib]
    exact hready.versionNum
  · rw [hlib]
    exact hready.funs pair hpair
  · rw [hlib]
    exact hready.others field hfield

/-- `UnInit` of one of the libraries. -/
theorem Sound.unInit (h : p.Sound) (which : OpensslLib) :
    (p.put which (Loading.unInit which.api (p.loading which))).Sound ∧
      (Loading.unInit which.api (p.loading which)).lib.Idle which.api := by
  obtain ⟨hidle, hmoves, hrooted⟩ := Loading.unInit_spec (h.tidy which) (h.live which)
  exact ⟨h.put hmoves hidle.tidy (hrooted h.exact (h.rooted which)), hidle⟩

theorem adaptorDeInit_spec (h : p.Sound) :
    p.adaptorDeInit.Sound ∧ p.adaptorDeInit.AllIdle ∧ p.adaptorDeInit.flags = p.flags := by
  have hcleared : ({ p with cryptoEngine := none } : Libraries).Sound :=
    ⟨h.exact, h.ledger, h.tidy, h.rooted⟩
  obtain ⟨hcrypto, hidle⟩ := hcleared.unInit .crypto
  obtain ⟨hssl, hidle'⟩ := hcrypto.unInit .ssl
  refine ⟨hssl, fun which => ?_, rfl⟩
  cases which with
  | crypto => exact hidle
  | ssl => exact hidle'

/-- The code of `OpenSSLAdaptor::Init`. -/
def adaptorOutcome (host : Host OpensslFun) : Option CString → Errno
  | none => .loadLib
  | some libPath =>
    if libCryptoApi.outcome host libPath.bytes ≠ .success then libCryptoApi.outcome host libPath.bytes
    else libSslApi.outcome host libPath.bytes

/-- `Init` of one of the libraries. -/
theorem Sound.init (h : p.Sound) (which : OpensslLib) (host : Host OpensslFun)
    (libPath : StdString) :
    ∃ s, Loading.init which.api host libPath (p.loading which) =
        .ok (which.api.outcome host libPath, s) ∧
      (p.put which s).Sound ∧ (p.loading which).Moves s ∧
        Loading.Settled which.api (which.api.outcome host libPath) s := by
  obtain ⟨s, hinit, hmoves, hrooted, hsettled⟩ := Loading.init_spec which.wellFormed host libPath
    (h.tidy which) (h.live which) h.exact (h.rooted which)
  refine ⟨s, hinit, h.put hmoves ?_ hrooted, hmoves, hsettled⟩
  by_cases hret : which.api.outcome host libPath = .success
  · rw [hret] at hsettled
    obtain ⟨handle, object, hready⟩ := Loading.settled_success.mp hsettled
    exact hready.tidy which.wellFormed
  · exact ((Loading.settled_failure hret).mp hsettled).tidy

/-- `OpenSSLAdaptor::Init` loads both libraries or none. -/
theorem adaptorInit_spec (h : p.Sound) (hidle : p.AllIdle) (host : Host OpensslFun)
    (settings : Option CString) :
    ∃ p', p.adaptorInit host settings = .ok (adaptorOutcome host settings, p') ∧ p'.Sound ∧
      p'.flags = p.flags ∧
      if adaptorOutcome host settings = .success then ∀ which, p'.Loaded which else p'.AllIdle := by
  cases settings with
  | none => exact ⟨p, rfl, h, rfl, hidle⟩
  | some libPath =>
    obtain ⟨s, hinit, hsound, -, hsettled⟩ := h.init .crypto host libPath.bytes
    obtain ⟨s', hinit', hsound', hmoves', hsettled'⟩ := hsound.init .ssl host libPath.bytes
    simp only [OpensslLib.api] at hinit hinit' hsettled hsettled'
    simp only [adaptorInit, adaptorOutcome, hinit, bind, Except.bind]
    by_cases hcrypto : libCryptoApi.outcome host libPath.bytes = .success
    · simp only [hcrypto, ne_eq, not_true, if_false, hinit']
      by_cases hssl : libSslApi.outcome host libPath.bytes = .success
      · rw [hcrypto] at hsettled
        rw [hssl] at hsettled'
        refine ⟨_, by rw [hssl, if_neg (by decide)], hsound', rfl, ?_⟩
        rw [if_pos hssl]
        intro which
        cases which with
        | crypto =>
          refine hsound.loaded_put hmoves' (by decide) ?_
          obtain ⟨handle, object, hready⟩ := Loading.settled_success.mp hsettled
          exact ⟨handle, object, by rw [loading_put_self]; exact hready⟩
        | ssl =>
          obtain ⟨handle, object, hready⟩ := Loading.settled_success.mp hsettled'
          exact ⟨handle, object, by rw [loading_put_self]; exact hready⟩
      · obtain ⟨hsound₂, hidle₂, hflags⟩ := adaptorDeInit_spec hsound'
        refine ⟨_, if_pos hssl, hsound₂, hflags, ?_⟩
        rw [if_neg hssl]
        exact hidle₂
    · obtain ⟨hsound₂, hidle₂, hflags⟩ := adaptorDeInit_spec hsound
      simp only [hcrypto, ne_eq, not_false_eq_true, if_true, if_false]
      exact ⟨_, rfl, hsound₂, hflags, hidle₂⟩

/-! ### Runs -/

/-- What holds between two calls: the global variables agree, and both libraries are loaded if they
say so, and none otherwise. -/
structure Invariant (p : Libraries) : Prop where
  sound : p.Sound
  isTlsInit : p.isTlsInit = p.scfInitialized
  adaptor : p.adaptor = p.scfInitialized
  loaded : if p.scfInitialized then ∀ which, p.Loaded which else p.AllIdle

theorem invariant_start : ({} : Libraries).Invariant :=
  ⟨sound_start, rfl, rfl, fun which => DlOpenLib.idle_new which.api⟩

/-- Where nothing is initialised, `SCF_Init` is `OpenSSLAdaptor::Init`, and sets the global variables
if that succeeds. -/
theorem scfInit_of_not_init (hinit : p.scfInitialized = false) (htls : p.isTlsInit = false)
    (host : Host OpensslFun) (settings : Option CString) :
    p.scfInit host initFlagOpenssl settings =
      (p.adaptorInit host settings).map fun out =>
        if out.1 = .success then
          (.success, { out.2 with isTlsInit := true, adaptor := true, scfInitialized := true })
        else out := by
  cases hadaptor : p.adaptorInit host settings with
  | error fault =>
    simp [scfInit, scfInitInner, registerTlsAdaptor, hinit, htls, hadaptor, bind, Except.bind,
      Except.map]
  | ok out =>
    by_cases hret : out.1 = .success
    · simp [scfInit, scfInitInner, registerTlsAdaptor, hinit, htls, hadaptor, hret, bind,
        Except.bind, Except.map]
    · simp [scfInit, scfInitInner, registerTlsAdaptor, hinit, htls, hadaptor, hret, bind,
        Except.bind, Except.map]

/-- Where all is initialised, `SCF_DeInit` is `OpenSSLAdaptor::DeInit`, and resets the global
variables. -/
theorem scfDeInit_of_init (h : p.Invariant) (hinit : p.scfInitialized = true) :
    p.scfDeInit = { p.adaptorDeInit with
      adaptor := false, isTlsInit := false, scfInitialized := false } := by
  have htls : p.isTlsInit = true := h.isTlsInit.trans hinit
  have hadaptor : p.adaptor = true := h.adaptor.trans hinit
  simp [scfDeInit, scfDeInitInner, unRegisterTlsAdaptor, hinit, htls, hadaptor]

/-- The code of `SCF_Init`. -/
def initCode (initialized : Bool) (host : Host OpensslFun) (flag : UInt64)
    (settings : Option CString) : Errno :=
  if initialized then .success
  else if flag ≠ initFlagOpenssl then .invalidParam
  else adaptorOutcome host settings

theorem scfInit_spec (h : p.Invariant) (host : Host OpensslFun) (flag : UInt64)
    (settings : Option CString) :
    ∃ p', p.scfInit host flag settings = .ok (initCode p.scfInitialized host flag settings, p') ∧
      p'.Invariant ∧
      p'.scfInitialized = decide (initCode p.scfInitialized host flag settings = .success) := by
  by_cases hinit : p.scfInitialized = true
  · exact ⟨p, by simp [scfInit, initCode, hinit], h, by simp [initCode, hinit]⟩
  rw [Bool.not_eq_true] at hinit
  by_cases hflag : flag = initFlagOpenssl
  swap
  · exact ⟨p, by simp [scfInit, initCode, hinit, hflag], h, by simp [initCode, hinit, hflag]⟩
  have htls : p.isTlsInit = false := h.isTlsInit.trans hinit
  have hidle := h.loaded
  rw [hinit, if_neg (by decide)] at hidle
  obtain ⟨p', hadaptor, hsound, hflags, hloaded⟩ := adaptorInit_spec h.sound hidle host settings
  have hcode : initCode p.scfInitialized host flag settings = adaptorOutcome host settings := by
    simp [initCode, hinit, hflag]
  obtain ⟨hinit', htls', hadapt'⟩ : p'.scfInitialized = false ∧ p'.isTlsInit = false ∧
      p'.adaptor = false := by
    simpa [flags, hinit, htls, h.adaptor] using hflags
  rw [hcode, hflag, scfInit_of_not_init hinit htls, hadaptor, Except.map]
  by_cases hret : adaptorOutcome host settings = .success
  · rw [if_pos hret] at hloaded
    refine ⟨{ p' with isTlsInit := true, adaptor := true, scfInitialized := true }, ?_, ?_, ?_⟩
    · rw [if_pos hret, hret]
    · exact ⟨⟨hsound.exact, hsound.ledger, hsound.tidy, hsound.rooted⟩, rfl, rfl, hloaded⟩
    · simp [hret]
  · rw [if_neg hret] at hloaded
    refine ⟨p', ?_, ⟨hsound, ?_, ?_, ?_⟩, ?_⟩
    · rw [if_neg hret]
    · rw [htls', hinit']
    · rw [hadapt', hinit']
    · rw [hinit']
      exact hloaded
    · simp [hret, hinit']

theorem scfDeInit_spec (h : p.Invariant) :
    p.scfDeInit.Invariant ∧ p.scfDeInit.scfInitialized = false := by
  by_cases hinit : p.scfInitialized = true
  · obtain ⟨hsound, hidle, -⟩ := adaptorDeInit_spec h.sound
    rw [scfDeInit_of_init h hinit]
    exact ⟨⟨⟨hsound.exact, hsound.ledger, hsound.tidy, hsound.rooted⟩, rfl, rfl, hidle⟩, rfl⟩
  · rw [Bool.not_eq_true] at hinit
    have heq : p.scfDeInit = p := by simp [scfDeInit, hinit]
    rw [heq]
    exact ⟨h, hinit⟩

/-- `OpenSSLAdaptor::Init` clears the engine if it fails behind its first check. -/
theorem adaptorInit_engine {host : Host OpensslFun} {settings : Option CString} {ret : Errno}
    {p' : Libraries} (h : p.adaptorInit host settings = .ok (ret, p')) :
    p'.cryptoEngine = if settings = none ∨ ret = .success then p.cryptoEngine else none := by
  cases settings with
  | none =>
    cases h
    simp
  | some libPath =>
    cases hcrypto : Loading.init libCryptoApi host libPath.bytes (p.loading .crypto) with
    | error fault => simp [adaptorInit, hcrypto, bind, Except.bind] at h
    | ok cryptoResult =>
      obtain ⟨ret₁, s₁⟩ := cryptoResult
      simp only [adaptorInit, hcrypto, bind, Except.bind] at h
      by_cases hret₁ : ret₁ = .success
      · rw [if_neg (not_not_intro hret₁)] at h
        cases hssl : Loading.init libSslApi host libPath.bytes
            ((p.put .crypto s₁).loading .ssl) with
        | error fault => simp [hssl] at h
        | ok sslResult =>
          obtain ⟨ret₂, s₂⟩ := sslResult
          simp only [hssl] at h
          by_cases hret₂ : ret₂ = .success
          · rw [if_neg (not_not_intro hret₂)] at h
            cases h
            simp [put]
          · rw [if_pos hret₂] at h
            cases h
            simp [hret₂, adaptorDeInit, put]
      · rw [if_pos hret₁] at h
        cases h
        simp [hret₁, adaptorDeInit, put]

/-- `SCF_Init` clears the engine if it fails in `OpenSSLAdaptor::Init`. -/
theorem scfInit_engine (hinv : p.Invariant) {host : Host OpensslFun} {flag : UInt64}
    {settings : Option CString} {ret : Errno} {p' : Libraries}
    (h : p.scfInit host flag settings = .ok (ret, p')) :
    p'.cryptoEngine =
      if ret = .success ∨ flag ≠ initFlagOpenssl ∨ settings = none then p.cryptoEngine
      else none := by
  by_cases hinit : p.scfInitialized = true
  · rw [scfInit, if_pos hinit] at h
    cases h
    simp
  by_cases hflag : flag = initFlagOpenssl
  swap
  · rw [scfInit, if_neg hinit, if_pos hflag] at h
    cases h
    simp [hflag]
  rw [Bool.not_eq_true] at hinit
  subst hflag
  rw [scfInit_of_not_init hinit (hinv.isTlsInit.trans hinit)] at h
  cases hadaptor : p.adaptorInit host settings with
  | error fault =>
    rw [hadaptor] at h
    cases h
  | ok out =>
    have hengine := adaptorInit_engine hadaptor
    rw [hadaptor, Except.map] at h
    by_cases hret : out.1 = .success
    · rw [if_pos hret] at h
      cases h
      simpa [hret] using hengine
    · rw [if_neg hret] at h
      cases h
      simpa [hret] using hengine

/-- `SCF_DeInit` clears the engine. -/
theorem scfDeInit_engine (hinv : p.Invariant) :
    p.scfDeInit.cryptoEngine = if p.scfInitialized then none else p.cryptoEngine := by
  by_cases hinit : p.scfInitialized = true
  · rw [scfDeInit_of_init hinv hinit, if_pos hinit]
    rfl
  · simp [scfDeInit, hinit]

/-- **Step rule**: every call keeps the invariant, and none faults. -/
theorem Invariant.apply (h : p.Invariant) (call : LibraryCall) :
    (∃ ret, (call.apply p).1 = .ok ret) ∧ (call.apply p).2.Invariant := by
  cases call with
  | scfInit host flag settings =>
    obtain ⟨p', hinit, hinv, -⟩ := scfInit_spec h host flag settings
    simp only [LibraryCall.apply, hinit]
    exact ⟨⟨_, rfl⟩, hinv⟩
  | scfDeInit => exact ⟨⟨_, rfl⟩, (scfDeInit_spec h).1⟩
  | setCryptoEngine engine =>
    exact ⟨⟨_, rfl⟩, ⟨⟨h.sound.exact, h.sound.ledger, h.sound.tidy, h.sound.rooted⟩, h.isTlsInit,
      h.adaptor, h.loaded⟩⟩

theorem invariant_after (calls : List LibraryCall) :
    (libraryMachine.after {} calls).Invariant :=
  Machine.Reachable.invariant (fun _ hp => hp ▸ invariant_start)
    (fun _ call h => (h.apply call).2) (.after (.initial rfl) calls)

end Libraries

open Libraries

/-- In every run of `SCF_Init` and `SCF_DeInit` no call faults, the global variables agree between
the calls, and both libraries are loaded, with all their functions in the objects that are open, or
none is. -/
theorem library_run_loaded (calls : List LibraryCall) :
    (∀ answer ∈ libraryMachine.answers {} calls, ∃ ret, answer = .ok ret) ∧
      (libraryMachine.after {} calls).Invariant := by
  refine ⟨?_, invariant_after calls⟩
  suffices h : ∀ p : Libraries, p.Invariant →
      ∀ answer ∈ libraryMachine.answers p calls, ∃ ret, answer = .ok ret from h _ invariant_start
  intro p hp
  induction calls generalizing p with
  | nil => nofun
  | cons call calls ih =>
    intro answer hmem
    rcases List.mem_cons.mp hmem with rfl | hmem
    · exact (hp.apply call).1
    · exact ih _ (hp.apply call).2 answer hmem

theorem step_scfInit (calls : List LibraryCall) (host : Host OpensslFun) (flag : UInt64)
    (settings : Option CString) :
    let p := libraryMachine.after {} calls
    (libraryMachine.step p (.scfInit host flag settings)).1 =
        .ok (initCode p.scfInitialized host flag settings) ∧
      (libraryMachine.step p (.scfInit host flag settings)).2.scfInitialized =
        decide (initCode p.scfInitialized host flag settings = .success) := by
  intro p
  obtain ⟨q, hinit, -, hq⟩ := scfInit_spec (invariant_after calls) host flag settings
  have hstep : libraryMachine.step p (.scfInit host flag settings) =
      (.ok (initCode p.scfInitialized host flag settings), q) := by
    show LibraryCall.apply (.scfInit host flag settings) p = _
    rw [LibraryCall.apply, hinit]
  rw [hstep]
  exact ⟨rfl, hq⟩

/-- The code of `SCF_Init` does not depend on the calls before it, unless they have left the library
initialised: without a path, or if a library cannot be opened, it is `SCF_ERRNO_LOAD_LIB`, and so
on. Afterwards the library is initialised just if the code is `SCF_SUCCESS`. -/
theorem scfInit_code (calls : List LibraryCall) (host : Host OpensslFun) (flag : UInt64)
    (settings : Option CString) :
    let p := libraryMachine.after {} calls
    let p' := libraryMachine.after {} (calls ++ [.scfInit host flag settings])
    libraryMachine.answers p [.scfInit host flag settings] =
        [.ok (initCode p.scfInitialized host flag settings)] ∧
      (p'.scfInitialized = true ↔ initCode p.scfInitialized host flag settings = .success) := by
  intro p p'
  obtain ⟨hanswer, hinit⟩ := step_scfInit calls host flag settings
  have hp' : p' = (libraryMachine.step p (.scfInit host flag settings)).2 := by
    show libraryMachine.after {} (calls ++ [.scfInit host flag settings]) = _
    rw [Machine.after_append]
    rfl
  rw [hp', hinit, decide_eq_true_eq]
  refine ⟨?_, Iff.rfl⟩
  rw [Machine.answers, hanswer, Machine.answers]

/-- The process as the interface functions see it: the global variables, and the engine of the
adaptor. -/
structure LibraryState where
  globals : Globals := .start
  cryptoEngine : Option Address := none

/-- The calls on this state alone. -/
def globalsMachine : Machine LibraryState LibraryCall Errno where
  initial v := v = {}
  step v
    | .scfInit host flag settings =>
      let (ret, globals) := v.globals.scfInit flag (adaptorOutcome host settings)
      -- `OpenSSLAdaptor::Init` clears the engine if it fails, but for a missing path
      (ret, ⟨globals, if ret = .success ∨ flag ≠ initFlagOpenssl ∨ settings = none
        then v.cryptoEngine else none⟩)
    | .scfDeInit =>
      (.success, ⟨v.globals.scfDeInit, if v.globals.scfInitialized then none else v.cryptoEngine⟩)
    | .setCryptoEngine engine => (.success, { v with cryptoEngine := engine })

/-- The global variables and the engine of the two levels. -/
structure Libraries.Shows (p : Libraries) (v : LibraryState) : Prop where
  flags : p.flags = (v.globals.scfInitialized, v.globals.isTlsInit, v.globals.adaptor)
  cryptoEngine : p.cryptoEngine = v.cryptoEngine

/-- Between two calls the global variables agree. -/
theorem Libraries.Invariant.flags_eq {p : Libraries} (h : p.Invariant) :
    p.flags = (p.scfInitialized, p.scfInitialized, p.scfInitialized) := by
  rw [Libraries.flags, h.isTlsInit, h.adaptor]

/-- `SCF_Init` on global variables that agree: they agree afterwards, and show whether it has
succeeded. -/
theorem globals_scfInit {g : Globals} {initialized : Bool}
    (hg : (g.scfInitialized, g.isTlsInit, g.adaptor) = (initialized, initialized, initialized))
    (host : Host OpensslFun) (flag : UInt64) (settings : Option CString) :
    let out := g.scfInit flag (adaptorOutcome host settings)
    let ok := decide (initCode initialized host flag settings = .success)
    out.1 = initCode initialized host flag settings ∧
      (out.2.scfInitialized, out.2.isTlsInit, out.2.adaptor) = (ok, ok, ok) := by
  simp only [Prod.mk.injEq] at hg
  obtain ⟨hinit, htls, hadaptor⟩ := hg
  simp only [Globals.scfInit, initCode, hinit, htls]
  by_cases h₁ : initialized = true
  · simp [h₁, hinit, htls, hadaptor]
  by_cases h₂ : flag = initFlagOpenssl
  swap
  · simp [h₁, h₂, hinit, htls, hadaptor]
  by_cases h₃ : adaptorOutcome host settings = .success
  · simp [h₁, h₂, h₃]
  · simp [h₁, h₂, h₃, hinit, htls, hadaptor]

theorem globals_scfDeInit {g : Globals} {initialized : Bool}
    (hg : (g.scfInitialized, g.isTlsInit, g.adaptor) = (initialized, initialized, initialized)) :
    (g.scfDeInit.scfInitialized, g.scfDeInit.isTlsInit, g.scfDeInit.adaptor) =
      (false, false, false) := by
  simp only [Prod.mk.injEq] at hg
  obtain ⟨hinit, htls, hadaptor⟩ := hg
  by_cases h₁ : initialized = true
  · simp [Globals.scfDeInit, hinit, htls, hadaptor, h₁]
  · simp [Globals.scfDeInit, hinit, htls, hadaptor, h₁]

/-- A call does the same on both levels. -/
theorem apply_shows {p : Libraries} {v : LibraryState} (hinv : p.Invariant) (hshows : p.Shows v)
    (call : LibraryCall) :
    (call.apply p).1 = .ok (globalsMachine.step v call).1 ∧
      (call.apply p).2.Shows (globalsMachine.step v call).2 := by
  obtain ⟨g, engine⟩ := v
  obtain ⟨hshown, hengine⟩ := hshows
  have hg : (g.scfInitialized, g.isTlsInit, g.adaptor) =
      (p.scfInitialized, p.scfInitialized, p.scfInitialized) := hshown.symm.trans hinv.flags_eq
  cases call with
  | scfInit host flag settings =>
    obtain ⟨p', hinit, hinv', hinit'⟩ := scfInit_spec hinv host flag settings
    obtain ⟨hcode, hglobals⟩ := globals_scfInit hg host flag settings
    simp only [LibraryCall.apply, hinit, globalsMachine, hcode]
    refine ⟨trivial, ?_, ?_⟩
    · rw [hinv'.flags_eq, hinit', hglobals]
    · rw [scfInit_engine hinv hinit, hengine]
  | scfDeInit =>
    obtain ⟨hinv', hinit'⟩ := scfDeInit_spec hinv
    have hsame : g.scfInitialized = p.scfInitialized := congrArg Prod.fst hg
    refine ⟨rfl, ?_, ?_⟩
    · show p.scfDeInit.flags = _
      rw [hinv'.flags_eq, hinit', globalsMachine, globals_scfDeInit hg]
    · simp only [LibraryCall.apply, globalsMachine, scfDeInit_engine hinv, hsame]
      rw [hengine]
  | setCryptoEngine engine => exact ⟨rfl, hshown, rfl⟩

/-- The process-wide state that the interface functions look at is a faithful abstraction: a run on
the global variables and the engine alone, with the codes of `OpenSSLAdaptor::Init` given, answers
every call as the run that loads and unloads the libraries does, and ends with the same values. -/
theorem library_run_simulates_globals (calls : List LibraryCall) :
    libraryMachine.answers {} calls = (globalsMachine.answers {} calls).map .ok ∧
      (libraryMachine.after {} calls).Shows (globalsMachine.after {} calls) := by
  have hrun := Machine.simulation (M := libraryMachine) (N := globalsMachine) (f := .ok)
    (R := fun p v => p.Invariant ∧ p.Shows v) (t := {})
    (fun p v call h => ⟨(apply_shows h.1 h.2 call).1, (h.1.apply call).2,
      (apply_shows h.1 h.2 call).2⟩) ⟨invariant_start, rfl, rfl⟩ calls
  exact ⟨hrun.1, hrun.2.2⟩

/-! ### Handles -/

/-- In every run each handle that `dlopen` has returned is passed to `dlclose` at most once, and the
handles that have not been passed to it are those the libraries hold. While the library is not
initialised there are none. -/
theorem library_run_closed (calls : List LibraryCall) :
    let p := libraryMachine.after {} calls
    p.linker.closed.Nodup ∧
      (∀ handle, handle ∈ p.linker.closed ↔
        handle < p.linker.objects.size ∧ ∀ which, (p.lib which).libptr ≠ some handle) ∧
      (p.scfInitialized = false → p.linker.closed.Perm (List.range p.linker.objects.size)) := by
  intro p
  have h : p.Invariant := invariant_after calls
  obtain ⟨owner, hledger⟩ := h.sound.ledger
  have hiff : ∀ handle, handle ∈ p.linker.closed ↔
      handle < p.linker.objects.size ∧ ∀ which, (p.lib which).libptr ≠ some handle := by
    intro handle
    rw [h.sound.exact.mem_closed_iff]
    refine and_congr_right fun _ => ⟨fun hread which hptr => h.sound.live which handle hptr hread,
      fun hno => ?_⟩
    by_contra hread
    have hheld := hledger.held handle hread
    match howner : owner handle with
    | 0 => exact hno .crypto (by rwa [howner] at hheld)
    | 1 => exact hno .ssl (by rwa [howner] at hheld)
    | _ + 2 =>
      rw [howner] at hheld
      cases hheld
  refine ⟨h.sound.exact.nodup, hiff, fun hinit => ?_⟩
  have hidle := h.loaded
  rw [hinit, if_neg (by decide)] at hidle
  refine (List.perm_ext_iff_of_nodup h.sound.exact.nodup List.nodup_range).mpr fun handle => ?_
  rw [hiff, List.mem_range]
  refine and_iff_left fun which hptr => ?_
  rw [(hidle which).libptr] at hptr
  cases hptr

/-! ### Functions -/

/-- A function that `LibCryptoApi` calls from version 3 on, and `EVP_PKEY_CTX_ctrl` in its place
before: the name of the function that is called, and the object it is found in. -/
def Libraries.versioned (name : OpensslFun) (p : Libraries) :
    Except DlFault (OpensslFun × SharedObject OpensslFun) :=
  if (p.lib .crypto).versionNum ≥ sslVersion3X then do
    let object ← p.linker.call ((p.lib .crypto).funs name)
    .ok (name, object)
  else do
    let object ← p.linker.call ((p.lib .crypto).funs .EVP_PKEY_CTX_ctrl)
    .ok (.EVP_PKEY_CTX_ctrl, object)

namespace LibCryptoApi

def setEcParamGenCurveNid := Libraries.versioned .EVP_PKEY_CTX_set_ec_paramgen_curve_nid
def setHkdfMd := Libraries.versioned .EVP_PKEY_CTX_set_hkdf_md
def setHkdfSalt := Libraries.versioned .EVP_PKEY_CTX_set1_hkdf_salt
def setHkdfKey := Libraries.versioned .EVP_PKEY_CTX_set1_hkdf_key
def setHkdfMode := Libraries.versioned .EVP_PKEY_CTX_set_hkdf_mode
def addHkdfInfo := Libraries.versioned .EVP_PKEY_CTX_add1_hkdf_info

/-- The functions above. -/
def versionedCalls : List (Libraries → Except DlFault (OpensslFun × SharedObject OpensslFun)) :=
  [setEcParamGenCurveNid, setHkdfMd, setHkdfSalt, setHkdfKey, setHkdfMode, addHkdfInfo]

end LibCryptoApi

/-- A library that is loaded has all functions of its version. -/
theorem Loading.Ready.call {api : LibApi} {s : Loading OpensslFun} {handle : ℕ}
    {object : SharedObject OpensslFun} (h : Loading.Ready api s handle object)
    {name field : OpensslFun} (hmem : (name, field) ∈ api.lookups object.versionNum) :
    s.linker.call (s.lib.funs field) = .ok object := by
  rw [h.funs _ hmem]
  exact Linker.call_some h.read

/-- Each of the functions is in the table of the versions it is called for. -/
theorem versioned_mem_lookups {call : Libraries → Except DlFault (OpensslFun × SharedObject OpensslFun)}
    (hcall : call ∈ LibCryptoApi.versionedCalls) :
    ∃ name, call = versioned name ∧ ∀ versionNum,
      if versionNum ≥ sslVersion3X then (name, name) ∈ libCryptoApi.lookups versionNum
      else (.EVP_PKEY_CTX_ctrl, .EVP_PKEY_CTX_ctrl) ∈ libCryptoApi.lookups versionNum := by
  have hnew : ∀ name ∈ LibCryptoApi.pkeyNames3X, ∀ versionNum, versionNum ≥ sslVersion3X →
      (name, name) ∈ libCryptoApi.lookups versionNum := by
    intro name hname versionNum hv
    refine List.mem_cons_of_mem _ (List.mem_append_right _ (List.mem_append_right _ ?_))
    rw [if_pos hv]
    exact List.mem_map_of_mem hname
  have hold : ∀ versionNum, (.EVP_PKEY_CTX_ctrl, .EVP_PKEY_CTX_ctrl) ∈
      libCryptoApi.lookups versionNum := by
    intro versionNum
    refine List.mem_cons_of_mem _ (List.mem_append_right _ (List.mem_append_left _ ?_))
    exact List.mem_map_of_mem (f := connectorSelfDlsym) (by decide)
  have hname : ∃ name ∈ LibCryptoApi.pkeyNames3X, call = versioned name := by
    simp only [LibCryptoApi.versionedCalls, List.mem_cons, List.not_mem_nil, or_false] at hcall
    rcases hcall with rfl | rfl | rfl | rfl | rfl | rfl
    all_goals exact ⟨_, by decide, rfl⟩
  obtain ⟨name, hmem, rfl⟩ := hname
  refine ⟨name, rfl, fun versionNum => ?_⟩
  split_ifs with hv
  · exact hnew name hmem versionNum hv
  · exact hold versionNum

namespace Libraries

variable {p : Libraries}

theorem Invariant.loaded_of_init (h : p.Invariant) (hinit : p.scfInitialized = true)
    (which : OpensslLib) : p.Loaded which := by
  have hloaded := h.loaded
  rw [if_pos hinit] at hloaded
  exact hloaded which

theorem Invariant.idle_of_not_init (h : p.Invariant) (hinit : p.scfInitialized = false) :
    p.AllIdle := by
  have hloaded := h.loaded
  rwa [hinit, if_neg (by decide)] at hloaded

/-- The one member that can have a function while the library is not initialised. -/
theorem AllIdle.eq_versionNum (h : p.AllIdle) {which : OpensslLib} {field : OpensslFun}
    (hne : (p.lib which).funs field ≠ none) : which = .ssl ∧ field = .OpenSSL_version_num := by
  obtain ⟨rfl, hreset⟩ := (h which).funs field hne
  cases which with
  | crypto => exact absurd versionNum_mem_resets.1 hreset
  | ssl => exact ⟨rfl, rfl⟩

/-- A function that is left over is in an object that was closed. -/
theorem Sound.call_of_idle (h : p.Sound) (hidle : p.AllIdle) (which : OpensslLib)
    (field : OpensslFun) :
    p.linker.call ((p.lib which).funs field) =
      if (p.lib which).funs field = none then .error .noFunction else .error .unloaded := by
  cases hfun : (p.lib which).funs field with
  | none => rfl
  | some symbol =>
    have hptr : (p.loading which).lib.libptr = none := (hidle which).libptr
    have hclosed := (h.rooted which field symbol hfun).resolve_left (by rw [hptr]; nofun)
    rw [if_neg nofun, Linker.call, ((h.exact.mem_closed_iff _).mp hclosed).2]

/-- Each function that chooses by the version finds the one it chooses. -/
theorem Loaded.versioned (h : p.Loaded .crypto)
    {call : Libraries → Except DlFault (OpensslFun × SharedObject OpensslFun)}
    (hcall : call ∈ LibCryptoApi.versionedCalls) :
    ∃ name object, call p = .ok (name, object) ∧ object.exports name = true := by
  obtain ⟨handle, object, hready⟩ := h
  obtain ⟨name, rfl, hmem⟩ := versioned_mem_lookups hcall
  specialize hmem object.versionNum
  have hversion : (p.lib .crypto).versionNum = object.versionNum := hready.versionNum
  rw [Libraries.versioned, hversion]
  split_ifs at hmem ⊢
  · have hok : p.linker.call ((p.lib .crypto).funs name) = .ok object := hready.call hmem
    exact ⟨name, object, by rw [hok]; rfl, hready.exports _ hmem⟩
  · have hok : p.linker.call ((p.lib .crypto).funs .EVP_PKEY_CTX_ctrl) = .ok object :=
      hready.call hmem
    exact ⟨.EVP_PKEY_CTX_ctrl, object, by rw [hok]; rfl, hready.exports _ hmem⟩

end Libraries

/-- In every run, while the library is initialised, a call through any member that its version of
OpenSSL has runs in the object that is open and exports the name it was found by, and so do the
functions that choose by the version.
While it is not initialised every call through a member faults: there is no function, but for the
version number of `LibSslApi`, which is never reset and then is one of an object that was closed. -/
theorem library_run_functions (calls : List LibraryCall) :
    let p := libraryMachine.after {} calls
    if p.scfInitialized then
      (∀ which, ∃ handle object, (p.lib which).libptr = some handle ∧
        p.linker.objects.read handle = some object ∧
        ∀ pair ∈ which.api.lookups object.versionNum,
          p.linker.call ((p.lib which).funs pair.2) = .ok object ∧
            object.exports pair.1 = true) ∧
      ∀ call ∈ LibCryptoApi.versionedCalls, ∃ name object,
        call p = .ok (name, object) ∧ object.exports name = true
    else
      (∀ which field, p.linker.call ((p.lib which).funs field) =
        if (p.lib which).funs field = none then .error .noFunction else .error .unloaded) ∧
      (∀ which field, (p.lib which).funs field ≠ none →
        which = .ssl ∧ field = .OpenSSL_version_num) ∧
      ∀ call ∈ LibCryptoApi.versionedCalls, call p = .error .noFunction := by
  intro p
  have h : p.Invariant := invariant_after calls
  split_ifs with hinit
  · refine ⟨fun which => ?_, fun call hcall => (h.loaded_of_init hinit .crypto).versioned hcall⟩
    obtain ⟨handle, object, hready⟩ := h.loaded_of_init hinit which
    exact ⟨handle, object, hready.libptr, hready.read,
      fun pair hpair => ⟨hready.call hpair, hready.exports pair hpair⟩⟩
  · have hidle := h.idle_of_not_init (Bool.eq_false_iff.mpr hinit)
    refine ⟨h.sound.call_of_idle hidle, fun _ _ => hidle.eq_versionNum, fun call hcall => ?_⟩
    obtain ⟨name, rfl, -⟩ := versioned_mem_lookups hcall
    have hctrl : (p.lib .crypto).funs .EVP_PKEY_CTX_ctrl = none := by
      by_contra hne
      exact absurd (hidle.eq_versionNum hne).1 (by decide)
    rw [versioned, (hidle .crypto).versionNum, if_neg (by decide), hctrl]
    rfl

/-- `OpenSSLAdaptor::DeInit` does not reset the version number of `LibSslApi`. -/
theorem Libraries.adaptorDeInit_versionNum (p : Libraries) :
    (p.adaptorDeInit.lib .ssl).funs .OpenSSL_version_num =
      (p.lib .ssl).funs .OpenSSL_version_num := by
  rw [adaptorDeInit, put_lib_self, Loading.unInit_funs, if_neg versionNum_mem_resets.2]
  rfl

/-- A host with OpenSSL 3 in every directory. -/
def opensslHost : Host OpensslFun where
  fs := ⟨some, fun _ => some ⟨true, 1⟩, fun _ => true, fun _ => none⟩
  dlopen _ := some ⟨fun _ => true, sslVersion3X, sslSuccess⟩

def opensslDir : CString := ⟨ascii "/usr/lib64", by decide⟩

theorem scfInitialized_opensslHost :
    (libraryMachine.after {} [.scfInit opensslHost initFlagOpenssl (some opensslDir)]).scfInitialized
      = true :=
  (step_scfInit [] opensslHost initFlagOpenssl (some opensslDir)).2.trans (by decide)

end Scf
