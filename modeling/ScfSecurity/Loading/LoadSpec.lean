import ScfSecurity.Library.Custody
import ScfSecurity.Loading.OpensslApi

/-!
# Loading one library

What `Init` and `UnInit` of a library come to, from any state that earlier calls can have left: a
library is loaded completely or not at all, and its handle is closed once.

## Main definitions

- `LibApi.outcome`: the code of `Init`, from the host alone
- `Linker.Exact`, `Loading.Moves`: the accounts of the linker, and a step that keeps them
- `Loading.Ready`, `DlOpenLib.Idle`: a library that is loaded, or not

## Main results

- `Loading.unInit_spec`, `Loading.init_spec`
-/

namespace Scf

open Automaton

/-! ### The accounts of the linker -/

namespace Linker

variable {ν : Type} {l : Linker ν}

/-- The handles that have been passed to `dlclose` are those whose shared objects are not open any
more, and each has been passed once. -/
structure Exact (l : Linker ν) : Prop where
  nodup : l.closed.Nodup
  mem_closed_iff : ∀ handle, handle ∈ l.closed ↔
    handle < l.objects.size ∧ l.objects.read handle = none

theorem exact_start : ({} : Linker ν).Exact := by
  refine ⟨List.nodup_nil, fun handle => ?_⟩
  simp [Heap.size]

theorem Exact.alloc (h : l.Exact) (object : SharedObject ν) :
    ({ l with objects := (l.objects.alloc object).2 } : Linker ν).Exact := by
  refine ⟨h.nodup, fun handle => ?_⟩
  show handle ∈ l.closed ↔ _
  rw [h.mem_closed_iff, Heap.size_alloc, Heap.read_alloc, Heap.alloc_fst]
  by_cases hnew : handle = l.objects.size
  · simp [hnew]
  · rw [if_neg hnew]
    exact and_congr_left fun _ => ⟨fun hlt => by omega, fun hlt => by omega⟩

theorem Exact.dlclose (h : l.Exact) {handle : ℕ} (hlive : l.objects.read handle ≠ none) :
    (l.dlclose handle).Exact := by
  have hopen : handle ∉ l.closed := fun hmem => hlive ((h.mem_closed_iff handle).mp hmem).2
  refine ⟨?_, fun other => ?_⟩
  · show (l.closed ++ [handle]).Nodup
    exact List.nodup_append.mpr ⟨h.nodup, by simp, fun a ha b hb => by
      rintro rfl
      exact hopen (List.mem_singleton.mp hb ▸ ha)⟩
  · show other ∈ l.closed ++ [handle] ↔ other < (l.objects.free handle).size ∧ _
    rw [List.mem_append, List.mem_singleton, h.mem_closed_iff, Heap.size_free]
    show _ ↔ _ ∧ (l.objects.free handle).read other = none
    rw [Heap.read_free]
    by_cases heq : handle = other
    · subst heq
      simp [Heap.lt_size_of_read hlive]
    · simp [heq, Ne.symm heq]

end Linker

namespace Loading

variable {s s' s'' : Loading OpensslFun} {api : LibApi}

/-- The handle of the library is one of an open shared object. -/
def Live (s : Loading OpensslFun) : Prop :=
  ∀ handle, s.lib.libptr = some handle → s.linker.objects.read handle ≠ none

/-- A step of one library: it closes the handle that it gives up, keeps the one that it opens, and
leaves those of others alone. -/
structure Moves (s s' : Loading OpensslFun) : Prop where
  trades : Heap.Trades id s.lib.libptr s'.lib.libptr s.linker.objects s'.linker.objects
  exact : s.linker.Exact → s'.linker.Exact
  closed : s.linker.closed ⊆ s'.linker.closed

theorem Moves.live (h : Moves s s') : s'.Live := fun handle hptr => (h.trades.kept handle hptr).1

theorem Moves.trans (h : Moves s s') (h' : Moves s' s'') : Moves s s'' :=
  ⟨h.trades.trans h'.trades, fun he => h'.exact (h.exact he), List.Subset.trans h.closed h'.closed⟩

theorem Moves.of_eq (hlive : s.Live) (hlinker : s'.linker = s.linker)
    (hptr : s'.lib.libptr = s.lib.libptr) : Moves s s' := by
  refine ⟨?_, fun he => hlinker ▸ he, by rw [hlinker]; exact List.Subset.refl _⟩
  rw [hptr, hlinker]
  exact .refl hlive

/-! ### A library that is loaded, or not -/

/-- Every function that a member has is in the object that is open, or in one that was closed. -/
def Rooted (s : Loading OpensslFun) : Prop :=
  ∀ field symbol, s.lib.funs field = some symbol →
    s.lib.libptr = some symbol.handle ∨ symbol.handle ∈ s.linker.closed

end Loading

/-- Only members that are looked up ever have a function. -/
def DlOpenLib.Tidy (api : LibApi) (lib : DlOpenLib OpensslFun) : Prop :=
  ∀ field, lib.funs field ≠ none → field ∈ api.resets ∨ field = .OpenSSL_version_num

/-- A library that is not loaded: it has no handle and no function, but for one that is never
reset. -/
structure DlOpenLib.Idle (api : LibApi) (lib : DlOpenLib OpensslFun) : Prop where
  libptr : lib.libptr = none
  funCache : lib.funCache = []
  versionNum : lib.versionNum = 0
  funs : ∀ field, lib.funs field ≠ none → field = .OpenSSL_version_num ∧ field ∉ api.resets

theorem DlOpenLib.idle_new (api : LibApi) : ({} : DlOpenLib OpensslFun).Idle api :=
  ⟨rfl, rfl, rfl, fun _ hne => absurd rfl hne⟩

theorem DlOpenLib.Idle.tidy {api : LibApi} {lib : DlOpenLib OpensslFun} (h : lib.Idle api) :
    lib.Tidy api := fun field hne => .inr (h.funs field hne).1

namespace Loading

variable {s s' s'' : Loading OpensslFun} {api : LibApi}

/-- A library that is loaded: its handle is open, and every function for the version of the object
has been found in it. -/
structure Ready (api : LibApi) (s : Loading OpensslFun) (handle : ℕ)
    (object : SharedObject OpensslFun) : Prop where
  libptr : s.lib.libptr = some handle
  read : s.linker.objects.read handle = some object
  versionNum : s.lib.versionNum = object.versionNum
  initRet : object.initRet = sslSuccess
  exports : ∀ pair ∈ api.lookups object.versionNum, object.exports pair.1 = true
  funs : ∀ pair ∈ api.lookups object.versionNum, s.lib.funs pair.2 = some ⟨handle, pair.1⟩
  others : ∀ field, field ∉ (api.lookups object.versionNum).map Prod.snd → s.lib.funs field = none

theorem Ready.live {handle : ℕ} {object : SharedObject OpensslFun}
    (h : Ready api s handle object) : s.Live := by
  intro other hother
  obtain rfl := Option.some.inj (h.libptr.symm.trans hother)
  rw [h.read]
  nofun

theorem Ready.tidy (hapi : api.WellFormed) {handle : ℕ} {object : SharedObject OpensslFun}
    (h : Ready api s handle object) : s.lib.Tidy api := by
  intro field hne
  by_contra hno
  refine hne (h.others field fun hmem => hno ?_)
  obtain ⟨pair, hpair, rfl⟩ := List.mem_map.mp hmem
  rcases List.mem_cons.mp hpair with rfl | hpair
  · exact .inr rfl
  · exact .inl (hapi.reset _ _ hpair)

/-! ### Unloading -/

theorem unInit_funs (api : LibApi) (s : Loading OpensslFun) (field : OpensslFun) :
    (unInit api s).lib.funs field = if field ∈ api.resets then none else s.lib.funs field := by
  simp only [unInit, selfDlClose, unLoadAll, DlOpenLib.resetAll]
  split <;> rfl

/-- `UnInit` of a library in any state leaves it unloaded. -/
theorem unInit_spec (htidy : s.lib.Tidy api) (hlive : s.Live) :
    (unInit api s).lib.Idle api ∧ Moves s (unInit api s) ∧
      (s.linker.Exact → s.Rooted → (unInit api s).Rooted) := by
  have hptr : (unInit api s).lib.libptr = none := by
    simp only [unInit, selfDlClose]
    split
    · assumption
    · rfl
  have hmoves : Moves s (unInit api s) := by
    cases hs : s.lib.libptr with
    | none =>
      refine .of_eq hlive ?_ (by rw [hptr, hs])
      simp only [unInit, selfDlClose, unLoadAll, DlOpenLib.resetAll, hs]
    | some handle =>
      have hlinker : (unInit api s).linker = s.linker.dlclose handle := by
        simp only [unInit, selfDlClose, unLoadAll, DlOpenLib.resetAll, hs]
      refine ⟨?_, fun he => ?_, ?_⟩
      · rw [hptr, hs, hlinker]
        exact .free id handle _
      · rw [hlinker]
        exact he.dlclose (hlive handle hs)
      · rw [hlinker]
        exact List.subset_append_left _ _
  refine ⟨⟨hptr, ?_, ?_, fun field hne => ?_⟩, hmoves, fun he hrooted field symbol hfield => ?_⟩
  · simp only [unInit, selfDlClose]
    split <;> rfl
  · simp only [unInit, selfDlClose, unLoadAll]
    split <;> rfl
  · rw [unInit_funs] at hne
    by_cases hmem : field ∈ api.resets
    · exact absurd (if_pos hmem) hne
    · rw [if_neg hmem] at hne
      exact ⟨(htidy field hne).resolve_left hmem, hmem⟩
  · rw [unInit_funs] at hfield
    by_cases hmem : field ∈ api.resets
    · rw [if_pos hmem] at hfield
      cases hfield
    · rw [if_neg hmem] at hfield
      rcases hrooted field symbol hfield with hown | hclosed
      · -- the handle that the library gives up is closed now
        have hlt := Heap.lt_size_of_read (hlive _ hown)
        refine .inr (((hmoves.exact he).mem_closed_iff _).mpr ⟨?_, ?_⟩)
        · have := hmoves.trades.size_le
          omega
        · exact hmoves.trades.given _ hown (by rw [hptr]; nofun)
      · exact .inr (hmoves.closed hclosed)

/-! ### Loading -/

/-- `LoadAll` changes the members only, and fills all of them or fails. -/
theorem loadAll_spec (api : LibApi) (s : Loading OpensslFun) {handle : ℕ} {object : SharedObject OpensslFun}
    (hptr : s.lib.libptr = some handle) (hread : s.linker.objects.read handle = some object) :
    ∃ s' pairs, loadAll api s = .ok (if (api.lookups object.versionNum).all
        fun pair => object.exports pair.1 then .success else .loadSymbol, s') ∧
      s'.linker = s.linker ∧ s'.lib.libptr = s.lib.libptr ∧
      pairs ⊆ api.lookups object.versionNum ∧
      s'.lib.funs = resolved handle object pairs s.lib.funs ∧
      ((∀ pair ∈ api.lookups object.versionNum, object.exports pair.1 = true) →
        pairs = api.lookups object.versionNum ∧ s'.lib.versionNum = object.versionNum) := by
  by_cases hversion : object.exports .OpenSSL_version_num = true
  · have hsym : selfDlSym .OpenSSL_version_num .OpenSSL_version_num s =
        (.success, { s with lib := { s.lib with
          funCache := s.lib.funCache ++ [⟨handle, .OpenSSL_version_num⟩]
          funs := Function.update s.lib.funs .OpenSSL_version_num
            (some ⟨handle, .OpenSSL_version_num⟩) } }) := by
      simp [selfDlSym, hptr, hread, hversion]
    obtain ⟨funCache, hload⟩ := loadSymbols_eq (api.symbols object.versionNum)
      ⟨s.linker, { s.lib with
        funCache := s.lib.funCache ++ [⟨handle, .OpenSSL_version_num⟩]
        funs := Function.update s.lib.funs .OpenSSL_version_num
          (some ⟨handle, .OpenSSL_version_num⟩)
        versionNum := object.versionNum }⟩ hptr hread
    have hfuns : resolved handle object (api.lookups object.versionNum) s.lib.funs =
        resolved handle object (api.symbols object.versionNum)
          (Function.update s.lib.funs .OpenSSL_version_num
            (some ⟨handle, .OpenSSL_version_num⟩)) := by
      rw [LibApi.lookups, resolved, List.foldl_cons, ← resolved]
      exact congrArg _ (if_pos hversion)
    refine ⟨⟨s.linker, { s.lib with
      funCache := funCache
      funs := resolved handle object (api.lookups object.versionNum) s.lib.funs
      versionNum := object.versionNum }⟩, api.lookups object.versionNum, ?_, rfl, rfl,
      List.Subset.refl _, rfl, fun _ => ⟨rfl, rfl⟩⟩
    simp only [loadAll, hsym, ne_eq, not_true, if_false, Function.update_self,
      Linker.call_some hread, hfuns]
    simp only [bind, Except.bind, hload]
    simp only [LibApi.lookups, List.all_cons, connectorSelfDlsym, hversion, Bool.true_and]
    by_cases hall : (api.symbols object.versionNum).all (fun pair => object.exports pair.1) = true
    · rw [if_pos hall, if_neg (by decide)]
    · rw [if_neg hall, if_pos (by decide)]
  · have hsym : selfDlSym .OpenSSL_version_num .OpenSSL_version_num s = (.loadSymbol, s) := by
      simp [selfDlSym, hptr, hread, hversion]
    refine ⟨s, [], ?_, rfl, rfl, List.nil_subset _, rfl, fun hall => ?_⟩
    · simp [loadAll, hsym, LibApi.lookups, connectorSelfDlsym, hversion]
    · exact absurd (hall _ List.mem_cons_self) hversion

end Loading

/-- The shared object that can be opened under a path. -/
def Host.provides (host : Host OpensslFun) (path : StdString) : Option (SharedObject OpensslFun) :=
  if scfCheckFilePathAndStat host.fs path then host.dlopen (cStr path) else none

/-- The code of `Init`: the first stage that does not succeed on this host. -/
def LibApi.outcome (api : LibApi) (host : Host OpensslFun) (libPath : StdString) : Errno :=
  match host.provides (libPath ++ ascii "/" ++ api.libName) with
  | none => .loadLib
  | some object =>
    if !(api.lookups object.versionNum).all fun pair => object.exports pair.1 then .loadSymbol
    else if object.initRet ≠ sslSuccess then .initOpensslCrypto
    else .success

namespace Loading

variable {s s' : Loading OpensslFun} {api : LibApi}

/-- What `Init` leaves: a library that is loaded, or one that is not. -/
def Settled (api : LibApi) (ret : Errno) (s : Loading OpensslFun) : Prop :=
  if ret = .success then ∃ handle object, Ready api s handle object else s.lib.Idle api

theorem settled_success : Settled api .success s ↔ ∃ handle object, Ready api s handle object := by
  rw [Settled, if_pos rfl]

theorem settled_failure {ret : Errno} (hret : ret ≠ .success) :
    Settled api ret s ↔ s.lib.Idle api := by
  rw [Settled, if_neg hret]

/-- The library with a shared object that has just been opened. -/
def opened (object : SharedObject OpensslFun) (s : Loading OpensslFun) : Loading OpensslFun :=
  ⟨{ s.linker with objects := (s.linker.objects.alloc object).2 },
    { s.lib with libptr := some s.linker.objects.size }⟩

theorem selfDlOpen_eq (host : Host OpensslFun) (path : StdString) (hptr : s.lib.libptr = none) :
    selfDlOpen host path s =
      match host.provides path with
      | none => (.loadLib, s)
      | some object => (.success, s.opened object) := by
  rw [selfDlOpen, Host.provides]
  by_cases hpath : scfCheckFilePathAndStat host.fs path = true
  · simp only [hpath, Bool.not_true, Bool.false_eq_true, if_false, if_true]
    cases host.dlopen (cStr path) with
    | none => rw [← hptr]
    | some object => rfl
  · simp only [hpath, Bool.not_false, if_true, Bool.false_eq_true, if_false]

theorem read_opened (object : SharedObject OpensslFun) :
    (s.opened object).linker.objects.read s.linker.objects.size = some object := by
  show (s.linker.objects.alloc object).2.read _ = _
  rw [Heap.read_alloc, Heap.alloc_fst, if_pos rfl]

theorem moves_opened (hptr : s.lib.libptr = none) (object : SharedObject OpensslFun) :
    Moves s (s.opened object) := by
  refine ⟨?_, fun he => he.alloc object, List.Subset.refl _⟩
  rw [hptr]
  exact .alloc id object _

/-- Members that are looked up in the open object are found there. -/
theorem rooted_resolved {handle : ℕ} {object : SharedObject OpensslFun}
    {pairs : List (OpensslFun × OpensslFun)} (hrooted : s.Rooted)
    (hclosed : s.linker.closed ⊆ s'.linker.closed) (hnone : s.lib.libptr = none)
    (hptr : s'.lib.libptr = some handle)
    (hfuns : s'.lib.funs = resolved handle object pairs s.lib.funs) : s'.Rooted := by
  intro field symbol hfield
  rw [hfuns] at hfield
  rcases resolved_cases handle object pairs s.lib.funs field with heq | ⟨name, -, heq⟩
  · rw [heq] at hfield
    rcases hrooted field symbol hfield with hown | hmem
    · rw [hnone] at hown
      cases hown
    · exact .inr (hclosed hmem)
  · rw [heq] at hfield
    obtain rfl := Option.some.inj hfield
    exact .inl hptr

/-- Only members that are looked up get a function. -/
theorem tidy_resolved (hapi : api.WellFormed) {handle : ℕ} {object : SharedObject OpensslFun}
    {pairs : List (OpensslFun × OpensslFun)} (hpairs : pairs ⊆ api.lookups object.versionNum)
    (htidy : s.lib.Tidy api) (hfuns : s'.lib.funs = resolved handle object pairs s.lib.funs) :
    s'.lib.Tidy api := by
  intro field hne
  rw [hfuns] at hne
  rcases resolved_cases handle object pairs s.lib.funs field with heq | ⟨name, hmem, -⟩
  · rw [heq] at hne
    exact htidy field hne
  · rcases List.mem_cons.mp (hpairs hmem) with heq | hmem
    · exact .inr (congrArg Prod.snd heq)
    · exact .inl (hapi.reset _ _ hmem)

/-- A library with all its functions. -/
theorem ready_resolved (hapi : api.WellFormed) (hidle : s.lib.Idle api) {handle : ℕ}
    {object : SharedObject OpensslFun} (hptr : s'.lib.libptr = some handle)
    (hread : s'.linker.objects.read handle = some object)
    (hall : ∀ pair ∈ api.lookups object.versionNum, object.exports pair.1 = true)
    (hfuns : s'.lib.funs = resolved handle object (api.lookups object.versionNum) s.lib.funs)
    (hversion : s'.lib.versionNum = object.versionNum) (hinit : object.initRet = sslSuccess) :
    Ready api s' handle object := by
  refine ⟨hptr, hread, hversion, hinit, hall, fun pair hpair => ?_, fun field hfield => ?_⟩
  · rw [hfuns]
    exact resolved_of_mem (hapi.nodup _) hall hpair
  · rw [hfuns, resolved_of_notMem hfield]
    by_contra hne
    -- the only member that can have kept a function is looked up
    refine hfield ?_
    rw [(hidle.funs field hne).1]
    exact List.mem_map_of_mem List.mem_cons_self

/-- `Init` of a library in any state that earlier calls can have left does not fault. Its code
depends on the host alone, and it loads the library completely or not at all. -/
theorem init_spec (hapi : api.WellFormed) (host : Host OpensslFun) (libPath : StdString)
    (htidy : s.lib.Tidy api) (hlive : s.Live) (hexact : s.linker.Exact) (hrooted : s.Rooted) :
    ∃ s', init api host libPath s = .ok (api.outcome host libPath, s') ∧ Moves s s' ∧
      s'.Rooted ∧ Settled api (api.outcome host libPath) s' := by
  obtain ⟨hidle, hmoves, hroot⟩ := unInit_spec htidy hlive
  have hrooted₀ := hroot hexact hrooted
  simp only [init, selfDlOpen_eq host _ hidle.libptr, LibApi.outcome]
  cases host.provides (libPath ++ ascii "/" ++ api.libName) with
  | none =>
    have hfails : Settled api .loadLib (unInit api s) := (settled_failure (by decide)).mpr hidle
    exact ⟨unInit api s, rfl, hmoves, hrooted₀, hfails⟩
  | some object =>
    have hopened := moves_opened hidle.libptr object
    obtain ⟨s₁, pairs, hload, hlinker, hptr, hpairs, hfuns, hfull⟩ :=
      loadAll_spec api ((unInit api s).opened object) rfl (read_opened object)
    have hloaded : Moves ((unInit api s).opened object) s₁ := .of_eq hopened.live hlinker hptr
    have hmoves₁ := hmoves.trans (hopened.trans hloaded)
    have hrooted₁ : s₁.Rooted :=
      rooted_resolved hrooted₀ (hopened.trans hloaded).closed hidle.libptr hptr hfuns
    -- a failure after this point takes everything back
    obtain ⟨hidle₂, hmoves₂, hroot₂⟩ :=
      unInit_spec (tidy_resolved hapi hpairs hidle.tidy hfuns) hmoves₁.live
    have hback : ∀ ret, ret ≠ Errno.success → Moves s (unInit api s₁) ∧ (unInit api s₁).Rooted ∧
        Settled api ret (unInit api s₁) := fun ret hret =>
      ⟨hmoves₁.trans hmoves₂, hroot₂ (hmoves₁.exact hexact) hrooted₁,
        (settled_failure hret).mpr hidle₂⟩
    by_cases hall : (api.lookups object.versionNum).all (fun pair => object.exports pair.1) = true
    · have hcall : s₁.linker.call (s₁.lib.funs api.initFun) = .ok object := by
        obtain ⟨rfl, -⟩ := hfull (List.all_eq_true.mp hall)
        rw [hfuns, resolved_of_mem (hapi.nodup _) (List.all_eq_true.mp hall)
          (List.mem_cons_of_mem _ (hapi.initFun _)), hlinker]
        exact Linker.call_some (read_opened object)
      by_cases hinit : object.initRet = sslSuccess
      · refine ⟨s₁, ?_, hmoves₁, hrooted₁, ?_⟩
        · simp [hload, hall, hcall, hinit, bind, Except.bind]
        · obtain ⟨rfl, hversion⟩ := hfull (List.all_eq_true.mp hall)
          simp only [hall, hinit, Bool.not_true, Bool.false_eq_true, if_false, ne_eq, not_true]
          exact settled_success.mpr ⟨_, object, ready_resolved hapi hidle hptr
            (by rw [hlinker]; exact read_opened object) (List.all_eq_true.mp hall) hfuns hversion
            hinit⟩
      · refine ⟨unInit api s₁, ?_, by simpa [hall, hinit] using hback .initOpensslCrypto (by decide)⟩
        simp [hload, hall, hcall, hinit, bind, Except.bind]
    · refine ⟨unInit api s₁, ?_, by simpa [hall] using hback .loadSymbol (by decide)⟩
      simp [hload, hall, bind, Except.bind]

end Loading

end Scf
