import ScfSecurity.Library.Heap
import ScfSecurity.Policy.FileContext

/-!
# Shared objects and their functions

The library is not linked against OpenSSL: `DlOpenLibBase` opens a shared object with `dlopen`,
looks up one function after another with `dlsym`, and keeps each in a `DlFun` member of the class
derived from it. Such a member outlives the shared object, so a call through it can find no
function at all, or code that has been unloaded.

## Main definitions

- `SharedObject`, `Host`, `Linker`: shared objects, where they come from, and which are open
- `DlFun`, `Linker.call`: a function that has been looked up, and a call through it
- `DlOpenLib`: the members of `DlOpenLibBase` and of a class derived from it
- `Loading.selfDlOpen`, `Loading.selfDlSym`, `Loading.selfDlClose`: its operations
- `Loading.loadSymbols`, `DlOpenLib.resetAll`: many functions at once

Functions and members are named by the elements of a type `ν`.

## Main results

- `Loading.loadSymbols_eq`: what is looked up, and when nothing is missing
-/

namespace Scf

open Automaton

/-! ### The dynamic linker -/

variable {ν : Type}

/-- A shared object that can be opened: the names that `dlsym` finds in it, the version number it
reports, and what its initialisation function returns. -/
structure SharedObject (ν : Type) where
  exports : ν → Bool
  versionNum : UInt64
  initRet : Int32

/-- The host when a library is loaded: its files, and the shared object that `dlopen` makes of a
path, if it does. -/
structure Host (ν : Type) where
  fs : FileSystem
  dlopen : StdString → Option (SharedObject ν)

/-- The shared objects that the process has open, by their handles, and the handles it has passed
to `dlclose`. -/
structure Linker (ν : Type) where
  objects : Heap (SharedObject ν) := {}
  closed : List ℕ := []

def Linker.dlclose (handle : ℕ) (l : Linker ν) : Linker ν :=
  ⟨l.objects.free handle, l.closed ++ [handle]⟩

/-- A function in an open shared object: what `dlsym` returns. -/
structure Symbol (ν : Type) where
  handle : ℕ
  name : ν
deriving DecidableEq

/-- `DlFun`: the function, if there is one. -/
abbrev DlFun (ν : Type) := Option (Symbol ν)

/-- What can be wrong with a call through a `DlFun`: it has no function and throws, or its function
is in a shared object that has been closed. -/
inductive DlFault where
  | noFunction
  | unloaded
deriving DecidableEq, Repr

/-- `DlFun::operator()`: the shared object whose function runs. -/
def Linker.call (l : Linker ν) : DlFun ν → Except DlFault (SharedObject ν)
  | none => .error .noFunction
  | some symbol =>
    match l.objects.read symbol.handle with
    | none => .error .unloaded
    | some object => .ok object

theorem Linker.call_some {l : Linker ν} {handle : ℕ} {name : ν} {object : SharedObject ν}
    (hread : l.objects.read handle = some object) : l.call (some ⟨handle, name⟩) = .ok object := by
  simp only [call, hread]

/-! ### A library -/

variable [DecidableEq ν]

/-- `DlOpenLibBase` and the members of a class derived from it: the handle, the functions looked up
so far, the `DlFun` members by their names, and the version number. -/
structure DlOpenLib (ν : Type) where
  libptr : Option ℕ := none
  funCache : List (Symbol ν) := []
  funs : ν → DlFun ν := fun _ => none
  versionNum : UInt64 := 0

/-- `DlFun::Reset` of several members. -/
def DlOpenLib.resetAll (fields : List ν) (lib : DlOpenLib ν) : DlOpenLib ν :=
  { lib with funs := fun field => if field ∈ fields then none else lib.funs field }

/-- A library, and the linker it works with. -/
structure Loading (ν : Type) where
  linker : Linker ν
  lib : DlOpenLib ν

namespace Loading

/-- `DlOpenLibBase::SelfDlOpen`. -/
def selfDlOpen (host : Host ν) (libPath : StdString) (s : Loading ν) : Errno × Loading ν :=
  if !scfCheckFilePathAndStat host.fs libPath then (.loadLib, s)
  else
    match host.dlopen (cStr libPath) with
    | none => (.loadLib, { s with lib := { s.lib with libptr := none } })
    | some object =>
      let (handle, objects) := s.linker.objects.alloc object
      (.success, ⟨{ s.linker with objects := objects }, { s.lib with libptr := some handle }⟩)

/-- `DlOpenLibBase::SelfDlSym`: a member keeps its old function if the name is not found. -/
def selfDlSym (funName field : ν) (s : Loading ν) : Errno × Loading ν :=
  match s.lib.libptr with
  | none => (.loadSymbol, s)
  | some handle =>
    if (s.linker.objects.read handle).any fun object => object.exports funName then
      (.success, { s with lib := { s.lib with
        funCache := s.lib.funCache ++ [⟨handle, funName⟩]
        funs := Function.update s.lib.funs field (some ⟨handle, funName⟩) } })
    else (.loadSymbol, s)

/-- `DlOpenLibBase::SelfDlClose`. -/
def selfDlClose (s : Loading ν) : Loading ν :=
  match s.lib.libptr with
  | none => { s with lib := { s.lib with funCache := [] } }
  | some handle => ⟨s.linker.dlclose handle, { s.lib with funCache := [], libptr := none }⟩

/-- One `SelfDlSym` after another, for pairs of a name and a member; the codes are joined by
`ret |= …`, so that a failure does not stop the others. -/
def loadSymbols : List (ν × ν) → Loading ν → UInt32 × Loading ν
  | [], s => (Errno.success.value, s)
  | (funName, field) :: rest, s =>
    let (ret, s) := selfDlSym funName field s
    let (retRest, s) := loadSymbols rest s
    (ret.value ||| retRest, s)

/-! ### Looking up many functions -/

/-- The members after the names have been looked up in an open object: each has the function whose
name was found last for it. -/
def resolved (handle : ℕ) (object : SharedObject ν) (pairs : List (ν × ν))
    (funs : ν → DlFun ν) : ν → DlFun ν :=
  pairs.foldl (fun funs pair =>
    if object.exports pair.1 then Function.update funs pair.2 (some ⟨handle, pair.1⟩)
    else funs) funs

section Resolved

variable {handle : ℕ} {object : SharedObject ν} {pairs : List (ν × ν)}
  {funs : ν → DlFun ν} {field : ν}

/-- A member that no name is looked up for stays as it is. -/
theorem resolved_of_notMem (hfield : field ∉ pairs.map Prod.snd) :
    resolved handle object pairs funs field = funs field := by
  induction pairs generalizing funs with
  | nil => rfl
  | cons pair pairs ih =>
    rw [List.map_cons, List.mem_cons, not_or] at hfield
    rw [resolved, List.foldl_cons, ← resolved, ih hfield.2]
    split_ifs
    · exact Function.update_of_ne hfield.1 _ _
    · rfl

/-- A member keeps its function or gets one of the object. -/
theorem resolved_cases (handle : ℕ) (object : SharedObject ν) (pairs : List (ν × ν))
    (funs : ν → DlFun ν) (field : ν) :
    resolved handle object pairs funs field = funs field ∨
      ∃ name, (name, field) ∈ pairs ∧
        resolved handle object pairs funs field = some ⟨handle, name⟩ := by
  induction pairs generalizing funs with
  | nil => exact .inl rfl
  | cons pair pairs ih =>
    rw [resolved, List.foldl_cons, ← resolved]
    rcases ih (if object.exports pair.1 then
        Function.update funs pair.2 (some ⟨handle, pair.1⟩) else funs) with heq | ⟨name, hmem, heq⟩
    · rw [heq]
      split_ifs
      · by_cases hfield : field = pair.2
        · subst hfield
          exact .inr ⟨pair.1, List.mem_cons_self, Function.update_self ..⟩
        · exact .inl (Function.update_of_ne hfield ..)
      · exact .inl rfl
    · exact .inr ⟨name, List.mem_cons_of_mem _ hmem, heq⟩

/-- If the members are different and every name is found, each member has its function. -/
theorem resolved_of_mem (hnodup : (pairs.map Prod.snd).Nodup)
    (hall : ∀ pair ∈ pairs, object.exports pair.1 = true) {name : ν}
    (hmem : (name, field) ∈ pairs) :
    resolved handle object pairs funs field = some ⟨handle, name⟩ := by
  induction pairs generalizing funs with
  | nil => exact absurd hmem List.not_mem_nil
  | cons pair pairs ih =>
    rw [List.map_cons, List.nodup_cons] at hnodup
    rw [resolved, List.foldl_cons, ← resolved, if_pos (hall pair List.mem_cons_self)]
    rcases List.mem_cons.mp hmem with rfl | hmem
    · rw [resolved_of_notMem hnodup.1, Function.update_self]
    · exact ih hnodup.2 (fun p hp => hall p (List.mem_cons_of_mem _ hp)) hmem

end Resolved

/-- The two values that the joined codes can have. -/
theorem value_or_value (b b' : Bool) :
    ((if b then Errno.success else .loadSymbol).value |||
        (if b' then Errno.success else .loadSymbol).value) =
      (if b && b' then Errno.success else .loadSymbol).value := by
  cases b <;> cases b' <;> decide

/-- Looking up names in an open object changes the members only, and succeeds if every name is
found. -/
theorem loadSymbols_eq (pairs : List (ν × ν)) (s : Loading ν) {handle : ℕ}
    {object : SharedObject ν} (hptr : s.lib.libptr = some handle)
    (hread : s.linker.objects.read handle = some object) :
    ∃ funCache, loadSymbols pairs s =
      ((if pairs.all fun pair => object.exports pair.1 then Errno.success else .loadSymbol).value,
        { s with lib := { s.lib with
            funCache := funCache
            funs := resolved handle object pairs s.lib.funs } }) := by
  induction pairs generalizing s with
  | nil => exact ⟨s.lib.funCache, rfl⟩
  | cons pair pairs ih =>
    obtain ⟨name, field⟩ := pair
    by_cases hfound : object.exports name = true
    · have hsym : selfDlSym name field s = (.success, { s with lib := { s.lib with
          funCache := s.lib.funCache ++ [⟨handle, name⟩]
          funs := Function.update s.lib.funs field (some ⟨handle, name⟩) } }) := by
        simp [selfDlSym, hptr, hread, hfound]
      obtain ⟨funCache, heq⟩ := ih (selfDlSym name field s).2
        (by rw [hsym]; exact hptr) (by rw [hsym]; exact hread)
      refine ⟨funCache, ?_⟩
      rw [hsym] at heq
      rw [loadSymbols, hsym]
      simp only [heq, resolved, List.foldl_cons, hfound, if_pos, List.all_cons, Bool.true_and]
      exact congrArg (·, _) (value_or_value true _)
    · have hsym : selfDlSym name field s = (.loadSymbol, s) := by
        simp [selfDlSym, hptr, hread, hfound]
      obtain ⟨funCache, heq⟩ := ih s hptr hread
      refine ⟨funCache, ?_⟩
      rw [loadSymbols]
      simp only [hsym, heq, resolved, List.foldl_cons, hfound, Bool.false_eq_true, if_false,
        List.all_cons, Bool.false_and]
      exact congrArg (·, _) (value_or_value false _)

end Loading

end Scf
