import ScfSecurity.Errno
import Mathlib.Algebra.Group.Nat.Defs
import Mathlib.Tactic.Common

/-!
# Values at the interface

Strings, pointers and the process-wide state that every interface function looks
at first. Enumerations of `scf_def.h` that callers pass in are kept as the
32-bit values they are: the library checks them, since C and C++ callers can pass
any value.
-/

namespace Scf

/-- A pointer argument of which a function only tests whether it is null. A
valid context or object pointer points to the state the function works on. -/
inductive Ptr where
  | null
  | valid
deriving DecidableEq, Repr

/-- An address of the application that the library stores and compares but never
looks behind: a callback function or a user data pointer. -/
abbrev Address := ℕ

/-- The contents of a `std::string`: any bytes, also NUL. -/
abbrev StdString := List UInt8

/-- The bytes of an ASCII literal. -/
def ascii (s : String) : StdString := s.toList.map fun c => c.toNat.toUInt8

/-- The contents of a NUL-terminated `const char *`: the bytes before the
terminator. -/
structure CString where
  bytes : StdString
  nulFree : 0 ∉ bytes
deriving DecidableEq

namespace CString

theorem ext {s t : CString} (h : s.bytes = t.bytes) : s = t := by
  cases s
  cases t
  simpa using h

/-- `strnlen`. -/
def strnlen (s : CString) (maxLen : ℕ) : ℕ := min s.bytes.length maxLen

/-- The literal `"*"`. -/
def star : CString := ⟨[42], by decide⟩

end CString

/-- `SCF_INIT_FLAG_OPENSSL`. -/
def initFlagOpenssl : UInt64 := 1

/-- The process-wide state: `g_scfInitialized`, `g_isTlsInit` and whether
`g_adaptor` points to the TLS adaptor. Between two interface calls an initialised
library has an adaptor. -/
structure Globals where
  scfInitialized : Bool
  isTlsInit : Bool
  adaptor : Bool
  adaptor_of_init : scfInitialized = true → adaptor = true

namespace Globals

/-- The state at program start. -/
def start : Globals := ⟨false, false, false, by decide⟩

/-- `SCF_Init`, with `SCFInitInner` and `RegisterTlsAdaptor`; `adaptorInit` is
what `OpenSSLAdaptor::Init`, which loads the shared libraries, returns. -/
def scfInit (g : Globals) (flag : UInt64) (adaptorInit : Errno) : Errno × Globals :=
  if g.scfInitialized then (.success, g)
  else if flag ≠ initFlagOpenssl then (.invalidParam, g)
  else if g.isTlsInit then (.tlsAlreadyInit, g)
  else if adaptorInit ≠ .success then (adaptorInit, g)
  else (.success, ⟨true, true, true, fun _ => rfl⟩)

/-- `SCF_DeInit`, with `SCFDeInitInner` and `UnRegisterTlsAdaptor`. -/
def scfDeInit (g : Globals) : Globals :=
  if !g.scfInitialized then g
  else if !g.isTlsInit || !g.adaptor then ⟨false, g.isTlsInit, g.adaptor, by simp⟩
  else ⟨false, false, false, by decide⟩

/-- A library that is initialised and stays so. -/
def ready : Globals := (start.scfInit initFlagOpenssl .success).2

end Globals

end Scf
