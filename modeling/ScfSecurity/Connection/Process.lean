import ScfSecurity.Library.Heap
import ScfSecurity.KeyUpdate.Write
import ScfSecurity.Policy.Object
import ScfSecurity.Policy.Settings
import ScfSecurity.Rbac.Freeze

/-!
# The objects behind connections

Connections work with contexts, objects, transports and crypto engines through pointers,
and they share the crypto engine that the TLS adaptor uses. `Process` is the memory that
holds all of these. The interface functions work on it; each of them is one section, except
for the handshakes.

## Main definitions

- `Process`: the memory of the process
- `withCtx`, `newCtx`, `newObj`, `withObj`, …: the interface functions on pointers
- `andThen`: one call after another until one fails
-/

namespace Scf

open Automaton

/-- `ICryptoEngine`: the library context of its provider, if it has one. -/
structure CryptoEngine where
  providerCtx : Option Address
deriving DecidableEq

/-- `ITransport`: whether it is open, and its native handle, which is negative if the
transport has none. -/
structure Transport where
  isOpen : Bool
  nativeHandle : Int32
deriving DecidableEq

/-- An object with its pointer to the context. -/
structure BoundObj where
  obj : SCFPolicyObj
  policyCtx : ℕ

/-- The memory of the process, and the engine that the adaptor uses. -/
structure Process where
  engines : Heap CryptoEngine := {}
  adaptorEngine : Option ℕ := none
  ctxs : Heap SCFPolicyCtx := {}
  objs : Heap BoundObj := {}
  transports : Heap Transport := {}

/-- Carry out the second call only if the first one succeeds. -/
def andThen {σ : Type} (p q : Resumption σ Errno) : Resumption σ Errno :=
  p.bind fun ret => if ret ≠ .success then .done ret else q

/-- The library context in which a new configuration is made. -/
def Process.providerCtx (p : Process) : Option Address :=
  (p.adaptorEngine.bind fun engine => p.engines.read engine).bind CryptoEngine.providerCtx

/-- `SetCryptoEngine` of the adaptor. -/
def setCryptoEngine (engine : Option ℕ) : Resumption Process Unit :=
  .critical fun p => ((), { p with adaptorEngine := engine })

def newEngine (engine : CryptoEngine) : Resumption Process ℕ :=
  .critical fun p => ((p.engines.alloc engine).1, { p with engines := (p.engines.alloc engine).2 })

def freeEngine (engine : ℕ) : Resumption Process Unit :=
  .critical fun p => ((), { p with engines := p.engines.free engine })

/-- `SCF_CreatePolicyCtx`. -/
def newCtx (g : Globals) (allocOk : Bool) : Resumption Process (Option ℕ) :=
  .critical fun p =>
    match scfCreatePolicyCtx g allocOk with
    | none => (none, p)
    | some ctx => (some (p.ctxs.alloc ctx).1, { p with ctxs := (p.ctxs.alloc ctx).2 })

/-- Call a function of the policy interface on a context. A call through a dangling pointer
has no meaning; here it does nothing. -/
def withCtx (ctx : ℕ) (f : SCFPolicyCtx → Errno × SCFPolicyCtx) : Resumption Process Errno :=
  .critical fun p =>
    match p.ctxs.read ctx with
    | none => (.error, p)
    | some c => ((f c).1, { p with ctxs := p.ctxs.modify ctx fun _ => (f c).2 })

/-- Drop one reference to a context; the last one frees it. -/
def Process.releaseCtx (ctx : ℕ) (p : Process) : Process :=
  match p.ctxs.read ctx with
  | none => p
  | some c =>
    if c.refCnt = 0 then p
    else if c.refCnt > 1 then
      { p with ctxs := p.ctxs.modify ctx fun c => { c with refCnt := c.refCnt - 1 } }
    else { p with ctxs := p.ctxs.free ctx }

/-- `SCF_FreePolicyCtx`. -/
def freePolicyCtx (g : Globals) (ctx : ℕ) : Resumption Process Unit :=
  .critical fun p =>
    if !g.scfInitialized || !g.adaptor then ((), p) else ((), p.releaseCtx ctx)

/-- `SCF_CreatePolicyObj`. -/
def newObj (g : Globals) (ctx : ℕ) (clock : Option UInt64) (allocOk : Bool) :
    Resumption Process (Option ℕ) :=
  .critical fun p =>
    match p.ctxs.read ctx with
    | none => (none, p)
    | some c =>
      match scfCreatePolicyObj g .valid clock allocOk c with
      | (none, _) => (none, p)
      | (some obj, c') =>
        (some (p.objs.alloc ⟨obj, ctx⟩).1,
          { p with
            objs := (p.objs.alloc ⟨obj, ctx⟩).2
            ctxs := p.ctxs.modify ctx fun _ => c' })

/-- `SCF_FreePolicyObj`. -/
def freePolicyObj (g : Globals) (obj : ℕ) : Resumption Process Unit :=
  .critical fun p =>
    if !g.scfInitialized || !g.adaptor then ((), p)
    else
      match p.objs.read obj with
      | none => ((), p)
      | some o => ((), { p.releaseCtx o.policyCtx with objs := p.objs.free obj })

/-- Call a function of the policy interface on an object, which may read its context. -/
def withObj {ρ : Type} (default : ρ) (obj : ℕ)
    (f : SCFPolicyCtx → SCFPolicyObj → ρ × SCFPolicyObj) : Resumption Process ρ :=
  .critical fun p =>
    match p.objs.read obj with
    | none => (default, p)
    | some o =>
      match p.ctxs.read o.policyCtx with
      | none => (default, p)
      | some c =>
        ((f c o.obj).1, { p with objs := p.objs.modify obj fun o => { o with obj := (f c o.obj).2 } })

/-- What a handshake on an object works on. -/
def Process.shared (obj : ℕ) (p : Process) : Shared where
  ctx := ((p.objs.read obj).bind fun o => p.ctxs.read o.policyCtx).getD newPolicyCtx
  objs id := if id = obj then (p.objs.read obj).map BoundObj.obj else none

def Process.setShared (obj : ℕ) (s : Shared) (p : Process) : Process :=
  match p.objs.read obj with
  | none => p
  | some o =>
    { p with
      objs := p.objs.modify obj fun o => { o with obj := (s.objs obj).getD o.obj }
      ctxs := p.ctxs.modify o.policyCtx fun _ => s.ctx }

/-- `SCF_Accept` for a server, `SCF_Connect` for a client. -/
def handshakeObj (g : Globals) (isServer : Bool) (obj : ℕ) (outcome : HandshakeOutcome) :
    Resumption Process Errno :=
  (if isServer then scfAccept g obj outcome else scfConnect g obj outcome).zoom
    (Process.shared obj) (Process.setShared obj)

/-- `SCF_Close`, with the result of `SSL_shutdown`; the connection of the object stays. -/
def scfClose (g : Globals) (shutdown : Int32) (obj : SCFPolicyObj) : Errno :=
  if obj.sslCtx = none then .success
  else if !g.scfInitialized then .notInit
  else if !g.adaptor then .invalidParam
  else if shutdown < 0 then .sslClose
  else .success

/-- `SCF_GetProtocolVersion`. -/
def scfGetProtocolVersion (g : Globals) (obj : SCFPolicyObj) : Option String :=
  if !g.scfInitialized then none
  else if !g.adaptor then none
  else adaptorGetVersion obj

def newTransport (transport : Transport) : Resumption Process ℕ :=
  .critical fun p =>
    ((p.transports.alloc transport).1, { p with transports := (p.transports.alloc transport).2 })

/-- Change a transport, as its `Connect`, `Bind` and `Close` do. -/
def setTransport (transport : ℕ) (state : Transport) : Resumption Process Unit :=
  .critical fun p =>
    ((), { p with transports := p.transports.modify transport fun _ => state })

def freeTransport (transport : ℕ) : Resumption Process Unit :=
  .critical fun p => ((), { p with transports := p.transports.free transport })

/-- A transport that is closed, or not opened yet. -/
def Transport.shut : Transport := ⟨false, -1⟩

end Scf
