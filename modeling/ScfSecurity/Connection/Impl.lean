import ScfSecurity.Connection.Setup

/-!
# Connections

`SCFConnectionImpl` ties a context, an object, a transport and a crypto engine together
behind one interface. A connection keeps pointers to these; `Connect`, `Listen`, `Accept`,
`HandshakeStep` and `Close` move it between its states.

## Main definitions

- `SCFConnectionImpl`: a connection
- `connect`, `listen`, `accept`, `handshakeStep`, `close`, `cleanup`: its functions
- `System`, `connectionMachine`: any number of connections in one process
-/

namespace Scf

open Automaton

/-- `SCFConnectionImpl`: the configuration, the state, and pointers to what it uses. -/
structure SCFConnectionImpl where
  config : SCFConnectionConfig
  state : SCFConnectionState := .init
  policyCtx : Option ℕ := none
  policyObj : Option ℕ := none
  transport : Option ℕ := none
  cryptoEngine : Option ℕ := none
  ownsCryptoEngine : Bool := false
  isServer : Bool
  handshakeDone : Bool := false
  userData : Option Address := none
  negotiatedVersion : String := ""
  negotiatedCipherSuite : UInt16 := 0
deriving DecidableEq

/-- The constructor of `SCFConnectionImpl`. -/
def newConnection (config : SCFConnectionConfig) : SCFConnectionImpl :=
  { config, isServer := config.role = .server }

/-- What the environment answers while a connection opens, shakes hands and closes. -/
structure ConnEnv where
  setup : SetupEnv
  -- the factory of transports creates one, `Connect` or `Bind` succeeds, and its handle
  transportOk : Bool
  openOk : Bool
  nativeHandle : Int32
  -- for `Accept`: there is a new transport, and memory for the connection
  acceptOk : Bool
  connAllocOk : Bool
  clock : Option UInt64
  objAllocOk : Bool
  ssl : SslEnv
  handshake : HandshakeOutcome
  shutdown : Int32
deriving DecidableEq

/-- Everything succeeds, on a socket with handle 3. -/
def ConnEnv.plain : ConnEnv :=
  ⟨.plain, true, true, 3, true, true, some 0, true, .plain, .success, 1⟩

/-- Run a call on a pointer, unless the pointer is null. -/
def forPtr (ptr : Option ℕ) (f : ℕ → Resumption Process Unit) : Resumption Process Unit :=
  match ptr with
  | none => .done ()
  | some i => f i

/-- The engine part of `SetupPolicyContext`: an engine of its own, unless `Accept` has handed
down the one of the listening connection. -/
def setupCryptoEngine (g : Globals) (env : SetupEnv) (conn : SCFConnectionImpl) :
    Resumption Process (Errno × SCFConnectionImpl) :=
  match conn.cryptoEngine with
  | some engine =>
    if g.adaptor then
      (setCryptoEngine (some engine)).bind fun _ => .done (.success, conn)
    else .done (.success, conn)
  | none =>
    match env.engine with
    | none => .done (.success, conn)
    | some engine =>
      if !env.engineInit then .done (.success, conn)
      else
        (newEngine engine).bind fun e =>
          let conn := { conn with cryptoEngine := some e, ownsCryptoEngine := true }
          if !g.adaptor then .done (.invalidParam, conn)
          else (setCryptoEngine (some e)).bind fun _ => .done (.success, conn)

/-- `SCFConnectionImpl::SetupPolicyContext`. -/
def setupPolicyContext (g : Globals) (env : SetupEnv) (conn : SCFConnectionImpl) :
    Resumption Process (Errno × SCFConnectionImpl) :=
  (setupCryptoEngine g env conn).bind fun (ret, conn) =>
    if ret ≠ .success then .done (ret, conn)
    else
      (newCtx g env.ctxAllocOk).bind fun
        | none => .done (.memAlloc, { conn with policyCtx := none })
        | some ctx =>
          (configureCtx g env conn.config ctx).bind fun ret =>
            .done (ret, { conn with policyCtx := some ctx })

/-- The common part of `SetupTransportClient` and `SetupTransportServer`. -/
def setupTransport (env : ConnEnv) (opened : SCFConnectionState) (conn : SCFConnectionImpl) :
    Resumption Process (Errno × SCFConnectionImpl) :=
  if !env.transportOk then .done (.memAlloc, { conn with transport := none })
  else
    (newTransport .shut).bind fun t =>
      let conn := { conn with transport := some t }
      if !env.openOk then .done (.secureTransport, conn)
      else
        (setTransport t ⟨true, env.nativeHandle⟩).bind fun _ =>
          .done (.success, { conn with state := opened })

/-- `SCFConnectionImpl::SetupTransportClient`. -/
def setupTransportClient (env : ConnEnv) :
    SCFConnectionImpl → Resumption Process (Errno × SCFConnectionImpl) :=
  setupTransport env .connecting

/-- `SCFConnectionImpl::SetupTransportServer`. -/
def setupTransportServer (env : ConnEnv) :
    SCFConnectionImpl → Resumption Process (Errno × SCFConnectionImpl) :=
  setupTransport env .init

/-- The handle of the transport of a connection. -/
def Process.nativeHandle (transport : Option ℕ) (p : Process) : Int32 :=
  ((transport.bind fun t => p.transports.read t).map Transport.nativeHandle).getD (-1)

/-- `SCFConnectionImpl::CreatePolicyObj`. -/
def createPolicyObj (g : Globals) (env : ConnEnv) (conn : SCFConnectionImpl) :
    Resumption Process (Errno × SCFConnectionImpl) :=
  match conn.policyCtx with
  | none => .done (.memAlloc, { conn with policyObj := none })
  | some ctx =>
    (newObj g ctx env.clock env.objAllocOk).bind fun
      | none => .done (.memAlloc, { conn with policyObj := none })
      | some obj =>
        let conn := { conn with policyObj := some obj }
        (Resumption.load (Process.nativeHandle conn.transport)).bind fun fd =>
          if fd < 0 then .done (.success, conn)
          else
            (withObj Errno.error obj fun c o => scfSetFd g .valid fd env.ssl c o).bind fun ret =>
              .done (ret, conn)

/-- `SCFConnectionImpl::HandshakeStep`. -/
def handshakeStep (g : Globals) (env : ConnEnv) (conn : SCFConnectionImpl) :
    Resumption Process (Errno × SCFConnectionImpl) :=
  match conn.policyObj with
  | none => .done (.nullInput, conn)
  | some obj =>
    -- the object may have been closed before; nothing is tested here
    (handshakeObj g conn.isServer obj env.handshake).bind fun ret =>
      if ret = .success then
        (withObj none obj fun _ o => (scfGetProtocolVersion g o, o)).bind fun ver =>
          .done (ret, { conn with
            handshakeDone := true
            state := .connected
            negotiatedVersion := ver.getD conn.negotiatedVersion })
      else if ret = .sslWantRead || ret = .sslWantWrite then
        .done (ret, { conn with state := .connecting })
      else .done (ret, { conn with state := .error })

/-- `SCFConnectionImpl::Close`. -/
def close (g : Globals) (env : ConnEnv) (conn : SCFConnectionImpl) :
    Resumption Process (Errno × SCFConnectionImpl) :=
  if conn.state = .closed || conn.state = .closing then .done (.success, conn)
  else
    let shut : Resumption Process Errno :=
      match conn.policyObj with
      | none => .done .success
      | some obj => withObj Errno.error obj fun _ o => (scfClose g env.shutdown o, o)
    shut.bind fun ret =>
      (forPtr conn.transport fun t => setTransport t .shut).bind fun _ =>
        .done (ret, { conn with state := .closed, handshakeDone := false })

/-- `SCFConnectionImpl::Cleanup`, which is also the destructor. -/
def cleanup (g : Globals) (env : ConnEnv) (conn : SCFConnectionImpl) :
    Resumption Process SCFConnectionImpl :=
  (if conn.state = .connected || conn.state = .connecting then close g env conn
    else .done (.success, conn)).bind fun (_, conn) =>
  (forPtr conn.policyObj fun obj => freePolicyObj g obj).bind fun _ =>
  (forPtr conn.policyCtx fun ctx => freePolicyCtx g ctx).bind fun _ =>
  (forPtr conn.transport fun t => freeTransport t).bind fun _ =>
  let conn := { conn with policyObj := none, policyCtx := none, transport := none }
  match conn.cryptoEngine with
  | none => .done { conn with state := .closed }
  | some e =>
    if conn.ownsCryptoEngine then
      -- the adaptor loses its engine, whichever connection has set it
      (if g.adaptor then setCryptoEngine none else .done ()).bind fun _ =>
        (freeEngine e).bind fun _ =>
          .done { conn with cryptoEngine := none, ownsCryptoEngine := false, state := .closed }
    else .done { conn with state := .closed }

/-- A step of `Connect` that has failed: everything is released. -/
def abandon (g : Globals) (env : ConnEnv) (ret : Errno) (conn : SCFConnectionImpl) :
    Resumption Process (Errno × SCFConnectionImpl) :=
  (cleanup g env { conn with state := .error }).bind fun conn => .done (ret, conn)

/-- `SCFConnectionImpl::Connect`. -/
def connect (g : Globals) (env : ConnEnv) (conn : SCFConnectionImpl) :
    Resumption Process (Errno × SCFConnectionImpl) :=
  (setupPolicyContext g env.setup conn).bind fun (ret, conn) =>
    -- here nothing is released: engine and context stay with the connection
    if ret ≠ .success then .done (ret, { conn with state := .error })
    else
      (setupTransportClient env conn).bind fun (ret, conn) =>
        if ret ≠ .success then abandon g env ret conn
        else
          (createPolicyObj g env conn).bind fun (ret, conn) =>
            if ret ≠ .success then abandon g env ret conn else handshakeStep g env conn

/-- `SCFConnectionImpl::Listen`. -/
def listen (g : Globals) (env : ConnEnv) (conn : SCFConnectionImpl) :
    Resumption Process (Errno × SCFConnectionImpl) :=
  (setupPolicyContext g env.setup conn).bind fun (ret, conn) =>
    if ret ≠ .success then .done (ret, { conn with state := .error })
    else
      (setupTransportServer env conn).bind fun (ret, conn) =>
        if ret ≠ .success then .done (ret, { conn with state := .error })
        else .done (.success, conn)

/-- A connection that `Accept` gives up. -/
def discard (g : Globals) (env : ConnEnv) (conn : SCFConnectionImpl) :
    Resumption Process (Option SCFConnectionImpl) :=
  (cleanup g env conn).bind fun _ => .done none

/-- The new connection in `Accept`, from its transport on. -/
def acceptOn (g : Globals) (env : ConnEnv) (conn : SCFConnectionImpl) :
    Resumption Process (Option SCFConnectionImpl) :=
  (setupPolicyContext g env.setup conn).bind fun (ret, conn) =>
    if ret ≠ .success then discard g env conn
    else
      (createPolicyObj g env conn).bind fun (ret, conn) =>
        if ret ≠ .success then discard g env conn
        else
          (handshakeStep g env conn).bind fun (ret, conn) =>
            if ret = .sslWantRead || ret = .sslWantWrite then
              .done (some { conn with state := .connecting })
            else if ret ≠ .success then discard g env conn
            else .done (some { conn with state := .connected, handshakeDone := true })

/-- `SCFConnectionImpl::Accept`: a new connection, or null. -/
def accept (g : Globals) (env : ConnEnv) (conn : SCFConnectionImpl) :
    Resumption Process (Option SCFConnectionImpl) :=
  if !conn.isServer || conn.transport = none then .done none
  else if !env.acceptOk then .done none
  else
    (newTransport ⟨true, env.nativeHandle⟩).bind fun t =>
      if !env.connAllocOk then (freeTransport t).bind fun _ => .done none
      else
        -- the new connection uses the engine of the listening one but does not own it
        let child :=
          { newConnection conn.config with
            transport := some t
            isServer := true
            cryptoEngine := conn.cryptoEngine }
        (if conn.cryptoEngine ≠ none && g.adaptor then setCryptoEngine conn.cryptoEngine
          else .done ()).bind fun _ => acceptOn g env child

end Scf
