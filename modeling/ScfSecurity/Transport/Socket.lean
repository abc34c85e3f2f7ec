import ScfSecurity.Base
import ScfSecurity.Library.Handles
import ScfSecurity.Library.Machine

/-!
# Transports over sockets

`SocketTransport`, the transport that connections use by default. It stores the number of a
descriptor in `m_fd`, closes it in `Close` and in the destructor, and passes it to the kernel
everywhere else. Which system call fails, and which numbers the kernel gives to new
descriptors, is part of a call.

## Main definitions

- `SocketTransport.close`, `SocketTransport.connect`, `SocketTransport.bind`,
  `SocketTransport.accept`, `SocketTransport.clone`: the functions of the class
- `socketMachine`: the transports of a process, and the other users of its descriptors
-/

namespace Scf

open Automaton

/-- `TransportResult`. -/
inductive TransportResult where
  | success
  | error
  | wouldBlock
  | connectionClosed
  | timeout
deriving DecidableEq, Repr

/-- `TransportAddressType`. -/
inductive TransportAddressType where
  | ipv4
  | ipv6
  | domain
  | urma
  | custom
deriving DecidableEq, Repr

/-- `TransportProtocol`. -/
inductive TransportProtocol where
  | tcp
  | udp
  | urma
  | custom
deriving DecidableEq, Repr

/-- `TransportAddress`. -/
structure TransportAddress where
  type : TransportAddressType := .ipv4
  host : StdString := []
  port : UInt16 := 0
deriving DecidableEq

/-- `TransportConfig`. -/
structure TransportConfig where
  nonBlocking : Bool := true
  sendTimeoutMs : ℤ := 0
  recvTimeoutMs : ℤ := 0
  connectTimeoutMs : ℤ := 5000
  sendBufferSize : ℕ := 0
  recvBufferSize : ℕ := 0
  tcpNoDelay : Bool := true
deriving DecidableEq

/-- The values of `errno` that the class tells apart; `EWOULDBLOCK` is `EAGAIN`. -/
inductive SocketErrno where
  | inProgress
  | again
  | connReset
  | pipe
  | timedOut
  | other
deriving DecidableEq, Repr

/-- `SocketTransport`. -/
structure SocketTransport where
  fd : Handle := .empty
  connected : Bool := false
  bound : Bool := false
  localAddr : TransportAddress := {}
  remoteAddr : TransportAddress := {}
  config : TransportConfig := {}
  protocol : TransportProtocol := .tcp
deriving DecidableEq

/-- What the resolver answers: whether `inet_pton` takes the host, the length of the address
that `getaddrinfo` finds, and whether `memcpy_s` copies it. -/
structure ResolveEnv where
  inetPton : Bool
  getaddrinfo : Option ℕ
  copied : Bool

/-- What the two calls of `fcntl` answer. -/
structure FcntlEnv where
  getFl : Bool
  setFl : Bool

/-- What the calls of `Connect` answer. `errno` is read again after `Close`. -/
structure SocketConnectEnv where
  resolve : ResolveEnv
  socket : Option ℕ
  fcntl : FcntlEnv
  connect : Option SocketErrno
  errno : SocketErrno

/-- What the calls of `Bind` answer. -/
structure SocketBindEnv where
  resolve : ResolveEnv
  socket : Option ℕ
  bind : Bool
  listen : Bool
  fcntl : FcntlEnv

/-- The address of a peer, as `accept` gives it. -/
inductive PeerAddress where
  | inet (ip : StdString) (port : UInt16)
  | inet6 (ip : StdString) (port : UInt16)
  | other

/-- What the calls of `Accept` answer. -/
structure SocketAcceptEnv where
  accept : Option ℕ
  fcntl : FcntlEnv
  allocOk : Bool
  peer : PeerAddress

/-- `sizeof(struct sockaddr_storage)`. -/
def sockaddrStorageSize : ℕ := 128

/-- `SocketTransport::ResolveAddress`. -/
def resolveAddress (env : ResolveEnv) (addr : TransportAddress) : TransportResult :=
  match addr.type with
  | .urma | .custom => .error
  | .ipv4 | .domain =>
    if env.inetPton then .success
    else
      match env.getaddrinfo with
      | none => .error
      | some addrLen =>
        if sockaddrStorageSize < addrLen then .error
        else if !env.copied then .error
        else .success
  | .ipv6 => if env.inetPton then .success else .error

/-- `SocketTransport::SetNonBlocking`. -/
def setNonBlocking (env : FcntlEnv) (fd : Handle) (kernel : Handles) :
    TransportResult × Handles :=
  let kernel := kernel.use fd
  if !env.getFl then (.error, kernel)
  else
    let kernel := kernel.use fd
    if !env.setFl then (.error, kernel) else (.success, kernel)

/-- `SocketTransport::SetSocketOptions`: one `setsockopt` for each option that is set, whose
answers are not looked at. -/
def setSocketOptions (config : TransportConfig) (fd : Handle) (kernel : Handles) :
    TransportResult × Handles :=
  let kernel := if config.tcpNoDelay then kernel.use fd else kernel
  let kernel := if 0 < config.sendTimeoutMs then kernel.use fd else kernel
  let kernel := if 0 < config.recvTimeoutMs then kernel.use fd else kernel
  let kernel := if 0 < config.sendBufferSize then kernel.use fd else kernel
  let kernel := if 0 < config.recvBufferSize then kernel.use fd else kernel
  (.success, kernel)

/-- `SocketTransport::MapSocketError`. -/
def mapSocketError : SocketErrno → TransportResult
  | .again => .wouldBlock
  | .connReset | .pipe => .connectionClosed
  | .timedOut => .timeout
  | .inProgress | .other => .error

namespace SocketTransport

/-- `SocketTransport::SocketTransport(int32_t fd)`. -/
def ofFd (fd : Handle) : SocketTransport := { fd := fd, connected := 0 ≤ fd.number }

/-- `SocketTransport::Close`. -/
def close (self : SocketTransport) (kernel : Handles) : SocketTransport × Handles :=
  if 0 ≤ self.fd.number then
    ({ self with fd := .empty, connected := false, bound := false }, kernel.close self.fd)
  else ({ self with connected := false, bound := false }, kernel)

/-- `SocketTransport::Connect`. -/
def connect (env : SocketConnectEnv) (addr : TransportAddress) (config : TransportConfig)
    (self : SocketTransport) (kernel : Handles) : TransportResult × SocketTransport × Handles :=
  let self := { self with config := config }
  if resolveAddress env.resolve addr ≠ .success then (resolveAddress env.resolve addr, self, kernel)
  else
    -- the number that was stored is lost
    let (fd, kernel) := kernel.obtain env.socket
    let self := { self with fd := fd }
    if self.fd.number < 0 then (.error, self, kernel)
    else
      let (ret, kernel) := setSocketOptions config self.fd kernel
      if ret ≠ .success then (ret, self.close kernel)
      else
        let (ret, kernel) := setNonBlocking env.fcntl self.fd kernel
        if ret ≠ .success then (ret, self.close kernel)
        else
          let kernel := kernel.use self.fd
          if env.connect ≠ none ∧ env.connect ≠ some .inProgress then
            (mapSocketError env.errno, self.close kernel)
          else (.success, { self with connected := true, remoteAddr := addr }, kernel)

/-- `SocketTransport::Bind`; `SO_REUSEADDR` may fail. -/
def bind (env : SocketBindEnv) (addr : TransportAddress) (self : SocketTransport)
    (kernel : Handles) : TransportResult × SocketTransport × Handles :=
  if resolveAddress env.resolve addr ≠ .success then (resolveAddress env.resolve addr, self, kernel)
  else
    let (fd, kernel) := kernel.obtain env.socket
    let self := { self with fd := fd }
    if self.fd.number < 0 then (.error, self, kernel)
    else
      let kernel := (kernel.use self.fd).use self.fd
      if !env.bind then (.error, self.close kernel)
      else
        let kernel := kernel.use self.fd
        if !env.listen then (.error, self.close kernel)
        else
          let (ret, kernel) := setNonBlocking env.fcntl self.fd kernel
          if ret ≠ .success then (ret, self.close kernel)
          else (.success, { self with bound := true, localAddr := addr }, kernel)

/-- The address of the peer in `Accept`. -/
def acceptedAddr : PeerAddress → TransportAddress
  | .inet ip port => { type := .ipv4, host := ip, port := port }
  | .inet6 ip port => { type := .ipv6, host := ip, port := port }
  | .other => {}

/-- `SocketTransport::Accept`: the new transport, if there is one. -/
def accept (env : SocketAcceptEnv) (self : SocketTransport) (kernel : Handles) :
    Option SocketTransport × Handles :=
  if !self.bound || self.fd.number < 0 then (none, kernel)
  else
    let (clientFd, kernel) := (kernel.use self.fd).obtain env.accept
    if clientFd.number < 0 then (none, kernel)
    else
      let (ret, kernel) := setNonBlocking env.fcntl clientFd kernel
      if ret ≠ .success then (none, kernel.close clientFd)
      else if !env.allocOk then (none, kernel.close clientFd)
      else
        (some { ofFd clientFd with config := self.config, remoteAddr := acceptedAddr env.peer },
          kernel)

/-- `SocketTransport::Clone`: every member is copied, the number too. -/
def clone (allocOk : Bool) (self : SocketTransport) : Option SocketTransport :=
  if !allocOk then none else some self

/-- `SocketTransport::Send` and `SocketTransport::Recv`, which differ in the system call; `n` and
`errno` are its answer. The second result is what `*sentLen` or `*recvLen` gets. -/
def transfer (n : ℤ) (errno : SocketErrno) (self : SocketTransport) (kernel : Handles) :
    TransportResult × Option ℕ × Handles :=
  if self.fd.number < 0 || !self.connected then (.error, none, kernel)
  else
    let kernel := kernel.use self.fd
    if 0 < n then (.success, some n.toNat, kernel)
    else if n = 0 then (.connectionClosed, some 0, kernel)
    else if errno = .again then (.wouldBlock, some 0, kernel)
    else (.error, some 0, kernel)

/-- `SocketTransport::SetConfig`. -/
def setConfig (config : TransportConfig) (self : SocketTransport) (kernel : Handles) :
    TransportResult × SocketTransport × Handles :=
  let self := { self with config := config }
  if 0 ≤ self.fd.number then
    let (ret, kernel) := setSocketOptions config self.fd kernel
    (ret, self, kernel)
  else (.success, self, kernel)

end SocketTransport

/-- The descriptors of a process, and the transports that exist. -/
structure SocketSystem where
  kernel : Handles := {}
  transports : Heap SocketTransport := {}
deriving DecidableEq

/-- A call on a transport, given by its pointer, or a step of another part of the process. -/
inductive SocketCall where
  | create (allocOk : Bool)
  | createFd (fd : ℤ)
  | connect (t : ℕ) (addr : TransportAddress) (config : TransportConfig) (env : SocketConnectEnv)
  | bind (t : ℕ) (addr : TransportAddress) (env : SocketBindEnv)
  | accept (t : ℕ) (env : SocketAcceptEnv)
  | clone (t : ℕ) (allocOk : Bool)
  | close (t : ℕ)
  | transfer (t : ℕ) (n : ℤ) (errno : SocketErrno)
  | setConfig (t : ℕ) (config : TransportConfig)
  | destroy (t : ℕ)
  | otherOpen (choice : Option ℕ)
  | otherClose (fd : ℤ)

/-- What a call returns. -/
inductive SocketAnswer where
  | done
  | result (ret : TransportResult)
  | transferred (ret : TransportResult) (len : Option ℕ)
  | transport (t : Option ℕ)
deriving DecidableEq

namespace SocketSystem

/-- A new transport, if there is one, and its pointer. -/
def add (transport : Option SocketTransport) (s : SocketSystem) : SocketAnswer × SocketSystem :=
  match transport with
  | none => (.transport none, s)
  | some transport =>
    (.transport (some s.transports.size),
      { s with transports := (s.transports.alloc transport).2 })

/-- Store the transport and the descriptors after a call. -/
def put (t : ℕ) (after : SocketTransport × Handles) (s : SocketSystem) : SocketSystem :=
  { kernel := after.2, transports := s.transports.modify t fun _ => after.1 }

/-- A call on a transport; one on a transport that does not exist is not made. -/
def on (t : ℕ) (f : SocketTransport → SocketAnswer × SocketSystem) (s : SocketSystem) :
    SocketAnswer × SocketSystem :=
  match s.transports.read t with
  | none => (.done, s)
  | some self => f self

/-- One call. -/
def apply (s : SocketSystem) : SocketCall → SocketAnswer × SocketSystem
  | .create allocOk => s.add (if allocOk then some {} else none)
  | .createFd fd => s.add (some (.ofFd ⟨fd, s.kernel.find fd⟩))
  | .connect t addr config env => s.on t fun self =>
    let (ret, after) := self.connect env addr config s.kernel
    (.result ret, s.put t after)
  | .bind t addr env => s.on t fun self =>
    let (ret, after) := self.bind env addr s.kernel
    (.result ret, s.put t after)
  | .accept t env => s.on t fun self =>
    let (new, kernel) := self.accept env s.kernel
    { s with kernel := kernel }.add new
  | .clone t allocOk => s.on t fun self => s.add (self.clone allocOk)
  | .close t => s.on t fun self => (.done, s.put t (self.close s.kernel))
  | .transfer t n errno => s.on t fun self =>
    let (ret, len, kernel) := self.transfer n errno s.kernel
    (.transferred ret len, { s with kernel := kernel })
  | .setConfig t config => s.on t fun self =>
    let (ret, after) := self.setConfig config s.kernel
    (.result ret, s.put t after)
  | .destroy t => s.on t fun self =>
    let (_, kernel) := self.close s.kernel
    (.done, { kernel := kernel, transports := s.transports.free t })
  | .otherOpen choice => (.done, { s with kernel := (s.kernel.openNumber choice).2 })
  | .otherClose fd => (.done, { s with kernel := s.kernel.closeNumber fd })

end SocketSystem

/-- The transports of a process, from its start on. -/
def socketMachine : Machine SocketSystem SocketCall SocketAnswer where
  initial s := s = {}
  step := SocketSystem.apply

end Scf
