import ScfSecurity.Library.Custody
import ScfSecurity.Library.Machine
import ScfSecurity.Policy.Decrypted

/-!
# PSK sessions of an application

An application makes sessions for pre-shared keys, `SCF_SessionNew`, and keeps them in variables.
It sets the key, the cipher suite and the protocol version of a session and reads the last two back.
A cipher suite that it reads belongs to OpenSSL; a version is a new buffer that the application must
give to `SCF_FreeBuffer`, with the length beside it.

The variables are numbered. The application passes what is in them, or their addresses, and does not
copy pointers from one to another.

## Main definitions

- `SessionWorld`: the variables, and the sessions and buffers behind them
- `PskSessionCall`, `pskSessionMachine`: the functions, called in any order
- `SessionStore`, `storeMachine`: the same without pointers, each variable has a value
-/

namespace Scf

open Automaton

/-! ### Variables and what is behind them -/

/-- A variable for a buffer of the library, with the variable for its length. -/
structure BufferVar where
  ptr : Option ℕ := none
  len : ℕ := 0
deriving DecidableEq

/-- A variable for a cipher suite of OpenSSL, with the variable for its length. -/
structure CipherVar where
  ptr : Option UInt16 := none
  len : ℕ := 0
deriving DecidableEq

/-- The variables of an application, the sessions and the buffers. Of a buffer that is deleted the
contents at that moment are noted, and so is the use of a pointer to something that is freed. -/
structure SessionWorld where
  sessions : Heap SslSession := {}
  buffers : Heap StdString := {}
  handles : ℕ → Option ℕ := fun _ => none
  ciphers : ℕ → CipherVar := fun _ => {}
  versions : ℕ → BufferVar := fun _ => {}
  deleted : List StdString := []
  dangling : Bool := false

/-- `OpenSSLAdaptor::ProtocolIntToStr`. -/
def protocolIntToStr (version : UInt32) : Option String :=
  [(tls12Version, "TLSv1.2"), (tls13Version, "TLSv1.3")].lookup version

/-- `OpenSSLAdaptor::SessionGetCipher`, with the address of a variable. -/
def adaptorSessionGetCipher (sess : SslSession) : Errno × CipherVar :=
  match sess.cipher with
  | none => (.sslSessGetCipher, ⟨none, 0⟩)
  -- the length makes `SCF_SessionFreeCipher` accept the variable
  | some cipherSuite => (.success, ⟨some cipherSuite, 1⟩)

/-- The text that `OpenSSLAdaptor::SessionGetProtocolVersion` gives out, unless the version has none
or no buffer is to be had. -/
def adaptorSessionGetProtocolVersion (allocOk : Bool) (sess : SslSession) : Option StdString :=
  match protocolIntToStr sess.protocolVersion with
  | none => none
  | some version => if allocOk then some (ascii version) else none

/-- `memset_s` with zeros over the first bytes of a buffer. -/
def wipe (len : ℕ) (content : StdString) : StdString := List.replicate len 0 ++ content.drop len

namespace SessionWorld

/-- Work on the session behind a pointer. -/
def onSession (x : ℕ) (f : SslSession → Errno × SslSession) (w : SessionWorld) :
    Errno × SessionWorld :=
  match w.sessions.read x with
  | none => (.error, { w with dangling := true })
  | some sess => ((f sess).1, { w with sessions := w.sessions.modify x fun _ => (f sess).2 })

/-! ### The functions -/

/-- `SCF_SessionNew`, with the result in the handle. -/
def scfSessionNew (g : Globals) (newOk : Bool) (v : ℕ) (w : SessionWorld) : SessionWorld :=
  match Scf.scfSessionNew g newOk with
  | none => { w with handles := Function.update w.handles v none }
  | some sess => { w with
      sessions := (w.sessions.alloc sess).2
      handles := Function.update w.handles v (some (w.sessions.alloc sess).1) }

/-- `SCF_SessionFree`, given the address of a handle or a null pointer. -/
def scfSessionFree (g : Globals) (sess : Option ℕ) (w : SessionWorld) : SessionWorld :=
  match sess with
  | none => w
  | some v =>
    match w.handles v with
    | none => w
    | some x =>
      if !g.scfInitialized || !g.adaptor then w
      else { w with
        sessions := w.sessions.free x
        dangling := w.dangling || (w.sessions.read x).isNone
        handles := Function.update w.handles v none }

/-- `SCF_SessionSetMasterKey`. -/
def scfSessionSetMasterKey (g : Globals) (decryptFunction : Option DecryptFunction) (v : ℕ)
    (masterKey : Option (List UInt8)) (isCipher setOk : Bool) (w : SessionWorld) :
    Errno × SessionWorld :=
  match w.handles v with
  | none => (.invalidParam, w)
  | some x => w.onSession x fun sess =>
      let call : KeyCall := ⟨g, decryptFunction, .valid, masterKey, isCipher, setOk⟩
      ((call.run sess).ret, (call.run sess).sess)

/-- `SCF_SessionSetCipher`. -/
def scfSessionSetCipher (g : Globals) (v : ℕ) (cipherSuite : Option UInt16) (setOk : Bool)
    (w : SessionWorld) : Errno × SessionWorld :=
  match w.handles v, cipherSuite with
  | some x, some cipherSuite => w.onSession x (Scf.scfSessionSetCipher g cipherSuite setOk)
  | _, _ => (.nullInput, w)

/-- `SCF_SessionSetProtocolVersion`. -/
def scfSessionSetProtocolVersion (g : Globals) (v : ℕ) (version : Option String) (setOk : Bool)
    (w : SessionWorld) : Errno × SessionWorld :=
  match w.handles v, version with
  | some x, some version => w.onSession x (Scf.scfSessionSetProtocolVersion g version setOk)
  | _, _ => (.nullInput, w)

/-- `SCF_SessionGetCipher`. -/
def scfSessionGetCipher (g : Globals) (v : ℕ) (cipherSuite : Option ℕ) (w : SessionWorld) :
    Errno × SessionWorld :=
  match w.handles v, cipherSuite with
  | some x, some c =>
    if !g.scfInitialized then (.notInit, w)
    else if !g.adaptor then (.invalidParam, w)
    else
      match w.sessions.read x with
      | none => (.error, { w with dangling := true })
      | some sess => ((adaptorSessionGetCipher sess).1,
          { w with ciphers := Function.update w.ciphers c (adaptorSessionGetCipher sess).2 })
  | _, _ => (.nullInput, w)

/-- `SCF_SessionFreeCipher`. Nothing is freed. -/
def scfSessionFreeCipher (g : Globals) (cipherSuite : Option ℕ) (w : SessionWorld) :
    SessionWorld :=
  match cipherSuite with
  | none => w
  | some c =>
    if (w.ciphers c).ptr = none ∨ (w.ciphers c).len = 0 then w
    else if !g.scfInitialized || !g.adaptor then w
    else { w with ciphers := Function.update w.ciphers c ⟨none, 0⟩ }

/-- `SCF_SessionGetProtocolVersion`. The length is set to zero first. If it fails after that, the
variable for the buffer keeps its value. -/
def scfSessionGetProtocolVersion (g : Globals) (v : ℕ) (version : Option ℕ) (allocOk : Bool)
    (w : SessionWorld) : Errno × SessionWorld :=
  match w.handles v, version with
  | some x, some o =>
    if !g.scfInitialized then (.notInit, w)
    else if !g.adaptor then (.invalidParam, w)
    else
      match w.sessions.read x with
      | none => (.error, { w with dangling := true })
      | some sess =>
        match adaptorSessionGetProtocolVersion allocOk sess with
        | none => (.sslSessGetProtocolVer,
            { w with versions := Function.update w.versions o ⟨(w.versions o).ptr, 0⟩ })
        | some text => (.success, { w with
            buffers := (w.buffers.alloc (text ++ [0])).2
            versions := Function.update w.versions o
              ⟨some (w.buffers.alloc (text ++ [0])).1, text.length⟩ })
  | _, _ => (.nullInput, w)

/-- `SCF_FreeBuffer`, with `OpenSSLAdaptor::FreeBuffer`. -/
def scfFreeBuffer (g : Globals) (buffer : Option ℕ) (w : SessionWorld) : SessionWorld :=
  match buffer with
  | none => w
  | some o =>
    match (w.versions o).ptr with
    | none => w
    | some b =>
      if (w.versions o).len = 0 then w
      else if !g.scfInitialized || !g.adaptor then w
      else
        match w.buffers.read b with
        | none => { w with dangling := true }
        | some content => { w with
            buffers := w.buffers.free b
            deleted := w.deleted ++ [wipe (w.versions o).len content]
            versions := Function.update w.versions o ⟨none, 0⟩ }

/-- The contents of the buffer in a variable. -/
def text (w : SessionWorld) (o : ℕ) : Option StdString :=
  (w.versions o).ptr.bind fun b => w.buffers.read b

end SessionWorld

/-! ### Runs -/

/-- A call, with what the environment answers. Handles and the other variables are given by their
numbers, null pointers by `none`. -/
inductive PskSessionCall where
  | new (v : ℕ) (newOk : Bool)
  | free (sess : Option ℕ)
  | setMasterKey (v : ℕ) (decryptFunction : Option DecryptFunction)
      (masterKey : Option (List UInt8)) (isCipher setOk : Bool)
  | setCipher (v : ℕ) (cipherSuite : Option UInt16) (setOk : Bool)
  | setProtocolVersion (v : ℕ) (version : Option String) (setOk : Bool)
  | getCipher (v : ℕ) (cipherSuite : Option ℕ)
  | freeCipher (cipherSuite : Option ℕ)
  | getProtocolVersion (v : ℕ) (version : Option ℕ) (allocOk : Bool)
  | freeBuffer (buffer : Option ℕ)

/-- What the application gets to know: the result, and what is in the variable that a function has
been given for it. -/
inductive SessionAnswer where
  | returned
  | created (ok : Bool)
  | code (ret : Errno)
  | cipher (ret : Errno) (result : CipherVar)
  | version (ret : Errno) (text : Option StdString) (len : ℕ)
deriving DecidableEq

/-- The result of `SCF_SessionGetCipher`, with the variable if there is one. -/
def SessionAnswer.ofCipher (ret : Errno) (result : Option CipherVar) : SessionAnswer :=
  result.elim (.code ret) (.cipher ret)

/-- The result of `SCF_SessionGetProtocolVersion`, with the variable if there is one. -/
def SessionAnswer.ofVersion (ret : Errno) (result : Option (Option StdString × ℕ)) :
    SessionAnswer :=
  result.elim (.code ret) fun text => .version ret text.1 text.2

def PskSessionCall.apply (g : Globals) (call : PskSessionCall) (w : SessionWorld) :
    SessionAnswer × SessionWorld :=
  match call with
  | new v newOk => (.created (scfSessionNew g newOk).isSome, w.scfSessionNew g newOk v)
  | free sess => (.returned, w.scfSessionFree g sess)
  | setMasterKey v decryptFunction masterKey isCipher setOk =>
    (w.scfSessionSetMasterKey g decryptFunction v masterKey isCipher setOk).map .code id
  | setCipher v cipherSuite setOk =>
    (w.scfSessionSetCipher g v cipherSuite setOk).map .code id
  | setProtocolVersion v version setOk =>
    (w.scfSessionSetProtocolVersion g v version setOk).map .code id
  | getCipher v cipherSuite =>
    let out := w.scfSessionGetCipher g v cipherSuite
    (.ofCipher out.1 (cipherSuite.map out.2.ciphers), out.2)
  | freeCipher cipherSuite => (.returned, w.scfSessionFreeCipher g cipherSuite)
  | getProtocolVersion v version allocOk =>
    let out := w.scfSessionGetProtocolVersion g v version allocOk
    (.ofVersion out.1 (version.map fun o => (out.2.text o, (out.2.versions o).len)), out.2)
  | freeBuffer buffer => (.returned, w.scfFreeBuffer g buffer)

/-- An application that calls the functions; the framework may be initialised and shut down in
between. -/
def pskSessionMachine : Machine SessionWorld (Globals × PskSessionCall) SessionAnswer where
  initial w := w = {}
  step w call := call.2.apply call.1 w

/-! ### The store -/

/-- What an application may think of its variables: a handle is null or has a session of its own, a
variable for a version is null or has a text. -/
structure SessionStore where
  sessions : ℕ → Option SslSession := fun _ => none
  ciphers : ℕ → CipherVar := fun _ => {}
  texts : ℕ → Option StdString × ℕ := fun _ => (none, 0)

namespace SessionStore

/-- A function on a session that the handle has to have. -/
def update (v : ℕ) (refused : Errno) (f : SslSession → Errno × SslSession) (s : SessionStore) :
    SessionAnswer × SessionStore :=
  match s.sessions v with
  | none => (.code refused, s)
  | some sess => (.code (f sess).1,
      { s with sessions := Function.update s.sessions v (some (f sess).2) })

/-- Put the cipher suite of a session into a variable. -/
def showCipher (g : Globals) (v c : ℕ) (s : SessionStore) : Errno × SessionStore :=
  match s.sessions v with
  | none => (.nullInput, s)
  | some sess =>
    if g.scfInitialized then ((adaptorSessionGetCipher sess).1,
      { s with ciphers := Function.update s.ciphers c (adaptorSessionGetCipher sess).2 })
    else (.notInit, s)

/-- Put the text for the version of a session into a variable. -/
def showVersion (g : Globals) (v o : ℕ) (allocOk : Bool) (s : SessionStore) :
    Errno × SessionStore :=
  match s.sessions v with
  | none => (.nullInput, s)
  | some sess =>
    if g.scfInitialized then
      match adaptorSessionGetProtocolVersion allocOk sess with
      | none => (.sslSessGetProtocolVer,
          { s with texts := Function.update s.texts o ((s.texts o).1, 0) })
      | some text => (.success,
          { s with texts := Function.update s.texts o (some (text ++ [0]), text.length) })
    else (.notInit, s)

/-- What a call does to the values of the variables. -/
def apply (g : Globals) (call : PskSessionCall) (s : SessionStore) : SessionAnswer × SessionStore :=
  match call with
  | .new v newOk => (.created (scfSessionNew g newOk).isSome,
      { s with sessions := Function.update s.sessions v (scfSessionNew g newOk) })
  | .free none => (.returned, s)
  | .free (some v) => (.returned, if g.scfInitialized then
      { s with sessions := Function.update s.sessions v none } else s)
  | .setMasterKey v decryptFunction masterKey isCipher setOk =>
    s.update v .invalidParam fun sess =>
      let call : KeyCall := ⟨g, decryptFunction, .valid, masterKey, isCipher, setOk⟩
      ((call.run sess).ret, (call.run sess).sess)
  | .setCipher v cipherSuite setOk => s.update v .nullInput fun sess =>
      cipherSuite.elim (.nullInput, sess) fun suite => scfSessionSetCipher g suite setOk sess
  | .setProtocolVersion v version setOk => s.update v .nullInput fun sess =>
      version.elim (.nullInput, sess) fun text => scfSessionSetProtocolVersion g text setOk sess
  | .getCipher _ none => (.code .nullInput, s)
  | .getCipher v (some c) =>
    (.cipher (s.showCipher g v c).1 ((s.showCipher g v c).2.ciphers c), (s.showCipher g v c).2)
  | .freeCipher none => (.returned, s)
  | .freeCipher (some c) => (.returned,
      if (s.ciphers c).ptr = none ∨ (s.ciphers c).len = 0 ∨ g.scfInitialized = false then s
      else { s with ciphers := Function.update s.ciphers c ⟨none, 0⟩ })
  | .getProtocolVersion _ none _ => (.code .nullInput, s)
  | .getProtocolVersion v (some o) allocOk =>
    let out := s.showVersion g v o allocOk
    (.version out.1 (out.2.texts o).1 (out.2.texts o).2, out.2)
  | .freeBuffer none => (.returned, s)
  | .freeBuffer (some o) => (.returned,
      if (s.texts o).1 = none ∨ (s.texts o).2 = 0 ∨ g.scfInitialized = false then s
      else { s with texts := Function.update s.texts o (none, 0) })

end SessionStore

/-- The calls on the values of the variables. -/
def storeMachine : Machine SessionStore (Globals × PskSessionCall) SessionAnswer where
  initial s := s = {}
  step s call := s.apply call.1 call.2

/-- The values of the variables. -/
def SessionWorld.view (w : SessionWorld) : SessionStore where
  sessions v := (w.handles v).bind fun x => w.sessions.read x
  ciphers := w.ciphers
  texts o := (w.text o, (w.versions o).len)

end Scf
