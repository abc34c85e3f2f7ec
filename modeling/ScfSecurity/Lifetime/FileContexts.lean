import ScfSecurity.Library.Custody
import ScfSecurity.Library.Machine
import ScfSecurity.Tls.PrivateKey

/-!
# File contexts in memory

An application creates file contexts, gives them a path or data and the password of a key, and frees
them. The bytes are copied into blocks of their own, with a terminating NUL, and the length stands
beside the pointer. Passwords and keys are secret, so a block is to be zeroed before it is deleted,
and so is the vector that a password is decrypted into.

The handles are numbered. The application passes what is in them, or their addresses, and does not
copy pointers from one to another.

## Main definitions

- `FileMemory`: the handles, and the file contexts and blocks behind them
- `FileCtxCall`, `fileCtxMachine`: the functions, called in any order
- `FileCtxStore`, `fileCtxStoreMachine`: the same without pointers, each handle has a value
-/

namespace Scf

open Automaton

/-- `SCF_FILE_CTX`, as `SCF_FileCtxNew` zeroes it. -/
structure FileCtxCell where
  storeType : SCFStoreType := .filePath
  buf : Option ℕ := none
  bufLen : ℕ := 0
  format : SCFStoreFormat := .pem
  passwd : Option ℕ := none
  passwdLen : ℕ := 0

/-- The handles of an application, the file contexts and the blocks that they point to. When a block
or the vector of a password goes back to the allocator, it is noted what the functions have left in
it (the string that the path check makes of a path is neither), and so is the use of a pointer to
something that is freed. -/
structure FileMemory where
  ctxs : Heap FileCtxCell := {}
  blocks : Heap (List UInt8) := {}
  handles : ℕ → Option ℕ := fun _ => none
  returned : List (List UInt8) := []
  dangling : Bool := false

namespace FileMemory

/-- A block that `memset_s` zeroes over the length beside its pointer, and that is deleted. -/
def deleteBlock (ptr : Option ℕ) (len : ℕ) (m : FileMemory) : FileMemory :=
  match ptr with
  | none => m
  | some b =>
    if len = 0 then m
    else
      match m.blocks.read b with
      | none => { m with dangling := true }
      | some content => { m with
          blocks := m.blocks.free b
          returned := m.returned ++ [memsetS len content] }

/-- `SCF_FileCtxNew`, with the result in the handle. -/
def scfFileCtxNew (g : Globals) (allocOk : Bool) (v : ℕ) (m : FileMemory) : FileMemory :=
  if !g.scfInitialized || !allocOk then { m with handles := Function.update m.handles v none }
  else { m with
    ctxs := (m.ctxs.alloc {}).2
    handles := Function.update m.handles v (some (m.ctxs.alloc {}).1) }

/-- `SCF_FileCtxFree`, given the address of a handle or a null pointer. -/
def scfFileCtxFree (ctx : Option ℕ) (m : FileMemory) : FileMemory :=
  match ctx with
  | none => m
  | some v =>
    match m.handles v with
    | none => m
    | some x =>
      match m.ctxs.read x with
      | none => { m with dangling := true }
      | some cell =>
        let m := (m.deleteBlock cell.buf cell.bufLen).deleteBlock cell.passwd cell.passwdLen
        { m with ctxs := m.ctxs.free x, handles := Function.update m.handles v none }

/-- `SCF_FileCtxSetBuf`. The new block is there before the old one is deleted. -/
def scfFileCtxSetBuf (fs : FileSystem) (g : Globals) (v : ℕ) (storeType : SCFStoreType)
    (buf : Option StdString) (format : SCFStoreFormat) (allocOk : Bool) (m : FileMemory) :
    Errno × FileMemory :=
  match m.handles v, buf with
  | some x, some buf =>
    if buf.length = 0 then (.nullInput, m)
    else if storeType > .buffer ∨ storeType < .filePath ∨ format ≠ .pem then (.notSupport, m)
    else if !g.scfInitialized then (.notInit, m)
    else
      let ret := checkFileCtxBufInput fs .valid .valid storeType buf format
      if ret ≠ .success then (ret, m)
      else if !allocOk then (.memAlloc, m)
      else
        match m.ctxs.read x with
        | none => (.error, { m with dangling := true })
        | some cell =>
          let newBuf := (m.blocks.alloc (buf ++ [0])).1
          let m := { m with blocks := (m.blocks.alloc (buf ++ [0])).2 }
          let m := m.deleteBlock cell.buf cell.bufLen
          (.success, { m with ctxs := m.ctxs.modify x fun cell =>
            { cell with storeType, buf := some newBuf, bufLen := buf.length, format } })
  | _, _ => (.nullInput, m)

/-- A vector is destroyed. -/
def dropVector (plaintext : List UInt8) (m : FileMemory) : FileMemory :=
  { m with returned := m.returned ++ [plaintext] }

/-- The second part of `SCF_FileCtxSetPwd`, with the plaintext in its vector. -/
def storePasswd (plaintext : List UInt8) (allocOk : Bool) (x : ℕ) (m : FileMemory) :
    Errno × FileMemory :=
  if plaintext.length ≥ uint32Max then (.memAlloc, m.dropVector (zeroed plaintext))
  else if !allocOk then (.memAlloc, m.dropVector (zeroed plaintext))
  else if memcpyS plaintext.length plaintext.length = false then
    -- nothing was written to the new block; `memset_s` may refuse its length as well
    (.memAlloc, { m with
      blocks := (m.blocks.alloc []).2.free m.blocks.size
      returned := m.returned ++ [memsetS (plaintext.length + 1) [], zeroed plaintext] })
  else
    match m.ctxs.read x with
    | none => (.error, { m with dangling := true })
    | some cell =>
      let newPasswd := (m.blocks.alloc (plaintext ++ [0])).1
      let m := { m with blocks := (m.blocks.alloc (plaintext ++ [0])).2 }
      let m := m.deleteBlock cell.passwd cell.passwdLen
      (.success, { m with ctxs := m.ctxs.modify x fun cell =>
        { cell with passwd := some newPasswd, passwdLen := plaintext.length } }.dropVector
          (zeroed plaintext))

/-- `SCF_FileCtxSetPwd`. -/
def scfFileCtxSetPwd (g : Globals) (decryptFunction : Option DecryptFunction) (v : ℕ)
    (passwd : Option (List UInt8)) (isCipher allocOk : Bool) (m : FileMemory) :
    Errno × FileMemory :=
  if !g.scfInitialized then (.notInit, m)
  else
    match m.handles v with
    | none => (.nullInput, m)
    | some x =>
      match passwd with
      | none => (.success, m)
      | some passwd =>
        -- there may be no password
        if passwd.length = 0 then (.success, m)
        else if isCipher then
          let decrypted := cryptoUtilDecrypt decryptFunction passwd
          -- the plaintext stays as the callback left it
          if !decrypted.1 then (.error, m.dropVector decrypted.2)
          else m.storePasswd decrypted.2 allocOk x
        else m.storePasswd passwd allocOk x

end FileMemory

/-! ### Runs -/

/-- A call, with what the environment answers. Handles are given by their numbers, null pointers by
`none`. -/
inductive FileCtxCall where
  | new (v : ℕ) (allocOk : Bool)
  | free (ctx : Option ℕ)
  | setBuf (fs : FileSystem) (v : ℕ) (storeType : SCFStoreType) (buf : Option StdString)
      (format : SCFStoreFormat) (allocOk : Bool)
  | setPwd (decryptFunction : Option DecryptFunction) (v : ℕ) (passwd : Option (List UInt8))
      (isCipher allocOk : Bool)

/-- What the application gets to know. -/
inductive FileCtxAnswer where
  | returned
  | created (ok : Bool)
  | code (ret : Errno)
deriving DecidableEq

def FileCtxCall.apply (g : Globals) (call : FileCtxCall) (m : FileMemory) :
    FileCtxAnswer × FileMemory :=
  match call with
  | new v allocOk => (.created (g.scfInitialized && allocOk), m.scfFileCtxNew g allocOk v)
  | free ctx => (.returned, m.scfFileCtxFree ctx)
  | setBuf fs v storeType buf format allocOk =>
    (m.scfFileCtxSetBuf fs g v storeType buf format allocOk).map .code id
  | setPwd decryptFunction v passwd isCipher allocOk =>
    (m.scfFileCtxSetPwd g decryptFunction v passwd isCipher allocOk).map .code id

/-- An application that calls the functions; the framework may be initialised and shut down in
between. -/
def fileCtxMachine : Machine FileMemory (Globals × FileCtxCall) FileCtxAnswer where
  initial m := m = {}
  step m call := call.2.apply call.1 m

/-! ### The store -/

/-- What an application may think of its handles: a handle is null or has a file context with its
password. -/
abbrev FileCtxStore := ℕ → Option SCFKeyCtx

/-- A new file context. -/
def newKeyCtx : SCFKeyCtx := ⟨newFileCtx, none⟩

/-- A pointer that a handle has. -/
def ptrOf {α : Type} (value : Option α) : Ptr := if value.isSome then .valid else .null

/-- What a call does to the values of the handles, by the functions that the policy contexts are
given their files with. -/
def FileCtxStore.apply (g : Globals) (call : FileCtxCall) (s : FileCtxStore) :
    FileCtxAnswer × FileCtxStore :=
  match call with
  | .new v allocOk => (.created (g.scfInitialized && allocOk),
      Function.update s v (if g.scfInitialized && allocOk then some newKeyCtx else none))
  | .free none => (.returned, s)
  | .free (some v) => (.returned, Function.update s v none)
  | .setBuf fs v storeType buf format allocOk =>
    let out := Scf.scfFileCtxSetBuf fs g (ptrOf (s v)) (ptrOf buf) storeType (buf.getD []) format
      allocOk ((s v).getD newKeyCtx).toSCFFileCtx
    (.code out.1, Function.update s v ((s v).map fun k => { k with toSCFFileCtx := out.2 }))
  | .setPwd decryptFunction v passwd isCipher allocOk =>
    let call : PwdCall := ⟨g, decryptFunction, ptrOf (s v), passwd, isCipher, allocOk⟩
    let out := call.run ((s v).bind SCFKeyCtx.passwd)
    (.code out.ret, Function.update s v ((s v).map fun k => { k with passwd := out.passwd }))

/-- The calls on the values of the handles. -/
def fileCtxStoreMachine : Machine FileCtxStore (Globals × FileCtxCall) FileCtxAnswer where
  initial s := s = fun _ => none
  step s call := s.apply call.1 call.2

end Scf
