import ScfSecurity.Base
import Mathlib.Data.List.Infix
import Mathlib.Data.List.TakeWhile

/-!
# File contexts

An `SCF_FILE_CTX` says where the library finds a certificate or a key: in a file, whose path it
holds, or in the bytes it holds itself. `SCF_FileCtxSetBuf` checks both before it stores them, so
that the functions which use a file context later only test its pointer.

## Main definitions

- `FileSystem`: what the system calls report of the file system
- `scfCheckFilePathAndStat`: the check of a path
- `scfFileCtxSetBuf`: `SCF_FileCtxSetBuf`

## Main results

- `fileCtxSetBuf_success`: what a file context that was set satisfies
-/

namespace Scf

/-! ### Paths -/

/-- What `stat` reports: whether the file is a regular one, and its size. -/
structure FileStat where
  isReg : Bool
  size : ℕ
deriving DecidableEq

/-- The file system as the system calls show it: `realpath`, `stat`, `access` for reading, and the
bytes that a reader of the file gets, if it can be opened. -/
structure FileSystem where
  realpath : StdString → Option StdString
  stat : StdString → Option FileStat
  accessRead : StdString → Bool
  contents : StdString → Option StdString

/-- The string that a C function sees behind `c_str()` or a `const char *`. -/
def cStr (s : StdString) : StdString := s.takeWhile (· ≠ 0)

theorem cStr_eq_self_iff (s : StdString) : cStr s = s ↔ 0 ∉ s := by
  rw [cStr, List.takeWhile_eq_self_iff]
  simp only [decide_eq_true_eq]
  exact ⟨fun h hmem => h 0 hmem rfl, fun h x hx hzero => h (hzero ▸ hx)⟩

/-- `PATH_MAX`. -/
def pathMax : ℕ := 4096

/-- `MAX_FILE_SIZE`, which is also `BUF_MAX_LEN`. -/
def maxFileSize : ℕ := 10 * 1024 * 1024

/-- `CanonicalPath`. -/
def canonicalPath (fs : FileSystem) (path : StdString) : Option StdString :=
  if path = [] ∨ path.length > pathMax then none else fs.realpath (cStr path)

/-- `CheckFileStat`. -/
def checkFileStat (fs : FileSystem) (filePath : StdString) : Bool :=
  match fs.stat (cStr filePath) with
  | none => false
  | some st => if !st.isReg then false else !(st.size > maxFileSize || st.size == 0)

/-- `GetFolderPath`: the path before its last slash. -/
def getFolderPath (filePath : StdString) : Option StdString :=
  if 47 ∈ filePath then some (filePath.reverse.dropWhile (· ≠ 47)).tail.reverse else none

/-- `IsAbsolutePath`. -/
def isAbsolutePath (filePath : StdString) : Bool :=
  if filePath.head? ≠ some 47 then false
  else !(ascii "/../" <:+: cStr filePath || ascii "/./" <:+: cStr filePath)

/-- `CheckFilePath`. -/
def checkFilePath (fs : FileSystem) (filePath : StdString) : Bool :=
  if !isAbsolutePath filePath then false
  else
    match getFolderPath filePath with
    | none => false
    | some folderPath => (canonicalPath fs folderPath).isSome

/-- `SCF_CheckFilePathAndStat`. -/
def scfCheckFilePathAndStat (fs : FileSystem) (filePath : StdString) : Bool :=
  if !checkFilePath fs filePath then false
  else if !checkFileStat fs filePath then false
  else fs.accessRead (cStr filePath)

/-! ### File contexts -/

/-- `SCF_STORE_TYPE`. -/
abbrev SCFStoreType := UInt32

def SCFStoreType.filePath : SCFStoreType := 0
def SCFStoreType.buffer : SCFStoreType := 1
def SCFStoreType.error : SCFStoreType := 2

/-- `SCF_STORE_FORMAT`. -/
abbrev SCFStoreFormat := UInt32

def SCFStoreFormat.pem : SCFStoreFormat := 0

/-- `SCF_FILE_CTX`, without the password of a key. `buf` is a path or the data; a null pointer is
the empty list. -/
structure SCFFileCtx where
  storeType : SCFStoreType
  buf : StdString
  format : SCFStoreFormat
deriving DecidableEq

/-- What `SCF_FileCtxNew` hands out. -/
def newFileCtx : SCFFileCtx := ⟨.filePath, [], .pem⟩

/-- `CheckFileCtxBufInput`. -/
def checkFileCtxBufInput (fs : FileSystem) (ctxPtr bufPtr : Ptr) (storeType : SCFStoreType)
    (buf : StdString) (format : SCFStoreFormat) : Errno :=
  if ctxPtr = .null ∨ bufPtr = .null ∨ buf.length = 0 then .nullInput
  else if storeType ≥ .error ∨ format > .pem then .notSupport
  -- a path is checked when it is stored
  else if storeType = .filePath ∧ buf.length > pathMax - 1 then .sslPathTooLong
  else if storeType = .filePath ∧ !scfCheckFilePathAndStat fs buf then .filePathError
  else if storeType = .buffer ∧ buf.length > maxFileSize - 1 then .largeFile
  else .success

/-- `SCF_FileCtxSetBuf`; `copyOk` is the success of allocating and copying. -/
def scfFileCtxSetBuf (fs : FileSystem) (g : Globals) (ctxPtr bufPtr : Ptr)
    (storeType : SCFStoreType) (buf : StdString) (format : SCFStoreFormat) (copyOk : Bool)
    (ctx : SCFFileCtx) : Errno × SCFFileCtx :=
  if ctxPtr = .null ∨ bufPtr = .null ∨ buf.length = 0 then (.nullInput, ctx)
  else if storeType > .buffer ∨ storeType < .filePath ∨ format ≠ .pem then (.notSupport, ctx)
  else if !g.scfInitialized then (.notInit, ctx)
  else
    let ret := checkFileCtxBufInput fs ctxPtr bufPtr storeType buf format
    if ret ≠ .success then (ret, ctx)
    else if !copyOk then (.memAlloc, ctx)
    else (.success, { storeType := storeType, buf := buf, format := format })

theorem checkFileCtxBufInput_success {fs : FileSystem} {ctxPtr bufPtr : Ptr}
    {storeType : SCFStoreType} {buf : StdString} {format : SCFStoreFormat}
    (h : checkFileCtxBufInput fs ctxPtr bufPtr storeType buf format = .success) :
    (storeType = .filePath → scfCheckFilePathAndStat fs buf = true) ∧
      (storeType = .buffer → buf.length < maxFileSize) := by
  unfold checkFileCtxBufInput at h
  split_ifs at h with _ _ _ hpath hlarge
  constructor
  · intro htype
    simpa [htype] using hpath
  · intro htype
    have hle : ¬ buf.length > maxFileSize - 1 := fun hgt => hlarge ⟨htype, hgt⟩
    have hpos : 0 < maxFileSize := by decide
    omega

/-- A file context that was set holds what it was given: data in PEM format of a length within the
limit, or a path that passed the check. -/
theorem fileCtxSetBuf_success {fs : FileSystem} {g : Globals} {ctxPtr bufPtr : Ptr}
    {storeType : SCFStoreType} {buf : StdString} {format : SCFStoreFormat} {copyOk : Bool}
    {ctx ctx' : SCFFileCtx}
    (h : scfFileCtxSetBuf fs g ctxPtr bufPtr storeType buf format copyOk ctx = (.success, ctx')) :
    ctx' = ⟨storeType, buf, .pem⟩ ∧ g.scfInitialized = true ∧ buf ≠ [] ∧
      (storeType = .filePath → scfCheckFilePathAndStat fs buf = true) ∧
      (storeType = .buffer → buf.length < maxFileSize) := by
  unfold scfFileCtxSetBuf at h
  dsimp only at h
  split_ifs at h with hnull hsupport hinit hcheck hcopy
  all_goals obtain ⟨hret, hctx⟩ := Prod.mk.inj h
  case neg =>
    rw [not_or, not_or] at hnull hsupport
    refine ⟨?_, by simpa using hinit, fun hnil => hnull.2.2 (by rw [hnil]; rfl),
      checkFileCtxBufInput_success (not_not.mp hcheck)⟩
    rw [← not_not.mp hsupport.2.2]
    exact hctx.symm
  all_goals first
    | exact absurd hret hcheck
    | cases hret

end Scf
