import ScfSecurity.Policy.Context
import ScfSecurity.Tls.CertConfig
import ScfSecurity.Tls.CertLedger
import Mathlib.Data.List.TakeWhile

/-!
# Adding certificates from a file or from a buffer

`SCF_AddCert` takes a certificate authority, an end-entity certificate, a CRL or an end-entity
certificate with its chain, each from a file or from a buffer. The adaptor has a function for each
of the eight cases. For a file it mostly hands the path to a loader of OpenSSL; for a buffer it
reads the objects itself, and its loops are not those of OpenSSL's loaders.

## Main definitions

- `scfAddCert`: `SCF_AddCert`
- `SameResult`: two calls succeed or fail alike and install the same certificates
- `SourcesAgree`: when a file and a buffer with the same text do

## Main results

- `loadCaChain_reflects`: the entries that the chain of a buffer leaves, against the ledger of
  references
- `scfAddCert_sameResult_iff`: the two sources give the same result exactly if `SourcesAgree` holds
-/

namespace Scf

variable {Cert Crl Kind : Type}

/-- `SCF_CERT_TYPE`. -/
abbrev SCFCertType := UInt32

def SCFCertType.ca : SCFCertType := 0
def SCFCertType.ee : SCFCertType := 1
def SCFCertType.crl : SCFCertType := 2
def SCFCertType.eeChain : SCFCertType := 3

namespace CertConfig

section Adaptor

variable [DecidableEq Cert] [DecidableEq Crl] [DecidableEq Kind] (lib : CertLib Cert Crl Kind)
  (fs : FileSystem)

/-- What the functions for a file do: hand the path to the loader, and report its failure as
`failure`. -/
def loadFile (load : StdString → CertConfig Cert Crl Kind → Bool × CertConfig Cert Crl Kind)
    (failure : Errno) (path : StdString) (cfg : CertConfig Cert Crl Kind) :
    Errno × CertConfig Cert Crl Kind :=
  if path.length = 0 then (.invalidParam, cfg)
  else
    let (ret, cfg) := load (cStr path) cfg
    (if ret then .success else failure, cfg)

/-- `OpenSSLAdaptor::AddCaCertByFile`. -/
def addCaCertByFile (path : StdString) (cfg : CertConfig Cert Crl Kind) :
    Errno × CertConfig Cert Crl Kind :=
  loadFile (loadVerifyLocations lib fs) .sslAddCaCertToStore path cfg

/-- `CertBuffer2X509`. -/
def certBuffer2X509 (cert : StdString) : Option Cert :=
  if cert.length > int32Max then none
  else (bioNewMemBuf lib cert).bind fun b => (pemReadX509 b).object?

/-- `OpenSSLAdaptor::AddCaCertByBuffer`. -/
def addCaCertByBuffer (buf : StdString) (cfg : CertConfig Cert Crl Kind) :
    Errno × CertConfig Cert Crl Kind :=
  match cfg.getCertStore with
  | none => (.sslGetCertStore, cfg)
  | some certStore =>
    match certBuffer2X509 lib buf with
    | none => (.sslParseCert, cfg)
    | some x509 =>
      let (ret, certStore) := certStore.addCert lib x509
      (if ret then .success else .sslAddCaCertToStore, { cfg with store := certStore })

/-- `OpenSSLAdaptor::AddEeCertByFile`. -/
def addEeCertByFile (path : StdString) (cfg : CertConfig Cert Crl Kind) :
    Errno × CertConfig Cert Crl Kind :=
  loadFile (useCertificateFile lib fs) .sslAddEeCertToStore path cfg

/-- `OpenSSLAdaptor::LoadEeCert`, with what is left to read. -/
def loadEeCert (b : List (PemBlock Cert Crl)) (cfg : CertConfig Cert Crl Kind) :
    Errno × List (PemBlock Cert Crl) × CertConfig Cert Crl Kind :=
  match pemReadX509 b with
  | .noStartLine => (.sslParseCert, [], cfg)
  | .failed => (.sslParseCert, [], cfg)
  | .object x509 rest =>
    let (ret, cfg) := cfg.useCertificate lib x509
    (if ret then .success else .sslAddEeCertToStore, rest, cfg)

/-- `OpenSSLAdaptor::AddEeCertByBuffer`. -/
def addEeCertByBuffer (buf : StdString) (cfg : CertConfig Cert Crl Kind) :
    Errno × CertConfig Cert Crl Kind :=
  if buf.length > int32Max then (.memAlloc, cfg)
  else
    match bioNewMemBuf lib buf with
    | none => (.memAlloc, cfg)
    | some b =>
      let (ret, _, cfg) := cfg.loadEeCert lib b
      (ret, cfg)

/-- `OpenSSLAdaptor::ReadCrlByFile`. -/
def readCrlByFile (path : StdString) : Option Crl :=
  if path.length = 0 then none
  else if !scfCheckFilePathAndStat fs (cStr path) then none
  else (fs.contents (cStr path)).bind fun text => (pemReadX509Crl (lib.pem text)).object?

/-- `OpenSSLAdaptor::ReadCrlByBuffer`. -/
def readCrlByBuffer (buf : StdString) : Option Crl :=
  if buf.length = 0 ∨ buf.length > int32Max then none
  else (bioNewMemBuf lib buf).bind fun bio => (pemReadX509Crl bio).object?

/-- `OpenSSLAdaptor::AddEeChainByFile`. -/
def addEeChainByFile (path : StdString) (cfg : CertConfig Cert Crl Kind) :
    Errno × CertConfig Cert Crl Kind :=
  loadFile (useCertificateChainFile lib fs) .sslAddEeChainToStore path cfg

/-- `OpenSSLAdaptor::LoadCaChain`. A read that fails ends the loop like the end of the text. -/
def loadCaChain (b : List (PemBlock Cert Crl)) (cfg : CertConfig Cert Crl Kind) :
    Errno × CertConfig Cert Crl Kind :=
  match _h : pemReadX509 b with
  | .noStartLine => (.success, cfg)
  | .failed => (.success, cfg)
  | .object ca rest =>
    let (addRet, cfg) := cfg.addExtraChainCert lib ca
    -- `X509_free`: a refused certificate just goes
    let cfg := if addRet then cfg.freeLastExtra else cfg
    if !addRet then (.sslLoadCaCertChain, cfg) else loadCaChain rest cfg
termination_by b.length
decreasing_by exact pemRead_length_lt _h

/-- `OpenSSLAdaptor::AddEeChainByBuffer`. -/
def addEeChainByBuffer (buf : StdString) (cfg : CertConfig Cert Crl Kind) :
    Errno × CertConfig Cert Crl Kind :=
  if buf.length > int32Max then (.memAlloc, cfg)
  else
    match bioNewMemBuf lib buf with
    | none => (.memAlloc, cfg)
    | some b =>
      let (ret, rest, cfg) := cfg.loadEeCert lib b
      if ret = .success then cfg.loadCaChain lib rest else (ret, cfg)

/-- The choice between the two sources that `AddCaCert`, `AddEeCert` and `AddEeChain` make. -/
def addBySource (byFile byBuffer : StdString → CertConfig Cert Crl Kind →
    Errno × CertConfig Cert Crl Kind) (certCtx : SCFFileCtx) (cfg : CertConfig Cert Crl Kind) :
    Errno × CertConfig Cert Crl Kind :=
  if certCtx.format ≠ .pem then (.sslFormatType, cfg)
  else if certCtx.storeType = .filePath then byFile certCtx.buf cfg
  else if certCtx.storeType = .buffer then byBuffer certCtx.buf cfg
  else (.sslStoreType, cfg)

/-- `OpenSSLAdaptor::AddCaCert`. -/
def addCaCert (certCtx : SCFFileCtx) (cfg : CertConfig Cert Crl Kind) :
    Errno × CertConfig Cert Crl Kind :=
  addBySource (addCaCertByFile lib fs) (addCaCertByBuffer lib) certCtx cfg

/-- `OpenSSLAdaptor::AddEeCert`. -/
def addEeCert (certCtx : SCFFileCtx) (cfg : CertConfig Cert Crl Kind) :
    Errno × CertConfig Cert Crl Kind :=
  addBySource (addEeCertByFile lib fs) (addEeCertByBuffer lib) certCtx cfg

/-- `OpenSSLAdaptor::AddEeChain`. -/
def addEeChain (certCtx : SCFFileCtx) (cfg : CertConfig Cert Crl Kind) :
    Errno × CertConfig Cert Crl Kind :=
  addBySource (addEeChainByFile lib fs) (addEeChainByBuffer lib) certCtx cfg

/-- The end of `AddCrl`: add what was read, a null pointer included. -/
def addReadCrl (crl : Option Crl) (certStore : CertStore Cert Crl)
    (cfg : CertConfig Cert Crl Kind) : Errno × CertConfig Cert Crl Kind :=
  let (ret, certStore) := certStore.addCrl lib crl
  (if ret then .success else .sslLoadCrl, { cfg with store := certStore })

/-- `OpenSSLAdaptor::AddCrl`. The flag is set before the CRL is read. -/
def addCrl (certCtx : SCFFileCtx) (cfg : CertConfig Cert Crl Kind) :
    Errno × CertConfig Cert Crl Kind :=
  if certCtx.format ≠ .pem then (.sslFormatType, cfg)
  else
    match cfg.getCertStore with
    | none => (.sslGetCertStore, cfg)
    | some certStore =>
      if !lib.storeSetFlags then (.sslSetCrlCheckFlags, cfg)
      else
        let certStore := { certStore with crlCheck := true }
        if certCtx.storeType = .filePath then
          cfg.addReadCrl lib (readCrlByFile lib fs certCtx.buf) certStore
        else if certCtx.storeType = .buffer then
          cfg.addReadCrl lib (readCrlByBuffer lib certCtx.buf) certStore
        else (.sslStoreType, { cfg with store := certStore })

/-- `OpenSSLAdaptor::AddCert`. -/
def addCert (certCtx : SCFFileCtx) (type : SCFCertType) (cfg : CertConfig Cert Crl Kind) :
    Errno × CertConfig Cert Crl Kind :=
  if type = .ca then cfg.addCaCert lib fs certCtx
  else if type = .ee then cfg.addEeCert lib fs certCtx
  else if type = .crl then cfg.addCrl lib fs certCtx
  else if type = .eeChain then cfg.addEeChain lib fs certCtx
  else (.invalidParam, cfg)

end Adaptor

end CertConfig

/-- `SCF_AddCert`; `cfg` are the certificates of the context's `SSL_CTX`. -/
def scfAddCert [DecidableEq Cert] [DecidableEq Crl] [DecidableEq Kind] (lib : CertLib Cert Crl Kind)
    (fs : FileSystem) (g : Globals) (ctxPtr certPtr : Ptr) (ctx : SCFPolicyCtx)
    (certCtx : SCFFileCtx) (type : SCFCertType) (cfg : CertConfig Cert Crl Kind) :
    Errno × CertConfig Cert Crl Kind :=
  if ctxPtr = .null ∨ certPtr = .null then (.nullInput, cfg)
  else if ctx.role = .none then (.invalidParam, cfg)
  else if !g.scfInitialized then (.notInit, cfg)
  else if !g.adaptor then (.invalidParam, cfg)
  else cfg.addCert lib fs certCtx type

/-! ### Comparing the two sources -/

/-- Two calls succeed or fail alike and leave the same certificates installed. -/
def SameResult (r r' : Errno × CertConfig Cert Crl Kind) : Prop :=
  (r.1 = .success ↔ r'.1 = .success) ∧ r.2.installed = r'.2.installed

theorem SameResult.refl (r : Errno × CertConfig Cert Crl Kind) : SameResult r r :=
  ⟨Iff.rfl, rfl⟩

theorem SameResult.certs {r r' : Errno × CertConfig Cert Crl Kind} (h : SameResult r r') :
    r.2.store.certs = r'.2.store.certs :=
  congrArg (fun installed => installed.2.1) h.2

section Agree

variable (lib : CertLib Cert Crl Kind) (blocks : List (PemBlock Cert Crl))
  (cfg : CertConfig Cert Crl Kind)

/-- The certificate that a buffer with these blocks adds to the store: the first one, if it can be
read and the store takes it. -/
def CertLib.bufferCa : Option Cert :=
  if lib.bioNewMemBuf then (pemReadX509 blocks).object?.filter lib.storeAddCert else none

/-- When a file of certificate authorities does what the buffer does. If the buffer adds a
certificate, the whole text must decode and count as loaded, and what the store takes of it before
the first refusal must be nothing new to it but that certificate, which it then has. If the buffer
adds none, the file must not either: the text does not decode, or is empty, or it does not count as
loaded and nothing new is added before the first refusal. -/
def CaAgrees : Prop :=
  match lib.bufferCa blocks with
  | some x509 =>
    ∃ items, pemX509InfoRead blocks = some items ∧ lib.Loads items ∧
      (∀ item ∈ items.takeWhile lib.accepts, item = .inl x509 ∨ cfg.store.Has item) ∧
      (.inl x509 ∈ items.takeWhile lib.accepts ∨ cfg.store.Has (.inl x509))
  | none =>
    ∀ items, pemX509InfoRead blocks = some items → items ≠ [] →
      ¬ lib.Loads items ∧ ∀ item ∈ items.takeWhile lib.accepts, cfg.store.Has item

/-- The buffer can be read, or there is nothing in the text that OpenSSL would use. -/
def EeAgrees : Prop :=
  lib.bioNewMemBuf = true ∨ (pemReadX509 blocks).object?.filter lib.useCertificate = none

/-- The same for a CRL; nothing is read if the flag for CRL checks cannot be set. -/
def CrlAgrees : Prop :=
  lib.bioNewMemBuf = true ∨ lib.storeSetFlags = false ∨
    (pemReadX509Crl blocks).object?.filter lib.storeAddCrl = none

/-- When the loop over the chain of a file and that over the chain of a buffer do the same, for the
end-entity certificate `x509` with `rest` behind it. The file's loop replaces the chain of the
certificate, the buffer's appends to the extra chain, which every certificate without a chain of
its own uses, and frees what it appends. -/
structure ChainAgrees (x509 : Cert) (rest : List (PemBlock Cert Crl)) : Prop where
  /-- Both loops end well or both end with an error. -/
  ends : ((pemReadX509s rest).1.all lib.addChainCert && (pemReadX509s rest).2) =
    (pemReadX509s rest).1.all lib.addExtraChainCert
  /-- If the certificate has no chain of its own, the buffer appends nothing, and the extra chain is
  already the chain of the file. -/
  noChain : cfg.chains (lib.kind x509) = [] →
    (pemReadX509s rest).1.takeWhile lib.addExtraChainCert = [] ∧
      ((pemReadX509s rest).1.takeWhile lib.addChainCert = [] ∨
        cfg.extraCerts = ((pemReadX509s rest).1.takeWhile lib.addChainCert).map some)
  /-- If it has one, that is already the chain of the file. -/
  ownChain : cfg.chains (lib.kind x509) ≠ [] →
    cfg.chains (lib.kind x509) = (pemReadX509s rest).1.takeWhile lib.addChainCert ∨
      (pemReadX509s rest).1.takeWhile lib.addChainCert = [] ∧
        cfg.extraCerts = (cfg.chains (lib.kind x509)).map some
  /-- The buffer appends nothing, or every other certificate has a chain of its own. -/
  others : (pemReadX509s rest).1.takeWhile lib.addExtraChainCert = [] ∨
    ∀ kind, kind ≠ lib.kind x509 → cfg.pkeys kind ≠ none → cfg.chains kind ≠ []

/-- If no buffer can be read, the file must fail on the chain and find certificate and chain
installed already. -/
structure ChainStays (x509 : Cert) (rest : List (PemBlock Cert Crl)) : Prop where
  fails : ((pemReadX509s rest).1.all lib.addChainCert && (pemReadX509s rest).2) = false
  cert : cfg.pkeys (lib.kind x509) = some x509
  chain : cfg.chainFor (lib.kind x509) =
    if (pemReadX509s rest).1.takeWhile lib.addChainCert = [] then cfg.extraCerts
    else ((pemReadX509s rest).1.takeWhile lib.addChainCert).map some

/-- When a file with an end-entity certificate and its chain does what the buffer does: the
certificate cannot be used, or the chains agree. -/
def EeChainAgrees : Prop :=
  ∀ x509 rest, pemReadX509 blocks = .object x509 rest → lib.useCertificate x509 = true →
    if lib.bioNewMemBuf then ChainAgrees lib cfg x509 rest else ChainStays lib cfg x509 rest

/-- When a file and a buffer with the same text give the same result. -/
def SourcesAgree (type : SCFCertType) : Prop :=
  if type = .ca then CaAgrees lib blocks cfg
  else if type = .ee then EeAgrees lib blocks
  else if type = .crl then CrlAgrees lib blocks
  else if type = .eeChain then EeChainAgrees lib blocks cfg
  else True

end Agree

/-! ### Certificate authorities -/

section Results

variable {lib : CertLib Cert Crl Kind} {fs : FileSystem} {path text : StdString}
  {cfg : CertConfig Cert Crl Kind}

theorem certBuffer2X509_filter (hlen : text.length ≤ int32Max) :
    (CertConfig.certBuffer2X509 lib text).filter lib.storeAddCert = lib.bufferCa (lib.pem text) := by
  unfold CertConfig.certBuffer2X509 CertLib.bufferCa bioNewMemBuf
  rw [if_neg (Nat.not_lt.mpr hlen)]
  cases lib.bioNewMemBuf <;> rfl

theorem bufferCa_first {blocks : List (PemBlock Cert Crl)} {x509 : Cert}
    (h : lib.bufferCa blocks = some x509) : (pemReadX509 blocks).object? = some x509 := by
  unfold CertLib.bufferCa at h
  split_ifs at h
  exact (Option.filter_eq_some_iff.mp h).1

/-- The functions for a file report what the loader says and leave what it leaves. -/
theorem loadFile_spec
    (load : StdString → CertConfig Cert Crl Kind → Bool × CertConfig Cert Crl Kind)
    {failure : Errno} (hfailure : failure ≠ .success) (hpath : path ≠ [])
    (cfg : CertConfig Cert Crl Kind) :
    ((CertConfig.loadFile load failure path cfg).1 = .success ↔ (load (cStr path) cfg).1 = true) ∧
      (CertConfig.loadFile load failure path cfg).2 = (load (cStr path) cfg).2 := by
  unfold CertConfig.loadFile
  rw [if_neg (mt List.length_eq_zero_iff.mp hpath)]
  dsimp only
  refine ⟨?_, rfl⟩
  cases (load (cStr path) cfg).1 with
  | false => exact iff_of_false hfailure Bool.false_ne_true
  | true => exact iff_of_true rfl rfl

section Store

variable [DecidableEq Cert]

theorem addCaCertByBuffer_fst (hlen : text.length ≤ int32Max) :
    (cfg.addCaCertByBuffer lib text).1 = .success ↔ lib.bufferCa (lib.pem text) ≠ none := by
  rw [← certBuffer2X509_filter hlen]
  unfold CertConfig.addCaCertByBuffer CertConfig.getCertStore
  cases hx : CertConfig.certBuffer2X509 lib text with
  | none => simp
  | some x509 =>
    by_cases hok : lib.storeAddCert x509 = true
    · simp [CertStore.addCert, hok]
    · simp [CertStore.addCert, hok]

/-- A buffer adds at most one certificate, and only to the store. -/
theorem addCaCertByBuffer_snd (lib : CertLib Cert Crl Kind) (hlen : text.length ≤ int32Max)
    (cfg : CertConfig Cert Crl Kind) :
    ∃ store, (cfg.addCaCertByBuffer lib text).2 = { cfg with store := store } ∧
      ∀ item, store.Has item ↔ cfg.store.Has item ∨
        ∃ x509, lib.bufferCa (lib.pem text) = some x509 ∧ item = .inl x509 := by
  rw [← certBuffer2X509_filter hlen]
  unfold CertConfig.addCaCertByBuffer CertConfig.getCertStore
  cases hx : CertConfig.certBuffer2X509 lib text with
  | none => exact ⟨cfg.store, rfl, by simp⟩
  | some x509 =>
    refine ⟨_, rfl, fun item => ?_⟩
    rw [Option.filter_some]
    by_cases hok : lib.storeAddCert x509 = true
    · rcases item with y | y
      · simpa [CertStore.addCert, CertStore.Has, hok, eq_comm] using or_comm
      · simp [CertStore.addCert, CertStore.Has, hok]
    · simp [CertStore.addCert, hok]

variable [DecidableEq Crl]

/-- What the two sources do with certificate authorities, as far as it shows. -/
theorem sameResult_ca (hpath : path ≠ []) (hread : fs.contents (cStr path) = some text)
    (hlen : text.length ≤ int32Max) :
    SameResult (cfg.addCaCertByFile lib fs path) (cfg.addCaCertByBuffer lib text) ↔
      ((∃ items, pemX509InfoRead (lib.pem text) = some items ∧ items ≠ [] ∧ lib.Loads items) ↔
          lib.bufferCa (lib.pem text) ≠ none) ∧
        ∀ item, (cfg.store.Has item ∨ ∃ items, pemX509InfoRead (lib.pem text) = some items ∧
            item ∈ items.takeWhile lib.accepts) ↔
          (cfg.store.Has item ∨ ∃ x509, lib.bufferCa (lib.pem text) = some x509 ∧
            item = .inl x509) := by
  obtain ⟨store, hstore, hhas⟩ := CertConfig.loadVerifyLocations_snd lib hread cfg
  obtain ⟨store', hstore', hhas'⟩ := addCaCertByBuffer_snd lib hlen cfg
  obtain ⟨hfst, hsnd⟩ := loadFile_spec (CertConfig.loadVerifyLocations lib fs)
    (show Errno.sslAddCaCertToStore ≠ .success by decide) hpath cfg
  unfold SameResult CertConfig.addCaCertByFile
  rw [hfst, CertConfig.loadVerifyLocations_fst hread, addCaCertByBuffer_fst hlen, hsnd, hstore,
    hstore', CertConfig.installed_store_iff]
  simp only [hhas, hhas']

theorem sameResult_ca_iff (hpath : path ≠ []) (hread : fs.contents (cStr path) = some text)
    (hlen : text.length ≤ int32Max) :
    SameResult (cfg.addCaCertByFile lib fs path) (cfg.addCaCertByBuffer lib text) ↔
      CaAgrees lib (lib.pem text) cfg := by
  rw [sameResult_ca hpath hread hlen, CaAgrees]
  cases hx : lib.bufferCa (lib.pem text) with
  | some x509 =>
    simp only [Option.some.injEq, exists_eq_left']
    constructor
    · rintro ⟨hsucc, hstore⟩
      obtain ⟨items, hitems, -, hloads⟩ := hsucc.mpr (Option.some_ne_none _)
      refine ⟨items, hitems, hloads, fun item hitem => ?_, ?_⟩
      · exact ((hstore item).mp (.inr ⟨items, hitems, hitem⟩)).symm
      · obtain hhas | ⟨items', hitems', hmem⟩ := (hstore (.inl x509)).mpr (.inr rfl)
        · exact .inr hhas
        · obtain rfl : items' = items := Option.some.inj (hitems'.symm.trans hitems)
          exact .inl hmem
    · rintro ⟨items, hitems, hloads, hall, hfirst⟩
      have hmem : .inl x509 ∈ items := mem_pemX509InfoRead (bufferCa_first hx) hitems
      refine ⟨iff_of_true ⟨items, hitems, List.ne_nil_of_mem hmem, hloads⟩ (Option.some_ne_none _),
        fun item => ⟨?_, ?_⟩⟩
      · rintro (hhas | ⟨items', hitems', hitem⟩)
        · exact .inl hhas
        · obtain rfl : items' = items := Option.some.inj (hitems'.symm.trans hitems)
          exact (hall item hitem).symm
      · rintro (hhas | rfl)
        · exact .inl hhas
        · exact hfirst.elim (fun htaken => .inr ⟨items, hitems, htaken⟩) .inl
  | none =>
    simp only [reduceCtorEq, false_and, exists_false, or_false]
    constructor
    · rintro ⟨hsucc, hstore⟩ items hitems hne
      refine ⟨fun hloads => hsucc.mp ⟨items, hitems, hne, hloads⟩ rfl, fun item hitem => ?_⟩
      exact (hstore item).mp (.inr ⟨items, hitems, hitem⟩)
    · intro hall
      refine ⟨iff_of_false ?_ (not_not.mpr rfl), fun item => ⟨?_, .inl⟩⟩
      · rintro ⟨items, hitems, hne, hloads⟩
        exact (hall items hitems hne).1 hloads
      · rintro (hhas | ⟨items, hitems, hitem⟩)
        · exact hhas
        · have hne : items ≠ [] := by
            rintro rfl
            cases hitem
          exact (hall items hitems hne).2 item hitem

end Store

/-! ### CRLs -/

theorem readCrlByFile_eq (hpath : path ≠ [])
    (hcheck : scfCheckFilePathAndStat fs (cStr path) = true)
    (hread : fs.contents (cStr path) = some text) :
    CertConfig.readCrlByFile lib fs path = (pemReadX509Crl (lib.pem text)).object? := by
  unfold CertConfig.readCrlByFile
  rw [if_neg (mt List.length_eq_zero_iff.mp hpath), hcheck, hread]
  rfl

theorem readCrlByBuffer_eq (htext : text ≠ []) (hlen : text.length ≤ int32Max) :
    CertConfig.readCrlByBuffer lib text =
      if lib.bioNewMemBuf then (pemReadX509Crl (lib.pem text)).object? else none := by
  unfold CertConfig.readCrlByBuffer bioNewMemBuf
  rw [if_neg (not_or.mpr ⟨mt List.length_eq_zero_iff.mp htext, Nat.not_lt.mpr hlen⟩)]
  cases lib.bioNewMemBuf <;> rfl

/-- A CRL gives what a null pointer gives only if the store refuses it. -/
theorem sameResult_addReadCrl_none [DecidableEq Crl] {store : CertStore Cert Crl}
    (crl : Option Crl) :
    SameResult (cfg.addReadCrl lib crl store) (cfg.addReadCrl lib none store) ↔
      crl.filter lib.storeAddCrl = none := by
  cases crl with
  | none => exact iff_of_true (.refl _) rfl
  | some crl =>
    by_cases hok : lib.storeAddCrl crl = true
    · simp [SameResult, CertConfig.addReadCrl, CertStore.addCrl, hok]
    · simp [SameResult, CertConfig.addReadCrl, CertStore.addCrl, hok]

theorem addCrl_file [DecidableEq Crl] :
    cfg.addCrl lib fs ⟨.filePath, path, .pem⟩ =
      if !lib.storeSetFlags then (.sslSetCrlCheckFlags, cfg)
      else cfg.addReadCrl lib (CertConfig.readCrlByFile lib fs path)
        { cfg.store with crlCheck := true } := rfl

theorem addCrl_buffer [DecidableEq Crl] :
    cfg.addCrl lib fs ⟨.buffer, text, .pem⟩ =
      if !lib.storeSetFlags then (.sslSetCrlCheckFlags, cfg)
      else cfg.addReadCrl lib (CertConfig.readCrlByBuffer lib text)
        { cfg.store with crlCheck := true } := rfl

theorem sameResult_crl_iff [DecidableEq Crl] (hpath : path ≠ [])
    (hcheck : scfCheckFilePathAndStat fs (cStr path) = true)
    (hread : fs.contents (cStr path) = some text) (htext : text ≠ [])
    (hlen : text.length ≤ int32Max) :
    SameResult (cfg.addCrl lib fs ⟨.filePath, path, .pem⟩)
        (cfg.addCrl lib fs ⟨.buffer, text, .pem⟩) ↔
      CrlAgrees lib (lib.pem text) := by
  rw [addCrl_file, addCrl_buffer, readCrlByFile_eq hpath hcheck hread,
    readCrlByBuffer_eq htext hlen, CrlAgrees]
  cases hflags : lib.storeSetFlags with
  | false => exact iff_of_true (.refl _) (.inr (.inl rfl))
  | true =>
    cases hbio : lib.bioNewMemBuf with
    | true => exact iff_of_true (.refl _) (.inl rfl)
    | false => simpa using sameResult_addReadCrl_none _

/-! ### The chain of a buffer -/

/-- The buffer's loop appends entries without a certificate behind them, as many as there are
certificates before the first refusal, and fails only for a refusal. -/
theorem loadCaChain_eq (blocks : List (PemBlock Cert Crl)) (cfg : CertConfig Cert Crl Kind) :
    cfg.loadCaChain lib blocks =
      (if (pemReadX509s blocks).1.all lib.addExtraChainCert then .success
        else .sslLoadCaCertChain,
        { cfg with
          extraCerts := cfg.extraCerts ++
            ((pemReadX509s blocks).1.takeWhile lib.addExtraChainCert).map fun _ => none }) := by
  induction blocks using pemReadX509s.induct generalizing cfg with
  | case1 blocks ca rest h ih =>
    rw [CertConfig.loadCaChain]
    split
    case h_3 heq =>
      cases h.symm.trans heq
      rw [pemReadX509s_object h]
      by_cases hok : lib.addExtraChainCert ca = true
      · simp [CertConfig.addExtraChainCert, CertConfig.freeLastExtra, hok, ih]
      · simp [CertConfig.addExtraChainCert, hok]
    all_goals
      rename_i heq
      cases h.symm.trans heq
  | case2 blocks h =>
    rw [CertConfig.loadCaChain, pemReadX509s_noStartLine h]
    split <;> rename_i heq <;> cases h.symm.trans heq
    simp
  | case3 blocks h =>
    rw [CertConfig.loadCaChain, pemReadX509s_failed h]
    split <;> rename_i heq <;> cases h.symm.trans heq
    simp

/-- For each entry of the extra chain, whether its certificate is still there. -/
def CertLedger.alive (l : CertLedger) : List Bool := l.extraCerts.map fun x509 => 0 < l.refs x509

/-- Reading a certificate and freeing it again leaves the older ones alone. -/
theorem CertLedger.alive_readFreed {l : CertLedger} (h : ∀ x509 ∈ l.extraCerts, x509 < l.next) :
    (l.pemReadBioX509.2.x509Free l.next).alive = l.alive := by
  refine List.map_congr_left fun x509 hmem => ?_
  have hne : x509 ≠ l.next := Nat.ne_of_lt (h x509 hmem)
  simp [x509Free, pemReadBioX509, Function.update_of_ne hne]

/-- A certificate that is added in between is an entry without a certificate. -/
theorem CertLedger.alive_addFreed {l : CertLedger} (h : ∀ x509 ∈ l.extraCerts, x509 < l.next) :
    ((l.pemReadBioX509.2.sslCtxAddExtraChainCert l.next).x509Free l.next).alive =
      l.alive ++ [false] := by
  rw [← CertLedger.alive_readFreed h]
  simp [alive, x509Free, sslCtxAddExtraChainCert, pemReadBioX509]

/-- The loop as the ledger of references sees it: the same result, and for each certificate added
an entry whose certificate is gone. -/
theorem loadCaChain_ledger (flags : List Bool) {l : CertLedger}
    (h : ∀ x509 ∈ l.extraCerts, x509 < l.next) :
    (loadCaChain flags l).1 = (if flags.all id then .success else .sslLoadCaCertChain) ∧
      (loadCaChain flags l).2.alive = l.alive ++ (flags.takeWhile id).map fun _ => false := by
  induction flags generalizing l with
  | nil => exact ⟨rfl, (List.append_nil _).symm⟩
  | cons addOk flags ih =>
    cases addOk with
    | false =>
      refine ⟨rfl, ?_⟩
      rw [List.takeWhile_cons_of_neg Bool.false_ne_true, List.map_nil, List.append_nil]
      exact CertLedger.alive_readFreed h
    | true =>
      have hnext : ∀ x509 ∈ l.extraCerts ++ [l.next], x509 < l.next + 1 := by
        intro x509 hmem
        rcases List.mem_append.mp hmem with hold | hnew
        · exact Nat.lt_succ_of_lt (h x509 hold)
        · exact Nat.lt_succ_of_le (Nat.le_of_eq (List.mem_singleton.mp hnew))
      obtain ⟨hret, halive⟩ := ih (l := (l.pemReadBioX509.2.sslCtxAddExtraChainCert l.next).x509Free
        l.next) hnext
      refine ⟨hret, halive.trans ?_⟩
      rw [CertLedger.alive_addFreed h, List.append_assoc]
      rfl

/-- The two models of the loop tell the same: an entry of the extra chain has no certificate behind
it exactly if the ledger has no reference to it left. -/
theorem loadCaChain_reflects {l : CertLedger} (hlt : ∀ x509 ∈ l.extraCerts, x509 < l.next)
    (hcfg : l.alive = cfg.extraCerts.map Option.isSome) (blocks : List (PemBlock Cert Crl)) :
    let certs := (pemReadX509s blocks).1.map lib.addExtraChainCert
    (loadCaChain certs l).1 = (cfg.loadCaChain lib blocks).1 ∧
      (loadCaChain certs l).2.alive =
        (cfg.loadCaChain lib blocks).2.extraCerts.map Option.isSome := by
  intro certs
  obtain ⟨hret, halive⟩ := loadCaChain_ledger certs hlt
  rw [hret, halive, loadCaChain_eq, hcfg]
  simp [certs, List.takeWhile_map, Function.comp_def]

/-- A chain `ts` in place of an old one, against `us` appended to the extra chain and freed. -/
theorem chain_own_iff {ts us chain : List Cert} {extra : List (Option Cert)} :
    (if ts = [] then extra else ts.map some) =
        (if chain = [] then extra ++ us.map fun _ => none else chain.map some) ↔
      (chain = [] → us = [] ∧ (ts = [] ∨ extra = ts.map some)) ∧
        (chain ≠ [] → chain = ts ∨ ts = [] ∧ extra = chain.map some) := by
  by_cases hchain : chain = []
  · simp only [hchain, if_true, ne_eq, not_true_eq_false, false_implies, and_true, true_implies]
    by_cases hts : ts = []
    · simp [hts]
    · rw [if_neg hts]
      constructor
      · intro h
        have hus : us = [] := by
          by_contra hus
          obtain ⟨u, hu⟩ := List.exists_mem_of_ne_nil us hus
          have hmem : none ∈ ts.map some := by
            rw [h]
            exact List.mem_append_right _ (List.mem_map.mpr ⟨u, hu, rfl⟩)
          simp at hmem
        refine ⟨hus, .inr ?_⟩
        simpa [hus] using h.symm
      · rintro ⟨rfl, hts' | hextra⟩
        · exact absurd hts' hts
        · simp [hextra]
  · have hmap : ∀ l : List Cert, l.map some = chain.map some ↔ chain = l := fun l =>
      (List.map_injective_iff.mpr (Option.some_injective Cert)).eq_iff.trans eq_comm
    simp only [hchain, if_false, ne_eq, not_false_eq_true, true_implies, false_implies, true_and]
    by_cases hts : ts = []
    · simp [hts, hchain]
    · simp [hts, hmap]

/-! ### End-entity certificates -/

section Keys

variable [DecidableEq Kind]

theorem useCertificate_of_refused {x509 : Cert} (h : lib.useCertificate x509 = false) :
    cfg.useCertificate lib x509 = (false, cfg) := by
  unfold CertConfig.useCertificate
  rw [h]
  rfl

theorem useCertificate_of_accepted {x509 : Cert} (h : lib.useCertificate x509 = true) :
    cfg.useCertificate lib x509 =
      (true, { cfg with pkeys := Function.update cfg.pkeys (lib.kind x509) (some x509) }) := by
  unfold CertConfig.useCertificate
  rw [h]
  rfl

theorem sameResult_ee_iff (hpath : path ≠ []) (hread : fs.contents (cStr path) = some text)
    (hlen : text.length ≤ int32Max) :
    SameResult (cfg.addEeCertByFile lib fs path) (cfg.addEeCertByBuffer lib text) ↔
      EeAgrees lib (lib.pem text) := by
  obtain ⟨hfst, hsnd⟩ := loadFile_spec (CertConfig.useCertificateFile lib fs)
    (show Errno.sslAddEeCertToStore ≠ .success by decide) hpath cfg
  unfold SameResult CertConfig.addEeCertByFile EeAgrees
  rw [hfst, hsnd]
  unfold CertConfig.useCertificateFile CertConfig.addEeCertByBuffer CertConfig.loadEeCert
    bioNewMemBuf
  rw [hread, Option.bind_some, if_neg (Nat.not_lt.mpr hlen)]
  cases hr : pemReadX509 (lib.pem text) with
  | noStartLine => cases lib.bioNewMemBuf <;> simp [PemRead.object?, hr]
  | failed => cases lib.bioNewMemBuf <;> simp [PemRead.object?, hr]
  | object x509 rest =>
    cases hok : lib.useCertificate x509 with
    | false =>
      cases lib.bioNewMemBuf <;> simp [PemRead.object?, hr, useCertificate_of_refused hok, hok]
    | true =>
      cases lib.bioNewMemBuf <;> simp [PemRead.object?, hr, useCertificate_of_accepted hok, hok]

/-! ### Certificates with their chains -/

variable {x509 : Cert} {rest : List (PemBlock Cert Crl)}

/-- What a file installs once its first certificate is taken. -/
theorem useCertificateChainFile_eq (hread : fs.contents (cStr path) = some text)
    (hr : pemReadX509 (lib.pem text) = .object x509 rest) (hok : lib.useCertificate x509 = true) :
    cfg.useCertificateChainFile lib fs (cStr path) =
      ((pemReadX509s rest).1.all lib.addChainCert && (pemReadX509s rest).2,
        { cfg with
          pkeys := Function.update cfg.pkeys (lib.kind x509) (some x509)
          chains := Function.update cfg.chains (lib.kind x509)
            ((pemReadX509s rest).1.takeWhile lib.addChainCert) }) := by
  unfold CertConfig.useCertificateChainFile
  rw [hread]
  dsimp only
  rw [hr]
  dsimp only
  rw [useCertificate_of_accepted hok]
  simp [CertConfig.addChain_eq]

/-- What a buffer installs once its first certificate is taken. -/
theorem addEeChainByBuffer_eq (hlen : text.length ≤ int32Max) (hbio : lib.bioNewMemBuf = true)
    (hr : pemReadX509 (lib.pem text) = .object x509 rest) (hok : lib.useCertificate x509 = true) :
    cfg.addEeChainByBuffer lib text =
      (if (pemReadX509s rest).1.all lib.addExtraChainCert then .success else .sslLoadCaCertChain,
        { cfg with
          pkeys := Function.update cfg.pkeys (lib.kind x509) (some x509)
          extraCerts := cfg.extraCerts ++
            ((pemReadX509s rest).1.takeWhile lib.addExtraChainCert).map fun _ => none }) := by
  have hload : cfg.loadEeCert lib (lib.pem text) = (.success, rest,
      { cfg with pkeys := Function.update cfg.pkeys (lib.kind x509) (some x509) }) := by
    unfold CertConfig.loadEeCert
    rw [hr]
    dsimp only
    rw [useCertificate_of_accepted hok]
    rfl
  unfold CertConfig.addEeChainByBuffer bioNewMemBuf
  rw [if_neg (Nat.not_lt.mpr hlen), if_pos hbio]
  simp only [hload, if_true, loadCaChain_eq]

/-- Both sources do nothing if the first certificate is missing, malformed or refused. -/
theorem sameResult_chain_of_refused (hpath : path ≠ [])
    (hread : fs.contents (cStr path) = some text) (hlen : text.length ≤ int32Max)
    (hno : ∀ x509 rest, pemReadX509 (lib.pem text) = .object x509 rest →
      lib.useCertificate x509 = false) :
    SameResult (cfg.addEeChainByFile lib fs path) (cfg.addEeChainByBuffer lib text) := by
  obtain ⟨hfst, hsnd⟩ := loadFile_spec (CertConfig.useCertificateChainFile lib fs)
    (show Errno.sslAddEeChainToStore ≠ .success by decide) hpath cfg
  unfold SameResult CertConfig.addEeChainByFile
  rw [hfst, hsnd]
  unfold CertConfig.useCertificateChainFile CertConfig.addEeChainByBuffer CertConfig.loadEeCert
    bioNewMemBuf
  rw [hread, if_neg (Nat.not_lt.mpr hlen)]
  cases hr : pemReadX509 (lib.pem text) with
  | noStartLine => cases lib.bioNewMemBuf <;> simp [hr]
  | failed => cases lib.bioNewMemBuf <;> simp [hr]
  | object x509 rest =>
    cases lib.bioNewMemBuf <;> simp [hr, useCertificate_of_refused (hno x509 rest hr)]

/-- Installing the certificate `x509` with the chain `ts`, or with `us` appended to the extra chain
and freed, gives the same for the certificate and for every other one. -/
theorem installed_chain_iff (ts us : List Cert) :
    ({ cfg with
        pkeys := Function.update cfg.pkeys (lib.kind x509) (some x509)
        chains := Function.update cfg.chains (lib.kind x509) ts } :
      CertConfig Cert Crl Kind).installed =
    ({ cfg with
        pkeys := Function.update cfg.pkeys (lib.kind x509) (some x509)
        extraCerts := cfg.extraCerts ++ us.map fun _ => none } :
      CertConfig Cert Crl Kind).installed ↔
      (if ts = [] then cfg.extraCerts else ts.map some) =
          (if cfg.chains (lib.kind x509) = [] then cfg.extraCerts ++ us.map fun _ => none
          else (cfg.chains (lib.kind x509)).map some) ∧
        (us = [] ∨ ∀ kind, kind ≠ lib.kind x509 → cfg.pkeys kind ≠ none → cfg.chains kind ≠ []) := by
  simp only [CertConfig.installed, CertConfig.chainFor, Prod.mk.injEq, and_true]
  rw [funext_iff]
  constructor
  · intro h
    refine ⟨by simpa using h (lib.kind x509), ?_⟩
    by_contra hnot
    obtain ⟨hus, hnot⟩ := not_or.mp hnot
    refine hnot fun kind hkind hcert hchain => ?_
    obtain ⟨y, hy⟩ := Option.ne_none_iff_exists'.mp hcert
    have hview := h kind
    simp only [Function.update_of_ne hkind, hy, hchain, Option.map_some, if_true, Option.some.injEq,
      Prod.mk.injEq, true_and] at hview
    exact hus (by simpa using hview)
  · rintro ⟨hown, hothers⟩ kind
    by_cases hkind : kind = lib.kind x509
    · subst hkind
      simpa using hown
    · simp only [Function.update_of_ne hkind]
      cases hy : cfg.pkeys kind with
      | none => rfl
      | some y =>
        rcases hothers with rfl | hothers
        · simp
        · have hchain := hothers kind hkind (by rw [hy]; exact Option.some_ne_none y)
          simp [hchain]

/-- A file leaves what was installed only if it finds its own certificate and chain. -/
theorem installed_stays_iff (ts : List Cert) :
    ({ cfg with
        pkeys := Function.update cfg.pkeys (lib.kind x509) (some x509)
        chains := Function.update cfg.chains (lib.kind x509) ts } :
      CertConfig Cert Crl Kind).installed = cfg.installed ↔
      cfg.pkeys (lib.kind x509) = some x509 ∧
        cfg.chainFor (lib.kind x509) = if ts = [] then cfg.extraCerts else ts.map some := by
  simp only [CertConfig.installed, CertConfig.chainFor, Prod.mk.injEq, and_true]
  rw [funext_iff]
  constructor
  · intro h
    have hview := h (lib.kind x509)
    simp only [Function.update_self, Option.map_some] at hview
    obtain ⟨y, hy, hpair⟩ := Option.map_eq_some_iff.mp hview.symm
    obtain ⟨rfl, hchain⟩ := Prod.mk.inj hpair
    exact ⟨hy, hchain⟩
  · rintro ⟨hcert, hchain⟩ kind
    by_cases hkind : kind = lib.kind x509
    · subst hkind
      simp [hcert, hchain]
    · simp [Function.update_of_ne hkind]

/-- The two sources with a first certificate that OpenSSL takes. -/
theorem sameResult_chain_iff (hpath : path ≠ []) (hread : fs.contents (cStr path) = some text)
    (hlen : text.length ≤ int32Max) (hr : pemReadX509 (lib.pem text) = .object x509 rest)
    (hok : lib.useCertificate x509 = true) :
    SameResult (cfg.addEeChainByFile lib fs path) (cfg.addEeChainByBuffer lib text) ↔
      if lib.bioNewMemBuf then ChainAgrees lib cfg x509 rest else ChainStays lib cfg x509 rest := by
  obtain ⟨hfst, hsnd⟩ := loadFile_spec (CertConfig.useCertificateChainFile lib fs)
    (show Errno.sslAddEeChainToStore ≠ .success by decide) hpath cfg
  unfold SameResult CertConfig.addEeChainByFile
  rw [hfst, hsnd, useCertificateChainFile_eq hread hr hok]
  dsimp only
  cases hbio : lib.bioNewMemBuf with
  | false =>
    have hbuffer : cfg.addEeChainByBuffer lib text = (.memAlloc, cfg) := by
      unfold CertConfig.addEeChainByBuffer bioNewMemBuf
      rw [if_neg (Nat.not_lt.mpr hlen), hbio]
      rfl
    rw [if_neg Bool.false_ne_true, hbuffer, installed_stays_iff]
    constructor
    · rintro ⟨hsucc, hcert, hchain⟩
      refine ⟨Bool.eq_false_iff.mpr fun h => ?_, hcert, hchain⟩
      cases hsucc.mp h
    · rintro ⟨hfails, hcert, hchain⟩
      exact ⟨iff_of_false (Bool.eq_false_iff.mp hfails) nofun, hcert, hchain⟩
  | true =>
    rw [if_pos rfl, addEeChainByBuffer_eq hlen hbio hr hok, installed_chain_iff, chain_own_iff]
    have hends : ((if (pemReadX509s rest).1.all lib.addExtraChainCert then Errno.success
        else .sslLoadCaCertChain) = .success) ↔
        (pemReadX509s rest).1.all lib.addExtraChainCert = true := by
      cases (pemReadX509s rest).1.all lib.addExtraChainCert <;> simp
    rw [hends, ← Bool.eq_iff_iff]
    constructor
    · rintro ⟨hends, ⟨hnone, hown⟩, hothers⟩
      exact ⟨hends, hnone, hown, hothers⟩
    · rintro ⟨hends, hnone, hown, hothers⟩
      exact ⟨hends, ⟨hnone, hown⟩, hothers⟩

theorem sameResult_eeChain_iff (hpath : path ≠ []) (hread : fs.contents (cStr path) = some text)
    (hlen : text.length ≤ int32Max) :
    SameResult (cfg.addEeChainByFile lib fs path) (cfg.addEeChainByBuffer lib text) ↔
      EeChainAgrees lib (lib.pem text) cfg := by
  by_cases hno : ∀ x509 rest, pemReadX509 (lib.pem text) = .object x509 rest →
      lib.useCertificate x509 = false
  · refine iff_of_true (sameResult_chain_of_refused hpath hread hlen hno) fun x509 rest hr hok => ?_
    exact absurd ((hno x509 rest hr).symm.trans hok) Bool.false_ne_true
  · simp only [not_forall, Bool.not_eq_false] at hno
    obtain ⟨x509, rest, hr, hok⟩ := hno
    rw [sameResult_chain_iff hpath hread hlen hr hok]
    constructor
    · intro h x509' rest' hr' _
      cases hr.symm.trans hr'
      exact h
    · intro h
      exact h x509 rest hr hok

end Keys

end Results

/-! ### The interface -/

variable [DecidableEq Cert] [DecidableEq Crl] [DecidableEq Kind]

theorem cStr_bytes (s : CString) : cStr s.bytes = s.bytes :=
  (cStr_eq_self_iff s.bytes).mpr s.nulFree

/-- The two sources of a certificate in the adaptor. -/
theorem addCert_sameResult_iff {lib : CertLib Cert Crl Kind} {fs : FileSystem} {path : CString}
    {text : StdString} (hpath : path.bytes ≠ [])
    (hcheck : scfCheckFilePathAndStat fs path.bytes = true)
    (hread : fs.contents path.bytes = some text) (htext : text ≠ [])
    (hlen : text.length ≤ int32Max) (type : SCFCertType) (cfg : CertConfig Cert Crl Kind) :
    SameResult (cfg.addCert lib fs ⟨.filePath, path.bytes, .pem⟩ type)
        (cfg.addCert lib fs ⟨.buffer, text, .pem⟩ type) ↔
      SourcesAgree lib (lib.pem text) cfg type := by
  rw [← cStr_bytes path] at hcheck hread
  unfold CertConfig.addCert SourcesAgree
  split_ifs
  · exact sameResult_ca_iff hpath hread hlen
  · exact sameResult_ee_iff hpath hread hlen
  · exact sameResult_crl_iff hpath hcheck hread htext hlen
  · exact sameResult_eeChain_iff hpath hread hlen
  · exact iff_of_true (.refl _) trivial

/-- `SCF_AddCert` with the path of a file and with a buffer that holds what is in the file. Both
results are the same exactly if the call is refused before it looks at the certificate, or the two
sources agree. -/
theorem scfAddCert_sameResult_iff (lib : CertLib Cert Crl Kind) (fs : FileSystem) (g : Globals)
    {path : CString} {text : StdString} {fileCopyOk bufCopyOk : Bool}
    {fileCtx bufCtx fileCtx' bufCtx' : SCFFileCtx}
    (hfile : scfFileCtxSetBuf fs g .valid .valid .filePath path.bytes .pem fileCopyOk fileCtx =
      (.success, fileCtx'))
    (hbuf : scfFileCtxSetBuf fs g .valid .valid .buffer text .pem bufCopyOk bufCtx =
      (.success, bufCtx'))
    (hread : fs.contents path.bytes = some text) (ctxPtr : Ptr) (ctx : SCFPolicyCtx)
    (type : SCFCertType) (cfg : CertConfig Cert Crl Kind) :
    SameResult (scfAddCert lib fs g ctxPtr .valid ctx fileCtx' type cfg)
        (scfAddCert lib fs g ctxPtr .valid ctx bufCtx' type cfg) ↔
      ctxPtr = .null ∨ ctx.role = .none ∨ SourcesAgree lib (lib.pem text) cfg type := by
  obtain ⟨rfl, hinit, hpath, hcheck, -⟩ := fileCtxSetBuf_success hfile
  obtain ⟨rfl, -, htext, -, hlen⟩ := fileCtxSetBuf_success hbuf
  have hlen : text.length ≤ int32Max :=
    (Nat.le_of_lt (hlen rfl)).trans (by decide : maxFileSize ≤ int32Max)
  unfold scfAddCert
  by_cases hctx : ctxPtr = .null
  · rw [if_pos (.inl hctx), if_pos (.inl hctx)]
    exact iff_of_true (.refl _) (.inl hctx)
  rw [if_neg (not_or.mpr ⟨hctx, by decide⟩), if_neg (not_or.mpr ⟨hctx, by decide⟩)]
  by_cases hrole : ctx.role = .none
  · rw [if_pos hrole, if_pos hrole]
    exact iff_of_true (.refl _) (.inr (.inl hrole))
  rw [if_neg hrole, if_neg hrole, hinit, g.adaptor_of_init hinit,
    or_iff_right hctx, or_iff_right hrole]
  exact addCert_sameResult_iff hpath (hcheck rfl) hread htext hlen type cfg

/-- A configuration without certificates. -/
def newCertConfig : CertConfig Cert Crl Kind :=
  ⟨⟨∅, ∅, false⟩, fun _ => none, fun _ => [], []⟩

/-- The blocks of a text in which each certificate is one line, given the lines of the text. -/
def oneLineBlocks : List StdString → List (PemBlock StdString StdString)
  | first :: body :: last :: lines =>
    if first = ascii "-----BEGIN CERTIFICATE-----" ∧ last = ascii "-----END CERTIFICATE-----" then
      .certificate (some body) :: oneLineBlocks lines
    else [.broken]
  | _ => []

/-- A library that takes everything; the line in its block is a certificate. -/
def oneLineLib : CertLib StdString StdString Unit where
  pem text := oneLineBlocks (text.splitOn 10)
  kind _ := ()
  bioNewMemBuf := true
  storeSetFlags := true
  storeAddCert _ := true
  storeAddCrl _ := true
  partlyLoaded := true
  useCertificate _ := true
  addChainCert _ := true
  addExtraChainCert _ := true

/-- The path `/etc/ca.pem`. -/
def caPath : CString := ⟨ascii "/etc/ca.pem", by decide⟩

/-- A file system with one file. -/
def fileSystemWith (text : StdString) : FileSystem where
  realpath path := some path
  stat path := if path = caPath.bytes then some ⟨true, text.length⟩ else none
  accessRead path := path = caPath.bytes
  contents path := if path = caPath.bytes then some text else none

/-- The block of a certificate. -/
def oneLinePem (cert : String) : StdString :=
  ascii ("-----BEGIN CERTIFICATE-----\n" ++ cert ++ "\n-----END CERTIFICATE-----\n")

/-- The context of a server. -/
def serverPolicyCtx : SCFPolicyCtx := { newPolicyCtx with role := .server }

/-- A bundle of two certificate authorities, for a context that trusts the second one already. -/
theorem scfAddCert_sameResult_renewed :
    let text := oneLinePem "root" ++ oneLinePem "other"
    let fs := fileSystemWith text
    let cfg : CertConfig StdString StdString Unit :=
      ⟨⟨{ascii "other"}, ∅, false⟩, fun _ => some (ascii "leaf"), fun _ => [], []⟩
    let fromFile := scfAddCert oneLineLib fs .ready .valid .valid serverPolicyCtx
      ⟨.filePath, caPath.bytes, .pem⟩ .ca cfg
    fromFile.1 = .success ∧ fromFile.2.store.certs = {ascii "root", ascii "other"} ∧
      SameResult fromFile (scfAddCert oneLineLib fs .ready .valid .valid serverPolicyCtx
        ⟨.buffer, text, .pem⟩ .ca cfg) := by
  intro text fs cfg fromFile
  have hfile : scfFileCtxSetBuf fs .ready .valid .valid .filePath caPath.bytes .pem true newFileCtx =
      (.success, ⟨.filePath, caPath.bytes, .pem⟩) := by decide +kernel
  have hbuf : scfFileCtxSetBuf fs .ready .valid .valid .buffer text .pem true newFileCtx =
      (.success, ⟨.buffer, text, .pem⟩) := by decide +kernel
  have hread : fs.contents caPath.bytes = some text := by decide +kernel
  have hblocks : oneLineLib.pem text =
      [.certificate (some (ascii "root")), .certificate (some (ascii "other"))] := by
    decide +kernel
  have hvalues : fromFile.1 = .success ∧
      fromFile.2.store.certs = {ascii "root", ascii "other"} := by decide +kernel
  refine ⟨hvalues.1, hvalues.2, ?_⟩
  refine (scfAddCert_sameResult_iff oneLineLib fs .ready hfile hbuf hread .valid serverPolicyCtx .ca
    cfg).mpr (.inr (.inr ?_))
  rw [hblocks]
  exact ⟨[.inl (ascii "root"), .inl (ascii "other")], rfl, .inl (by decide), by decide +kernel,
    .inl List.mem_cons_self⟩

/-- A bundle of two certificate authorities: the file makes both trusted, the buffer the first
one only. Both calls succeed. -/
theorem scfAddCert_bundle_differs :
    let text := oneLinePem "root" ++ oneLinePem "other"
    let fs := fileSystemWith text
    let byFile := scfFileCtxSetBuf fs .ready .valid .valid .filePath caPath.bytes .pem true newFileCtx
    let byBuffer := scfFileCtxSetBuf fs .ready .valid .valid .buffer text .pem true newFileCtx
    let fromFile := scfAddCert oneLineLib fs .ready .valid .valid serverPolicyCtx byFile.2 .ca
      newCertConfig
    let fromBuffer := scfAddCert oneLineLib fs .ready .valid .valid serverPolicyCtx byBuffer.2 .ca
      newCertConfig
    byFile.1 = .success ∧ byBuffer.1 = .success ∧ fs.contents caPath.bytes = some text ∧
      fromFile.1 = .success ∧ fromBuffer.1 = .success ∧
      fromFile.2.store.certs = {ascii "root", ascii "other"} ∧
      fromBuffer.2.store.certs = {ascii "root"} ∧ ¬ SameResult fromFile fromBuffer := by
  intro text fs byFile byBuffer fromFile fromBuffer
  have hvalues : byFile.1 = .success ∧ byBuffer.1 = .success ∧
      fs.contents caPath.bytes = some text ∧ fromFile.1 = .success ∧ fromBuffer.1 = .success ∧
      fromFile.2.store.certs = {ascii "root", ascii "other"} ∧
      fromBuffer.2.store.certs = {ascii "root"} := by decide +kernel
  obtain ⟨hfile, hbuf, hread, hfromFile, hfromBuffer, hfileCerts, hbufferCerts⟩ := hvalues
  refine ⟨hfile, hbuf, hread, hfromFile, hfromBuffer, hfileCerts, hbufferCerts, fun h => ?_⟩
  have hsame := hfileCerts.symm.trans (h.certs.trans hbufferCerts)
  exact absurd hsame (by decide)

end Scf
