import ScfSecurity.Tls.AddCert

/-!
# What a failing `SCF_AddCert` leaves behind

A call of `SCF_AddCert` that returns an error may have done part of its work. Four loaders do more
than one thing to the configuration and stop in between: the flag for CRL checks is set before the
CRL is read, a file of certificate authorities is added object by object, and a chain follows an
end-entity certificate that is already installed. None of them takes anything back.

## Main definitions

- `KeepsOnFailure`: a call that returns an error leaves the configuration as it was
- `LeavesTrace`: the call stops where it has already changed something

## Main results

- `addItems_eq_self_iff`: when loading a list of objects changes nothing
- `addCert_keepsOnFailure_iff`: a case for each type of certificate and each source
- `scfAddCert_keepsOnFailure_iff`: the configuration stays exactly if no trace is left
-/

namespace Scf

variable {Cert Crl Kind : Type}

/-- A call that returns an error leaves the configuration as it was. -/
def KeepsOnFailure (r : Errno × CertConfig Cert Crl Kind) (cfg : CertConfig Cert Crl Kind) : Prop :=
  r.1 ≠ .success → r.2 = cfg

/-! ### The calls that leave a trace -/

section Traces

variable (lib : CertLib Cert Crl Kind) (fs : FileSystem) (cfg : CertConfig Cert Crl Kind)

/-- The store refuses one of the objects, which OpenSSL reports, and takes one before that which it
did not have. -/
def CertStore.StopsMidway (store : CertStore Cert Crl) (items : List (Cert ⊕ Crl)) : Prop :=
  lib.partlyLoaded = false ∧ (∃ item ∈ items, lib.accepts item = false) ∧
    ∃ item ∈ items.takeWhile lib.accepts, ¬ store.Has item

/-- The whole file decodes, and the store stops in the midst of it. -/
def CaFileStops (path : StdString) : Prop :=
  path ≠ [] ∧ ∃ text items, fs.contents (cStr path) = some text ∧
    pemX509InfoRead (lib.pem text) = some items ∧ cfg.store.StopsMidway lib items

/-- The text from which the CRL of a file context is read, if it can be had. -/
def crlText (certCtx : SCFFileCtx) : Option StdString :=
  if certCtx.storeType = .filePath then
    if certCtx.buf ≠ [] ∧ scfCheckFilePathAndStat fs (cStr certCtx.buf) = true then
      fs.contents (cStr certCtx.buf)
    else none
  else if certCtx.storeType = .buffer then
    if certCtx.buf ≠ [] ∧ certCtx.buf.length ≤ int32Max ∧ lib.bioNewMemBuf = true then
      some certCtx.buf
    else none
  else none

/-- There is a CRL in the file context, and the store takes it. -/
def CrlUsable (certCtx : SCFFileCtx) : Prop :=
  ∃ text crl, crlText lib fs certCtx = some text ∧
    (pemReadX509Crl (lib.pem text)).object? = some crl ∧ lib.storeAddCrl crl = true

/-- The flag can be set and is not set yet, and there is no CRL to add. -/
def CrlStops (certCtx : SCFFileCtx) : Prop :=
  lib.storeSetFlags = true ∧ cfg.store.crlCheck = false ∧ ¬ CrlUsable lib fs certCtx

/-- The first certificate of the file can be used, its chain is refused or not sound to its end, and
certificate and chain, as far as it is taken, are not those installed already. -/
def ChainFileStops (path : StdString) : Prop :=
  path ≠ [] ∧ ∃ text x509 rest, fs.contents (cStr path) = some text ∧
    pemReadX509 (lib.pem text) = .object x509 rest ∧ lib.useCertificate x509 = true ∧
    ((∃ ca ∈ (pemReadX509s rest).1, lib.addChainCert ca = false) ∨
      (pemReadX509s rest).2 = false) ∧
    ¬ (cfg.pkeys (lib.kind x509) = some x509 ∧
      cfg.chains (lib.kind x509) = (pemReadX509s rest).1.takeWhile lib.addChainCert)

/-- The first certificate of the buffer can be used, one of its chain is refused, and that is not the
first one or the end-entity certificate is not the one installed already. -/
def ChainBufferStops (buf : StdString) : Prop :=
  buf.length ≤ int32Max ∧ lib.bioNewMemBuf = true ∧ ∃ x509 rest,
    pemReadX509 (lib.pem buf) = .object x509 rest ∧ lib.useCertificate x509 = true ∧
    (∃ ca ∈ (pemReadX509s rest).1, lib.addExtraChainCert ca = false) ∧
    ¬ (cfg.pkeys (lib.kind x509) = some x509 ∧
      (pemReadX509s rest).1.takeWhile lib.addExtraChainCert = [])

/-- The call fails where it has already changed something. -/
def LeavesTrace (certCtx : SCFFileCtx) (type : SCFCertType) : Prop :=
  certCtx.format = .pem ∧
    (type = .ca ∧ certCtx.storeType = .filePath ∧ CaFileStops lib fs cfg certCtx.buf ∨
      type = .crl ∧ CrlStops lib fs cfg certCtx ∨
      type = .eeChain ∧ certCtx.storeType = .filePath ∧ ChainFileStops lib fs cfg certCtx.buf ∨
      type = .eeChain ∧ certCtx.storeType = .buffer ∧ ChainBufferStops lib cfg certCtx.buf)

end Traces

section Results

variable {lib : CertLib Cert Crl Kind} {fs : FileSystem} {path text : StdString}
  {cfg : CertConfig Cert Crl Kind}

theorem KeepsOnFailure.of_unchanged {ret : Errno} : KeepsOnFailure (ret, cfg) cfg := fun _ => rfl

/-- A result that is an error exactly if something failed. -/
theorem keepsOnFailure_iff {r : Errno × CertConfig Cert Crl Kind} {failed : Prop}
    (h : r.1 ≠ .success ↔ failed) : KeepsOnFailure r cfg ↔ (failed → r.2 = cfg) := by
  unfold KeepsOnFailure
  rw [h]

theorem loadFile_keepsOnFailure_iff
    (load : StdString → CertConfig Cert Crl Kind → Bool × CertConfig Cert Crl Kind)
    {failure : Errno} (hfailure : failure ≠ .success) :
    KeepsOnFailure (CertConfig.loadFile load failure path cfg) cfg ↔
      (path ≠ [] → (load (cStr path) cfg).1 = false → (load (cStr path) cfg).2 = cfg) := by
  by_cases hpath : path = []
  · subst hpath
    exact iff_of_true .of_unchanged fun h => absurd rfl h
  · obtain ⟨hfst, hsnd⟩ := loadFile_spec load hfailure hpath cfg
    rw [keepsOnFailure_iff (not_congr hfst), hsnd, Bool.not_eq_true]
    exact ⟨fun h _ => h, fun h => h hpath⟩

theorem addBySource_keepsOnFailure_iff (byFile byBuffer : StdString → CertConfig Cert Crl Kind →
    Errno × CertConfig Cert Crl Kind) (certCtx : SCFFileCtx) :
    KeepsOnFailure (cfg.addBySource byFile byBuffer certCtx) cfg ↔
      (certCtx.format = .pem →
        (certCtx.storeType = .filePath → KeepsOnFailure (byFile certCtx.buf cfg) cfg) ∧
          (certCtx.storeType = .buffer → KeepsOnFailure (byBuffer certCtx.buf cfg) cfg)) := by
  unfold CertConfig.addBySource
  by_cases hformat : certCtx.format = .pem
  case neg =>
    rw [if_pos hformat]
    exact iff_of_true .of_unchanged fun h => absurd h hformat
  rw [if_neg (not_not.mpr hformat)]
  by_cases hfile : certCtx.storeType = .filePath
  · rw [if_pos hfile]
    refine ⟨fun h _ => ⟨fun _ => h, fun hbuffer => ?_⟩, fun h => (h hformat).1 hfile⟩
    exact absurd (hfile.symm.trans hbuffer) (by decide)
  · rw [if_neg hfile]
    by_cases hbuffer : certCtx.storeType = .buffer
    · rw [if_pos hbuffer]
      exact ⟨fun h _ => ⟨fun h' => absurd h' hfile, fun _ => h⟩, fun h => (h hformat).2 hbuffer⟩
    · rw [if_neg hbuffer]
      exact iff_of_true .of_unchanged fun _ =>
        ⟨fun h => absurd h hfile, fun h => absurd h hbuffer⟩

/-! ### Certificate authorities -/

theorem CertConfig.withStore_eq_iff {store : CertStore Cert Crl} :
    ({ cfg with store := store } : CertConfig Cert Crl Kind) = cfg ↔ store = cfg.store := by
  constructor
  · intro h
    exact congrArg CertConfig.store h
  · rintro rfl
    rfl

section Store

variable [DecidableEq Cert]

/-- A buffer adds its certificate or does nothing. -/
theorem addCaCertByBuffer_keepsOnFailure (buf : StdString) :
    KeepsOnFailure (cfg.addCaCertByBuffer lib buf) cfg := by
  unfold CertConfig.addCaCertByBuffer CertConfig.getCertStore
  dsimp only
  cases CertConfig.certBuffer2X509 lib buf with
  | none => exact .of_unchanged
  | some x509 =>
    cases hok : lib.storeAddCert x509 with
    | false =>
      simp only [CertStore.addCert, hok]
      exact .of_unchanged
    | true =>
      intro hret
      simp [CertStore.addCert, hok] at hret

variable [DecidableEq Crl]

theorem addItems_crlCheck (items : List (Cert ⊕ Crl)) (store : CertStore Cert Crl) :
    (store.addItems lib items).2.crlCheck = store.crlCheck := by
  induction items generalizing store with
  | nil => rfl
  | cons item items ih =>
    rcases item with x509 | crl
    · by_cases hok : lib.storeAddCert x509 = true
      · simpa [CertStore.addItems, CertStore.addCert, hok] using ih _
      · simp [CertStore.addItems, CertStore.addCert, hok]
    · by_cases hok : lib.storeAddCrl crl = true
      · simpa [CertStore.addItems, CertStore.addCrl, hok] using ih _
      · simp [CertStore.addItems, CertStore.addCrl, hok]

/-- Loading changes nothing exactly if the store has everything before the first refusal. -/
theorem addItems_eq_self_iff (items : List (Cert ⊕ Crl)) (store : CertStore Cert Crl) :
    (store.addItems lib items).2 = store ↔
      ∀ item ∈ items.takeWhile lib.accepts, store.Has item := by
  have hhas : ∀ item, (store.addItems lib items).2.Has item ↔
    store.Has item ∨ item ∈ items.takeWhile lib.accepts := CertStore.has_addItems items store
  have hflag : (store.addItems lib items).2.crlCheck = store.crlCheck :=
    addItems_crlCheck items store
  generalize (store.addItems lib items).2 = store' at hhas hflag
  constructor
  · rintro rfl item hitem
    exact (hhas item).mpr (.inr hitem)
  · intro h
    obtain ⟨hcerts, hcrls⟩ : store'.certs = store.certs ∧ store'.crls = store.crls := by
      refine CertStore.same_iff.mpr fun item => ?_
      rw [hhas]
      exact ⟨fun hor => hor.elim id (h item), .inl⟩
    cases store'
    cases store
    simp_all only

theorem addItems_keeps_iff (items : List (Cert ⊕ Crl)) (store : CertStore Cert Crl) :
    (¬ lib.Loads items → (store.addItems lib items).2 = store) ↔ ¬ store.StopsMidway lib items := by
  rw [addItems_eq_self_iff]
  constructor
  · rintro h ⟨hreported, ⟨item, hitem, hrefused⟩, new, hnew, hhas⟩
    refine hhas (h ?_ new hnew)
    rintro (hall | ⟨hcontent, -⟩)
    · exact Bool.false_ne_true (hrefused.symm.trans (hall item hitem))
    · exact Bool.false_ne_true (hreported.symm.trans hcontent)
  · intro h hfails new hnew
    by_contra hhas
    refine h ⟨Bool.eq_false_iff.mpr fun hcontent => ?_, ?_, new, hnew, hhas⟩
    · exact hfails (.inr ⟨hcontent, List.ne_nil_of_mem hnew⟩)
    · by_contra hnone
      refine hfails (.inl fun item hitem => ?_)
      by_contra hrefused
      exact hnone ⟨item, hitem, Bool.eq_false_iff.mpr hrefused⟩

theorem loadVerifyLocations_keeps_iff (file : StdString) :
    ((cfg.loadVerifyLocations lib fs file).1 = false →
        (cfg.loadVerifyLocations lib fs file).2 = cfg) ↔
      ¬ ∃ text items, fs.contents file = some text ∧ pemX509InfoRead (lib.pem text) = some items ∧
        cfg.store.StopsMidway lib items := by
  unfold CertConfig.loadVerifyLocations
  cases hread : fs.contents file with
  | none => exact iff_of_true (fun _ => rfl) (by simp)
  | some text =>
    rw [Option.bind_some]
    cases hitems : pemX509InfoRead (lib.pem text) with
    | none => exact iff_of_true (fun _ => rfl) (by simp [hitems])
    | some items =>
      have hthis : (∃ text' items', some text = some text' ∧
          pemX509InfoRead (lib.pem text') = some items' ∧ cfg.store.StopsMidway lib items') ↔
          cfg.store.StopsMidway lib items := by simp [hitems]
      rw [hthis, ← addItems_keeps_iff]
      cases items with
      | nil => exact iff_of_true (fun _ => rfl) fun _ => rfl
      | cons item items =>
        rw [← CertStore.loads_iff item items cfg.store, Bool.not_eq_true]
        simp only [CertConfig.withStore_eq_iff]

theorem addCaCertByFile_keepsOnFailure_iff :
    KeepsOnFailure (cfg.addCaCertByFile lib fs path) cfg ↔ ¬ CaFileStops lib fs cfg path := by
  unfold CertConfig.addCaCertByFile CaFileStops
  rw [loadFile_keepsOnFailure_iff _ (by decide), loadVerifyLocations_keeps_iff, not_and]

end Store

/-! ### CRLs -/

theorem readCrlByFile_eq_crlText {certCtx : SCFFileCtx} (h : certCtx.storeType = .filePath) :
    CertConfig.readCrlByFile lib fs certCtx.buf =
      (crlText lib fs certCtx).bind fun text => (pemReadX509Crl (lib.pem text)).object? := by
  unfold CertConfig.readCrlByFile crlText
  rw [if_pos h]
  by_cases hpath : certCtx.buf = []
  · simp [hpath]
  · cases scfCheckFilePathAndStat fs (cStr certCtx.buf) <;> simp [hpath]

theorem readCrlByBuffer_eq_crlText (fs : FileSystem) {certCtx : SCFFileCtx}
    (h : certCtx.storeType = .buffer) :
    CertConfig.readCrlByBuffer lib certCtx.buf =
      (crlText lib fs certCtx).bind fun text => (pemReadX509Crl (lib.pem text)).object? := by
  unfold CertConfig.readCrlByBuffer crlText bioNewMemBuf
  have hfile : certCtx.storeType ≠ .filePath := by
    rw [h]
    decide
  rw [if_neg hfile, if_pos h]
  by_cases hbuf : certCtx.buf = []
  · simp [hbuf]
  by_cases hlen : certCtx.buf.length ≤ int32Max
  · cases lib.bioNewMemBuf <;> simp [hbuf, hlen]
  · simp [hlen]

theorem addReadCrl_of_refused [DecidableEq Crl] {crl : Option Crl}
    (h : ¬ ∃ x, crl = some x ∧ lib.storeAddCrl x = true) (store : CertStore Cert Crl) :
    cfg.addReadCrl lib crl store = (.sslLoadCrl, { cfg with store := store }) := by
  cases crl with
  | none => rfl
  | some x =>
    have hrefused : ¬ lib.storeAddCrl x = true := fun hok => h ⟨x, rfl, hok⟩
    simp [CertConfig.addReadCrl, CertStore.addCrl, hrefused]

/-- The flag is all that a call without a usable CRL leaves, unless it was set before. -/
theorem keepsOnFailure_flagged {ret : Errno} (hret : ret ≠ .success) :
    KeepsOnFailure (ret, { cfg with store := { cfg.store with crlCheck := true } }) cfg ↔
      cfg.store.crlCheck = true := by
  rw [keepsOnFailure_iff (iff_true_intro hret), true_implies, CertConfig.withStore_eq_iff]
  constructor
  · intro h
    exact (congrArg CertStore.crlCheck h).symm
  · intro h
    rw [← h]

theorem addReadCrl_keepsOnFailure_iff [DecidableEq Crl] (crl : Option Crl) :
    KeepsOnFailure (cfg.addReadCrl lib crl { cfg.store with crlCheck := true }) cfg ↔
      cfg.store.crlCheck = true ∨ ∃ x, crl = some x ∧ lib.storeAddCrl x = true := by
  by_cases husable : ∃ x, crl = some x ∧ lib.storeAddCrl x = true
  · refine iff_of_true (fun hret => ?_) (.inr husable)
    obtain ⟨x, rfl, hok⟩ := husable
    simp [CertConfig.addReadCrl, CertStore.addCrl, hok] at hret
  · rw [addReadCrl_of_refused husable, keepsOnFailure_flagged (by decide), or_iff_left husable]

theorem crlUsable_iff {certCtx : SCFFileCtx} :
    CrlUsable lib fs certCtx ↔ ∃ crl, ((crlText lib fs certCtx).bind fun text =>
      (pemReadX509Crl (lib.pem text)).object?) = some crl ∧ lib.storeAddCrl crl = true := by
  unfold CrlUsable
  simp only [Option.bind_eq_some_iff]
  constructor
  · rintro ⟨text, crl, htext, hcrl, hok⟩
    exact ⟨crl, ⟨text, htext, hcrl⟩, hok⟩
  · rintro ⟨crl, ⟨text, htext, hcrl⟩, hok⟩
    exact ⟨text, crl, htext, hcrl, hok⟩

theorem addCrl_keepsOnFailure_iff [DecidableEq Crl] (certCtx : SCFFileCtx) :
    KeepsOnFailure (cfg.addCrl lib fs certCtx) cfg ↔
      ¬ (certCtx.format = .pem ∧ CrlStops lib fs cfg certCtx) := by
  have hstops : ¬ CrlStops lib fs cfg certCtx ↔ (lib.storeSetFlags = true →
      cfg.store.crlCheck = true ∨ CrlUsable lib fs certCtx) := by
    unfold CrlStops
    cases cfg.store.crlCheck <;> simp
  rw [not_and, hstops]
  unfold CertConfig.addCrl CertConfig.getCertStore
  by_cases hformat : certCtx.format = .pem
  case neg =>
    rw [if_pos hformat]
    exact iff_of_true .of_unchanged fun h => absurd h hformat
  rw [if_neg (not_not.mpr hformat)]
  cases lib.storeSetFlags with
  | false => exact iff_of_true .of_unchanged fun _ h => absurd h Bool.false_ne_true
  | true =>
    dsimp only
    rw [if_neg (by decide)]
    simp only [hformat, true_implies]
    by_cases hfile : certCtx.storeType = .filePath
    · rw [if_pos hfile, addReadCrl_keepsOnFailure_iff, readCrlByFile_eq_crlText hfile,
        crlUsable_iff]
    rw [if_neg hfile]
    by_cases hbuffer : certCtx.storeType = .buffer
    · rw [if_pos hbuffer, addReadCrl_keepsOnFailure_iff,
        readCrlByBuffer_eq_crlText fs hbuffer, crlUsable_iff]
    -- no other store type has a text to read
    have hnone : crlText lib fs certCtx = none := by
      unfold crlText
      rw [if_neg hfile, if_neg hbuffer]
    rw [if_neg hbuffer, keepsOnFailure_flagged (by decide), crlUsable_iff, hnone]
    simp

/-! ### End-entity certificates -/

section Keys

variable [DecidableEq Kind]

/-- OpenSSL uses a certificate or leaves everything as it is. -/
theorem useCertificate_keeps (x509 : Cert) (h : (cfg.useCertificate lib x509).1 = false) :
    (cfg.useCertificate lib x509).2 = cfg := by
  cases hok : lib.useCertificate x509 with
  | false => rw [useCertificate_of_refused hok]
  | true =>
    rw [useCertificate_of_accepted hok] at h
    cases h

theorem addEeCertByFile_keepsOnFailure :
    KeepsOnFailure (cfg.addEeCertByFile lib fs path) cfg := by
  refine (loadFile_keepsOnFailure_iff _ (by decide)).mpr fun _ => ?_
  unfold CertConfig.useCertificateFile
  cases (fs.contents (cStr path)).bind fun text => (pemReadX509 (lib.pem text)).object? with
  | none => exact fun _ => rfl
  | some x509 => exact useCertificate_keeps x509

/-- The first certificate of a text is installed, or nothing is. -/
theorem loadEeCert_keeps (b : List (PemBlock Cert Crl)) (h : (cfg.loadEeCert lib b).1 ≠ .success) :
    (cfg.loadEeCert lib b).2.2 = cfg := by
  unfold CertConfig.loadEeCert at h ⊢
  cases hr : pemReadX509 b with
  | noStartLine => rfl
  | failed => rfl
  | object x509 rest =>
    rw [hr] at h
    dsimp only at h ⊢
    refine useCertificate_keeps x509 (Bool.eq_false_iff.mpr fun hok => ?_)
    rw [if_pos hok] at h
    exact h rfl

theorem addEeCertByBuffer_keepsOnFailure (buf : StdString) :
    KeepsOnFailure (cfg.addEeCertByBuffer lib buf) cfg := by
  unfold CertConfig.addEeCertByBuffer
  split_ifs
  · exact .of_unchanged
  · cases bioNewMemBuf lib buf with
    | none => exact .of_unchanged
    | some b => exact loadEeCert_keeps b

/-! ### Certificates with their chains -/

/-- The configuration with another certificate and chain is the same only if it has them. -/
theorem CertConfig.withChain_eq_iff {kind : Kind} {x509 : Cert} {chain : List Cert} :
    ({ cfg with
        pkeys := Function.update cfg.pkeys kind (some x509)
        chains := Function.update cfg.chains kind chain } : CertConfig Cert Crl Kind) = cfg ↔
      cfg.pkeys kind = some x509 ∧ cfg.chains kind = chain := by
  constructor
  · intro h
    have hpkeys := congrArg CertConfig.pkeys h
    have hchains := congrArg CertConfig.chains h
    exact ⟨(Function.update_eq_self_iff.mp hpkeys).symm,
      (Function.update_eq_self_iff.mp hchains).symm⟩
  · rintro ⟨hcert, rfl⟩
    rw [← hcert, Function.update_eq_self, Function.update_eq_self]

theorem CertConfig.withExtra_eq_iff {kind : Kind} {x509 : Cert} {extra : List (Option Cert)} :
    ({ cfg with
        pkeys := Function.update cfg.pkeys kind (some x509)
        extraCerts := cfg.extraCerts ++ extra } : CertConfig Cert Crl Kind) = cfg ↔
      cfg.pkeys kind = some x509 ∧ extra = [] := by
  constructor
  · intro h
    have hpkeys := congrArg CertConfig.pkeys h
    have hextra := congrArg CertConfig.extraCerts h
    exact ⟨(Function.update_eq_self_iff.mp hpkeys).symm, List.append_right_eq_self.mp hextra⟩
  · rintro ⟨hcert, rfl⟩
    rw [← hcert, Function.update_eq_self, List.append_nil]

theorem useCertificateChainFile_of_refused {file : StdString}
    (h : ¬ ∃ text x509 rest, fs.contents file = some text ∧
      pemReadX509 (lib.pem text) = .object x509 rest ∧ lib.useCertificate x509 = true) :
    cfg.useCertificateChainFile lib fs file = (false, cfg) := by
  unfold CertConfig.useCertificateChainFile
  cases hread : fs.contents file with
  | none => rfl
  | some text =>
    dsimp only
    cases hr : pemReadX509 (lib.pem text) with
    | noStartLine => rfl
    | failed => rfl
    | object x509 rest =>
      have hrefused : lib.useCertificate x509 = false :=
        Bool.eq_false_iff.mpr fun hok => h ⟨text, x509, rest, hread, hr, hok⟩
      dsimp only
      rw [useCertificate_of_refused hrefused]
      rfl

theorem addEeChainByFile_keepsOnFailure_iff :
    KeepsOnFailure (cfg.addEeChainByFile lib fs path) cfg ↔ ¬ ChainFileStops lib fs cfg path := by
  unfold CertConfig.addEeChainByFile ChainFileStops
  rw [loadFile_keepsOnFailure_iff _ (by decide), not_and]
  refine imp_congr_right fun _ => ?_
  by_cases hfirst : ∃ text x509 rest, fs.contents (cStr path) = some text ∧
      pemReadX509 (lib.pem text) = .object x509 rest ∧ lib.useCertificate x509 = true
  · obtain ⟨text, x509, rest, hread, hr, hok⟩ := hfirst
    rw [useCertificateChainFile_eq hread hr hok]
    dsimp only
    rw [CertConfig.withChain_eq_iff, Bool.and_eq_false_iff, List.all_eq_false]
    simp only [Bool.not_eq_true]
    constructor
    · rintro h ⟨text', x509', rest', hread', hr', -, hfails, hchanged⟩
      obtain rfl := Option.some.inj (hread.symm.trans hread')
      obtain ⟨rfl, rfl⟩ := PemRead.object.inj (hr.symm.trans hr')
      exact hchanged (h hfails)
    · intro h hfails
      by_contra hchanged
      exact h ⟨text, x509, rest, hread, hr, hok, hfails, hchanged⟩
  · rw [useCertificateChainFile_of_refused hfirst]
    refine iff_of_true (fun _ => rfl) ?_
    rintro ⟨text, x509, rest, hread, hr, hok, -⟩
    exact hfirst ⟨text, x509, rest, hread, hr, hok⟩

theorem addEeChainByBuffer_of_refused {buf : StdString}
    (h : ¬ ∃ x509 rest, pemReadX509 (lib.pem buf) = .object x509 rest ∧
      lib.useCertificate x509 = true) :
    KeepsOnFailure (cfg.addEeChainByBuffer lib buf) cfg := by
  unfold CertConfig.addEeChainByBuffer bioNewMemBuf
  split_ifs
  · exact .of_unchanged
  · have hload : (cfg.loadEeCert lib (lib.pem buf)).1 ≠ .success := by
      unfold CertConfig.loadEeCert
      cases hr : pemReadX509 (lib.pem buf) with
      | noStartLine => exact (by decide : Errno.sslParseCert ≠ .success)
      | failed => exact (by decide : Errno.sslParseCert ≠ .success)
      | object x509 rest =>
        have hrefused : lib.useCertificate x509 = false :=
          Bool.eq_false_iff.mpr fun hok => h ⟨x509, rest, hr, hok⟩
        dsimp only
        rw [useCertificate_of_refused hrefused]
        exact (by decide : Errno.sslAddEeCertToStore ≠ .success)
    dsimp only
    rw [if_neg hload]
    exact fun _ => loadEeCert_keeps _ hload
  · exact .of_unchanged

theorem addEeChainByBuffer_keepsOnFailure_iff {buf : StdString} :
    KeepsOnFailure (cfg.addEeChainByBuffer lib buf) cfg ↔ ¬ ChainBufferStops lib cfg buf := by
  unfold ChainBufferStops
  by_cases hopen : buf.length ≤ int32Max ∧ lib.bioNewMemBuf = true
  case neg =>
    refine iff_of_true ?_ fun h => hopen ⟨h.1, h.2.1⟩
    unfold CertConfig.addEeChainByBuffer bioNewMemBuf
    split_ifs with hlen hbio
    · exact .of_unchanged
    · exact absurd ⟨Nat.not_lt.mp hlen, hbio⟩ hopen
    · exact .of_unchanged
  by_cases hfirst : ∃ x509 rest, pemReadX509 (lib.pem buf) = .object x509 rest ∧
      lib.useCertificate x509 = true
  · obtain ⟨x509, rest, hr, hok⟩ := hfirst
    have hfails : ((if (pemReadX509s rest).1.all lib.addExtraChainCert then Errno.success
        else .sslLoadCaCertChain) ≠ .success) ↔
        ∃ ca ∈ (pemReadX509s rest).1, lib.addExtraChainCert ca = false := by
      cases hall : (pemReadX509s rest).1.all lib.addExtraChainCert <;> simp_all
    rw [addEeChainByBuffer_eq hopen.1 hopen.2 hr hok, keepsOnFailure_iff hfails]
    dsimp only
    rw [CertConfig.withExtra_eq_iff, List.map_eq_nil_iff]
    constructor
    · rintro h ⟨-, -, x509', rest', hr', -, hfails, hchanged⟩
      obtain ⟨rfl, rfl⟩ := PemRead.object.inj (hr.symm.trans hr')
      exact hchanged (h hfails)
    · intro h hfails
      by_contra hchanged
      exact h ⟨hopen.1, hopen.2, x509, rest, hr, hok, hfails, hchanged⟩
  · refine iff_of_true (addEeChainByBuffer_of_refused hfirst) ?_
    rintro ⟨-, -, x509, rest, hr, hok, -⟩
    exact hfirst ⟨x509, rest, hr, hok⟩

end Keys

end Results

/-! ### The interface -/

variable [DecidableEq Cert] [DecidableEq Crl] [DecidableEq Kind]

/-- Each type of certificate with the ways in which its loaders can stop. -/
theorem addCert_keepsOnFailure_iff (lib : CertLib Cert Crl Kind) (fs : FileSystem)
    (certCtx : SCFFileCtx) (type : SCFCertType) (cfg : CertConfig Cert Crl Kind) :
    KeepsOnFailure (cfg.addCert lib fs certCtx type) cfg ↔
      ¬ LeavesTrace lib fs cfg certCtx type := by
  have hdistinct : SCFCertType.ca ≠ .crl ∧ SCFCertType.ca ≠ .eeChain ∧ SCFCertType.ee ≠ .ca ∧
    SCFCertType.ee ≠ .crl ∧ SCFCertType.ee ≠ .eeChain ∧ SCFCertType.crl ≠ .eeChain := by decide
  obtain ⟨hca_crl, hca_chain, hee_ca, hee_crl, hee_chain, hcrl_chain⟩ := hdistinct
  unfold CertConfig.addCert LeavesTrace
  split_ifs with hca hee hcrl hchain
  · subst hca
    have hbuffer : KeepsOnFailure (cfg.addCaCertByBuffer lib certCtx.buf) cfg :=
      addCaCertByBuffer_keepsOnFailure certCtx.buf
    rw [CertConfig.addCaCert, addBySource_keepsOnFailure_iff, addCaCertByFile_keepsOnFailure_iff]
    simp only [hbuffer, hca_crl, hca_chain, true_and, false_and, or_false, implies_true, and_true,
      not_and]
  · subst hee
    have hkeeps : KeepsOnFailure (cfg.addEeCert lib fs certCtx) cfg :=
      (addBySource_keepsOnFailure_iff _ _ _).mpr fun _ =>
        ⟨fun _ => addEeCertByFile_keepsOnFailure, fun _ => addEeCertByBuffer_keepsOnFailure _⟩
    simp only [hkeeps, hee_ca, hee_crl, hee_chain, false_and, or_false, and_false,
      not_false_eq_true]
  · subst hcrl
    rw [addCrl_keepsOnFailure_iff]
    simp only [hca, hcrl_chain, true_and, false_and, or_false, false_or]
  · subst hchain
    rw [CertConfig.addEeChain, addBySource_keepsOnFailure_iff, addEeChainByFile_keepsOnFailure_iff,
      addEeChainByBuffer_keepsOnFailure_iff]
    simp only [hca, hcrl, true_and, false_and, false_or, not_and, not_or]
  · simp only [KeepsOnFailure.of_unchanged, hca, hcrl, hchain, false_and, or_false, and_false,
      not_false_eq_true]

/-- A call of `SCF_AddCert` that returns an error leaves end-entity certificates, trusted
certificates, CRLs, chains and the flag for CRL checks as they were, exactly if it is refused before
the adaptor sees it, or does not stop where it has already changed something. -/
theorem scfAddCert_keepsOnFailure_iff (lib : CertLib Cert Crl Kind) (fs : FileSystem) (g : Globals)
    (ctxPtr certPtr : Ptr) (ctx : SCFPolicyCtx) (certCtx : SCFFileCtx) (type : SCFCertType)
    (cfg : CertConfig Cert Crl Kind) :
    KeepsOnFailure (scfAddCert lib fs g ctxPtr certPtr ctx certCtx type cfg) cfg ↔
      ctxPtr = .null ∨ certPtr = .null ∨ ctx.role = .none ∨ g.scfInitialized = false ∨
        ¬ LeavesTrace lib fs cfg certCtx type := by
  unfold scfAddCert
  by_cases hptr : ctxPtr = .null ∨ certPtr = .null
  · rw [if_pos hptr, ← or_assoc]
    exact iff_of_true .of_unchanged (.inl hptr)
  rw [if_neg hptr, ← or_assoc, or_iff_right hptr]
  by_cases hrole : ctx.role = .none
  · rw [if_pos hrole]
    exact iff_of_true .of_unchanged (.inl hrole)
  rw [if_neg hrole, or_iff_right hrole]
  cases hinit : g.scfInitialized with
  | false => exact iff_of_true .of_unchanged (.inl rfl)
  | true =>
    rw [g.adaptor_of_init hinit, or_iff_right Bool.noConfusion]
    exact addCert_keepsOnFailure_iff lib fs certCtx type cfg

/-- A file without a CRL switches the CRL checks on, so that no certificate passes any more. A file
whose first certificate is followed by a block that ends wrongly replaces the end-entity
certificate. Both calls return an error. -/
theorem scfAddCert_failure_leaves_trace :
    let crlFs := fileSystemWith (ascii "no CRL\n")
    let crl := scfAddCert oneLineLib crlFs .ready .valid .valid serverPolicyCtx
      (scfFileCtxSetBuf crlFs .ready .valid .valid .filePath caPath.bytes .pem true newFileCtx).2
      .crl newCertConfig
    let chainFs := fileSystemWith
      (oneLinePem "leaf" ++ ascii "-----BEGIN CERTIFICATE-----\nca\n-----END-----\n")
    let chain := scfAddCert oneLineLib chainFs .ready .valid .valid serverPolicyCtx
      (scfFileCtxSetBuf chainFs .ready .valid .valid .filePath caPath.bytes .pem true newFileCtx).2
      .eeChain newCertConfig
    crl.1 = .sslLoadCrl ∧ crl.2.store.crlCheck = true ∧ chain.1 = .sslAddEeChainToStore ∧
      chain.2.pkeys () = some (ascii "leaf") ∧ ¬ KeepsOnFailure crl newCertConfig ∧
      ¬ KeepsOnFailure chain newCertConfig := by
  intro crlFs crl chainFs chain
  have hcrl : crl.1 = .sslLoadCrl ∧ crl.2.store.crlCheck = true := by decide +kernel
  have hchain : chain.1 = .sslAddEeChainToStore ∧ chain.2.pkeys () = some (ascii "leaf") := by
    decide +kernel
  refine ⟨hcrl.1, hcrl.2, hchain.1, hchain.2, fun h => ?_, fun h => ?_⟩
  · have hsame := h (by rw [hcrl.1]; decide)
    rw [hsame] at hcrl
    exact absurd hcrl.2 (by decide)
  · have hsame := h (by rw [hchain.1]; decide)
    rw [hsame] at hchain
    exact absurd hchain.2 (by decide)

end Scf
