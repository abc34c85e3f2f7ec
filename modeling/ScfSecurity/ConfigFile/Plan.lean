import ScfSecurity.ConfigFile.Apply
import ScfSecurity.Library.Script

/-!
# The calls that a configuration file stands for

A configuration is a list of calls of the interface: what an application would call to get the same
policy context without a file. `SCF_SetConfigFile` makes these calls, up to the first that fails.

## Main definitions

- `SCFConfig.script`: the calls of a configuration
- `fileConfig`, `configScript`: the configuration of a file, and the calls of `SCF_SetConfigFile`

## Main results

- `scfSetConfigFile_follows`: a call makes the calls that its document stands for
-/

namespace Scf

open Automaton

/-! ### The calls of a configuration -/

def TlsVersion.script (tlsVersion : TlsVersion) : Script LibCall :=
  if tlsVersion.maxVersion = 0 || tlsVersion.minVersion = 0 then .done
  else .call (.setProtocolVersion tlsVersion.minVersion tlsVersion.maxVersion
    tlsVersion.forbidVersion)

def cipherSuitesScript (cipherSuites : List UInt16) : Script LibCall :=
  if cipherSuites = [] then .done else .call (.setCipherSuites cipherSuites)

/-- A new file context with a path, and what is done with it. -/
def fileScript (path : StdString) (use : Script LibCall) : Script LibCall :=
  (Script.call .fileCtxNew).andThen ((Script.call (.stringToCharPtr path)).andThen
    ((Script.call (.fileCtxSetBuf (cStr path))).andThen use))

def Cert.script (certObj : Cert) : Script LibCall :=
  fileScript certObj.storeBuf
    ((findByName tlsCertTypeMap certObj.certType).elim .reject fun certType =>
      .call (.addCert certType))

/-- There must be a password, and it must be encrypted. -/
def KeyAuth.script (keyAuth : KeyAuth) : Script LibCall :=
  if keyAuth.storeBuf = [] || !keyAuth.isCipher then .reject
  else .call (.fileCtxSetPwd keyAuth.storeBuf keyAuth.isCipher)

def PrivKey.script (privKey : PrivKey) : Script LibCall :=
  if privKey.storeBuf = [] then
    if privKey.keyAuth.storeBuf = [] then .done else .reject
  else
    fileScript privKey.storeBuf (privKey.keyAuth.script.andThen (.call .setKey))

def SCFConfig.script (cfg : SCFConfig) : Script LibCall :=
  (cfg.tlsVersion.script.andThen (cipherSuitesScript cfg.tlsCipherSuites)).andThen
    ((Script.sequence (cfg.certs.map Cert.script)).andThen cfg.privKey.script)

/-! ### The functions follow it -/

/-- Whether a call succeeds. -/
def succeeds (answer : List LibCall → LibCall → Errno) (made : List LibCall) (call : LibCall) :
    Bool := decide (answer made call = .success)

/-- A function that was called with `s` has made the calls of the script, and succeeds if the script
is accepted. -/
def Follows (answer : List LibCall → LibCall → Errno) (s : Applying) (t : Script LibCall)
    (out : Errno × Applying) : Prop :=
  t.run (succeeds answer) s.calls = (decide (out.1 = .success), out.2.calls)

namespace Follows

variable {answer : List LibCall → LibCall → Errno} {s s' : Applying} {t u : Script LibCall}
  {out : Errno × Applying} {ret : Errno}

theorem ask (call : LibCall) (s : Applying) :
    Follows answer s (.call call) (Scf.ask answer call s) :=
  Script.run_call call s.calls

theorem done (hcalls : s'.calls = s.calls) : Follows answer s .done (.success, s') :=
  Prod.ext rfl hcalls.symm

theorem reject (hret : ret ≠ .success) : Follows answer s .reject (ret, s) :=
  Prod.ext (decide_eq_false hret).symm rfl

/-- `if (ret != SCF_SUCCESS) { return …; }` between two functions. -/
theorem andThen {k : Errno × Applying} (h : Follows answer s t out)
    (hret : out.1 ≠ .success → ret ≠ .success) (hcalls : s'.calls = out.2.calls)
    (hk : out.1 = .success → Follows answer out.2 u k) :
    Follows answer s (t.andThen u) (if out.1 ≠ .success then (ret, s') else k) := by
  unfold Follows at h ⊢
  rw [Script.run_andThen, h]
  by_cases hout : out.1 = .success
  · rw [if_neg (not_not.mpr hout), decide_eq_true hout, if_pos rfl]
    exact hk hout
  · rw [if_pos hout, decide_eq_false hout, if_neg Bool.false_ne_true, hcalls,
      decide_eq_false (hret hout)]

/-- The same where the function ends with its own `return SCF_SUCCESS`. -/
theorem checked (h : Follows answer s t out) (hret : out.1 ≠ .success → ret ≠ .success)
    (hcalls : s'.calls = out.2.calls) {s'' : Applying} (hcalls' : s''.calls = out.2.calls) :
    Follows answer s t (if out.1 ≠ .success then (ret, s') else (.success, s'')) := by
  have hdone := h.andThen hret hcalls fun _ => done hcalls'
  rwa [Script.andThen_done] at hdone

/-- It does not matter that the password is overwritten after that. -/
theorem wiped (h : Follows answer s t out) :
    Follows answer s t (if out.1 ≠ .success then out
      else if out.2.passwd ≠ [] then (.success, out.2.fillPasswd) else (.success, out.2)) := by
  by_cases hout : out.1 = .success
  · rw [if_neg (not_not.mpr hout)]
    have hdone : t.run (succeeds answer) s.calls = (true, out.2.calls) := by
      rw [h, decide_eq_true hout]
    split_ifs
    · exact hdone
    · exact hdone
  · rwa [if_pos hout]

end Follows

section Apply

variable {answer : List LibCall → LibCall → Errno}

theorem setProtocolVersion4PolicyCtx_follows (s : Applying) :
    Follows answer s s.cfg.tlsVersion.script (setProtocolVersion4PolicyCtx answer s) := by
  unfold setProtocolVersion4PolicyCtx TlsVersion.script
  by_cases hnull : (s.cfg.tlsVersion.maxVersion = 0 || s.cfg.tlsVersion.minVersion = 0) = true
  · rw [if_pos hnull, if_pos hnull]
    exact .done rfl
  · rw [if_neg hnull, if_neg hnull]
    exact (Follows.ask _ s).checked (fun _ => by decide) rfl rfl

theorem setCipherSuites4PolicyCtx_follows (s : Applying) :
    Follows answer s (cipherSuitesScript s.cfg.tlsCipherSuites)
      (setCipherSuites4PolicyCtx answer s) := by
  unfold setCipherSuites4PolicyCtx cipherSuitesScript
  by_cases hnil : s.cfg.tlsCipherSuites = []
  · rw [if_pos hnil, if_pos hnil]
    exact .done rfl
  · rw [if_neg hnil, if_neg hnil]
    exact (Follows.ask _ s).checked (fun _ => by decide) rfl rfl

theorem setProtocolVersion4PolicyCtx_cfg (s : Applying) :
    (setProtocolVersion4PolicyCtx answer s).2.cfg = s.cfg := by
  unfold setProtocolVersion4PolicyCtx
  dsimp only
  split_ifs <;> rfl

theorem setTLS_follows (s : Applying) :
    Follows answer s
      (s.cfg.tlsVersion.script.andThen (cipherSuitesScript s.cfg.tlsCipherSuites))
      (setTLS answer s) := by
  have hsuites := @setCipherSuites4PolicyCtx_follows answer
    (setProtocolVersion4PolicyCtx answer s).2
  rw [setProtocolVersion4PolicyCtx_cfg] at hsuites
  exact (setProtocolVersion4PolicyCtx_follows s).andThen (fun _ => by decide) rfl fun _ =>
    hsuites.checked (fun _ => by decide) rfl rfl

theorem addCertInner_follows (certObj : Cert) (s : Applying) :
    Follows answer s ((Script.call (.fileCtxSetBuf (cStr certObj.storeBuf))).andThen
        ((findByName tlsCertTypeMap certObj.certType).elim .reject fun certType =>
          .call (.addCert certType)))
      (addCertInner answer certObj s) := by
  refine (Follows.ask _ s).andThen (fun _ => by decide) rfl fun _ => ?_
  cases findByName tlsCertTypeMap certObj.certType with
  | none => exact .reject (by decide)
  | some certType => exact .ask _ _

/-- One certificate after the other. -/
theorem addCert2PolicyCtx_follows (certs : List Cert) (s : Applying) :
    Follows answer s (Script.sequence (certs.map Cert.script))
      (addCert2PolicyCtx answer certs s) := by
  induction certs generalizing s with
  | nil => exact .done rfl
  | cons certObj rest ih =>
    rw [List.map_cons, Script.sequence_cons, Cert.script, fileScript, Script.andThen_assoc,
      Script.andThen_assoc]
    refine (Follows.ask _ s).andThen (fun _ => by decide) rfl fun _ => ?_
    refine (Follows.ask _ _).andThen (fun _ => by decide) rfl fun _ => ?_
    exact (addCertInner_follows certObj _).andThen (fun _ => by decide) rfl fun _ => ih _

theorem setFileCtxPassword_follows (s : Applying) :
    Follows answer s s.cfg.privKey.keyAuth.script (setFileCtxPassword answer s) := by
  unfold setFileCtxPassword KeyAuth.script Applying.passwd
  by_cases hnil : s.cfg.privKey.keyAuth.storeBuf = []
  · rw [if_pos hnil, if_pos (by rw [decide_eq_true hnil, Bool.true_or])]
    exact .reject (by decide)
  · rw [if_neg hnil, decide_eq_false hnil, Bool.false_or]
    by_cases hcipher : (!s.cfg.privKey.keyAuth.isCipher) = true
    · rw [if_pos hcipher, if_pos hcipher]
      exact .reject (by decide)
    · rw [if_neg hcipher, if_neg hcipher]
      refine (Follows.ask _ s).checked id ?_ ?_
      · rfl
      · rfl

theorem setKeyAndPwd_follows (s : Applying) :
    Follows answer s ((Script.call (.fileCtxSetBuf (cStr s.cfg.privKey.storeBuf))).andThen
        (s.cfg.privKey.keyAuth.script.andThen (.call .setKey)))
      (setKeyAndPwd answer s) :=
  (Follows.ask _ s).andThen id rfl fun _ =>
    (setFileCtxPassword_follows _).andThen id rfl fun _ => .ask _ _

theorem createAndInitializeFileCtx_cfg (s : Applying) :
    (createAndInitializeFileCtx answer s).2.cfg = s.cfg :=
  (createAndInitializeFileCtx_same answer s).cfg

theorem createAndInitializeFileCtx_follows (s : Applying) :
    Follows answer s ((Script.call .fileCtxNew).andThen
        (.call (.stringToCharPtr s.cfg.privKey.storeBuf)))
      (createAndInitializeFileCtx answer s) :=
  (Follows.ask _ s).andThen (fun _ => by decide) rfl fun _ =>
    (Follows.ask _ _).checked (fun _ => by decide) rfl rfl

theorem setPrivKeyAndPwd4Ctx_follows (s : Applying) :
    Follows answer s s.cfg.privKey.script (setPrivKeyAndPwd4Ctx answer s) := by
  unfold setPrivKeyAndPwd4Ctx PrivKey.script
  by_cases hpath : s.cfg.privKey.storeBuf = []
  · rw [if_pos hpath, if_pos hpath]
    show Follows answer s (if s.passwd = [] then .done else .reject) _
    split_ifs
    · exact .done rfl
    · exact .reject (by decide)
  · rw [if_neg hpath, if_neg hpath, fileScript, ← Script.andThen_assoc]
    refine (createAndInitializeFileCtx_follows s).andThen id rfl fun _ => ?_
    have hkey := @setKeyAndPwd_follows answer (createAndInitializeFileCtx answer s).2
    rw [createAndInitializeFileCtx_cfg] at hkey
    exact hkey.wiped

theorem setCertAndKey_follows (s : Applying) :
    Follows answer s
      ((Script.sequence (s.cfg.certs.map Cert.script)).andThen s.cfg.privKey.script)
      (setCertAndKey answer s) := by
  have hkey := @setPrivKeyAndPwd4Ctx_follows answer
    (addCert2PolicyCtx answer s.cfg.certs s).2
  rw [(addCert2PolicyCtx_same answer s.cfg.certs s).cfg] at hkey
  exact (addCert2PolicyCtx_follows s.cfg.certs s).andThen (fun _ => by decide) rfl fun _ =>
    hkey.checked (fun _ => by decide) rfl rfl

theorem applyConfig_follows (s : Applying) :
    Follows answer s s.cfg.script (applyConfig answer s) := by
  have hauth := @setCertAndKey_follows answer (setTLS answer s).2
  rw [(setTLS_same answer s).cfg] at hauth
  exact (setTLS_follows s).andThen (fun _ => by decide) (cleanConfig_calls _) fun _ =>
    hauth.checked (fun _ => by decide) (cleanConfig_calls _) rfl

variable {Num : Type} {checkFile : StdString → Bool}

/-! ### The whole call -/

/-- The configuration that a document of `SCF_ReadConfig` stands for. A file that cannot be read, or
is no JSON, is `null` there and stands for none. -/
def fileConfig (checkFile : StdString → Bool) (doc : Document Num) : Option SCFConfig :=
  if doc.isNull then none else denoteConfig checkFile cStr newConfig doc

/-- The calls that `SCF_SetConfigFile` has to make: those of the file, if its path is accepted. -/
def configScript (checkFile : StdString → Bool) (scfReadConfig : StdString → Document Num)
    (ctxPtr : Ptr) (config : Option CString) : Script LibCall :=
  match ctxPtr, config with
  | .valid, some file =>
    if file.bytes.length = 0 || !checkFile file.bytes then .reject
    else (fileConfig checkFile (scfReadConfig file.bytes)).elim .reject SCFConfig.script
  | _, _ => .reject

section Whole

variable {scfReadConfig : StdString → Document Num} {ctxPtr : Ptr} {config : Option CString}
  {file : CString}

theorem configScript_of_reaches (hreach : ReachesParser checkFile ctxPtr config file) :
    configScript checkFile scfReadConfig ctxPtr config =
      (fileConfig checkFile (scfReadConfig file.bytes)).elim .reject SCFConfig.script := by
  obtain ⟨rfl, rfl, hnonempty, hchecked⟩ := hreach
  rw [configScript, hchecked, if_neg (by simpa using hnonempty)]

theorem configScript_of_not_reaches (hreach : ∀ file, ¬ ReachesParser checkFile ctxPtr config file) :
    configScript checkFile scfReadConfig ctxPtr config = .reject := by
  unfold configScript
  split
  case h_1 file =>
    rw [if_pos]
    by_contra hnot
    simp only [Bool.or_eq_true, decide_eq_true_eq, Bool.not_eq_true', not_or,
      Bool.not_eq_false] at hnot
    exact hreach file ⟨rfl, rfl, hnot.1, hnot.2⟩
  case h_2 => rfl

variable (answer scfReadConfig) in
/-- A call that does not get to the parser returns an error. -/
theorem scfSetConfigFile_of_not_reaches
    (hreach : ∀ file, ¬ ReachesParser checkFile ctxPtr config file) :
    ∃ ret, ret ≠ .success ∧ scfSetConfigFile answer checkFile scfReadConfig ctxPtr config =
      .ok (ret, .start newConfig) := by
  unfold scfSetConfigFile
  split
  case h_1 file =>
    split_ifs with hempty hcheck
    · exact ⟨.invalidParam, by decide, rfl⟩
    · exact ⟨.error, by decide, rfl⟩
    · exact absurd ⟨rfl, rfl, hempty, by simpa using hcheck⟩ (hreach file)
  case h_2 => exact ⟨.nullInput, by decide, rfl⟩

/-- A call that gets to the parser returns if the parser does. -/
theorem scfSetConfigFile_of_reaches (hreach : ReachesParser checkFile ctxPtr config file) :
    scfSetConfigFile answer checkFile scfReadConfig ctxPtr config =
      (scfParseConfig checkFile (scfReadConfig file.bytes) newConfig).map fun (ret, cfg) =>
        if ret ≠ .success then (.error, cleanConfig (.start cfg))
        else applyConfig answer (.start cfg) := by
  obtain ⟨rfl, rfl, hnonempty, hchecked⟩ := hreach
  unfold scfSetConfigFile
  dsimp only
  rw [if_neg hnonempty, hchecked]
  cases scfParseConfig checkFile (scfReadConfig file.bytes) newConfig with
  | error accessor => rfl
  | ok parsed =>
    obtain ⟨ret, cfg⟩ := parsed
    show (if ret ≠ .success then _ else _) = (Except.ok (if ret ≠ .success then _ else _) : Access _)
    split_ifs <;> rfl

/-- The call returns unless its parser is given a document that is neither `null` nor accessible. -/
theorem scfSetConfigFile_returns (answer : List LibCall → LibCall → Errno)
    (checkFile : StdString → Bool) (scfReadConfig : StdString → Document Num) (ctxPtr : Ptr)
    (config : Option CString) :
    (∃ out, scfSetConfigFile answer checkFile scfReadConfig ctxPtr config = .ok out) ↔
      ∀ file, ReachesParser checkFile ctxPtr config file →
        (scfReadConfig file.bytes).isNull = true ∨ Accessible (scfReadConfig file.bytes) := by
  by_cases hreach : ∃ file, ReachesParser checkFile ctxPtr config file
  swap
  · have hreach := not_exists.mp hreach
    obtain ⟨ret, -, hcall⟩ := scfSetConfigFile_of_not_reaches answer scfReadConfig hreach
    exact iff_of_true ⟨_, hcall⟩ fun file hfile => absurd hfile (hreach file)
  obtain ⟨file, hreach⟩ := hreach
  rw [scfSetConfigFile_of_reaches hreach]
  constructor
  · rintro ⟨out, hout⟩ file' hreach'
    obtain rfl := Option.some.inj (hreach.config.symm.trans hreach'.config)
    cases hparse : scfParseConfig checkFile (scfReadConfig file.bytes) newConfig with
    | error accessor =>
      rw [hparse] at hout
      cases hout
    | ok parsed => exact accessible_of_returns hparse
  · intro hall
    obtain ⟨parsed, hparse⟩ := returns_of_accessible (hall file hreach) checkFile newConfig
    rw [hparse]
    exact ⟨_, rfl⟩

theorem scfSetConfigFile_returns_of_accessible (hreach : ReachesParser checkFile ctxPtr config file)
    (hdoc : Accessible (scfReadConfig file.bytes)) :
    ∃ out, scfSetConfigFile answer checkFile scfReadConfig ctxPtr config = .ok out := by
  refine (scfSetConfigFile_returns answer checkFile scfReadConfig ctxPtr config).mpr
    fun file' hreach' => .inr ?_
  obtain rfl := Option.some.inj (hreach.config.symm.trans hreach'.config)
  exact hdoc

/-- A call that returns has made the calls of its script, and succeeds just if they are accepted. -/
theorem scfSetConfigFile_run {ret : Errno} {s : Applying}
    (h : scfSetConfigFile answer checkFile scfReadConfig ctxPtr config = .ok (ret, s)) :
    (decide (ret = .success), s.calls) =
      (configScript checkFile scfReadConfig ctxPtr config).run (succeeds answer) [] := by
  by_cases hreach : ∃ file, ReachesParser checkFile ctxPtr config file
  swap
  · have hreach := not_exists.mp hreach
    obtain ⟨ret', hret', hcall⟩ := scfSetConfigFile_of_not_reaches answer scfReadConfig hreach
    obtain ⟨rfl, rfl⟩ := Prod.mk.inj (Except.ok.inj (hcall.symm.trans h))
    rw [configScript_of_not_reaches hreach]
    exact Prod.ext (decide_eq_false hret') rfl
  obtain ⟨file, hreach⟩ := hreach
  rw [scfSetConfigFile_of_reaches hreach] at h
  rw [configScript_of_reaches hreach]
  cases hparse : scfParseConfig checkFile (scfReadConfig file.bytes) newConfig with
  | error accessor =>
    rw [hparse] at h
    cases h
  | ok parsed =>
    obtain ⟨code, cfg⟩ := parsed
    rw [hparse] at h
    have hs := Except.ok.inj h
    dsimp only at hs
    unfold fileConfig
    rcases accessible_of_returns hparse with hnull | hdoc
    · -- a file that cannot be read
      have hparsed : scfParseConfig checkFile (scfReadConfig file.bytes) newConfig =
          .ok (.error, newConfig) := by
        rw [scfParseConfig, hnull]
        rfl
      obtain ⟨rfl, rfl⟩ := Prod.mk.inj (Except.ok.inj (hparse.symm.trans hparsed))
      rw [if_pos (by decide)] at hs
      obtain ⟨rfl, rfl⟩ := Prod.mk.inj hs
      rw [if_pos hnull]
      exact Prod.ext rfl (cleanConfig_calls _)
    · have hobj : (scfReadConfig file.bytes).isNull = false := hdoc.isNull
      have hmeaning := scfParseConfig_yields checkFile hdoc newConfig
      rw [hobj, if_neg Bool.false_ne_true]
      rw [hparse] at hmeaning
      generalize denoteConfig checkFile cStr newConfig (scfReadConfig file.bytes) = d at hmeaning ⊢
      cases hmeaning with
      | done =>
        rw [if_neg (not_not_intro rfl)] at hs
        have hfollows := @applyConfig_follows answer (.start cfg)
        rw [hs] at hfollows
        exact hfollows.symm
      | failed _ hret =>
        rw [if_pos hret] at hs
        obtain ⟨rfl, rfl⟩ := Prod.mk.inj hs
        exact Prod.ext rfl (cleanConfig_calls _)

/-- For all arguments, every document, and every answer of the functions that are called: the call
returns unless its parser is given a document that is neither `null` nor accessible. If it returns,
it has made the calls that the file stands for, up to the first that fails, and none if it stands
for none; and it succeeds just if the file stands for a configuration and its calls are
accepted. -/
theorem scfSetConfigFile_follows (answer : List LibCall → LibCall → Errno)
    (checkFile : StdString → Bool) (scfReadConfig : StdString → Document Num) (ctxPtr : Ptr)
    (config : Option CString) :
    ((∃ out, scfSetConfigFile answer checkFile scfReadConfig ctxPtr config = .ok out) ↔
      ∀ file, ReachesParser checkFile ctxPtr config file →
        (scfReadConfig file.bytes).isNull = true ∨ Accessible (scfReadConfig file.bytes)) ∧
    ∀ ret s, scfSetConfigFile answer checkFile scfReadConfig ctxPtr config = .ok (ret, s) →
      (decide (ret = .success), s.calls) =
        (configScript checkFile scfReadConfig ctxPtr config).run (succeeds answer) [] :=
  ⟨scfSetConfigFile_returns answer checkFile scfReadConfig ctxPtr config,
    fun _ _ h => scfSetConfigFile_run h⟩

end Whole

/-- The calls of the full document. -/
def fullCalls : List LibCall :=
  [.setProtocolVersion tls12Version tls13Version [tls12Version], .setCipherSuites [0x1301],
    .fileCtxNew, .stringToCharPtr (ascii "/etc/ca.pem"), .fileCtxSetBuf (ascii "/etc/ca.pem"),
    .addCert 0, .fileCtxNew, .stringToCharPtr (ascii "/etc/key.pem"),
    .fileCtxSetBuf (ascii "/etc/key.pem"), .fileCtxSetPwd (ascii "secret") true, .setKey]

/-- They are all made, and the last one fails. A file that is no JSON is an error. -/
theorem scfSetConfigFile_follows_fullDocument :
    (∃ ret s, scfSetConfigFile setKeyFails (fun _ => true) (fun _ => fullDocument) .valid
      (some configPath) = .ok (ret, s) ∧ ret ≠ .success ∧ s.calls = fullCalls) ∧
    ∃ ret s, scfSetConfigFile setKeyFails (fun _ => true) (fun _ => (.null : Document ℕ)) .valid
      (some configPath) = .ok (ret, s) ∧ ret ≠ .success ∧ s.calls = [] := by
  have hreach : ReachesParser (fun _ => true) .valid (some configPath) configPath :=
    ⟨rfl, rfl, by decide +kernel, rfl⟩
  constructor
  · obtain ⟨hreturns, hfollows⟩ :=
      scfSetConfigFile_follows setKeyFails (fun _ => true) (fun _ => fullDocument) .valid
        (some configPath)
    have hdoc : Accessible fullDocument := by
      refine ⟨rfl, fun v hmem => ?_⟩
      obtain rfl := Option.some.inj hmem
      rfl
    obtain ⟨⟨ret, s⟩, hcall⟩ := hreturns.mpr fun _ _ => .inr hdoc
    have hcalls : ((fileConfig (fun _ => true) fullDocument).elim .reject SCFConfig.script).run
        (succeeds setKeyFails) [] = (false, fullCalls) := by decide +kernel
    have hrun := hfollows ret s hcall
    rw [configScript_of_reaches hreach, hcalls] at hrun
    obtain ⟨hret, hmade⟩ := Prod.mk.inj hrun
    exact ⟨ret, s, hcall, of_decide_eq_false hret, hmade⟩
  · obtain ⟨hreturns, hfollows⟩ :=
      scfSetConfigFile_follows setKeyFails (fun _ => true) (fun _ => (.null : Document ℕ)) .valid
        (some configPath)
    obtain ⟨⟨ret, s⟩, hcall⟩ := hreturns.mpr fun _ _ => .inl rfl
    have hrun := hfollows ret s hcall
    rw [configScript_of_reaches hreach] at hrun
    obtain ⟨hret, hmade⟩ := Prod.mk.inj hrun
    exact ⟨ret, s, hcall, of_decide_eq_false hret, hmade⟩

end Apply

end Scf
