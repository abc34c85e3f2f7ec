import ScfSecurity.ConfigFile.ParseSpec

/-!
# Applying a configuration file

`SCF_SetConfigFile` parses a document and then configures a policy context with it. Every function
it calls on the way may fail. The password of the private key is in a vector of the `Config`; it is
overwritten in one of three places, depending on where the call ends.

## Main definitions

- `LibCall`: the calls that may fail
- `Applying`: the calls that were made, the `Config`, and the memory of the password
- `scfSetConfigFile`: `SCF_SetConfigFile`

## Main results

- `setPrivKeyAndPwd4Ctx_covers`, `cleanConfig_memory`: what happens to the password
- `scfSetConfigFile_outcome`: how a call can end
-/

namespace Scf

/-- A call of another function of the library, with its arguments. -/
inductive LibCall where
  | setProtocolVersion (minVersion maxVersion : UInt32) (forbidVersion : List UInt32)
  | setCipherSuites (cipherSuites : List UInt16)
  | fileCtxNew
  | stringToCharPtr (str : StdString)
  | fileCtxSetBuf (path : StdString)
  | fileCtxSetPwd (passwd : List UInt8) (isCipher : Bool)
  | addCert (certType : UInt32)
  | setKey
deriving DecidableEq

/-- The call gets the policy context. -/
def LibCall.onPolicyCtx : LibCall → Bool
  | setProtocolVersion .. | setCipherSuites .. | addCert .. | setKey => true
  | _ => false

/-- The calls so far, the `Config`, and the memory behind the vector of the password, where the
bytes stay when they are no longer elements of it. -/
structure Applying where
  calls : List LibCall
  cfg : SCFConfig
  memory : List UInt8

namespace Applying

/-- A `Config` that was just parsed. -/
def start (cfg : SCFConfig) : Applying := ⟨[], cfg, cfg.privKey.keyAuth.storeBuf⟩

/-- The password, as the elements of its vector. -/
def passwd (s : Applying) : List UInt8 := s.cfg.privKey.keyAuth.storeBuf

def setPasswd (s : Applying) (storeBuf : List UInt8) : Applying :=
  { s with cfg := { s.cfg with privKey := { s.cfg.privKey with
      keyAuth := { s.cfg.privKey.keyAuth with storeBuf } } } }

/-- `std::fill` with zeros, over the elements of the vector. -/
def fillPasswd (s : Applying) : Applying :=
  let zeros := List.replicate s.passwd.length 0
  { s.setPasswd zeros with memory := zeros ++ s.memory.drop s.passwd.length }

/-- `clear` of the vector. -/
def clearPasswd (s : Applying) : Applying := s.setPasswd []

end Applying

/-- `CleanConfig`. -/
def cleanConfig (s : Applying) : Applying :=
  if s.passwd ≠ [] then s.fillPasswd.clearPasswd else s

section Apply

-- what the calls return, each after those before it
variable (answer : List LibCall → LibCall → Errno)

/-- Make a call. -/
def ask (call : LibCall) (s : Applying) : Errno × Applying :=
  (answer s.calls call, { s with calls := s.calls ++ [call] })

def setProtocolVersion4PolicyCtx (s : Applying) : Errno × Applying :=
  let tlsVersion := s.cfg.tlsVersion
  if tlsVersion.maxVersion = 0 || tlsVersion.minVersion = 0 then (.success, s)
  else
    let (ret, s) := ask answer (.setProtocolVersion tlsVersion.minVersion tlsVersion.maxVersion
      tlsVersion.forbidVersion) s
    if ret ≠ .success then (.error, s) else (.success, s)

def setCipherSuites4PolicyCtx (s : Applying) : Errno × Applying :=
  if s.cfg.tlsCipherSuites = [] then (.success, s)
  else
    let (ret, s) := ask answer (.setCipherSuites s.cfg.tlsCipherSuites) s
    if ret ≠ .success then (.error, s) else (.success, s)

def setTLS (s : Applying) : Errno × Applying :=
  let (ret, s) := setProtocolVersion4PolicyCtx answer s
  if ret ≠ .success then (.error, s)
  else
    let (ret, s) := setCipherSuites4PolicyCtx answer s
    if ret ≠ .success then (.error, s) else (.success, s)

def addCertInner (certObj : Cert) (s : Applying) : Errno × Applying :=
  let (ret, s) := ask answer (.fileCtxSetBuf (cStr certObj.storeBuf)) s
  if ret ≠ .success then (.error, s)
  else
    match findByName tlsCertTypeMap certObj.certType with
    | none => (.error, s)
    | some certType => ask answer (.addCert certType) s

/-- The loop of `AddCert2PolicyCtx`. -/
def addCert2PolicyCtx : List Cert → Applying → Errno × Applying
  | [], s => (.success, s)
  | certObj :: rest, s =>
    let (ret, s) := ask answer .fileCtxNew s
    if ret ≠ .success then (.error, s)
    else
      let (ret, s) := ask answer (.stringToCharPtr certObj.storeBuf) s
      if ret ≠ .success then (.error, s)
      else
        let (ret, s) := addCertInner answer certObj s
        if ret ≠ .success then (.error, s) else addCert2PolicyCtx rest s

def createAndInitializeFileCtx (s : Applying) : Errno × Applying :=
  let (ret, s) := ask answer .fileCtxNew s
  if ret ≠ .success then (.memAlloc, s)
  else
    let (ret, s) := ask answer (.stringToCharPtr s.cfg.privKey.storeBuf) s
    if ret ≠ .success then (.error, s) else (.success, s)

def setFileCtxPassword (s : Applying) : Errno × Applying :=
  if s.passwd = [] then (.error, s)
  else if !s.cfg.privKey.keyAuth.isCipher then (.error, s)
  else
    let (ret, s) := ask answer (.fileCtxSetPwd s.passwd s.cfg.privKey.keyAuth.isCipher) s
    if ret ≠ .success then (ret, s.fillPasswd) else (.success, s)

def setKeyAndPwd (s : Applying) : Errno × Applying :=
  let (ret, s) := ask answer (.fileCtxSetBuf (cStr s.cfg.privKey.storeBuf)) s
  if ret ≠ .success then (ret, s)
  else
    let (ret, s) := setFileCtxPassword answer s
    if ret ≠ .success then (ret, s) else ask answer .setKey s

def setPrivKeyAndPwd4Ctx (s : Applying) : Errno × Applying :=
  if s.cfg.privKey.storeBuf = [] then
    if s.passwd = [] then (.success, s) else (.error, s)
  else
    let (ret, s) := createAndInitializeFileCtx answer s
    if ret ≠ .success then (ret, s)
    else
      let (ret, s) := setKeyAndPwd answer s
      if ret ≠ .success then (ret, s)
      else if s.passwd ≠ [] then (.success, s.fillPasswd)
      else (.success, s)

def setCertAndKey (s : Applying) : Errno × Applying :=
  let (ret, s) := addCert2PolicyCtx answer s.cfg.certs s
  if ret ≠ .success then (.error, s)
  else
    let (ret, s) := setPrivKeyAndPwd4Ctx answer s
    if ret ≠ .success then (.error, s) else (.success, s)

/-- `SCF_SetConfigFile` behind the parser. -/
def applyConfig (s : Applying) : Errno × Applying :=
  let (ret, s) := setTLS answer s
  if ret ≠ .success then (.error, cleanConfig s)
  else
    let (ret, s) := setCertAndKey answer s
    if ret ≠ .success then (.error, cleanConfig s) else (.success, s)

/-- `SCF_SetConfigFile`: the code, and the state in which the `Config` is destroyed.
`scfReadConfig` is what `SCF_ReadConfig` makes of a file. -/
def scfSetConfigFile {Num : Type} (checkFile : StdString → Bool)
    (scfReadConfig : StdString → Document Num) (ctxPtr : Ptr) (config : Option CString) :
    Access (Errno × Applying) :=
  match ctxPtr, config with
  | .valid, some config =>
    if config.bytes.length = 0 then pure (.invalidParam, .start newConfig)
    else if !checkFile config.bytes then pure (.error, .start newConfig)
    else do
      let (ret, cfg) ← scfParseConfig checkFile (scfReadConfig config.bytes) newConfig
      if ret ≠ .success then pure (.error, cleanConfig (.start cfg))
      else pure (applyConfig answer (.start cfg))
  | _, _ => pure (.nullInput, .start newConfig)

end Apply

/-! ### The `Config` under the calls -/

/-- Only calls were made in between. -/
structure Applying.SameConfig (s s' : Applying) : Prop where
  cfg : s'.cfg = s.cfg
  memory : s'.memory = s.memory

namespace Applying

theorem SameConfig.refl (s : Applying) : s.SameConfig s := ⟨rfl, rfl⟩

theorem SameConfig.trans {s s' s'' : Applying} (h : s.SameConfig s') (h' : s'.SameConfig s'') :
    s.SameConfig s'' :=
  ⟨h'.cfg.trans h.cfg, h'.memory.trans h.memory⟩

/-- The password has `n` bytes, and all of its memory belongs to the elements of the vector. -/
structure Covers (n : ℕ) (s : Applying) : Prop where
  passwd : s.passwd.length = n
  memory : s.memory.length = n

theorem start_covers (cfg : SCFConfig) :
    (start cfg).Covers cfg.privKey.keyAuth.storeBuf.length := ⟨rfl, rfl⟩

theorem Covers.of_same {n : ℕ} {s s' : Applying} (h : s.Covers n) (hsame : s.SameConfig s') :
    s'.Covers n where
  passwd := by
    rw [Applying.passwd, hsame.cfg]
    exact h.passwd
  memory := hsame.memory ▸ h.memory

theorem Covers.fillPasswd_memory {n : ℕ} {s : Applying} (h : s.Covers n) :
    s.fillPasswd.memory = List.replicate n 0 := by
  have hdrop : s.memory.drop n = [] := List.drop_eq_nil_of_le (Nat.le_of_eq h.memory)
  simp only [fillPasswd, h.passwd, hdrop, List.append_nil]

theorem Covers.fillPasswd {n : ℕ} {s : Applying} (h : s.Covers n) : s.fillPasswd.Covers n where
  passwd := by
    show (List.replicate s.passwd.length (0 : UInt8)).length = n
    rw [List.length_replicate, h.passwd]
  memory := by rw [h.fillPasswd_memory, List.length_replicate]

/-- Without a password there is nothing to overwrite. -/
theorem Covers.memory_of_passwd_nil {n : ℕ} {s : Applying} (h : s.Covers n)
    (hnil : s.passwd = []) : s.memory = List.replicate n 0 := by
  have hn : n = 0 := by rw [← h.passwd, hnil, List.length_nil]
  subst hn
  exact List.length_eq_zero_iff.mp h.memory

end Applying

/-- `CleanConfig` overwrites the password, wherever the call has got to. -/
theorem cleanConfig_memory {n : ℕ} {s : Applying} (h : s.Covers n) :
    (cleanConfig s).memory = List.replicate n 0 := by
  unfold cleanConfig
  by_cases hnil : s.passwd = []
  · rw [if_neg (not_not.mpr hnil)]
    exact h.memory_of_passwd_nil hnil
  · rw [if_pos hnil]
    exact h.fillPasswd_memory

theorem cleanConfig_calls (s : Applying) : (cleanConfig s).calls = s.calls := by
  unfold cleanConfig
  split_ifs <;> rfl

section Apply

variable (answer : List LibCall → LibCall → Errno)

theorem ask_same (call : LibCall) (s : Applying) : s.SameConfig (ask answer call s).2 := ⟨rfl, rfl⟩

theorem setTLS_same (s : Applying) : s.SameConfig (setTLS answer s).2 := by
  have hversion : ∀ s, Applying.SameConfig s (setProtocolVersion4PolicyCtx answer s).2 := by
    intro s
    unfold setProtocolVersion4PolicyCtx
    dsimp only
    split_ifs <;> exact ⟨rfl, rfl⟩
  have hsuites : ∀ s, Applying.SameConfig s (setCipherSuites4PolicyCtx answer s).2 := by
    intro s
    unfold setCipherSuites4PolicyCtx
    dsimp only
    split_ifs <;> exact ⟨rfl, rfl⟩
  unfold setTLS
  dsimp only
  split_ifs
  · exact hversion s
  · exact (hversion s).trans (hsuites _)
  · exact (hversion s).trans (hsuites _)

theorem addCertInner_same (certObj : Cert) (s : Applying) :
    s.SameConfig (addCertInner answer certObj s).2 := by
  unfold addCertInner
  dsimp only
  split_ifs
  · exact ask_same answer _ s
  · cases findByName tlsCertTypeMap certObj.certType with
    | none => exact ask_same answer _ s
    | some certType => exact (ask_same answer _ s).trans (ask_same answer _ _)

theorem addCert2PolicyCtx_same (certs : List Cert) (s : Applying) :
    s.SameConfig (addCert2PolicyCtx answer certs s).2 := by
  induction certs generalizing s with
  | nil => exact .refl s
  | cons certObj rest ih =>
    unfold addCert2PolicyCtx
    dsimp only
    have hnew := ask_same answer .fileCtxNew s
    have hstring := hnew.trans (ask_same answer (.stringToCharPtr certObj.storeBuf) _)
    have hcert := hstring.trans (addCertInner_same answer certObj _)
    split_ifs
    · exact hnew
    · exact hstring
    · exact hcert
    · exact hcert.trans (ih _)

theorem createAndInitializeFileCtx_same (s : Applying) :
    s.SameConfig (createAndInitializeFileCtx answer s).2 := by
  unfold createAndInitializeFileCtx
  dsimp only
  split_ifs <;> exact ⟨rfl, rfl⟩

theorem setFileCtxPassword_covers {n : ℕ} {s : Applying} (h : s.Covers n) :
    (setFileCtxPassword answer s).2.Covers n := by
  unfold setFileCtxPassword
  dsimp only
  have hask := h.of_same
    (ask_same answer (.fileCtxSetPwd s.passwd s.cfg.privKey.keyAuth.isCipher) s)
  split_ifs
  · exact h
  · exact h
  · exact hask.fillPasswd
  · exact hask

theorem setKeyAndPwd_covers {n : ℕ} {s : Applying} (h : s.Covers n) :
    (setKeyAndPwd answer s).2.Covers n := by
  unfold setKeyAndPwd
  dsimp only
  have hbuf := h.of_same (ask_same answer (.fileCtxSetBuf (cStr s.cfg.privKey.storeBuf)) s)
  have hpwd := setFileCtxPassword_covers answer hbuf
  split_ifs
  · exact hbuf
  · exact hpwd
  · exact hpwd.of_same (ask_same answer _ _)

/-- The key is set with the password overwritten, or not at all. -/
theorem setPrivKeyAndPwd4Ctx_covers {n : ℕ} {s : Applying} (h : s.Covers n) :
    (setPrivKeyAndPwd4Ctx answer s).2.Covers n ∧
      ((setPrivKeyAndPwd4Ctx answer s).1 = .success →
        (setPrivKeyAndPwd4Ctx answer s).2.memory = List.replicate n 0) := by
  unfold setPrivKeyAndPwd4Ctx
  dsimp only
  have hcreate := h.of_same (createAndInitializeFileCtx_same answer s)
  have hkey := setKeyAndPwd_covers answer hcreate
  split_ifs with hpath hnil hfail hfail' hpasswd
  · exact ⟨h, fun _ => h.memory_of_passwd_nil hnil⟩
  · exact ⟨h, fun hret => absurd hret (by decide)⟩
  · exact ⟨hcreate, fun hret => absurd hret hfail⟩
  · exact ⟨hkey, fun hret => absurd hret hfail'⟩
  · exact ⟨hkey.fillPasswd, fun _ => hkey.fillPasswd_memory⟩
  · exact ⟨hkey, fun _ => hkey.memory_of_passwd_nil (not_not.mp hpasswd)⟩

theorem setCertAndKey_covers {n : ℕ} {s : Applying} (h : s.Covers n) :
    (setCertAndKey answer s).2.Covers n ∧
      ((setCertAndKey answer s).1 = .success →
        (setCertAndKey answer s).2.memory = List.replicate n 0) := by
  have hcerts := h.of_same (addCert2PolicyCtx_same answer s.cfg.certs s)
  obtain ⟨hkey, hwiped⟩ := setPrivKeyAndPwd4Ctx_covers answer hcerts
  unfold setCertAndKey
  dsimp only
  split_ifs with hfail hfail'
  · exact ⟨hcerts, fun hret => absurd hret (by decide)⟩
  · exact ⟨hkey, fun hret => absurd hret (by decide)⟩
  · exact ⟨hkey, fun _ => hwiped (not_not.mp hfail')⟩

/-- However it ends, the password is overwritten. -/
theorem applyConfig_memory {n : ℕ} {s : Applying} (h : s.Covers n) :
    (applyConfig answer s).2.memory = List.replicate n 0 := by
  have htls := h.of_same (setTLS_same answer s)
  obtain ⟨hkey, hwiped⟩ := setCertAndKey_covers answer htls
  unfold applyConfig
  dsimp only
  split_ifs with hfail hfail'
  · exact cleanConfig_memory htls
  · exact cleanConfig_memory hkey
  · exact hwiped (not_not.mp hfail')

/-! ### The whole call -/

variable {Num : Type} {checkFile : StdString → Bool} {scfReadConfig : StdString → Document Num}

/-- The call gets to its parser with this file. -/
structure ReachesParser (checkFile : StdString → Bool) (ctxPtr : Ptr) (config : Option CString)
    (file : CString) : Prop where
  ctxPtr : ctxPtr = .valid
  config : config = some file
  nonempty : file.bytes.length ≠ 0
  checked : checkFile file.bytes = true

/-- How a call of `SCF_SetConfigFile` ends. -/
inductive SetConfigOutcome (checkFile : StdString → Bool) (scfReadConfig : StdString → Document Num)
    (ctxPtr : Ptr) (config : Option CString) : Errno × Applying → Prop
  | rejected {ret : Errno} (hret : ret ≠ .success)
      (hreach : ∀ file, ¬ ReachesParser checkFile ctxPtr config file) :
      SetConfigOutcome checkFile scfReadConfig ctxPtr config (ret, .start newConfig)
  | unparsed {file : CString} {ret : Errno} {cfg : SCFConfig} {s : Applying}
      (hreach : ReachesParser checkFile ctxPtr config file)
      (hparse : scfParseConfig checkFile (scfReadConfig file.bytes) newConfig = .ok (ret, cfg))
      (hret : ret ≠ .success) (hcalls : s.calls = [])
      (hmemory : s.memory = List.replicate cfg.privKey.keyAuth.storeBuf.length 0) :
      SetConfigOutcome checkFile scfReadConfig ctxPtr config (.error, s)
  | applied {file : CString} {ret : Errno} {cfg : SCFConfig} {s : Applying}
      (hreach : ReachesParser checkFile ctxPtr config file)
      (hparse : scfParseConfig checkFile (scfReadConfig file.bytes) newConfig = .ok (.success, cfg))
      (hmemory : s.memory = List.replicate cfg.privKey.keyAuth.storeBuf.length 0) :
      SetConfigOutcome checkFile scfReadConfig ctxPtr config (ret, s)

theorem scfSetConfigFile_outcome {ctxPtr : Ptr} {config : Option CString} {out : Errno × Applying}
    (h : scfSetConfigFile answer checkFile scfReadConfig ctxPtr config = .ok out) :
    SetConfigOutcome checkFile scfReadConfig ctxPtr config out := by
  unfold scfSetConfigFile at h
  split at h
  case h_2 hnull =>
    obtain rfl := Except.ok.inj h
    refine .rejected (by decide) fun file hreach => ?_
    exact hnull file hreach.ctxPtr hreach.config
  case h_1 file =>
    by_cases hempty : file.bytes.length = 0
    · rw [if_pos hempty] at h
      obtain rfl := Except.ok.inj h
      refine .rejected (by decide) fun file' hreach => ?_
      obtain rfl := Option.some.inj hreach.config
      exact hreach.nonempty hempty
    rw [if_neg hempty] at h
    cases hcheck : checkFile file.bytes with
    | false =>
      rw [hcheck] at h
      obtain rfl := Except.ok.inj h
      refine .rejected (by decide) fun file' hreach => ?_
      obtain rfl := Option.some.inj hreach.config
      exact absurd (hcheck.symm.trans hreach.checked) (by decide)
    | true =>
      rw [hcheck] at h
      have hreach : ReachesParser checkFile .valid (some file) file := ⟨rfl, rfl, hempty, hcheck⟩
      cases hparse : scfParseConfig checkFile (scfReadConfig file.bytes) newConfig with
      | error accessor =>
        rw [hparse] at h
        cases h
      | ok parsed =>
        obtain ⟨ret, cfg⟩ := parsed
        rw [hparse] at h
        simp only [Bool.not_true, Bool.false_eq_true, if_false, Access.ok_bind] at h
        have hcovers := Applying.start_covers cfg
        by_cases hret : ret = .success
        · subst hret
          rw [if_neg (not_not.mpr rfl)] at h
          obtain rfl := Except.ok.inj h
          exact .applied hreach hparse (applyConfig_memory answer hcovers)
        · rw [if_pos hret] at h
          obtain rfl := Except.ok.inj h
          exact .unparsed hreach hparse hret (cleanConfig_calls _) (cleanConfig_memory hcovers)

/-- For every document, every answer of the functions that are called, and every way to return: the
policy context is touched only if the whole document was parsed, and the memory of the password,
which has all bytes that the parser stored, is zero when the `Config` is destroyed. -/
theorem scfSetConfigFile_wipes_password {ctxPtr : Ptr} {config : Option CString} {ret : Errno}
    {s : Applying}
    (h : scfSetConfigFile answer checkFile scfReadConfig ctxPtr config = .ok (ret, s)) :
    (∀ call ∈ s.calls, call.onPolicyCtx = true → ∃ file cfg, config = some file ∧
        scfParseConfig checkFile (scfReadConfig file.bytes) newConfig = .ok (.success, cfg)) ∧
      (∀ b ∈ s.memory, b = 0) ∧
      ∀ file, ReachesParser checkFile ctxPtr config file → ∀ ret' cfg,
        scfParseConfig checkFile (scfReadConfig file.bytes) newConfig = .ok (ret', cfg) →
        s.memory.length = cfg.privKey.keyAuth.storeBuf.length := by
  have hsame : ∀ {file file' : CString}, ReachesParser checkFile ctxPtr config file →
      ReachesParser checkFile ctxPtr config file' → file = file' := fun h h' =>
    Option.some.inj (h.config.symm.trans h'.config)
  cases scfSetConfigFile_outcome answer h with
  | rejected hret hreach =>
    refine ⟨fun call hcall => absurd hcall List.not_mem_nil,
      fun b hb => absurd hb List.not_mem_nil, fun file hfile => absurd hfile (hreach file)⟩
  | unparsed hreach hparse hret hcalls hmemory =>
    refine ⟨fun call hcall => ?_, fun b hb => ?_, fun file hfile ret' cfg hparse' => ?_⟩
    · rw [hcalls] at hcall
      exact absurd hcall List.not_mem_nil
    · rw [hmemory] at hb
      exact List.eq_of_mem_replicate hb
    · obtain rfl := hsame hreach hfile
      obtain ⟨-, rfl⟩ := Prod.mk.inj (Except.ok.inj (hparse.symm.trans hparse'))
      rw [hmemory, List.length_replicate]
  | applied hreach hparse hmemory =>
    refine ⟨fun call _ _ => ⟨_, _, hreach.config, hparse⟩, fun b hb => ?_,
      fun file hfile ret' cfg hparse' => ?_⟩
    · rw [hmemory] at hb
      exact List.eq_of_mem_replicate hb
    · obtain rfl := hsame hreach hfile
      obtain ⟨-, rfl⟩ := Prod.mk.inj (Except.ok.inj (hparse.symm.trans hparse'))
      rw [hmemory, List.length_replicate]

end Apply

/-- The path of a configuration file. -/
def configPath : CString := ⟨ascii "/etc/scf.json", by decide +kernel⟩

/-- All calls succeed but the one that sets the key. -/
def setKeyFails (_ : List LibCall) (call : LibCall) : Errno :=
  if call = .setKey then .sslParseKey else .success

theorem scfSetConfigFile_wipes_fullDocument :
    ∃ ret s, scfSetConfigFile setKeyFails (fun _ => true) (fun _ => fullDocument) .valid
        (some configPath) = .ok (ret, s) ∧
      ret = .error ∧ .setKey ∈ s.calls ∧ s.memory.length = 6 ∧ ∀ b ∈ s.memory, b = 0 := by
  obtain ⟨⟨ret, s⟩, hrun⟩ : ∃ out, scfSetConfigFile setKeyFails (fun _ => true)
      (fun _ => fullDocument) .valid (some configPath) = .ok out := ⟨_, rfl⟩
  have hfacts : (scfSetConfigFile setKeyFails (fun _ => true) (fun _ => fullDocument) .valid
      (some configPath)).map (fun out => decide (out.1 = .error ∧ .setKey ∈ out.2.calls ∧
        out.2.memory.length = 6)) = .ok true := by decide +kernel
  rw [hrun] at hfacts
  obtain ⟨hret, hcall, hlen⟩ := of_decide_eq_true (Except.ok.inj hfacts)
  exact ⟨ret, s, hrun, hret, hcall, hlen, (scfSetConfigFile_wipes_password setKeyFails hrun).2.1⟩

end Scf
