import ScfSecurity.ConfigFile.Parse

/-!
# What a configuration document means

The documented shape of a configuration is a reader of the document: it has a result if each section
that is present has its shape, and the result is the `Config` that the document stands for. It takes
the strings of the document through a view, so that it can be compared with a reader that cuts them.

## Main definitions

- `denoteConfig`: the reader
- `configStrings`: the strings that it reads

## Main results

- `denoteConfig_reads`: the meaning of a document depends on these strings
-/

namespace Scf

variable {Num α β : Type}

/-! ### The documented meaning -/

section Denote

variable (checkFile : StdString → Bool) (view : StdString → StdString)

def denoteString (v : Document Num) : Option StdString := v.string?.map view

/-- A name of a table. -/
def denoteName (table : List (String × α)) (v : Document Num) : Option α :=
  (denoteString view v).bind (findByName table)

/-- A path that passes the check. -/
def denotePath (v : Document Num) : Option StdString := (denoteString view v).filter checkFile

/-- An array of at most `limit` elements. -/
def arrayUpTo (limit : ℕ) (v : Document Num) : Option (List (Document Num)) :=
  v.array?.filter fun elems => elems.length ≤ limit

/-- The bounds, and a list of forbidden versions that is added to what is there. -/
def denoteTlsVersion (out : TlsVersion) (v : Document Num) : Option TlsVersion :=
  Option.map₂ (fun bounds forbidVersion => ⟨bounds.1, bounds.2, out.forbidVersion ++ forbidVersion⟩)
    (Option.map₂ Prod.mk ((v.member? minVersionKey).bind (denoteName view tlsVersionMap))
      ((v.member? maxVersionKey).bind (denoteName view tlsVersionMap)))
    (((v.member? forbidVersionKey).bind (arrayUpTo maxForbinVersionLength)).bind
      fun versions => versions.mapM (denoteName view tlsVersionMap))

/-- A list of suites that is added to what is there; it must not stay empty. -/
def denoteTlsCipherSuites (out : List UInt16) (v : Document Num) : Option (List UInt16) :=
  (((arrayUpTo maxTlsCipherSuitesLength v).bind
    fun ciphers => ciphers.mapM (denoteName view cipherMap)).map (out ++ ·)).filter (· ≠ [])

def denoteCert (v : Document Num) : Option Cert :=
  Option.map₂ Cert.mk
    (((v.member? certTypeKey).bind (denoteString view)).filter
      fun certType => (findByName tlsCertTypeMap certType).isSome)
    ((v.member? storeBufKey).bind (denotePath checkFile view))

def denoteCerts (out : List Cert) (v : Document Num) : Option (List Cert) :=
  (v.array?.bind fun certObjs => certObjs.mapM fun certObj =>
    (certObj.member? certKey).bind (denoteCert checkFile view)).map (out ++ ·)

def denoteKeyAuth (out : KeyAuth) (v : Document Num) : Option KeyAuth :=
  Option.map₂ (fun storeBuf isCipher => ⟨out.storeBuf ++ storeBuf, isCipher⟩)
    ((v.member? storeBufKey).bind (denoteString view)) ((v.member? isCipherKey).bind JsonValue.bool?)

def denotePrivKey (out : PrivKey) (v : Document Num) : Option PrivKey :=
  Option.map₂ PrivKey.mk ((v.member? storeBufKey).bind (denotePath checkFile view))
    ((v.member? keyAuthKey).bind (denoteKeyAuth view out.keyAuth))

/-- A section that may be absent. -/
def denoteSection (key : StdString) (denote : β → Document Num → Option β) (out : β)
    (v : Document Num) : Option β :=
  (v.member? key).elim (some out) (denote out)

/-- The configuration that a document makes of one that is there. -/
def denoteConfig (cfg : SCFConfig) (v : Document Num) : Option SCFConfig :=
  Option.map₂ (fun tls auth => ⟨tls.1, tls.2, auth.1, auth.2⟩)
    (Option.map₂ Prod.mk (denoteSection tlsVersionKey (denoteTlsVersion view) cfg.tlsVersion v)
      (denoteSection tlsCipherSuitesKey (denoteTlsCipherSuites view) cfg.tlsCipherSuites v))
    (Option.map₂ Prod.mk (denoteSection certsKey (denoteCerts checkFile view) cfg.certs v)
      (denoteSection privateKeyKey (denotePrivKey checkFile view) cfg.privKey v))

end Denote

/-! ### The strings of a document -/

def stringAt (key : StdString) (v : Document Num) : List StdString :=
  (v.member? key).toList.flatMap fun w => w.string?.toList

def elementStrings (elems : List (Document Num)) : List StdString :=
  elems.flatMap fun w => w.string?.toList

def tlsVersionStrings (v : Document Num) : List StdString :=
  (stringAt minVersionKey v ++ stringAt maxVersionKey v) ++
    ((v.member? forbidVersionKey).bind (arrayUpTo maxForbinVersionLength)).toList.flatMap
      elementStrings

def tlsCipherSuitesStrings (v : Document Num) : List StdString :=
  (arrayUpTo maxTlsCipherSuitesLength v).toList.flatMap elementStrings

def certStrings (v : Document Num) : List StdString :=
  stringAt certTypeKey v ++ stringAt storeBufKey v

def certsStrings (v : Document Num) : List StdString :=
  v.array?.toList.flatMap fun certObjs => certObjs.flatMap fun certObj =>
    (certObj.member? certKey).toList.flatMap certStrings

def privKeyStrings (v : Document Num) : List StdString :=
  stringAt storeBufKey v ++ (v.member? keyAuthKey).toList.flatMap fun keyAuth =>
    stringAt storeBufKey keyAuth ++ []

/-- The strings that a configuration is made of: the names of versions, suites and types of
certificates, the paths, and the password. -/
def configStrings (v : Document Num) : List StdString :=
  ((v.member? tlsVersionKey).toList.flatMap tlsVersionStrings ++
      (v.member? tlsCipherSuitesKey).toList.flatMap tlsCipherSuitesStrings) ++
    ((v.member? certsKey).toList.flatMap certsStrings ++
      (v.member? privateKeyKey).toList.flatMap privKeyStrings)

/-- All names of the tables are C strings. -/
theorem cStr_of_findByName {table : List (String × α)} {name : StdString} {a : α}
    (htable : ∀ entry ∈ table, 0 ∉ ascii entry.1) (h : findByName table name = some a) :
    cStr name = name := by
  obtain ⟨entry, hfind, -⟩ := Option.map_eq_some_iff.mp h
  have hname : ascii entry.1 = name := by simpa using List.find?_some hfind
  rw [cStr_eq_self_iff, ← hname]
  exact htable entry (List.mem_of_find?_eq_some hfind)

section Reads

variable {checkFile : StdString → Bool}

theorem denoteString_reads :
    ReadsThrough cStr (fun view (v : Document Num) => denoteString view v)
      fun v => v.string?.toList where
  congr {v} hview := by
    unfold denoteString
    cases hs : v.string? with
    | none => rfl
    | some s => exact congrArg some (hview s (by simp [hs]))
  fixed {v s} hid hview := by
    unfold denoteString at hid hview
    cases hs : v.string? with
    | none => simp
    | some s' =>
      rw [hs] at hid hview
      have heq : cStr s' = s' := (Option.some.inj hview).trans (Option.some.inj hid).symm
      simpa using heq

theorem denoteName_reads {table : List (String × α)}
    (htable : ∀ entry ∈ table, 0 ∉ ascii entry.1) :
    ReadsThrough cStr (fun view (v : Document Num) => denoteName view table v)
      fun v => v.string?.toList where
  congr hview := by
    unfold denoteName
    rw [denoteString_reads.congr hview]
  fixed {v a} hid _ := by
    obtain ⟨name, hname, hfind⟩ := Option.bind_eq_some_iff.mp hid
    have hs : v.string? = some name := by simpa [denoteString] using hname
    simpa [hs] using cStr_of_findByName htable hfind

theorem denoteTlsVersion_reads (out : TlsVersion) :
    ReadsThrough cStr (fun view (v : Document Num) => denoteTlsVersion view out v)
      tlsVersionStrings := by
  have hname : ReadsThrough cStr (fun view (v : Document Num) => denoteName view tlsVersionMap v)
      fun v => v.string?.toList := denoteName_reads (by decide)
  refine .map₂ ?_ (.map₂ ?_ (hname.part _) (hname.part _)) (hname.mapM.part _)
  · rintro ⟨_, _⟩ _ ⟨_, _⟩ _ heq
    simpa [and_assoc] using heq
  · intro _ _ _ _ heq
    exact Prod.mk.inj heq

theorem denoteTlsCipherSuites_reads (out : List UInt16) :
    ReadsThrough cStr (fun view (v : Document Num) => denoteTlsCipherSuites view out v)
      tlsCipherSuitesStrings := by
  have hname : ReadsThrough cStr (fun view (v : Document Num) => denoteName view cipherMap v)
      fun v => v.string?.toList := denoteName_reads (by decide +kernel)
  exact ((hname.mapM.part _).map fun _ _ heq => List.append_cancel_left heq).filter _

theorem denoteCerts_reads (out : List Cert) :
    ReadsThrough cStr (fun view (v : Document Num) => denoteCerts checkFile view out v)
      certsStrings := by
  have hstring := @denoteString_reads Num
  have hcert : ReadsThrough cStr (fun view (v : Document Num) => denoteCert checkFile view v)
      certStrings := by
    refine .map₂ ?_ ((hstring.part _).filter _) ((hstring.filter _).part _)
    intro _ _ _ _ heq
    exact Cert.mk.inj heq
  exact ((hcert.part _).mapM.part _).map fun _ _ heq => List.append_cancel_left heq

theorem denotePrivKey_reads (out : PrivKey) :
    ReadsThrough cStr (fun view (v : Document Num) => denotePrivKey checkFile view out v)
      privKeyStrings := by
  have hstring := @denoteString_reads Num
  have hkeyAuth : ReadsThrough cStr
      (fun view (v : Document Num) => denoteKeyAuth view out.keyAuth v)
      fun v => stringAt storeBufKey v ++ [] := by
    refine .map₂ ?_ (hstring.part _) (.const _)
    intro _ _ _ _ heq
    simpa using heq
  refine .map₂ ?_ ((hstring.filter _).part _) (hkeyAuth.part _)
  intro _ _ _ _ heq
  exact PrivKey.mk.inj heq

/-- The meaning of a document depends on these strings. -/
theorem denoteConfig_reads (cfg : SCFConfig) :
    ReadsThrough cStr (fun view (v : Document Num) => denoteConfig checkFile view cfg v)
      configStrings := by
  refine .map₂ ?_ (.map₂ ?_ ((denoteTlsVersion_reads _).partD _ _)
      ((denoteTlsCipherSuites_reads _).partD _ _))
    (.map₂ ?_ ((denoteCerts_reads _).partD _ _) ((denotePrivKey_reads _).partD _ _))
  · rintro ⟨_, _⟩ ⟨_, _⟩ ⟨_, _⟩ ⟨_, _⟩ heq
    simpa [and_assoc] using heq
  · intro _ _ _ _ heq
    exact Prod.mk.inj heq
  · intro _ _ _ _ heq
    exact Prod.mk.inj heq

end Reads

end Scf
