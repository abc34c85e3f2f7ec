import ScfSecurity.ConfigFile.Denotation

/-!
# The parser against the meaning of a document

The parser of a configuration file is the documented reader with the strings cut at their first NUL,
provided that the accessors it calls are defined at all: it asks the document and the section of
the versions for members without asking first whether they are objects.

## Main definitions

- `Yields`: a parser does what a reader says
- `Accessible`: the documents that the parser may be given
- `ParsedAsDocumented`: the parser accepts and means what is documented

## Main results

- `scfParseConfig_yields`: the parser is the reader that cuts strings
- `scfParseConfig_returns_iff`: it returns exactly on the documents it may be given
- `scfParseConfig_asDocumented_iff`: when it accepts and means what is documented
-/

namespace Scf

variable {Num α β γ : Type}

/-- The computation ends: with success and the value, or with a failure if there is none. -/
inductive Yields : Access (Errno × α) → Option α → Prop
  | done (a : α) : Yields (.ok (.success, a)) (some a)
  | failed {ret : Errno} (out : α) (hret : ret ≠ .success) : Yields (.ok (ret, out)) none

theorem Yields.error (out : α) : Yields (.ok (.error, out)) none := .failed out (by decide)

/-- One parser behind another, as `if (… != SCF_SUCCESS) { return SCF_ERROR; }` has it. -/
theorem Yields.bind {r : Access (Errno × α)} {d : Option α} {f : α → β}
    {k : α → Access (Errno × β)} {d' : α → Option β} (h : Yields r d)
    (hk : ∀ a, Yields (k a) (d' a)) :
    Yields (do
      let (ret, out) ← r
      if ret ≠ .success then pure (.error, f out) else k out) (d.bind d') := by
  cases h with
  | done a => exact hk a
  | @failed ret out hret =>
    show Yields (if ret ≠ .success then pure (.error, f out) else k out) none
    rw [if_pos hret]
    exact .error (f out)

theorem Yields.of_eq {r : Access (Errno × α)} {d d' : Option α} (h : Yields r d) (hd : d = d') :
    Yields r d' := hd ▸ h

theorem Yields.returns {r : Access (Errno × α)} {d : Option α} (h : Yields r d) :
    ∃ out, r = .ok out := by
  cases h with
  | done a => exact ⟨_, rfl⟩
  | failed out => exact ⟨_, rfl⟩

/-! ### The sections -/

theorem nameItem_eq (table : List (String × α)) (v : Document Num) :
    nameItem table v = .ok (denoteName cStr table v) := by
  unfold nameItem denoteName denoteString
  rw [JsonValue.isString_eq]
  cases hs : v.string? with
  | none => rfl
  | some s =>
    rw [JsonValue.getString_of_string? hs]
    rfl

theorem fillEach_yields {item : Document Num → Access (Option α)} {d : Document Num → Option α}
    (hitem : ∀ v, item v = .ok (d v)) (elems : List (Document Num)) (out : List α) :
    Yields (fillEach item elems out) ((elems.mapM d).map (out ++ ·)) := by
  induction elems generalizing out with
  | nil =>
    have hnil : (([] : List (Document Num)).mapM d).map (out ++ ·) = some out := by simp
    rw [hnil]
    exact .done out
  | cons v rest ih =>
    rw [fillEach, hitem, List.mapM_cons]
    cases d v with
    | none => exact .error out
    | some a =>
      have hrest := ih (out ++ [a])
      show Yields (fillEach item rest (out ++ [a])) _
      cases hmap : rest.mapM d with
      | none => simpa [hmap] using hrest
      | some as => simpa [hmap] using hrest

theorem fillTlsVersion_yields {v w w' : Document Num} {s s' : StdString} (out : TlsVersion)
    (hmin : v.member? minVersionKey = some w) (hmax : v.member? maxVersionKey = some w')
    (hs : w.string? = some s) (hs' : w'.string? = some s') :
    Yields (fillTlsVersion v out)
      (Option.map₂ (fun minVersion maxVersion => { out with minVersion, maxVersion })
        (denoteName cStr tlsVersionMap w) (denoteName cStr tlsVersionMap w')) := by
  simp only [fillTlsVersion, denoteName, denoteString, JsonValue.get_of_member? hmin,
    JsonValue.get_of_member? hmax, JsonValue.getString_of_string? hs,
    JsonValue.getString_of_string? hs', hs, hs', Access.ok_bind, Option.map_some, Option.bind_some]
  cases findByName tlsVersionMap (cStr s) with
  | none => exact .error _
  | some minVersion =>
    cases findByName tlsVersionMap (cStr s') with
    | none => exact .error _
    | some maxVersion => exact .done _

/-- Two parsers, one behind the other, that fill two parts of a result. -/
theorem Yields.map₂ {r₁ : Access (Errno × α)} {r₂ : Access (Errno × β)} {d₁ : Option α}
    {d₂ : Option β} (h₁ : Yields r₁ d₁) (h₂ : Yields r₂ d₂) (f : α → γ) (g : α → β → γ) :
    Yields (do
      let (ret, a) ← r₁
      if ret ≠ .success then pure (.error, f a)
      else
        let (ret, b) ← r₂
        if ret ≠ .success then pure (.error, g a b) else pure (.success, g a b))
      (Option.map₂ g d₁ d₂) := by
  refine (h₁.bind (f := f) fun a => h₂.bind (f := g a) fun b => .done (g a b)).of_eq ?_
  cases d₁ with
  | none => rfl
  | some a => cases d₂ <;> rfl

theorem Yields.map {r : Access (Errno × α)} {d : Option α} (h : Yields r d) (f : α → β) :
    Yields (do
      let (ret, out) ← r
      pure (ret, f out)) (d.map f) := by
  cases h with
  | done a => exact .done (f a)
  | failed out hret => exact .failed (f out) hret

/-- The call whose result is only passed on. -/
theorem Yields.checked {r : Access (Errno × α)} {d : Option α} (h : Yields r d) :
    Yields (do
      let (ret, out) ← r
      if ret ≠ .success then pure (.error, out) else pure (.success, out)) d := by
  cases h with
  | done a => exact .done a
  | @failed ret out hret =>
    show Yields (if ret ≠ .success then pure (.error, out) else pure (.success, out)) none
    rw [if_pos hret]
    exact .error out

theorem fillTlsForbidVersion_yields {v w : Document Num} {versions : List (Document Num)}
    (out : TlsVersion) (hforbid : v.member? forbidVersionKey = some w)
    (harray : w.array? = some versions) :
    Yields (fillTlsForbidVersion v out) ((versions.mapM (denoteName cStr tlsVersionMap)).map
      fun forbidVersion => { out with forbidVersion := out.forbidVersion ++ forbidVersion }) := by
  have hfill := fillEach_yields (nameItem_eq tlsVersionMap) versions out.forbidVersion
  have hmap := hfill.map fun forbidVersion => { out with forbidVersion }
  rw [Option.map_map] at hmap
  simp only [fillTlsForbidVersion, JsonValue.get_of_member? hforbid,
    JsonValue.getArray_of_array? harray, Access.ok_bind]
  exact hmap

theorem arrayInvalid_eq (limit : ℕ) (v : Document Num) :
    (pure (!v.isArray) <||> (fun size => decide (size > limit)) <$> v.size) =
      .ok (arrayUpTo limit v).isNone := by
  rw [JsonValue.isArray_eq, arrayUpTo]
  cases harray : v.array? with
  | none => rfl
  | some elems =>
    rw [JsonValue.size_of_array? harray]
    by_cases hlimit : elems.length ≤ limit
    · simp [hlimit]
    · simp [hlimit, Nat.not_le.mp hlimit]

/-- The forbidden versions, of a value that is there. -/
theorem forbidVersions_yields {v w : Document Num} (out : TlsVersion)
    (hforbid : v.member? forbidVersionKey = some w) :
    Yields (do
      let forbidVersion ← v.get forbidVersionKey
      let forbidVersionInValid ← pure (!forbidVersion.isArray) <||>
        (fun size => decide (size > maxForbinVersionLength)) <$> forbidVersion.size
      if forbidVersionInValid then pure (.error, out)
      else
        let (ret, out) ← fillTlsForbidVersion v out
        if ret ≠ .success then pure (.error, out) else pure (.success, out))
      (((arrayUpTo maxForbinVersionLength w).bind fun versions =>
        versions.mapM (denoteName cStr tlsVersionMap)).map
          fun forbidVersion => { out with forbidVersion := out.forbidVersion ++ forbidVersion }) := by
  simp only [JsonValue.get_of_member? hforbid, arrayInvalid_eq, Access.ok_bind]
  cases harray : arrayUpTo maxForbinVersionLength w with
  | none => exact .error out
  | some versions =>
    have hversions := (Option.filter_eq_some_iff.mp harray).1
    exact (fillTlsForbidVersion_yields out hforbid hversions).checked

theorem scfParseTLSVersion_yields {v : Document Num} (hobj : v.isObject = true)
    (out : TlsVersion) :
    Yields (scfParseTLSVersion v out) (denoteTlsVersion cStr out v) := by
  simp only [scfParseTLSVersion, denoteTlsVersion, JsonValue.hasMember_of_isObject hobj]
  cases hmin : v.member? minVersionKey with
  | none => exact .error out
  | some w =>
  cases hmax : v.member? maxVersionKey with
  | none => simpa using .error out
  | some w' =>
  cases hforbid : v.member? forbidVersionKey with
  | none => simpa using .error out
  | some forbid =>
  rw [JsonValue.get_of_member? hmin, JsonValue.get_of_member? hmax]
  simp only [Option.isSome_some, Access.ok_true_andM, Access.ok_bind, Access.map_ok,
    JsonValue.isString_eq, Option.bind_some]
  cases hs : w.string? with
  | none => simpa [denoteName, denoteString, hs] using .error out
  | some s =>
  cases hs' : w'.string? with
  | none => simpa [denoteName, denoteString, hs'] using .error out
  | some s' =>
  have hbind := (fillTlsVersion_yields out hmin hmax hs hs').bind (f := id)
    fun out => forbidVersions_yields out hforbid
  refine hbind.of_eq ?_
  cases denoteName cStr tlsVersionMap w with
  | none => rfl
  | some minVersion =>
    cases denoteName cStr tlsVersionMap w' with
    | none => rfl
    | some maxVersion =>
      cases (arrayUpTo maxForbinVersionLength forbid).bind
        fun versions => versions.mapM (denoteName cStr tlsVersionMap) <;> rfl

theorem scfParseTLSCiphersuites_yields (v : Document Num) (out : List UInt16) :
    Yields (scfParseTLSCiphersuites v out) (denoteTlsCipherSuites cStr out v) := by
  unfold scfParseTLSCiphersuites fillTlsCipherSuites denoteTlsCipherSuites
  rw [arrayInvalid_eq, Access.ok_bind]
  cases harray : arrayUpTo maxTlsCipherSuitesLength v with
  | none => exact .error out
  | some ciphers =>
    have hciphers := (Option.filter_eq_some_iff.mp harray).1
    have hfill := fillEach_yields (nameItem_eq cipherMap) ciphers out
    rw [JsonValue.getArray_of_array? hciphers]
    have hnonempty : ∀ out : List UInt16,
        Yields (if out = [] then pure (.error, out) else pure (.success, out))
          ((some out).filter (· ≠ [])) := by
      intro out
      by_cases hnil : out = []
      · simpa [hnil] using .error _
      · simpa [hnil, Option.filter_some] using .done out
    refine (hfill.bind (f := id) hnonempty).of_eq ?_
    cases hmap : ciphers.mapM (denoteName cStr cipherMap) with
    | none => simp [hmap]
    | some suites => simp [hmap]

theorem certItem_eq (checkFile : StdString → Bool) (v : Document Num) :
    certItem checkFile v = .ok ((v.member? certKey).bind (denoteCert checkFile cStr)) := by
  unfold certItem
  cases hobj : v.isObject with
  | false =>
    rw [JsonValue.member?_of_not_isObject hobj]
    rfl
  | true =>
  rw [JsonValue.hasMember_of_isObject hobj]
  cases hcert : v.member? certKey with
  | none => rfl
  | some cert =>
  rw [JsonValue.get_of_member? hcert]
  simp only [Bool.not_true, Access.pure_eq_ok, Access.ok_false_orM, Access.map_ok, Access.ok_bind,
    Option.isSome_some, Option.bind_some]
  cases hcobj : cert.isObject with
  | false =>
    simp [denoteCert, JsonValue.member?_of_not_isObject hcobj]
  | true =>
  simp only [JsonValue.hasMember_of_isObject hcobj, denoteCert]
  cases htype : cert.member? certTypeKey with
  | none => simp
  | some w =>
  cases hbuf : cert.member? storeBufKey with
  | none => simp
  | some w' =>
  simp only [JsonValue.get_of_member? htype, JsonValue.get_of_member? hbuf, JsonValue.isString_eq,
    Option.isSome_some, Access.ok_true_andM, Access.map_ok, Access.ok_bind, Option.bind_some]
  cases hs : w.string? with
  | none => simp [denoteString, hs]
  | some s =>
  cases hs' : w'.string? with
  | none => simp [denotePath, denoteString, hs']
  | some s' =>
  simp only [JsonValue.getString_of_string? hs, JsonValue.getString_of_string? hs', denotePath,
    denoteString, hs, hs', checkCertType, Option.isSome_some, Access.map_ok, Access.ok_true_andM,
    Access.ok_bind, Option.map_some, Option.filter_some]
  by_cases hknown : (findByName tlsCertTypeMap (cStr s)).isSome = true
  · cases checkFile (cStr s') <;> simp [hknown]
  · simp [hknown]

theorem scfParseCertsJson_yields (checkFile : StdString → Bool) (v : Document Num)
    (out : List Cert) :
    Yields (scfParseCertsJson checkFile v out) (denoteCerts checkFile cStr out v) := by
  unfold scfParseCertsJson fillCerts denoteCerts
  rw [JsonValue.isArray_eq]
  cases harray : v.array? with
  | none => exact .error out
  | some certObjs =>
    rw [JsonValue.getArray_of_array? harray]
    exact (fillEach_yields (certItem_eq checkFile) certObjs out).checked

theorem scfParseKeyAuthJson_yields (v : Document Num) (out : KeyAuth) :
    Yields (scfParseKeyAuthJson v out) (denoteKeyAuth cStr out v) := by
  unfold scfParseKeyAuthJson denoteKeyAuth
  cases hobj : v.isObject with
  | false =>
    rw [JsonValue.member?_of_not_isObject hobj]
    exact .error out
  | true =>
  simp only [JsonValue.hasMember_of_isObject hobj]
  cases hbuf : v.member? storeBufKey with
  | none => simpa using .error out
  | some w =>
  rw [JsonValue.get_of_member? hbuf]
  simp only [Access.map_ok, Function.comp_apply, JsonValue.isString_eq, Option.bind_some]
  cases hs : w.string? with
  | none => simpa [denoteString, hs] using .error out
  | some s =>
  cases hcipher : v.member? isCipherKey with
  | none => simpa using .error out
  | some w' =>
  rw [JsonValue.get_of_member? hcipher]
  simp only [Access.map_ok, Function.comp_apply, JsonValue.isBool_eq, Option.bind_some]
  cases hb : w'.bool? with
  | none => simpa [hb] using .error out
  | some b =>
    simpa [denoteString, JsonValue.getString_of_string? hs, JsonValue.getBool_of_bool? hb, hs, hb]
      using .done _

theorem scfParsePrivKeyJson_yields (checkFile : StdString → Bool) (v : Document Num)
    (out : PrivKey) :
    Yields (scfParsePrivKeyJson checkFile v out) (denotePrivKey checkFile cStr out v) := by
  unfold scfParsePrivKeyJson denotePrivKey
  cases hobj : v.isObject with
  | false =>
    rw [JsonValue.member?_of_not_isObject hobj]
    exact .error out
  | true =>
  simp only [JsonValue.hasMember_of_isObject hobj]
  cases hbuf : v.member? storeBufKey with
  | none => simpa using .error out
  | some w =>
  rw [JsonValue.get_of_member? hbuf]
  simp only [Access.map_ok, Function.comp_apply, JsonValue.isString_eq, Option.bind_some]
  cases hs : w.string? with
  | none => simpa [denotePath, denoteString, hs] using .error out
  | some s =>
  cases hauth : v.member? keyAuthKey with
  | none => simpa using .error out
  | some keyAuth =>
  simp only [JsonValue.get_of_member? hauth, Access.map_ok, Function.comp_apply, Access.ok_bind,
    JsonValue.getString_of_string? hs, Option.bind_some]
  cases haobj : keyAuth.isObject with
  | false =>
    simpa [denoteKeyAuth, haobj, JsonValue.member?_of_not_isObject haobj]
      using .error out
  | true =>
  cases hfile : checkFile (cStr s) with
  | false => simpa [denotePath, denoteString, hs, hfile, haobj, Option.filter_some] using .error out
  | true =>
    have hkey := (scfParseKeyAuthJson_yields keyAuth out.keyAuth).bind
      (f := fun keyAuth => (⟨cStr s, keyAuth⟩ : PrivKey)) fun keyAuth => .done ⟨cStr s, keyAuth⟩
    refine hkey.of_eq ?_
    simp only [denotePath, denoteString, hs, hfile, Option.map_some, Option.filter_some, if_true]
    cases denoteKeyAuth cStr out.keyAuth keyAuth <;> rfl

/-! ### The document -/

theorem parseSection_yields {doc : Document Num} (hobj : doc.isObject = true) {key : StdString}
    {parse : Document Num → β → Access (Errno × β)} {denote : β → Document Num → Option β} {out : β}
    (hparse : ∀ v, doc.member? key = some v → Yields (parse v out) (denote out v)) :
    Yields (parseSection key parse doc out) (denoteSection key denote out doc) := by
  unfold parseSection denoteSection
  rw [JsonValue.hasMember_of_isObject hobj]
  cases hmem : doc.member? key with
  | none => exact .done out
  | some v =>
    rw [JsonValue.get_of_member? hmem]
    exact (hparse v hmem).checked

/-- What the parser may be given: an object with an object for the versions, if there is one. -/
def Accessible (doc : Document Num) : Prop :=
  doc.isObject = true ∧ ∀ v, doc.member? tlsVersionKey = some v → v.isObject = true

theorem Accessible.isNull {doc : Document Num} (h : Accessible doc) : doc.isNull = false := by
  have hobj := h.1
  cases doc with
  | null => cases hobj
  | _ => rfl

theorem parseTLS_yields {doc : Document Num} (hdoc : Accessible doc) (cfg : SCFConfig) :
    Yields (parseTLS doc cfg) (Option.map₂ (fun tlsVersion tlsCipherSuites =>
        { cfg with tlsVersion, tlsCipherSuites })
      (denoteSection tlsVersionKey (denoteTlsVersion cStr) cfg.tlsVersion doc)
      (denoteSection tlsCipherSuitesKey (denoteTlsCipherSuites cStr) cfg.tlsCipherSuites doc)) := by
  have hversion := parseSection_yields hdoc.1 fun v hmem =>
    scfParseTLSVersion_yields (hdoc.2 v hmem) cfg.tlsVersion
  have hsuites : Yields (parseSection tlsCipherSuitesKey scfParseTLSCiphersuites doc _) _ :=
    parseSection_yields hdoc.1 fun v _ => scfParseTLSCiphersuites_yields v cfg.tlsCipherSuites
  exact hversion.map₂ hsuites (fun tlsVersion => { cfg with tlsVersion })
    fun tlsVersion tlsCipherSuites => { cfg with tlsVersion, tlsCipherSuites }

theorem parseCertAndKey_yields (checkFile : StdString → Bool) {doc : Document Num}
    (hobj : doc.isObject = true) (cfg : SCFConfig) :
    Yields (parseCertAndKey checkFile doc cfg) (Option.map₂ (fun certs privKey =>
        { cfg with certs, privKey })
      (denoteSection certsKey (denoteCerts checkFile cStr) cfg.certs doc)
      (denoteSection privateKeyKey (denotePrivKey checkFile cStr) cfg.privKey doc)) := by
  have hcerts : Yields (parseSection certsKey (scfParseCertsJson checkFile) doc _) _ :=
    parseSection_yields hobj fun v _ => scfParseCertsJson_yields checkFile v cfg.certs
  have hkey : Yields (parseSection privateKeyKey (scfParsePrivKeyJson checkFile) doc _) _ :=
    parseSection_yields hobj fun v _ => scfParsePrivKeyJson_yields checkFile v cfg.privKey
  exact hcerts.map₂ hkey (fun certs => { cfg with certs })
    fun certs privKey => { cfg with certs, privKey }

/-- The parser is the documented reader with the strings cut at their first NUL. -/
theorem scfParseConfig_yields (checkFile : StdString → Bool) {doc : Document Num}
    (hdoc : Accessible doc) (cfg : SCFConfig) :
    Yields (scfParseConfig checkFile doc cfg) (denoteConfig checkFile cStr cfg doc) := by
  unfold scfParseConfig
  rw [hdoc.isNull]
  have hauth : ∀ cfg' : SCFConfig, _ := fun cfg' =>
    (parseCertAndKey_yields checkFile hdoc.1 cfg').checked
  refine ((parseTLS_yields hdoc cfg).bind (f := id) hauth).of_eq ?_
  unfold denoteConfig
  cases denoteSection tlsVersionKey (denoteTlsVersion cStr) cfg.tlsVersion doc with
  | none => rfl
  | some tlsVersion =>
  cases denoteSection tlsCipherSuitesKey (denoteTlsCipherSuites cStr) cfg.tlsCipherSuites doc with
  | none => rfl
  | some tlsCipherSuites =>
  simp only [Option.map₂_some_some, Option.bind_some]
  cases denoteSection certsKey (denoteCerts checkFile cStr) cfg.certs doc with
  | none => rfl
  | some certs =>
  cases denoteSection privateKeyKey (denotePrivKey checkFile cStr) cfg.privKey doc <;> rfl

theorem scfParseTLSVersion_of_not_isObject {v : Document Num} (h : v.isObject = false)
    (out : TlsVersion) : scfParseTLSVersion v out = .error .hasMember := by
  unfold scfParseTLSVersion
  rw [JsonValue.hasMember_of_not_isObject h]
  rfl

/-- A document for which the parser returns is `null`, or has objects where members are asked for. -/
theorem accessible_of_returns {checkFile : StdString → Bool} {doc : Document Num} {cfg : SCFConfig}
    {out : Errno × SCFConfig} (hout : scfParseConfig checkFile doc cfg = .ok out) :
    doc.isNull = true ∨ Accessible doc := by
  cases hnull : doc.isNull with
  | true => exact .inl rfl
  | false =>
  refine .inr ?_
  unfold scfParseConfig parseTLS parseSection at hout
  rw [hnull] at hout
  cases hobj : doc.isObject with
  | false =>
    rw [JsonValue.hasMember_of_not_isObject hobj] at hout
    cases hout
  | true =>
  refine ⟨hobj, fun v hmem => ?_⟩
  cases hvobj : v.isObject with
  | true => rfl
  | false =>
    rw [JsonValue.hasMember_of_isObject hobj, hmem, JsonValue.get_of_member? hmem] at hout
    simp only [Access.ok_bind, scfParseTLSVersion_of_not_isObject hvobj] at hout
    cases hout

theorem returns_of_accessible {doc : Document Num} (h : doc.isNull = true ∨ Accessible doc)
    (checkFile : StdString → Bool) (cfg : SCFConfig) :
    ∃ out, scfParseConfig checkFile doc cfg = .ok out := by
  rcases h with hnull | hdoc
  · exact ⟨(.error, cfg), by rw [scfParseConfig, hnull]; rfl⟩
  · exact (scfParseConfig_yields checkFile hdoc cfg).returns

/-- For every document and every `Config`: the parser returns exactly if the document is an object
or `null` and the versions, if there are any, are an object. -/
theorem scfParseConfig_returns_iff (checkFile : StdString → Bool) (doc : Document Num)
    (cfg : SCFConfig) :
    (∃ out, scfParseConfig checkFile doc cfg = .ok out) ↔ doc.isNull = true ∨ Accessible doc := by
  constructor
  · rintro ⟨out, hout⟩
    exact accessible_of_returns hout
  · intro h
    exact returns_of_accessible h checkFile cfg

/-- An array is a document, and so is an object whose `tlsVersion` is a number; the parser asks the
first one, and the number of the second one, for a member. -/
theorem scfParseConfig_misuse :
    let versionNumber : Document ℕ := .object [(tlsVersionKey, .number 3)]
    scfParseConfig (fun _ => true) (.array [] : Document ℕ) newConfig = .error .hasMember ∧
      scfParseConfig (fun _ => true) versionNumber newConfig = .error .hasMember := by
  exact ⟨rfl, by decide +kernel⟩

/-! ### Acceptance and meaning -/

/-- The parser accepts the document exactly if it has the documented shape, and then fills the
`Config` with what the document means, strings in full. -/
def ParsedAsDocumented (checkFile : StdString → Bool) (doc : Document Num) : Prop :=
  ∃ ret cfg, scfParseConfig checkFile doc newConfig = .ok (ret, cfg) ∧
    (ret = .success ↔ (denoteConfig checkFile id newConfig doc).isSome) ∧
    (ret = .success → denoteConfig checkFile id newConfig doc = some cfg)

theorem parsedAsDocumented_iff (checkFile : StdString → Bool) {doc : Document Num}
    (hdoc : Accessible doc) :
    ParsedAsDocumented checkFile doc ↔
      denoteConfig checkFile cStr newConfig doc = denoteConfig checkFile id newConfig doc := by
  have hyields := scfParseConfig_yields checkFile hdoc newConfig
  unfold ParsedAsDocumented
  generalize scfParseConfig checkFile doc newConfig = r at hyields ⊢
  generalize denoteConfig checkFile cStr newConfig doc = d at hyields ⊢
  cases hyields with
  | done cfg =>
    constructor
    · rintro ⟨ret, cfg', hout, -, hmean⟩
      obtain ⟨rfl, rfl⟩ := Prod.mk.inj (Except.ok.inj hout)
      exact (hmean rfl).symm
    · intro heq
      exact ⟨.success, cfg, rfl, by simp [← heq], fun _ => heq.symm⟩
  | failed cfg hret =>
    constructor
    · rintro ⟨ret, cfg', hout, hiff, -⟩
      obtain ⟨rfl, rfl⟩ := Prod.mk.inj (Except.ok.inj hout)
      have hnone := fun h => hret (hiff.mpr h)
      exact (Option.not_isSome_iff_eq_none.mp hnone).symm
    · intro heq
      exact ⟨_, cfg, rfl, by simp [← heq, hret], fun h => absurd h hret⟩

/-- For every document the parser may be given, and whatever the check of paths says: the parser
accepts and means what is documented exactly if no string of a configuration, taken in full or up to
its first NUL, has a NUL in it. -/
theorem scfParseConfig_asDocumented_iff (checkFile : StdString → Bool) {doc : Document Num}
    (hdoc : Accessible doc) :
    ParsedAsDocumented checkFile doc ↔
      ((denoteConfig checkFile cStr newConfig doc).isSome ∨
        (denoteConfig checkFile id newConfig doc).isSome → ∀ s ∈ configStrings doc, 0 ∉ s) := by
  rw [parsedAsDocumented_iff checkFile hdoc,
    (@denoteConfig_reads Num checkFile newConfig).read_eq_iff doc]
  simp only [cStr_eq_self_iff]

/-- A section with the versions. -/
def versionSection (minVersion maxVersion : StdString) (forbidVersion : List StdString) :
    StdString × Document ℕ :=
  (tlsVersionKey, .object [(minVersionKey, .string minVersion), (maxVersionKey, .string maxVersion),
    (forbidVersionKey, .array (forbidVersion.map .string))])

/-- A document with all sections, and one more that nobody reads. -/
def fullDocument : Document ℕ :=
  .object [versionSection (ascii "SSL_VERSION_TLS12") (ascii "SSL_VERSION_TLS13")
      [ascii "SSL_VERSION_TLS12"],
    (ascii "comment", .number 1),
    (tlsCipherSuitesKey, .array [.string (ascii "SCF_SSL_AES_128_GCM_SHA256")]),
    (certsKey, .array [.object [(certKey, .object [(certTypeKey, .string (ascii "CA")),
      (storeBufKey, .string (ascii "/etc/ca.pem"))])]]),
    (privateKeyKey, .object [(storeBufKey, .string (ascii "/etc/key.pem")),
      (keyAuthKey, .object [(storeBufKey, .string (ascii "secret")), (isCipherKey, .bool true)])])]

theorem fullDocument_asDocumented :
    Accessible fullDocument ∧ (denoteConfig (fun _ => true) id newConfig fullDocument).isSome ∧
      ParsedAsDocumented (fun _ => true) fullDocument := by
  have hdoc : Accessible fullDocument := by
    refine ⟨rfl, fun v hmem => ?_⟩
    obtain rfl := Option.some.inj hmem
    rfl
  refine ⟨hdoc, by decide +kernel, ?_⟩
  exact (scfParseConfig_asDocumented_iff _ hdoc).mpr fun _ => by decide +kernel

/-- The name of a version with a NUL and more behind it. -/
def nulVersionDocument : Document ℕ :=
  .object [versionSection (ascii "SSL_VERSION_TLS12" ++ [0, 120]) (ascii "SSL_VERSION_TLS13") []]

/-- A password with a NUL in it. -/
def nulPasswordDocument : Document ℕ :=
  .object [(privateKeyKey, .object [(storeBufKey, .string (ascii "/etc/key.pem")),
    (keyAuthKey, .object [(storeBufKey, .string (ascii "ab" ++ [0] ++ ascii "cd")),
      (isCipherKey, .bool true)])])]

/-- The first document has a version that is none of the two names and is accepted. Of the password
of the second one the `Config` has the part before the NUL only. -/
theorem nul_cuts_strings :
    (Accessible nulVersionDocument ∧
      (∃ cfg, scfParseConfig (fun _ => true) nulVersionDocument newConfig = .ok (.success, cfg)) ∧
      denoteConfig (fun _ => true) id newConfig nulVersionDocument = none ∧
      ¬ ParsedAsDocumented (fun _ => true) nulVersionDocument) ∧
    (Accessible nulPasswordDocument ∧
      (∃ cfg, scfParseConfig (fun _ => true) nulPasswordDocument newConfig = .ok (.success, cfg) ∧
        cfg.privKey.keyAuth.storeBuf = ascii "ab") ∧
      ¬ ParsedAsDocumented (fun _ => true) nulPasswordDocument) := by
  have hversion : Accessible nulVersionDocument := by
    refine ⟨rfl, fun v hmem => ?_⟩
    obtain rfl := Option.some.inj hmem
    rfl
  have hpassword : Accessible nulPasswordDocument := ⟨rfl, fun v hmem => by cases hmem⟩
  refine ⟨⟨hversion, ⟨_, rfl⟩, by decide +kernel, ?_⟩, ⟨hpassword, ⟨_, rfl, by decide +kernel⟩, ?_⟩⟩
  · rw [parsedAsDocumented_iff _ hversion]
    decide +kernel
  · rw [parsedAsDocumented_iff _ hpassword]
    decide +kernel

end Scf
