import ScfSecurity.Policy.Consistency

/-!
# Which cipher suites a handshake can use

`SCF_SetCipherSuites` takes one list for all protocol versions, with suites of TLS 1.2 and of
TLS 1.3 in it. It hands the names to `SSL_CTX_set_ciphersuites`, which decides about TLS 1.3
only. The suites of the older versions are those that the configuration had before.

## Main definitions

- `parseCiphersuites`: what OpenSSL reads from the string
- `SslCtx.negotiable`: the suites that a handshake can use in a protocol version

## Main results

- `mem_parse_cipherSuitesStr`: of the string, OpenSSL reads recognised suites of the list only
- `scfSetCipherSuites_restricts_iff`: the list is effective exactly if it covers the suites of
  all older versions that the configuration allows
-/

namespace Scf

/-- The suites of TLS 1.3 that OpenSSL knows, by their standard names. -/
def tls13Suites : List (String × UInt16) :=
  [("TLS_AES_128_GCM_SHA256", 0x1301), ("TLS_AES_256_GCM_SHA384", 0x1302),
   ("TLS_CHACHA20_POLY1305_SHA256", 0x1303), ("TLS_AES_128_CCM_SHA256", 0x1304),
   ("TLS_AES_128_CCM_8_SHA256", 0x1305)]

def tls13SuiteByName (name : StdString) : Option UInt16 :=
  (tls13Suites.find? fun suite => ascii suite.1 = name).map Prod.snd

/-- The byte `':'`. -/
def colon : UInt8 := 58

/-- The suites of TLS 1.3 in a string for `SSL_CTX_set_ciphersuites`; other names are skipped. -/
def parseCiphersuites (str : StdString) : List UInt16 :=
  (str.splitOn colon).filterMap tls13SuiteByName

/-- `TLS_DEFAULT_CIPHERSUITES`. -/
def defaultTls13Ciphers : List UInt16 := [0x1302, 0x1303, 0x1301]

/-- The suites that a handshake can use in a protocol version; `legacy` is the list for the
versions before TLS 1.3, which `SSL_CTX_set_ciphersuites` leaves alone. -/
def SslCtx.negotiable (legacy : UInt32 → List UInt16) (cfg : SslCtx) (version : UInt32) :
    List UInt16 :=
  if version = tls13Version then (cfg.ciphersuites.map parseCiphersuites).getD defaultTls13Ciphers
  else if version < tls13Version then legacy version
  else []

/-- The identifiers of the list that `CipherId2CipherStr` knows. -/
def recognised (cipherSuites : List UInt16) : List UInt16 :=
  cipherSuites.filter fun cipherId => (cipherId2CipherStr cipherId).isSome

/-- Every suite that a handshake can use, in any version the configuration allows, is a
recognised one of the list. -/
def SslCtx.RestrictedTo (legacy : UInt32 → List UInt16) (cipherSuites : List UInt16)
    (cfg : SslCtx) : Prop :=
  ∀ version, cfg.Enables version → ∀ cipherId ∈ cfg.negotiable legacy version,
    cipherId ∈ recognised cipherSuites

/-! ### The string -/

/-- The name of a suite without its colon. -/
def cipherName (cipherId : UInt16) : Option StdString :=
  (cipherId2CipherStr cipherId).map List.dropLast

/-- Each entry of the table ends in its only colon, and a name that OpenSSL knows stands for the
same suite there. -/
theorem cipherNames_wellFormed : ∀ entry ∈ cipherNames,
    ascii entry.2 = (ascii entry.2).dropLast ++ [colon] ∧ colon ∉ (ascii entry.2).dropLast ∧
      (tls13SuiteByName (ascii entry.2).dropLast).all (· = entry.1) := by
  decide +kernel

theorem cipherId2CipherStr_eq_some {cipherId : UInt16} {str : StdString}
    (h : cipherId2CipherStr cipherId = some str) :
    ∃ entry ∈ cipherNames, entry.1 = cipherId ∧ ascii entry.2 = str := by
  unfold cipherId2CipherStr at h
  obtain ⟨name, hname, rfl⟩ := Option.map_eq_some_iff.mp h
  obtain ⟨l₁, l₂, heq, -⟩ := List.lookup_eq_some_iff.mp hname
  exact ⟨(cipherId, name), by rw [heq]; simp, rfl, rfl⟩

theorem cipherId2CipherStr_eq_cipherName (cipherId : UInt16) :
    cipherId2CipherStr cipherId = (cipherName cipherId).map (· ++ [colon]) := by
  unfold cipherName
  cases hstr : cipherId2CipherStr cipherId with
  | none => rfl
  | some str =>
    obtain ⟨entry, hentry, -, rfl⟩ := cipherId2CipherStr_eq_some hstr
    exact congrArg some (cipherNames_wellFormed entry hentry).1

theorem colon_notMem_cipherName {cipherId : UInt16} {name : StdString}
    (h : cipherName cipherId = some name) : colon ∉ name := by
  obtain ⟨str, hstr, rfl⟩ := Option.map_eq_some_iff.mp h
  obtain ⟨entry, hentry, -, rfl⟩ := cipherId2CipherStr_eq_some hstr
  exact (cipherNames_wellFormed entry hentry).2.1

/-- OpenSSL means the same suite by a name as the table does. -/
theorem eq_of_tls13SuiteByName {cipherId suite : UInt16} {name : StdString}
    (h : cipherName cipherId = some name) (hsuite : tls13SuiteByName name = some suite) :
    suite = cipherId := by
  obtain ⟨str, hstr, rfl⟩ := Option.map_eq_some_iff.mp h
  obtain ⟨entry, hentry, hid, rfl⟩ := cipherId2CipherStr_eq_some hstr
  have hall := (cipherNames_wellFormed entry hentry).2.2
  rw [hsuite] at hall
  rw [← hid]
  simpa using hall

/-- The string is the names of the recognised suites, each with a colon. -/
theorem cipherSuitesStr_eq (cipherSuites : List UInt16) :
    cipherSuitesStr cipherSuites =
      (cipherSuites.filterMap cipherName).flatMap (· ++ [colon]) := by
  induction cipherSuites with
  | nil => rfl
  | cons cipherId rest ih =>
    unfold cipherSuitesStr at ih ⊢
    rw [List.flatMap_cons, ih, cipherId2CipherStr_eq_cipherName]
    cases hname : cipherName cipherId with
    | none => simp [hname]
    | some name => simp [hname]

/-- Without the last colon the colons separate the names. -/
theorem dropLast_flatMap_colon (names : List StdString) :
    (names.flatMap (· ++ [colon])).dropLast = [colon].intercalate names := by
  induction names with
  | nil => rfl
  | cons name rest ih =>
    cases rest with
    | nil => simp
    | cons name' rest =>
      rw [List.flatMap_cons, List.intercalate_cons_cons, ← ih]
      refine List.dropLast_append_of_ne_nil ?_
      simp

/-- OpenSSL reads recognised suites of the list from the string, and no others. -/
theorem mem_parse_cipherSuitesStr {cipherSuites : List UInt16} {suite : UInt16}
    (h : suite ∈ parseCiphersuites (cipherSuitesStr cipherSuites).dropLast) :
    suite ∈ recognised cipherSuites := by
  rw [cipherSuitesStr_eq, dropLast_flatMap_colon, parseCiphersuites] at h
  obtain ⟨name, hname, hsuite⟩ := List.mem_filterMap.mp h
  have hmem : name ∈ cipherSuites.filterMap cipherName := by
    by_cases hnil : cipherSuites.filterMap cipherName = []
    · rw [hnil] at hname
      obtain rfl : name = [] := by simpa using hname
      exact absurd hsuite (by rw [show tls13SuiteByName [] = none by decide]; exact nofun)
    · rwa [List.splitOn_intercalate colon _ hnil] at hname
      intro name' hname'
      obtain ⟨cipherId, -, hid⟩ := List.mem_filterMap.mp hname'
      exact colon_notMem_cipherName hid
  obtain ⟨cipherId, hcipherId, hid⟩ := List.mem_filterMap.mp hmem
  obtain rfl := eq_of_tls13SuiteByName hid hsuite
  refine List.mem_filter.mpr ⟨hcipherId, ?_⟩
  obtain ⟨str, hstr, -⟩ := Option.map_eq_some_iff.mp hid
  rw [hstr]
  rfl

/-! ### The effect of the call -/

/-- A successful call writes the string into the configuration and nothing else. -/
theorem scfSetCipherSuites_success {g : Globals} {ctxPtr : Ptr} {cipherSuites : List UInt16}
    {allocOk setOk : Bool} {ctx ctx' : SCFPolicyCtx}
    (h : scfSetCipherSuites g ctxPtr (some cipherSuites) allocOk setOk ctx = (.success, ctx')) :
    ctx' = ctx.setSslConfig (ctx.sslConfig.map fun cfg =>
      { cfg with ciphersuites := some (cipherSuitesStr cipherSuites).dropLast }) := by
  rcases scfSetCipherSuites_cases g ctxPtr (some cipherSuites) allocOk setOk ctx with
    ⟨ret, hret, hfail⟩ | ⟨suites, hsuites, hset⟩
  · rw [hfail] at h
    exact absurd (congrArg Prod.fst h) hret
  · obtain rfl := Option.some.inj hsuites
    rw [hset] at h
    exact (congrArg Prod.snd h).symm

/-- The string restricts TLS 1.3; for the older versions the list has to cover what there is. -/
theorem SslCtx.restrictedTo_iff (legacy : UInt32 → List UInt16) (cipherSuites : List UInt16)
    (cfg : SslCtx) :
    SslCtx.RestrictedTo legacy cipherSuites
        { cfg with ciphersuites := some (cipherSuitesStr cipherSuites).dropLast } ↔
      ∀ version < tls13Version, cfg.Enables version → legacy version ⊆ recognised cipherSuites := by
  constructor
  · intro hall version hlow henables
    have hlegacy := hall version henables
    rw [SslCtx.negotiable, if_neg (UInt32.ne_of_lt hlow), if_pos hlow] at hlegacy
    exact hlegacy
  · intro hall version henables
    unfold SslCtx.negotiable
    by_cases htls13 : version = tls13Version
    · rw [if_pos htls13]
      intro cipherId hmem
      exact mem_parse_cipherSuitesStr hmem
    · rw [if_neg htls13]
      split_ifs with hlow
      · exact hall version hlow henables
      · exact fun _ hmem => nomatch hmem

/-- After a successful call the list is effective exactly if it covers what the configuration
offers in the versions before TLS 1.3 that it allows. -/
theorem scfSetCipherSuites_restricts_iff {g : Globals} {ctxPtr : Ptr} {cipherSuites : List UInt16}
    {allocOk setOk : Bool} {ctx ctx' : SCFPolicyCtx} {cfg : SslCtx}
    (legacy : UInt32 → List UInt16) (hcfg : ctx.sslConfig = some cfg)
    (h : scfSetCipherSuites g ctxPtr (some cipherSuites) allocOk setOk ctx = (.success, ctx')) :
    ∃ cfg', ctx'.sslConfig = some cfg' ∧
      (cfg'.RestrictedTo legacy cipherSuites ↔
        ∀ version < tls13Version, cfg.Enables version → legacy version ⊆ recognised cipherSuites) := by
  have hctx' := scfSetCipherSuites_success h
  rw [hcfg] at hctx'
  exact ⟨_, by rw [hctx']; rfl, SslCtx.restrictedTo_iff legacy cipherSuites cfg⟩

/-- A part of what OpenSSL offers in TLS 1.2 by default. -/
def someTls12Suites (version : UInt32) : List UInt16 :=
  if version = tls12Version then [0xC030, 0xC02F] else []

/-- A client with a middle policy, which allows TLS 1.2 and TLS 1.3. -/
def middleClientCtx : SCFPolicyCtx :=
  (scfSetPolicy .ready .valid .client .default .middle .plain newPolicyCtx).2

/-- A list that names all of these suites is effective. -/
theorem scfSetCipherSuites_restricts_all :
    let cipherSuites : List UInt16 := [0x1302, 0xC030, 0xC02F]
    let out := scfSetCipherSuites .ready .valid (some cipherSuites) true true middleClientCtx
    out.1 = .success ∧ ∃ cfg', out.2.sslConfig = some cfg' ∧
      cfg'.RestrictedTo someTls12Suites cipherSuites := by
  intro cipherSuites out
  have hret : out.1 = .success := by decide
  have hout : out = (.success, out.2) := by rw [← hret]
  obtain ⟨cfg', hcfg', hiff⟩ := scfSetCipherSuites_restricts_iff someTls12Suites rfl hout
  refine ⟨hret, cfg', hcfg', hiff.mpr fun version _ _ => ?_⟩
  unfold someTls12Suites
  split_ifs
  · decide
  · exact List.nil_subset _

/-- The list has one suite of TLS 1.3, and the call succeeds; but a handshake in TLS 1.2, which the
policy allows, can still use a suite that is not in the list. -/
theorem tls12_suite_outside_list :
    let out := scfSetCipherSuites .ready .valid (some [0x1301]) true true middleClientCtx
    out.1 = .success ∧ ∃ cfg', out.2.sslConfig = some cfg' ∧ cfg'.Enables tls12Version ∧
      0xC02F ∈ cfg'.negotiable someTls12Suites tls12Version ∧ 0xC02F ∉ recognised [0x1301] ∧
      ¬ cfg'.RestrictedTo someTls12Suites [0x1301] := by
  have hnot : (0xC02F : UInt16) ∉ recognised [0x1301] := by decide
  refine ⟨by decide, _, rfl, by decide, by decide, hnot, fun h => hnot ?_⟩
  exact h tls12Version (by decide) 0xC02F (by decide)

end Scf
