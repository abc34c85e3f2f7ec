import ScfSecurity.SecureC
import ScfSecurity.Policy.CipherSuites
import ScfSecurity.ConfigFile.ParseSpec

/-!
# The string of cipher suites

`OpenSSLAdaptor::SetCipherSuites` measures the names of the suites it knows, takes a buffer of this
size from the heap and copies the names into it, each with a colon behind it; the terminator takes
the place of the last colon. A copy that `memcpy_s` refuses is left out, without a word.

## Main definitions

- `adaptorSetCipherSuites`: `OpenSSLAdaptor::SetCipherSuites` on the memory
- `HandsNames`: OpenSSL gets the names, and the buffer is just large enough
- `KeepsNames`: the suites of a configuration get the names they have there

## Main results

- `fillCipherSuites_eq`: what the loop writes
- `handsNames_iff`: OpenSSL gets the names exactly if the buffer is within the limit of `memcpy_s`
- `keepsNames_iff`: the names are kept exactly if there is no NUL in them
-/

namespace Scf

/-! ### The function on the memory -/

/-- `GetCipherSuitesStrLen`, from a length on. The array has less than 2^32 elements, so the length
does not wrap around. -/
def getCipherSuitesStrLen : List UInt16 → ℕ → ℕ
  | [], len => len
  | cipherId :: rest, len =>
    match cipherId2CipherStr cipherId with
    | none => getCipherSuitesStrLen rest len
    | some cipherSuite => getCipherSuitesStrLen rest (len + cipherSuite.length)

/-- The loop that copies, with the memory at the buffer and the offset. -/
def fillCipherSuites (totalLen : ℕ) : List UInt16 → (ℕ → UInt8) × ℕ → (ℕ → UInt8) × ℕ
  | [], out => out
  | cipherId :: rest, (mem, offset) =>
    match cipherId2CipherStr cipherId with
    | none => fillCipherSuites totalLen rest (mem, offset)
    | some cipherSuite =>
      let (copied, mem) := memcpySAt mem offset (totalLen - offset) cipherSuite
      if copied then fillCipherSuites totalLen rest (mem, offset + cipherSuite.length)
      else fillCipherSuites totalLen rest (mem, offset)

/-- How a call ends: its code, the size of the buffer it asked for, and the memory at the address
that OpenSSL was given. -/
structure CipherSuitesRun where
  ret : Errno
  asked : Option ℕ
  handed : Option (ℕ → UInt8)

/-- `OpenSSLAdaptor::SetCipherSuites`. The heap is what the memory at the buffer has when it is
allocated; `setOk` is the answer of OpenSSL. -/
def adaptorSetCipherSuites (heap : ℕ → UInt8) (allocOk setOk : Bool)
    (cipherSuites : List UInt16) : CipherSuitesRun :=
  let totalLen := getCipherSuitesStrLen cipherSuites 0
  if totalLen = 0 then ⟨.sslSetCipher, none, none⟩
  else if !allocOk then ⟨.memAlloc, some totalLen, none⟩
  else
    let (mem, _) := fillCipherSuites totalLen cipherSuites (heap, 0)
    -- the last colon gives way to the terminator
    let mem := Function.update mem (totalLen - 1) 0
    ⟨if setOk then .success else .sslSetCipher, some totalLen, some mem⟩

/-- The names of the recognised suites, in order and with repetitions, between colons. -/
def joinedNames (cipherSuites : List UInt16) : StdString :=
  [colon].intercalate (cipherSuites.filterMap cipherName)

/-- The call fails without asking for memory exactly if it recognises no suite. Otherwise, whatever
the heap has, OpenSSL gets the joined names, with the terminator in the last byte of the buffer, and
nothing is written behind the buffer. -/
structure HandsNames (cipherSuites : List UInt16) : Prop where
  refuses : ∀ heap allocOk setOk, (adaptorSetCipherSuites heap allocOk setOk cipherSuites).asked =
    none ↔ recognised cipherSuites = []
  refused : ∀ heap allocOk setOk, recognised cipherSuites = [] →
    adaptorSetCipherSuites heap allocOk setOk cipherSuites = ⟨.sslSetCipher, none, none⟩
  hands : ∀ heap setOk, recognised cipherSuites ≠ [] → ∃ size mem,
    (adaptorSetCipherSuites heap true setOk cipherSuites).asked = some size ∧
    (adaptorSetCipherSuites heap true setOk cipherSuites).handed = some mem ∧
    (joinedNames cipherSuites).length + 1 = size ∧
    Buffer.HoldsString mem (joinedNames cipherSuites) ∧ ∀ i ≥ size, mem i = heap i

/-! ### The loops -/

theorem getCipherSuitesStrLen_eq (cipherSuites : List UInt16) (len : ℕ) :
    getCipherSuitesStrLen cipherSuites len = len + (cipherSuitesStr cipherSuites).length := by
  induction cipherSuites generalizing len with
  | nil => rfl
  | cons cipherId rest ih =>
    rw [getCipherSuitesStrLen, cipherSuitesStr, List.flatMap_cons]
    cases cipherId2CipherStr cipherId with
    | none => exact ih len
    | some cipherSuite =>
      rw [List.length_append, ← Nat.add_assoc]
      exact ih (len + cipherSuite.length)

theorem ne_nil_of_cipherId2CipherStr {cipherId : UInt16} {cipherSuite : StdString}
    (h : cipherId2CipherStr cipherId = some cipherSuite) : cipherSuite ≠ [] := by
  rw [cipherId2CipherStr_eq_cipherName] at h
  obtain ⟨name, -, rfl⟩ := Option.map_eq_some_iff.mp h
  simp

/-- With room for all that remains, and within the limit of `memcpy_s`, the loop writes all of it
behind the offset. -/
theorem fillCipherSuites_eq {totalLen : ℕ} (hmax : totalLen ≤ securecMemMaxLen)
    (cipherSuites : List UInt16) (mem : ℕ → UInt8) (offset : ℕ)
    (hroom : offset + (cipherSuitesStr cipherSuites).length ≤ totalLen) :
    fillCipherSuites totalLen cipherSuites (mem, offset) =
      (Buffer.storeAt mem offset (cipherSuitesStr cipherSuites),
        offset + (cipherSuitesStr cipherSuites).length) := by
  induction cipherSuites generalizing mem offset with
  | nil =>
    refine Prod.ext (funext fun i => ?_) rfl
    simp [fillCipherSuites, cipherSuitesStr, Buffer.storeAt]
  | cons cipherId rest ih =>
    rw [cipherSuitesStr, List.flatMap_cons] at hroom ⊢
    rw [fillCipherSuites]
    cases hstr : cipherId2CipherStr cipherId with
    | none =>
      rw [hstr] at hroom
      exact ih mem offset hroom
    | some cipherSuite =>
      have hne := List.length_pos_iff.mpr (ne_nil_of_cipherId2CipherStr hstr)
      simp only [hstr, Option.getD_some, List.length_append] at hroom ⊢
      have hcopy : memcpySAt mem offset (totalLen - offset) cipherSuite = _ :=
        memcpySAt_of_le mem (by omega) (by omega) (by omega)
      rw [hcopy]
      have hrest := ih (Buffer.storeAt mem offset cipherSuite) (offset + cipherSuite.length)
        (by rw [cipherSuitesStr]; omega)
      rw [Buffer.storeAt_storeAt] at hrest
      simp only [if_true]
      rw [hrest, Nat.add_assoc]
      rfl

/-- Above the limit of `memcpy_s` the loop writes nothing. -/
theorem fillCipherSuites_of_lt {totalLen : ℕ} (hmax : securecMemMaxLen < totalLen)
    (cipherSuites : List UInt16) (mem : ℕ → UInt8) :
    fillCipherSuites totalLen cipherSuites (mem, 0) = (mem, 0) := by
  induction cipherSuites with
  | nil => rfl
  | cons cipherId rest ih =>
    rw [fillCipherSuites]
    cases cipherId2CipherStr cipherId with
    | none => exact ih
    | some cipherSuite =>
      have hcopy : memcpySAt mem 0 (totalLen - 0) cipherSuite = (false, mem) :=
        memcpySAt_of_lt mem cipherSuite hmax
      simp only [hcopy]
      exact ih

/-! ### The string that OpenSSL gets -/

theorem cipherSuitesStr_eq_nil_iff (cipherSuites : List UInt16) :
    cipherSuitesStr cipherSuites = [] ↔ recognised cipherSuites = [] := by
  rw [cipherSuitesStr, List.flatMap_eq_nil_iff, recognised, List.filter_eq_nil_iff]
  refine forall₂_congr fun cipherId _ => ?_
  cases hstr : cipherId2CipherStr cipherId with
  | none => simp
  | some cipherSuite => simp [ne_nil_of_cipherId2CipherStr hstr]

theorem joinedNames_eq (cipherSuites : List UInt16) :
    joinedNames cipherSuites = (cipherSuitesStr cipherSuites).dropLast := by
  rw [cipherSuitesStr_eq, dropLast_flatMap_colon]
  rfl

/-- A call that recognises a suite. -/
theorem adaptorSetCipherSuites_of_ne_nil {cipherSuites : List UInt16}
    (h : cipherSuitesStr cipherSuites ≠ []) (heap : ℕ → UInt8) (setOk : Bool) :
    let size := (cipherSuitesStr cipherSuites).length
    adaptorSetCipherSuites heap true setOk cipherSuites =
      ⟨if setOk then .success else .sslSetCipher, some size,
        some (Function.update (fillCipherSuites size cipherSuites (heap, 0)).1 (size - 1) 0)⟩ := by
  have hlen : (cipherSuitesStr cipherSuites).length ≠ 0 := by simpa using h
  rw [adaptorSetCipherSuites, getCipherSuitesStrLen_eq, Nat.zero_add, if_neg hlen]
  rfl

/-- Up to the limit of `memcpy_s` the names are handed on. -/
theorem handsNames_of_le {cipherSuites : List UInt16}
    (hmax : (cipherSuitesStr cipherSuites).length ≤ securecMemMaxLen) :
    HandsNames cipherSuites where
  refuses heap allocOk setOk := by
    rw [adaptorSetCipherSuites, getCipherSuitesStrLen_eq, Nat.zero_add,
      ← cipherSuitesStr_eq_nil_iff]
    by_cases hnil : cipherSuitesStr cipherSuites = []
    · simp [hnil]
    · cases allocOk <;> simp [hnil]
  refused heap allocOk setOk hnone := by
    rw [adaptorSetCipherSuites, getCipherSuitesStrLen_eq, Nat.zero_add,
      (cipherSuitesStr_eq_nil_iff _).mpr hnone]
    rfl
  hands heap setOk hsome := by
    have hne : cipherSuitesStr cipherSuites ≠ [] := (cipherSuitesStr_eq_nil_iff _).not.mpr hsome
    have hpos := List.length_pos_iff.mpr hne
    have hfill := fillCipherSuites_eq hmax cipherSuites heap 0 (by omega)
    rw [adaptorSetCipherSuites_of_ne_nil hne, hfill, Buffer.storeAt_zero, joinedNames_eq,
      List.length_dropLast]
    refine ⟨_, _, rfl, rfl, by omega, Buffer.holdsString_dropLast heap _, fun i hi => ?_⟩
    rw [Function.update_of_ne (by omega)]
    exact Buffer.store_of_le heap hi

/-- For every list of identifiers: OpenSSL gets the names exactly if they need no more memory than
`memcpy_s` takes. -/
theorem handsNames_iff (cipherSuites : List UInt16) :
    HandsNames cipherSuites ↔ (cipherSuitesStr cipherSuites).length ≤ securecMemMaxLen := by
  refine ⟨fun hands => ?_, handsNames_of_le⟩
  by_contra hmax
  rw [Nat.not_le] at hmax
  have hne : cipherSuitesStr cipherSuites ≠ [] := List.ne_nil_of_length_pos (by omega)
  have hsome := (cipherSuitesStr_eq_nil_iff _).not.mp hne
  -- a heap that differs from the names in every byte
  let heap : ℕ → UInt8 := fun i => (joinedNames cipherSuites)[i]?.getD 0 + 1
  obtain ⟨size, mem, -, hmem, hsize, hholds, -⟩ := hands.hands heap true hsome
  rw [adaptorSetCipherSuites_of_ne_nil hne, fillCipherSuites_of_lt hmax] at hmem
  obtain rfl := Option.some.inj hmem
  have hlimit : 1 < securecMemMaxLen := by decide
  have hlen : 0 < (joinedNames cipherSuites).length := by
    rw [joinedNames_eq, List.length_dropLast]
    omega
  have hlast : 0 ≠ (cipherSuitesStr cipherSuites).length - 1 := by omega
  have hcell := hholds.cell 0 hlen
  rw [Function.update_of_ne hlast] at hcell
  simp only [heap, List.getElem?_eq_getElem hlen, Option.getD_some] at hcell
  exact absurd hcell (by simp)

/-- The model of the call on a context says of it what the one on the memory says: the code, and
after a success the names in the configuration. -/
theorem setCipherSuites_eq (heap : ℕ → UInt8) (cipherSuites : List UInt16) (allocOk setOk : Bool)
    (ctx : SCFPolicyCtx) :
    let run := adaptorSetCipherSuites heap allocOk setOk cipherSuites
    setCipherSuites cipherSuites allocOk setOk ctx = (run.ret, if run.ret = .success then
      ctx.setSslConfig (ctx.sslConfig.map fun cfg =>
        { cfg with ciphersuites := some (joinedNames cipherSuites) }) else ctx) := by
  simp only [setCipherSuites, adaptorSetCipherSuites, getCipherSuitesStrLen_eq, Nat.zero_add,
    joinedNames_eq]
  by_cases hnil : (cipherSuitesStr cipherSuites).length = 0
  · rw [if_pos hnil, if_pos hnil]
    rfl
  · rw [if_neg hnil, if_neg hnil]
    cases allocOk with
    | false => rfl
    | true => cases setOk <;> rfl

/-! ### The names of a configuration -/

section Configured

variable {Num : Type}

/-- The names of an array of a document. -/
def configuredNames (v : Document Num) : List StdString :=
  (v.array?.getD []).filterMap JsonValue.string?

/-- The name with `TLS_` in the place of `SCF_SSL_`. -/
def renamed (name : StdString) : StdString :=
  if ascii "SCF_SSL_" <+: name then ascii "TLS_" ++ name.drop (ascii "SCF_SSL_").length
  else name

/-- Of a list that was accepted as these suites, OpenSSL gets the names of the document, renamed and
in their order. -/
structure KeepsNames (v : Document Num) (cipherSuites : List UInt16) : Prop where
  hands : HandsNames cipherSuites
  names : joinedNames cipherSuites = [colon].intercalate ((configuredNames v).map renamed)

/-- The two tables agree, entry by entry. -/
theorem cipherMap_agrees : ∀ entry ∈ cipherMap,
    cipherName entry.2 = some (renamed (ascii entry.1)) := by
  decide +kernel

theorem cipherName_of_denoteName {v : Document Num} {cipherId : UInt16}
    (h : denoteName cStr cipherMap v = some cipherId) :
    ∃ name, v.string? = some name ∧ cipherName cipherId = some (renamed (cStr name)) := by
  obtain ⟨name', hname', hfind⟩ := Option.bind_eq_some_iff.mp h
  obtain ⟨name, hname, rfl⟩ := Option.map_eq_some_iff.mp hname'
  obtain ⟨entry, hentry, rfl⟩ := Option.map_eq_some_iff.mp hfind
  have heq : ascii entry.1 = cStr name := by simpa using List.find?_some hentry
  refine ⟨name, hname, ?_⟩
  rw [← heq]
  exact cipherMap_agrees entry (List.mem_of_find?_eq_some hentry)

/-- The names that OpenSSL gets are those before the NUL. -/
theorem filterMap_cipherName {ciphers : List (Document Num)} {cipherSuites : List UInt16}
    (h : ciphers.mapM (denoteName cStr cipherMap) = some cipherSuites) :
    cipherSuites.filterMap cipherName =
        (ciphers.filterMap JsonValue.string?).map (renamed ∘ cStr) ∧
      cipherSuites.length = ciphers.length := by
  induction ciphers generalizing cipherSuites with
  | nil =>
    obtain rfl : [] = cipherSuites := by simpa using h
    exact ⟨rfl, rfl⟩
  | cons v rest ih =>
    rw [List.mapM_cons] at h
    obtain ⟨cipherId, hid, h⟩ := Option.bind_eq_some_iff.mp h
    obtain ⟨suites, hsuites, hcons⟩ := Option.bind_eq_some_iff.mp h
    obtain rfl := Option.some.inj hcons
    obtain ⟨name, hname, hcipher⟩ := cipherName_of_denoteName hid
    obtain ⟨hnames, hlen⟩ := ih hsuites
    rw [List.filterMap_cons_some hcipher, List.filterMap_cons_some hname, hnames]
    exact ⟨rfl, congrArg Nat.succ hlen⟩

/-- A list that is accepted is short, and its suites have the names before the NUL. -/
theorem accepted_names {v : Document Num} {cipherSuites : List UInt16}
    (h : scfParseTLSCiphersuites v [] = .ok (.success, cipherSuites)) :
    cipherSuites.filterMap cipherName = (configuredNames v).map (renamed ∘ cStr) ∧
      cipherSuites.length ≤ maxTlsCipherSuitesLength := by
  have hyields := scfParseTLSCiphersuites_yields v []
  rw [h] at hyields
  have hdenote : denoteTlsCipherSuites cStr [] v = some cipherSuites := by
    generalize denoteTlsCipherSuites cStr [] v = d at hyields ⊢
    cases hyields with
    | done => rfl
    | failed _ hret => exact absurd rfl hret
  have hmap := (Option.filter_eq_some_iff.mp hdenote).1
  obtain ⟨suites, hbind, rfl⟩ := Option.map_eq_some_iff.mp hmap
  obtain ⟨ciphers, harray, hsuites⟩ := Option.bind_eq_some_iff.mp hbind
  obtain ⟨hciphers, hlimit⟩ := Option.filter_eq_some_iff.mp harray
  obtain ⟨hnames, hlen⟩ := filterMap_cipherName hsuites
  rw [configuredNames, hciphers, List.nil_append]
  refine ⟨hnames, ?_⟩
  rw [hlen]
  simpa using hlimit

/-- The names of the table, with their colons, have at most 50 bytes and no NUL. -/
theorem cipherId2CipherStr_bytes {cipherId : UInt16} {str : StdString}
    (h : cipherId2CipherStr cipherId = some str) : str.length ≤ 50 ∧ 0 ∉ str := by
  have htable : ∀ entry ∈ cipherNames, (ascii entry.2).length ≤ 50 ∧ 0 ∉ ascii entry.2 := by
    decide +kernel
  obtain ⟨entry, hentry, -, rfl⟩ := cipherId2CipherStr_eq_some h
  exact htable entry hentry

theorem length_cipherSuitesStr_le (cipherSuites : List UInt16) :
    (cipherSuitesStr cipherSuites).length ≤ 50 * cipherSuites.length := by
  induction cipherSuites with
  | nil => simp [cipherSuitesStr]
  | cons cipherId rest ih =>
    unfold cipherSuitesStr at ih ⊢
    rw [List.flatMap_cons, List.length_append, List.length_cons]
    cases hstr : cipherId2CipherStr cipherId with
    | none =>
      simp only [Option.getD_none, List.length_nil]
      omega
    | some str =>
      have hle := (cipherId2CipherStr_bytes hstr).1
      simp only [Option.getD_some]
      omega

theorem zero_notMem_joinedNames (cipherSuites : List UInt16) : 0 ∉ joinedNames cipherSuites := by
  rw [joinedNames_eq]
  intro hmem
  obtain ⟨cipherId, -, hzero⟩ := List.mem_flatMap.mp (List.mem_of_mem_dropLast hmem)
  cases hstr : cipherId2CipherStr cipherId with
  | none =>
    rw [hstr] at hzero
    exact absurd hzero List.not_mem_nil
  | some str =>
    rw [hstr] at hzero
    exact (cipherId2CipherStr_bytes hstr).2 hzero

/-- A NUL in a name is not lost with the prefix. -/
theorem zero_mem_renamed {name : StdString} (h : 0 ∈ name) : 0 ∈ renamed name := by
  unfold renamed
  split_ifs with hhead
  · obtain ⟨rest, rfl⟩ := hhead
    have hrest : 0 ∈ rest := by
      rcases List.mem_append.mp h with hzero | hrest
      · exact absurd hzero (by decide)
      · exact hrest
    rw [List.drop_left]
    exact List.mem_append_right _ hrest
  · exact h

theorem mem_intercalate_of_mem {names : List StdString} {name : StdString} (h : name ∈ names)
    {c : UInt8} (hc : c ∈ name) : c ∈ [colon].intercalate names := by
  induction names with
  | nil => exact absurd h List.not_mem_nil
  | cons head rest ih =>
    cases rest with
    | nil =>
      obtain rfl := List.mem_singleton.mp h
      simpa using hc
    | cons head' rest =>
      rw [List.intercalate_cons_cons]
      rcases List.mem_cons.mp h with rfl | h
      · exact List.mem_append_left _ (List.mem_append_left _ hc)
      · exact List.mem_append_right _ (ih h)

/-- Of an accepted list the names are kept exactly if there is no NUL in them. -/
theorem keepsNames_iff {v : Document Num} {cipherSuites : List UInt16}
    (h : scfParseTLSCiphersuites v [] = .ok (.success, cipherSuites)) :
    KeepsNames v cipherSuites ↔ ∀ name ∈ configuredNames v, 0 ∉ name := by
  obtain ⟨hnames, hlen⟩ := accepted_names h
  constructor
  · intro hkeeps name hname hzero
    have hmem : 0 ∈ joinedNames cipherSuites := by
      rw [hkeeps.names]
      exact mem_intercalate_of_mem (List.mem_map_of_mem hname) (zero_mem_renamed hzero)
    exact zero_notMem_joinedNames cipherSuites hmem
  · intro hfree
    constructor
    · have hle := length_cipherSuitesStr_le cipherSuites
      have hlimit : 50 * maxTlsCipherSuitesLength ≤ securecMemMaxLen := by decide
      exact handsNames_of_le (by omega)
    · rw [joinedNames, hnames]
      refine congrArg _ (List.map_congr_left fun name hname => ?_)
      rw [Function.comp_apply, (cStr_eq_self_iff name).mpr (hfree name hname)]

/-- For every list of identifiers, and for every array that the parser accepts as a list of suites:
OpenSSL gets the names of the list exactly if they fit what `memcpy_s` takes, and the names of the
array exactly if there is no NUL in them. -/
theorem cipherSuites_names_iff (cipherSuites : List UInt16) {v : Document Num}
    {parsed : List UInt16} (h : scfParseTLSCiphersuites v [] = .ok (.success, parsed)) :
    (HandsNames cipherSuites ↔ (cipherSuitesStr cipherSuites).length ≤ securecMemMaxLen) ∧
      (KeepsNames v parsed ↔ ∀ name ∈ configuredNames v, 0 ∉ name) :=
  ⟨handsNames_iff cipherSuites, keepsNames_iff h⟩

end Configured

/-- Two suites of a configuration, the first one twice. -/
def twoSuites : Document ℕ :=
  .array [.string (ascii "SCF_SSL_AES_128_GCM_SHA256"),
    .string (ascii "SCF_SSL_ECDHE_RSA_WITH_AES_128_GCM_SHA256"),
    .string (ascii "SCF_SSL_AES_128_GCM_SHA256")]

theorem cipherSuites_names_twoSuites :
    scfParseTLSCiphersuites twoSuites [] = .ok (.success, [0x1301, 0xC02F, 0x1301]) ∧
      HandsNames [0x1301, 0, 0x1301] ∧ KeepsNames twoSuites [0x1301, 0xC02F, 0x1301] := by
  have hparse : scfParseTLSCiphersuites twoSuites [] = .ok (.success, [0x1301, 0xC02F, 0x1301]) := by
    decide +kernel
  have hiff := cipherSuites_names_iff [0x1301, 0, 0x1301] hparse
  exact ⟨hparse, hiff.1.mpr (by decide +kernel), hiff.2.mpr (by decide +kernel)⟩

/-- A name with a NUL and more behind it. -/
def nulSuite : Document ℕ := .array [.string (ascii "SCF_SSL_AES_128_GCM_SHA256" ++ [0, 120])]

/-- A hundred million times the same suite are more than two gigabytes of names, and no copy takes
place; and of a configured name only what stands before the NUL is handed on. -/
theorem cipherSuites_names_lost :
    ¬ HandsNames (List.replicate 100000000 0x1301) ∧
      scfParseTLSCiphersuites nulSuite [] = .ok (.success, [0x1301]) ∧
      ¬ KeepsNames nulSuite [0x1301] := by
  have hparse : scfParseTLSCiphersuites nulSuite [] = .ok (.success, [0x1301]) := by decide +kernel
  refine ⟨?_, hparse, ?_⟩
  · have hname : ((cipherId2CipherStr 0x1301).getD []).length = 23 := by decide +kernel
    rw [handsNames_iff, cipherSuitesStr, List.length_flatMap, List.map_replicate,
      List.sum_replicate_nat, hname]
    decide
  · rw [keepsNames_iff hparse]
    decide +kernel

end Scf
