import ScfSecurity.Policy.FileContext
import Mathlib.Data.Finset.Basic

/-!
# Certificates of a TLS configuration

The part of OpenSSL's `SSL_CTX` that holds certificates, and the documented calls that read PEM
text into it. A PEM text is the list of its blocks. The readers of one object skip blocks of other
types; the reader of a whole file wants every certificate and every CRL.

Whether OpenSSL takes an object (whether memory suffices, the type of a key is known, a key is long
enough for the security level) is passed in as a value of `CertLib`.

## Main definitions

- `PemBlock`, `PemRead`: blocks of a PEM text, and what reading an object from them gives
- `CertConfig`: the certificates of a configuration
- `CertConfig.installed`: what a configuration uses in a handshake

## Main results

- `pemReadX509s_object`: reading certificates until there is no more
- `addItems_eq`: what loading a list of certificates and CRLs adds to a store
-/

namespace Scf

variable {Cert Crl Kind α : Type}

/-! ### PEM text -/

/-- A block of a PEM text: a certificate or a CRL, with what its contents decode to, if they do; a
block of another type; text that starts like a block and is none, where every reader gives up.
All readers are assumed to see the same certificates: the blocks of type `TRUSTED CERTIFICATE`,
which only some of them take, do not occur. -/
inductive PemBlock (Cert Crl : Type) where
  | certificate (x509 : Option Cert)
  | crl (crl : Option Crl)
  | other
  | broken
deriving DecidableEq

/-- What a reader of one object returns: the object, with the text after it, or a null pointer.
After the last block the error is `PEM_R_NO_START_LINE`. -/
inductive PemRead (Cert Crl α : Type) where
  | object (x : α) (rest : List (PemBlock Cert Crl))
  | noStartLine
  | failed

/-- The object of a read, if there is one. -/
def PemRead.object? : PemRead Cert Crl α → Option α
  | .object x _ => some x
  | .noStartLine => none
  | .failed => none

/-- `PEM_bytes_read_bio` with decoding: the next block that `select` wants. -/
def pemRead (select : PemBlock Cert Crl → Option (Option α)) :
    List (PemBlock Cert Crl) → PemRead Cert Crl α
  | [] => .noStartLine
  | .broken :: _ => .failed
  | block :: rest =>
    match select block with
    | none => pemRead select rest
    | some none => .failed
    | some (some x) => .object x rest

/-- `PEM_read_bio_X509`. -/
def pemReadX509 (blocks : List (PemBlock Cert Crl)) : PemRead Cert Crl Cert :=
  pemRead (fun | .certificate x509 => some x509 | _ => none) blocks

/-- `PEM_read_bio_X509_CRL`, also `PEM_read_X509_CRL`. -/
def pemReadX509Crl (blocks : List (PemBlock Cert Crl)) : PemRead Cert Crl Crl :=
  pemRead (fun | .crl crl => some crl | _ => none) blocks

/-- `PEM_X509_INFO_read_bio`: all certificates and CRLs in their order, if all of them decode. -/
def pemX509InfoRead : List (PemBlock Cert Crl) → Option (List (Cert ⊕ Crl))
  | [] => some []
  | .certificate x509 :: rest => do
    let x509 ← x509
    let items ← pemX509InfoRead rest
    return .inl x509 :: items
  | .crl crl :: rest => do
    let crl ← crl
    let items ← pemX509InfoRead rest
    return .inr crl :: items
  | .other :: rest => pemX509InfoRead rest
  | .broken :: _ => none

theorem pemRead_length_lt {select : PemBlock Cert Crl → Option (Option α)}
    {blocks rest : List (PemBlock Cert Crl)} {x : α} (h : pemRead select blocks = .object x rest) :
    rest.length < blocks.length := by
  induction blocks with
  | nil => cases h
  | cons block blocks ih =>
    have hlen : blocks.length < (block :: blocks).length := Nat.lt_succ_self _
    unfold pemRead at h
    split at h
    · cases h
    · cases h
    · rename_i heq
      obtain ⟨rfl, rfl⟩ := List.cons.inj heq
      split at h
      · exact (ih h).trans hlen
      · cases h
      · cases h
        exact hlen

/-- The certificates that reading one after the other gives before the first null pointer, and
whether that one is only the end of the text. -/
def pemReadX509s (blocks : List (PemBlock Cert Crl)) : List Cert × Bool :=
  match _h : pemReadX509 blocks with
  | .object x509 rest => (x509 :: (pemReadX509s rest).1, (pemReadX509s rest).2)
  | .noStartLine => ([], true)
  | .failed => ([], false)
termination_by blocks.length
decreasing_by all_goals exact pemRead_length_lt _h

/-! ### Stores and configurations -/

/-- `X509_STORE`: trusted certificates, CRLs, and the flag `X509_V_FLAG_CRL_CHECK`. -/
structure CertStore (Cert Crl : Type) where
  certs : Finset Cert
  crls : Finset Crl
  crlCheck : Bool

/-- The certificates of an `SSL_CTX`: its store, for each type of key a certificate and the chain
that belongs to it, and the extra chain for the certificates that have none of their own. An entry
of the extra chain is `none` once its certificate has been freed. -/
structure CertConfig (Cert Crl Kind : Type) where
  store : CertStore Cert Crl
  pkeys : Kind → Option Cert
  chains : Kind → List Cert
  extraCerts : List (Option Cert)

/-- What OpenSSL decides: how a text divides into blocks, the type of a certificate's key, and
whether a call succeeds. `partlyLoaded` is its answer for a file of which the store has taken
something before it refused something. -/
structure CertLib (Cert Crl Kind : Type) where
  pem : StdString → List (PemBlock Cert Crl)
  kind : Cert → Kind
  bioNewMemBuf : Bool
  storeSetFlags : Bool
  storeAddCert : Cert → Bool
  storeAddCrl : Crl → Bool
  partlyLoaded : Bool
  useCertificate : Cert → Bool
  addChainCert : Cert → Bool
  addExtraChainCert : Cert → Bool

/-- Whether the store takes a certificate or a CRL. -/
def CertLib.accepts (lib : CertLib Cert Crl Kind) : Cert ⊕ Crl → Bool :=
  Sum.elim lib.storeAddCert lib.storeAddCrl

/-- The chain that goes out with the certificate for a type of key. -/
def CertConfig.chainFor (cfg : CertConfig Cert Crl Kind) (kind : Kind) : List (Option Cert) :=
  if cfg.chains kind = [] then cfg.extraCerts else (cfg.chains kind).map some

/-- What a configuration uses in a handshake: the end-entity certificates with their chains, the
trusted certificates and the CRLs. -/
def CertConfig.installed (cfg : CertConfig Cert Crl Kind) :
    (Kind → Option (Cert × List (Option Cert))) × Finset Cert × Finset Crl :=
  (fun kind => (cfg.pkeys kind).map fun x509 => (x509, cfg.chainFor kind), cfg.store.certs,
    cfg.store.crls)

section Calls

variable (lib : CertLib Cert Crl Kind)

/-- `BIO_new_mem_buf`, with the text behind the BIO. -/
def bioNewMemBuf (buf : StdString) : Option (List (PemBlock Cert Crl)) :=
  if lib.bioNewMemBuf then some (lib.pem buf) else none

/-- `SSL_CTX_get_cert_store`: every configuration has one. -/
def CertConfig.getCertStore (cfg : CertConfig Cert Crl Kind) : Option (CertStore Cert Crl) :=
  some cfg.store

section Store

variable [DecidableEq Cert] [DecidableEq Crl]

/-- `X509_STORE_add_cert`; a certificate that is there already counts as added. -/
def CertStore.addCert (x509 : Cert) (store : CertStore Cert Crl) : Bool × CertStore Cert Crl :=
  if lib.storeAddCert x509 then (true, { store with certs := insert x509 store.certs })
  else (false, store)

/-- `X509_STORE_add_crl`, which refuses a null pointer. -/
def CertStore.addCrl (crl : Option Crl) (store : CertStore Cert Crl) : Bool × CertStore Cert Crl :=
  match crl with
  | none => (false, store)
  | some crl =>
    if lib.storeAddCrl crl then (true, { store with crls := insert crl store.crls })
    else (false, store)

/-- The loop of `X509_load_cert_crl_file`, up to the first object that the store refuses. -/
def CertStore.addItems : List (Cert ⊕ Crl) → CertStore Cert Crl → Bool × CertStore Cert Crl
  | [], store => (true, store)
  | item :: items, store =>
    let (ok, store) :=
      match item with
      | .inl x509 => store.addCert lib x509
      | .inr crl => store.addCrl lib (some crl)
    if !ok then (false, store) else addItems items store

/-- `SSL_CTX_load_verify_locations` on a file: every certificate and CRL of it, at least one. What
the store has taken before it refuses an object stays there. -/
def CertConfig.loadVerifyLocations (fs : FileSystem) (file : StdString)
    (cfg : CertConfig Cert Crl Kind) : Bool × CertConfig Cert Crl Kind :=
  match (fs.contents file).bind fun text => pemX509InfoRead (lib.pem text) with
  | none => (false, cfg)
  | some [] => (false, cfg)
  | some (item :: items) =>
    let (ok, store) := cfg.store.addItems lib (item :: items)
    (ok || (lib.accepts item && lib.partlyLoaded), { cfg with store := store })

end Store

section Keys

variable [DecidableEq Kind]

/-- `SSL_CTX_use_certificate`: the certificate for its type of key. The chain stays. -/
def CertConfig.useCertificate (x509 : Cert) (cfg : CertConfig Cert Crl Kind) :
    Bool × CertConfig Cert Crl Kind :=
  if lib.useCertificate x509 then
    (true, { cfg with pkeys := Function.update cfg.pkeys (lib.kind x509) (some x509) })
  else (false, cfg)

/-- `SSL_CTX_use_certificate_file`: the first certificate of the file. -/
def CertConfig.useCertificateFile (fs : FileSystem) (file : StdString)
    (cfg : CertConfig Cert Crl Kind) : Bool × CertConfig Cert Crl Kind :=
  match (fs.contents file).bind fun text => (pemReadX509 (lib.pem text)).object? with
  | none => (false, cfg)
  | some x509 => cfg.useCertificate lib x509

/-- `SSL_CTX_add0_chain_cert` for the certificate of a type of key. -/
def CertConfig.addChainCert (kind : Kind) (ca : Cert) (cfg : CertConfig Cert Crl Kind) :
    Bool × CertConfig Cert Crl Kind :=
  if lib.addChainCert ca then
    (true, { cfg with chains := Function.update cfg.chains kind (cfg.chains kind ++ [ca]) })
  else (false, cfg)

/-- The loop of `SSL_CTX_use_certificate_chain_file`: only the end of the text ends it well. -/
def CertConfig.addChain (kind : Kind) (blocks : List (PemBlock Cert Crl))
    (cfg : CertConfig Cert Crl Kind) : Bool × CertConfig Cert Crl Kind :=
  match _h : pemReadX509 blocks with
  | .object ca rest =>
    let (ok, cfg) := cfg.addChainCert lib kind ca
    if !ok then (false, cfg) else CertConfig.addChain kind rest cfg
  | .noStartLine => (true, cfg)
  | .failed => (false, cfg)
termination_by blocks.length
decreasing_by exact pemRead_length_lt _h

/-- `SSL_CTX_use_certificate_chain_file`: the first certificate of the file is the end-entity
certificate, the following ones replace its chain. -/
def CertConfig.useCertificateChainFile (fs : FileSystem) (file : StdString)
    (cfg : CertConfig Cert Crl Kind) : Bool × CertConfig Cert Crl Kind :=
  match fs.contents file with
  | none => (false, cfg)
  | some text =>
    match pemReadX509 (lib.pem text) with
    | .object x509 rest =>
      let (ok, cfg) := cfg.useCertificate lib x509
      if !ok then (false, cfg)
      else
        let kind := lib.kind x509
        -- `SSL_CTX_clear_chain_certs`
        { cfg with chains := Function.update cfg.chains kind [] }.addChain lib kind rest
    | .noStartLine => (false, cfg)
    | .failed => (false, cfg)

end Keys

/-- `SSL_CTX_add_extra_chain_cert`, which takes over the caller's reference. -/
def CertConfig.addExtraChainCert (ca : Cert) (cfg : CertConfig Cert Crl Kind) :
    Bool × CertConfig Cert Crl Kind :=
  if lib.addExtraChainCert ca then
    (true, { cfg with extraCerts := cfg.extraCerts ++ [some ca] })
  else (false, cfg)

/-- `X509_free` of the certificate last added to the extra chain: the reference that the chain has
is the only one. -/
def CertConfig.freeLastExtra (cfg : CertConfig Cert Crl Kind) : CertConfig Cert Crl Kind :=
  { cfg with extraCerts := cfg.extraCerts.dropLast ++ [none] }

end Calls

/-! ### What the loops read and add -/

section Spec

variable {lib : CertLib Cert Crl Kind} {blocks rest : List (PemBlock Cert Crl)}

theorem pemReadX509s_object {x509 : Cert} (h : pemReadX509 blocks = .object x509 rest) :
    pemReadX509s blocks = (x509 :: (pemReadX509s rest).1, (pemReadX509s rest).2) := by
  rw [pemReadX509s]
  split
  · rename_i heq
    cases h.symm.trans heq
    rfl
  all_goals
    rename_i heq
    cases h.symm.trans heq

theorem pemReadX509s_noStartLine (h : pemReadX509 blocks = .noStartLine) :
    pemReadX509s blocks = ([], true) := by
  rw [pemReadX509s]
  split <;> rename_i heq <;> cases h.symm.trans heq
  rfl

theorem pemReadX509s_failed (h : pemReadX509 blocks = .failed) :
    pemReadX509s blocks = ([], false) := by
  rw [pemReadX509s]
  split <;> rename_i heq <;> cases h.symm.trans heq
  rfl

/-- The first certificate of a text is one of those that the reader of a whole file finds. -/
theorem mem_pemX509InfoRead {x509 : Cert} {items : List (Cert ⊕ Crl)}
    (h : (pemReadX509 blocks).object? = some x509) (hitems : pemX509InfoRead blocks = some items) :
    .inl x509 ∈ items := by
  induction blocks generalizing items with
  | nil => cases h
  | cons block blocks ih =>
    cases block with
    | certificate x =>
      obtain ⟨x', rfl, items', -, rfl⟩ : ∃ x', x = some x' ∧
          ∃ items', pemX509InfoRead blocks = some items' ∧ .inl x' :: items' = items := by
        simpa [pemX509InfoRead, Option.bind_eq_some_iff] using hitems
      cases h
      exact List.mem_cons_self
    | crl crl =>
      obtain ⟨_, -, items', hitems', rfl⟩ : ∃ crl', crl = some crl' ∧
          ∃ items', pemX509InfoRead blocks = some items' ∧ .inr crl' :: items' = items := by
        simpa [pemX509InfoRead, Option.bind_eq_some_iff] using hitems
      exact List.mem_cons_of_mem _ (ih h hitems')
    | other => exact ih h hitems
    | broken => cases hitems

/-- A file with these certificates and CRLs counts as loaded: the store takes all of them, or it
takes some and OpenSSL is content with that. -/
def CertLib.Loads (lib : CertLib Cert Crl Kind) (items : List (Cert ⊕ Crl)) : Prop :=
  (∀ item ∈ items, lib.accepts item = true) ∨
    lib.partlyLoaded = true ∧ items.takeWhile lib.accepts ≠ []

/-- A certificate or a CRL is in the store. -/
def CertStore.Has (store : CertStore Cert Crl) : Cert ⊕ Crl → Prop
  | .inl x509 => x509 ∈ store.certs
  | .inr crl => crl ∈ store.crls

instance [DecidableEq Cert] [DecidableEq Crl] (store : CertStore Cert Crl) :
    DecidablePred store.Has
  | .inl x509 => inferInstanceAs (Decidable (x509 ∈ store.certs))
  | .inr crl => inferInstanceAs (Decidable (crl ∈ store.crls))

theorem CertStore.same_iff {store store' : CertStore Cert Crl} :
    (store.certs = store'.certs ∧ store.crls = store'.crls) ↔
      ∀ item, store.Has item ↔ store'.Has item := by
  rw [Sum.forall, Finset.ext_iff, Finset.ext_iff]
  rfl

/-- Configurations that differ in their stores install the same if the stores hold the same. -/
theorem CertConfig.installed_store_iff {cfg : CertConfig Cert Crl Kind}
    {store store' : CertStore Cert Crl} :
    ({ cfg with store := store } : CertConfig Cert Crl Kind).installed =
        ({ cfg with store := store' } : CertConfig Cert Crl Kind).installed ↔
      ∀ item, store.Has item ↔ store'.Has item := by
  rw [← CertStore.same_iff]
  simp [CertConfig.installed, CertConfig.chainFor]

section Store

variable [DecidableEq Cert] [DecidableEq Crl]

theorem CertStore.addItems_fst (items : List (Cert ⊕ Crl)) (store : CertStore Cert Crl) :
    (store.addItems lib items).1 = items.all lib.accepts := by
  induction items generalizing store with
  | nil => rfl
  | cons item items ih =>
    rcases item with x509 | crl
    · by_cases hok : lib.storeAddCert x509 = true
      · simpa [addItems, addCert, CertLib.accepts, hok] using ih _
      · simp [addItems, addCert, CertLib.accepts, hok]
    · by_cases hok : lib.storeAddCrl crl = true
      · simpa [addItems, addCrl, CertLib.accepts, hok] using ih _
      · simp [addItems, addCrl, CertLib.accepts, hok]

/-- Loading adds what comes before the first refusal. -/
theorem CertStore.has_addItems (items : List (Cert ⊕ Crl)) (store : CertStore Cert Crl)
    (item : Cert ⊕ Crl) :
    (store.addItems lib items).2.Has item ↔
      store.Has item ∨ item ∈ items.takeWhile lib.accepts := by
  induction items generalizing store with
  | nil => simp [addItems]
  | cons head items ih =>
    rcases head with x509 | crl
    · by_cases hok : lib.storeAddCert x509 = true
      · simp only [addItems, addCert, hok, if_true, Bool.not_true, Bool.false_eq_true, if_false, ih]
        rcases item with y | y
        · simp [Has, CertLib.accepts, hok, or_assoc, or_left_comm]
        · simp [Has, CertLib.accepts, hok]
      · simp [addItems, addCert, CertLib.accepts, hok]
    · by_cases hok : lib.storeAddCrl crl = true
      · simp only [addItems, addCrl, hok, if_true, Bool.not_true, Bool.false_eq_true, if_false, ih]
        rcases item with y | y
        · simp [Has, CertLib.accepts, hok]
        · simp [Has, CertLib.accepts, hok, or_assoc, or_left_comm]
      · simp [addItems, addCrl, CertLib.accepts, hok]

theorem CertStore.loads_iff (item : Cert ⊕ Crl) (items : List (Cert ⊕ Crl))
    (store : CertStore Cert Crl) :
    ((store.addItems lib (item :: items)).1 || (lib.accepts item && lib.partlyLoaded)) = true ↔
      lib.Loads (item :: items) := by
  have htaken : (item :: items).takeWhile lib.accepts ≠ [] ↔ lib.accepts item = true := by
    rw [List.takeWhile_cons]
    cases lib.accepts item <;> simp
  rw [CertLib.Loads, htaken, Bool.or_eq_true, CertStore.addItems_fst, List.all_eq_true,
    Bool.and_eq_true, and_comm (a := lib.accepts item = true)]

/-- A file is loaded if it decodes as a whole, is not empty, and the store takes enough of it. -/
theorem CertConfig.loadVerifyLocations_fst {fs : FileSystem} {file text : StdString}
    {cfg : CertConfig Cert Crl Kind} (h : fs.contents file = some text) :
    (cfg.loadVerifyLocations lib fs file).1 = true ↔
      ∃ items, pemX509InfoRead (lib.pem text) = some items ∧ items ≠ [] ∧ lib.Loads items := by
  unfold CertConfig.loadVerifyLocations
  rw [h, Option.bind_some]
  cases hitems : pemX509InfoRead (lib.pem text) with
  | none => simp
  | some items =>
    cases items with
    | nil => simp
    | cons item items => simp [← CertStore.loads_iff item items cfg.store]

/-- Loading a file changes the store only, and adds what comes before the first refusal. -/
theorem CertConfig.loadVerifyLocations_snd (lib : CertLib Cert Crl Kind) {fs : FileSystem}
    {file text : StdString} (h : fs.contents file = some text) (cfg : CertConfig Cert Crl Kind) :
    ∃ store, (cfg.loadVerifyLocations lib fs file).2 = { cfg with store := store } ∧
      ∀ item, store.Has item ↔ cfg.store.Has item ∨
        ∃ items, pemX509InfoRead (lib.pem text) = some items ∧
          item ∈ items.takeWhile lib.accepts := by
  unfold CertConfig.loadVerifyLocations
  rw [h, Option.bind_some]
  cases hitems : pemX509InfoRead (lib.pem text) with
  | none => exact ⟨cfg.store, rfl, by simp⟩
  | some items =>
    cases items with
    | nil => exact ⟨cfg.store, rfl, by simp⟩
    | cons head items =>
      refine ⟨_, rfl, fun item => ?_⟩
      rw [CertStore.has_addItems]
      simp

end Store

section Keys

variable [DecidableEq Kind]

/-- The chain file's loop adds the certificates before the first refusal, and succeeds if there is
none and the text is sound to its end. -/
theorem CertConfig.addChain_eq (kind : Kind) (blocks : List (PemBlock Cert Crl))
    (cfg : CertConfig Cert Crl Kind) :
    cfg.addChain lib kind blocks =
      ((pemReadX509s blocks).1.all lib.addChainCert && (pemReadX509s blocks).2,
        { cfg with
          chains := Function.update cfg.chains kind
            (cfg.chains kind ++ (pemReadX509s blocks).1.takeWhile lib.addChainCert) }) := by
  induction blocks using pemReadX509s.induct generalizing cfg with
  | case1 blocks ca rest h ih =>
    rw [addChain]
    split
    · rename_i heq
      cases h.symm.trans heq
      rw [pemReadX509s_object h]
      by_cases hok : lib.addChainCert ca = true
      · simp [addChainCert, hok, ih]
      · simp [addChainCert, hok]
    all_goals
      rename_i heq
      cases h.symm.trans heq
  | case2 blocks h =>
    rw [addChain, pemReadX509s_noStartLine h]
    split <;> rename_i heq <;> cases h.symm.trans heq
    simp
  | case3 blocks h =>
    rw [addChain, pemReadX509s_failed h]
    split <;> rename_i heq <;> cases h.symm.trans heq
    simp

end Keys

end Spec

end Scf
