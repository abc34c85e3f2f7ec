import ScfSecurity.Errno
import Mathlib.Logic.Function.Basic
import Mathlib.Tactic.Common

/-!
# References to certificates

Certificate objects of OpenSSL are counted. The adaptor reads an end-entity certificate and
its chain from a buffer and puts them into the TLS configuration with two calls that treat
references differently: `SSL_CTX_use_certificate` takes one of its own,
`SSL_CTX_add_extra_chain_cert` takes over the one of the caller. The adaptor frees its
reference after both.

## Main definitions

- `CertLedger`: the references of all certificate objects, and what the configuration refers to
- `CertLedger.Balanced`: exactly the certificates of the configuration have references

## Main results

- `addEeChainByBuffer_balanced_iff`: the ledger balances afterwards exactly if no chain
  certificate was added
-/

namespace Scf

/-- The certificate objects created so far are those below `next`. `certs` are the configuration's
own certificates, one for each type of key, and `extraCerts` its extra chain. -/
structure CertLedger where
  refs : ℕ → ℕ
  next : ℕ
  certs : List ℕ
  extraCerts : List ℕ

namespace CertLedger

/-- A new configuration, before any certificate. -/
def empty : CertLedger := ⟨fun _ => 0, 0, [], []⟩

/-- The certificates that the configuration refers to. -/
def referenced (l : CertLedger) : List ℕ := l.certs ++ l.extraCerts

/-- `PEM_read_bio_X509`: a new object with one reference. -/
def pemReadBioX509 (l : CertLedger) : ℕ × CertLedger :=
  (l.next, { l with refs := Function.update l.refs l.next 1, next := l.next + 1 })

/-- `X509_free` drops a reference. -/
def x509Free (x509 : ℕ) (l : CertLedger) : CertLedger :=
  { l with refs := Function.update l.refs x509 (l.refs x509 - 1) }

/-- The configuration gives up one of its own certificates. -/
def giveUp (x509 : ℕ) (l : CertLedger) : CertLedger :=
  { l with
    refs := Function.update l.refs x509 (l.refs x509 - 1)
    certs := l.certs.erase x509 }

/-- The configuration takes a reference of its own. -/
def take (x509 : ℕ) (l : CertLedger) : CertLedger :=
  { l with
    refs := Function.update l.refs x509 (l.refs x509 + 1)
    certs := l.certs ++ [x509] }

/-- `SSL_CTX_use_certificate` with success; the certificate `old` that the configuration had for
this type of key, if any, goes. -/
def sslCtxUseCertificate (x509 : ℕ) (old : Option ℕ) (l : CertLedger) : CertLedger :=
  match old.filter (· ∈ l.certs) with
  | none => l.take x509
  | some old => (l.giveUp old).take x509

/-- `SSL_CTX_add_extra_chain_cert` with success: the caller's reference is now the
configuration's. -/
def sslCtxAddExtraChainCert (x509 : ℕ) (l : CertLedger) : CertLedger :=
  { l with extraCerts := l.extraCerts ++ [x509] }

/-- Each certificate of the configuration has a reference, and no other one has. -/
def Balanced (l : CertLedger) : Prop :=
  ∀ x509, (x509 ∈ l.referenced → 1 ≤ l.refs x509) ∧ (x509 ∉ l.referenced → l.refs x509 = 0)

/-- Every reference is the configuration's or one of the adaptor's, who has those of `caller`. -/
structure Owned (caller : List ℕ) (l : CertLedger) : Prop where
  count : ∀ x509, l.refs x509 = l.referenced.count x509 + caller.count x509
  fresh : ∀ x509, l.next ≤ x509 → x509 ∉ l.referenced ∧ x509 ∉ caller

end CertLedger

/-- `LoadEeCert`. The buffer is the list of its certificates, each with whether OpenSSL accepts it;
the result is with what is left to read. -/
def loadEeCert (old : Option ℕ) (l : CertLedger) : List Bool → Errno × List Bool × CertLedger
  | [] => (.sslParseCert, [], l)
  | addOk :: rest =>
    let (x509, l) := l.pemReadBioX509
    let l := if addOk then l.sslCtxUseCertificate x509 old else l
    let l := l.x509Free x509
    if !addOk then (.sslAddEeCertToStore, rest, l) else (.success, rest, l)

/-- `LoadCaChain`. -/
def loadCaChain : List Bool → CertLedger → Errno × CertLedger
  | [], l => (.success, l)
  | addOk :: rest, l =>
    let (ca, l) := l.pemReadBioX509
    let l := if addOk then l.sslCtxAddExtraChainCert ca else l
    let l := l.x509Free ca
    if !addOk then (.sslLoadCaCertChain, l) else loadCaChain rest l

/-- `INT32_MAX`. -/
def int32Max : ℕ := 0x7fffffff

/-- `OpenSSLAdaptor::AddEeChainByBuffer` on a buffer of `len` bytes; `bioOk` is the success of
`BIO_new_mem_buf`, `old` the certificate that the new one replaces, if any. -/
def addEeChainByBuffer (len : ℕ) (bioOk : Bool) (certs : List Bool) (old : Option ℕ)
    (l : CertLedger) : Errno × CertLedger :=
  if len > int32Max then (.memAlloc, l)
  else if !bioOk then (.memAlloc, l)
  else
    let (ret, rest, l) := loadEeCert old l certs
    if ret = .success then loadCaChain rest l else (ret, l)

namespace CertLedger

variable {caller : List ℕ} {l : CertLedger} {x509 : ℕ}

/-- The ledger balances if the adaptor has given back all of its references. -/
theorem Owned.balanced (h : l.Owned []) : l.Balanced := by
  intro x509
  rw [h.count, List.count_nil, Nat.add_zero]
  exact ⟨List.count_pos_iff.mpr, List.count_eq_zero.mpr⟩

theorem owned_empty : empty.Owned [] :=
  ⟨fun _ => rfl, fun _ _ => ⟨List.not_mem_nil, List.not_mem_nil⟩⟩

/-! ### The rules of ownership -/

/-- `if` with an equation instead of `==`, as in the updates of the counters. -/
theorem ite_beq (x y m n : ℕ) : (if (x == y) = true then m else n) = if y = x then m else n := by
  by_cases h : y = x
  · rw [if_pos h, if_pos (beq_iff_eq.mpr h.symm)]
  · rw [if_neg h, if_neg (mt beq_iff_eq.mp (Ne.symm h))]

theorem Owned.pemReadBioX509 (h : l.Owned caller) :
    l.pemReadBioX509.2.Owned (l.next :: caller) := by
  obtain ⟨href, hcaller⟩ := h.fresh l.next (Nat.le_refl _)
  constructor
  · intro x509
    show Function.update l.refs l.next 1 x509 = l.referenced.count x509 + _
    rw [Function.update_apply, List.count_cons, ite_beq]
    split_ifs with hx
    · rw [hx, List.count_eq_zero.mpr href, List.count_eq_zero.mpr hcaller]
    · exact h.count x509
  · intro x509 hx
    have hx' : l.next + 1 ≤ x509 := hx
    obtain ⟨hold, hold'⟩ := h.fresh x509 (Nat.le_of_succ_le hx')
    refine ⟨hold, ?_⟩
    rw [List.mem_cons, not_or]
    exact ⟨by omega, hold'⟩

theorem Owned.x509Free (h : l.Owned caller) (hmem : x509 ∈ caller) :
    (l.x509Free x509).Owned (caller.erase x509) := by
  constructor
  · intro y
    have hcount := h.count y
    have hpos : 0 < caller.count x509 := List.count_pos_iff.mpr hmem
    show Function.update l.refs x509 (l.refs x509 - 1) y = l.referenced.count y + _
    rw [Function.update_apply, List.count_erase, ite_beq]
    split_ifs with hy
    · subst hy
      omega
    · omega
  · intro y hy
    exact ⟨(h.fresh y hy).1, fun hmem' => (h.fresh y hy).2 (List.mem_of_mem_erase hmem')⟩

theorem Owned.giveUp (h : l.Owned caller) (hmem : x509 ∈ l.certs) :
    (l.giveUp x509).Owned caller := by
  constructor
  · intro y
    have hcount := h.count y
    have hpos : 0 < l.certs.count x509 := List.count_pos_iff.mpr hmem
    show Function.update l.refs x509 (l.refs x509 - 1) y =
      (l.certs.erase x509 ++ l.extraCerts).count y + _
    rw [Function.update_apply, List.count_append, List.count_erase, ite_beq]
    rw [referenced, List.count_append] at hcount
    split_ifs with hy
    · subst hy
      omega
    · omega
  · intro y hy
    obtain ⟨href, hcaller⟩ := h.fresh y hy
    refine ⟨fun hmem' => href ?_, hcaller⟩
    rcases List.mem_append.mp hmem' with hcert | hextra
    · exact List.mem_append_left _ (List.mem_of_mem_erase hcert)
    · exact List.mem_append_right _ hextra

theorem Owned.take (h : l.Owned caller) (hmem : x509 ∈ caller) : (l.take x509).Owned caller := by
  constructor
  · intro y
    have hcount := h.count y
    show Function.update l.refs x509 (l.refs x509 + 1) y =
      (l.certs ++ [x509] ++ l.extraCerts).count y + _
    rw [referenced, List.count_append] at hcount
    rw [Function.update_apply, List.count_append, List.count_append, List.count_singleton, ite_beq]
    split_ifs with hy
    · subst hy
      omega
    · omega
  · intro y hy
    obtain ⟨href, hcaller⟩ := h.fresh y hy
    refine ⟨fun hmem' => ?_, hcaller⟩
    have hmem'' : y ∈ l.certs ∨ y = x509 ∨ y ∈ l.extraCerts := by
      simpa [referenced, CertLedger.take] using hmem'
    rcases hmem'' with hcert | rfl | hextra
    · exact href (List.mem_append_left _ hcert)
    · exact hcaller hmem
    · exact href (List.mem_append_right _ hextra)

/-- The configuration takes a reference of its own; the adaptor keeps the one it has. -/
theorem Owned.sslCtxUseCertificate (h : l.Owned caller) (hmem : x509 ∈ caller) (old : Option ℕ) :
    (l.sslCtxUseCertificate x509 old).Owned caller := by
  unfold CertLedger.sslCtxUseCertificate
  cases hold : old.filter (· ∈ l.certs) with
  | none => exact h.take hmem
  | some o =>
    have hcert : o ∈ l.certs := by simpa using (Option.filter_eq_some_iff.mp hold).2
    exact (h.giveUp hcert).take hmem

end CertLedger

/-! ### Loading a chain -/

/-- `LoadEeCert` gives back what it takes, whether it succeeds or not. -/
theorem loadEeCert_owned {l : CertLedger} (h : l.Owned []) (old : Option ℕ) (certs : List Bool) :
    (loadEeCert old l certs).2.2.Owned [] := by
  cases certs with
  | nil => exact h
  | cons addOk rest =>
    have hread := h.pemReadBioX509
    have hmem : l.next ∈ [l.next] := List.mem_singleton_self _
    have herase : [l.next].erase l.next = [] := List.erase_cons_head _ _
    cases addOk with
    | false => exact herase ▸ hread.x509Free hmem
    | true => exact herase ▸ (hread.sslCtxUseCertificate hmem old).x509Free hmem

theorem loadEeCert_success_iff (old : Option ℕ) (l : CertLedger) (certs : List Bool) :
    (loadEeCert old l certs).1 = .success ↔ certs.head? = some true := by
  cases certs with
  | nil => simp [loadEeCert]
  | cons addOk rest => cases addOk <;> simp [loadEeCert]

theorem loadEeCert_rest (old : Option ℕ) (l : CertLedger) (certs : List Bool) :
    (loadEeCert old l certs).2.1 = certs.tail := by
  cases certs with
  | nil => rfl
  | cons addOk rest => cases addOk <;> rfl

/-- A certificate of the chain that has no reference any more. -/
def CertLedger.Dangling (x509 : ℕ) (l : CertLedger) : Prop :=
  x509 < l.next ∧ x509 ∈ l.extraCerts ∧ l.refs x509 = 0

/-- Nothing the loop does brings a dangling certificate back. -/
theorem CertLedger.Dangling.loadCaChain {x509 : ℕ} {l : CertLedger} (h : l.Dangling x509)
    (certs : List Bool) : (loadCaChain certs l).2.Dangling x509 := by
  induction certs generalizing l with
  | nil => exact h
  | cons addOk rest ih =>
    obtain ⟨hlt, hmem, hzero⟩ := h
    have hne : x509 ≠ l.next := Nat.ne_of_lt hlt
    have hrefs : (l.pemReadBioX509.2.x509Free l.next).refs x509 = 0 := by
      simp [CertLedger.x509Free, CertLedger.pemReadBioX509, Function.update_of_ne hne, hzero]
    cases addOk with
    | false => exact ⟨Nat.lt_succ_of_lt hlt, hmem, hrefs⟩
    | true => exact ih ⟨Nat.lt_succ_of_lt hlt, List.mem_append_left _ hmem, hrefs⟩

/-- A chain certificate that was added is freed at once. -/
theorem loadCaChain_dangling (l : CertLedger) (rest : List Bool) :
    (loadCaChain (true :: rest) l).2.Dangling l.next := by
  refine CertLedger.Dangling.loadCaChain ⟨Nat.lt_succ_self _, ?_, ?_⟩ rest
  · exact List.mem_append_right _ (List.mem_singleton_self _)
  · simp [CertLedger.x509Free, CertLedger.sslCtxAddExtraChainCert]

theorem CertLedger.Dangling.not_balanced {x509 : ℕ} {l : CertLedger} (h : l.Dangling x509) :
    ¬ l.Balanced := by
  intro hbalanced
  have hpos := (hbalanced x509).1 (List.mem_append_right _ h.2.1)
  rw [h.2.2] at hpos
  exact Nat.not_succ_le_zero 0 hpos

/-- Without a chain, or with one whose first certificate is refused, the loop gives back what it
takes. -/
theorem loadCaChain_owned {l : CertLedger} (h : l.Owned []) {certs : List Bool}
    (hcerts : certs.head? ≠ some true) : (loadCaChain certs l).2.Owned [] := by
  cases certs with
  | nil => exact h
  | cons addOk rest =>
    have herase : [l.next].erase l.next = [] := List.erase_cons_head _ _
    cases addOk with
    | false => exact herase ▸ h.pemReadBioX509.x509Free (List.mem_singleton_self _)
    | true => exact absurd rfl hcerts

/-- After `AddEeChainByBuffer` the ledger balances exactly if no chain certificate was added: the
buffer could not be opened, the end-entity certificate was refused, or there is no chain
certificate, or the first one was refused. -/
theorem addEeChainByBuffer_balanced_iff {l : CertLedger} (h : l.Owned []) (len : ℕ) (bioOk : Bool)
    (certs : List Bool) (old : Option ℕ) :
    (addEeChainByBuffer len bioOk certs old l).2.Balanced ↔
      ¬ (len ≤ int32Max ∧ bioOk = true ∧ certs.head? = some true ∧ certs.tail.head? = some true) := by
  unfold addEeChainByBuffer
  by_cases hlen : len > int32Max
  · rw [if_pos hlen]
    exact iff_of_true h.balanced fun hc => Nat.not_le.mpr hlen hc.1
  rw [if_neg hlen]
  cases bioOk with
  | false => exact iff_of_true h.balanced fun hc => absurd hc.2.1 (by decide)
  | true =>
    have hee := loadEeCert_owned h old certs
    rw [if_neg (by decide)]
    dsimp only
    by_cases hfirst : certs.head? = some true
    · rw [if_pos ((loadEeCert_success_iff old l certs).mpr hfirst), loadEeCert_rest]
      by_cases hchain : certs.tail.head? = some true
      · -- the first chain certificate dangles
        refine iff_of_false ?_ (not_not.mpr ⟨Nat.not_lt.mp hlen, rfl, hfirst, hchain⟩)
        obtain ⟨rest, hrest⟩ := List.head?_eq_some_iff.mp hchain
        rw [hrest]
        exact (loadCaChain_dangling _ rest).not_balanced
      · exact iff_of_true (loadCaChain_owned hee hchain).balanced fun hc => hchain hc.2.2.2
    · rw [if_neg (mt (loadEeCert_success_iff old l certs).mp hfirst)]
      exact iff_of_true hee.balanced fun hc => hfirst hc.2.2.1

/-- A certificate is replaced by one whose chain is refused: the call fails, the old certificate is
freed, and the configuration has the new one. -/
theorem addEeChainByBuffer_balanced_replaced :
    let first := addEeChainByBuffer 1000 true [true] none .empty
    let second := addEeChainByBuffer 2000 true [true, false, true] (some 0) first.2
    first.1 = .success ∧ second.1 = .sslLoadCaCertChain ∧ second.2.referenced = [1] ∧
      second.2.refs 0 = 0 ∧ second.2.refs 1 = 1 ∧ second.2.Balanced := by
  intro first second
  have howned : first.2.Owned [] := loadEeCert_owned CertLedger.owned_empty none [true]
  have hbalanced : second.2.Balanced :=
    (addEeChainByBuffer_balanced_iff howned 2000 true [true, false, true] (some 0)).mpr (by decide)
  exact ⟨rfl, rfl, rfl, rfl, rfl, hbalanced⟩

/-- A buffer with an end-entity certificate and one chain certificate: the call succeeds, and the
configuration refers to a chain certificate that has been freed. -/
theorem addEeChainByBuffer_frees_chain :
    let out := addEeChainByBuffer 2000 true [true, true] none .empty
    out.1 = .success ∧ 1 ∈ out.2.extraCerts ∧ out.2.refs 1 = 0 ∧ ¬ out.2.Balanced := by
  refine ⟨rfl, by decide, rfl, fun h => ?_⟩
  exact absurd ((h 1).1 (by decide)) (by decide)

end Scf
