import Mathlib.Data.List.TakeWhile
import ScfSecurity.SecureC
import ScfSecurity.Policy.FileContext

/-!
# The validity period of a certificate

`SCF_GetCertStartTime` and `SCF_GetCertEndTime` copy a time of a certificate into a fresh buffer of
24 bytes, put a terminator into its last byte, and hand on what `strlen` finds there. Between the
time and the terminator the buffer has what the heap had.

## Main definitions

- `scfGetCertStartTime`, `scfGetCertEndTime`
- `WritesTime`: a call succeeds and writes exactly the time and a NUL

## Main results

- `datetime_eq`: what `strlen` finds in the fresh buffer
- `writesTime_iff`: when the time is written
-/

namespace Scf

/-- `MAX_DATETIME_LEN`. -/
def maxDatetimeLen : ℕ := 24

/-- The times of a certificate, as the bytes of the `ASN1_TIME`. -/
structure CertValidity where
  notBefore : Option (List UInt8)
  notAfter : Option (List UInt8)

/-- The common body of `GetCertStartTime` and `GetCertEndTime`. The heap is what the buffer has when
it is allocated, if there is memory for it. -/
def getCertTime (time : Option (List UInt8)) (heap : Option (ℕ → UInt8)) : Option (ℕ → UInt8) :=
  match time, heap with
  | some timeString, some mem =>
    let (copied, mem) := memcpySInto mem (maxDatetimeLen - 1) timeString
    if !copied then none else some (Function.update mem (maxDatetimeLen - 1) 0)
  | _, _ => none

/-- `OpenSSLAdaptor::GetCertStartTime`. -/
def getCertStartTime (cert : CertValidity) (heap : Option (ℕ → UInt8)) : Option (ℕ → UInt8) :=
  getCertTime cert.notBefore heap

/-- `OpenSSLAdaptor::GetCertEndTime`. -/
def getCertEndTime (cert : CertValidity) (heap : Option (ℕ → UInt8)) : Option (ℕ → UInt8) :=
  getCertTime cert.notAfter heap

/-- The string in a buffer of 24 bytes. -/
def datetimeStr (mem : ℕ → UInt8) : StdString := cStr (Buffer.read mem maxDatetimeLen)

/-- The common body of `SCF_GetCertStartTime` and `SCF_GetCertEndTime`: the code and the memory at
the output buffer. -/
def scfGetCertTime (getTime : CertValidity → Option (ℕ → UInt8) → Option (ℕ → UInt8)) (g : Globals)
    (cert : Option CertValidity) (bufferPtr : Ptr) (bufferLen : ℕ) (heap : Option (ℕ → UInt8))
    (buffer : ℕ → UInt8) : Errno × (ℕ → UInt8) :=
  match cert, bufferPtr with
  | some cert, .valid =>
    if bufferLen = 0 then (.error, buffer)
    else if !g.scfInitialized then (.notInit, buffer)
    else if !g.adaptor then (.invalidParam, buffer)
    else
      match getTime cert heap with
      | none => (.error, buffer)
      | some mem =>
        let datetime := datetimeStr mem
        if datetime.length ≥ bufferLen then (.error, buffer)
        else
          let (copied, buffer) := memcpySInto buffer bufferLen datetime
          if !copied then (.error, buffer)
          else (.success, Function.update buffer datetime.length 0)
  | _, _ => (.nullInput, buffer)

def scfGetCertStartTime := scfGetCertTime getCertStartTime

def scfGetCertEndTime := scfGetCertTime getCertEndTime

/-- The call succeeds and writes the time and a NUL, and nothing else. -/
def WritesTime (out : Errno × (ℕ → UInt8)) (buffer : ℕ → UInt8) (time : List UInt8) : Prop :=
  out = (.success, Buffer.storeString buffer time)

/-! ### The fresh buffer -/

theorem zero_notMem_cStr (s : StdString) : 0 ∉ cStr s := by
  intro hmem
  simpa using List.mem_takeWhile_imp hmem

/-- The string in a buffer that begins with `s` is `s` exactly if a NUL follows. -/
theorem cStr_read_eq_iff {mem : ℕ → UInt8} {s : StdString} {n : ℕ} (hlen : s.length < n)
    (hnul : 0 ∉ s) (hcell : ∀ i (hi : i < s.length), mem i = s[i]) :
    cStr (Buffer.read mem n) = s ↔ mem s.length = 0 := by
  obtain ⟨k, rfl⟩ : ∃ k, n = s.length + (k + 1) := ⟨n - s.length - 1, by omega⟩
  have hall : ∀ x ∈ s, decide (x ≠ 0) = true := fun x hx =>
    decide_eq_true fun hzero => hnul (hzero ▸ hx)
  rw [Buffer.read_add, Buffer.read_eq hcell, List.range_succ_eq_map, List.map_cons, Nat.add_zero,
    cStr, List.takeWhile_append_of_pos hall]
  by_cases hzero : mem s.length = 0
  · simp [hzero]
  · simp [hzero]

/-- The buffer after the copy of a time that fits. -/
theorem getCertTime_some {timeString : List UInt8} (hlen : timeString.length < maxDatetimeLen)
    (heap : ℕ → UInt8) :
    getCertTime (some timeString) (some heap) =
      some (Function.update (Buffer.store heap timeString) (maxDatetimeLen - 1) 0) := by
  have hcopy : memcpySInto heap (maxDatetimeLen - 1) timeString =
      (true, Buffer.store heap timeString) :=
    memcpySInto_of_le heap (by decide) (by decide) (by omega)
  simp [getCertTime, hcopy]

/-- In the fresh buffer there is the time exactly if it fills the buffer or the heap has a zero behind
it. -/
theorem datetimeStr_eq_iff {timeString : List UInt8} (hlen : timeString.length < maxDatetimeLen)
    (hnul : 0 ∉ timeString) (heap : ℕ → UInt8) :
    datetimeStr (Function.update (Buffer.store heap timeString) (maxDatetimeLen - 1) 0) =
        timeString ↔
      timeString.length = maxDatetimeLen - 1 ∨ heap timeString.length = 0 := by
  have hcell : ∀ i (hi : i < timeString.length),
      Function.update (Buffer.store heap timeString) (maxDatetimeLen - 1) 0 i = timeString[i] := by
    intro i hi
    rw [Function.update_of_ne (by omega), Buffer.store_of_lt heap hi]
  rw [datetimeStr, cStr_read_eq_iff hlen hnul hcell]
  by_cases hfull : timeString.length = maxDatetimeLen - 1
  · rw [hfull, Function.update_self]
    simp
  · rw [Function.update_of_ne hfull, Buffer.store_of_le heap le_rfl]
    simp [hfull]

/-! ### The output -/

section Output

variable {getTime : CertValidity → Option (ℕ → UInt8) → Option (ℕ → UInt8)} {g : Globals}
  {cert : CertValidity} {bufferLen : ℕ} {heap buffer : ℕ → UInt8}

/-- Two strings leave the same memory behind only if they are the same. -/
theorem storeString_inj {s t : StdString} (hs : 0 ∉ s) (ht : 0 ∉ t)
    (h : Buffer.storeString buffer s = Buffer.storeString buffer t) : s = t := by
  have hs' := Buffer.holdsString_storeString buffer s
  rw [h] at hs'
  exact hs'.unique (Buffer.holdsString_storeString buffer t) hs ht

/-- The call on a fresh buffer that holds some string. -/
theorem scfGetCertTime_writes_iff {mem : ℕ → UInt8} {time : List UInt8}
    (hinit : g.scfInitialized = true) (hget : getTime cert (some heap) = some mem)
    (hnul : 0 ∉ time) (hlen : time.length < bufferLen) :
    WritesTime (scfGetCertTime getTime g (some cert) .valid bufferLen (some heap) buffer) buffer
        time ↔
      datetimeStr mem = time ∧ bufferLen ≤ securecMemMaxLen := by
  have hpos : bufferLen ≠ 0 := by omega
  simp only [WritesTime, scfGetCertTime, hpos, hinit, g.adaptor_of_init hinit, hget, if_false,
    Bool.not_true, Bool.false_eq_true]
  by_cases hshort : (datetimeStr mem).length ≥ bufferLen
  · rw [if_pos hshort]
    refine iff_of_false (fun h => by cases (Prod.mk.inj h).1) fun h => ?_
    rw [h.1] at hshort
    omega
  rw [if_neg hshort]
  by_cases hmax : bufferLen ≤ securecMemMaxLen
  · rw [memcpySInto_of_le buffer hpos hmax (by omega)]
    constructor
    · intro h
      refine ⟨storeString_inj (zero_notMem_cStr _) hnul (Prod.mk.inj h).2, hmax⟩
    · rintro ⟨h, -⟩
      rw [h]
      rfl
  · have hcopy : memcpySInto buffer bufferLen (datetimeStr mem) = (false, buffer) := by
      rw [memcpySInto, if_pos (.inr (Nat.not_le.mp hmax))]
    rw [hcopy]
    exact iff_of_false (fun h => by cases (Prod.mk.inj h).1) fun h => hmax h.2

/-- A time of the certificate is written exactly if it fills the fresh buffer or the heap has a zero
behind it, and `memcpy_s` takes the output buffer. -/
theorem writesTime_iff {time : List UInt8} (hinit : g.scfInitialized = true)
    (hget : getTime cert (some heap) = getCertTime (some time) (some heap))
    (hfits : time.length < maxDatetimeLen) (hnul : 0 ∉ time) (hlen : time.length < bufferLen) :
    WritesTime (scfGetCertTime getTime g (some cert) .valid bufferLen (some heap) buffer) buffer
        time ↔
      (time.length = maxDatetimeLen - 1 ∨ heap time.length = 0) ∧ bufferLen ≤ securecMemMaxLen := by
  rw [getCertTime_some hfits] at hget
  rw [scfGetCertTime_writes_iff hinit hget hnul hlen, datetimeStr_eq_iff hfits hnul]

end Output

/-- With each of two heaps, the call writes the time of the certificate and a NUL. -/
def WritesWithBoth (getTime : Option (ℕ → UInt8) → (ℕ → UInt8) → Errno × (ℕ → UInt8))
    (time : List UInt8) (heap heap' buffer : ℕ → UInt8) : Prop :=
  WritesTime (getTime (some heap) buffer) buffer time ∧
    WritesTime (getTime (some heap') buffer) buffer time

/-- A time of 23 bytes leaves nothing of the heap in the fresh buffer; behind a shorter one both heaps
have a zero. The output buffer is one that `memcpy_s` takes. -/
def HeapHidden (time : List UInt8) (bufferLen : ℕ) (heap heap' : ℕ → UInt8) : Prop :=
  (time.length = maxDatetimeLen - 1 ∨ heap time.length = 0 ∧ heap' time.length = 0) ∧
    bufferLen ≤ securecMemMaxLen

/-- For every certificate with times of at most 23 bytes without a NUL, every output buffer that is
longer, and any two heaps: both functions write exactly the time and a NUL if and only if nothing of
the heaps shows between the time and the end of the fresh buffer. -/
theorem scfGetCertTimes_iff {g : Globals} (hinit : g.scfInitialized = true)
    {notBefore notAfter : List UInt8} (hfitsB : notBefore.length < maxDatetimeLen)
    (hnulB : 0 ∉ notBefore) (hfitsA : notAfter.length < maxDatetimeLen) (hnulA : 0 ∉ notAfter)
    {bufferLen : ℕ} (hlenB : notBefore.length < bufferLen) (hlenA : notAfter.length < bufferLen)
    (heap heap' buffer : ℕ → UInt8) :
    let cert : CertValidity := ⟨some notBefore, some notAfter⟩
    (WritesWithBoth (scfGetCertStartTime g (some cert) .valid bufferLen) notBefore heap heap'
        buffer ↔ HeapHidden notBefore bufferLen heap heap') ∧
      (WritesWithBoth (scfGetCertEndTime g (some cert) .valid bufferLen) notAfter heap heap'
        buffer ↔ HeapHidden notAfter bufferLen heap heap') := by
  have hcombine : ∀ {p q q' r : Prop}, ((p ∨ q) ∧ r) ∧ (p ∨ q') ∧ r ↔ (p ∨ q ∧ q') ∧ r := by
    intro p q q' r
    tauto
  intro cert
  constructor
  · rw [WritesWithBoth, HeapHidden, ← hcombine]
    exact and_congr (writesTime_iff hinit rfl hfitsB hnulB hlenB)
      (writesTime_iff hinit rfl hfitsB hnulB hlenB)
  · rw [WritesWithBoth, HeapHidden, ← hcombine]
    exact and_congr (writesTime_iff hinit rfl hfitsA hnulA hlenA)
      (writesTime_iff hinit rfl hfitsA hnulA hlenA)

/-- A time in its usual form. -/
def utcTime : List UInt8 := ascii "250101000000Z"

/-- With heaps full of zeros all is well. -/
theorem scfGetCertTimes_zero_heap :
    let cert : CertValidity := ⟨some utcTime, some utcTime⟩
    HeapHidden utcTime 64 (fun _ => 0) (fun i => if i = 13 then 0 else 7) ∧
      WritesWithBoth (scfGetCertStartTime .ready (some cert) .valid 64) utcTime (fun _ => 0)
        (fun i => if i = 13 then 0 else 7) (fun _ => 1) := by
  intro cert
  have hfits : utcTime.length < maxDatetimeLen := by decide
  have hnul : 0 ∉ utcTime := by decide
  have hhidden : HeapHidden utcTime 64 (fun _ => 0) (fun i => if i = 13 then 0 else 7) :=
    ⟨.inr ⟨rfl, by decide +kernel⟩, by decide⟩
  refine ⟨hhidden, (scfGetCertTimes_iff rfl hfits hnul hfits hnul (by decide) (by decide) _ _ _).1.mpr
    hhidden⟩

/-- With two other heaps the output has ten bytes of the one or of the other behind the time. -/
theorem scfGetCertTimes_disclose_heap :
    let cert : CertValidity := ⟨some utcTime, some utcTime⟩
    let run := fun (b : UInt8) =>
      scfGetCertStartTime .ready (some cert) .valid 64 (some fun _ => b) fun _ => 0
    (run 65).1 = .success ∧ Buffer.read (run 65).2 24 = utcTime ++ List.replicate 10 65 ++ [0] ∧
      (run 66).1 = .success ∧ Buffer.read (run 66).2 24 = utcTime ++ List.replicate 10 66 ++ [0] ∧
      ¬ WritesTime (run 65) (fun _ => 0) utcTime := by
  intro cert run
  have hread : Buffer.read (run 65).2 24 = utcTime ++ List.replicate 10 65 ++ [0] := by
    decide +kernel
  refine ⟨by decide +kernel, hread, by decide +kernel, by decide +kernel, fun hwrites => ?_⟩
  rw [hwrites] at hread
  exact absurd hread (by decide +kernel)

end Scf
