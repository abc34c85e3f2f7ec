import ScfSecurity.Connection.System
import Mathlib.Data.List.Infix

/-!
# Repeating a write

A write that fails may have sent its data: after OpenSSL has written it, `SCF_Write` goes on
to the key update and returns the code of that. And a large write may fail when only its first
records are made; these OpenSSL passes over when the write is repeated. The code tells which of
the two happened, so a caller that repeats a write must not do so after one of the `lateCodes`.

## Main definitions

- `SCFPolicyObj.taken`, `Process.taken`: the data that OpenSSL has taken
- `SCFPolicyObj.pending`, `Process.pending`: how much of it belongs to a write that has failed
- `retryWrite`: a caller that repeats a write with the same data

## Main results

- `scfWrite_report`: what the code of a write says about its data
- `write_retry_safe`: no data is taken twice if it is not repeated after such a code
-/

namespace Scf

open Automaton

/-- The application data in the records that OpenSSL has made for an object. -/
def SCFPolicyObj.taken (obj : SCFPolicyObj) : List UInt8 := (obj.sslCtx.map Ssl.taken).getD []

/-- The number of bytes of a failed write that are in these records. -/
def SCFPolicyObj.pending (obj : SCFPolicyObj) : ℕ := (obj.sslCtx.map Ssl.pending).getD 0

def Process.taken (obj : ℕ) (p : Process) : List UInt8 :=
  ((p.objs.read obj).map fun o => o.obj.taken).getD []

def Process.pending (obj : ℕ) (p : Process) : ℕ :=
  ((p.objs.read obj).map fun o => o.obj.pending).getD 0

/-- A key update makes no records of application data. -/
theorem keyUpdateFree_taken : KeyUpdateFree fun obj => (obj.taken, obj.pending) where
  setInfo _ _ := rfl
  keyUpdate obj ssl hssl := by
    rw [SCFPolicyObj.taken, SCFPolicyObj.taken, SCFPolicyObj.pending, SCFPolicyObj.pending,
      setSsl_sslCtx, hssl]
    rfl

theorem checkNeedKeyUpdate_report (env : KeyUpdateEnv) (ctx : SCFPolicyCtx)
    (processDataLen : UInt32) (obj : SCFPolicyObj) :
    (checkNeedKeyUpdate env ctx processDataLen obj).1 = .success ∨
      (checkNeedKeyUpdate env ctx processDataLen obj).1 = .systemTimeError := by
  unfold checkNeedKeyUpdate
  by_cases hversion : adaptorGetVersion obj ≠ some tls13VersionStr
  · rw [if_pos hversion]
    exact Or.inl rfl
  by_cases hreached : trafficReached ctx processDataLen obj.total = true
  · rw [if_neg hversion, if_pos hreached]
    exact Or.inl rfl
  rw [if_neg hversion, if_neg hreached]
  dsimp only
  split_ifs
  · exact Or.inl rfl
  · rcases checkTimeInterval_fst env ctx
      (obj.setTotal (obj.total + processDataLen.toUInt64)) with hok | herr
    · exact Or.inl hok
    · rw [herr]
      exact Or.inr rfl

theorem adaptorKeyUpdate_report (env : KeyUpdateEnv) (obj : SCFPolicyObj) :
    (adaptorKeyUpdate env obj).1 = .success ∨ (adaptorKeyUpdate env obj).1 ∈ lateCodes := by
  unfold adaptorKeyUpdate
  cases hssl : obj.sslCtx with
  | none => exact Or.inr (by simp [lateCodes])
  | some ssl =>
    dsimp only
    split_ifs
    · exact Or.inr (by simp [lateCodes])
    · exact Or.inr (by simp [lateCodes])
    · exact Or.inl rfl

/-- The key update after a write can fail only if the context asks for automatic updates, and
then it does so with a code of its own. -/
theorem afterWrite_report (env : KeyUpdateEnv) (ctx : SCFPolicyCtx) (writeLen : UInt32)
    (obj : SCFPolicyObj) :
    (afterWrite env ctx writeLen obj).1 = .success ∨
      (afterWrite env ctx writeLen obj).1 ∈ lateCodes ∧ ctx.isNeedKeyUpdate = true := by
  unfold afterWrite
  by_cases hneed : ctx.isNeedKeyUpdate = true
  case neg =>
    rw [if_neg hneed]
    exact Or.inl rfl
  rw [if_pos hneed]
  have hcode := checkNeedKeyUpdate_report env ctx writeLen obj
  generalize checkNeedKeyUpdate env ctx writeLen obj = check at hcode
  obtain ⟨ret, due, obj'⟩ := check
  dsimp only at hcode ⊢
  split_ifs
  · exact (adaptorKeyUpdate_report env obj').imp_right fun h => ⟨h, hneed⟩
  · refine hcode.imp_right fun h => ⟨?_, hneed⟩
    rw [h]
    simp [lateCodes]

/-- What the result of a write says about its data. -/
structure WriteReport (call : WriteCall) (ctx : SCFPolicyCtx) (obj : SCFPolicyObj)
    (ret : Errno) (writeLen : Option UInt32) (obj' : SCFPolicyObj) : Prop where
  -- an error from before the data was written: at most a further part is taken
  refused : ret ≠ .success → ret ∉ lateCodes → writeLen = none ∧
    ∃ n, (0 < n → ret ∈ unfinishedCodes) ∧ obj' = obj.takePart call.bytes n
  -- an error of the key update: the data is written, and no write is left to be repeated
  late : ret ∈ lateCodes → ctx.isNeedKeyUpdate = true ∧
    ∃ bytes, bytes <+: call.bytes ∧ obj'.taken = obj.taken ++ bytes.drop obj.pending ∧
      obj'.pending = 0 ∧ writeLen = some bytes.length.toUInt32
  -- in any case no data is taken but that of the call, behind the part that is taken already
  taken : ∃ bytes, bytes <+: call.bytes.drop obj.pending ∧ obj'.taken = obj.taken ++ bytes

/-- The bytes that OpenSSL writes are the first ones of the data, on an object that has a
connection. -/
theorem WriteCall.accepted_prefix {call : WriteCall} {obj : SCFPolicyObj} {bytes : List UInt8}
    (h : call.accepted obj = some bytes) : obj.sslCtx ≠ none ∧ bytes <+: call.bytes := by
  unfold WriteCall.accepted at h
  split_ifs at h with hargs
  split at h
  · cases h
  · obtain rfl := Option.some.inj h
    refine ⟨?_, List.take_prefix _ _⟩
    intro hnone
    exact hargs (by simp [hnone])

theorem taken_take {obj : SCFPolicyObj} (hssl : obj.sslCtx ≠ none) (bytes : List UInt8) :
    (obj.take bytes).taken = obj.taken ++ bytes.drop obj.pending ∧ (obj.take bytes).pending = 0 := by
  obtain ⟨ssl, hssl⟩ := Option.ne_none_iff_exists'.mp hssl
  rw [SCFPolicyObj.taken, SCFPolicyObj.taken, SCFPolicyObj.pending, SCFPolicyObj.pending,
    SCFPolicyObj.take, hssl]
  exact ⟨rfl, rfl⟩

/-- The part of a failed write that is taken is remembered as pending. -/
theorem taken_takePart (data : List UInt8) (n : ℕ) (obj : SCFPolicyObj) :
    ∃ part, part <+: data.drop obj.pending ∧ (obj.takePart data n).taken = obj.taken ++ part ∧
      (obj.takePart data n).pending = obj.pending + part.length := by
  cases hssl : obj.sslCtx with
  | none =>
    have hsame : obj.takePart data n = obj := by
      rw [SCFPolicyObj.takePart, hssl, Option.map_none, ← hssl]
    rw [hsame]
    exact ⟨[], List.nil_prefix, (List.append_nil _).symm, rfl⟩
  | some ssl =>
    rw [SCFPolicyObj.taken, SCFPolicyObj.taken, SCFPolicyObj.pending, SCFPolicyObj.pending,
      SCFPolicyObj.takePart, hssl]
    exact ⟨(data.drop ssl.pending).take n, List.take_prefix _ _, rfl, rfl⟩

theorem scfWrite_report (call : WriteCall) (ctx : SCFPolicyCtx) (obj : SCFPolicyObj) :
    WriteReport call ctx obj (scfWrite call ctx obj).1 (scfWrite call ctx obj).2.1
      (scfWrite call ctx obj).2.2 := by
  have hdisjoint : ∀ ret ∈ refusalCodes, ret ∉ lateCodes := by decide
  obtain ⟨-, ret, hmem, n, hcode, heq⟩ | ⟨bytes, haccepted, heq⟩ := scfWrite_cases call ctx obj
  · obtain ⟨part, hprefix, htaken, -⟩ := taken_takePart call.bytes n obj
    rw [heq]
    exact ⟨fun _ _ => ⟨rfl, n, hcode, rfl⟩, fun hlate => absurd hlate (hdisjoint ret hmem),
      part, hprefix, htaken⟩
  · obtain ⟨hssl, hprefix⟩ := WriteCall.accepted_prefix haccepted
    obtain ⟨htaken, hpending⟩ := taken_take hssl bytes
    have hsame := keyUpdateFree_taken.afterWrite call.env.toKeyUpdateEnv ctx
      bytes.length.toUInt32 (obj.take bytes)
    have hcode := afterWrite_report call.env.toKeyUpdateEnv ctx bytes.length.toUInt32
      (obj.take bytes)
    rw [Prod.mk.injEq, htaken, hpending] at hsame
    rw [heq]
    have hrest := List.IsPrefix.drop hprefix obj.pending
    refine ⟨fun hne hnot => ?_, fun hlate => ?_, bytes.drop obj.pending, hrest, hsame.1⟩
    · obtain hok | ⟨hlate, -⟩ := hcode
      · exact absurd hok hne
      · exact absurd hlate hnot
    · obtain hok | ⟨-, hneed⟩ := hcode
      · rw [hok] at hlate
        exact absurd hlate (by decide)
      · exact ⟨hneed, bytes, hprefix, hsame.1, hsame.2, rfl⟩

/-- A write on a connection reaches the object and writes there, or does nothing. -/
theorem connectionWrite_run (call : WriteCall) (conn : SCFConnectionImpl) (p : Process) :
    (∃ ret, ret ≠ .success ∧ ret ∉ lateCodes ∧
      (connectionWrite call conn).run p = ((ret, none), p)) ∨
    ∃ i o ctx, conn.policyObj = some i ∧ p.objs.read i = some o ∧
      p.ctxs.read o.policyCtx = some ctx ∧
      (connectionWrite call conn).run p =
        (((scfWrite { call with objPtr := .valid } ctx o.obj).1,
          (scfWrite { call with objPtr := .valid } ctx o.obj).2.1),
          { p with objs := p.objs.modify i fun o =>
            { o with obj := (scfWrite { call with objPtr := .valid } ctx o.obj).2.2 } }) := by
  unfold connectionWrite
  cases hobj : conn.policyObj with
  | none => exact Or.inl ⟨.invalidParam, by decide, by decide, rfl⟩
  | some i =>
    dsimp only
    split_ifs
    · exact Or.inl ⟨.invalidParam, by decide, by decide, rfl⟩
    rw [withObj, Resumption.run_critical]
    cases hread : p.objs.read i with
    | none => exact Or.inl ⟨.error, by decide, by decide, rfl⟩
    | some o =>
      dsimp only
      cases hctx : p.ctxs.read o.policyCtx with
      | none => exact Or.inl ⟨.error, by decide, by decide, rfl⟩
      | some ctx => exact Or.inr ⟨i, o, ctx, rfl, hread, hctx, rfl⟩

/-- What is taken on an object after a write has changed one of them. -/
theorem taken_modify (p : Process) (i j : ℕ) (f : SCFPolicyObj → SCFPolicyObj) {o : BoundObj}
    (hread : p.objs.read i = some o) :
    let p' : Process := { p with objs := p.objs.modify i fun o => { o with obj := f o.obj } }
    p'.taken j = (if i = j then (f o.obj).taken else p.taken j) ∧
      p'.pending j = if i = j then (f o.obj).pending else p.pending j := by
  intro p'
  rw [Process.taken, Process.pending, Heap.read_modify]
  by_cases hij : i = j
  · subst hij
    rw [if_pos rfl, if_pos rfl, if_pos rfl, hread]
    exact ⟨rfl, rfl⟩
  · rw [if_neg hij, if_neg hij, if_neg hij]
    exact ⟨rfl, rfl⟩

/-- On each object at most a further part of the data is taken, and remembered as pending. -/
def TakesPart (data : List UInt8) (p p' : Process) : Prop :=
  ∀ i, ∃ part, part <+: data.drop (p.pending i) ∧ p'.taken i = p.taken i ++ part ∧
    p'.pending i = p.pending i + part.length

theorem takesPart_refl (data : List UInt8) (p : Process) : TakesPart data p p := fun _ =>
  ⟨[], List.nil_prefix, (List.append_nil _).symm, rfl⟩

/-- What the result of a write on a connection says: after an error that does not come from
the key update at most a further part of the data is taken, and only with certain codes; in any
case nothing but data of the call, and behind the part that is taken already. -/
theorem connectionWrite_report (call : WriteCall) (conn : SCFConnectionImpl) (p : Process)
    {ret : Errno} {writeLen : Option UInt32} {p' : Process}
    (h : (connectionWrite call conn).run p = ((ret, writeLen), p')) :
    (ret ≠ .success → ret ∉ lateCodes → writeLen = none ∧ TakesPart call.bytes p p' ∧
      (ret ∉ unfinishedCodes → ∀ i, p'.taken i = p.taken i)) ∧
      ∀ i, ∃ bytes, bytes <+: call.bytes.drop (p.pending i) ∧
        p'.taken i = p.taken i ++ bytes := by
  obtain ⟨ret', -, -, heq⟩ | ⟨i, o, ctx, -, hread, -, heq⟩ := connectionWrite_run call conn p
  · rw [heq] at h
    cases h
    refine ⟨fun _ _ => ⟨rfl, takesPart_refl _ p, fun _ _ => rfl⟩, fun i => ?_⟩
    exact ⟨[], List.nil_prefix, (List.append_nil _).symm⟩
  · have hreport := scfWrite_report { call with objPtr := .valid } ctx o.obj
    rw [heq] at h
    cases h
    have hafter := fun j => taken_modify p i j
      (fun o => (scfWrite { call with objPtr := .valid } ctx o).2.2) hread
    have htaken : p.taken i = o.obj.taken := by rw [Process.taken, hread]; rfl
    have hpending : p.pending i = o.obj.pending := by rw [Process.pending, hread]; rfl
    refine ⟨fun hne hnot => ?_, fun j => ?_⟩
    · obtain ⟨hlen, n, hcode, hobj⟩ := hreport.refused hne hnot
      refine ⟨hlen, fun j => ?_, fun hret j => ?_⟩
      · obtain ⟨part, hprefix, hpart⟩ := taken_takePart call.bytes n o.obj
        rw [(hafter j).1, (hafter j).2]
        by_cases hij : i = j
        · subst hij
          rw [if_pos rfl, if_pos rfl, hobj, htaken, hpending]
          exact ⟨part, hprefix, hpart⟩
        · rw [if_neg hij, if_neg hij]
          exact takesPart_refl _ p j
      · rw [(hafter j).1]
        split_ifs with hij
        · subst hij
          have hzero : n = 0 := Nat.eq_zero_of_not_pos (mt hcode hret)
          rw [hobj, hzero, takePart_zero, htaken]
        · rfl
    · rw [(hafter j).1]
      by_cases hij : i = j
      · subst hij
        rw [if_pos rfl, htaken, hpending]
        exact hreport.taken
      · rw [if_neg hij]
        exact ⟨[], List.nil_prefix, (List.append_nil _).symm⟩

/-- A caller that writes the same data again and again, as long as `again` says so of the
code; each attempt meets another environment. -/
def retryWrite (again : Errno → Bool) (call : WriteCall) (conn : SCFConnectionImpl) :
    List (Globals × WriteEnv) → Process → Process
  | [], p => p
  | (g, env) :: attempts, p =>
    let ((ret, _), p) := (connectionWrite { call with g, env } conn).run p
    if again ret then retryWrite again call conn attempts p else p

/-- A further part of the data, and then one behind it, are together such a part. -/
theorem prefix_drop_append {data part bytes : List UInt8} {k : ℕ} (hpart : part <+: data.drop k)
    (hbytes : bytes <+: data.drop (k + part.length)) : part ++ bytes <+: data.drop k := by
  obtain ⟨rest, hrest⟩ := hpart
  rw [← List.drop_drop, ← hrest, List.drop_left] at hbytes
  rw [← hrest]
  exact (List.prefix_append_right_inj part).mpr hbytes

/-- The attempts take the data, or a first part of it, at most once; what an earlier attempt has
taken counts as a part. -/
theorem retryWrite_taken {again : Errno → Bool}
    (hagain : ∀ ret, again ret = true → ret ≠ .success ∧ ret ∉ lateCodes)
    (call : WriteCall) (conn : SCFConnectionImpl) (attempts : List (Globals × WriteEnv))
    (p : Process) (i : ℕ) :
    ∃ bytes, bytes <+: call.bytes.drop (p.pending i) ∧
      (retryWrite again call conn attempts p).taken i = p.taken i ++ bytes := by
  induction attempts generalizing p with
  | nil => exact ⟨[], List.nil_prefix, (List.append_nil _).symm⟩
  | cons attempt attempts ih =>
    obtain ⟨g, env⟩ := attempt
    rcases hrun : (connectionWrite { call with g, env } conn).run p with ⟨⟨ret, writeLen⟩, p'⟩
    obtain ⟨hrefused, htaken⟩ := connectionWrite_report _ conn p hrun
    rw [retryWrite, hrun]
    dsimp only
    split_ifs with hret
    · -- the next attempts go on behind the part that the failed one has taken
      obtain ⟨hne, hnot⟩ := hagain ret hret
      obtain ⟨part, hpart, hsum, hpending⟩ := (hrefused hne hnot).2.1 i
      obtain ⟨bytes, hbytes, heq⟩ := ih p'
      rw [hpending] at hbytes
      refine ⟨part ++ bytes, prefix_drop_append hpart hbytes, ?_⟩
      rw [heq, hsum, List.append_assoc]
    · exact htaken i

/-- Repeat a write that failed before its data was written. -/
def failedBefore (ret : Errno) : Bool := ret ≠ .success && ret ∉ lateCodes

/-- A write that fails with a code other than the `lateCodes` sets no length and has taken at most
a further part of its data, which is passed over when the write is repeated, and nothing unless
the code is one of the `unfinishedCodes`; both for an object and for a connection. With a late code
the first bytes of the data are written, `*writeLen` says how many, and the context asks for
automatic updates. So a caller that repeats a failed write unless it got such a code sends no data
twice. -/
theorem write_retry_safe :
    (∀ call ctx obj, WriteReport call ctx obj (scfWrite call ctx obj).1
      (scfWrite call ctx obj).2.1 (scfWrite call ctx obj).2.2) ∧
    (∀ call conn p ret writeLen p', (connectionWrite call conn).run p = ((ret, writeLen), p') →
      ret ≠ .success → ret ∉ lateCodes → writeLen = none ∧ TakesPart call.bytes p p' ∧
        (ret ∉ unfinishedCodes → ∀ i, p'.taken i = p.taken i)) ∧
    ∀ call conn attempts p i, ∃ bytes, bytes <+: (WriteCall.bytes call).drop (p.pending i) ∧
      (retryWrite failedBefore call conn attempts p).taken i = p.taken i ++ bytes := by
  refine ⟨scfWrite_report, ?_, ?_⟩
  · intro call conn p ret writeLen p' hrun
    exact (connectionWrite_report call conn p hrun).1
  · intro call conn attempts p i
    refine retryWrite_taken (fun ret hret => ?_) call conn attempts p i
    simpa [failedBefore] using hret

/-- A client that verifies no certificates and updates its keys automatically. -/
def plainClient : ConnCall := .create { certVerifyPolicy := .none } true

/-- Write three bytes 500 seconds after the start; OpenSSL refuses to change the key. -/
def writeLate (outcome : WriteOutcome) : WriteCall :=
  ⟨.ready, .valid, some [1, 2, 3], 3, .valid, ⟨⟨500, true, true, false⟩, outcome⟩⟩

/-- OpenSSL writes the three bytes. -/
def lateWrite : WriteCall := writeLate (.written 3)

/-- OpenSSL has to wait when two of the bytes are in a record. -/
def partWrite : WriteCall := writeLate (.failure sslErrorWantWrite 2)

/-- Both times the write reports an error, and both times it sends its data. A write that has to
wait has taken a part of it, which is passed over when the write is repeated. -/
theorem write_error_duplicates :
    ∃ s conn, connectionMachine.Reachable s ∧ s.conns.read 0 = some conn ∧
      s.process.taken 0 = [] ∧
      ((connectionWrite lateWrite conn).run s.process).1 = (.sslKeyUpdate, some 3) ∧
      ((connectionWrite lateWrite conn).run s.process).2.taken 0 = [1, 2, 3] ∧
      (retryWrite (fun ret => ret ≠ .success) lateWrite conn
        [(.ready, lateWrite.env), (.ready, lateWrite.env)] s.process).taken 0 =
        [1, 2, 3, 1, 2, 3] ∧
      ((connectionWrite partWrite conn).run s.process).1 = (.sslWantWrite, none) ∧
      ((connectionWrite partWrite conn).run s.process).2.taken 0 = [1, 2] ∧
      (retryWrite failedBefore partWrite conn
        [(.ready, partWrite.env), (.ready, lateWrite.env)] s.process).taken 0 = [1, 2, 3] := by
  have hinit : connectionMachine.Reachable {} := .initial rfl
  have hrun := (hinit.step (.ready, plainClient)).step (.ready, .connect 0 .plain)
  exact ⟨_, _, hrun, rfl, rfl, by decide, by decide, by decide, by decide, by decide, by decide⟩

end Scf
