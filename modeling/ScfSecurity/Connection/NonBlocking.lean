import ScfSecurity.Connection.System

/-!
# Connections that do not block

On a socket that does not block, each call into OpenSSL may report that it wants to read or
wants to write first, whatever the call itself was to do: in TLS 1.3 a read may have to write,
and a write may have to read. `HandleTransPortError` passes both reports on. `Read` passes on one
of them and `Write` the other, and what they do not pass on they report as a failure.

## Main definitions

- `scfRead`, `connectionRead`: reading
- `IoCall`, `ioMachine`: handshakes, reads and writes on one object
- `IoCall.Crossed`: a read that wants to write, or a write that wants to read

## Main results

- `ioCall_code_iff`: one call asks for a repetition or succeeds exactly if it is not crossed
- `ioRun_codes_iff`: and so do all calls of a run
-/

namespace Scf

open Automaton

/-- How `SSL_read_ex` ends: with some bytes, or it fails with the code that `SSL_get_error`
gives. -/
inductive ReadOutcome where
  | read (bytes : List UInt8)
  | failure (errorCode : Int32)
deriving DecidableEq

/-- `OpenSSLAdaptor::Read`: the result, and the bytes that are stored in the buffer; their
number is stored in `*readLen`. -/
def adaptorRead (dataLen : UInt32) (outcome : ReadOutcome) (obj : SCFPolicyObj) :
    Errno × Option (List UInt8) :=
  match obj.sslCtx with
  | none => (.nullInput, none)
  | some _ =>
    match outcome with
    | .failure errorCode =>
      if errorCode = sslErrorWantRead then (.sslWantRead, none) else (.sslRead, none)
    | .read bytes => (.success, some (bytes.take dataLen.toNat))

/-- The arguments of `SCF_Read`, with the state of the library and what the environment
answers. -/
structure ReadCall where
  g : Globals
  objPtr : Ptr
  dataPtr : Ptr
  dataLen : UInt32
  readLenPtr : Ptr
  outcome : ReadOutcome

/-- The first check of `SCF_Read`: a pointer is null or the length is zero. -/
def ReadCall.badArgs (call : ReadCall) : Bool :=
  call.objPtr = .null || call.dataPtr = .null || call.dataLen = 0 || call.readLenPtr = .null

/-- `SCF_Read`. -/
def scfRead (call : ReadCall) (obj : SCFPolicyObj) : Errno × Option (List UInt8) :=
  if call.badArgs then (.invalidParam, none)
  else if obj.role = .none then (.invalidParam, none)
  else if !call.g.scfInitialized then (.notInit, none)
  else if !call.g.adaptor then (.invalidParam, none)
  else adaptorRead call.dataLen call.outcome obj

/-- `SCFConnectionImpl::Read`. -/
def connectionRead (call : ReadCall) (conn : SCFConnectionImpl) :
    Resumption Process (Errno × Option (List UInt8)) :=
  match conn.policyObj with
  | none => .done (.invalidParam, none)
  | some obj =>
    if conn.state ≠ .connected then .done (.invalidParam, none)
    else withObj (.error, none) obj fun _ o => (scfRead { call with objPtr := .valid } o, o)

/-- The calls on an object that may have to be repeated. -/
inductive IoCall where
  | connect (g : Globals) (outcome : HandshakeOutcome)
  | accept (g : Globals) (outcome : HandshakeOutcome)
  | read (call : ReadCall)
  | write (call : WriteCall)

/-- A call on the object with this identifier. -/
def IoCall.apply (obj : ℕ) (s : Shared) : IoCall → Errno × Shared
  | connect g outcome => (scfConnect g obj outcome).run s
  | accept g outcome => (scfAccept g obj outcome).run s
  | read call =>
    match s.objs obj with
    | none => (.invalidParam, s)
    | some o => ((scfRead call o).1, s)
  | write call =>
    match s.objs obj with
    | none => (.invalidParam, s)
    | some o =>
      let (ret, _, o) := scfWrite call s.ctx o
      (ret, { s with objs := Function.update s.objs obj (some o) })

/-- The object has a role and a connection. -/
def Usable (obj : ℕ) (s : Shared) : Prop :=
  ∃ o, s.objs obj = some o ∧ o.role ≠ .none ∧ o.sslCtx ≠ none

def ioMachine (obj : ℕ) : Machine Shared IoCall Errno where
  initial := Usable obj
  step := IoCall.apply obj

/-- The error code only asks for a repetition. -/
def Transient (errorCode : Int32) : Prop :=
  errorCode = sslErrorWantRead ∨ errorCode = sslErrorWantWrite

/-- A handshake call for a role. -/
def RegularHandshake (role : SCFRole) (g : Globals) (outcome : HandshakeOutcome) (obj : ℕ)
    (s : Shared) : Prop :=
  g.scfInitialized = true ∧ (∀ o, s.objs obj = some o → o.role = role) ∧
    ∀ errorCode, outcome = .failure errorCode → Transient errorCode

/-- The arguments are valid, OpenSSL does what the call asks for or wants it repeated, and the
key update behind a write succeeds. -/
def IoCall.Regular (obj : ℕ) (s : Shared) : IoCall → Prop
  | connect g outcome => RegularHandshake .client g outcome obj s
  | accept g outcome => RegularHandshake .server g outcome obj s
  | read call =>
    call.g.scfInitialized = true ∧ call.badArgs = false ∧
      ∀ errorCode, call.outcome = .failure errorCode → Transient errorCode
  | write call =>
    call.g.scfInitialized = true ∧ call.badArgs = false ∧
      (∀ errorCode n, call.env.write = .failure errorCode n → Transient errorCode) ∧
      ∀ o bytes, s.objs obj = some o → call.accepted o = some bytes →
        (afterWrite call.env.toKeyUpdateEnv s.ctx bytes.length.toUInt32 (o.take bytes)).1 =
          .success

/-- A read that wants to write, or a write that wants to read. -/
def IoCall.Crossed : IoCall → Prop
  | connect _ _ | accept _ _ => False
  | read call => call.outcome = .failure sslErrorWantWrite
  | write call => ∃ n, call.env.write = .failure sslErrorWantRead n

/-- Success, or a repetition is asked for. -/
def retryCodes : List Errno := [.success, .sslWantRead, .sslWantWrite]

/-! ### One call -/

/-- Both reports are passed on. -/
theorem handleTransPortError_mem {errorCode : Int32} (h : Transient errorCode) :
    handleTransPortError errorCode ∈ retryCodes := by
  rcases h with rfl | rfl <;> decide

/-- The code of a handshake call is that of the section on the object. -/
theorem scfHandshake_run (g : Globals) (handshake : SCFPolicyObj → Errno × SCFPolicyObj)
    (obj : ℕ) (s : Shared) :
    ((scfHandshake g handshake obj).run s).1 = (handshakeSection g handshake obj s).1 ∧
      ((scfHandshake g handshake obj).run s).2.objs = (handshakeSection g handshake obj s).2.objs := by
  unfold scfHandshake
  rw [Resumption.run_monad_bind, Resumption.run_critical]
  by_cases hret : (handshakeSection g handshake obj s).1 = .success
  · rw [if_pos hret, hret]
    exact ⟨rfl, rfl⟩
  · rw [if_neg hret]
    exact ⟨rfl, rfl⟩

theorem adaptorHandshake_code {required : SCFRole} {outcome : HandshakeOutcome} {o : SCFPolicyObj}
    (hrole : o.role = required) (hssl : o.sslCtx ≠ none)
    (houtcome : ∀ errorCode, outcome = .failure errorCode → Transient errorCode) :
    (adaptorHandshake required outcome o).1 ∈ retryCodes := by
  obtain ⟨ssl, hssl⟩ := Option.ne_none_iff_exists'.mp hssl
  unfold adaptorHandshake
  simp only [hssl, hrole, ne_eq, not_true_eq_false, if_false]
  cases outcome with
  | success => exact List.mem_cons_self
  | failure errorCode => exact handleTransPortError_mem (houtcome errorCode rfl)

/-- A handshake keeps role and connection of an object. -/
theorem adaptorHandshake_keeps (required : SCFRole) (outcome : HandshakeOutcome)
    (o : SCFPolicyObj) :
    (adaptorHandshake required outcome o).2.role = o.role ∧
      ((adaptorHandshake required outcome o).2.sslCtx = none ↔ o.sslCtx = none) := by
  unfold adaptorHandshake
  cases hssl : o.sslCtx with
  | none => exact ⟨rfl, by simp [hssl]⟩
  | some ssl =>
    dsimp only
    split_ifs
    · exact ⟨rfl, by simp [hssl]⟩
    · cases outcome with
      | success => exact ⟨rfl, by simp⟩
      | failure errorCode => exact ⟨rfl, by simp⟩

/-- Both handshake calls: the code, and the object stays usable. -/
theorem scfHandshake_regular {required : SCFRole} {g : Globals} {outcome : HandshakeOutcome}
    {obj : ℕ} {s : Shared} (husable : Usable obj s)
    (h : RegularHandshake required g outcome obj s) :
    ((scfHandshake g (adaptorHandshake required outcome) obj).run s).1 ∈ retryCodes ∧
      Usable obj ((scfHandshake g (adaptorHandshake required outcome) obj).run s).2 := by
  obtain ⟨o, ho, hrole, hssl⟩ := husable
  obtain ⟨hinit, hrequired, houtcome⟩ := h
  have hadaptor := g.adaptor_of_init hinit
  have hsection : handshakeSection g (adaptorHandshake required outcome) obj s =
      ((adaptorHandshake required outcome o).1, { s with
        objs := Function.update s.objs obj (some (adaptorHandshake required outcome o).2) }) := by
    unfold handshakeSection
    simp only [ho, hrole, if_false, hinit, hadaptor, Bool.not_true, Bool.false_eq_true]
  obtain ⟨hcode, hobjs⟩ := scfHandshake_run g (adaptorHandshake required outcome) obj s
  obtain ⟨hrole', hssl'⟩ := adaptorHandshake_keeps required outcome o
  rw [hsection] at hcode hobjs
  refine ⟨?_, (adaptorHandshake required outcome o).2, ?_, ?_, mt hssl'.mp hssl⟩
  · rw [hcode]
    exact adaptorHandshake_code (hrequired o ho) hssl houtcome
  · rw [hobjs]
    exact Function.update_self ..
  · rwa [hrole']

theorem scfRead_code_iff {call : ReadCall} {o : SCFPolicyObj} (hrole : o.role ≠ .none)
    (hssl : o.sslCtx ≠ none) (hinit : call.g.scfInitialized = true) (hargs : call.badArgs = false)
    (houtcome : ∀ errorCode, call.outcome = .failure errorCode → Transient errorCode) :
    (scfRead call o).1 ∈ retryCodes ↔ call.outcome ≠ .failure sslErrorWantWrite := by
  have hadaptor := call.g.adaptor_of_init hinit
  obtain ⟨ssl, hssl⟩ := Option.ne_none_iff_exists'.mp hssl
  have hread : scfRead call o = adaptorRead call.dataLen call.outcome o := by
    simp [scfRead, hargs, hrole, hinit, hadaptor]
  cases hout : call.outcome with
  | read bytes =>
    rw [hread, hout]
    unfold adaptorRead
    rw [hssl]
    exact iff_of_true List.mem_cons_self (by simp)
  | failure errorCode =>
    have hcode : (scfRead call o).1 =
        if errorCode = sslErrorWantRead then .sslWantRead else .sslRead := by
      rw [hread, hout]
      unfold adaptorRead
      rw [hssl]
      dsimp only
      split_ifs <;> rfl
    rw [hcode]
    rcases houtcome errorCode hout with rfl | rfl
    · decide
    · decide

theorem scfWrite_code_iff {call : WriteCall} {ctx : SCFPolicyCtx} {o : SCFPolicyObj}
    (hrole : o.role ≠ .none) (hssl : o.sslCtx ≠ none) (hinit : call.g.scfInitialized = true)
    (hargs : call.badArgs = false)
    (houtcome : ∀ errorCode n, call.env.write = .failure errorCode n → Transient errorCode)
    (hupdate : ∀ bytes, call.accepted o = some bytes →
      (afterWrite call.env.toKeyUpdateEnv ctx bytes.length.toUInt32 (o.take bytes)).1 = .success) :
    (scfWrite call ctx o).1 ∈ retryCodes ↔ ¬ ∃ n, call.env.write = .failure sslErrorWantRead n := by
  have hadaptor := call.g.adaptor_of_init hinit
  cases hout : call.env.write with
  | written n =>
    rcases scfWrite_cases call ctx o with ⟨hnone, -⟩ | ⟨bytes, hsome, hwrite⟩
    · simp [WriteCall.accepted, hargs, hrole, hinit, hssl, hout] at hnone
    · rw [hwrite, hupdate bytes hsome]
      exact iff_of_true List.mem_cons_self (by simp)
  | failure errorCode n =>
    obtain ⟨ssl, hssl⟩ := Option.ne_none_iff_exists'.mp hssl
    have hwrite : (scfWrite call ctx o).1 =
        if errorCode = sslErrorWantWrite then .sslWantWrite else .sslWrite := by
      unfold scfWrite adaptorWrite
      simp only [hargs, hrole, hinit, hadaptor, hssl, hout, Bool.false_eq_true, Bool.not_true,
        if_false]
      split_ifs <;> rfl
    rw [hwrite]
    rcases houtcome errorCode n hout with rfl | rfl
    · exact iff_of_false (by decide) (not_not_intro ⟨n, rfl⟩)
    · refine iff_of_true (by decide) ?_
      rintro ⟨n', hn'⟩
      exact absurd (WriteOutcome.failure.inj hn').1 (by decide)

/-- A write keeps the role of an object, and whether it has a connection. -/
theorem scfWrite_keeps (call : WriteCall) (ctx : SCFPolicyCtx) (o : SCFPolicyObj) :
    (scfWrite call ctx o).2.2.role = o.role ∧
      ((scfWrite call ctx o).2.2.sslCtx = none ↔ o.sslCtx = none) := by
  have hrole : KeyUpdateFree SCFPolicyObj.role := ⟨fun _ _ => rfl, fun _ _ _ => rfl⟩
  have hssl : KeyUpdateFree fun o : SCFPolicyObj => o.sslCtx = none :=
    ⟨fun _ _ => rfl, fun o ssl hssl => by simp [hssl]⟩
  refine ⟨hrole.scfWrite (fun _ _ => rfl) (fun _ _ _ => rfl) call ctx o, Iff.of_eq ?_⟩
  exact hssl.scfWrite (fun _ _ => propext Option.map_eq_none_iff)
    (fun _ _ _ => propext Option.map_eq_none_iff) call ctx o

/-- **Step lemma**: a regular call leaves the object usable, and it succeeds or asks for a
repetition exactly if it is not crossed. -/
theorem ioCall_code_iff {obj : ℕ} {s : Shared} (husable : Usable obj s) {call : IoCall}
    (h : call.Regular obj s) :
    ((call.apply obj s).1 ∈ retryCodes ↔ ¬ call.Crossed) ∧ Usable obj (call.apply obj s).2 := by
  cases call with
  | connect g outcome =>
    have hregular := scfHandshake_regular husable h
    exact ⟨iff_of_true hregular.1 not_false, hregular.2⟩
  | accept g outcome =>
    have hregular := scfHandshake_regular husable h
    exact ⟨iff_of_true hregular.1 not_false, hregular.2⟩
  | read call =>
    obtain ⟨o, ho, hrole, hssl⟩ := husable
    obtain ⟨hinit, hargs, houtcome⟩ := h
    unfold IoCall.apply
    simp only [ho]
    exact ⟨scfRead_code_iff hrole hssl hinit hargs houtcome, o, ho, hrole, hssl⟩
  | write call =>
    obtain ⟨o, ho, hrole, hssl⟩ := husable
    obtain ⟨hinit, hargs, houtcome, hupdate⟩ := h
    obtain ⟨hrole', hssl'⟩ := scfWrite_keeps call s.ctx o
    unfold IoCall.apply
    simp only [ho]
    refine ⟨?_, (scfWrite call s.ctx o).2.2, Function.update_self .., ?_, mt hssl'.mp hssl⟩
    · exact scfWrite_code_iff hrole hssl hinit hargs houtcome fun bytes => hupdate o bytes ho
    · rwa [hrole']

/-! ### Runs -/

/-- In a run of regular calls on a usable object all calls succeed or ask for a repetition,
exactly if no read of the run wants to write and no write wants to read. -/
theorem ioRun_codes_iff {obj : ℕ} {s : Shared} (husable : Usable obj s) {calls : List IoCall}
    (hregular : (ioMachine obj).Admits (fun s call => call.Regular obj s) s calls) :
    (∀ ret ∈ (ioMachine obj).answers s calls, ret ∈ retryCodes) ↔
      ∀ call ∈ calls, ¬ call.Crossed := by
  induction calls generalizing s with
  | nil => exact iff_of_true (List.forall_mem_nil _) (List.forall_mem_nil _)
  | cons call calls ih =>
    obtain ⟨hcode, hnext⟩ := ioCall_code_iff husable hregular.1
    rw [Machine.answers, List.forall_mem_cons, List.forall_mem_cons]
    exact and_congr hcode (ih hnext hregular.2)

/-- A client configuration that verifies the peer. -/
def ioConfig : SslCtx where
  method := .tlsClient
  libCtx := none
  verifyMode := sslVerifyPeer

/-- A client with a connection. -/
def ioClient : Shared where
  ctx := { newPolicyCtx with role := .client }
  objs id := if id = 0 then
    some { newPolicyObj { newPolicyCtx with role := .client } 0 with
      sslCtx := some { ioConfig.newSsl tls13VersionStr with fd := some 3, initFinished := true } }
    else none

theorem usable_ioClient : Usable 0 ioClient := ⟨_, rfl, by decide, by decide⟩

/-- A read of up to eight bytes. -/
def readEight (outcome : ReadOutcome) : IoCall := .read ⟨.ready, .valid, .valid, 8, .valid, outcome⟩

theorem ioRun_codes_iff_repeated :
    ∃ calls, (∀ ret ∈ (ioMachine 0).answers ioClient calls, ret ∈ retryCodes) ∧
      calls.length = 3 := by
  refine ⟨[.connect .ready .success, readEight (.failure sslErrorWantRead),
    readEight (.read [1, 2])], ?_, rfl⟩
  refine (ioRun_codes_iff usable_ioClient ?_).mpr ?_
  · refine ⟨⟨rfl, ?_, nofun⟩, ⟨rfl, rfl, ?_⟩, ⟨rfl, rfl, nofun⟩, trivial⟩
    · intro o ho
      obtain rfl := Option.some.inj ho
      rfl
    · intro errorCode h
      exact .inl (ReadOutcome.failure.inj h).symm
  · simp [IoCall.Crossed, readEight, sslErrorWantRead, sslErrorWantWrite]

/-- A read has to write first, which it cannot at the moment: the read is reported as failed. -/
theorem read_wanting_write_fails :
    (readEight (.failure sslErrorWantWrite)).Regular 0 ioClient ∧
      ((ioMachine 0).step ioClient (readEight (.failure sslErrorWantWrite))).1 = .sslRead ∧
      Errno.sslRead ∉ retryCodes := by
  refine ⟨⟨rfl, rfl, fun errorCode h => .inr (ReadOutcome.failure.inj h).symm⟩, by decide, by decide⟩

end Scf
