import ScfSecurity.SecureC
import ScfSecurity.Connection.Setup

/-!
# Decrypted secrets

The password of a private key and the master key of a PSK session may be given encrypted. Then a
callback of the application decrypts them into a vector of the function that was called, which
overwrites its vectors before it returns; but where the callback fails, both functions return at
once, and what the callback had written stays in the memory.

## Main definitions

- `Passwd`: a password in a file context
- `PwdCall.run`, `KeyCall.run`: `SCF_FileCtxSetPwd`, `SCF_SessionSetMasterKey`
- `PwdCall.Kept`, `KeyCall.Wiped`: what the functions should do
- `Abandoned`: the callback fails and leaves bytes behind

## Main results

- `pwdCall_kept_iff`, `keyCall_wiped_iff`: they do it exactly if the callback does not leave bytes
  behind when it fails
-/

namespace Scf

/-- `UINT32_MAX`. -/
def uint32Max : ℕ := 0xffffffff

/-- The external function that decrypts: whether it succeeds, and the bytes it has written to the
vector. -/
abbrev DecryptFunction := List UInt8 → Bool × List UInt8

/-- `CryptoUtil::Decrypt`. -/
def cryptoUtilDecrypt (decryptFunction : Option DecryptFunction) (content : List UInt8) :
    Bool × List UInt8 :=
  match decryptFunction with
  | none => (false, [])
  | some decryptFunction => decryptFunction content

/-- `std::fill` with zeros. -/
def zeroed (bytes : List UInt8) : List UInt8 := List.replicate bytes.length 0

theorem eq_zero_of_mem_zeroed {bytes : List UInt8} {b : UInt8} (h : b ∈ zeroed bytes) : b = 0 :=
  List.eq_of_mem_replicate h

/-- The callback fails and has written something other than zeros. -/
def Abandoned (decrypted : Bool × List UInt8) : Prop :=
  decrypted.1 = false ∧ ∃ b ∈ decrypted.2, b ≠ 0

instance (decrypted : Bool × List UInt8) : Decidable (Abandoned decrypted) :=
  inferInstanceAs (Decidable (_ ∧ _))

theorem not_abandoned_iff {bytes : List UInt8} :
    ¬ Abandoned (false, bytes) ↔ ∀ b ∈ bytes, b = 0 := by
  simp [Abandoned]

/-! ### The password of a file context -/

/-- A password in a file context: `memcpy_s` has copied it. -/
structure Passwd where
  bytes : List UInt8
  copied : memcpyS bytes.length bytes.length = true

/-- The memory of a password, with the terminator. -/
def Passwd.block (passwd : Passwd) : List UInt8 := passwd.bytes ++ [0]

/-- The memory after `memset_s` over the length of the password. -/
def Passwd.cleared (passwd : Passwd) : List UInt8 := zeroed passwd.bytes ++ [0]

/-- How a call of `SCF_FileCtxSetPwd` ends: its code, the password of the file context, the local
vector when it is destroyed, and the memory of the old password when it is freed. -/
structure SetPwdRun where
  ret : Errno
  passwd : Option Passwd
  plaintext : List UInt8
  freed : Option (List UInt8)

/-- The arguments of a call. A null pointer for the password is `none`; `allocOk` is the success of
the allocation. -/
structure PwdCall where
  g : Globals
  decryptFunction : Option DecryptFunction
  ctxPtr : Ptr
  passwd : Option (List UInt8)
  isCipher : Bool
  allocOk : Bool

/-- The second part of `SCF_FileCtxSetPwd`, with the plaintext in its vector. -/
def storePasswd (plaintext : List UInt8) (allocOk : Bool) (old : Option Passwd) : SetPwdRun :=
  if plaintext.length ≥ uint32Max then ⟨.memAlloc, old, zeroed plaintext, none⟩
  else if !allocOk then ⟨.memAlloc, old, zeroed plaintext, none⟩
  else if h : memcpyS plaintext.length plaintext.length = true then
    ⟨.success, some ⟨plaintext, h⟩, zeroed plaintext, old.map Passwd.cleared⟩
  else ⟨.memAlloc, old, zeroed plaintext, none⟩

/-- `SCF_FileCtxSetPwd`. -/
def PwdCall.run (call : PwdCall) (old : Option Passwd) : SetPwdRun :=
  if !call.g.scfInitialized then ⟨.notInit, old, [], none⟩
  else if call.ctxPtr = .null then ⟨.nullInput, old, [], none⟩
  else
    match call.passwd with
    | none => ⟨.success, old, [], none⟩
    | some passwd =>
      -- there may be no password
      if passwd.length = 0 then ⟨.success, old, [], none⟩
      else if call.isCipher then
        let decrypted := cryptoUtilDecrypt call.decryptFunction passwd
        -- the plaintext stays as the callback left it
        if !decrypted.1 then ⟨.error, old, decrypted.2, none⟩
        else storePasswd decrypted.2 call.allocOk old
      else storePasswd passwd call.allocOk old

/-- The call gets to its password. -/
structure PwdCall.Given (call : PwdCall) (passwd : List UInt8) : Prop where
  init : call.g.scfInitialized = true
  ctxPtr : call.ctxPtr ≠ .null
  given : call.passwd = some passwd
  nonempty : passwd ≠ []

/-- The plaintext of a password that was given, encrypted or not. -/
def PwdCall.plaintext (call : PwdCall) (passwd : List UInt8) : List UInt8 :=
  if call.isCipher then (cryptoUtilDecrypt call.decryptFunction passwd).2 else passwd

/-- The call leaves no plaintext in its vector, keeps the old password if it fails, and otherwise
replaces it by exactly the plaintext and a NUL, after it has zeroed the old one. -/
structure PwdCall.Kept (call : PwdCall) (old : Option Passwd) : Prop where
  wiped : ∀ b ∈ (call.run old).plaintext, b = 0
  kept : (call.run old).ret ≠ .success → (call.run old).passwd = old
  replaced : (call.run old).ret = .success → ∀ passwd, call.Given passwd →
    (call.run old).passwd.map Passwd.block = some (call.plaintext passwd ++ [0]) ∧
    ((call.run old).freed.isSome ↔ old.isSome) ∧ ∀ block ∈ (call.run old).freed, ∀ b ∈ block, b = 0

/-- The call decrypts its password, and the callback fails and leaves bytes behind. -/
def PwdCall.Leaks (call : PwdCall) : Prop :=
  call.isCipher = true ∧ ∃ passwd, call.Given passwd ∧
    Abandoned (cryptoUtilDecrypt call.decryptFunction passwd)

theorem PwdCall.run_of_given {call : PwdCall} {passwd : List UInt8} (h : call.Given passwd)
    (old : Option Passwd) :
    call.run old =
      if call.isCipher then
        if !(cryptoUtilDecrypt call.decryptFunction passwd).1 then
          ⟨.error, old, (cryptoUtilDecrypt call.decryptFunction passwd).2, none⟩
        else storePasswd (cryptoUtilDecrypt call.decryptFunction passwd).2 call.allocOk old
      else storePasswd passwd call.allocOk old := by
  simp [PwdCall.run, h.init, h.ctxPtr, h.given, h.nonempty]

/-- Without a password nothing happens. -/
theorem PwdCall.run_of_not_given {call : PwdCall} (h : ∀ passwd, ¬ call.Given passwd)
    (old : Option Passwd) : ∃ ret, call.run old = ⟨ret, old, [], none⟩ := by
  unfold PwdCall.run
  cases hinit : call.g.scfInitialized with
  | false => exact ⟨_, rfl⟩
  | true =>
  by_cases hptr : call.ctxPtr = .null
  · exact ⟨_, by rw [if_pos hptr]; rfl⟩
  rw [if_neg hptr]
  cases hpasswd : call.passwd with
  | none => exact ⟨_, rfl⟩
  | some passwd =>
    have hempty : passwd = [] := by
      by_contra hne
      exact h passwd ⟨hinit, hptr, hpasswd, hne⟩
    exact ⟨.success, by simp [hempty]⟩

theorem PwdCall.Given.unique {call : PwdCall} {passwd passwd' : List UInt8}
    (h : call.Given passwd) (h' : call.Given passwd') : passwd = passwd' :=
  Option.some.inj (h.given.symm.trans h'.given)

/-- What the second part does with a plaintext. -/
theorem storePasswd_spec (plaintext : List UInt8) (allocOk : Bool) (old : Option Passwd) :
    (storePasswd plaintext allocOk old).plaintext = zeroed plaintext ∧
      ((storePasswd plaintext allocOk old).ret ≠ .success ∧
          (storePasswd plaintext allocOk old).passwd = old ∨
        (storePasswd plaintext allocOk old).ret = .success ∧
          (storePasswd plaintext allocOk old).passwd.map Passwd.block = some (plaintext ++ [0]) ∧
          (storePasswd plaintext allocOk old).freed = old.map Passwd.cleared) := by
  have hret : Errno.memAlloc ≠ .success := by decide
  unfold storePasswd
  split_ifs
  · exact ⟨rfl, .inl ⟨hret, rfl⟩⟩
  · exact ⟨rfl, .inl ⟨hret, rfl⟩⟩
  · exact ⟨rfl, .inr ⟨rfl, rfl, rfl⟩⟩
  · exact ⟨rfl, .inl ⟨hret, rfl⟩⟩

theorem Passwd.eq_zero_of_mem_cleared {passwd : Passwd} {b : UInt8} (h : b ∈ passwd.cleared) :
    b = 0 := by
  rcases List.mem_append.mp h with h | h
  · exact eq_zero_of_mem_zeroed h
  · exact List.mem_singleton.mp h

/-- A call that ends in the second part does what it should. -/
theorem PwdCall.kept_of_storePasswd {call : PwdCall} {passwd : List UInt8}
    (hgiven : call.Given passwd) {old : Option Passwd}
    (h : call.run old = storePasswd (call.plaintext passwd) call.allocOk old) : call.Kept old := by
  obtain ⟨hplaintext, hend⟩ := storePasswd_spec (call.plaintext passwd) call.allocOk old
  constructor
  · intro b hb
    rw [h, hplaintext] at hb
    exact eq_zero_of_mem_zeroed hb
  · intro hret
    rw [h] at hret ⊢
    rcases hend with ⟨-, hold⟩ | ⟨hsuccess, -⟩
    · exact hold
    · exact absurd hsuccess hret
  · intro hret passwd' hgiven'
    obtain rfl := hgiven.unique hgiven'
    rw [h] at hret ⊢
    rcases hend with ⟨hfail, -⟩ | ⟨-, hblock, hfreed⟩
    · exact absurd hret hfail
    · refine ⟨hblock, by rw [hfreed, Option.isSome_map], fun block hblock b hb => ?_⟩
      rw [hfreed] at hblock
      obtain ⟨passwd', -, rfl⟩ := Option.map_eq_some_iff.mp hblock
      exact Passwd.eq_zero_of_mem_cleared hb

/-- After a callback that failed, the vector is as it was left. -/
theorem PwdCall.kept_iff_of_failed {call : PwdCall} {old : Option Passwd}
    {decrypted : Bool × List UInt8} (hfailed : decrypted.1 = false)
    (hrun : call.run old = ⟨.error, old, decrypted.2, none⟩) :
    call.Kept old ↔ ¬ Abandoned decrypted := by
  constructor
  · rintro hkept ⟨-, b, hb, hne⟩
    have hmem : b ∈ (call.run old).plaintext := by rwa [hrun]
    exact hne (hkept.wiped b hmem)
  · intro hnot
    constructor
    · intro b hb
      rw [hrun] at hb
      by_contra hne
      exact hnot ⟨hfailed, b, hb, hne⟩
    · intro _
      rw [hrun]
    · intro hret
      rw [hrun] at hret
      cases hret

/-- The call does what it should exactly if the callback does not fail with bytes left behind. -/
theorem pwdCall_kept_iff (call : PwdCall) (old : Option Passwd) :
    call.Kept old ↔ ¬ call.Leaks := by
  by_cases hnone : ∀ passwd, ¬ call.Given passwd
  · obtain ⟨ret, hrun⟩ := PwdCall.run_of_not_given hnone old
    refine iff_of_true ⟨?_, ?_, fun _ passwd hgiven => absurd hgiven (hnone passwd)⟩ ?_
    · rw [hrun]
      exact fun b hb => absurd hb List.not_mem_nil
    · rw [hrun]
      exact fun _ => rfl
    · rintro ⟨-, passwd, hgiven, -⟩
      exact hnone passwd hgiven
  · obtain ⟨passwd, hgiven⟩ := not_forall_not.mp hnone
    have hrun := PwdCall.run_of_given hgiven old
    cases hcipher : call.isCipher with
    | false =>
      rw [hcipher] at hrun
      refine iff_of_true (PwdCall.kept_of_storePasswd hgiven ?_) fun hleaks => ?_
      · rw [hrun, PwdCall.plaintext, hcipher]
        rfl
      · exact absurd (hcipher.symm.trans hleaks.1) (by decide)
    | true =>
    have hleaks : call.Leaks ↔ Abandoned (cryptoUtilDecrypt call.decryptFunction passwd) := by
      constructor
      · rintro ⟨-, passwd', hgiven', habandoned⟩
        obtain rfl := hgiven.unique hgiven'
        exact habandoned
      · exact fun habandoned => ⟨hcipher, passwd, hgiven, habandoned⟩
    have hplaintext : call.plaintext passwd = (cryptoUtilDecrypt call.decryptFunction passwd).2 := by
      rw [PwdCall.plaintext, hcipher]
      rfl
    rw [hleaks]
    rw [hcipher, if_pos rfl] at hrun
    cases hdecrypt : (cryptoUtilDecrypt call.decryptFunction passwd).1 with
    | true =>
      rw [hdecrypt] at hrun
      refine iff_of_true (PwdCall.kept_of_storePasswd hgiven ?_) fun habandoned => ?_
      · rw [hrun, hplaintext]
        rfl
      · exact absurd (hdecrypt.symm.trans habandoned.1) (by decide)
    | false =>
      rw [hdecrypt] at hrun
      exact PwdCall.kept_iff_of_failed hdecrypt hrun

/-! ### The master key of a session -/

/-- How a call of `SCF_SessionSetMasterKey` ends: its code, the session, and the local vectors when
they are destroyed. -/
structure SetKeyRun where
  ret : Errno
  sess : SslSession
  plaintext : List UInt8
  finalKey : List UInt8
deriving DecidableEq

/-- The arguments of a call; `setOk` is the answer of OpenSSL to the key. -/
structure KeyCall where
  g : Globals
  decryptFunction : Option DecryptFunction
  sessPtr : Ptr
  masterKey : Option (List UInt8)
  isCipher : Bool
  setOk : Bool

/-- The last part of `SCF_SessionSetMasterKey`, with the key in its vector. -/
def setFinalKey (finalKey plaintext : List UInt8) (setOk : Bool) (sess : SslSession) : SetKeyRun :=
  if !setOk then ⟨.sslSessSetKey, sess, plaintext, zeroed finalKey⟩
  else ⟨.success, { sess with masterKey := finalKey }, plaintext, zeroed finalKey⟩

/-- `SCF_SessionSetMasterKey`. -/
def KeyCall.run (call : KeyCall) (sess : SslSession) : SetKeyRun :=
  match call.sessPtr, call.masterKey with
  | .valid, some masterKey =>
    if masterKey.length = 0 then ⟨.invalidParam, sess, [], []⟩
    else if !call.g.scfInitialized then ⟨.notInit, sess, [], []⟩
    else if !call.g.adaptor then ⟨.invalidParam, sess, [], []⟩
    else if call.isCipher then
      let decrypted := cryptoUtilDecrypt call.decryptFunction masterKey
      -- the plaintext stays as the callback left it
      if !decrypted.1 then ⟨.error, sess, decrypted.2, []⟩
      else setFinalKey decrypted.2 (zeroed decrypted.2) call.setOk sess
    else setFinalKey masterKey [] call.setOk sess
  | _, _ => ⟨.invalidParam, sess, [], []⟩

/-- The call leaves nothing in its vectors. -/
def KeyCall.Wiped (call : KeyCall) (sess : SslSession) : Prop :=
  (∀ b ∈ (call.run sess).plaintext, b = 0) ∧ ∀ b ∈ (call.run sess).finalKey, b = 0

/-- The call gets to its key. -/
structure KeyCall.Given (call : KeyCall) (masterKey : List UInt8) : Prop where
  sessPtr : call.sessPtr = .valid
  given : call.masterKey = some masterKey
  nonempty : masterKey ≠ []
  init : call.g.scfInitialized = true
  adaptor : call.g.adaptor = true

/-- The call decrypts its key, and the callback fails and leaves bytes behind. -/
def KeyCall.Leaks (call : KeyCall) : Prop :=
  call.isCipher = true ∧ ∃ masterKey, call.Given masterKey ∧
    Abandoned (cryptoUtilDecrypt call.decryptFunction masterKey)

theorem setFinalKey_vectors (finalKey plaintext : List UInt8) (setOk : Bool) (sess : SslSession) :
    (setFinalKey finalKey plaintext setOk sess).plaintext = plaintext ∧
      (setFinalKey finalKey plaintext setOk sess).finalKey = zeroed finalKey := by
  unfold setFinalKey
  split_ifs <;> exact ⟨rfl, rfl⟩

theorem KeyCall.run_of_given {call : KeyCall} {masterKey : List UInt8} (h : call.Given masterKey)
    (sess : SslSession) :
    call.run sess =
      if call.isCipher then
        if !(cryptoUtilDecrypt call.decryptFunction masterKey).1 then
          ⟨.error, sess, (cryptoUtilDecrypt call.decryptFunction masterKey).2, []⟩
        else
          setFinalKey (cryptoUtilDecrypt call.decryptFunction masterKey).2
            (zeroed (cryptoUtilDecrypt call.decryptFunction masterKey).2) call.setOk sess
      else setFinalKey masterKey [] call.setOk sess := by
  simp [KeyCall.run, h.sessPtr, h.given, h.nonempty, h.init, h.adaptor]

theorem KeyCall.run_of_not_given {call : KeyCall} (h : ∀ masterKey, ¬ call.Given masterKey)
    (sess : SslSession) : ∃ ret, call.run sess = ⟨ret, sess, [], []⟩ := by
  unfold KeyCall.run
  cases hptr : call.sessPtr with
  | null => exact ⟨_, rfl⟩
  | valid =>
  cases hkey : call.masterKey with
  | none => exact ⟨_, rfl⟩
  | some masterKey =>
  by_cases hempty : masterKey = []
  · exact ⟨.invalidParam, by simp [hempty]⟩
  cases hinit : call.g.scfInitialized with
  | false => exact ⟨.notInit, by simp [hempty]⟩
  | true => exact absurd ⟨hptr, hkey, hempty, hinit, call.g.adaptor_of_init hinit⟩ (h masterKey)

/-- The call does what it should exactly if the callback does not fail with bytes left behind. -/
theorem keyCall_wiped_iff (call : KeyCall) (sess : SslSession) :
    call.Wiped sess ↔ ¬ call.Leaks := by
  by_cases hnone : ∀ masterKey, ¬ call.Given masterKey
  · obtain ⟨ret, hrun⟩ := KeyCall.run_of_not_given hnone sess
    refine iff_of_true ?_ ?_
    · rw [KeyCall.Wiped, hrun]
      exact ⟨fun b hb => absurd hb List.not_mem_nil, fun b hb => absurd hb List.not_mem_nil⟩
    · rintro ⟨-, masterKey, hgiven, -⟩
      exact hnone masterKey hgiven
  · obtain ⟨masterKey, hgiven⟩ := not_forall_not.mp hnone
    rw [KeyCall.Wiped, KeyCall.run_of_given hgiven sess]
    cases hcipher : call.isCipher with
    | false =>
      obtain ⟨hplaintext, hkey⟩ := setFinalKey_vectors masterKey [] call.setOk sess
      refine iff_of_true ?_ fun hleaks => absurd (hcipher.symm.trans hleaks.1) (by decide)
      simp only [Bool.false_eq_true, if_false, hplaintext, hkey]
      exact ⟨fun b hb => absurd hb List.not_mem_nil, fun b hb => eq_zero_of_mem_zeroed hb⟩
    | true =>
    have hleaks : call.Leaks ↔ Abandoned (cryptoUtilDecrypt call.decryptFunction masterKey) := by
      constructor
      · rintro ⟨-, masterKey', hgiven', habandoned⟩
        obtain rfl := Option.some.inj (hgiven.given.symm.trans hgiven'.given)
        exact habandoned
      · exact fun habandoned => ⟨hcipher, masterKey, hgiven, habandoned⟩
    rw [hleaks]
    obtain ⟨ok, bytes⟩ := cryptoUtilDecrypt call.decryptFunction masterKey
    cases ok with
    | true =>
      obtain ⟨hplaintext, hkey⟩ := setFinalKey_vectors bytes (zeroed bytes) call.setOk sess
      refine iff_of_true ?_ fun habandoned => Bool.false_ne_true habandoned.1.symm
      simp only [Bool.not_true, Bool.false_eq_true, if_false, if_true, hplaintext, hkey]
      exact ⟨fun b hb => eq_zero_of_mem_zeroed hb, fun b hb => eq_zero_of_mem_zeroed hb⟩
    | false =>
      rw [not_abandoned_iff]
      exact and_iff_left fun b hb => absurd hb List.not_mem_nil

/-- With a key that is not encrypted this is the function that PSK connections use. -/
theorem KeyCall.run_plain {call : KeyCall} {masterKey : List UInt8} (hptr : call.sessPtr = .valid)
    (hkey : call.masterKey = some masterKey) (hplain : call.isCipher = false)
    (sess : SslSession) :
    ((call.run sess).ret, (call.run sess).sess) =
      scfSessionSetMasterKey call.g masterKey call.setOk sess := by
  simp only [KeyCall.run, hptr, hkey, hplain, scfSessionSetMasterKey, setFinalKey]
  split_ifs
  all_goals first | rfl | contradiction

/-- For all arguments, ciphertexts and callbacks, and whatever fails later: the two functions leave no
plaintext behind, and the first one treats the passwords as it should, exactly if the callback does
not fail with bytes left behind. -/
theorem decrypted_secrets_wiped_iff (pwdCall : PwdCall) (old : Option Passwd) (keyCall : KeyCall)
    (sess : SslSession) :
    (pwdCall.Kept old ↔ ¬ pwdCall.Leaks) ∧ (keyCall.Wiped sess ↔ ¬ keyCall.Leaks) :=
  ⟨pwdCall_kept_iff pwdCall old, keyCall_wiped_iff keyCall sess⟩

/-- A callback that finds out too late that it cannot decrypt. -/
def lateFailure : DecryptFunction := fun content => (false, content)

/-- A part of the plaintext is in the vector when the callback fails, and stays there. -/
theorem decrypted_secrets_left :
    let pwdCall : PwdCall := ⟨.ready, some lateFailure, .valid, some [112, 119], true, true⟩
    let keyCall : KeyCall := ⟨.ready, some lateFailure, .valid, some [107, 101], true, true⟩
    (pwdCall.run none).ret = .error ∧ (pwdCall.run none).plaintext = [112, 119] ∧
      ¬ pwdCall.Kept none ∧
      (keyCall.run {}).ret = .error ∧ (keyCall.run {}).plaintext = [107, 101] ∧
      ¬ keyCall.Wiped {} := by
  refine ⟨rfl, rfl, fun hkept => ?_, rfl, rfl, fun hwiped => ?_⟩
  · exact absurd (hkept.wiped 112 (List.mem_cons_self ..)) (by decide)
  · exact absurd (hwiped.1 107 (List.mem_cons_self ..)) (by decide)

end Scf
