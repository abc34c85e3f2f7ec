import ScfSecurity.Policy.Object
import ScfSecurity.Policy.ProtocolVersion

/-!
# The version check of a new connection

Before `SCF_SetFd` makes a connection it looks for a protocol version that is not forbidden. It
runs over all numbers from the lower to the upper bound and gives up at the first one it does not
know. A bound of zero, which means no bound to OpenSSL, is a number like any other to this loop;
only if both are zero the check passes, whatever is forbidden.

## Main definitions

- `SslCtx.Usable`: a supported version is within the bounds and not forbidden
- `ChecksVersion`: `SCF_SetFd` refuses a fresh object exactly if there is no such version
- `SslCtx.VersionCheckExact`: the condition on the configuration

## Main results

- `checkVersionLoop_range'`: what the loop finds
- `checksVersion_iff`: the check is right exactly under the condition
-/

namespace Scf

/-- The versions that `MapVersion2NoOpt` knows. -/
def supportedVersions : List UInt32 := [tls12Version, tls13Version]

/-- Some supported version is within the bounds and not forbidden. -/
def SslCtx.Usable (cfg : SslCtx) : Prop := ∃ version ∈ supportedVersions, cfg.Enables version

instance (cfg : SslCtx) : Decidable cfg.Usable :=
  inferInstanceAs (Decidable (∃ version ∈ supportedVersions, cfg.Enables version))

/-- A call of `SCF_SetFd` on an object. -/
structure FdCall where
  g : Globals
  objPtr : Ptr
  fd : Int32
  env : SslEnv
  obj : SCFPolicyObj

def FdCall.apply (call : FdCall) (ctx : SCFPolicyCtx) : Errno × SCFPolicyObj :=
  scfSetFd call.g call.objPtr call.fd call.env ctx call.obj

/-- The call passes the checks of its arguments, and the object has no connection yet. -/
structure FdCall.Fresh (call : FdCall) : Prop where
  init : call.g.scfInitialized = true
  adaptor : call.g.adaptor = true
  objPtr : call.objPtr ≠ .null
  role : call.obj.role ≠ .none
  fd : ¬ call.fd < 0
  sslCtx : call.obj.sslCtx = none

/-- Every fresh object passes the version check exactly if there is a version for its connection,
and without one the call fails with `SCF_SSL_ERR_POLICY_VERSION` and leaves the object as it was,
without a connection. -/
def ChecksVersion (ctx : SCFPolicyCtx) (cfg : SslCtx) : Prop :=
  ∀ call : FdCall, call.Fresh →
    ((call.apply ctx).1 ≠ .sslPolicyVersion ↔ cfg.Usable) ∧
      (¬ cfg.Usable → call.apply ctx = (.sslPolicyVersion, call.obj))

/-- Without any bound the two versions are not both forbidden. Otherwise the lower bound is not
below TLS 1.2 and there is an upper one, or else all supported versions within the bounds are
forbidden. -/
def SslCtx.VersionCheckExact (cfg : SslCtx) : Prop :=
  if cfg.minProtoVersion = 0 ∧ cfg.maxProtoVersion = 0 then
    ∃ version ∈ supportedVersions, Permits cfg.options version
  else
    tls12Version ≤ cfg.minProtoVersion ∧ cfg.maxProtoVersion ≠ 0 ∨
      ∀ version ∈ supportedVersions,
        InBounds cfg.minProtoVersion cfg.maxProtoVersion version → ¬ Permits cfg.options version

/-! ### The loop -/

theorem mapVersion2NoOpt_isSome (version : UInt32) :
    (mapVersion2NoOpt version).isSome ↔ version ∈ supportedVersions := by
  unfold mapVersion2NoOpt supportedVersions
  split_ifs with h12 h13
  · simp [h12]
  · simp [h13]
  · simp [h12, h13]

/-- The loop goes on behind a supported version that is forbidden. -/
theorem checkVersionLoop_cons (options : UInt64) (version : ℕ) (rest : List ℕ) :
    checkVersionLoop options (version :: rest) = true ↔
      version.toUInt32 ∈ supportedVersions ∧
        (Permits options version.toUInt32 ∨ checkVersionLoop options rest = true) := by
  rw [checkVersionLoop, ← mapVersion2NoOpt_isSome, Permits]
  cases mapVersion2NoOpt version.toUInt32 with
  | none => simp
  | some sslOp =>
    by_cases hop : sslOp &&& options = 0
    · simp [hop, UInt64.and_comm options sslOp]
    · simp [hop, UInt64.and_comm options sslOp]

theorem toUInt32_mem_supportedVersions {version : ℕ} (h : version < 2 ^ 32) :
    version.toUInt32 ∈ supportedVersions ↔ version = 0x303 ∨ version = 0x304 := by
  have htoNat : version.toUInt32.toNat = version := UInt32.toNat_ofNat_of_lt' h
  simp only [supportedVersions, List.mem_cons, List.not_mem_nil, or_false, ← UInt32.toNat_inj,
    htoNat]
  rfl

/-- The loop over a range of numbers finds a version that is not forbidden, if the range does not
begin below TLS 1.2. -/
theorem checkVersionLoop_range' (options : UInt64) (lo n : ℕ) (h : lo + n ≤ 2 ^ 32) :
    checkVersionLoop options (List.range' lo n) = true ↔
      0x303 ≤ lo ∧ ∃ version ∈ supportedVersions,
        lo ≤ version.toNat ∧ version.toNat < lo + n ∧ Permits options version := by
  induction n generalizing lo with
  | zero =>
    refine iff_of_false Bool.false_ne_true ?_
    rintro ⟨-, version, -, hle, hlt, -⟩
    omega
  | succ n ih =>
    have hlo : lo < 2 ^ 32 := by omega
    have htoNat : lo.toUInt32.toNat = lo := UInt32.toNat_ofNat_of_lt' hlo
    rw [List.range'_succ, checkVersionLoop_cons, ih (lo + 1) (by omega),
      toUInt32_mem_supportedVersions hlo]
    constructor
    · rintro ⟨hknown, hpermits | ⟨-, version, hmem, hle, hlt, hpermits⟩⟩
      · refine ⟨by omega, lo.toUInt32, (toUInt32_mem_supportedVersions hlo).mpr hknown, ?_, ?_,
          hpermits⟩ <;> omega
      · exact ⟨by omega, version, hmem, by omega, by omega, hpermits⟩
    · rintro ⟨hge, version, hmem, hle, hlt, hpermits⟩
      have hcases : version.toNat = 0x303 ∨ version.toNat = 0x304 := by
        rcases List.mem_cons.mp hmem with rfl | hmem
        · exact .inl rfl
        · rw [List.mem_singleton.mp hmem]
          exact .inr rfl
      refine ⟨by omega, ?_⟩
      by_cases heq : version.toNat = lo
      · have hversion : lo.toUInt32 = version := UInt32.toNat_inj.mp (htoNat.trans heq.symm)
        rw [hversion]
        exact .inl hpermits
      · exact .inr ⟨by omega, version, hmem, by omega, by omega, hpermits⟩

theorem checkVersion_iff {ctx : SCFPolicyCtx} {cfg : SslCtx} (hcfg : ctx.sslConfig = some cfg) :
    checkVersion ctx = true ↔
      cfg.minProtoVersion = 0 ∧ cfg.maxProtoVersion = 0 ∨
        tls12Version ≤ cfg.minProtoVersion ∧ ∃ version ∈ supportedVersions,
          cfg.minProtoVersion ≤ version ∧ version ≤ cfg.maxProtoVersion ∧
            Permits cfg.options version := by
  have hmax := cfg.maxProtoVersion.toNat_lt
  have hmin := cfg.minProtoVersion.toNat_lt
  unfold checkVersion
  simp only [hcfg, Bool.and_eq_true, decide_eq_true_eq]
  by_cases hzero : cfg.minProtoVersion = 0 ∧ cfg.maxProtoVersion = 0
  · rw [if_pos hzero]
    exact iff_of_true rfl (.inl hzero)
  · rw [if_neg hzero]
    simp only [hzero, false_or, UInt32.le_iff_toNat_le]
    by_cases hempty : cfg.maxProtoVersion.toNat < cfg.minProtoVersion.toNat
    · -- the bounds are the wrong way round, and the loop has nothing to do
      rw [show cfg.maxProtoVersion.toNat + 1 - cfg.minProtoVersion.toNat = 0 by omega]
      refine iff_of_false Bool.false_ne_true ?_
      rintro ⟨-, version, -, hle, hle', -⟩
      omega
    · rw [checkVersionLoop_range' _ _ _ (by omega)]
      refine and_congr Iff.rfl (exists_congr fun version => and_congr_right fun _ =>
        and_congr_right fun _ => and_congr_left fun _ => ?_)
      omega

/-! ### The call -/

theorem FdCall.Fresh.apply_eq {call : FdCall} (hfresh : call.Fresh) (ctx : SCFPolicyCtx) :
    call.apply ctx = adaptorSetFd call.fd call.env ctx call.obj := by
  unfold FdCall.apply scfSetFd
  simp [hfresh.init, hfresh.adaptor, hfresh.objPtr, hfresh.role, hfresh.fd]

/-- A fresh object that does not pass the check stays without a connection. -/
theorem FdCall.Fresh.refused {call : FdCall} (hfresh : call.Fresh) {ctx : SCFPolicyCtx}
    (h : checkVersion ctx = false) : call.apply ctx = (.sslPolicyVersion, call.obj) := by
  have hssl : sslForFd call.env ctx call.obj = .error .sslPolicyVersion := by
    rw [sslForFd, hfresh.sslCtx, h]
    rfl
  rw [hfresh.apply_eq, adaptorSetFd, hssl]

/-- Behind the check the call fails, if at all, with another code. -/
theorem FdCall.Fresh.passed {call : FdCall} (hfresh : call.Fresh) {ctx : SCFPolicyCtx}
    {cfg : SslCtx} (hcfg : ctx.sslConfig = some cfg) (h : checkVersion ctx = true) :
    (call.apply ctx).1 ≠ .sslPolicyVersion := by
  rw [hfresh.apply_eq, adaptorSetFd, sslForFd, hfresh.sslCtx, h, hcfg]
  dsimp only
  cases call.env.setExDataOk with
  | false => exact fun h => Errno.noConfusion h
  | true =>
    cases call.env.setFdOk with
    | false => exact fun h => Errno.noConfusion h
    | true => exact fun h => Errno.noConfusion h

/-- A call on a new object of a client. -/
def freshFdCall (ctx : SCFPolicyCtx) : FdCall :=
  ⟨.ready, .valid, 0, .plain, { newPolicyObj ctx 0 with role := .client }⟩

theorem freshFdCall_fresh (ctx : SCFPolicyCtx) : (freshFdCall ctx).Fresh where
  init := rfl
  adaptor := rfl
  objPtr := show Ptr.valid ≠ .null by decide
  role := show SCFRole.client ≠ .none by decide
  fd := show ¬ (0 : Int32) < 0 by decide
  sslCtx := rfl

theorem checksVersion_iff_checkVersion {ctx : SCFPolicyCtx} {cfg : SslCtx}
    (hcfg : ctx.sslConfig = some cfg) :
    ChecksVersion ctx cfg ↔ (checkVersion ctx = true ↔ cfg.Usable) := by
  constructor
  · intro hall
    have hfresh := freshFdCall_fresh ctx
    have hpass : ((freshFdCall ctx).apply ctx).1 ≠ .sslPolicyVersion ↔ checkVersion ctx = true := by
      refine ⟨fun hne => ?_, hfresh.passed hcfg⟩
      by_contra hcheck
      rw [hfresh.refused (Bool.not_eq_true _ ▸ hcheck)] at hne
      exact hne rfl
    exact hpass.symm.trans (hall _ hfresh).1
  · intro hiff call hfresh
    by_cases husable : cfg.Usable
    · exact ⟨iff_of_true (hfresh.passed hcfg (hiff.mpr husable)) husable, fun h => absurd husable h⟩
    · have hcheck : checkVersion ctx = false := by
        rw [← Bool.not_eq_true]
        exact fun h => husable (hiff.mp h)
      have happly := hfresh.refused hcheck
      refine ⟨iff_of_false ?_ husable, fun _ => happly⟩
      rw [happly]
      exact fun hne => hne rfl

/-! ### The condition -/

theorem SslCtx.usable_iff (cfg : SslCtx) :
    cfg.Usable ↔ ∃ version ∈ supportedVersions,
      InBounds cfg.minProtoVersion cfg.maxProtoVersion version ∧ Permits cfg.options version :=
  exists_congr fun version => and_congr_right fun _ => enables_iff cfg version

/-- The check is right exactly under the condition on the bounds and the options. -/
theorem checksVersion_iff {ctx : SCFPolicyCtx} {cfg : SslCtx} (hcfg : ctx.sslConfig = some cfg) :
    ChecksVersion ctx cfg ↔ cfg.VersionCheckExact := by
  rw [checksVersion_iff_checkVersion hcfg, checkVersion_iff hcfg, SslCtx.VersionCheckExact]
  by_cases hzero : cfg.minProtoVersion = 0 ∧ cfg.maxProtoVersion = 0
  · rw [if_pos hzero, SslCtx.usable_iff]
    simp [hzero, InBounds]
  rw [if_neg hzero]
  simp only [hzero, false_or]
  by_cases hbounded : tls12Version ≤ cfg.minProtoVersion ∧ cfg.maxProtoVersion ≠ 0
  · -- both bounds are real ones, and the loop looks at all supported versions between them
    refine iff_of_true ?_ (.inl hbounded)
    have hmin : cfg.minProtoVersion ≠ 0 := by
      intro hmin
      rw [hmin] at hbounded
      exact absurd hbounded.1 (by decide)
    rw [SslCtx.usable_iff]
    simp [InBounds, hmin, hbounded, and_assoc]
  · -- the loop stops at once, at a number that it does not know or behind the upper bound
    have hnone : ¬ (tls12Version ≤ cfg.minProtoVersion ∧ ∃ version ∈ supportedVersions,
        cfg.minProtoVersion ≤ version ∧ version ≤ cfg.maxProtoVersion ∧
          Permits cfg.options version) := by
      rintro ⟨hmin, version, hmem, hle, hle', -⟩
      refine hbounded ⟨hmin, fun hmax => ?_⟩
      have htrans := UInt32.le_trans (UInt32.le_trans hmin hle) hle'
      rw [hmax] at htrans
      exact absurd htrans (by decide)
    simp only [hnone, false_iff, hbounded, false_or, SslCtx.usable_iff, not_exists, not_and]

/-- Whatever `SCF_SetProtocolVersion` installs in a context: the version check of a fresh object is
right exactly under the condition on the bounds and on the versions that are forbidden now. -/
theorem scfSetFd_checksVersion_iff {call : VersionCall} {ctx ctx' : SCFPolicyCtx}
    (h : call.apply ctx = (.success, ctx')) :
    ∃ cfg cfg', ctx.sslConfig = some cfg ∧ ctx'.sslConfig = some cfg' ∧
      cfg'.minProtoVersion = call.minVersion ∧ cfg'.maxProtoVersion = call.maxVersion ∧
      (∀ version, Permits cfg'.options version ↔
        Permits cfg.options version ∧ version ∉ call.forbidVersion) ∧
      (ChecksVersion ctx' cfg' ↔ cfg'.VersionCheckExact) := by
  have hout := setVersion_outcome call ctx
  rw [h] at hout
  cases hout with
  | rejected hret => exact absurd rfl hret
  | refused hret => exact absurd rfl hret
  | @done cfg forbidOpt hreach _ hforbid =>
    refine ⟨cfg, _, hreach.config, rfl, rfl, rfl, fun version => ?_, checksVersion_iff rfl⟩
    rw [permits_or, permits_forbidOptions hforbid]
    simp [permits_zero]

/-- A lower bound of TLS 1.2, an upper one of TLS 1.3, and TLS 1.2 forbidden. -/
theorem scfSetFd_checksVersion_bothVersions :
    let out := (bothVersions [tls12Version]).apply middleClient
    out.1 = .success ∧ ∃ cfg', out.2.sslConfig = some cfg' ∧ cfg'.VersionCheckExact ∧
      ChecksVersion out.2 cfg' := by
  intro out
  have hret : out.1 = .success := by decide
  have hout : out = (.success, out.2) := by rw [← hret]
  obtain ⟨-, cfg', -, hcfg', hmin, hmax, -, hiff⟩ := scfSetFd_checksVersion_iff hout
  have hexact : cfg'.VersionCheckExact := by
    rw [SslCtx.VersionCheckExact, hmin, hmax]
    exact .inl (by decide)
  exact ⟨hret, cfg', hcfg', hexact, hiff.mpr hexact⟩

/-- The bounds and the forbidden versions in a context. -/
def versionsCall (minVersion maxVersion : UInt32) (forbidVersion : List UInt32) : VersionCall :=
  ⟨⟨minVersion, maxVersion, forbidVersion⟩, .ready, .valid, true, true⟩

/-- Without bounds a fresh object gets its connection though both versions are forbidden. And with
TLS 1.2 as the upper bound only, a fresh object gets none though TLS 1.2 is allowed. -/
theorem versionCheck_misjudges :
    let forbidden := (versionsCall 0 0 [tls12Version, tls13Version]).apply middleClient
    let upperOnly := (versionsCall 0 tls12Version []).apply middleClient
    (forbidden.1 = .success ∧
      ((freshFdCall forbidden.2).apply forbidden.2).1 = .success ∧
      ∃ cfg', forbidden.2.sslConfig = some cfg' ∧ ¬ cfg'.Usable ∧
        ¬ ChecksVersion forbidden.2 cfg') ∧
    (upperOnly.1 = .success ∧
      ((freshFdCall upperOnly.2).apply upperOnly.2).1 = .sslPolicyVersion ∧
      ∃ cfg', upperOnly.2.sslConfig = some cfg' ∧ cfg'.Usable ∧
        ¬ ChecksVersion upperOnly.2 cfg') := by
  refine ⟨⟨by decide, by decide, _, rfl, by decide, ?_⟩, ⟨by decide, by decide, _, rfl, by decide, ?_⟩⟩
  · rw [checksVersion_iff_checkVersion rfl]
    decide
  · rw [checksVersion_iff_checkVersion rfl]
    decide

end Scf
