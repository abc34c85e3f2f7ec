import Mathlib.Data.Set.Basic
import ScfSecurity.Policy.Consistency

/-!
# The allowed protocol versions

`SCF_SetProtocolVersion` overwrites the version bounds of a configuration, adds the forbidden
versions to its options, and looks at the list of forbidden versions only when the bounds are
written. A version that an earlier call forbade stays forbidden, and a call that fails can leave
other bounds behind.

## Main definitions

- `VersionArgs.allowed`: the versions that the arguments of a call allow
- `SCFPolicyCtx.allowed`: the versions that a context allows
- `VersionCall.Harmless`: the condition on a call

## Main results

- `setVersion_outcome`: every call has one of three outcomes
- `allowedByLast_throughout_iff`: the last successful call decides in all states of a run exactly
  if all of its calls are harmless
-/

namespace Scf

open Automaton

/-- The version is within the bounds, of which zero means none. -/
def InBounds (minVersion maxVersion version : UInt32) : Prop :=
  (minVersion = 0 ∨ minVersion ≤ version) ∧ (maxVersion = 0 ∨ version ≤ maxVersion)

instance (minVersion maxVersion version : UInt32) :
    Decidable (InBounds minVersion maxVersion version) :=
  inferInstanceAs (Decidable (_ ∧ _))

/-- The options do not forbid the version. -/
def Permits (options : UInt64) (version : UInt32) : Prop :=
  (mapVersion2NoOpt version).all fun sslOp => options &&& sslOp = 0

instance (options : UInt64) (version : UInt32) : Decidable (Permits options version) :=
  inferInstanceAs (Decidable (_ = true))

theorem enables_iff (cfg : SslCtx) (version : UInt32) :
    cfg.Enables version ↔
      InBounds cfg.minProtoVersion cfg.maxProtoVersion version ∧ Permits cfg.options version :=
  and_assoc.symm

/-- The arguments of `SCF_SetProtocolVersion`. -/
structure VersionArgs where
  minVersion : UInt32
  maxVersion : UInt32
  forbidVersion : List UInt32
deriving DecidableEq

/-- A call of `SCF_SetProtocolVersion`, with what OpenSSL says to the two bounds. -/
structure VersionCall extends VersionArgs where
  g : Globals
  ctxPtr : Ptr
  setMinOk : Bool
  setMaxOk : Bool

def VersionCall.apply (call : VersionCall) (ctx : SCFPolicyCtx) : Errno × SCFPolicyCtx :=
  scfSetProtocolVersion call.g call.ctxPtr call.minVersion call.maxVersion call.forbidVersion
    call.setMinOk call.setMaxOk ctx

section Allowed

-- the versions that the TLS library implements
variable (implemented : Set UInt32)

/-- The versions that the arguments allow. -/
def VersionArgs.allowed (args : VersionArgs) : Set UInt32 :=
  {version ∈ implemented |
    InBounds args.minVersion args.maxVersion version ∧ version ∉ args.forbidVersion}

/-- The versions that the context allows. -/
def SCFPolicyCtx.allowed (ctx : SCFPolicyCtx) : Set UInt32 :=
  {version ∈ implemented | ∃ cfg, ctx.sslConfig = some cfg ∧ cfg.Enables version}

/-- The call gets as far as writing the lower bound. -/
structure VersionCall.Reaches (call : VersionCall) (ctx : SCFPolicyCtx) (cfg : SslCtx) :
    Prop where
  ctxPtr : call.ctxPtr ≠ .null
  role : ctx.role ≠ .none
  high : ctx.policyMode = .high →
    call.minVersion = tls13Version ∧ call.maxVersion = tls13Version
  init : call.g.scfInitialized = true
  adaptor : call.g.adaptor = true
  config : ctx.sslConfig = some cfg
  setMin : call.setMinOk = true

/-- OpenSSL takes the upper bound, and all forbidden versions are known. -/
def VersionCall.Completes (call : VersionCall) : Prop :=
  call.setMaxOk = true ∧ ∀ version ∈ call.forbidVersion, (mapVersion2NoOpt version).isSome

instance (call : VersionCall) : Decidable call.Completes := inferInstanceAs (Decidable (_ ∧ _))

/-- The upper bound that the call leaves in a configuration if it fails after the lower one. -/
def VersionCall.writtenMax (call : VersionCall) (cfg : SslCtx) : UInt32 :=
  if call.setMaxOk then call.maxVersion else cfg.maxProtoVersion

/-- A successful call allows no version that was forbidden before. A call that fails behind the
lower bound leaves bounds with the same permitted versions between them. -/
def VersionCall.Harmless (call : VersionCall) (ctx : SCFPolicyCtx) : Prop :=
  ∀ cfg, call.Reaches ctx cfg →
    (call.Completes → ∀ version ∈ call.toVersionArgs.allowed implemented,
      Permits cfg.options version) ∧
    (¬ call.Completes → ∀ version ∈ implemented, Permits cfg.options version →
      (InBounds call.minVersion (call.writtenMax cfg) version ↔
        InBounds cfg.minProtoVersion cfg.maxProtoVersion version))

/-- A context, with the arguments of the last successful call beside it. -/
def versionMachine :
    Machine (SCFPolicyCtx × Option VersionArgs) VersionCall Errno where
  initial s := s.2 = none
  step s call :=
    let (ret, ctx) := call.apply s.1
    (ret, ctx, if ret = .success then some call.toVersionArgs else s.2)

/-- The last successful call alone decides which versions the context allows. Before the first
one these are the versions it allowed at the beginning. -/
def AllowedByLast (ctx₀ : SCFPolicyCtx) (s : SCFPolicyCtx × Option VersionArgs) : Prop :=
  s.1.allowed implemented =
    (s.2.map (VersionArgs.allowed implemented)).getD (ctx₀.allowed implemented)

end Allowed

/-! ### The options -/

theorem or_and_eq_zero (a b c : UInt64) : (a ||| b) &&& c = 0 ↔ a &&& c = 0 ∧ b &&& c = 0 := by
  have hdistrib : (a ||| b) &&& c = (a &&& c) ||| (b &&& c) :=
    UInt64.toBitVec_inj.mp BitVec.and_or_distrib_right
  rw [hdistrib, UInt64.or_eq_zero_iff]

theorem permits_or (options forbidOpt : UInt64) (version : UInt32) :
    Permits (options ||| forbidOpt) version ↔
      Permits options version ∧ Permits forbidOpt version := by
  unfold Permits
  cases mapVersion2NoOpt version with
  | none => simp
  | some sslOp => simpa using or_and_eq_zero options forbidOpt sslOp

/-- Each version has a bit of its own. -/
theorem permits_mapVersion2NoOpt {version : UInt32} {sslOp : UInt64}
    (h : mapVersion2NoOpt version = some sslOp) (version' : UInt32) :
    Permits sslOp version' ↔ version' ≠ version := by
  have hcases : version = tls12Version ∧ sslOp = sslOpNoTls12 ∨
      version = tls13Version ∧ sslOp = sslOpNoTls13 := by
    unfold mapVersion2NoOpt at h
    split_ifs at h with h12 h13
    · exact .inl ⟨h12, (Option.some.inj h).symm⟩
    · exact .inr ⟨h13, (Option.some.inj h).symm⟩
  have hother : ∀ version', version' ≠ tls12Version → version' ≠ tls13Version →
      Permits sslOp version' := by
    intro version' h12 h13
    unfold Permits mapVersion2NoOpt
    rw [if_neg h12, if_neg h13]
    rfl
  by_cases h12 : version' = tls12Version
  · subst h12
    rcases hcases with ⟨rfl, rfl⟩ | ⟨rfl, rfl⟩ <;> decide
  · by_cases h13 : version' = tls13Version
    · subst h13
      rcases hcases with ⟨rfl, rfl⟩ | ⟨rfl, rfl⟩ <;> decide
    · refine iff_of_true (hother version' h12 h13) ?_
      rcases hcases with ⟨rfl, -⟩ | ⟨rfl, -⟩
      · exact h12
      · exact h13

/-- The loop forbids the versions of the list beside those it starts with. -/
theorem permits_forbidOptions {forbidVersion : List UInt32} {forbidOpt forbidOpt' : UInt64}
    (h : forbidOptions forbidVersion forbidOpt = some forbidOpt') (version : UInt32) :
    Permits forbidOpt' version ↔ Permits forbidOpt version ∧ version ∉ forbidVersion := by
  induction forbidVersion generalizing forbidOpt with
  | nil =>
    obtain rfl : forbidOpt = forbidOpt' := Option.some.inj h
    simp
  | cons head rest ih =>
    unfold forbidOptions at h
    cases hop : mapVersion2NoOpt head with
    | none =>
      rw [hop] at h
      exact absurd h (by simp)
    | some sslOp =>
      rw [hop] at h
      rw [ih h, permits_or, permits_mapVersion2NoOpt hop, List.mem_cons, not_or, and_assoc]

theorem permits_zero (version : UInt32) : Permits 0 version := by
  unfold Permits
  cases mapVersion2NoOpt version <;> simp

/-- The loop fails exactly at an unknown version. -/
theorem forbidOptions_isSome (forbidVersion : List UInt32) (forbidOpt : UInt64) :
    (forbidOptions forbidVersion forbidOpt).isSome ↔
      ∀ version ∈ forbidVersion, (mapVersion2NoOpt version).isSome := by
  induction forbidVersion generalizing forbidOpt with
  | nil => simp [forbidOptions]
  | cons head rest ih =>
    unfold forbidOptions
    cases hop : mapVersion2NoOpt head with
    | none => simp [hop]
    | some sslOp => simp [hop, ih]

/-! ### One call -/

/-- How a call of `SCF_SetProtocolVersion` ends. -/
inductive SetVersionOutcome (call : VersionCall) (ctx : SCFPolicyCtx) :
    Errno × SCFPolicyCtx → Prop
  | rejected {ret : Errno} (hret : ret ≠ .success) (hreach : ∀ cfg, ¬ call.Reaches ctx cfg) :
      SetVersionOutcome call ctx (ret, ctx)
  -- the lower bound is written, and perhaps the upper one
  | refused {ret : Errno} {cfg : SslCtx} (hret : ret ≠ .success) (hreach : call.Reaches ctx cfg)
      (hnot : ¬ call.Completes) :
      SetVersionOutcome call ctx (ret, ctx.setSslConfig (some { cfg with
        minProtoVersion := call.minVersion
        maxProtoVersion := call.writtenMax cfg }))
  | done {cfg : SslCtx} {forbidOpt : UInt64} (hreach : call.Reaches ctx cfg)
      (hcompletes : call.Completes) (hforbid : forbidOptions call.forbidVersion 0 = some forbidOpt) :
      SetVersionOutcome call ctx (.success, ctx.setSslConfig (some { cfg with
        minProtoVersion := call.minVersion
        maxProtoVersion := call.maxVersion
        options := cfg.options ||| forbidOpt }))

/-- A call behind its checks. -/
theorem setVersion_outcome_of_reaches {call : VersionCall} {ctx : SCFPolicyCtx} {cfg : SslCtx}
    (hreach : call.Reaches ctx cfg) :
    SetVersionOutcome call ctx
      ((setProtocolVersion call.minVersion call.maxVersion call.forbidVersion call.setMinOk
          call.setMaxOk cfg).1,
        ctx.setSslConfig (some (setProtocolVersion call.minVersion call.maxVersion
          call.forbidVersion call.setMinOk call.setMaxOk cfg).2)) := by
  have hknown := forbidOptions_isSome call.forbidVersion 0
  unfold setProtocolVersion
  rw [hreach.setMin]
  cases hmax : call.setMaxOk with
  | false =>
    have hnot : ¬ call.Completes := fun h => absurd (hmax.symm.trans h.1) (by decide)
    have hret : Errno.sslSetProtocolVer ≠ .success := by decide
    have hout := SetVersionOutcome.refused hret hreach hnot
    rw [VersionCall.writtenMax, hmax] at hout
    exact hout
  | true =>
    cases hforbid : forbidOptions call.forbidVersion 0 with
    | none =>
      rw [hforbid] at hknown
      have hnot : ¬ call.Completes := fun h => absurd (hknown.mpr h.2) (by decide)
      have hret : Errno.sslSetVerForbid ≠ .success := by decide
      have hout := SetVersionOutcome.refused hret hreach hnot
      rw [VersionCall.writtenMax, hmax] at hout
      exact hout
    | some forbidOpt =>
      rw [hforbid] at hknown
      have hout := SetVersionOutcome.done hreach ⟨hmax, hknown.mp rfl⟩ hforbid
      exact hout

theorem setVersion_outcome (call : VersionCall) (ctx : SCFPolicyCtx) :
    SetVersionOutcome call ctx (call.apply ctx) := by
  unfold VersionCall.apply scfSetProtocolVersion
  by_cases hptr : call.ctxPtr = .null
  · rw [if_pos hptr]
    exact .rejected (by decide) fun _ h => h.ctxPtr hptr
  rw [if_neg hptr]
  by_cases hrole : ctx.role = .none
  · rw [if_pos hrole]
    exact .rejected (by decide) fun _ h => h.role hrole
  rw [if_neg hrole]
  by_cases hhigh : (ctx.policyMode = .high &&
      (call.minVersion ≠ tls13Version || call.maxVersion ≠ tls13Version)) = true
  · rw [if_pos hhigh]
    refine .rejected (by decide) fun _ h => ?_
    simp only [Bool.and_eq_true, Bool.or_eq_true, decide_eq_true_eq] at hhigh
    obtain ⟨hmin, hmax⟩ := h.high hhigh.1
    exact hhigh.2.elim (fun hne => hne hmin) fun hne => hne hmax
  rw [if_neg hhigh]
  cases hinit : call.g.scfInitialized with
  | false => exact .rejected (by decide) fun _ h => absurd (hinit.symm.trans h.init) (by decide)
  | true =>
    cases hadaptor : call.g.adaptor with
    | false =>
      exact .rejected (by decide) fun _ h => absurd (hadaptor.symm.trans h.adaptor) (by decide)
    | true =>
      cases hcfg : ctx.sslConfig with
      | none =>
        exact .rejected (by decide) fun _ h => absurd (hcfg.symm.trans h.config) (by simp)
      | some cfg =>
        cases hmin : call.setMinOk with
        | false =>
          have hsame : ctx.setSslConfig (some cfg) = ctx := by
            rw [← hcfg]
            rfl
          show SetVersionOutcome call ctx (.sslSetProtocolVer, ctx.setSslConfig (some cfg))
          rw [hsame]
          exact .rejected (by decide) fun _ h => absurd (hmin.symm.trans h.setMin) (by decide)
        | true =>
          have hreach : call.Reaches ctx cfg := by
            refine ⟨hptr, hrole, fun hmode => ?_, hinit, hadaptor, hcfg, hmin⟩
            simpa [hmode, not_or] using hhigh
          have hout := setVersion_outcome_of_reaches hreach
          rw [hmin] at hout
          exact hout

/-! ### The allowed versions -/

section Allowed

variable {implemented : Set UInt32}

theorem mem_allowed_of_config {ctx : SCFPolicyCtx} {cfg : SslCtx} (h : ctx.sslConfig = some cfg)
    (version : UInt32) :
    version ∈ ctx.allowed implemented ↔ version ∈ implemented ∧
      InBounds cfg.minProtoVersion cfg.maxProtoVersion version ∧ Permits cfg.options version := by
  constructor
  · rintro ⟨himpl, cfg', hcfg', henables⟩
    obtain rfl : cfg = cfg' := Option.some.inj (h.symm.trans hcfg')
    exact ⟨himpl, (enables_iff cfg version).mp henables⟩
  · rintro ⟨himpl, hversion⟩
    exact ⟨himpl, cfg, h, (enables_iff cfg version).mpr hversion⟩

/-- A failing call keeps the allowed versions exactly if the bounds that it leaves behind have the
same permitted versions between them. -/
theorem allowed_setBounds_iff {ctx : SCFPolicyCtx} {cfg : SslCtx} (h : ctx.sslConfig = some cfg)
    (minVersion maxVersion : UInt32) :
    (ctx.setSslConfig (some { cfg with
        minProtoVersion := minVersion
        maxProtoVersion := maxVersion })).allowed implemented = ctx.allowed implemented ↔
      ∀ version ∈ implemented, Permits cfg.options version →
        (InBounds minVersion maxVersion version ↔
          InBounds cfg.minProtoVersion cfg.maxProtoVersion version) := by
  rw [Set.ext_iff]
  constructor
  · intro heq version himpl hpermits
    have hversion := heq version
    rw [mem_allowed_of_config (setSslConfig_sslConfig _ _), mem_allowed_of_config h] at hversion
    simpa [himpl, hpermits] using hversion
  · intro hbounds version
    rw [mem_allowed_of_config (setSslConfig_sslConfig _ _), mem_allowed_of_config h]
    refine and_congr_right fun himpl => and_congr_left fun hpermits => ?_
    exact hbounds version himpl hpermits

/-- A successful call leaves the versions that its arguments allow exactly if none of them was
forbidden before. -/
theorem allowed_setVersions_iff {ctx : SCFPolicyCtx} {cfg : SslCtx} (args : VersionArgs)
    {forbidOpt : UInt64} (hforbid : forbidOptions args.forbidVersion 0 = some forbidOpt) :
    (ctx.setSslConfig (some { cfg with
        minProtoVersion := args.minVersion
        maxProtoVersion := args.maxVersion
        options := cfg.options ||| forbidOpt })).allowed implemented =
          args.allowed implemented ↔
      ∀ version ∈ args.allowed implemented, Permits cfg.options version := by
  have hmem : ∀ version, version ∈ (ctx.setSslConfig (some { cfg with
      minProtoVersion := args.minVersion
      maxProtoVersion := args.maxVersion
      options := cfg.options ||| forbidOpt })).allowed implemented ↔
        version ∈ args.allowed implemented ∧ Permits cfg.options version := by
    intro version
    rw [mem_allowed_of_config (setSslConfig_sslConfig _ _), permits_or,
      permits_forbidOptions hforbid]
    constructor
    · rintro ⟨himpl, hbounds, hpermits, -, hnot⟩
      exact ⟨⟨himpl, hbounds, hnot⟩, hpermits⟩
    · rintro ⟨⟨himpl, hbounds, hnot⟩, hpermits⟩
      exact ⟨himpl, hbounds, hpermits, permits_zero version, hnot⟩
  rw [Set.ext_iff]
  constructor
  · intro heq version hversion
    exact ((hmem version).mp ((heq version).mpr hversion)).2
  · intro hpermits version
    rw [hmem version]
    exact and_iff_left_of_imp (hpermits version)

/-- A configuration is determined by its context. -/
theorem VersionCall.harmless_iff_of_reaches {call : VersionCall} {ctx : SCFPolicyCtx} {cfg : SslCtx}
    (hreach : call.Reaches ctx cfg) :
    call.Harmless implemented ctx ↔
      (call.Completes → ∀ version ∈ call.toVersionArgs.allowed implemented,
        Permits cfg.options version) ∧
      (¬ call.Completes → ∀ version ∈ implemented, Permits cfg.options version →
        (InBounds call.minVersion (call.writtenMax cfg) version ↔
          InBounds cfg.minProtoVersion cfg.maxProtoVersion version)) := by
  constructor
  · intro h
    exact h cfg hreach
  · intro h cfg' hreach'
    obtain rfl : cfg = cfg' := Option.some.inj (hreach.config.symm.trans hreach'.config)
    exact h

/-- A harmless call, and no other one, leads from a state in which the last successful call
decides to another. -/
theorem allowedByLast_step_iff (ctx₀ : SCFPolicyCtx) (s : SCFPolicyCtx × Option VersionArgs)
    (call : VersionCall) (h : AllowedByLast implemented ctx₀ s) :
    AllowedByLast implemented ctx₀ (versionMachine.step s call).2 ↔
      call.Harmless implemented s.1 := by
  obtain ⟨ctx, last⟩ := s
  have hout := setVersion_outcome call ctx
  unfold AllowedByLast at h ⊢
  simp only [versionMachine] at h ⊢
  generalize call.apply ctx = out at hout
  cases hout with
  | rejected hret hreach =>
    simp only [if_neg hret]
    exact iff_of_true h fun cfg hcfg => absurd hcfg (hreach cfg)
  | refused hret hreach hnot =>
    simp only [if_neg hret]
    rw [← h, allowed_setBounds_iff hreach.config, VersionCall.harmless_iff_of_reaches hreach]
    simp only [hnot, false_implies, not_false_eq_true, true_implies, true_and]
  | done hreach hcompletes hforbid =>
    simp only [if_true, Option.map_some, Option.getD_some]
    rw [allowed_setVersions_iff call.toVersionArgs hforbid,
      VersionCall.harmless_iff_of_reaches hreach]
    simp only [hcompletes, true_implies, not_true_eq_false, false_implies, and_true]

/-- In a run of calls on any context the versions it allows are in all states those of the last
successful call, exactly if each call is harmless: a successful one allows no version that was
forbidden before, and one that fails behind the lower bound leaves bounds with the same permitted
versions between them. -/
theorem allowedByLast_throughout_iff (implemented : Set UInt32) (ctx : SCFPolicyCtx)
    (calls : List VersionCall) :
    versionMachine.Throughout (AllowedByLast implemented ctx) (ctx, none) calls ↔
      versionMachine.Admits (fun s call => call.Harmless implemented s.1) (ctx, none) calls := by
  have hstart : AllowedByLast implemented ctx (ctx, none) := rfl
  exact Machine.throughout_iff (allowedByLast_step_iff ctx) hstart calls

end Allowed

/-- A client under a middle policy. -/
def middleClient : SCFPolicyCtx :=
  { newPolicyCtx with
    role := .client
    policyMode := .middle
    sslConfig := some { method := .tlsClient, libCtx := none, minProtoVersion := tls12Version } }

/-- TLS 1.2 and TLS 1.3 with a list of forbidden versions. -/
def bothVersions (forbidVersion : List UInt32) : VersionCall :=
  ⟨⟨tls12Version, tls13Version, forbidVersion⟩, .ready, .valid, true, true⟩

/-- A call forbids TLS 1.2. The next one forbids nothing and succeeds, and TLS 1.2 is still
forbidden. And a call with an unknown version in its list fails and leaves TLS 1.3 only. -/
theorem forbidden_version_stays_forbidden :
    let first := (bothVersions [tls12Version]).apply middleClient
    let second := (bothVersions []).apply first.2
    first.1 = .success ∧ second.1 = .success ∧
      tls12Version ∈ (bothVersions []).toVersionArgs.allowed {tls12Version, tls13Version} ∧
      tls12Version ∉ second.2.allowed {tls12Version, tls13Version} ∧
      ∃ call : VersionCall, (call.apply middleClient).1 = .sslSetVerForbid ∧
        tls12Version ∈ middleClient.allowed {tls12Version, tls13Version} ∧
        tls12Version ∉ (call.apply middleClient).2.allowed {tls12Version, tls13Version} := by
  refine ⟨by decide, by decide, ⟨.inl rfl, by decide⟩, ?_,
    ⟨⟨tls13Version, tls13Version, [0]⟩, .ready, .valid, true, true⟩, by decide, ?_, ?_⟩
  · rintro ⟨-, cfg, hcfg, henables⟩
    obtain rfl := Option.some.inj hcfg
    exact absurd henables (by decide)
  · exact ⟨.inl rfl, _, rfl, by decide⟩
  · rintro ⟨-, cfg, hcfg, henables⟩
    obtain rfl := Option.some.inj hcfg
    exact absurd henables (by decide)

end Scf
