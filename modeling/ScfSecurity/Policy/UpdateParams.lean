import ScfSecurity.KeyUpdate.Write
import ScfSecurity.Policy.Lifecycle

/-!
# The parameters of the automatic key update

`SCF_SetKeyAutoUpdateParam` stores the flag before it checks the limits, and the limits after
that. A call that is refused for its limits therefore switches the automatic update on, with
the limits of an earlier call, for all writes on all objects of the context.

## Main definitions

- `UpdateParams.track`: the parameters as the successful calls alone make them
- `ParamsFaithful`: the context has these parameters, and writes go by them
- `HarmlessParams`: the condition on a call

## Main results

- `failureKeepsParams_iff`: when a failing call leaves the parameters alone
- `paramsFaithful_throughout_iff`: the successful calls decide in all states of a run exactly if
  all of its calls are harmless
-/

namespace Scf

open Automaton

/-- The parameters of a context for the automatic key update. -/
structure UpdateParams where
  isNeedKeyUpdate : Bool
  keyUpdateTime : UInt32
  keyUpdateTraffic : UInt64
deriving DecidableEq

def SCFPolicyCtx.updateParams (ctx : SCFPolicyCtx) : UpdateParams :=
  ⟨ctx.isNeedKeyUpdate, ctx.keyUpdateTime, ctx.keyUpdateTraffic⟩

def SCFPolicyCtx.setUpdateParams (params : UpdateParams) (ctx : SCFPolicyCtx) : SCFPolicyCtx :=
  { ctx with
    isNeedKeyUpdate := params.isNeedKeyUpdate
    keyUpdateTime := params.keyUpdateTime
    keyUpdateTraffic := params.keyUpdateTraffic }

/-- The limits that `SCF_SetKeyAutoUpdateParam` accepts. -/
def ValidLimits (keyUpdateTime : UInt32) (keyUpdateTraffic : UInt64) : Prop :=
  minKeyUpdateTime ≤ keyUpdateTime ∧ keyUpdateTime ≤ maxKeyUpdateTime ∧
    minKeyUpdateTraffic ≤ keyUpdateTraffic

instance (keyUpdateTime : UInt32) (keyUpdateTraffic : UInt64) :
    Decidable (ValidLimits keyUpdateTime keyUpdateTraffic) :=
  inferInstanceAs (Decidable (_ ∧ _ ∧ _))

/-- What a successful call makes of the parameters. Switching the update off keeps the
limits. -/
def UpdateParams.set (isNeedKeyUpdate : Bool) (keyUpdateTime : UInt32) (keyUpdateTraffic : UInt64)
    (params : UpdateParams) : UpdateParams :=
  if isNeedKeyUpdate then ⟨true, keyUpdateTime, keyUpdateTraffic⟩
  else { params with isNeedKeyUpdate := false }

/-- The parameters after a call, if only successful calls count. -/
def UpdateParams.track (params : UpdateParams) : PolicyCall → RbacAnswer → UpdateParams
  | .settings (.setKeyAutoUpdateParam isNeedKeyUpdate keyUpdateTime keyUpdateTraffic),
      .code .success => params.set isNeedKeyUpdate keyUpdateTime keyUpdateTraffic
  | _, _ => params

/-- A context from its creation on, with the parameters of the successful calls beside it. -/
def paramMachine (lib : LibCrypto) :
    Machine (SCFPolicyCtx × UpdateParams) (Globals × Ptr × PolicyCall) RbacAnswer where
  initial s := s = (newPolicyCtx, newPolicyCtx.updateParams)
  step s call :=
    let (answer, ctx) := call.2.2.apply lib call.1 call.2.1 s.1
    (answer, ctx, s.2.track call.2.2 answer)

/-- The context has the parameters of the successful calls, every write does what it does with
these, and if the update is on, then with accepted limits. -/
structure ParamsFaithful (s : SCFPolicyCtx × UpdateParams) : Prop where
  params : s.1.updateParams = s.2
  write : ∀ call obj, scfWrite call s.1 obj = scfWrite call (newPolicyCtx.setUpdateParams s.2) obj
  limits : s.1.isNeedKeyUpdate = true → ValidLimits s.1.keyUpdateTime s.1.keyUpdateTraffic

/-- A call that is refused for its limits finds the update on. -/
def HarmlessParams (g : Globals) (ctxPtr : Ptr) (isNeedKeyUpdate : Bool) (keyUpdateTime : UInt32)
    (keyUpdateTraffic : UInt64) (ctx : SCFPolicyCtx) : Prop :=
  ctxPtr ≠ .null → g.scfInitialized = true → isNeedKeyUpdate = true →
    ¬ ValidLimits keyUpdateTime keyUpdateTraffic → ctx.isNeedKeyUpdate = true

/-- If the call returns an error, then the parameters are as they were. -/
def FailureKeepsParams (g : Globals) (ctxPtr : Ptr) (isNeedKeyUpdate : Bool)
    (keyUpdateTime : UInt32) (keyUpdateTraffic : UInt64) (ctx : SCFPolicyCtx) : Prop :=
  (scfSetKeyAutoUpdateParam g ctxPtr isNeedKeyUpdate keyUpdateTime keyUpdateTraffic ctx).1 ≠
      .success →
    (scfSetKeyAutoUpdateParam g ctxPtr isNeedKeyUpdate keyUpdateTime keyUpdateTraffic
      ctx).2.updateParams = ctx.updateParams

/-! ### One call -/

/-- How a call of `SCF_SetKeyAutoUpdateParam` ends. -/
inductive SetParamOutcome (g : Globals) (ctxPtr : Ptr) (isNeedKeyUpdate : Bool)
    (keyUpdateTime : UInt32) (keyUpdateTraffic : UInt64) (ctx : SCFPolicyCtx) :
    Errno × SCFPolicyCtx → Prop
  | rejected {ret : Errno} (hacc : ¬ (ctxPtr ≠ .null ∧ g.scfInitialized = true))
      (hret : ret ≠ .success) :
      SetParamOutcome g ctxPtr isNeedKeyUpdate keyUpdateTime keyUpdateTraffic ctx (ret, ctx)
  -- only the flag is stored
  | refused (hptr : ctxPtr ≠ .null) (hinit : g.scfInitialized = true)
      (hneed : isNeedKeyUpdate = true) (hlimits : ¬ ValidLimits keyUpdateTime keyUpdateTraffic) :
      SetParamOutcome g ctxPtr isNeedKeyUpdate keyUpdateTime keyUpdateTraffic ctx
        (.sslSetUpdateParam, { ctx with isNeedKeyUpdate := true })
  | done (hvalid : isNeedKeyUpdate = true → ValidLimits keyUpdateTime keyUpdateTraffic) :
      SetParamOutcome g ctxPtr isNeedKeyUpdate keyUpdateTime keyUpdateTraffic ctx
        (.success, ctx.setUpdateParams
          (ctx.updateParams.set isNeedKeyUpdate keyUpdateTime keyUpdateTraffic))

theorem limits_check (keyUpdateTime : UInt32) (keyUpdateTraffic : UInt64) :
    (keyUpdateTime < minKeyUpdateTime || keyUpdateTime > maxKeyUpdateTime ||
        keyUpdateTraffic < minKeyUpdateTraffic || keyUpdateTraffic > maxKeyUpdateTraffic) = true ↔
      ¬ ValidLimits keyUpdateTime keyUpdateTraffic := by
  -- no traffic is above the largest number of 64 bits
  have hmax : ¬ keyUpdateTraffic > maxKeyUpdateTraffic := by
    rw [gt_iff_lt, UInt64.not_lt, UInt64.le_iff_toNat_le]
    show keyUpdateTraffic.toNat ≤ 2 ^ 64 - 1
    have hlt := keyUpdateTraffic.toNat_lt
    omega
  simp only [Bool.or_eq_true, decide_eq_true_eq, hmax, or_false, ValidLimits, not_and_or,
    UInt32.not_le, UInt64.not_le, gt_iff_lt, or_assoc]

theorem scfSetKeyAutoUpdateParam_outcome (g : Globals) (ctxPtr : Ptr) (isNeedKeyUpdate : Bool)
    (keyUpdateTime : UInt32) (keyUpdateTraffic : UInt64) (ctx : SCFPolicyCtx) :
    SetParamOutcome g ctxPtr isNeedKeyUpdate keyUpdateTime keyUpdateTraffic ctx
      (scfSetKeyAutoUpdateParam g ctxPtr isNeedKeyUpdate keyUpdateTime keyUpdateTraffic ctx) := by
  unfold scfSetKeyAutoUpdateParam
  by_cases hptr : ctxPtr = .null
  · rw [if_pos hptr]
    exact .rejected (fun h => h.1 hptr) (by decide)
  rw [if_neg hptr]
  cases hinit : g.scfInitialized with
  | false => exact .rejected (fun h => absurd (hinit.symm.trans h.2) (by decide)) (by decide)
  | true =>
    cases isNeedKeyUpdate with
    | false => exact .done fun h => absurd h (by decide)
    | true =>
      by_cases hlimits : ValidLimits keyUpdateTime keyUpdateTraffic
      · have hcheck := mt (limits_check keyUpdateTime keyUpdateTraffic).mp (not_not.mpr hlimits)
        simp only [Bool.not_true, Bool.false_eq_true, if_false, if_neg hcheck]
        exact .done fun _ => hlimits
      · have hcheck := (limits_check keyUpdateTime keyUpdateTraffic).mpr hlimits
        simp only [Bool.not_true, Bool.false_eq_true, if_false, if_pos hcheck]
        exact .refused hptr hinit rfl hlimits

/-- Storing the flag changes the parameters unless it was set. -/
theorem updateParams_setFlag_iff (ctx : SCFPolicyCtx) :
    { ctx with isNeedKeyUpdate := true }.updateParams = ctx.updateParams ↔
      ctx.isNeedKeyUpdate = true := by
  constructor
  · intro h
    exact (congrArg UpdateParams.isNeedKeyUpdate h).symm
  · intro h
    rw [SCFPolicyCtx.updateParams, SCFPolicyCtx.updateParams, h]

/-- A failing call leaves the parameters alone exactly if it is harmless. -/
theorem failureKeepsParams_iff (g : Globals) (ctxPtr : Ptr) (isNeedKeyUpdate : Bool)
    (keyUpdateTime : UInt32) (keyUpdateTraffic : UInt64) (ctx : SCFPolicyCtx) :
    FailureKeepsParams g ctxPtr isNeedKeyUpdate keyUpdateTime keyUpdateTraffic ctx ↔
      HarmlessParams g ctxPtr isNeedKeyUpdate keyUpdateTime keyUpdateTraffic ctx := by
  unfold FailureKeepsParams HarmlessParams
  have hout := scfSetKeyAutoUpdateParam_outcome g ctxPtr isNeedKeyUpdate keyUpdateTime
    keyUpdateTraffic ctx
  generalize scfSetKeyAutoUpdateParam g ctxPtr isNeedKeyUpdate keyUpdateTime keyUpdateTraffic
    ctx = out at hout
  cases hout with
  | rejected hacc hret =>
    exact iff_of_true (fun _ => rfl) fun hptr hinit => absurd ⟨hptr, hinit⟩ hacc
  | refused hptr hinit hneed hlimits =>
    constructor
    · intro h _ _ _ _
      have hret : Errno.sslSetUpdateParam ≠ .success := by decide
      exact (updateParams_setFlag_iff ctx).mp (h hret)
    · intro h _
      exact (updateParams_setFlag_iff ctx).mpr (h hptr hinit hneed hlimits)
  | done hvalid =>
    exact iff_of_true (fun h => absurd rfl h) fun _ _ hneed hnot => absurd (hvalid hneed) hnot

/-- A call is harmless. Only `SCF_SetKeyAutoUpdateParam` is restricted. -/
def PolicyCall.HarmlessParams (ctx : SCFPolicyCtx) : Globals × Ptr × PolicyCall → Prop
  | (g, ctxPtr, .settings (.setKeyAutoUpdateParam isNeedKeyUpdate keyUpdateTime
      keyUpdateTraffic)) =>
    Scf.HarmlessParams g ctxPtr isNeedKeyUpdate keyUpdateTime keyUpdateTraffic ctx
  | _ => True

/-- Another configuration does not concern the parameters. -/
theorem updateParams_setSslConfig (cfg : Option SslCtx) (ctx : SCFPolicyCtx) :
    (ctx.setSslConfig cfg).updateParams = ctx.updateParams := rfl

theorem scfSetPolicy_updateParams (g : Globals) (ctxPtr : Ptr) (role : SCFRole)
    (verifyMode : SCFVerifyMode) (policyMode : SCFPolicyMode) (env : SslCtxEnv)
    (ctx : SCFPolicyCtx) :
    (scfSetPolicy g ctxPtr role verifyMode policyMode env ctx).2.updateParams =
      ctx.updateParams := by
  have hstep := scfSetPolicy_step g ctxPtr role verifyMode policyMode env ctx
  generalize (scfSetPolicy g ctxPtr role verifyMode policyMode env ctx).2 = ctx' at hstep
  cases hstep with
  | rejected => rfl
  | failed hinit =>
    obtain ⟨cfg, rfl⟩ := hinit.eq_setSslConfig
    rfl
  | done hinit =>
    obtain ⟨cfg, rfl⟩ := hinit.eq_setSslConfig
    cases cfg <;> rfl

theorem RbacStep.updateParams {ctx ctx' : SCFPolicyCtx} (h : RbacStep ctx ctx') :
    ctx'.updateParams = ctx.updateParams := by
  cases h <;> rfl

/-- No other settings call concerns the parameters. -/
theorem ConfigCall.updateParams_of_ne (g : Globals) (ctxPtr : Ptr) (ctx : SCFPolicyCtx) :
    ∀ call : ConfigCall, (∀ isNeedKeyUpdate keyUpdateTime keyUpdateTraffic,
      call ≠ .setKeyAutoUpdateParam isNeedKeyUpdate keyUpdateTime keyUpdateTraffic) →
      (call.apply g ctxPtr ctx).2.updateParams = ctx.updateParams := by
  intro call hcall
  have hpsk : ∀ {install : SslCtx → SCFPolicyCtx → SCFPolicyCtx},
      (∀ cfg ctx, (install cfg ctx).updateParams = ctx.updateParams) →
      (scfSetPskCallback install g ctxPtr ctx).2.updateParams = ctx.updateParams := by
    intro install hinstall
    rcases scfSetPskCallback_cases install g ctxPtr ctx with ⟨ret, -, hsame⟩ | ⟨cfg, -, hset⟩
    · rw [hsame]
    · rw [hset]
      exact hinstall cfg ctx
  cases call with
  | setProtocolVersion minVersion maxVersion forbidVersion setMinOk setMaxOk =>
    rcases scfSetProtocolVersion_cases g ctxPtr minVersion maxVersion forbidVersion setMinOk
      setMaxOk ctx with hsame | ⟨-, hset⟩
    · exact congrArg SCFPolicyCtx.updateParams hsame
    · exact (congrArg SCFPolicyCtx.updateParams hset).trans (updateParams_setSslConfig _ _)
  | setCipherSuites cipherSuites allocOk setOk =>
    rcases scfSetCipherSuites_cases g ctxPtr cipherSuites allocOk setOk ctx with
      ⟨ret, -, hsame⟩ | ⟨suites, -, hset⟩
    · exact congrArg (fun out => SCFPolicyCtx.updateParams out.2) hsame
    · exact congrArg (fun out => SCFPolicyCtx.updateParams out.2) hset
  | setKeyExchangeGroups groups setOk =>
    rcases setKeyExchangeGroups_cases groups setOk ctx with hsame | hset
    · exact congrArg SCFPolicyCtx.updateParams hsame
    · exact (congrArg SCFPolicyCtx.updateParams hset).trans (updateParams_setSslConfig _ _)
  | setAppVerifyCallback cb arg =>
    rcases scfSetAppVerifyCallback_cases g ctxPtr cb arg ctx with ⟨ret, -, hsame⟩ | hset
    · exact congrArg (fun out => SCFPolicyCtx.updateParams out.2) hsame
    · exact congrArg (fun out => SCFPolicyCtx.updateParams out.2) hset
  | setPskFindSessionCallback cb => exact hpsk fun _ _ => rfl
  | setPskUseSessionCallback cb => exact hpsk fun _ _ => rfl
  | setKeyAutoUpdateParam isNeedKeyUpdate keyUpdateTime keyUpdateTraffic =>
    exact absurd rfl (hcall isNeedKeyUpdate keyUpdateTime keyUpdateTraffic)

/-! ### Writes -/

/-- Of the context a write reads the parameters only. -/
theorem scfWrite_congr {ctx ctx' : SCFPolicyCtx} (h : ctx.updateParams = ctx'.updateParams)
    (call : WriteCall) (obj : SCFPolicyObj) : scfWrite call ctx obj = scfWrite call ctx' obj := by
  simp only [SCFPolicyCtx.updateParams, UpdateParams.mk.injEq] at h
  obtain ⟨hneed, htime, htraffic⟩ := h
  have htimes : ∀ env obj, checkTimeInterval env ctx obj = checkTimeInterval env ctx' obj := by
    intro env obj
    unfold checkTimeInterval
    rw [htime]
  have htraffics : ∀ len total, trafficReached ctx len total = trafficReached ctx' len total := by
    intro len total
    unfold trafficReached
    rw [htraffic]
  have hafter : ∀ env len obj, afterWrite env ctx len obj = afterWrite env ctx' len obj := by
    intro env len obj
    unfold afterWrite checkNeedKeyUpdate
    rw [hneed, htraffics, htraffic]
    simp only [htimes]
  unfold scfWrite
  simp only [hafter]

theorem updateParams_setUpdateParams (params : UpdateParams) (ctx : SCFPolicyCtx) :
    (ctx.setUpdateParams params).updateParams = params := rfl

/-- The writes follow from the parameters. -/
theorem paramsFaithful_of_eq {s : SCFPolicyCtx × UpdateParams} (h : s.1.updateParams = s.2)
    (hlimits : s.1.isNeedKeyUpdate = true → ValidLimits s.1.keyUpdateTime s.1.keyUpdateTraffic) :
    ParamsFaithful s :=
  ⟨h, fun call obj => scfWrite_congr (h.trans (updateParams_setUpdateParams _ _).symm) call obj,
    hlimits⟩

/-- Faithfulness depends on the parameters only. -/
theorem ParamsFaithful.of_updateParams {ctx ctx' : SCFPolicyCtx} {params : UpdateParams}
    (h : ParamsFaithful (ctx, params)) (hsame : ctx'.updateParams = ctx.updateParams) :
    ParamsFaithful (ctx', params) := by
  refine paramsFaithful_of_eq (hsame.trans h.params) ?_
  simp only [SCFPolicyCtx.updateParams, UpdateParams.mk.injEq] at hsame
  obtain ⟨hneed, htime, htraffic⟩ := hsame
  rw [hneed, htime, htraffic]
  exact h.limits

/-! ### Runs -/

/-- After a call of `SCF_SetKeyAutoUpdateParam` the parameters are again those of the successful
calls exactly if it is harmless. -/
theorem ParamsFaithful.setParam_iff {ctx : SCFPolicyCtx} {params : UpdateParams}
    (h : ParamsFaithful (ctx, params)) (g : Globals) (ctxPtr : Ptr) (isNeedKeyUpdate : Bool)
    (keyUpdateTime : UInt32) (keyUpdateTraffic : UInt64) :
    let out := scfSetKeyAutoUpdateParam g ctxPtr isNeedKeyUpdate keyUpdateTime keyUpdateTraffic ctx
    ParamsFaithful (out.2, params.track
        (.settings (.setKeyAutoUpdateParam isNeedKeyUpdate keyUpdateTime keyUpdateTraffic))
        (.code out.1)) ↔
      HarmlessParams g ctxPtr isNeedKeyUpdate keyUpdateTime keyUpdateTraffic ctx := by
  intro out
  have hkeeps := failureKeepsParams_iff g ctxPtr isNeedKeyUpdate keyUpdateTime keyUpdateTraffic ctx
  have hout : SetParamOutcome g ctxPtr isNeedKeyUpdate keyUpdateTime keyUpdateTraffic ctx out :=
    scfSetKeyAutoUpdateParam_outcome g ctxPtr isNeedKeyUpdate keyUpdateTime keyUpdateTraffic ctx
  rw [← hkeeps]
  unfold FailureKeepsParams
  change _ ↔ (out.1 ≠ .success → out.2.updateParams = ctx.updateParams)
  generalize out = out' at hout
  cases hout with
  | @rejected ret hacc hret =>
    have htrack : params.track (.settings (.setKeyAutoUpdateParam isNeedKeyUpdate keyUpdateTime
        keyUpdateTraffic)) (.code ret) = params := by
      cases ret <;> first | rfl | exact absurd rfl hret
    rw [htrack]
    exact iff_of_true h fun _ => rfl
  | refused hptr hinit hneed hlimits =>
    constructor
    · intro hfaithful _
      exact hfaithful.params.trans h.params.symm
    · intro hsame
      have hret : Errno.sslSetUpdateParam ≠ .success := by decide
      exact h.of_updateParams (hsame hret)
  | done hvalid =>
    refine iff_of_true ?_ fun hc => absurd rfl hc
    cases isNeedKeyUpdate with
    | false =>
      have hset : ctx.updateParams.set false keyUpdateTime keyUpdateTraffic =
          params.set false keyUpdateTime keyUpdateTraffic :=
        congrArg (UpdateParams.set false keyUpdateTime keyUpdateTraffic) h.params
      exact paramsFaithful_of_eq ((updateParams_setUpdateParams _ ctx).trans hset) nofun
    | true => exact paramsFaithful_of_eq rfl fun _ => hvalid rfl

theorem ParamsFaithful.step_iff (lib : LibCrypto) (s : SCFPolicyCtx × UpdateParams)
    (call : Globals × Ptr × PolicyCall) (h : ParamsFaithful s) :
    ParamsFaithful ((paramMachine lib).step s call).2 ↔ PolicyCall.HarmlessParams s.1 call := by
  obtain ⟨ctx, params⟩ := s
  obtain ⟨g, ctxPtr, call⟩ := call
  cases call with
  | setPolicy role verifyMode policyMode env =>
    exact iff_of_true (h.of_updateParams
      (scfSetPolicy_updateParams g ctxPtr role verifyMode policyMode env ctx)) trivial
  | rbac call =>
    refine iff_of_true (h.of_updateParams ?_) trivial
    exact (RbacCall.guarantees lib g call).invariant
      (I := fun ctx' => ctx'.updateParams = ctx.updateParams)
      (fun _ _ hstep heq => hstep.updateParams.trans heq) rfl
  | settings call =>
    have hother := ConfigCall.updateParams_of_ne g ctxPtr ctx call
    cases call with
    | setKeyAutoUpdateParam isNeedKeyUpdate keyUpdateTime keyUpdateTraffic =>
      exact h.setParam_iff g ctxPtr isNeedKeyUpdate keyUpdateTime keyUpdateTraffic
    | _ =>
      refine iff_of_true (h.of_updateParams (hother ?_)) trivial
      rintro _ _ _ ⟨⟩

/-- In a run of calls on a new context the parameters are those of the successful calls in all
states exactly if every call of `SCF_SetKeyAutoUpdateParam` that is refused for its limits finds
the update on. For a single call this is exactly when a failure leaves the parameters alone. -/
theorem paramsFaithful_throughout_iff (lib : LibCrypto) :
    (∀ calls, (paramMachine lib).Throughout ParamsFaithful
        (newPolicyCtx, newPolicyCtx.updateParams) calls ↔
      (paramMachine lib).Admits (fun s call => PolicyCall.HarmlessParams s.1 call)
        (newPolicyCtx, newPolicyCtx.updateParams) calls) ∧
    ∀ g ctxPtr isNeedKeyUpdate keyUpdateTime keyUpdateTraffic ctx,
      FailureKeepsParams g ctxPtr isNeedKeyUpdate keyUpdateTime keyUpdateTraffic ctx ↔
        HarmlessParams g ctxPtr isNeedKeyUpdate keyUpdateTime keyUpdateTraffic ctx := by
  refine ⟨fun calls => ?_, failureKeepsParams_iff⟩
  have hnew : ParamsFaithful (newPolicyCtx, newPolicyCtx.updateParams) :=
    paramsFaithful_of_eq rfl fun h => absurd h (by decide)
  exact Machine.throughout_iff (ParamsFaithful.step_iff lib) hnew calls

/-- A context whose updates are off: a call with a time of zero is refused, and then the updates
are on. -/
theorem refused_params_switch_update_on :
    let out := scfSetKeyAutoUpdateParam .ready .valid true 0 1000000 newPolicyCtx
    out.1 = .sslSetUpdateParam ∧ newPolicyCtx.isNeedKeyUpdate = false ∧
      out.2.isNeedKeyUpdate = true ∧
      ¬ FailureKeepsParams .ready .valid true 0 1000000 newPolicyCtx := by
  refine ⟨by decide, rfl, rfl, fun h => ?_⟩
  exact absurd (congrArg UpdateParams.isNeedKeyUpdate (h (by decide))) (by decide)

end Scf
