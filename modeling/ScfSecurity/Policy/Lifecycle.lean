import ScfSecurity.Library.Machine
import ScfSecurity.Policy.Settings
import ScfSecurity.Rbac.Transition

/-!
# The life of a policy context

A context is created, given a policy, configured and used for access control, in any order
and any number of times. `policyMachine` puts all of these calls together.

## Main results

- `reachable_validUpdateParams`: the parameters of the automatic key update are within
  their limits at any time
-/

namespace Scf

open Automaton

/-- The calls that change a context, with their arguments and with what the environment
answers. -/
inductive PolicyCall where
  | setPolicy (role : SCFRole) (verifyMode : SCFVerifyMode) (policyMode : SCFPolicyMode)
      (env : SslCtxEnv)
  | settings (call : ConfigCall)
  | rbac (call : RbacCall)

/-- Carry out one call. -/
def PolicyCall.apply (lib : LibCrypto) (g : Globals) (ctxPtr : Ptr) (ctx : SCFPolicyCtx) :
    PolicyCall → RbacAnswer × SCFPolicyCtx
  | setPolicy role verifyMode policyMode env =>
    let (ret, ctx) := scfSetPolicy g ctxPtr role verifyMode policyMode env ctx
    (.code ret, ctx)
  | settings call =>
    let (ret, ctx) := call.apply g ctxPtr ctx
    (.code ret, ctx)
  | rbac call => (call.body lib g).run ctx

/-- A context from its creation on. -/
def policyMachine (lib : LibCrypto) :
    Machine SCFPolicyCtx (Globals × Ptr × PolicyCall) RbacAnswer where
  initial ctx := ∃ g allocOk, scfCreatePolicyCtx g allocOk = some ctx
  step ctx call := call.2.2.apply lib call.1 call.2.1 ctx

/-- The parameters of the automatic key update are within the limits that
`SCF_SetKeyAutoUpdateParam` checks. -/
structure ValidUpdateParams (ctx : SCFPolicyCtx) : Prop where
  minTime : minKeyUpdateTime ≤ ctx.keyUpdateTime
  maxTime : ctx.keyUpdateTime ≤ maxKeyUpdateTime
  minTraffic : minKeyUpdateTraffic ≤ ctx.keyUpdateTraffic

/-- The parameters depend on these two fields only. -/
theorem ValidUpdateParams.of_eq {ctx ctx' : SCFPolicyCtx} (h : ValidUpdateParams ctx)
    (htime : ctx'.keyUpdateTime = ctx.keyUpdateTime)
    (htraffic : ctx'.keyUpdateTraffic = ctx.keyUpdateTraffic) : ValidUpdateParams ctx' :=
  ⟨htime ▸ h.minTime, htime ▸ h.maxTime, htraffic ▸ h.minTraffic⟩

theorem validUpdateParams_newPolicyCtx : ValidUpdateParams newPolicyCtx :=
  ⟨by decide, by decide, by decide⟩

theorem ValidUpdateParams.configStep {ctx ctx' : SCFPolicyCtx} (h : ValidUpdateParams ctx)
    (hstep : ConfigStep ctx ctx') : ValidUpdateParams ctx' := by
  cases hstep with
  | setting hstep =>
    cases hstep with
    | updateParams hmin hmax htraffic => exact ⟨hmin, hmax, htraffic⟩
    | _ => exact h.of_eq rfl rfl
  | pskFind cb hcfg => exact h.of_eq rfl rfl
  | pskUse cb hcfg => exact h.of_eq rfl rfl

theorem ValidUpdateParams.rbacStep {ctx ctx' : SCFPolicyCtx} (h : ValidUpdateParams ctx)
    (hstep : RbacStep ctx ctx') : ValidUpdateParams ctx' := by
  cases hstep <;> exact h.of_eq rfl rfl

theorem ValidUpdateParams.setPolicyStep {role : SCFRole} {verifyMode : SCFVerifyMode}
    {policyMode : SCFPolicyMode} {ctx ctx' : SCFPolicyCtx} (h : ValidUpdateParams ctx)
    (hstep : SetPolicyStep role verifyMode policyMode ctx ctx') : ValidUpdateParams ctx' := by
  have hinit : ∀ {ctx₁}, InitStep (ctx.setPolicy role verifyMode policyMode) ctx₁ →
      ValidUpdateParams ctx₁ := by
    intro ctx₁ hinit
    obtain ⟨cfg, rfl⟩ := hinit.eq_setSslConfig
    exact h.of_eq rfl rfl
  cases hstep with
  | rejected => exact h
  | failed hstep => exact hinit hstep
  | done hstep =>
    unfold setVerifyMode
    split
    · exact hinit hstep
    · exact (hinit hstep).of_eq rfl rfl

/-- In every context the parameters of the automatic update are within their limits. -/
theorem reachable_validUpdateParams {lib : LibCrypto} {ctx : SCFPolicyCtx}
    (h : (policyMachine lib).Reachable ctx) : ValidUpdateParams ctx := by
  refine Machine.Reachable.invariant ?_ ?_ h
  · rintro ctx ⟨g, allocOk, hnew⟩
    rw [eq_newPolicyCtx hnew]
    exact validUpdateParams_newPolicyCtx
  · rintro ctx ⟨g, ctxPtr, call⟩ hctx
    cases call with
    | setPolicy role verifyMode policyMode env =>
      exact hctx.setPolicyStep (scfSetPolicy_step g ctxPtr role verifyMode policyMode env ctx)
    | settings call => exact hctx.configStep (call.apply_step g ctxPtr ctx)
    | rbac call =>
      exact (RbacCall.guarantees lib g call).invariant (fun _ _ hstep h => h.rbacStep hstep) hctx

end Scf
