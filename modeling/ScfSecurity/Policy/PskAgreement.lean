import ScfSecurity.Policy.Consistency
import ScfSecurity.Policy.Object

/-!
# PSK callbacks in the context and in the TLS configuration

A registered PSK callback is kept twice: the context holds the function, and the TLS
configuration holds the wrapper that calls it. `SCF_SetPolicy` puts a new configuration
without wrappers into the context and leaves the functions where they are.

## Main results

- `PskAgree.setPolicy_iff`: `SCF_SetPolicy` keeps the two together exactly if there are no
  callbacks, or no new configuration
- `pskFaithful_throughout_iff`: so the two agree in all states of a run exactly if this holds
  at all of its `SCF_SetPolicy` calls
-/

namespace Scf

open Automaton

/-- The wrapper of the find callback is installed in the present configuration. -/
def SCFPolicyCtx.pskFindInstalled (ctx : SCFPolicyCtx) : Bool :=
  ctx.sslConfig.any SslCtx.pskFindSessionCallback

/-- The wrapper of the use callback is installed in the present configuration. -/
def SCFPolicyCtx.pskUseInstalled (ctx : SCFPolicyCtx) : Bool :=
  ctx.sslConfig.any SslCtx.pskUseSessionCallback

/-- A wrapper is installed exactly if the context has the callback. -/
structure PskAgree (ctx : SCFPolicyCtx) : Prop where
  find : ctx.pskFindInstalled = ctx.pskFindSessionCb.isSome
  use : ctx.pskUseInstalled = ctx.pskUseSessionCb.isSome

/-- Which PSK callbacks a handshake of the object calls: those that the object has and whose
wrapper its connection has. -/
def SCFPolicyObj.pskUsed (obj : SCFPolicyObj) : Bool × Bool :=
  (obj.sslCtx.any (·.pskFindSessionCallback) && obj.pskFindSessionCb.isSome,
    obj.sslCtx.any (·.pskUseSessionCallback) && obj.pskUseSessionCb.isSome)

/-- The context and the configuration agree on the callbacks, and an object that is created
from the context and bound to a socket calls exactly those of the context. -/
structure PskFaithful (ctx : SCFPolicyCtx) : Prop where
  agree : PskAgree ctx
  object : ∀ {g g' : Globals} {ctxPtr objPtr : Ptr} {clock : Option UInt64} {allocOk : Bool}
    {fd : Int32} {env : SslEnv} {ctx' : SCFPolicyCtx} {obj obj' : SCFPolicyObj},
    scfCreatePolicyObj g ctxPtr clock allocOk ctx = (some obj, ctx') →
      scfSetFd g' objPtr fd env ctx' obj = (.success, obj') →
        obj'.pskUsed = (ctx.pskFindSessionCb.isSome, ctx.pskUseSessionCb.isSome)

/-- A new connection has the wrappers that the configuration has. -/
theorem pskUsed_of_scfSetFd {g : Globals} {objPtr : Ptr} {fd : Int32} {env : SslEnv}
    {ctx : SCFPolicyCtx} {obj obj' : SCFPolicyObj} (hnew : obj.sslCtx = none)
    (h : scfSetFd g objPtr fd env ctx obj = (.success, obj')) :
    obj'.pskUsed = (ctx.pskFindInstalled && obj.pskFindSessionCb.isSome,
      ctx.pskUseInstalled && obj.pskUseSessionCb.isSome) := by
  obtain ⟨ssl, hssl, rfl⟩ := scfSetFd_success h
  obtain ⟨cfg, hcfg, rfl⟩ := sslForFd_ok hnew hssl
  rw [SCFPolicyCtx.pskFindInstalled, SCFPolicyCtx.pskUseInstalled, hcfg]
  rfl

theorem PskAgree.faithful {ctx : SCFPolicyCtx} (h : PskAgree ctx) : PskFaithful ctx := by
  refine ⟨h, fun {g g' ctxPtr objPtr clock allocOk fd env ctx' obj obj'} hcreate hfd => ?_⟩
  obtain ⟨now, -, rfl, rfl⟩ := scfCreatePolicyObj_some hcreate
  have hfind : (ctx.pskFindInstalled && ctx.pskFindSessionCb.isSome) =
      ctx.pskFindSessionCb.isSome := by
    rw [h.find, Bool.and_self]
  have huse : (ctx.pskUseInstalled && ctx.pskUseSessionCb.isSome) =
      ctx.pskUseSessionCb.isSome := by
    rw [h.use, Bool.and_self]
  exact (pskUsed_of_scfSetFd rfl hfd).trans (Prod.ext hfind huse)

/-! ### One call -/

/-- Whether the wrappers are installed depends on the authentication part only. -/
theorem PskAgree.of_auth {ctx ctx' : SCFPolicyCtx} (h : PskAgree ctx)
    (hauth : ctx'.sslConfig.map SslCtx.auth = ctx.sslConfig.map SslCtx.auth)
    (hfind : ctx'.pskFindSessionCb = ctx.pskFindSessionCb)
    (huse : ctx'.pskUseSessionCb = ctx.pskUseSessionCb) : PskAgree ctx' := by
  have hany : ∀ f : UInt32 × Bool × Bool → Bool,
      ctx'.sslConfig.any (f ∘ SslCtx.auth) = ctx.sslConfig.any (f ∘ SslCtx.auth) := by
    intro f
    have hmap := congrArg (Option.any f) hauth
    rwa [Option.any_map, Option.any_map] at hmap
  refine ⟨?_, ?_⟩
  · rw [hfind, ← h.find]
    exact hany (·.2.1)
  · rw [huse, ← h.use]
    exact hany (·.2.2)

theorem PskAgree.configStep {ctx ctx' : SCFPolicyCtx} (h : PskAgree ctx)
    (hstep : ConfigStep ctx ctx') : PskAgree ctx' := by
  cases hstep with
  | setting hstep =>
    cases hstep with
    | config hauth => exact h.of_auth hauth rfl rfl
    | _ => exact h.of_auth rfl rfl rfl
  | pskFind cb hcfg =>
    refine ⟨rfl, ?_⟩
    have huse := h.use
    rw [SCFPolicyCtx.pskUseInstalled, hcfg] at huse
    exact huse
  | pskUse cb hcfg =>
    refine ⟨?_, rfl⟩
    have hfind := h.find
    rw [SCFPolicyCtx.pskFindInstalled, hcfg] at hfind
    exact hfind

theorem PskAgree.rbacStep {ctx ctx' : SCFPolicyCtx} (h : PskAgree ctx)
    (hstep : RbacStep ctx ctx') : PskAgree ctx' := by
  cases hstep <;> exact h.of_auth rfl rfl rfl

/-- The context has no PSK callbacks if the call puts a new configuration into it. -/
def PskFreePolicy (g : Globals) (ctxPtr : Ptr) (policy : PolicyArgs) (env : SslCtxEnv)
    (ctx : SCFPolicyCtx) : Prop :=
  PolicyAccepted g ctxPtr policy → env.creates = true →
    ctx.pskFindSessionCb = none ∧ ctx.pskUseSessionCb = none

/-- Without wrappers agreement means that there are no callbacks. -/
theorem pskAgree_iff_of_not_installed {ctx : SCFPolicyCtx} (hfind : ctx.pskFindInstalled = false)
    (huse : ctx.pskUseInstalled = false) :
    PskAgree ctx ↔ ctx.pskFindSessionCb = none ∧ ctx.pskUseSessionCb = none := by
  constructor
  · intro h
    have hfind' := h.find
    have huse' := h.use
    rw [hfind] at hfind'
    rw [huse] at huse'
    exact ⟨Option.isNone_iff_eq_none.mp (Option.isSome_eq_false_iff.mp hfind'.symm),
      Option.isNone_iff_eq_none.mp (Option.isSome_eq_false_iff.mp huse'.symm)⟩
  · rintro ⟨h1, h2⟩
    exact ⟨by rw [hfind, h1]; rfl, by rw [huse, h2]; rfl⟩

/-- `SCF_SetPolicy` on a context in agreement leaves it so exactly if it does not take the
configuration away from under a callback. -/
theorem PskAgree.setPolicy_iff {g : Globals} {ctxPtr : Ptr} {env : SslCtxEnv}
    {ctx : SCFPolicyCtx} (h : PskAgree ctx) (policy : PolicyArgs) :
    PskAgree (policy.set g ctxPtr env ctx).2 ↔ PskFreePolicy g ctxPtr policy env ctx := by
  have hout := scfSetPolicy_outcome g ctxPtr policy env ctx
  generalize policy.set g ctxPtr env ctx = out at hout
  cases hout with
  | rejected hacc hret => exact iff_of_true h fun hacc' => absurd hacc' hacc
  | notCreated hacc henv hret =>
    refine iff_of_true (h.of_auth rfl rfl rfl) fun _ hcreates => ?_
    exact absurd (henv.symm.trans hcreates) (by decide)
  | lost hacc henv hbounds hret =>
    rw [pskAgree_iff_of_not_installed rfl rfl]
    exact ⟨fun hnone _ _ => hnone, fun hfree => hfree hacc henv⟩
  | @done cfg hacc henv hbounds hbuilt hfind huse =>
    refine Iff.trans (pskAgree_iff_of_not_installed hfind huse) ?_
    exact ⟨fun hnone _ _ => hnone, fun hfree => hfree hacc henv⟩

/-! ### Runs -/

/-- No `SCF_SetPolicy` of the run replaces the configuration while there is a callback; the
other calls are not restricted. -/
def PolicyCall.PskFree (ctx : SCFPolicyCtx) : Globals × Ptr × PolicyCall → Prop
  | (g, ctxPtr, .setPolicy role verifyMode policyMode env) =>
    PskFreePolicy g ctxPtr ⟨role, verifyMode, policyMode⟩ env ctx
  | _ => True

theorem PskAgree.step_iff {lib : LibCrypto} {ctx : SCFPolicyCtx} (h : PskAgree ctx)
    (call : Globals × Ptr × PolicyCall) :
    PskAgree ((policyMachine lib).step ctx call).2 ↔ PolicyCall.PskFree ctx call := by
  obtain ⟨g, ctxPtr, call⟩ := call
  cases call with
  | setPolicy role verifyMode policyMode env =>
    exact h.setPolicy_iff ⟨role, verifyMode, policyMode⟩
  | settings call => exact iff_of_true (h.configStep (call.apply_step g ctxPtr ctx)) trivial
  | rbac call =>
    refine iff_of_true ?_ trivial
    exact (RbacCall.guarantees lib g call).invariant (fun _ _ hstep h => h.rbacStep hstep) h

/-- In all states of a run context, configuration and new objects agree on the PSK callbacks,
exactly if each `SCF_SetPolicy` that replaces the configuration finds no callback. -/
theorem pskFaithful_throughout_iff (lib : LibCrypto) (calls : List (Globals × Ptr × PolicyCall)) :
    (policyMachine lib).Throughout PskFaithful newPolicyCtx calls ↔
      (policyMachine lib).Admits PolicyCall.PskFree newPolicyCtx calls := by
  have hnew : PskAgree newPolicyCtx := ⟨rfl, rfl⟩
  refine Machine.throughout_iff (fun ctx call hctx => ?_) hnew.faithful calls
  rw [← hctx.agree.step_iff call]
  exact ⟨fun h => h.agree, fun h => h.faithful⟩

/-- A policy, a find callback, and the policy once more, all with success: the callback is still
in the context, but neither the configuration nor a new object knows of it. -/
theorem setPolicy_drops_pskFind :
    let calls : List (Globals × Ptr × PolicyCall) :=
      [(.ready, .valid, .setPolicy .server .default .high .plain),
       (.ready, .valid, .settings (.setPskFindSessionCallback (some 0x1000))),
       (.ready, .valid, .setPolicy .server .default .high .plain)]
    let ctx := (policyMachine .shortForm).after newPolicyCtx calls
    (policyMachine .shortForm).answers newPolicyCtx calls =
        [.code .success, .code .success, .code .success] ∧
      ctx.pskFindSessionCb = some 0x1000 ∧ ctx.pskFindInstalled = false ∧
      ∃ obj obj' ctx', scfCreatePolicyObj .ready .valid (some 0) true ctx = (some obj, ctx') ∧
        scfSetFd .ready .valid 3 .plain ctx' obj = (.success, obj') ∧
        obj'.pskFindSessionCb = some 0x1000 ∧ obj'.pskUsed = (false, false) := by
  refine ⟨rfl, rfl, rfl, _, _, _, rfl, rfl, rfl, rfl⟩

end Scf
