import ScfSecurity.Library.Interleaving
import ScfSecurity.Rbac.Decision
import Mathlib.Order.Hom.Basic
import Mathlib.Data.List.NodupEquivFin

/-!
# Permission checks under concurrent changes

A permission check reads the enabled flag, the role map and the rules in separate
atomic sections, and other threads may change the context in between. A grant is thus
justified by three states of the context, in the order in which it had them, and not
always by a single one.

## Main definitions

- `rbacBody`: the RBAC calls as concurrent calls on one context
- `mix`: the context with the flag, the role map and the rules of three contexts

## Main results

- `resume_check_success`: what the sections of a granting check saw
-/

namespace Scf

open Automaton

def rbacBody (lib : LibCrypto) (call : Globals × RbacCall) :
    Resumption SCFPolicyCtx RbacAnswer :=
  call.2.body lib call.1

/-- Flag, role map and rules of three contexts. -/
def mix (flag roles rules : SCFPolicyCtx) : SCFPolicyCtx :=
  { rules with rbacEnabled := flag.rbacEnabled, nodeRoleMap := roles.nodeRoleMap }

section

variable {g : Globals} {lib : LibCrypto} {cert : X509} {targetNodeId : CString}
  {resourceType : UInt32} {action : SCFResourceAction}

theorem checkAtomic_mix_of_decision (hg : g.scfInitialized = true)
    (hreq : ValidRequest targetNodeId resourceType action) {nodeId : CString}
    (hid : certNodeId lib cert = .valid nodeId) {role : SCFRbacRole}
    {flag roles rules : SCFPolicyCtx} (hflag : flag.rbacEnabled = true)
    (hrole : localRole lib cert nodeId roles = .ok role)
    (hdec : decision ⟨nodeId, targetNodeId, resourceType, action⟩ role rules = .success) :
    checkAtomic g lib cert targetNodeId resourceType action (mix flag roles rules) =
      .success := by
  have hrole' : localRole lib cert nodeId (mix flag roles rules) = .ok role := hrole
  have hflag' : (mix flag roles rules).rbacEnabled = true := hflag
  rw [checkAtomic_eq hg lib cert hreq, hid, hflag']
  simp only [hrole', Bool.true_eq_false, if_false]
  exact hdec

/-- The atomic answer depends only on the flag, on the role of the local node and on the
rules. -/
theorem checkAtomic_congr {ctx ctx' : SCFPolicyCtx}
    (hflag : ctx.rbacEnabled = ctx'.rbacEnabled)
    (hroles : ∀ nodeId, certNodeId lib cert = .valid nodeId →
      ctx.nodeRoleMap[nodeId.bytes]? = ctx'.nodeRoleMap[nodeId.bytes]?)
    (hrules : ctx.policyRuleMap = ctx'.policyRuleMap) :
    checkAtomic g lib cert targetNodeId resourceType action ctx' =
      checkAtomic g lib cert targetNodeId resourceType action ctx := by
  by_cases hreq : ValidRequest targetNodeId resourceType action
  · cases hg : g.scfInitialized with
    | false => simp [checkAtomic, scfCheckResourcePermission_of_not_init hg lib cert hreq]
    | true =>
      rw [checkAtomic_eq hg lib cert hreq, checkAtomic_eq hg lib cert hreq, hflag]
      cases hid : certNodeId lib cert with
      | absent => rfl
      | malformed => rfl
      | valid nodeId =>
        have hrole : localRole lib cert nodeId ctx = localRole lib cert nodeId ctx' := by
          simp only [localRole, hroles nodeId hid]
        simp only [hrole, decision, hrules]
  · simp [checkAtomic, scfCheckResourcePermission_of_not_validRequest g lib cert hreq]

/-- If identity and role are found, the role is that of the one state of the role map
that was seen, or the certificate names it and no state was seen. -/
theorem resume_resolveLocalIdentity (hg : g.scfInitialized = true)
    {seen : List SCFPolicyCtx} {a : Errno × Option (CString × SCFRbacRole)}
    (h : (resolveLocalIdentity g lib .valid cert).resume seen = some a) :
    a.1 ≠ .success ∨
    ∃ nodeId role, a = (.success, some (nodeId, role)) ∧
      certNodeId lib cert = .valid nodeId ∧
      ((seen = [] ∧ ∀ ctx, localRole lib cert nodeId ctx = .ok role) ∨
        ∃ ctx, seen = [ctx] ∧ localRole lib cert nodeId ctx = .ok role) := by
  rw [resolveLocalIdentity_eq hg] at h
  cases hid : certNodeId lib cert with
  | absent =>
    rw [hid] at h
    obtain ⟨_, rfl⟩ := Resumption.resume_done_eq_some.mp h
    exact .inl (by decide)
  | malformed =>
    rw [hid] at h
    obtain ⟨_, rfl⟩ := Resumption.resume_done_eq_some.mp h
    exact .inl (by decide)
  | valid nodeId =>
    rw [hid] at h
    cases hcert : certRole lib cert with
    | malformed =>
      rw [hcert] at h
      obtain ⟨_, rfl⟩ := Resumption.resume_done_eq_some.mp h
      exact .inl (by decide)
    | valid role =>
      rw [hcert] at h
      obtain ⟨rfl, rfl⟩ := Resumption.resume_done_eq_some.mp h
      exact .inr ⟨nodeId, role, rfl, rfl, .inl ⟨rfl, fun ctx => by simp [localRole, hcert]⟩⟩
    | absent =>
      rw [hcert] at h
      obtain ⟨ctx, rfl, rfl⟩ := Resumption.resume_load_eq_some.mp h
      cases hmap : ctx.nodeRoleMap[nodeId.bytes]? with
      | none => exact .inl (by simp)
      | some role =>
        exact .inr ⟨nodeId, role, by simp, rfl,
          .inr ⟨ctx, rfl, by simp [localRole, hcert, hmap]⟩⟩

/-- The sections of a granting check saw three states that together grant the
request. -/
theorem resume_check_success {seen : List SCFPolicyCtx}
    (h : (scfCheckResourcePermission g lib .valid (some cert) (some targetNodeId)
      resourceType action).resume seen = some .success) :
    ∃ flag roles rules,
      (seen = [flag, roles, rules] ∨ (seen = [flag, rules] ∧ roles = rules)) ∧
      checkAtomic g lib cert targetNodeId resourceType action (mix flag roles rules) =
        .success := by
  by_cases hreq : ValidRequest targetNodeId resourceType action
  · cases hg : g.scfInitialized with
    | false =>
      rw [scfCheckResourcePermission_of_not_init hg lib cert hreq] at h
      simp at h
    | true =>
      rw [scfCheckResourcePermission_eq hg lib cert hreq] at h
      obtain ⟨_, first, rest, rfl, hfirst, hrest⟩ := Resumption.resume_bind_eq_some.mp h
      obtain ⟨flag, rfl, rfl⟩ := Resumption.resume_load_eq_some.mp hfirst
      cases hflag : flag.rbacEnabled with
      | false => simp [hflag] at hrest
      | true =>
        simp only [hflag, Bool.not_true, Bool.false_eq_true, if_false] at hrest
        obtain ⟨⟨ret, identity⟩, first, rest, rfl, hident, hrules⟩ :=
          Resumption.resume_bind_eq_some.mp hrest
        rcases resume_resolveLocalIdentity hg hident with
          hne | ⟨nodeId, role, heq, hid, hseen⟩
        · -- an error of the identity is passed on
          dsimp only at hrules hne
          split at hrules
          · exact absurd rfl hne
          · exact absurd (Resumption.resume_done_eq_some.mp hrules).2 hne
        · cases heq
          obtain ⟨rules, rfl, hdec⟩ := Resumption.resume_load_eq_some.mp hrules
          obtain ⟨rfl, hrole⟩ | ⟨roles, rfl, hrole⟩ := hseen
          · exact ⟨flag, rules, rules, .inr ⟨rfl, rfl⟩,
              checkAtomic_mix_of_decision hg hreq hid hflag (hrole rules) hdec⟩
          · exact ⟨flag, roles, rules, .inl rfl,
              checkAtomic_mix_of_decision hg hreq hid hflag hrole hdec⟩
  · rw [scfCheckResourcePermission_of_not_validRequest g lib cert hreq] at h
    simp at h

/-- A grant is justified by the flag of one state, the role map of a state that is not
earlier and the rules of a state that is not earlier again, all between invocation and
return. If flag and role of the local node did not change in between, the last of these
states alone grants the request. -/
theorem check_granted_by_states {ι : Type*} [DecidableEq ι]
    {C E F : Config ι (Globals × RbacCall) SCFPolicyCtx RbacAnswer}
    {pre mid post : List (Event ι (Globals × RbacCall) RbacAnswer ×
      Config ι (Globals × RbacCall) SCFPolicyCtx RbacAnswer)} {t : ι} {call : Globals × RbacCall}
    (hcall : call = (g, .checkResourcePermission .valid (some cert) (some targetNodeId)
      resourceType action))
    (hrun : Run (rbacBody lib) C
      (pre ++ (.invoke t call, E) :: mid ++ (.ret t call (.code .success), F) :: post))
    (hmid : ∀ x ∈ mid, ¬ x.1.Delimits t) :
    ∃ (i j k : ℕ) (flag roles rules : SCFPolicyCtx), i ≤ j ∧ j ≤ k ∧
      (E.shared :: mid.map fun x => x.2.shared)[i]? = some flag ∧
      (E.shared :: mid.map fun x => x.2.shared)[j]? = some roles ∧
      (E.shared :: mid.map fun x => x.2.shared)[k]? = some rules ∧
      checkAtomic g lib cert targetNodeId resourceType action (mix flag roles rules) =
        .success ∧
      (rules.rbacEnabled = flag.rbacEnabled →
        (∀ nodeId, certNodeId lib cert = .valid nodeId →
          rules.nodeRoleMap[nodeId.bytes]? = roles.nodeRoleMap[nodeId.bytes]?) →
        checkAtomic g lib cert targetNodeId resourceType action rules = .success) := by
  subst hcall
  obtain ⟨seen, hsub, hr⟩ := hrun.observed_call hmid
  obtain ⟨a, first, rest, rfl, hfirst, hrest⟩ := Resumption.resume_bind_eq_some.mp hr
  obtain ⟨rfl, ha⟩ := Resumption.resume_done_eq_some.mp hrest
  cases ha
  rw [List.append_nil] at hsub
  obtain ⟨flag, roles, rules, hseen, hgrant⟩ := resume_check_success hfirst
  have hsame : rules.rbacEnabled = flag.rbacEnabled →
      (∀ nodeId, certNodeId lib cert = .valid nodeId →
        rules.nodeRoleMap[nodeId.bytes]? = roles.nodeRoleMap[nodeId.bytes]?) →
      checkAtomic g lib cert targetNodeId resourceType action rules = .success := by
    intro hflag hroles
    rw [← hgrant]
    exact checkAtomic_congr hflag.symm (fun nodeId hid => (hroles nodeId hid).symm) rfl
  -- the sections saw a subsequence of the states, so their indices are ordered
  obtain ⟨f, hf⟩ := List.sublist_iff_exists_orderEmbedding_getElem?_eq.mp hsub
  obtain rfl | ⟨rfl, rfl⟩ := hseen
  · refine ⟨f 0, f 1, f 2, flag, roles, rules, f.monotone (by omega), f.monotone (by omega),
      ?_, ?_, ?_, hgrant, hsame⟩
    · exact (hf 0).symm
    · exact (hf 1).symm
    · exact (hf 2).symm
  · refine ⟨f 0, f 1, f 1, flag, roles, roles, f.monotone (by omega), le_rfl, ?_, ?_, ?_,
      hgrant, hsame⟩
    · exact (hf 0).symm
    · exact (hf 1).symm
    · exact (hf 1).symm

end

/-- RBAC is enabled, node `a` is a master, and a rule denies it files of node `b`. -/
def deniedMasterCtx : SCFPolicyCtx :=
  ((rbacMachine .shortForm).step
    ((rbacMachine .shortForm).step
      ((rbacMachine .shortForm).step newPolicyCtx (.ready, .enableRbac .valid true)).2
      (.ready, .setNodeRoleMapping .valid (some nodeA) .master true)).2
    (.ready, .addPolicyRule .valid (some nodeA) (some nodeB) 1 1 .deny
      .valid true true)).2

theorem reachable_deniedMasterCtx : (rbacMachine .shortForm).Reachable deniedMasterCtx :=
  (((reachable_newPolicyCtx _).step _).step _).step _

/-- Node `a` asks for a file of node `b`. -/
def checkCall : Globals × RbacCall :=
  (.ready, .checkResourcePermission .valid (some certOfNodeA) (some nodeB) 1 1)

def demoteCall : Globals × RbacCall :=
  (.ready, .setNodeRoleMapping .valid (some nodeA) .slave true)

def removeRuleCall : Globals × RbacCall := (.ready, .removePolicyRule .valid 1)

/-- Node `a` is made a slave after its role is read and before the rules are, and only
then the denying rule is removed. -/
theorem run_deniedMaster :
    ∃ C₁ C₂ C₃ C₄ C₅ C₆ C₇ C₈ C₉ C₁₀ C₁₁,
      Run (rbacBody .shortForm) (⟨deniedMasterCtx, fun _ => none⟩ : Config ℕ _ _ _)
        ([] ++ (.invoke 0 checkCall, C₁) ::
          [(.tick 0, C₂), (.tick 0, C₃), (.invoke 1 demoteCall, C₄), (.tick 1, C₅),
            (.ret 1 demoteCall (.code .success), C₆), (.invoke 1 removeRuleCall, C₇),
            (.tick 1, C₈), (.ret 1 removeRuleCall (.code .success), C₉), (.tick 0, C₁₀)] ++
          [(.ret 0 checkCall (.code .success), C₁₁)]) ∧
      ∀ s ∈ [C₁, C₂, C₃, C₄, C₅, C₆, C₇, C₈, C₉, C₁₀].map Config.shared,
        checkAtomic .ready .shortForm certOfNodeA nodeB 1 1 s = .rbacDenied :=
  ⟨_, _, _, _, _, _, _, _, _, _, _,
    .cons (.invoke rfl _) (.cons (.tick rfl) (.cons (.tick rfl) (.cons (.invoke rfl _)
      (.cons (.tick rfl) (.cons (.ret rfl) (.cons (.invoke rfl _) (.cons (.tick rfl)
        (.cons (.ret rfl) (.cons (.tick rfl) (.cons (.ret rfl) .nil)))))))))), by decide⟩

/-- The check grants what it would deny in every state between its invocation and its
return. -/
theorem check_granted_by_no_state :
    ∃ (C E F : Config ℕ (Globals × RbacCall) SCFPolicyCtx RbacAnswer)
      (mid : List (Event ℕ (Globals × RbacCall) RbacAnswer ×
        Config ℕ (Globals × RbacCall) SCFPolicyCtx RbacAnswer)),
      (rbacMachine .shortForm).Reachable C.shared ∧
      Run (rbacBody .shortForm) C
        ((.invoke 0 checkCall, E) :: mid ++ [(.ret 0 checkCall (.code .success), F)]) ∧
      (∀ x ∈ mid, ¬ x.1.Delimits 0) ∧
      ∀ s ∈ E.shared :: mid.map fun x => x.2.shared,
        checkAtomic .ready .shortForm certOfNodeA nodeB 1 1 s ≠ .success := by
  obtain ⟨C₁, C₂, C₃, C₄, C₅, C₆, C₇, C₈, C₉, C₁₀, C₁₁, hrun, hdenied⟩ := run_deniedMaster
  refine ⟨_, C₁, C₁₁, _, reachable_deniedMasterCtx, hrun, by simp [Event.Delimits], ?_⟩
  intro s hs
  rw [hdenied s hs]
  decide

theorem check_granted_by_states_demoted :
    ∃ flag roles rules,
      checkAtomic .ready .shortForm certOfNodeA nodeB 1 1
        (mix flag roles rules) = .success := by
  obtain ⟨_, _, _, _, _, _, _, _, _, _, _, hrun, _⟩ := run_deniedMaster
  obtain ⟨_, _, _, flag, roles, rules, _, _, _, _, _, hgrant, _⟩ :=
    check_granted_by_states rfl hrun (by simp [Event.Delimits])
  exact ⟨flag, roles, rules, hgrant⟩

end Scf
