import ScfSecurity.Library.Interleaving
import ScfSecurity.Tls.Handshake
import ScfSecurity.Rbac.Invariant

/-!
# Freezing the role map

Threads change the role map and run handshakes on objects of one context at the same
time. `SCF_Connect` and `SCF_Accept` freeze the map after the handshake and before they
return, under the lock that the changes of the map hold, so no change can follow a
successful return.

## Main definitions

- `Shared`: the context and its objects
- `MapCall`: the calls that run concurrently
- `RoleMapGuarantee`: what every atomic section does to the shared state

## Main results

- `mapCall_ensures`: every call keeps to the guarantee, and a handshake call returns
  success only with the map frozen
-/

namespace Scf

open Automaton

/-- A context and the objects created from it. An identifier without an object stands
for the null pointer. -/
structure Shared where
  ctx : SCFPolicyCtx
  objs : ℕ → Option SCFPolicyObj

def Shared.setCtx (ctx : SCFPolicyCtx) (s : Shared) : Shared := { s with ctx := ctx }

/-- The handshake on one object, as one section. -/
def handshakeSection (g : Globals) (handshake : SCFPolicyObj → Errno × SCFPolicyObj)
    (obj : ℕ) (s : Shared) : Errno × Shared :=
  match s.objs obj with
  | none => (.nullInput, s)
  | some o =>
    if o.role = .none then (.nullInput, s)
    else if !g.scfInitialized then (.notInit, s)
    else if !g.adaptor then (.invalidParam, s)
    else
      let (ret, o) := handshake o
      (ret, { s with objs := Function.update s.objs obj (some o) })

/-- The common body of `SCF_Connect` and `SCF_Accept`: the handshake on the object, then
the freeze under the lock of the role map. -/
def scfHandshake (g : Globals) (handshake : SCFPolicyObj → Errno × SCFPolicyObj)
    (obj : ℕ) : Resumption Shared Errno := do
  let ret ← .critical (handshakeSection g handshake obj)
  if ret = .success then
    (freezeNodeRoleMapping .valid).zoom Shared.ctx Shared.setCtx
    .done .success
  else .done ret

def scfConnect (g : Globals) (obj : ℕ) (outcome : HandshakeOutcome) : Resumption Shared Errno :=
  scfHandshake g (adaptorConnect outcome) obj

def scfAccept (g : Globals) (obj : ℕ) (outcome : HandshakeOutcome) : Resumption Shared Errno :=
  scfHandshake g (adaptorAccept outcome) obj

/-- The calls that run concurrently, with their arguments and with what the environment
decides. -/
inductive MapCall where
  | setNodeRoleMapping (ctxPtr : Ptr) (nodeId : Option CString) (role : SCFRbacRole)
      (allocOk : Bool)
  | removeNodeRoleMapping (ctxPtr : Ptr) (nodeId : Option CString)
  | connect (obj : ℕ) (outcome : HandshakeOutcome)
  | accept (obj : ℕ) (outcome : HandshakeOutcome)

def MapCall.body : Globals × MapCall → Resumption Shared Errno
  | (g, setNodeRoleMapping ctxPtr nodeId role allocOk) =>
    (scfSetNodeRoleMapping g ctxPtr nodeId role allocOk).zoom Shared.ctx Shared.setCtx
  | (g, removeNodeRoleMapping ctxPtr nodeId) =>
    (scfRemoveNodeRoleMapping g ctxPtr nodeId).zoom Shared.ctx Shared.setCtx
  | (g, connect obj outcome) => scfConnect g obj outcome
  | (g, accept obj outcome) => scfAccept g obj outcome

/-- The call is a handshake. -/
def MapCall.IsHandshake : MapCall → Prop
  | connect _ _ | accept _ _ => True
  | _ => False

/-- The call changes the map, with valid arguments and an initialised library. -/
def MapCall.IsValidChange : Globals × MapCall → Prop
  | (g, setNodeRoleMapping ctxPtr nodeId role _) =>
    g.scfInitialized = true ∧ ctxPtr = .valid ∧ isValidNodeId nodeId = true ∧
      isValidRole role = true
  | (g, removeNodeRoleMapping ctxPtr nodeId) =>
    g.scfInitialized = true ∧ ctxPtr = .valid ∧ isValidNodeId nodeId = true
  | _ => False

/-- Some object of the context has completed its handshake. -/
def Shared.SomeFinished (s : Shared) : Prop := ∃ id obj, s.objs id = some obj ∧ Finished obj

/-- What one atomic section does to the shared state: a frozen map stays as it is, a
completed handshake stays completed, the map gets frozen only if there is one, and the
map stays well formed. -/
structure RoleMapGuarantee (s s' : Shared) : Prop where
  frozen : s.ctx.nodeRoleMapFrozen = true →
    s'.ctx.nodeRoleMapFrozen = true ∧ s'.ctx.nodeRoleMap = s.ctx.nodeRoleMap
  finished : s.SomeFinished → s'.SomeFinished
  justified : s'.ctx.nodeRoleMapFrozen = true →
    s.ctx.nodeRoleMapFrozen = true ∨ s'.SomeFinished
  roleMap : RoleMapInvariant s.ctx → RoleMapInvariant s'.ctx

theorem RoleMapGuarantee.refl (s : Shared) : RoleMapGuarantee s s :=
  ⟨fun h => ⟨h, rfl⟩, id, Or.inl, id⟩

theorem RoleMapGuarantee.trans {s s' s'' : Shared} (h : RoleMapGuarantee s s')
    (h' : RoleMapGuarantee s' s'') : RoleMapGuarantee s s'' := by
  refine ⟨?_, fun hf => h'.finished (h.finished hf), ?_, fun hm => h'.roleMap (h.roleMap hm)⟩
  · intro hf
    obtain ⟨hf', hm⟩ := h.frozen hf
    obtain ⟨hf'', hm'⟩ := h'.frozen hf'
    exact ⟨hf'', hm'.trans hm⟩
  · intro hf
    obtain hf' | hfin := h'.justified hf
    · obtain hf0 | hfin := h.justified hf'
      · exact .inl hf0
      · exact .inr (h'.finished hfin)
    · exact .inr hfin

/-- Any number of sections together keep to the guarantee. -/
theorem roleMapGuarantee_of_steps {s s' : Shared}
    (h : Relation.ReflTransGen RoleMapGuarantee s s') : RoleMapGuarantee s s' := by
  induction h with
  | refl => exact .refl s
  | tail _ hs ih => exact ih.trans hs

/-- A section that changes the context as an RBAC call may, and does not freeze it. -/
theorem roleMapGuarantee_setCtx (s : Shared) (ctx : SCFPolicyCtx)
    (h : RbacStep s.ctx ctx ∧ ctx.nodeRoleMapFrozen = s.ctx.nodeRoleMapFrozen) :
    RoleMapGuarantee s (Shared.setCtx ctx s) := by
  obtain ⟨hstep, hfrozen⟩ := h
  refine ⟨?_, id, ?_, fun hm => hstep.roleMapInvariant hm⟩
  · intro hf
    refine ⟨hfrozen.trans hf, ?_⟩
    -- the map is changed only after the test of the flag
    cases hstep with
    | setRole _ _ _ _ hopen => exact absurd hf (by simp [hopen])
    | removeRole _ hopen => exact absurd hf (by simp [hopen])
    | _ => rfl
  · intro hf
    exact .inl (hfrozen.symm.trans hf)

theorem scfSetNodeRoleMapping_frozen (g : Globals) (ctxPtr : Ptr) (nodeId : Option CString)
    (role : SCFRbacRole) (allocOk : Bool) :
    (scfSetNodeRoleMapping g ctxPtr nodeId role allocOk).Guarantees
      fun ctx ctx' => ctx'.nodeRoleMapFrozen = ctx.nodeRoleMapFrozen := by
  unfold scfSetNodeRoleMapping
  repeat' split
  all_goals try exact Resumption.guarantees_done _ _
  rw [Resumption.guarantees_critical]
  intro ctx
  unfold setMappingLocked
  split_ifs <;> rfl

theorem scfRemoveNodeRoleMapping_frozen (g : Globals) (ctxPtr : Ptr)
    (nodeId : Option CString) :
    (scfRemoveNodeRoleMapping g ctxPtr nodeId).Guarantees
      fun ctx ctx' => ctx'.nodeRoleMapFrozen = ctx.nodeRoleMapFrozen := by
  unfold scfRemoveNodeRoleMapping
  repeat' split
  all_goals try exact Resumption.guarantees_done _ _
  rw [Resumption.guarantees_critical]
  intro ctx
  unfold removeMappingLocked
  split_ifs <;> rfl

theorem handshakeSection_cases (g : Globals)
    (handshake : SCFPolicyObj → Errno × SCFPolicyObj) (obj : ℕ) (s : Shared) :
    ((handshakeSection g handshake obj s).1 ≠ .success ∧
      (handshakeSection g handshake obj s).2 = s) ∨
    ∃ o, s.objs obj = some o ∧
      handshakeSection g handshake obj s =
        ((handshake o).1,
          { s with objs := Function.update s.objs obj (some (handshake o).2) }) := by
  unfold handshakeSection
  cases hobj : s.objs obj with
  | none => exact .inl ⟨by simp, rfl⟩
  | some o =>
    dsimp only
    split_ifs
    · exact .inl ⟨by simp, rfl⟩
    · exact .inl ⟨by simp, rfl⟩
    · exact .inl ⟨by simp, rfl⟩
    · exact .inr ⟨o, rfl, rfl⟩

/-- What a call establishes when it returns. -/
def MapCall.Post (call : Globals × MapCall) (r : Errno) (s : Shared) : Prop :=
  call.2.IsHandshake → r = .success → s.ctx.nodeRoleMapFrozen = true

theorem MapCall.Post.stable (call : Globals × MapCall) (r : Errno) (s s' : Shared)
    (hG : RoleMapGuarantee s s') (h : MapCall.Post call r s) : MapCall.Post call r s' :=
  fun hcall hr => (hG.frozen (h hcall hr)).1

section Handshake

variable (handshake : SCFPolicyObj → Errno × SCFPolicyObj)
  (hfin : ∀ o, (handshake o).1 = .success → Finished (handshake o).2)
  (hkeep : ∀ o, Finished o → Finished (handshake o).2)

include hkeep in
/-- The handshake section keeps to the guarantee. -/
theorem handshakeSection_guarantee (g : Globals) (obj : ℕ) (s : Shared) :
    RoleMapGuarantee s (handshakeSection g handshake obj s).2 := by
  obtain ⟨_, hs⟩ | ⟨o, ho, heq⟩ := handshakeSection_cases g handshake obj s
  · rw [hs]
    exact .refl s
  · rw [heq]
    refine ⟨fun h => ⟨h, rfl⟩, ?_, Or.inl, id⟩
    rintro ⟨id, o', ho', hfin'⟩
    by_cases hid : id = obj
    · subst hid
      have hoo : o = o' := Option.some.inj (ho.symm.trans ho')
      exact ⟨id, (handshake o).2, Function.update_self _ _ _, hkeep o (hoo ▸ hfin')⟩
    · exact ⟨id, o', by simpa [Function.update_of_ne hid] using ho', hfin'⟩

include hfin in
/-- If the handshake section reports success, some handshake is completed. -/
theorem handshakeSection_finished {g : Globals} {obj : ℕ} {s : Shared}
    (h : (handshakeSection g handshake obj s).1 = .success) :
    (handshakeSection g handshake obj s).2.SomeFinished := by
  obtain ⟨hne, _⟩ | ⟨o, ho, heq⟩ := handshakeSection_cases g handshake obj s
  · exact absurd h hne
  · rw [heq] at h ⊢
    exact ⟨obj, (handshake o).2, Function.update_self _ _ _, hfin o h⟩

include hfin hkeep in
/-- A handshake call keeps to the guarantee and returns success only with the map
frozen. -/
theorem scfHandshake_ensures (g : Globals) (obj : ℕ) (call : Globals × MapCall)
    (s : Shared) :
    (scfHandshake g handshake obj).Ensures RoleMapGuarantee (MapCall.Post call) s := by
  intro s₁ _
  refine ⟨handshakeSection_guarantee handshake hkeep g obj s₁, ?_⟩
  show Resumption.Ensures _ _
    (if (handshakeSection g handshake obj s₁).1 = .success then _ else _) _
  by_cases hret : (handshakeSection g handshake obj s₁).1 = .success
  · rw [if_pos hret]
    intro s₂ hs₂
    -- other threads ran in between, but the handshake stays completed
    have hdone : s₂.SomeFinished :=
      (roleMapGuarantee_of_steps hs₂).finished (handshakeSection_finished handshake hfin hret)
    refine ⟨⟨fun _ => ⟨rfl, rfl⟩, id, fun _ => .inr hdone, fun h => ?_⟩, fun _ _ => rfl⟩
    exact ⟨h.size, h.nodeId, h.role⟩
  · rw [if_neg hret]
    exact fun _ h => absurd h hret

end Handshake

/-- Every call keeps to the guarantee and establishes its postcondition, whatever runs
concurrently. -/
theorem mapCall_ensures (call : Globals × MapCall) (s : Shared) :
    (MapCall.body call).Ensures RoleMapGuarantee (MapCall.Post call) s := by
  obtain ⟨g, call⟩ := call
  cases call with
  | setNodeRoleMapping ctxPtr nodeId role allocOk =>
    refine Resumption.Guarantees.ensures (fun r s h => h.elim) ?_ s
    exact ((scfSetNodeRoleMapping_guarantees g ctxPtr nodeId role allocOk).and
      (scfSetNodeRoleMapping_frozen g ctxPtr nodeId role allocOk)).zoom
      roleMapGuarantee_setCtx
  | removeNodeRoleMapping ctxPtr nodeId =>
    refine Resumption.Guarantees.ensures (fun r s h => h.elim) ?_ s
    exact ((scfRemoveNodeRoleMapping_guarantees g ctxPtr nodeId).and
      (scfRemoveNodeRoleMapping_frozen g ctxPtr nodeId)).zoom roleMapGuarantee_setCtx
  | connect obj outcome =>
    exact scfHandshake_ensures (adaptorConnect outcome)
      (fun o => finished_of_adaptorHandshake) (fun o => Finished.adaptorHandshake) g obj _ s
  | accept obj outcome =>
    exact scfHandshake_ensures (adaptorAccept outcome)
      (fun o => finished_of_adaptorHandshake) (fun o => Finished.adaptorHandshake) g obj _ s

/-- A change that tests the flag in its section and saw a frozen map is refused. -/
theorem refused_of_frozen {f : SCFPolicyCtx → Errno × SCFPolicyCtx}
    (hf : ∀ ctx, ctx.nodeRoleMapFrozen = true → (f ctx).1 = .rbacMapFrozen)
    {seen : List Shared} (hseen : ∀ s ∈ seen, s.ctx.nodeRoleMapFrozen = true) {r : Errno}
    (h : ((Resumption.critical f).zoom Shared.ctx Shared.setCtx).resume seen = some r) :
    r = .rbacMapFrozen := by
  rw [Resumption.resume_zoom, Resumption.resume_critical_eq_some] at h
  obtain ⟨ctx, hctx, hr⟩ := h
  have hmem : ctx ∈ seen.map Shared.ctx := hctx ▸ List.mem_singleton_self ctx
  obtain ⟨s, hs, hsctx⟩ := List.mem_map.mp hmem
  rw [← hr]
  exact hf ctx (hsctx ▸ hseen s hs)

/-- A valid change of the map whose section saw a frozen map is refused. -/
theorem mapCall_frozen {call : Globals × MapCall} (hcall : MapCall.IsValidChange call)
    {seen : List Shared} (hseen : ∀ s ∈ seen, s.ctx.nodeRoleMapFrozen = true) {r : Errno}
    (h : (MapCall.body call).resume seen = some r) : r = .rbacMapFrozen := by
  obtain ⟨g, call⟩ := call
  cases call with
  | setNodeRoleMapping ctxPtr nodeId role allocOk =>
    obtain ⟨hg, rfl, hid, hrole⟩ := hcall
    cases nodeId with
    | none => cases hid
    | some nodeId =>
      rw [MapCall.body, scfSetNodeRoleMapping_of_valid hg hid hrole] at h
      refine refused_of_frozen (fun ctx hctx => ?_) hseen h
      rw [setMappingLocked, if_pos hctx]
  | removeNodeRoleMapping ctxPtr nodeId =>
    obtain ⟨hg, rfl, hid⟩ := hcall
    cases nodeId with
    | none => cases hid
    | some nodeId =>
      rw [MapCall.body, scfRemoveNodeRoleMapping_of_valid hg hid] at h
      refine refused_of_frozen (fun ctx hctx => ?_) hseen h
      rw [removeMappingLocked, if_pos hctx]
  | connect => exact hcall.elim
  | accept => exact hcall.elim

/-- Overwriting an entry of a map that is not frozen does not depend on the size of the
map; only the allocation can fail. -/
theorem setMappingLocked_overwrite {ctx : SCFPolicyCtx}
    (hopen : ctx.nodeRoleMapFrozen = false) {nodeId : CString}
    (hmem : ctx.nodeRoleMap[nodeId.bytes]? ≠ none) (role : SCFRbacRole) (allocOk : Bool) :
    setMappingLocked nodeId role allocOk ctx =
      if allocOk then
        (.success, { ctx with nodeRoleMap := ctx.nodeRoleMap.insert nodeId.bytes role })
      else (.memAlloc, ctx) := by
  cases allocOk <;> simp [setMappingLocked, hopen, hmem]

section Interleaving

variable {ι : Type*} [DecidableEq ι] {C : Config ι (Globals × MapCall) Shared Errno}
  {tr : List (Event ι (Globals × MapCall) Errno × Config ι (Globals × MapCall) Shared Errno)}

/-- A context on which no call is running, whose map is open and well formed. -/
structure Fresh (C : Config ι (Globals × MapCall) Shared Errno) : Prop where
  idle : ∀ t, C.threads t = none
  unfrozen : C.shared.ctx.nodeRoleMapFrozen = false
  roleMap : RoleMapInvariant C.shared.ctx

omit [DecidableEq ι] in
theorem Fresh.everyThread (hC : Fresh C) (P : Globals × MapCall → Resumption Shared Errno →
    Shared → Prop) : EveryThread P C := by
  intro t c p hp
  rw [hC.idle t] at hp
  cases hp

theorem Fresh.guarantee (hC : Fresh C) (hrun : Run MapCall.body C tr)
    {x : Event ι (Globals × MapCall) Errno × Config ι (Globals × MapCall) Shared Errno}
    (hx : x ∈ tr) : RoleMapGuarantee C.shared x.2.shared :=
  roleMapGuarantee_of_steps
    (hrun.ensures_mem MapCall.Post.stable mapCall_ensures (hC.everyThread _) hx)

/-- After a configuration with a frozen map, in which the running calls are on their
way, the map stays as it is. -/
theorem frozen_of_run (hrun : Run MapCall.body C tr)
    (hC : EveryThread
      (fun c p s => p.Ensures RoleMapGuarantee (MapCall.Post c) s) C)
    (hfrozen : C.shared.ctx.nodeRoleMapFrozen = true)
    {x : Event ι (Globals × MapCall) Errno × Config ι (Globals × MapCall) Shared Errno}
    (hx : x ∈ tr) :
    x.2.shared.ctx.nodeRoleMapFrozen = true ∧
      x.2.shared.ctx.nodeRoleMap = C.shared.ctx.nodeRoleMap :=
  (roleMapGuarantee_of_steps
    (hrun.ensures_mem MapCall.Post.stable mapCall_ensures hC hx)).frozen hfrozen

/-- In every interleaving of map changes and handshakes on one context:

* after a successful return of `SCF_Connect` or `SCF_Accept` the map never changes
  again, and a valid change that is invoked later is refused as frozen;
* while no handshake is completed the map is not frozen;
* the map has at most 4096 entries with valid identifiers and roles;
* overwriting an entry does not fail for lack of room, and changes that entry only. -/
theorem roleMap_frozen_by_handshake (hrun : Run MapCall.body C tr) (hC : Fresh C) :
    (∀ pre t c D post, tr = pre ++ (.ret t c .success, D) :: post → c.2.IsHandshake →
      (∀ x ∈ post, x.2.shared.ctx.nodeRoleMap = D.shared.ctx.nodeRoleMap) ∧
      ∀ before t' c' E mid r F after,
        post = before ++ (.invoke t' c', E) :: mid ++ (.ret t' c' r, F) :: after →
        (∀ x ∈ mid, ¬ x.1.Delimits t') → MapCall.IsValidChange c' →
        r = .rbacMapFrozen) ∧
    ∀ x ∈ tr,
      (¬ x.2.shared.SomeFinished → x.2.shared.ctx.nodeRoleMapFrozen = false) ∧
      RoleMapInvariant x.2.shared.ctx ∧
      ∀ g nodeId role allocOk, g.scfInitialized = true →
        isValidNodeId (some nodeId) = true → isValidRole role = true →
        x.2.shared.ctx.nodeRoleMapFrozen = false →
        x.2.shared.ctx.nodeRoleMap[nodeId.bytes]? ≠ none →
        (scfSetNodeRoleMapping g .valid (some nodeId) role allocOk).run x.2.shared.ctx =
          let ctx := x.2.shared.ctx
          if allocOk then
            (.success, { ctx with nodeRoleMap := ctx.nodeRoleMap.insert nodeId.bytes role })
          else (.memAlloc, ctx) := by
  refine ⟨?_, ?_⟩
  · rintro pre t c D post rfl hcall
    rw [List.append_cons, Run.append_iff] at hrun
    obtain ⟨hpre, hpost⟩ := hrun
    have hlast : lastConfig C (pre ++ [(.ret t c .success, D)]) = D := by simp
    have hfrozen : D.shared.ctx.nodeRoleMapFrozen = true :=
      hpre.returned MapCall.Post.stable mapCall_ensures (hC.everyThread _) hcall rfl
    have hthreads := (hpre.ensures MapCall.Post.stable mapCall_ensures (hC.everyThread _)).2
    rw [hlast] at hpost hthreads
    refine ⟨fun x hx => (frozen_of_run hpost hthreads hfrozen hx).2, ?_⟩
    rintro before t' c' E mid r F after rfl hmid hchange
    -- between invocation and return the call sees only frozen maps
    obtain ⟨seen, hseen, hr⟩ := hpost.observed_call hmid
    refine mapCall_frozen hchange (fun s hs => ?_) hr
    have hmem : s ∈ ((.invoke t' c', E) :: mid).map fun x => x.2.shared := hseen.subset hs
    obtain ⟨x, hx, rfl⟩ := List.mem_map.mp hmem
    refine (frozen_of_run hpost hthreads hfrozen ?_).1
    exact List.mem_append_left _ (List.mem_append_right _ hx)
  · intro x hx
    have hG := hC.guarantee hrun hx
    refine ⟨?_, hG.roleMap hC.roleMap, ?_⟩
    · intro hnone
      by_contra hne
      obtain hf | hfin := hG.justified (by simpa using hne)
      · rw [hC.unfrozen] at hf
        cases hf
      · exact hnone hfin
    · intro g nodeId role allocOk hg hid hrole hopen hmem
      rw [scfSetNodeRoleMapping_of_valid hg hid hrole, Resumption.run_critical,
        setMappingLocked_overwrite hopen hmem]

end Interleaving

/-- A client object before its handshake. -/
def clientObj : SCFPolicyObj :=
  { newPolicyObj newPolicyCtx 0 with
    role := .client
    sslCtx := some (SslCtx.newSsl { method := .tlsClient, libCtx := none } tls13VersionStr) }

def clientConfig : Config ℕ (Globals × MapCall) Shared Errno where
  shared := ⟨newPolicyCtx, Function.update (fun _ => none) 0 (some clientObj)⟩
  threads _ := none

def connectCall : Globals × MapCall := (.ready, .connect 0 .success)

def setCall : Globals × MapCall :=
  (.ready, .setNodeRoleMapping .valid (some nodeA) .master true)

/-- A connection, and then a change of the map. -/
theorem run_clientConfig :
    ∃ C₁ C₂ C₃ D E C₅ F r,
      Run MapCall.body clientConfig
        [(.invoke 0 connectCall, C₁), (.tick 0, C₂), (.tick 0, C₃),
          (.ret 0 connectCall .success, D), (.invoke 0 setCall, E), (.tick 0, C₅),
          (.ret 0 setCall r, F)] :=
  ⟨_, _, _, _, _, _, _, _, .cons (.invoke rfl _) (.cons (.tick rfl)
    (.cons (.tick rfl) (.cons (.ret rfl) (.cons (.invoke rfl _) (.cons (.tick rfl)
      (.cons (.ret rfl) .nil))))))⟩

theorem roleMap_frozen_by_handshake_connect :
    ∃ C₁ C₂ C₃ D E C₅ F r,
      Run MapCall.body clientConfig
        [(.invoke 0 connectCall, C₁), (.tick 0, C₂), (.tick 0, C₃),
          (.ret 0 connectCall .success, D), (.invoke 0 setCall, E), (.tick 0, C₅),
          (.ret 0 setCall r, F)] ∧ r = .rbacMapFrozen := by
  obtain ⟨C₁, C₂, C₃, D, E, C₅, F, r, hrun⟩ := run_clientConfig
  refine ⟨C₁, C₂, C₃, D, E, C₅, F, r, hrun, ?_⟩
  have hfresh : Fresh clientConfig := ⟨fun _ => rfl, rfl, newPolicyCtx_roleMapInvariant⟩
  exact ((roleMap_frozen_by_handshake hrun hfresh).1 [_, _, _] 0 connectCall D _ rfl
    trivial).2 [] 0 setCall E [_] r F [] rfl (by simp [Event.Delimits])
    ⟨rfl, rfl, rfl, rfl⟩

end Scf
