import ScfSecurity.Rbac.Invariant

/-!
# What the changing calls return and change

`SCF_AddPolicyRule`, `SCF_RemovePolicyRule`, `SCF_SetNodeRoleMapping` and
`SCF_RemoveNodeRoleMapping` check their arguments, then the state, and change one entry of one
map at the very end, so an error leaves everything as it was.

## Main definitions

- `AddPolicyRuleArgs`: the arguments of `SCF_AddPolicyRule`
- `AddPolicyRuleArgs.KeyInUse`: a rule in force has the key of the arguments

## Main results

- `AddPolicyRuleArgs.run_of_passed`: the call, once its arguments pass
- `rbacMutators_errors`: the codes of `SCF_AddPolicyRule`, and what the four calls change
-/

namespace Scf

open Automaton

/-- The arguments of `SCF_AddPolicyRule`. -/
structure AddPolicyRuleArgs where
  ctxPtr : Ptr
  subjectNodeId : Option CString
  targetNodeId : Option CString
  resourceTypeBitmap : UInt32
  actionBitmap : UInt32
  effect : SCFPolicyEffect
  ruleId : Ptr

namespace AddPolicyRuleArgs

/-- The call. -/
def call (args : AddPolicyRuleArgs) (g : Globals) (copyOk allocOk : Bool) :
    Resumption SCFPolicyCtx (Errno × Option UInt32) :=
  scfAddPolicyRule g args.ctxPtr args.subjectNodeId args.targetNodeId args.resourceTypeBitmap
    args.actionBitmap args.effect args.ruleId copyOk allocOk

/-- One of the pointers is null. -/
def HasNull (args : AddPolicyRuleArgs) : Prop :=
  args.ctxPtr = .null ∨ args.subjectNodeId = none ∨ args.targetNodeId = none ∨ args.ruleId = .null

/-- The arguments describe a rule: an exact subject, an exact target or the wildcard, nonempty
sets of known resource types and actions, and a known effect. -/
def Describes (args : AddPolicyRuleArgs) (subject target : CString) : Prop :=
  args.subjectNodeId = some subject ∧ args.targetNodeId = some target ∧
    ValidNodeId subject.bytes ∧ (ValidNodeId target.bytes ∨ target = .star) ∧
    (args.resourceTypeBitmap ≠ 0 ∧ args.resourceTypeBitmap &&& 7 = args.resourceTypeBitmap) ∧
    (args.actionBitmap ≠ 0 ∧ args.actionBitmap &&& 3 = args.actionBitmap) ∧
    (args.effect = .allow ∨ args.effect = .deny)

/-- The arguments describe some rule. -/
def Valid (args : AddPolicyRuleArgs) : Prop := ∃ subject target, args.Describes subject target

/-- The rule with the contents of the arguments and a number. -/
def rule (args : AddPolicyRuleArgs) (ruleId : UInt32) (subject target : CString) : SCFPolicyRule :=
  ⟨ruleId, subject.bytes, target.bytes, args.resourceTypeBitmap, args.actionBitmap, args.effect⟩

/-- A rule in force has the subject, the target and the bitmaps of the arguments, with whatever
effect. -/
def KeyInUse (args : AddPolicyRuleArgs) (ctx : SCFPolicyCtx) : Prop :=
  ∃ (id : UInt32) (rule : SCFPolicyRule) (subject target : CString),
    ctx.policyRuleMap[id]? = some rule ∧ args.subjectNodeId = some subject ∧
      args.targetNodeId = some target ∧
      ruleKey rule = (subject.bytes, target.bytes, args.resourceTypeBitmap, args.actionBitmap)

/-- The arguments pass, in a library that is initialised. -/
def Passed (args : AddPolicyRuleArgs) (g : Globals) : Prop :=
  ¬ args.HasNull ∧ args.Valid ∧ g.scfInitialized = true

end AddPolicyRuleArgs

/-- The number of the next rule is in use. -/
def NumberInUse (ctx : SCFPolicyCtx) : Prop :=
  ctx.policyRuleMap[ctx.nextPolicyRuleId]? ≠ none

/-- The context with one more rule. -/
def withRule (ctx : SCFPolicyCtx) (rule : SCFPolicyRule) : SCFPolicyCtx :=
  { ctx with
    policyRuleMap := ctx.policyRuleMap.insert ctx.nextPolicyRuleId rule
    nextPolicyRuleId := succRuleId ctx.nextPolicyRuleId }

/-! ### Adding a rule -/

theorem isValidPolicyRule_iff_describes {args : AddPolicyRuleArgs} {subject target : CString}
    (hs : args.subjectNodeId = some subject) (ht : args.targetNodeId = some target) :
    isValidPolicyRule subject target args.resourceTypeBitmap args.actionBitmap args.effect = true ↔
      args.Describes subject target := by
  have hstar : target.bytes = CString.star.bytes ↔ target = CString.star :=
    ⟨CString.ext, congrArg _⟩
  rw [isValidPolicyRule_iff, isValidBitmap_iff, isValidBitmap_iff, hstar]
  exact ⟨fun h => ⟨hs, ht, h⟩, fun h => h.2.2⟩

/-- The arguments of a call with a null pointer, and those of the others. -/
theorem AddPolicyRuleArgs.hasNull_or (args : AddPolicyRuleArgs) :
    args.HasNull ∨ ∃ subject target, args =
      ⟨.valid, some subject, some target, args.resourceTypeBitmap, args.actionBitmap, args.effect,
        .valid⟩ := by
  obtain ⟨ctxPtr, subject, target, resource, action, effect, ruleId⟩ := args
  cases ctxPtr with
  | null => exact .inl (.inl rfl)
  | valid =>
    cases subject with
    | none => exact .inl (.inr (.inl rfl))
    | some subject =>
      cases target with
      | none => exact .inl (.inr (.inr (.inl rfl)))
      | some target =>
        cases ruleId with
        | null => exact .inl (.inr (.inr (.inr rfl)))
        | valid => exact .inr ⟨subject, target, rfl⟩

theorem AddPolicyRuleArgs.run_of_hasNull {args : AddPolicyRuleArgs} (h : args.HasNull)
    (g : Globals) (copyOk allocOk : Bool) (ctx : SCFPolicyCtx) :
    (args.call g copyOk allocOk).run ctx = ((.nullInput, none), ctx) := by
  obtain ⟨ctxPtr, subject, target, resource, action, effect, ruleId⟩ := args
  unfold AddPolicyRuleArgs.call scfAddPolicyRule
  split
  case h_1 hctx hs ht hid =>
    simp only [AddPolicyRuleArgs.HasNull] at h
    simp_all
  case h_2 => rfl

theorem AddPolicyRuleArgs.not_hasNull (subject target : CString)
    (resource action : UInt32) (effect : SCFPolicyEffect) :
    ¬ (⟨.valid, some subject, some target, resource, action, effect, .valid⟩ :
      AddPolicyRuleArgs).HasNull := by
  simp [AddPolicyRuleArgs.HasNull]

theorem AddPolicyRuleArgs.valid_iff {args : AddPolicyRuleArgs} {subject target : CString}
    (hs : args.subjectNodeId = some subject) (ht : args.targetNodeId = some target) :
    args.Valid ↔ args.Describes subject target := by
  constructor
  · rintro ⟨subject', target', h⟩
    obtain rfl := Option.some.inj (hs.symm.trans h.1)
    obtain rfl := Option.some.inj (ht.symm.trans h.2.1)
    exact h
  · exact fun h => ⟨subject, target, h⟩

theorem AddPolicyRuleArgs.keyInUse_iff {args : AddPolicyRuleArgs} {subject target : CString}
    (hs : args.subjectNodeId = some subject) (ht : args.targetNodeId = some target)
    (ctx : SCFPolicyCtx) (ruleId : UInt32) :
    hasPolicyRuleKey ctx.policyRuleMap (args.rule ruleId subject target) = true ↔
      args.KeyInUse ctx := by
  rw [← not_iff_not, Bool.not_eq_true, hasPolicyRuleKey_eq_false_iff]
  constructor
  · rintro h ⟨id, rule, subject', target', hrule, hs', ht', hkey⟩
    obtain rfl := Option.some.inj (hs.symm.trans hs')
    obtain rfl := Option.some.inj (ht.symm.trans ht')
    exact h id rule hrule hkey
  · exact fun h id rule hrule hkey => h ⟨id, rule, subject, target, hrule, hs, ht, hkey⟩

open Classical in
/-- The call with pointers that are not null: the checks in their order, then the new rule. The
strings of the rule are allocated before its key is looked up. -/
theorem AddPolicyRuleArgs.run_of_not_hasNull {args : AddPolicyRuleArgs} {subject target : CString}
    (hargs : args = ⟨.valid, some subject, some target, args.resourceTypeBitmap,
      args.actionBitmap, args.effect, .valid⟩)
    (g : Globals) (copyOk allocOk : Bool) (ctx : SCFPolicyCtx) :
    (args.call g copyOk allocOk).run ctx =
      if ¬ args.Valid then ((.rbacPolicyInvalid, none), ctx)
      else if g.scfInitialized = false then ((.notInit, none), ctx)
      else if copyOk = false then ((.memAlloc, none), ctx)
      else if args.KeyInUse ctx then ((.rbacPolicyDuplicate, none), ctx)
      else if 8192 ≤ ctx.policyRuleMap.size ∨ ctx.nextPolicyRuleId = 0 then
        ((.rbacPolicyFull, none), ctx)
      else if allocOk = false then ((.memAlloc, none), ctx)
      else if NumberInUse ctx then ((.rbacPolicyFull, none), ctx)
      else ((.success, some ctx.nextPolicyRuleId),
        withRule ctx (args.rule ctx.nextPolicyRuleId subject target)) := by
  have hs : args.subjectNodeId = some subject := by rw [hargs]
  have ht : args.targetNodeId = some target := by rw [hargs]
  have hvalid := isValidPolicyRule_iff_describes hs ht
  rw [← AddPolicyRuleArgs.valid_iff hs ht] at hvalid
  have hkey := AddPolicyRuleArgs.keyInUse_iff hs ht ctx 0
  have hmax : maxPolicyRuleSize = 8192 := rfl
  have hnumber : ctx.policyRuleMap.contains ctx.nextPolicyRuleId = true ↔ NumberInUse ctx := by
    rw [← Std.TreeMap.isSome_getElem?_eq_contains, Option.isSome_iff_ne_none]
    exact Iff.rfl
  have hcall : args.call g copyOk allocOk =
      scfAddPolicyRule g .valid (some subject) (some target) args.resourceTypeBitmap
        args.actionBitmap args.effect .valid copyOk allocOk := by
    rw [hargs]
    rfl
  rw [hcall]
  unfold scfAddPolicyRule
  simp only [← hvalid, Bool.not_eq_true', Bool.not_eq_true]
  split_ifs with h1 h2 h3 h4 h5 h6 h7
  · rfl
  · rfl
  · rfl
  · have hdup := hkey.mpr h4
    simp only [AddPolicyRuleArgs.rule] at hdup
    simp [insertPolicyRule, hdup]
  all_goals
    have hnew := mt hkey.mp h4
    simp only [AddPolicyRuleArgs.rule] at hnew
  · simp [insertPolicyRule, hnew, hmax, h5]
  · simp [insertPolicyRule, hnew, hmax, h5, h6]
  · have hemplace : ∀ rule', emplace ctx.policyRuleMap ctx.nextPolicyRuleId rule' =
        (false, ctx.policyRuleMap) := fun _ => if_pos (hnumber.mpr h7)
    simp [insertPolicyRule, hnew, hmax, h5, h6, hemplace]
  · have hemplace : ∀ rule', emplace ctx.policyRuleMap ctx.nextPolicyRuleId rule' =
        (true, ctx.policyRuleMap.insert ctx.nextPolicyRuleId rule') :=
      fun _ => if_neg (mt hnumber.mp h7)
    simp [insertPolicyRule, hnew, hmax, h5, h6, hemplace, withRule, AddPolicyRuleArgs.rule]

/-- What `SCF_AddPolicyRule` returns and changes, code by code. -/
structure AddPolicyRuleArgs.Outcome (args : AddPolicyRuleArgs) (g : Globals)
    (copyOk allocOk : Bool) (ctx : SCFPolicyCtx) (out : (Errno × Option UInt32) × SCFPolicyCtx) :
    Prop where
  nullInput : out.1.1 = .nullInput ↔ args.HasNull
  invalid : out.1.1 = .rbacPolicyInvalid ↔ ¬ args.HasNull ∧ ¬ args.Valid
  notInit : out.1.1 = .notInit ↔ ¬ args.HasNull ∧ args.Valid ∧ g.scfInitialized = false
  duplicate : out.1.1 = .rbacPolicyDuplicate ↔
    args.Passed g ∧ copyOk = true ∧ args.KeyInUse ctx
  full : out.1.1 = .rbacPolicyFull ↔
    args.Passed g ∧ copyOk = true ∧ ¬ args.KeyInUse ctx ∧
      (8192 ≤ ctx.policyRuleMap.size ∨ ctx.nextPolicyRuleId = 0 ∨
        (allocOk = true ∧ NumberInUse ctx))
  memAlloc : out.1.1 = .memAlloc ↔
    args.Passed g ∧ (copyOk = false ∨
      (¬ args.KeyInUse ctx ∧ ctx.policyRuleMap.size < 8192 ∧ ctx.nextPolicyRuleId ≠ 0 ∧
        allocOk = false))
  success : out.1.1 = .success ↔
    args.Passed g ∧ copyOk = true ∧ ¬ args.KeyInUse ctx ∧ ctx.policyRuleMap.size < 8192 ∧
      ctx.nextPolicyRuleId ≠ 0 ∧ allocOk = true ∧ ¬ NumberInUse ctx
  code : out.1.1 ∈ [Errno.nullInput, .rbacPolicyInvalid, .notInit, .rbacPolicyDuplicate,
    .rbacPolicyFull, .memAlloc, .success]
  failed : out.1.1 ≠ .success → out.1.2 = none ∧ out.2 = ctx
  added : out.1.1 = .success → ∃ subject target, args.Describes subject target ∧
    out = ((.success, some ctx.nextPolicyRuleId),
      withRule ctx (args.rule ctx.nextPolicyRuleId subject target))

theorem AddPolicyRuleArgs.outcome (args : AddPolicyRuleArgs) (g : Globals)
    (copyOk allocOk : Bool) (ctx : SCFPolicyCtx) :
    args.Outcome g copyOk allocOk ctx ((args.call g copyOk allocOk).run ctx) := by
  obtain hnull | ⟨subject, target, hargs⟩ := args.hasNull_or
  · rw [AddPolicyRuleArgs.run_of_hasNull hnull]
    constructor <;> simp [hnull, AddPolicyRuleArgs.Passed]
  · have hnull : ¬ args.HasNull := by
      rw [hargs]
      exact AddPolicyRuleArgs.not_hasNull _ _ _ _ _
    have hs : args.subjectNodeId = some subject := by rw [hargs]
    have ht : args.targetNodeId = some target := by rw [hargs]
    have hdescribes := AddPolicyRuleArgs.valid_iff hs ht
    rw [AddPolicyRuleArgs.run_of_not_hasNull hargs]
    -- one case for each way out, in which every condition is decided
    by_cases h1 : args.Valid
    case neg =>
      rw [if_pos h1]
      constructor <;> simp [hnull, AddPolicyRuleArgs.Passed, h1]
    rw [if_neg (not_not.mpr h1)]
    split_ifs with h2 h3 h4 h5 h6 h7
    · constructor <;> simp [hnull, AddPolicyRuleArgs.Passed, h1, h2]
    all_goals rw [Bool.not_eq_false] at h2
    · constructor <;> simp [hnull, AddPolicyRuleArgs.Passed, h1, h2, h3]
    all_goals rw [Bool.not_eq_false] at h3
    · constructor <;> simp [hnull, AddPolicyRuleArgs.Passed, h1, h2, h3, h4]
    · have hroom : ¬ (ctx.policyRuleMap.size < 8192 ∧ ctx.nextPolicyRuleId ≠ 0) := by
        rintro ⟨hsize, hne⟩
        exact h5.elim (fun h => absurd hsize (Nat.not_lt.mpr h)) hne
      rw [not_and] at hroom
      constructor <;> simp [hnull, AddPolicyRuleArgs.Passed, h1, h2, h3, h4] <;> tauto
    all_goals
      rw [not_or, Nat.not_le] at h5
      obtain ⟨hsize, hne⟩ := h5
      have hsize' : ¬ 8192 ≤ ctx.policyRuleMap.size := Nat.not_le.mpr hsize
    · constructor <;>
        simp [hnull, AddPolicyRuleArgs.Passed, h1, h2, h3, h4, h6, hsize, hsize', hne]
    all_goals rw [Bool.not_eq_false] at h6
    · constructor <;>
        simp [hnull, AddPolicyRuleArgs.Passed, h1, h2, h3, h4, h6, h7, hsize, hsize', hne]
    · have hdesc := hdescribes.mp h1
      constructor <;>
        simp [hnull, AddPolicyRuleArgs.Passed, h1, h2, h3, h4, h6, h7, hsize, hsize', hne]
      exact ⟨subject, target, hdesc, rfl⟩

/-! ### The other changes -/

theorem scfRemovePolicyRule_outcome (g : Globals) (ctxPtr : Ptr) (ruleId : UInt32)
    (ctx : SCFPolicyCtx) :
    let out := (scfRemovePolicyRule g ctxPtr ruleId).run ctx
    (out.1 ≠ .success → out.2 = ctx) ∧
      (out.1 = .success → ctx.policyRuleMap[ruleId]? ≠ none ∧
        out.2 = { ctx with policyRuleMap := ctx.policyRuleMap.erase ruleId }) := by
  unfold scfRemovePolicyRule
  split_ifs
  · simp
  · simp
  · simp
  · rw [Resumption.run_critical, removePolicyRuleLocked]
    split_ifs with hnone
    · simp
    · exact ⟨fun h => absurd rfl h, fun _ => ⟨hnone, rfl⟩⟩

theorem scfSetNodeRoleMapping_outcome (g : Globals) (ctxPtr : Ptr) (nodeId : Option CString)
    (role : SCFRbacRole) (allocOk : Bool) (ctx : SCFPolicyCtx) :
    let out := (scfSetNodeRoleMapping g ctxPtr nodeId role allocOk).run ctx
    (out.1 ≠ .success → out.2 = ctx) ∧
      (out.1 = .success → ∃ id, nodeId = some id ∧
        out.2 = { ctx with nodeRoleMap := ctx.nodeRoleMap.insert id.bytes role }) := by
  unfold scfSetNodeRoleMapping
  split
  case h_2 => simp
  case h_1 id =>
    split_ifs
    · simp
    · simp
    · rw [Resumption.run_critical]
      obtain ⟨hret, hctx⟩ | hset := setMappingLocked_cases id role allocOk ctx
      · exact ⟨fun _ => hctx, fun h => absurd h hret⟩
      · rw [hset]
        exact ⟨fun h => absurd rfl h, fun _ => ⟨id, rfl, rfl⟩⟩

theorem scfRemoveNodeRoleMapping_outcome (g : Globals) (ctxPtr : Ptr) (nodeId : Option CString)
    (ctx : SCFPolicyCtx) :
    let out := (scfRemoveNodeRoleMapping g ctxPtr nodeId).run ctx
    (out.1 ≠ .success → out.2 = ctx) ∧
      (out.1 = .success → ∃ id, nodeId = some id ∧ ctx.nodeRoleMap[id.bytes]? ≠ none ∧
        out.2 = { ctx with nodeRoleMap := ctx.nodeRoleMap.erase id.bytes }) := by
  unfold scfRemoveNodeRoleMapping
  split
  case h_2 => simp
  case h_1 id =>
    split_ifs
    · simp
    · simp
    · rw [Resumption.run_critical, removeMappingLocked]
      split_ifs with hfrozen hnone
      · simp
      · simp
      · exact ⟨fun h => absurd rfl h, fun _ => ⟨id, rfl, hnone, rfl⟩⟩

/-- The codes of `SCF_AddPolicyRule`, and what each of the four changing calls leaves alone when
it fails and changes when it succeeds, in whatever state the context is. In a context that calls
have built the number of the next rule is free and there are at most 8192 rules. -/
theorem rbacMutators_errors (g : Globals) (ctx : SCFPolicyCtx) :
    (∀ (args : AddPolicyRuleArgs) copyOk allocOk,
      args.Outcome g copyOk allocOk ctx ((args.call g copyOk allocOk).run ctx)) ∧
    (∀ lib, (rbacMachine lib).Reachable ctx →
      ctx.policyRuleMap.size ≤ 8192 ∧ (ctx.nextPolicyRuleId ≠ 0 → ¬ NumberInUse ctx)) ∧
    (∀ ctxPtr ruleId,
      let out := (scfRemovePolicyRule g ctxPtr ruleId).run ctx
      (out.1 ≠ .success → out.2 = ctx) ∧
        (out.1 = .success → ctx.policyRuleMap[ruleId]? ≠ none ∧
          out.2 = { ctx with policyRuleMap := ctx.policyRuleMap.erase ruleId })) ∧
    (∀ ctxPtr nodeId role allocOk,
      let out := (scfSetNodeRoleMapping g ctxPtr nodeId role allocOk).run ctx
      (out.1 ≠ .success → out.2 = ctx) ∧
        (out.1 = .success → ∃ id, nodeId = some id ∧
          out.2 = { ctx with nodeRoleMap := ctx.nodeRoleMap.insert id.bytes role })) ∧
    (∀ ctxPtr nodeId,
      let out := (scfRemoveNodeRoleMapping g ctxPtr nodeId).run ctx
      (out.1 ≠ .success → out.2 = ctx) ∧
        (out.1 = .success → ∃ id, nodeId = some id ∧ ctx.nodeRoleMap[id.bytes]? ≠ none ∧
          out.2 = { ctx with nodeRoleMap := ctx.nodeRoleMap.erase id.bytes })) := by
  refine ⟨?_, ?_, ?_, ?_, ?_⟩
  · exact fun args copyOk allocOk => args.outcome g copyOk allocOk ctx
  · intro lib hreach
    have hinv := ruleStoreInvariant_of_reachable hreach
    exact ⟨hinv.size, fun hne hused => hused (hinv.fresh hne)⟩
  · exact fun ctxPtr ruleId => scfRemovePolicyRule_outcome g ctxPtr ruleId ctx
  · exact fun ctxPtr nodeId role allocOk =>
      scfSetNodeRoleMapping_outcome g ctxPtr nodeId role allocOk ctx
  · exact fun ctxPtr nodeId => scfRemoveNodeRoleMapping_outcome g ctxPtr nodeId ctx

/-- A node with an identifier that needs memory of its own. -/
def longNode : CString := ⟨List.replicate 32 97, by decide⟩

/-- The arguments of a rule for this node. -/
def longNodeArgs : AddPolicyRuleArgs := ⟨.valid, some longNode, some .star, 4, 2, .deny, .valid⟩

/-- A context that has the rule already. -/
def longNodeCtx : SCFPolicyCtx := ((longNodeArgs.call .ready true true).run newPolicyCtx).2

/-- The key of the rule is in use, but the memory for its strings is missing, which is found out
first. -/
theorem addPolicyRule_copy_before_lookup :
    longNodeArgs.KeyInUse longNodeCtx ∧ longNodeArgs.Passed .ready ∧
      ((longNodeArgs.call .ready false true).run longNodeCtx).1.1 = .memAlloc ∧
      ((longNodeArgs.call .ready true true).run longNodeCtx).1.1 = .rbacPolicyDuplicate := by
  have hvalid : isValidPolicyRule longNode .star 4 2 .deny = true := by decide
  refine ⟨⟨1, longNodeArgs.rule 1 longNode .star, longNode, .star, ?_, rfl, rfl, rfl⟩,
    ⟨?_, ?_, rfl⟩, ?_, ?_⟩
  · decide
  · exact AddPolicyRuleArgs.not_hasNull _ _ _ _ _
  · exact ⟨longNode, .star, (isValidPolicyRule_iff_describes rfl rfl).mp hvalid⟩
  · decide
  · decide

end Scf
