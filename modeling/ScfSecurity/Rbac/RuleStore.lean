import ScfSecurity.Library.Resumption
import ScfSecurity.Rbac.PolicyMatcher

/-!
# The policy rules

The functions of `rbac.cpp` on `policyRuleMap`, which maps rule numbers to rules. All
accesses hold `policyRuleMutex`. Numbers come from `nextPolicyRuleId`, which counts up
and stops at zero once the last 32-bit number is used.
-/

namespace Scf

open Automaton

/-- `MAX_POLICY_RULE_SIZE`. -/
def maxPolicyRuleSize : ℕ := 8192

/-- The actions a rule may name, `SCF_RES_ACTION_APPLY | SCF_RES_ACTION_RELEASE`. -/
def allActions : UInt32 := SCFResourceAction.apply ||| SCFResourceAction.release

/-- `IsSamePolicyRuleKey`. -/
def isSamePolicyRuleKey (left right : SCFPolicyRule) : Bool :=
  left.subjectNodeId = right.subjectNodeId && left.targetNodeId = right.targetNodeId &&
    left.resourceTypeBitmap = right.resourceTypeBitmap &&
    left.actionBitmap = right.actionBitmap

/-- `std::map::emplace`: whether the key was new, and the map afterwards. -/
def emplace (rules : Std.TreeMap UInt32 SCFPolicyRule) (id : UInt32)
    (rule : SCFPolicyRule) : Bool × Std.TreeMap UInt32 SCFPolicyRule :=
  if rules.contains id then (false, rules) else (true, rules.insert id rule)

/-- The number after `id`; zero after the last one. -/
def succRuleId (id : UInt32) : UInt32 := if id = 0xffffffff then 0 else id + 1

/-- Some rule in force has the key of `rule`. -/
def hasPolicyRuleKey (rules : Std.TreeMap UInt32 SCFPolicyRule) (rule : SCFPolicyRule) :
    Bool :=
  rules.toList.any fun item => isSamePolicyRuleKey item.2 rule

/-- `InsertPolicyRule`: the code, the rule with its number and the context. `allocOk`
says whether the map can allocate the entry. -/
def insertPolicyRule (rule : SCFPolicyRule) (allocOk : Bool) (ctx : SCFPolicyCtx) :
    Errno × SCFPolicyRule × SCFPolicyCtx :=
  if hasPolicyRuleKey ctx.policyRuleMap rule then (.rbacPolicyDuplicate, rule, ctx)
  else if maxPolicyRuleSize ≤ ctx.policyRuleMap.size ∨ ctx.nextPolicyRuleId = 0 then
    (.rbacPolicyFull, rule, ctx)
  else
    let rule := { rule with ruleId := ctx.nextPolicyRuleId }
    if !allocOk then (.memAlloc, rule, ctx)
    else
      let (inserted, rules) := emplace ctx.policyRuleMap rule.ruleId rule
      if !inserted then (.rbacPolicyFull, rule, ctx)
      else
        (.success, rule,
          { ctx with
            policyRuleMap := rules
            nextPolicyRuleId := succRuleId ctx.nextPolicyRuleId })

/-- The checks of `SCF_AddPolicyRule` on its arguments. -/
def isValidPolicyRule (subjectNodeId targetNodeId : CString)
    (resourceTypeBitmap actionBitmap : UInt32) (effect : SCFPolicyEffect) : Bool :=
  isValidNodeId (some subjectNodeId) &&
    (isValidNodeId (some targetNodeId) || targetNodeId = CString.star) &&
    isValidBitmap resourceTypeBitmap SCFResourceType.all &&
    isValidBitmap actionBitmap allActions && isValidPolicyEffect effect

/-- `SCF_AddPolicyRule`: the code and what is written to `*ruleId`, if anything is.
`copyOk` says whether the strings of the rule can be allocated, `allocOk` the same for
the map entry. -/
def scfAddPolicyRule (g : Globals) (ctxPtr : Ptr) (subjectNodeId targetNodeId : Option CString)
    (resourceTypeBitmap actionBitmap : UInt32) (effect : SCFPolicyEffect) (ruleId : Ptr)
    (copyOk allocOk : Bool) : Resumption SCFPolicyCtx (Errno × Option UInt32) :=
  match ctxPtr, subjectNodeId, targetNodeId, ruleId with
  | .valid, some subjectNodeId, some targetNodeId, .valid =>
    if !isValidPolicyRule subjectNodeId targetNodeId resourceTypeBitmap actionBitmap effect
    then .done (.rbacPolicyInvalid, none)
    else if !g.scfInitialized then .done (.notInit, none)
    else if !copyOk then .done (.memAlloc, none)
    else
      let rule : SCFPolicyRule :=
        { ruleId := 0
          subjectNodeId := subjectNodeId.bytes
          targetNodeId := targetNodeId.bytes
          resourceTypeBitmap := resourceTypeBitmap
          actionBitmap := actionBitmap
          effect := effect }
      .critical fun ctx =>
        let (ret, rule, ctx) := insertPolicyRule rule allocOk ctx
        if ret ≠ .success then ((ret, none), ctx)
        else ((.success, some rule.ruleId), ctx)
  | _, _, _, _ => .done (.nullInput, none)

/-- The locked part of `SCF_RemovePolicyRule`. -/
def removePolicyRuleLocked (ruleId : UInt32) (ctx : SCFPolicyCtx) : Errno × SCFPolicyCtx :=
  if ctx.policyRuleMap[ruleId]? = none then (.rbacPolicyNotFound, ctx)
  else (.success, { ctx with policyRuleMap := ctx.policyRuleMap.erase ruleId })

/-- `SCF_RemovePolicyRule`. -/
def scfRemovePolicyRule (g : Globals) (ctxPtr : Ptr) (ruleId : UInt32) :
    Resumption SCFPolicyCtx Errno :=
  if ctxPtr = .null then .done .nullInput
  else if ruleId = 0 then .done .invalidParam
  else if !g.scfInitialized then .done .notInit
  else .critical (removePolicyRuleLocked ruleId)

/-- The loop of `SCF_ListPolicyRules`: the code and the rules copied out. `allocOk i`
says whether the memory for the copy of rule `i` can be allocated. -/
def listPolicyRulesLoop (ruleCap : ℕ) (allocOk : ℕ → Bool) (rules copied : List SCFPolicyRule) :
    Errno × List SCFPolicyRule :=
  match rules with
  | [] => (.success, copied)
  | rule :: rules =>
    if copied.length = ruleCap then (.success, copied)
    else if !allocOk copied.length then (.memAlloc, copied)
    else listPolicyRulesLoop ruleCap allocOk rules (copied ++ [rule])

/-- `SCF_ListPolicyRules`: the code and the rules in the caller's array, if it is
touched. -/
def scfListPolicyRules (g : Globals) (ctxPtr rules : Ptr) (ruleCap : UInt32)
    (actualCount : Ptr) (allocOk : ℕ → Bool) :
    Resumption SCFPolicyCtx (Errno × Option (List SCFPolicyRule)) :=
  if ctxPtr = .null ∨ rules = .null ∨ actualCount = .null then .done (.nullInput, none)
  else if ruleCap = 0 then .done (.invalidParam, none)
  else if !g.scfInitialized then .done (.notInit, none)
  else
    .load fun ctx =>
      let (ret, copied) :=
        listPolicyRulesLoop ruleCap.toNat allocOk (ruleList ctx.policyRuleMap) []
      (ret, some copied)

end Scf
