import ScfSecurity.Tls.OpenSsl
import Mathlib.Tactic.Common

/-!
# Policy contexts and policy objects

`SCFPolicyCtx` holds the security policy: the TLS configuration, the key update
parameters and the RBAC state. Objects (`SCFPolicyObj`) are created from a context,
one for each connection; they copy a part of the policy and count as a reference to
the context.
-/

namespace Scf

/-- `SCF_ROLE`. -/
abbrev SCFRole := UInt32

def SCFRole.none : SCFRole := 0
def SCFRole.client : SCFRole := 1
def SCFRole.server : SCFRole := 2

/-- `SCF_POLICY_MODE`. -/
abbrev SCFPolicyMode := UInt32

def SCFPolicyMode.high : SCFPolicyMode := 0
def SCFPolicyMode.middle : SCFPolicyMode := 1
def SCFPolicyMode.customer : SCFPolicyMode := 2

/-- `SCF_VERIFY_MODE`, a bit set. -/
abbrev SCFVerifyMode := UInt32

def SCFVerifyMode.none : SCFVerifyMode := 0
def SCFVerifyMode.default : SCFVerifyMode := 1
def SCFVerifyMode.customer : SCFVerifyMode := 2
def SCFVerifyMode.peer : SCFVerifyMode := 4
def SCFVerifyMode.failIfNoPeerCert : SCFVerifyMode := 8

/-- `SCF_RBAC_ROLE`. -/
abbrev SCFRbacRole := UInt32

def SCFRbacRole.unknown : SCFRbacRole := 0
def SCFRbacRole.master : SCFRbacRole := 1
def SCFRbacRole.slave : SCFRbacRole := 2

/-- `SCF_POLICY_EFFECT`. -/
abbrev SCFPolicyEffect := UInt32

def SCFPolicyEffect.allow : SCFPolicyEffect := 0
def SCFPolicyEffect.deny : SCFPolicyEffect := 1

/-- `SCF_PolicyRule`. -/
structure SCFPolicyRule where
  ruleId : UInt32
  subjectNodeId : StdString
  targetNodeId : StdString
  resourceTypeBitmap : UInt32
  actionBitmap : UInt32
  effect : SCFPolicyEffect
deriving DecidableEq

/-- `DEFAULT_KEY_UPDATE_TIME`, in seconds. -/
def defaultKeyUpdateTime : UInt32 := 3600

/-- `DEFAULT_KEY_UPDATE_TRAFFIC`, in bytes. -/
def defaultKeyUpdateTraffic : UInt64 := 1024 * 1024 * 1024

/-- `SCFPolicyCtx`. The rule map is a `std::map` and is visited in the order of its
keys; the role map is an unordered map, whose order no modelled function uses. -/
structure SCFPolicyCtx where
  refCnt : UInt32
  sslConfig : Option SslCtx
  policyMode : SCFPolicyMode
  verifyMode : SCFVerifyMode
  role : SCFRole
  isSetRole : Bool
  pskFindSessionCb : Option Address
  pskUseSessionCb : Option Address
  isNeedKeyUpdate : Bool
  keyUpdateTime : UInt32
  keyUpdateTraffic : UInt64
  nodeRoleMap : Std.TreeMap StdString SCFRbacRole
  nodeRoleMapFrozen : Bool
  rbacEnabled : Bool
  policyRuleMap : Std.TreeMap UInt32 SCFPolicyRule
  nextPolicyRuleId : UInt32

/-- The context that `SCF_CreatePolicyCtx` hands out. -/
def newPolicyCtx : SCFPolicyCtx where
  refCnt := 1
  sslConfig := none
  policyMode := .high
  verifyMode := .default
  role := .none
  isSetRole := false
  pskFindSessionCb := none
  pskUseSessionCb := none
  isNeedKeyUpdate := false
  keyUpdateTime := defaultKeyUpdateTime
  keyUpdateTraffic := defaultKeyUpdateTraffic
  nodeRoleMap := ∅
  nodeRoleMapFrozen := false
  rbacEnabled := false
  policyRuleMap := ∅
  nextPolicyRuleId := 1

instance : Inhabited SCFPolicyCtx := ⟨newPolicyCtx⟩

/-- `SCF_CreatePolicyCtx`: fails before initialisation and if memory runs out. -/
def scfCreatePolicyCtx (g : Globals) (allocOk : Bool) : Option SCFPolicyCtx :=
  if !g.scfInitialized then none
  else if !g.adaptor then none
  else if !allocOk then none
  else some newPolicyCtx

theorem eq_newPolicyCtx {g : Globals} {allocOk : Bool} {ctx : SCFPolicyCtx}
    (h : scfCreatePolicyCtx g allocOk = some ctx) : ctx = newPolicyCtx := by
  unfold scfCreatePolicyCtx at h
  split_ifs at h
  exact (Option.some.inj h).symm

/-- `SCF_KEY_UPDATE_INFO`. -/
structure SCFKeyUpdateInfo where
  timeInterval : UInt32
  trafficThreshold : UInt64
  totalSizeOfWriteData : UInt64
  lastKeyUpdateTime : UInt64
  totalKeyUpdateCnt : UInt32
  isLastUpdateSuccess : Bool
deriving DecidableEq

/-- `SCFPolicyObj`, without its pointer to the context: functions on an object get
the context beside it. -/
structure SCFPolicyObj where
  sslCtx : Option Ssl
  policyMode : SCFPolicyMode
  verifyMode : SCFVerifyMode
  role : SCFRole
  isSetRole : Bool
  fd : Int32
  pskFindSessionCb : Option Address
  pskUseSessionCb : Option Address
  keyUpdateInfo : SCFKeyUpdateInfo
  userData : Option Address
deriving DecidableEq

/-- The object with its connection in another state. -/
def SCFPolicyObj.setSsl (ssl : Ssl) (obj : SCFPolicyObj) : SCFPolicyObj :=
  { obj with sslCtx := some ssl }

@[simp] theorem setSsl_sslCtx (ssl : Ssl) (obj : SCFPolicyObj) :
    (obj.setSsl ssl).sslCtx = some ssl := rfl

/-- The object that `SCF_CreatePolicyObj` fills from its context at second `now`. -/
def newPolicyObj (ctx : SCFPolicyCtx) (now : UInt64) : SCFPolicyObj where
  sslCtx := none
  policyMode := ctx.policyMode
  verifyMode := ctx.verifyMode
  role := ctx.role
  isSetRole := ctx.isSetRole
  fd := -1
  pskFindSessionCb := ctx.pskFindSessionCb
  pskUseSessionCb := ctx.pskUseSessionCb
  keyUpdateInfo :=
    { timeInterval := ctx.keyUpdateTime
      trafficThreshold := ctx.keyUpdateTraffic
      totalSizeOfWriteData := 0
      lastKeyUpdateTime := now
      totalKeyUpdateCnt := 0
      isLastUpdateSuccess := true }
  userData := none

/-- `SCF_CreatePolicyObj`: the new object and the context with one more reference.
`clock` is the second `gettimeofday` reports, if it succeeds. -/
def scfCreatePolicyObj (g : Globals) (ctxPtr : Ptr) (clock : Option UInt64)
    (allocOk : Bool) (ctx : SCFPolicyCtx) : Option SCFPolicyObj × SCFPolicyCtx :=
  if ctxPtr = .null then (none, ctx)
  else if !g.scfInitialized then (none, ctx)
  else
    match clock with
    | none => (none, ctx)
    | some now =>
      if !allocOk then (none, ctx)
      else (some (newPolicyObj ctx now), { ctx with refCnt := ctx.refCnt + 1 })

theorem scfCreatePolicyObj_none {g : Globals} {ctxPtr : Ptr} {clock : Option UInt64}
    {allocOk : Bool} {ctx ctx' : SCFPolicyCtx}
    (h : scfCreatePolicyObj g ctxPtr clock allocOk ctx = (none, ctx')) : ctx' = ctx := by
  unfold scfCreatePolicyObj at h
  cases clock with
  | none => split_ifs at h <;> exact (Prod.mk.inj h).2.symm
  | some now =>
    dsimp only at h
    split_ifs at h
    case neg => simp at h
    all_goals exact (Prod.mk.inj h).2.symm

theorem scfCreatePolicyObj_some {g : Globals} {ctxPtr : Ptr} {clock : Option UInt64}
    {allocOk : Bool} {ctx ctx' : SCFPolicyCtx} {obj : SCFPolicyObj}
    (h : scfCreatePolicyObj g ctxPtr clock allocOk ctx = (some obj, ctx')) :
    ∃ now, clock = some now ∧ obj = newPolicyObj ctx now ∧
      ctx' = { ctx with refCnt := ctx.refCnt + 1 } := by
  unfold scfCreatePolicyObj at h
  cases clock with
  | none => split_ifs at h <;> simp at h
  | some now =>
    dsimp only at h
    split_ifs at h
    case neg =>
      obtain ⟨hobj, hctx⟩ := Prod.mk.inj h
      exact ⟨now, rfl, (Option.some.inj hobj).symm, hctx.symm⟩
    all_goals simp at h

end Scf
