import ScfSecurity.Library.OrderedMap
import ScfSecurity.Rbac.RoleResolution

/-!
# Listing the masters

`SCF_ListMasterNodes` copies the masters of the role map into an array of the caller. The map
is a hash map, so the order in which it is visited is arbitrary, but each entry is visited
once.

## Main definitions

- `scfListMasterNodesOut`: `SCF_ListMasterNodes` with the caller's counter and array
- `masterEntries`: the entries of the role map that name a master

## Main results

- `nulFree_of_reachable`: the identifiers in the role map are strings of C
- `listMasterOutLoop_holds`: what the loop leaves in the array
- `scfListMasterNodes_snapshot`: the array against the other readers of the role map
-/

namespace Scf

open Automaton Buffer

/-- The variables of the caller: the counter and the memory that the array is in, by element
and byte. -/
structure NodeListOutput where
  actualCount : UInt32
  nodeIdList : ℕ → ℕ → UInt8

/-- The loop of `SCF_ListMasterNodes` on the caller's variables. -/
def listMasterOutLoop (listCap : UInt32) :
    List (StdString × SCFRbacRole) → NodeListOutput → Errno × NodeListOutput
  | [], out => (.success, out)
  | (nodeId, role) :: rest, out =>
    if out.actualCount = listCap then (.success, out)
    else if role ≠ .master then listMasterOutLoop listCap rest out
    else
      let index := out.actualCount.toNat
      let (copied, element) := memcpySInto (out.nodeIdList index) maxNodeIdLen nodeId
      if !copied then
        (.memCpy, { out with nodeIdList := Function.update out.nodeIdList index element })
      else
        listMasterOutLoop listCap rest
          { actualCount := out.actualCount + 1
            nodeIdList := Function.update out.nodeIdList index
              (Function.update element nodeId.length 0) }

/-- `SCF_ListMasterNodes` as the caller sees it: the code, and the variables afterwards. -/
def scfListMasterNodesOut (g : Globals) (ctxPtr nodeIdList : Ptr) (listCap : UInt32)
    (actualCount : Ptr)
    (visit : Std.TreeMap StdString SCFRbacRole → List (StdString × SCFRbacRole))
    (out : NodeListOutput) : Resumption SCFPolicyCtx (Errno × NodeListOutput) :=
  if ctxPtr = .null ∨ nodeIdList = .null ∨ actualCount = .null then .done (.nullInput, out)
  else if listCap = 0 then .done (.invalidParam, out)
  else if !g.scfInitialized then .done (.notInit, out)
  else
    .load fun ctx =>
      listMasterOutLoop listCap (visit ctx.nodeRoleMap) { out with actualCount := 0 }

/-- The entries that name a master. -/
def masterEntries (entries : List (StdString × SCFRbacRole)) : List (StdString × SCFRbacRole) :=
  entries.filter fun entry => entry.2 = .master

/-- The identifiers of the masters. -/
def masterIds (entries : List (StdString × SCFRbacRole)) : List StdString :=
  (masterEntries entries).map Prod.fst

/-- The array holds the identifiers and their number is in the counter; elements behind them
and bytes behind an element are as they were. -/
structure HoldsIds (ids : List StdString) (out out' : NodeListOutput) : Prop where
  actualCount : out'.actualCount.toNat = ids.length
  element : ∀ i (h : i < ids.length), HoldsString (out'.nodeIdList i) ids[i]
  untouched : ∀ i j, ids.length ≤ i ∨ maxNodeIdLen ≤ j → out'.nodeIdList i j = out.nodeIdList i j

/-- Identifiers of the role map are strings of C. -/
def NulFreeRoleMap (ctx : SCFPolicyCtx) : Prop :=
  ∀ (nodeId : StdString) role, ctx.nodeRoleMap[nodeId]? = some role → 0 ∉ nodeId

/-! ### Strings of C -/

/-- What a call can do to the role map. -/
inductive RoleMapStep (ctx ctx' : SCFPolicyCtx) : Prop
  | keep (h : ctx'.nodeRoleMap = ctx.nodeRoleMap)
  | set (id : CString) (role : SCFRbacRole)
      (h : ctx'.nodeRoleMap = ctx.nodeRoleMap.insert id.bytes role)
  | remove (id : CString) (h : ctx'.nodeRoleMap = ctx.nodeRoleMap.erase id.bytes)

theorem rbacMachine_roleMapStep (lib : LibCrypto) (ctx : SCFPolicyCtx)
    (call : Globals × RbacCall) : RoleMapStep ctx ((rbacMachine lib).step ctx call).2 := by
  obtain ⟨g, call⟩ := call
  by_cases hread : call.IsRead
  · exact .keep (congrArg _ (RbacCall.run_of_isRead lib g hread ctx))
  show RoleMapStep ctx ((call.body lib g).run ctx).2
  cases call with
  | setNodeRoleMapping ctxPtr nodeId role allocOk =>
    simp only [RbacCall.body, Resumption.run_monad_bind, Resumption.run_pure]
    obtain hkeep | ⟨id, _, hrun⟩ := scfSetNodeRoleMapping_run g ctxPtr nodeId role allocOk
    · exact .keep (congrArg _ (hkeep ctx))
    · rw [hrun]
      obtain ⟨_, hctx⟩ | hset := setMappingLocked_cases id role allocOk ctx
      · exact .keep (congrArg _ hctx)
      · rw [hset]
        exact .set id role rfl
  | removeNodeRoleMapping ctxPtr nodeId =>
    simp only [RbacCall.body, Resumption.run_monad_bind, Resumption.run_pure]
    obtain hkeep | ⟨id, _, hrun⟩ := scfRemoveNodeRoleMapping_run g ctxPtr nodeId
    · exact .keep (congrArg _ (hkeep ctx))
    · rw [hrun]
      obtain ⟨_, hctx⟩ | hset := removeMappingLocked_cases id ctx
      · exact .keep (congrArg _ hctx)
      · rw [hset]
        exact .remove id rfl
  | addPolicyRule ctxPtr subject target resource action effect ruleId copyOk allocOk =>
    simp only [RbacCall.body, Resumption.run_monad_bind, Resumption.run_pure]
    obtain hkeep | ⟨_, rule, _, _, hrun⟩ := scfAddPolicyRule_run g ctxPtr subject target resource
      action effect ruleId copyOk allocOk
    · exact .keep (congrArg _ (hkeep ctx))
    · rw [(hrun ctx).2]
      obtain ⟨_, hctx⟩ | ⟨_, _, _, hadd⟩ := insertPolicyRule_cases rule allocOk ctx
      · exact .keep (congrArg _ hctx)
      · rw [hadd]
        exact .keep rfl
  | removePolicyRule ctxPtr ruleId =>
    simp only [RbacCall.body, Resumption.run_monad_bind, Resumption.run_pure]
    obtain ⟨rules, hrules⟩ := scfRemovePolicyRule_frame g ctxPtr ruleId ctx
    rw [hrules]
    exact .keep rfl
  | enableRbac ctxPtr enable =>
    simp only [RbacCall.body, Resumption.run_monad_bind, Resumption.run_pure, scfEnableRbac]
    split_ifs
    · exact .keep rfl
    · exact .keep rfl
    · exact .keep rfl
  | freeze ctxPtr =>
    simp only [RbacCall.body, Resumption.run_monad_bind, Resumption.run_pure,
      freezeNodeRoleMapping]
    split_ifs
    · exact .keep rfl
    · exact .keep rfl
  | _ => exact absurd trivial hread

/-- **Step lemma**: a call puts only strings of C into the role map. -/
theorem RoleMapStep.nulFree {ctx ctx' : SCFPolicyCtx} (hstep : RoleMapStep ctx ctx')
    (h : NulFreeRoleMap ctx) : NulFreeRoleMap ctx' := by
  intro nodeId role hrole
  cases hstep with
  | keep heq =>
    rw [heq] at hrole
    exact h nodeId role hrole
  | set id role' heq =>
    rw [heq] at hrole
    obtain ⟨rfl, _⟩ | ⟨_, hold⟩ := getElem?_insert_cases hrole
    · exact id.nulFree
    · exact h nodeId role hold
  | remove id heq =>
    rw [heq] at hrole
    exact h nodeId role (getElem?_of_erase hrole)

/-- **Run lemma**: the role map has only strings of C. -/
theorem nulFree_of_reachable {lib : LibCrypto} {ctx : SCFPolicyCtx}
    (h : (rbacMachine lib).Reachable ctx) : NulFreeRoleMap ctx := by
  refine h.invariant ?_ fun ctx call hctx => (rbacMachine_roleMapStep lib ctx call).nulFree hctx
  rintro ctx ⟨g, allocOk, hctx⟩
  obtain rfl := eq_newPolicyCtx hctx
  intro nodeId role hrole
  simp [newPolicyCtx] at hrole

/-! ### The loop -/

/-- One more identifier in the array. -/
theorem HoldsIds.next {ids : List StdString} {out out' : NodeListOutput}
    (h : HoldsIds ids out out') {nodeId : StdString} (hlen : nodeId.length < maxNodeIdLen)
    (hcount : ids.length + 1 < 2 ^ 32) :
    HoldsIds (ids ++ [nodeId]) out
      { actualCount := out'.actualCount + 1
        nodeIdList := Function.update out'.nodeIdList ids.length
          (storeString (out'.nodeIdList ids.length) nodeId) } where
  actualCount := by
    have hone : (1 : UInt32).toNat = 1 := rfl
    rw [UInt32.toNat_add, h.actualCount, hone, List.length_append]
    exact Nat.mod_eq_of_lt hcount
  element := by
    intro i hi
    dsimp only
    rw [List.length_append, List.length_singleton] at hi
    by_cases hlast : i = ids.length
    · subst hlast
      rw [Function.update_self, List.getElem_concat_length rfl]
      exact holdsString_storeString _ _
    · have hlt : i < ids.length := by omega
      rw [Function.update_of_ne hlast, List.getElem_append_left hlt]
      exact h.element i hlt
  untouched := by
    intro i j hij
    dsimp only
    rw [List.length_append, List.length_singleton] at hij
    by_cases hlast : i = ids.length
    · subst hlast
      rw [Function.update_self, storeString_of_lt _ (by omega)]
      exact h.untouched _ j (by omega)
    · rw [Function.update_of_ne hlast]
      exact h.untouched i j (by omega)

/-- The loop, from the state in which `ids` are in the array: it adds the masters among the
entries, up to the end of the array. -/
theorem listMasterOutLoop_holds (listCap : UInt32) (out : NodeListOutput)
    (entries : List (StdString × SCFRbacRole))
    (hentries : ∀ entry ∈ entries, entry.1.length < maxNodeIdLen) :
    ∀ {ids : List StdString} {out' : NodeListOutput}, HoldsIds ids out out' →
      ids.length ≤ listCap.toNat →
      (listMasterOutLoop listCap entries out').1 = .success ∧
        HoldsIds (ids ++ (masterIds entries).take (listCap.toNat - ids.length)) out
          (listMasterOutLoop listCap entries out').2 := by
  have hbound := listCap.toNat_lt
  induction entries with
  | nil =>
    intro ids out' h _
    refine ⟨rfl, ?_⟩
    rw [show masterIds [] = [] from rfl, List.take_nil, List.append_nil]
    exact h
  | cons entry rest ih =>
    obtain ⟨nodeId, role⟩ := entry
    intro ids out' h hle
    have hlen : nodeId.length < maxNodeIdLen := hentries _ List.mem_cons_self
    have ih := @ih fun entry hmem => hentries entry (List.mem_cons_of_mem _ hmem)
    unfold listMasterOutLoop
    by_cases hcap : out'.actualCount = listCap
    · -- the array is full
      have hfull : listCap.toNat - ids.length = 0 := by
        rw [← h.actualCount, hcap, Nat.sub_self]
      rw [if_pos hcap, hfull, List.take_zero, List.append_nil]
      exact ⟨rfl, h⟩
    · have hlt : ids.length < listCap.toNat := by
        refine lt_of_le_of_ne hle fun heq => hcap (UInt32.toNat_inj.mp ?_)
        rw [h.actualCount, heq]
      rw [if_neg hcap]
      by_cases hrole : role = .master
      · have hcopy : memcpySInto (out'.nodeIdList ids.length) maxNodeIdLen nodeId =
            (true, store (out'.nodeIdList ids.length) nodeId) :=
          memcpySInto_of_le _ (by decide) (by decide) (Nat.le_of_lt hlen)
        have hids : (masterIds ((nodeId, role) :: rest)).take (listCap.toNat - ids.length) =
            nodeId :: (masterIds rest).take (listCap.toNat - (ids ++ [nodeId]).length) := by
          have hsub : listCap.toNat - ids.length =
              (listCap.toNat - (ids ++ [nodeId]).length) + 1 := by
            rw [List.length_append, List.length_singleton]
            omega
          rw [hsub]
          simp [masterIds, masterEntries, hrole]
        rw [if_neg (not_not.mpr hrole), h.actualCount, hids, List.append_cons]
        dsimp only
        rw [hcopy]
        refine ih (h.next hlen (by omega)) ?_
        rw [List.length_append, List.length_singleton]
        omega
      · have hids : masterIds ((nodeId, role) :: rest) = masterIds rest := by
          simp [masterIds, masterEntries, hrole]
        rw [if_pos hrole, hids]
        exact ih h hle

/-- The loop without the caller's variables copies out the same identifiers. -/
theorem listMasterLoop_eq (listCap : ℕ) (entries : List (StdString × SCFRbacRole))
    (hentries : ∀ entry ∈ entries, entry.1.length < maxNodeIdLen) :
    ∀ {ids : List StdString}, ids.length ≤ listCap →
      listMasterLoop listCap entries ids =
        (.success, ids ++ (masterIds entries).take (listCap - ids.length)) := by
  induction entries with
  | nil =>
    intro ids _
    rw [show masterIds [] = [] from rfl, List.take_nil, List.append_nil]
    rfl
  | cons entry rest ih =>
    obtain ⟨nodeId, role⟩ := entry
    intro ids hle
    have hlen : nodeId.length < maxNodeIdLen := hentries _ List.mem_cons_self
    have ih := @ih fun entry hmem => hentries entry (List.mem_cons_of_mem _ hmem)
    unfold listMasterLoop
    by_cases hcap : ids.length = listCap
    · rw [if_pos hcap, hcap, Nat.sub_self, List.take_zero, List.append_nil]
    · rw [if_neg hcap]
      by_cases hrole : role = .master
      · have hcopy : memcpyS maxNodeIdLen nodeId.length = true := by
          rw [← memcpySInto_fst fun _ => 0,
            memcpySInto_of_le _ (by decide) (by decide) (Nat.le_of_lt hlen)]
        have hsub : listCap - ids.length = (listCap - (ids ++ [nodeId]).length) + 1 := by
          rw [List.length_append, List.length_singleton]
          omega
        have hnext := @ih (ids ++ [nodeId]) (by
          rw [List.length_append, List.length_singleton]
          omega)
        rw [if_neg (not_not.mpr hrole), hcopy, hsub]
        simp only [Bool.not_true, Bool.false_eq_true, if_false, hnext]
        simp [masterIds, masterEntries, hrole]
      · have hids : masterIds ((nodeId, role) :: rest) = masterIds rest := by
          simp [masterIds, masterEntries, hrole]
        rw [if_pos hrole, hids]
        exact ih hle

/-! ### The answer -/

theorem masterIds_perm {entries entries' : List (StdString × SCFRbacRole)}
    (h : entries.Perm entries') : (masterIds entries).Perm (masterIds entries') :=
  (h.filter _).map _

theorem mem_masterIds_toList {map : Std.TreeMap StdString SCFRbacRole} {id : StdString} :
    id ∈ masterIds map.toList ↔ map[id]? = some .master := by
  simp [masterIds, masterEntries, Std.TreeMap.mem_toList_iff_getElem?_eq_some]

/-- The keys of a map are distinct. -/
theorem nodup_masterIds_toList (map : Std.TreeMap StdString SCFRbacRole) :
    (masterIds map.toList).Nodup := by
  have hkeys : (masterEntries map.toList).Pairwise fun a b => compare a.1 b.1 = .lt :=
    (OrderedMap.increasing_toList map).filter _
  refine List.pairwise_map.mpr (hkeys.imp ?_)
  intro a b hlt heq
  rw [heq, Std.ReflOrd.compare_self] at hlt
  cases hlt

/-- The readers of the role map agree about a master. -/
theorem readers_of_master {g : Globals} (hg : g.scfInitialized = true) (lib : LibCrypto)
    {ctx : SCFPolicyCtx} {nodeId : CString} (hvalid : isValidNodeId (some nodeId) = true)
    (h : ctx.nodeRoleMap[nodeId.bytes]? = some .master) :
    (scfIsMasterNode g .valid (some nodeId) .valid).run ctx = ((.success, some true), ctx) ∧
      (scfGetNodeRbacRole g lib .valid none (some nodeId) .valid .valid).run ctx =
        ((.success, some (.master, .mapping)), ctx) := by
  constructor
  · simp [scfIsMasterNode, hvalid, hg, h]
  · have hid : ∀ id ∈ some nodeId, isValidNodeId (some id) = true := by
      intro id hmem
      rw [← Option.mem_some.mp hmem]
      exact hvalid
    rw [scfGetNodeRbacRole_run hg lib (.inr (by simp)) hid ctx]
    simp [nodeRole, mappingRole, h]

theorem scfListMasterNodesOut_run {g : Globals} (hg : g.scfInitialized = true)
    {listCap : UInt32} (hcap : listCap ≠ 0)
    (visit : Std.TreeMap StdString SCFRbacRole → List (StdString × SCFRbacRole))
    (out : NodeListOutput) (ctx : SCFPolicyCtx) :
    (scfListMasterNodesOut g .valid .valid listCap .valid visit out).run ctx =
      (listMasterOutLoop listCap (visit ctx.nodeRoleMap) { out with actualCount := 0 }, ctx) := by
  simp [scfListMasterNodesOut, hg, hcap]

/-- In every reachable context `SCF_ListMasterNodes` fills the array with masters, all
different and as many as there are or as the array takes, and writes nowhere else. The other
readers of the role map call the same nodes masters. -/
theorem scfListMasterNodes_snapshot {lib : LibCrypto} {ctx : SCFPolicyCtx}
    (h : (rbacMachine lib).Reachable ctx) {g : Globals} (hg : g.scfInitialized = true)
    {listCap : UInt32} (hcap : listCap ≠ 0)
    (visit : Std.TreeMap StdString SCFRbacRole → List (StdString × SCFRbacRole))
    (hvisit : (visit ctx.nodeRoleMap).Perm ctx.nodeRoleMap.toList) (out : NodeListOutput) :
    let masters := masterEntries ctx.nodeRoleMap.toList
    let result := (scfListMasterNodesOut g .valid .valid listCap .valid visit out).run ctx
    result.1.1 = .success ∧ result.2 = ctx ∧
    ∃ ids : List StdString,
      ids.length = min listCap.toNat masters.length ∧ ids.Nodup ∧
      -- the counter, and a terminated string in each of the first elements
      result.1.2.actualCount.toNat = ids.length ∧
      (∀ i (hi : i < ids.length), HoldsString (result.1.2.nodeIdList i) ids[i]) ∧
      -- no byte outside of the array or of its used elements
      (∀ i j, listCap.toNat ≤ i ∨ ids.length ≤ i ∨ maxNodeIdLen ≤ j →
        result.1.2.nodeIdList i j = out.nodeIdList i j) ∧
      -- the other readers
      (∀ id ∈ ids, ∃ nodeId : CString, nodeId.bytes = id ∧
        (scfIsMasterNode g .valid (some nodeId) .valid).run ctx = ((.success, some true), ctx) ∧
        (scfGetNodeRbacRole g lib .valid none (some nodeId) .valid .valid).run ctx =
          ((.success, some (.master, .mapping)), ctx)) ∧
      (masters.length ≤ listCap.toNat →
        ∀ id, ctx.nodeRoleMap[id]? = some .master → id ∈ ids) ∧
      -- the answer without the caller's variables
      ((scfListMasterNodes g .valid .valid listCap .valid visit).run ctx).1 =
        (.success, some ids) := by
  intro masters result
  have hinv := roleMapInvariant_of_reachable h
  have hnul := nulFree_of_reachable h
  have hlookup : ∀ id ∈ masterIds (visit ctx.nodeRoleMap),
      ctx.nodeRoleMap[id]? = some .master := fun id hmem =>
    mem_masterIds_toList.mp ((masterIds_perm hvisit).mem_iff.mp hmem)
  have hentries : ∀ entry ∈ visit ctx.nodeRoleMap, entry.1.length < maxNodeIdLen := by
    intro entry hmem
    have hentry := Std.TreeMap.mem_toList_iff_getElem?_eq_some.mp (hvisit.mem_iff.mp hmem)
    have hshort := (hinv.nodeId entry.1 entry.2 hentry).short
    show entry.1.length < 128
    omega
  have hlength : (masterIds (visit ctx.nodeRoleMap)).length = masters.length := by
    rw [(masterIds_perm hvisit).length_eq, masterIds, List.length_map]
  have hstart : HoldsIds [] out { out with actualCount := 0 } :=
    ⟨rfl, fun i hi => absurd hi (Nat.not_lt_zero i), fun _ _ _ => rfl⟩
  have hloop := listMasterOutLoop_holds listCap out _ hentries hstart (Nat.zero_le _)
  have hplain : listMasterLoop listCap.toNat (visit ctx.nodeRoleMap) [] = _ :=
    listMasterLoop_eq listCap.toNat _ hentries (Nat.zero_le _)
  have hresult : result = _ := scfListMasterNodesOut_run hg hcap visit out ctx
  rw [List.nil_append, List.length_nil, Nat.sub_zero] at hloop hplain
  obtain ⟨hcode, hholds⟩ := hloop
  have hids : ((masterIds (visit ctx.nodeRoleMap)).take listCap.toNat).length =
      min listCap.toNat masters.length := by rw [List.length_take, hlength]
  rw [hresult]
  refine ⟨hcode, rfl, (masterIds (visit ctx.nodeRoleMap)).take listCap.toNat, hids, ?_,
    hholds.actualCount, hholds.element, ?_, ?_, ?_, ?_⟩
  · have hnodup := (masterIds_perm hvisit).nodup_iff.mpr (nodup_masterIds_toList _)
    exact hnodup.sublist (List.take_sublist _ _)
  · intro i j hij
    exact hholds.untouched i j (by omega)
  · intro id hmem
    have hmaster := hlookup id (List.mem_of_mem_take hmem)
    refine ⟨⟨id, hnul id _ hmaster⟩, rfl, readers_of_master hg lib ?_ hmaster⟩
    exact (isValidNodeId_iff _).mpr (hinv.nodeId id _ hmaster)
  · intro hroom id hmaster
    rw [List.take_of_length_le (by omega)]
    exact (masterIds_perm hvisit).mem_iff.mpr (mem_masterIds_toList.mpr hmaster)
  · simp [scfListMasterNodes, hg, hcap, hplain]

/-- A third node. -/
def nodeC : CString := ⟨[99], by decide⟩

/-- A context in which the nodes `b` and `c` are masters and node `a` is a slave. -/
def twoMastersCtx : SCFPolicyCtx :=
  (rbacMachine .shortForm).after newPolicyCtx
    [(.ready, .setNodeRoleMapping .valid (some nodeA) .slave true),
      (.ready, .setNodeRoleMapping .valid (some nodeB) .master true),
      (.ready, .setNodeRoleMapping .valid (some nodeC) .master true)]

theorem reachable_twoMastersCtx : (rbacMachine .shortForm).Reachable twoMastersCtx :=
  (reachable_newPolicyCtx _).after _

/-- An array of zeros. -/
def clearedList : NodeListOutput := ⟨0, fun _ _ => 0⟩

/-- The map is walked from its end, and the array has room for one of the two masters. -/
theorem scfListMasterNodes_snapshot_twoMasters :
    let visit := fun roles : Std.TreeMap StdString SCFRbacRole => roles.toList.reverse
    let list := fun listCap =>
      (scfListMasterNodesOut .ready .valid .valid listCap .valid visit clearedList).run twoMastersCtx
    (masterEntries twoMastersCtx.nodeRoleMap.toList).length = 2 ∧
      (list 1).1.1 = .success ∧ (list 1).1.2.actualCount.toNat = 1 ∧
      (list 3).1.1 = .success ∧ (list 3).1.2.actualCount.toNat = 2 := by
  intro visit list
  have hmasters : (masterEntries twoMastersCtx.nodeRoleMap.toList).length = 2 := by decide
  have hvisit : (visit twoMastersCtx.nodeRoleMap).Perm twoMastersCtx.nodeRoleMap.toList :=
    List.reverse_perm _
  have hg : Globals.ready.scfInitialized = true := rfl
  have hlist := fun (listCap : UInt32) (hcap : listCap ≠ 0) =>
    scfListMasterNodes_snapshot reachable_twoMastersCtx hg hcap visit hvisit clearedList
  obtain ⟨hone, -, ids₁, hlen₁, -, hcount₁, -⟩ := hlist 1 (by decide)
  obtain ⟨hall, -, ids₃, hlen₃, -, hcount₃, -⟩ := hlist 3 (by decide)
  rw [hmasters] at hlen₁ hlen₃
  exact ⟨hmasters, hone, hcount₁.trans hlen₁, hall, hcount₃.trans hlen₃⟩

end Scf
