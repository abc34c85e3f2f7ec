import ScfSecurity.Connection.View

/-!
# The data of the user

The application attaches a pointer to a connection, and the callbacks of TLS find it on the object
of the connection. There are two copies: `SetUserData` stores the pointer in the connection, and in
the object if there is one. An object that is created later starts without a pointer, and
`SCF_SetUserData` refuses a null pointer, which `SetUserData` ignores.

## Main definitions

- `UserDataInSync`: the objects of all connections have the data of their connections
- `PassesOn`: a call that leaves the two copies the same

## Main results

- `userDataInSync_throughout_iff`: the copies agree throughout a run, exactly if all calls of the
  run pass the data on
-/

namespace Scf

open Automaton

/-- `SCF_GetUserData`; the pointer to the object may be null. -/
def scfGetUserData (obj : Option SCFPolicyObj) : Option Address := obj.bind SCFPolicyObj.userData

/-- `SCFConnectionImpl::GetUserData`. -/
def SCFConnectionImpl.getUserData (conn : SCFConnectionImpl) : Option Address := conn.userData

/-- Whenever a connection has an object, the data of the object is the data of the connection. -/
def UserDataInSync (s : System) : Prop :=
  ∀ i conn obj, s.conns.read i = some conn → conn.policyObj = some obj →
    ∃ o, s.process.objs.read obj = some o ∧ scfGetUserData (some o.obj) = conn.getUserData

/-- A `Connect` that creates an object finds no data; and `SetUserData` on a connection with an
object changes nothing, or sets a pointer that the library takes. -/
def PassesOn (s : System) (call : Globals × ConnCall) : Prop :=
  match call.2 with
  | .connect i env => ∀ conn, s.conns.read i = some conn → Opens call.1 env conn s.process →
    conn.userData = none
  | .setUserData i userData => ∀ conn, s.conns.read i = some conn → conn.policyObj ≠ none →
    userData = conn.userData ∨ userData ≠ none ∧ call.1.scfInitialized = true
  | _ => True

/-! ### One connection with its object -/

/-- The object, if there is one, has the data of the connection. -/
def View.InSync (v : View) : Prop := ∀ o, v.obj = some o → o.userData = v.conn.userData

/-- `PassesOn`, for a connection with its object. -/
def View.PassesOn (g : Globals) (p : Process) (v : View) : ConnCall → Prop
  | .connect _ env => Opens g env v.conn p → v.conn.userData = none
  | .setUserData _ userData => v.obj ≠ none →
    userData = v.conn.userData ∨ userData ≠ none ∧ g.scfInitialized = true
  | _ => True

section View

variable {g : Globals} {env : ConnEnv} {conn : SCFConnectionImpl} {o : SCFPolicyObj} {v v' : View}

@[simp] theorem shaken_userData (ret : Errno) (version : String) (conn : SCFConnectionImpl) :
    (conn.shaken ret version).userData = conn.userData := by
  unfold SCFConnectionImpl.shaken
  split_ifs <;> rfl

theorem View.Rests.inSync (h : v.Rests v') (hv : v.InSync) : v'.InSync := by
  intro o ho
  rcases h.obj with hsame | hnone
  · rw [h.remembers.userData]
    exact hv o (hsame.symm.trans ho)
  · rw [hnone] at ho
    cases ho

/-- A handshake does not concern the data. -/
theorem View.Shaken.inSync_iff (h : View.Shaken g env conn o v') :
    v'.InSync ↔ o.userData = conn.userData := by
  obtain ⟨version, hconn, -⟩ := h.version
  have htold := handshakeOn_userData g conn.isServer env.handshake o
  unfold View.InSync
  rw [h.obj, hconn, shaken_userData]
  constructor
  · intro hsync
    exact htold.symm.trans (hsync _ rfl)
  · intro hsync o' ho'
    obtain rfl := Option.some.inj ho'
    exact htold.trans hsync

/-- Objects that tell the same are in sync with the same connections. -/
theorem inSync_of_told {obj obj' : Option SCFPolicyObj}
    (h : obj'.map SCFPolicyObj.told = obj.map SCFPolicyObj.told)
    (hv : View.InSync ⟨conn, obj⟩) : View.InSync ⟨conn, obj'⟩ := by
  intro o' ho'
  have ho' : obj' = some o' := ho'
  rw [ho'] at h
  obtain ⟨o, ho, htold⟩ := Option.map_eq_some_iff.mp h.symm
  exact (congrArg Prod.fst htold).symm.trans (hv o ho)

/-- What `SetUserData` leaves in an object that was in sync. -/
theorem scfSetUserData_userData_iff (hsync : o.userData = conn.userData)
    (userData : Option Address) :
    (scfSetUserData g userData o).2.userData = userData ↔
      userData = conn.userData ∨ userData ≠ none ∧ g.scfInitialized = true := by
  unfold scfSetUserData
  split_ifs with hnull hinit
  · rw [hsync]
    exact ⟨fun heq => .inl heq.symm, fun h => (h.resolve_right fun h => h.1 hnull).symm⟩
  · have hinit : g.scfInitialized ≠ true := by simpa using hinit
    rw [hsync]
    exact ⟨fun heq => .inl heq.symm, fun h => (h.resolve_right fun h => hinit h.2).symm⟩
  · have hinit : g.scfInitialized = true := by simpa using hinit
    simp [hnull, hinit]

/-- Connection and object stay in sync exactly if the call passes the data on. -/
theorem ViewStep.inSync_iff {p : Process} {call : ConnCall} {v' : Option View}
    (h : ViewStep g p call (some v) v') (hv : v.InSync) :
    (∀ w, v' = some w → w.InSync) ↔ v.PassesOn g p call := by
  have hsome : ∀ w : View, (∀ w', some w = some w' → w'.InSync) ↔ w.InSync := by
    intro w
    refine ⟨fun h => h w rfl, fun h w' hw' => ?_⟩
    obtain rfl := Option.some.inj hw'
    exact h
  cases h with
  | notOpened hnot hrests =>
    rw [hsome]
    exact iff_of_true (hrests.inSync hv) fun hopens => absurd hopens hnot
  | opened hopens hconn ho hshaken =>
    rw [hsome, hshaken.inSync_iff, ho, hconn.userData]
    exact ⟨fun hnone _ => hnone.symm, fun hnone => (hnone hopens).symm⟩
  | listened hrests => exact (hsome _).trans (iff_of_true (hrests.inSync hv) trivial)
  | noObj => exact (hsome _).trans (iff_of_true hv trivial)
  | shaken hshaken =>
    exact (hsome _).trans (iff_of_true (hshaken.inSync_iff.mpr (hv _ rfl)) trivial)
  | wrote htold => exact (hsome _).trans (iff_of_true (inSync_of_told htold hv) trivial)
  | updated htold => exact (hsome _).trans (iff_of_true (inSync_of_told htold hv) trivial)
  | @userDataSet _ userData conn obj =>
    rw [hsome]
    cases obj with
    | none => exact iff_of_true (fun o ho => by cases ho) fun hne => absurd rfl hne
    | some o =>
      have hiff := scfSetUserData_userData_iff (g := g) (hv o rfl) userData
      refine ⟨fun hsync _ => hiff.mp (hsync _ rfl), fun hpasses o' ho' => ?_⟩
      obtain rfl := Option.some.inj ho'
      exact hiff.mpr (hpasses (Option.some_ne_none o))
  | closed hrests => exact (hsome _).trans (iff_of_true (hrests.inSync hv) trivial)
  | destroyed =>
    refine iff_of_true (fun w hw => ?_) trivial
    cases hw

/-- A new connection is in sync. -/
theorem ViewStep.inSync_new {p : Process} {call : ConnCall} (h : ViewStep g p call none (some v)) :
    v.InSync := by
  cases h with
  | created =>
    intro o ho
    cases ho
  | accepted hconn ho hshaken =>
    refine hshaken.inSync_iff.mpr ?_
    rw [ho, hconn.userData]
    rfl

end View

/-! ### All connections -/

section System

variable {s : System}

/-- The copies agree in all connections with their objects. -/
theorem userDataInSync_iff (h : Attached s) :
    UserDataInSync s ↔ ∀ i v, s.view i = some v → v.InSync := by
  constructor
  · intro hsync i v hv o ho
    obtain ⟨conn, hread, rfl⟩ := Option.map_eq_some_iff.mp hv
    obtain ⟨bound, hbound, rfl⟩ := Option.map_eq_some_iff.mp ho
    obtain ⟨obj, hobj, hbound⟩ := Option.bind_eq_some_iff.mp hbound
    obtain ⟨o', ho', heq⟩ := hsync i conn obj hread hobj
    obtain rfl := Option.some.inj (hbound.symm.trans ho')
    exact heq
  · intro hsync i conn obj hread hobj
    obtain ⟨o, -, ho, -⟩ := h.alive i conn hread obj hobj
    refine ⟨o, ho, hsync i _ (view_eq hread) o.obj ?_⟩
    show s.process.objOf conn = _
    rw [objOf_eq hobj, ho]
    rfl

/-- The condition on a call, by the connection it is about. -/
theorem passesOn_iff (h : Attached s) (g : Globals) (call : ConnCall) :
    PassesOn s (g, call) ↔
      ∀ v, s.view (call.actor s) = some v → v.PassesOn g s.process call := by
  have hview : ∀ {i} {P : View → Prop}, (∀ v, s.view i = some v → P v) ↔
      ∀ conn, s.conns.read i = some conn → P ⟨conn, s.process.objOf conn⟩ := by
    intro i P
    refine ⟨fun h conn hread => h _ (view_eq hread), fun h v hv => ?_⟩
    obtain ⟨conn, hread, rfl⟩ := Option.map_eq_some_iff.mp hv
    exact h conn hread
  rw [hview]
  cases call with
  | connect i env => exact Iff.rfl
  | setUserData i userData =>
    refine forall₂_congr fun conn hread => imp_congr_left ?_
    show conn.policyObj ≠ none ↔ s.process.objOf conn ≠ none
    cases hobj : conn.policyObj with
    | none =>
      rw [objOf_eq_none hobj]
      exact iff_of_false (not_not.mpr rfl) (not_not.mpr rfl)
    | some obj =>
      obtain ⟨o, -, ho, -⟩ := h.alive i conn hread obj hobj
      rw [objOf_eq hobj, ho]
      exact iff_of_true nofun nofun
  | create config allocOk => exact iff_of_true trivial fun _ _ => trivial
  | listen i env => exact iff_of_true trivial fun _ _ => trivial
  | accept i env => exact iff_of_true trivial fun _ _ => trivial
  | handshakeStep i env => exact iff_of_true trivial fun _ _ => trivial
  | write i call => exact iff_of_true trivial fun _ _ => trivial
  | triggerKeyUpdate i env => exact iff_of_true trivial fun _ _ => trivial
  | close i env => exact iff_of_true trivial fun _ _ => trivial
  | destroy i env => exact iff_of_true trivial fun _ _ => trivial

/-- **Step lemma**: a call leaves all copies the same, exactly if it passes the data on. -/
theorem userDataInSync_call_iff (h : Attached s) (hsync : UserDataInSync s) (g : Globals)
    (call : ConnCall) : UserDataInSync (call.apply g s).2 ↔ PassesOn s (g, call) := by
  rw [userDataInSync_iff h] at hsync
  rw [userDataInSync_iff (h.call g call), passesOn_iff h]
  have hstep := connCall_view h g call
  have hothers : ∀ j, j ≠ call.actor s → (call.apply g s).2.view j = s.view j := fun j hj =>
    view_other h (connCall_slotStep g s call) hj
  -- the other connections are in sync before and after
  have hactor : (∀ i v, (call.apply g s).2.view i = some v → v.InSync) ↔
      ∀ v, (call.apply g s).2.view (call.actor s) = some v → v.InSync := by
    refine ⟨fun h => h _, fun h i v hv => ?_⟩
    by_cases hi : i = call.actor s
    · subst hi
      exact h v hv
    · exact hsync i v ((hothers i hi).symm.trans hv)
  rw [hactor]
  cases hview : s.view (call.actor s) with
  | none =>
    refine iff_of_true (fun v hv => ?_) fun v hv => ?_
    case refine_2 => cases hv
    rw [hview, hv] at hstep
    exact hstep.inSync_new
  | some v =>
    rw [hview] at hstep
    rw [hstep.inSync_iff (hsync _ v hview)]
    refine ⟨fun h w hw => ?_, fun h => h v rfl⟩
    obtain rfl := Option.some.inj hw
    exact h

end System

/-- **Run theorem**: throughout a run the object of every connection has the data of its
connection, exactly if every `Connect` of the run that creates an object finds no data, and every
`SetUserData` on a connection with an object repeats the pointer or passes one that is not null
while the library is initialised. -/
theorem userDataInSync_throughout_iff (calls : List (Globals × ConnCall)) :
    connectionMachine.Throughout UserDataInSync {} calls ↔
      connectionMachine.Admits PassesOn {} calls := by
  refine Machine.throughout_iff_of_invariant (I := fun s => Attached s ∧ UserDataInSync s)
    (fun _ h => h.2) (fun s call h _ hpasses => ⟨h.1.call call.1 call.2, ?_⟩)
    (fun s call h _ hsync => ?_) ⟨attached_empty, ?_⟩
    (Machine.admits_of_forall (fun _ _ => trivial) _ calls)
  · exact (userDataInSync_call_iff h.1 h.2 call.1 call.2).mpr hpasses
  · exact (userDataInSync_call_iff h.1 h.2 call.1 call.2).mp hsync
  · intro i conn obj hread
    cases hread

/-- A client that attaches data before it connects. -/
def earlyDataCalls : List (Globals × ConnCall) :=
  [(.ready, .create {} true), (.ready, .setUserData 0 (some 1)), (.ready, .connect 0 .plain)]

/-- The object of the connected client has no data. -/
theorem early_data_lost :
    let s := connectionMachine.after {} earlyDataCalls
    ∃ conn obj o, s.conns.read 0 = some conn ∧ conn.policyObj = some obj ∧
      s.process.objs.read obj = some o ∧ conn.getUserData = some 1 ∧
      scfGetUserData (some o.obj) = none ∧ ¬ UserDataInSync s := by
  refine ⟨_, _, _, rfl, rfl, rfl, rfl, rfl, fun h => ?_⟩
  obtain ⟨o, ho, heq⟩ := h 0 _ _ rfl rfl
  obtain rfl := Option.some.inj ho
  cases heq

end Scf
