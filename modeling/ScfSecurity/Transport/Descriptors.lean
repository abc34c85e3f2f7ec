import ScfSecurity.Transport.Socket

/-!
# The descriptors of transports

A transport knows its descriptor by a number, and the kernel gives the number of a closed
descriptor to the next one that is opened. A descriptor whose number is overwritten is never
closed, and a number that two transports have is closed twice, the second time perhaps under
another owner. `Connect` and `Bind` overwrite the number without looking at it, and `Clone`
copies it.

## Main definitions

- `Tidy`: a call overwrites no number and shares none
- `ClosedOnce`: what transports opened is closed once when they are gone, and their accesses
  were valid

## Main results

- `SocketTransport.connect_handled` and so on: what each function does with its descriptor
- `closedOnce_of_tidy`: in a run of such calls every descriptor is closed once
-/

namespace Scf

open Automaton Handles

/-- The variables of the transports that exist. -/
def SocketSystem.handles (s : SocketSystem) (t : ℕ) : Handle :=
  match s.transports.read t with
  | none => .empty
  | some self => self.fd

/-- The call opens a socket, or copies a transport, only where no number is stored. A descriptor
that is given to the constructor is open, and neither that one nor one which somebody else
closes belongs to a transport. -/
def Tidy (s : SocketSystem) : SocketCall → Prop
  | .connect t addr _ env => ∀ self, s.transports.read t = some self →
    resolveAddress env.resolve addr = .success → self.fd.number < 0
  | .bind t addr env => ∀ self, s.transports.read t = some self →
    resolveAddress env.resolve addr = .success → self.fd.number < 0
  | .clone t allocOk => ∀ self, s.transports.read t = some self → allocOk = true →
    self.fd.number < 0
  | .createFd fd => 0 ≤ fd → s.kernel.find fd ≠ none ∧ ∀ t, (s.handles t).number ≠ fd
  | .otherClose fd => ∀ t, (s.handles t).number ≠ fd
  | _ => True

/-- Every use and every close by a transport was of the descriptor that it had obtained, and once
all transports are destroyed, each descriptor from `socket` or `accept` has been closed exactly
once. -/
structure ClosedOnce (s : SocketSystem) : Prop where
  valid : ∀ a ∈ s.kernel.log, a.Valid
  closed : (∀ t, s.transports.read t = none) →
    ∀ x ∈ s.kernel.taken, s.kernel.objects.read x = none ∧ s.kernel.closings x = 1

/-! ### What the functions do with a descriptor -/

section Functions

variable {kernel : Handles} {fd : Handle} {self : SocketTransport}

theorem setNonBlocking_handled (env : FcntlEnv) (hs : kernel.Sound) (hd : kernel.Denotes fd)
    (hpos : 0 ≤ fd.number) : Handled fd fd kernel (setNonBlocking env fd kernel).2 := by
  have hget := Handled.use hs hd hpos
  unfold setNonBlocking
  split_ifs
  · exact hget
  · exact hget.trans (.use hget.sound hget.denotes hpos)
  · exact hget.trans (.use hget.sound hget.denotes hpos)

theorem setOption_handled (set : Prop) [Decidable set] (hs : kernel.Sound)
    (hd : kernel.Denotes fd) (hpos : 0 ≤ fd.number) :
    Handled fd fd kernel (if set then kernel.use fd else kernel) := by
  split_ifs
  · exact .use hs hd hpos
  · exact .refl hs hd

theorem setSocketOptions_handled (config : TransportConfig) (hs : kernel.Sound)
    (hd : kernel.Denotes fd) (hpos : 0 ≤ fd.number) :
    Handled fd fd kernel (setSocketOptions config fd kernel).2 := by
  have h₁ := setOption_handled (config.tcpNoDelay = true) hs hd hpos
  have h₂ := setOption_handled (0 < config.sendTimeoutMs) h₁.sound h₁.denotes hpos
  have h₃ := setOption_handled (0 < config.recvTimeoutMs) h₂.sound h₂.denotes hpos
  have h₄ := setOption_handled (0 < config.sendBufferSize) h₃.sound h₃.denotes hpos
  have h₅ := setOption_handled (0 < config.recvBufferSize) h₄.sound h₄.denotes hpos
  exact h₁.trans (h₂.trans (h₃.trans (h₄.trans h₅)))

namespace SocketTransport

theorem close_handled (hs : kernel.Sound) (hd : kernel.Denotes self.fd) :
    Handled self.fd (self.close kernel).1.fd kernel (self.close kernel).2 := by
  unfold close
  split_ifs with hpos
  · exact .close hs hd hpos
  · exact .refl hs hd

/-- After `Close` no number is stored. -/
theorem close_number : (self.close kernel).1.fd.number < 0 := by
  unfold close
  split_ifs with hpos
  · exact Int.negSucc_lt_zero 0
  · exact Int.not_le.mp hpos

/-- A step that ends with `Close`. -/
theorem handled_close (self : SocketTransport) {h : Handle} {kernel' : Handles}
    (hstep : Handled h self.fd kernel kernel') :
    Handled h (self.close kernel').1.fd kernel (self.close kernel').2 :=
  hstep.trans (close_handled hstep.sound hstep.denotes)

/-- Where no number is stored, `Connect` opens a descriptor and keeps or closes it. -/
theorem connect_handled (env : SocketConnectEnv) (addr : TransportAddress)
    (config : TransportConfig) (hs : kernel.Sound) (hd : kernel.Denotes self.fd)
    (htidy : resolveAddress env.resolve addr = .success → self.fd.number < 0) :
    Handled self.fd (self.connect env addr config kernel).2.1.fd kernel
      (self.connect env addr config kernel).2.2 := by
  unfold connect
  dsimp only
  by_cases hresolve : resolveAddress env.resolve addr = .success
  · have hobtain := Handled.obtain hs (htidy hresolve) env.socket
    rw [if_neg (not_not.mpr hresolve)]
    generalize kernel.obtain env.socket = opened at hobtain ⊢
    obtain ⟨fd, kernel₁⟩ := opened
    dsimp only at hobtain ⊢
    by_cases hneg : fd.number < 0
    · rw [if_pos hneg]
      exact hobtain
    · have hpos : 0 ≤ fd.number := Int.not_lt.mp hneg
      have hoptions := hobtain.trans
        (setSocketOptions_handled config hobtain.sound hobtain.denotes hpos)
      have hfcntl := hoptions.trans
        (setNonBlocking_handled env.fcntl hoptions.sound hoptions.denotes hpos)
      have hconnect := hfcntl.trans (.use hfcntl.sound hfcntl.denotes hpos)
      rw [if_neg hneg]
      split_ifs
      · refine handled_close _ ?_
        exact hoptions
      · refine handled_close _ ?_
        exact hfcntl
      · refine handled_close _ ?_
        exact hconnect
      · exact hconnect
  · rw [if_pos hresolve]
    exact .refl hs hd

/-- Where no number is stored, `Bind` opens a descriptor and keeps or closes it. -/
theorem bind_handled (env : SocketBindEnv) (addr : TransportAddress) (hs : kernel.Sound)
    (hd : kernel.Denotes self.fd)
    (htidy : resolveAddress env.resolve addr = .success → self.fd.number < 0) :
    Handled self.fd (self.bind env addr kernel).2.1.fd kernel
      (self.bind env addr kernel).2.2 := by
  unfold bind
  dsimp only
  by_cases hresolve : resolveAddress env.resolve addr = .success
  · have hobtain := Handled.obtain hs (htidy hresolve) env.socket
    rw [if_neg (not_not.mpr hresolve)]
    generalize kernel.obtain env.socket = opened at hobtain ⊢
    obtain ⟨fd, kernel₁⟩ := opened
    dsimp only at hobtain ⊢
    by_cases hneg : fd.number < 0
    · rw [if_pos hneg]
      exact hobtain
    · have hpos : 0 ≤ fd.number := Int.not_lt.mp hneg
      have hreuse := hobtain.trans (.use hobtain.sound hobtain.denotes hpos)
      have hbind := hreuse.trans (.use hreuse.sound hreuse.denotes hpos)
      have hlisten := hbind.trans (.use hbind.sound hbind.denotes hpos)
      have hfcntl := hlisten.trans
        (setNonBlocking_handled env.fcntl hlisten.sound hlisten.denotes hpos)
      rw [if_neg hneg]
      split_ifs
      · refine handled_close _ ?_
        exact hbind
      · refine handled_close _ ?_
        exact hlisten
      · refine handled_close _ ?_
        exact hfcntl
      · exact hfcntl
  · rw [if_pos hresolve]
    exact .refl hs hd

/-- `Accept` uses the descriptor of the listener, and opens one for the new transport or closes
it again. -/
theorem accept_handled (env : SocketAcceptEnv) (hs : kernel.Sound) (hd : kernel.Denotes self.fd) :
    ∃ kernel₁, Handled self.fd self.fd kernel kernel₁ ∧
      Handled .empty ((self.accept env kernel).1.elim .empty SocketTransport.fd) kernel₁
        (self.accept env kernel).2 := by
  unfold accept
  by_cases hbound : (!self.bound || decide (self.fd.number < 0)) = true
  · rw [if_pos hbound]
    exact ⟨kernel, .refl hs hd, .refl hs (denotes_empty kernel)⟩
  · have hpos : 0 ≤ self.fd.number := by
      simp only [Bool.or_eq_true, decide_eq_true_eq, not_or] at hbound
      omega
    have huse := Handled.use hs hd hpos
    have hobtain := Handled.obtain (h := .empty) huse.sound (by decide) env.accept
    refine ⟨kernel.use self.fd, huse, ?_⟩
    rw [if_neg hbound]
    generalize (kernel.use self.fd).obtain env.accept = opened at hobtain ⊢
    obtain ⟨clientFd, kernel₁⟩ := opened
    dsimp only at hobtain ⊢
    by_cases hneg : clientFd.number < 0
    · rw [if_pos hneg]
      exact hobtain.forget hneg
    · have hpos' : 0 ≤ clientFd.number := Int.not_lt.mp hneg
      have hfcntl := hobtain.trans
        (setNonBlocking_handled env.fcntl hobtain.sound hobtain.denotes hpos')
      have hclose := hfcntl.trans (.close hfcntl.sound hfcntl.denotes hpos')
      rw [if_neg hneg]
      split_ifs
      · exact hclose
      · exact hclose
      · exact hfcntl

theorem transfer_handled (n : ℤ) (errno : SocketErrno) (hs : kernel.Sound)
    (hd : kernel.Denotes self.fd) :
    Handled self.fd self.fd kernel (self.transfer n errno kernel).2.2 := by
  unfold transfer
  by_cases hclosed : (decide (self.fd.number < 0) || !self.connected) = true
  · rw [if_pos hclosed]
    exact .refl hs hd
  · have hpos : 0 ≤ self.fd.number := by
      simp only [Bool.or_eq_true, decide_eq_true_eq, not_or] at hclosed
      omega
    have huse := Handled.use hs hd hpos
    rw [if_neg hclosed]
    split_ifs
    · exact huse
    · exact huse
    · exact huse
    · exact huse

theorem setConfig_handled (config : TransportConfig) (hs : kernel.Sound)
    (hd : kernel.Denotes self.fd) :
    Handled self.fd (self.setConfig config kernel).2.1.fd kernel
      (self.setConfig config kernel).2.2 := by
  unfold setConfig
  dsimp only
  split_ifs with hpos
  · exact setSocketOptions_handled config hs hd hpos
  · exact .refl hs hd

end SocketTransport

end Functions

/-! ### Runs -/

namespace SocketSystem

variable {s : SocketSystem} {t : ℕ} {self : SocketTransport}

theorem handles_of_read (hread : s.transports.read t = some self) : s.handles t = self.fd := by
  rw [handles, hread]

theorem handles_alloc (s : SocketSystem) (new : SocketTransport) (kernel : Handles) :
    SocketSystem.handles ⟨kernel, (s.transports.alloc new).2⟩ =
      Function.update s.handles s.transports.size new.fd := by
  funext j
  unfold handles
  rw [Heap.read_alloc, Heap.alloc_fst]
  by_cases hj : j = s.transports.size
  · subst hj
    rw [if_pos rfl, Function.update_self]
  · rw [if_neg hj, Function.update_of_ne hj]

theorem handles_put (hread : s.transports.read t = some self) (after : SocketTransport × Handles) :
    (s.put t after).handles = Function.update s.handles t after.1.fd := by
  funext j
  unfold handles put
  dsimp only
  rw [Heap.read_modify]
  by_cases hj : t = j
  · subst hj
    rw [if_pos rfl, hread, Function.update_self]
    rfl
  · rw [if_neg hj, Function.update_of_ne (Ne.symm hj)]

theorem handles_free (s : SocketSystem) (t : ℕ) (kernel : Handles) :
    SocketSystem.handles ⟨kernel, s.transports.free t⟩ = Function.update s.handles t .empty := by
  funext j
  unfold handles
  dsimp only
  rw [Heap.read_free]
  by_cases hj : t = j
  · subst hj
    rw [if_pos rfl, Function.update_self]
  · rw [if_neg hj, Function.update_of_ne (Ne.symm hj)]

/-- There is no transport yet where the next one will be. -/
theorem handles_size (s : SocketSystem) : s.handles s.transports.size = .empty := by
  rw [handles, Heap.read_size]

/-- A call on a transport that changes it. -/
theorem kept_put (hk : Kept s.handles s.kernel) (hread : s.transports.read t = some self)
    {after : SocketTransport × Handles} (hstep : Handled self.fd after.1.fd s.kernel after.2) :
    Kept (s.put t after).handles (s.put t after).kernel := by
  rw [← handles_of_read hread] at hstep
  rw [handles_put hread]
  exact hk.update hstep

/-- A call on a transport that leaves it as it is. -/
theorem kept_kernel (hk : Kept s.handles s.kernel) (hread : s.transports.read t = some self)
    {kernel : Handles} (hstep : Handled self.fd self.fd s.kernel kernel) :
    Kept s.handles kernel := by
  rw [← handles_of_read hread] at hstep
  have hupdate := hk.update hstep
  rwa [Function.update_eq_self] at hupdate

/-- A new transport with a descriptor that was opened for it, or without one. -/
theorem kept_add (hk : Kept s.handles s.kernel) {new : Option SocketTransport} {kernel : Handles}
    (hstep : Handled .empty (new.elim .empty SocketTransport.fd) s.kernel kernel) :
    Kept (SocketSystem.add new { s with kernel := kernel }).2.handles
      (SocketSystem.add new { s with kernel := kernel }).2.kernel := by
  have hupdate : Kept (Function.update s.handles s.transports.size
      (new.elim .empty SocketTransport.fd)) kernel := by
    refine hk.update ?_
    rw [handles_size]
    exact hstep
  cases new with
  | none =>
    have hsame : Function.update s.handles s.transports.size .empty = s.handles := by
      rw [← handles_size s, Function.update_eq_self]
    rw [Option.elim_none, hsame] at hupdate
    exact hupdate
  | some new =>
    show Kept (SocketSystem.handles ⟨kernel, (s.transports.alloc new).2⟩) kernel
    rw [handles_alloc]
    exact hupdate

/-- A call on a transport, or none. -/
theorem kept_on {f : SocketTransport → SocketAnswer × SocketSystem}
    (hk : Kept s.handles s.kernel)
    (hf : ∀ self, s.transports.read t = some self → Kept (f self).2.handles (f self).2.kernel) :
    Kept (s.on t f).2.handles (s.on t f).2.kernel := by
  unfold SocketSystem.on
  cases hread : s.transports.read t with
  | none => exact hk
  | some self => exact hf self hread

/-- **Step lemma**: a tidy call keeps the books. -/
theorem kept_apply {call : SocketCall} (hk : Kept s.handles s.kernel) (htidy : Tidy s call) :
    Kept (s.apply call).2.handles (s.apply call).2.kernel := by
  have hs := hk.sound
  have hd : ∀ {t self}, s.transports.read t = some self → s.kernel.Denotes self.fd := by
    intro t self hread
    rw [← handles_of_read hread]
    exact hk.denotes t
  cases call with
  | create allocOk =>
    refine kept_add hk ?_
    cases allocOk with
    | false => exact .refl hs (denotes_empty _)
    | true => exact .refl hs (denotes_empty _)
  | createFd fd =>
    by_cases hneg : fd < 0
    · exact kept_add hk (.of_neg hs (by decide) hneg)
    · obtain ⟨hopen, hfree⟩ := htidy (Int.not_lt.mp hneg)
      obtain ⟨x, hfind⟩ := Option.ne_none_iff_exists'.mp hopen
      show Kept (SocketSystem.handles ⟨s.kernel, (s.transports.alloc (.ofFd ⟨fd, _⟩)).2⟩) s.kernel
      rw [handles_alloc, hfind]
      refine hk.adopt ?_ hfind fun t ht => ?_
      · rw [handles_size]
        rfl
      · -- a transport with this descriptor would have its number
        obtain ⟨_, _, n, hread, hnumber⟩ := (hk.denotes t).read_of_held ht
        obtain ⟨k, hread', hk'⟩ := hs.find_eq_some_iff.mp hfind
        rw [hread] at hread'
        cases hread'
        exact hfree t (hnumber.symm.trans hk')
  | connect t addr config env =>
    refine kept_on hk fun self hread => kept_put hk hread ?_
    exact SocketTransport.connect_handled env addr config hs (hd hread) (htidy self hread)
  | bind t addr env =>
    refine kept_on hk fun self hread => kept_put hk hread ?_
    exact SocketTransport.bind_handled env addr hs (hd hread) (htidy self hread)
  | accept t env =>
    refine kept_on hk fun self hread => ?_
    obtain ⟨kernel₁, hlistener, hnew⟩ := SocketTransport.accept_handled env hs (hd hread)
    have hk₁ : Kept (SocketSystem.handles { s with kernel := kernel₁ }) kernel₁ :=
      kept_kernel hk hread hlistener
    exact kept_add (s := { s with kernel := kernel₁ }) hk₁ hnew
  | clone t allocOk =>
    refine kept_on hk fun self hread => kept_add hk ?_
    cases allocOk with
    | false => exact .refl hs (denotes_empty _)
    | true => exact .of_neg hs (by decide) (htidy self hread rfl)
  | close t =>
    refine kept_on hk fun self hread => kept_put hk hread ?_
    exact SocketTransport.close_handled hs (hd hread)
  | transfer t n errno =>
    refine kept_on hk fun self hread => kept_kernel hk hread ?_
    exact SocketTransport.transfer_handled n errno hs (hd hread)
  | setConfig t config =>
    refine kept_on hk fun self hread => kept_put hk hread ?_
    exact SocketTransport.setConfig_handled config hs (hd hread)
  | destroy t =>
    refine kept_on hk fun self hread => ?_
    have hclose := (SocketTransport.close_handled hs (hd hread)).forget SocketTransport.close_number
    rw [← handles_of_read hread] at hclose
    show Kept (SocketSystem.handles ⟨_, s.transports.free t⟩) _
    rw [handles_free]
    exact hk.update hclose
  | otherOpen choice => exact hk.openNumber choice
  | otherClose fd => exact hk.closeNumber htidy

end SocketSystem

/-- **Run lemma**: in a run of tidy calls the books are in order. -/
theorem kept_of_tidy {s : SocketSystem} (h : socketMachine.ReachableBy Tidy s) :
    Kept s.handles s.kernel := by
  refine h.invariant ?_ fun s call hk htidy => SocketSystem.kept_apply hk htidy
  rintro s rfl
  exact kept_empty

/-- In every state of a run of tidy calls, each access of a transport was valid, and once the
transports are gone each of their descriptors has been closed exactly once. -/
theorem closedOnce_of_tidy {s : SocketSystem} (h : socketMachine.ReachableBy Tidy s) :
    ClosedOnce s := by
  have hk := kept_of_tidy h
  refine ⟨hk.sound.valid, fun hgone => hk.closings_eq_one fun t => ?_⟩
  rw [SocketSystem.handles, hgone t]
  rfl

/-- Calls that go well and get a number from the kernel. -/
def SocketConnectEnv.ok (fd : ℕ) : SocketConnectEnv :=
  { resolve := ⟨true, none, true⟩, socket := some fd, fcntl := ⟨true, true⟩, connect := none,
    errno := .other }

@[inherit_doc SocketConnectEnv.ok]
def SocketBindEnv.ok (fd : ℕ) : SocketBindEnv :=
  { resolve := ⟨true, none, true⟩, socket := some fd, bind := true, listen := true,
    fcntl := ⟨true, true⟩ }

@[inherit_doc SocketConnectEnv.ok]
def SocketAcceptEnv.ok (fd : ℕ) : SocketAcceptEnv :=
  { accept := some fd, fcntl := ⟨true, true⟩, allocOk := true, peer := .other }

/-- A listener accepts a connection, and both are destroyed. -/
def listenerCalls : List SocketCall :=
  [.create true, .bind 0 {} (.ok 3), .accept 0 (.ok 4), .destroy 0, .destroy 1]

/-- Both descriptors are closed, and once. -/
theorem closedOnce_listener :
    let s := socketMachine.after {} listenerCalls
    socketMachine.Admits Tidy {} listenerCalls ∧ s.kernel.taken = [1, 0] ∧
      (∀ x ∈ s.kernel.taken, s.kernel.objects.read x = none ∧ s.kernel.closings x = 1) := by
  have hadmits : socketMachine.Admits Tidy {} listenerCalls := by
    refine ⟨trivial, fun self hread _ => ?_, trivial, trivial, trivial, trivial⟩
    obtain rfl := Option.some.inj hread
    decide
  refine ⟨hadmits, rfl, (closedOnce_of_tidy (.after (.initial rfl) hadmits)).closed fun t => ?_⟩
  match t with
  | 0 => rfl
  | 1 => rfl
  | t + 2 => rfl

/-- A transport connects twice and is destroyed. -/
def reconnectCalls : List SocketCall :=
  [.create true, .connect 0 {} {} (.ok 3), .connect 0 {} {} (.ok 4), .destroy 0]

/-- The copy of a transport is destroyed after it, when the kernel has given its number to
somebody else. -/
def cloneCalls : List SocketCall :=
  [.create true, .connect 0 {} {} (.ok 3), .clone 0 true, .destroy 0, .otherOpen (some 3),
    .destroy 1]

/-- The first descriptor of `reconnectCalls` stays open, and `cloneCalls` closes one that no
transport had opened. -/
theorem not_closedOnce_of_calls :
    let s := socketMachine.after {} reconnectCalls
    let s' := socketMachine.after {} cloneCalls
    (s.transports.cells = [none] ∧ 0 ∈ s.kernel.taken ∧ s.kernel.objects.read 0 = some 3 ∧
      s.kernel.closings 0 = 0 ∧ ¬ ClosedOnce s) ∧
    (s'.transports.cells = [none, none] ∧ s'.kernel.taken = [0] ∧
      ⟨⟨3, some 0⟩, true, some 1⟩ ∈ s'.kernel.log ∧ s'.kernel.objects.read 1 = none ∧
      ¬ ClosedOnce s') := by
  refine ⟨⟨by decide, by decide, by decide, by decide, fun h => ?_⟩,
    by decide, by decide, by decide, by decide, fun h => ?_⟩
  · have hgone : ∀ t, (socketMachine.after {} reconnectCalls).transports.read t = none
      | 0 => rfl
      | t + 1 => rfl
    have hopen : (socketMachine.after {} reconnectCalls).kernel.objects.read 0 = some 3 := by decide
    rw [(h.closed hgone 0 (by decide)).1] at hopen
    cases hopen
  · exact absurd (h.valid ⟨⟨3, some 0⟩, true, some 1⟩ (by decide)) (by decide)

end Scf
