import LoRaInet.LinkLayer.Ieee8021d.Rstp.RSTP
import Mathlib.Data.List.FinRange

namespace inet

open omnetpp

namespace RSTP

/-- What the upgrades of a port depend on. -/
structure PortView where
  role : PortRole
  state : PortState
  nextUpgrade : SimTime
  edge : Bool

def view (port : Ieee8021dInterfaceData) : PortView :=
  ⟨port.role, port.state, port.nextUpgrade, port.edge⟩

variable {n : ℕ} {v v' : Fin n → PortView} {a r : Fin n} {x y : PortView}

/-- A root port as `becomeRoot` makes it. -/
def PortView.Root (x : PortView) : Prop := x.role = .ROOT ∧ x.state = .FORWARDING ∧ x.edge = false

/-- A port that is not the root port, and learns or forwards only for its LAN. -/
def PortView.Follower (x : PortView) : Prop :=
  x.role ≠ .ROOT ∧ (x.state ≠ .DISCARDING → x.role = .DESIGNATED) ∧ x.edge = false

/-- The roles and states that fit together: there are alternates to a root port only. -/
inductive Proper (v : Fin n → PortView) : Prop where
  | rooted (r : Fin n) (root : (v r).Root) (others : ∀ i, i ≠ r → (v i).Follower)
  | rootless (others : ∀ i, (v i).Follower ∧ (v i).role ≠ .ALTERNATE)

theorem PortView.Follower.of_discarding (hrole : x.role ≠ .ROOT) (hstate : x.state = .DISCARDING)
    (hedge : x.edge = false) : x.Follower :=
  ⟨hrole, fun hnot => absurd hstate hnot, hedge⟩

theorem Proper.edge (h : Proper v) (i : Fin n) : (v i).edge = false := by
  cases h with
  | rooted r hroot hothers =>
    by_cases hi : i = r
    · exact hi ▸ hroot.2.2
    · exact (hothers i hi).2.2
  | rootless hothers => exact (hothers i).1.2.2

theorem Proper.root_of_role (h : Proper v) (hr : (v r).role = .ROOT) :
    (v r).Root ∧ ∀ i, i ≠ r → (v i).Follower := by
  cases h with
  | rooted r' hroot hothers =>
    have hsame : r = r' := by
      by_contra hne
      exact (hothers r hne).1 hr
    subst hsame
    exact ⟨hroot, hothers⟩
  | rootless hothers => exact absurd hr (hothers r).1.1

theorem Proper.follower_of_role (h : Proper v) (ha : (v a).role ≠ .ROOT) : (v a).Follower := by
  cases h with
  | rooted r hroot hothers =>
    refine hothers a ?_
    rintro rfl
    exact ha hroot.1
  | rootless hothers => exact (hothers a).1

theorem Proper.elect (hothers : ∀ i, i ≠ a → (v i).Follower) (hx : x.Root) :
    Proper (Function.update v a x) := by
  refine .rooted a ?_ fun i hi => ?_
  · rw [Function.update_self]
    exact hx
  · rw [Function.update_of_ne hi]
    exact hothers i hi

theorem Proper.swap (h : Proper v) (hr : (v r).role = .ROOT) (hne : a ≠ r) (hx : x.Root)
    (hy : y.Follower) : Proper (Function.update (Function.update v a x) r y) := by
  rw [Function.update_comm hne]
  refine .elect (fun i hi => ?_) hx
  by_cases hir : i = r
  · subst hir
    rw [Function.update_self]
    exact hy
  · rw [Function.update_of_ne hir]
    exact (h.root_of_role hr).2 i hir

/-- A port gets another role below a root port that stays, or there are no alternates. -/
theorem Proper.follow (h : Proper v) (hx : x.Follower)
    (hroot : (v a).role = .ROOT → ∀ i, (v i).role ≠ .ALTERNATE)
    (halternate : x.role = .ALTERNATE → ∃ j, j ≠ a ∧ (v j).role = .ROOT) :
    Proper (Function.update v a x) := by
  cases h with
  | rooted r hr hothers =>
    by_cases har : a = r
    · subst har
      have hnot : x.role ≠ .ALTERNATE := by
        intro hx'
        obtain ⟨j, hj, hjroot⟩ := halternate hx'
        exact (hothers j hj).1 hjroot
      refine .rootless fun i => ?_
      by_cases hi : i = a
      · subst hi
        rw [Function.update_self]
        exact ⟨hx, hnot⟩
      · rw [Function.update_of_ne hi]
        exact ⟨hothers i hi, hroot hr.1 i⟩
    · refine .rooted r ?_ fun i hi => ?_
      · rw [Function.update_of_ne (Ne.symm har)]
        exact hr
      · by_cases hia : i = a
        · subst hia
          rw [Function.update_self]
          exact hx
        · rw [Function.update_of_ne hia]
          exact hothers i hi
  | rootless hothers =>
    have hnot : x.role ≠ .ALTERNATE := by
      intro hx'
      obtain ⟨j, -, hjroot⟩ := halternate hx'
      exact (hothers j).1.1 hjroot
    refine .rootless fun i => ?_
    by_cases hi : i = a
    · subst hi
      rw [Function.update_self]
      exact ⟨hx, hnot⟩
    · rw [Function.update_of_ne hi]
      exact hothers i

/-- A port that is not forwarding yet, and does not wait for a BPDU either. -/
def PortView.Pending (x : PortView) : Prop :=
  x.role = .NOTASSIGNED ∨ x.role = .DESIGNATED ∧ x.state ≠ .FORWARDING

/-- No port with carrier has missed its upgrade. -/
def Timely (now : SimTime) (carrier : Fin n → Bool) (v : Fin n → PortView) : Prop :=
  ∀ i, carrier i = true → (v i).Pending → now ≤ (v i).nextUpgrade

/-- The upgrade timer goes off no later than any port with carrier needs. -/
def Armed (fes : FutureEventSet SelfKinds) (carrier : Fin n → Bool) (v : Fin n → PortView) : Prop :=
  ∀ i, carrier i = true → (v i).Pending →
    ∃ e ∈ fes.scheduled, e.message = .SELF_UPGRADE ∧ e.arrivalTime ≤ (v i).nextUpgrade

variable {carrier : Fin n → Bool}

theorem Timely.update {now : SimTime} (h : Timely now carrier v)
    (hx : x.Pending → now ≤ x.nextUpgrade) : Timely now carrier (Function.update v a x) := by
  intro i hcarrier hpending
  by_cases hne : i = a
  · subst hne
    rw [Function.update_self] at hpending ⊢
    exact hx hpending
  · rw [Function.update_of_ne hne] at hpending ⊢
    exact h i hcarrier hpending

theorem Armed.update {fes : FutureEventSet SelfKinds}
    (h : Armed fes carrier v) (hx : ¬ x.Pending) : Armed fes carrier (Function.update v a x) := by
  intro i hcarrier hpending
  by_cases hne : i = a
  · subst hne
    rw [Function.update_self] at hpending
    exact absurd hpending hx
  · rw [Function.update_of_ne hne] at hpending ⊢
    exact h i hcarrier hpending

theorem Timely.of_le {now : SimTime} (h : Timely now carrier v)
    (hv : ∀ i, (v' i).Pending → v' i = v i ∨ now ≤ (v' i).nextUpgrade) : Timely now carrier v' := by
  intro i hcarrier hpending
  rcases hv i hpending with hsame | hle
  · rw [hsame] at hpending ⊢
    exact h i hcarrier hpending
  · exact hle

def roles (s : RSTP n) (i : Fin n) : PortView := view (s.ports i)

/-- The clock, the carriers and the delays are the same. -/
structure Frame (s s' : RSTP n) : Prop where
  simTime : s'.simTime = s.simTime
  hasCarrier : s'.hasCarrier = s.hasCarrier
  migrateTime : s'.migrateTime = s.migrateTime
  forwardDelay : s'.forwardDelay = s.forwardDelay
  helloTime : s'.helloTime = s.helloTime

/-- Nothing has changed that the upgrades depend on. -/
structure Quiet (s s' : RSTP n) : Prop where
  frame : Frame s s'
  fes : s'.fes = s.fes
  roles : s'.roles = s.roles

variable {s s' s'' : RSTP n}

theorem Frame.refl (s : RSTP n) : Frame s s := ⟨rfl, rfl, rfl, rfl, rfl⟩

theorem Frame.trans (h : Frame s s') (h' : Frame s' s'') : Frame s s'' :=
  ⟨h'.simTime.trans h.simTime, h'.hasCarrier.trans h.hasCarrier,
    h'.migrateTime.trans h.migrateTime, h'.forwardDelay.trans h.forwardDelay,
    h'.helloTime.trans h.helloTime⟩

theorem Quiet.refl (s : RSTP n) : Quiet s s := ⟨.refl s, rfl, rfl⟩

theorem Quiet.trans (h : Quiet s s') (h' : Quiet s' s'') : Quiet s s'' :=
  ⟨h.frame.trans h'.frame, h'.fes.trans h.fes, h'.roles.trans h.roles⟩

theorem frame_modifyPort (s : RSTP n) (i : Fin n)
    (f : Ieee8021dInterfaceData → Ieee8021dInterfaceData) : Frame s (s.modifyPort i f) :=
  ⟨rfl, rfl, rfl, rfl, rfl⟩

theorem roles_modifyPort (s : RSTP n) (i : Fin n)
    (f : Ieee8021dInterfaceData → Ieee8021dInterfaceData) :
    (s.modifyPort i f).roles = Function.update s.roles i (view (f (s.ports i))) := by
  funext j
  change view (Function.update s.ports i (f (s.ports i)) j) = _
  by_cases hj : j = i
  · subst hj
    rw [Function.update_self, Function.update_self]
  · rw [Function.update_of_ne hj, Function.update_of_ne hj]
    rfl

theorem quiet_modifyPort (s : RSTP n) (i : Fin n)
    {f : Ieee8021dInterfaceData → Ieee8021dInterfaceData} (hf : ∀ port, view (f port) = view port) :
    Quiet s (s.modifyPort i f) := by
  refine ⟨frame_modifyPort s i f, rfl, ?_⟩
  rw [roles_modifyPort, hf]
  exact Function.update_eq_self i s.roles

theorem quiet_emit (s : RSTP n) (output : Output n) : Quiet s (s.emit output) :=
  ⟨⟨rfl, rfl, rfl, rfl, rfl⟩, rfl, rfl⟩

theorem quiet_setLostBPDU (s : RSTP n) (i : Fin n) (k : ℕ) : Quiet s (s.setLostBPDU i k) :=
  quiet_modifyPort s i fun _ => rfl

theorem quiet_setTCWhile (s : RSTP n) (i : Fin n) (t : SimTime) : Quiet s (s.setTCWhile i t) :=
  quiet_modifyPort s i fun _ => rfl

theorem quiet_initInterfacedata (s : RSTP n) (i : Fin n) : Quiet s (s.initInterfacedata i) :=
  quiet_modifyPort s i fun _ => rfl

theorem quiet_updateInterfacedata (s : RSTP n) (frame : BPDU) (i : Fin n) :
    Quiet s (s.updateInterfacedata frame i) :=
  quiet_modifyPort s i fun _ => rfl

theorem quiet_foldl {f : RSTP n → Fin n → RSTP n} (hf : ∀ s i, Quiet s (f s i)) (l : List (Fin n)) :
    ∀ s, Quiet s (l.foldl f s) := by
  induction l with
  | nil => exact Quiet.refl
  | cons i l ih => exact fun s => (hf s i).trans (ih (f s i))

theorem quiet_flushOtherPorts (s : RSTP n) (i : Fin n) : Quiet s (s.flushOtherPorts i) := by
  refine quiet_foldl (fun s j => ?_) _ s
  split
  · exact (quiet_setTCWhile s j _).trans (quiet_emit _ _)
  · exact quiet_setTCWhile s j _

theorem quiet_sendBPDU (s : RSTP n) (i : Fin n) : Quiet s (s.sendBPDU i) := by
  unfold sendBPDU
  dsimp only
  split
  · exact quiet_emit s _
  · exact .refl s

theorem quiet_sendBPDUs (s : RSTP n) : Quiet s s.sendBPDUs := by
  refine quiet_foldl (fun s i => ?_) _ s
  dsimp only
  split
  · exact quiet_sendBPDU s i
  · exact .refl s

theorem quiet_sendTCNtoRoot (s : RSTP n) : Quiet s s.sendTCNtoRoot := by
  unfold sendTCNtoRoot
  split
  · exact .refl s
  · dsimp only
    split
    · exact quiet_emit s _
    · exact .refl s

theorem quiet_checkTC (s : RSTP n) (frame : BPDU) (i : Fin n) : Quiet s (s.checkTC frame i) := by
  unfold checkTC
  split
  · refine quiet_foldl (fun s j => ?_) _ s
    split
    · exact (quiet_emit s _).trans (quiet_setTCWhile _ j _)
    · exact .refl s
  · exact .refl s

theorem frame_setRoleState (s : RSTP n) (i : Fin n) (role : PortRole) (state : PortState) :
    Frame s (s.setRoleState i role state) := frame_modifyPort s i _

theorem roles_setRoleState (s : RSTP n) (i : Fin n) (role : PortRole) (state : PortState) :
    (s.setRoleState i role state).roles = Function.update s.roles i
      ⟨role, state, (s.roles i).nextUpgrade, (s.roles i).edge⟩ := roles_modifyPort s i _

theorem roles_setNextUpgrade (s : RSTP n) (i : Fin n) (t : SimTime) :
    (s.setNextUpgrade i t).roles = Function.update s.roles i
      ⟨(s.roles i).role, (s.roles i).state, t, (s.roles i).edge⟩ := roles_modifyPort s i _

theorem roles_setRoleState_setNextUpgrade (s : RSTP n) (i : Fin n) (role : PortRole)
    (state : PortState) (t : SimTime) :
    ((s.setRoleState i role state).setNextUpgrade i t).roles =
      Function.update s.roles i ⟨role, state, t, (s.roles i).edge⟩ := by
  rw [roles_setNextUpgrade, roles_setRoleState, Function.update_self, Function.update_idem]

end RSTP

end inet
