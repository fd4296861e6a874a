import LoRaInet.LinkLayer.Ieee8021d.Rstp.RSTP.Handlers
import LoRaInet.Transition.Run

namespace inet

open omnetpp transition

namespace RSTP

variable {n : ℕ} {s s' : RSTP n}

/-- What can happen to a bridge. -/
inductive Event (n : ℕ) where
  | selfMessage (kind : SelfKinds) (t : SimTime)
  | bpdu (t : SimTime) (switchPort : Fin n) (src : MACAddress) (frame : BPDU)
  | interfaceStateChanged (t : SimTime) (port : Fin n) (carrier : Bool)

def handle (s : RSTP n) : Event n → Except Fault (RSTP n)
  | .selfMessage kind t =>
    let s := { s with fes := s.fes.fire ⟨t, kind⟩, outputs := [] }
    match kind with
    | .SELF_HELLOTIME => s.handleHelloTime
    | .SELF_UPGRADE => s.handleUpgrade
  | .bpdu t switchPort src frame =>
    ({ s with fes := s.fes.advance t, outputs := [] } : RSTP n).handleIncomingFrame frame src switchPort
  | .interfaceStateChanged t port carrier =>
    ({ s with
      fes := s.fes.advance t
      hasCarrier := Function.update s.hasCarrier port carrier
      outputs := [] } : RSTP n).receiveSignal port

/-- Events come in the order of time, and the bridge's own BPDUs come from its ports. -/
def Enabled (s : RSTP n) : Event n → Prop
  | .selfMessage kind t => ⟨t, kind⟩ ∈ s.fes.scheduled ∧ s.fes.IsNext t
  | .bpdu t _ src frame => s.fes.IsNext t ∧ (src = s.bridgeAddress → frame.portNum < n)
  | .interfaceStateChanged t _ _ => s.fes.IsNext t

instance (s : RSTP n) : DecidablePred s.Enabled := fun e => by
  cases e <;> exact inferInstanceAs (Decidable (_ ∧ _))

def step (s : RSTP n) (e : Event n) : Option (RSTP n × Unit) :=
  if s.Enabled e then (s.handle e).toOption.map fun s' => (s', ()) else none

/-- Only expired BPDUs of the bridge itself may take the root port out while there are
alternates. -/
def Spares (s : RSTP n) : Event n → Prop
  | .bpdu _ switchPort src frame =>
    frame.messageAge < s.maxAge → src = s.bridgeAddress → s.SparesRoot frame switchPort
  | _ => True

instance (s : RSTP n) : DecidablePred s.Spares := fun e => by
  cases e with
  | bpdu _ switchPort src frame => exact inferInstanceAs (Decidable (_ → _ → _))
  | selfMessage | interfaceStateChanged => exact isTrue trivial

/-- A bridge without edge ports that has just started. -/
def Started (s : RSTP n) : Prop :=
  ∃ s₀ : RSTP n, (∀ i, (s₀.ports i).edge = false) ∧ 0 ≤ s₀.migrateTime ∧ 0 ≤ s₀.forwardDelay ∧
    0 ≤ s₀.helloTime ∧ s₀.start = .ok s

/-- At most one port is the root port, only root and designated ports are active, and no port
is stuck on its way to forwarding. -/
structure Healthy (s : RSTP n) : Prop where
  root_unique : ∀ i j, (s.ports i).role = .ROOT → (s.ports j).role = .ROOT → i = j
  root_forwarding : ∀ i, (s.ports i).role = .ROOT → (s.ports i).state = .FORWARDING
  active : ∀ i, (s.ports i).state = .FORWARDING ∨ (s.ports i).state = .LEARNING →
    (s.ports i).role = .ROOT ∨ (s.ports i).role = .DESIGNATED
  upgraded : ∀ i, s.hasCarrier i = true → (s.ports i).role = .NOTASSIGNED ∨
      (s.ports i).role = .DESIGNATED ∧ (s.ports i).state ≠ .FORWARDING →
    s.simTime ≤ (s.ports i).nextUpgrade ∧
      ∃ e ∈ s.fes.scheduled, e.message = .SELF_UPGRADE ∧ e.arrivalTime ≤ (s.ports i).nextUpgrade

theorem Inv.healthy (h : Inv s) : Healthy s where
  root_unique i j hi hj := by
    by_contra hne
    exact ((h.proper.root_of_role hj).2 i hne).1 hi
  root_forwarding i hi := (h.proper.root_of_role hi).1.2.1
  active i hi := by
    by_cases hroot : (s.ports i).role = .ROOT
    · exact .inl hroot
    · refine .inr ((h.proper.follower_of_role (a := i) hroot).2.1 ?_)
      change (s.ports i).state ≠ .DISCARDING
      rcases hi with hi | hi <;> rw [hi] <;> decide
  upgraded i hcarrier hpending := ⟨h.timely i hcarrier hpending, h.armed i hcarrier hpending⟩

variable {t : SimTime}

theorem Inv.timely_of_isNext (h : Inv s) (hnext : s.fes.IsNext t) :
    Timely t s.hasCarrier s.roles := by
  intro i hcarrier hpending
  obtain ⟨e, he, -, hle⟩ := h.armed i hcarrier hpending
  exact (hnext.2 e he).trans hle

theorem inv_advance (h : Inv s) (hnext : s.fes.IsNext t) :
    Inv ({ s with fes := s.fes.advance t, outputs := [] } : RSTP n) :=
  ⟨h.proper, h.timely_of_isNext hnext, h.armed, h.migrate_nonneg, h.forward_nonneg, h.hello_nonneg⟩

theorem inv_fire_hello (h : Inv s) (hnext : s.fes.IsNext t) :
    Inv ({ s with fes := s.fes.fire ⟨t, .SELF_HELLOTIME⟩, outputs := [] } : RSTP n) := by
  refine ⟨h.proper, h.timely_of_isNext hnext, fun i hcarrier hpending => ?_, h.migrate_nonneg,
    h.forward_nonneg, h.hello_nonneg⟩
  obtain ⟨e, he, hkind, hle⟩ := h.armed i hcarrier hpending
  have hne : e ≠ ⟨t, .SELF_HELLOTIME⟩ := by
    rintro rfl
    cases hkind
  exact ⟨e, (List.mem_erase_of_ne hne).mpr he, hkind, hle⟩

/-- What is kept while the ports are upgraded. -/
structure Due (s s' : RSTP n) : Prop where
  frame : Frame s s'
  proper : Proper s'.roles
  timely : Timely s.simTime s.hasCarrier s'.roles

theorem due_upgradePort (hdelay : 0 ≤ s.forwardDelay) (h : Due s s') (i : Fin n) :
    Due s (s'.upgradePort i) := by
  have hset : ∀ state, (s'.roles i).role ≠ .ROOT →
      Due s ((s'.setRoleState i .DESIGNATED state).setNextUpgrade i
        (s'.simTime + s'.forwardDelay)) := by
    intro state hrole
    have hroles := roles_setRoleState_setNextUpgrade s' i .DESIGNATED state
      (s'.simTime + s'.forwardDelay)
    refine ⟨h.frame.trans ((frame_setRoleState s' i _ _).trans (frame_modifyPort _ i _)), ?_, ?_⟩
    · rw [hroles]
      exact h.proper.follow ⟨by simp, fun _ => rfl, h.proper.edge i⟩
        (fun hroot => absurd hroot hrole) fun hx => by cases hx
    · rw [hroles]
      refine h.timely.update fun _ => ?_
      rw [h.frame.simTime, h.frame.forwardDelay]
      exact le_add_of_nonneg_right hdelay
  unfold upgradePort
  dsimp only
  split
  · split
    · next hrole =>
      exact hset .DISCARDING fun hroot => absurd (hrole.symm.trans hroot) (by decide)
    · split
      · next hrole =>
        have hnot : (s'.roles i).role ≠ .ROOT := fun hroot =>
          absurd (hrole.symm.trans hroot) (by decide)
        split
        · exact hset .LEARNING hnot
        · have hquiet := quiet_flushOtherPorts (s'.setRoleState i .DESIGNATED .FORWARDING) i
          have hroles := roles_setRoleState s' i .DESIGNATED .FORWARDING
          refine ⟨h.frame.trans ((frame_setRoleState s' i _ _).trans hquiet.frame), ?_, ?_⟩
          · rw [hquiet.roles, hroles]
            exact h.proper.follow ⟨by simp, fun _ => rfl, h.proper.edge i⟩
              (fun hroot => absurd hroot hnot) fun hx => by cases hx
          · rw [hquiet.roles, hroles]
            refine h.timely.update ?_
            rintro (hpending | ⟨-, hpending⟩)
            · cases hpending
            · exact absurd rfl hpending
        · exact h
      · exact h
  · exact h

theorem due_foldl (hdelay : 0 ≤ s.forwardDelay) (l : List (Fin n)) :
    ∀ s', Due s s' → Due s (l.foldl upgradePort s') := by
  induction l with
  | nil => exact fun s' h => h
  | cons i l ih => exact fun s' h => ih _ (due_upgradePort hdelay h i)

theorem inv_handleUpgrade (h : Inv s) (hnext : s.fes.IsNext t) :
    Returns ({ s with fes := s.fes.fire ⟨t, .SELF_UPGRADE⟩, outputs := [] } : RSTP n).handleUpgrade
      Inv := by
  have hdue := due_foldl (s := ({ s with fes := s.fes.fire ⟨t, .SELF_UPGRADE⟩, outputs := [] } :
    RSTP n)) h.forward_nonneg (List.finRange n) _ ⟨.refl _, h.proper, h.timely_of_isNext hnext⟩
  unfold handleUpgrade
  generalize (List.finRange n).foldl upgradePort _ = u at hdue
  obtain ⟨hframe, hproper, htimely⟩ := hdue
  have htimely' : Timely u.simTime u.hasCarrier u.roles := by
    rw [hframe.simTime, hframe.hasCarrier]
    exact htimely
  refine (scheduleNextUpgrade_returns htimely').mono fun s' hs' => ?_
  obtain ⟨hframe', hroles, harmed⟩ := hs'
  refine ⟨?_, ?_, ?_, ?_, ?_, ?_⟩
  · rw [hroles]
    exact hproper
  · rw [hroles, hframe'.simTime, hframe'.hasCarrier]
    exact htimely'
  · rw [hroles, hframe'.hasCarrier]
    exact harmed
  · rw [hframe'.migrateTime, hframe.migrateTime]
    exact h.migrate_nonneg
  · rw [hframe'.forwardDelay, hframe.forwardDelay]
    exact h.forward_nonneg
  · rw [hframe'.helloTime, hframe.helloTime]
    exact h.hello_nonneg

theorem compareTo_eq_zero_iff {address other : MACAddress} :
    address.compareTo other = 0 ↔ address = other := by
  unfold MACAddress.compareTo
  split
  · next hlt =>
    refine ⟨fun h => (by cases h), ?_⟩
    rintro rfl
    exact absurd hlt (lt_irrefl _)
  · split
    · next heq => exact ⟨fun _ => heq, fun _ => rfl⟩
    · next hne => exact ⟨fun h => (by cases h), fun h => absurd h hne⟩

theorem inv_handleIncomingFrame (h : Inv s) {frame : BPDU} {src : MACAddress} {a : Fin n}
    (hown : src = s.bridgeAddress → frame.portNum < n)
    (hspares : frame.messageAge < s.maxAge → src = s.bridgeAddress → s.SparesRoot frame a) :
    Returns (s.handleIncomingFrame frame src a) Inv := by
  have hchecked := h.quiet (quiet_checkTC s frame a)
  unfold handleIncomingFrame
  split
  · next hage =>
    dsimp only
    split
    · next hsrc =>
      rw [(checkTC_kept s frame a).1] at hsrc
      have heq := compareTo_eq_zero_iff.mp hsrc
      exact inv_handleBackup hchecked (hown heq) (sparesRoot_checkTC (hspares hage heq))
    · exact inv_processBPDU hchecked frame a
  · exact .ok h

/-- The carrier of a port changes, or something else about its interface. -/
theorem inv_receiveSignal (h : Inv s) (hnext : s.fes.IsNext t) (i : Fin n)
    (carrier : Bool) : Returns (({ s with
      fes := s.fes.advance t
      hasCarrier := Function.update s.hasCarrier i carrier
      outputs := [] } : RSTP n).receiveSignal i) Inv := by
  have hother : ∀ {P : Fin n → Prop}, (∀ j, s.hasCarrier j = true → P j) → ∀ j, j ≠ i →
      Function.update s.hasCarrier i carrier j = true → P j := by
    intro P hP j hj hcarrier
    rw [Function.update_of_ne hj] at hcarrier
    exact hP j hcarrier
  have htimely := h.timely_of_isNext hnext
  generalize hu : ({ s with
    fes := s.fes.advance t
    hasCarrier := Function.update s.hasCarrier i carrier
    outputs := [] } : RSTP n) = u
  have hroles : u.roles = s.roles := by rw [← hu]; rfl
  have htime : u.simTime = t := by rw [← hu]; rfl
  have hcarriers : u.hasCarrier = Function.update s.hasCarrier i carrier := by rw [← hu]
  have hfes : u.fes.scheduled = s.fes.scheduled := by rw [← hu]; rfl
  have hmigrate : 0 ≤ u.migrateTime := by rw [← hu]; exact h.migrate_nonneg
  have hforward : 0 ≤ u.forwardDelay := by rw [← hu]; exact h.forward_nonneg
  have hhello : 0 ≤ u.helloTime := by rw [← hu]; exact h.hello_nonneg
  unfold receiveSignal
  dsimp only
  split
  · next hcarrier =>
    -- the port itself waits for a new upgrade time, if for any
    have hset : ∃ v, v = (if (u.ports i).role = .NOTASSIGNED then
          u.setNextUpgrade i (u.simTime + u.migrateTime)
        else if (u.ports i).role = .DESIGNATED ∧
            ((u.ports i).state = .DISCARDING ∨ (u.ports i).state = .LEARNING) then
          u.setNextUpgrade i (u.simTime + u.forwardDelay)
        else u) ∧ Frame u v ∧ Proper v.roles ∧ (∀ j, j ≠ i → v.roles j = u.roles j) ∧
        ((v.roles i).Pending → u.simTime ≤ (v.roles i).nextUpgrade) := by
      have hproper : Proper u.roles := by rw [hroles]; exact h.proper
      have hlater : ∀ d, 0 ≤ d → (u.ports i).role ≠ .ROOT →
          Frame u (u.setNextUpgrade i (u.simTime + d)) ∧
          Proper (u.setNextUpgrade i (u.simTime + d)).roles ∧
          (∀ j, j ≠ i → (u.setNextUpgrade i (u.simTime + d)).roles j = u.roles j) ∧
          (((u.setNextUpgrade i (u.simTime + d)).roles i).Pending →
            u.simTime ≤ ((u.setNextUpgrade i (u.simTime + d)).roles i).nextUpgrade) := by
        intro d hd hrole
        have hset := roles_setNextUpgrade u i (u.simTime + d)
        have hfollower := hproper.follower_of_role (a := i) hrole
        refine ⟨frame_modifyPort u i _, ?_, fun j hj => ?_, fun _ => ?_⟩
        · rw [hset]
          refine hproper.follow hfollower (fun hroot => absurd hroot hrole) fun halternate => ?_
          cases hproper with
          | rooted r hr _ =>
            refine ⟨r, ?_, hr.1⟩
            rintro rfl
            exact hrole hr.1
          | rootless hothers => exact absurd halternate (hothers i).2
        · rw [hset, Function.update_of_ne hj]
        · rw [hset, Function.update_self]
          exact le_add_of_nonneg_right hd
      refine ⟨_, rfl, ?_⟩
      split
      · next hrole => exact hlater _ hmigrate (by rw [hrole]; decide)
      · next hrole =>
        split
        · next hwaiting => exact hlater _ hforward (by rw [hwaiting.1]; decide)
        · next hwaiting =>
          refine ⟨.refl u, hproper, fun j _ => rfl, fun hpending => absurd ?_ hwaiting⟩
          have hawaits := (pending_iff (u.ports i)).mpr hpending
          exact hawaits.resolve_left hrole
    obtain ⟨v, hv, hframe, hproper, hothers, hself⟩ := hset
    rw [← hv]
    have htimely' : Timely v.simTime v.hasCarrier v.roles := by
      intro j hjcarrier hjpending
      rw [hframe.hasCarrier, hcarriers] at hjcarrier
      rw [hframe.simTime]
      by_cases hj : j = i
      · subst hj
        exact hself hjpending
      · rw [hothers j hj, hroles] at hjpending ⊢
        rw [htime]
        exact hother htimely j hj hjcarrier hjpending
    refine (scheduleNextUpgrade_returns htimely').mono fun s' hs' => ?_
    obtain ⟨hframe', hroles', harmed⟩ := hs'
    refine ⟨?_, ?_, ?_, ?_, ?_, ?_⟩
    · rw [hroles']
      exact hproper
    · rw [hroles', hframe'.simTime, hframe'.hasCarrier]
      exact htimely'
    · rw [hroles', hframe'.hasCarrier]
      exact harmed
    · rw [hframe'.migrateTime, hframe.migrateTime]
      exact hmigrate
    · rw [hframe'.forwardDelay, hframe.forwardDelay]
      exact hforward
    · rw [hframe'.helloTime, hframe.helloTime]
      exact hhello
  · next hcarrier =>
    have hnot : ∀ j, u.hasCarrier j = true → j ≠ i := by
      rintro j hj rfl
      exact hcarrier hj
    refine .ok ⟨?_, fun j hj hpending => ?_, fun j hj hpending => ?_, hmigrate, hforward, hhello⟩
    · rw [hroles]
      exact h.proper
    · rw [hroles] at hpending ⊢
      rw [htime]
      have hj' := hj
      rw [hcarriers] at hj'
      exact hother htimely j (hnot j hj) hj' hpending
    · rw [hroles] at hpending ⊢
      rw [hfes]
      have hj' := hj
      rw [hcarriers] at hj'
      exact hother h.armed j (hnot j hj) hj' hpending

theorem inv_handle (h : Inv s) {e : Event n} (henabled : s.Enabled e) (hspares : s.Spares e) :
    Returns (s.handle e) Inv := by
  cases e with
  | selfMessage kind t =>
    cases kind with
    | SELF_HELLOTIME => exact inv_handleHelloTime (inv_fire_hello h henabled.2)
    | SELF_UPGRADE => exact inv_handleUpgrade h henabled.2
  | bpdu t switchPort src frame =>
    exact inv_handleIncomingFrame (inv_advance h henabled.1) henabled.2 hspares
  | interfaceStateChanged t port carrier => exact inv_receiveSignal h henabled port carrier

theorem inv_started (h : Started s) : Inv s := by
  obtain ⟨s₀, hedge, hmigrate, hforward, hhello, hstart⟩ := h
  have hinit : Returns s₀.start Inv := by
    refine (initPorts_returns hedge hmigrate).bind fun s' hs' => ?_
    obtain ⟨hframe, hroles, htimely, harmed⟩ := hs'
    have hinv : Inv s' := by
      refine ⟨?_, ?_, ?_, ?_, ?_, ?_⟩
      · rw [hroles]
        exact .rootless fun i => ⟨.of_discarding (by simp [startView]) rfl rfl, by simp [startView]⟩
      · rw [hframe.simTime, hframe.hasCarrier]
        exact htimely
      · rw [hframe.hasCarrier]
        exact harmed
      · rw [hframe.migrateTime]
        exact hmigrate
      · rw [hframe.forwardDelay]
        exact hforward
      · rw [hframe.helloTime]
        exact hhello
    refine (scheduleAt_returns le_rfl).bind fun fes hfes => ?_
    subst hfes
    exact .pure hinv.scheduled
  obtain ⟨s', hs', hinv⟩ := hinit
  rw [hstart] at hs'
  exact Except.ok.inj hs' ▸ hinv

/-- As long as no BPDU of the bridge itself takes the root port out while there are alternates,
the bridge is healthy, and no handler fails: there is a root port to contest with, and the
upgrade timer is not scheduled in the past. -/
theorem healthy_of_spares {history : List (Event n × RSTP n × Unit)}
    (hrun : Run Started (StepOf (traced step)) history s)
    (hspares : Always (fun _ l => l.2.1.Spares l.1) history) :
    Healthy s ∧ ∀ e, s.Enabled e → s.Spares e → ∃ s', s.handle e = .ok s' := by
  have hinv : Inv s := by
    refine @Run.invariant_of_always _ _ _ _ _ (fun _ s => Inv s) _ _ hrun hspares
      (fun s hs => inv_started hs) fun _ s l s' _ h hstep hcond => ?_
    obtain ⟨e, before, _⟩ := l
    obtain ⟨rfl, htaken⟩ := traced_eq_some.mp hstep
    unfold step at htaken
    split at htaken
    · next henabled =>
      obtain ⟨next, hnext, hresult⟩ := inv_handle h henabled hcond
      rw [hnext] at htaken
      exact (Prod.mk.inj (Option.some.inj htaken)).1 ▸ hresult
    · cases htaken
  refine ⟨hinv.healthy, fun e henabled hcond => ?_⟩
  obtain ⟨s', hs', -⟩ := inv_handle hinv henabled hcond
  exact ⟨s', hs'⟩

/-- A switch with three ports. -/
def threePorts : RSTP 3 where
  bridgePriority := 32768
  bridgeAddress := 5
  maxAge := 20
  helloTime := 2
  forwardDelay := 15
  migrateTime := 3
  tcWhileTime := 3
  ports := fun _ => Ieee8021dInterfaceData.PortInfo
  hasCarrier := fun _ => true
  fes := ⟨0, []⟩
  outputs := []

def started : RSTP 3 :=
  match threePorts.start with
  | .ok s => s
  | .error _ => threePorts

theorem started_started : Started started := by
  refine ⟨threePorts, fun _ => rfl, by decide +kernel, by decide +kernel, by decide +kernel, ?_⟩
  have hsome : threePorts.start.toOption.isSome = true := by decide +kernel
  unfold started
  cases hstart : threePorts.start with
  | ok s => rfl
  | error fault =>
    rw [hstart] at hsome
    cases hsome

def bpduFrom (bridge : MACAddress) (portNum rootPathCost : ℕ) : BPDU where
  protocolIdentifier := 0
  protocolVersionIdentifier := 0
  bpduType := 0
  tcaFlag := false
  tcFlag := false
  rootAddress := 1
  rootPriority := 32768
  rootPathCost := rootPathCost
  bridgeAddress := bridge
  bridgePriority := 32768
  portNum := portNum
  portPriority := 0
  messageAge := 0
  maxAge := 20
  helloTime := 2
  forwardDelay := 15

/-- The root is heard on port 2, and another bridge with a longer way to it on port 1. -/
def rootAndAlternate : List (Event 3) :=
  [.selfMessage .SELF_HELLOTIME 0, .bpdu 1 2 1 (bpduFrom 1 0 0), .bpdu 1 1 2 (bpduFrom 2 0 1)]

/-- The way to the root is through port 2, and port 1 is an alternate. -/
def twoWays : List (Event 3) :=
  [.selfMessage .SELF_HELLOTIME 0, .bpdu 1 2 3 (bpduFrom 3 0 1), .bpdu 1 1 4 (bpduFrom 4 0 2)]

theorem healthy_rootAndAlternate : ∃ s : RSTP 3, Healthy s ∧ s.getRootIndex = some 2 ∧
    ∃ s', s.handle (.selfMessage .SELF_HELLOTIME 2) = .ok s' := by
  obtain ⟨s, history, hrun, hspares, hroot, henabled⟩ := exists_run_of_initial (traced step)
    started_started rootAndAlternate
    (fun s history => Always (fun _ l => l.2.1.Spares l.1) history ∧ s.getRootIndex = some 2 ∧
      s.Enabled (.selfMessage .SELF_HELLOTIME 2)) (by decide +kernel)
  obtain ⟨hhealthy, hreturns⟩ := healthy_of_spares hrun hspares
  exact ⟨s, hhealthy, hroot, hreturns _ henabled trivial⟩

/-- A BPDU of port 0 arrives on the root port, which becomes a backup. The alternate port then
contests without a root port when its source has a longer way. -/
theorem contest_without_root : ∃ (s : RSTP 3) (history : _) (e : Event 3),
    Run Started (StepOf (traced step)) history s ∧ s.Enabled e ∧ ∀ s', s.handle e ≠ .ok s' := by
  obtain ⟨s, history, hrun, henabled, hfails⟩ := exists_run_of_initial (traced step)
    started_started (rootAndAlternate ++ [.bpdu 1 2 5 (bpduFrom 5 0 0)])
    (fun s _ => s.Enabled (.bpdu 1 1 2 (bpduFrom 2 0 5)) ∧
      (s.handle (.bpdu 1 1 2 (bpduFrom 2 0 5))).toOption.isNone = true) (by decide +kernel)
  refine ⟨s, history, _, hrun, henabled, fun s' hs' => ?_⟩
  rw [hs'] at hfails
  cases hfails

end RSTP

end inet
