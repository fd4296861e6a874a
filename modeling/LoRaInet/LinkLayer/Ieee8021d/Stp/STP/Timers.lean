import LoRaInet.LinkLayer.Ieee8021d.Stp.STP.Settled
import LoRaInet.Transition.Run

open omnetpp transition

namespace inet.STP

variable {n : ℕ}

section Handlers

def tickInterval : SimTime := 1

/-- The age and the forward timer of a port at a tick. -/
def incrementTimers (port : Ieee8021dInterfaceData) : Ieee8021dInterfaceData :=
  if port.role = .DISABLED then port
  else
    let port := if port.role ≠ .DESIGNATED then { port with age := port.age + tickInterval } else port
    if port.role = .ROOT ∨ port.role = .DESIGNATED then { port with fdWhile := port.fdWhile + tickInterval } else port

def generateHelloBDPUs (s : STP n) : List (StpOutput n) := (List.finRange n).map fun i => s.generateBPDU i

def lostRoot (s : STP n) : STP n := ({ s with topologyChangeNotification := true } : STP n).tryRoot

def lostAlternate (s : STP n) : STP n := { s.selectDesignatedPorts with topologyChangeNotification := true }

/-- One round of the loop that checks the ages. -/
def checkAge (s : STP n) (i : Fin n) : STP n :=
  if (s.ports i).age ≥ s.currentMaxAge then
    if (s.ports i).role = .ROOT then (s.initInterfacedata i).lostRoot else (s.initInterfacedata i).lostAlternate
  else s

def nextState : PortState → PortState
  | .DISCARDING => .LEARNING
  | .LEARNING => .FORWARDING
  | .FORWARDING => .FORWARDING

def checkFdWhile (currentFwdDelay : SimTime) (port : Ieee8021dInterfaceData) : Ieee8021dInterfaceData :=
  if port.role = .ROOT ∨ port.role = .DESIGNATED then
    if port.fdWhile ≥ currentFwdDelay then { port with state := nextState port.state, fdWhile := 0 } else port
  else { port with fdWhile := 0, state := .DISCARDING }

def checkTimers (s : STP n) : STP n × List (StpOutput n) :=
  let helloDue := decide (s.helloTime ≥ s.currentHelloTime)
  let outputs := if helloDue && s.isRoot then s.generateHelloBDPUs else []
  let s := if helloDue then { s with helloTime := 0 } else s
  let s := (List.finRange n).foldl checkAge s
  ({ s with ports := fun i => checkFdWhile s.currentFwdDelay (s.ports i) }, outputs)

def reset (s : STP n) : STP n :=
  ({ s with
    isRoot := true
    rootPriority := s.bridgePriority
    rootAddress := s.bridgeAddress
    rootPathCost := 0
    currentHelloTime := s.helloTime
    currentMaxAge := s.maxAge
    currentFwdDelay := s.forwardDelay } : STP n).setAllDesignated

/-- `helloTime` is the counter of the ticks: `STP` declares it anew, and the configured time of the base class is not read. -/
def checkParametersChange (s : STP n) : STP n :=
  let s :=
    if s.isRoot then
      { s with currentHelloTime := s.helloTime, currentMaxAge := s.maxAge, currentFwdDelay := s.forwardDelay }
    else s
  if s.currentBridgePriority ≠ s.bridgePriority then
    ({ s with currentBridgePriority := s.bridgePriority } : STP n).reset
  else s

/-- A new BPDU as a Topology Change Notification. -/
def tcnBPDU : BPDU where
  protocolIdentifier := 0
  protocolVersionIdentifier := 0
  bpduType := 1
  tcaFlag := false
  tcFlag := false
  rootAddress := MACAddress.UNSPECIFIED_ADDRESS
  rootPriority := 0
  rootPathCost := 0
  bridgeAddress := MACAddress.UNSPECIFIED_ADDRESS
  bridgePriority := 0
  portNum := 0
  portPriority := 0
  messageAge := 0
  maxAge := 0
  helloTime := 0
  forwardDelay := 0

variable [NeZero n]

/-- The root port is always one of the ports. -/
def generateTCN (s : STP n) : STP n × List (StpOutput n) :=
  if s.topologyChangeNotification ∨ ¬s.topologyChangeRecvd then
    if (s.ports (Fin.ofNat n s.rootPort)).role = .ROOT then
      ({ s with topologyChangeNotification := false },
        [.send MACAddress.STP_MULTICAST_ADDRESS (Fin.ofNat n s.rootPort) tcnBPDU])
    else (s, [])
  else (s, [])

def handleTick (s : STP n) : STP n × List (StpOutput n) :=
  let s := if s.isRoot then { s with helloTime := s.helloTime + 1 } else { s with helloTime := 0 }
  let checked := checkTimers { s with ports := fun i => incrementTimers (s.ports i) }
  let notified := checked.1.checkParametersChange.generateTCN
  (notified.1, checked.2 ++ notified.2)

/-- A notification is acknowledged and passed on towards the root. -/
def handleTCN (s : STP n) (arrivalGate : Fin n) (src dest : MACAddress) (tcn : BPDU) :
    STP n × List (StpOutput n) :=
  let s := { s with topologyChangeNotification := true }
  (s, s.generateBPDU arrivalGate src false true ::
    if s.isRoot then [] else [.send dest (Fin.ofNat n s.rootPort) tcn])

inductive Message (n : ℕ) where
  | bpdu (switchPort : Fin n) (src dest : MACAddress) (bpdu : BPDU)
  | tick
  deriving DecidableEq

/-- A message, before which the priority of the bridge may have been changed. -/
structure Event (n : ℕ) where
  bridgePriority : Option ℕ
  message : Message n

def configure (s : STP n) (bridgePriority : Option ℕ) : STP n :=
  { s with bridgePriority := bridgePriority.getD s.bridgePriority }

def handleMessage (s : STP n) : Message n → STP n × List (StpOutput n)
  | .bpdu switchPort src dest bpdu =>
    if bpdu.bpduType = 0 then s.handleBPDU switchPort bpdu
    else if bpdu.bpduType = 1 then s.handleTCN switchPort src dest bpdu
    else (s, [])
  | .tick => s.handleTick

def step (s : STP n) (e : Event n) : Option (STP n × List (StpOutput n)) :=
  some ((s.configure e.bridgePriority).handleMessage e.message)

/-- A bridge that has been started after it was created, when its counter was zero. -/
def Started (s : STP n) : Prop := ∃ created : STP n, created.helloTime = 0 ∧ s = created.start

end Handlers

section Roles

/-- A root bridge: all its ports are designated, and the root information is its own. -/
structure OwnRoot (s : STP n) : Prop where
  isRoot : s.isRoot = true
  role : ∀ i, (s.ports i).role = .DESIGNATED
  rootPriority : s.rootPriority = s.bridgePriority
  rootAddress : s.rootAddress = s.bridgeAddress
  rootPathCost : s.rootPathCost = 0

/-- A bridge whose root port is `x`. -/
structure Following (s : STP n) (x : Fin n) : Prop where
  isRoot : s.isRoot = false
  rootPort : s.rootPort = x
  role : ∀ i, (s.ports i).role = .ROOT ↔ i = x
  rootPriority : s.rootPriority = (s.ports x).rootPriority
  rootAddress : s.rootAddress = (s.ports x).rootAddress
  rootPathCost : s.rootPathCost = (s.ports x).rootPathCost
  desPorts : ∀ i, i ∈ s.desPorts ↔ (s.ports i).role = .DESIGNATED

variable (s : STP n)

def Roles : Prop := s.OwnRoot ∨ ∃ x, s.Following x

/-- The ports that the bridge has found to be designated are those on which it offers the better vector. -/
def Fresh : Prop :=
  ∀ i, (s.ports i).role = .DESIGNATED → comparePorts (s.bridgeGlobal i) (s.ports i) ≠ 0
deriving Decidable

/-- The port stores a better root than the bridge itself. -/
def HasSuperior (i : Fin n) : Prop :=
  compareBridgeIDs (s.ports i).rootPriority (s.ports i).rootAddress s.bridgePriority s.bridgeAddress > 0
deriving Decidable

/-- The condition on a tick: it ends in a reset, or no port of a bridge that is or could become root is too old by the bridge's own
limit, and what the roles were computed from has not been changed. -/
def TickOk : Prop :=
  s.currentBridgePriority ≠ s.bridgePriority ∨
    (s.isRoot = true → s.rootPriority = s.bridgePriority) ∧ (s.isRoot = false → s.Fresh) ∧ 0 < s.maxAge ∧
      ∀ i, s.isRoot = true ∨ ¬s.HasSuperior i → (incrementTimers (s.ports i)).age < s.maxAge
deriving Decidable

/-- The condition on a step: for other messages than ticks and configuration BPDUs, a root bridge keeps its priority. -/
def StepOk (e : Event n) : Prop :=
  match e.message with
  | .tick => (s.configure e.bridgePriority).TickOk
  | .bpdu _ _ _ bpdu =>
    bpdu.bpduType = 0 ∨ s.isRoot = false ∨ (s.configure e.bridgePriority).bridgePriority = s.bridgePriority

instance (s : STP n) (e : Event n) : Decidable (s.StepOk e) :=
  match e with
  | ⟨p, .tick⟩ => inferInstanceAs (Decidable (s.configure p).TickOk)
  | ⟨p, .bpdu _ _ _ bpdu⟩ => inferInstanceAs (Decidable
      (bpdu.bpduType = 0 ∨ s.isRoot = false ∨ (s.configure p).bridgePriority = s.bridgePriority))

end Roles

/-- The configuration BPDUs of a tick, with the ports they go to and the hello time they carry. -/
def hellos (outputs : List (StpOutput n)) : List (Fin n × SimTime) :=
  outputs.filterMap fun output =>
    match output with
    | .send _ switchPort bpdu => if bpdu.bpduType = 0 then some (switchPort, bpdu.helloTime) else none
    | _ => none

/-- An event, the state before it and what was sent. -/
abbrev Label (n : ℕ) := Event n × (STP n × List (StpOutput n))

/-- The seconds since the bridge became root or since its last hello. -/
def sinceHello : List (Label n) → ℕ
  | [] => 0
  | (event, before, outputs) :: history =>
    if ¬before.isRoot then 0
    else if event.message = .tick then
      if hellos outputs = [] then sinceHello history + 1 else 0
    else sinceHello history

/-- A root bridge sends its hellos on all ports, with the configured time, when that time has passed, and none before. -/
def HelloOk (configured : SimTime) (history : List (Label n)) (l : Label n) : Prop :=
  l.1.message = .tick → l.2.1.isRoot = true → (hellos l.2.2).Perm
      (if configured ≤ ((sinceHello history + 1 : ℕ) : SimTime) then (List.finRange n).map fun i => (i, configured)
      else [])
deriving Decidable

section SelectPorts

variable {s : STP n} {i : Fin n}

theorem designatedRole_eq_root_iff : s.designatedRole i = .ROOT ↔ (s.ports i).role = .ROOT := by
  unfold designatedRole
  dsimp only
  split
  · exact Iff.rfl
  · next hrole =>
    have hother : (s.ports i).role ≠ .ROOT := fun h => hrole (.inl h)
    refine iff_of_false ?_ hother
    split
    · simp
    · split
      · simp
      · exact hother

theorem designatedRole_ne_disabled (h : (s.ports i).role ≠ .DISABLED) : s.designatedRole i ≠ .DISABLED := by
  unfold designatedRole
  dsimp only
  split
  · exact h
  · split
    · simp
    · split
      · simp
      · exact h

/-- Where no port was designated without offering the better vector, the designated ports are those that do. -/
theorem designatedRole_eq_designated_iff (hfresh : s.Fresh) : s.designatedRole i = .DESIGNATED ↔
    (s.ports i).role ≠ .ROOT ∧ (s.ports i).role ≠ .DISABLED ∧ comparePorts (s.bridgeGlobal i) (s.ports i) > 0 := by
  unfold designatedRole
  dsimp only
  split
  · next hrole =>
    rcases hrole with hrole | hrole <;> simp [hrole]
  · next hrole =>
    rw [not_or] at hrole
    split
    · next hpos => exact iff_of_true rfl ⟨hrole.1, hrole.2, hpos⟩
    · next hpos =>
      refine iff_of_false ?_ fun h => hpos h.2.2
      split
      · simp
      · next hneg => exact fun hdesignated => hfresh i hdesignated (by omega)

theorem fresh_selectDesignatedPorts (hfresh : s.Fresh) : s.selectDesignatedPorts.Fresh := by
  intro i hrole
  have hpos := ((designatedRole_eq_designated_iff hfresh).mp hrole).2.2
  change comparePorts (s.bridgeGlobal i) (s.ports i) ≠ 0
  omega

theorem mem_desPorts_iff (hfresh : s.Fresh) :
    i ∈ s.selectDesignatedPorts.desPorts ↔ (s.selectDesignatedPorts.ports i).role = .DESIGNATED := by
  refine Iff.trans ?_ (designatedRole_eq_designated_iff hfresh).symm
  change i ∈ List.filter _ _ ↔ _
  simp

end SelectPorts

section TryRoot

variable {s : STP n} {i : Fin n}

/-- No port is disabled, and a root bridge uses its own limit. -/
structure Enabled (s : STP n) : Prop where
  role : ∀ i, (s.ports i).role ≠ .DISABLED
  currentMaxAge : s.isRoot = true → s.currentMaxAge = s.maxAge

theorem checkRootEligibility_iff_superior : s.checkRootEligibility = true ↔ ∀ i, ¬s.HasSuperior i := by
  unfold checkRootEligibility
  simp [HasSuperior]

theorem role_setAllDesignated (h : (s.ports i).role ≠ .DISABLED) : (s.setAllDesignated.ports i).role = .DESIGNATED := by
  change (if (s.ports i).role = .DISABLED then s.ports i else { s.ports i with role := .DESIGNATED }).role = _
  rw [if_neg h]

/-- What the roles are computed from, which `tryRoot` only reads. -/
structure Computed (s : STP n) : Prop where
  roles : s.Roles
  enabled : s.Enabled
  fresh : s.isRoot = false → s.Fresh

theorem tryRoot_computed (h : ∀ i, (s.ports i).role ≠ .DISABLED) : s.tryRoot.Computed := by
  unfold tryRoot
  by_cases helig : s.checkRootEligibility = true
  · rw [if_pos helig]
    have hrole (i : Fin n) := role_setAllDesignated (s := { s with isRoot := true }) (h i)
    refine ⟨.inl ⟨rfl, hrole, rfl, rfl, rfl⟩, ⟨fun i => ?_, fun _ => rfl⟩, fun hroot => by cases hroot⟩
    rw [hrole i]
    simp
  · have hn : 0 < n := by
      by_contra hzero
      obtain rfl : n = 0 := by omega
      exact helig (checkRootEligibility_iff_superior.mpr fun i => i.elim0)
    rw [if_neg helig, dif_pos hn]
    let t := ({ s with isRoot := false } : STP n).selectRootPort ⟨0, hn⟩
    let x := bestRootPort s.ports ⟨0, hn⟩
    have hport (i : Fin n) : (t.ports i).role = if i = x then .ROOT else .NOTASSIGNED := rfl
    have hfresh : t.Fresh := by
      intro i hrole
      rw [hport] at hrole
      split at hrole <;> cases hrole
    refine ⟨.inr ⟨x, rfl, rfl, fun i => ?_, rfl, rfl, rfl, fun i => mem_desPorts_iff hfresh⟩, ⟨fun i => ?_, ?_⟩, ?_⟩
    · refine (designatedRole_eq_root_iff (s := t)).trans ?_
      rw [hport]
      split <;> simp_all
    · apply designatedRole_ne_disabled (s := t)
      rw [hport]
      split <;> simp
    · intro hroot
      cases hroot
    · exact fun _ => fresh_selectDesignatedPorts hfresh

theorem tryRoot_age (s : STP n) (i : Fin n) : (s.tryRoot.ports i).age = (s.ports i).age := by
  unfold tryRoot
  split
  · change (if (s.ports i).role = .DISABLED then s.ports i else { s.ports i with role := .DESIGNATED }).age = _
    split <;> rfl
  · split <;> rfl

theorem hasSuperior_tryRoot (s : STP n) (i : Fin n) : s.tryRoot.HasSuperior i ↔ s.HasSuperior i := by
  unfold tryRoot
  split
  · change compareBridgeIDs (if (s.ports i).role = .DISABLED then s.ports i
      else { s.ports i with role := .DESIGNATED }).rootPriority (if (s.ports i).role = .DISABLED then s.ports i
      else { s.ports i with role := .DESIGNATED }).rootAddress _ _ > 0 ↔ _
    split <;> exact Iff.rfl
  · split <;> exact Iff.rfl

theorem maxAge_tryRoot (s : STP n) : s.tryRoot.maxAge = s.maxAge := by
  unfold tryRoot
  split
  · rfl
  · split <;> rfl

theorem not_hasSuperior_of_isRoot (hroot : s.tryRoot.isRoot = true) (i : Fin n) : ¬s.HasSuperior i := by
  have helig : s.checkRootEligibility = true := by
    by_contra hno
    unfold tryRoot at hroot
    rw [if_neg hno] at hroot
    split at hroot
    · cases hroot
    · next hn =>
      exact hn i.pos
  exact checkRootEligibility_iff_superior.mp helig i

end TryRoot

section Ageing

variable {s : STP n} {i j : Fin n}

/-- Before each round of the loop: no port of a bridge that is or could become root is too old. -/
structure Checking (s : STP n) : Prop where
  computed : s.Computed
  maxAge_pos : 0 < s.maxAge
  young : ∀ i, s.isRoot = true ∨ ¬s.HasSuperior i → (s.ports i).age < s.maxAge

theorem ports_initInterfacedata_of_ne (h : j ≠ i) : (s.initInterfacedata i).ports j = s.ports j :=
  Function.update_of_ne h _ _

theorem role_initInterfacedata : ((s.initInterfacedata i).ports i).role = .NOTASSIGNED := by
  simp [initInterfacedata, setPort]

theorem age_initInterfacedata : ((s.initInterfacedata i).ports i).age = 0 := by
  simp [initInterfacedata, setPort]

theorem enabled_initInterfacedata (h : ∀ i, (s.ports i).role ≠ .DISABLED) :
    ((s.initInterfacedata i).ports j).role ≠ .DISABLED := by
  by_cases hj : j = i
  · rw [hj, role_initInterfacedata]
    simp
  · rw [ports_initInterfacedata_of_ne hj]
    exact h j

theorem hasSuperior_initInterfacedata (h : ¬(s.initInterfacedata i).HasSuperior j) : j = i ∨ ¬s.HasSuperior j := by
  by_cases hj : j = i
  · exact .inl hj
  · refine .inr fun hsuperior => h ?_
    unfold HasSuperior
    rw [ports_initInterfacedata_of_ne hj]
    exact hsuperior

theorem checking_lostRoot (h : s.Checking) : (s.initInterfacedata i).lostRoot.Checking := by
  have hcomputed := tryRoot_computed (s := { s.initInterfacedata i with topologyChangeNotification := true })
    fun j => enabled_initInterfacedata (i := i) (j := j) h.computed.enabled.role
  have hmax : (s.initInterfacedata i).lostRoot.maxAge = s.maxAge := maxAge_tryRoot _
  refine ⟨hcomputed, hmax ▸ h.maxAge_pos, fun j hj => ?_⟩
  have hsuperior : ¬(s.initInterfacedata i).HasSuperior j := by
    rcases hj with hroot | hnone
    · exact not_hasSuperior_of_isRoot hroot j
    · exact fun hsuperior => hnone ((hasSuperior_tryRoot _ j).mpr hsuperior)
  have hage : ((s.initInterfacedata i).lostRoot.ports j).age = ((s.initInterfacedata i).ports j).age := tryRoot_age _ j
  rw [hage, hmax]
  by_cases hji : j = i
  · rw [hji, age_initInterfacedata]
    exact h.maxAge_pos
  · rw [ports_initInterfacedata_of_ne hji]
    exact h.young j (.inr ((hasSuperior_initInterfacedata hsuperior).resolve_left hji))

/-- A bridge that is not root keeps its root port when another port is lost. -/
theorem checking_lostAlternate (h : s.Checking) (hroot : s.isRoot = false) (hother : (s.ports i).role ≠ .ROOT) :
    (s.initInterfacedata i).lostAlternate.Checking := by
  rcases h.computed.roles with hown | ⟨x, hx⟩
  · rw [hown.isRoot] at hroot
    cases hroot
  have hne : x ≠ i := by
    rintro rfl
    exact hother ((hx.role x).mpr rfl)
  have hfresh : (s.initInterfacedata i).Fresh := by
    intro j hrole
    by_cases hji : j = i
    · rw [hji, role_initInterfacedata] at hrole
      cases hrole
    · have hbefore := h.computed.fresh hroot j
      rw [ports_initInterfacedata_of_ne hji] at hrole ⊢
      unfold bridgeGlobal at hbefore ⊢
      rw [ports_initInterfacedata_of_ne hji]
      exact hbefore hrole
  have hstored : (s.initInterfacedata i).ports x = s.ports x := ports_initInterfacedata_of_ne hne
  have hage (j : Fin n) : ((s.initInterfacedata i).lostAlternate.ports j).age =
    ((s.initInterfacedata i).ports j).age := rfl
  have hport : ((s.initInterfacedata i).lostAlternate.ports x).rootPriority = (s.ports x).rootPriority ∧
      ((s.initInterfacedata i).lostAlternate.ports x).rootAddress = (s.ports x).rootAddress ∧
      ((s.initInterfacedata i).lostAlternate.ports x).rootPathCost = (s.ports x).rootPathCost := by
    rw [← hstored]
    exact ⟨rfl, rfl, rfl⟩
  refine ⟨⟨.inr ⟨x, hroot, hx.rootPort, fun j => ?_, ?_, ?_, ?_, fun j => mem_desPorts_iff hfresh⟩,
    ⟨fun j => ?_, ?_⟩, fun _ => fresh_selectDesignatedPorts hfresh⟩, h.maxAge_pos, fun j hj => ?_⟩
  · refine (designatedRole_eq_root_iff (s := s.initInterfacedata i)).trans ?_
    by_cases hji : j = i
    · rw [hji, role_initInterfacedata]
      exact iff_of_false (by simp) (Ne.symm hne)
    · rw [ports_initInterfacedata_of_ne hji]
      exact hx.role j
  · rw [hport.1]
    exact hx.rootPriority
  · rw [hport.2.1]
    exact hx.rootAddress
  · rw [hport.2.2]
    exact hx.rootPathCost
  · exact designatedRole_ne_disabled (enabled_initInterfacedata h.computed.enabled.role)
  · intro hnow
    change s.isRoot = true at hnow
    rw [hroot] at hnow
    cases hnow
  · rcases hj with hnow | hsuperior
    · change s.isRoot = true at hnow
      rw [hroot] at hnow
      cases hnow
    · rw [hage]
      change ¬(s.initInterfacedata i).HasSuperior j at hsuperior
      change ((s.initInterfacedata i).ports j).age < s.maxAge
      by_cases hji : j = i
      · rw [hji, age_initInterfacedata]
        exact h.maxAge_pos
      · rw [ports_initInterfacedata_of_ne hji]
        exact h.young j (.inr ((hasSuperior_initInterfacedata hsuperior).resolve_left hji))

theorem checking_checkAge (h : s.Checking) (i : Fin n) : (s.checkAge i).Checking := by
  unfold checkAge
  split
  · next hold =>
    split
    · exact checking_lostRoot h
    · next hother =>
      have hroot : s.isRoot = false := by
        by_contra hroot
        have hyoung := h.young i (.inl (by simpa using hroot))
        rw [h.computed.enabled.currentMaxAge (by simpa using hroot)] at hold
        exact absurd hyoung (not_lt.mpr hold)
      exact checking_lostAlternate h hroot hother
  · exact h

theorem checking_foldl_checkAge (l : List (Fin n)) (h : s.Checking) : (l.foldl checkAge s).Checking := by
  induction l generalizing s with
  | nil => exact h
  | cons i l ih => exact ih (checking_checkAge h i)

end Ageing

section AnyState

variable {s : STP n}

theorem enabled_checkAge (h : s.Enabled) (i : Fin n) : (s.checkAge i).Enabled := by
  have hinit (j : Fin n) := enabled_initInterfacedata (i := i) (j := j) h.role
  unfold checkAge
  split
  · split
    · exact (tryRoot_computed (s := { s.initInterfacedata i with topologyChangeNotification := true }) hinit).enabled
    · exact ⟨fun j => designatedRole_ne_disabled (hinit j), h.currentMaxAge⟩
  · exact h

theorem enabled_foldl_checkAge (l : List (Fin n)) (h : s.Enabled) : (l.foldl checkAge s).Enabled := by
  induction l generalizing s with
  | nil => exact h
  | cons i l ih => exact ih (enabled_checkAge h i)

theorem ownRoot_reset (h : ∀ i, (s.ports i).role ≠ .DISABLED) : s.reset.OwnRoot :=
  ⟨rfl, fun i => role_setAllDesignated (s := { s with
    isRoot := true
    rootPriority := s.bridgePriority
    rootAddress := s.bridgeAddress
    rootPathCost := 0
    currentHelloTime := s.helloTime
    currentMaxAge := s.maxAge
    currentFwdDelay := s.forwardDelay }) (h i), rfl, rfl, rfl⟩

/-- What the roles are about, apart from the priority of the bridge. -/
structure SameRoles (s s' : STP n) : Prop where
  isRoot : s'.isRoot = s.isRoot
  rootPort : s'.rootPort = s.rootPort
  desPorts : s'.desPorts = s.desPorts
  rootPriority : s'.rootPriority = s.rootPriority
  rootAddress : s'.rootAddress = s.rootAddress
  rootPathCost : s'.rootPathCost = s.rootPathCost
  bridgeAddress : s'.bridgeAddress = s.bridgeAddress
  role : ∀ i, (s'.ports i).role = (s.ports i).role
  portRoot : ∀ i, (s'.ports i).rootPriority = (s.ports i).rootPriority ∧
    (s'.ports i).rootAddress = (s.ports i).rootAddress ∧ (s'.ports i).rootPathCost = (s.ports i).rootPathCost

theorem SameRoles.roles {s' : STP n} (h : SameRoles s s') (hroles : s.Roles)
    (hown : s.isRoot = true → s.rootPriority = s'.bridgePriority) : s'.Roles := by
  rcases hroles with hroot | ⟨x, hx⟩
  · refine .inl ⟨h.isRoot.trans hroot.isRoot, fun i => (h.role i).trans (hroot.role i), ?_, ?_, ?_⟩
    · rw [h.rootPriority, hown hroot.isRoot]
    · rw [h.rootAddress, h.bridgeAddress, hroot.rootAddress]
    · rw [h.rootPathCost, hroot.rootPathCost]
  · obtain ⟨hpriority, haddress, hcost⟩ := h.portRoot x
    refine .inr ⟨x, h.isRoot.trans hx.isRoot, h.rootPort.trans hx.rootPort, fun i => ?_, ?_, ?_, ?_, fun i => ?_⟩
    · rw [h.role]
      exact hx.role i
    · rw [h.rootPriority, hpriority, hx.rootPriority]
    · rw [h.rootAddress, haddress, hx.rootAddress]
    · rw [h.rootPathCost, hcost, hx.rootPathCost]
    · rw [h.desPorts, h.role]
      exact hx.desPorts i

theorem Roles.own (h : s.Roles) (hroot : s.isRoot = true) : s.rootPriority = s.bridgePriority := by
  rcases h with hown | ⟨x, hx⟩
  · exact hown.rootPriority
  · rw [hx.isRoot] at hroot
    cases hroot

theorem incrementTimers_eq (port : Ieee8021dInterfaceData) :
    ∃ age fdWhile, incrementTimers port = { port with age := age, fdWhile := fdWhile } := by
  unfold incrementTimers
  dsimp only
  split
  · exact ⟨_, _, rfl⟩
  · split <;> split <;> exact ⟨_, _, rfl⟩

theorem checkFdWhile_eq (currentFwdDelay : SimTime) (port : Ieee8021dInterfaceData) :
    ∃ state fdWhile, checkFdWhile currentFwdDelay port = { port with state := state, fdWhile := fdWhile } := by
  unfold checkFdWhile
  split
  · split <;> exact ⟨_, _, rfl⟩
  · exact ⟨_, _, rfl⟩

theorem role_checkFdWhile (currentFwdDelay : SimTime) (port : Ieee8021dInterfaceData) :
    (checkFdWhile currentFwdDelay port).role = port.role := by
  obtain ⟨state, fdWhile, heq⟩ := checkFdWhile_eq currentFwdDelay port
  rw [heq]

theorem role_incrementTimers (port : Ieee8021dInterfaceData) : (incrementTimers port).role = port.role := by
  obtain ⟨age, fdWhile, heq⟩ := incrementTimers_eq port
  rw [heq]

end AnyState

section Tick

variable {s : STP n}

/-- The bridge after the first part of a tick, with the counter at `t`. -/
def ticked (s : STP n) (t : SimTime) : STP n :=
  { s with helloTime := t, ports := fun i => incrementTimers (s.ports i) }

theorem enabled_ticked (h : s.Enabled) (t : SimTime) : (s.ticked t).Enabled := by
  refine ⟨fun i => ?_, h.currentMaxAge⟩
  change (incrementTimers (s.ports i)).role ≠ _
  rw [role_incrementTimers]
  exact h.role i

theorem checking_ticked (henabled : s.Enabled) (hroles : s.Roles) (hfresh : s.isRoot = false → s.Fresh)
    (hpos : 0 < s.maxAge)
    (hyoung : ∀ i, s.isRoot = true ∨ ¬s.HasSuperior i → (incrementTimers (s.ports i)).age < s.maxAge) (t : SimTime) :
    (s.ticked t).Checking := by
  have hsame : SameRoles s (s.ticked t) := by
    refine ⟨rfl, rfl, rfl, rfl, rfl, rfl, rfl, fun i => role_incrementTimers _, fun i => ?_⟩
    obtain ⟨age, fdWhile, heq⟩ := incrementTimers_eq (s.ports i)
    change (incrementTimers (s.ports i)).rootPriority = _ ∧ (incrementTimers (s.ports i)).rootAddress = _ ∧
      (incrementTimers (s.ports i)).rootPathCost = _
    rw [heq]
    exact ⟨rfl, rfl, rfl⟩
  refine ⟨⟨hsame.roles hroles hroles.own, enabled_ticked henabled t, fun hroot i hrole => ?_⟩, hpos, fun i hi => ?_⟩
  · have hcompare : comparePorts ((s.ticked t).bridgeGlobal i) ((s.ticked t).ports i) =
        comparePorts (s.bridgeGlobal i) (s.ports i) := by
      obtain ⟨age, fdWhile, heq⟩ := incrementTimers_eq (s.ports i)
      have hport : (s.ticked t).ports i = { s.ports i with age := age, fdWhile := fdWhile } := heq
      unfold bridgeGlobal
      rw [hport]
      rfl
    rw [hcompare]
    exact hfresh hroot i ((hsame.role i).symm.trans hrole)
  · apply hyoung i
    refine hi.imp id fun hnone hsuperior => hnone ?_
    obtain ⟨hpriority, haddress, -⟩ := hsame.portRoot i
    unfold HasSuperior
    rw [hpriority, haddress]
    exact hsuperior

/-- The bridge after the last loop of `checkTimers`. -/
def forwarded (s : STP n) : STP n := { s with ports := fun i => checkFdWhile s.currentFwdDelay (s.ports i) }

theorem sameRoles_forwarded (s : STP n) : SameRoles s s.forwarded := by
  refine ⟨rfl, rfl, rfl, rfl, rfl, rfl, rfl, fun i => role_checkFdWhile _ _, fun i => ?_⟩
  obtain ⟨state, fdWhile, heq⟩ := checkFdWhile_eq s.currentFwdDelay (s.ports i)
  change (checkFdWhile s.currentFwdDelay (s.ports i)).rootPriority = _ ∧
    (checkFdWhile s.currentFwdDelay (s.ports i)).rootAddress = _ ∧
    (checkFdWhile s.currentFwdDelay (s.ports i)).rootPathCost = _
  rw [heq]
  exact ⟨rfl, rfl, rfl⟩

theorem checkTimers_ticked (s : STP n) (t : SimTime) :
    ∃ t', (s.ticked t).checkTimers.1 = ((List.finRange n).foldl checkAge (s.ticked t')).forwarded := by
  unfold checkTimers
  dsimp only
  split
  · exact ⟨0, rfl⟩
  · exact ⟨t, rfl⟩

theorem enabled_checkTimers (h : s.Enabled) (t : SimTime) : (s.ticked t).checkTimers.1.Enabled := by
  obtain ⟨t', heq⟩ := checkTimers_ticked s t
  have hloop := enabled_foldl_checkAge (List.finRange n) (enabled_ticked h t')
  rw [heq]
  refine ⟨fun i => ?_, hloop.currentMaxAge⟩
  rw [(sameRoles_forwarded _).role i]
  exact hloop.role i

theorem roles_checkTimers (h : ∀ t, (s.ticked t).Checking) (t : SimTime) : (s.ticked t).checkTimers.1.Roles := by
  obtain ⟨t', heq⟩ := checkTimers_ticked s t
  have hloop := (checking_foldl_checkAge (List.finRange n) (h t')).computed.roles
  rw [heq]
  exact (sameRoles_forwarded _).roles hloop hloop.own

/-- The bridge with the values that a root bridge takes from its parameters. -/
def refreshed (s : STP n) : STP n :=
  if s.isRoot then
    { s with currentHelloTime := s.helloTime, currentMaxAge := s.maxAge, currentFwdDelay := s.forwardDelay }
  else s

theorem checkParametersChange_eq (s : STP n) : s.checkParametersChange =
    if s.refreshed.currentBridgePriority ≠ s.refreshed.bridgePriority then
      ({ s.refreshed with currentBridgePriority := s.refreshed.bridgePriority } : STP n).reset
    else s.refreshed := rfl

theorem refreshed_cases (s : STP n) : s.isRoot = false ∧ s.refreshed = s ∨ s.isRoot = true ∧ s.refreshed =
    { s with currentHelloTime := s.helloTime, currentMaxAge := s.maxAge, currentFwdDelay := s.forwardDelay } := by
  unfold refreshed
  cases hroot : s.isRoot
  · exact .inl ⟨rfl, rfl⟩
  · exact .inr ⟨rfl, rfl⟩

theorem enabled_refreshed (h : s.Enabled) : s.refreshed.Enabled := by
  rcases s.refreshed_cases with ⟨-, heq⟩ | ⟨-, heq⟩
  · rw [heq]
    exact h
  · rw [heq]
    exact ⟨h.role, fun _ => rfl⟩

theorem sameRoles_refreshed (s : STP n) : SameRoles s s.refreshed ∧ s.refreshed.bridgePriority = s.bridgePriority ∧
    s.refreshed.currentBridgePriority = s.currentBridgePriority := by
  rcases s.refreshed_cases with ⟨-, heq⟩ | ⟨-, heq⟩ <;> rw [heq] <;>
    exact ⟨⟨rfl, rfl, rfl, rfl, rfl, rfl, rfl, fun _ => rfl, fun _ => ⟨rfl, rfl, rfl⟩⟩, rfl, rfl⟩

theorem enabled_checkParametersChange (h : s.Enabled) : s.checkParametersChange.Enabled := by
  rw [checkParametersChange_eq]
  split
  · have hroot := ownRoot_reset (s := { s.refreshed with currentBridgePriority := s.refreshed.bridgePriority })
      (enabled_refreshed h).role
    refine ⟨fun i => ?_, fun _ => rfl⟩
    rw [hroot.role i]
    simp
  · exact enabled_refreshed h

theorem roles_checkParametersChange (h : s.Enabled)
    (hroles : s.Roles ∨ s.currentBridgePriority ≠ s.bridgePriority) : s.checkParametersChange.Roles := by
  obtain ⟨hsame, hpriority, hcurrent⟩ := s.sameRoles_refreshed
  rw [checkParametersChange_eq, hpriority, hcurrent]
  split
  · exact .inl (ownRoot_reset (s := { s.refreshed with currentBridgePriority := s.bridgePriority })
      (enabled_refreshed h).role)
  · next hkept =>
    have hroles := hroles.resolve_right hkept
    exact hsame.roles hroles fun hroot => (hroles.own hroot).trans hpriority.symm

theorem currentBridgePriority_checkAge (s : STP n) (i : Fin n) :
    (s.checkAge i).currentBridgePriority = s.currentBridgePriority ∧ (s.checkAge i).bridgePriority = s.bridgePriority := by
  have htry (t : STP n) : t.tryRoot.currentBridgePriority = t.currentBridgePriority ∧
      t.tryRoot.bridgePriority = t.bridgePriority := by
    unfold tryRoot
    split
    · exact ⟨rfl, rfl⟩
    · split <;> exact ⟨rfl, rfl⟩
  unfold checkAge
  split
  · split
    · exact htry _
    · exact ⟨rfl, rfl⟩
  · exact ⟨rfl, rfl⟩

theorem currentBridgePriority_checkTimers (s : STP n) (t : SimTime) :
    (s.ticked t).checkTimers.1.currentBridgePriority = s.currentBridgePriority ∧
      (s.ticked t).checkTimers.1.bridgePriority = s.bridgePriority := by
  obtain ⟨t', heq⟩ := checkTimers_ticked s t
  have hloop (l : List (Fin n)) (u : STP n) : (l.foldl checkAge u).currentBridgePriority = u.currentBridgePriority ∧
      (l.foldl checkAge u).bridgePriority = u.bridgePriority := by
    induction l generalizing u with
    | nil => exact ⟨rfl, rfl⟩
    | cons i l ih =>
      obtain ⟨hcurrent, hpriority⟩ := currentBridgePriority_checkAge u i
      rw [List.foldl_cons, (ih _).1, (ih _).2]
      exact ⟨hcurrent, hpriority⟩
  rw [heq]
  exact hloop _ _

variable [NeZero n]

theorem generateTCN_state (s : STP n) : ∃ notification,
    s.generateTCN.1 = { s with topologyChangeNotification := notification } := by
  unfold generateTCN
  split
  · split <;> exact ⟨_, rfl⟩
  · exact ⟨_, rfl⟩

/-- The counter of the hello timer in a tick. -/
def tickCount (s : STP n) : SimTime := if s.isRoot then s.helloTime + 1 else 0

theorem handleTick_eq (s : STP n) : s.handleTick =
    ((s.ticked s.tickCount).checkTimers.1.checkParametersChange.generateTCN.1,
      (s.ticked s.tickCount).checkTimers.2 ++
        (s.ticked s.tickCount).checkTimers.1.checkParametersChange.generateTCN.2) := by
  have hcount : (if s.isRoot then { s with helloTime := s.helloTime + 1 } else { s with helloTime := 0 } : STP n) =
      { s with helloTime := s.tickCount } := by
    unfold tickCount
    split <;> rfl
  unfold handleTick
  rw [hcount]
  rfl

theorem enabled_handleTick (h : s.Enabled) : s.handleTick.1.Enabled := by
  have henabled := enabled_checkParametersChange (enabled_checkTimers h s.tickCount)
  obtain ⟨notification, heq⟩ := (s.ticked s.tickCount).checkTimers.1.checkParametersChange.generateTCN_state
  rw [handleTick_eq, heq]
  exact ⟨henabled.role, henabled.currentMaxAge⟩

/-- A tick that meets the condition ends with the roles of its state. -/
theorem roles_handleTick (h : s.Enabled) (hok : s.TickOk) (hroles : (s.isRoot = true → s.rootPriority = s.bridgePriority) →
    s.Roles) : s.handleTick.1.Roles := by
  obtain ⟨notification, heq⟩ := (s.ticked s.tickCount).checkTimers.1.checkParametersChange.generateTCN_state
  obtain ⟨hcurrent, hpriority⟩ := currentBridgePriority_checkTimers s s.tickCount
  have hchecked : (s.ticked s.tickCount).checkTimers.1.Roles ∨
      (s.ticked s.tickCount).checkTimers.1.currentBridgePriority ≠
        (s.ticked s.tickCount).checkTimers.1.bridgePriority := by
    rcases hok with hreset | ⟨hown, hfresh, hpos, hyoung⟩
    · right
      rwa [hcurrent, hpriority]
    · exact .inl (roles_checkTimers (checking_ticked h (hroles hown) hfresh hpos hyoung) s.tickCount)
  have hfinal := roles_checkParametersChange (enabled_checkTimers h s.tickCount) hchecked
  rw [handleTick_eq, heq]
  exact SameRoles.roles (s := (s.ticked s.tickCount).checkTimers.1.checkParametersChange)
    ⟨rfl, rfl, rfl, rfl, rfl, rfl, rfl, fun _ => rfl, fun _ => ⟨rfl, rfl, rfl⟩⟩ hfinal hfinal.own

end Tick

section BPDU

variable {s : STP n}

/-- A BPDU ends in `tryRoot`, and before that no role and no counter is changed. -/
theorem handleBPDU_eq (s : STP n) (arrivalGate : Fin n) (bpdu : BPDU) :
    ∃ t : STP n, (s.handleBPDU arrivalGate bpdu).1 = t.tryRoot ∧ t.helloTime = s.helloTime ∧
      ∀ i, (t.ports i).role = (s.ports i).role := by
  have hset (t : STP n) (port : Ieee8021dInterfaceData) (hrole : port.role = (t.ports arrivalGate).role) (i : Fin n) :
      ((t.setPort arrivalGate port).ports i).role = (t.ports i).role := by
    unfold setPort
    dsimp only
    by_cases hi : i = arrivalGate
    · rw [hi, Function.update_self, hrole]
    · rw [Function.update_of_ne hi]
  have hstore (t : STP n) : (t.setSuperiorBPDU arrivalGate bpdu).helloTime = t.helloTime ∧
      ∀ i, ((t.setSuperiorBPDU arrivalGate bpdu).ports i).role = (t.ports i).role := by
    unfold setSuperiorBPDU
    split
    · exact ⟨rfl, fun _ => rfl⟩
    · exact ⟨rfl, hset t _ rfl⟩
  have hsuperior (t : STP n) : (t.isSuperiorBPDU arrivalGate bpdu).2.helloTime = t.helloTime ∧
      ∀ i, ((t.isSuperiorBPDU arrivalGate bpdu).2.ports i).role = (t.ports i).role := by
    unfold isSuperiorBPDU
    dsimp only
    split
    · exact ⟨rfl, fun _ => rfl⟩
    · split
      · obtain ⟨hhello, hrole⟩ := hstore (t.setPort arrivalGate
          { t.ports arrivalGate with fdWhile := 0, state := .DISCARDING })
        refine ⟨hhello, fun i => (hrole i).trans ?_⟩
        exact hset t { t.ports arrivalGate with fdWhile := 0, state := .DISCARDING } rfl i
      · exact hstore t
  unfold handleBPDU
  split
  · exact ⟨_, rfl, hsuperior _⟩
  · exact ⟨_, rfl, hsuperior _⟩

end BPDU

section Counter

variable {s : STP n}

/-- Between events the counter is zero, and it is what a root bridge takes for the hello time. -/
structure Idle (s : STP n) : Prop where
  helloTime : s.helloTime = 0
  currentHelloTime : s.isRoot = true → s.currentHelloTime = 0

theorem idle_tryRoot (h : s.helloTime = 0) : s.tryRoot.Idle := by
  unfold tryRoot
  split
  · exact ⟨h, fun _ => h⟩
  · split
    · refine ⟨h, fun hroot => ?_⟩
      cases hroot
    · next helig hn =>
      refine absurd (checkRootEligibility_iff_superior.mpr fun i => ?_) helig
      exact absurd i.pos hn

theorem idle_checkAge (h : s.Idle) (i : Fin n) : (s.checkAge i).Idle := by
  unfold checkAge
  split
  · split
    · exact idle_tryRoot h.helloTime
    · exact ⟨h.helloTime, h.currentHelloTime⟩
  · exact h

theorem idle_foldl_checkAge (l : List (Fin n)) (h : s.Idle) : (l.foldl checkAge s).Idle := by
  induction l generalizing s with
  | nil => exact h
  | cons i l ih => exact ih (idle_checkAge h i)

/-- The counter of a root bridge has always reached the hello time at a tick. -/
theorem checkTimers_of_idle (h : s.Idle) : (s.ticked s.tickCount).checkTimers =
    (((List.finRange n).foldl checkAge (s.ticked 0)).forwarded,
      if s.isRoot then (s.ticked s.tickCount).generateHelloBDPUs else []) := by
  have htimers (t : SimTime) (hdue : s.isRoot = true → s.currentHelloTime ≤ t) (hzero : s.isRoot = false → t = 0) :
      (s.ticked t).checkTimers = (((List.finRange n).foldl checkAge (s.ticked 0)).forwarded,
        if s.isRoot then (s.ticked t).generateHelloBDPUs else []) := by
    unfold checkTimers
    dsimp only
    by_cases hle : (s.ticked t).helloTime ≥ (s.ticked t).currentHelloTime
    · rw [decide_eq_true hle, Bool.true_and]
      rfl
    · rw [decide_eq_false hle, Bool.false_and]
      have hroot : s.isRoot = false := by
        by_contra hroot
        exact hle (hdue (by simpa using hroot))
      obtain rfl := hzero hroot
      rw [hroot]
      rfl
  apply htimers
  · intro hroot
    rw [tickCount, if_pos hroot, h.helloTime, h.currentHelloTime hroot, zero_add]
    exact zero_le_one
  · intro hroot
    rw [tickCount, if_neg (by simp [hroot])]

theorem idle_checkParametersChange (h : s.Idle) : s.checkParametersChange.Idle := by
  have hrefreshed : s.refreshed.Idle := by
    rcases s.refreshed_cases with ⟨-, heq⟩ | ⟨-, heq⟩
    · rw [heq]
      exact h
    · rw [heq]
      exact ⟨h.helloTime, fun _ => h.helloTime⟩
  rw [checkParametersChange_eq]
  split
  · exact ⟨hrefreshed.helloTime, fun _ => hrefreshed.helloTime⟩
  · exact hrefreshed

theorem hellos_generateHelloBDPUs (s : STP n) :
    hellos s.generateHelloBDPUs = (List.finRange n).map fun i => (i, s.currentHelloTime) := by
  rw [hellos, generateHelloBDPUs, List.filterMap_map, ← List.filterMap_eq_map]
  rfl

variable [NeZero n]

theorem hellos_generateTCN (s : STP n) : hellos s.generateTCN.2 = [] := by
  unfold generateTCN
  split
  · split <;> rfl
  · rfl

theorem idle_handleTick (h : s.Idle) : s.handleTick.1.Idle := by
  obtain ⟨notification, heq⟩ := (s.ticked s.tickCount).checkTimers.1.checkParametersChange.generateTCN_state
  have hloop : ((List.finRange n).foldl checkAge (s.ticked 0)).Idle :=
    idle_foldl_checkAge _ ⟨rfl, h.currentHelloTime⟩
  have hforwarded : ((List.finRange n).foldl checkAge (s.ticked 0)).forwarded.Idle :=
    ⟨hloop.helloTime, hloop.currentHelloTime⟩
  have hidle := idle_checkParametersChange hforwarded
  rw [handleTick_eq, heq, checkTimers_of_idle h]
  exact ⟨hidle.helloTime, hidle.currentHelloTime⟩

theorem hellos_handleTick (h : s.Idle) (hroot : s.isRoot = true) :
    hellos s.handleTick.2 = (List.finRange n).map fun i => (i, 0) := by
  have hsent : hellos (s.ticked s.tickCount).generateHelloBDPUs = (List.finRange n).map fun i => (i, 0) := by
    rw [hellos_generateHelloBDPUs]
    change (List.finRange n).map (fun i => (i, s.currentHelloTime)) = _
    rw [h.currentHelloTime hroot]
  have happend (first second : List (StpOutput n)) : hellos (first ++ second) = hellos first ++ hellos second :=
    List.filterMap_append
  rw [handleTick_eq, happend, hellos_generateTCN, List.append_nil, checkTimers_of_idle h, if_pos hroot, hsent]

end Counter

section Run

variable {s : STP n}

theorem role_initPortTable (s : STP n) (i : Fin n) : (s.initPortTable.ports i).role = .NOTASSIGNED := by
  have hloop (l : List (Fin n)) (t : STP n) (h : i ∈ l ∨ (t.ports i).role = .NOTASSIGNED) :
      ((l.foldl initInterfacedata t).ports i).role = .NOTASSIGNED := by
    induction l generalizing t with
    | nil => exact h.resolve_left List.not_mem_nil
    | cons j l ih =>
      apply ih
      by_cases hji : i = j
      · rw [hji]
        exact .inr role_initInterfacedata
      · rw [ports_initInterfacedata_of_ne hji]
        exact h.imp_left fun hmem => (List.mem_cons.mp hmem).resolve_left hji
  exact hloop (List.finRange n) s (.inl (List.mem_finRange i))

theorem initPortTable_kept (s : STP n) : s.initPortTable.helloTime = s.helloTime := by
  have hloop (l : List (Fin n)) (t : STP n) : (l.foldl initInterfacedata t).helloTime = t.helloTime := by
    induction l generalizing t with
    | nil => rfl
    | cons j l ih => exact ih _
  exact hloop (List.finRange n) s

theorem started_ok (h : s.Started) : s.OwnRoot ∧ s.Enabled ∧ s.Idle := by
  obtain ⟨created, hzero, rfl⟩ := h
  have hnotassigned : ∀ i, (created.initPortTable.ports i).role ≠ .DISABLED := by
    intro i
    rw [role_initPortTable]
    simp
  have hrole (i : Fin n) : (created.start.ports i).role = .DESIGNATED := by
    unfold start
    exact role_setAllDesignated (hnotassigned i)
  refine ⟨⟨rfl, hrole, rfl, rfl, rfl⟩, ⟨fun i => ?_, fun _ => rfl⟩, ⟨rfl, fun _ => ?_⟩⟩
  · rw [hrole i]
    simp
  · exact (initPortTable_kept created).trans hzero

theorem enabled_configure (h : s.Enabled) (bridgePriority : Option ℕ) : (s.configure bridgePriority).Enabled :=
  ⟨h.role, h.currentMaxAge⟩

theorem idle_configure (h : s.Idle) (bridgePriority : Option ℕ) : (s.configure bridgePriority).Idle :=
  ⟨h.helloTime, h.currentHelloTime⟩

variable [NeZero n]

theorem kept_handleMessage (h : s.Enabled) (hidle : s.Idle) (message : Message n) :
    (s.handleMessage message).1.Enabled ∧ (s.handleMessage message).1.Idle := by
  cases message with
  | tick => exact ⟨enabled_handleTick h, idle_handleTick hidle⟩
  | bpdu switchPort src dest bpdu =>
    unfold handleMessage
    dsimp only
    split
    · obtain ⟨t, heq, hhello, hrole⟩ := handleBPDU_eq s switchPort bpdu
      rw [heq]
      refine ⟨(tryRoot_computed fun i => ?_).enabled, idle_tryRoot (hhello.trans hidle.helloTime)⟩
      rw [hrole i]
      exact h.role i
    · split
      · exact ⟨⟨h.role, h.currentMaxAge⟩, ⟨hidle.helloTime, hidle.currentHelloTime⟩⟩
      · exact ⟨h, hidle⟩

omit [NeZero n] in
theorem roles_configure (h : s.Roles) (bridgePriority : Option ℕ)
    (hown : s.isRoot = true → s.rootPriority = (s.configure bridgePriority).bridgePriority) :
    (s.configure bridgePriority).Roles := by
  have hsame : SameRoles s (s.configure bridgePriority) :=
    ⟨rfl, rfl, rfl, rfl, rfl, rfl, rfl, fun _ => rfl, fun _ => ⟨rfl, rfl, rfl⟩⟩
  exact hsame.roles h hown

theorem roles_step (h : s.Roles) (henabled : s.Enabled) {e : Event n} (hok : s.StepOk e) :
    ((s.configure e.bridgePriority).handleMessage e.message).1.Roles := by
  have hconfigured := enabled_configure henabled e.bridgePriority
  unfold StepOk at hok
  cases hmessage : e.message with
  | tick =>
    rw [hmessage] at hok
    exact roles_handleTick hconfigured hok (roles_configure h e.bridgePriority)
  | bpdu switchPort src dest bpdu =>
    rw [hmessage] at hok
    unfold handleMessage
    dsimp only
    split
    · obtain ⟨t, heq, -, hrole⟩ := handleBPDU_eq (s.configure e.bridgePriority) switchPort bpdu
      rw [heq]
      refine (tryRoot_computed fun i => ?_).roles
      rw [hrole i]
      exact hconfigured.role i
    · next htype =>
      have hroles : (s.configure e.bridgePriority).Roles := by
        apply roles_configure h
        intro hroot
        rcases hok.resolve_left htype with hnot | hsame
        · rw [hnot] at hroot
          cases hroot
        · rw [hsame]
          exact h.own hroot
      have hsame : SameRoles (s.configure e.bridgePriority)
          ((s.configure e.bridgePriority).handleTCN switchPort src dest bpdu).1 :=
        ⟨rfl, rfl, rfl, rfl, rfl, rfl, rfl, fun _ => rfl, fun _ => ⟨rfl, rfl, rfl⟩⟩
      split
      · exact hsame.roles hroles hroles.own
      · exact hroles

variable {history : List (Label n)}

theorem kept_of_run (hrun : Run Started (StepOf (traced step)) history s) : s.Enabled ∧ s.Idle := by
  refine @Run.invariant _ _ _ _ (fun _ s => Enabled s ∧ Idle s) _ _ hrun (fun s hs => (started_ok hs).2) ?_
  rintro history s ⟨e, before, outputs⟩ s' - ⟨henabled, hidle⟩ hstep
  obtain ⟨-, hstep⟩ := traced_eq_some.mp hstep
  obtain ⟨heq, -⟩ := Prod.mk.inj (Option.some.inj hstep)
  rw [← heq]
  exact kept_handleMessage (enabled_configure henabled _) (idle_configure hidle _) e.message

/-- The hellos of a tick are right only where the configured time is zero. -/
theorem helloOk_iff {configured : SimTime} {e : Event n} {s' : STP n} {outputs : List (StpOutput n)} (hidle : s.Idle)
    (hstep : s.step e = some (s', outputs)) :
    HelloOk configured history (e, s, outputs) ↔ configured = 0 ∨ (e.message = .tick → s.isRoot = false) := by
  by_cases htick : e.message = .tick ∧ s.isRoot = true
  · obtain ⟨hmessage, hroot⟩ := htick
    have houtputs := (Prod.mk.inj (Option.some.inj hstep)).2
    have hsent : hellos outputs = (List.finRange n).map fun i => (i, 0) := by
      rw [← houtputs, hmessage]
      exact hellos_handleTick (idle_configure hidle _) hroot
    have hok : HelloOk configured history (e, s, outputs) ↔ ((List.finRange n).map fun i => (i, (0 : SimTime))).Perm
        (if configured ≤ ((sinceHello history + 1 : ℕ) : SimTime) then (List.finRange n).map fun i => (i, configured)
        else []) := by
      rw [← hsent]
      exact ⟨fun h => h hmessage hroot, fun h _ _ => h⟩
    have hfirst : ((0 : Fin n), (0 : SimTime)) ∈ (List.finRange n).map fun i => (i, (0 : SimTime)) :=
      List.mem_map.mpr ⟨0, List.mem_finRange 0, rfl⟩
    rw [hok, hroot]
    constructor
    · intro hperm
      have hmem := hperm.subset hfirst
      split at hmem
      · obtain ⟨i, -, heq⟩ := List.mem_map.mp hmem
        exact .inl (Prod.mk.inj heq).2
      · cases hmem
    · rintro (rfl | hnever)
      · rw [if_pos (Nat.cast_nonneg _)]
      · cases hnever hmessage
  · refine iff_of_true (fun hmessage hroot => absurd ⟨hmessage, hroot⟩ htick) (.inr fun hmessage => ?_)
    by_contra hroot
    exact htick ⟨hmessage, by simpa using hroot⟩

/-- The roles hold in every state of a run whose steps meet the condition, and the hellos of a run are right when the configured time
is zero or no tick has come while the bridge was root. -/
theorem roles_and_hellos {history : List (Label n)} {s : STP n} (configured : SimTime)
    (hrun : Run Started (StepOf (traced step)) history s) :
    (Always (fun _ l => l.2.1.StepOk l.1) history → s.Roles) ∧
      (Always (HelloOk configured) history ↔
        configured = 0 ∨ ∀ l ∈ history, l.1.message = .tick → l.2.1.isRoot = false) := by
  constructor
  · intro hok
    refine @Run.invariant_of_always _ _ _ _ _ (fun _ s => Roles s) _ _ hrun hok (fun s hs => .inl (started_ok hs).1) ?_
    rintro history s ⟨e, before, outputs⟩ s' hrun hroles hstep hok
    obtain ⟨rfl, hstep⟩ := traced_eq_some.mp hstep
    rw [← (Prod.mk.inj (Option.some.inj hstep)).1]
    exact roles_step hroles (kept_of_run hrun).1 hok
  · refine @Run.invariant _ _ _ _ (fun history _ => Always (HelloOk configured) history ↔
      configured = 0 ∨ ∀ l ∈ history, l.1.message = .tick → l.2.1.isRoot = false) _ _ hrun (fun s _ => by simp) ?_
    rintro history s ⟨e, before, outputs⟩ s' hrun ih hstep
    obtain ⟨rfl, hstep⟩ := traced_eq_some.mp hstep
    rw [always_cons, ih, helloOk_iff (kept_of_run hrun).2 hstep, List.forall_mem_cons]
    tauto

/-- A bridge with two ports. -/
def created : STP 2 where
  bridgePriority := 32768
  bridgeAddress := 2
  maxAge := 20
  helloTime := 0
  forwardDelay := 15
  ports := fun _ => { Ieee8021dInterfaceData.PortInfo with linkCost := 19 }
  isRoot := false
  rootPort := 0
  desPorts := []
  rootPathCost := 0
  rootPriority := 0
  rootAddress := 0
  currentMaxAge := 0
  currentFwdDelay := 0
  currentHelloTime := 0
  currentBridgePriority := 0
  topologyChangeNotification := false
  topologyChangeRecvd := false

/-- The hello of the bridge with the address `1`, which is root. -/
def rootBPDU : BPDU :=
  { tcnBPDU with
    bpduType := 0
    rootAddress := 1
    rootPriority := 32768
    bridgeAddress := 1
    bridgePriority := 32768
    maxAge := 20
    helloTime := 2
    forwardDelay := 15 }

/-- The bridge finds a better root, and its timers run. -/
theorem roles_and_hellos_following : ∃ (s : STP 2) (history : List (Label 2)),
    Run Started (StepOf (traced step)) history s ∧ s.isRoot = false ∧ s.Roles ∧ Always (HelloOk 2) history := by
  obtain ⟨s, history, hrun, hroot, hok, hticks⟩ := @exists_run_of_initial _ _ _ (traced step) Started _
    ⟨created, rfl, rfl⟩ [⟨none, .bpdu 1 1 MACAddress.STP_MULTICAST_ADDRESS rootBPDU⟩, ⟨none, .tick⟩]
    (fun s history => s.isRoot = false ∧ Always (fun _ l => l.2.1.StepOk l.1) history ∧
      ∀ l ∈ history, l.1.message = .tick → l.2.1.isRoot = false) (by decide +kernel)
  have hboth := roles_and_hellos 2 hrun
  exact ⟨s, history, hrun, hroot, hboth.1 hok, hboth.2.mpr (.inr hticks)⟩

/-- A bridge that stays root sends its first hello after one second instead of two. -/
theorem not_hellos : ∃ (s : STP 2) (history : List (Label 2)),
    Run Started (StepOf (traced step)) history s ∧ ¬Always (HelloOk 2) history :=
  @exists_run_of_initial _ _ _ (traced step) Started _ ⟨created, rfl, rfl⟩ [⟨none, .tick⟩]
    (fun _ history => ¬Always (HelloOk 2) history) (by decide +kernel)

end Run

end inet.STP
