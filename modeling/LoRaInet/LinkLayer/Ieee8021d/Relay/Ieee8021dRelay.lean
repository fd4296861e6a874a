import LoRaInet.Kernel.Assert
import LoRaInet.LinkLayer.Ethernet.Switch.MACAddressTable
import LoRaInet.LinkLayer.Ieee8021d.Common.Ieee8021dBPDU
import LoRaInet.Transition.Run

open omnetpp transition

namespace inet

/-- An `EtherFrame` carries a BPDU or another packet. -/
structure EtherFrame where
  src : MACAddress
  dest : MACAddress
  encapsulatedPacket : Option BPDU := none

structure Ieee8021dRelay where
  macTable : MACAddressTable
  isStpAware : Bool
  bridgeAddress : MACAddress
  ports : List Ieee8021dInterfaceData

namespace Ieee8021dRelay

/-- The ports on which copies of a frame are sent, and what goes to the STP module. -/
structure Relayed where
  sent : List ℕ := []
  delivered : Option BPDU := none
  deriving DecidableEq

variable (s : Ieee8021dRelay)

def portCount : ℕ := s.ports.length

/-- There is no port data in a relay that is not aware of STP. The call fails if there is no such port. -/
def getPortInterfaceData (portNum : Int) : Except Fault (Option Ieee8021dInterfaceData) :=
  if s.isStpAware then
    if 0 ≤ portNum then
      match s.ports[portNum.toNat]? with
      | some data => .ok (some data)
      | none => .error .outOfRange
    else .error .outOfRange
  else .ok none

def isForwarding (port : Option Ieee8021dInterfaceData) : Bool := port.any (·.state = .FORWARDING)

def isLearning (port : Option Ieee8021dInterfaceData) : Bool :=
  port.any fun data => data.state = .LEARNING ∨ data.state = .FORWARDING

def dispatch (portNum : Int) : Except Fault Relayed :=
  if portNum < 0 ∨ portNum ≥ s.portCount then .error (.cRuntimeError "Output port doesn't exist!")
  else .ok { sent := [portNum.toNat] }

def broadcast (arrivalGate : ℕ) : Relayed :=
  { sent := (List.range s.portCount).filter fun i =>
      i ≠ arrivalGate && (!s.isStpAware || isForwarding s.ports[i]?) }

def learn (now : SimTime) (arrivalGate : ℕ) (frame : EtherFrame) : Except Fault Ieee8021dRelay := do
  let port ← s.getPortInterfaceData arrivalGate
  if !s.isStpAware || isLearning port then
    .ok { s with macTable := (s.macTable.updateTableWithAddress now arrivalGate frame.src 0).1 }
  else .ok s

def deliverBPDU (frame : EtherFrame) : Except Fault Relayed :=
  match frame.encapsulatedPacket with
  | some bpdu => .ok { delivered := some bpdu }
  | none => .error (.cRuntimeError "check_and_cast(): Cannot cast to type 'BPDU'")

/-- The last branch of `handleAndDispatchFrame`, for a frame whose destination is not the broadcast
address. -/
def forward (arrivalGate : ℕ) (outGate : Int) : Except Fault Relayed :=
  if outGate = -1 then .ok (s.broadcast arrivalGate)
  else if outGate ≠ arrivalGate then do
    let outPortData ← s.getPortInterfaceData outGate
    if !s.isStpAware || isForwarding outPortData then s.dispatch outGate else .ok {}
  else .ok {}

def handleAndDispatchFrame (now : SimTime) (arrivalGate : ℕ) (frame : EtherFrame) :
    Except Fault (Ieee8021dRelay × Relayed) := do
  let arrivalPortData ← s.getPortInterfaceData arrivalGate
  let s ← s.learn now arrivalGate frame
  if s.isStpAware && (frame.dest = MACAddress.STP_MULTICAST_ADDRESS || frame.dest = s.bridgeAddress) &&
      arrivalPortData.any (·.role ≠ .DISABLED) then do
    let relayed ← deliverBPDU frame
    .ok (s, relayed)
  else if s.isStpAware && !isForwarding arrivalPortData then .ok (s, {})
  else if frame.dest = MACAddress.BROADCAST_ADDRESS then .ok (s, s.broadcast arrivalGate)
  else do
    let relayed ← s.forward arrivalGate (s.macTable.getPortForAddress now frame.dest 0).2
    .ok ({ s with macTable := (s.macTable.getPortForAddress now frame.dest 0).1 }, relayed)

/-- Frames arrive, the spanning tree protocol sets a port, and the table is called by this and by other
modules. -/
inductive Event where
  | frame (arrivalGate : ℕ) (frame : EtherFrame)
  | setPort (portNum : ℕ) (role : PortRole) (state : PortState)
  | flush (portno : Int)
  | copyTable (portA portB : Int)
  | updateTableWithAddress (portno : Int) (address : MACAddress) (vid : ℕ)
  | getPortForAddress (address : MACAddress) (vid : ℕ)
  | removeAgedEntriesFromVlan (vid : ℕ)
  | removeAgedEntriesFromAllVlans
  | removeAgedEntriesIfNeeded
  | clearTable

inductive Output where
  | relayed (relayed : Relayed)
  | port (portno : Int)
  | done
  deriving DecidableEq

def handle (s : Ieee8021dRelay) (now : SimTime) : Event → Except Fault (Ieee8021dRelay × Output)
  | .frame arrivalGate frame => do
    let (s, relayed) ← s.handleAndDispatchFrame now arrivalGate frame
    .ok (s, .relayed relayed)
  | .setPort portNum role state =>
    .ok ({ s with ports := s.ports.modify portNum fun data => { data with role, state } }, .done)
  | .flush portno => .ok ({ s with macTable := s.macTable.flush portno }, .done)
  | .copyTable portA portB => .ok ({ s with macTable := s.macTable.copyTable portA portB }, .done)
  | .updateTableWithAddress portno address vid =>
    .ok ({ s with macTable := (s.macTable.updateTableWithAddress now portno address vid).1 }, .done)
  | .getPortForAddress address vid =>
    let (macTable, portno) := s.macTable.getPortForAddress now address vid
    .ok ({ s with macTable }, .port portno)
  | .removeAgedEntriesFromVlan vid =>
    .ok ({ s with macTable := s.macTable.removeAgedEntriesFromVlan now vid }, .done)
  | .removeAgedEntriesFromAllVlans =>
    .ok ({ s with macTable := s.macTable.removeAgedEntriesFromAllVlans now }, .done)
  | .removeAgedEntriesIfNeeded =>
    .ok ({ s with macTable := s.macTable.removeAgedEntriesIfNeeded now }, .done)
  | .clearTable => .ok ({ s with macTable := s.macTable.clearTable }, .done)

/-- The relay and the time of its last event. -/
structure Timed where
  now : SimTime
  relay : Ieee8021dRelay

/-- Time does not go back. -/
def step (s : Timed) (e : SimTime × Event) : Option (Timed × Output) :=
  if s.now ≤ e.1 then
    ((s.relay.handle e.1 e.2).map fun (relay, output) => (⟨e.1, relay⟩, output)).toOption
  else none

end Ieee8021dRelay

end inet

open omnetpp transition container

namespace inet.Ieee8021dRelay

open MACAddressTable (Learned Remembers portOf)

abbrev Label := (SimTime × Event) × (Timed × Output)

/-- The relay at the beginning of the simulation. -/
def initial (agingTime : SimTime) (isStpAware : Bool) (bridgeAddress : MACAddress)
    (ports : List Ieee8021dInterfaceData) : Timed where
  now := 0
  relay := { macTable := { agingTime }, isStpAware, bridgeAddress, ports }

def learnAddress (learned : Learned) (now : SimTime) (portno : Int) (address : MACAddress) (vid : ℕ) : Learned :=
  fun v a =>
    if address ≠ MACAddress.BROADCAST_ADDRESS ∧ v = vid ∧ a = address then some (portno, now) else learned v a

/-- What is known about the addresses after an event: their ports when they were last learned, as
redirected since then, unless they were flushed. -/
def learnedBy (s : Ieee8021dRelay) (now : SimTime) (learned : Learned) : Event → Learned
  | .frame arrivalGate frame =>
    if !s.isStpAware || isLearning s.ports[arrivalGate]? then learnAddress learned now arrivalGate frame.src 0
    else learned
  | .updateTableWithAddress portno address vid => learnAddress learned now portno address vid
  | .flush portno => fun v a => (learned v a).filter (·.1 ≠ portno)
  | .copyTable portA portB => fun v a => (learned v a).map fun l => (if l.1 = portA then portB else l.1, l.2)
  | .clearTable => fun _ _ => none
  | _ => learned

def lastLearned : List Label → Learned
  | [] => fun _ _ => none
  | ((now, e), (before, _)) :: history => learnedBy before.relay now (lastLearned history) e

section Learn

variable {s s' : Ieee8021dRelay} {learned : Learned} {now : SimTime}

/-- The calls of the table change neither the ports nor the settings of the relay. -/
structure SameSettings (s s' : Ieee8021dRelay) : Prop where
  agingTime : s'.macTable.agingTime = s.macTable.agingTime
  isStpAware : s'.isStpAware = s.isStpAware
  bridgeAddress : s'.bridgeAddress = s.bridgeAddress
  portCount : s'.ports.length = s.ports.length

variable {arrivalGate : ℕ}

theorem learnedBy_frame {frame : EtherFrame} : learnedBy s now learned (.frame arrivalGate frame) =
      if !s.isStpAware || isLearning s.ports[arrivalGate]? then learnAddress learned now arrivalGate frame.src 0
      else learned := rfl

theorem getPortInterfaceData_eq {i : ℕ} {port : Option Ieee8021dInterfaceData}
    (h : s.getPortInterfaceData i = .ok port) (haware : s.isStpAware = true) :
    port = s.ports[i]? ∧ i < s.ports.length := by
  unfold getPortInterfaceData at h
  rw [if_pos haware, if_pos (Int.natCast_nonneg i), Int.toNat_natCast] at h
  cases hport : s.ports[i]? with
  | none => simp [hport] at h
  | some data =>
    obtain ⟨hlt, -⟩ := List.getElem?_eq_some_iff.mp hport
    rw [hport] at h
    exact ⟨(Except.ok.inj h).symm, hlt⟩

theorem remembers_updateTableWithAddress (h : Remembers s.macTable learned now) (portno : Int)
    (address : MACAddress) (vid : ℕ) :
    Remembers (s.macTable.updateTableWithAddress now portno address vid).1
      (learnAddress learned now portno address vid) now := by
  unfold learnAddress
  by_cases haddress : address = MACAddress.BROADCAST_ADDRESS
  · simpa [haddress, MACAddressTable.updateTableWithAddress] using h
  · simpa [haddress] using h.updateTableWithAddress haddress

theorem agingTime_updateTableWithAddress {portno : Int} {address : MACAddress} {vid : ℕ} :
    (s.macTable.updateTableWithAddress now portno address vid).1.agingTime = s.macTable.agingTime := by
  by_cases haddress : address = MACAddress.BROADCAST_ADDRESS
  · simp [haddress, MACAddressTable.updateTableWithAddress]
  · obtain ⟨-, -, -, -, -, haging, -⟩ :=
      @MACAddressTable.updateTableWithAddress_spec s.macTable now vid address portno haddress
    exact haging

theorem learn_spec {frame : EtherFrame} (h : s.learn now arrivalGate frame = .ok s')
    (hremembers : Remembers s.macTable learned now) :
    Remembers s'.macTable (learnedBy s now learned (.frame arrivalGate frame)) now ∧
      SameSettings s s' ∧ s'.ports = s.ports := by
  unfold learn at h
  obtain ⟨port, hport, h⟩ := bind_eq_ok_iff.mp h
  have hcond : (!s.isStpAware || isLearning port) = (!s.isStpAware || isLearning s.ports[arrivalGate]?) := by
    cases haware : s.isStpAware with
    | false => rfl
    | true => rw [(getPortInterfaceData_eq hport haware).1]
  rw [hcond] at h
  rw [learnedBy_frame]
  split at h
  · next hlearns =>
    cases h
    rw [if_pos hlearns]
    exact ⟨remembers_updateTableWithAddress hremembers _ _ _,
      ⟨agingTime_updateTableWithAddress, rfl, rfl, rfl⟩, rfl⟩
  · next hlearns =>
    cases h
    rw [if_neg hlearns]
    exact ⟨hremembers, ⟨rfl, rfl, rfl, rfl⟩, rfl⟩

end Learn

section Frame

variable {s s' : Ieee8021dRelay} {learned : Learned} {now : SimTime} {arrivalGate : ℕ} {frame : EtherFrame}
  {relayed : Relayed}

def forwardsOn (s : Ieee8021dRelay) (i : ℕ) : Bool := isForwarding s.ports[i]?

theorem lt_of_forwardsOn {i : ℕ} (h : s.forwardsOn i = true) : i < s.ports.length := by
  unfold forwardsOn isForwarding at h
  rw [Option.any_eq_true] at h
  obtain ⟨data, hdata, -⟩ := h
  exact (List.getElem?_eq_some_iff.mp hdata).1

theorem count_broadcast (haware : s.isStpAware = true) (i : ℕ) :
    (s.broadcast arrivalGate).sent.count i = if i ≠ arrivalGate ∧ s.forwardsOn i then 1 else 0 := by
  have hnodup : (s.broadcast arrivalGate).sent.Nodup := List.nodup_range.filter _
  have hmem : i ∈ (s.broadcast arrivalGate).sent ↔ i ≠ arrivalGate ∧ s.forwardsOn i = true := by
    unfold broadcast portCount
    rw [List.mem_filter, List.mem_range]
    simp only [haware, Bool.not_true, Bool.false_or, Bool.and_eq_true, decide_eq_true_eq]
    exact ⟨fun h => h.2, fun h => ⟨lt_of_forwardsOn h.2, h⟩⟩
  rw [hnodup.count]
  exact if_congr hmem rfl rfl

theorem forward_spec (haware : s.isStpAware = true) {outGate : Int}
    (h : s.forward arrivalGate outGate = .ok relayed) (i : ℕ) :
    relayed.sent.count i =
      if i ≠ arrivalGate ∧ s.forwardsOn i ∧ (outGate = -1 ∨ outGate = i) then 1 else 0 := by
  unfold forward at h
  split at h
  · next hunknown =>
    cases h
    rw [count_broadcast haware]
    simp [hunknown]
  · next hknown =>
    have hnone : ∀ {p : Prop}, [Decidable p] → ¬p → ([] : List ℕ).count i = if p then 1 else 0 :=
      fun hp => (if_neg hp).symm
    split at h
    · next hother =>
      obtain ⟨port, hport, h⟩ := bind_eq_ok_iff.mp h
      obtain ⟨n, rfl⟩ : ∃ n : ℕ, outGate = n := by
        apply Int.eq_ofNat_of_zero_le
        by_contra hneg
        simp [getPortInterfaceData, haware, hneg] at hport
      obtain ⟨rfl, hlt⟩ := getPortInterfaceData_eq hport haware
      rw [haware, Bool.not_true, Bool.false_or] at h
      split at h
      · next hforwards =>
        have hdispatch : s.dispatch n = .ok { sent := [n] } := by
          unfold dispatch portCount
          rw [if_neg (by omega), Int.toNat_natCast]
        rw [hdispatch] at h
        cases h
        rw [List.count_singleton]
        by_cases hi : n = i
        · subst hi
          have hne : n ≠ arrivalGate := fun heq => hother (by rw [heq])
          simp [hne, forwardsOn, hforwards]
        · have hne : ¬(n : Int) = i := by omega
          simp [hi, hne, hknown]
      · next hforwards =>
        cases h
        apply hnone
        rintro ⟨-, hon, hout | hout⟩
        · exact hknown hout
        · obtain rfl : n = i := by omega
          exact hforwards hon
    · next hsame =>
      cases h
      apply hnone
      rintro ⟨hne, -, hout | hout⟩
      · exact hknown hout
      · omega

/-- Copies only go from one forwarding port to other forwarding ports, and the copies of a frame that is
not for the bridge are determined by what is known about its destination. -/
def Sends (s : Ieee8021dRelay) (arrivalGate : ℕ) (frame : EtherFrame) (known : Int) (relayed : Relayed) : Prop :=
  (∀ i ∈ relayed.sent, i ≠ arrivalGate ∧ s.forwardsOn i ∧ s.forwardsOn arrivalGate) ∧
    (s.forwardsOn arrivalGate → frame.dest ≠ MACAddress.STP_MULTICAST_ADDRESS →
      frame.dest ≠ s.bridgeAddress → ∀ i, relayed.sent.count i =
        if i ≠ arrivalGate ∧ s.forwardsOn i ∧
          (frame.dest = MACAddress.BROADCAST_ADDRESS ∨ known = -1 ∨ known = i) then 1 else 0)

theorem Sends.of_count {known : Int} (hforwards : s.forwardsOn arrivalGate = true)
    (h : ∀ i, relayed.sent.count i = if i ≠ arrivalGate ∧ s.forwardsOn i ∧
      (frame.dest = MACAddress.BROADCAST_ADDRESS ∨ known = -1 ∨ known = i) then 1 else 0) :
    s.Sends arrivalGate frame known relayed := by
  refine ⟨fun i hi => ?_, fun _ _ _ => h⟩
  have hcount := List.count_pos_iff.mpr hi
  rw [h i] at hcount
  split at hcount
  · next hcond => exact ⟨hcond.1, hcond.2.1, hforwards⟩
  · omega

theorem handleAndDispatchFrame_learns
    (h : s.handleAndDispatchFrame now arrivalGate frame = .ok (s', relayed))
    (hremembers : Remembers s.macTable learned now) :
    Remembers s'.macTable (learnedBy s now learned (.frame arrivalGate frame)) now ∧ SameSettings s s' := by
  unfold handleAndDispatchFrame at h
  obtain ⟨port, -, h⟩ := bind_eq_ok_iff.mp h
  obtain ⟨s1, hlearn, h⟩ := bind_eq_ok_iff.mp h
  obtain ⟨hlearned, hsame, -⟩ := learn_spec hlearn hremembers
  split at h
  · obtain ⟨_, -, h⟩ := bind_eq_ok_iff.mp h
    cases h
    exact ⟨hlearned, hsame⟩
  · split at h
    · cases h
      exact ⟨hlearned, hsame⟩
    · split at h
      · cases h
        exact ⟨hlearned, hsame⟩
      · obtain ⟨_, -, h⟩ := bind_eq_ok_iff.mp h
        cases h
        have hpurges := @MACAddressTable.purges_getPortForAddress s1.macTable now 0 frame.dest
        exact ⟨hlearned.purges hpurges,
          ⟨hpurges.agingTime.trans hsame.agingTime, hsame.isStpAware, hsame.bridgeAddress, hsame.portCount⟩⟩

theorem handleAndDispatchFrame_sends (haware : s.isStpAware = true)
    (h : s.handleAndDispatchFrame now arrivalGate frame = .ok (s', relayed))
    (hremembers : Remembers s.macTable learned now) :
    s.Sends arrivalGate frame (portOf s.macTable.agingTime now
      (learnedBy s now learned (.frame arrivalGate frame) 0 frame.dest)) relayed := by
  unfold handleAndDispatchFrame at h
  obtain ⟨port, hport, h⟩ := bind_eq_ok_iff.mp h
  obtain ⟨rfl, -⟩ := getPortInterfaceData_eq hport haware
  obtain ⟨s1, hlearn, h⟩ := bind_eq_ok_iff.mp h
  obtain ⟨hlearned, hsame, hports⟩ := learn_spec hlearn hremembers
  have haware1 : s1.isStpAware = true := hsame.isStpAware.trans haware
  have hon : ∀ i, s1.forwardsOn i = s.forwardsOn i := fun i => by rw [forwardsOn, hports, forwardsOn]
  split at h
  · next hbridge =>
    -- a frame for the bridge goes to the STP module
    obtain ⟨delivered, hdeliver, h⟩ := bind_eq_ok_iff.mp h
    obtain ⟨-, rfl⟩ := Prod.mk.inj (Except.ok.inj h)
    have hsent : delivered.sent = [] := by
      unfold deliverBPDU at hdeliver
      split at hdeliver
      · cases hdeliver
        rfl
      · exact nomatch hdeliver
    refine ⟨by simp [hsent], fun _ hmulticast hdest => ?_⟩
    rw [hsame.bridgeAddress] at hbridge
    simp [hmulticast, hdest] at hbridge
  · rw [haware1, Bool.true_and] at h
    split at h
    · next hdiscards =>
      cases h
      refine ⟨by simp, fun hforwards => ?_⟩
      rw [forwardsOn] at hforwards
      simp [hforwards] at hdiscards
    · next hforwards =>
      have hforwards : s.forwardsOn arrivalGate = true := by simpa [forwardsOn] using hforwards
      apply Sends.of_count hforwards
      intro i
      split at h
      · next hbroadcast =>
        cases h
        rw [count_broadcast haware1, hon]
        simp [hbroadcast]
      · next hbroadcast =>
        obtain ⟨forwarded, hforward, h⟩ := bind_eq_ok_iff.mp h
        cases h
        rw [forward_spec haware1 hforward, hon, hlearned.getPortForAddress, hsame.agingTime]
        simp only [hbroadcast, false_or]

end Frame

section Ports

variable {s : Ieee8021dRelay} {learned : Learned} {now : SimTime} {n : ℕ}

def IsPort (n : ℕ) (portno : Int) : Prop := 0 ≤ portno ∧ portno < n

def Event.NamesPorts (n : ℕ) : Event → Prop
  | .frame arrivalGate _ => arrivalGate < n
  | .updateTableWithAddress portno _ _ => IsPort n portno
  | .copyTable _ portB => IsPort n portB
  | _ => True

theorem isPort_learnAddress (hlearned : ∀ v a, ∀ l ∈ learned v a, IsPort n l.1) {portno : Int}
    (hport : IsPort n portno) {address : MACAddress} {vid : ℕ} :
    ∀ v a, ∀ l ∈ learnAddress learned now portno address vid v a, IsPort n l.1 := by
  intro v a l hl
  unfold learnAddress at hl
  split at hl
  · cases hl
    exact hport
  · exact hlearned v a l hl

theorem isPort_learnedBy (hlearned : ∀ v a, ∀ l ∈ learned v a, IsPort n l.1) {e : Event}
    (he : e.NamesPorts n) : ∀ v a, ∀ l ∈ learnedBy s now learned e v a, IsPort n l.1 := by
  cases e with
  | frame arrivalGate frame =>
    rw [learnedBy_frame]
    split
    · exact isPort_learnAddress hlearned ⟨Int.natCast_nonneg _, by exact_mod_cast he⟩
    · exact hlearned
  | updateTableWithAddress portno address vid => exact isPort_learnAddress hlearned he
  | flush portno => exact fun v a l hl => hlearned v a l (Option.mem_filter_iff.mp hl).1
  | copyTable portA portB =>
    intro v a l hl
    obtain ⟨l', hl', rfl⟩ := Option.map_eq_some_iff.mp hl
    split
    · exact he
    · exact hlearned v a l' hl'
  | clearTable => exact fun v a l hl => nomatch hl
  | _ => exact hlearned

theorem isPort_lastLearned {history : List Label} (h : ∀ l ∈ history, l.1.2.NamesPorts n) :
    ∀ v a, ∀ l ∈ lastLearned history v a, IsPort n l.1 := by
  induction history with
  | nil => exact fun v a l hl => nomatch hl
  | cons l history ih =>
    obtain ⟨hlast, hhistory⟩ := List.forall_mem_cons.mp h
    exact isPort_learnedBy (ih hhistory) hlast

theorem isPort_portOf {agingTime : SimTime} {l : Option (Int × SimTime)} (h : ∀ l' ∈ l, IsPort n l'.1) :
    portOf agingTime now l = -1 ∨ IsPort n (portOf agingTime now l) := by
  unfold portOf
  cases hfilter : l.filter fun l => now < l.2 + agingTime with
  | none => exact .inl rfl
  | some l' => exact .inr (h l' (Option.mem_filter_iff.mp hfilter).1)

theorem exists_getPortInterfaceData {i : ℕ} (hi : i < s.ports.length) :
    ∃ port, s.getPortInterfaceData i = .ok port := by
  unfold getPortInterfaceData
  split
  · exact ⟨some s.ports[i], by simp [hi]⟩
  · exact ⟨_, rfl⟩

theorem exists_forward {outGate : Int} (hout : outGate = -1 ∨ IsPort s.ports.length outGate) :
    ∃ relayed, s.forward arrivalGate outGate = .ok relayed := by
  unfold forward
  split
  · exact ⟨_, rfl⟩
  · next hknown =>
    split
    · obtain ⟨hnonneg, hlt⟩ := hout.resolve_left hknown
      obtain ⟨i, rfl⟩ := Int.eq_ofNat_of_zero_le hnonneg
      obtain ⟨port, hport⟩ := @exists_getPortInterfaceData s i (by omega)
      rw [hport]
      dsimp only [bind, Except.bind]
      split
      · unfold dispatch portCount
        rw [if_neg (by omega)]
        exact ⟨_, rfl⟩
      · exact ⟨_, rfl⟩
    · exact ⟨_, rfl⟩

theorem exists_handleAndDispatchFrame (hremembers : Remembers s.macTable learned now)
    (hlearned : ∀ v a, ∀ l ∈ learned v a, IsPort s.ports.length l.1) {arrivalGate : ℕ}
    (harrival : arrivalGate < s.ports.length) {frame : EtherFrame}
    (hbpdu : frame.dest = MACAddress.STP_MULTICAST_ADDRESS ∨ frame.dest = s.bridgeAddress →
      frame.encapsulatedPacket.isSome) :
    ∃ r, s.handleAndDispatchFrame now arrivalGate frame = .ok r := by
  obtain ⟨port, hport⟩ := exists_getPortInterfaceData harrival
  have hlearn : ∃ s1, s.learn now arrivalGate frame = .ok s1 := by
    unfold learn
    rw [hport]
    dsimp only [bind, Except.bind]
    split
    · exact ⟨_, rfl⟩
    · exact ⟨_, rfl⟩
  obtain ⟨s1, hlearn⟩ := hlearn
  obtain ⟨hremembers1, hsame, hports⟩ := learn_spec hlearn hremembers
  unfold handleAndDispatchFrame
  rw [hport, hlearn]
  dsimp only [bind, Except.bind]
  split
  · next hbridge =>
    rw [hsame.bridgeAddress] at hbridge
    obtain ⟨bpdu, hsome⟩ := Option.isSome_iff_exists.mp (hbpdu (by
      simp only [Bool.and_eq_true, Bool.or_eq_true, decide_eq_true_eq] at hbridge
      exact hbridge.1.2))
    simp [deliverBPDU, hsome]
  · split
    · exact ⟨_, rfl⟩
    · split
      · exact ⟨_, rfl⟩
      · obtain ⟨relayed, hforward⟩ := @exists_forward s1 arrivalGate
          (s1.macTable.getPortForAddress now frame.dest 0).2 (by
            rw [hremembers1.getPortForAddress, hports]
            apply isPort_portOf
            have he : (Event.frame arrivalGate frame).NamesPorts s.ports.length := harrival
            exact isPort_learnedBy hlearned he 0 frame.dest)
        rw [hforward]
        exact ⟨_, rfl⟩

end Ports

section Run

variable {agingTime : SimTime} {isStpAware : Bool} {bridgeAddress : MACAddress}
  {ports : List Ieee8021dInterfaceData}

structure Inv (agingTime : SimTime) (isStpAware : Bool) (bridgeAddress : MACAddress) (portCount : ℕ)
    (history : List Label) (s : Timed) : Prop where
  agingTime : s.relay.macTable.agingTime = agingTime
  isStpAware : s.relay.isStpAware = isStpAware
  bridgeAddress : s.relay.bridgeAddress = bridgeAddress
  portCount : s.relay.ports.length = portCount
  remembers : Remembers s.relay.macTable (lastLearned history) s.now

theorem handle_learns {s s' : Ieee8021dRelay} {learned : Learned} {now : SimTime} {e : Event} {output : Output}
    (h : s.handle now e = .ok (s', output)) (hremembers : Remembers s.macTable learned now) :
    Remembers s'.macTable (learnedBy s now learned e) now ∧ SameSettings s s' := by
  cases e with
  | frame arrivalGate frame =>
    obtain ⟨⟨next, relayed⟩, hframe, h⟩ := bind_eq_ok_iff.mp h
    cases h
    exact handleAndDispatchFrame_learns hframe hremembers
  | setPort portNum role state =>
    cases h
    exact ⟨hremembers, rfl, rfl, rfl, List.length_modify _ _ _⟩
  | flush portno =>
    cases h
    exact ⟨hremembers.flush portno, rfl, rfl, rfl, rfl⟩
  | copyTable portA portB =>
    cases h
    exact ⟨hremembers.copyTable portA portB, rfl, rfl, rfl, rfl⟩
  | updateTableWithAddress portno address vid =>
    cases h
    exact ⟨remembers_updateTableWithAddress hremembers portno address vid,
      agingTime_updateTableWithAddress, rfl, rfl, rfl⟩
  | getPortForAddress address vid =>
    cases h
    have hpurges := @MACAddressTable.purges_getPortForAddress s.macTable now vid address
    exact ⟨hremembers.purges hpurges, hpurges.agingTime, rfl, rfl, rfl⟩
  | removeAgedEntriesFromVlan vid =>
    cases h
    have hpurges := @MACAddressTable.purges_removeAgedEntriesFromVlan s.macTable now vid
    exact ⟨hremembers.purges hpurges, hpurges.agingTime, rfl, rfl, rfl⟩
  | removeAgedEntriesFromAllVlans =>
    cases h
    have hpurges := @MACAddressTable.purges_removeAgedEntriesFromAllVlans s.macTable now
    exact ⟨hremembers.purges hpurges, hpurges.agingTime, rfl, rfl, rfl⟩
  | removeAgedEntriesIfNeeded =>
    cases h
    have hpurges := @MACAddressTable.purges_removeAgedEntriesIfNeeded s.macTable now
    exact ⟨hremembers.purges hpurges, hpurges.agingTime, rfl, rfl, rfl⟩
  | clearTable =>
    cases h
    exact ⟨MACAddressTable.remembers_clearTable, rfl, rfl, rfl, rfl⟩

theorem step_eq_some {s s' : Timed} {now : SimTime} {e : Event} {output : Output} :
    step s (now, e) = some (s', output) ↔
      s.now ≤ now ∧ ∃ relay, s.relay.handle now e = .ok (relay, output) ∧ s' = ⟨now, relay⟩ := by
  unfold step
  constructor
  · intro h
    split at h
    · next hle =>
      cases hhandle : s.relay.handle now e with
      | error fault =>
        rw [hhandle] at h
        exact nomatch h
      | ok result =>
        obtain ⟨relay, output'⟩ := result
        rw [hhandle] at h
        cases h
        exact ⟨hle, relay, rfl, rfl⟩
    · exact nomatch h
  · rintro ⟨hle, relay, hhandle, rfl⟩
    rw [if_pos hle, hhandle]
    rfl

/-- Every frame is sent as what was learned before it and from it demands. -/
def Forwards (agingTime : SimTime) (history : List Label) : Label → Prop
  | ((now, .frame arrivalGate frame), (before, .relayed relayed)) =>
    before.relay.Sends arrivalGate frame (portOf agingTime now
      (learnedBy before.relay now (lastLearned history) (.frame arrivalGate frame) 0 frame.dest)) relayed
  | _ => True

theorem run_inv {history : List Label} {s : Timed}
    (hrun : Run (· = initial agingTime isStpAware bridgeAddress ports) (StepOf (traced step)) history s) :
    Inv agingTime isStpAware bridgeAddress ports.length history s ∧
      (isStpAware → Always (Forwards agingTime) history) := by
  induction hrun with
  | init hinit =>
    subst hinit
    refine ⟨⟨rfl, rfl, rfl, rfl, fun v a => .inr ⟨?_, fun l hl => nomatch hl⟩⟩, fun _ => trivial⟩
    by_cases hv : v = 0
    · subst hv
      rfl
    · unfold MACAddressTable.find MACAddressTable.getTableForVid initial
      rw [Map.lookup_insert_eq, if_neg hv]
      rfl
  | @step history s s' l hrun hstep ih =>
    obtain ⟨⟨now, e⟩, before, output⟩ := l
    obtain ⟨rfl, hstep⟩ := traced_eq_some.mp hstep
    obtain ⟨hle, relay, hhandle, rfl⟩ := step_eq_some.mp hstep
    obtain ⟨hinv, hforwards⟩ := ih
    obtain ⟨hremembers, hsame⟩ := handle_learns hhandle (hinv.remembers.later hle)
    refine ⟨⟨hsame.agingTime.trans hinv.agingTime, hsame.isStpAware.trans hinv.isStpAware,
      hsame.bridgeAddress.trans hinv.bridgeAddress, hsame.portCount.trans hinv.portCount, hremembers⟩,
      fun haware => ⟨hforwards haware, ?_⟩⟩
    cases e with
    | frame arrivalGate frame =>
      obtain ⟨⟨next, relayed⟩, hframe, h⟩ := bind_eq_ok_iff.mp hhandle
      cases h
      have hsends := handleAndDispatchFrame_sends (hinv.isStpAware.trans haware) hframe
        (hinv.remembers.later hle)
      rw [hinv.agingTime] at hsends
      exact hsends
    | _ => trivial

/-- The table answers with the port on which an address was last learned unless that is too long ago, and
frames are relayed by what it answers. -/
theorem forwards_and_learns {history : List Label} {s : Timed}
    (hrun : Run (· = initial agingTime isStpAware bridgeAddress ports) (StepOf (traced step)) history s) :
    (∀ now, s.now ≤ now → ∀ vid address, (s.relay.macTable.getPortForAddress now address vid).2 =
      portOf agingTime now (lastLearned history vid address)) ∧
    (isStpAware → Always (Forwards agingTime) history) ∧
    ((∀ l ∈ history, l.1.2.NamesPorts ports.length) → ∀ now arrivalGate frame, s.now ≤ now →
      arrivalGate < ports.length → (frame.dest = MACAddress.STP_MULTICAST_ADDRESS ∨ frame.dest = bridgeAddress →
        frame.encapsulatedPacket.isSome) →
      ∃ s' output, step s (now, .frame arrivalGate frame) = some (s', output)) := by
  obtain ⟨hinv, hforwards⟩ := run_inv hrun
  refine ⟨fun now hle vid address => ?_, hforwards, fun hports now arrivalGate frame hle harrival hbpdu => ?_⟩
  · rw [(hinv.remembers.later hle).getPortForAddress, hinv.agingTime]
  · have hlearned := isPort_lastLearned hports
    rw [← hinv.portCount] at hlearned harrival
    rw [← hinv.bridgeAddress] at hbpdu
    obtain ⟨⟨relay, relayed⟩, hframe⟩ :=
      exists_handleAndDispatchFrame (hinv.remembers.later hle) hlearned harrival hbpdu
    refine ⟨⟨now, relay⟩, .relayed relayed, step_eq_some.mpr ⟨hle, relay, ?_, rfl⟩⟩
    exact bind_eq_ok_iff.mpr ⟨_, hframe, rfl⟩

theorem forwards_and_learns_of_three : ∃ history s,
    Run (· = initial 120 true 99 (List.replicate 3 .PortInfo)) (StepOf (traced step)) history s ∧
      history.map (·.2.2) = [.relayed { sent := [1] }, .relayed {}, .done, .relayed { sent := [2] }, .done,
        .relayed { sent := [0] }, .relayed { sent := [1, 2] }] ∧
      (∀ now, 200 ≤ now → (s.relay.macTable.getPortForAddress now 2 0).2 = -1) ∧
      Always (Forwards 120) history := by
  obtain ⟨s, history, hrun, hnow, hlearned, houtputs⟩ := @exists_run_of_initial _ _ _ (traced step)
    (· = initial 120 true 99 (List.replicate 3 .PortInfo)) _ rfl
    [(1, .frame 0 { src := 1, dest := 2 }), (2, .frame 1 { src := 2, dest := 1 }), (3, .copyTable 1 2),
      (4, .frame 0 { src := 1, dest := 2 }), (5, .setPort 2 .ALTERNATE .DISCARDING),
      (6, .frame 0 { src := 1, dest := 2 }), (200, .frame 0 { src := 3, dest := 2 })]
    (fun s history => s.now = 200 ∧ lastLearned history 0 2 = some (2, 2) ∧ history.map (·.2.2) =
      [.relayed { sent := [1] }, .relayed {}, .done, .relayed { sent := [2] }, .done,
        .relayed { sent := [0] }, .relayed { sent := [1, 2] }])
    (by decide +kernel)
  have hforwards := forwards_and_learns hrun
  refine ⟨history, s, hrun, houtputs, fun now hle => ?_, hforwards.2.1 rfl⟩
  have haged : ¬now < 2 + 120 := fun hlt => absurd (hle.trans_lt hlt) (by decide +kernel)
  rw [hforwards.1 now (by rw [hnow]; exact hle), hlearned]
  simp [portOf, Option.filter, haged]

end Run

end inet.Ieee8021dRelay
