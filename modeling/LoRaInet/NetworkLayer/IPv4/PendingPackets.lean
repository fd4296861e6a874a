import LoRaInet.NetworkLayer.Arp.ARP
import LoRaInet.NetworkLayer.IPv4.Fragmentation
import LoRaInet.Transition.Run

open omnetpp container transition

namespace inet

/-- The datagrams waiting for each next hop, first one first. -/
abbrev PendingPackets (P : Type) := Map IPv4Address (List (IPv4Datagram P))

/-- `IPv4` and `ARP` of one node: what both do with datagrams whose next hop has to be
resolved. -/
structure IPv4NetworkLayer (P : Type) where
  simTime : SimTime
  isUp : Bool
  pendingPackets : PendingPackets P
  arp : ARP

namespace IPv4NetworkLayer

variable {P : Type}

inductive Fate where
  | sent (ie : InterfaceEntry) (macAddress : MACAddress)
  | dropped
  deriving DecidableEq

/-- A datagram taken out of `pendingPackets`. -/
structure Released (P : Type) where
  nextHop : IPv4Address
  datagram : IPv4Datagram P
  fate : Fate

structure Output (P : Type) where
  emitted : ARP.Emitted := {}
  /-- The interface and address to which the given datagram is sent at once. -/
  sent : Option (InterfaceEntry × Option MACAddress) := none
  /-- The next hop for which the given datagram is queued. -/
  queued : Option IPv4Address := none
  released : List (Released P) := []

/-- The next hop of a datagram given without one. -/
def nextHopFor (useProxyARP : Bool) (datagram : IPv4Datagram P) (ie : InterfaceEntry)
    (nextHopAddr : IPv4Address) : Except Fault IPv4Address :=
  if nextHopAddr.isUnspecified then
    if IPv4Address.maskedAddrAreEqual datagram.destAddress ie.ipAddress ie.netmask then
      .ok datagram.destAddress
    else if useProxyARP then .ok datagram.destAddress
    else .error (.cRuntimeError
      "Cannot send datagram on broadcast interface: no next-hop address and Proxy ARP is disabled")
  else .ok nextHopAddr

variable (c : ARP.Parameters) (s : IPv4NetworkLayer P)

def resolveNextHopMacAddress (nextHopAddr : IPv4Address) (destIE : InterfaceEntry) :
    Except Fault (ARP × MACAddress × ARP.Emitted) :=
  if nextHopAddr.isLimitedBroadcastAddress || nextHopAddr = destIE.getNetworkBroadcastAddress then
    .ok (s.arp, .BROADCAST_ADDRESS, {})
  else if nextHopAddr.isMulticast then
    .ok (s.arp, .makeMulticastAddress nextHopAddr, {})
  else s.arp.resolveL3Address c s.simTime nextHopAddr destIE

variable (pendingPackets : PendingPackets P)

/-- The packets that wait for a next hop. -/
def waiting (nextHop : IPv4Address) : List (IPv4Datagram P) :=
  (pendingPackets.lookup nextHop).getD []

def sendDatagramToOutput (useProxyARP : Bool) (s : IPv4NetworkLayer P)
    (datagram : IPv4Datagram P) (ie : InterfaceEntry) (nextHopAddr : IPv4Address) :
    Except Fault (IPv4NetworkLayer P × Output P) :=
  let isIeee802Lan := ie.isBroadcast && !ie.macAddress.isUnspecified
  if isIeee802Lan then do
    let nextHopAddr ← nextHopFor useProxyARP datagram ie nextHopAddr
    let (arp, nextHopMacAddr, emitted) ← s.resolveNextHopMacAddress c nextHopAddr ie
    if nextHopMacAddr.isUnspecified then
      let packetQueue := waiting s.pendingPackets nextHopAddr ++ [datagram]
      return ({ s with arp := arp, pendingPackets := s.pendingPackets.insert nextHopAddr packetQueue },
        { emitted := emitted, queued := some nextHopAddr })
    else
      ASSERT2 (s.pendingPackets.lookup nextHopAddr = none)
        "IPv4-ARP error: nextHopAddr found in ARP table, but IPv4 queue for nextHopAddr not empty"
      return ({ s with arp := arp }, { emitted := emitted, sent := some (ie, some nextHopMacAddr) })
  else .ok (s, { sent := some (ie, none) })

def arpResolutionCompleted (entry : ARP.Notification) : PendingPackets P × List (Released P) :=
  match pendingPackets.lookup entry.l3Address with
  | some packetQueue =>
    (pendingPackets.erase entry.l3Address,
      packetQueue.map fun msg => ⟨entry.l3Address, msg, .sent entry.ie entry.macAddress⟩)
  | none => (pendingPackets, [])

def arpResolutionTimedOut (entry : ARP.Notification) : PendingPackets P × List (Released P) :=
  match pendingPackets.lookup entry.l3Address with
  | some packetQueue =>
    (pendingPackets.erase entry.l3Address,
      packetQueue.map fun packet => ⟨entry.l3Address, packet, .dropped⟩)
  | none => (pendingPackets, [])

/-- `IPv4` is subscribed to two of the signals. -/
def receiveSignal : Option ARP.Signal → PendingPackets P × List (Released P)
  | some (.completedARPResolution entry) => arpResolutionCompleted pendingPackets entry
  | some (.failedARPResolution entry) => arpResolutionTimedOut pendingPackets entry
  | some (.initiatedARPResolution _) => (pendingPackets, [])
  | none => (pendingPackets, [])

/-- The state after a call of `ARP` and the signal it emits. -/
def afterARP (arp : ARP) (emitted : ARP.Emitted) : IPv4NetworkLayer P × Output P :=
  let (pendingPackets, released) := receiveSignal s.pendingPackets emitted.signal
  ({ s with arp := arp, pendingPackets := pendingPackets },
    { emitted := emitted, released := released })

def flush : PendingPackets P × List (Released P) :=
  (∅, pendingPackets.entries.flatMap fun elem => elem.2.map fun packet => ⟨elem.1, packet, .dropped⟩)

inductive Event (P : Type) where
  | sendDatagramToOutput (datagram : IPv4Datagram P) (ie : InterfaceEntry)
    (nextHopAddr : IPv4Address)
  | arpPacket (packet : ARPPacket) (ie : InterfaceEntry) (routing : ARP.Routing)
  | requestTimedOut (nextHopAddr : IPv4Address)
  | start
  | stop

/-- Both modules discard a message that arrives when they are down. Both are started
and stopped by one operation. -/
def handle (useProxyARP : Bool) (s : IPv4NetworkLayer P) :
    Event P → Except Fault (IPv4NetworkLayer P × Output P)
  | .sendDatagramToOutput datagram ie nextHopAddr =>
    if s.isUp then s.sendDatagramToOutput c useProxyARP datagram ie nextHopAddr
    else .ok (s, {})
  | .arpPacket packet ie routing =>
    if s.arp.isUp then do
      let (arp, emitted) ← s.arp.processARPPacket c s.simTime packet ie routing
      return s.afterARP arp emitted
    else .ok (s, {})
  | .requestTimedOut nextHopAddr =>
    if s.arp.isUp then do
      let (arp, emitted) ← s.arp.requestTimedOut c s.simTime nextHopAddr
      return s.afterARP arp emitted
    else .error (.cRuntimeError "Model error: self msg received when protocol is down")
  | .start => do
    let arp ← s.arp.start
    return ({ s with isUp := true, arp := arp }, {})
  | .stop =>
    let (pendingPackets, released) := flush s.pendingPackets
    .ok ({ s with isUp := false, arp := s.arp.stop, pendingPackets := pendingPackets },
      { released := released })

/-- No timer is overdue at `t`, and a request timeout arrives when its timer says. -/
def IsNext (t : SimTime) (e : Event P) : Prop :=
  s.simTime ≤ t ∧ (∀ e ∈ s.arp.arpCache.entries, ∀ timer ∈ e.2.timer, t ≤ timer) ∧
  match e with
  | .requestTimedOut nextHopAddr => ∃ entry ∈ s.arp.arpCache.lookup nextHopAddr,
      entry.timer = some t
  | _ => True

instance (s : IPv4NetworkLayer P) (t : SimTime) : (e : Event P) → Decidable (s.IsNext t e)
  | .requestTimedOut _ => inferInstanceAs (Decidable (_ ∧ _ ∧ _))
  | .sendDatagramToOutput .. | .arpPacket .. | .start | .stop => inferInstanceAs (Decidable (_ ∧ _ ∧ True))

/-- A call that throws is no step. -/
def step (useProxyARP : Bool) (s : IPv4NetworkLayer P)
    (e : SimTime × Event P) : Option (IPv4NetworkLayer P × Output P) :=
  if s.IsNext e.1 e.2 then (handle c useProxyARP { s with simTime := e.1 } e.2).toOption else none

/-- A node whose `IPv4` and `ARP` are up or down. -/
def new (isUp : Bool) : IPv4NetworkLayer P where
  simTime := 0
  isUp := isUp
  pendingPackets := ∅
  arp := { isUp := isUp, arpCache := ∅ }

end IPv4NetworkLayer

end inet
