import LoRaInet.Container.Basic
import LoRaInet.Kernel.Assert
import LoRaInet.NetworkLayer.Common.InterfaceEntry
import Mathlib.Tactic.Linarith
import Mathlib.Tactic.Ring

open omnetpp container

namespace inet

inductive ARPOpcode where
  | ARP_REQUEST
  | ARP_REPLY
  | ARP_RARP_REQUEST
  | ARP_RARP_REPLY
  deriving DecidableEq

structure ARPPacket where
  opcode : ARPOpcode
  srcMACAddress : MACAddress
  destMACAddress : MACAddress
  srcIPAddress : IPv4Address
  destIPAddress : IPv4Address
  deriving DecidableEq

namespace ARP

structure Parameters where
  retryTimeout : SimTime
  retryCount : ℤ
  cacheTimeout : SimTime
  respondToProxyARP : Bool

structure ARPCacheEntry where
  ie : InterfaceEntry
  pending : Bool
  macAddress : MACAddress
  lastUpdate : SimTime
  numRetries : ℕ
  /-- The arrival time of the request timeout while it is scheduled. -/
  timer : Option SimTime

structure Notification where
  l3Address : IPv4Address
  macAddress : MACAddress
  ie : InterfaceEntry

inductive Signal where
  | initiatedARPResolution (n : Notification)
  | completedARPResolution (n : Notification)
  | failedARPResolution (n : Notification)

/-- A packet given to the network interface, with the address it is sent to. -/
structure PacketToNIC where
  packet : ARPPacket
  ie : InterfaceEntry
  macAddress : MACAddress

/-- What a call sends and signals. -/
structure Emitted where
  packet : Option PacketToNIC := none
  signal : Option Signal := none

/-- What the routing table answers about the destination of an ARP packet. -/
structure Routing where
  isLocalAddress : Bool
  interfaceForDestAddr : Option InterfaceEntry
  deriving DecidableEq

end ARP

structure ARP where
  isUp : Bool
  arpCache : Map IPv4Address ARP.ARPCacheEntry

namespace ARP

def sendARPRequest (ie : InterfaceEntry) (ipAddress : IPv4Address) : Except Fault PacketToNIC := do
  ASSERT (ie.macAddress.isUnspecified = false) "!myMACAddress.isUnspecified()"
  ASSERT (ie.ipAddress.isUnspecified = false) "!myIPAddress.isUnspecified()"
  return {
    packet := {
      opcode := .ARP_REQUEST
      srcMACAddress := ie.macAddress
      destMACAddress := .UNSPECIFIED_ADDRESS
      srcIPAddress := ie.ipAddress
      destIPAddress := ipAddress }
    ie := ie
    macAddress := .BROADCAST_ADDRESS }

/-- The arrival time of a request timeout that is scheduled now. -/
def scheduleTimeout (c : Parameters) (now : SimTime) : Except Fault SimTime :=
  if now + c.retryTimeout < now then .error .scheduledToThePast else .ok (now + c.retryTimeout)

/-- The entry as it is from the start of a resolution on. -/
def initiateARPResolution (c : Parameters) (now : SimTime) (nextHopAddr : IPv4Address)
    (ie : InterfaceEntry) : Except Fault (ARPCacheEntry × Emitted) := do
  let packet ← sendARPRequest ie nextHopAddr
  let timer ← scheduleTimeout c now
  let entry := {
    ie := ie
    pending := true
    macAddress := .UNSPECIFIED_ADDRESS
    lastUpdate := 0
    numRetries := 0
    timer := some timer }
  let n := { l3Address := nextHopAddr, macAddress := .UNSPECIFIED_ADDRESS, ie := ie }
  return (entry, { packet := some packet, signal := some (.initiatedARPResolution n) })

def resolveL3Address (c : Parameters) (arp : ARP) (now : SimTime) (address : IPv4Address)
    (ie : InterfaceEntry) : Except Fault (ARP × MACAddress × Emitted) :=
  let initiate := do
    let (entry, emitted) ← initiateARPResolution c now address ie
    return ({ arp with arpCache := arp.arpCache.insert address entry },
      MACAddress.UNSPECIFIED_ADDRESS, emitted)
  match arp.arpCache.lookup address with
  | none => initiate
  | some entry =>
    if entry.pending then .ok (arp, .UNSPECIFIED_ADDRESS, {})
    else if entry.lastUpdate + c.cacheTimeout ≥ now then .ok (arp, entry.macAddress, {})
    else initiate

def requestTimedOut (c : Parameters) (arp : ARP) (now : SimTime) (nextHopAddr : IPv4Address) :
    Except Fault (ARP × Emitted) :=
  match arp.arpCache.lookup nextHopAddr with
  | none => .error .nullPointer
  | some entry =>
    let numRetries := entry.numRetries + 1
    if (numRetries : ℤ) < c.retryCount then do
      let packet ← sendARPRequest entry.ie nextHopAddr
      let timer ← scheduleTimeout c now
      let entry := { entry with numRetries := numRetries, timer := some timer }
      return ({ arp with arpCache := arp.arpCache.insert nextHopAddr entry },
        { packet := some packet })
    else
      let n := { l3Address := nextHopAddr, macAddress := .UNSPECIFIED_ADDRESS, ie := entry.ie }
      .ok ({ arp with arpCache := arp.arpCache.erase nextHopAddr },
        { signal := some (.failedARPResolution n) })

def addressRecognized (c : Parameters) (routing : Routing) (ie : InterfaceEntry) : Bool :=
  if routing.isLocalAddress then true
  else if c.respondToProxyARP then
    match routing.interfaceForDestAddr with
    | some rtie => rtie ≠ ie
    | none => false
  else false

/-- The timer of a pending entry is cancelled. -/
def updateARPCache (now : SimTime) (nextHopAddr : IPv4Address) (entry : ARPCacheEntry)
    (macAddress : MACAddress) : ARPCacheEntry × Signal :=
  let entry := if entry.pending then
    { entry with pending := false, timer := none, numRetries := 0 } else entry
  ({ entry with macAddress := macAddress, lastUpdate := now },
    .completedARPResolution { l3Address := nextHopAddr, macAddress := macAddress, ie := entry.ie })

def sendReply (packet : ARPPacket) (ie : InterfaceEntry) : PacketToNIC where
  packet := {
    opcode := .ARP_REPLY
    srcMACAddress := ie.macAddress
    destMACAddress := packet.srcMACAddress
    srcIPAddress := packet.destIPAddress
    destIPAddress := packet.srcIPAddress }
  ie := ie
  macAddress := packet.srcMACAddress

/-- What is sent for a packet whose destination is recognized. -/
def answer (packet : ARPPacket) (ie : InterfaceEntry) : Except Fault (Option PacketToNIC) :=
  match packet.opcode with
  | .ARP_REQUEST => .ok (some (sendReply packet ie))
  | .ARP_REPLY => .ok none
  | .ARP_RARP_REQUEST => .error (.cRuntimeError "RARP request received: RARP is not supported")
  | .ARP_RARP_REPLY => .error (.cRuntimeError "RARP reply received: RARP is not supported")

/-- The source is entered when the destination is recognized and updated when it has
an entry. -/
def processARPPacket (c : Parameters) (arp : ARP) (now : SimTime) (packet : ARPPacket)
    (ie : InterfaceEntry) (routing : Routing) : Except Fault (ARP × Emitted) :=
  if packet.srcMACAddress.isUnspecified then
    .error (.cRuntimeError "wrong ARP packet: source MAC address is empty")
  else if packet.srcIPAddress.isUnspecified then
    .error (.cRuntimeError "wrong ARP packet: source IPv4 address is empty")
  else
    let update (entry : ARPCacheEntry) : ARP × Signal :=
      let (entry, signal) := updateARPCache now packet.srcIPAddress entry packet.srcMACAddress
      ({ arp with arpCache := arp.arpCache.insert packet.srcIPAddress entry }, signal)
    let new : ARPCacheEntry := {
      ie := ie
      pending := false
      macAddress := .UNSPECIFIED_ADDRESS
      lastUpdate := 0
      numRetries := 0
      timer := none }
    let recognized := addressRecognized c routing ie
    match arp.arpCache.lookup packet.srcIPAddress, recognized with
    | some entry, true => do
      let (arp, signal) := update entry
      return (arp, { packet := ← answer packet ie, signal := some signal })
    | some entry, false =>
      let (arp, signal) := update entry
      .ok (arp, { signal := some signal })
    | none, true => do
      let (arp, signal) := update new
      return (arp, { packet := ← answer packet ie, signal := some signal })
    | none, false => .ok (arp, {})

def flush (arp : ARP) : ARP := { arp with arpCache := ∅ }

def start (arp : ARP) : Except Fault ARP := do
  ASSERT (arp.arpCache.keys = []) "arpCache.empty()"
  return { arp with isUp := true }

def stop (arp : ARP) : ARP := { arp with isUp := false }.flush

/-- A resolution that was started then on that interface and has not ended. -/
structure ARPCacheEntry.Resolving (c : Parameters) (started : SimTime) (ie : InterfaceEntry)
    (entry : ARPCacheEntry) : Prop where
  ie : entry.ie = ie
  pending : entry.pending = true
  timer : entry.timer = some (started + (entry.numRetries + 1) * c.retryTimeout)
  numRetries : (entry.numRetries : ℤ) + 1 ≤ max 1 c.retryCount
  retryTimeout : 0 ≤ c.retryTimeout

/-- An interface that a request can be sent on. -/
def Addressed (ie : InterfaceEntry) : Prop :=
  ie.macAddress.isUnspecified = false ∧ ie.ipAddress.isUnspecified = false

/-- A request for the address is sent. -/
def Emitted.Requests (emitted : Emitted) (address : IPv4Address) : Prop :=
  ∃ sent ∈ emitted.packet, sent.packet.opcode = .ARP_REQUEST ∧ sent.packet.destIPAddress = address

/-- An entry whose resolution has ended. -/
structure ARPCacheEntry.Resolved (entry : ARPCacheEntry) : Prop where
  pending : entry.pending = false
  timer : entry.timer = none
  macAddress : entry.macAddress.isUnspecified = false

section Calls

variable {c : Parameters} {arp arp' : ARP} {now started : SimTime} {address : IPv4Address}
  {ie : InterfaceEntry} {entry : ARPCacheEntry} {emitted : Emitted} {mac : MACAddress}
  {packet : ARPPacket} {routing : Routing}

theorem scheduleTimeout_eq_ok {t : SimTime} :
    scheduleTimeout c now = .ok t ↔ 0 ≤ c.retryTimeout ∧ t = now + c.retryTimeout := by
  unfold scheduleTimeout
  split
  · next hpast =>
    have hneg : ¬0 ≤ c.retryTimeout := by linarith
    simp [hneg]
  · next hpast =>
    have hnonneg : 0 ≤ c.retryTimeout := by linarith
    simp [hnonneg, eq_comm]

theorem sendARPRequest_eq_ok {sent : PacketToNIC} (h : sendARPRequest ie address = .ok sent) :
    Addressed ie ∧ sent.packet.opcode = .ARP_REQUEST ∧ sent.packet.destIPAddress = address := by
  obtain ⟨_, hmac, h⟩ := bind_eq_ok_iff.mp h
  obtain ⟨_, hip, h⟩ := bind_eq_ok_iff.mp h
  cases h
  exact ⟨⟨assert_eq_ok.mp hmac, assert_eq_ok.mp hip⟩, rfl, rfl⟩

theorem initiateARPResolution_resolving
    (h : initiateARPResolution c now address ie = .ok (entry, emitted)) :
    entry.Resolving c now ie ∧ entry.numRetries = 0 ∧ emitted.Requests address ∧
      emitted.signal = some (.initiatedARPResolution ⟨address, .UNSPECIFIED_ADDRESS, ie⟩) ∧
      Addressed ie := by
  obtain ⟨sent, hsent, h⟩ := bind_eq_ok_iff.mp h
  obtain ⟨t, htimer, h⟩ := bind_eq_ok_iff.mp h
  obtain ⟨hnonneg, rfl⟩ := scheduleTimeout_eq_ok.mp htimer
  cases h
  obtain ⟨haddressed, hrequest⟩ := sendARPRequest_eq_ok hsent
  refine ⟨⟨rfl, rfl, ?_, ?_, hnonneg⟩, rfl, ⟨sent, rfl, hrequest⟩, rfl, haddressed⟩
  · simp
  · simp

/-- A call of `resolveL3Address` finds a resolution in progress, or an address, or
starts a resolution. -/
theorem resolveL3Address_cases
    (h : arp.resolveL3Address c now address ie = .ok (arp', mac, emitted)) :
    (arp' = arp ∧ emitted = {} ∧ mac = .UNSPECIFIED_ADDRESS ∧
      ∃ entry ∈ arp.arpCache.lookup address, entry.pending = true) ∨
    (arp' = arp ∧ emitted = {} ∧ ∃ entry ∈ arp.arpCache.lookup address, entry.pending = false ∧
      now ≤ entry.lastUpdate + c.cacheTimeout ∧ mac = entry.macAddress) ∨
    (mac = .UNSPECIFIED_ADDRESS ∧ (∀ entry ∈ arp.arpCache.lookup address, entry.pending = false) ∧
      ∃ entry : ARPCacheEntry, entry.Resolving c now ie ∧
        arp' = { arp with arpCache := arp.arpCache.insert address entry } ∧
        entry.numRetries = 0 ∧ emitted.Requests address ∧
        emitted.signal = some (.initiatedARPResolution ⟨address, .UNSPECIFIED_ADDRESS, ie⟩) ∧
        Addressed ie) := by
  have hinitiate : ∀ {result}, (do
      let (entry, emitted) ← initiateARPResolution c now address ie
      return ({ arp with arpCache := arp.arpCache.insert address entry },
        MACAddress.UNSPECIFIED_ADDRESS, emitted) : Except Fault (ARP × MACAddress × Emitted)) =
        .ok result →
      result.2.1 = .UNSPECIFIED_ADDRESS ∧ ∃ entry : ARPCacheEntry, entry.Resolving c now ie ∧
        result.1 = { arp with arpCache := arp.arpCache.insert address entry } ∧
        entry.numRetries = 0 ∧ result.2.2.Requests address ∧
        result.2.2.signal =
          some (.initiatedARPResolution ⟨address, .UNSPECIFIED_ADDRESS, ie⟩) ∧ Addressed ie := by
    intro result hresult
    obtain ⟨⟨entry, emitted⟩, hcall, hresult⟩ := bind_eq_ok_iff.mp hresult
    cases hresult
    obtain ⟨hresolving, hrest⟩ := initiateARPResolution_resolving hcall
    exact ⟨rfl, entry, hresolving, rfl, hrest⟩
  unfold resolveL3Address at h
  cases hlookup : arp.arpCache.lookup address with
  | none =>
    simp only [hlookup] at h
    obtain ⟨hmac, hstarted⟩ := hinitiate h
    exact .inr (.inr ⟨hmac, fun entry hentry => (by cases hentry), hstarted⟩)
  | some entry =>
    simp only [hlookup] at h
    split at h
    · next hpending =>
      obtain ⟨rfl, hrest⟩ := Prod.mk.inj (Except.ok.inj h)
      cases hrest
      exact .inl ⟨rfl, rfl, rfl, entry, rfl, hpending⟩
    · next hpending =>
      have hended : entry.pending = false := Bool.eq_false_iff.mpr hpending
      split at h
      · next hfresh =>
        obtain ⟨rfl, hrest⟩ := Prod.mk.inj (Except.ok.inj h)
        cases hrest
        exact .inr (.inl ⟨rfl, rfl, entry, rfl, hended, hfresh, rfl⟩)
      · obtain ⟨hmac, hstarted⟩ := hinitiate h
        refine .inr (.inr ⟨hmac, fun other hother => ?_, hstarted⟩)
        cases hother
        exact hended

/-- A request timeout is followed by another one, or the resolution fails. -/
theorem requestTimedOut_cases (hentry : arp.arpCache.lookup address = some entry)
    (hresolving : entry.Resolving c started ie) (htimer : entry.timer = some now)
    (h : arp.requestTimedOut c now address = .ok (arp', emitted)) :
    (emitted.signal = none ∧ ∃ entry' : ARPCacheEntry, entry'.Resolving c started ie ∧
      entry'.timer = some (now + c.retryTimeout) ∧
      arp' = { arp with arpCache := arp.arpCache.insert address entry' } ∧
      entry'.numRetries = entry.numRetries + 1 ∧ emitted.Requests address) ∨
    (emitted.signal = some (.failedARPResolution ⟨address, .UNSPECIFIED_ADDRESS, ie⟩) ∧
      arp' = { arp with arpCache := arp.arpCache.erase address } ∧ emitted.packet = none) := by
  have hnow : now = started + (entry.numRetries + 1) * c.retryTimeout :=
    Option.some.inj (htimer.symm.trans hresolving.timer)
  unfold requestTimedOut at h
  simp only [hentry] at h
  split at h
  · next hretry =>
    obtain ⟨sent, hsent, h⟩ := bind_eq_ok_iff.mp h
    obtain ⟨t, hscheduled, h⟩ := bind_eq_ok_iff.mp h
    obtain ⟨-, rfl⟩ := scheduleTimeout_eq_ok.mp hscheduled
    cases h
    refine .inl ⟨rfl, { entry with
        numRetries := entry.numRetries + 1, timer := some (now + c.retryTimeout) }, ?_, rfl, rfl,
      rfl, sent, rfl, (sendARPRequest_eq_ok hsent).2⟩
    refine ⟨hresolving.ie, hresolving.pending, ?_, ?_, hresolving.retryTimeout⟩
    · rw [hnow]
      simp only [Option.some.injEq]
      push_cast
      ring
    · exact le_max_of_le_right hretry
  · cases h
    refine .inr ⟨?_, rfl, rfl⟩
    rw [hresolving.ie]

theorem updateARPCache_resolved (hnew : entry.pending = true ∨ entry.timer = none)
    (hmac : mac.isUnspecified = false) : (updateARPCache now address entry mac).1.Resolved := by
  unfold updateARPCache
  cases hpending : entry.pending with
  | true => exact ⟨rfl, rfl, hmac⟩
  | false =>
    rcases hnew with hold | htimer
    · rw [hpending] at hold
      cases hold
    · exact ⟨hpending, htimer, hmac⟩

theorem updateARPCache_signal :
    (updateARPCache now address entry mac).2 = .completedARPResolution ⟨address, mac, entry.ie⟩ := by
  unfold updateARPCache
  cases entry.pending with
  | true => rfl
  | false => rfl

theorem updateARPCache_entry : (updateARPCache now address entry mac).1.macAddress = mac ∧
    (updateARPCache now address entry mac).1.lastUpdate = now := by
  unfold updateARPCache
  cases entry.pending with
  | true | false => exact ⟨rfl, rfl⟩

theorem answer_not_requests {reply : Option PacketToNIC} {signal : Option Signal}
    (h : answer packet ie = .ok reply) (address : IPv4Address) :
    ¬ Emitted.Requests ⟨reply, signal⟩ address := by
  rintro ⟨sent, hsent, hopcode, -⟩
  obtain rfl : reply = some sent := hsent
  unfold answer at h
  split at h
  · cases h
    cases hopcode
  · cases Except.ok.inj h
  · cases h
  · cases h

/-- A packet ends the resolution of its source, and no other one. -/
theorem processARPPacket_cases (hcache : ∀ entry ∈ arp.arpCache.lookup packet.srcIPAddress,
      entry.pending = true ∨ entry.timer = none)
    (h : arp.processARPPacket c now packet ie routing = .ok (arp', emitted)) :
    (arp' = arp ∧ emitted = {} ∧ arp.arpCache.lookup packet.srcIPAddress = none) ∨
    ∃ entry : ARPCacheEntry, entry.Resolved ∧ entry.macAddress = packet.srcMACAddress ∧
      entry.lastUpdate = now ∧
      arp' = { arp with arpCache := arp.arpCache.insert packet.srcIPAddress entry } ∧
      (∀ address, ¬ emitted.Requests address) ∧
      ∃ sender : InterfaceEntry, (∀ old ∈ arp.arpCache.lookup packet.srcIPAddress, sender = old.ie) ∧
        emitted.signal =
          some (.completedARPResolution ⟨packet.srcIPAddress, packet.srcMACAddress, sender⟩) := by
  unfold processARPPacket at h
  split at h
  · cases h
  · next hmac =>
    have hmac : packet.srcMACAddress.isUnspecified = false := Bool.eq_false_iff.mpr hmac
    split at h
    · cases h
    · cases hlookup : arp.arpCache.lookup packet.srcIPAddress with
      | none =>
        cases hrecognized : addressRecognized c routing ie with
        | true =>
          simp only [hlookup, hrecognized] at h
          obtain ⟨reply, hreply, h⟩ := bind_eq_ok_iff.mp h
          cases h
          exact .inr ⟨_, updateARPCache_resolved (.inr rfl) hmac, updateARPCache_entry.1,
            updateARPCache_entry.2, rfl, answer_not_requests hreply, ie,
            fun old hold => (by cases hold), congrArg some updateARPCache_signal⟩
        | false =>
          simp only [hlookup, hrecognized] at h
          cases h
          exact .inl ⟨rfl, rfl, rfl⟩
      | some entry =>
        have hresolved := fun {now} => @updateARPCache_resolved now packet.srcIPAddress entry
          packet.srcMACAddress (hcache entry hlookup) hmac
        have hsame : ∀ old ∈ some entry, entry.ie = old.ie :=
          fun old hold => congrArg ARPCacheEntry.ie (Option.some.inj hold)
        cases hrecognized : addressRecognized c routing ie with
        | true =>
          simp only [hlookup, hrecognized] at h
          obtain ⟨reply, hreply, h⟩ := bind_eq_ok_iff.mp h
          cases h
          exact .inr ⟨_, hresolved, updateARPCache_entry.1, updateARPCache_entry.2, rfl,
            answer_not_requests hreply, entry.ie, hsame, congrArg some updateARPCache_signal⟩
        | false =>
          simp only [hlookup, hrecognized] at h
          cases h
          refine .inr ⟨_, hresolved, updateARPCache_entry.1, updateARPCache_entry.2, rfl, ?_,
            entry.ie, hsame, congrArg some updateARPCache_signal⟩
          rintro address ⟨sent, hsent, -⟩
          cases hsent

end Calls

end ARP

end inet
