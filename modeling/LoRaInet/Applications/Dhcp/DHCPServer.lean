import LoRaInet.Container.OrderedMap
import LoRaInet.NetworkLayer.Common.InterfaceEntry
import LoRaInet.Transition.Run
import Mathlib.Data.Rat.Defs

open container

namespace inet

inductive DHCPOpcode where
  | BOOTREQUEST
  | BOOTREPLY

inductive DHCPMessageType where
  | DHCPDISCOVER
  | DHCPOFFER
  | DHCPREQUEST
  | DHCPDECLINE
  | DHCPACK
  | DHCPNAK
  | DHCPRELEASE
  | DHCPINFORM
  deriving DecidableEq

/-- What the server reads of a message, with the interface it arrived on. -/
structure DHCPMessage where
  interfaceId : ℕ
  op : DHCPOpcode
  xid : ℕ
  broadcast : Bool
  ciaddr : IPv4Address
  giaddr : IPv4Address
  chaddr : MACAddress
  messageType : DHCPMessageType
  requestedIp : IPv4Address
  serverIdentifier : IPv4Address

/-- The options that only an offer and an acknowledgement carry. -/
structure LeaseOptions where
  subnetMask : IPv4Address
  renewalTime : ℚ
  rebindingTime : ℚ
  leaseTime : ℚ
  router : IPv4Address
  dns : IPv4Address

/-- A message that the server sends, with where it goes. -/
structure DHCPReply where
  xid : ℤ
  broadcast : Bool
  ciaddr : IPv4Address
  yiaddr : IPv4Address
  giaddr : IPv4Address
  chaddr : MACAddress
  messageType : DHCPMessageType
  serverIdentifier : IPv4Address
  options : Option LeaseOptions
  destAddr : IPv4Address

structure DHCPLease where
  xid : ℤ
  ip : IPv4Address
  mac : MACAddress
  gateway : IPv4Address
  subnetMask : IPv4Address
  dns : IPv4Address
  leased : Bool

/-- What the server is configured with. -/
structure DHCPParameters where
  interfaceId : ℕ
  ipAddress : IPv4Address
  subnetMask : IPv4Address
  gateway : IPv4Address
  ipAddressStart : IPv4Address
  maxNumOfClients : ℕ
  leaseTime : ℚ

namespace DHCPServer

scoped instance : LinearOrder IPv4Address :=
  LinearOrder.lift' BitVec.toNat fun _ _ => BitVec.eq_of_toNat_eq

abbrev DHCPLeased := OrderedMap IPv4Address DHCPLease

variable (p : DHCPParameters)

def newLease (ip : IPv4Address) : DHCPLease :=
  ⟨-1, ip, 0, p.gateway, p.subnetMask, IPv4Address.UNSPECIFIED_ADDRESS, false⟩

variable (leased : DHCPLeased)

/-- The first lease of a client, with its key. -/
def getLeaseByMac (mac : MACAddress) : Option (IPv4Address × DHCPLease) :=
  leased.entries.find? fun entry => entry.2.mac = mac

/-- The first address of the pool that has no lease, or whose lease is not taken. -/
def poolAddress : Option IPv4Address :=
  ((List.range p.maxNumOfClients).map fun i => p.ipAddressStart + BitVec.ofNat 32 i).find? fun ip =>
    match leased.lookup ip with
    | some lease => !lease.leased
    | none => true

/-- A lease that is there and not taken is found, any other one is put anew. -/
def leaseFor (ip : IPv4Address) : DHCPLease :=
  match leased.lookup ip with
  | some lease => if lease.leased then newLease p ip else lease
  | none => newLease p ip

/-- A requested address is neither looked for in the pool nor kept from a client it is leased to. -/
def getAvailableLease (requestedAddress : IPv4Address) : Option (IPv4Address × DHCPLease) :=
  if requestedAddress.isUnspecified then
    (poolAddress p leased).map fun ip => (ip, leaseFor p leased ip)
  else some (requestedAddress, leaseFor p leased requestedAddress)

variable (lease : DHCPLease)

def leaseOptions : LeaseOptions :=
  ⟨lease.subnetMask, p.leaseTime * (1 / 2), p.leaseTime * (7 / 8), p.leaseTime, lease.gateway,
    lease.dns⟩

variable (packet : DHCPMessage)

def destinationOf : IPv4Address :=
  if !packet.giaddr.isUnspecified then packet.giaddr
  else if !packet.ciaddr.isUnspecified then packet.ciaddr
  else 0xFFFFFFFF

def sendNAK (msg : DHCPMessage) : DHCPReply where
  xid := msg.xid
  broadcast := msg.broadcast
  ciaddr := IPv4Address.UNSPECIFIED_ADDRESS
  yiaddr := IPv4Address.UNSPECIFIED_ADDRESS
  giaddr := msg.giaddr
  chaddr := msg.chaddr
  messageType := .DHCPNAK
  serverIdentifier := p.ipAddress
  options := none
  destAddr := if !msg.giaddr.isUnspecified then msg.giaddr else 0xFFFFFFFF

/-- The acknowledgement is for the client of the lease, whoever has asked. -/
def sendACK (packet : DHCPMessage) : DHCPReply where
  xid := lease.xid
  broadcast := false
  ciaddr := lease.ip
  yiaddr := lease.ip
  giaddr := IPv4Address.UNSPECIFIED_ADDRESS
  chaddr := lease.mac
  messageType := .DHCPACK
  serverIdentifier := p.ipAddress
  options := some (leaseOptions p lease)
  destAddr := destinationOf packet

def sendOffer (packet : DHCPMessage) : DHCPReply where
  xid := lease.xid
  broadcast := false
  ciaddr := IPv4Address.UNSPECIFIED_ADDRESS
  yiaddr := lease.ip
  giaddr := lease.gateway
  chaddr := lease.mac
  messageType := .DHCPOFFER
  serverIdentifier := p.ipAddress
  options := some (leaseOptions p lease)
  destAddr := destinationOf packet

/-- The lease is taken for the request, and acknowledged. -/
def acknowledge (ip : IPv4Address) (lease : DHCPLease) (packet : DHCPMessage) :
    DHCPLeased × Option DHCPReply :=
  let lease := { lease with xid := packet.xid, leased := true }
  (leased.assign ip lease, some (sendACK p lease packet))

def processDiscover : DHCPLeased × Option DHCPReply :=
  match getLeaseByMac leased packet.chaddr with
  | none =>
    match getAvailableLease p leased packet.requestedIp with
    | some (ip, lease) =>
      let lease := { lease with mac := packet.chaddr, xid := packet.xid, leased := true }
      (leased.assign ip lease, some (sendOffer p lease packet))
    | none => (leased, none)
  | some (ip, lease) =>
    let lease := { lease with xid := packet.xid }
    (leased.assign ip lease, some (sendOffer p lease packet))

/-- Whether a lease belongs to the client that sends a request is looked at only where the request
answers an offer. -/
def processRequest : DHCPLeased × Option DHCPReply :=
  if packet.serverIdentifier = p.ipAddress then
    match getLeaseByMac leased packet.chaddr with
    | some (ip, lease) =>
      if lease.ip ≠ packet.requestedIp then (leased, some (sendNAK p packet))
      else acknowledge p leased ip lease packet
    | none => (leased, some (sendNAK p packet))
  else if packet.ciaddr.isUnspecified then
    match leased.lookup packet.requestedIp with
    | none => (leased, none)
    | some lease =>
      if IPv4Address.maskedAddrAreEqual packet.requestedIp lease.ip p.subnetMask then
        acknowledge p leased packet.requestedIp lease packet
      else (leased, some (sendNAK p packet))
  else
    match leased.lookup packet.ciaddr with
    | some lease => acknowledge p leased packet.ciaddr lease packet
    | none => (leased, some (sendNAK p packet))

def processDHCPMessage : DHCPLeased × Option DHCPReply :=
  if packet.interfaceId ≠ p.interfaceId then (leased, none)
  else
    match packet.op, packet.messageType with
    | .BOOTREQUEST, .DHCPDISCOVER => processDiscover p leased packet
    | .BOOTREQUEST, .DHCPREQUEST => processRequest p leased packet
    | _, _ => (leased, none)

def handle : Option (DHCPLeased × Option DHCPReply) :=
  some (processDHCPMessage p leased packet)

end DHCPServer

end inet

open container transition

namespace inet.DHCPServer

variable {p : DHCPParameters} {leased leased' : DHCPLeased} {packet : DHCPMessage}
  {ip ip' : IPv4Address} {mac : MACAddress} {lease : DHCPLease} {reply : DHCPReply}

/-- The address is in the table, for this client. -/
def Holds (leased : DHCPLeased) (ip : IPv4Address) (mac : MACAddress) : Prop :=
  ∃ lease ∈ leased.lookup ip, lease.mac = mac
deriving Decidable

def InPool (p : DHCPParameters) (ip : IPv4Address) : Prop :=
  (ip - p.ipAddressStart).toNat < p.maxNumOfClients
deriving Decidable

/-- Every lease is taken and of the pool, and no client has two of them. -/
structure Exclusive (p : DHCPParameters) (leased : DHCPLeased) : Prop where
  ip : ∀ ip, ∀ lease ∈ leased.lookup ip, lease.ip = ip
  taken : ∀ ip, ∀ lease ∈ leased.lookup ip, lease.leased
  inPool : ∀ ip, ∀ lease ∈ leased.lookup ip, InPool p ip
  client : ∀ ip ip' mac, Holds leased ip mac → Holds leased ip' mac → ip = ip'

theorem Holds.unique {mac' : MACAddress} (h : Holds leased ip mac) (h' : Holds leased ip mac') :
    mac = mac' := by
  obtain ⟨lease, hlease, rfl⟩ := h
  obtain ⟨lease', hlease', rfl⟩ := h'
  rw [Option.mem_def.mp hlease] at hlease'
  rw [Option.some.inj hlease']

theorem holds_assign (leased : DHCPLeased) (lease : DHCPLease) :
    Holds (leased.assign ip lease) ip' mac ↔
      if ip' = ip then lease.mac = mac else Holds leased ip' mac := by
  unfold Holds
  rw [OrderedMap.lookup_assign]
  split
  · simp
  · rfl

/-- A client gets an address that nobody else holds, while it holds no other one. -/
theorem Exclusive.assign (h : Exclusive p leased) (hip : lease.ip = ip) (hleased : lease.leased)
    (hpool : InPool p ip) (hother : ∀ ip', Holds leased ip' lease.mac → ip' = ip) :
    Exclusive p (leased.assign ip lease) := by
  have hlookup : ∀ {ip' l}, l ∈ (leased.assign ip lease).lookup ip' →
      ip' = ip ∧ l = lease ∨ ip' ≠ ip ∧ l ∈ leased.lookup ip' := by
    intro ip' l hl
    rw [OrderedMap.lookup_assign] at hl
    split at hl
    · next heq => exact .inl ⟨heq, (Option.some.inj hl).symm⟩
    · next hne => exact .inr ⟨hne, hl⟩
  refine ⟨fun ip' l hl => ?_, fun ip' l hl => ?_, fun ip' l hl => ?_, fun ip₁ ip₂ mac h₁ h₂ => ?_⟩
  · rcases hlookup hl with ⟨rfl, rfl⟩ | ⟨-, hl⟩
    · exact hip
    · exact h.ip ip' l hl
  · rcases hlookup hl with ⟨rfl, rfl⟩ | ⟨-, hl⟩
    · exact hleased
    · exact h.taken ip' l hl
  · rcases hlookup hl with ⟨rfl, rfl⟩ | ⟨-, hl⟩
    · exact hpool
    · exact h.inPool ip' l hl
  · rw [holds_assign] at h₁ h₂
    split at h₁ <;> split at h₂
    · next heq₁ heq₂ => rw [heq₁, heq₂]
    · next heq hne => exact absurd (hother ip₂ (h₁ ▸ h₂)) hne
    · next hne heq => exact absurd (hother ip₁ (h₂ ▸ h₁)) hne
    · exact h.client ip₁ ip₂ mac h₁ h₂

theorem getLeaseByMac_eq_some (h : getLeaseByMac leased mac = some (ip, lease)) :
    leased.lookup ip = some lease ∧ lease.mac = mac := by
  have hmem := List.mem_of_find?_eq_some h
  have hmac := List.find?_some h
  exact ⟨OrderedMap.mem_entries_iff.mp hmem, by simpa using hmac⟩

theorem getLeaseByMac_eq_none (h : getLeaseByMac leased mac = none) (ip : IPv4Address) :
    ¬Holds leased ip mac := by
  rintro ⟨lease, hlease, hmac⟩
  have hnone := List.find?_eq_none.mp h (ip, lease) (OrderedMap.mem_entries_iff.mpr hlease)
  simp [hmac] at hnone

theorem inPool_add {i : ℕ} (hi : i < p.maxNumOfClients) : InPool p (p.ipAddressStart + BitVec.ofNat 32 i) := by
  unfold InPool
  have heq : p.ipAddressStart + BitVec.ofNat 32 i - p.ipAddressStart = BitVec.ofNat 32 i := by
    rw [BitVec.add_comm, BitVec.add_sub_cancel]
  rw [heq, BitVec.toNat_ofNat]
  exact (Nat.mod_le _ _).trans_lt hi

/-- An address of the pool that is free or whose lease is not taken. -/
theorem poolAddress_eq_some (h : poolAddress p leased = some ip) :
    InPool p ip ∧ ∀ lease ∈ leased.lookup ip, ¬lease.leased := by
  unfold poolAddress at h
  obtain ⟨i, hi, rfl⟩ := List.mem_map.mp (List.mem_of_find?_eq_some h)
  refine ⟨inPool_add (List.mem_range.mp hi), fun lease hlease => ?_⟩
  have hfree := List.find?_some h
  rw [Option.mem_def.mp hlease] at hfree
  simpa using hfree

/-- The message does not ask for what is not the client's: a discovery for an address outside the
pool or taken, a request without an offer for an address of another client. -/
def Proper (p : DHCPParameters) (leased : DHCPLeased) (packet : DHCPMessage) : Bool :=
  packet.interfaceId ≠ p.interfaceId || match packet.op, packet.messageType with
    | .BOOTREQUEST, .DHCPDISCOVER =>
      (getLeaseByMac leased packet.chaddr).isSome ∨ packet.requestedIp.isUnspecified ∨
        InPool p packet.requestedIp ∧ ∀ lease ∈ leased.lookup packet.requestedIp, ¬lease.leased
    | .BOOTREQUEST, .DHCPREQUEST =>
      packet.serverIdentifier = p.ipAddress ∨ ∀ lease ∈ leased.lookup
            (if packet.ciaddr.isUnspecified then packet.requestedIp else packet.ciaddr),
          lease.mac = packet.chaddr
    | _, _ => true

/-- An offer or an acknowledgement gives its client an address of the pool that no other client
holds, an acknowledgement one that it already holds. -/
structure Grants (p : DHCPParameters) (leased leased' : DHCPLeased) (packet : DHCPMessage)
    (reply : DHCPReply) : Prop where
  client : reply.chaddr = packet.chaddr
  inPool : InPool p reply.yiaddr
  held : Holds leased' reply.yiaddr packet.chaddr
  exclusive : ∀ mac, Holds leased reply.yiaddr mac → mac = packet.chaddr
  acknowledged : reply.messageType = .DHCPACK → Holds leased reply.yiaddr packet.chaddr

/-- What a message does to the table, and what is sent for it. -/
structure Handled (p : DHCPParameters) (leased : DHCPLeased) (packet : DHCPMessage)
    (r : DHCPLeased × Option DHCPReply) : Prop where
  exclusive : Exclusive p r.1
  grants : ∀ reply ∈ r.2, reply.messageType ≠ .DHCPNAK → Grants p leased r.1 packet reply

theorem Exclusive.silent (h : Exclusive p leased) : Handled p leased packet (leased, none) :=
  ⟨h, nofun⟩

theorem Exclusive.refuse (h : Exclusive p leased) :
    Handled p leased packet (leased, some (sendNAK p packet)) := by
  refine ⟨h, fun reply hreply hne => ?_⟩
  cases hreply
  exact absurd rfl hne

theorem Exclusive.grant (h : Exclusive p leased) (hip : lease.ip = ip) (hleased : lease.leased)
    (hmac : lease.mac = packet.chaddr) (hpool : InPool p ip)
    (hother : ∀ ip', Holds leased ip' packet.chaddr → ip' = ip)
    (hfree : ∀ mac, Holds leased ip mac → mac = packet.chaddr)
    (hchaddr : reply.chaddr = lease.mac) (hyiaddr : reply.yiaddr = lease.ip)
    (hacknowledged : reply.messageType = .DHCPACK → Holds leased ip packet.chaddr) :
    Handled p leased packet (leased.assign ip lease, some reply) := by
  refine ⟨h.assign hip hleased hpool (hmac ▸ hother), fun reply' hreply' _ => ?_⟩
  cases hreply'
  rw [hip] at hyiaddr
  refine ⟨hchaddr.trans hmac, hyiaddr ▸ hpool, ?_, hyiaddr ▸ hfree, hyiaddr ▸ hacknowledged⟩
  rw [hyiaddr]
  exact (holds_assign leased lease).mpr (by rw [if_pos rfl]; exact hmac)

theorem Exclusive.regrant (h : Exclusive p leased) (hlease : leased.lookup ip = some lease)
    (hmac : lease.mac = packet.chaddr) {lease' : DHCPLease} (hip' : lease'.ip = lease.ip)
    (hleased' : lease'.leased) (hmac' : lease'.mac = lease.mac) (hchaddr : reply.chaddr = lease'.mac)
    (hyiaddr : reply.yiaddr = lease'.ip) :
    Handled p leased packet (leased.assign ip lease', some reply) := by
  have hholds : Holds leased ip packet.chaddr := ⟨lease, hlease, hmac⟩
  exact h.grant (hip'.trans (h.ip ip lease hlease)) hleased' (hmac'.trans hmac) (h.inPool ip lease hlease)
    (fun ip' hother => h.client ip' ip _ hother hholds) (fun mac hother => hother.unique hholds)
    hchaddr hyiaddr fun _ => hholds

theorem Exclusive.acknowledge (h : Exclusive p leased) (hlease : leased.lookup ip = some lease)
    (hmac : lease.mac = packet.chaddr) :
    Handled p leased packet (acknowledge p leased ip lease packet) :=
  h.regrant hlease hmac rfl rfl rfl rfl rfl

theorem Exclusive.leaseFor_eq (h : Exclusive p leased) (ip : IPv4Address) :
    leaseFor p leased ip = newLease p ip := by
  unfold leaseFor
  split
  · next lease hlease => rw [if_pos (h.taken ip lease hlease)]
  · rfl

theorem maskedAddrAreEqual_self (ip netmask : IPv4Address) : ip.maskedAddrAreEqual ip netmask := by
  unfold IPv4Address.maskedAddrAreEqual
  simp

theorem client_of_acknowledge {r : DHCPLeased × Option DHCPReply}
    (hr : DHCPServer.acknowledge p leased ip lease packet = r) (h : Handled p leased packet r) :
    lease.mac = packet.chaddr := by
  subst hr
  exact (h.grants _ rfl nofun).client

theorem Exclusive.processDiscover_iff (h : Exclusive p leased) :
    Handled p leased packet (processDiscover p leased packet) ↔
      ((getLeaseByMac leased packet.chaddr).isSome ∨ packet.requestedIp.isUnspecified ∨
        InPool p packet.requestedIp ∧ ∀ lease ∈ leased.lookup packet.requestedIp, ¬lease.leased) := by
  unfold DHCPServer.processDiscover
  split
  · next hnone =>
    have hnew := fun ip => getLeaseByMac_eq_none hnone ip
    have htake : ∀ {ip}, InPool p ip → (∀ lease ∈ leased.lookup ip, ¬lease.leased) →
        Handled p leased packet (leased.assign ip { newLease p ip with
            mac := packet.chaddr, xid := packet.xid, leased := true },
          some (sendOffer p { newLease p ip with
            mac := packet.chaddr, xid := packet.xid, leased := true } packet)) := by
      intro ip hpool hfree
      refine h.grant rfl rfl rfl hpool (fun ip' hother => absurd hother (hnew ip')) ?_ rfl rfl nofun
      rintro mac ⟨lease, hlease, -⟩
      exact absurd (h.taken ip lease hlease) (hfree lease hlease)
    rw [hnone]
    unfold getAvailableLease
    by_cases hrequested : packet.requestedIp.isUnspecified
    · refine iff_of_true ?_ (.inr (.inl hrequested))
      rw [if_pos hrequested]
      cases hpool : poolAddress p leased with
      | none => exact h.silent
      | some ip =>
        obtain ⟨hin, hfree⟩ := poolAddress_eq_some hpool
        simp only [Option.map_some, h.leaseFor_eq]
        exact htake hin hfree
    · rw [if_neg hrequested]
      simp only [h.leaseFor_eq, hrequested, Option.isSome_none, Bool.false_eq_true, false_or]
      refine ⟨fun hhandled => ?_, fun hfree => htake hfree.1 hfree.2⟩
      obtain ⟨-, hpool, -, hexclusive, -⟩ := hhandled.grants _ rfl nofun
      refine ⟨hpool, fun lease hlease _ => hnew packet.requestedIp ⟨lease, hlease, ?_⟩⟩
      exact hexclusive lease.mac ⟨lease, hlease, rfl⟩
  · next ip lease hsome =>
    obtain ⟨hlease, hmac⟩ := getLeaseByMac_eq_some hsome
    refine iff_of_true (h.regrant hlease hmac rfl (h.taken ip lease hlease) rfl rfl rfl) ?_
    rw [hsome]
    exact .inl rfl

theorem Exclusive.processRequest_iff (h : Exclusive p leased) :
    Handled p leased packet (processRequest p leased packet) ↔
      (packet.serverIdentifier = p.ipAddress ∨ ∀ lease ∈ leased.lookup
            (if packet.ciaddr.isUnspecified then packet.requestedIp else packet.ciaddr),
          lease.mac = packet.chaddr) := by
  unfold DHCPServer.processRequest
  split
  · next hserver =>
    refine iff_of_true ?_ (.inl hserver)
    split
    · next ip lease hsome =>
      obtain ⟨hlease, hmac⟩ := getLeaseByMac_eq_some hsome
      split
      · exact h.refuse
      · exact h.acknowledge hlease hmac
    · exact h.refuse
  · next hserver =>
    rw [or_iff_right hserver]
    split
    · split
      · next hnone =>
        rw [hnone]
        exact iff_of_true h.silent nofun
      · next lease hlease =>
        rw [h.ip _ lease hlease, if_pos (maskedAddrAreEqual_self _ _), hlease]
        refine ⟨fun hhandled lease' hlease' => ?_, fun hmac => h.acknowledge hlease (hmac lease rfl)⟩
        cases hlease'
        exact client_of_acknowledge rfl hhandled
    · split
      · next lease hlease =>
        rw [hlease]
        refine ⟨fun hhandled lease' hlease' => ?_, fun hmac => h.acknowledge hlease (hmac lease rfl)⟩
        cases hlease'
        exact client_of_acknowledge rfl hhandled
      · next hnone =>
        rw [hnone]
        exact iff_of_true h.refuse nofun

theorem Exclusive.processDHCPMessage_iff (h : Exclusive p leased) :
    Handled p leased packet (processDHCPMessage p leased packet) ↔ Proper p leased packet := by
  unfold DHCPServer.processDHCPMessage Proper
  split
  · next hinterface => exact iff_of_true h.silent (by simp [hinterface])
  · next hinterface =>
    rw [Bool.or_eq_true, decide_eq_true_iff, or_iff_right hinterface]
    cases hop : packet.op with
    | BOOTREPLY => exact iff_of_true h.silent rfl
    | BOOTREQUEST =>
      cases htype : packet.messageType with
      | DHCPDISCOVER => exact h.processDiscover_iff.trans decide_eq_true_iff.symm
      | DHCPREQUEST => exact h.processRequest_iff.trans decide_eq_true_iff.symm
      | _ => exact iff_of_true h.silent rfl

theorem exclusive_empty : Exclusive p OrderedMap.empty := by
  refine ⟨nofun, nofun, nofun, ?_⟩
  rintro _ _ _ ⟨lease, hlease, -⟩
  cases hlease

/-- As long as all messages are proper, the leases stay apart, and the next message keeps them so
just when it is proper too. -/
theorem leases_exclusive {history : List (DHCPMessage × DHCPLeased × Option DHCPReply)}
    (hrun : Run (· = OrderedMap.empty) (StepOf (traced (handle p))) history leased)
    (hproper : Always (fun _ l => Proper p l.2.1 l.1) history) :
    Exclusive p leased ∧
      ∀ packet, Handled p leased packet (processDHCPMessage p leased packet) ↔
        Proper p leased packet := by
  have h : Exclusive p leased := by
    refine @Run.invariant_of_always _ _ _ _ _ (fun _ leased => Exclusive p leased) _ _ hrun hproper
      (fun _ hinit => hinit ▸ exclusive_empty) ?_
    rintro history leased ⟨packet, before, o⟩ leased' - h hstep hproper
    obtain ⟨rfl, hhandle⟩ := traced_eq_some.mp hstep
    have hhandled := h.processDHCPMessage_iff.mpr hproper
    rw [Option.some.inj hhandle] at hhandled
    exact hhandled.exclusive
  exact ⟨h, fun _ => h.processDHCPMessage_iff⟩

def sampleParameters : DHCPParameters := ⟨1, 0x0A000001, 0xFFFFFF00, 0x0A000001, 0x0A000002, 2, 3600⟩

/-- What a client without an address broadcasts. -/
def sampleDiscover (chaddr : MACAddress) (requestedIp : IPv4Address) : DHCPMessage :=
  ⟨1, .BOOTREQUEST, 7, true, 0, 0, chaddr, .DHCPDISCOVER, requestedIp, 0⟩

/-- Two clients get the two addresses of the pool. -/
theorem leases_exclusive_of_discovers : ∃ history leased,
    Run (· = OrderedMap.empty) (StepOf (traced (handle sampleParameters))) history leased ∧
      history.length = 2 ∧ Exclusive sampleParameters leased := by
  obtain ⟨leased, history, hrun, hlength, hproper⟩ := exists_run_of_execute
    (traced (handle sampleParameters)) OrderedMap.empty
    [sampleDiscover 1 0, sampleDiscover 2 0x0A000003]
    (fun _ history => history.length = 2 ∧
      Always (fun _ l => Proper sampleParameters l.2.1 l.1) history) (by decide +kernel)
  exact ⟨history, leased, hrun, hlength, (leases_exclusive hrun hproper).1⟩

/-- A client asks for the address of another one, and it is offered to it. -/
theorem offered_while_held : ∃ history leased,
    Run (· = OrderedMap.empty) (StepOf (traced (handle sampleParameters))) history leased ∧
      Holds leased 0x0A000002 1 ∧
      ∃ reply ∈ (processDHCPMessage sampleParameters leased (sampleDiscover 2 0x0A000002)).2,
        reply.messageType = .DHCPOFFER ∧ reply.yiaddr = 0x0A000002 ∧ reply.chaddr = 2 := by
  obtain ⟨leased, history, hrun, hheld, hoffer⟩ := exists_run_of_execute
    (traced (handle sampleParameters)) OrderedMap.empty [sampleDiscover 1 0]
    (fun leased _ => Holds leased 0x0A000002 1 ∧
      ∃ reply ∈ (processDHCPMessage sampleParameters leased (sampleDiscover 2 0x0A000002)).2,
        reply.messageType = .DHCPOFFER ∧ reply.yiaddr = 0x0A000002 ∧ reply.chaddr = 2)
    (by decide +kernel)
  exact ⟨history, leased, hrun, hheld, hoffer⟩

end inet.DHCPServer
