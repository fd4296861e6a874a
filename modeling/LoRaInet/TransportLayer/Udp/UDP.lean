import LoRaInet.Container.Basic
import LoRaInet.Kernel.FutureEventSet
import LoRaInet.LoRa.Messages
import LoRaInet.Transition.Run

namespace inet.L3Address

/-- Addresses of other types than IPv6 have a word of their own for the type. -/
def isUnspecified (a : L3Address) : Bool := a.lo = 0 ∧ (a.hi = 0 ∨ a.hi >>> 48 = 0x8000)

def ofIPv4 (addr : BitVec 32) : L3Address := ⟨0x8000000000000001, addr.setWidth 64⟩

def unspecified : L3Address := ⟨0x8000000000000000, 0⟩

end inet.L3Address

open omnetpp container

namespace inet

structure SockDesc where
  sockId : ℤ
  appGateIndex : ℤ
  isBound : Bool
  onlyLocalPortIsSet : Bool
  reuseAddr : Bool
  localAddr : L3Address
  remoteAddr : L3Address
  localPort : ℤ
  remotePort : ℤ
  isBroadcast : Bool
  multicastOutputInterfaceId : ℤ
  multicastLoop : Bool
  ttl : ℤ
  typeOfService : BitVec 8

/-- The lists of `socketsByPortMap` refer to the sockets by their ids. -/
structure UDP where
  socketsByIdMap : Map ℤ SockDesc
  socketsByPortMap : Map ℤ (List ℤ)
  lastEphemeralPort : ℕ

namespace UDP

def EPHEMERAL_PORTRANGE_START : ℕ := 1024

def EPHEMERAL_PORTRANGE_END : ℕ := 5000

def initial : UDP := ⟨∅, ∅, EPHEMERAL_PORTRANGE_START⟩

def nextPort (port : ℕ) : ℕ :=
  if port + 1 = EPHEMERAL_PORTRANGE_END then EPHEMERAL_PORTRANGE_START else port + 1

variable (s : UDP)

def portInUse (port : ℕ) : Bool := (s.socketsByPortMap.lookup (port : ℤ)).isSome

/-- The rounds of the search that are left. -/
def searchPort (searchUntil : ℕ) : ℕ → ℕ → Except Fault ℕ
  | 0, _ => .error (.cRuntimeError "searchPort: no rounds left")
  | rounds + 1, port =>
    if s.portInUse port then
      if port = searchUntil then
        .error (.cRuntimeError s!"Ephemeral port range {EPHEMERAL_PORTRANGE_START}..{EPHEMERAL_PORTRANGE_END} exhausted, all ports occupied")
      else searchPort searchUntil rounds (nextPort port)
    else .ok port

def getEphemeralPort : Except Fault (ℕ × UDP) := do
  let port ← s.searchPort s.lastEphemeralPort (EPHEMERAL_PORTRANGE_END - EPHEMERAL_PORTRANGE_START)
    (nextPort s.lastEphemeralPort)
  return (port, { s with lastEphemeralPort := port })

/-- The sockets of a port, in the order of their list. -/
def socketsAt (port : ℤ) : List SockDesc :=
  ((s.socketsByPortMap.lookup port).getD []).filterMap s.socketsByIdMap.lookup

def pushSocket (port sockId : ℤ) : UDP :=
  { s with
    socketsByPortMap :=
      s.socketsByPortMap.insert port ((s.socketsByPortMap.lookup port).getD [] ++ [sockId]) }

/-- The list of the port stays, empty as it may be. -/
def removeSocket (port sockId : ℤ) : UDP :=
  { s with
    socketsByPortMap :=
      s.socketsByPortMap.insert port
        (((s.socketsByPortMap.lookup port).getD []).filter (· ≠ sockId)) }

def setSocket (sd : SockDesc) : UDP :=
  { s with socketsByIdMap := s.socketsByIdMap.insert sd.sockId sd }

variable (sockId gateIndex : ℤ) (localAddr : L3Address) (localPort : ℤ)

def createSocket : Except Fault (SockDesc × UDP) := do
  let (localPort, s) ← if localPort = -1 then do
      let (port, s) ← s.getEphemeralPort
      pure ((port : ℤ), s)
    else pure (localPort, s)
  let sd := {
    sockId := sockId
    appGateIndex := gateIndex
    isBound := false
    onlyLocalPortIsSet := localAddr.isUnspecified
    reuseAddr := false
    localAddr := localAddr
    remoteAddr := .unspecified
    localPort := localPort
    remotePort := -1
    isBroadcast := false
    multicastOutputInterfaceId := -1
    multicastLoop := true
    ttl := -1
    typeOfService := 0 }
  return (sd, (s.setSocket sd).pushSocket localPort sockId)

/-- The port is a `ushort` here: an ephemeral port is looked for under 65535. -/
def findFirstSocketByLocalAddress : Option SockDesc :=
  (s.socketsAt (localPort % 65536)).find? fun sd =>
    sd.localAddr.isUnspecified || sd.localAddr = localAddr

/-- A socket that exists already keeps the flag it was created with. -/
def bindSocket (sd : SockDesc) (localAddr : L3Address) (localPort : ℤ) : UDP :=
  if localPort ≠ -1 ∧ sd.localPort ≠ localPort then
    ((s.removeSocket sd.localPort sd.sockId).setSocket
      { sd with isBound := true, localAddr := localAddr, localPort := localPort }).pushSocket
        localPort sd.sockId
  else s.setSocket { sd with isBound := true, localAddr := localAddr }

def bind (sockId gateIndex : ℤ) (localAddr : L3Address) (localPort : ℤ) : Except Fault UDP :=
  if sockId = -1 then .error (.cRuntimeError "sockId in BIND message not filled in")
  else if localPort < -1 ∨ 65535 < localPort then
    .error (.cRuntimeError s!"bind: invalid local port number {localPort}")
  else
    let existing := s.findFirstSocketByLocalAddress localAddr localPort
    match s.socketsByIdMap.lookup sockId with
    | some sd =>
      if existing.any fun existing => !sd.reuseAddr || !existing.reuseAddr then
        .error (.cRuntimeError "bind: local address/port already taken")
      else if sd.isBound then
        .error (.cRuntimeError s!"bind: socket is already bound (sockId={sockId})")
      else .ok (s.bindSocket sd localAddr localPort)
    | none =>
      if existing.isSome then .error (.cRuntimeError "bind: local address/port already taken")
      else do
        let (sd, s) ← s.createSocket sockId gateIndex localAddr localPort
        return s.setSocket { sd with isBound := true }

def getOrCreateSocket : Except Fault (SockDesc × UDP) :=
  if sockId = -1 then .error (.cRuntimeError "sockId in UDP command not filled in")
  else
    match s.socketsByIdMap.lookup sockId with
    | some sd => .ok (sd, s)
    | none => s.createSocket sockId gateIndex .unspecified (-1)

def connect (sockId gateIndex : ℤ) (remoteAddr : L3Address) (remotePort : ℤ) : Except Fault UDP :=
  if remoteAddr.isUnspecified then .error (.cRuntimeError "connect: unspecified remote address")
  else if remotePort ≤ 0 ∨ 65535 < remotePort then
    .error (.cRuntimeError s!"connect: invalid remote port number {remotePort}")
  else do
    let (sd, s) ← s.getOrCreateSocket sockId gateIndex
    return s.setSocket
      { sd with remoteAddr := remoteAddr, remotePort := remotePort, onlyLocalPortIsSet := false }

def close (sockId : ℤ) : Except Fault UDP :=
  match s.socketsByIdMap.lookup sockId with
  | none =>
    .error (.cRuntimeError s!"socket id={sockId} doesn't exist (already closed?)")
  | some sd =>
    let list := ((s.socketsByPortMap.lookup sd.localPort).getD []).erase sockId
    .ok { s with
      socketsByIdMap := s.socketsByIdMap.erase sockId
      socketsByPortMap :=
        if list.isEmpty then s.socketsByPortMap.erase sd.localPort
        else s.socketsByPortMap.insert sd.localPort list }

/-- The options of a socket. Those about the membership in multicast groups leave the tables as they
are. -/
inductive SocketOption where
  | timeToLive (ttl : ℤ)
  | typeOfService (typeOfService : BitVec 8)
  | broadcast (broadcast : Bool)
  | multicastInterface (interfaceId : ℤ)
  | multicastLoop (loop : Bool)
  | reuseAddress (reuseAddr : Bool)
  | multicastMembership

def SocketOption.set (sd : SockDesc) : SocketOption → SockDesc
  | .timeToLive ttl => { sd with ttl := ttl }
  | .typeOfService tos => { sd with typeOfService := tos }
  | .broadcast isBroadcast => { sd with isBroadcast := isBroadcast }
  | .multicastInterface interfaceId => { sd with multicastOutputInterfaceId := interfaceId }
  | .multicastLoop loop => { sd with multicastLoop := loop }
  | .reuseAddress reuseAddr => { sd with reuseAddr := reuseAddr }
  | .multicastMembership => sd

def setOption (option : SocketOption) : Except Fault UDP := do
  let (sd, s) ← s.getOrCreateSocket sockId gateIndex
  return s.setSocket (option.set sd)

/-- A datagram that is given to IP. -/
structure SentPacket where
  srcAddr : L3Address
  srcPort : ℤ
  destAddr : L3Address
  destPort : ℤ
  multicastLoop : Bool
  ttl : ℤ
  typeOfService : BitVec 8

def sendDown (packet : SentPacket) : Except Fault SentPacket :=
  if packet.destAddr.isUnspecified then
    .error (.cRuntimeError "send: unspecified destination address")
  else if packet.destPort ≤ 0 ∨ 65535 < packet.destPort then
    .error (.cRuntimeError s!"send invalid remote port number {packet.destPort}")
  else .ok packet

def processPacketFromApp (srcAddr destAddr : L3Address) (destPort : ℤ) :
    Except Fault (UDP × SentPacket) := do
  let (sd, s) ← s.getOrCreateSocket sockId gateIndex
  let destAddr := if destAddr.isUnspecified then sd.remoteAddr else destAddr
  let destPort := if destPort = -1 then sd.remotePort else destPort
  if destAddr.isUnspecified ∨ destPort = -1 then
    .error (.cRuntimeError
      "send: missing destination address or port when sending over unconnected port")
  else do
    let srcAddr := if srcAddr.isUnspecified then sd.localAddr else srcAddr
    let packet ← sendDown
      ⟨srcAddr, sd.localPort, destAddr, destPort, sd.multicastLoop, sd.ttl, sd.typeOfService⟩
    return (s, packet)

/-- The last socket with a local address of its own, or else the first one without. -/
def selectSocket (isMatch : SockDesc → Bool) : List SockDesc → Option SockDesc → Option SockDesc
  | [], socketBoundToAnyAddress => socketBoundToAnyAddress
  | sd :: list, socketBoundToAnyAddress =>
    if isMatch sd then
      if sd.localAddr.isUnspecified then selectSocket isMatch list (some sd) else some sd
    else selectSocket isMatch list socketBoundToAnyAddress

def findSocketForUnicastPacket (remoteAddr : L3Address) (remotePort : ℤ) : Option SockDesc :=
  selectSocket (fun sd =>
    sd.onlyLocalPortIsSet ||
      ((sd.remotePort = -1 || sd.remotePort = remotePort) &&
        (sd.localAddr.isUnspecified || sd.localAddr = localAddr) &&
        (sd.remoteAddr.isUnspecified || sd.remoteAddr = remoteAddr)))
    (s.socketsAt localPort).reverse none

/-- What comes from the application. -/
inductive Command where
  | bind (sockId gateIndex : ℤ) (localAddr : L3Address) (localPort : ℤ)
  | connect (sockId gateIndex : ℤ) (remoteAddr : L3Address) (remotePort : ℤ)
  | close (sockId : ℤ)
  | setOption (sockId gateIndex : ℤ) (option : SocketOption)
  | send (sockId gateIndex : ℤ) (srcAddr destAddr : L3Address) (destPort : ℤ)

def processCommand : Command → Except Fault (UDP × Option SentPacket)
  | .bind sockId gateIndex localAddr localPort => do
    let s ← s.bind sockId gateIndex localAddr localPort
    return (s, none)
  | .connect sockId gateIndex remoteAddr remotePort => do
    let s ← s.connect sockId gateIndex remoteAddr remotePort
    return (s, none)
  | .close sockId => do
    let s ← s.close sockId
    return (s, none)
  | .setOption sockId gateIndex option => do
    let s ← s.setOption sockId gateIndex option
    return (s, none)
  | .send sockId gateIndex srcAddr destAddr destPort => do
    let (s, packet) ← s.processPacketFromApp sockId gateIndex srcAddr destAddr destPort
    return (s, some packet)

/-- A command, as long as it is accepted. -/
def handle (command : Command) : Option (UDP × Option SentPacket) :=
  (s.processCommand command).toOption

end UDP

end inet
