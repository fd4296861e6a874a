import LoRaInet.Common.ReassemblyBuffer
import LoRaInet.Container.Basic
import LoRaInet.NetworkLayer.IPv6.Fragmentation
import LoRaInet.Transition.Run

open omnetpp container interval transition

namespace inet

/-- `IPv6FragmentHeader`. -/
structure IPv6FragmentHeader where
  fragmentOffset : BitVec 16
  moreFragments : Bool
  identification : uint32
  deriving DecidableEq

namespace IPv6FragBuf

open IPv6Datagram IPv6ExtensionHeader

structure Key where
  id : uint32
  src : IPv6Address
  dest : IPv6Address
  deriving DecidableEq

structure DatagramBuffer (P : Type) where
  buf : ReassemblyBuffer
  datagram : Option (IPv6Packet P)
  createdAt : SimTime

end IPv6FragBuf

structure IPv6FragBuf (P : Type) where
  bufs : Map IPv6FragBuf.Key (IPv6FragBuf.DatagramBuffer P)

namespace IPv6FragBuf

open IPv6Datagram IPv6ExtensionHeader

variable {P : Type}

def new : IPv6FragBuf P where
  bufs := ∅

/-- The first header with the type of a fragment header, when it is one. -/
def findFragmentHeader (extensionHeaders : List IPv6ExtensionHeader) : Option IPv6FragmentHeader :=
  match extensionHeaders.find? fun eh => eh.getExtensionType = IP_PROT_IPv6EXT_FRAGMENT with
  | some (.fragment fragmentOffset moreFragments identification) =>
    some ⟨fragmentOffset, moreFragments, identification⟩
  | _ => none

def keyOf (datagram : IPv6Packet P) (fh : IPv6FragmentHeader) : Key :=
  ⟨fh.identification, datagram.srcAddress, datagram.destAddress⟩

variable (b : IPv6FragBuf P)

/-- The buffer of the key, new for the first fragment of a datagram. -/
def bufferOf (key : Key) (now : SimTime) : DatagramBuffer P :=
  (b.bufs.lookup key).getD { buf := .new, datagram := none, createdAt := now }

/-- What a call returns, and the error that it sends. -/
structure Added (P : Type) where
  ret : Option (IPv6Packet P) := none
  error : Option ICMPv6Error := none
  deriving DecidableEq

/-- The iterator of a new buffer is the end of the map, which cannot be erased. -/
def addFragment (b : IPv6FragBuf P) (datagram : IPv6Packet P) (fh : IPv6FragmentHeader)
    (now : SimTime) : Except Fault (IPv6FragBuf P × Added P) := do
  let key := keyOf datagram fh
  let buf := b.bufferOf key now
  let fragmentLength ← calculateFragmentLength datagram
  let offset := fh.fragmentOffset.toNat
  if fh.moreFragments ∧ fragmentLength % 8 ≠ 0 then
    .ok (⟨b.bufs.insert key buf⟩, { error := some .ICMPv6_PARAMETER_PROBLEM })
  else if offset + fragmentLength > 65535 then
    .ok (⟨b.bufs.insert key buf⟩, { error := some .ICMPv6_PARAMETER_PROBLEM })
  else
    let (reassembly, isComplete) := buf.buf.addFragment offset
      ((offset + fragmentLength) % 65536).toNat (!fh.moreFragments)
    let stored := if offset = 0 then some datagram else buf.datagram
    if isComplete then
      match stored with
      | none => .error (.cRuntimeError "Model error: completed datagram without datagram pointer.")
      | some ret =>
        if (b.bufs.lookup key).isNone then .error .outOfRange
        else
          let extensionHeader := removeExtensionHeader IP_PROT_IPv6EXT_FRAGMENT ret.extensionHeader
          let ret := { ret with
            extensionHeader := extensionHeader
            byteLength :=
              calculateUnfragmentableHeaderByteLength extensionHeader + reassembly.getTotalLength }
          .ok (⟨b.bufs.erase key⟩, { ret := some ret })
    else
      .ok (⟨b.bufs.insert key { buf with buf := reassembly, datagram := stored }⟩, {})

/-- Returns the datagrams for which an error is sent as well. -/
def purgeStaleFragments (lastupdate : SimTime) : IPv6FragBuf P × List (IPv6Packet P) :=
  (⟨b.bufs.filter fun _ buf => !decide (buf.createdAt < lastupdate)⟩,
    (b.bufs.entries.filter fun e => e.2.createdAt < lastupdate).filterMap (·.2.datagram))

inductive Event (P : Type) where
  | addFragment (datagram : IPv6Packet P) (fh : IPv6FragmentHeader) (now : SimTime)
  | purgeStaleFragments (lastupdate : SimTime)

inductive Output (P : Type) where
  | added (added : Added P)
  | expired (datagrams : List (IPv6Packet P))
  deriving DecidableEq

/-- A call that throws is no step. -/
def step : Event P → Option (IPv6FragBuf P × Output P)
  | .addFragment datagram fh now =>
    (b.addFragment datagram fh now).toOption.map fun (b, added) => (b, .added added)
  | .purgeStaleFragments lastupdate =>
    let (b, datagrams) := b.purgeStaleFragments lastupdate
    some (b, .expired datagrams)

/-- When the buffer of a key was created, and the fragments received since then, if there is one. -/
def received (key : Key) : List (Event P × Output P) → Option (SimTime × List (IPv6Packet P))
  | [] => none
  | (.addFragment datagram fh now, output) :: history =>
    if keyOf datagram fh = key then
      match output with
      | .added ⟨some _, _⟩ => none
      | _ =>
        match received key history with
        | none => some (now, [datagram])
        | some (createdAt, datagrams) => some (createdAt, datagram :: datagrams)
    else received key history
  | (.purgeStaleFragments lastupdate, _) :: history =>
    match received key history with
    | none => none
    | some (createdAt, datagrams) =>
      if createdAt < lastupdate then none else some (createdAt, datagrams)

end IPv6FragBuf

end inet
