import LoRaInet.Container.Basic
import LoRaInet.Kernel.Assert
import LoRaInet.NetworkLayer.Configurator.PackedBits
import Mathlib.Data.List.Sort

open omnetpp container

namespace inet.IPv4NetworkConfigurator

/-- An interface, known by its full path, with the bits of its address and netmask that the
configuration specifies. -/
structure InterfaceInfo where
  interfaceEntry : String
  address : IPv4Address := 0
  addressSpecifiedBits : IPv4Address := 0
  netmask : IPv4Address := 0
  netmaskSpecifiedBits : IPv4Address := 0
  deriving DecidableEq

/-- The merged address and netmask of compatible interfaces. -/
structure MergedInterfaces where
  address : IPv4Address := 0
  addressSpecifiedBits : IPv4Address := 0
  addressIncompatibleBits : IPv4Address := 0
  netmask : IPv4Address := 0
  netmaskSpecifiedBits : IPv4Address := 0
  netmaskIncompatibleBits : IPv4Address := 0

/-- The interfaces that one step configures: each with its template and with what it
becomes. The network is registered as being used. -/
structure ConfiguredGroup where
  networkAddress : IPv4Address
  networkNetmask : IPv4Address
  interfaces : List (InterfaceInfo × InterfaceInfo)

/-- What has been assigned so far. -/
structure AddressAssignment where
  groups : List ConfiguredGroup := []
  assignedInterfaceAddresses : List IPv4Address := []
  assignedAddressToInterfaceEntryMap : Map IPv4Address String := ∅

namespace MergedInterfaces

variable (merged : MergedInterfaces)

/-- The merged bits with those of a candidate. -/
def merge (candidate : InterfaceInfo) : MergedInterfaces :=
  let commonNetmaskSpecifiedBits := merged.netmaskSpecifiedBits &&& candidate.netmaskSpecifiedBits
  let commonAddressSpecifiedBits := merged.addressSpecifiedBits &&& candidate.addressSpecifiedBits
  { address := merged.address ||| candidate.address &&& candidate.addressSpecifiedBits
    addressSpecifiedBits := merged.addressSpecifiedBits ||| candidate.addressSpecifiedBits
    addressIncompatibleBits := merged.addressIncompatibleBits |||
      (merged.address &&& commonAddressSpecifiedBits) ^^^
        (candidate.address &&& commonAddressSpecifiedBits)
    netmask := merged.netmask ||| candidate.netmask &&& candidate.netmaskSpecifiedBits
    netmaskSpecifiedBits := merged.netmaskSpecifiedBits ||| candidate.netmaskSpecifiedBits
    netmaskIncompatibleBits := merged.netmaskIncompatibleBits |||
      (merged.netmask &&& commonNetmaskSpecifiedBits) ^^^
        (candidate.netmask &&& commonNetmaskSpecifiedBits) }

/-- No bit of the netmasks is incompatible, and none of the addresses where the netmask
is 1. -/
def isCompatible : Bool :=
  merged.netmaskIncompatibleBits = 0 &&
    merged.netmask &&& merged.netmaskSpecifiedBits &&& merged.addressIncompatibleBits = 0

/-- 0 means 0.0.0.0, 32 means 255.255.255.255. -/
def minimumNetmaskLength : ℤ :=
  32 - getLeastSignificantBitIndex (merged.netmask &&& merged.netmaskSpecifiedBits) true 32

def maximumNetmaskLength (compatibleInterfaceCount : ℕ) : ℤ :=
  min (min (32 - 1 - getMostSignificantBitIndex (~~~merged.netmask &&& merged.netmaskSpecifiedBits)
        true (-1))
      (32 - 1 - getMostSignificantBitIndex merged.addressIncompatibleBits true (-1)))
    (32 - getRepresentationBitCount compatibleInterfaceCount)

end MergedInterfaces

/-- The interfaces that are compatible with the ones before, and their merged bits. -/
def collectFrom (merged : MergedInterfaces) : List InterfaceInfo → List InterfaceInfo × MergedInterfaces
  | [] => ([], merged)
  | candidateInterface :: interfaces =>
    let newMerged := merged.merge candidateInterface
    if newMerged.isCompatible then
      let collected := collectFrom newMerged interfaces
      (candidateInterface :: collected.1, collected.2)
    else collectFrom merged interfaces

/-- The most constrained interfaces come first. -/
def collectCompatibleInterfaces (interfaces : List InterfaceInfo) :
    List InterfaceInfo × MergedInterfaces :=
  let collected := collectFrom {} interfaces
  (collected.1.insertionSort fun i j => j.addressSpecifiedBits ≤ i.addressSpecifiedBits, collected.2)

def netmaskOfLength (netmaskLength : ℤ) : IPv4Address :=
  ~~~(BitVec.allOnes 32 >>> netmaskLength.toNat)

/-- The greatest packed value of those that agree with the address outside the unspecified
bits; each is given with what it is compared by. -/
def unspecifiedPartMaximum (assigned : List (IPv4Address × IPv4Address))
    (address unspecifiedBits : IPv4Address) : IPv4Address :=
  assigned.foldl (fun maximum entry =>
    if entry.1 &&& ~~~unspecifiedBits = address &&& ~~~unspecifiedBits then
      let assignedUnspecifiedPart := getPackedBits entry.2 unspecifiedBits
      if maximum < assignedUnspecifiedPart then assignedUnspecifiedPart else maximum
    else maximum) 0

section FindNetwork

variable (merged : MergedInterfaces) (netmaskLength : ℤ)

/-- The network address without its unspecified part. -/
def networkAddressBase : IPv4Address :=
  merged.address &&& merged.addressSpecifiedBits &&& netmaskOfLength netmaskLength

def networkAddressUnspecifiedBits : IPv4Address :=
  ~~~merged.addressSpecifiedBits &&& netmaskOfLength netmaskLength

def networkAddressUnspecifiedPartMaximum (groups : List ConfiguredGroup) : IPv4Address :=
  unspecifiedPartMaximum
    (groups.map fun group => (group.networkAddress, group.networkAddress ||| ~~~group.networkNetmask))
    (networkAddressBase merged netmaskLength) (networkAddressUnspecifiedBits merged netmaskLength)

def networkAddressUnspecifiedPartLimit : IPv4Address :=
  getPackedBits (BitVec.allOnes 32) (networkAddressUnspecifiedBits merged netmaskLength) + 1

/-- The network address that is tried for a value of the unspecified part. -/
def networkAddressFor (networkAddressUnspecifiedPart : IPv4Address) : IPv4Address :=
  setPackedBits (networkAddressBase merged netmaskLength)
    (networkAddressUnspecifiedBits merged netmaskLength) networkAddressUnspecifiedPart

variable (assignDisjunctSubnetAddresses : Bool) (assignedInterfaceAddresses : List IPv4Address)
  (compatibleInterfaceCount : ℕ)

/-- The tests that a network address has to pass; `1 << 31` is negative. -/
def isAcceptable (networkAddress : IPv4Address) : Bool :=
  let interfaceCount := assignedInterfaceAddresses.countP fun address =>
    address &&& netmaskOfLength netmaskLength = networkAddress
  !(assignDisjunctSubnetAddresses && interfaceCount ≠ 0) &&
    (interfaceCount + compatibleInterfaceCount : ℤ) ≤ (1#32 <<< (32 - netmaskLength).toNat).toInt

/-- The loop over the values of the unspecified part. All of its bits are set anew in each
round, so that each round starts from the same base. -/
def findNetworkAddress : ℕ → IPv4Address → Option IPv4Address
  | 0, _ => none
  | rounds + 1, networkAddressUnspecifiedPart =>
    let networkAddress := networkAddressFor merged netmaskLength networkAddressUnspecifiedPart
    if isAcceptable netmaskLength assignDisjunctSubnetAddresses assignedInterfaceAddresses
        compatibleInterfaceCount networkAddress then some networkAddress
    else findNetworkAddress rounds (networkAddressUnspecifiedPart + 1)

end FindNetwork

/-- The netmask lengths from the longest to the shortest. -/
def netmaskLengths (minimumNetmaskLength maximumNetmaskLength : ℤ) : List ℤ :=
  (List.range (maximumNetmaskLength + 1 - minimumNetmaskLength).toNat).map fun i : ℕ =>
    maximumNetmaskLength - (i : ℤ)

variable (assignDisjunctSubnetAddresses : Bool)

/-- STEP 3: the first network that is acceptable, with the length of its netmask. -/
def findNetwork (s : AddressAssignment)
    (merged : MergedInterfaces) (compatibleInterfaceCount : ℕ) : Option (ℤ × IPv4Address) :=
  (netmaskLengths merged.minimumNetmaskLength
      (merged.maximumNetmaskLength compatibleInterfaceCount)).findSome? fun netmaskLength =>
    let maximum := networkAddressUnspecifiedPartMaximum merged netmaskLength s.groups
    let limit := networkAddressUnspecifiedPartLimit merged netmaskLength
    (findNetworkAddress merged netmaskLength assignDisjunctSubnetAddresses
      s.assignedInterfaceAddresses compatibleInterfaceCount (limit.toNat + 1 - maximum.toNat)
      maximum).map fun networkAddress => (netmaskLength, networkAddress)

/-- The complete address of an interface, before its test. -/
def completeAddress (networkAddress networkNetmask : IPv4Address)
    (assignedInterfaceAddresses : List IPv4Address) (info : InterfaceInfo) : IPv4Address :=
  let interfaceAddress := info.address &&& ~~~networkNetmask
  let interfaceAddressUnspecifiedBits := ~~~info.addressSpecifiedBits &&& ~~~networkNetmask
  let interfaceAddressUnspecifiedPartMaximum :=
    unspecifiedPartMaximum (assignedInterfaceAddresses.map fun other => (other, other))
      (networkAddress ||| interfaceAddress) interfaceAddressUnspecifiedBits
  networkAddress ||| setPackedBits interfaceAddress interfaceAddressUnspecifiedBits
    (interfaceAddressUnspecifiedPartMaximum + 1)

def InterfaceInfo.configure (info : InterfaceInfo) (address netmask : IPv4Address) : InterfaceInfo :=
  { info with
    address := address
    addressSpecifiedBits := 0xFFFFFFFF
    netmask := netmask
    netmaskSpecifiedBits := 0xFFFFFFFF }

def AddressAssignment.assign (s : AddressAssignment) (address : IPv4Address)
    (interfaceEntry : String) : AddressAssignment :=
  { s with
    assignedInterfaceAddresses := s.assignedInterfaceAddresses ++ [address]
    assignedAddressToInterfaceEntryMap :=
      s.assignedAddressToInterfaceEntryMap.insert address interfaceEntry }

/-- STEP 4: the complete addresses of the interfaces of a group. -/
def configureInterfaces (networkAddress networkNetmask : IPv4Address) :
    List InterfaceInfo → AddressAssignment →
      Except Fault (AddressAssignment × List (InterfaceInfo × InterfaceInfo))
  | [], s => .ok (s, [])
  | info :: interfaces, s =>
    let address := completeAddress networkAddress networkNetmask s.assignedInterfaceAddresses info
    if (s.assignedAddressToInterfaceEntryMap.lookup address).isSome then
      .error (.cRuntimeError s!"Failed to configure unique address for {info.interfaceEntry}. Please refine your parameters and try again!")
    else do
      let (s, configured) ← configureInterfaces networkAddress networkNetmask interfaces
        (s.assign address info.interfaceEntry)
      return (s, (info, info.configure address networkNetmask) :: configured)

def AddressAssignment.register (s : AddressAssignment) (group : ConfiguredGroup) :
    AddressAssignment :=
  { s with groups := s.groups ++ [group] }

def failedToFindNetwork (merged : MergedInterfaces) (minimumNetmaskLength maximumNetmaskLength : ℤ)
    (compatibleInterfaces : List InterfaceInfo) : Fault :=
  match compatibleInterfaces with
  | [] => .outOfRange
  | first :: rest => .cRuntimeError s!"Failed to find address prefix (using {merged.address.str} with specified bits {merged.addressSpecifiedBits.str}) and netmask (length from {minimumNetmaskLength} bits to {maximumNetmaskLength} bits) for interface {first.interfaceEntry} and {rest.length} other interface(s). Please refine your parameters and try again!"

/-- One step of the loop: a group of compatible interfaces is configured, and the rest is
left. -/
def configureGroup (unconfiguredInterfaces : List InterfaceInfo) (s : AddressAssignment) :
    Except Fault (List InterfaceInfo × AddressAssignment) := do
  let compatibleInterfaces := (collectCompatibleInterfaces unconfiguredInterfaces).1
  let merged := (collectCompatibleInterfaces unconfiguredInterfaces).2
  let compatibleInterfaceCount := compatibleInterfaces.length + 2
  let minimumNetmaskLength := merged.minimumNetmaskLength
  let maximumNetmaskLength := merged.maximumNetmaskLength compatibleInterfaceCount
  ASSERT (maximumNetmaskLength < 32) "maximumNetmaskLength < bitSize"
  match findNetwork assignDisjunctSubnetAddresses s merged compatibleInterfaceCount with
  | none =>
    throw (failedToFindNetwork merged minimumNetmaskLength maximumNetmaskLength compatibleInterfaces)
  | some (netmaskLength, networkAddress) =>
    let networkNetmask := netmaskOfLength netmaskLength
    let (s, interfaces) ← configureInterfaces networkAddress networkNetmask compatibleInterfaces s
    return (unconfiguredInterfaces.diff compatibleInterfaces,
      s.register ⟨networkAddress, networkNetmask, interfaces⟩)

/-- The loop over the interfaces of a link. Each step leaves fewer of them. -/
def configureLink (assignDisjunctSubnetAddresses : Bool) :
    ℕ → List InterfaceInfo → AddressAssignment → Except Fault AddressAssignment
  | _, [], s => .ok s
  | 0, _ :: _, _ => .error (.cRuntimeError "assignAddresses(): endless loop")
  | rounds + 1, unconfiguredInterfaces, s => do
    let (unconfiguredInterfaces, s) ←
      configureGroup assignDisjunctSubnetAddresses unconfiguredInterfaces s
    configureLink assignDisjunctSubnetAddresses rounds unconfiguredInterfaces s

/-- The links are lists of the interfaces that they connect. -/
def assignAddresses (links : List (List InterfaceInfo)) : Except Fault AddressAssignment :=
  links.foldlM (fun s interfaces =>
    configureLink assignDisjunctSubnetAddresses interfaces.length interfaces s) {}

end inet.IPv4NetworkConfigurator
