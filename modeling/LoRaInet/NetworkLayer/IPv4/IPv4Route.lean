import Mathlib.Data.Int.Notation
import Mathlib.Data.List.Basic
import Mathlib.Data.Nat.Notation

namespace inet

abbrev IPv4Address := BitVec 32

namespace IPv4Address

def UNSPECIFIED_ADDRESS : IPv4Address := 0

variable (a : IPv4Address)

def isUnspecified : Bool := a = 0

def str (addr : IPv4Address) : String :=
  if isUnspecified addr then "<unspec>"
  else s!"{(addr >>> 24 &&& 255).toNat}.{(addr >>> 16 &&& 255).toNat}.{(addr >>> 8 &&& 255).toNat}.{(addr &&& 255).toNat}"

def isLimitedBroadcastAddress : Bool := a = 0xFFFFFFFF

def isMulticast : Bool := a &&& 0xF0000000 = 0xE0000000

/-- The length up to the lowest bit that is set. -/
def getNetmaskLength : ℕ :=
  match (List.range 32).find? fun i => a.getLsbD i with
  | some i => 32 - i
  | none => 0

def makeNetmask (length : ℕ) : IPv4Address :=
  if 32 ≤ length then 0xFFFFFFFF else ~~~((0xFFFFFFFF : BitVec 32) >>> length)

def isValidNetmask : Bool := a = makeNetmask (getNetmaskLength a)

def maskedAddrAreEqual (addr1 addr2 netmask : IPv4Address) : Bool :=
  (addr1 ^^^ addr2) &&& netmask = 0

def makeBroadcastAddress (a netmask : IPv4Address) : IPv4Address := a ||| ~~~netmask

end IPv4Address


inductive SourceType where
  | MANUAL
  | IFACENETMASK
  | ROUTER_ADVERTISEMENT
  | OWN_ADV_PREFIX
  | ICMP_REDIRECT
  | RIP
  | OSPF
  | BGP
  | ZEBRA
  | MANET
  | MANET2
  | DYMO
  | AODV
  deriving DecidableEq

/-- The interface of a route is given by its id. -/
structure IPv4Route where
  dest : IPv4Address := .UNSPECIFIED_ADDRESS
  netmask : IPv4Address := .UNSPECIFIED_ADDRESS
  gateway : IPv4Address := .UNSPECIFIED_ADDRESS
  interfacePtr : Option ℤ := none
  sourceType : SourceType := .MANUAL
  adminDist : ℕ := 255
  metric : ℤ := 0
  deriving DecidableEq

end inet
