import LoRaInet.NetworkLayer.IPv4.IPv4Route

namespace inet

abbrev MACAddress := BitVec 48

namespace MACAddress

def UNSPECIFIED_ADDRESS : MACAddress := 0

def BROADCAST_ADDRESS : MACAddress := 0xFFFFFFFFFFFF

def STP_MULTICAST_ADDRESS : MACAddress := 0x0180C2000000

def isUnspecified (a : MACAddress) : Bool := a = 0

def isMulticast (a : MACAddress) : Bool := a.getLsbD 40

/-- The low 23 bits of the group after `01-00-5e`. -/
def makeMulticastAddress (addr : IPv4Address) : MACAddress :=
  0x01005E000000 ||| (addr &&& 0x007FFFFF).setWidth 48

def compareTo (a other : MACAddress) : Int :=
  if a.toNat < other.toNat then -1 else if a = other then 0 else 1

end MACAddress


/-- An interface with its IPv4 data. Fields that a use does not set have the values
of a new interface. -/
structure InterfaceEntry where
  mtu : ℕ
  ipAddress : IPv4Address
  interfaceId : ℤ := -1
  isBroadcast : Bool := false
  macAddress : MACAddress := MACAddress.UNSPECIFIED_ADDRESS
  netmask : IPv4Address := 0xFFFFFFFF
  deriving DecidableEq

namespace InterfaceEntry

def getNetworkBroadcastAddress (ie : InterfaceEntry) : IPv4Address :=
  ie.ipAddress.makeBroadcastAddress ie.netmask

end InterfaceEntry

end inet
