import LoRaInet.Kernel.FutureEventSet
import LoRaInet.NetworkLayer.Common.InterfaceEntry

namespace inet

open omnetpp

inductive PortRole where
  | ALTERNATE
  | NOTASSIGNED
  | DISABLED
  | DESIGNATED
  | BACKUP
  | ROOT
  deriving DecidableEq

inductive PortState where
  | DISCARDING
  | LEARNING
  | FORWARDING
  deriving DecidableEq

/-- What the spanning tree protocols keep for a port. The unsigned fields are below `2 ^ 32`,
which only the sums of costs depend on. -/
structure Ieee8021dInterfaceData where
  priority : ℕ
  linkCost : ℕ
  edge : Bool
  state : PortState
  role : PortRole
  rootPriority : ℕ
  rootAddress : MACAddress
  rootPathCost : ℕ
  bridgePriority : ℕ
  bridgeAddress : MACAddress
  portPriority : ℕ
  portNum : ℕ
  age : SimTime
  maxAge : SimTime
  fdWhile : SimTime
  fwdDelay : SimTime
  helloTime : SimTime
  TCWhile : SimTime
  lostBPDU : ℕ
  nextUpgrade : SimTime

/-- `-1` as an `unsigned int`. -/
def unsignedMax : ℕ := 2 ^ 32 - 1

def Ieee8021dInterfaceData.PortInfo : Ieee8021dInterfaceData where
  priority := 0
  linkCost := 1
  edge := false
  state := .FORWARDING
  role := .NOTASSIGNED
  rootPriority := 0
  rootAddress := MACAddress.UNSPECIFIED_ADDRESS
  rootPathCost := 0
  bridgePriority := 0
  bridgeAddress := MACAddress.UNSPECIFIED_ADDRESS
  portPriority := 0
  portNum := unsignedMax
  age := 0
  maxAge := 0
  fdWhile := 0
  fwdDelay := 0
  helloTime := 0
  TCWhile := 0
  lostBPDU := 0
  nextUpgrade := 0

/-- Sums of `unsigned int` values. -/
def addUnsigned (a b : ℕ) : ℕ := (a + b) % 2 ^ 32

theorem addUnsigned_of_lt {a b : ℕ} (h : a + b < 2 ^ 32) : addUnsigned a b = a + b :=
  Nat.mod_eq_of_lt h

open omnetpp

structure BPDU where
  protocolIdentifier : ℕ
  protocolVersionIdentifier : ℕ
  bpduType : ℕ
  tcaFlag : Bool
  tcFlag : Bool
  rootAddress : MACAddress
  rootPriority : ℕ
  rootPathCost : ℕ
  bridgeAddress : MACAddress
  bridgePriority : ℕ
  portNum : ℕ
  portPriority : ℕ
  messageAge : SimTime
  maxAge : SimTime
  helloTime : SimTime
  forwardDelay : SimTime
  deriving DecidableEq

end inet
