import LoRaInet.LinkLayer.Ieee8021d.Common.Ieee8021dBPDU

namespace inet

open omnetpp

/-- A bridge with `n` ports. -/
structure STP (n : ℕ) where
  bridgePriority : ℕ
  bridgeAddress : MACAddress
  maxAge : SimTime
  helloTime : SimTime
  forwardDelay : SimTime
  ports : Fin n → Ieee8021dInterfaceData
  isRoot : Bool
  rootPort : ℕ
  desPorts : List (Fin n)
  rootPathCost : ℕ
  rootPriority : ℕ
  rootAddress : MACAddress
  currentMaxAge : SimTime
  currentFwdDelay : SimTime
  currentHelloTime : SimTime
  currentBridgePriority : ℕ
  topologyChangeNotification : Bool
  topologyChangeRecvd : Bool

/-- What a bridge asks of the modules around it. -/
inductive StpOutput (n : ℕ) where
  | send (dest : MACAddress) (switchPort : Fin n) (bpdu : BPDU)
  | setAgingTime (t : SimTime)
  | resetDefaultAging

namespace STP

def compareBridgeIDs (aPriority : ℕ) (aAddress : MACAddress) (bPriority : ℕ)
    (bAddress : MACAddress) : Int :=
  if aPriority < bPriority then 1
  else if aPriority > bPriority then -1
  else if aAddress.compareTo bAddress = -1 then 1
  else if aAddress.compareTo bAddress = 1 then -1
  else 0

def comparePortIDs (aPriority aNum bPriority bNum : ℕ) : Int :=
  if aPriority < bPriority then 1
  else if aPriority > bPriority then -1
  else if aNum < bNum then 1
  else if aNum > bNum then -1
  else 0

def comparePorts (portA portB : Ieee8021dInterfaceData) : Int :=
  let root := compareBridgeIDs portA.rootPriority portA.rootAddress portB.rootPriority portB.rootAddress
  if root ≠ 0 then root
  else if portA.rootPathCost < portB.rootPathCost then 1
  else if portA.rootPathCost > portB.rootPathCost then -1
  else
    let bridge := compareBridgeIDs portA.bridgePriority portA.bridgeAddress portB.bridgePriority
      portB.bridgeAddress
    if bridge ≠ 0 then bridge
    else comparePortIDs portA.portPriority portA.portNum portB.portPriority portB.portNum

variable {n : ℕ} (s : STP n)

def setPort (i : Fin n) (port : Ieee8021dInterfaceData) : STP n :=
  { s with ports := Function.update s.ports i port }

variable (portNum : Fin n)

def initInterfacedata : STP n :=
  s.setPort portNum { s.ports portNum with
      role := .NOTASSIGNED
      state := .DISCARDING
      rootPriority := s.bridgePriority
      rootAddress := s.bridgeAddress
      rootPathCost := 0
      age := 0
      bridgePriority := s.bridgePriority
      bridgeAddress := s.bridgeAddress
      portPriority := unsignedMax
      portNum := unsignedMax
      lostBPDU := 0 }

def initPortTable : STP n := (List.finRange n).foldl initInterfacedata s

/-- The configuration BPDU that `generateBPDU` fills in. -/
def configBPDU (port : Fin n) (tcFlag tcaFlag : Bool) : BPDU where
  protocolIdentifier := 0
  protocolVersionIdentifier := 0
  bpduType := 0
  tcFlag := s.topologyChangeNotification && (s.isRoot || tcFlag)
  tcaFlag := s.topologyChangeNotification && !(s.isRoot || tcFlag) && tcaFlag
  rootAddress := s.rootAddress
  rootPriority := s.rootPriority
  rootPathCost := s.rootPathCost
  bridgeAddress := s.bridgeAddress
  bridgePriority := s.bridgePriority
  portNum := port
  portPriority := (s.ports port).priority
  messageAge := 0
  maxAge := s.currentMaxAge
  helloTime := s.currentHelloTime
  forwardDelay := s.currentFwdDelay

def generateBPDU (port : Fin n)
    (address : MACAddress := MACAddress.STP_MULTICAST_ADDRESS) (tcFlag : Bool := false)
    (tcaFlag : Bool := false) : StpOutput n :=
  .send address port (s.configBPDU port tcFlag tcaFlag)

/-- The vector that a BPDU carries to a port, with the cost of its link added. -/
def xBpdu (port : Ieee8021dInterfaceData) (bpdu : BPDU) : Ieee8021dInterfaceData :=
  { Ieee8021dInterfaceData.PortInfo with
    rootPriority := bpdu.rootPriority
    rootAddress := bpdu.rootAddress
    rootPathCost := addUnsigned bpdu.rootPathCost port.linkCost
    bridgePriority := bpdu.bridgePriority
    bridgeAddress := bpdu.bridgeAddress
    portPriority := bpdu.portPriority
    portNum := bpdu.portNum }

def setSuperiorBPDU (bpdu : BPDU) : STP n :=
  if bpdu.messageAge ≥ bpdu.maxAge then s
  else
    s.setPort portNum { s.ports portNum with
        rootPriority := bpdu.rootPriority
        rootAddress := bpdu.rootAddress
        rootPathCost := addUnsigned bpdu.rootPathCost (s.ports portNum).linkCost
        bridgePriority := bpdu.bridgePriority
        bridgeAddress := bpdu.bridgeAddress
        portPriority := bpdu.portPriority
        portNum := bpdu.portNum
        maxAge := bpdu.maxAge
        fwdDelay := bpdu.forwardDelay
        helloTime := bpdu.helloTime
        age := 0 }

def isSuperiorBPDU (bpdu : BPDU) : Bool × STP n :=
  let result := comparePorts (s.ports portNum) (xBpdu (s.ports portNum) bpdu)
  if result > 0 then (false, s)
  else if result < 0 then
    let s := s.setPort portNum { s.ports portNum with fdWhile := 0, state := .DISCARDING }
    (true, s.setSuperiorBPDU portNum bpdu)
  else (true, s.setSuperiorBPDU portNum bpdu)

def checkRootEligibility : Bool :=
  (List.finRange n).all fun i => !decide (compareBridgeIDs (s.ports i).rootPriority
    (s.ports i).rootAddress s.bridgePriority s.bridgeAddress > 0)

def setAllDesignated : STP n :=
  { s with
    ports := fun i =>
      if (s.ports i).role = .DISABLED then s.ports i else { s.ports i with role := .DESIGNATED }
    desPorts := (List.finRange n).filter fun i => (s.ports i).role ≠ .DISABLED }

/-- One round of the loop that looks for the root port. -/
def betterRootPort (ports : Fin n → Ieee8021dInterfaceData) (best i : Fin n) : Fin n :=
  if comparePorts (ports i) (ports best) > 0 then i
  else if comparePorts (ports i) (ports best) < 0 then best
  else if (ports i).priority < (ports best).priority then i
  else best

/-- The loop looks at port `0` before any other, which only a bridge with ports has. -/
def bestRootPort (ports : Fin n → Ieee8021dInterfaceData) (port0 : Fin n) : Fin n :=
  (List.finRange n).foldl (betterRootPort ports) port0

def selectRootPort (port0 : Fin n) : STP n :=
  let xRootPort := bestRootPort s.ports port0
  let best := s.ports xRootPort
  { s with
    ports := fun i =>
      { s.ports i with role := if i = xRootPort then .ROOT else .NOTASSIGNED }
    desPorts := []
    topologyChangeNotification :=
      decide (s.rootPort ≠ xRootPort) || s.topologyChangeNotification
    rootPort := xRootPort
    rootPathCost := best.rootPathCost
    rootAddress := best.rootAddress
    rootPriority := best.rootPriority
    currentMaxAge := best.maxAge
    currentFwdDelay := best.fwdDelay
    currentHelloTime := best.helloTime }

/-- What the bridge itself would offer on a port. -/
def bridgeGlobal (i : Fin n) : Ieee8021dInterfaceData :=
  { Ieee8021dInterfaceData.PortInfo with
    bridgePriority := s.bridgePriority
    bridgeAddress := s.bridgeAddress
    rootAddress := s.rootAddress
    rootPriority := s.rootPriority
    portPriority := (s.ports i).priority
    portNum := i
    rootPathCost := addUnsigned s.rootPathCost (s.ports i).linkCost }

def designatedRole (i : Fin n) : PortRole :=
  let port := s.ports i
  if port.role = .ROOT ∨ port.role = .DISABLED then port.role
  else if comparePorts (s.bridgeGlobal i) port > 0 then .DESIGNATED
  else if comparePorts (s.bridgeGlobal i) port < 0 then .ALTERNATE
  else port.role

def selectDesignatedPorts : STP n :=
  { s with
    ports := fun i => { s.ports i with role := s.designatedRole i }
    desPorts := (List.finRange n).filter fun i =>
      (s.ports i).role ≠ .ROOT ∧ (s.ports i).role ≠ .DISABLED ∧
        comparePorts (s.bridgeGlobal i) (s.ports i) > 0 }

def tryRoot : STP n :=
  if s.checkRootEligibility then
    { ({ s with isRoot := true } : STP n).setAllDesignated with
      rootPriority := s.bridgePriority
      rootAddress := s.bridgeAddress
      rootPathCost := 0
      currentHelloTime := s.helloTime
      currentMaxAge := s.maxAge
      currentFwdDelay := s.forwardDelay }
  else if h : 0 < n then
    (({ s with isRoot := false } : STP n).selectRootPort ⟨0, h⟩).selectDesignatedPorts
  else s -- a bridge without ports is eligible

def handleBPDU (arrivalGate : Fin n) (bpdu : BPDU) : STP n × List (StpOutput n) :=
  let s :=
    if bpdu.tcaFlag then
      { s with topologyChangeRecvd := true, topologyChangeNotification := false }
    else s
  let (superior, s) := s.isSuperiorBPDU arrivalGate bpdu
  let role := (s.ports arrivalGate).role
  let outputs :=
    if !superior then
      if role = .DESIGNATED then [s.generateBPDU arrivalGate] else []
    else if role = .ROOT then
      if bpdu.tcFlag then
        .setAgingTime s.currentFwdDelay ::
          s.desPorts.map fun i => s.generateBPDU i MACAddress.STP_MULTICAST_ADDRESS true false
      else .resetDefaultAging :: s.desPorts.map fun i => s.generateBPDU i
    else []
  (s.tryRoot, outputs)

def start : STP n :=
  let s := s.initPortTable
  ({ s with
    currentBridgePriority := s.bridgePriority
    isRoot := true
    topologyChangeNotification := true
    topologyChangeRecvd := true
    rootPriority := s.bridgePriority
    rootAddress := s.bridgeAddress
    rootPathCost := 0
    rootPort := 0
    currentHelloTime := s.helloTime
    currentMaxAge := s.maxAge
    currentFwdDelay := s.forwardDelay
    helloTime := 0 } : STP n).setAllDesignated

end STP

end inet
