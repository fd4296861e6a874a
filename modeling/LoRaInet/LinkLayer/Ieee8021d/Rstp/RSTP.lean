import LoRaInet.LinkLayer.Ieee8021d.Common.Ieee8021dBPDU

namespace inet

open omnetpp

namespace RSTP

inductive SelfKinds where
  | SELF_HELLOTIME
  | SELF_UPGRADE
  deriving DecidableEq

inductive CompareResult where
  | WORSE_PORT
  | WORSE_SRC
  | WORSE_RPC
  | WORSE_ROOT
  | SIMILAR
  | BETTER_ROOT
  | BETTER_RPC
  | BETTER_SRC
  | BETTER_PORT
  deriving DecidableEq

def CompareResult.val : CompareResult → Int
  | WORSE_PORT => -4
  | WORSE_SRC => -3
  | WORSE_RPC => -2
  | WORSE_ROOT => -1
  | SIMILAR => 0
  | BETTER_ROOT => 1
  | BETTER_RPC => 2
  | BETTER_SRC => 3
  | BETTER_PORT => 4

/-- What a bridge asks of its relay unit and of its address table. -/
inductive Output (n : ℕ) where
  | send (switchPort : Fin n) (frame : BPDU)
  | flush (port : Fin n)
  | copyTable (portA portB : Fin n)

/-- An `unsigned int` passed as an `int`. -/
def toInt (x : ℕ) : Int := (BitVec.ofNat 32 x).toInt

def compareRSTPData (rootPriority1 rootPriority2 : Int) (rootAddress1 rootAddress2 : MACAddress)
    (rootPathCost1 rootPathCost2 bridgePriority1 bridgePriority2 : Int)
    (bridgeAddress1 bridgeAddress2 : MACAddress)
    (portPriority1 portPriority2 portNum1 portNum2 : Int) : CompareResult :=
  if rootPriority1 ≠ rootPriority2 then
    if rootPriority1 < rootPriority2 then .WORSE_ROOT else .BETTER_ROOT
  else if rootAddress1.compareTo rootAddress2 ≠ 0 then
    if rootAddress1.compareTo rootAddress2 < 0 then .WORSE_ROOT else .BETTER_ROOT
  else if rootPathCost1 ≠ rootPathCost2 then
    if rootPathCost1 < rootPathCost2 then .WORSE_RPC else .BETTER_RPC
  else if bridgePriority1 ≠ bridgePriority2 then
    if bridgePriority1 < bridgePriority2 then .WORSE_SRC else .BETTER_SRC
  else if bridgeAddress1.compareTo bridgeAddress2 ≠ 0 then
    if bridgeAddress1.compareTo bridgeAddress2 < 0 then .WORSE_SRC else .BETTER_SRC
  else if portPriority1 ≠ portPriority2 then
    if portPriority1 < portPriority2 then .WORSE_PORT else .BETTER_PORT
  else if portNum1 ≠ portNum2 then
    if portNum1 < portNum2 then .WORSE_PORT else .BETTER_PORT
  else .SIMILAR

end RSTP

open RSTP

/-- A bridge with `n` ports, the carriers of its interfaces and what it has put out. -/
structure RSTP (n : ℕ) where
  bridgePriority : ℕ
  bridgeAddress : MACAddress
  maxAge : SimTime
  helloTime : SimTime
  forwardDelay : SimTime
  migrateTime : SimTime
  tcWhileTime : SimTime
  ports : Fin n → Ieee8021dInterfaceData
  hasCarrier : Fin n → Bool
  fes : FutureEventSet SelfKinds
  outputs : List (Output n)

namespace RSTP

variable {n : ℕ}

def simTime (s : RSTP n) : SimTime := s.fes.simTime

variable (s : RSTP n)

def emit (output : Output n) : RSTP n := { s with outputs := s.outputs ++ [output] }

variable (i : Fin n)

def modifyPort (f : Ieee8021dInterfaceData → Ieee8021dInterfaceData) : RSTP n :=
  { s with ports := Function.update s.ports i (f (s.ports i)) }

def setRoleState (role : PortRole) (state : PortState) : RSTP n :=
  s.modifyPort i fun port => { port with role := role, state := state }

def setLostBPDU (lostBPDU : ℕ) : RSTP n :=
  s.modifyPort i fun port => { port with lostBPDU := lostBPDU }

def setNextUpgrade (t : SimTime) : RSTP n :=
  s.modifyPort i fun port => { port with nextUpgrade := t }

def setTCWhile (t : SimTime) : RSTP n :=
  s.modifyPort i fun port => { port with TCWhile := t }

/-- A port of the switch, when there is a gate for the index. -/
def getPort (k : ℕ) : Except Fault (Fin n) :=
  if h : k < n then .ok ⟨k, h⟩ else .error (.cRuntimeError "gate is nullptr")

def getRootIndex : Option (Fin n) :=
  (List.finRange n).find? fun i => (s.ports i).role = .ROOT

def AwaitsUpgrade (port : Ieee8021dInterfaceData) : Prop :=
  port.role = .NOTASSIGNED ∨
    port.role = .DESIGNATED ∧ (port.state = .DISCARDING ∨ port.state = .LEARNING)
deriving Decidable

def earlierUpgrade (next : Option (Fin n)) (i : Fin n) : Option (Fin n) :=
  if s.hasCarrier i = true ∧ AwaitsUpgrade (s.ports i) then
    match next with
    | none => some i
    | some j => if (s.ports i).nextUpgrade < (s.ports j).nextUpgrade then some i else some j
  else next

def cancelUpgrade : RSTP n :=
  { s with fes := { s.fes with
      scheduled := s.fes.scheduled.filter fun e => e.message ≠ .SELF_UPGRADE } }

def scheduleNextUpgrade : Except Fault (RSTP n) :=
  let s := s.cancelUpgrade
  match (List.finRange n).foldl s.earlierUpgrade none with
  | none => .ok s
  | some i => do
    let fes ← s.fes.scheduleAt (s.ports i).nextUpgrade .SELF_UPGRADE
    return { s with fes := fes }

def flushOtherPorts (portNum : Fin n) : RSTP n :=
  (List.finRange n).foldl (fun s i =>
    let s := s.setTCWhile i (s.simTime + s.tcWhileTime)
    if i ≠ portNum then s.emit (.flush i) else s) s

def initInterfacedata (portNum : Fin n) : RSTP n :=
  s.modifyPort portNum fun ifd =>
    { ifd with
      rootPriority := s.bridgePriority
      rootAddress := s.bridgeAddress
      rootPathCost := 0
      age := 0
      bridgePriority := s.bridgePriority
      bridgeAddress := s.bridgeAddress
      portPriority := unsignedMax
      portNum := unsignedMax
      lostBPDU := 0 }

variable (frame : BPDU)

def updateInterfacedata (portNum : Fin n) : RSTP n :=
  s.modifyPort portNum fun ifd =>
    { ifd with
      rootPriority := frame.rootPriority
      rootAddress := frame.rootAddress
      rootPathCost := addUnsigned frame.rootPathCost ifd.linkCost
      age := frame.messageAge + 1
      bridgePriority := frame.bridgePriority
      bridgeAddress := frame.bridgeAddress
      portPriority := frame.portPriority
      portNum := frame.portNum
      lostBPDU := 0 }

def initPort (j : Fin n) : RSTP n :=
  let s :=
    if !(s.ports j).edge then
      (s.setRoleState j .NOTASSIGNED .DISCARDING).setNextUpgrade j (s.simTime + s.migrateTime)
    else s.setRoleState j .DESIGNATED .FORWARDING
  (s.initInterfacedata j).emit (.flush j)

def initPorts : Except Fault (RSTP n) :=
  ((List.finRange n).foldl initPort s).scheduleNextUpgrade

/-- The gate of index `-1`, which a bridge without a root port looks for. -/
def rootPort : Except Fault Ieee8021dInterfaceData :=
  match s.getRootIndex with
  | some r => .ok (s.ports r)
  | none => .error (.cRuntimeError "gate is nullptr")

def contestInterfacedata (portNum : Fin n) : Except Fault CompareResult := do
  let rootPort ← s.rootPort
  let ifd := s.ports portNum
  return compareRSTPData (toInt rootPort.rootPriority) (toInt ifd.rootPriority)
    rootPort.rootAddress ifd.rootAddress
    (toInt (addUnsigned rootPort.rootPathCost ifd.linkCost)) (toInt ifd.rootPathCost)
    (toInt s.bridgePriority) (toInt ifd.bridgePriority)
    s.bridgeAddress ifd.bridgeAddress
    (toInt ifd.portPriority) (toInt ifd.portPriority)
    (toInt portNum) (toInt ifd.portNum)

/-- The contest with a BPDU instead of what the port stores. -/
def contestInterfacedataWith (msg : BPDU) (portNum : Fin n) : Except Fault CompareResult := do
  let rootPort ← s.rootPort
  let ifd := s.ports portNum
  return compareRSTPData (toInt rootPort.rootPriority) (toInt msg.rootPriority)
    rootPort.rootAddress msg.rootAddress
    (toInt rootPort.rootPathCost) (toInt msg.rootPathCost)
    (toInt s.bridgePriority) (toInt msg.bridgePriority)
    s.bridgeAddress msg.bridgeAddress
    (toInt ifd.portPriority) (toInt msg.portPriority)
    (toInt portNum) (toInt msg.portNum)

def compareInterfacedata (portNum : Fin n) (msg : BPDU) (linkCost : ℕ) : CompareResult :=
  let ifd := s.ports portNum
  compareRSTPData (toInt ifd.rootPriority) (toInt msg.rootPriority)
    ifd.rootAddress msg.rootAddress
    (toInt ifd.rootPathCost) (toInt (addUnsigned msg.rootPathCost linkCost))
    (toInt ifd.bridgePriority) (toInt msg.bridgePriority)
    ifd.bridgeAddress msg.bridgeAddress
    (toInt ifd.portPriority) (toInt msg.portPriority)
    (toInt ifd.portNum) (toInt msg.portNum)

def betterAlternate (candidate : Option (Fin n)) (j : Fin n) : Option (Fin n) :=
  let jPort := s.ports j
  if jPort.role = .ALTERNATE then
    match candidate with
    | none => some j
    | some c =>
      let candidatePort := s.ports c
      if (compareRSTPData (toInt jPort.rootPriority) (toInt candidatePort.rootPriority)
          jPort.rootAddress candidatePort.rootAddress
          (toInt jPort.rootPathCost) (toInt candidatePort.rootPathCost)
          (toInt jPort.bridgePriority) (toInt candidatePort.bridgePriority)
          jPort.bridgeAddress candidatePort.bridgeAddress
          (toInt jPort.portPriority) (toInt candidatePort.portPriority)
          (toInt jPort.portNum) (toInt candidatePort.portNum)).val < 0 then some j
      else some c
  else candidate

def getBestAlternate : Option (Fin n) :=
  (List.finRange n).foldl s.betterAlternate none

def sendTCNtoRoot : RSTP n :=
  match s.getRootIndex with
  | none => s
  | some r =>
    let rootPort := s.ports r
    if rootPort.role ≠ .DISABLED ∧ s.simTime < rootPort.TCWhile then
      s.emit (.send r
        { protocolIdentifier := 0
          protocolVersionIdentifier := 0
          bpduType := 0
          tcaFlag := false
          tcFlag := true
          rootAddress := rootPort.rootAddress
          rootPriority := rootPort.rootPriority
          rootPathCost := rootPort.rootPathCost
          bridgeAddress := s.bridgeAddress
          bridgePriority := s.bridgePriority
          portNum := r
          portPriority := 0
          messageAge := rootPort.age
          maxAge := s.maxAge
          helloTime := s.helloTime
          forwardDelay := s.forwardDelay })
    else s

/-- The fields of a BPDU that come from the root port, or from the bridge when it has none. -/
def rootFields : ℕ × MACAddress × SimTime × ℕ :=
  match s.getRootIndex with
  | some r =>
    let rootPort := s.ports r
    (rootPort.rootPriority, rootPort.rootAddress, rootPort.age, rootPort.rootPathCost)
  | none => (s.bridgePriority, s.bridgeAddress, 0, 0)

def sendBPDU (port : Fin n) : RSTP n :=
  let iport := s.ports port
  if iport.role ≠ .DISABLED then
    let (rootPriority, rootAddress, messageAge, rootPathCost) := s.rootFields
    s.emit (.send port
      { protocolIdentifier := 0
        protocolVersionIdentifier := 0
        bpduType := 0
        tcaFlag := false
        tcFlag := s.simTime < iport.TCWhile
        rootAddress := rootAddress
        rootPriority := rootPriority
        rootPathCost := rootPathCost
        bridgeAddress := s.bridgeAddress
        bridgePriority := s.bridgePriority
        portNum := port
        portPriority := 0
        messageAge := messageAge
        maxAge := s.maxAge
        helloTime := s.helloTime
        forwardDelay := s.forwardDelay })
  else s

def sendBPDUs : RSTP n :=
  (List.finRange n).foldl (fun s i =>
    let iPort := s.ports i
    if iPort.role ≠ .ROOT ∧ iPort.role ≠ .ALTERNATE ∧ iPort.role ≠ .DISABLED ∧ !iPort.edge then
      s.sendBPDU i
    else s) s

def upgradePort : RSTP n :=
  let iPort := s.ports i
  if s.hasCarrier i = true ∧ iPort.nextUpgrade = s.simTime then
    if iPort.role = .NOTASSIGNED then
      -- contest to become forwarding
      (s.setRoleState i .DESIGNATED .DISCARDING).setNextUpgrade i (s.simTime + s.forwardDelay)
    else if iPort.role = .DESIGNATED then
      match iPort.state with
      | .DISCARDING =>
        (s.setRoleState i .DESIGNATED .LEARNING).setNextUpgrade i (s.simTime + s.forwardDelay)
      | .LEARNING => (s.setRoleState i .DESIGNATED .FORWARDING).flushOtherPorts i
      | .FORWARDING => s
    else s
  else s

def handleUpgrade : Except Fault (RSTP n) :=
  ((List.finRange n).foldl upgradePort s).scheduleNextUpgrade

/-- The port takes care of its LAN, unless a better BPDU comes. -/
def becomeDesignated : Except Fault (RSTP n) :=
  ((s.setRoleState i .DESIGNATED .DISCARDING).setNextUpgrade i
    (s.simTime + s.forwardDelay)).scheduleNextUpgrade

/-- Three hello times have passed without the best BPDU of the port. -/
def lostBestBPDU : Except Fault (RSTP n) :=
  if (s.ports i).role = .ROOT then
    match s.getBestAlternate with
    | some candidate => do
      let s ← s.becomeDesignated i
      let s := s.initInterfacedata i
      let s := (s.setRoleState candidate .ROOT .FORWARDING).setLostBPDU candidate 0
      return (s.flushOtherPorts candidate).emit (.copyTable i candidate)
    | none => s.initPorts
  else do
    let s ← s.becomeDesignated i
    return s.initInterfacedata i

def countHello : Except Fault (RSTP n) :=
  let iPort := s.ports i
  if !iPort.edge ∧ (iPort.role = .ROOT ∨ iPort.role = .ALTERNATE ∨ iPort.role = .BACKUP) then
    let s := s.setLostBPDU i (addUnsigned iPort.lostBPDU 1)
    if (s.ports i).lostBPDU > 3 then do
      let s ← s.lostBestBPDU i
      return s.setLostBPDU i 0
    else .ok s
  else .ok s

def handleHelloTime : Except Fault (RSTP n) := do
  let s ← (List.finRange n).foldlM countHello s
  let s := s.sendBPDUs.sendTCNtoRoot
  let fes ← s.fes.scheduleAt (s.simTime + s.helloTime) .SELF_HELLOTIME
  return { s with fes := fes }

def checkTC (arrival : Fin n) : RSTP n :=
  if frame.tcFlag = true ∧ (s.ports arrival).state = .FORWARDING then
    (List.finRange n).foldl (fun s i =>
      if i ≠ arrival then (s.emit (.flush i)).setTCWhile i (s.simTime + s.tcWhileTime) else s) s
  else s

variable (arrivalPortNum : Fin n)

/-- The port that a BPDU of the bridge itself takes out, and the role it gets. -/
def backupPort : Except Fault (Fin n × PortRole) :=
  let port := s.ports arrivalPortNum
  if frame.portPriority < port.portPriority ∨
      frame.portPriority = port.portPriority ∧ frame.portNum < arrivalPortNum then
    .ok (arrivalPortNum, .BACKUP)
  else if frame.portPriority > port.portPriority ∨
      frame.portPriority = port.portPriority ∧ frame.portNum > arrivalPortNum then do
    let port2 ← getPort frame.portNum
    return (port2, .BACKUP)
  else do
    let port2 ← getPort frame.portNum
    return (port2, .DISABLED)

def handleBackup : Except Fault (RSTP n) := do
  let (port, role) ← s.backupPort frame arrivalPortNum
  let s := (s.emit (.flush port)).setRoleState port role .DISCARDING
  return if role = .BACKUP then s.setLostBPDU port 0 else s

/-- A port other than the arrival port starts again below a new root. -/
def contestAgain (s : RSTP n) (i : Fin n) : Except Fault (RSTP n) :=
  if !(s.ports i).edge then
    let s :=
      if (s.ports arrivalPortNum).state ≠ .FORWARDING then
        s.setTCWhile i (s.simTime + s.tcWhileTime)
      else s
    let s := s.emit (.flush i)
    if i ≠ arrivalPortNum then do
      let s := s.setRoleState i .NOTASSIGNED .DISCARDING
      let s ← (s.setNextUpgrade i (s.simTime + s.migrateTime)).scheduleNextUpgrade
      return s.initInterfacedata i
    else .ok s
  else .ok s

def becomeRoot : RSTP n :=
  (s.setRoleState i .ROOT .FORWARDING).setLostBPDU i 0

def becomeAlternate : RSTP n :=
  ((s.emit (.flush i)).setRoleState i .ALTERNATE .DISCARDING).setLostBPDU i 0

/-- The challenge of a BPDU that is the best one of its port with that of the root port `r`. -/
def challengeRoot (arrivalPortNum r : Fin n) : Except Fault (Bool × RSTP n) :=
  let arrivalPort := s.ports arrivalPortNum
  let rootPort := s.ports r
  match s.compareInterfacedata r frame arrivalPort.linkCost with
  | .SIMILAR =>
    -- the better local port
    if rootPort.portPriority < arrivalPort.portPriority ∨
        rootPort.portPriority = arrivalPort.portPriority ∧ r < arrivalPortNum then
      .ok (false, s.becomeAlternate arrivalPortNum)
    else
      let s :=
        if arrivalPort.state ≠ .FORWARDING then s.flushOtherPorts arrivalPortNum
        else s.emit (.flush r)
      let s := (s.setRoleState r .ALTERNATE .DISCARDING).becomeRoot arrivalPortNum
      .ok (false, s.emit (.copyTable r arrivalPortNum))
  | .BETTER_ROOT => do
    let s ← (List.finRange n).foldlM (contestAgain arrivalPortNum) s
    return (true, s.becomeRoot arrivalPortNum)
  | .BETTER_RPC | .BETTER_SRC | .BETTER_PORT => do
    let s := if arrivalPort.state ≠ .FORWARDING then s.flushOtherPorts arrivalPortNum else s
    let s := s.becomeRoot arrivalPortNum
    -- just one port can be root at contest time
    let s := s.modifyPort r fun port => { port with role := .ALTERNATE }
    let s := s.emit (.copyTable r arrivalPortNum)
    let case3 ← s.contestInterfacedata r
    if case3.val ≥ 0 then
      return (true, (s.setRoleState r .ALTERNATE .DISCARDING).emit (.flush r))
    else
      let s ← s.becomeDesignated r
      return (true, s)
  | .WORSE_ROOT => .ok (false, s.sendBPDU arrivalPortNum)
  | .WORSE_RPC | .WORSE_SRC | .WORSE_PORT => do
    let case3 ← s.contestInterfacedataWith frame arrivalPortNum
    if case3.val < 0 then
      let s ← s.becomeDesignated arrivalPortNum
      return (false, s.sendBPDU arrivalPortNum)
    else return (false, s.becomeAlternate arrivalPortNum)

def processBetterSource : Except Fault (Bool × RSTP n) :=
  let s := s.updateInterfacedata frame arrivalPortNum
  match s.getRootIndex with
  | none => .ok (true, (s.becomeRoot arrivalPortNum).flushOtherPorts arrivalPortNum)
  | some r => s.challengeRoot frame arrivalPortNum r

/-- The source of the root port has a worse root now. -/
def worseRoot : Except Fault (Bool × RSTP n) :=
  if (s.ports arrivalPortNum).role = .ROOT then
    match s.getBestAlternate with
    | some alternative => do
      let s ← s.becomeDesignated arrivalPortNum
      let s := (s.emit (.copyTable arrivalPortNum alternative)).flushOtherPorts alternative
      let s := s.setRoleState alternative .ROOT .FORWARDING
      return (false, (s.updateInterfacedata frame arrivalPortNum).sendBPDU arrivalPortNum)
    | none => do
      let s ← s.initPorts
      let s := (List.finRange n).foldl (fun s j => s.emit (.flush j)) s
      if (s.compareInterfacedata arrivalPortNum frame (s.ports arrivalPortNum).linkCost).val > 0 then
        let s := s.updateInterfacedata frame arrivalPortNum
        return (true, s.setRoleState arrivalPortNum .ROOT .FORWARDING)
      else return (true, s)
  else if (s.ports arrivalPortNum).role = .ALTERNATE then do
    let s ← s.becomeDesignated arrivalPortNum
    return (false, (s.updateInterfacedata frame arrivalPortNum).sendBPDU arrivalPortNum)
  else .ok (false, s)

/-- The root port gives way to an alternative that is better than its new BPDU. -/
def giveWay (arrivalPortNum alternative : Fin n) : Except Fault (RSTP n) := do
  let s := s.setRoleState alternative .ROOT .FORWARDING
  -- just one port can be root at contest time
  let s := s.modifyPort arrivalPortNum fun port => { port with role := .DESIGNATED }
  let case3 ← s.contestInterfacedataWith frame arrivalPortNum
  let s ← if case3.val < 0 then s.becomeDesignated arrivalPortNum
    else .ok (s.setRoleState arrivalPortNum .ALTERNATE .DISCARDING)
  return (s.flushOtherPorts alternative).emit (.copyTable arrivalPortNum alternative)

def worseRoute : Except Fault (Bool × RSTP n) :=
  if (s.ports arrivalPortNum).role = .ROOT then do
    let s := s.setLostBPDU arrivalPortNum 0
    let s ← match s.getBestAlternate with
      | some alternative =>
        if (s.compareInterfacedata alternative frame (s.ports arrivalPortNum).linkCost).val < 0 then
          s.giveWay frame arrivalPortNum alternative
        else .ok s
      | none => .ok s
    return (true, s.updateInterfacedata frame arrivalPortNum)
  else if (s.ports arrivalPortNum).role = .ALTERNATE then do
    let case2 ← s.contestInterfacedataWith frame arrivalPortNum
    let s ← if case2.val < 0 then do
        let s ← s.becomeDesignated arrivalPortNum
        pure (s.sendBPDU arrivalPortNum)
      else pure (s.setLostBPDU arrivalPortNum 0)
    return (false, s.updateInterfacedata frame arrivalPortNum)
  else .ok (false, s.updateInterfacedata frame arrivalPortNum)

def processSameSource : Except Fault (Bool × RSTP n) :=
  match s.compareInterfacedata arrivalPortNum frame (s.ports arrivalPortNum).linkCost with
  | .SIMILAR => .ok (false, s.setLostBPDU arrivalPortNum 0)
  | .WORSE_ROOT => s.worseRoot frame arrivalPortNum
  | .WORSE_RPC | .WORSE_SRC | .WORSE_PORT => s.worseRoute frame arrivalPortNum
  | .BETTER_ROOT | .BETTER_RPC | .BETTER_SRC | .BETTER_PORT => .ok (false, s)

def processBPDU : Except Fault (RSTP n) := do
  let arrivalPort := s.ports arrivalPortNum
  let (flood, s) ←
    if (s.compareInterfacedata arrivalPortNum frame arrivalPort.linkCost).val > 0 ∧
        frame.rootAddress.compareTo s.bridgeAddress ≠ 0 then
      s.processBetterSource frame arrivalPortNum
    else if frame.bridgeAddress.compareTo arrivalPort.bridgeAddress = 0 ∧
        frame.rootAddress.compareTo s.bridgeAddress ≠ 0 then
      s.processSameSource frame arrivalPortNum
    else .ok (false, s)
  return if flood then s.sendBPDUs.sendTCNtoRoot else s

def handleIncomingFrame (src : MACAddress) (arrivalPortNum : Fin n) : Except Fault (RSTP n) :=
  if frame.messageAge < s.maxAge then
    let s := s.checkTC frame arrivalPortNum
    if src.compareTo s.bridgeAddress = 0 then s.handleBackup frame arrivalPortNum
    else s.processBPDU frame arrivalPortNum
  else .ok s

/-- `receiveSignal` of `NF_INTERFACE_STATE_CHANGED` for the interface of a port. -/
def receiveSignal : Except Fault (RSTP n) :=
  if s.hasCarrier i then
    let iPort := s.ports i
    let s :=
      if iPort.role = .NOTASSIGNED then s.setNextUpgrade i (s.simTime + s.migrateTime)
      else if iPort.role = .DESIGNATED ∧ (iPort.state = .DISCARDING ∨ iPort.state = .LEARNING) then
        s.setNextUpgrade i (s.simTime + s.forwardDelay)
      else s
    s.scheduleNextUpgrade
  else .ok s

def start : Except Fault (RSTP n) := do
  let s ← s.initPorts
  let fes ← s.fes.scheduleAt s.simTime .SELF_HELLOTIME
  return { s with fes := fes }

end RSTP

end inet
