import LoRaInet.Kernel.FutureEventSet
import LoRaInet.LoRa.Messages
import LoRaInet.Transition.Run
import Mathlib.Data.Rat.Floor

open omnetpp

namespace inet

/-- `knownNode`: what the server keeps about one LoRa node. The output vectors
are the lists of the values recorded in them. -/
structure KnownNode where
  srcAddr : DevAddr
  framesFromLastADRCommand : Nat
  lastSeqNoProcessed : Int
  numberOfSentADRPackets : Nat
  adrListSNIR : List ℚ
  historyAllSNIR : List ℚ
  historyAllRSSI : List ℚ
  receivedSeqNumber : List Int
  calculatedSNRmargin : List ℚ

/-- The `endOfWaitingWindow` self message; its identity is the `cMessage`
object, its context pointer the frame that opened the window. -/
structure EndOfWaiting where
  id : Nat
  contextPointer : LoRaMacFrame
  deriving DecidableEq

/-- `receivedPacket`: a frame in the waiting table, and the gateways it has
come through with their SNIR in dB and their RSSI. -/
structure ReceivedPacket where
  rcvdPacket : LoRaMacFrame
  endOfWaiting : EndOfWaiting
  possibleGateways : List (L3Address × ℚ × ℚ)

/-- The values `adrMethod` is compared with. -/
inductive AdrMethod where
  | max | avg | other

namespace NetworkServerApp

/-- The parameters of the module, the warm-up period of the simulation, and the
C library's logarithm. -/
structure Parameters where
  evaluateADRinServer : Bool
  adrMethod : AdrMethod
  adrDeviceMargin : ℚ
  destPort : Int
  warmupPeriod : SimTime
  log10 : ℚ → ℚ

/-- `math::fraction2dB`. -/
def Parameters.fraction2dB (par : Parameters) (fraction : ℚ) : ℚ := 10 * par.log10 fraction

/-- The values found in the local variables that the code declares without an
initializer. -/
structure Indeterminate where
  nodeIndex : Int
  SNRm : ℚ
  requiredSNR : ℚ

end NetworkServerApp

/-- The state of the server, with the self messages it has scheduled. -/
structure NetworkServerApp where
  knownNodes : List KnownNode
  receivedPackets : List ReceivedPacket
  totalReceivedPackets : Nat
  numReceivedPerNode : Int → Option Nat
  counterUniqueReceivedPackets : Nat
  counterUniqueReceivedPacketsPerSF : Fin 6 → Nat
  messageCount : Nat
  fes : FutureEventSet EndOfWaiting

/-- The address and sequence number that name an uplink. -/
abbrev UplinkKey := DevAddr × Int

def LoRaMacFrame.key (frame : LoRaMacFrame) : UplinkKey :=
  (frame.transmitterAddress, frame.sequenceNumber)

namespace NetworkServerApp

/-- The state after `initialize`, with an empty table. -/
def initial : NetworkServerApp where
  knownNodes := []
  receivedPackets := []
  totalReceivedPackets := 0
  numReceivedPerNode := fun _ => none
  counterUniqueReceivedPackets := 0
  counterUniqueReceivedPacketsPerSF := fun _ => 0
  messageCount := 0
  fes := { simTime := 0, scheduled := [] }

variable (par : Parameters) (s : NetworkServerApp)

/-- `simTime() >= getSimulation()->getWarmupPeriod()`. -/
def isAfterWarmup : Bool :=
  par.warmupPeriod ≤ s.fes.simTime

variable (pkt : LoRaMacFrame)

def isPacketProcessed : Bool :=
  s.knownNodes.any fun node =>
    node.srcAddr = pkt.transmitterAddress ∧ pkt.sequenceNumber < node.lastSeqNoProcessed

/-- The record `updateKnownNodes` pushes for a node heard for the first time. -/
def newNode : KnownNode where
  srcAddr := pkt.transmitterAddress
  lastSeqNoProcessed := pkt.sequenceNumber
  framesFromLastADRCommand := 0
  numberOfSentADRPackets := 0
  adrListSNIR := []
  historyAllSNIR := [par.fraction2dB pkt.SNIR]
  historyAllRSSI := [pkt.RSSI]
  receivedSeqNumber := []
  calculatedSNRmargin := []

/-- The loop of `updateKnownNodes`, which stops at the first record of the
transmitter, and the `push_back` after it when there is none. -/
def updateKnownNodes (par : Parameters) (pkt : LoRaMacFrame) : List KnownNode → List KnownNode
  | [] => [newNode par pkt]
  | node :: rest =>
    if node.srcAddr = pkt.transmitterAddress then
      (if node.lastSeqNoProcessed < pkt.sequenceNumber then
        { node with lastSeqNoProcessed := pkt.sequenceNumber } else node) :: rest
    else node :: updateKnownNodes par pkt rest

/-- The tuple `emplace_back` puts into `possibleGateways`. -/
def possibleGateway (srcAddr : L3Address) : L3Address × ℚ × ℚ :=
  (srcAddr, par.fraction2dB pkt.SNIR, pkt.RSSI)

/-- The loop of `addPktToProcessingTable`: the first entry with the frame's
address and sequence number takes the gateway; `none` when there is no entry. -/
def addGateway (par : Parameters) (pkt : LoRaMacFrame) (srcAddr : L3Address) :
    List ReceivedPacket → Option (List ReceivedPacket)
  | [] => none
  | entry :: rest =>
    if entry.rcvdPacket.key = pkt.key then
      some ({ entry with possibleGateways :=
        entry.possibleGateways ++ [possibleGateway par pkt srcAddr] } :: rest)
    else (addGateway par pkt srcAddr rest).map (entry :: ·)

/-- `1.2` seconds. -/
def waitingTime : SimTime := 6 / 5

def addPktToProcessingTable (srcAddr : L3Address) : Except Fault NetworkServerApp :=
  match addGateway par pkt srcAddr s.receivedPackets with
  | some receivedPackets => .ok { s with receivedPackets }
  | none => do
    let endOfWaiting : EndOfWaiting := ⟨s.messageCount, pkt⟩
    let fes ← s.fes.scheduleAt (s.fes.simTime + waitingTime) endOfWaiting
    .ok { s with
      fes
      messageCount := s.messageCount + 1
      receivedPackets := s.receivedPackets ++
        [⟨pkt, endOfWaiting, [possibleGateway par pkt srcAddr]⟩] }

def processLoraMACPacket (frame : LoRaMacFrame)
    (srcAddr : L3Address) : Except Fault NetworkServerApp :=
  if s.isPacketProcessed frame then .ok s
  else s.addPktToProcessingTable par frame srcAddr

/-- `handleMessage` for a frame that arrives on `udpIn`. -/
def handleUdpIn (frame : LoRaMacFrame) (srcAddr : L3Address) : Except Fault NetworkServerApp :=
  let s := if s.isAfterWarmup par then
    { s with totalReceivedPackets := s.totalReceivedPackets + 1 } else s
  let s := { s with knownNodes := updateKnownNodes par frame s.knownNodes }
  s.processLoraMACPacket par frame srcAddr

end NetworkServerApp

/-- What the scan of `knownNodes` in `evaluateADR` does to a record of the
transmitter before it looks at the frame counter. -/
def KnownNode.recordUplink (node : KnownNode) (pkt : LoRaMacFrame) (SNIRinGW RSSIinGW : ℚ) :
    KnownNode :=
  let adrListSNIR := node.adrListSNIR ++ [SNIRinGW]
  { node with
    adrListSNIR := if adrListSNIR.length = 20 then adrListSNIR.tail else adrListSNIR
    historyAllSNIR := node.historyAllSNIR ++ [SNIRinGW]
    historyAllRSSI := node.historyAllRSSI ++ [RSSIinGW]
    receivedSeqNumber := node.receivedSeqNumber ++ [pkt.sequenceNumber]
    framesFromLastADRCommand := node.framesFromLastADRCommand + 1 }

/-- `*max_element(begin, end)` of a non-empty list. -/
def maxElement : List ℚ → ℚ
  | [] => 0
  | x :: xs => xs.foldl (fun largest y => if largest < y then y else largest) x

/-- `totalSNR/numberOfFields` with exact division. -/
def average (l : List ℚ) : ℚ := l.sum / l.length

/-- The value the two `adrMethod` branches give `SNRm`; with any other method it
keeps the value it had. -/
def AdrMethod.SNRm (method : AdrMethod) (before : ℚ) (adrListSNIR : List ℚ) : ℚ :=
  match method with
  | .max => maxElement adrListSNIR
  | .avg => average adrListSNIR
  | .other => before

namespace NetworkServerApp

/-- The local variables of `evaluateADR` that the scan of `knownNodes` sets. -/
structure AdrScan where
  sendADR : Bool
  nodeIndex : Int
  SNRm : ℚ

/-- The scan of `knownNodes` from index `i` on. -/
def scanKnownNodes (method : AdrMethod) (pkt : LoRaMacFrame) (SNIRinGW RSSIinGW : ℚ) :
    Nat → List KnownNode → AdrScan → List KnownNode × AdrScan
  | _, [], scan => ([], scan)
  | i, node :: rest, scan =>
    if node.srcAddr = pkt.transmitterAddress then
      let node := node.recordUplink pkt SNIRinGW RSSIinGW
      if node.framesFromLastADRCommand = 20 then
        let node := { node with framesFromLastADRCommand := 0 }
        let scan := { sendADR := true, nodeIndex := i,
                      SNRm := method.SNRm scan.SNRm node.adrListSNIR }
        let (rest, scan) := scanKnownNodes method pkt SNIRinGW RSSIinGW (i + 1) rest scan
        (node :: rest, scan)
      else
        let (rest, scan) := scanKnownNodes method pkt SNIRinGW RSSIinGW (i + 1) rest scan
        (node :: rest, scan)
    else
      let (rest, scan) := scanKnownNodes method pkt SNIRinGW RSSIinGW (i + 1) rest scan
      (node :: rest, scan)

/-- `knownNodes[i]` changed in place; an index outside the vector is a fault. -/
def modifyAt (knownNodes : List KnownNode) (i : Int) (f : KnownNode → KnownNode) :
    Except Fault (List KnownNode) :=
  if 0 ≤ i ∧ i < knownNodes.length then .ok (knownNodes.modify i.toNat f)
  else .error .outOfRange

/-- The chain of comparisons that sets `requiredSNR`. -/
def requiredSNR (locals : Indeterminate) (LoRaSF : Int) : ℚ :=
  if LoRaSF = 7 then -7.5
  else if LoRaSF = 8 then -10
  else if LoRaSF = 9 then -12.5
  else if LoRaSF = 10 then -15
  else if LoRaSF = 11 then -17.5
  else if LoRaSF = 12 then -20
  else locals.requiredSNR

/-- The C library's `round`: halfway cases away from zero. -/
def round (x : ℚ) : Int := if 0 ≤ x then ⌊x + 1 / 2⌋ else ⌈x - 1 / 2⌉

/-- `while (steps > 0 && cond(x)) { x = next(x); steps--; }`, with the steps
left over. -/
def stepWhile {A : Type} (cond : A → Bool) (next : A → A) : Nat → A → Nat × A
  | 0, x => (0, x)
  | steps + 1, x => if cond x then stepWhile cond next steps (next x) else (steps + 1, x)

/-- The spreading factor and power of an ADR command: the data rate goes up
first, then the power down; a negative margin puts the power up. -/
def newOptions (pkt : LoRaMacFrame) (Nstep : Int) : LoRaOptions :=
  let (left, calculatedSF) := stepWhile (fun sf : Int => 7 < sf) (· - 1) Nstep.toNat pkt.LoRaSF
  let (_, lowered) := stepWhile (fun tp : ℚ => 2 < tp) (· - 3) left pkt.LoRaTP
  let atLeastMin := if lowered < 2 then 2 else lowered
  let (_, raised) := stepWhile (fun tp : ℚ => tp < 14) (· + 3) (-Nstep).toNat atLeastMin
  let calculatedPowerdBm := if 14 < raised then 14 else raised
  { LoRaSF := calculatedSF, LoRaTP := calculatedPowerdBm }

/-- A frame handed to `socket.sendTo`. -/
structure Downlink where
  frameToSend : LoRaMacFrame
  destAddr : L3Address
  destPort : Int

/-- What a call of `evaluateADR` decided: whether the twenty-frame condition
held, the SNR measure if so, and the downlink it sent. -/
structure AdrEvaluation where
  SNRm : Option ℚ
  downlink : Option Downlink

/-- The `if(sendADR)` block: the record of the margin and the new options. A
downlink without it carries the default options. -/
def adrOptions (par : Parameters) (locals : Indeterminate) (pkt : LoRaMacFrame) (scan : AdrScan)
    (knownNodes : List KnownNode) : Except Fault (List KnownNode × LoRaOptions) :=
  if scan.sendADR then do
    let SNRmargin := scan.SNRm - requiredSNR locals pkt.LoRaSF - par.adrDeviceMargin
    let knownNodes ← modifyAt knownNodes scan.nodeIndex fun node =>
      { node with calculatedSNRmargin := node.calculatedSNRmargin ++ [SNRmargin] }
    .ok (knownNodes, newOptions pkt (round (SNRmargin / 3)))
  else .ok (knownNodes, {})

/-- `knownNodes[nodeIndex].numberOfSentADRPackets++`, once the warm-up is over. -/
def countSentADR (isAfterWarmup : Bool) (scan : AdrScan) (knownNodes : List KnownNode) :
    Except Fault (List KnownNode) :=
  if isAfterWarmup then
    modifyAt knownNodes scan.nodeIndex fun node =>
      { node with numberOfSentADRPackets := node.numberOfSentADRPackets + 1 }
  else .ok knownNodes

/-- The `ADRPacket` frame around the management packet. -/
def adrFrame (pkt : LoRaMacFrame) (options : LoRaOptions) : LoRaMacFrame where
  receiverAddress := pkt.transmitterAddress
  LoRaTP := 14
  LoRaCF := pkt.LoRaCF
  LoRaSF := pkt.LoRaSF
  LoRaBW := pkt.LoRaBW
  encapsulatedPacket := { msgType := some .TXCONFIG, options }

def evaluateADR (par : Parameters) (locals : Indeterminate) (isAfterWarmup : Bool)
    (knownNodes : List KnownNode) (pkt : LoRaMacFrame) (pickedGateway : L3Address)
    (SNIRinGW RSSIinGW : ℚ) : Except Fault (List KnownNode × AdrEvaluation) :=
  let sendADRAckRep := pkt.encapsulatedPacket.options.ADRACKReq
  let (knownNodes, scan) := scanKnownNodes par.adrMethod pkt SNIRinGW RSSIinGW 0 knownNodes
    { sendADR := false, nodeIndex := locals.nodeIndex, SNRm := locals.SNRm }
  let SNRm := if scan.sendADR then some scan.SNRm else none
  if scan.sendADR || sendADRAckRep then do
    let (knownNodes, options) ← adrOptions par locals pkt scan knownNodes
    let knownNodes ← countSentADR isAfterWarmup scan knownNodes
    .ok (knownNodes, { SNRm, downlink := some ⟨adrFrame pkt options, pickedGateway, par.destPort⟩ })
  else .ok (knownNodes, { SNRm, downlink := none })

end NetworkServerApp

end inet

open omnetpp transition

namespace inet.NetworkServerApp

/-- The local variables of `processScheduledPacket` that its loop over the
waiting table sets, with the counter it updates there. `packetNumber` is `none`
while the variable has no value. -/
structure TableScan where
  packetNumber : Option Nat
  numReceivedPerNode : Int → Option Nat
  pickedGateway : L3Address
  SNIRinGW : ℚ
  RSSIinGW : ℚ

/-- The initial value of `SNIRinGW` and `RSSIinGW`. -/
def noSignal : ℚ := -99999999999

/-- `++numReceivedPerNode[nodeNumber-1]`, which starts at 1. -/
def countReceived (nodeNumber : Int) (numReceivedPerNode : Int → Option Nat) : Int → Option Nat :=
  Function.update numReceivedPerNode (nodeNumber - 1)
    (some ((numReceivedPerNode (nodeNumber - 1)).getD 0 + 1))

/-- One gateway of the inner loop. -/
def TableScan.pick (scan : TableScan) (gateway : L3Address × ℚ × ℚ) : TableScan :=
  if scan.SNIRinGW < gateway.2.1 then
    { scan with pickedGateway := gateway.1, SNIRinGW := gateway.2.1, RSSIinGW := gateway.2.2 }
  else scan

/-- The loop over the waiting table from index `i` on. It does not stop at the
first entry that matches. -/
def scanReceivedPackets (frame : LoRaMacFrame) : Nat → List ReceivedPacket → TableScan → TableScan
  | _, [], scan => scan
  | i, entry :: rest, scan =>
    if entry.rcvdPacket.key = frame.key then
      let scan := { scan with
        packetNumber := some i
        numReceivedPerNode :=
          countReceived frame.transmitterAddress.getInt scan.numReceivedPerNode }
      scanReceivedPackets frame (i + 1) rest (entry.possibleGateways.foldl TableScan.pick scan)
    else scanReceivedPackets frame (i + 1) rest scan

/-- The scan `processScheduledPacket` makes for a frame. -/
def tableScan (s : NetworkServerApp) (frame : LoRaMacFrame) : TableScan :=
  scanReceivedPackets frame 0 s.receivedPackets
    { packetNumber := none, numReceivedPerNode := s.numReceivedPerNode, pickedGateway := {},
      SNIRinGW := noSignal, RSSIinGW := noSignal }

/-- `frame->getLoRaSF()-7` as an index of the per-SF counters. -/
def sfIndex (LoRaSF : Int) : Except Fault (Fin 6) :=
  if h : 0 ≤ LoRaSF - 7 ∧ LoRaSF - 7 < 6 then .ok ⟨(LoRaSF - 7).toNat, by omega⟩
  else .error .outOfRange

variable (par : Parameters)

/-- `counterUniqueReceivedPacketsPerSF[frame->getLoRaSF()-7]++` after the warm-up. -/
def countPerSF (s : NetworkServerApp) (frame : LoRaMacFrame) : Except Fault (Fin 6 → Nat) :=
  if s.isAfterWarmup par then do
    let i ← sfIndex frame.LoRaSF
    .ok (Function.update s.counterUniqueReceivedPacketsPerSF i
      (s.counterUniqueReceivedPacketsPerSF i + 1))
  else .ok s.counterUniqueReceivedPacketsPerSF

/-- What one call of `processScheduledPacket` handed to `evaluateADR`, and what
came of it; `adr` is `none` when `evaluateADRinServer` is off. -/
structure Processed where
  frame : LoRaMacFrame
  pickedGateway : L3Address
  SNIRinGW : ℚ
  RSSIinGW : ℚ
  adr : Option AdrEvaluation

/-- The call of `evaluateADR`, if it is made. -/
def callEvaluateADR (locals : Indeterminate) (s : NetworkServerApp)
    (frame : LoRaMacFrame) (scan : TableScan) :
    Except Fault (List KnownNode × Option AdrEvaluation) :=
  if par.evaluateADRinServer then do
    let (knownNodes, adr) ← evaluateADR par locals (s.isAfterWarmup par) s.knownNodes frame
      scan.pickedGateway scan.SNIRinGW scan.RSSIinGW
    .ok (knownNodes, some adr)
  else .ok (s.knownNodes, none)

/-- `processScheduledPacket`; a frame without an entry leaves `packetNumber`
without a value, and the table is accessed out of range. -/
def processScheduledPacket (locals : Indeterminate) (s : NetworkServerApp)
    (selfMsg : EndOfWaiting) : Except Fault (NetworkServerApp × Processed) := do
  let frame := selfMsg.contextPointer
  let counterUniqueReceivedPacketsPerSF ← s.countPerSF par frame
  let scan := s.tableScan frame
  let (knownNodes, adr) ← callEvaluateADR par locals s frame scan
  match scan.packetNumber with
  | none => .error .outOfRange
  | some packetNumber =>
    .ok ({ s with
            knownNodes
            receivedPackets := s.receivedPackets.eraseIdx packetNumber
            numReceivedPerNode := scan.numReceivedPerNode
            counterUniqueReceivedPackets :=
              if s.isAfterWarmup par then s.counterUniqueReceivedPackets + 1
              else s.counterUniqueReceivedPackets
            counterUniqueReceivedPacketsPerSF },
          ⟨frame, scan.pickedGateway, scan.SNIRinGW, scan.RSSIinGW, adr⟩)

/-- What can happen to the server: a copy of an uplink arrives through a
gateway, or the end of a waiting window is delivered. -/
inductive Event where
  | udpIn (t : SimTime) (frame : LoRaMacFrame) (srcAddr : L3Address)
  | selfMessage (e : ScheduledMessage EndOfWaiting) (locals : Indeterminate)

/-- `handleMessage` for the next event of the simulation. An event that is not
the next one, or that ends in a fault, is not a step. -/
def step (s : NetworkServerApp) : Event → Option (NetworkServerApp × Option Processed)
  | .udpIn t frame srcAddr =>
    if s.fes.IsNext t then
      match handleUdpIn par { s with fes := s.fes.advance t } frame srcAddr with
      | .ok s' => some (s', none)
      | .error _ => none
    else none
  | .selfMessage e locals =>
    if e ∈ s.fes.scheduled ∧ s.fes.IsNext e.arrivalTime then
      match processScheduledPacket par locals { s with fes := s.fes.fire e } e.message with
      | .ok (s', processed) => some (s', some processed)
      | .error _ => none
    else none

/-- A step taken: the event, and the uplink processed in it. -/
abbrev Label := Event × Option Processed

/-- The runs of the server from its initialization. -/
abbrev ServerRun : List Label → NetworkServerApp → Prop :=
  Run (· = initial) (StepOf (step par))

end inet.NetworkServerApp
