import LoRaInet.LinkLayer.Ieee80211.Mac.BlockAck.RecipientBlockAckProcedure

open omnetpp

namespace inet.ieee80211

inductive FrameType where
  | ST_DATA_WITH_QOS
  | ST_DATA
  | management
  deriving DecidableEq

/-- What of a data or management frame its originator reads. Frames are told apart by their `id`,
as the code tells them apart by their addresses. -/
structure Ieee80211DataOrMgmtFrame where
  id : ℕ
  type : FrameType
  receiverAddress : MACAddress
  tid : Tid
  sequenceNumber : Fin 4096
  fragmentNumber : ℕ
  byteLength : ℤ
  aMsduPresent : Bool
  deriving DecidableEq

def Ieee80211DataOrMgmtFrame.isManagement (frame : Ieee80211DataOrMgmtFrame) : Bool :=
  frame.type = .management

/-- A BlockAckReq frame as its originator builds it. -/
structure BuiltBlockAckReq where
  receiverAddress : MACAddress
  tidInfo : Tid
  startingSequenceNumber : Fin 4096

namespace QoSAckHandler

inductive Status where
  | FRAME_NOT_YET_TRANSMITTED
  | NO_ACK_REQUIRED
  | BLOCK_ACK_NOT_YET_REQUESTED
  | WAITING_FOR_NORMAL_ACK
  | WAITING_FOR_BLOCK_ACK
  | NORMAL_ACK_NOT_ARRIVED
  | NORMAL_ACK_ARRIVED
  | BLOCK_ACK_ARRIVED_UNACKED
  | BLOCK_ACK_ARRIVED_ACKED
  deriving DecidableEq

/-- The keys of the two status maps. -/
inductive Key where
  | qosData (receiverAddress : MACAddress) (tid : Tid) (sequenceNumber : Fin 4096)
    (fragmentNumber : ℕ)
  | mgmtOrNonQoS (receiverAddress : MACAddress) (sequenceNumber : Fin 4096) (fragmentNumber : ℕ)
  deriving DecidableEq

/-- The statuses. A key without an entry has the status that looking it up gives it. -/
abbrev AckStatuses := Key → Status

def key (frame : Ieee80211DataOrMgmtFrame) : Key :=
  if frame.type = .ST_DATA_WITH_QOS then
    .qosData frame.receiverAddress frame.tid frame.sequenceNumber frame.fragmentNumber
  else .mgmtOrNonQoS frame.receiverAddress frame.sequenceNumber frame.fragmentNumber

variable (ackStatuses : AckStatuses)

def processReceivedAck (ackedFrame : Ieee80211DataOrMgmtFrame) : Except Fault AckStatuses :=
  if ackStatuses (key ackedFrame) = .FRAME_NOT_YET_TRANSMITTED then
    .error (.cRuntimeError "ackedFrame is not yet transmitted")
  else .ok (Function.update ackStatuses (key ackedFrame) .NORMAL_ACK_ARRIVED)

def processFailedFrame (frame : Ieee80211DataOrMgmtFrame) : Except Fault AckStatuses := do
  ASSERT (ackStatuses (key frame) = .WAITING_FOR_NORMAL_ACK)
    "getQoSDataAckStatus(dataFrame) == Status::WAITING_FOR_NORMAL_ACK"
  return Function.update ackStatuses (key frame) .NORMAL_ACK_NOT_ARRIVED

/-- The row of the bitmap that is about a sequence number. -/
def bitmapRow (startingSequenceNumber : ℤ) (sequenceNumber : Fin 4096) : Option ℕ :=
  (List.range 64).find? fun seqNum =>
    (startingSequenceNumber + seqNum).tmod 4096 = (sequenceNumber : ℕ)

variable (transmitterAddress : MACAddress) (blockAck : Ieee80211BasicBlockAck)

/-- The bit of a BlockAck frame that is about a key, if there is one. -/
def blockAckBit : Key → Option Bool
  | .qosData receiverAddress tid sequenceNumber fragmentNumber =>
    if receiverAddress = transmitterAddress ∧ tid = blockAck.tidInfo ∧ fragmentNumber < 16 then
      (bitmapRow blockAck.startingSequenceNumber sequenceNumber).map fun seqNum =>
        blockAck.acknowledges seqNum fragmentNumber
    else none
  | .mgmtOrNonQoS _ _ _ => none

/-- The keys that the frame acknowledges. -/
def ackedFrames (id : Key) : Bool :=
  ackStatuses id = .WAITING_FOR_BLOCK_ACK ∧ blockAckBit transmitterAddress blockAck id = some true

/-- Each key of the window is looked at once. -/
def processReceivedBlockAck : AckStatuses := fun id =>
  if ackStatuses id = .WAITING_FOR_BLOCK_ACK then
    match blockAckBit transmitterAddress blockAck id with
    | some true => .BLOCK_ACK_ARRIVED_ACKED
    | some false => .BLOCK_ACK_ARRIVED_UNACKED
    | none => ackStatuses id
  else ackStatuses id

def processTransmittedDataOrMgmtFrame
    (frame : Ieee80211DataOrMgmtFrame) (ackPolicy : AckPolicy) : Except Fault AckStatuses :=
  if frame.type = .ST_DATA_WITH_QOS then
    match ackPolicy with
    | .NORMAL_ACK => .ok (Function.update ackStatuses (key frame) .WAITING_FOR_NORMAL_ACK)
    | .BLOCK_ACK => .ok (Function.update ackStatuses (key frame) .BLOCK_ACK_NOT_YET_REQUESTED)
    | .NO_ACK => .ok (Function.update ackStatuses (key frame) .NO_ACK_REQUIRED)
    | .NO_EXPLICIT_ACK => .error (.cRuntimeError "Unimplemented")
  else .ok (Function.update ackStatuses (key frame) .WAITING_FOR_NORMAL_ACK)

/-- The receiver of the request is not looked at, and sequence numbers are compared as plain
numbers. -/
def processTransmittedBlockAckReq (blockAckReq : BuiltBlockAckReq) : AckStatuses
  | .qosData receiverAddress tid sequenceNumber fragmentNumber =>
    let status := ackStatuses (.qosData receiverAddress tid sequenceNumber fragmentNumber)
    if blockAckReq.tidInfo = tid ∧ status = .BLOCK_ACK_NOT_YET_REQUESTED ∧
        blockAckReq.startingSequenceNumber ≤ sequenceNumber then .WAITING_FOR_BLOCK_ACK
    else status
  | id => ackStatuses id

def isEligibleToTransmit (frame : Ieee80211DataOrMgmtFrame) : Bool :=
  let status := ackStatuses (key frame)
  status = .BLOCK_ACK_ARRIVED_UNACKED ∨ status = .NORMAL_ACK_NOT_ARRIVED ∨
    status = .FRAME_NOT_YET_TRANSMITTED

def isOutstandingFrame (frame : Ieee80211DataOrMgmtFrame) : Bool :=
  frame.type = .ST_DATA_WITH_QOS ∧ ackStatuses (key frame) = .BLOCK_ACK_NOT_YET_REQUESTED

def frameGotInProgress (frame : Ieee80211DataOrMgmtFrame) : Except Fault AckStatuses := do
  ASSERT (ackStatuses (key frame) ≠ .WAITING_FOR_NORMAL_ACK)
    "status != Status::WAITING_FOR_NORMAL_ACK"
  if frame.type = .ST_DATA_WITH_QOS then
    ASSERT (ackStatuses (key frame) ≠ .BLOCK_ACK_NOT_YET_REQUESTED ∧
        ackStatuses (key frame) ≠ .WAITING_FOR_BLOCK_ACK)
      "status != Status::BLOCK_ACK_NOT_YET_REQUESTED && status != Status::WAITING_FOR_BLOCK_ACK"
  else pure ()
  return Function.update ackStatuses (key frame) .FRAME_NOT_YET_TRANSMITTED

end QoSAckHandler


open QoSAckHandler

/-- What the data service makes of the next frame of the queue: its fragments, at least one. -/
structure Fragments where
  first : Ieee80211DataOrMgmtFrame
  rest : List Ieee80211DataOrMgmtFrame

def Fragments.frames (fragments : Fragments) : List Ieee80211DataOrMgmtFrame :=
  fragments.first :: fragments.rest

/-- The frames of a queue that are in progress, with the queue and the acknowledgement handler
they come with. `nextId` is for the frame that gets in progress next. -/
structure InProgressFrames where
  pendingQueue : List Fragments
  inProgressFrames : List Ieee80211DataOrMgmtFrame
  ackStatuses : AckStatuses
  nextId : ℕ

namespace InProgressFrames

variable (q : InProgressFrames)

def hasEligibleFrameToTransmit : Bool :=
  q.inProgressFrames.any (isEligibleToTransmit q.ackStatuses)

/-- A frame gets in progress, as an object of its own. -/
def push (frame : Ieee80211DataOrMgmtFrame) : Except Fault InProgressFrames := do
  let ackStatuses ← frameGotInProgress q.ackStatuses { frame with id := q.nextId }
  return { q with
    ackStatuses := ackStatuses
    inProgressFrames := q.inProgressFrames ++ [{ frame with id := q.nextId }]
    nextId := q.nextId + 1 }

/-- Nothing happens when the queue is empty. -/
def extractFramesToTransmit : Except Fault InProgressFrames :=
  match q.pendingQueue with
  | [] => .ok q
  | fragments :: pendingQueue =>
    fragments.frames.foldlM push { q with pendingQueue := pendingQueue }

def ensureHasFrameToTransmit : Except Fault InProgressFrames :=
  if q.hasEligibleFrameToTransmit then .ok q else q.extractFramesToTransmit

def eligibleFrame : Option Ieee80211DataOrMgmtFrame :=
  q.inProgressFrames.find? (isEligibleToTransmit q.ackStatuses)

def getFrameToTransmit : Except Fault (Option Ieee80211DataOrMgmtFrame × InProgressFrames) := do
  let q ← q.ensureHasFrameToTransmit
  return (q.eligibleFrame, q)

def hasInProgressFrames : Except Fault (Bool × InProgressFrames) := do
  let q ← q.ensureHasFrameToTransmit
  return (q.hasEligibleFrameToTransmit, q)

/-- What this does for a frame other than an RTS frame. The frame it finds only sets a duration. -/
def getPendingFrameFor : Except Fault InProgressFrames := do
  let (frameToTransmit, q) ← q.getFrameToTransmit
  if q.inProgressFrames.any fun frame =>
      isEligibleToTransmit q.ackStatuses frame && frameToTransmit ≠ some frame then
    return q
  else q.extractFramesToTransmit

def dropFrame (frame : Ieee80211DataOrMgmtFrame) : InProgressFrames :=
  { q with inProgressFrames := q.inProgressFrames.filter (·.id ≠ frame.id) }

def dropFrames (seqAndFragNums : Key → Bool) : InProgressFrames :=
  { q with inProgressFrames := q.inProgressFrames.filter fun frame =>
      !(frame.type = .ST_DATA_WITH_QOS && seqAndFragNums (key frame)) }

def getOutstandingFrames : List Ieee80211DataOrMgmtFrame :=
  q.inProgressFrames.filter (isOutstandingFrame q.ackStatuses)

end InProgressFrames


/-- What of an agreement the policy of an originator reads. -/
structure OriginatorBlockAckAgreement where
  startingSequenceNumber : ℤ
  bufferSize : ℤ
  numSentBaPolicyFrames : ℤ
  isAMsduSupported : Bool
  isAddbaResponseReceived : Bool

structure OriginatorQoSAckPolicy where
  maxBlockAckPolicyFrameLength : ℤ
  blockAckReqTreshold : ℤ

namespace OriginatorQoSAckPolicy

variable (policy : OriginatorQoSAckPolicy) (outstandingFrames : List Ieee80211DataOrMgmtFrame)

/-- The outstanding frames of a receiver, in their order. -/
def outstandingFramesOf (receiverAddress : MACAddress) : List Ieee80211DataOrMgmtFrame :=
  outstandingFrames.filter (·.receiverAddress = receiverAddress)

/-- The keys of `getOutstandingFramesPerReceiver` in ascending order. -/
def receivers : List MACAddress :=
  ((outstandingFrames.map (·.receiverAddress)).dedup).insertionSort (·.toNat ≤ ·.toNat)

/-- The least of the numbers, whether or not they have wrapped around. -/
def computeStartingSequenceNumber (first : Ieee80211DataOrMgmtFrame)
    (outstandingFrames : List Ieee80211DataOrMgmtFrame) : Fin 4096 :=
  outstandingFrames.foldl (fun startingSequenceNumber frame =>
    if frame.sequenceNumber < startingSequenceNumber then frame.sequenceNumber
    else startingSequenceNumber) first.sequenceNumber

def isBlockAckReqNeeded : Bool :=
  (receivers outstandingFrames).any fun receiverAddress =>
    policy.blockAckReqTreshold ≤ (outstandingFramesOf outstandingFrames receiverAddress).length

/-- The first receiver with the most outstanding frames. -/
def largestOutstandingFrames (first : MACAddress) : MACAddress :=
  (receivers outstandingFrames).foldl (fun largest receiverAddress =>
    if (outstandingFramesOf outstandingFrames largest).length <
      (outstandingFramesOf outstandingFrames receiverAddress).length then receiverAddress
    else largest) first

/-- The request, for as long as one is needed. Its TID is that of the first frame, its starting
sequence number may be that of a frame with another one. -/
def computeBlockAckReqParameters : Option BuiltBlockAckReq :=
  match receivers outstandingFrames with
  | [] => none
  | begin :: _ =>
    let receiverAddress := largestOutstandingFrames outstandingFrames begin
    match outstandingFramesOf outstandingFrames receiverAddress with
    | [] => none
    | first :: rest =>
      some ⟨receiverAddress, first.tid, computeStartingSequenceNumber first rest⟩

variable (frame : Ieee80211DataOrMgmtFrame)

def isBlockAckPolicyEligibleFrame : Bool :=
  frame.type = .ST_DATA_WITH_QOS ∧ frame.byteLength < policy.maxBlockAckPolicyFrameLength

def checkAgreementPolicy (agreement : OriginatorBlockAckAgreement) : Bool :=
  agreement.bufferSize ≠ agreement.numSentBaPolicyFrames ∧
    (agreement.isAMsduSupported ∨ !frame.aMsduPresent) ∧
    agreement.startingSequenceNumber ≤ (frame.sequenceNumber : ℕ)

def computeAckPolicy : Option OriginatorBlockAckAgreement → AckPolicy
  | none => .NORMAL_ACK
  | some agreement =>
    if agreement.isAddbaResponseReceived && policy.isBlockAckPolicyEligibleFrame frame then
      if checkAgreementPolicy frame agreement then .BLOCK_ACK else .NORMAL_ACK
    else .NORMAL_ACK

end OriginatorQoSAckPolicy

end inet.ieee80211
