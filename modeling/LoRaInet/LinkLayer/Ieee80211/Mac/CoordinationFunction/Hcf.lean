import LoRaInet.LinkLayer.Ieee80211.Mac.Originator.RecoveryProcedure
import LoRaInet.Transition.Run

open omnetpp transition

namespace inet.ieee80211

/-- What a queue logs and signals about its frames. -/
inductive Report where
  | transmitted (frame : Ieee80211DataOrMgmtFrame)
  | rtsTransmissionFailed (protectedFrame : Ieee80211DataOrMgmtFrame)
  | transmissionFailed (failedFrame : Ieee80211DataOrMgmtFrame)
  | discarded (frame : Ieee80211DataOrMgmtFrame)
  | acknowledged (frame : Ieee80211DataOrMgmtFrame)
  deriving DecidableEq

/-- What belongs to one access category: its frames, with the acknowledgement policy and the retry
bit that each of them carries, its recovery procedure and its log, the latest entry first. -/
structure EdcaQueue where
  frames : InProgressFrames
  ackPolicy : ℕ → AckPolicy
  retry : ℕ → Bool
  dataRecovery : QoSRecoveryProcedure
  log : List Report

namespace EdcaQueue

variable (q : EdcaQueue)

def report (report : Report) : EdcaQueue := { q with log := report :: q.log }

def requestChannel : EdcaQueue :=
  { q with dataRecovery.cwCalculator.isContentionInProgress := true }

def insert (fragments : Fragments) : EdcaQueue :=
  { q with frames.pendingQueue := q.frames.pendingQueue ++ [fragments] }

def hasFrameToTransmit : Bool :=
  !q.frames.pendingQueue.isEmpty || q.frames.hasEligibleFrameToTransmit

/-- A frame that has reached its retry limit is dropped. -/
def discard (frame : Ieee80211DataOrMgmtFrame) : EdcaQueue :=
  { q with
    frames := q.frames.dropFrame frame
    dataRecovery := q.dataRecovery.retryLimitReached frame }.report (.discarded frame)

def dataFrameTransmissionFailed (frame : Ieee80211DataOrMgmtFrame) : EdcaQueue :=
  { q with dataRecovery := q.dataRecovery.dataFrameTransmissionFailed frame }.report
    (.transmissionFailed frame)

def rtsFrameTransmissionFailed (frame : Ieee80211DataOrMgmtFrame) : EdcaQueue :=
  { q with dataRecovery := q.dataRecovery.rtsFrameTransmissionFailed frame }.report
    (.rtsTransmissionFailed frame)

end EdcaQueue

/-- The alternatives of a transmission opportunity. -/
inductive TxOpSequence where
  | dataBlockAck
  | dataAck
  | blockAckReqBlockAck
  | managementAck
  deriving DecidableEq

/-- The current step of a frame sequence, with what is left of its alternative. -/
inductive SequenceStep where
  | transmitMulticast (frame : Ieee80211DataOrMgmtFrame)
  | transmitRts (protectedFrame : Ieee80211DataOrMgmtFrame) (next : TxOpSequence)
  | receiveCts (protectedFrame : Ieee80211DataOrMgmtFrame) (next : TxOpSequence)
  | transmitData (frame : Ieee80211DataOrMgmtFrame) (ackExpected : Bool)
  | transmitManagement (frame : Ieee80211DataOrMgmtFrame)
  | receiveAck (frame : Ieee80211DataOrMgmtFrame)
  | transmitBlockAckReq (blockAckReq : BuiltBlockAckReq)
  | receiveBlockAck (blockAckReq : BuiltBlockAckReq)

def SequenceStep.isTransmit : SequenceStep → Bool
  | .transmitMulticast _ | .transmitRts _ _ | .transmitData _ _ | .transmitManagement _
  | .transmitBlockAckReq _ => true
  | .receiveCts _ _ | .receiveAck _ | .receiveBlockAck _ => false

/-- Whether there is a rate control module, and the policy of the originator. -/
structure HcfParameters where
  dataAndMgmtRateControl : Bool
  originatorAckPolicy : OriginatorQoSAckPolicy

/-- `step` is that of the frame sequence that is running. -/
structure Hcf where
  queue : AccessCategory → EdcaQueue
  mgmtRecovery : NonQoSRecoveryProcedure
  stationRetryCounters : AccessCategory → StationRetryCounters
  agreements : MACAddress → Tid → Option OriginatorBlockAckAgreement
  channelOwner : Option AccessCategory
  step : Option SequenceStep

inductive ReceivedFrame where
  | ack
  | cts
  | blockAck (transmitterAddress : MACAddress) (blockAck : Ieee80211BasicBlockAck)
  | other
  deriving DecidableEq

namespace Hcf

def setQueue (s : Hcf) (ac : AccessCategory) (q : EdcaQueue) : Hcf :=
  { s with queue := Function.update s.queue ac q }

def setStep (s : Hcf) (step : SequenceStep) : Hcf := { s with step := some step }

def mapTidToAc (tid : Tid) : Except Fault AccessCategory :=
  if tid = 1 ∨ tid = 2 then .ok .AC_BK
  else if tid = 0 ∨ tid = 3 then .ok .AC_BE
  else if tid = 4 ∨ tid = 5 then .ok .AC_VI
  else if tid = 6 ∨ tid = 7 then .ok .AC_VO
  else .error (.cRuntimeError
    s!"No mapping from TID={tid} to AccessCategory (must be in the range 0..7)")

def classifyFrame (frame : Ieee80211DataOrMgmtFrame) : Except Fault AccessCategory :=
  if frame.isManagement then .ok .AC_VO else mapTidToAc frame.tid

def requestChannel (s : Hcf) (ac : AccessCategory) : Hcf :=
  s.setQueue ac (s.queue ac).requestChannel

def processUpperFrame (s : Hcf) (fragments : Fragments) : Except Fault Hcf := do
  let ac ← classifyFrame fragments.first
  let s := s.setQueue ac ((s.queue ac).insert fragments)
  return if s.channelOwner ≠ some ac then s.requestChannel ac else s

/-- For a management frame the retry limit is asked with a null pointer. -/
def originatorProcessRtsProtectionFailed (s : Hcf) (ac : AccessCategory)
    (protectedFrame : Ieee80211DataOrMgmtFrame) : Except Fault Hcf :=
  if protectedFrame.isManagement then .error .nullPointer
  else do
    let q := (s.queue ac).rtsFrameTransmissionFailed protectedFrame
    let retryLimitReached ← q.dataRecovery.isRtsFrameRetryLimitReached protectedFrame
    return s.setQueue ac (if retryLimitReached then q.discard protectedFrame else q)

/-- A management frame that failed. The window is that of the best effort queue. -/
def mgmtFrameTransmissionFailed (s : Hcf) (ac : AccessCategory)
    (frame : Ieee80211DataOrMgmtFrame) : Hcf :=
  let best := s.queue .AC_BE
  let (mgmtRecovery, stationCounters, edcaf) := s.mgmtRecovery.dataOrMgmtFrameTransmissionFailed
    frame (s.stationRetryCounters ac) best.dataRecovery.cwCalculator
  let s := s.setQueue .AC_BE { best with dataRecovery.cwCalculator := edcaf }
  let s := s.setQueue ac ((s.queue ac).report (.transmissionFailed frame))
  { s with
    mgmtRecovery := mgmtRecovery
    stationRetryCounters := Function.update s.stationRetryCounters ac stationCounters }

def discardMgmtFrame (s : Hcf) (ac : AccessCategory) (frame : Ieee80211DataOrMgmtFrame) : Hcf :=
  let q := s.queue ac
  { s.setQueue ac ({ q with frames := q.frames.dropFrame frame }.report (.discarded frame)) with
    mgmtRecovery := s.mgmtRecovery.retryLimitReached frame }

/-- The status of the failed frame, and its retry bit unless it is discarded. -/
def processFailedStatus (q : EdcaQueue) (failedFrame : Ieee80211DataOrMgmtFrame) :
    Except Fault EdcaQueue := do
  let ackStatuses ← QoSAckHandler.processFailedFrame q.frames.ackStatuses failedFrame
  return { q with frames.ackStatuses := ackStatuses }

def setRetry (q : EdcaQueue) (frame : Ieee80211DataOrMgmtFrame) : EdcaQueue :=
  { q with retry := Function.update q.retry frame.id true }

variable (p : HcfParameters)

/-- What the rate control module is told needs the retry count of the frame. -/
def checkRetryCount (q : EdcaQueue) (frame : Ieee80211DataOrMgmtFrame) : Except Fault Unit :=
  if p.dataAndMgmtRateControl then do
    let _ ← q.dataRecovery.getRetryCount frame
    return ()
  else .ok ()

def originatorProcessFailedFrame (s : Hcf) (ac : AccessCategory)
    (failedFrame : Ieee80211DataOrMgmtFrame) : Except Fault Hcf :=
  if failedFrame.isManagement then do
    let s := s.mgmtFrameTransmissionFailed ac failedFrame
    let q ← processFailedStatus (s.queue ac) failedFrame
    if s.mgmtRecovery.isRetryLimitReached failedFrame then
      return (s.setQueue ac q).discardMgmtFrame ac failedFrame
    else return s.setQueue ac (setRetry q failedFrame)
  else
    match (s.queue ac).ackPolicy failedFrame.id with
    | .NORMAL_ACK => do
      let q := (s.queue ac).dataFrameTransmissionFailed failedFrame
      let retryLimitReached ← q.dataRecovery.isRetryLimitReached failedFrame
      checkRetryCount p q failedFrame
      let q ← processFailedStatus q failedFrame
      return s.setQueue ac
        (if retryLimitReached then q.discard failedFrame else setRetry q failedFrame)
    | .BLOCK_ACK => do
      let q ← processFailedStatus (s.queue ac) failedFrame
      return s.setQueue ac (setRetry q failedFrame)
    | _ => .error (.cRuntimeError "Unimplemented!")

def originatorProcessTransmittedFrame (s : Hcf) (ac : AccessCategory)
    (frame : Ieee80211DataOrMgmtFrame) : Except Fault Hcf :=
  let q := s.queue ac
  if frame.receiverAddress.isMulticast then
    .ok (s.setQueue ac { q with
        dataRecovery := q.dataRecovery.multicastFrameTransmitted
        frames := q.frames.dropFrame frame })
  else do
    let ackStatuses ← QoSAckHandler.processTransmittedDataOrMgmtFrame q.frames.ackStatuses frame
      (q.ackPolicy frame.id)
    let frames := { q.frames with ackStatuses := ackStatuses }
    return s.setQueue ac { q with
        frames :=
          if !frame.isManagement && q.ackPolicy frame.id = .NO_ACK then frames.dropFrame frame
          else frames }

def originatorProcessTransmittedBlockAckReq (s : Hcf) (ac : AccessCategory)
    (blockAckReq : BuiltBlockAckReq) : Hcf :=
  let q := s.queue ac
  s.setQueue ac { q with
      frames.ackStatuses :=
        QoSAckHandler.processTransmittedBlockAckReq q.frames.ackStatuses blockAckReq }

/-- The counters of an acknowledged data frame are looked after only with a rate control module. -/
def ackDataFrame (q : EdcaQueue) (frame : Ieee80211DataOrMgmtFrame) : Except Fault EdcaQueue :=
  if p.dataAndMgmtRateControl then do
    if q.retry frame.id then checkRetryCount p q frame else pure ()
    return { q with dataRecovery := q.dataRecovery.ackFrameReceived frame }
  else .ok q

def ackMgmtFrame (s : Hcf) (ac : AccessCategory) (frame : Ieee80211DataOrMgmtFrame) : Hcf :=
  let best := s.queue .AC_BE
  let (mgmtRecovery, stationCounters, edcaf) := s.mgmtRecovery.ackFrameReceived frame
    (s.stationRetryCounters ac) best.dataRecovery.cwCalculator
  { s.setQueue .AC_BE { best with dataRecovery.cwCalculator := edcaf } with
    mgmtRecovery := mgmtRecovery
    stationRetryCounters := Function.update s.stationRetryCounters ac stationCounters }

/-- With a rate control module the retry count of a management frame is asked with a null
pointer. -/
def originatorProcessReceivedAck (s : Hcf) (ac : AccessCategory)
    (frame : Ieee80211DataOrMgmtFrame) : Except Fault Hcf := do
  let s ← if frame.isManagement then
      if p.dataAndMgmtRateControl then .error .nullPointer else .ok (s.ackMgmtFrame ac frame)
    else do
      let q ← ackDataFrame p (s.queue ac) frame
      pure (s.setQueue ac q)
  let q := s.queue ac
  let ackStatuses ← QoSAckHandler.processReceivedAck q.frames.ackStatuses frame
  return s.setQueue ac
    ({ q with frames := { q.frames with ackStatuses := ackStatuses }.dropFrame frame }.report
      (.acknowledged frame))

def originatorProcessReceivedBlockAck (s : Hcf) (ac : AccessCategory)
    (transmitterAddress : MACAddress) (blockAck : Ieee80211BasicBlockAck) : Hcf :=
  let q := s.queue ac
  let acked := QoSAckHandler.ackedFrames q.frames.ackStatuses transmitterAddress blockAck
  let ackStatuses :=
    QoSAckHandler.processReceivedBlockAck q.frames.ackStatuses transmitterAddress blockAck
  let dropped := q.frames.inProgressFrames.filter fun frame =>
    frame.type = .ST_DATA_WITH_QOS && acked (QoSAckHandler.key frame)
  s.setQueue ac { q with
      dataRecovery := q.dataRecovery.blockAckFrameReceived
      frames := { q.frames with ackStatuses := ackStatuses }.dropFrames acked
      log := dropped.map .acknowledged ++ q.log }

def originatorProcessReceivedCts (s : Hcf) (ac : AccessCategory) : Hcf :=
  let q := s.queue ac
  s.setQueue ac { q with dataRecovery := q.dataRecovery.ctsFrameReceived }

/-- An internal collision counts as a failed transmission. Whether the channel is requested again
after a frame was discarded depends on the frames of the owner of the channel. -/
def handleInternalCollision (s : Hcf) (owner ac : AccessCategory) : Except Fault Hcf := do
  let (frame, frames) ← (s.queue ac).frames.getFrameToTransmit
  let s := s.setQueue ac { s.queue ac with frames := frames }
  match frame with
  | none => .error .nullPointer
  | some frame =>
    if frame.isManagement then do
      ASSERT (ac = .AC_BE) "ac == AccessCategory::AC_BE"
      let s := s.mgmtFrameTransmissionFailed ac frame
      if s.mgmtRecovery.isRetryLimitReached frame then
        let s := s.discardMgmtFrame ac frame
        return if (s.queue owner).hasFrameToTransmit then s.requestChannel ac else s
      else return s.requestChannel ac
    else do
      let q := (s.queue ac).dataFrameTransmissionFailed frame
      let retryLimitReached ← q.dataRecovery.isRetryLimitReached frame
      if retryLimitReached then
        let s := s.setQueue ac (q.discard frame)
        return if (s.queue owner).hasFrameToTransmit then s.requestChannel ac else s
      else return (s.setQueue ac q).requestChannel ac

/-- The channel is released, and requested again when there are frames left. -/
def frameSequenceFinished (s : Hcf) (ac : AccessCategory) : Hcf :=
  let startContention := (s.queue ac).hasFrameToTransmit
  let s := { s with channelOwner := none, step := none }
  if startContention then s.requestChannel ac else s

def computeAckPolicy (p : HcfParameters) (s : Hcf) (frame : Ieee80211DataOrMgmtFrame) : AckPolicy :=
  p.originatorAckPolicy.computeAckPolicy frame (s.agreements frame.receiverAddress frame.tid)

/-- The acknowledgement policy is set, and the queue asked for the frame after this one. -/
def transmitFrame (s : Hcf) (ac : AccessCategory)
    (frame : Ieee80211DataOrMgmtFrame) (step : SequenceStep) : Except Fault Hcf := do
  let q := s.queue ac
  let frames ← q.frames.getPendingFrameFor
  return (s.setQueue ac ({ q with
      frames := frames
      ackPolicy :=
        if frame.isManagement then q.ackPolicy
        else Function.update q.ackPolicy frame.id (computeAckPolicy p s frame) }.report
      (.transmitted frame))).setStep step

def selectTxOpSequence (s : Hcf) (ac : AccessCategory)
    (frame : Option Ieee80211DataOrMgmtFrame) : Except Fault TxOpSequence :=
  if p.originatorAckPolicy.isBlockAckReqNeeded (s.queue ac).frames.getOutstandingFrames then
    .ok .blockAckReqBlockAck
  else
    match frame with
    | none => .error .nullPointer
    | some frame =>
      if frame.isManagement then .ok .managementAck
      else
        match computeAckPolicy p s frame with
        | .BLOCK_ACK => .ok .dataBlockAck
        | .NORMAL_ACK => .ok .dataAck
        | _ => .error (.cRuntimeError "Unknown AckPolicy")

def isRtsNeeded (s : Hcf) (ac : AccessCategory) (frame : Ieee80211DataOrMgmtFrame) : Bool :=
  (s.queue ac).dataRecovery.isLong frame && !frame.receiverAddress.isMulticast

/-- The first step of an alternative after the exchange of RTS and CTS frames. -/
def startElement (s : Hcf) (ac : AccessCategory) (sequence : TxOpSequence) : Except Fault Hcf :=
  match sequence with
  | .blockAckReqBlockAck =>
    match OriginatorQoSAckPolicy.computeBlockAckReqParameters
        (s.queue ac).frames.getOutstandingFrames with
    | none => .error .outOfRange
    | some blockAckReq => do
      let frames ← (s.queue ac).frames.getPendingFrameFor
      return (s.setQueue ac { s.queue ac with frames := frames }).setStep
        (.transmitBlockAckReq blockAckReq)
  | .managementAck => do
    let (frame, frames) ← (s.queue ac).frames.getFrameToTransmit
    let s := s.setQueue ac { s.queue ac with frames := frames }
    match frame with
    | none => .error .nullPointer
    | some frame =>
      if frame.isManagement then transmitFrame p s ac frame (.transmitManagement frame)
      else .error (.cRuntimeError "check_and_cast(): Cannot cast to Ieee80211ManagementFrame")
  | .dataBlockAck | .dataAck => do
    let (frame, frames) ← (s.queue ac).frames.getFrameToTransmit
    let s := s.setQueue ac { s.queue ac with frames := frames }
    match frame with
    | none => .error .nullPointer
    | some frame =>
      if frame.isManagement then
        .error (.cRuntimeError "check_and_cast(): Cannot cast to Ieee80211DataFrame")
      else transmitFrame p s ac frame (.transmitData frame (sequence = .dataAck))

def startTxOp (s : Hcf) (ac : AccessCategory) : Except Fault Hcf := do
  let (frame, frames) ← (s.queue ac).frames.getFrameToTransmit
  let s := s.setQueue ac { s.queue ac with frames := frames }
  let sequence ← selectTxOpSequence p s ac frame
  match sequence, frame with
  | .blockAckReqBlockAck, _ | _, none => startElement p s ac sequence
  | _, some frame =>
    if s.isRtsNeeded ac frame then return s.setStep (.transmitRts frame sequence)
    else startElement p s ac sequence

/-- The next transmission opportunity, as long as there is time left for one. -/
def repeatSequence (s : Hcf) (ac : AccessCategory) (remaining : Bool) : Except Fault Hcf := do
  let (hasFrameToTransmit, frames) ← (s.queue ac).frames.hasInProgressFrames
  let s := s.setQueue ac { s.queue ac with frames := frames }
  if hasFrameToTransmit then
    match frames.eligibleFrame with
    | none => .error .nullPointer
    | some nextFrameToTransmit =>
      if !nextFrameToTransmit.receiverAddress.isMulticast && remaining then startTxOp p s ac
      else return s.frameSequenceFinished ac
  else return s.frameSequenceFinished ac

/-- The sequence of a multicast frame is never repeated. -/
def repeatMulticastSequence (s : Hcf) (ac : AccessCategory) : Except Fault Hcf := do
  let (_, frames) ← (s.queue ac).frames.hasInProgressFrames
  return (s.setQueue ac { s.queue ac with frames := frames }).frameSequenceFinished ac

def startFrameSequence (s : Hcf) (ac : AccessCategory) : Except Fault Hcf :=
  if s.step.isSome then
    .error (.cRuntimeError "Channel access granted while a frame sequence is running")
  else do
    let (frame, frames) ← (s.queue ac).frames.getFrameToTransmit
    let s := s.setQueue ac { s.queue ac with frames := frames }
    match frame with
    | none => .error .nullPointer
    | some frame =>
      if frame.receiverAddress.isMulticast then
        transmitFrame p s ac frame (.transmitMulticast frame)
      else startTxOp p s ac

def endContention (s : Hcf) (ac : AccessCategory) : Hcf :=
  s.setQueue ac { s.queue ac with dataRecovery.cwCalculator.isContentionInProgress := false }

def channelGranted (s : Hcf) (ac : AccessCategory)
    (internallyCollided : List AccessCategory) : Except Fault Hcf := do
  let s := { (ac :: internallyCollided).foldl endContention s with channelOwner := some ac }
  let s ← internallyCollided.foldlM (fun s collided => s.handleInternalCollision ac collided) s
  startFrameSequence p s ac

def abortFrameSequence (s : Hcf) (ac : AccessCategory)
    (step : SequenceStep) : Except Fault Hcf := do
  let s ← match step with
    | .receiveCts protectedFrame _ => s.originatorProcessRtsProtectionFailed ac protectedFrame
    | .receiveAck frame => s.originatorProcessFailedFrame p ac frame
    | _ => .ok s
  return s.frameSequenceFinished ac

/-- The request for a block ack agreement that a transmitted frame may set off is put in its queue
before the sequence goes on. -/
def transmissionComplete (s : Hcf) (ac : AccessCategory)
    (step : SequenceStep) (addbaRequest : Option Fragments) (remaining : Bool) :
    Except Fault Hcf :=
  match step with
  | .transmitMulticast frame => do
    let s ← s.originatorProcessTransmittedFrame ac frame
    repeatMulticastSequence s ac
  | .transmitRts protectedFrame next => .ok (s.setStep (.receiveCts protectedFrame next))
  | .transmitData frame ackExpected => do
    let s ← s.originatorProcessTransmittedFrame ac frame
    let s ← match addbaRequest with
      | some request => s.processUpperFrame request
      | none => .ok s
    if ackExpected then return s.setStep (.receiveAck frame) else repeatSequence p s ac remaining
  | .transmitManagement frame => do
    let s ← s.originatorProcessTransmittedFrame ac frame
    return s.setStep (.receiveAck frame)
  | .transmitBlockAckReq blockAckReq =>
    .ok ((s.originatorProcessTransmittedBlockAckReq ac blockAckReq).setStep
      (.receiveBlockAck blockAckReq))
  | .receiveCts _ _ | .receiveAck _ | .receiveBlockAck _ => .ok s

/-- A response to the last transmission. Any frame but the expected one aborts the sequence. -/
def processResponse (s : Hcf) (ac : AccessCategory) (step : SequenceStep)
    (frame : ReceivedFrame) (remaining : Bool) : Except Fault Hcf :=
  match step, frame with
  | .receiveCts _ next, .cts => startElement p (s.originatorProcessReceivedCts ac) ac next
  | .receiveAck frame, .ack => do
    let s ← s.originatorProcessReceivedAck p ac frame
    repeatSequence p s ac remaining
  | .receiveBlockAck _, .blockAck transmitterAddress blockAck =>
    repeatSequence p (s.originatorProcessReceivedBlockAck ac transmitterAddress blockAck) ac
      remaining
  | step, _ =>
    if step.isTransmit then
      .error (.cRuntimeError "Received frame while current step is transmit")
    else s.abortFrameSequence p ac step

/-- A frame that comes while no sequence is running. What its receiver does with it is left out. -/
def recipientProcessReceivedFrame (s : Hcf) : ReceivedFrame → Except Fault Hcf
  | .ack | .other => .ok s
  | .cts | .blockAck _ _ => .error (.cRuntimeError "Unknown control frame")

def handleStartRxTimeout (s : Hcf) (ac : AccessCategory) (step : SequenceStep) : Except Fault Hcf :=
  if step.isTransmit then .error (.cRuntimeError "Received timeout while in transmit step")
  else s.abortFrameSequence p ac step

inductive Event where
  | upperFrame (fragments : Fragments)
  /-- The data service puts frames together, or the queue orders them anew. -/
  | pendingQueueChanged (ac : AccessCategory) (pendingQueue : List Fragments)
  | agreementsChanged (agreements : MACAddress → Tid → Option OriginatorBlockAckAgreement)
  | channelGranted (ac : AccessCategory) (internallyCollided : List AccessCategory)
  | transmissionComplete (addbaRequest : Option Fragments) (remaining : Bool)
  | lowerFrame (frame : ReceivedFrame) (remaining : Bool)
  | startRxTimeout
  | corruptedFrameReceived

/-- The step and the queue of the sequence that is running. -/
def running (s : Hcf) : Option (AccessCategory × SequenceStep) :=
  match s.channelOwner, s.step with
  | some ac, some step => some (ac, step)
  | _, _ => none

def handleEvent (s : Hcf) : Event → Except Fault Hcf
  | .upperFrame fragments => s.processUpperFrame fragments
  | .pendingQueueChanged ac pendingQueue =>
    .ok (s.setQueue ac { s.queue ac with frames.pendingQueue := pendingQueue })
  | .agreementsChanged agreements => .ok { s with agreements := agreements }
  | .channelGranted ac internallyCollided => s.channelGranted p ac internallyCollided
  | .transmissionComplete addbaRequest remaining =>
    match s.running with
    | some (ac, step) => s.transmissionComplete p ac step addbaRequest remaining
    | none => .ok s
  | .lowerFrame frame remaining =>
    match s.running with
    | some (ac, step) => s.processResponse p ac step frame remaining
    | none => s.recipientProcessReceivedFrame frame
  | .startRxTimeout | .corruptedFrameReceived =>
    match s.running with
    | some (ac, step) => s.handleStartRxTimeout p ac step
    | none => .ok s

/-- All frames of the fragments belong to this access category. -/
def Belongs (fragments : Fragments) (ac : AccessCategory) : Prop :=
  ∀ frame ∈ fragments.frames, classifyFrame frame = .ok ac
deriving Decidable

/-- The events that can come in a state: the channel is granted to a queue that contends for it,
and the queues it collides with contend for it too and have lower priorities. -/
def Enabled (s : Hcf) : Event → Prop
  | .upperFrame fragments =>
    ∀ frame ∈ fragments.frames, classifyFrame frame = classifyFrame fragments.first
  | .pendingQueueChanged ac pendingQueue =>
    (pendingQueue = [] ↔ (s.queue ac).frames.pendingQueue = []) ∧
      ∀ fragments ∈ pendingQueue, Belongs fragments ac
  | .agreementsChanged _ => True
  | .channelGranted ac internallyCollided =>
    (s.queue ac).dataRecovery.cwCalculator.isContentionInProgress ∧
      internallyCollided.Nodup ∧ ∀ collided ∈ internallyCollided, collided.toNat < ac.toNat ∧
        (s.queue collided).dataRecovery.cwCalculator.isContentionInProgress
  | .transmissionComplete addbaRequest _ =>
    (∃ step ∈ s.step, step.isTransmit) ∧
      ∀ request ∈ addbaRequest, ∀ frame ∈ request.frames, frame.isManagement
  | .lowerFrame _ _ => True
  | .startRxTimeout => ∃ step ∈ s.step, !step.isTransmit
  | .corruptedFrameReceived => True

instance (s : Hcf) : DecidablePred (Enabled s)
  | .upperFrame fragments => inferInstanceAs (Decidable
      (∀ frame ∈ fragments.frames, classifyFrame frame = classifyFrame fragments.first))
  | .pendingQueueChanged ac pendingQueue => inferInstanceAs (Decidable
      ((pendingQueue = [] ↔ (s.queue ac).frames.pendingQueue = []) ∧
        ∀ fragments ∈ pendingQueue, Belongs fragments ac))
  | .agreementsChanged _ | .lowerFrame _ _ | .corruptedFrameReceived => isTrue trivial
  | .channelGranted ac internallyCollided => inferInstanceAs (Decidable
      ((s.queue ac).dataRecovery.cwCalculator.isContentionInProgress ∧
        internallyCollided.Nodup ∧ ∀ collided ∈ internallyCollided, collided.toNat < ac.toNat ∧
          (s.queue collided).dataRecovery.cwCalculator.isContentionInProgress))
  | .transmissionComplete addbaRequest _ => inferInstanceAs (Decidable
      ((∃ step ∈ s.step, step.isTransmit) ∧
        ∀ request ∈ addbaRequest, ∀ frame ∈ request.frames, frame.isManagement))
  | .startRxTimeout => inferInstanceAs (Decidable (∃ step ∈ s.step, !step.isTransmit))

/-- One event, as long as it can come. -/
def handle (p : HcfParameters) (s : Hcf) (e : Event) : Option (Hcf × Unit) :=
  if Enabled s e then (s.handleEvent p e).toOption.map (·, ()) else none

theorem handle_eq_some {p : HcfParameters} {s s' : Hcf} {e : Event} {o : Unit} :
    handle p s e = some (s', o) ↔ Enabled s e ∧ s.handleEvent p e = .ok s' := by
  unfold handle
  split
  · next henabled =>
    rw [Option.map_eq_some_iff]
    simp [henabled, toOption_eq_some]
  · next hdisabled => simp [hdisabled]

end Hcf

/-- A queue that no frame has come to. -/
structure EdcaQueue.Initial (q : EdcaQueue) : Prop where
  pendingQueue : q.frames.pendingQueue = []
  inProgressFrames : q.frames.inProgressFrames = []
  ackStatuses : q.frames.ackStatuses = fun _ => .FRAME_NOT_YET_TRANSMITTED
  retry : q.retry = fun _ => false
  log : q.log = []
  shortRetryCounter : q.dataRecovery.shortRetryCounter = fun _ => none
  longRetryCounter : q.dataRecovery.longRetryCounter = fun _ => none
  shortRetryLimit : 1 ≤ q.dataRecovery.shortRetryLimit
  longRetryLimit : 1 ≤ q.dataRecovery.longRetryLimit
  cwMin : 0 ≤ q.dataRecovery.cwCalculator.cwMin
  cwMax : q.dataRecovery.cwCalculator.cwMin ≤ q.dataRecovery.cwCalculator.cwMax
  cw : q.dataRecovery.cwCalculator.cw = q.dataRecovery.cwCalculator.cwMin

structure Hcf.Initial (s : Hcf) : Prop where
  queue : ∀ ac, (s.queue ac).Initial
  channelOwner : s.channelOwner = none
  step : s.step = none

end inet.ieee80211
