import LoRaInet.TransportLayer.Tcp.TCPConnection

open omnetpp

namespace inet.tcp.TCPConnection

section LossRecovery

variable (c : TCPConnection)

def isLost (seqNum : uint32) : Except Fault Bool :=
  tcp.isLost ⟨c.sack_enabled, c.snd_una, c.snd_mss⟩ c.rexmitQueue seqNum

/-- The bytes of a block that are in the network: once when it is not lost, and once when it is sent again. -/
def pipeOf (s1 length : uint32) (sacked : Bool) : Except Fault uint32 :=
  if sacked then .ok 0
  else do
    let lost ← c.isLost s1
    .ok ((if lost then 0 else length) + if seqLess s1 c.highRxt then length else 0)

/-- The loop of `setPipe`; each block has a byte at least. -/
def setPipeLoop : ℕ → TCPConnection → uint32 → Except Fault TCPConnection
  | 0, c, _ => .ok c
  | rounds + 1, c, s1 =>
    if seqLess s1 c.snd_max then do
      let (length, sacked, _) ← c.rexmitQueue.checkSackBlock s1
      let bytes ← c.pipeOf s1 length sacked
      setPipeLoop rounds { c with pipe := c.pipe + bytes } (s1 + length)
    else .ok c

def setPipe : Except Fault TCPConnection := do
  ASSERT c.sack_enabled "state->sack_enabled"
  let c := { c with highRxt := c.rexmitQueue.getHighestRexmittedSeqNum, pipe := 0 }
  setPipeLoop (c.snd_max - c.snd_una).toNat c c.snd_una

/-- The first block that is not SACKed, from a sequence number on. -/
def firstUnsacked (highestSackedSeqNum : uint32) : ℕ → uint32 → Except Fault (Option uint32)
  | 0, _ => .ok none
  | rounds + 1, s =>
    if seqLess s c.snd_max && seqLess s highestSackedSeqNum then do
      let (length, sacked, _) ← c.rexmitQueue.checkSackBlock s
      if sacked then firstUnsacked highestSackedSeqNum rounds (s + length) else .ok (some s)
    else .ok none

def isLostBlock : Option uint32 → Except Fault Bool
  | some s2 => c.isLost s2
  | none => .ok false

def nextSeg : Except Fault (TCPConnection × Option uint32) := do
  ASSERT c.sack_enabled "state->sack_enabled"
  let c := { c with highRxt := c.rexmitQueue.getHighestRexmittedSeqNum }
  let unsacked ← c.firstUnsacked c.rexmitQueue.getHighestSackedSeqNum (c.snd_max - c.highRxt).toNat c.highRxt
  let lost ← c.isLostBlock unsacked
  if lost then .ok (c, unsacked)
  -- the difference of the window and `pipe` is an unsigned one
  else if c.sendQueue.getBytesAvailable c.snd_max > 0 &&
      (c.snd_wnd < c.pipe || c.snd_wnd - c.pipe ≥ c.snd_mss) then .ok (c, some c.snd_max)
  else .ok (c, unsacked)

def sendSegmentDuringLossRecoveryPhase (seqNum : uint32) : Except Fault TCPConnection := do
  ASSERT (c.sack_enabled && c.lossRecovery) "state->sack_enabled && state->lossRecovery"
  let old_highRxt := c.rexmitQueue.getHighestRexmittedSeqNum
  let c ← { c with snd_nxt := seqNum }.sendSegment c.snd_mss
  let sentSeqNum := seqNum + c.sentBytes
  ASSERT (seqLE c.snd_nxt (sentSeqNum + 1)) "seqLE(state->snd_nxt, sentSeqNum + 1)"
  let c := { c with
    highRxt := if seqLess seqNum c.snd_max then c.rexmitQueue.getHighestRexmittedSeqNum else c.highRxt
    snd_max := if seqGreater sentSeqNum c.snd_max then sentSeqNum else c.snd_max }.ackSent
  if old_highRxt ≠ c.highRxt then c.restartRexmitTimer else c.dataSent seqNum

/-- The loop of `sendDataDuringLossRecoveryPhase`. -/
def lossRecoveryLoop (congestionWindow : uint32) : ℕ → TCPConnection → Except Fault TCPConnection
  | rounds, c =>
    if congestionWindow.toInt - c.pipe.toInt ≥ c.snd_mss.toInt then
      match rounds with
      | 0 => .error (.cRuntimeError "sendDataDuringLossRecoveryPhase does not return")
      | rounds + 1 => do
        let (c, seqNum) ← c.nextSeg
        match seqNum with
        | none => .ok c
        | some seqNum => do
          let c ← c.sendSegmentDuringLossRecoveryPhase seqNum
          lossRecoveryLoop congestionWindow rounds { c with pipe := c.pipe + c.sentBytes }
    else .ok c

def sendDataDuringLossRecoveryPhase (congestionWindow : uint32) : Except Fault TCPConnection := do
  ASSERT (c.sack_enabled && c.lossRecovery) "state->sack_enabled && state->lossRecovery"
  lossRecoveryLoop congestionWindow ((congestionWindow.toInt - c.pipe.toInt).toNat + 1) c

end LossRecovery

section BaseAlg

variable (c : TCPConnection)

def rttMeasurementComplete (tSent tAcked : SimTime) : TCPConnection :=
  let err := (tAcked - tSent) - c.srtt
  let srtt := c.srtt + 1 / 8 * err
  let rttvar := c.rttvar + 1 / 8 * (|err| - c.rttvar)
  let rto := srtt + 4 * rttvar
  { c with srtt, rttvar
           rexmit_timeout := if rto > MAX_REXMIT_TIMEOUT then MAX_REXMIT_TIMEOUT
             else if rto < MIN_REXMIT_TIMEOUT then MIN_REXMIT_TIMEOUT else rto }

/-- Milliseconds. -/
def convertSimtimeToTS (simtime : SimTime) : uint32 := BitVec.ofInt 32 (simtime * 1000).floor

def convertTSToSimtime (timestamp : uint32) : SimTime := timestamp.toNat / 1000

def rttMeasurementCompleteUsingTS (echoedTS : uint32) : TCPConnection :=
  c.rttMeasurementComplete (convertTSToSimtime echoedTS) (convertTSToSimtime (convertSimtimeToTS c.now))

/-- `TCPBaseAlg::established`. -/
def established (active : Bool) (syn_rexmit_count : ℕ) : Except Fault TCPConnection :=
  let snd_cwnd := if c.increased_IW_enabled && syn_rexmit_count = 0 then
      umin (4 * c.snd_mss) (umax (2 * c.snd_mss) 4380)
    else c.snd_mss
  let c := { c with snd_cwnd }
  if active then do
    let (c, sent) ← c.sendData false
    if sent then .ok c else c.sendAck
  else .ok c

/-- The part of `processRexmitTimer` that the flavours share. -/
def baseProcessRexmitTimer : Except Fault (TCPConnection × Bool) :=
  let c := { c with rexmit_count := c.rexmit_count + 1 }
  if c.rexmit_count > MAX_REXMIT_COUNT then .ok (c, false)
  else do
    let c := { c with rexmit_timeout := min (c.rexmit_timeout + c.rexmit_timeout) MAX_REXMIT_TIMEOUT }
    let c ← c.scheduleTimeout .REXMIT c.rexmit_timeout
    let c := { c with rtseq_sendtime := 0, time_last_data_sent := c.now }
    .ok (if c.sack_enabled then
        { c with rexmitQueue := c.rexmitQueue.resetSackedBit.resetRexmittedBit
                 recoveryPoint := if c.lossRecovery then c.snd_max else c.recoveryPoint
                 lossRecovery := false }
      else c, true)

/-- The bounds are put on `rexmit_timeout`. -/
def nextPersistTimeout : TCPConnection :=
  let persist_factor := if c.persist_factor = 0 then 1
    else if c.persist_factor < 64 then c.persist_factor * 2 else c.persist_factor
  let persist_timeout := (persist_factor : SimTime) * (3 / 2)
  let rexmit_timeout := if persist_timeout < MIN_PERSIST_TIMEOUT then MIN_PERSIST_TIMEOUT else c.rexmit_timeout
  let rexmit_timeout := if persist_timeout > MAX_PERSIST_TIMEOUT then MAX_PERSIST_TIMEOUT else rexmit_timeout
  { c with persist_factor, persist_timeout, rexmit_timeout }

def processPersistTimer : Except Fault TCPConnection := do
  let c := c.nextPersistTimeout
  let c ← c.scheduleTimeout .PERSIST c.persist_timeout
  c.sendProbe

def processDelayedAckTimer : Except Fault TCPConnection := { c with ack_now := true }.sendAck

def receivedOutOfOrderSegment : Except Fault TCPConnection := { c with ack_now := true }.sendAck

def receiveSeqChanged : Except Fault TCPConnection :=
  if c.full_sized_segment_counter = 0 && !c.ack_now && c.last_ack_sent = c.rcv_nxt &&
      !c.isScheduled .DELAYEDACK then .ok c
  else
    let c := if c.lossRecovery then { c with ack_now := true } else c
    if !c.delayed_acks_enabled || c.ack_now || c.full_sized_segment_counter ≥ 2 then c.sendAck
    else if c.isScheduled .DELAYEDACK then .ok c
    else c.scheduleTimeout .DELAYEDACK DELAYED_ACK_TIMEOUT

/-- The measurement that ends with this acknowledgement. -/
def finishRttMeasurement : TCPConnection :=
  if !c.ts_enabled && c.rtseq_sendtime ≠ 0 && seqLess c.rtseq c.snd_una then
    { c.rttMeasurementComplete c.rtseq_sendtime c.now with rtseq_sendtime := 0 }
  else c

def updateRexmitTimer : Except Fault TCPConnection :=
  if c.snd_una = c.snd_max then .ok (c.cancelEvent .REXMIT) else c.restartRexmitTimer

def updatePersistTimer : Except Fault TCPConnection :=
  if c.snd_wnd = 0 && !c.isScheduled .REXMIT then
    if c.isScheduled .PERSIST then .ok c else c.scheduleTimeout .PERSIST c.persist_timeout
  else if c.isScheduled .PERSIST then .ok { c.cancelEvent .PERSIST with persist_factor := 0 } else .ok c

def baseReceivedDataAck : Except Fault TCPConnection := do
  let c ← c.finishRttMeasurement.updateRexmitTimer
  c.updatePersistTimer

def baseReceivedDuplicateAck : Except Fault TCPConnection :=
  let fullSegmentsOnly := c.nagle_enabled && c.snd_una ≠ c.snd_max
  if c.dupacks < DUPTHRESH.toNat && c.limited_transmit_enabled then c.sendOneNewSegment fullSegmentsOnly c.snd_cwnd
  else .ok c

end BaseAlg

section Flavours

variable (c : TCPConnection)

/-- The same in both flavours. -/
def recalculateSlowStartThreshold : TCPConnection :=
  { c with ssthresh := umax (umin c.snd_cwnd c.snd_wnd / 2) (2 * c.snd_mss) }

/-- Slow start and congestion avoidance. A division by zero would end the simulation. -/
def openCwnd : Except Fault TCPConnection :=
  if c.snd_cwnd < c.ssthresh then .ok { c with snd_cwnd := c.snd_cwnd + c.snd_mss }
  else if c.snd_cwnd = 0 then .error (.cRuntimeError "Floating point exception")
  else
    let incr := c.snd_mss * c.snd_mss / c.snd_cwnd
    .ok { c with snd_cwnd := c.snd_cwnd + if incr = 0 then 1 else incr }

/-- The loss recovery of TCPNewReno ends with a timeout. -/
def endLossRecovery : TCPConnection :=
  { c with recover := c.snd_max - 1, lossRecovery := false, firstPartialACK := false }

/-- False stands for `TCP_E_ABORT`. -/
def processRexmitTimer : Except Fault (TCPConnection × Bool) := do
  let (c, again) ← c.baseProcessRexmitTimer
  if again then do
    let c := match c.flavour with
      | .TCPReno => c
      | .TCPNewReno => c.endLossRecovery
    let c := c.recalculateSlowStartThreshold
    let c ← { c with snd_cwnd := c.snd_mss, afterRto := true }.retransmitOneSegment true
    .ok (c, true)
  else .ok (c, false)

/-- Whether one more segment may be in the network. -/
def hasRoomInPipe : Bool := c.snd_cwnd.toInt - c.pipe.toInt ≥ c.snd_mss.toInt

def renoLossRecovery : Except Fault TCPConnection :=
  if c.sack_enabled && c.lossRecovery then
    if seqGE c.snd_una c.recoveryPoint then .ok { c with lossRecovery := false }
    else do
      let c ← c.setPipe
      if c.hasRoomInPipe then c.sendDataDuringLossRecoveryPhase c.snd_cwnd else .ok c
  else .ok c

def renoCwnd : Except Fault TCPConnection :=
  if c.dupacks ≥ DUPTHRESH.toNat then .ok { c with snd_cwnd := c.ssthresh } else c.openCwnd

def renoReceivedDataAck : Except Fault TCPConnection := do
  let c ← c.renoCwnd
  let c ← c.renoLossRecovery
  let (c, _) ← c.sendData false
  .ok c

variable (firstSeqAcked : uint32)

/-- A partial acknowledgement deflates the window. -/
def deflate : TCPConnection :=
  let acked := c.snd_una - firstSeqAcked
  { c with snd_cwnd := if acked ≥ c.snd_mss then c.snd_cwnd - acked + c.snd_mss else c.snd_cwnd - acked }

def receivedPartialAck : Except Fault TCPConnection := do
  let c ← c.retransmitOneSegment false
  let (c, _) ← (c.deflate firstSeqAcked).sendData false
  if c.lossRecovery && !c.firstPartialACK then
    let c := { c with firstPartialACK := true }
    c.restartRexmitTimer
  else .ok c

def newRenoCwnd : Except Fault TCPConnection :=
  if c.lossRecovery then
    if seqGE (c.snd_una - 1) c.recover then
      .ok { c with snd_cwnd := umin c.ssthresh (c.snd_max - c.snd_una + c.snd_mss), lossRecovery := false
                   firstPartialACK := false }
    else c.receivedPartialAck firstSeqAcked
  else do
    let c ← c.openCwnd
    .ok { c with recover := c.snd_una - 2 }

def newRenoReceivedDataAck : Except Fault TCPConnection := do
  let c ← c.newRenoCwnd firstSeqAcked
  let (c, _) ← c.sendData false
  .ok c

def receivedDataAck : Except Fault TCPConnection := do
  let c ← c.baseReceivedDataAck
  match c.flavour with
  | .TCPReno => c.renoReceivedDataAck
  | .TCPNewReno => c.newRenoReceivedDataAck firstSeqAcked

/-- A new loss recovery phase begins when all that was sent before the last one is acknowledged. -/
def startLossRecovery : TCPConnection :=
  if c.sack_enabled && (c.recoveryPoint = 0 || seqGE c.snd_una c.recoveryPoint) then
    { c with recoveryPoint := c.snd_max, lossRecovery := true }
  else c

def renoSackRecovery : Except Fault TCPConnection :=
  if c.sack_enabled then do
    let c ← c.setPipe
    if c.lossRecovery then do
      let c ← c.restartRexmitTimer
      if c.hasRoomInPipe then c.sendDataDuringLossRecoveryPhase c.snd_cwnd else .ok c
    else .ok c
  else .ok c

/-- The window for the fast retransmission. -/
def inflate : TCPConnection :=
  let c := c.recalculateSlowStartThreshold
  { c with snd_cwnd := c.ssthresh + 3 * c.snd_mss }

def renoReceivedDuplicateAck : Except Fault TCPConnection :=
  if c.dupacks = DUPTHRESH.toNat then do
    let c ← c.startLossRecovery.inflate.retransmitOneSegment false
    let c ← c.renoSackRecovery
    let (c, _) ← c.sendData false
    .ok c
  else if c.dupacks > DUPTHRESH.toNat then do
    let (c, _) ← { c with snd_cwnd := c.snd_cwnd + c.snd_mss }.sendData false
    .ok c
  else .ok c

def newRenoReceivedDuplicateAck : Except Fault TCPConnection :=
  if c.dupacks = DUPTHRESH.toNat then
    if !c.lossRecovery && c.snd_una - 1 > c.recover then do
      let c := { c.recalculateSlowStartThreshold with recover := c.snd_max - 1, firstPartialACK := false
                                                      lossRecovery := true }
      let c ← { c with snd_cwnd := c.ssthresh + 3 * c.snd_mss }.retransmitOneSegment false
      let (c, _) ← c.sendData false
      .ok c
    else .ok c
  else if c.dupacks > DUPTHRESH.toNat && c.lossRecovery then do
    let (c, _) ← { c with snd_cwnd := c.snd_cwnd + c.snd_mss }.sendData false
    .ok c
  else .ok c

def receivedDuplicateAck : Except Fault TCPConnection := do
  let c ← c.baseReceivedDuplicateAck
  match c.flavour with
  | .TCPReno => c.renoReceivedDuplicateAck
  | .TCPNewReno => c.newRenoReceivedDuplicateAck

end Flavours

end inet.tcp.TCPConnection
