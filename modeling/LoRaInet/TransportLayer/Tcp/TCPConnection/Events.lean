import LoRaInet.Transition.Run
import LoRaInet.TransportLayer.Tcp.TCPConnection.Algorithm

open omnetpp transition

namespace inet.tcp

/-- A segment that arrives. The options are the timestamps (TSval and TSecr) and the SACK blocks. -/
structure ReceivedSegment where
  tcpseg : TCPSegment Unit
  ackNo : uint32
  window : uint32
  headerLength : ℕ := 20
  synBit : Bool := false
  ackBit : Bool := true
  finBit : Bool := false
  rstBit : Bool := false
  timestamp : Option (uint32 × uint32) := none
  sacks : List (uint32 × uint32) := []

namespace ReceivedSegment

variable (seg : ReceivedSegment)

def getSequenceNo : uint32 := seg.tcpseg.sequenceNo
def getPayloadLength : ℕ := seg.tcpseg.payloadLength
def getTSval : uint32 := (seg.timestamp.map (·.1)).getD 0
def getTSecr : uint32 := (seg.timestamp.map (·.2)).getD 0

end ReceivedSegment

inductive TCPEventCode where
  | TCP_E_IGNORE
  | TCP_E_SEND
  | TCP_E_CLOSE
  | TCP_E_ABORT
  | TCP_E_READ
  | TCP_E_RCV_ACK
  | TCP_E_RCV_FIN
  | TCP_E_RCV_FIN_ACK
  | TCP_E_RCV_RST
  | TCP_E_RCV_UNEXP_SYN
  | TCP_E_TIMEOUT_2MSL

namespace TCPConnection

section Header

variable (c : TCPConnection)

/-- The length of 24 days. -/
def PAWS_IDLE_TIME_THRESH : SimTime := 24 * 24 * 3600

def isIdle : Bool := c.now - c.time_last_data_sent > PAWS_IDLE_TIME_THRESH

variable (seg : ReceivedSegment)

def processTSOption : TCPConnection :=
  if seg.timestamp.isSome && c.ts_enabled &&
      (c.fsm = .TCP_S_ESTABLISHED || c.fsm = .TCP_S_FIN_WAIT_1 || c.fsm = .TCP_S_FIN_WAIT_2) &&
      !seqLess seg.getTSval c.ts_recent && seqLE seg.getSequenceNo c.last_ack_sent then
    { c with ts_recent := seg.getTSval }
  else c

/-- The blocks above the acknowledgement are marked. -/
def setSackedBits (ackNo : uint32) : List (uint32 × uint32) → TCPSACKRexmitQueue → Except Fault TCPSACKRexmitQueue
  | [], q => .ok q
  | (start, stop) :: sacks, q =>
    if seqGreater stop ackNo && seqGreater stop c.snd_una then do
      let q ← q.setSackedBit start stop
      setSackedBits ackNo sacks q
    else setSackedBits ackNo sacks q

def processSACKOption : Except Fault TCPConnection :=
  if c.sack_enabled && (c.fsm = .TCP_S_ESTABLISHED || c.fsm = .TCP_S_FIN_WAIT_1 || c.fsm = .TCP_S_FIN_WAIT_2) &&
      seg.sacks ≠ [] then do
    let rexmitQueue ← c.setSackedBits seg.ackNo seg.sacks c.rexmitQueue
    .ok { c with rexmitQueue, sackedBytes_old := c.sackedBytes
                 sackedBytes := rexmitQueue.getTotalAmountOfSackedBytes }
  else .ok c

def readHeaderOptions : Except Fault TCPConnection :=
  if seg.headerLength > 20 then (c.processTSOption seg).processSACKOption seg else .ok c

/-- A segment that a connection idle for long must not take for a new one. -/
def isOutdated : Bool :=
  seg.headerLength > 20 && c.ts_enabled && seg.getTSval ≠ 0 && seqLess seg.getTSval c.ts_recent && c.isIdle

def isSegmentAcceptable : Bool :=
  let len := BitVec.ofNat 32 seg.getPayloadLength
  let seqNo := seg.getSequenceNo
  let rcvWndEnd := c.rcv_nxt + c.rcv_wnd
  if len = 0 then
    (if c.rcv_wnd = 0 then seqNo = c.rcv_nxt else seqLE c.rcv_nxt seqNo && seqLE seqNo rcvWndEnd) ||
      seqLess c.snd_una seg.ackNo && seqLE seg.ackNo (if c.afterRto then c.snd_max else c.snd_nxt)
  else
    c.rcv_wnd ≠ 0 && (seqLE c.rcv_nxt seqNo && seqLess seqNo rcvWndEnd ||
      seqLess c.rcv_nxt (seqNo + len) && seqLE (seqNo + len) rcvWndEnd)

def trueWindow : uint32 :=
  if c.ws_enabled && !seg.synBit then seg.window <<< c.snd_wnd_scale else seg.window

def updateWndInfo : TCPConnection :=
  if seg.ackBit && (seqLess c.snd_wl1 seg.getSequenceNo ||
      c.snd_wl1 = seg.getSequenceNo && seqLE c.snd_wl2 seg.ackNo ||
      c.snd_wl2 = seg.ackNo && c.trueWindow seg > c.snd_wnd) then
    { c with snd_wnd := c.trueWindow seg, snd_wl1 := seg.getSequenceNo, snd_wl2 := seg.ackNo }
  else c

end Header

section Ack

variable (c : TCPConnection)

def discardRexmitQueue (discardUpToSeq : uint32) : Except Fault TCPSACKRexmitQueue :=
  if c.sack_enabled then c.rexmitQueue.discardUpTo discardUpToSeq else .ok c.rexmitQueue

variable (seg : ReceivedSegment)

/-- What is acknowledged is no longer needed. The sequence number of the FIN is not one of the data. -/
def discardAcked : Except Fault TCPConnection := do
  let finAcked := c.send_fin && seg.ackNo = c.snd_fin_seq + 1
  let discardUpToSeq := if finAcked then c.snd_una - 1 else c.snd_una
  let sendQueue ← c.sendQueue.discardUpTo discardUpToSeq
  let rexmitQueue ← c.discardRexmitQueue discardUpToSeq
  .ok { c with fin_ack_rcvd := c.fin_ack_rcvd || finAcked, sendQueue, rexmitQueue }

/-- The connection before an acknowledgement in the window is passed to the algorithm. -/
def advanceSndUna : Except Fault TCPConnection := do
  let c := { c with snd_una := seg.ackNo, snd_nxt := if seqLess c.snd_nxt seg.ackNo then seg.ackNo else c.snd_nxt }
  let c := if c.ts_enabled then c.rttMeasurementCompleteUsingTS seg.getTSecr else c
  let c ← c.discardAcked seg
  .ok (c.updateWndInfo seg)

/-- The algorithm is told of an acknowledgement of new data. -/
def notifyDataAck (old_snd_una : uint32) : Except Fault TCPConnection := do
  let c ← c.receivedDataAck old_snd_una
  .ok { c with dupacks := 0 }

/-- False means that the segment is dropped. -/
def processAckInEstabEtc : Except Fault (TCPConnection × Bool) :=
  if seqGE c.snd_una seg.ackNo then
    if c.snd_una = seg.ackNo && seg.getPayloadLength = 0 && c.snd_una ≠ c.snd_max then do
      let c := { c with dupacks := c.dupacks + 1 }
      let c ← (c.updateWndInfo seg).receivedDuplicateAck
      .ok (c, true)
    else .ok ({ c with dupacks := 0 }, true)
  else if seqLE seg.ackNo c.snd_max then do
    let old_snd_una := c.snd_una
    let c ← c.advanceSndUna seg
    if seg.getPayloadLength = 0 then do
      let c ← c.notifyDataAck old_snd_una
      .ok (c, true)
    else .ok (c, true)
  else do
    let c ← c.sendAck
    .ok ({ c with dupacks := 0 }, false)

end Ack

section Text

variable (c : TCPConnection)

def hasEnoughSpaceForSegmentInReceiveQueue (tcpseg : TCPSegment Unit) : Bool :=
  let firstSeq := c.receiveQueue.getFirstSeqNo
  seqLE firstSeq tcpseg.sequenceNo && seqLE tcpseg.endSeq (firstSeq + c.maxRcvBuffer)

/-- The loop that passes data to the application, a region at a time. -/
def extractLoop (rcv_nxt : uint32) : ℕ → TCPVirtualDataRcvQueue VirtualRegion →
    Except Fault (TCPVirtualDataRcvQueue VirtualRegion)
  | 0, q => .ok q
  | rounds + 1, q => do
    let (q, msg) ← q.extractBytesUpTo rcv_nxt
    if msg.isSome then extractLoop rcv_nxt rounds q else .ok q

def extractAll : Except Fault TCPConnection := do
  let receiveQueue ← extractLoop c.rcv_nxt (c.receiveQueue.regionList.length + 1) c.receiveQueue
  .ok { c with receiveQueue }

def forwardData : Except Fault TCPConnection := if c.useDataNotification then .ok c else c.extractAll

/-- `rcv_nxt` moves over the FIN of the other side, and the time-wait timer is started where the connection
enters TIME_WAIT. -/
def advanceOverFin (fin_seq : uint32) : Except Fault (TCPConnection × TCPEventCode) := do
  let c := { c with ack_now := true, rcv_nxt := fin_seq + 1, finsConsumed := c.finsConsumed + 1 }
  match c.fsm with
  | .TCP_S_FIN_WAIT_1 =>
    if c.fin_ack_rcvd then do
      let c ← c.scheduleTimeout .the2MSL TCP_TIMEOUT_2MSL
      .ok (c, .TCP_E_RCV_FIN_ACK)
    else .ok (c, .TCP_E_RCV_FIN)
  | .TCP_S_FIN_WAIT_2 => do
    let c ← c.scheduleTimeout .the2MSL TCP_TIMEOUT_2MSL
    .ok (c, .TCP_E_RCV_FIN)
  | .TCP_S_TIME_WAIT => do
    let c ← (c.cancelEvent .the2MSL).scheduleTimeout .the2MSL TCP_TIMEOUT_2MSL
    .ok (c, .TCP_E_RCV_FIN)
  | _ => .ok (c, .TCP_E_RCV_FIN)

/-- What follows when data has been inserted into the receive queue. -/
def acceptText (old_rcv_nxt : uint32) (event : TCPEventCode) : Except Fault (TCPConnection × TCPEventCode) :=
  if old_rcv_nxt = c.rcv_nxt then do
    let c ← c.receivedOutOfOrderSegment
    .ok (c, event)
  else do
    let c ← c.forwardData
    if c.fin_rcvd && c.rcv_nxt = c.rcv_fin_seq then c.advanceOverFin c.rcv_fin_seq else .ok (c, event)

variable (seg : ReceivedSegment)

def countSegment : TCPConnection :=
  let full := seg.getPayloadLength = c.snd_mss.toNat ∨
    seg.getPayloadLength + seg.headerLength - 20 = c.snd_mss.toNat
  { c with full_sized_segment_counter := c.full_sized_segment_counter + if full then 1 else 0
           ack_now := c.ack_now || seg.getPayloadLength = 1 }

/-- The algorithm has not yet been told of the acknowledgement that came with the text. -/
def notifyTextAck (old_snd_una : uint32) : Except Fault TCPConnection :=
  if seqGreater c.snd_una old_snd_una then c.notifyDataAck old_snd_una else .ok c

/-- The text of a segment, as it is after the truncation; it is none when the segment is dropped. -/
def processText (old_snd_una : uint32) (event : TCPEventCode) :
    Except Fault (TCPConnection × TCPEventCode × Option ReceivedSegment) := do
  let c := c.countSegment seg
  let tcpseg ← seg.tcpseg.truncateSegment c.rcv_nxt (c.rcv_nxt + c.rcv_wnd)
  if c.hasEnoughSpaceForSegmentInReceiveQueue tcpseg then do
    let old_rcv_nxt := c.rcv_nxt
    let (receiveQueue, rcv_nxt) ← c.receiveQueue.insertBytesFromSegment tcpseg
    let c ← { c with receiveQueue, rcv_nxt }.notifyTextAck old_snd_una
    let (c, event) ← c.acceptText old_rcv_nxt event
    .ok (c, event, some { seg with tcpseg })
  else .ok (c, .TCP_E_IGNORE, none)

/-- The FIN bit. A FIN above the sequence is remembered. -/
def processFin (event : TCPEventCode) : Except Fault (TCPConnection × TCPEventCode) :=
  if seg.finBit then
    let fin_seq := seg.tcpseg.endSeq
    if c.rcv_nxt = fin_seq then c.advanceOverFin fin_seq
    else .ok ({ c with ack_now := true, fin_rcvd := true, rcv_fin_seq := fin_seq }, event)
  else .ok (c, event)

/-- An acknowledgement is due when `rcv_nxt` has moved. -/
def acknowledge (old_rcv_nxt : uint32) : Except Fault TCPConnection :=
  if old_rcv_nxt ≠ c.rcv_nxt then
    let c := { c with ack_now := c.ack_now || c.sack_enabled && c.receiveQueue.regionList ≠ [] }
    c.receiveSeqChanged
  else .ok c

/-- The FIN has been sent since the CLOSE was deferred. -/
def isDeferredClose (old_snd_nxt : uint32) : Bool :=
  c.send_fin && c.snd_nxt = c.snd_fin_seq + 1 &&
    (c.fsm = .TCP_S_ESTABLISHED || c.fsm = .TCP_S_CLOSE_WAIT && old_snd_nxt ≠ c.snd_nxt)

end Text

section Segment

variable (c : TCPConnection)

def hasText : Bool :=
  c.fsm = .TCP_S_ESTABLISHED || c.fsm = .TCP_S_FIN_WAIT_1 || c.fsm = .TCP_S_FIN_WAIT_2

/-- What an acknowledgement that has been processed leads to. -/
def ackEvent : Except Fault (TCPConnection × TCPEventCode) :=
  match c.fsm with
  | .TCP_S_FIN_WAIT_1 => .ok (c, if c.fin_ack_rcvd then .TCP_E_RCV_ACK else .TCP_E_IGNORE)
  | .TCP_S_CLOSING =>
    if c.fin_ack_rcvd then do
      let c ← c.scheduleTimeout .the2MSL TCP_TIMEOUT_2MSL
      .ok (c, .TCP_E_RCV_ACK)
    else .ok (c, .TCP_E_IGNORE)
  | _ => .ok (c, .TCP_E_IGNORE)

/-- The fifth step; it gives no event when the segment is dropped. -/
def processAck (seg : ReceivedSegment) : Except Fault (TCPConnection × Option TCPEventCode) :=
  if c.fsm = .TCP_S_TIME_WAIT then do
    let c ← c.sendAck
    let c ← (c.cancelEvent .the2MSL).scheduleTimeout .the2MSL TCP_TIMEOUT_2MSL
    .ok (c, some .TCP_E_IGNORE)
  else do
    let (c, ok) ← c.processAckInEstabEtc seg
    if ok then do
      let (c, event) ← c.ackEvent
      .ok (c, some event)
    else .ok (c, none)

variable (seg : ReceivedSegment)

/-- The last acknowledgement ends the processing. -/
def isLastAck : Bool :=
  c.fsm = .TCP_S_LAST_ACK && c.send_fin && seg.ackNo = c.snd_fin_seq + 1

def processTextIfAny (old_snd_una : uint32) (event : TCPEventCode) :
    Except Fault (TCPConnection × TCPEventCode × Option ReceivedSegment) :=
  if c.hasText && seg.getPayloadLength > 0 then c.processText seg old_snd_una event else .ok (c, event, some seg)

/-- From the text of the segment on. -/
def processTextAndFin (old_snd_una old_snd_nxt : uint32) (event : TCPEventCode) :
    Except Fault (TCPConnection × TCPEventCode) := do
  let old_rcv_nxt := c.rcv_nxt
  let (c, event, seg) ← c.processTextIfAny seg old_snd_una event
  match seg with
  | none => .ok (c, event)
  | some seg => do
    let (c, event) ← c.processFin seg event
    let c ← c.acknowledge old_rcv_nxt
    .ok (c, if c.isDeferredClose old_snd_nxt then .TCP_E_CLOSE else event)

/-- From the second step on. -/
def processAcceptable : Except Fault (TCPConnection × TCPEventCode) :=
  if seg.rstBit then .ok (c, .TCP_E_RCV_RST)
  else if seg.synBit then .ok (c, .TCP_E_RCV_UNEXP_SYN)
  else if !seg.ackBit then .ok (c, .TCP_E_IGNORE)
  else do
    let old_snd_una := c.snd_una
    let old_snd_nxt := c.snd_nxt
    let (c, event) ← c.processAck seg
    match event with
    | none => .ok (c, .TCP_E_IGNORE)
    | some event =>
      if c.isLastAck seg then .ok (c, .TCP_E_RCV_ACK)
      else c.processTextAndFin seg old_snd_una old_snd_nxt event

def processSegment1stThru8th : Except Fault (TCPConnection × TCPEventCode) := do
  let outdated := c.isOutdated seg
  let c ← c.readHeaderOptions seg
  if !outdated && c.isSegmentAcceptable seg then c.processAcceptable seg
  else if seg.rstBit then .ok (c, .TCP_E_IGNORE)
  else do
    let c ← c.sendAck
    .ok (c, .TCP_E_IGNORE)

end Segment

section Commands

variable (c : TCPConnection)

def process_SEND (byteLength : ℕ) : Except Fault TCPConnection :=
  if c.fsm = .TCP_S_ESTABLISHED ∨ c.fsm = .TCP_S_CLOSE_WAIT then do
    let sendQueue ← c.sendQueue.enqueueAppData byteLength
    let (c, _) ← { c with sendQueue }.sendData true
    .ok c
  else .error (.cRuntimeError "Error processing command SEND: connection closing")

def process_CLOSE : Except Fault (TCPConnection × TCPEventCode) :=
  if c.fsm = .TCP_S_ESTABLISHED ∨ c.fsm = .TCP_S_CLOSE_WAIT then
    if c.snd_max = c.sendQueue.endSeq then do
      let c ← { c with snd_nxt := c.snd_max }.sendFin
      let c ← c.restartRexmitTimer
      .ok ({ c with snd_nxt := c.snd_nxt + 1, snd_max := c.snd_nxt + 1, send_fin := true
                    snd_fin_seq := c.sendQueue.endSeq }, .TCP_E_CLOSE)
    else .ok ({ c with send_fin := true, snd_fin_seq := c.sendQueue.endSeq }, .TCP_E_IGNORE)
  else .error (.cRuntimeError "Duplicate CLOSE command: connection already closing")

def nextState : TcpState → TCPEventCode → TcpState
  | .TCP_S_ESTABLISHED, .TCP_E_CLOSE => .TCP_S_FIN_WAIT_1
  | .TCP_S_ESTABLISHED, .TCP_E_RCV_FIN => .TCP_S_CLOSE_WAIT
  | .TCP_S_CLOSE_WAIT, .TCP_E_CLOSE => .TCP_S_LAST_ACK
  | .TCP_S_LAST_ACK, .TCP_E_RCV_ACK => .TCP_S_CLOSED
  | .TCP_S_FIN_WAIT_1, .TCP_E_RCV_FIN => .TCP_S_CLOSING
  | .TCP_S_FIN_WAIT_1, .TCP_E_RCV_ACK => .TCP_S_FIN_WAIT_2
  | .TCP_S_FIN_WAIT_1, .TCP_E_RCV_FIN_ACK => .TCP_S_TIME_WAIT
  | .TCP_S_FIN_WAIT_2, .TCP_E_RCV_FIN => .TCP_S_TIME_WAIT
  | .TCP_S_CLOSING, .TCP_E_RCV_ACK => .TCP_S_TIME_WAIT
  | .TCP_S_TIME_WAIT, .TCP_E_TIMEOUT_2MSL => .TCP_S_CLOSED
  | _, .TCP_E_ABORT => .TCP_S_CLOSED
  | _, .TCP_E_RCV_RST => .TCP_S_CLOSED
  | _, .TCP_E_RCV_UNEXP_SYN => .TCP_S_CLOSED
  | fsm, _ => fsm

/-- All timers are cancelled when the connection is closed. -/
def performStateTransition (event : TCPEventCode) : TCPConnection :=
  let fsm := nextState c.fsm event
  { c with fsm, timers := if fsm = .TCP_S_CLOSED then fun _ => none else c.timers }

end Commands

section Step

/-- A timer of the connection, a segment, or a command of the application. -/
inductive Event where
  | timer (timer : TCPTimer)
  | segment (seg : ReceivedSegment)
  | send (byteLength : ℕ)
  | close
  | abort
  | read

variable (c : TCPConnection)

def processTimer (timer : TCPTimer) : Except Fault (TCPConnection × TCPEventCode) :=
  match timer with
  | .the2MSL => .ok (c, .TCP_E_TIMEOUT_2MSL)
  | .REXMIT => do
    let (c, again) ← c.processRexmitTimer
    .ok (c, if again then .TCP_E_IGNORE else .TCP_E_ABORT)
  | .PERSIST => do
    let c ← c.processPersistTimer
    .ok (c, .TCP_E_IGNORE)
  | .DELAYEDACK => do
    let c ← c.processDelayedAckTimer
    .ok (c, .TCP_E_IGNORE)

/-- The actions of an event, before the state transition. -/
def process : Event → Except Fault (TCPConnection × TCPEventCode)
  | .timer timer => (c.cancelEvent timer).processTimer timer
  | .segment seg => c.processSegment1stThru8th seg
  | .send byteLength => do
    let c ← c.process_SEND byteLength
    .ok (c, .TCP_E_SEND)
  | .close => c.process_CLOSE
  | .abort => .ok (c, .TCP_E_ABORT)
  | .read => do
    let c ← c.extractAll
    .ok (c, .TCP_E_READ)

/-- No timer is overdue at the time of the event, and a timer fires at its own time. A socket that is closed
refuses to send, and to be closed again. -/
def isNext (t : SimTime) (e : Event) : Bool :=
  c.fsm ≠ .TCP_S_CLOSED && c.now ≤ t &&
    [TCPTimer.REXMIT, .PERSIST, .DELAYEDACK, .the2MSL].all (fun timer => (c.timers timer).all (t ≤ ·)) &&
    match e with
    | .timer timer => c.timers timer = some t
    | .send _ | .close => !c.send_fin
    | _ => true

/-- The segments sent and the timers started are those of this event. -/
def begin (t : SimTime) : TCPConnection := { c with now := t, sent := [], started := [] }

def handle (e : SimTime × Event) : Except Fault TCPConnection := do
  let (c, event) ← (c.begin e.1).process e.2
  .ok (c.performStateTransition event)

/-- The output is what was sent and started. -/
def step (e : SimTime × Event) : Option (TCPConnection × (List SentSegment × List (TCPTimer × SimTime))) :=
  if c.isNext e.1 e.2 then (c.handle e).toOption.map fun c => (c, (c.sent, c.started)) else none

end Step

end TCPConnection

end inet.tcp
