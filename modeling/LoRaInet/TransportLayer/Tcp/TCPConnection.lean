import LoRaInet.TransportLayer.Tcp.TCPSACKRexmitQueue
import LoRaInet.TransportLayer.Tcp.TCPVirtualDataRcvQueue

open omnetpp

namespace inet.tcp

/-- `std::min` and `std::max` of unsigned integers. -/
def umin (a b : uint32) : uint32 := if b < a then b else a
def umax (a b : uint32) : uint32 := if a < b then b else a

def TCP_MAX_WIN : uint32 := 65535
def TCP_OPTION_TS_SIZE : uint32 := 12
def TCP_OPTIONS_MAX_SIZE : ℕ := 40
def MAX_REXMIT_COUNT : ℕ := 12
def MIN_REXMIT_TIMEOUT : SimTime := 1
def MAX_REXMIT_TIMEOUT : SimTime := 240
def MIN_PERSIST_TIMEOUT : SimTime := 5
def MAX_PERSIST_TIMEOUT : SimTime := 60
def DELAYED_ACK_TIMEOUT : SimTime := 1 / 5
def TCP_TIMEOUT_2MSL : SimTime := 240

/-- The states of a connection from its establishment on. -/
inductive TcpState where
  | TCP_S_ESTABLISHED
  | TCP_S_CLOSE_WAIT
  | TCP_S_LAST_ACK
  | TCP_S_FIN_WAIT_1
  | TCP_S_FIN_WAIT_2
  | TCP_S_CLOSING
  | TCP_S_TIME_WAIT
  | TCP_S_CLOSED
  deriving DecidableEq

inductive TCPFlavour where
  | TCPReno
  | TCPNewReno

inductive TCPTimer where
  | REXMIT
  | PERSIST
  | DELAYEDACK
  | the2MSL
  deriving DecidableEq

/-- The sequence numbers of `TCPVirtualDataSendQueue`. -/
structure TCPVirtualDataSendQueue where
  begin : uint32
  endSeq : uint32

namespace TCPVirtualDataSendQueue

variable (q : TCPVirtualDataSendQueue)

def enqueueAppData (byteLength : ℕ) : Except Fault TCPVirtualDataSendQueue :=
  let endSeq := q.endSeq + BitVec.ofNat 32 byteLength
  if seqLess endSeq q.begin then .error (.cRuntimeError "Send queue is full") else .ok { q with endSeq }

def getBytesAvailable (fromSeq : uint32) : uint32 :=
  if seqLess fromSeq q.endSeq then q.endSeq - fromSeq else 0

def discardUpTo (seqNum : uint32) : Except Fault TCPVirtualDataSendQueue := do
  ASSERT (seqLE q.begin seqNum && seqLE seqNum q.endSeq) "seqLE(begin, seqNum) && seqLE(seqNum, end)"
  .ok { q with begin := seqNum }

end TCPVirtualDataSendQueue

/-- What is read of a segment that has been sent. -/
structure SentSegment where
  sequenceNo : uint32
  payloadLength : uint32
  ackNo : uint32
  window : uint32
  finBit : Bool

/-- A connection with its state variables, its queues, and the timers and state variables of its algorithm. The
segments sent and the timers started are noted for one event, and how often `rcv_nxt` has moved over the FIN of
the other side. The lengths of the SACK options of its segments
are given, in the order in which the segments are created. -/
structure TCPConnection where
  flavour : TCPFlavour
  fsm : TcpState := .TCP_S_ESTABLISHED
  now : SimTime := 0
  snd_mss : uint32
  snd_una : uint32
  snd_nxt : uint32
  snd_max : uint32
  snd_wnd : uint32
  snd_wl1 : uint32
  snd_wl2 : uint32
  rcv_nxt : uint32
  rcv_wnd : uint32
  rcv_adv : uint32
  maxRcvBuffer : uint32
  fin_ack_rcvd : Bool := false
  send_fin : Bool := false
  snd_fin_seq : uint32 := 0
  fin_rcvd : Bool := false
  rcv_fin_seq : uint32 := 0
  sentBytes : uint32 := 0
  nagle_enabled : Bool := true
  delayed_acks_enabled : Bool := false
  limited_transmit_enabled : Bool := false
  increased_IW_enabled : Bool := false
  useDataNotification : Bool := false
  full_sized_segment_counter : ℕ := 0
  ack_now : Bool := false
  afterRto : Bool := false
  ws_enabled : Bool := false
  rcv_wnd_scale : ℕ := 0
  snd_wnd_scale : ℕ := 0
  ts_enabled : Bool := false
  ts_recent : uint32 := 0
  last_ack_sent : uint32 := 0
  time_last_data_sent : SimTime := 0
  sack_enabled : Bool := false
  highRxt : uint32 := 0
  pipe : uint32 := 0
  recoveryPoint : uint32 := 0
  sackedBytes : uint32 := 0
  sackedBytes_old : uint32 := 0
  lossRecovery : Bool := false
  dupacks : ℕ := 0
  rexmit_count : ℕ := 0
  rexmit_timeout : SimTime := 3
  persist_factor : ℕ := 0
  persist_timeout : SimTime := 5
  snd_cwnd : uint32 := 0
  ssthresh : uint32 := 0xFFFFFFFF
  rtseq : uint32 := 0
  rtseq_sendtime : SimTime := 0
  srtt : SimTime := 0
  rttvar : SimTime := 3 / 4
  recover : uint32 := 0
  firstPartialACK : Bool := false
  sendQueue : TCPVirtualDataSendQueue
  receiveQueue : TCPVirtualDataRcvQueue VirtualRegion
  rexmitQueue : TCPSACKRexmitQueue
  timers : TCPTimer → Option SimTime := fun _ => none
  sackOptionLength : ℕ → ℕ := fun _ => 0
  created : ℕ := 0
  finsConsumed : ℕ := 0
  sent : List SentSegment := []
  started : List (TCPTimer × SimTime) := []

namespace TCPConnection

section Timers

variable (c : TCPConnection) (timer : TCPTimer)

def isScheduled : Bool := (c.timers timer).isSome

def cancelEvent : TCPConnection := { c with timers := Function.update c.timers timer none }

def scheduleTimeout (timeout : SimTime) : Except Fault TCPConnection :=
  if c.isScheduled timer then .error (.cRuntimeError "scheduleAt(): Message is currently scheduled")
  else if timeout < 0 then .error .scheduledToThePast
  else .ok { c with timers := Function.update c.timers timer (some (c.now + timeout))
                    started := c.started ++ [(timer, timeout)] }

def startRexmitTimer : Except Fault TCPConnection :=
  scheduleTimeout { c with rexmit_count := 0 } .REXMIT c.rexmit_timeout

def restartRexmitTimer : Except Fault TCPConnection := (c.cancelEvent .REXMIT).startRexmitTimer

def ackSent : TCPConnection :=
  { c with full_sized_segment_counter := 0, ack_now := false, last_ack_sent := c.rcv_nxt
           timers := Function.update c.timers .DELAYEDACK none }

/-- The round-trip time is measured of one segment at a time. -/
def startRttMeasurement (fromseq : uint32) : TCPConnection :=
  if !c.ts_enabled && c.rtseq_sendtime = 0 then { c with rtseq := fromseq, rtseq_sendtime := c.now } else c

def ensureRexmitTimer : Except Fault TCPConnection := if c.isScheduled .REXMIT then .ok c else c.startRexmitTimer

def dataSent (fromseq : uint32) : Except Fault TCPConnection := do
  let c ← c.ensureRexmitTimer
  let c := c.startRttMeasurement fromseq
  .ok { c with time_last_data_sent := c.now }

end Timers

section Segments

variable (c : TCPConnection)

def freeRcvBuffer : uint32 :=
  let used := c.receiveQueue.getAmountOfBufferedBytes
  if c.maxRcvBuffer > used then c.maxRcvBuffer - used else 0

/-- The window that is advertised next. -/
def nextRcvWnd : uint32 :=
  let win := c.freeRcvBuffer
  let win := if win < c.maxRcvBuffer / 4 && win < c.snd_mss then 0 else win
  let win := if win < c.rcv_adv - c.rcv_nxt then c.rcv_adv - c.rcv_nxt else win
  if win > TCP_MAX_WIN && !c.ws_enabled then TCP_MAX_WIN else win

/-- The window as it is in the header of a segment. -/
def scaleRcvWnd (win : uint32) : Except Fault uint32 :=
  if c.ws_enabled && c.rcv_wnd_scale ≠ 0 then do
    ASSERT (c.rcv_wnd_scale ≤ 14) "state->rcv_wnd_scale <= 14"
    .ok (win >>> c.rcv_wnd_scale)
  else .ok win

def updateRcvWnd : Except Fault (TCPConnection × uint32) := do
  let win := c.nextRcvWnd
  let rcv_adv := if win > 0 && seqGE (c.rcv_nxt + win) c.rcv_adv then c.rcv_nxt + win else c.rcv_adv
  let scaled_rcv_wnd ← c.scaleRcvWnd win
  ASSERT (scaled_rcv_wnd ≤ TCP_MAX_WIN) "scaled_rcv_wnd == (unsigned short)scaled_rcv_wnd"
  .ok ({ c with rcv_adv, rcv_wnd := win }, scaled_rcv_wnd)

/-- A segment without data is sent. -/
def sendControl (finBit : Bool) : Except Fault TCPConnection := do
  let (c, window) ← c.updateRcvWnd
  let c := { c with sent := c.sent ++ [SentSegment.mk c.snd_nxt 0 c.rcv_nxt window finBit]
                    created := c.created + 1 }
  .ok c.ackSent

def sendAck : Except Fault TCPConnection := c.sendControl false
def sendFin : Except Fault TCPConnection := c.sendControl true

/-- The length of the options of the next segment; all of them are dropped when they are too long. -/
def options_len : uint32 :=
  let length := (if c.ts_enabled then TCP_OPTION_TS_SIZE.toNat else 0) +
    if c.sack_enabled then c.sackOptionLength c.created else 0
  if length ≤ TCP_OPTIONS_MAX_SIZE then BitVec.ofNat 32 length else 0

/-- After a timeout, what the receiver has need not be sent again. -/
def forwardSndNxt : Except Fault TCPConnection := do
  if c.sack_enabled && c.afterRto then do
    let forward ← c.rexmitQueue.checkRexmitQueueForSackedOrRexmittedSegments c.snd_nxt
    .ok { c with snd_nxt := c.snd_nxt + forward }
  else .ok c

/-- The bytes that one segment takes. -/
def segmentBytes (bytes : uint32) : uint32 :=
  let buffered := c.sendQueue.getBytesAvailable c.snd_nxt
  let bytes := if bytes > buffered then buffered else bytes
  if bytes + c.options_len > c.snd_mss then c.snd_mss - c.options_len else bytes

def enqueueSentData (bytes : uint32) : Except Fault TCPSACKRexmitQueue :=
  if c.sack_enabled then c.rexmitQueue.enqueueSentData c.snd_nxt (c.snd_nxt + bytes) else .ok c.rexmitQueue

/-- `snd_nxt` moves over the bytes, and over the FIN behind them. -/
def advanced (bytes : uint32) : TCPConnection :=
  let snd_nxt := c.snd_nxt + bytes
  { c with snd_nxt := if c.send_fin && snd_nxt = c.snd_fin_seq then c.snd_fin_seq + 1 else snd_nxt
           afterRto := c.afterRto && !seqGE snd_nxt c.snd_max
           sentBytes := bytes }

def sendSegment (bytes : uint32) : Except Fault TCPConnection := do
  let c ← c.forwardSndNxt
  ASSERT (c.options_len < c.snd_mss) "options_len < state->snd_mss"
  let bytes := c.segmentBytes bytes
  ASSERT (seqLE c.sendQueue.begin c.snd_nxt && seqLE (c.snd_nxt + bytes) c.sendQueue.endSeq)
    "seqLE(begin, fromSeq) && seqLE(fromSeq + numBytes, end)"
  let rexmitQueue ← c.enqueueSentData bytes
  let (c, window) ← { c with rexmitQueue }.updateRcvWnd
  let finBit := c.send_fin && c.snd_nxt + bytes = c.snd_fin_seq
  .ok { c.advanced bytes with
    sent := c.sent ++ [SentSegment.mk c.snd_nxt bytes c.rcv_nxt window finBit]
    created := c.created + 1 }

/-- The largest sequence number sent follows `snd_nxt`. -/
def raiseSndMax : TCPConnection :=
  { c with snd_max := if seqGreater c.snd_nxt c.snd_max then c.snd_nxt else c.snd_max }

end Segments

section Data

variable (c : TCPConnection)

/-- The loop of `sendData` that sends whole segments, and how many bytes are left. A round that sends nothing
would be repeated for ever. -/
def sendWholeSegments (effectiveMaxBytesSend : uint32) :
    ℕ → TCPConnection → ℕ → Except Fault (TCPConnection × ℕ)
  | rounds, c, bytesToSend =>
    if bytesToSend ≥ effectiveMaxBytesSend.toNat then
      match rounds with
      | 0 => .error (.cRuntimeError "sendData does not return")
      | rounds + 1 => do
        let c ← c.sendSegment c.snd_mss
        sendWholeSegments effectiveMaxBytesSend rounds c (bytesToSend - c.sentBytes.toNat)
    else .ok (c, bytesToSend)

/-- How many bytes `sendData` may send. -/
def bytesToSend (congestionWindow : uint32) : ℕ :=
  let maxWindow := min c.snd_wnd.toNat congestionWindow.toNat
  min (maxWindow - (c.snd_nxt - c.snd_una).toNat) (c.sendQueue.getBytesAvailable c.snd_nxt).toNat

def effectiveMaxBytesSend : uint32 := if c.ts_enabled then c.snd_mss - TCP_OPTION_TS_SIZE else c.snd_mss

def sendFirstSegments (bytesToSend : ℕ) : Except Fault (TCPConnection × ℕ) :=
  if bytesToSend ≤ c.snd_mss.toNat then do
    let c ← c.sendSegment (BitVec.ofNat 32 bytesToSend)
    .ok (c, bytesToSend - c.sentBytes.toNat)
  else sendWholeSegments c.effectiveMaxBytesSend bytesToSend c bytesToSend

/-- The segments of `sendData`: only one that is not full, and only at the end. -/
def sendSegments (bytesToSend : ℕ) : Except Fault TCPConnection := do
  let (c, bytesToSend) ← c.sendFirstSegments bytesToSend
  let buffered := c.sendQueue.getBytesAvailable c.snd_nxt
  if bytesToSend = buffered.toNat ∧ buffered ≠ 0 then c.sendSegment buffered else .ok c

/-- The algorithm is told of the data sent, or the timer is restarted for a retransmission. -/
def notifySent (old_highRxt old_snd_nxt : uint32) : Except Fault TCPConnection :=
  if c.sack_enabled && c.lossRecovery && old_highRxt ≠ c.highRxt then c.restartRexmitTimer
  else c.dataSent old_snd_nxt

/-- `sendData` of the connection. -/
def sendNewData (fullSegmentsOnly : Bool) (congestionWindow : uint32) : Except Fault (TCPConnection × Bool) :=
  let c := if c.afterRto then c else { c with snd_nxt := c.snd_max }
  let bytesToSend := c.bytesToSend congestionWindow
  if bytesToSend = 0 then .ok (c, false)
  else if fullSegmentsOnly && bytesToSend < c.effectiveMaxBytesSend.toNat then .ok (c, false)
  else do
    let old_highRxt := if c.sack_enabled then c.rexmitQueue.getHighestRexmittedSeqNum else 0
    let old_snd_nxt := c.snd_nxt
    let c ← c.sendSegments bytesToSend
    let c ← c.raiseSndMax.ackSent.notifySent old_highRxt old_snd_nxt
    .ok (c, true)

/-- The congestion window after the connection has been idle. -/
def restartIdle : TCPConnection :=
  if c.sendQueue.getBytesAvailable c.snd_nxt ≠ 0 && c.now - c.time_last_data_sent > c.rexmit_timeout then
    let snd_cwnd := if c.increased_IW_enabled then
        umin (umin (4 * c.snd_mss) (umax (2 * c.snd_mss) 4380)) c.snd_cwnd
      else c.snd_mss
    { c with snd_cwnd }
  else c

/-- `TCPBaseAlg::sendData`. -/
def sendData (sendCommandInvoked : Bool) : Except Fault (TCPConnection × Bool) :=
  let fullSegmentsOnly := sendCommandInvoked && c.nagle_enabled && c.snd_una ≠ c.snd_max
  let c := c.restartIdle
  c.sendNewData fullSegmentsOnly c.snd_cwnd

def sendProbe : Except Fault TCPConnection :=
  let c := { c with snd_nxt := c.snd_max }
  if c.sendQueue.getBytesAvailable c.snd_nxt = 0 then .ok c
  else do
    let old_snd_nxt := c.snd_nxt
    let c ← c.sendSegment 1
    let c := { c with snd_max := c.snd_nxt }.ackSent
    c.dataSent old_snd_nxt

def sendOneNewSegment (fullSegmentsOnly : Bool) (congestionWindow : uint32) : Except Fault TCPConnection := do
  ASSERT c.limited_transmit_enabled "state->limited_transmit_enabled"
  let buffered := c.sendQueue.getBytesAvailable c.snd_max
  let outstandingData := c.snd_max - c.snd_una
  let bytes := umin (umin c.snd_wnd congestionWindow - outstandingData + 2 * c.snd_mss) c.snd_mss
  if (!c.sack_enabled || c.sackedBytes_old ≠ c.sackedBytes) &&
      (buffered ≥ c.snd_mss || !fullSegmentsOnly && buffered > 0) &&
      (outstandingData.toNat + c.snd_mss.toNat ≤ c.snd_wnd.toNat &&
        outstandingData.toNat + c.snd_mss.toNat ≤ (congestionWindow + 2 * c.snd_mss).toNat) &&
      (bytes ≥ c.snd_mss || !fullSegmentsOnly && bytes > 0) then do
    let old_snd_nxt := c.snd_nxt
    let c ← { c with snd_nxt := c.snd_max }.sendSegment bytes
    let c := c.raiseSndMax
    let c := if c.afterRto then { c with snd_nxt := old_snd_nxt + c.sentBytes } else c
    c.ackSent.dataSent old_snd_nxt
  else .ok c

/-- The FIN is sent again when there is nothing else to send. -/
def retransmitOneSegment (called_at_rto : Bool) : Except Fault TCPConnection :=
  let old_snd_nxt := c.snd_nxt
  let c := { c with snd_nxt := c.snd_una }
  let bytes := umin (umin c.snd_mss (c.snd_max - c.snd_nxt)) (c.sendQueue.getBytesAvailable c.snd_nxt)
  if bytes = 0 && c.send_fin && c.snd_fin_seq = c.sendQueue.endSeq then do
    let c ← { c with snd_max := c.sendQueue.endSeq, snd_nxt := c.sendQueue.endSeq }.sendFin
    .ok { c with snd_nxt := c.snd_nxt + 1, snd_max := c.snd_nxt + 1 }
  else do
    ASSERT (bytes ≠ 0) "bytes != 0"
    let c ← c.sendSegment bytes
    let c := if !called_at_rto && seqGreater old_snd_nxt c.snd_nxt then { c with snd_nxt := old_snd_nxt } else c
    let c := c.ackSent
    .ok { c with highRxt := if c.sack_enabled then c.rexmitQueue.getHighestRexmittedSeqNum else c.highRxt }

end Data

end TCPConnection

end inet.tcp
