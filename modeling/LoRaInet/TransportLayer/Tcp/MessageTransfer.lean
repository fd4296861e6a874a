import LoRaInet.TransportLayer.Tcp.TCPVirtualDataRcvQueue

open omnetpp

namespace inet.tcp

structure TCPMsgBasedSendQueue (M : Type) where
  begin : uint32
  endSeq : uint32
  payloadQueue : List (TCPPayloadMessage M)

namespace TCPMsgBasedSendQueue

variable {M : Type}

/-- A new queue. -/
def init (startSeq : uint32) : TCPMsgBasedSendQueue M where
  begin := startSeq
  endSeq := startSeq
  payloadQueue := []

variable (q : TCPMsgBasedSendQueue M)

def enqueueAppData (msg : M) (byteLength : ℕ) : Except Fault (TCPMsgBasedSendQueue M) :=
  let endSeq := q.endSeq + BitVec.ofNat 32 byteLength
  if seqLess endSeq q.begin then .error (.cRuntimeError "Send queue is full")
  else .ok { q with
    endSeq := endSeq
    payloadQueue := q.payloadQueue ++ [{ msg := msg, endSequenceNo := endSeq }] }

/-- The messages whose end is after `fromSeq` and not after the segment. -/
def createSegmentWithBytes (fromSeq : uint32) (numBytes : ℕ) : Except Fault (TCPSegment M) := do
  ASSERT (seqLE q.begin fromSeq && seqLE (fromSeq + BitVec.ofNat 32 numBytes) q.endSeq)
    "seqLE(begin, fromSeq) && seqLE(fromSeq + numBytes, end)"
  let i := q.payloadQueue.dropWhile fun payload => seqLE payload.endSequenceNo fromSeq
  let toSeq := fromSeq + BitVec.ofNat 32 numBytes
  .ok {
    sequenceNo := fromSeq
    payloadLength := numBytes
    byteArray := []
    payloadList := i.takeWhile fun payload => seqLE payload.endSequenceNo toSeq }

def discardUpTo (seqNum : uint32) : Except Fault (TCPMsgBasedSendQueue M) := do
  ASSERT (seqLE q.begin seqNum && seqLE seqNum q.endSeq)
    "seqLE(begin, seqNum) && seqLE(seqNum, end)"
  .ok { q with
    begin := seqNum
    payloadQueue := q.payloadQueue.dropWhile fun payload => seqLE payload.endSequenceNo seqNum }

end TCPMsgBasedSendQueue

structure PayloadItem (M : Type) where
  seqNo : uint32
  packet : M

/-- A `TCPVirtualDataRcvQueue` with the messages that have arrived. -/
structure TCPMsgBasedRcvQueue (M : Type) extends TCPVirtualDataRcvQueue VirtualRegion where
  payloadList : List (PayloadItem M)

namespace TCPMsgBasedRcvQueue

variable {M : Type}

def init (startSeq : uint32) : TCPMsgBasedRcvQueue M where
  toTCPVirtualDataRcvQueue := .init startSeq
  payloadList := []

def str (q : TCPMsgBasedRcvQueue M) : String :=
  q.toTCPVirtualDataRcvQueue.str ++ s!" {q.payloadList.length} msgs"

def precedes (payload : TCPPayloadMessage M) (i : PayloadItem M) : Bool :=
  seqLess i.seqNo payload.endSequenceNo

/-- The payload list while messages are inserted. The iterator stands between
`before`, which is reversed, and `after`. -/
def insertPayloads (before after : List (PayloadItem M)) :
    List (TCPPayloadMessage M) → Except Fault (List (PayloadItem M))
  | [] => .ok (before.reverse ++ after)
  | payload :: msgs =>
    let before := (after.takeWhile (precedes payload)).reverse ++ before
    let after := after.dropWhile (precedes payload)
    if after.head?.any fun i => i.seqNo = payload.endSequenceNo then
      insertPayloads before after msgs
    else
      let after := { seqNo := payload.endSequenceNo, packet := payload.msg } :: after
      let payloadList := before.reverse ++ after
      match payloadList.head?, payloadList.getLast? with
      | some front, some back => do
        ASSERT (seqLE front.seqNo back.seqNo)
          "seqLE(payloadList.front().seqNo, payloadList.back().seqNo)"
        insertPayloads before after msgs
      | _, _ => .error .outOfRange

variable (q : TCPMsgBasedRcvQueue M)

def insertBytesFromSegment (tcpseg : TCPSegment M) :
    Except Fault (TCPMsgBasedRcvQueue M × uint32) := do
  let base ← q.toTCPVirtualDataRcvQueue.insertRegion
    (VirtualRegion.createRegionFromSegment tcpseg) q.str
  let payloadList ← insertPayloads [] q.payloadList tcpseg.payloadList
  .ok ({ toTCPVirtualDataRcvQueue := base, payloadList }, base.rcv_nxt)

/-- Extraction stops at the end of the first message. -/
def extractSeq (seq : uint32) : uint32 :=
  match q.payloadList with
  | [] => seq
  | payload :: _ => if seqLess payload.seqNo seq then payload.seqNo else seq

/-- The message that ends where the region does. -/
def takeMessage (payloadList : List (PayloadItem M)) (reg : Option VirtualRegion) :
    List (PayloadItem M) × Option M :=
  match reg, payloadList with
  | some reg, payload :: rest =>
    if payload.seqNo = reg.endSeq then (rest, some payload.packet) else (payloadList, none)
  | _, _ => (payloadList, none)

def extractBytesUpTo (seq : uint32) : Except Fault (TCPMsgBasedRcvQueue M × Option M) := do
  let (base, reg) ← q.toTCPVirtualDataRcvQueue.extractTo (q.extractSeq seq)
  let (payloadList, msg) := takeMessage q.payloadList reg
  .ok ({ toTCPVirtualDataRcvQueue := base, payloadList }, msg)

end TCPMsgBasedRcvQueue

/-- A message that was sent, with the number of bytes sent up to its end. -/
structure SentMessage (M : Type) where
  endIndex : ℕ
  msg : M
  deriving DecidableEq

namespace SentMessage

variable {M : Type}

def payload (start : ℤ) (m : SentMessage M) : TCPPayloadMessage M where
  msg := m.msg
  endSequenceNo := seqOf (start + m.endIndex)

def item (start : ℤ) (m : SentMessage M) : PayloadItem M where
  seqNo := seqOf (start + m.endIndex)
  packet := m.msg

end SentMessage

/-- A send queue and a receive queue, and every segment that was ever on its way
from the one to the other. -/
structure MessageTransfer (M : Type) where
  sendQueue : TCPMsgBasedSendQueue M
  sent : List (SentMessage M)
  total : ℕ
  discarded : ℕ
  segments : List (InFlight M)
  receiveQueue : TCPMsgBasedRcvQueue M
  extracted : ℕ
  delivered : List M

namespace MessageTransfer

variable {M : Type}

def init (startSeq : uint32) : MessageTransfer M where
  sendQueue := .init startSeq
  sent := []
  total := 0
  discarded := 0
  segments := []
  receiveQueue := .init startSeq
  extracted := 0
  delivered := []

inductive Event (M : Type) where
  | enqueueAppData (msg : M) (byteLength : ℕ)
  | createSegmentWithBytes (fromSeq : uint32) (numBytes : ℕ)
  | discardUpTo (seqNum : uint32)
  | truncateSegment (s : InFlight M) (firstSeqNo endSeqNo : uint32)
  | insertBytesFromSegment (s : InFlight M)
  | extractBytesUpTo

variable (t : MessageTransfer M)

/-- An extraction puts out the message it returns. -/
def handle : Event M → Except Fault (MessageTransfer M × Option M)
  | .enqueueAppData msg byteLength => do
    let sendQueue ← t.sendQueue.enqueueAppData msg byteLength
    let total := t.total + byteLength
    .ok ({ t with sendQueue, total, sent := t.sent ++ [{ endIndex := total, msg := msg }] }, none)
  | .createSegmentWithBytes fromSeq numBytes => do
    let tcpseg ← t.sendQueue.createSegmentWithBytes fromSeq numBytes
    let index := t.discarded + (fromSeq - t.sendQueue.begin).toNat
    .ok ({ t with segments := { index, tcpseg } :: t.segments }, none)
  | .discardUpTo seqNum => do
    let sendQueue ← t.sendQueue.discardUpTo seqNum
    .ok ({ t with
      sendQueue
      discarded := t.discarded + (seqNum - t.sendQueue.begin).toNat }, none)
  | .truncateSegment s firstSeqNo endSeqNo => do
    let s ← s.truncateSegment firstSeqNo endSeqNo
    .ok ({ t with segments := s :: t.segments }, none)
  | .insertBytesFromSegment s => do
    let (receiveQueue, _) ← t.receiveQueue.insertBytesFromSegment s.tcpseg
    .ok ({ t with receiveQueue }, none)
  | .extractBytesUpTo => do
    let (receiveQueue, msg) ← t.receiveQueue.extractBytesUpTo t.receiveQueue.rcv_nxt
    .ok ({ t with
      receiveQueue
      extracted := t.extracted +
        (receiveQueue.getFirstSeqNo - t.receiveQueue.getFirstSeqNo).toNat
      delivered := t.delivered ++ msg.toList }, msg)

/-- Only what is on its way can arrive or be truncated. -/
def Possible : Event M → Prop
  | .truncateSegment s _ _ => s ∈ t.segments
  | .insertBytesFromSegment s => s ∈ t.segments
  | _ => True

instance [DecidableEq M] (t : MessageTransfer M) : (e : Event M) → Decidable (t.Possible e)
  | .truncateSegment .. | .insertBytesFromSegment _ => inferInstanceAs (Decidable (_ ∈ _))
  | .enqueueAppData .. | .createSegmentWithBytes .. | .discardUpTo _ | .extractBytesUpTo => .isTrue trivial

/-- A call that throws is no step. -/
def step [DecidableEq M] (t : MessageTransfer M) (e : Event M) :
    Option (MessageTransfer M × Option M) :=
  if t.Possible e then (t.handle e).toOption else none

/-- Messages are not empty, and less than 2^31 bytes are in the send queue and in a
segment made from it. A segment arrives within a window above the bytes extracted,
and is not empty. -/
def Allowed : Event M → Prop
  | .enqueueAppData _ byteLength => 0 < byteLength ∧
      t.total - t.discarded + byteLength < 2 ^ 31
  | .createSegmentWithBytes fromSeq numBytes =>
      (fromSeq - t.sendQueue.begin).toNat + numBytes < 2 ^ 31
  | .insertBytesFromSegment s => 0 < s.tcpseg.payloadLength ∧ t.extracted ≤ s.index ∧
      s.index + s.tcpseg.payloadLength < t.extracted + 2 ^ 31
  | _ => True

instance (t : MessageTransfer M) : (e : Event M) → Decidable (t.Allowed e)
  | .enqueueAppData .. | .insertBytesFromSegment _ => inferInstanceAs (Decidable (_ ∧ _))
  | .createSegmentWithBytes .. => inferInstanceAs (Decidable (_ < _))
  | .truncateSegment .. | .discardUpTo _ | .extractBytesUpTo => .isTrue trivial

end MessageTransfer

end inet.tcp
