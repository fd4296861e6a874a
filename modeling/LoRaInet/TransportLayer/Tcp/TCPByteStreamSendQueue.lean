import LoRaInet.Interval.Count
import LoRaInet.TransportLayer.Tcp.TCPSegment

open omnetpp interval

namespace inet.tcp

structure RawPacket where
  byteLength : ℕ
  byteArray : ByteArray

structure TCPByteStreamSendQueue where
  begin : uint32
  endSeq : uint32
  dataBuffer : ByteArrayBuffer

namespace TCPByteStreamSendQueue

variable {M : Type}

def init (startSeq : uint32) : TCPByteStreamSendQueue where
  begin := startSeq
  endSeq := startSeq
  dataBuffer := .empty

def enqueueAppData (q : TCPByteStreamSendQueue) (msg : RawPacket) :
    Except Fault TCPByteStreamSendQueue := do
  ASSERT (msg.byteLength = msg.byteArray.length) "bytes == bamsg->getByteArray().getDataArraySize()"
  .ok { q with
    dataBuffer := q.dataBuffer.push msg.byteArray
    endSeq := q.endSeq + BitVec.ofNat 32 msg.byteLength }

def createSegmentWithBytes (q : TCPByteStreamSendQueue) (fromSeq : uint32) (numBytes : ℕ) :
    Except Fault (TCPSegment M) := do
  ASSERT (seqLE q.begin fromSeq && seqLE (fromSeq + BitVec.ofNat 32 numBytes) q.endSeq)
    "seqLE(begin, fromSeq) && seqLE(fromSeq + numBytes, end)"
  let fromOffs := fromSeq - q.begin
  let buffer := q.dataBuffer.getBytesToBuffer (BitVec.ofNat 32 numBytes).toNat fromOffs.toNat
  ASSERT (buffer.length = numBytes) "bytes == numBytes"
  .ok {
    sequenceNo := fromSeq
    payloadLength := numBytes
    byteArray := buffer
    payloadList := [] }

def discardUpTo (q : TCPByteStreamSendQueue) (seqNum : uint32) :
    Except Fault TCPByteStreamSendQueue := do
  ASSERT (seqLE q.begin seqNum && seqLE seqNum q.endSeq)
    "seqLE(begin, seqNum) && seqLE(seqNum, end)"
  let dataBuffer ← q.dataBuffer.drop (seqNum - q.begin)
  .ok { q with dataBuffer, begin := seqNum }

/-- The queue holds the stream from one position up to another. -/
structure Holds (q : TCPByteStreamSendQueue) (stream : ℤ → UInt8) (low high : ℤ) : Prop where
  begin_eq : q.begin = seqOf low
  end_eq : q.endSeq = seqOf high
  contains : q.dataBuffer.Contains (slice stream low high)
  le : low ≤ high
  lt : high < low + 2 ^ 31

variable {q q' : TCPByteStreamSendQueue} {stream : ℤ → UInt8} {low high : ℤ}

theorem holds_init (stream : ℤ → UInt8) (startSeq : uint32) :
    (init startSeq).Holds stream startSeq.toNat startSeq.toNat where
  begin_eq := (seqOf_toNat startSeq).symm
  end_eq := (seqOf_toNat startSeq).symm
  contains := by
    rw [slice_self]
    exact ByteArrayBuffer.contains_empty
  le := le_refl _
  lt := by omega

theorem Holds.enqueueAppData (h : q.Holds stream low high) {msg : RawPacket}
    (hbytes : msg.byteArray = slice stream high (high + msg.byteArray.length))
    (hwindow : high + msg.byteArray.length < low + 2 ^ 31)
    (hstep : q.enqueueAppData msg = .ok q') :
    q'.Holds stream low (high + msg.byteArray.length) := by
  obtain ⟨_, hassert, heq⟩ := bind_eq_ok_iff.mp hstep
  have hlength := assert_eq_ok.mp hassert
  cases heq
  have hle := h.le
  refine ⟨h.begin_eq, ?_, ?_, by omega, hwindow⟩
  · dsimp only
    rw [h.end_eq, hlength, seqOf_natCast, seqOf_add]
  · have hpush := h.contains.push msg.byteArray
    rw [hbytes, slice_append hle (by omega)] at hpush
    rw [hbytes]
    simpa using hpush

theorem Holds.createSegmentWithBytes (h : q.Holds stream low high) {fromSeq : uint32}
    {numBytes : ℕ} {tcpseg : TCPSegment M}
    (hstep : q.createSegmentWithBytes fromSeq numBytes = .ok tcpseg) :
    ∃ p, low ≤ p ∧ p + numBytes ≤ high ∧ p = low + (fromSeq - q.begin).toNat ∧
      tcpseg.sequenceNo = seqOf p ∧ tcpseg.payloadLength = numBytes ∧
      tcpseg.byteArray = slice stream p (p + numBytes) := by
  obtain ⟨_, hassert, hrest⟩ := bind_eq_ok_iff.mp hstep
  obtain ⟨_, hcount, heq⟩ := bind_eq_ok_iff.mp hrest
  have hbounds := assert_eq_ok.mp hassert
  have hlength := assert_eq_ok.mp hcount
  cases heq
  have hle := h.le
  have hlt := h.lt
  have hbegin := h.begin_eq
  obtain ⟨hfrom, hto⟩ := Bool.and_eq_true_iff.mp hbounds
  rw [h.contains.getBytesToBuffer_eq] at hlength ⊢
  simp only [List.length_take, List.length_drop, length_slice] at hlength
  have hfromEq : fromSeq = seqOf (low + (fromSeq - q.begin).toNat) := by
    rw [← seqOf_add, ← hbegin, seqOf_toNat]
    bv_omega
  have hmod : (BitVec.ofNat 32 numBytes).toNat ≤ numBytes := by
    rw [BitVec.toNat_ofNat]
    exact Nat.mod_le _ _
  rw [seqLE, decide_eq_true_eq] at hfrom
  have hroom : low + (fromSeq - q.begin).toNat + numBytes ≤ high := by
    by_cases hempty : numBytes = 0
    · -- an empty segment may start at the end
      rw [hempty, seqOf_natCast, hfromEq, seqOf_add, h.end_eq,
        seqLE_seqOf ⟨by omega, by omega⟩] at hto
      omega
    · omega
  refine ⟨_, by omega, hroom, rfl, hfromEq, rfl, ?_⟩
  have hfit : (BitVec.ofNat 32 numBytes).toNat = numBytes := by omega
  rw [hfit, drop_slice (by omega), take_slice hroom]

theorem Holds.discardUpTo (h : q.Holds stream low high) {seqNum : uint32}
    (hstep : q.discardUpTo seqNum = .ok q') :
    q'.Holds stream (low + (seqNum - q.begin).toNat) high := by
  obtain ⟨_, hassert, hrest⟩ := bind_eq_ok_iff.mp hstep
  obtain ⟨dataBuffer, hdrop, heq⟩ := bind_eq_ok_iff.mp hrest
  cases heq
  obtain ⟨hfrom, hto⟩ := Bool.and_eq_true_iff.mp (assert_eq_ok.mp hassert)
  have hle := h.le
  have hlt := h.lt
  have hbegin := h.begin_eq
  have hseq : seqNum = seqOf (low + (seqNum - q.begin).toNat) := by
    rw [← seqOf_add, ← hbegin, seqOf_toNat]
    bv_omega
  rw [seqLE, decide_eq_true_eq] at hfrom
  have hstop : low + (seqNum - q.begin).toNat ≤ high := by
    rw [hseq, h.end_eq, seqLE_seqOf ⟨by omega, by omega⟩] at hto
    exact hto
  have hlength : (seqNum - q.begin).toNat ≤ (slice stream low high).length := by
    rw [length_slice]
    omega
  obtain ⟨b', hb', hcontains⟩ := h.contains.drop hlength
  obtain rfl := Except.ok.inj (hb'.symm.trans hdrop)
  refine ⟨hseq, h.end_eq, ?_, hstop, by omega⟩
  rwa [drop_slice hstop] at hcontains

end TCPByteStreamSendQueue

end inet.tcp
