import LoRaInet.TransportLayer.Tcp.TCPByteStreamRcvQueue
import LoRaInet.TransportLayer.Tcp.TCPByteStreamSendQueue
import LoRaInet.Transition.Run

open omnetpp interval transition

namespace inet.tcp

/-- A send queue and a receive queue, and every segment that was ever on its way
from the one to the other. Nothing ever leaves the way, so that each segment may
arrive at any time, any number of times, or never. -/
structure ByteStreamTransfer where
  sendQueue : TCPByteStreamSendQueue
  sent : List UInt8
  discarded : ℕ
  segments : List (InFlight Unit)
  receiveQueue : TCPVirtualDataRcvQueue ByteStreamRegion
  delivered : List UInt8

namespace ByteStreamTransfer

open TCPVirtualDataRcvQueue

def init (startSeq : uint32) : ByteStreamTransfer where
  sendQueue := .init startSeq
  sent := []
  discarded := 0
  segments := []
  receiveQueue := .init startSeq
  delivered := []

inductive Event where
  | enqueueAppData (msg : RawPacket)
  | createSegmentWithBytes (fromSeq : uint32) (numBytes : ℕ)
  | discardUpTo (seqNum : uint32)
  | truncateSegment (s : InFlight Unit) (firstSeqNo endSeqNo : uint32)
  | insertBytesFromSegment (s : InFlight Unit)
  | extractBytesUpTo

def handle (t : ByteStreamTransfer) : Event → Except Fault ByteStreamTransfer
  | .enqueueAppData msg => do
    let sendQueue ← t.sendQueue.enqueueAppData msg
    .ok { t with sendQueue, sent := t.sent ++ msg.byteArray }
  | .createSegmentWithBytes fromSeq numBytes => do
    let tcpseg ← t.sendQueue.createSegmentWithBytes fromSeq numBytes
    let index := t.discarded + (fromSeq - t.sendQueue.begin).toNat
    .ok { t with segments := { index, tcpseg } :: t.segments }
  | .discardUpTo seqNum => do
    let sendQueue ← t.sendQueue.discardUpTo seqNum
    .ok { t with
      sendQueue
      discarded := t.discarded + (seqNum - t.sendQueue.begin).toNat }
  | .truncateSegment s firstSeqNo endSeqNo => do
    let s ← s.truncateSegment firstSeqNo endSeqNo
    .ok { t with segments := s :: t.segments }
  | .insertBytesFromSegment s => do
    let (receiveQueue, _) ← TCPByteStreamRcvQueue.insertBytesFromSegment t.receiveQueue s.tcpseg
    .ok { t with receiveQueue }
  | .extractBytesUpTo => do
    let (receiveQueue, msg) ←
      TCPByteStreamRcvQueue.extractBytesUpTo t.receiveQueue t.receiveQueue.rcv_nxt
    .ok { t with receiveQueue, delivered := t.delivered ++ msg.getD [] }

/-- Only what is on its way can arrive or be truncated. -/
def Possible (t : ByteStreamTransfer) : Event → Prop
  | .truncateSegment s _ _ => s ∈ t.segments
  | .insertBytesFromSegment s => s ∈ t.segments
  | _ => True

instance (t : ByteStreamTransfer) : (e : Event) → Decidable (t.Possible e)
  | .truncateSegment .. | .insertBytesFromSegment _ => inferInstanceAs (Decidable (_ ∈ _))
  | .enqueueAppData .. | .createSegmentWithBytes .. | .discardUpTo _ | .extractBytesUpTo => .isTrue trivial

/-- A call that throws is no step. -/
def step (t : ByteStreamTransfer) (e : Event) : Option (ByteStreamTransfer × Unit) :=
  if t.Possible e then (t.handle e).toOption.map fun t => (t, ()) else none

/-- Less than 2^31 bytes are in the send queue. A segment arrives within a window
above the bytes delivered, is not empty, and does not end inside a stored region. -/
def Allowed (t : ByteStreamTransfer) : Event → Prop
  | .enqueueAppData msg => t.sent.length - t.discarded + msg.byteLength < 2 ^ 31
  | .insertBytesFromSegment s => 0 < s.tcpseg.payloadLength ∧
      t.delivered.length ≤ s.index ∧
      s.index + s.tcpseg.payloadLength < t.delivered.length + 2 ^ 31 ∧
      ∀ reg ∈ t.receiveQueue.regionList,
        ¬(seqLess reg.begin s.tcpseg.endSeq ∧ seqLess s.tcpseg.endSeq reg.endSeq)
  | _ => True

instance (t : ByteStreamTransfer) : (e : Event) → Decidable (t.Allowed e)
  | .enqueueAppData _ => inferInstanceAs (Decidable (_ < _))
  | .insertBytesFromSegment _ => inferInstanceAs (Decidable (_ ∧ _))
  | .truncateSegment .. | .createSegmentWithBytes .. | .discardUpTo _ | .extractBytesUpTo => .isTrue trivial

/-- The segment carries the bytes of the stream from its index on. -/
structure Carries (stream : ℤ → UInt8) (start : ℤ) (s : InFlight Unit) : Prop where
  numbered : s.Numbered start
  byteArray_eq : s.tcpseg.byteArray =
    slice stream (start + s.index) (start + s.index + s.tcpseg.payloadLength)

variable {s : InFlight Unit}

theorem Carries.length_eq {stream : ℤ → UInt8} {start : ℤ}
    (h : Carries stream start s) : s.tcpseg.byteArray.length = s.tcpseg.payloadLength := by
  rw [h.byteArray_eq, length_slice]
  omega

theorem Carries.truncateSegment {stream : ℤ → UInt8} {start : ℤ} {s s' : InFlight Unit}
    (h : Carries stream start s) {firstSeqNo endSeqNo : uint32}
    (hcall : s.truncateSegment firstSeqNo endSeqNo = .ok s') :
    Carries stream start s' ∧
      s'.index + s'.tcpseg.payloadLength ≤ s.index + s.tcpseg.payloadLength := by
  obtain ⟨hnumbered, truncleft, truncright, hleft, hright, hindex, hdata⟩ :=
    h.numbered.truncateSegment hcall
  obtain ⟨hfits, -, hlength, hbytes, -⟩ := TCPSegment.truncateData_eq_ok hleft hright hdata
  have hslice := TCPSegment.truncateByteArray_eq_ok hleft hright hbytes
  rw [h.length_eq, ← hlength, h.byteArray_eq, drop_slice (by omega), take_slice (by omega)] at hslice
  refine ⟨⟨hnumbered, ?_⟩, by omega⟩
  rw [hslice, hindex, Nat.cast_add, ← add_assoc]

/-- The two queues and all segments agree on one stream of bytes. -/
structure Consistent (stream : ℤ → UInt8) (start : ℤ) (t : ByteStreamTransfer) : Prop where
  sent_eq : t.sent = slice stream start (start + t.sent.length)
  sender : t.sendQueue.Holds stream (start + t.discarded) (start + t.sent.length)
  segments : ∀ s ∈ t.segments, Carries stream start s ∧
    s.index + s.tcpseg.payloadLength ≤ t.sent.length
  receiver : ∃ bytes blocks, t.receiveQueue.Buffers (ByteStreamRegion.laws stream) bytes blocks ∧
    bytes.start = start ∧ bytes.first = start + t.delivered.length ∧
    ∀ p ∈ bytes.received, p < start + t.sent.length
  delivered_eq : t.delivered = slice stream start (start + t.delivered.length)

variable {stream : ℤ → UInt8} {start : ℤ} {t t' : ByteStreamTransfer}

open ByteStreamRegion

theorem consistent_init (stream : ℤ → UInt8) (startSeq : uint32) :
    Consistent stream startSeq.toNat (init startSeq) where
  sent_eq := by
    rw [show (init startSeq).sent = [] from rfl, List.length_nil, Nat.cast_zero, add_zero, slice_self]
  sender := by
    have hholds := TCPByteStreamSendQueue.holds_init stream startSeq
    simpa [init] using hholds
  segments := by simp [init]
  receiver := by
    refine ⟨.init startSeq.toNat, [], ?_, rfl, ?_, ?_⟩
    · exact buffers_init (laws stream) startSeq
    · simp [init]
    · simp
  delivered_eq := by
    rw [show (init startSeq).delivered = [] from rfl, List.length_nil, Nat.cast_zero, add_zero,
      slice_self]

section

variable (h : Consistent stream start t)
include h

theorem Consistent.enqueueAppData {msg : RawPacket}
    (hwindow : t.sent.length - t.discarded + msg.byteLength < 2 ^ 31)
    (hcall : t.handle (.enqueueAppData msg) = .ok t')
    (hsent : t'.sent = slice stream start (start + t'.sent.length)) :
    Consistent stream start t' := by
  obtain ⟨sendQueue, henqueue, heq⟩ := bind_eq_ok_iff.mp hcall
  obtain ⟨_, hassert, -⟩ := bind_eq_ok_iff.mp henqueue
  have hlength := assert_eq_ok.mp hassert
  cases heq
  have hle := h.sender.le
  have htotal : (t.sent ++ msg.byteArray).length = t.sent.length + msg.byteArray.length :=
    List.length_append
  have hbytes : msg.byteArray = slice stream (start + t.sent.length)
      (start + t.sent.length + msg.byteArray.length) := by
    have hdrop := congrArg (List.drop t.sent.length) hsent
    dsimp only at hdrop
    rw [htotal, List.drop_left, drop_slice (by omega), Nat.cast_add, ← add_assoc] at hdrop
    exact hdrop
  have hsender := h.sender.enqueueAppData hbytes (by omega) henqueue
  constructor
  case sent_eq => exact hsent
  case sender =>
    rw [htotal, Nat.cast_add, ← add_assoc]
    exact hsender
  case segments =>
    intro s hs
    obtain ⟨hcarries, hbound⟩ := h.segments s hs
    exact ⟨hcarries, by dsimp only; omega⟩
  case receiver =>
    obtain ⟨bytes, blocks, hbuffers, hstart, hfirst, hreceived⟩ := h.receiver
    refine ⟨bytes, blocks, hbuffers, hstart, hfirst, fun p hp => ?_⟩
    have hlt := hreceived p hp
    dsimp only
    omega
  case delivered_eq => exact h.delivered_eq

theorem Consistent.createSegmentWithBytes {fromSeq : uint32}
    {numBytes : ℕ} (hcall : t.handle (.createSegmentWithBytes fromSeq numBytes) = .ok t') :
    Consistent stream start t' := by
  obtain ⟨tcpseg, hcreate, heq⟩ := bind_eq_ok_iff.mp hcall
  cases heq
  obtain ⟨p, hlow, hhigh, hp, hseq, hlength, hbytes⟩ := h.sender.createSegmentWithBytes hcreate
  refine ⟨h.sent_eq, h.sender, ?_, h.receiver, h.delivered_eq⟩
  intro s hs
  cases List.mem_cons.mp hs with
  | inr hmem => exact h.segments s hmem
  | inl heq =>
    have hindex : p = start + s.index := by
      rw [heq]
      dsimp only
      omega
    rw [hindex] at hseq hbytes hhigh
    rw [heq] at hseq hbytes hhigh ⊢
    refine ⟨⟨hseq, ?_⟩, ?_⟩
    · rw [hlength]
      exact hbytes
    · dsimp only at *
      omega

theorem Consistent.discardUpTo {seqNum : uint32}
    (hcall : t.handle (.discardUpTo seqNum) = .ok t') : Consistent stream start t' := by
  obtain ⟨sendQueue, hdiscard, heq⟩ := bind_eq_ok_iff.mp hcall
  cases heq
  have hsender := h.sender.discardUpTo hdiscard
  rw [add_assoc, ← Nat.cast_add] at hsender
  exact ⟨h.sent_eq, hsender, h.segments, h.receiver, h.delivered_eq⟩

theorem Consistent.truncateSegment (hs : s ∈ t.segments) {firstSeqNo endSeqNo : uint32}
    (hcall : t.handle (.truncateSegment s firstSeqNo endSeqNo) = .ok t') :
    Consistent stream start t' := by
  obtain ⟨s', htruncate, heq⟩ := bind_eq_ok_iff.mp hcall
  cases heq
  obtain ⟨hcarries, hbound⟩ := h.segments s hs
  obtain ⟨hcarries', hbound'⟩ := hcarries.truncateSegment htruncate
  refine ⟨h.sent_eq, h.sender, ?_, h.receiver, h.delivered_eq⟩
  intro s'' hs''
  cases List.mem_cons.mp hs'' with
  | inl heq =>
    rw [heq]
    exact ⟨hcarries', hbound'.trans hbound⟩
  | inr hmem => exact h.segments s'' hmem

theorem Consistent.insertBytesFromSegment
    (hs : s ∈ t.segments) (hallowed : t.Allowed (.insertBytesFromSegment s)) :
    ∃ t', t.handle (.insertBytesFromSegment s) = .ok t' ∧ t'.sent = t.sent ∧
      Consistent stream start t' := by
  obtain ⟨hpos, hlow, hhigh, hinside⟩ := hallowed
  obtain ⟨hcarries, hbound⟩ := h.segments s hs
  obtain ⟨bytes, blocks, hbuffers, hstart, hfirst, hreceived⟩ := h.receiver
  obtain ⟨b, hblow, hbhigh⟩ : ∃ b : Block ℤ, b.low = start + s.index ∧
      b.high = start + s.index + s.tcpseg.payloadLength :=
    ⟨⟨_, _, lt_add_of_pos_right _ (Nat.cast_pos.mpr hpos)⟩, rfl, rfl⟩
  have hb : Within bytes.first b := by
    constructor <;> omega
  have hregion : createRegionFromSegment s.tcpseg =
      .ok (ofBlock stream b) := by
    rw [createRegionFromSegment, assert_bind hcarries.length_eq.symm,
      ofBlock, hblow, hbhigh, ← hcarries.numbered.endSeq_eq, ← hcarries.numbered,
      ← hcarries.byteArray_eq]
  have hjoins : ∀ c ∈ blocks, ByteStreamRegion.NotInside b c := by
    rintro c hc ⟨hclow, hchigh⟩
    obtain ⟨r, hr, hholds⟩ := exists_of_forall₂ hbuffers.regions.flip hc
    obtain ⟨hc₁, hc₂⟩ := hbuffers.within hc
    obtain ⟨hb₁, hb₂⟩ := hb
    apply hinside r hr
    rw [hcarries.numbered.endSeq_eq, ← hbhigh,
      show r.begin = seqOf c.low from (laws stream).getBegin_eq hholds,
      show r.endSeq = seqOf c.high from (laws stream).getEnd_eq hholds,
      seqLess_seqOf ⟨by omega, by omega⟩, seqLess_seqOf ⟨by omega, by omega⟩]
    exact ⟨hclow, hchigh⟩
  obtain ⟨q', hq', hbuffers'⟩ := hbuffers.insertRegion rfl hb hjoins
    (TCPByteStreamRcvQueue.str t.receiveQueue)
  refine ⟨{ t with receiveQueue := q' }, ?_, rfl, h.sent_eq, h.sender, h.segments, ?_,
    h.delivered_eq⟩
  · rw [handle, TCPByteStreamRcvQueue.insertBytesFromSegment, hregion]
    dsimp only [bind, Except.bind]
    rw [hq']
  · refine ⟨_, _, hbuffers', hstart, hfirst, ?_⟩
    rintro p (hp | hp)
    · have hlt := hp.2
      dsimp only
      omega
    · exact hreceived p hp

theorem Consistent.delivered_le : ∃ n : ℕ, t.delivered.length ≤ n ∧ n ≤ t.sent.length ∧
      t.receiveQueue.rcv_nxt = seqOf (start + n) := by
  obtain ⟨bytes, blocks, hbuffers, hstart, hfirst, hreceived⟩ := h.receiver
  have hwf := hbuffers.wellFormed
  have hle := hwf.first_le_next
  have hbound : bytes.next ≤ start + t.sent.length := by
    by_contra hlt
    have hmem := hwf.mem_received (p := start + t.sent.length) (by omega) (not_le.mp hlt)
    exact absurd (hreceived _ hmem) (lt_irrefl _)
  refine ⟨(bytes.next - start).toNat, by omega, by omega, ?_⟩
  rw [hbuffers.rcv_nxt_eq]
  congr 1
  omega

theorem Consistent.extractBytesUpTo :
    ∃ t', t.handle .extractBytesUpTo = .ok t' ∧ t'.sent = t.sent ∧ Consistent stream start t' ∧
      t'.receiveQueue.rcv_nxt = seqOf (start + t'.delivered.length) := by
  obtain ⟨bytes, blocks, hbuffers, hstart, hfirst, hreceived⟩ := h.receiver
  have hwf := hbuffers.wellFormed
  have hle := hwf.first_le_next
  have hblocks : ∀ b ∈ blocks, b.high < bytes.next + 2 ^ 31 := by
    intro b hb
    obtain ⟨hb₁, hb₂⟩ := hbuffers.within hb
    omega
  obtain ⟨q', out, blocks', hq', hbuffers', -, hnone, hsome⟩ :=
    hbuffers.extractTo (le_refl _) (by omega) hblocks
  rw [← hbuffers.rcv_nxt_eq] at hq'
  cases out with
  | none =>
    have heq : bytes.next = bytes.first := le_antisymm (hnone rfl) hle
    refine ⟨{ t with receiveQueue := q', delivered := t.delivered ++ [] }, ?_, rfl,
      ⟨h.sent_eq, h.sender, h.segments, ?_, ?_⟩, ?_⟩
    · rw [handle, TCPByteStreamRcvQueue.extractBytesUpTo, hq']
      rfl
    · refine ⟨_, _, hbuffers', hstart, ?_, hreceived⟩
      rw [ReceivedBytes.extract, heq, max_self, hfirst, List.append_nil]
    · rw [List.append_nil]
      exact h.delivered_eq
    · rw [List.append_nil, hbuffers'.rcv_nxt_eq, ReceivedBytes.next_extract, heq, hfirst]
  | some reg =>
    obtain ⟨hlt, hreg⟩ := hsome reg rfl
    have hcopy : reg.copyTo = .ok (slice stream bytes.first bytes.next) := by
      have hsub := toNat_sub_of_near hlt.le (by linarith [hwf.next_lt])
      rw [hreg]
      apply assert_bind
      rw [getLength, show Region.getEnd (ofBlock stream ⟨_, _, hlt⟩) =
        seqOf bytes.next from rfl, show Region.getBegin (ofBlock stream
        ⟨_, _, hlt⟩) = seqOf bytes.first from rfl, ofBlock, length_slice]
      dsimp only
      omega
    have hlength : start + (t.delivered ++ slice stream bytes.first bytes.next).length =
        bytes.next := by
      rw [List.length_append, length_slice]
      omega
    refine ⟨{ t with
      receiveQueue := q'
      delivered := t.delivered ++ slice stream bytes.first bytes.next }, ?_, rfl,
      ⟨h.sent_eq, h.sender, h.segments, ?_, ?_⟩, ?_⟩
    · rw [handle, TCPByteStreamRcvQueue.extractBytesUpTo, hq']
      dsimp only [bind, Except.bind]
      rw [hcopy]
      rfl
    · refine ⟨_, _, hbuffers', hstart, ?_, hreceived⟩
      rw [ReceivedBytes.extract, max_eq_right hle, hlength]
    · dsimp only
      rw [hlength]
      have hdelivered := h.delivered_eq
      rw [← hfirst] at hdelivered
      rw [hdelivered, slice_append (by omega) hle]
    · rw [hbuffers'.rcv_nxt_eq, ReceivedBytes.next_extract, hlength]

end

theorem step_eq_some {e : Event} {u : Unit} :
    step t e = some (t', u) ↔ t.Possible e ∧ t.handle e = .ok t' := by
  unfold step
  split
  · next hpossible =>
    cases hcall : t.handle e with
    | error fault => simp [Except.toOption]
    | ok t'' => simp [Except.toOption, hpossible]
  · next hnot => simp [hnot]

theorem prefix_sent {e : Event} (hcall : t.handle e = .ok t') : t.sent <+: t'.sent := by
  cases e with
  | enqueueAppData msg =>
    obtain ⟨_, -, heq⟩ := bind_eq_ok_iff.mp hcall
    cases heq
    exact List.prefix_append _ _
  | createSegmentWithBytes fromSeq numBytes | discardUpTo seqNum
  | truncateSegment s firstSeqNo endSeqNo | insertBytesFromSegment s | extractBytesUpTo =>
    obtain ⟨_, -, heq⟩ := bind_eq_ok_iff.mp hcall
    cases heq
    exact List.prefix_rfl

theorem Consistent.step (h : Consistent stream start t) {e : Event} (hpossible : t.Possible e)
    (hallowed : t.Allowed e) (hcall : t.handle e = .ok t')
    (hsent : t'.sent = slice stream start (start + t'.sent.length)) :
    Consistent stream start t' := by
  cases e with
  | enqueueAppData msg => exact h.enqueueAppData hallowed hcall hsent
  | createSegmentWithBytes fromSeq numBytes => exact h.createSegmentWithBytes hcall
  | discardUpTo seqNum => exact h.discardUpTo hcall
  | truncateSegment s firstSeqNo endSeqNo => exact h.truncateSegment hpossible hcall
  | insertBytesFromSegment s =>
    obtain ⟨t'', hcall', -, hconsistent⟩ := h.insertBytesFromSegment hpossible hallowed
    obtain rfl := Except.ok.inj (hcall'.symm.trans hcall)
    exact hconsistent
  | extractBytesUpTo =>
    obtain ⟨t'', hcall', -, hconsistent, -⟩ := h.extractBytesUpTo
    obtain rfl := Except.ok.inj (hcall'.symm.trans hcall)
    exact hconsistent

/-- Every run is consistent with any stream that begins with what was sent in it. -/
theorem consistent_of_run {startSeq : uint32} {history} {t : ByteStreamTransfer}
    (hrun : Run (· = init startSeq) (StepOf (traced step)) history t)
    (hallowed : Always (fun _ l => l.2.1.Allowed l.1) history) {stream : ℤ → UInt8}
    (hsent : t.sent = slice stream startSeq.toNat (startSeq.toNat + t.sent.length)) :
    Consistent stream startSeq.toNat t := by
  induction hrun with
  | init hinit => exact hinit ▸ consistent_init stream startSeq
  | @step history s s' l hrun hstep ih =>
    obtain ⟨e, before, o⟩ := l
    obtain ⟨hearlier, hnow⟩ := hallowed
    obtain ⟨rfl, htaken⟩ := traced_eq_some.mp hstep
    obtain ⟨hpossible, hcall⟩ := step_eq_some.mp htaken
    have hbegins := prefix_sent hcall
    have hbefore : before.sent =
        slice stream startSeq.toNat (startSeq.toNat + before.sent.length) := by
      have hle := hbegins.length_le
      rw [List.prefix_iff_eq_take.mp hbegins, hsent, take_slice (by omega), length_slice]
      congr 1
      omega
    exact (ih hearlier hbefore).step hpossible hnow hcall hsent

/-- The bytes handed on are a prefix of the bytes sent, up to `rcv_nxt` after each
extraction, and no arrival or extraction throws. -/
theorem prefix_delivered {startSeq : uint32} {history} {t : ByteStreamTransfer}
    (hrun : Run (· = init startSeq) (StepOf (traced step)) history t)
    (hallowed : Always (fun _ l => l.2.1.Allowed l.1) history) :
    t.delivered <+: t.sent ∧
    (∃ n : ℕ, t.delivered.length ≤ n ∧ n ≤ t.sent.length ∧
      t.receiveQueue.rcv_nxt = startSeq + BitVec.ofNat 32 n) ∧
    (∃ t', step t .extractBytesUpTo = some (t', ()) ∧ t'.delivered <+: t.sent ∧
      t'.receiveQueue.rcv_nxt = startSeq + BitVec.ofNat 32 t'.delivered.length) ∧
    ∀ s, t.Possible (.insertBytesFromSegment s) → t.Allowed (.insertBytesFromSegment s) →
      ∃ t', step t (.insertBytesFromSegment s) = some (t', ()) := by
  obtain ⟨stream, hsent⟩ : ∃ stream : ℤ → UInt8,
      t.sent = slice stream startSeq.toNat (startSeq.toNat + t.sent.length) := by
    refine ⟨fun p => t.sent.getD (p - startSeq.toNat).toNat 0, eq_slice_of_agrees ?_⟩
    intro i hi
    simp [hi]
  have hconsistent := consistent_of_run hrun hallowed hsent
  have hbegins : ∀ {t : ByteStreamTransfer}, Consistent stream startSeq.toNat t →
      t.delivered <+: t.sent := by
    intro t h
    obtain ⟨n, hle, hle', -⟩ := h.delivered_le
    rw [h.delivered_eq, h.sent_eq]
    exact prefix_slice (by omega) (by omega)
  have hseq : ∀ n : ℕ, seqOf (startSeq.toNat + n) = startSeq + BitVec.ofNat 32 n := by
    intro n
    rw [← seqOf_add, seqOf_toNat, seqOf_natCast]
  refine ⟨hbegins hconsistent, ?_, ?_, fun s hpossible hallowed => ?_⟩
  · obtain ⟨n, hle, hle', hnext⟩ := hconsistent.delivered_le
    exact ⟨n, hle, hle', hnext.trans (hseq n)⟩
  · obtain ⟨t', hcall, hsame, hconsistent', hnext⟩ := hconsistent.extractBytesUpTo
    exact ⟨t', step_eq_some.mpr ⟨trivial, hcall⟩, hsame ▸ hbegins hconsistent',
      hnext.trans (hseq _)⟩
  · obtain ⟨t', hcall, -⟩ := hconsistent.insertBytesFromSegment hpossible hallowed
    exact ⟨t', step_eq_some.mpr ⟨hpossible, hcall⟩⟩

def packet (byteArray : ByteArray) : RawPacket where
  byteLength := byteArray.length
  byteArray := byteArray

def dataSegment (index : ℕ) (sequenceNo : uint32) (byteArray : ByteArray) : InFlight Unit where
  index := index
  tcpseg := {
    sequenceNo := sequenceNo
    payloadLength := byteArray.length
    byteArray := byteArray
    payloadList := [] }

/-- Six bytes around the wraparound, in two overlapping segments of which the first
is lost, retransmitted and truncated. -/
def retransmitted : List Event :=
  [.enqueueAppData (packet [0, 1, 2, 3]), .createSegmentWithBytes 4294967294 4,
    .enqueueAppData (packet [4, 5]), .createSegmentWithBytes 4294967295 5,
    .insertBytesFromSegment (dataSegment 1 4294967295 [1, 2, 3, 4, 5]), .extractBytesUpTo,
    .truncateSegment (dataSegment 0 4294967294 [0, 1, 2, 3]) 4294967294 4294967295,
    .insertBytesFromSegment (dataSegment 0 4294967294 [0]), .extractBytesUpTo, .discardUpTo 4]

theorem prefix_delivered_retransmitted : ∃ t : ByteStreamTransfer,
    t.delivered = [0, 1, 2, 3, 4, 5] ∧ t.delivered <+: t.sent := by
  obtain ⟨t, history, hrun, hallowed, hdelivered⟩ := exists_run_of_execute (traced step)
    (init 4294967294) retransmitted
    (fun t history => Always (fun _ l => l.2.1.Allowed l.1) history ∧
      t.delivered = [0, 1, 2, 3, 4, 5])
    (by decide +kernel)
  exact ⟨t, hdelivered, (prefix_delivered hrun hallowed).1⟩

/-- A segment that ends inside a stored region overwrites the bytes after its end,
and a segment that arrives again after its bytes were handed on is handed on again. -/
theorem delivered_overlap :
    ((execute step (init 0) [] [.enqueueAppData (packet [0, 1, 2, 3, 4, 5]),
      .createSegmentWithBytes 2 4, .createSegmentWithBytes 0 4,
      .insertBytesFromSegment (dataSegment 2 2 [2, 3, 4, 5]),
      .insertBytesFromSegment (dataSegment 0 0 [0, 1, 2, 3]), .extractBytesUpTo]).map
      fun r => (r.1.sent, r.1.delivered)) = some ([0, 1, 2, 3, 4, 5], [0, 1, 2, 3, 2, 3]) ∧
    ((execute step (init 0) [] [.enqueueAppData (packet [7, 8]), .createSegmentWithBytes 0 2,
      .insertBytesFromSegment (dataSegment 0 0 [7, 8]), .extractBytesUpTo,
      .insertBytesFromSegment (dataSegment 0 0 [7, 8]), .extractBytesUpTo]).map
      fun r => (r.1.sent, r.1.delivered)) = some ([7, 8], [7, 8, 7, 8]) := by
  decide +kernel

end ByteStreamTransfer

end inet.tcp
