import LoRaInet.Container.OrderedMap
import LoRaInet.TransportLayer.Tcp.MessageTransfer

open container omnetpp

namespace inet.tcp.MessageTransfer

variable {M : Type}

/-- The messages that end after one index and up to another. -/
def messagesIn (sent : List (SentMessage M)) (low high : ℕ) : List (SentMessage M) :=
  (sent.filter fun m => m.endIndex ≤ high).filter fun m => low < m.endIndex

/-- The messages sent, in the order of their ends. -/
structure Ordered (sent : List (SentMessage M)) (total : ℕ) : Prop where
  ascending : Ascending SentMessage.endIndex sent
  pos : ∀ m ∈ sent, 0 < m.endIndex
  le_total : ∀ m ∈ sent, m.endIndex ≤ total

/-- The send queue holds the messages that end after what was discarded. -/
structure Holds (q : TCPMsgBasedSendQueue M) (start : ℤ) (sent : List (SentMessage M))
    (discarded total : ℕ) : Prop where
  begin_eq : q.begin = seqOf (start + discarded)
  end_eq : q.endSeq = seqOf (start + total)
  payloadQueue_eq : q.payloadQueue =
    (sent.filter fun m => discarded < m.endIndex).map (SentMessage.payload start)
  le : discarded ≤ total
  lt : total < discarded + 2 ^ 31

/-- The segment carries the messages that end in it. -/
structure Carries (start : ℤ) (sent : List (SentMessage M)) (s : InFlight M) : Prop where
  numbered : s.Numbered start
  length_lt : s.tcpseg.payloadLength < 2 ^ 31
  payloadList_eq : s.tcpseg.payloadList =
    (messagesIn sent s.index (s.index + s.tcpseg.payloadLength)).map (SentMessage.payload start)

section Sender

variable {start : ℤ} {sent : List (SentMessage M)} {discarded total : ℕ}
  {q q' : TCPMsgBasedSendQueue M}

theorem mem_messagesIn {low high : ℕ} {m : SentMessage M} :
    m ∈ messagesIn sent low high ↔ m ∈ sent ∧ low < m.endIndex ∧ m.endIndex ≤ high := by
  simp only [messagesIn, List.mem_filter, decide_eq_true_eq]
  grind

theorem Ordered.append (h : Ordered sent total) {byteLength : ℕ} (hpos : 0 < byteLength) (msg : M) :
    Ordered (sent ++ [{ endIndex := total + byteLength, msg := msg }]) (total + byteLength) where
  ascending := by
    refine List.pairwise_append.mpr ⟨h.ascending, List.pairwise_singleton _ _, ?_⟩
    intro a ha b hb
    have hle := h.le_total a ha
    rw [List.mem_singleton.mp hb]
    dsimp only
    omega
  pos := by
    intro m hm
    cases List.mem_append.mp hm with
    | inl hmem => exact h.pos m hmem
    | inr hmem =>
      rw [List.mem_singleton.mp hmem]
      dsimp only
      omega
  le_total := by
    intro m hm
    cases List.mem_append.mp hm with
    | inl hmem =>
      have hle := h.le_total m hmem
      omega
    | inr hmem => rw [List.mem_singleton.mp hmem]

open SentMessage

theorem Holds.enqueueAppData (h : Holds q start sent discarded total) {msg : M} {byteLength : ℕ}
    (hwindow : total - discarded + byteLength < 2 ^ 31) (hpos : 0 < byteLength)
    (hcall : q.enqueueAppData msg byteLength = .ok q') :
    Holds q' start (sent ++ [{ endIndex := total + byteLength, msg := msg }]) discarded
      (total + byteLength) := by
  have hle := h.le
  unfold TCPMsgBasedSendQueue.enqueueAppData at hcall
  dsimp only at hcall
  split at hcall
  · cases hcall
  · cases hcall
    have hend : q.endSeq + BitVec.ofNat 32 byteLength = seqOf (start + (total + byteLength : ℕ)) := by
      rw [h.end_eq, seqOf_natCast, seqOf_add, Nat.cast_add, add_assoc]
    refine ⟨h.begin_eq, hend, ?_, by omega, by omega⟩
    have hlast : discarded < total + byteLength := by omega
    rw [hend, h.payloadQueue_eq, List.filter_append, List.map_append]
    simp [hlast, payload]

theorem Holds.createSegmentWithBytes (h : Holds q start sent discarded total)
    (hordered : Ordered sent total) {fromSeq : uint32} {numBytes : ℕ} {tcpseg : TCPSegment M}
    (hwindow : (fromSeq - q.begin).toNat + numBytes < 2 ^ 31)
    (hcall : q.createSegmentWithBytes fromSeq numBytes = .ok tcpseg) :
    Carries start sent ⟨discarded + (fromSeq - q.begin).toNat, tcpseg⟩ ∧
      discarded + (fromSeq - q.begin).toNat + tcpseg.payloadLength ≤ total := by
  obtain ⟨_, hassert, heq⟩ := bind_eq_ok_iff.mp hcall
  obtain ⟨-, hto⟩ := Bool.and_eq_true_iff.mp (assert_eq_ok.mp hassert)
  cases heq
  have hle := h.le
  have hlt := h.lt
  have hbegin := h.begin_eq
  generalize hindex : discarded + (fromSeq - q.begin).toNat = index at *
  have hfrom : fromSeq = seqOf (start + index) := by
    rw [← hindex, Nat.cast_add, ← add_assoc, ← seqOf_add, ← hbegin, seqOf_toNat]
    bv_omega
  have htoSeq : fromSeq + BitVec.ofNat 32 numBytes = seqOf (start + index + numBytes) := by
    rw [hfrom, seqOf_natCast, seqOf_add]
  rw [htoSeq, h.end_eq, seqLE_seqOf ⟨by omega, by omega⟩] at hto
  have hend : index + numBytes ≤ total := by omega
  refine ⟨⟨hfrom, by dsimp only; omega, ?_⟩, hend⟩
  have hascending := hordered.ascending.filter fun m => discarded < m.endIndex
  have hdrop : ∀ m ∈ sent.filter (fun m => discarded < m.endIndex),
      seqLE (payload start m).endSequenceNo fromSeq = true ↔ m.endIndex ≤ index := by
    intro m hm
    obtain ⟨hmem, hlow⟩ := List.mem_filter.mp hm
    have hlow' : discarded < m.endIndex := by simpa using hlow
    have htotal := hordered.le_total m hmem
    rw [hfrom, payload, seqLE_seqOf ⟨by omega, by omega⟩]
    omega
  have htake : ∀ m ∈ (sent.filter (fun m => discarded < m.endIndex)).filter
      (fun m => index < m.endIndex),
      seqLE (payload start m).endSequenceNo (seqOf (start + index + numBytes)) = true ↔
        m.endIndex ≤ index + numBytes := by
    intro m hm
    obtain ⟨hmem, hlow⟩ := List.mem_filter.mp (List.mem_filter.mp hm).1
    have hlow' : discarded < m.endIndex := by simpa using hlow
    have htotal := hordered.le_total m hmem
    rw [payload, seqLE_seqOf ⟨by omega, by omega⟩]
    omega
  dsimp only
  rw [htoSeq, h.payloadQueue_eq, (hascending.split_map hdrop).2,
    ((hascending.filter _).split_map htake).1]
  congr 1
  apply ((hascending.filter _).filter _).ext ((hordered.ascending.filter _).filter _)
  intro m
  simp only [List.mem_filter, decide_eq_true_eq]
  grind

theorem Holds.discardUpTo (h : Holds q start sent discarded total) (hordered : Ordered sent total)
    {seqNum : uint32} (hcall : q.discardUpTo seqNum = .ok q') :
    Holds q' start sent (discarded + (seqNum - q.begin).toNat) total := by
  obtain ⟨_, hassert, heq⟩ := bind_eq_ok_iff.mp hcall
  obtain ⟨hfrom, hto⟩ := Bool.and_eq_true_iff.mp (assert_eq_ok.mp hassert)
  cases heq
  have hle := h.le
  have hlt := h.lt
  have hbegin := h.begin_eq
  rw [seqLE, decide_eq_true_eq] at hfrom
  generalize hindex : discarded + (seqNum - q.begin).toNat = index at *
  have hseq : seqNum = seqOf (start + index) := by
    rw [← hindex, Nat.cast_add, ← add_assoc, ← seqOf_add, ← hbegin, seqOf_toNat]
    bv_omega
  rw [hseq, h.end_eq, seqLE_seqOf ⟨by omega, by omega⟩] at hto
  refine ⟨hseq, h.end_eq, ?_, by omega, by omega⟩
  have hascending := hordered.ascending.filter fun m => discarded < m.endIndex
  have hdrop : ∀ m ∈ sent.filter (fun m => discarded < m.endIndex),
      seqLE (payload start m).endSequenceNo seqNum = true ↔ m.endIndex ≤ index := by
    intro m hm
    obtain ⟨hmem, hlow⟩ := List.mem_filter.mp hm
    have hlow' : discarded < m.endIndex := by simpa using hlow
    have htotal := hordered.le_total m hmem
    rw [hseq, payload, seqLE_seqOf ⟨by omega, by omega⟩]
    omega
  dsimp only
  rw [h.payloadQueue_eq, (hascending.split_map hdrop).2, List.filter_filter]
  congr 1
  apply List.filter_congr
  intro m _
  rw [Bool.eq_iff_iff]
  simp only [Bool.and_eq_true, decide_eq_true_eq]
  omega

theorem Carries.append {s : InFlight M} (h : Carries start sent s)
    (hle : s.index + s.tcpseg.payloadLength ≤ total) {m : SentMessage M} (hm : total < m.endIndex) :
    Carries start (sent ++ [m]) s where
  numbered := h.numbered
  length_lt := h.length_lt
  payloadList_eq := by
    have hnot : ¬m.endIndex ≤ s.index + s.tcpseg.payloadLength := by omega
    rw [h.payloadList_eq, messagesIn, messagesIn, List.filter_append]
    simp [hnot]

/-- A truncation drops the messages that do not end in what is left. -/
theorem Carries.truncateSegment {s s' : InFlight M} (h : Carries start sent s)
    (hordered : Ordered sent total) {firstSeqNo endSeqNo : uint32}
    (hcall : s.truncateSegment firstSeqNo endSeqNo = .ok s') :
    Carries start sent s' ∧
      s'.index + s'.tcpseg.payloadLength ≤ s.index + s.tcpseg.payloadLength := by
  obtain ⟨hnumbered, truncleft, truncright, hleft, hright, hindex, hdata⟩ :=
    h.numbered.truncateSegment hcall
  obtain ⟨hfits, -, hlength, -, hpayloads⟩ := TCPSegment.truncateData_eq_ok hleft hright hdata
  have hlt := h.length_lt
  refine ⟨⟨hnumbered, by omega, ?_⟩, by omega⟩
  have hascending : Ascending endIndex
      (messagesIn sent s.index (s.index + s.tcpseg.payloadLength)) :=
    (hordered.ascending.filter _).filter _
  have hdrop : ∀ m ∈ messagesIn sent s.index (s.index + s.tcpseg.payloadLength),
      decide ((payload start m).endSequenceNo - s.tcpseg.sequenceNo ≤ truncleft) =
        true ↔ m.endIndex ≤ s'.index := by
    intro m hm
    obtain ⟨-, hlow, hhigh⟩ := mem_messagesIn.mp hm
    have hsub := @toNat_sub_of_near (start + m.endIndex) (start + s.index) (by omega) (by omega)
    rw [decide_eq_true_eq, BitVec.le_def, h.numbered, payload]
    dsimp only
    omega
  have hdropRight : ∀ m ∈ (messagesIn sent s.index (s.index + s.tcpseg.payloadLength)).filter
      (fun m => s'.index < m.endIndex),
      decide (((payload start m).endSequenceNo - s'.tcpseg.sequenceNo).toNat >
        s'.tcpseg.payloadLength) = true ↔ s'.index + s'.tcpseg.payloadLength < m.endIndex := by
    intro m hm
    obtain ⟨hmem, hlow⟩ := List.mem_filter.mp hm
    obtain ⟨-, -, hhigh⟩ := mem_messagesIn.mp hmem
    have hlow' : s'.index < m.endIndex := by simpa using hlow
    have hsub := @toNat_sub_of_near (start + m.endIndex) (start + s'.index) (by omega) (by omega)
    rw [decide_eq_true_eq, hnumbered, payload]
    dsimp only
    omega
  rw [hpayloads, h.payloadList_eq, (hascending.split_map hdrop).2,
    (hascending.filter _).rdropWhile_map hdropRight]
  congr 1
  apply ((hascending.filter _).filter _).ext ((hordered.ascending.filter _).filter _)
  intro m
  simp only [List.mem_filter, mem_messagesIn, decide_eq_true_eq]
  constructor
  · grind
  · intro hm
    have hlow : s.index < m.endIndex := by omega
    have hhigh : m.endIndex ≤ s.index + s.tcpseg.payloadLength := by omega
    grind

end Sender

end inet.tcp.MessageTransfer
