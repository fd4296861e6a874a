import LoRaInet.Common.ByteArray
import Mathlib.Tactic.Linarith

open omnetpp

namespace inet.tcp

def seqLess (a b : uint32) : Bool := a ≠ b ∧ (b - a).toNat < 2 ^ 31
def seqLE (a b : uint32) : Bool := (b - a).toNat < 2 ^ 31
def seqGreater (a b : uint32) : Bool := a ≠ b ∧ (a - b).toNat < 2 ^ 31
def seqGE (a b : uint32) : Bool := (a - b).toNat < 2 ^ 31
def seqMin (a b : uint32) : uint32 := if (b - a).toNat < 2 ^ 31 then a else b
def seqMax (a b : uint32) : uint32 := if (a - b).toNat < 2 ^ 31 then a else b

structure TCPPayloadMessage (M : Type) where
  msg : M
  endSequenceNo : uint32
  deriving DecidableEq

/-- The payload of a `TCPSegment`: its bytes, and the messages that end in it. -/
structure TCPSegment (M : Type) where
  sequenceNo : uint32
  payloadLength : ℕ
  byteArray : ByteArray
  payloadList : List (TCPPayloadMessage M)
  deriving DecidableEq

namespace TCPSegment

variable {M : Type}

/-- The sequence number after the last byte. -/
def endSeq (tcpseg : TCPSegment M) : uint32 :=
  tcpseg.sequenceNo + BitVec.ofNat 32 tcpseg.payloadLength

/-- A segment with virtual bytes or with messages has no byte array. -/
def truncateByteArray (byteArray : ByteArray) (truncleft truncright : uint32) :
    Except Fault ByteArray :=
  if byteArray.length ≠ 0 then byteArray.truncateData truncleft truncright else .ok byteArray

def truncateData (tcpseg : TCPSegment M) (truncleft truncright : uint32) :
    Except Fault (TCPSegment M) := do
  ASSERT (tcpseg.payloadLength ≥ (truncleft + truncright).toNat)
    "payloadLength >= truncleft + truncright"
  let byteArray ← truncateByteArray tcpseg.byteArray truncleft truncright
  let payloadList := tcpseg.payloadList.dropWhile fun payload =>
    payload.endSequenceNo - tcpseg.sequenceNo ≤ truncleft
  let sequenceNo := tcpseg.sequenceNo + truncleft
  let payloadLength := tcpseg.payloadLength - (truncleft + truncright).toNat
  let payloadList := (payloadList.reverse.dropWhile fun payload =>
    (payload.endSequenceNo - sequenceNo).toNat > payloadLength).reverse
  .ok { sequenceNo, payloadLength, byteArray, payloadList }

def truncateSegment (tcpseg : TCPSegment M) (firstSeqNo endSeqNo : uint32) :
    Except Fault (TCPSegment M) := do
  ASSERT (tcpseg.payloadLength > 0) "payloadLength > 0"
  if !(seqLess tcpseg.sequenceNo endSeqNo && seqLess firstSeqNo tcpseg.endSeq) then
    .error (.cRuntimeError s!"truncateSegment({firstSeqNo.toNat},{endSeqNo.toNat}) called on [{tcpseg.sequenceNo.toNat}, {tcpseg.endSeq.toNat}) segment\n")
  else
    let truncleft :=
      if seqLess tcpseg.sequenceNo firstSeqNo then firstSeqNo - tcpseg.sequenceNo else 0
    let truncright :=
      if seqGreater tcpseg.endSeq endSeqNo then tcpseg.endSeq - endSeqNo else 0
    tcpseg.truncateData truncleft truncright

end TCPSegment

/-- The sequence number of a position in the byte stream. -/
def seqOf (position : ℤ) : uint32 := BitVec.ofInt 32 position

/-- Two positions whose sequence numbers can be told apart. -/
def Near (a b : ℤ) : Prop := a < b + 2 ^ 31 ∧ b < a + 2 ^ 31

theorem seqOf_toNat (seq : uint32) : seqOf seq.toNat = seq := by
  simp [seqOf]

theorem toNat_seqOf_sub (a b : ℤ) : ((seqOf a - seqOf b).toNat : ℤ) = (a - b) % 2 ^ 32 := by
  rw [seqOf, seqOf, BitVec.toNat_sub, BitVec.toNat_ofInt, BitVec.toNat_ofInt]
  omega

theorem seqOf_add (a b : ℤ) : seqOf a + seqOf b = seqOf (a + b) := by
  rw [seqOf, seqOf, seqOf, BitVec.ofInt_add]

theorem seqOf_sub (a b : ℤ) : seqOf a - seqOf b = seqOf (a - b) := by
  apply BitVec.eq_of_toNat_eq
  have hsub := toNat_seqOf_sub a b
  have hof : (seqOf (a - b)).toNat = ((a - b) % 2 ^ 32).toNat := by
    rw [seqOf, BitVec.toNat_ofInt]
    rfl
  omega

variable {a b : ℤ}

theorem toNat_sub_of_near (hle : b ≤ a) (hnear : a < b + 2 ^ 32) :
    ((seqOf a - seqOf b).toNat : ℤ) = a - b := by
  rw [toNat_seqOf_sub]
  omega

theorem seqOf_inj (h : Near a b) : seqOf a = seqOf b ↔ a = b := by
  constructor
  · intro heq
    have hsub := toNat_seqOf_sub a b
    rw [heq, BitVec.sub_self, BitVec.toNat_zero] at hsub
    obtain ⟨h₁, h₂⟩ := h
    omega
  · exact fun heq => heq ▸ rfl

theorem seqLE_seqOf (h : Near a b) : seqLE (seqOf a) (seqOf b) = true ↔ a ≤ b := by
  have hsub := toNat_seqOf_sub b a
  obtain ⟨h₁, h₂⟩ := h
  rw [seqLE, decide_eq_true_eq]
  omega

theorem seqGE_seqOf (h : Near a b) : seqGE (seqOf a) (seqOf b) = true ↔ b ≤ a :=
  seqLE_seqOf h.symm

theorem seqLess_seqOf (h : Near a b) : seqLess (seqOf a) (seqOf b) = true ↔ a < b := by
  have hle := seqLE_seqOf h
  rw [seqLE, decide_eq_true_eq] at hle
  rw [seqLess, decide_eq_true_eq, hle, ne_eq, seqOf_inj h]
  omega

theorem seqGreater_seqOf (h : Near a b) : seqGreater (seqOf a) (seqOf b) = true ↔ b < a := by
  have hle := seqLE_seqOf h.symm
  rw [seqLE, decide_eq_true_eq] at hle
  rw [seqGreater, decide_eq_true_eq, hle, ne_eq, seqOf_inj h]
  omega

theorem seqMin_seqOf (h : Near a b) : seqMin (seqOf a) (seqOf b) = seqOf (min a b) := by
  have hle := seqLE_seqOf h
  rw [seqLE, decide_eq_true_eq] at hle
  rw [seqMin]
  split
  · next hlt => rw [min_eq_left (hle.mp hlt)]
  · next hlt => rw [min_eq_right (le_of_not_ge fun hge => hlt (hle.mpr hge))]

theorem seqMax_seqOf (h : Near a b) : seqMax (seqOf a) (seqOf b) = seqOf (max a b) := by
  have hle := seqLE_seqOf h.symm
  rw [seqLE, decide_eq_true_eq] at hle
  rw [seqMax]
  split
  · next hlt => rw [max_eq_left (hle.mp hlt)]
  · next hlt => rw [max_eq_right (le_of_not_ge fun hge => hlt (hle.mpr hge))]

namespace TCPSegment

variable {M : Type} {tcpseg tcpseg' : TCPSegment M}

theorem truncateSegment_eq_ok {firstSeqNo endSeqNo : uint32}
    (h : tcpseg.truncateSegment firstSeqNo endSeqNo = .ok tcpseg') :
    0 < tcpseg.payloadLength ∧ ∃ truncleft truncright : uint32,
      truncleft.toNat < 2 ^ 31 ∧ truncright.toNat < 2 ^ 31 ∧
      tcpseg.truncateData truncleft truncright = .ok tcpseg' := by
  obtain ⟨_, hassert, hrest⟩ := bind_eq_ok_iff.mp h
  refine ⟨assert_eq_ok.mp hassert, ?_⟩
  split at hrest
  · exact absurd hrest (by simp)
  · refine ⟨_, _, ?_, ?_, hrest⟩
    · split
      · next hless =>
        rw [seqLess, decide_eq_true_eq] at hless
        exact hless.2
      · decide
    · split
      · next hgreater =>
        rw [seqGreater, decide_eq_true_eq] at hgreater
        exact hgreater.2
      · decide

theorem truncateData_eq_ok {truncleft truncright : uint32} (hleft : truncleft.toNat < 2 ^ 31)
    (hright : truncright.toNat < 2 ^ 31) (h : tcpseg.truncateData truncleft truncright = .ok tcpseg') :
    truncleft.toNat + truncright.toNat ≤ tcpseg.payloadLength ∧
      tcpseg'.sequenceNo = tcpseg.sequenceNo + truncleft ∧
      tcpseg'.payloadLength = tcpseg.payloadLength - (truncleft.toNat + truncright.toNat) ∧
      truncateByteArray tcpseg.byteArray truncleft truncright = .ok tcpseg'.byteArray ∧
      tcpseg'.payloadList = ((tcpseg.payloadList.dropWhile fun payload =>
        payload.endSequenceNo - tcpseg.sequenceNo ≤ truncleft).reverse.dropWhile fun payload =>
        (payload.endSequenceNo - tcpseg'.sequenceNo).toNat > tcpseg'.payloadLength).reverse := by
  have hsum : (truncleft + truncright).toNat = truncleft.toNat + truncright.toNat := by
    rw [BitVec.toNat_add]
    exact Nat.mod_eq_of_lt (by omega)
  obtain ⟨_, hassert, hrest⟩ := bind_eq_ok_iff.mp h
  obtain ⟨byteArray, hbytes, heq⟩ := bind_eq_ok_iff.mp hrest
  have hfits := assert_eq_ok.mp hassert
  cases heq
  rw [hsum] at hfits
  exact ⟨hfits, rfl, by rw [hsum], hbytes, rfl⟩

theorem truncateByteArray_eq_ok {byteArray byteArray' : ByteArray} {truncleft truncright : uint32}
    (hleft : truncleft.toNat < 2 ^ 31) (hright : truncright.toNat < 2 ^ 31)
    (h : truncateByteArray byteArray truncleft truncright = .ok byteArray') :
    byteArray' = (byteArray.drop truncleft.toNat).take
      (byteArray.length - (truncleft.toNat + truncright.toNat)) := by
  have hsum : (truncleft + truncright).toNat = truncleft.toNat + truncright.toNat := by
    rw [BitVec.toNat_add]
    exact Nat.mod_eq_of_lt (by omega)
  unfold truncateByteArray at h
  split at h
  · obtain ⟨_, -, htruncated⟩ := bind_eq_ok_iff.mp h
    cases htruncated
    rw [hsum]
  · next hempty =>
    cases h
    have hnil : byteArray = [] := List.length_eq_zero_iff.mp (not_not.mp hempty)
    rw [hnil, List.drop_nil, List.take_nil]

end TCPSegment

theorem seqOf_natCast (n : ℕ) : BitVec.ofNat 32 n = seqOf n := by
  simp [seqOf]

/-- A segment on its way, with the index of its first byte among all bytes sent.
The index is not part of the segment. -/
structure InFlight (M : Type) where
  index : ℕ
  tcpseg : TCPSegment M
  deriving DecidableEq

namespace InFlight

variable {M : Type} {s s' : InFlight M}

/-- A truncated copy of the segment is one more segment on its way. -/
def truncateSegment (s : InFlight M) (firstSeqNo endSeqNo : uint32) : Except Fault (InFlight M) := do
  let tcpseg ← s.tcpseg.truncateSegment firstSeqNo endSeqNo
  .ok { index := s.index + (tcpseg.sequenceNo - s.tcpseg.sequenceNo).toNat, tcpseg }

/-- The segment is numbered from its index on. -/
def Numbered (start : ℤ) (s : InFlight M) : Prop := s.tcpseg.sequenceNo = seqOf (start + s.index)

theorem Numbered.endSeq_eq {start : ℤ} (h : s.Numbered start) :
    s.tcpseg.endSeq = seqOf (start + s.index + s.tcpseg.payloadLength) := by
  rw [TCPSegment.endSeq, h, seqOf_natCast, seqOf_add]

theorem Numbered.truncateSegment {start : ℤ} (h : s.Numbered start) {firstSeqNo endSeqNo : uint32}
    (hcall : s.truncateSegment firstSeqNo endSeqNo = .ok s') :
    s'.Numbered start ∧ ∃ truncleft truncright : uint32,
      truncleft.toNat < 2 ^ 31 ∧ truncright.toNat < 2 ^ 31 ∧
      s'.index = s.index + truncleft.toNat ∧
      s.tcpseg.truncateData truncleft truncright = .ok s'.tcpseg := by
  obtain ⟨tcpseg, htruncate, heq⟩ := bind_eq_ok_iff.mp hcall
  cases heq
  obtain ⟨-, truncleft, truncright, hleft, hright, hdata⟩ :=
    TCPSegment.truncateSegment_eq_ok htruncate
  obtain ⟨-, hseq, -⟩ := TCPSegment.truncateData_eq_ok hleft hright hdata
  have hcut : (tcpseg.sequenceNo - s.tcpseg.sequenceNo).toNat = truncleft.toNat := by
    rw [hseq]
    congr 1
    bv_omega
  refine ⟨?_, truncleft, truncright, hleft, hright, by rw [hcut], hdata⟩
  rw [Numbered] at h ⊢
  rw [hcut, hseq, h, Nat.cast_add, ← add_assoc, ← seqOf_add (start + s.index), seqOf_toNat]

end InFlight

end inet.tcp
