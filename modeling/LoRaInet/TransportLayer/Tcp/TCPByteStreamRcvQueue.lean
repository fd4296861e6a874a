import LoRaInet.Interval.Count
import LoRaInet.TransportLayer.Tcp.TCPVirtualDataRcvQueue.Regions

open omnetpp interval

namespace inet.tcp

structure ByteStreamRegion where
  begin : uint32
  endSeq : uint32
  data : ByteArray

namespace ByteStreamRegion

/-- The new buffer is filled from the left: bytes of `other`, its own, bytes of
`other` again. Both times `other` is read from its first byte on. -/
def merge (self other : ByteStreamRegion) : Option ByteStreamRegion :=
  if seqLess self.endSeq other.begin || seqLess other.endSeq self.begin then none
  else
    let nbegin := seqMin self.begin other.begin
    let nend := seqMax self.endSeq other.endSeq
    if nbegin ≠ self.begin ∨ nend ≠ self.endSeq then
      let left :=
        if nbegin ≠ self.begin then other.data.copyDataToBuffer (self.begin - nbegin).toNat 0
        else []
      let own := self.data.copyDataToBuffer (self.endSeq - self.begin).toNat 0
      let right :=
        if nend ≠ self.endSeq then other.data.copyDataToBuffer (nend - self.endSeq).toNat 0
        else []
      some { begin := nbegin, endSeq := nend, data := left ++ own ++ right }
    else some self

def split (self : ByteStreamRegion) (seq : uint32) :
    Except Fault (ByteStreamRegion × ByteStreamRegion) := do
  ASSERT (seqGreater seq self.begin && seqLess seq self.endSeq)
    "seqGreater(seq, begin) && seqLess(seq, end)"
  let data ← self.data.setDataFromByteArray 0 (seq - self.begin)
  let rest ← self.data.truncateData (seq - self.begin) 0
  .ok ({ begin := self.begin, endSeq := seq, data }, { self with begin := seq, data := rest })

instance : Region ByteStreamRegion where
  getBegin := begin
  getEnd := endSeq
  merge := merge
  split := split

/-- The bytes of the packet that is handed on. -/
def copyTo (self : ByteStreamRegion) : Except Fault ByteArray := do
  ASSERT ((TCPVirtualDataRcvQueue.getLength self).toNat = self.data.length)
    "getLength() == data.getDataArraySize()"
  .ok self.data

def createRegionFromSegment {M : Type} (tcpseg : TCPSegment M) : Except Fault ByteStreamRegion := do
  ASSERT (tcpseg.payloadLength = tcpseg.byteArray.length)
    "tcpseg->getPayloadLength() == tcpseg->getByteArray().getDataArraySize()"
  .ok {
    begin := tcpseg.sequenceNo
    endSeq := tcpseg.endSeq
    data := tcpseg.byteArray }

end ByteStreamRegion

namespace TCPByteStreamRcvQueue

open TCPVirtualDataRcvQueue

def str (q : TCPVirtualDataRcvQueue ByteStreamRegion) : String :=
  TCPVirtualDataRcvQueue.str q ++ s!" {q.regionList.length}msgs"

def insertBytesFromSegment {M : Type} (q : TCPVirtualDataRcvQueue ByteStreamRegion)
    (tcpseg : TCPSegment M) :
    Except Fault (TCPVirtualDataRcvQueue ByteStreamRegion × uint32) := do
  let region ← ByteStreamRegion.createRegionFromSegment tcpseg
  let q ← q.insertRegion region (str q)
  .ok (q, q.rcv_nxt)

def extractBytesUpTo (q : TCPVirtualDataRcvQueue ByteStreamRegion) (seq : uint32) :
    Except Fault (TCPVirtualDataRcvQueue ByteStreamRegion × Option ByteArray) := do
  let (q, reg) ← q.extractTo seq
  match reg with
  | none => .ok (q, none)
  | some reg => do
    let msg ← reg.copyTo
    .ok (q, some msg)

end TCPByteStreamRcvQueue

namespace ByteStreamRegion

variable (stream : ℤ → UInt8)

def ofBlock (b : Block ℤ) : ByteStreamRegion where
  begin := seqOf b.low
  endSeq := seqOf b.high
  data := slice stream b.low b.high

/-- The new block does not end inside the stored one. -/
def NotInside (a b : Block ℤ) : Prop := ¬(b.low < a.high ∧ a.high < b.high)

variable {stream}

theorem merge_ofBlock {first : ℤ} {a b : Block ℤ} (ha : Within first a) (hb : Within first b)
    (hab : ¬a.Before b) (hba : ¬b.Before a) (hinside : NotInside a b) :
    (ofBlock stream a).merge (ofBlock stream b) = some (ofBlock stream (a.hull b)) := by
  have hgap := ha.meets hb hab hba
  have hmin := seqMin_seqOf (ha.near hb).1
  have hmax := seqMax_seqOf (ha.near hb).2.1
  have halt := a.low_lt_high
  have hblt := b.low_lt_high
  rw [Block.Before, not_lt] at hab hba
  obtain ⟨ha₁, ha₂⟩ := ha
  obtain ⟨hb₁, hb₂⟩ := hb
  have hnbegin : seqOf (min a.low b.low) ≠ seqOf a.low ↔ b.low < a.low := by
    rw [ne_eq, seqOf_inj ⟨by omega, by omega⟩]
    omega
  have hnend : seqOf (max a.high b.high) ≠ seqOf a.high ↔ a.high < b.high := by
    rw [ne_eq, seqOf_inj ⟨by omega, by omega⟩]
    omega
  have hleft := @toNat_sub_of_near a.low (min a.low b.low) (by omega) (by omega)
  have hown := @toNat_sub_of_near a.high a.low (by omega) (by omega)
  have hright := @toNat_sub_of_near (max a.high b.high) a.high (by omega) (by omega)
  have hown' : (slice stream a.low a.high).take (seqOf a.high - seqOf a.low).toNat =
      slice stream a.low a.high :=
    List.take_of_length_le (by rw [length_slice]; omega)
  have hleft' : (if b.low < a.low then
      (slice stream b.low b.high).take (seqOf a.low - seqOf (min a.low b.low)).toNat else []) =
      slice stream (min a.low b.low) a.low := by
    split
    · next hlow =>
      rw [min_eq_right hlow.le] at hleft ⊢
      rw [take_slice (by omega)]
      congr 1
      omega
    · next hlow => rw [min_eq_left (not_lt.mp hlow), slice_self]
  -- the copy from the first byte on is right: the block begins where the new one ends
  have hright' : (if a.high < b.high then
      (slice stream b.low b.high).take (seqOf (max a.high b.high) - seqOf a.high).toNat else []) =
      slice stream a.high (max a.high b.high) := by
    split
    · next hhigh =>
      have htouch : b.low = a.high := by
        unfold NotInside at hinside
        omega
      rw [max_eq_right hhigh.le] at hright ⊢
      rw [htouch, take_slice (by omega)]
      congr 1
      omega
    · next hhigh => rw [max_eq_left (not_lt.mp hhigh), slice_self]
  have hjoined : slice stream (min a.low b.low) a.low ++ slice stream a.low a.high ++
      slice stream a.high (max a.high b.high) = slice stream (min a.low b.low) (max a.high b.high) := by
    rw [slice_append (min_le_left _ _) halt.le, slice_append (by omega) (le_max_left _ _)]
  simp only [merge, ofBlock, hgap, hmin, hmax, hnbegin, hnend, ByteArray.copyDataToBuffer_eq,
    List.drop_zero, hown', hleft', hright', hjoined, Block.hull]
  by_cases hgrows : b.low < a.low ∨ a.high < b.high
  · rw [if_neg (by simp), if_pos hgrows]
  · rw [if_neg (by simp), if_neg hgrows]
    congr 2
    · rw [min_eq_left (by omega)]
    · rw [max_eq_left (by omega)]
    · rw [min_eq_left (by omega), max_eq_left (by omega)]

theorem split_ofBlock {first : ℤ} {b : Block ℤ} {p : ℤ} (hb : Within first b) (hlow : b.low < p)
    (hhigh : p < b.high) : (ofBlock stream b).split (seqOf p) =
      .ok (ofBlock stream ⟨b.low, p, hlow⟩, ofBlock stream ⟨p, b.high, hhigh⟩) := by
  obtain ⟨hb₁, hb₂⟩ := hb
  have hinside : (seqGreater (seqOf p) (seqOf b.low) && seqLess (seqOf p) (seqOf b.high)) = true := by
    rw [Bool.and_eq_true, seqGreater_seqOf ⟨by omega, by omega⟩,
      seqLess_seqOf ⟨by omega, by omega⟩]
    exact ⟨hlow, hhigh⟩
  have hlength := @toNat_sub_of_near p b.low hlow.le (by omega)
  have hfits : (seqOf p - seqOf b.low).toNat ≤ (slice stream b.low b.high).length := by
    rw [length_slice]
    omega
  have hp : b.low + (seqOf p - seqOf b.low).toNat = p := by omega
  have hnew : ByteArray.setDataFromByteArray (slice stream b.low b.high) 0 (seqOf p - seqOf b.low) =
      .ok (slice stream b.low p) := by
    rw [ByteArray.setDataFromByteArray_left hfits, take_slice (by omega), hp]
  have hrest : ByteArray.truncateData (slice stream b.low b.high) (seqOf p - seqOf b.low) 0 =
      .ok (slice stream p b.high) := by
    have htruncate := ByteArray.truncateData_left hfits (by omega)
    rw [BitVec.ofNat_toNat, BitVec.setWidth_eq] at htruncate
    rw [htruncate, drop_slice (by omega), hp]
  simp only [split, ofBlock, hnew, hrest]
  exact assert_bind hinside

theorem NotInside.hull {a b c : Block ℤ} (hc : NotInside a c) (hab : ¬a.Before b)
    (hbefore : c.Before b) : NotInside (a.hull b) c := by
  have hblt := b.low_lt_high
  simp only [NotInside, Block.Before, Block.hull] at hc hab hbefore ⊢
  omega

/-- The class merges regions rightly, as long as none ends inside another. -/
def laws (stream : ℤ → UInt8) : RegionLaws ByteStreamRegion where
  Holds := fun r b => r = ofBlock stream b
  Joins := NotInside
  getBegin_eq := fun h => h ▸ rfl
  getEnd_eq := fun h => h ▸ rfl
  merge_eq := fun hr hs ha hb hab hba hinside =>
    ⟨_, hr ▸ hs ▸ merge_ofBlock ha hb hab hba hinside, rfl⟩
  joins_hull := fun _ hc hab hbefore => hc.hull hab hbefore
  split_eq := fun hlow hhigh hr hb => ⟨_, _, hr ▸ split_ofBlock hb hlow hhigh, rfl, rfl⟩

end ByteStreamRegion

end inet.tcp
