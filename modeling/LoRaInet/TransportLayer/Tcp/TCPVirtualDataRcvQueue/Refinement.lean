import LoRaInet.TransportLayer.Tcp.TCPVirtualDataRcvQueue.Regions
import LoRaInet.Transition.Run

open omnetpp interval transition

namespace inet.tcp

namespace VirtualRegion

def ofBlock (b : Block ℤ) : VirtualRegion where
  begin := seqOf b.low
  endSeq := seqOf b.high

theorem merge_ofBlock {first : ℤ} {a b : Block ℤ} (ha : Within first a) (hb : Within first b)
    (hab : ¬a.Before b) (hba : ¬b.Before a) :
    (ofBlock a).merge (ofBlock b) = some (ofBlock (a.hull b)) := by
  have hgap := ha.meets hb hab hba
  have hlow := seqLess_seqOf (hb.near ha).1
  have hhigh := seqLess_seqOf (ha.near hb).2.1
  have hmin : (if b.low < a.low then seqOf b.low else seqOf a.low) = seqOf (min a.low b.low) := by
    rw [min_comm, min_def_lt, apply_ite seqOf]
  have hmax : (if a.high < b.high then seqOf b.high else seqOf a.high) =
      seqOf (max a.high b.high) := by
    rw [max_def_lt, apply_ite seqOf]
  simp only [merge, ofBlock, hgap, hlow, hhigh, hmin, hmax, Block.hull]
  rfl

theorem split_ofBlock {first : ℤ} {b : Block ℤ} {p : ℤ} (hb : Within first b) (hlow : b.low < p)
    (hhigh : p < b.high) : (ofBlock b).split (seqOf p) =
      .ok (ofBlock ⟨b.low, p, hlow⟩, ofBlock ⟨p, b.high, hhigh⟩) := by
  obtain ⟨hb₁, hb₂⟩ := hb
  have hinside : (seqGreater (seqOf p) (seqOf b.low) && seqLess (seqOf p) (seqOf b.high)) = true := by
    rw [Bool.and_eq_true, seqGreater_seqOf ⟨by omega, by omega⟩, seqLess_seqOf ⟨by omega, by omega⟩]
    exact ⟨hlow, hhigh⟩
  exact assert_bind hinside

/-- The base class merges any regions that overlap or touch. -/
def laws : RegionLaws VirtualRegion where
  Holds := fun r b => r = ofBlock b
  Joins := fun _ _ => True
  getBegin_eq := fun h => h ▸ rfl
  getEnd_eq := fun h => h ▸ rfl
  merge_eq := fun hr hs ha hb hab hba _ => ⟨_, hr ▸ hs ▸ merge_ofBlock ha hb hab hba, rfl⟩
  joins_hull := fun _ _ _ _ => trivial
  split_eq := fun hlow hhigh hr hb => ⟨_, _, hr ▸ split_ofBlock hb hlow hhigh, rfl, rfl⟩

end VirtualRegion

namespace TCPVirtualDataRcvQueue

variable {M : Type}

inductive Event (M : Type) where
  | insertBytesFromSegment (tcpseg : TCPSegment M)
  | extractBytesUpTo (seq : uint32)

inductive Output where
  | rcv_nxt (seq : uint32)
  | msg (byteLength : Option ℕ)
  deriving DecidableEq

/-- A call that throws is no step. -/
def step (q : TCPVirtualDataRcvQueue VirtualRegion) :
    Event M → Option (TCPVirtualDataRcvQueue VirtualRegion × Output)
  | .insertBytesFromSegment tcpseg =>
    (q.insertBytesFromSegment tcpseg).toOption.map fun (q, seq) => (q, .rcv_nxt seq)
  | .extractBytesUpTo seq =>
    (q.extractBytesUpTo seq).toOption.map fun (q, msg) => (q, .msg msg)

/-- Segments are not empty and lie in a window above the first byte still to be
handed on. Extraction stops at `rcv_nxt` at the latest, and less than a window
below what is buffered. -/
def Allowed (q : TCPVirtualDataRcvQueue VirtualRegion) : Event M → Prop
  | .insertBytesFromSegment tcpseg => 0 < tcpseg.payloadLength ∧
      (tcpseg.sequenceNo - q.getFirstSeqNo).toNat + tcpseg.payloadLength < 2 ^ 31
  | .extractBytesUpTo seq => seqLE seq q.rcv_nxt ∧ ∀ reg ∈ q.regionList, seqLE seq reg.endSeq

instance (q : TCPVirtualDataRcvQueue VirtualRegion) : (e : Event M) → Decidable (q.Allowed e)
  | .insertBytesFromSegment _ | .extractBytesUpTo _ => inferInstanceAs (Decidable (_ ∧ _))

end TCPVirtualDataRcvQueue

namespace ReceivedBytes

open TCPVirtualDataRcvQueue

variable {M : Type} (r : ReceivedBytes) (seq : uint32)

/-- The position at or above the first byte kept that has the sequence number. -/
def position : ℤ := r.first + (seq - seqOf r.first).toNat

/-- The position at or below the first missing byte that has the sequence number. -/
noncomputable def stop : ℤ :=
  r.next - (seqOf r.next - seq).toNat

/-- A segment adds the positions of its bytes; an extraction hands on all bytes
below a position. -/
noncomputable def handle : Event M → ReceivedBytes
  | .insertBytesFromSegment tcpseg =>
    let low := r.position tcpseg.sequenceNo
    { r with received := Set.Ico low (low + tcpseg.payloadLength) ∪ r.received }
  | .extractBytesUpTo seq => r.extract (r.stop seq)

noncomputable def output : Event M → Output
  | .insertBytesFromSegment tcpseg => .rcv_nxt (seqOf (r.handle (.insertBytesFromSegment tcpseg)).next)
  | .extractBytesUpTo seq =>
    .msg (if r.first < r.stop seq then some (r.stop seq - r.first).toNat else none)

/-- What the events of a history leave behind, the most recent one first. -/
noncomputable def after {L : Type} (startSeq : uint32) : List (Event M × L) → ReceivedBytes
  | [] => init startSeq.toNat
  | (e, _) :: history => (after startSeq history).handle e

theorem start_after {L : Type} (startSeq : uint32) (history : List (Event M × L)) :
    (after startSeq history).start = startSeq.toNat := by
  induction history with
  | nil => rfl
  | cons l history ih =>
    obtain ⟨_ | _, _⟩ := l
    · exact ih
    · exact ih

theorem seqOf_position : seqOf (r.position seq) = seq := by
  rw [position, ← seqOf_add, seqOf_toNat, BitVec.add_comm, BitVec.sub_add_cancel]

theorem seqOf_stop : seqOf (r.stop seq) = seq := by
  rw [stop, ← seqOf_sub, seqOf_toNat]
  bv_omega

theorem exists_insert {tcpseg : TCPSegment M} (h : 0 < tcpseg.payloadLength) :
    ∃ b : Block ℤ, b.low = r.position tcpseg.sequenceNo ∧
      b.high = r.position tcpseg.sequenceNo + tcpseg.payloadLength ∧
      r.handle (.insertBytesFromSegment tcpseg) = r.insert b :=
  ⟨⟨_, _, lt_add_of_pos_right _ (Nat.cast_pos.mpr h)⟩, rfl, rfl, rfl⟩

end ReceivedBytes

namespace TCPVirtualDataRcvQueue

variable {M : Type} {q : TCPVirtualDataRcvQueue VirtualRegion} {bytes : ReceivedBytes}
  {blocks : List (Block ℤ)}

open VirtualRegion

theorem Buffers.step (h : q.Buffers laws bytes blocks) {e : Event M}
    (hallowed : q.Allowed e) :
    ∃ q' blocks', step q e = some (q', bytes.output e) ∧
      q'.Buffers laws (bytes.handle e) blocks' ∧
      bytes.next ≤ (bytes.handle e).next := by
  cases e with
  | insertBytesFromSegment tcpseg =>
    obtain ⟨hpos, hwindow⟩ := hallowed
    rw [h.getFirstSeqNo] at hwindow
    obtain ⟨b, hlow, hhigh, hhandle⟩ := bytes.exists_insert hpos
    have hwithin : Within bytes.first b := by
      rw [ReceivedBytes.position] at hlow hhigh
      constructor <;> omega
    have hregion : createRegionFromSegment tcpseg = ofBlock b := by
      rw [createRegionFromSegment, ofBlock, hlow, hhigh, ← seqOf_add,
        ReceivedBytes.seqOf_position]
      rfl
    obtain ⟨q', hq', hbuffers⟩ := h.insertRegion hregion hwithin (fun _ _ => trivial) q.str
    rw [← hhandle] at hbuffers
    have hnext := h.wellFormed.next_le_next_insert hwithin.1 hwithin.2
    refine ⟨q', _, ?_, hbuffers, hhandle ▸ hnext⟩
    rw [TCPVirtualDataRcvQueue.step, insertBytesFromSegment, hq', ReceivedBytes.output,
      ← hbuffers.rcv_nxt_eq]
    rfl
  | extractBytesUpTo seq =>
    obtain ⟨hle, hregions⟩ := hallowed
    have hseq := bytes.seqOf_stop seq
    have hstop : bytes.stop seq ≤ bytes.next ∧ bytes.next < bytes.stop seq + 2 ^ 31 := by
      rw [h.rcv_nxt_eq, seqLE, decide_eq_true_eq] at hle
      unfold ReceivedBytes.stop
      omega
    have hblocks : ∀ b ∈ blocks, b.high < bytes.stop seq + 2 ^ 31 := by
      intro b hb
      obtain ⟨r, hr, hholds⟩ := exists_of_forall₂ h.regions.flip hb
      obtain ⟨hb₁, hb₂⟩ := h.within hb
      have hfirst := h.wellFormed.first_le_next
      have hclose := hregions r hr
      rw [← hseq, show r.endSeq = seqOf b.high from laws.getEnd_eq hholds, seqLE,
        decide_eq_true_eq] at hclose
      have hsub := toNat_seqOf_sub b.high (bytes.stop seq)
      omega
    obtain ⟨q', out, blocks', hq', hbuffers, -, hnone, hsome⟩ := h.extractTo hstop.1 hstop.2 hblocks
    rw [hseq] at hq'
    refine ⟨q', blocks', ?_, hbuffers, le_refl _⟩
    rw [TCPVirtualDataRcvQueue.step, extractBytesUpTo, hq', ReceivedBytes.output]
    cases out with
    | none =>
      rw [if_neg (not_lt.mpr (hnone rfl))]
      rfl
    | some reg =>
      obtain ⟨hlt, hreg⟩ := hsome reg rfl
      have hwindow := h.wellFormed.next_lt
      have hlength : (getLength reg).toNat = (bytes.stop seq - bytes.first).toNat := by
        rw [getLength, laws.getBegin_eq hreg, laws.getEnd_eq hreg]
        have hsub := toNat_sub_of_near hlt.le (by omega)
        dsimp only
        omega
      rw [if_pos hlt, ← hlength]
      rfl

theorem buffers_of_run {startSeq : uint32} {history} {q : TCPVirtualDataRcvQueue VirtualRegion}
    (hrun : Run (· = init startSeq) (StepOf (traced (@step M))) history q)
    (hallowed : Always (fun _ l => l.2.1.Allowed l.1) history) :
    ∃ blocks, q.Buffers laws (.after startSeq history) blocks := by
  induction hrun with
  | init hinit => exact ⟨[], hinit ▸ buffers_init laws startSeq⟩
  | @step history s s' l hrun hstep ih =>
    obtain ⟨e, before, o⟩ := l
    obtain ⟨hearlier, hnow⟩ := hallowed
    obtain ⟨rfl, htaken⟩ := traced_eq_some.mp hstep
    obtain ⟨blocks, hbuffers⟩ := ih hearlier
    obtain ⟨q', blocks', hq', hbuffers', -⟩ := hbuffers.step hnow
    obtain ⟨rfl, -⟩ := Prod.mk.inj (Option.some.inj (htaken.symm.trans hq'))
    exact ⟨blocks', hbuffers'⟩

theorem regionList_eq_map (h : q.Buffers laws bytes blocks) :
    q.regionList = blocks.map ofBlock := by
  have hregions := h.regions
  clear h
  generalize q.regionList = l at hregions ⊢
  induction hregions with
  | nil => rfl
  | cons hr _ ih => rw [List.map_cons, hr, ih]

/-- The queue holds the set of bytes that have arrived and have not been handed
on, after every run and at every next step. -/
theorem regionList_refines {startSeq : uint32} {history} {q : TCPVirtualDataRcvQueue VirtualRegion}
    (hrun : Run (· = init startSeq) (StepOf (traced (@step M))) history q)
    (hallowed : Always (fun _ l => l.2.1.Allowed l.1) history) :
    let bytes := ReceivedBytes.after startSeq history
    (∃ blocks : List (Block ℤ), q.regionList = blocks.map VirtualRegion.ofBlock ∧
      Separated blocks ∧ cover blocks = bytes.buffered ∧
      ∀ b ∈ blocks, bytes.first ≤ b.low ∧ b.high < bytes.first + 2 ^ 31) ∧
    q.rcv_nxt = seqOf bytes.next ∧
    IsLeast {p : ℤ | startSeq.toNat ≤ p ∧ p ∉ bytes.received} bytes.next ∧
    q.getAmountOfBufferedBytes.toNat = bytes.buffered.ncard ∧
    (∀ p, bytes.first ≤ p → p < bytes.first + 2 ^ 31 →
      (p ∈ bytes.buffered → ∃ left, IsLeast {x | Set.Icc x p ⊆ bytes.buffered} left ∧
        q.getLE (seqOf p) = seqOf left) ∧
      (p ∉ bytes.buffered → q.getLE (seqOf p) = seqOf p) ∧
      (p - 1 ∈ bytes.buffered → ∃ right, IsGreatest {x | Set.Ico (p - 1) x ⊆ bytes.buffered} right ∧
        q.getRE (seqOf p) = seqOf right) ∧
      (p - 1 ∉ bytes.buffered → q.getRE (seqOf p) = seqOf p)) ∧
    ∀ e : Event M, q.Allowed e → ∃ q', step q e = some (q', bytes.output e) ∧
      bytes.next ≤ (bytes.handle e).next := by
  obtain ⟨blocks, h⟩ := buffers_of_run hrun hallowed
  have hleast := h.wellFormed.isLeast_next
  rw [ReceivedBytes.missing, ReceivedBytes.start_after] at hleast
  refine ⟨⟨blocks, regionList_eq_map h, h.separated, h.cover_eq, fun b hb => h.within hb⟩,
    h.rcv_nxt_eq, hleast, h.getAmountOfBufferedBytes, fun p hlow hhigh => ?_, fun e he => ?_⟩
  · obtain ⟨hin, hout⟩ := h.getLE hlow hhigh
    obtain ⟨hin', hout'⟩ := h.getRE hlow hhigh
    exact ⟨hin, hout, hin', hout'⟩
  · obtain ⟨q', _, hstep, -, hle⟩ := h.step he
    exact ⟨q', hstep, hle⟩

def dataSegment (sequenceNo : uint32) (payloadLength : ℕ) : TCPSegment M where
  sequenceNo := sequenceNo
  payloadLength := payloadLength
  byteArray := []
  payloadList := []

/-- Bytes on both sides of the wraparound, with a gap that a retransmission fills. -/
def reordered : List (Event M) :=
  [.insertBytesFromSegment (dataSegment 3 4), .insertBytesFromSegment (dataSegment 4294967290 4),
    .extractBytesUpTo 4294967292, .insertBytesFromSegment (dataSegment 4294967293 8),
    .extractBytesUpTo 7]

theorem regionList_refines_reordered : ∃ (q : TCPVirtualDataRcvQueue VirtualRegion)
    (history : List (Event Unit × TCPVirtualDataRcvQueue VirtualRegion × Output)),
    q.rcv_nxt = 7 ∧ q.regionList = [] ∧
      q.rcv_nxt = seqOf (ReceivedBytes.after 4294967290 history).next := by
  obtain ⟨q, history, hrun, hallowed, hnext, hempty⟩ := exists_run_of_execute (traced (@step Unit))
    (init 4294967290) reordered
    (fun q history => Always (fun _ l => l.2.1.Allowed l.1) history ∧ q.rcv_nxt = 7 ∧
      q.regionList = [])
    (by decide +kernel)
  exact ⟨q, history, hnext, hempty, (regionList_refines hrun hallowed).2.1⟩

/-- Three ways out of the window: the right edge is asked for at the beginning of
a block; data far above what was never handed on arrives; an extraction far below
`rcv_nxt` takes the bytes after a gap. -/
theorem getRE_front :
    ((execute (@step Unit) (init 0) [] [.insertBytesFromSegment (dataSegment 5 3)]).map
      fun r => (r.1.getLE 5, r.1.getRE 5)) = some (5, 5) ∧
    execute (@step Unit) (init 0) [] [.insertBytesFromSegment (dataSegment 0 1073741824),
      .insertBytesFromSegment (dataSegment 2147483648 1)] = none ∧
    ((execute (@step Unit) (init 0) [] [.insertBytesFromSegment (dataSegment 10 10),
      .extractBytesUpTo 2147483653, .insertBytesFromSegment (dataSegment 0 10)]).map
      fun r => (r.1.rcv_nxt, r.2.map (·.2))) =
        some (10, [.rcv_nxt 10, .msg (some 10), .rcv_nxt 0]) := by
  decide +kernel

end TCPVirtualDataRcvQueue

end inet.tcp
