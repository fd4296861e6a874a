import LoRaInet.Transition.Run
import LoRaInet.TransportLayer.Tcp.TCPSACKRexmitQueue.Queries

open omnetpp interval transition

namespace inet.tcp

namespace TCPSACKRexmitQueue

inductive Event where
  | init (seqNum : uint32)
  | enqueueSentData (fromSeqNum toSeqNum : uint32)
  | setSackedBit (fromSeqNum toSeqNum : uint32)
  | discardUpTo (seqNum : uint32)
  | resetSackedBit
  | resetRexmittedBit

def handle (q : TCPSACKRexmitQueue) : Event → Except Fault TCPSACKRexmitQueue
  | .init seqNum => .ok (q.init seqNum)
  | .enqueueSentData fromSeqNum toSeqNum => q.enqueueSentData fromSeqNum toSeqNum
  | .setSackedBit fromSeqNum toSeqNum => q.setSackedBit fromSeqNum toSeqNum
  | .discardUpTo seqNum => q.discardUpTo seqNum
  | .resetSackedBit => .ok q.resetSackedBit
  | .resetRexmittedBit => .ok q.resetRexmittedBit

/-- A call that throws is no step. -/
def step (q : TCPSACKRexmitQueue) (e : Event) : Option (TCPSACKRexmitQueue × Unit) :=
  (q.handle e).toOption.map fun q => (q, ())

end TCPSACKRexmitQueue

/-- The bits of every byte by its position in the stream, and the range that is
outstanding. -/
structure SentBytes where
  low : ℤ
  high : ℤ
  bits : TCPSACKRexmitQueue.Bits

namespace SentBytes

open TCPSACKRexmitQueue

variable (m : SentBytes) (seqNum : uint32)

/-- The position at or above the first byte that has the sequence number. -/
def position : ℤ := m.low + (seqNum - seqOf m.low).toNat

/-- Each event on the bytes one by one: new data has no bit, data sent again gets
`rexmitted`, and acknowledged data `sacked`. -/
def handle : Event → SentBytes
  | .init seqNum => { m with low := seqNum.toNat, high := seqNum.toNat }
  | .enqueueSentData fromSeqNum toSeqNum =>
    if m.position fromSeqNum = m.high then
      let high := m.high + (toSeqNum - fromSeqNum).toNat
      { m with high, bits := change (fun _ => (false, false)) m.bits m.high high }
    else
      { m with bits := change (fun b => (b.1, true)) m.bits (m.position fromSeqNum) (m.position toSeqNum) }
  | .setSackedBit fromSeqNum toSeqNum =>
    { m with bits := change (fun b => (true, b.2)) m.bits (m.position fromSeqNum) (m.position toSeqNum) }
  | .discardUpTo seqNum => { m with low := m.position seqNum }
  | .resetSackedBit => { m with bits := change (fun b => (false, b.2)) m.bits m.low m.high }
  | .resetRexmittedBit => { m with bits := change (fun b => (b.1, false)) m.bits m.low m.high }

/-- `init` comes when nothing is outstanding. New data goes to the end, and less
than `2 ^ 31` bytes are outstanding then; all other ranges are not empty and lie
in what is outstanding. -/
def Allowed : Event → Prop
  | .init _ => m.low = m.high
  | .enqueueSentData fromSeqNum toSeqNum =>
    (m.position fromSeqNum = m.high ∧ fromSeqNum ≠ toSeqNum ∧
      m.high + (toSeqNum - fromSeqNum).toNat < m.low + 2147483648) ∨
    (m.position fromSeqNum < m.position toSeqNum ∧ m.position toSeqNum ≤ m.high)
  | .setSackedBit fromSeqNum toSeqNum =>
    m.position fromSeqNum < m.position toSeqNum ∧ m.position toSeqNum ≤ m.high
  | .discardUpTo seqNum => m.position seqNum ≤ m.high
  | .resetSackedBit => True
  | .resetRexmittedBit => True

instance (m : SentBytes) : (e : Event) → Decidable (m.Allowed e)
  | .init _ => inferInstanceAs (Decidable (_ = _))
  | .enqueueSentData _ _ => inferInstanceAs (Decidable (_ ∨ _))
  | .setSackedBit _ _ => inferInstanceAs (Decidable (_ ∧ _))
  | .discardUpTo _ => inferInstanceAs (Decidable (_ ≤ _))
  | .resetSackedBit | .resetRexmittedBit => .isTrue trivial

/-- What the events of a history leave behind, the most recent one first. -/
def after {L : Type} : List (Event × L) → SentBytes
  | [] => ⟨0, 0, fun _ => (false, false)⟩
  | (e, _) :: history => (after history).handle e

theorem seqOf_position : seqOf (m.position seqNum) = seqNum := by
  rw [position, ← seqOf_add, seqOf_toNat, BitVec.add_comm, BitVec.sub_add_cancel]

theorem low_le_position : m.low ≤ m.position seqNum := by
  rw [position]
  omega

end SentBytes

namespace TCPSACKRexmitQueue

variable {q : TCPSACKRexmitQueue} {m : SentBytes}

theorem holds_new : new.Holds (fun _ => (false, false)) 0 0 :=
  ⟨rfl, rfl, rfl, by decide⟩

theorem Holds.init {bits : Bits} {p : ℤ} (h : q.Holds bits p p) (seqNum : uint32) :
    (q.init seqNum).Holds bits seqNum.toNat seqNum.toNat := by
  have hnil : q.rexmitQueue = [] := by
    have htiles := h.tiles
    cases hregions : q.rexmitQueue with
    | nil => rfl
    | cons r rest =>
      rw [hregions] at htiles
      obtain ⟨mid, htile, hrest⟩ := htiles
      have hlt := htile.lt
      have hle := hrest.le
      omega
  refine ⟨(seqOf_toNat seqNum).symm, (seqOf_toNat seqNum).symm, ?_, by omega⟩
  rw [TCPSACKRexmitQueue.init, hnil]
  rfl

theorem Holds.handle (h : q.Holds m.bits m.low m.high) {e : Event} (hallowed : m.Allowed e) :
    ∃ q', q.handle e = .ok q' ∧ q'.Holds (m.handle e).bits (m.handle e).low (m.handle e).high := by
  cases e with
  | init seqNum =>
    have heq : m.low = m.high := hallowed
    rw [heq] at h
    exact ⟨_, rfl, h.init seqNum⟩
  | enqueueSentData fromSeqNum toSeqNum =>
    rw [SentBytes.handle]
    by_cases hend : m.position fromSeqNum = m.high
    · have hnew : fromSeqNum ≠ toSeqNum ∧
          m.high + (toSeqNum - fromSeqNum).toNat < m.low + 2147483648 := by
        rcases hallowed with ⟨-, hnew⟩ | ⟨hst, ht⟩
        · exact hnew
        · omega
      have hfrom : seqOf m.high = fromSeqNum := hend ▸ m.seqOf_position fromSeqNum
      have hto : seqOf (m.high + (toSeqNum - fromSeqNum).toNat) = toSeqNum := by
        rw [← seqOf_add, hfrom, seqOf_toNat, BitVec.add_comm, BitVec.sub_add_cancel]
      have hpos : 0 < (toSeqNum - fromSeqNum).toNat := by
        have hne := hnew.1
        bv_omega
      have henqueue := h.enqueueNew (t := m.high + (toSeqNum - fromSeqNum).toNat) (by omega)
        (by omega)
      rw [hfrom, hto] at henqueue
      rw [if_pos hend]
      exact henqueue
    · obtain ⟨hst, ht⟩ := hallowed.resolve_left fun hnew => hend hnew.1
      have henqueue := h.enqueueRexmit (m.low_le_position fromSeqNum) hst ht
      rw [m.seqOf_position, m.seqOf_position] at henqueue
      rw [if_neg hend]
      exact henqueue
  | setSackedBit fromSeqNum toSeqNum =>
    obtain ⟨hst, ht⟩ := hallowed
    have hsack := h.setSackedBit (m.low_le_position fromSeqNum) hst ht
    rw [m.seqOf_position, m.seqOf_position] at hsack
    exact hsack
  | discardUpTo seqNum =>
    have hdiscard := h.discardUpTo (m.low_le_position seqNum) hallowed
    rw [m.seqOf_position] at hdiscard
    exact hdiscard
  | resetSackedBit => exact ⟨_, rfl, h.resetSackedBit⟩
  | resetRexmittedBit => exact ⟨_, rfl, h.resetRexmittedBit⟩

theorem holds_of_run {history} (hrun : Run (· = new) (StepOf step) history q)
    (hallowed : Always (fun earlier l => (SentBytes.after earlier).Allowed l.1) history) :
    let m := SentBytes.after history
    q.Holds m.bits m.low m.high := by
  induction hrun with
  | init hinit => exact hinit ▸ holds_new
  | @step history s s' l hrun hstep ih =>
    obtain ⟨hearlier, hnow⟩ := hallowed
    obtain ⟨s'', hs'', hholds⟩ := (ih hearlier).handle hnow
    have htaken : step s l.1 = some (s', l.2) := hstep
    rw [step, hs''] at htaken
    cases htaken
    exact hholds

theorem Tiles.exists_tile {bits : Bits} {low high : ℤ} {l : List Region} {r : Region}
    (h : Tiles bits low l high) (hr : r ∈ l) :
    ∃ a b, low ≤ a ∧ b ≤ high ∧ Tile bits a b r := by
  induction l generalizing low with
  | nil => cases hr
  | cons first rest ih =>
    obtain ⟨mid, htile, hrest⟩ := h
    rcases List.mem_cons.mp hr with rfl | hr
    · exact ⟨low, mid, le_refl low, hrest.le, htile⟩
    · obtain ⟨a, b, ha, hb, htile'⟩ := ih hrest hr
      exact ⟨a, b, htile.lt.le.trans ha, hb, htile'⟩

/-- Every byte that is outstanding is in a region, and each region that it is in
has its bits. -/
theorem Holds.region_bits {bits : Bits} {low high p : ℤ} (h : q.Holds bits low high)
    (hlow : low ≤ p) (hhigh : p < high) :
    (∃ r ∈ q.rexmitQueue, (seqLE r.beginSeqNum (seqOf p) && seqLess (seqOf p) r.endSeqNum) = true) ∧
    ∀ r ∈ q.rexmitQueue, (seqLE r.beginSeqNum (seqOf p) && seqLess (seqOf p) r.endSeqNum) = true →
      (r.sacked, r.rexmitted) = bits p := by
  have hlt := h.lt
  constructor
  · obtain ⟨i, rest, -, -, hdrop, -, -, -, -, -, hcontains⟩ := h.find hlow hhigh
    refine ⟨i, ?_, hcontains⟩
    apply (List.dropWhile_suffix (endsBy (seqOf p))).subset
    rw [hdrop]
    exact (.head _)
  · intro r hr hcontains
    obtain ⟨a, b, ha, hb, htile⟩ := h.tiles.exists_tile hr
    have hab := htile.lt
    rw [Bool.and_eq_true, htile.begin_eq, htile.end_eq, seqLE_seqOf ⟨by omega, by omega⟩,
      seqLess_seqOf ⟨by omega, by omega⟩] at hcontains
    exact (htile.bits_eq p hcontains.1 hcontains.2).symm

/-- The queue answers for the bytes that are outstanding, after every run, and
every next event that is allowed passes all of its assertions. -/
theorem perByte_refines {history} {q : TCPSACKRexmitQueue}
    (hrun : Run (· = new) (StepOf step) history q)
    (hallowed : Always (fun earlier l => (SentBytes.after earlier).Allowed l.1) history) :
    let m := SentBytes.after history
    q.begin = seqOf m.low ∧ q.endSeq = seqOf m.high ∧ q.checkQueue = true ∧
    (∀ e, m.Allowed e → ∃ q', q.handle e = .ok q') ∧
    (∀ p, m.low ≤ p → p < m.high →
      (∃ r ∈ q.rexmitQueue,
        (seqLE r.beginSeqNum (seqOf p) && seqLess (seqOf p) r.endSeqNum) = true) ∧
      ∀ r ∈ q.rexmitQueue,
        (seqLE r.beginSeqNum (seqOf p) && seqLess (seqOf p) r.endSeqNum) = true →
        (r.sacked, r.rexmitted) = m.bits p) ∧
    (∃ top, q.getHighestSackedSeqNum = seqOf top ∧
      IsGreatest (insert m.low {x | m.low < x ∧ x ≤ m.high ∧ m.bits.sacked (x - 1) = true}) top) ∧
    (∃ top, q.getHighestRexmittedSeqNum = seqOf top ∧
      IsGreatest (insert m.low {x | m.low < x ∧ x ≤ m.high ∧ m.bits.rexmitted (x - 1) = true})
        top) ∧
    q.getTotalAmountOfSackedBytes = BitVec.ofNat 32 (count m.bits.sacked m.low m.high) ∧
    (∀ p, m.low ≤ p → p ≤ m.high →
      q.getSackedBit (seqOf p) = .ok (decide (p < m.high) && m.bits.sacked p) ∧
      (∃ k : ℕ, q.checkRexmitQueueForSackedOrRexmittedSegments (seqOf p) = .ok (BitVec.ofNat 32 k) ∧
        IsGreatest {n : ℕ | p + n ≤ m.high ∧
          ∀ x, p ≤ x → x < p + n → (m.bits.sacked x || m.bits.rexmitted x) = true} k) ∧
      q.getAmountOfSackedBytes (seqOf p) = .ok (BitVec.ofNat 32 (count m.bits.sacked p m.high)) ∧
      q.getNumOfDiscontiguousSacks (seqOf p) =
        .ok (BitVec.ofNat 32 (starts m.bits.sacked false p m.high))) ∧
    (∀ (state : TCPStateVariables) (p p' : ℤ), m.low ≤ p → p ≤ p' → p' ≤ m.high →
      seqGE (seqOf p) state.snd_una = true → isLost state q (seqOf p') = .ok true →
      isLost state q (seqOf p) = .ok true) := by
  intro m
  have h : q.Holds m.bits m.low m.high := holds_of_run hrun hallowed
  have hcheck : q.checkQueue = true := by
    rw [checkQueue, h.begin_eq, h.end_eq]
    exact h.tiles.checkLoop_eq h.lt
  refine ⟨h.begin_eq, h.end_eq, hcheck, fun e he => ?_, fun p hlow hhigh => ?_,
    h.getHighestSackedSeqNum_eq, h.getHighestRexmittedSeqNum_eq, h.getTotalAmountOfSackedBytes_eq,
    fun p hlow hhigh => ?_, fun state p p' hlow hle hhigh huna hlost => ?_⟩
  · obtain ⟨q', hq', -⟩ := h.handle he
    exact ⟨q', hq'⟩
  · exact h.region_bits hlow hhigh
  · exact ⟨h.getSackedBit_eq hlow hhigh, h.checkRexmitQueue_eq hlow hhigh,
      h.getAmountOfSackedBytes_eq hlow hhigh, h.getNumOfDiscontiguousSacks_eq hlow hhigh⟩
  · exact h.isLost_antitone hlow hle hhigh huna hlost

/-- Data across the wraparound, of which two parts are acknowledged and one that
overlaps both is sent again. -/
def acknowledged : List Event :=
  [.init 4294967290, .enqueueSentData 4294967290 10, .setSackedBit 4294967294 2,
    .setSackedBit 4 6, .enqueueSentData 0 5, .discardUpTo 4294967292]

theorem perByte_refines_acknowledged : ∃ (q : TCPSACKRexmitQueue) (history : List (Event × Unit)),
    q.rexmitQueue.length = 7 ∧
      q.getTotalAmountOfSackedBytes = BitVec.ofNat 32
        (count (SentBytes.after history).bits.sacked (SentBytes.after history).low
          (SentBytes.after history).high) := by
  obtain ⟨q, history, hrun, hallowed, hlength⟩ := exists_run_of_execute step new acknowledged
    (fun q history =>
      Always (fun earlier l => (SentBytes.after earlier).Allowed l.1) history ∧
        q.rexmitQueue.length = 7)
    (by decide +kernel)
  exact ⟨q, history, hlength, (perByte_refines hrun hallowed).2.2.2.2.2.2.2.1⟩

/-- Two ways out: `init` keeps the regions of a queue that is not empty, and of
exactly `2 ^ 31` bytes the first is no longer found. -/
theorem init_again :
    execute step new [] [.enqueueSentData 0 5, .init 100, .enqueueSentData 100 105] = none ∧
    ((execute step new [] [.enqueueSentData 0 1073741824,
      .enqueueSentData 1073741824 2147483648]).map fun r => (r.1.handle (.discardUpTo 0)).isOk) =
        some false := by
  decide +kernel

end TCPSACKRexmitQueue

end inet.tcp
