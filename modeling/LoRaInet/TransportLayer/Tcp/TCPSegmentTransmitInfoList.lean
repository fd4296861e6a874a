import LoRaInet.TransportLayer.Tcp.TCPSegment

open omnetpp

namespace inet.tcp.TCPSegmentTransmitInfoList

/-- A segment `[beg, end)` and how it was sent. -/
structure Item where
  beg : uint32
  end_ : uint32
  firstSentTime : SimTime
  lastSentTime : SimTime
  transmitCount : ℤ

abbrev TCPSegmentTransmitInfoItems := List Item

/-- What is left of `set` at the item `i` that starts at `beg`: the items up to `end` are updated,
and the rest of the segment is split off the next item, or appended. -/
def setFrom (end_ : uint32) (sentTime : SimTime) :
    uint32 → TCPSegmentTransmitInfoItems → Except Fault TCPSegmentTransmitInfoItems
  | beg, [] => .ok (if beg ≠ end_ then [⟨beg, end_, sentTime, sentTime, 1⟩] else [])
  | beg, i :: regions =>
    if seqLE i.end_ end_ then do
      ASSERT (beg = i.beg) "beg == i->beg"
      let updated ← setFrom end_ sentTime i.end_ regions
      .ok ({ i with
        firstSentTime := if i.firstSentTime > sentTime then sentTime else i.firstSentTime
        lastSentTime := if i.lastSentTime < sentTime then sentTime else i.lastSentTime
        transmitCount := i.transmitCount + 1 } :: updated)
    else if beg ≠ end_ then do
      ASSERT (beg = i.beg) "beg == i->beg"
      .ok (⟨beg, end_, min i.firstSentTime sentTime, max i.lastSentTime sentTime,
        i.transmitCount + 1⟩ :: { i with beg := end_ } :: regions)
    else .ok (i :: regions)

/-- The items that end by `beg` are passed over, and the next one is split at `beg`. -/
def setWithin (beg end_ : uint32) (sentTime : SimTime) :
    TCPSegmentTransmitInfoItems → Except Fault TCPSegmentTransmitInfoItems
  | [] => .error .nullPointer
  | i :: regions =>
    if seqLE i.end_ beg then do
      let updated ← setWithin beg end_ sentTime regions
      .ok (i :: updated)
    else do
      ASSERT (seqLE i.beg beg) "seqLE(i->beg, beg)"
      let updated ← setFrom end_ sentTime beg ({ i with beg } :: regions)
      .ok (if beg ≠ i.beg then { i with end_ := beg } :: updated else updated)

def set (beg end_ : uint32) (sentTime : SimTime) :
    TCPSegmentTransmitInfoItems → Except Fault TCPSegmentTransmitInfoItems
  | [] => do
    ASSERT (seqLess beg end_) "seqLess(beg, end)"
    .ok [⟨beg, end_, sentTime, sentTime, 1⟩]
  | front :: regions => do
    let back := (front :: regions).getLast (List.cons_ne_nil front regions)
    ASSERT (seqLess beg end_) "seqLess(beg, end)"
    ASSERT (seqLE front.beg beg && seqLE beg back.end_)
      "regions.empty() || (seqLE(regions.front().beg, beg) && seqLE(beg, regions.back().end))"
    if back.end_ = beg then .ok (front :: regions ++ [⟨beg, end_, sentTime, sentTime, 1⟩])
    else if end_ = front.beg then .ok (⟨beg, end_, sentTime, sentTime, 1⟩ :: front :: regions)
    else setWithin beg end_ sentTime (front :: regions)

def get (seq : uint32) : TCPSegmentTransmitInfoItems → Option Item
  | [] => none
  | elem :: regions =>
    if seqLess seq elem.beg then none
    else if seqLE elem.beg seq && seqLess seq elem.end_ then some elem
    else get seq regions

def clearTo (endseq : uint32) : TCPSegmentTransmitInfoItems → TCPSegmentTransmitInfoItems
  | [] => []
  | front :: regions =>
    if seqLE front.end_ endseq then clearTo endseq regions
    else if seqLess front.beg endseq then { front with beg := endseq } :: regions
    else front :: regions

/-- The item carries the data of a byte that was sent at `times`. -/
def Item.Describes (item : Item) (times : List SimTime) : Prop :=
  times.min? = some item.firstSentTime ∧ times.max? = some item.lastSentTime ∧
  (times.length : ℤ) = item.transmitCount

/-- The items cover the positions from `low` to `high` without a gap, none of them is empty, and
each carries the data of all its bytes. -/
def Tiles (times : ℤ → List SimTime) (high : ℤ) : ℤ → TCPSegmentTransmitInfoItems → Prop
  | low, [] => low = high
  | low, item :: regions => item.beg = seqOf low ∧ ∃ next, low < next ∧ item.end_ = seqOf next ∧
    (∀ p, low ≤ p → p < next → item.Describes (times p)) ∧ Tiles times high next regions

theorem Item.Describes.single (beg end_ : uint32) (sentTime : SimTime) :
    (⟨beg, end_, sentTime, sentTime, 1⟩ : Item).Describes [sentTime] := by
  simp [Item.Describes]

/-- Another time counts the item up. -/
theorem Item.Describes.cons {item item' : Item} {times : List SimTime} {sentTime : SimTime}
    (h : item.Describes times) (hfirst : item'.firstSentTime = min item.firstSentTime sentTime)
    (hlast : item'.lastSentTime = max item.lastSentTime sentTime)
    (hcount : item'.transmitCount = item.transmitCount + 1) :
    item'.Describes (sentTime :: times) := by
  obtain ⟨hmin, hmax, hlength⟩ := h
  refine ⟨?_, ?_, ?_⟩
  · rw [List.min?_cons, hmin, hfirst, min_comm]
    rfl
  · rw [List.max?_cons, hmax, hlast, max_comm]
    rfl
  · rw [hcount, ← hlength, List.length_cons, Nat.cast_succ]

theorem Item.Describes.ne_nil {item : Item} {times : List SimTime} (h : item.Describes times) :
    times ≠ [] := by
  rintro rfl
  cases h.1

/-- A sequence number that is not before a position is that of a position after it. -/
theorem exists_of_seqLE {low : ℤ} {seq : uint32} (h : seqLE (seqOf low) seq = true) :
    ∃ p, low ≤ p ∧ p < low + 2 ^ 31 ∧ seqOf p = seq := by
  rw [seqLE, decide_eq_true_eq] at h
  refine ⟨low + (seq - seqOf low).toNat, by omega, by omega, ?_⟩
  rw [← seqOf_add, seqOf_toNat, BitVec.add_comm, BitVec.sub_add_cancel]

namespace Tiles

variable {times times' : ℤ → List SimTime} {low high beg last : ℤ} {sentTime : SimTime}
  {regions : TCPSegmentTransmitInfoItems}

section

variable (h : Tiles times high low regions)
include h

theorem le : low ≤ high := by
  induction regions generalizing low with
  | nil => exact le_of_eq h
  | cons item regions ih =>
    obtain ⟨_, next, hlt, _, _, hrest⟩ := h
    exact hlt.le.trans (ih hrest)

theorem congr (heq : ∀ p, low ≤ p → times' p = times p) : Tiles times' high low regions := by
  induction regions generalizing low with
  | nil => exact h
  | cons item regions ih =>
    obtain ⟨hbeg, next, hlt, hend, hitem, hrest⟩ := h
    refine ⟨hbeg, next, hlt, hend, ?_, ih hrest fun p hp => heq p (hlt.le.trans hp)⟩
    intro p hlow hnext
    rw [heq p hlow]
    exact hitem p hlow hnext

theorem times_ne_nil {p : ℤ} (hlow : low ≤ p) (hhigh : p < high) : times p ≠ [] := by
  induction regions generalizing low with
  | nil => exact absurd (hlow.trans_lt hhigh) (not_lt_of_ge (le_of_eq h.symm))
  | cons item regions ih =>
    obtain ⟨_, next, _, _, hitem, hrest⟩ := h
    by_cases hnext : p < next
    · exact (hitem p hlow hnext).ne_nil
    · exact ih hrest (not_lt.mp hnext)

theorem getLast (hne : regions ≠ []) : (regions.getLast hne).end_ = seqOf high := by
  induction regions generalizing low with
  | nil => exact absurd rfl hne
  | cons item regions ih =>
    obtain ⟨_, next, _, hend, _, hrest⟩ := h
    cases regions with
    | nil => exact hend.trans (congrArg seqOf hrest)
    | cons _ _ =>
      rw [List.getLast_cons (List.cons_ne_nil _ _)]
      exact ih hrest (List.cons_ne_nil _ _)

open TCPSegmentTransmitInfoList

/-- The bytes that `set` covers from `beg` on are sent once more. -/
theorem setFrom (hle : low ≤ last)
    (hout : ∀ p, high ≤ p → times p = []) (hhigh : high < low + 2 ^ 31)
    (hlast : last < low + 2 ^ 31)
    (htimes : ∀ p, low ≤ p → times' p = if p < last then sentTime :: times p else times p) :
    Returns (setFrom (seqOf last) sentTime (seqOf low) regions)
      (Tiles times' (max high last) low) := by
  induction regions generalizing low with
  | nil =>
    obtain rfl : low = high := h
    refine .ok ?_
    rw [max_eq_right hle]
    have hinj := seqOf_inj (a := low) (b := last) ⟨by linarith, by linarith⟩
    split
    · next hne =>
      rw [ne_eq, hinj] at hne
      refine ⟨rfl, last, lt_of_le_of_ne hle hne, rfl, ?_, rfl⟩
      intro p hp hplast
      rw [htimes p hp, if_pos hplast, hout p hp]
      exact .single _ _ _
    · next heq => exact hinj.mp (not_not.mp heq)
  | cons item regions ih =>
    obtain ⟨hbeg, next, hlt, hend, hitem, hrest⟩ := h
    have hnext := hrest.le
    have hcovered := seqLE_seqOf (a := next) (b := last) ⟨by linarith, by linarith⟩
    rw [setFrom, hend, hbeg]
    split
    · next hin =>
      rw [hcovered] at hin
      rw [assert_bind rfl]
      refine (ih hrest hin (by linarith) (by linarith)
        fun p hp => htimes p (hlt.le.trans hp)).bind fun updated hupdated => .ok ?_
      refine ⟨rfl, next, hlt, rfl, ?_, hupdated⟩
      intro p hp hpnext
      rw [htimes p hp, if_pos (hpnext.trans_le hin)]
      refine (hitem p hp hpnext).cons ?_ ?_ rfl
      · rw [min_comm, min_def_lt]
      · rw [max_def_lt]
    · next hout' =>
      rw [hcovered, not_le] at hout'
      rw [max_eq_left (hout'.le.trans hnext)]
      split
      · next hne =>
        rw [ne_eq, seqOf_inj ⟨by linarith, by linarith⟩] at hne
        rw [assert_bind rfl]
        refine .ok ⟨rfl, last, lt_of_le_of_ne hle hne, rfl, ?_, rfl, next, hout', rfl, ?_, ?_⟩
        · intro p hp hplast
          rw [htimes p hp, if_pos hplast]
          exact (hitem p hp (hplast.trans hout')).cons rfl rfl rfl
        · intro p hp hpnext
          rw [htimes p (hle.trans hp), if_neg hp.not_gt]
          exact hitem p (hle.trans hp) hpnext
        · refine hrest.congr fun p hp => ?_
          rw [htimes p (hlt.le.trans hp), if_neg (hout'.le.trans hp).not_gt]
      · next heq =>
        rw [not_not, seqOf_inj ⟨by linarith, by linarith⟩] at heq
        refine .ok (congr ⟨hbeg, next, hlt, hend, hitem, hrest⟩ fun p hp => ?_)
        rw [htimes p hp, if_neg (heq ▸ hp).not_gt]

/-- `set` adds the time to the bytes of its segment, and to no others. -/
theorem setWithin (hle : low ≤ beg) (hlt : beg < high)
    (hbl : beg < last) (hout : ∀ p, high ≤ p → times p = []) (hhigh : high < low + 2 ^ 31)
    (hlast : last < low + 2 ^ 31)
    (htimes : ∀ p, times' p = if beg ≤ p ∧ p < last then sentTime :: times p else times p) :
    Returns (setWithin (seqOf beg) (seqOf last) sentTime regions)
      (Tiles times' (max high last) low) := by
  have hbelow : ∀ p, p < beg → times' p = times p := fun p hp => by
    rw [htimes p, if_neg fun hin => hin.1.not_gt hp]
  induction regions generalizing low with
  | nil =>
    obtain rfl : low = high := h
    exact absurd hlt hle.not_gt
  | cons item regions ih =>
    obtain ⟨hbeg, next, hnext, hend, hitem, hrest⟩ := h
    have hnexthigh := hrest.le
    have hskip := seqLE_seqOf (a := next) (b := beg) ⟨by linarith, by linarith⟩
    rw [setWithin, hend, hbeg]
    split
    · next hin =>
      rw [hskip] at hin
      refine (ih hrest hin (by linarith) (by linarith)).bind fun updated hupdated => ?_
      refine .ok ⟨hbeg, next, hnext, hend, ?_, hupdated⟩
      intro p hp hpnext
      rw [hbelow p (hpnext.trans_le hin)]
      exact hitem p hp hpnext
    · next hin =>
      rw [hskip, not_le] at hin
      rw [assert_bind ((seqLE_seqOf ⟨by linarith, by linarith⟩).mpr hle)]
      have hrestBeg : Tiles times high beg ({ item with beg := seqOf beg, end_ := seqOf next } :: regions) :=
        ⟨rfl, next, hin, rfl, fun p hp => hitem p (hle.trans hp), hrest⟩
      have htail : ∀ p, beg ≤ p → times' p = if p < last then sentTime :: times p else times p :=
        fun p hp => by simp only [htimes p, hp, true_and]
      refine (hrestBeg.setFrom hbl.le hout (by linarith) (by linarith) htail).bind fun updated hupdated => .ok ?_
      · have hinj := seqOf_inj (a := beg) (b := low) ⟨by linarith, by linarith⟩
        split
        · next hne =>
          rw [ne_eq, hinj] at hne
          refine ⟨rfl, beg, lt_of_le_of_ne hle (Ne.symm hne), rfl, ?_, hupdated⟩
          intro p hp hpbeg
          rw [hbelow p hpbeg]
          exact hitem p hp (hpbeg.trans hin)
        · next heq =>
          rw [← hinj.mp (not_not.mp heq)]
          exact hupdated

theorem append (hlt : high < last) (hbelow : ∀ p, p < high → times' p = times p)
    (habove : ∀ p, high ≤ p → p < last → times' p = [sentTime]) :
    Tiles times' last low
      (regions ++ [⟨seqOf high, seqOf last, sentTime, sentTime, 1⟩]) := by
  induction regions generalizing low with
  | nil =>
    obtain rfl : low = high := h
    refine ⟨rfl, last, hlt, rfl, ?_, rfl⟩
    intro p hp hplast
    rw [habove p hp hplast]
    exact .single _ _ _
  | cons item regions ih =>
    obtain ⟨hbeg, next, hnext, hend, hitem, hrest⟩ := h
    refine ⟨hbeg, next, hnext, hend, ?_, ih hrest⟩
    intro p hp hpnext
    rw [hbelow p (hpnext.trans_le hrest.le)]
    exact hitem p hp hpnext

theorem clearTo (hnear : low < high → Near last low ∧ Near last high)
    (htimes : ∀ p, last ≤ p → times' p = times p) :
    Tiles times' (max high last) (max low last) (clearTo (seqOf last) regions) := by
  induction regions generalizing low with
  | nil =>
    obtain rfl : low = high := h
    rfl
  | cons item regions ih =>
    obtain ⟨hbeg, next, hnext, hend, hitem, hrest⟩ := h
    have hnexthigh := hrest.le
    obtain ⟨hnearlow, hnearhigh⟩ := hnear (hnext.trans_le hnexthigh)
    rw [Near] at hnearlow hnearhigh
    have hpop := seqLE_seqOf (a := next) (b := last) ⟨by linarith, by linarith⟩
    have hcut := seqLess_seqOf (a := low) (b := last) ⟨by linarith, by linarith⟩
    rw [clearTo, hend, hbeg]
    split
    · next hin =>
      rw [hpop] at hin
      have hrest' := ih hrest fun _ => ⟨⟨by linarith, by linarith⟩, hnearhigh⟩
      rw [max_eq_right hin] at hrest'
      rw [max_eq_right (hnext.le.trans hin)]
      exact hrest'
    · next hin =>
      rw [hpop, not_le] at hin
      rw [max_eq_left (hin.le.trans hnexthigh)]
      split
      · next hless =>
        rw [hcut] at hless
        rw [max_eq_right hless.le]
        refine ⟨rfl, next, hin, rfl, ?_, hrest.congr fun p hp => htimes p (hin.le.trans hp)⟩
        intro p hp hpnext
        rw [htimes p hp]
        exact hitem p (hless.le.trans hp) hpnext
      · next hless =>
        rw [hcut, not_lt] at hless
        rw [max_eq_left hless]
        exact congr ⟨hbeg, next, hnext, hend, hitem, hrest⟩ fun p hp => htimes p (hless.trans hp)

theorem get (hspan : high < low + 2 ^ 31) (seq : uint32) :
    (∀ p, low ≤ p → p < high → seqOf p = seq →
      ∃ item ∈ regions, get seq regions = some item ∧ item.Describes (times p)) ∧
    ((∀ p, low ≤ p → p < high → seqOf p ≠ seq) → get seq regions = none) := by
  induction regions generalizing low with
  | nil =>
    obtain rfl : low = high := h
    exact ⟨fun p hp hlt => absurd hlt hp.not_gt, fun _ => rfl⟩
  | cons item regions ih =>
    obtain ⟨hbeg, next, hnext, hend, hitem, hrest⟩ := h
    have hnexthigh := hrest.le
    obtain ⟨ihsome, ihnone⟩ := ih hrest (by linarith)
    rw [get, hend, hbeg]
    constructor
    · rintro p hp hphigh rfl
      have hless := seqLess_seqOf (a := p) (b := low) ⟨by linarith, by linarith⟩
      have hge := seqLE_seqOf (a := low) (b := p) ⟨by linarith, by linarith⟩
      have hin := seqLess_seqOf (a := p) (b := next) ⟨by linarith, by linarith⟩
      rw [if_neg (hless.not.mpr hp.not_gt), hge.mpr hp, Bool.true_and]
      by_cases hpnext : p < next
      · rw [if_pos (hin.mpr hpnext)]
        exact ⟨item, (.head _), rfl, hitem p hp hpnext⟩
      · rw [if_neg (hin.not.mpr hpnext)]
        obtain ⟨item', hmem, hget⟩ := ihsome p (not_lt.mp hpnext) hphigh rfl
        exact ⟨item', List.mem_cons_of_mem item hmem, hget⟩
    · intro hnot
      rw [ihnone fun p hp => hnot p (hnext.le.trans hp), ite_eq_left_iff]
      intro _
      rw [if_neg]
      intro hin
      rw [Bool.and_eq_true] at hin
      obtain ⟨p, hp, hpnear, rfl⟩ := exists_of_seqLE hin.1
      have hpnext := (seqLess_seqOf ⟨by linarith, by linarith⟩).mp hin.2
      exact hnot p hp (hpnext.trans_le hnexthigh) rfl

end

end Tiles

/-- The bytes from `low` to `high`, each with the times of the calls of `set` that covered it since
it was last cleared. -/
structure Sent where
  low : ℤ
  high : ℤ
  times : ℤ → List SimTime

inductive Call where
  | set (beg end_ : ℤ) (sentTime : SimTime)
  | clearTo (endseq : ℤ)

def perform (regions : TCPSegmentTransmitInfoItems) :
    Call → Except Fault TCPSegmentTransmitInfoItems
  | .set beg end_ sentTime => set (seqOf beg) (seqOf end_) sentTime regions
  | .clearTo endseq => .ok (clearTo (seqOf endseq) regions)

namespace Sent

def empty : Sent := ⟨0, 0, fun _ => []⟩

/-- A segment starts inside the covered bytes or at their end, unless there are none, and what is
covered or cleared stays within a span of `2 ^ 31`. -/
def Allows (s : Sent) : Call → Prop
  | .set beg end_ _ => beg < end_ ∧
    if s.low < s.high then s.low ≤ beg ∧ beg ≤ s.high ∧ end_ < s.low + 2 ^ 31
    else end_ < beg + 2 ^ 31
  | .clearTo endseq => s.low < s.high → Near endseq s.low ∧ Near endseq s.high

def after (s : Sent) : Call → Sent
  | .set beg end_ sentTime =>
    { low := if s.low < s.high then s.low else beg
      high := if s.low < s.high then max s.high end_ else end_
      times := fun p => if beg ≤ p ∧ p < end_ then sentTime :: s.times p else s.times p }
  | .clearTo endseq =>
    { low := max s.low endseq
      high := max s.high endseq
      times := fun p => if p < endseq then [] else s.times p }

def AllowsAll (s : Sent) : List Call → Prop
  | [] => True
  | call :: calls => s.Allows call ∧ (s.after call).AllowsAll calls

/-- The list is the per-byte map: its items tile the covered bytes. -/
structure RefinedBy (s : Sent) (regions : TCPSegmentTransmitInfoItems) : Prop where
  tiles : Tiles s.times s.high s.low regions
  span : s.high < s.low + 2 ^ 31
  outside : ∀ p, p < s.low ∨ s.high ≤ p → s.times p = []

namespace RefinedBy

variable {s : Sent} {regions : TCPSegmentTransmitInfoItems} {beg last : ℤ}

theorem set (h : s.RefinedBy regions) (sentTime : SimTime)
    (hallows : s.Allows (.set beg last sentTime)) :
    Returns (set (seqOf beg) (seqOf last) sentTime regions)
      (s.after (.set beg last sentTime)).RefinedBy := by
  obtain ⟨htiles, hspan, hout⟩ := h
  obtain ⟨hlt, hrange⟩ := hallows
  cases regions with
  | nil =>
    have hempty : s.low = s.high := htiles
    rw [if_neg hempty.not_lt] at hrange
    have hnone : ∀ p, s.times p = [] := fun p => hout p (hempty ▸ lt_or_ge p s.low)
    rw [set,
      assert_bind ((seqLess_seqOf ⟨by linarith, by linarith⟩).mpr hlt)]
    refine .ok ⟨?_, ?_, ?_⟩
    · simp only [after, if_neg hempty.not_lt]
      refine ⟨rfl, last, hlt, rfl, fun p hp hplast => ?_, rfl⟩
      simp only [hp, hplast, hnone p, and_self, if_true]
      exact .single _ _ _
    · simpa only [after, if_neg hempty.not_lt] using hrange
    · simp only [after, if_neg hempty.not_lt]
      intro p hp
      rw [if_neg fun hin => hp.elim hin.1.not_gt hin.2.not_ge, hnone p]
  | cons front regions =>
    have hlast := htiles.getLast (List.cons_ne_nil front regions)
    have hitems := htiles
    obtain ⟨hbeg, next, hnext, _, _, hrest⟩ := htiles
    have hcovered : s.low < s.high := hnext.trans_le hrest.le
    rw [if_pos hcovered] at hrange
    obtain ⟨hlow, hhigh, hend⟩ := hrange
    have hout' : ∀ p, s.high ≤ p → s.times p = [] := fun p hp => hout p (.inr hp)
    rw [set, hlast, hbeg,
      assert_bind ((seqLess_seqOf ⟨by linarith, by linarith⟩).mpr hlt), assert_bind (by
        rw [Bool.and_eq_true, seqLE_seqOf ⟨by linarith, by linarith⟩,
          seqLE_seqOf ⟨by linarith, by linarith⟩]
        exact ⟨hlow, hhigh⟩)]
    have hafter : ∀ {regions'}, Tiles (s.after (.set beg last sentTime)).times (max s.high last)
        s.low regions' → (s.after (.set beg last sentTime)).RefinedBy regions' := by
      intro regions' htiles'
      refine ⟨?_, ?_, ?_⟩
      · simpa only [after, if_pos hcovered] using htiles'
      · simpa only [after, if_pos hcovered, max_lt_iff] using ⟨hspan, hend⟩
      · simp only [after, if_pos hcovered, max_le_iff]
        intro p hp
        rw [if_neg fun hin => hp.elim (fun hp => hp.not_ge (hlow.trans hin.1))
          fun hp => hin.2.not_ge hp.2]
        exact hout p (hp.imp_right And.left)
    have hinj := seqOf_inj (a := s.high) (b := beg) ⟨by linarith, by linarith⟩
    split
    · next heq =>
      obtain rfl : s.high = beg := hinj.mp heq
      refine .ok (hafter ?_)
      rw [max_eq_right hlt.le]
      refine hitems.append hlt (fun p hp => ?_) fun p hp hplast => ?_
      · exact if_neg fun hin => hin.1.not_gt hp
      · simp only [after, hp, hplast, hout' p hp, and_self, if_true]
    · next hne =>
      rw [hinj] at hne
      have hbefore : seqOf last ≠ seqOf s.low := by
        rw [ne_eq, seqOf_inj ⟨by linarith, by linarith⟩]
        exact (hlow.trans_lt hlt).ne'
      rw [if_neg hbefore]
      exact (hitems.setWithin hlow (lt_of_le_of_ne hhigh (Ne.symm hne)) hlt hout' hspan hend
        fun p => rfl).mono fun _ => hafter

theorem clearTo (h : s.RefinedBy regions) (hallows : s.Allows (.clearTo last)) :
    (s.after (.clearTo last)).RefinedBy (clearTo (seqOf last) regions) := by
  obtain ⟨htiles, hspan, hout⟩ := h
  refine ⟨htiles.clearTo hallows fun p hp => if_neg hp.not_gt, ?_, ?_⟩
  · exact max_lt (hspan.trans_le (add_le_add_left (le_max_left _ _) _))
      (lt_of_le_of_lt (le_max_right s.low last) (lt_add_of_pos_right _ (by norm_num)))
  · intro p hp
    rw [after, ite_eq_left_iff, not_lt]
    intro hlast
    refine hout p (hp.imp (fun hlow => ?_) fun hhigh => (le_max_left _ _).trans hhigh)
    exact (lt_max_iff.mp hlow).resolve_right hlast.not_gt

theorem perform (h : s.RefinedBy regions) {call : Call} (hallows : s.Allows call) :
    Returns (perform regions call) (s.after call).RefinedBy := by
  cases call with
  | set beg last sentTime => exact h.set sentTime hallows
  | clearTo endseq => exact .ok (h.clearTo hallows)

theorem run (h : s.RefinedBy regions) {calls : List Call} (hallows : s.AllowsAll calls) :
    Returns (calls.foldlM TCPSegmentTransmitInfoList.perform regions)
      (calls.foldl after s).RefinedBy := by
  induction calls generalizing s regions with
  | nil => exact .pure h
  | cons call calls ih =>
    rw [List.foldlM_cons]
    exact (h.perform hallows.1).bind fun _ hnext => ih hnext hallows.2

/-- The bytes the map has times for are those that the items cover. -/
theorem covered (h : s.RefinedBy regions) {p : ℤ} (htimes : s.times p ≠ []) :
    s.low ≤ p ∧ p < s.high := by
  refine ⟨not_lt.mp fun hlow => ?_, not_le.mp fun hhigh => ?_⟩
  · exact htimes (h.outside p (.inl hlow))
  · exact htimes (h.outside p (.inr hhigh))

end RefinedBy

end Sent

/-- Every run of `set` and `clearTo` keeps the items a tiling of the covered bytes, and `get` finds
for each byte the number of its transmissions and the times of the first and the last. -/
theorem regions_refine {calls : List Call} (h : Sent.empty.AllowsAll calls) :
    ∃ regions, calls.foldlM perform [] = .ok regions ∧
      Tiles (calls.foldl Sent.after .empty).times (calls.foldl Sent.after .empty).high
        (calls.foldl Sent.after .empty).low regions ∧
      (∀ p, (calls.foldl Sent.after .empty).times p ≠ [] →
        ∃ item ∈ regions, get (seqOf p) regions = some item ∧
          item.Describes ((calls.foldl Sent.after .empty).times p)) ∧
      ∀ seq, (∀ p, seqOf p = seq → (calls.foldl Sent.after .empty).times p = []) →
        get seq regions = none := by
  have hempty : Sent.empty.RefinedBy [] := ⟨rfl, by decide, fun _ _ => rfl⟩
  obtain ⟨regions, hrun, hrefined⟩ := hempty.run h
  refine ⟨regions, hrun, hrefined.tiles, fun p hp => ?_, fun seq hseq => ?_⟩
  · obtain ⟨hlow, hhigh⟩ := hrefined.covered hp
    exact (hrefined.tiles.get hrefined.span _).1 p hlow hhigh rfl
  · refine (hrefined.tiles.get hrefined.span seq).2 fun p hlow hhigh heq => ?_
    exact hrefined.tiles.times_ne_nil hlow hhigh (hseq p heq)

/-- A retransmission that splits the first segment, across the wrap of the sequence numbers. -/
theorem regions_refine_wrap : ∃ regions,
    [Call.set 4294967286 4294967306 1, .set 4294967291 4294967316 2,
      .clearTo 4294967289].foldlM perform [] = .ok regions ∧
    ∃ item ∈ regions, get 5 regions = some item ∧ item.Describes [2, 1] := by
  obtain ⟨regions, hrun, _, hget, _⟩ := @regions_refine
    [.set 4294967286 4294967306 1, .set 4294967291 4294967316 2, .clearTo 4294967289] (by
      simp [Sent.AllowsAll, Sent.Allows, Sent.after, Sent.empty, Near])
  refine ⟨regions, hrun, hget 4294967301 ?_⟩
  decide

end inet.tcp.TCPSegmentTransmitInfoList
