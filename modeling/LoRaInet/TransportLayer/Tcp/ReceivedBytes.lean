import LoRaInet.Interval.Block
import LoRaInet.TransportLayer.Tcp.TCPSegment
import Mathlib.Data.Int.ConditionallyCompleteOrder

open interval

namespace inet.tcp

/-- What a receive queue is for: the positions of the bytes that have arrived, and
the first position that has not been handed on. -/
structure ReceivedBytes where
  start : ℤ
  received : Set ℤ
  first : ℤ

namespace ReceivedBytes

variable (start : ℤ)

def init : ReceivedBytes where
  start := start
  received := ∅
  first := start

def missing (r : ReceivedBytes) : Set ℤ := {p | r.start ≤ p ∧ p ∉ r.received}

/-- The first byte that has never arrived. -/
noncomputable def next (r : ReceivedBytes) : ℤ := sInf r.missing

def buffered (r : ReceivedBytes) : Set ℤ := {p ∈ r.received | r.first ≤ p}

def insert (r : ReceivedBytes) (b : Block ℤ) : ReceivedBytes :=
  { r with received := b.toSet ∪ r.received }

def extract (r : ReceivedBytes) (stop : ℤ) : ReceivedBytes := { r with first := max r.first stop }

/-- Bytes arrive within a window above the first byte that has not been handed
on, and only what has arrived without a gap is handed on. -/
structure WellFormed (r : ReceivedBytes) : Prop where
  start_le : r.start ≤ r.first
  prefix_received : Set.Ico r.start r.first ⊆ r.received
  start_le_received : ∀ p ∈ r.received, r.start ≤ p
  received_lt : ∀ p ∈ r.received, p + 1 < r.first + 2 ^ 31

variable {r : ReceivedBytes}

@[simp] theorem first_init : (init start).first = start := rfl

@[simp] theorem received_init : (init start).received = ∅ := rfl

@[simp] theorem buffered_init : (init start).buffered = ∅ := by
  simp [buffered, init]

@[simp] theorem first_insert (b : Block ℤ) : (r.insert b).first = r.first := rfl

@[simp] theorem received_insert (b : Block ℤ) : (r.insert b).received = b.toSet ∪ r.received := rfl

@[simp] theorem missing_extract (stop : ℤ) : (r.extract stop).missing = r.missing := rfl

@[simp] theorem next_extract (stop : ℤ) : (r.extract stop).next = r.next := rfl

theorem buffered_insert {b : Block ℤ} (h : r.first ≤ b.low) :
    (r.insert b).buffered = b.toSet ∪ r.buffered := by
  ext p
  simp only [buffered, insert, Set.mem_union, Set.mem_ofPred_eq, Block.mem_toSet]
  constructor
  · rintro ⟨hb | hr, hfirst⟩
    · exact .inl hb
    · exact .inr ⟨hr, hfirst⟩
  · rintro (hb | ⟨hr, hfirst⟩)
    · exact ⟨.inl hb, h.trans hb.1⟩
    · exact ⟨.inr hr, hfirst⟩

theorem buffered_extract (stop : ℤ) :
    (r.extract stop).buffered = {p ∈ r.buffered | max r.first stop ≤ p} := by
  ext p
  simp only [buffered, extract, Set.mem_ofPred_eq]
  constructor
  · exact fun h => ⟨⟨h.1, (le_max_left _ _).trans h.2⟩, h.2⟩
  · exact fun h => ⟨h.1.1, h.2⟩

theorem WellFormed.init (start : ℤ) : (ReceivedBytes.init start).WellFormed := by
  constructor <;> simp [ReceivedBytes.init]

section

variable (h : r.WellFormed)
include h

theorem WellFormed.insert {b : Block ℤ} (hlow : r.first ≤ b.low)
    (hhigh : b.high < r.first + 2 ^ 31) : (r.insert b).WellFormed where
  start_le := h.start_le
  prefix_received := fun _ hp => .inr (h.prefix_received hp)
  start_le_received := by
    rintro p (hp | hp)
    · exact (h.start_le.trans hlow).trans hp.1
    · exact h.start_le_received p hp
  received_lt := by
    rintro p (hp | hp)
    · have hlt := hp.2
      rw [first_insert]
      omega
    · exact h.received_lt p hp

theorem WellFormed.isLeast_next : IsLeast r.missing r.next := by
  have hbelow : BddBelow r.missing := ⟨r.start, fun p hp => hp.1⟩
  have hmissing : r.first + 2 ^ 31 ∈ r.missing := by
    refine ⟨by linarith [h.start_le], fun hp => ?_⟩
    have hlt := h.received_lt _ hp
    omega
  exact ⟨Int.csInf_mem ⟨_, hmissing⟩ hbelow, fun p hp => csInf_le hbelow hp⟩

theorem WellFormed.next_notMem : r.next ∉ r.received :=
  h.isLeast_next.1.2

theorem WellFormed.start_le_next : r.start ≤ r.next :=
  h.isLeast_next.1.1

theorem WellFormed.mem_received {p : ℤ} (hstart : r.start ≤ p)
    (hp : p < r.next) : p ∈ r.received := by
  by_contra hnot
  exact absurd (h.isLeast_next.2 ⟨hstart, hnot⟩) (not_le_of_gt hp)

theorem WellFormed.first_le_next : r.first ≤ r.next := by
  by_contra hnot
  exact h.next_notMem (h.prefix_received ⟨h.start_le_next, not_le.mp hnot⟩)

theorem WellFormed.next_lt : r.next < r.first + 2 ^ 31 := by
  by_contra hnot
  have hmem : r.next - 1 ∈ r.received := by
    apply h.mem_received
    · have hle := h.start_le
      omega
    · omega
  have hlt := h.received_lt _ hmem
  omega

theorem WellFormed.extract {stop : ℤ} (hstop : stop ≤ r.next) : (r.extract stop).WellFormed where
  start_le := h.start_le.trans (le_max_left _ _)
  prefix_received := by
    intro p hp
    apply h.mem_received hp.1
    exact hp.2.trans_le (max_le h.first_le_next hstop)
  start_le_received := h.start_le_received
  received_lt := by
    intro p hp
    have hlt := h.received_lt p hp
    have hle : r.first ≤ (r.extract stop).first := le_max_left _ _
    omega

/-- What is buffered below the first missing byte is there without a gap. -/
theorem WellFormed.Ico_subset_buffered : Set.Ico r.first r.next ⊆ r.buffered :=
  fun _ hp => ⟨h.mem_received (h.start_le.trans hp.1) hp.2, hp.1⟩

/-- The first missing byte, from where the arrivals without a gap end. -/
theorem next_eq {n : ℤ} (hstart : r.start ≤ n) (hnot : n ∉ r.received)
    (hall : Set.Ico r.start n ⊆ r.received) : r.next = n := by
  apply h.isLeast_next.unique
  refine ⟨⟨hstart, hnot⟩, fun p hp => ?_⟩
  by_contra hlt
  exact hp.2 (hall ⟨hp.1, not_le.mp hlt⟩)

theorem WellFormed.next_le_next_insert {b : Block ℤ} (hlow : r.first ≤ b.low)
    (hhigh : b.high < r.first + 2 ^ 31) : r.next ≤ (r.insert b).next := by
  apply h.isLeast_next.2
  have hinsert := (h.insert hlow hhigh).isLeast_next.1
  exact ⟨hinsert.1, fun hp => hinsert.2 (.inr hp)⟩

end

end ReceivedBytes

end inet.tcp
