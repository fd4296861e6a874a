import LoRaInet.Interval.Partition
import Mathlib.Data.Set.Insert
import Mathlib.Tactic.Linarith

open interval

namespace inet

/-- The conversion of an offset to `ushort`. -/
def ushort (offset : ℕ) : ℕ := offset % 65536

namespace ReassemblyBuffer

structure Region where
  beg : ℕ
  endOffset : ℕ
  islast : Bool
  deriving DecidableEq

end ReassemblyBuffer

/-- Without a vector of fragments, `fragments` is empty. -/
structure ReassemblyBuffer where
  main : ReassemblyBuffer.Region
  fragments : List ReassemblyBuffer.Region

namespace ReassemblyBuffer

def new : ReassemblyBuffer where
  main := { beg := 0, endOffset := 0, islast := false }
  fragments := []

/-- One round over the fragments, and whether it deleted one. -/
def mergePass : Region → List Region → Region × List Region × Bool
  | main, [] => (main, [], false)
  | main, frag :: rest =>
    if main.endOffset = frag.beg then
      let (main, rest, _) := mergePass
        { main with endOffset := frag.endOffset, islast := main.islast || frag.islast } rest
      (main, rest, true)
    else if main.beg = frag.endOffset then
      let (main, rest, _) := mergePass { main with beg := frag.beg } rest
      (main, rest, true)
    else if main.beg ≤ frag.beg ∧ main.endOffset ≥ frag.endOffset then
      let (main, rest, _) := mergePass main rest
      (main, rest, true)
    else
      let (main, rest, oncemore) := mergePass main rest
      (main, frag :: rest, oncemore)

/-- The rounds, as many as there can be: each but the last deletes a fragment. -/
def mergeRounds : ℕ → Region → List Region → ReassemblyBuffer
  | 0, main, fragments => ⟨main, fragments⟩
  | fuel + 1, main, fragments =>
    let (main, fragments, oncemore) := mergePass main fragments
    if oncemore then mergeRounds fuel main fragments else ⟨main, fragments⟩

variable (b : ReassemblyBuffer)

def mergeFragments : ReassemblyBuffer :=
  mergeRounds (b.fragments.length + 1) b.main b.fragments

def merge (b : ReassemblyBuffer) (beg endOffset : ℕ) (islast : Bool) : ReassemblyBuffer :=
  if b.main.endOffset = beg then
    { b with main := { b.main with endOffset, islast := b.main.islast || islast } }.mergeFragments
  else if b.main.beg = endOffset then
    { b with main := { b.main with beg } }.mergeFragments
  else if b.main.endOffset < beg ∨ b.main.beg > endOffset then
    { b with fragments := b.fragments ++ [{ beg, endOffset, islast }] }
  else b

def addFragment (beg endOffset : ℕ) (islast : Bool) : ReassemblyBuffer × Bool :=
  let b := b.merge (ushort beg) (ushort endOffset) islast
  (b, decide (b.main.beg = 0) && b.main.islast)

def getTotalLength : ℕ := b.main.endOffset

/-- The fragments that a datagram of this length was cut into. -/
structure Pieces (pieces : List Region) (length : ℕ) : Prop where
  partition : Partition Region.beg Region.endOffset 0 pieces length
  islast : ∀ r ∈ pieces, r.islast = true ↔ r.endOffset = length

/-- The bytes from the first one up to a cut. -/
structure Front (pieces : List Region) (length : ℕ) (main : Region) : Prop where
  beg_eq : main.beg = 0
  cut : IsCut Region.endOffset 0 pieces main.endOffset
  islast : main.islast = true ↔ main.endOffset = length

section Merge

variable {pieces fragments : List Region} {length : ℕ} {main frag r : Region}

theorem Pieces.lt (h : Pieces pieces length) (hr : r ∈ pieces) : r.beg < r.endOffset :=
  (h.partition.bounds hr).2.1

/-- A piece that ends by the end of the next one is either that one or in front of it. -/
theorem Pieces.endOffset_le_iff (h : Pieces pieces length) (hfrag : frag ∈ pieces)
    (hr : r ∈ pieces) : r.endOffset ≤ frag.endOffset ↔ r.endOffset ≤ frag.beg ∨ r = frag := by
  have hrlt := h.lt hr
  have hlt := h.lt hfrag
  constructor
  · intro hle
    by_cases hbefore : r.endOffset ≤ frag.beg
    · exact .inl hbefore
    · rcases le_total frag.beg r.beg with hbeg | hbeg
      · exact .inr (h.partition.eq_of_mem hr hfrag ⟨le_refl r.beg, hrlt⟩ ⟨hbeg, by omega⟩)
      · exact .inr (h.partition.eq_of_mem hr hfrag ⟨hbeg, by omega⟩ ⟨le_refl frag.beg, hlt⟩)
  · rintro (hle | rfl)
    · omega
    · exact le_refl _

theorem Front.extend (hpieces : Pieces pieces length) (h : Front pieces length main)
    (hfrag : frag ∈ pieces) (hnext : main.endOffset = frag.beg) :
    Front pieces length
      { main with endOffset := frag.endOffset, islast := main.islast || frag.islast } where
  beg_eq := h.beg_eq
  cut := .inr ⟨frag, hfrag, rfl⟩
  islast := by
    have hlt := hpieces.lt hfrag
    have hle := (hpieces.partition.bounds hfrag).2.2
    rw [Bool.or_eq_true, h.islast, hpieces.islast frag hfrag]
    constructor
    · rintro (heq | heq)
      · omega
      · exact heq
    · exact .inr

/-- What one round keeps: the bytes in the front and in the fragments are the same. -/
structure Passed (pieces : List Region) (length : ℕ) (main : Region) (fragments : List Region)
    (result : Region × List Region × Bool) : Prop where
  front : Front pieces length result.1
  subset : ∀ r ∈ result.2.1, r ∈ fragments
  same : ∀ r ∈ pieces, (r.endOffset ≤ result.1.endOffset ∨ r ∈ result.2.1) ↔
    (r.endOffset ≤ main.endOffset ∨ r ∈ fragments)
  oncemore : result.2.2 = true → result.2.1.length < fragments.length
  finished : result.2.2 = false → result.1 = main ∧ ∀ r ∈ result.2.1, main.endOffset < r.beg
  length_le : result.2.1.length ≤ fragments.length

theorem passed (hpieces : Pieces pieces length) (hmain : Front pieces length main)
    (hfragments : ∀ r ∈ fragments, r ∈ pieces) :
    Passed pieces length main fragments (mergePass main fragments) := by
  induction fragments generalizing main with
  | nil =>
    exact ⟨hmain, fun r hr => hr, fun r _ => Iff.rfl, fun h => (by cases h),
      fun _ => ⟨rfl, fun r hr => (by cases hr)⟩, le_refl _⟩
  | cons frag rest ih =>
    have hfrag := hfragments frag (.head _)
    have hrest : ∀ r ∈ rest, r ∈ pieces := fun r hr => hfragments r (List.mem_cons_of_mem frag hr)
    have hlt := hpieces.lt hfrag
    have hbeg := hmain.beg_eq
    rw [mergePass]
    by_cases hnext : main.endOffset = frag.beg
    · rw [if_pos hnext]
      obtain ⟨hfront, hsubset, hsame, -, -, hlength⟩ := ih (hmain.extend hpieces hfrag hnext) hrest
      refine ⟨hfront, fun r hr => List.mem_cons_of_mem frag (hsubset r hr), fun r hr => ?_,
        fun _ => Nat.lt_succ_of_le hlength, fun h => (by cases h), Nat.le_succ_of_le hlength⟩
      dsimp only at hsame ⊢
      rw [hsame r hr, hpieces.endOffset_le_iff hfrag hr, hnext, List.mem_cons, or_assoc]
    · rw [if_neg hnext, if_neg (by omega)]
      by_cases hinside : main.beg ≤ frag.beg ∧ main.endOffset ≥ frag.endOffset
      · rw [if_pos hinside]
        obtain ⟨hfront, hsubset, hsame, -, -, hlength⟩ := ih hmain hrest
        refine ⟨hfront, fun r hr => List.mem_cons_of_mem frag (hsubset r hr), fun r hr => ?_,
          fun _ => Nat.lt_succ_of_le hlength, fun h => (by cases h), Nat.le_succ_of_le hlength⟩
        dsimp only at hsame ⊢
        rw [hsame r hr, List.mem_cons]
        constructor
        · exact fun h => h.imp id .inr
        · rintro (hle | rfl | hmem)
          · exact .inl hle
          · exact .inl hinside.2
          · exact .inr hmem
      · rw [if_neg hinside]
        obtain ⟨hfront, hsubset, hsame, honcemore, hfinished, hlength⟩ := ih hmain hrest
        refine ⟨hfront, fun r hr => ?_, fun r hr => ?_, fun h => Nat.succ_lt_succ (honcemore h),
          fun h => ?_, Nat.succ_le_succ hlength⟩
        · rcases List.mem_cons.mp hr with rfl | hr
          · exact (.head _)
          · exact List.mem_cons_of_mem frag (hsubset r hr)
        · have hiff := hsame r hr
          rw [List.mem_cons, List.mem_cons, or_left_comm, hiff, or_left_comm]
        · obtain ⟨hsameMain, hbeyond⟩ := hfinished h
          refine ⟨hsameMain, fun r hr => ?_⟩
          rcases List.mem_cons.mp hr with rfl | hr
          · rcases hpieces.partition.le_or_le hmain.cut hfrag with hle | hle
            · omega
            · exact absurd ⟨by omega, hle⟩ hinside
          · exact hbeyond r hr

end Merge

theorem Pieces.covered_iff {pieces : List Region} {length : ℕ} (h : Pieces pieces length)
    {received : Set Region} (hsub : ∀ r ∈ received, r ∈ pieces) :
    {x | ∃ r ∈ received, r.beg ≤ x ∧ x < r.endOffset} = Set.Ico 0 length ↔
      ∀ r ∈ pieces, r ∈ received := by
  constructor
  · intro hcovered r hr
    obtain ⟨-, hlt, hle⟩ := h.partition.bounds hr
    have hmem : r.beg ∈ {x | ∃ r ∈ received, r.beg ≤ x ∧ x < r.endOffset} := by
      rw [hcovered]
      exact ⟨Nat.zero_le _, hlt.trans_le hle⟩
    obtain ⟨r', hr', hbounds⟩ := hmem
    have heq := h.partition.eq_of_mem (hsub r' hr') hr hbounds ⟨le_refl _, hlt⟩
    exact heq ▸ hr'
  · intro hall
    ext x
    constructor
    · rintro ⟨r, hr, -, hlt⟩
      exact ⟨Nat.zero_le _, hlt.trans_le (h.partition.bounds (hsub r hr)).2.2⟩
    · rintro ⟨-, hlt⟩
      obtain ⟨r, hr, hbounds⟩ := h.partition.exists_mem (Nat.zero_le x) hlt
      exact ⟨r, hall r hr, hbounds⟩

/-- The buffer has the pieces that were received: those in the front, and the
fragments beyond a gap. -/
structure Holds (pieces : List Region) (length : ℕ) (received : Set Region)
    (b : ReassemblyBuffer) : Prop where
  front : Front pieces length b.main
  subset : ∀ r ∈ b.fragments, r ∈ pieces
  beyond : ∀ r ∈ b.fragments, b.main.endOffset < r.beg
  received : ∀ r ∈ pieces, r ∈ received ↔ (r.endOffset ≤ b.main.endOffset ∨ r ∈ b.fragments)

section Holds

variable {pieces fragments : List Region} {length : ℕ} {received : Set Region} {main r : Region}
  {b : ReassemblyBuffer}

theorem holds_new (hpieces : Pieces pieces length) (hlength : 0 < length) :
    Holds pieces length ∅ new where
  front := ⟨rfl, .inl rfl, by simp [new]; omega⟩
  subset := fun r hr => by cases hr
  beyond := fun r hr => by cases hr
  received := fun r hr => by
    have hlt := hpieces.lt hr
    simp [new]
    omega

theorem holds_mergeRounds (hpieces : Pieces pieces length) {fuel : ℕ}
    (hfuel : fragments.length < fuel) (hmain : Front pieces length main)
    (hfragments : ∀ r ∈ fragments, r ∈ pieces)
    (hreceived : ∀ r ∈ pieces, r ∈ received ↔ (r.endOffset ≤ main.endOffset ∨ r ∈ fragments)) :
    Holds pieces length received (mergeRounds fuel main fragments) := by
  induction fuel generalizing main fragments with
  | zero => omega
  | succ fuel ih =>
    obtain ⟨hfront, hsubset, hsame, honcemore, hfinished, -⟩ := passed hpieces hmain hfragments
    rw [mergeRounds]
    generalize mergePass main fragments = result at *
    obtain ⟨main', fragments', oncemore⟩ := result
    have hpieces' : ∀ r ∈ fragments', r ∈ pieces := fun r hr => hfragments r (hsubset r hr)
    have hreceived' : ∀ r ∈ pieces, r ∈ received ↔
        (r.endOffset ≤ main'.endOffset ∨ r ∈ fragments') :=
      fun r hr => (hreceived r hr).trans (hsame r hr).symm
    cases oncemore with
    | true =>
      have hless : fragments'.length < fragments.length := honcemore rfl
      exact ih (by omega) hfront hpieces' hreceived'
    | false =>
      obtain ⟨hmain', hbeyond⟩ := hfinished rfl
      dsimp only at hmain'
      exact ⟨hfront, hpieces', hmain' ▸ hbeyond, hreceived'⟩

theorem Holds.merge (hpieces : Pieces pieces length) (h : Holds pieces length received b)
    (hr : r ∈ pieces) :
    Holds pieces length (insert r received) (b.merge r.beg r.endOffset r.islast) := by
  have hlt := hpieces.lt hr
  have hbeg := h.front.beg_eq
  rw [ReassemblyBuffer.merge]
  by_cases hnext : b.main.endOffset = r.beg
  · rw [if_pos hnext, mergeFragments]
    apply holds_mergeRounds hpieces (Nat.lt_succ_self _) (h.front.extend hpieces hr hnext) h.subset
    intro x hx
    rw [Set.mem_insert_iff, h.received x hx, hpieces.endOffset_le_iff hr hx, hnext, or_left_comm,
      or_assoc]
  · rw [if_neg hnext, if_neg (by omega)]
    rcases hpieces.partition.le_or_le h.front.cut hr with hle | hle
    · rw [if_pos (.inl (lt_of_le_of_ne hle hnext))]
      refine ⟨h.front, fun x hx => ?_, fun x hx => ?_, fun x hx => ?_⟩
      · rcases List.mem_append.mp hx with hx | hx
        · exact h.subset x hx
        · rw [List.mem_singleton.mp hx]
          exact hr
      · rcases List.mem_append.mp hx with hx | hx
        · exact h.beyond x hx
        · rw [List.mem_singleton.mp hx]
          exact lt_of_le_of_ne hle hnext
      · have hsingle : (⟨r.beg, r.endOffset, r.islast⟩ : Region) = r := rfl
        rw [Set.mem_insert_iff, h.received x hx, List.mem_append, List.mem_singleton, hsingle,
          or_comm, or_assoc]
    · rw [if_neg (by omega)]
      refine ⟨h.front, h.subset, h.beyond, fun x hx => ?_⟩
      rw [Set.mem_insert_iff, h.received x hx]
      constructor
      · rintro (rfl | hmem)
        · exact .inl hle
        · exact hmem
      · exact .inr

/-- All pieces are there when the front is as long as the datagram. -/
theorem Holds.complete_iff (hpieces : Pieces pieces length) (h : Holds pieces length received b) :
    b.main.endOffset = length ↔ ∀ r ∈ pieces, r ∈ received := by
  constructor
  · intro heq r hr
    rw [h.received r hr, heq]
    exact .inl (hpieces.partition.bounds hr).2.2
  · intro hall
    by_contra hne
    have hle : b.main.endOffset ≤ length := by
      rcases h.front.cut with hzero | ⟨a, ha, hend⟩
      · omega
      · rw [← hend]
        exact (hpieces.partition.bounds ha).2.2
    obtain ⟨a, ha, hfirst⟩ := hpieces.partition.exists_first h.front.cut (lt_of_le_of_ne hle hne)
    have hlt := hpieces.lt ha
    rcases (h.received a ha).mp (hall a ha) with hend | hmem
    · omega
    · have hbeyond := h.beyond a hmem
      omega

theorem Holds.addFragment (hpieces : Pieces pieces length) (hlength : length < 65536)
    (h : Holds pieces length received b) (hr : r ∈ pieces) :
    Holds pieces length (insert r received) (b.addFragment r.beg r.endOffset r.islast).1 ∧
    ((b.addFragment r.beg r.endOffset r.islast).2 = true ↔ ∀ x ∈ pieces, x ∈ insert r received) ∧
    ((b.addFragment r.beg r.endOffset r.islast).2 = true →
      (b.addFragment r.beg r.endOffset r.islast).1.getTotalLength = length) := by
  obtain ⟨-, hlt, hle⟩ := hpieces.partition.bounds hr
  have hbeg : ushort r.beg = r.beg := Nat.mod_eq_of_lt (by omega)
  have hend : ushort r.endOffset = r.endOffset := Nat.mod_eq_of_lt (by omega)
  have hmerge := h.merge hpieces hr
  have hislast : ((b.addFragment r.beg r.endOffset r.islast).2 = true) ↔
      (b.merge r.beg r.endOffset r.islast).main.endOffset = length := by
    rw [ReassemblyBuffer.addFragment, hbeg, hend, Bool.and_eq_true, ← hmerge.front.islast]
    exact and_iff_right (decide_eq_true hmerge.front.beg_eq)
  refine ⟨?_, hislast.trans (hmerge.complete_iff hpieces), fun hcomplete => ?_⟩
  · rw [ReassemblyBuffer.addFragment, hbeg, hend]
    exact hmerge
  · rw [ReassemblyBuffer.addFragment, hbeg, hend]
    exact hislast.mp hcomplete

end Holds

end ReassemblyBuffer

end inet
