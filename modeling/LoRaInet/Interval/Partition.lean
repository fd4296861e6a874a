import Mathlib.Data.List.Basic
import Mathlib.Order.Interval.Set.LinearOrder

namespace interval

section Partition

variable {A B : Type} [LinearOrder B] (first last : A → B)

/-- The pieces follow each other without a gap, and none is empty. -/
def Partition : B → List A → B → Prop
  | low, [], high => low = high
  | low, a :: rest, high => first a = low ∧ low < last a ∧ Partition (last a) rest high

/-- Where a piece ends, or where all of them begin. -/
def IsCut (low : B) (pieces : List A) (x : B) : Prop := x = low ∨ ∃ a ∈ pieces, last a = x

variable {first last} {low mid high x : B} {pieces more : List A} {a b : A}

theorem Partition.le (h : Partition first last low pieces high) : low ≤ high := by
  induction pieces generalizing low with
  | nil => exact le_of_eq h
  | cons a rest ih =>
    obtain ⟨-, hlt, hrest⟩ := h
    exact hlt.le.trans (ih hrest)

theorem Partition.append (h : Partition first last low pieces mid)
    (hmore : Partition first last mid more high) :
    Partition first last low (pieces ++ more) high := by
  induction pieces generalizing low with
  | nil =>
    obtain rfl : low = mid := h
    exact hmore
  | cons a rest ih =>
    obtain ⟨hfirst, hlt, hrest⟩ := h
    exact ⟨hfirst, hlt, ih hrest⟩

theorem Partition.flatMap (h : Partition first last low pieces high) {f : A → List A}
    (hf : ∀ a ∈ pieces, Partition first last (first a) (f a) (last a)) :
    Partition first last low (pieces.flatMap f) high := by
  induction pieces generalizing low with
  | nil => exact h
  | cons a rest ih =>
    obtain ⟨hfirst, -, hrest⟩ := h
    rw [List.flatMap_cons]
    have hhead := hf a (.head _)
    rw [hfirst] at hhead
    exact hhead.append (ih hrest fun b hb => hf b (List.mem_cons_of_mem a hb))

theorem partition_map {C : Type} {f : C → A} {l : List C} :
    Partition first last low (l.map f) high ↔
      Partition (fun c => first (f c)) (fun c => last (f c)) low l high := by
  induction l generalizing low with
  | nil => exact Iff.rfl
  | cons c rest ih => exact and_congr_right fun _ => and_congr_right fun _ => ih

section

variable (h : Partition first last low pieces high)
include h

theorem Partition.bounds (ha : a ∈ pieces) : low ≤ first a ∧ first a < last a ∧ last a ≤ high := by
  induction pieces generalizing low with
  | nil => cases ha
  | cons b rest ih =>
    obtain ⟨hfirst, hlt, hrest⟩ := h
    rcases List.mem_cons.mp ha with rfl | ha
    · exact ⟨le_of_eq hfirst.symm, hfirst ▸ hlt, hrest.le⟩
    · obtain ⟨hlow, hbetween, hhigh⟩ := ih hrest ha
      exact ⟨hlt.le.trans hlow, hbetween, hhigh⟩

theorem Partition.exists_mem (hlow : low ≤ x)
    (hhigh : x < high) : ∃ a ∈ pieces, first a ≤ x ∧ x < last a := by
  induction pieces generalizing low with
  | nil =>
    obtain rfl : low = high := h
    exact absurd hlow (not_le_of_gt hhigh)
  | cons b rest ih =>
    obtain ⟨hfirst, hlt, hrest⟩ := h
    by_cases hinside : x < last b
    · exact ⟨b, (.head _), le_of_eq_of_le hfirst hlow, hinside⟩
    · obtain ⟨a, ha, hbounds⟩ := ih hrest (not_lt.mp hinside)
      exact ⟨a, List.mem_cons_of_mem b ha, hbounds⟩

theorem Partition.eq_of_mem (ha : a ∈ pieces)
    (hb : b ∈ pieces) (hxa : first a ≤ x ∧ x < last a) (hxb : first b ≤ x ∧ x < last b) : a = b := by
  induction pieces generalizing low with
  | nil => cases ha
  | cons c rest ih =>
    obtain ⟨-, -, hrest⟩ := h
    rcases List.mem_cons.mp ha with rfl | ha' <;> rcases List.mem_cons.mp hb with rfl | hb'
    · rfl
    · exact absurd (hrest.bounds hb').1 (not_le_of_gt (hxb.1.trans_lt hxa.2))
    · exact absurd (hrest.bounds ha').1 (not_le_of_gt (hxa.1.trans_lt hxb.2))
    · exact ih hrest ha' hb'

theorem Partition.le_or_le
    (hx : IsCut last low pieces x) (ha : a ∈ pieces) : x ≤ first a ∨ last a ≤ x := by
  by_contra hnot
  push Not at hnot
  obtain ⟨hfirst, hlast⟩ := hnot
  rcases hx with rfl | ⟨b, hb, rfl⟩
  · exact absurd (h.bounds ha).1 (not_le_of_gt hfirst)
  · -- the piece that ends at the cut would share a point with this one
    have hb' := h.bounds hb
    rcases le_total (first a) (first b) with hle | hle
    · have heq := h.eq_of_mem ha hb ⟨hle, hb'.2.1.trans hlast⟩ ⟨le_refl _, hb'.2.1⟩
      rw [heq] at hlast
      exact absurd hlast (lt_irrefl _)
    · have ha' := h.bounds ha
      have heq := h.eq_of_mem ha hb ⟨le_refl _, ha'.2.1⟩ ⟨hle, hfirst⟩
      rw [heq] at hlast
      exact absurd hlast (lt_irrefl _)

theorem Partition.exists_first
    (hx : IsCut last low pieces x) (hhigh : x < high) : ∃ a ∈ pieces, first a = x := by
  have hlow : low ≤ x := by
    rcases hx with rfl | ⟨b, hb, rfl⟩
    · exact le_refl _
    · exact (h.bounds hb).1.trans (h.bounds hb).2.1.le
  obtain ⟨a, ha, hle, hlt⟩ := h.exists_mem hlow hhigh
  rcases h.le_or_le hx ha with hle' | hle'
  · exact ⟨a, ha, le_antisymm hle hle'⟩
  · exact absurd hlt (not_lt_of_ge hle')

end

end Partition

end interval
