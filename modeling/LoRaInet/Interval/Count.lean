import Mathlib.Data.Int.ConditionallyCompleteOrder
import Mathlib.Data.Int.Interval
import Mathlib.Data.List.Infix
import Mathlib.Data.List.Range
import Mathlib.Order.Interval.Finset.Basic
import Mathlib.Order.Interval.Set.Basic
import Mathlib.Tactic.Linarith

namespace interval

section Slice

variable {A : Type} (stream : ℤ → A)

/-- The elements of a stream from one position up to another. -/
def slice (low high : ℤ) : List A :=
  (List.range (high - low).toNat).map fun i : ℕ => stream (low + i)

variable {stream} {low mid high : ℤ}

@[simp] theorem length_slice : (slice stream low high).length = (high - low).toNat := by
  simp [slice]

theorem getElem_slice {i : ℕ} (h : i < (slice stream low high).length) :
    (slice stream low high)[i] = stream (low + i) := by
  simp [slice]

theorem slice_self : slice stream low low = [] := by
  simp [slice]

theorem slice_append (hlow : low ≤ mid) (hhigh : mid ≤ high) :
    slice stream low mid ++ slice stream mid high = slice stream low high := by
  apply List.ext_getElem
  · simp only [List.length_append, length_slice]
    omega
  · intro i h₁ h₂
    rw [length_slice] at h₂
    rw [List.getElem_append]
    split
    · rw [getElem_slice, getElem_slice]
    · next hright =>
      rw [length_slice] at hright
      rw [getElem_slice, getElem_slice, length_slice]
      congr 1
      omega

theorem take_slice {n : ℕ} (h : low + n ≤ high) :
    (slice stream low high).take n = slice stream low (low + n) := by
  have happend := @slice_append _ stream low (low + n) high (by omega) h
  rw [← happend]
  apply List.take_left'
  simp

theorem drop_slice {n : ℕ} (h : low + n ≤ high) :
    (slice stream low high).drop n = slice stream (low + n) high := by
  have happend := @slice_append _ stream low (low + n) high (by omega) h
  rw [← happend]
  apply List.drop_left'
  simp

theorem prefix_slice (hlow : low ≤ mid) (hhigh : mid ≤ high) :
    slice stream low mid <+: slice stream low high :=
  ⟨slice stream mid high, slice_append hlow hhigh⟩

theorem eq_slice_of_agrees {l : List A} (h : ∀ i (hi : i < l.length), l[i] = stream (low + i)) :
    l = slice stream low (low + l.length) := by
  apply List.ext_getElem
  · simp
  · intro i h₁ h₂
    rw [getElem_slice, h i h₁]

end Slice


section Count

variable (P : ℤ → Bool)

/-- How many positions from one up to another have a property. -/
noncomputable def count (low high : ℤ) : ℕ := ((Finset.Ico low high).filter fun p => P p = true).card

variable {P} {low mid high : ℤ}

theorem count_self : count P low low = 0 := by
  simp [count]

theorem count_append (hlow : low ≤ mid) (hhigh : mid ≤ high) :
    count P low high = count P low mid + count P mid high := by
  have hdisjoint : Disjoint ((Finset.Ico low mid).filter fun p => P p = true)
      ((Finset.Ico mid high).filter fun p => P p = true) := by
    rw [Finset.disjoint_left]
    intro p hp hp'
    have hlt := (Finset.mem_Ico.mp (Finset.mem_filter.mp hp).1).2
    have hle := (Finset.mem_Ico.mp (Finset.mem_filter.mp hp').1).1
    omega
  rw [count, count, count, ← Finset.card_union_of_disjoint hdisjoint, ← Finset.filter_union,
    Finset.Ico_union_Ico_eq_Ico hlow hhigh]

theorem count_congr {Q : ℤ → Bool} (h : ∀ p, low ≤ p → p < high → P p = Q p) :
    count P low high = count Q low high := by
  rw [count, count]
  congr 1
  apply Finset.filter_congr
  intro p hp
  obtain ⟨hlow, hhigh⟩ := Finset.mem_Ico.mp hp
  rw [h p hlow hhigh]

theorem count_eq_length (h : ∀ p, low ≤ p → p < high → P p = true) :
    count P low high = (high - low).toNat := by
  rw [count, Finset.filter_true_of_mem, Int.card_Ico]
  intro p hp
  obtain ⟨hlow, hhigh⟩ := Finset.mem_Ico.mp hp
  exact h p hlow hhigh

theorem count_eq_zero (h : ∀ p, low ≤ p → p < high → P p = false) : count P low high = 0 := by
  rw [count, Finset.card_eq_zero, Finset.filter_eq_empty_iff]
  intro p hp
  obtain ⟨hlow, hhigh⟩ := Finset.mem_Ico.mp hp
  simp [h p hlow hhigh]

theorem count_le : count P low high ≤ (high - low).toNat := by
  rw [count, ← Int.card_Ico]
  exact Finset.card_filter_le _ _

/-- A property that is the same at all positions is counted at once. -/
theorem count_eq_of_constant {b : Bool} (h : ∀ p, low ≤ p → p < high → P p = b) :
    count P low high = if b then (high - low).toNat else 0 := by
  cases b with
  | true => simpa using count_eq_length h
  | false => simpa using count_eq_zero h

theorem count_antitone {start : ℤ} (h : start ≤ low) (hhigh : low ≤ high) :
    count P low high ≤ count P start high := by
  rw [count_append h hhigh]
  omega

end Count

section Starts

variable (P : ℤ → Bool)

/-- A position at which a stretch with the property begins, where `prev` says
whether one comes in from below `low`. -/
def isStart (low : ℤ) (prev : Bool) (p : ℤ) : Bool :=
  P p && !(if p = low then prev else P (p - 1))

/-- How many stretches with the property begin. -/
noncomputable def starts (prev : Bool) (low high : ℤ) : ℕ := count (isStart P low prev) low high

variable {P} {low mid high : ℤ} {prev : Bool}

theorem starts_self : starts P prev low low = 0 := count_self

theorem starts_append (hlow : low < mid) (hhigh : mid ≤ high) :
    starts P prev low high = starts P prev low mid + starts P (P (mid - 1)) mid high := by
  rw [starts, count_append hlow.le hhigh, starts, starts]
  congr 1
  apply count_congr
  intro p hp _
  have hne : p ≠ low := by omega
  by_cases hmid : p = mid
  · rw [isStart, isStart, if_neg hne, if_pos hmid, hmid]
  · rw [isStart, isStart, if_neg hne, if_neg hmid]

/-- Where the property is the same at all positions, at most one stretch begins. -/
theorem starts_eq_of_constant {b : Bool} (hlt : low < high)
    (h : ∀ p, low ≤ p → p < high → P p = b) :
    starts P prev low high = if b && !prev then 1 else 0 := by
  have hfirst : count (isStart P low prev) low (low + 1) = if b && !prev then 1 else 0 := by
    have hlow := h low (le_refl _) hlt
    rw [count_eq_of_constant (b := b && !prev) (fun p hp hp' => by
      obtain rfl : p = low := by omega
      simp [isStart, hlow])]
    simp
  have hrest : count (isStart P low prev) (low + 1) high = 0 := by
    apply count_eq_zero
    intro p hp hp'
    have hne : p ≠ low := by omega
    have hhere := h p (by omega) hp'
    have hbefore := h (p - 1) (by omega) (by omega)
    rw [isStart, if_neg hne, hhere, hbefore, Bool.and_not_self]
  rw [starts, count_append (by omega : low ≤ low + 1) (by omega), hfirst, hrest, add_zero]

theorem starts_le : starts P prev low high ≤ (high - low).toNat := count_le

theorem starts_false_le : starts P false low high ≤ starts P true low high + 1 := by
  by_cases hlt : low < high
  · have hfalse := @starts_append P low (low + 1) high false (by omega) (by omega)
    have htrue := @starts_append P low (low + 1) high true (by omega) (by omega)
    have hle : starts P false low (low + 1) ≤ (low + 1 - low).toNat := starts_le
    omega
  · have hle : starts P false low high ≤ (high - low).toNat := starts_le
    omega

theorem eq_false_of_starts_eq_zero (h : starts P false low high = 0) (n : ℕ) :
    low + n < high → P (low + n) = false := by
  have hnone : ∀ p, low ≤ p → p < high → isStart P low false p = false := by
    intro p hp hp'
    rw [starts, count, Finset.card_eq_zero, Finset.filter_eq_empty_iff] at h
    simpa using h (Finset.mem_Ico.mpr ⟨hp, hp'⟩)
  induction n with
  | zero =>
    intro hlt
    have hstart := hnone low (le_refl _) (by omega)
    simpa [isStart] using hstart
  | succ n ih =>
    intro hlt
    have hstart := hnone (low + (n + 1 : ℕ)) (by omega) hlt
    have hbefore := ih (by omega)
    have hprev : low + (n + 1 : ℕ) - 1 = low + n := by omega
    rw [isStart, if_neg (by omega), hprev, hbefore] at hstart
    simpa using hstart

theorem starts_antitone {start : ℤ} (h : start ≤ low) (hhigh : low ≤ high) :
    starts P false low high ≤ starts P false start high := by
  by_cases heq : start = low
  · rw [heq]
  · have hlt : start < low := by omega
    rw [starts_append hlt hhigh]
    cases hprev : P (low - 1) with
    | false => omega
    | true =>
      -- the stretch that goes on at `low` has begun before it
      have hsome : 0 < starts P false start low := by
        by_contra hzero
        have hnone := eq_false_of_starts_eq_zero (Nat.eq_zero_of_not_pos hzero)
          (low - 1 - start).toNat (by omega)
        have hlast : start + (low - 1 - start).toNat = low - 1 := by omega
        rw [hlast, hprev] at hnone
        cases hnone
      have hle : starts P false low high ≤ starts P true low high + 1 := starts_false_le
      omega

end Starts

end interval
