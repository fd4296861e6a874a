import Mathlib.Data.List.MinMax
import Mathlib.Data.List.Basic
import Mathlib.Data.Int.Cast.Basic

namespace container

variable {A S : Type}

/-- `do { i = (i + 1) % n; body } while (more)`, for so many rounds at most. -/
def scan (n : ℕ) (body : A → ℕ → A) (more : A → ℕ → Bool) : ℕ → ℤ → A → Option A
  | 0, _, _ => none
  | rounds + 1, i, a =>
    let next := ((i + 1) % n).toNat
    if more (body a next) next then scan n body more rounds next (body a next)
    else some (body a next)

/-- A loop over a list that is left as soon as it is done. -/
def foldUntil (done : A → Bool) (body : A → ℕ → A) : List ℕ → A → A
  | [], a => a
  | i :: rest, a => if done (body a i) then body a i else foldUntil done body rest (body a i)

/-- The places after `last`, and `last` as the end of the round. -/
def circle (n last : ℕ) : List ℕ := (List.range n).map fun i => (last + 1 + i) % n

theorem mem_circle {n last i : ℕ} (hlast : last < n) : i ∈ circle n last ↔ i < n := by
  constructor
  · intro hi
    obtain ⟨j, -, rfl⟩ := List.mem_map.mp hi
    exact Nat.mod_lt _ (by omega)
  · intro hi
    apply List.mem_map.mpr
    by_cases hlt : last < i
    · refine ⟨i - (last + 1), List.mem_range.mpr (by omega), ?_⟩
      have heq : last + 1 + (i - (last + 1)) = i := by omega
      rw [heq, Nat.mod_eq_of_lt hi]
    · refine ⟨i + n - (last + 1), List.mem_range.mpr (by omega), ?_⟩
      have heq : last + 1 + (i + n - (last + 1)) = i + n := by omega
      rw [heq, Nat.add_mod_right, Nat.mod_eq_of_lt hi]

theorem circle_step_eq_last_iff {n last j : ℕ} (hlast : last < n) (hj : j < n) :
    (last + 1 + j) % n = last ↔ j + 1 = n := by
  by_cases hlt : last + 1 + j < n
  · rw [Nat.mod_eq_of_lt hlt]
    omega
  · have hsub : (last + 1 + j) % n = last + 1 + j - n := by
      rw [Nat.mod_eq_sub_mod (by omega), Nat.mod_eq_of_lt (by omega)]
    omega

theorem toNat_circle_step (n last j : ℕ) :
    (((((last + j) % n : ℕ) : ℤ) + 1) % n).toNat = (last + 1 + j) % n := by
  have hcast : (((last + j) % n : ℕ) : ℤ) + 1 = (((last + j) % n + 1 : ℕ) : ℤ) := by push_cast; rfl
  rw [hcast, ← Int.natCast_emod, Int.toNat_natCast, Nat.mod_add_mod, Nat.add_right_comm]

/-- A scan that starts and ends at `last` goes round once, until it is done. -/
theorem scan_circle {n last : ℕ} {body : A → ℕ → A} {more : A → ℕ → Bool} {done : A → Bool}
    {Inv : A → Prop} (hlast : last < n)
    (hmore : ∀ a i, Inv a → (more (body a i) i = true ↔ done (body a i) = false ∧ i ≠ last))
    (hkeep : ∀ a i, Inv a → done (body a i) = false → Inv (body a i)) {a : A} (ha : Inv a) :
    scan n body more n last a = some (foldUntil done body (circle n last) a) := by
  -- The rounds that are left, and the place where the last one ended.
  have hfrom : ∀ k j a, j + (k + 1) = n → Inv a →
      scan n body more (k + 1) (((last + j) % n : ℕ) : ℤ) a = some (foldUntil done body
          ((List.range' j (k + 1)).map fun i => (last + 1 + i) % n) a) := by
    intro k
    induction k with
    | zero =>
      intro j a hj ha
      have hstop : more (body a ((last + 1 + j) % n)) ((last + 1 + j) % n) = false := by
        rw [← Bool.not_eq_true, hmore _ _ ha]
        exact fun h => h.2 ((circle_step_eq_last_iff hlast (by omega)).mpr (by omega))
      rw [scan, toNat_circle_step]
      simp [hstop, foldUntil]
    | succ k ih =>
      intro j a hj ha
      have hne : (last + 1 + j) % n ≠ last := by
        rw [Ne, circle_step_eq_last_iff hlast (by omega)]
        omega
      rw [scan, toNat_circle_step, List.range'_succ, List.map_cons, foldUntil]
      cases hdone : done (body a ((last + 1 + j) % n)) with
      | true =>
        have hstop : more (body a ((last + 1 + j) % n)) ((last + 1 + j) % n) = false := by
          rw [← Bool.not_eq_true, hmore _ _ ha, hdone]
          simp
        simp [hstop]
      | false =>
        have hgo : more (body a ((last + 1 + j) % n)) ((last + 1 + j) % n) = true :=
          (hmore _ _ ha).mpr ⟨hdone, hne⟩
        have hrest := ih (j + 1) _ (by omega) (hkeep _ _ ha hdone)
        rw [← Nat.add_assoc, Nat.add_right_comm] at hrest
        simp only [hgo, if_true, Bool.false_eq_true, if_false]
        exact hrest
  obtain ⟨k, rfl⟩ : ∃ k, n = k + 1 := ⟨n - 1, by omega⟩
  have hall := hfrom k 0 a (by omega) ha
  have hstart : (last + 0) % (k + 1) = last := Nat.mod_eq_of_lt hlast
  rw [hstart] at hall
  rw [circle, List.range_eq_range']
  exact hall

theorem foldUntil_never {body : A → ℕ → A} (l : List ℕ) (a : A) :
    foldUntil (fun _ => false) body l a = l.foldl body a := by
  induction l generalizing a with
  | nil => rfl
  | cons i rest ih => simp [foldUntil, ih]

theorem foldUntil_search {p : ℕ → Bool} {found : S → ℕ → S} (l : List ℕ) (s : S) :
    foldUntil (fun r => r.2.isSome)
      (fun r i => if p i then (found r.1 i, some i) else r) l (s, (none : Option ℕ)) =
        ((l.find? p).elim s (found s), l.find? p) := by
  induction l with
  | nil => rfl
  | cons i rest ih =>
    rw [foldUntil, List.find?_cons]
    cases p i with
    | true => simp
    | false => simpa using ih

end container
