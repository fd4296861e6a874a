import Mathlib.Data.Nat.Notation
import Mathlib.Order.Basic

namespace addressing

variable {w : ℕ}

/-- The address agrees with the destination on every bit of the mask. -/
def Matches (destination netmask address : BitVec w) : Prop :=
  (address ^^^ destination) &&& netmask = 0
deriving Decidable

/-- Every bit of the first mask is one of the second. -/
def Within (m n : BitVec w) : Prop := ∀ k, m.getLsbD k = true → n.getLsbD k = true

/-- No bit is set below one that is not. -/
def Contiguous (m : BitVec w) : Prop :=
  ∀ k l, k ≤ l → l < w → m.getLsbD k = true → m.getLsbD l = true

/-- The destination has no bits outside its mask. -/
def Inside (destination netmask : BitVec w) : Prop := Within destination netmask

variable {d e m n x y : BitVec w}

theorem matches_iff : Matches d m x ↔ ∀ k, m.getLsbD k = true → x.getLsbD k = d.getLsbD k := by
  constructor
  · intro h k hk
    have hbit := congrArg (fun a => a.getLsbD k) h
    simp only [BitVec.getLsbD_and, BitVec.getLsbD_xor, hk, Bool.and_true, BitVec.ofNat_eq_ofNat,
      BitVec.getLsbD_zero] at hbit
    revert hbit
    cases x.getLsbD k <;> cases d.getLsbD k <;> simp
  · intro h
    apply BitVec.eq_of_getLsbD_eq
    intro k _
    rw [BitVec.getLsbD_and, BitVec.getLsbD_xor]
    cases hk : m.getLsbD k with
    | true => simp [h k hk]
    | false => simp

theorem Matches.refl (d m : BitVec w) : Matches d m d := matches_iff.mpr fun _ _ => rfl

theorem Within.refl (m : BitVec w) : Within m m := fun _ hk => hk

theorem Within.trans {l : BitVec w} (hmn : Within m n) (hnl : Within n l) : Within m l :=
  fun k hk => hnl k (hmn k hk)

theorem Within.antisymm (hmn : Within m n) (hnm : Within n m) : m = n := by
  apply BitVec.eq_of_getLsbD_eq
  intro k _
  exact Bool.eq_iff_iff.mpr ⟨hmn k, hnm k⟩

theorem Within.le (h : Within m n) : m ≤ n := by
  have hand : m = m &&& n := by
    apply BitVec.eq_of_getLsbD_eq
    intro k _
    rw [BitVec.getLsbD_and]
    cases hk : m.getLsbD k with
    | true => simp [h k hk]
    | false => simp
  rw [hand, BitVec.le_def, BitVec.toNat_and]
  exact Nat.and_le_right

theorem Contiguous.total (hm : Contiguous m) (hn : Contiguous n) : Within m n ∨ Within n m := by
  by_contra hnot
  obtain ⟨hmn, hnm⟩ := not_or.mp hnot
  simp only [Within, not_forall] at hmn hnm
  obtain ⟨k, hmk, hnk⟩ := hmn
  obtain ⟨l, hnl, hml⟩ := hnm
  have hk : k < w := BitVec.lt_of_getLsbD hmk
  have hl : l < w := BitVec.lt_of_getLsbD hnl
  rcases Nat.le_total k l with hkl | hlk
  · exact hml (hm k l hkl hl hmk)
  · exact hnk (hn l k hlk hk hnl)

theorem Contiguous.within_of_le (hm : Contiguous m) (hn : Contiguous n) (hle : m ≤ n) :
    Within m n := by
  rcases hm.total hn with h | h
  · exact h
  · rw [BitVec.le_antisymm hle h.le]
    exact Within.refl n

/-- A network that is entered from a narrower one contains all of it. -/
theorem Matches.trans (hnm : Within n m) (hx : Matches d m x) (hd : Matches e n d) :
    Matches e n x := by
  rw [matches_iff] at hx hd ⊢
  intro k hk
  rw [hx k (hnm k hk), hd k hk]

theorem within_iff : Within m n ↔ ∀ k < w, m.getLsbD k = true → n.getLsbD k = true :=
  ⟨fun h k _ => h k, fun h k hk => h k (BitVec.lt_of_getLsbD hk) hk⟩

instance (m n : BitVec w) : Decidable (Within m n) := decidable_of_iff' _ within_iff

instance (d m : BitVec w) : Decidable (Inside d m) := inferInstanceAs (Decidable (Within d m))

theorem contiguous_iff : Contiguous m ↔
    ∀ l < w, ∀ k < l + 1, m.getLsbD k = true → m.getLsbD l = true :=
  ⟨fun h l hl k hk => h k l (Nat.lt_succ_iff.mp hk) hl,
    fun h k l hkl hl => h l hl k (Nat.lt_succ_of_le hkl)⟩

instance (m : BitVec w) : Decidable (Contiguous m) := decidable_of_iff' _ contiguous_iff

/-- Two networks that share an address: the wider one has the other one's destination. -/
theorem Matches.of_common (hnm : Within n m) (hx : Matches d m x) (hy : Matches e n x) :
    Matches e n d := by
  rw [matches_iff] at hx hy ⊢
  intro k hk
  rw [← hx k (hnm k hk), hy k hk]

theorem Inside.eq (hd : Inside d m) (he : Inside e m) (h : Matches e m d) : d = e := by
  apply BitVec.eq_of_getLsbD_eq
  intro k _
  cases hk : m.getLsbD k with
  | true => exact matches_iff.mp h k hk
  | false =>
    have hdk : d.getLsbD k = false := by
      cases hbit : d.getLsbD k with
      | false => rfl
      | true => rw [hd k hbit] at hk; cases hk
    have hek : e.getLsbD k = false := by
      cases hbit : e.getLsbD k with
      | false => rfl
      | true => rw [he k hbit] at hk; cases hk
    rw [hdk, hek]

end addressing
