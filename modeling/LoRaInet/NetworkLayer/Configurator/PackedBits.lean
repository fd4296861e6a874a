import LoRaInet.NetworkLayer.IPv4.IPv4Route

namespace inet.IPv4NetworkConfigurator

/-- How many bits are needed to represent `count` different values. -/
def getRepresentationBitCount (count : ℕ) : ℕ :=
  ((List.range 32).find? fun bitCount => count ≤ 1 <<< bitCount).getD 32

def getMostSignificantBitIndex (value : IPv4Address) (bitValue : Bool) (defaultIndex : ℤ) : ℤ :=
  match (List.range 32).reverse.find? fun bitIndex => value.getLsbD bitIndex = bitValue with
  | some bitIndex => bitIndex
  | none => defaultIndex

def getLeastSignificantBitIndex (value : IPv4Address) (bitValue : Bool) (defaultIndex : ℤ) : ℤ :=
  match (List.range 32).find? fun bitIndex => value.getLsbD bitIndex = bitValue with
  | some bitIndex => bitIndex
  | none => defaultIndex

/-- The loop of `getPackedBits` up to an index: the packed value and its next index. -/
def packBelow (value valueMask : IPv4Address) : ℕ → IPv4Address × ℕ
  | 0 => (0, 0)
  | valueIndex + 1 =>
    let packed := packBelow value valueMask valueIndex
    if valueMask.getLsbD valueIndex then
      (if value.getLsbD valueIndex then packed.1 ||| BitVec.twoPow 32 packed.2 else packed.1,
        packed.2 + 1)
    else packed

def getPackedBits (value valueMask : IPv4Address) : IPv4Address := (packBelow value valueMask 32).1

/-- The loop of `setPackedBits` up to an index: the value and the next packed index. -/
def unpackBelow (value valueMask packedValue : IPv4Address) : ℕ → IPv4Address × ℕ
  | 0 => (value, 0)
  | valueIndex + 1 =>
    let unpacked := unpackBelow value valueMask packedValue valueIndex
    if valueMask.getLsbD valueIndex then
      (if packedValue.getLsbD unpacked.2 then unpacked.1 ||| BitVec.twoPow 32 valueIndex
        else unpacked.1 &&& ~~~BitVec.twoPow 32 valueIndex, unpacked.2 + 1)
    else unpacked

def setPackedBits (value valueMask packedValue : IPv4Address) : IPv4Address :=
  (unpackBelow value valueMask packedValue 32).1

variable {value valueMask packedValue : IPv4Address}

theorem getMostSignificantBitIndex_ge {k : ℕ} (defaultIndex : ℤ) (hk : value.getLsbD k = true) :
    (k : ℤ) ≤ getMostSignificantBitIndex value true defaultIndex := by
  have hlt : k < 32 := BitVec.lt_of_getLsbD hk
  rw [getMostSignificantBitIndex]
  split
  · next bitIndex hfind =>
    rw [List.find?_eq_some_iff_getElem] at hfind
    obtain ⟨-, i, hi, hget, hbefore⟩ := hfind
    simp only [List.length_reverse, List.length_range] at hi
    simp only [List.getElem_reverse, List.length_range, List.getElem_range] at hget hbefore
    by_contra hnot
    have hbit := hbefore (31 - k) (by omega)
    simp [show 32 - 1 - (31 - k) = k by omega, hk] at hbit
  · next hfind =>
    have hnone := List.find?_eq_none.mp hfind k (by simp [hlt])
    simp [hk] at hnone

theorem getLeastSignificantBitIndex_le {k : ℕ} (defaultIndex : ℤ) (hk : value.getLsbD k = true) :
    getLeastSignificantBitIndex value true defaultIndex ≤ k := by
  have hlt : k < 32 := BitVec.lt_of_getLsbD hk
  rw [getLeastSignificantBitIndex]
  split
  · next bitIndex hfind =>
    rw [List.find?_eq_some_iff_getElem] at hfind
    obtain ⟨-, i, hi, hget, hbefore⟩ := hfind
    simp only [List.length_range] at hi
    simp only [List.getElem_range] at hget hbefore
    by_contra hnot
    have hbit := hbefore k (by omega)
    simp [hk] at hbit
  · next hfind =>
    have hnone := List.find?_eq_none.mp hfind k (by simp [hlt])
    simp [hk] at hnone

theorem getLsbD_unpackBelow (value valueMask packedValue : IPv4Address) (n k : ℕ) :
    (unpackBelow value valueMask packedValue n).1.getLsbD k =
      if k < n ∧ valueMask.getLsbD k = true then
        packedValue.getLsbD (unpackBelow value valueMask packedValue k).2
      else value.getLsbD k := by
  induction n with
  | zero => simp [unpackBelow]
  | succ n ih =>
    rw [unpackBelow]
    by_cases hkn : k = n
    · subst hkn
      have hk : ¬(k < k ∧ valueMask.getLsbD k = true) := fun h => absurd h.1 (Nat.lt_irrefl k)
      rw [if_neg hk] at ih
      cases hmask : valueMask.getLsbD k with
      | false => simp [ih]
      | true =>
        have hlt : k < 32 := BitVec.lt_of_getLsbD hmask
        simp only [↓reduceIte, Nat.lt_succ_self, and_self]
        split
        · next hbit => simp [hbit, hlt]
        · next hbit => simp [hbit, hlt]
    · have hne : ¬n = k := fun h => hkn h.symm
      have hlt : k < n + 1 ↔ k < n := by omega
      simp only [hlt, ← ih]
      split
      · split
        · simp [BitVec.getLsbD_twoPow, hne]
        · rw [BitVec.getLsbD_and, BitVec.getLsbD_not, BitVec.getLsbD_twoPow]
          by_cases hk : k < 32
          · simp [hk, hne]
          · rw [BitVec.getLsbD_of_ge _ _ (by omega)]
            simp
      · rfl

theorem getLsbD_setPackedBits_of_not {k : ℕ} (hk : valueMask.getLsbD k = false) :
    (setPackedBits value valueMask packedValue).getLsbD k = value.getLsbD k := by
  rw [setPackedBits, getLsbD_unpackBelow, if_neg]
  simp [hk]

theorem unpackBelow_snd {n : ℕ} (h : ∀ k < n, valueMask.getLsbD k = true) :
    (unpackBelow value valueMask packedValue n).2 = n := by
  induction n with
  | zero => rfl
  | succ n ih =>
    rw [unpackBelow, if_pos (h n (Nat.lt_succ_self n))]
    simp only [ih fun k hk => h k (by omega)]

theorem packBelow_snd {n : ℕ} (h : ∀ k < n, valueMask.getLsbD k = true) :
    (packBelow value valueMask n).2 = n := by
  induction n with
  | zero => rfl
  | succ n ih =>
    rw [packBelow, if_pos (h n (Nat.lt_succ_self n))]
    simp only [ih fun k hk => h k (by omega)]

/-- Where the mask has no gap below a bit, the bit is set to the same bit of the packed value. -/
theorem getLsbD_setPackedBits_of_low {k : ℕ} (h : ∀ j ≤ k, valueMask.getLsbD j = true) :
    (setPackedBits value valueMask packedValue).getLsbD k = packedValue.getLsbD k := by
  have hk := h k (Nat.le_refl k)
  rw [setPackedBits, getLsbD_unpackBelow, if_pos ⟨BitVec.lt_of_getLsbD hk, hk⟩,
    unpackBelow_snd fun j hj => h j (Nat.le_of_lt hj)]

theorem getLsbD_packBelow_of_low {h : ℕ} (hmask : ∀ k, valueMask.getLsbD k = decide (k < h))
    (n k : ℕ) : (packBelow value valueMask n).1.getLsbD k =
      (decide (k < n) && decide (k < h) && value.getLsbD k) := by
  induction n with
  | zero => simp [packBelow]
  | succ n ih =>
    rw [packBelow, hmask]
    by_cases hn : n < h
    · have hsnd : (packBelow value valueMask n).2 = n :=
        packBelow_snd fun j hj => by rw [hmask]; simp; omega
      have hn32 : n < 32 := by
        have hbit : valueMask.getLsbD n = true := by rw [hmask]; simp [hn]
        exact BitVec.lt_of_getLsbD hbit
      by_cases hkn : k = n
      · subst hkn
        cases hbit : value.getLsbD k with
        | false => simp [hn, hbit, ih]
        | true => simp [hn, hsnd, hn32]
      · have hlt : k < n + 1 ↔ k < n := by omega
        have hne : ¬n = k := fun h => hkn h.symm
        cases hbit : value.getLsbD n with
        | false => simp [hn, hlt, ih]
        | true => simp [hn, hlt, ih, hsnd, BitVec.getLsbD_twoPow, hne]
    · by_cases hk : k < h
      · have hlt : k < n + 1 ↔ k < n := by omega
        simp [hn, ih, hlt]
      · simp [hn, ih, hk]

theorem getLsbD_getPackedBits_of_low {h : ℕ} (hmask : ∀ k, valueMask.getLsbD k = decide (k < h))
    (k : ℕ) : (getPackedBits value valueMask).getLsbD k = (decide (k < h) && value.getLsbD k) := by
  rw [getPackedBits, getLsbD_packBelow_of_low hmask]
  by_cases hk : k < 32
  · simp [hk]
  · rw [BitVec.getLsbD_of_ge _ _ (by omega)]
    simp

end inet.IPv4NetworkConfigurator
