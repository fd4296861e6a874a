import LoRaInet.PhysicalLayer.ConvolutionalCoder.Decoding

open omnetpp

namespace inet.physicallayer.ConvolutionalCoder

open ShortBitVector

section Kept

variable (coder : ConvolutionalCoder)

/-- Whether the puncturing matrix keeps the bit at a position, for rows of a size. -/
def isKept (size position : ℕ) : Bool :=
  (coder.puncturingMatrix[position % coder.codeRateParamaterN]?.bind
    (·[position / coder.codeRateParamaterN % size]?)).getD false

/-- The puncturing matrix has rows of one size, and it turns the bits of `codeRatePuncturingK` into `codeRatePuncturingN`. -/
structure Punctures (size : ℕ) : Prop where
  size_pos : 0 < size
  matrix : coder.puncturingMatrix.length = coder.codeRateParamaterN
  outputs_pos : 0 < coder.codeRateParamaterN
  rows : ∀ row ∈ coder.puncturingMatrix, row.length = size
  information : coder.codeRatePuncturingK = size * coder.codeRateParamaterK
  kept : Nat.count (fun position => coder.isKept size position = true) (coder.codeRateParamaterN * size) =
    coder.codeRatePuncturingN

end Kept

section Length

variable {coder : ConvolutionalCoder} {size : ℕ}

theorem Punctures.isPuncturedBit (h : coder.Punctures size) (position : ℕ) :
    coder.isPuncturedBit size position = .ok (!coder.isKept size position) := by
  have hrow : position % coder.codeRateParamaterN < coder.puncturingMatrix.length := by
    rw [h.matrix]
    exact Nat.mod_lt _ h.outputs_pos
  have hplace : position / coder.codeRateParamaterN % size <
      (coder.puncturingMatrix[position % coder.codeRateParamaterN]).length := by
    rw [h.rows _ (List.getElem_mem hrow)]
    exact Nat.mod_lt _ h.size_pos
  have hbit : coder.puncturingMatrix[position % coder.codeRateParamaterN]?.bind
      (·[position / coder.codeRateParamaterN % size]?) =
        some (coder.puncturingMatrix[position % coder.codeRateParamaterN][position / coder.codeRateParamaterN % size]) := by
    rw [List.getElem?_eq_getElem hrow, Option.bind_some, List.getElem?_eq_getElem hplace]
  rw [ConvolutionalCoder.isPuncturedBit, if_neg h.size_pos.ne', isKept]
  simp only [hbit, Option.getD_some]

theorem Punctures.getPuncturedIndices (h : coder.Punctures size) (length : ℕ) :
    coder.getPuncturedIndices length = .ok ((List.range length).map fun position => !coder.isKept size position) := by
  have hne : coder.puncturingMatrix ≠ [] := by
    intro hnil
    have hmatrix := h.matrix
    rw [hnil, List.length_nil] at hmatrix
    exact h.outputs_pos.ne hmatrix
  obtain ⟨row, rows, hrows⟩ := List.exists_cons_of_ne_nil hne
  have hsize : row.length = size := h.rows row (hrows ▸ (.head _))
  rw [ConvolutionalCoder.getPuncturedIndices, hrows]
  change (List.range length).mapM (coder.isPuncturedBit row.length) = _
  rw [mapM_eq_ok_iff, hsize, List.forall₂_map_right_iff]
  exact List.forall₂_same.mpr fun position _ => h.isPuncturedBit position

theorem Punctures.isKept_periodic (h : coder.Punctures size) (position : ℕ) :
    coder.isKept size (coder.codeRateParamaterN * size + position) = coder.isKept size position := by
  rw [isKept, isKept, Nat.mul_add_mod, Nat.mul_add_div h.outputs_pos, Nat.add_mod_left]

theorem Punctures.count_kept (h : coder.Punctures size) (periods : ℕ) :
    Nat.count (fun position => coder.isKept size position = true) (periods * (coder.codeRateParamaterN * size)) =
      periods * coder.codeRatePuncturingN := by
  induction periods with
  | zero => simp
  | succ periods ih =>
    rw [Nat.succ_mul, Nat.add_comm, Nat.count_add, h.kept]
    simp only [h.isKept_periodic]
    rw [ih, Nat.succ_mul, Nat.add_comm]

theorem Punctures.puncturing (h : coder.Punctures size) (informationBits : List Bool) :
    ∃ kept, coder.puncturing informationBits = .ok kept ∧
      kept.length = Nat.count (fun position => coder.isKept size position = true) informationBits.length := by
  have hzip : (informationBits.zip ((List.range informationBits.length).map fun position =>
      !coder.isKept size position)).map (·.2) =
        (List.range informationBits.length).map fun position => !coder.isKept size position := by
    rw [List.map_snd_zip]
    simp
  refine ⟨_, by rw [ConvolutionalCoder.puncturing, h.getPuncturedIndices]; rfl, ?_⟩
  rw [List.length_map, ← List.countP_eq_length_filter]
  have hcount := congrArg (List.countP (fun punctured => !punctured)) hzip
  rw [List.countP_map, List.countP_map] at hcount
  refine hcount.trans ?_
  rw [Nat.count]
  exact List.countP_congr fun position _ => by simp

theorem encodeSymbols_succ {symbols s : ℕ} (hs : s < coder.numberOfStates) (informationBits : List Bool) :
    coder.encodeSymbols (symbols + 1) s informationBits = (coder.encodeSymbols symbols
        (coder.stateTransitions s (reverseToDecimal (informationBits.take coder.codeRateParamaterK)))
        (informationBits.drop coder.codeRateParamaterK) >>= fun rest =>
          .ok (coder.outputSymbols s (reverseToDecimal (informationBits.take coder.codeRateParamaterK)) ++ rest)) := by
  rw [encodeSymbols, stateIndex_natCast hs]
  rfl

theorem encodeSymbols_returns {memorySizeSum symbols s : ℕ} (hproper : coder.Proper memorySizeSum)
    (hs : s < coder.numberOfStates) {informationBits : List Bool}
    (hbits : informationBits.length = symbols * coder.codeRateParamaterK) :
    ∃ encoded, coder.encodeSymbols symbols s informationBits = .ok encoded ∧
      encoded.length = symbols * coder.codeRateParamaterN := by
  induction symbols generalizing s informationBits with
  | zero => exact ⟨[], rfl, by simp⟩
  | succ symbols ih =>
    rw [Nat.succ_mul] at hbits
    have hinput : (informationBits.take coder.codeRateParamaterK).length = coder.codeRateParamaterK := by
      rw [List.length_take]
      omega
    have hrest : (informationBits.drop coder.codeRateParamaterK).length = symbols * coder.codeRateParamaterK := by
      rw [List.length_drop]
      omega
    obtain ⟨⟨s', hs', htransition⟩, houtput⟩ := row_of_input hproper hs (reverseToDecimal_lt hinput)
    obtain ⟨encoded, hencoded, hlength⟩ := ih hs' hrest
    refine ⟨coder.outputSymbols s (reverseToDecimal (informationBits.take coder.codeRateParamaterK)) ++ encoded, ?_, ?_⟩
    · rw [encodeSymbols_succ hs, htransition, hencoded]
      rfl
    · rw [List.length_append, houtput, hlength, Nat.succ_mul, Nat.add_comm]

/-- Information bits of whole periods are encoded with the rate of the code. -/
theorem Punctures.encode {memorySizeSum periods : ℕ} (h : coder.Punctures size) (hproper : coder.Proper memorySizeSum)
    (hK : 0 < coder.codeRateParamaterK) {informationBits : List Bool}
    (hbits : informationBits.length = periods * coder.codeRatePuncturingK) :
    ∃ encoded, coder.encode informationBits = .ok encoded ∧ encoded.length = periods * coder.codeRatePuncturingN := by
  have hsymbols : informationBits.length = periods * size * coder.codeRateParamaterK := by
    rw [hbits, h.information, Nat.mul_assoc]
  have hpos : 0 < coder.numberOfStates := hproper.numberOfStates ▸ Nat.two_pow_pos _
  obtain ⟨symbols, hencode, hlength⟩ := encodeSymbols_returns hproper hpos hsymbols
  obtain ⟨kept, hkept, hcount⟩ := h.puncturing symbols
  refine ⟨kept, ?_, ?_⟩
  · rw [ConvolutionalCoder.encode, encodeUnpunctured, hsymbols, Nat.mul_mod_left, if_neg (not_not.mpr rfl),
      Nat.mul_div_cancel _ hK]
    change (coder.encodeSymbols _ ((0 : ℕ) : ℤ) _ >>= _) = _
    rw [hencode]
    exact hkept
  · rw [hcount, hlength, Nat.mul_assoc, Nat.mul_comm size, h.count_kept]

end Length

section RoundTrip

variable {coder : ConvolutionalCoder} {memorySizeSum symbols size : ℕ}

/-- The kept bits of a column are the same in two output symbols. -/
def SameKept (coder : ConvolutionalCoder) (size column : ℕ) (outputSymbol other : List Bool) : Prop :=
  ∀ k < coder.codeRateParamaterN, coder.isKept size (column * coder.codeRateParamaterN + k) = true →
    outputSymbol[k]? = other[k]?

instance (coder : ConvolutionalCoder) (size column : ℕ) (outputSymbol other : List Bool) :
    Decidable (coder.SameKept size column outputSymbol other) :=
  inferInstanceAs (Decidable (∀ k < _, _ = _ → _ = _))

/-- Outputs of a state that agree in the kept bits of a column come from the same input. -/
def Separates (coder : ConvolutionalCoder) (size : ℕ) : Prop :=
  ∀ s < coder.numberOfStates, ∀ column < size, ∀ i < 2 ^ coder.codeRateParamaterK,
    ∀ j < 2 ^ coder.codeRateParamaterK,
      coder.SameKept size column (coder.outputSymbols s i) (coder.outputSymbols s j) → i = j

instance (coder : ConvolutionalCoder) (size : ℕ) : Decidable (coder.Separates size) :=
  inferInstanceAs (Decidable (∀ s < _, ∀ column < _, ∀ i < _, ∀ j < _, SameKept _ _ _ _ _ → i = j))

theorem Separates.distinctOutputs (h : coder.Separates size) (hsize : 0 < size) : coder.DistinctOutputs :=
  fun s hs i hi j hj heq => h s hs 0 hsize i hi j hj fun k _ _ => by rw [heq]

theorem isKept_column {t k : ℕ} (hk : k < coder.codeRateParamaterN) :
    coder.isKept size (t % size * coder.codeRateParamaterN + k) =
      coder.isKept size (t * coder.codeRateParamaterN + k) := by
  have hN : 0 < coder.codeRateParamaterN := Nat.zero_lt_of_lt hk
  simp only [isKept, Nat.add_comm _ k, Nat.add_mul_mod_self_right, Nat.add_mul_div_right _ _ hN, Nat.div_eq_of_lt hk,
    Nat.zero_add, Nat.mod_mod]

/-- Messages with the same kept bits are the same, whatever the column is that the first symbol belongs to. -/
theorem encodeSymbols_inj (hproper : coder.Proper memorySizeSum) (hseparates : coder.Separates size)
    (hsize : 0 < size) {s t : ℕ} (hs : s < coder.numberOfStates) {bits others encoded encodedOther : List Bool}
    (hbits : bits.length = symbols * coder.codeRateParamaterK)
    (hothers : others.length = symbols * coder.codeRateParamaterK)
    (h : coder.encodeSymbols symbols s bits = .ok encoded)
    (h' : coder.encodeSymbols symbols s others = .ok encodedOther)
    (hagree : ∀ position, coder.isKept size (t * coder.codeRateParamaterN + position) = true →
      encoded[position]? = encodedOther[position]?) : bits = others := by
  induction symbols generalizing s t bits others encoded encodedOther with
  | zero =>
    rw [Nat.zero_mul, List.length_eq_zero_iff] at hbits hothers
    rw [hbits, hothers]
  | succ symbols ih =>
    rw [Nat.succ_mul] at hbits hothers
    have hinput : (bits.take coder.codeRateParamaterK).length = coder.codeRateParamaterK := by
      rw [List.length_take]
      omega
    have hinput' : (others.take coder.codeRateParamaterK).length = coder.codeRateParamaterK := by
      rw [List.length_take]
      omega
    rw [encodeSymbols_succ hs] at h h'
    obtain ⟨rest, hrest, heq⟩ := bind_eq_ok_iff.mp h
    obtain ⟨rest', hrest', heq'⟩ := bind_eq_ok_iff.mp h'
    cases heq
    cases heq'
    obtain ⟨⟨s', hs', htransition⟩, houtput⟩ := row_of_input hproper hs (reverseToDecimal_lt hinput)
    obtain ⟨-, houtput'⟩ := row_of_input hproper hs (reverseToDecimal_lt hinput')
    have hdecimal := hseparates s hs (t % size) (Nat.mod_lt t hsize) _ (reverseToDecimal_lt hinput) _
      (reverseToDecimal_lt hinput') fun k hk hkept => by
        have hsymbol := hagree k (isKept_column hk ▸ hkept)
        rwa [List.getElem?_append_left (houtput.symm ▸ hk), List.getElem?_append_left (houtput'.symm ▸ hk)] at hsymbol
    have htake := reverseToDecimal_inj (hinput.trans hinput'.symm) hdecimal
    rw [← hdecimal, htransition] at hrest'
    rw [htransition] at hrest
    have hdrop := ih hs' (by rw [List.length_drop]; omega) (by rw [List.length_drop]; omega) hrest hrest'
      (t := t + 1) fun position hkept => by
        rw [Nat.succ_mul, Nat.add_assoc] at hkept
        have htail := hagree _ hkept
        rwa [List.getElem?_append_right (by omega), List.getElem?_append_right (by omega), houtput, houtput',
          Nat.add_sub_cancel_left] at htail
    rw [← List.take_append_drop coder.codeRateParamaterK bits, htake, hdrop, List.take_append_drop]

theorem hammingDistance_cons (punctured bit other : Bool) (isPunctured bits others : List Bool) :
    hammingDistance (punctured :: isPunctured) (bit :: bits) (other :: others) =
      hammingDistance isPunctured bits others + ((bit != other) && !punctured).toNat := by
  rw [hammingDistance, List.zipWith_cons_cons, List.zipWith_cons_cons, List.count_cons]
  cases (bit != other) && !punctured <;> rfl

/-- The bits that were left out are found again as bits that do not count. -/
theorem insertPunctured_filter {isPunctured bits : List Bool} (h : isPunctured.length = bits.length) :
    ∃ inserted, insertPunctured isPunctured (((bits.zip isPunctured).filter (!·.2)).map (·.1)) = .ok inserted ∧
      inserted.length = bits.length ∧ hammingDistance isPunctured inserted bits = 0 := by
  induction isPunctured generalizing bits with
  | nil =>
    rw [List.length_eq_zero_iff.mp h.symm]
    exact ⟨[], rfl, rfl, rfl⟩
  | cons punctured isPunctured ih =>
    cases bits with
    | nil => cases h
    | cons bit bits =>
      obtain ⟨inserted, hinserted, hlength, hdistance⟩ := ih (Nat.succ.inj h)
      cases punctured with
      | true =>
        refine ⟨false :: inserted, ?_, congrArg Nat.succ hlength, ?_⟩
        · change (insertPunctured isPunctured (((bits.zip isPunctured).filter (!·.2)).map (·.1)) >>= _) = _
          rw [hinserted]
          rfl
        · rw [hammingDistance_cons, hdistance, Bool.not_true, Bool.and_false, Bool.toNat_false]
      | false =>
        refine ⟨bit :: inserted, ?_, congrArg Nat.succ hlength, ?_⟩
        · change (insertPunctured isPunctured (((bits.zip isPunctured).filter (!·.2)).map (·.1)) >>= _) = _
          rw [hinserted]
          rfl
        · rw [hammingDistance_cons, hdistance, bne_self_eq_false, Bool.false_and, Bool.toNat_false]

theorem getElem?_of_hammingDistance {isPunctured bits others : List Bool} (hbits : isPunctured.length = bits.length)
    (hothers : isPunctured.length = others.length) (h : hammingDistance isPunctured bits others = 0) {position : ℕ}
    (hposition : isPunctured[position]? = some false) : bits[position]? = others[position]? := by
  induction isPunctured generalizing bits others position with
  | nil => cases hposition
  | cons punctured isPunctured ih =>
    cases bits with
    | nil => cases hbits
    | cons bit bits =>
      cases others with
      | nil => cases hothers
      | cons other others =>
        rw [hammingDistance_cons, Nat.add_eq_zero_iff] at h
        cases position with
        | zero =>
          cases hposition
          cases bit <;> cases other <;> simp_all
        | succ position => exact ih (Nat.succ.inj hbits) (Nat.succ.inj hothers) h.1 hposition

theorem encodeUnpunctured_eq (hK : 0 < coder.codeRateParamaterK) {bits : List Bool}
    (hbits : bits.length = symbols * coder.codeRateParamaterK) :
    coder.encodeUnpunctured bits = coder.encodeSymbols symbols 0 bits := by
  rw [encodeUnpunctured, hbits, Nat.mul_mod_left, if_neg (not_not.mpr rfl), Nat.mul_div_cancel _ hK]

/-- The kept bits of whole periods are received with the bits that were left out. -/
theorem Punctures.depuncturing (h : coder.Punctures size) (hK : 0 < coder.codeRateParamaterK)
    (hN : 0 < coder.codeRatePuncturingN) {periods : ℕ} {bits kept : List Bool}
    (hbits : bits.length = periods * size * coder.codeRateParamaterN) (hkept : coder.puncturing bits = .ok kept)
    (hlength : kept.length = periods * coder.codeRatePuncturingN) :
    coder.receivedSymbols kept = periods * size ∧ ∃ inserted isPunctured,
      coder.depuncturing kept = .ok (inserted, isPunctured) ∧ inserted.length = bits.length ∧
      isPunctured = (List.range bits.length).map (fun position => !coder.isKept size position) ∧
      hammingDistance isPunctured inserted bits = 0 := by
  have hmultiple : kept.length % coder.codeRatePuncturingN = 0 := by
    rw [hlength, Nat.mul_mod_left]
  have hsymbols : kept.length / coder.codeRatePuncturingN * coder.codeRatePuncturingK / coder.codeRateParamaterK =
      periods * size := by
    rw [hlength, Nat.mul_div_cancel _ hN, h.information, ← Nat.mul_assoc, Nat.mul_div_cancel _ hK]
  rw [ConvolutionalCoder.puncturing, h.getPuncturedIndices] at hkept
  cases hkept
  have hmask : ((List.range bits.length).map fun position => !coder.isKept size position).length = bits.length := by
    rw [List.length_map, List.length_range]
  obtain ⟨inserted, hinserted, hinsertedLength, hdistance⟩ := insertPunctured_filter hmask
  refine ⟨hsymbols, inserted, _, ?_, hinsertedLength, rfl, hdistance⟩
  rw [ConvolutionalCoder.depuncturing, throwIf_bind hN.ne', hmultiple]
  simp only [hsymbols, ← hbits]
  change (coder.getPuncturedIndices bits.length >>= _) = _
  rw [h.getPuncturedIndices]
  change (insertPunctured _ _ >>= _) = _
  rw [hinserted]
  rfl

/-- Without errors the most likely message is the one that was sent. -/
theorem Punctures.decode_encode (h : coder.Punctures size) (hproper : coder.Proper memorySizeSum)
    (hseparates : coder.Separates size) (hK : 0 < coder.codeRateParamaterK) (hN : 0 < coder.codeRatePuncturingN)
    (hmode : coder.mode = "truncated") {informationBits encoded : List Bool} {periods : ℕ}
    (hbits : informationBits.length = periods * coder.codeRatePuncturingK)
    (hencode : coder.encode informationBits = .ok encoded)
    (hlength : ((periods * size * coder.codeRateParamaterN : ℕ) : ℤ) < INT32_MAX)
    (dblrand : ℕ → ℚ) : coder.decode dblrand encoded = .ok (informationBits, true) := by
  have hpos : 0 < coder.numberOfStates := hproper.numberOfStates ▸ Nat.two_pow_pos _
  obtain ⟨encoded', hencode', hperiods⟩ := h.encode hproper hK hbits
  rw [hencode] at hencode'
  cases hencode'
  obtain ⟨unpunctured, hunpunctured, hkept⟩ := bind_eq_ok_iff.mp hencode
  rw [h.information, ← Nat.mul_assoc] at hbits
  have hreturns := hunpunctured
  rw [encodeUnpunctured_eq hK hbits] at hreturns
  obtain ⟨_, hreturns', hsize⟩ := encodeSymbols_returns hproper hpos hbits
  rw [Nat.cast_zero, hreturns] at hreturns'
  cases hreturns'
  obtain ⟨hsymbols, inserted, isPunctured, hdepuncturing, hinserted, hmask, hdistance⟩ :=
    h.depuncturing hK hN hsize hkept hperiods
  obtain ⟨message, success, hdecode, hsuccess, hlikely⟩ := @decode_truncated _ _ _ _ dblrand _ hproper
    (hseparates.distinctOutputs h.size_pos) h.outputs_pos hK hmode hdepuncturing (by rwa [hinserted, hsize])
  have hmessage : coder.IsMessage (coder.receivedSymbols encoded) informationBits := by
    refine ⟨hsymbols ▸ hbits, fun hterminated => ?_⟩
    rw [hmode] at hterminated
    exact absurd hterminated (by decide)
  obtain rfl := hsuccess.mpr ⟨_, hmessage⟩
  obtain ⟨⟨hlength', -⟩, likely, hencodeLikely, hleast⟩ := hlikely rfl
  obtain ⟨encodedOther, hencodeOther, hle⟩ := hleast _ hmessage
  rw [hunpunctured] at hencodeOther
  cases hencodeOther
  rw [hdistance, Nat.le_zero] at hle
  rw [hsymbols] at hlength'
  rw [encodeUnpunctured_eq hK hlength'] at hencodeLikely
  obtain ⟨_, hreturnsLikely, hsizeLikely⟩ := encodeSymbols_returns hproper hpos hlength'
  rw [Nat.cast_zero, hencodeLikely] at hreturnsLikely
  cases hreturnsLikely
  have hmaskLength : isPunctured.length = unpunctured.length := by
    rw [hmask, List.length_map, List.length_range]
  rw [hdecode, encodeSymbols_inj hproper hseparates h.size_pos hpos hlength' hbits hencodeLikely hreturns
    (t := 0) fun position hkept => ?_]
  rw [Nat.zero_mul, Nat.zero_add] at hkept
  by_cases hposition : position < unpunctured.length
  · have hfalse : isPunctured[position]? = some false := by
      rw [hmask, List.getElem?_map, List.getElem?_range hposition, Option.map_some, hkept, Bool.not_true]
    exact (getElem?_of_hammingDistance (hmaskLength.trans hinserted.symm)
      (hmaskLength.trans (hsize.trans hsizeLikely.symm)) hle hfalse).symm.trans
      (getElem?_of_hammingDistance (hmaskLength.trans hinserted.symm) hmaskLength hdistance hfalse)
  · rw [not_lt] at hposition
    rw [List.getElem?_eq_none (hsizeLikely.trans hsize.symm ▸ hposition), List.getElem?_eq_none hposition]

end RoundTrip

end inet.physicallayer.ConvolutionalCoder
