import LoRaInet.PhysicalLayer.ConvolutionalCoder.Tables

open omnetpp

namespace inet.physicallayer.ConvolutionalCoder

open ShortBitVector

section Registers

/-- The input bits enter the shift registers, and the oldest bits leave them. -/
def shiftIn (registers : List (List Bool)) (inputSymbol : ShortBitVector) : List (List Bool) :=
  (inputSymbol.zip registers).map fun p => (p.1 :: p.2).take p.2.length

/-- The registers one after the other, from that of the last input bit to that of the first. -/
def registersState (registers : List (List Bool)) : ShortBitVector := registers.reverse.flatten

variable (coder : ConvolutionalCoder)

def emptyRegisters : List (List Bool) := coder.memorySizes.map fun memorySize => List.replicate memorySize.toNat false

/-- The code by its definition: each output symbol is that of the registers and the input bits. -/
def shiftRegisterEncode : ℕ → List (List Bool) → List Bool → List Bool
  | 0, _, _ => []
  | symbols + 1, registers, informationBits =>
    let inputSymbol := informationBits.take coder.codeRateParamaterK
    inputSymbolToOutputSymbol coder.codeRateParamaterN coder.memorySizes coder.transferFunctionMatrix
      (registersState registers) inputSymbol ++
        shiftRegisterEncode symbols (shiftIn registers inputSymbol) (informationBits.drop coder.codeRateParamaterK)

/-- The registers at the end of the bits. -/
def finalRegisters : ℕ → List (List Bool) → List Bool → List (List Bool)
  | 0, registers, _ => registers
  | symbols + 1, registers, informationBits =>
    finalRegisters symbols (shiftIn registers (informationBits.take coder.codeRateParamaterK))
      (informationBits.drop coder.codeRateParamaterK)

/-- The bits of the registers by their number. -/
def Shaped (registers : List (List Bool)) : Prop :=
  registers.map (fun register => (register.length : ℤ)) = coder.memorySizes

/-- Each register has a bit or none, and that of the first input bit has one. -/
structure Regular : Prop where
  nonneg : ∀ memorySize ∈ coder.memorySizes, 0 ≤ memorySize
  first_ne : ∀ memorySize ∈ coder.memorySizes.head?, memorySize ≠ 0

/-- The tables of a code with regular registers. -/
structure Proper (memorySizeSum : ℕ) : Prop extends Tables coder memorySizeSum, Regular coder where
  sum_memorySizes : coder.memorySizes.sum = memorySizeSum
  memorySizeSum_lt : memorySizeSum < 32
  length_memorySizes : coder.memorySizes.length = coder.codeRateParamaterK
  length_rows : ∀ row ∈ coder.transferFunctionMatrix, row.length = coder.codeRateParamaterN
  outputs_le : coder.codeRateParamaterN ≤ 30

end Registers

section Insert

variable {coder : ConvolutionalCoder} {registers : List (List Bool)} {inputSymbol : ShortBitVector}

theorem setBit_of_lt {done rest : List Bool} {lost bit : Bool} {size : ℕ} (h : done.length < size) (hsize : size < 32) :
    Shifted.setBit ⟨done ++ lost :: rest, size⟩ done.length bit = .ok ⟨done ++ bit :: rest, size⟩ := by
  have hshort : done.length + 1 - (done ++ lost :: rest).length = 0 := by
    rw [List.length_append, List.length_cons]
    omega
  rw [Shifted.setBit, if_pos ⟨by omega, by omega⟩, Int.toNat_natCast]
  simp only [hshort, List.replicate_zero, List.append_nil, List.set_append_right _ _ le_rfl, Nat.sub_self,
    List.set_cons_zero]
  rw [max_eq_left (by omega : done.length + 1 ≤ size)]

theorem take_append_last (bit : Bool) (register : List Bool) :
    ∃ last, bit :: register = (bit :: register).take register.length ++ [last] := by
  refine ⟨(bit :: register).getLast (List.cons_ne_nil _ _), ?_⟩
  conv_lhs => rw [← List.dropLast_append_getLast (List.cons_ne_nil bit register)]
  rw [List.dropLast_eq_take]
  rfl

/-- The bit that the shift has moved from a register into the next one is replaced by the input bit there. The
last register is not empty, so that the vector does not grow. -/
theorem insertInputs_of_last (pieces : List (Bool × List Bool)) (hlast : ∀ p ∈ pieces.getLast?, p.2 ≠ []) :
    ∀ (done : List Bool) (lost : Bool), done.length + (pieces.flatMap (·.2)).length < 32 → ∃ lost',
      insertInputs done.length (pieces.map fun p => (p.1, (p.2.length : ℤ)))
        ⟨done ++ lost :: pieces.flatMap (·.2), done.length + (pieces.flatMap (·.2)).length⟩ =
          .ok ⟨done ++ (pieces.flatMap fun p => (p.1 :: p.2).take p.2.length) ++ [lost'],
            done.length + (pieces.flatMap (·.2)).length⟩ := by
  induction pieces with
  | nil => exact fun done lost _ => ⟨lost, by simp [insertInputs]⟩
  | cons p rest ih =>
    intro done lost hlength
    obtain ⟨bit, register⟩ := p
    have hne : 0 < (register ++ rest.flatMap (·.2)).length := by
      rw [List.length_pos_iff]
      intro hnil
      obtain ⟨hregister, hrest⟩ := List.append_eq_nil_iff.mp hnil
      cases hlast? : rest.getLast? with
      | none =>
        rw [List.getLast?_eq_none_iff] at hlast?
        subst hlast?
        exact hlast (bit, register) (by simp) hregister
      | some q =>
        have hq : q.2 ≠ [] := hlast q (by rw [List.getLast?_cons, hlast?]; rfl)
        exact hq (List.flatMap_eq_nil_iff.mp hrest q (List.mem_of_getLast? hlast?))
    have hflat : ((bit, register) :: rest).flatMap (·.2) = register ++ rest.flatMap (·.2) := List.flatMap_cons
    rw [hflat, List.length_append] at hlength ⊢
    rw [List.length_append] at hne
    obtain ⟨last, hshifted⟩ := take_append_last bit register
    have htake : ((bit :: register).take register.length).length = register.length := by simp
    have hrest : ∀ q ∈ rest.getLast?, q.2 ≠ [] := by
      intro q hq
      refine hlast q ?_
      rw [List.getLast?_cons, Option.mem_def.mp hq]
      rfl
    obtain ⟨lost', hinsert⟩ := ih hrest (done ++ (bit :: register).take register.length) last (by
      rw [List.length_append, htake]
      omega)
    refine ⟨lost', ?_⟩
    rw [List.map_cons, insertInputs, setBit_of_lt (by omega) hlength]
    have hbits : done ++ bit :: (register ++ rest.flatMap (·.2)) =
        done ++ (bit :: register).take register.length ++ last :: rest.flatMap (·.2) := by
      rw [← List.cons_append, hshifted]
      simp
    rw [List.length_append, htake, Nat.cast_add] at hinsert
    rw [Nat.add_assoc] at hinsert
    change insertInputs _ _ ⟨done ++ bit :: (register ++ rest.flatMap (·.2)), _⟩ = _
    rw [hbits, hinsert, List.flatMap_cons, List.append_assoc done]

theorem length_shiftIn (h : inputSymbol.length = registers.length) :
    (shiftIn registers inputSymbol).map List.length = registers.map List.length := by
  conv_rhs => rw [← List.map_snd_zip h.ge]
  rw [shiftIn, List.map_map, List.map_map]
  exact List.map_congr_left fun p _ => by simp

theorem registersState_eq (h : inputSymbol.length = registers.length) :
    registersState registers = (inputSymbol.zip registers).reverse.flatMap (·.2) := by
  conv_lhs => rw [registersState, ← List.map_snd_zip h.ge]
  rw [List.flatMap_def, List.map_reverse]

theorem registersState_shiftIn : registersState (shiftIn registers inputSymbol) =
    (inputSymbol.zip registers).reverse.flatMap fun p => (p.1 :: p.2).take p.2.length := by
  rw [registersState, shiftIn, List.flatMap_def, List.map_reverse]

theorem length_registersState (registers : List (List Bool)) :
    (registersState registers).length = (registers.map List.length).sum := by
  rw [registersState, List.length_flatten, List.map_reverse, List.sum_reverse]

theorem nextState_registersState (hregular : coder.Regular) (hshaped : coder.Shaped registers)
    (hinput : inputSymbol.length = registers.length) (hlength : (registersState registers).length < 32) :
    nextState coder.memorySizes (registersState registers) inputSymbol =
      .ok (registersState (shiftIn registers inputSymbol)) := by
  have hlast : ∀ p ∈ (inputSymbol.zip registers).reverse.getLast?, p.2 ≠ [] := by
    intro p hp hnil
    rw [List.getLast?_reverse] at hp
    cases registers with
    | nil =>
      rw [List.zip_nil_right] at hp
      cases hp
    | cons register registers =>
      cases inputSymbol with
      | nil => cases hinput
      | cons bit inputSymbol =>
        rw [List.zip_cons_cons, List.head?_cons] at hp
        cases hp
        refine hregular.first_ne _ ?_ (congrArg (fun register => (List.length register : ℤ)) hnil)
        rw [← hshaped]
        rfl
  have hpieces : (inputSymbol.zip coder.memorySizes).reverse =
      (inputSymbol.zip registers).reverse.map fun p => (p.1, (p.2.length : ℤ)) := by
    rw [← hshaped, List.zip_map_right, List.map_reverse]
    rfl
  rw [registersState_eq hinput] at hlength
  obtain ⟨lost, hinsert⟩ := insertInputs_of_last _ hlast [] false (by simpa using hlength)
  rw [List.nil_append, List.length_nil, Nat.zero_add] at hinsert
  rw [nextState, hpieces, leftShift, registersState_eq hinput]
  change (insertInputs ((0 : ℕ) : ℤ) _ _ >>= _) = _
  rw [List.replicate_one, List.singleton_append, hinsert, List.nil_append, ← registersState_shiftIn,
    ← registersState_eq hinput, length_registersState, ← length_shiftIn hinput, ← length_registersState]
  change Except.ok (Shifted.toVector ⟨registersState (shiftIn registers inputSymbol) ++ [lost], _⟩) = _
  rw [Shifted.toVector, List.take_left]

end Insert

section Encode

variable {coder : ConvolutionalCoder} {registers : List (List Bool)} {informationBits : List Bool}
  {symbols memorySizeSum : ℕ}

theorem Shaped.shiftIn (h : coder.Shaped registers) {inputSymbol : ShortBitVector}
    (hinput : inputSymbol.length = registers.length) :
    coder.Shaped (ConvolutionalCoder.shiftIn registers inputSymbol) := by
  have hmap (l : List (List Bool)) : l.map (fun register => (register.length : ℤ)) =
      (l.map List.length).map Nat.cast := by rw [List.map_map]; rfl
  rw [Shaped, hmap, length_shiftIn hinput, ← hmap]
  exact h

theorem Shaped.length_state (h : coder.Shaped registers) :
    ((registersState registers).length : ℤ) = coder.memorySizes.sum := by
  rw [length_registersState, Nat.cast_list_sum, List.map_map, ← h]
  rfl

theorem Regular.shaped_empty (h : coder.Regular) : coder.Shaped coder.emptyRegisters := by
  rw [Shaped, emptyRegisters, List.map_map]
  conv_rhs => rw [← List.map_id coder.memorySizes]
  refine List.map_congr_left fun memorySize hmem => ?_
  rw [Function.comp_apply, List.length_replicate, Int.toNat_of_nonneg (h.nonneg _ hmem), id]

theorem stateIndex_natCast {state : ℕ} (h : state < coder.numberOfStates) : coder.stateIndex state = .ok state := by
  rw [stateIndex, if_pos ⟨Int.natCast_nonneg _, by exact_mod_cast h⟩, Int.toNat_natCast]

variable (hproper : coder.Proper memorySizeSum)

include hproper

theorem Shaped.length_registers (h : coder.Shaped registers) : registers.length = coder.codeRateParamaterK := by
  rw [← hproper.length_memorySizes, ← h, List.length_map]

theorem Shaped.state_lt (h : coder.Shaped registers) : (registersState registers).length = memorySizeSum ∧
    (registersState registers).reverseToDecimal < coder.numberOfStates := by
  have hlength : (registersState registers).length = memorySizeSum := by
    exact_mod_cast h.length_state.trans hproper.sum_memorySizes
  refine ⟨hlength, ?_⟩
  rw [hproper.numberOfStates]
  exact reverseToDecimal_lt hlength

theorem Shaped.stateTransitions (h : coder.Shaped registers) {inputSymbol : ShortBitVector}
    (hinput : inputSymbol.length = coder.codeRateParamaterK) :
    coder.stateTransitions (registersState registers).reverseToDecimal inputSymbol.reverseToDecimal =
      (registersState (ConvolutionalCoder.shiftIn registers inputSymbol)).reverseToDecimal := by
  obtain ⟨hlength, -⟩ := h.state_lt hproper
  obtain ⟨next, hnext, heq⟩ := hproper.stateTransitions _ inputSymbol hlength hinput
  rw [nextState_registersState hproper.toRegular h (hinput.trans (h.length_registers hproper).symm)
    (hlength ▸ hproper.memorySizeSum_lt)] at hnext
  rw [heq, Except.ok.inj hnext]

theorem encodeSymbols_eq (h : coder.Shaped registers)
    (hbits : informationBits.length = symbols * coder.codeRateParamaterK) :
    coder.encodeSymbols symbols (registersState registers).reverseToDecimal informationBits =
      .ok (coder.shiftRegisterEncode symbols registers informationBits) := by
  induction symbols generalizing registers informationBits with
  | zero => rfl
  | succ symbols ih =>
    rw [Nat.succ_mul] at hbits
    have hinput : (informationBits.take coder.codeRateParamaterK).length = coder.codeRateParamaterK := by
      rw [List.length_take, hbits]
      omega
    have hdrop : (informationBits.drop coder.codeRateParamaterK).length = symbols * coder.codeRateParamaterK := by
      rw [List.length_drop, hbits]
      omega
    obtain ⟨hlength, hlt⟩ := h.state_lt hproper
    rw [encodeSymbols, stateIndex_natCast hlt]
    change (coder.encodeSymbols symbols _ _ >>= _) = _
    rw [h.stateTransitions hproper hinput,
      ih (h.shiftIn (hinput.trans (h.length_registers hproper).symm)) hdrop]
    change Except.ok _ = _
    rw [hproper.outputSymbols _ _ hlength hinput]
    rfl

omit hproper in
theorem state_emptyRegisters : (registersState coder.emptyRegisters).reverseToDecimal = 0 := by
  refine reverseToDecimal_eq_zero fun b hb => ?_
  obtain ⟨register, hregister, hb⟩ := List.mem_flatten.mp hb
  obtain ⟨memorySize, -, rfl⟩ := List.mem_map.mp (List.mem_reverse.mp hregister)
  exact List.eq_of_mem_replicate hb

theorem Shaped.state_eq_zero (h : coder.Shaped registers) :
    (registersState registers).reverseToDecimal = 0 ↔ registers = coder.emptyRegisters := by
  constructor
  · intro hzero
    have hempty := hproper.shaped_empty
    rw [← @state_emptyRegisters coder] at hzero
    have hstate := reverseToDecimal_inj ((h.state_lt hproper).1.trans (hempty.state_lt hproper).1.symm) hzero
    have hlengths : registers.map List.length = coder.emptyRegisters.map List.length := by
      refine List.map_injective_iff.mpr (Nat.cast_injective (R := ℤ)) ?_
      rw [List.map_map, List.map_map]
      exact h.trans hempty.symm
    refine List.reverse_injective (List.eq_iff_flatten_eq.mpr ⟨hstate, ?_⟩)
    rw [List.map_reverse, List.map_reverse, hlengths]
  · intro heq
    rw [heq, state_emptyRegisters]

omit hproper in
theorem exists_flatten {sizes : List ℤ} (hnonneg : ∀ size ∈ sizes, 0 ≤ size) :
    ∀ v : List Bool, (v.length : ℤ) = sizes.sum → ∃ registers : List (List Bool),
      registers.map (fun register => (register.length : ℤ)) = sizes ∧ registers.flatten = v := by
  induction sizes with
  | nil => exact fun v hv => ⟨[], rfl, (List.length_eq_zero_iff.mp (by simpa using hv)).symm⟩
  | cons size sizes ih =>
    intro v hv
    rw [List.sum_cons] at hv
    obtain ⟨n, rfl⟩ := Int.eq_ofNat_of_zero_le (hnonneg size (.head _))
    have hrest : 0 ≤ sizes.sum := List.sum_nonneg fun size hsize => hnonneg size (.tail _ hsize)
    obtain ⟨registers, hlengths, hflatten⟩ := ih (fun size hsize => hnonneg size (.tail _ hsize))
      (v.drop n) (by rw [List.length_drop]; omega)
    refine ⟨v.take n :: registers, ?_, by rw [List.flatten_cons, hflatten, List.take_append_drop]⟩
    rw [List.map_cons, hlengths, List.length_take_of_le (by omega)]

theorem exists_registers {s : ℕ} (hs : s < coder.numberOfStates) :
    ∃ registers, coder.Shaped registers ∧ (registersState registers).reverseToDecimal = s := by
  rw [hproper.numberOfStates] at hs
  obtain ⟨v, hv, rfl⟩ := exists_reverseToDecimal hs
  obtain ⟨registers, hlengths, rfl⟩ := exists_flatten
    (fun size hsize => hproper.nonneg size (List.mem_reverse.mp hsize)) v
    (by rw [List.sum_reverse, hproper.sum_memorySizes, hv])
  refine ⟨registers.reverse, ?_, by rw [registersState, List.reverse_reverse]⟩
  rw [Shaped, List.map_reverse, hlengths, List.reverse_reverse]

theorem length_outputSymbol (state inputSymbol : ShortBitVector) :
    (inputSymbolToOutputSymbol coder.codeRateParamaterN coder.memorySizes coder.transferFunctionMatrix state
      inputSymbol).length = coder.codeRateParamaterN := by
  have hloop (pieces : List (Bool × ℤ × List ShortBitVector))
      (hrows : ∀ p ∈ pieces, p.2.2.length = coder.codeRateParamaterN) :
      ∀ (shift : ℤ) (outputSymbol : ShortBitVector), outputSymbol.length = coder.codeRateParamaterN →
        (outputLoop state shift pieces outputSymbol).length = coder.codeRateParamaterN := by
    induction pieces with
    | nil => exact fun _ _ h => h
    | cons p rest ih =>
      intro shift outputSymbol h
      obtain ⟨bit, memorySize, row⟩ := p
      refine ih (fun q hq => hrows q (.tail _ hq)) _ _ ?_
      have hrow : row.length = coder.codeRateParamaterN := hrows _ (.head _)
      rw [List.length_zipWith, List.length_map, h, hrow, min_self]
  refine hloop _ (fun p hp => ?_) _ _ List.length_replicate
  exact hproper.length_rows _ (List.of_mem_zip (List.of_mem_zip (List.mem_reverse.mp hp)).2).2

theorem row_of_input {s i : ℕ} (hs : s < coder.numberOfStates) (hi : i < 2 ^ coder.codeRateParamaterK) :
    (∃ s' < coder.numberOfStates, coder.stateTransitions s i = s') ∧
      (coder.outputSymbols s i).length = coder.codeRateParamaterN := by
  obtain ⟨registers, hshaped, rfl⟩ := exists_registers hproper hs
  obtain ⟨inputSymbol, hinput, rfl⟩ := exists_reverseToDecimal hi
  have hnext := hshaped.shiftIn (hinput.trans (hshaped.length_registers hproper).symm)
  refine ⟨⟨_, (hnext.state_lt hproper).2, hshaped.stateTransitions hproper hinput⟩, ?_⟩
  rw [hproper.outputSymbols _ _ (hshaped.state_lt hproper).1 hinput]
  exact length_outputSymbol hproper _ _

end Encode

section Accepted

variable {code : ConvolutionalCode} {coder : ConvolutionalCoder}

/-- The tables give the code that the shift registers define. -/
def EncodesByRegisters (coder : ConvolutionalCoder) : Prop :=
  ∀ informationBits : List Bool, informationBits.length % coder.codeRateParamaterK = 0 →
    coder.encodeUnpunctured informationBits = .ok (coder.shiftRegisterEncode
      (informationBits.length / coder.codeRateParamaterK) coder.emptyRegisters informationBits)

/-- Distinct input symbols have distinct output symbols in every state. -/
def DistinctOutputs (coder : ConvolutionalCoder) : Prop :=
  ∀ s < coder.numberOfStates, ∀ i < 2 ^ coder.codeRateParamaterK, ∀ j < 2 ^ coder.codeRateParamaterK,
    coder.outputSymbols s i = coder.outputSymbols s j → i = j

variable {memorySizeSum : ℕ}

theorem Proper.encodesByRegisters (h : coder.Proper memorySizeSum) : coder.EncodesByRegisters := by
  intro informationBits hbits
  rw [encodeUnpunctured, if_neg (not_not.mpr hbits)]
  have hencode := encodeSymbols_eq h h.shaped_empty
    (Nat.div_mul_cancel (Nat.dvd_of_mod_eq_zero hbits)).symm
  rwa [state_emptyRegisters] at hencode

theorem not_encodesByRegisters_of_states (hK : 0 < coder.codeRateParamaterK) (h : coder.numberOfStates = 0) :
    ¬coder.EncodesByRegisters := by
  intro hencodes
  have hencode := hencodes (List.replicate coder.codeRateParamaterK false) (by simp)
  rw [encodeUnpunctured, List.length_replicate, Nat.mod_self, if_neg (not_not.mpr rfl), Nat.div_self hK, encodeSymbols,
    stateIndex, if_neg (by rw [h]; omega)] at hencode
  cases hencode

theorem setBit_eq_ok {v v' : Shifted} {pos : ℤ} {value : Bool} (h : v.setBit pos value = .ok v') : ∃ n : ℕ,
    pos = n ∧ v'.bits = (v.bits ++ List.replicate (n + 1 - v.bits.length) false).set n value ∧
      v'.size = max v.size (n + 1) := by
  unfold Shifted.setBit at h
  split at h
  · next hpos =>
    obtain ⟨n, rfl⟩ := Int.eq_ofNat_of_zero_le hpos.1
    cases h
    exact ⟨n, rfl, rfl, rfl⟩
  · cases h

/-- A vector with a bit at its front that has grown by the input bits. -/
structure Grown (size : ℕ) (v : Shifted) : Prop where
  front : v.bits.head? = some true
  size_le : size ≤ v.size
  bits_le : v.size ≤ v.bits.length

theorem setBit_true {v v' : Shifted} {pos : ℤ} (h : v.setBit pos true = .ok v')
    (hfront : v.bits.head? = some true ∨ pos = 0) (hbits : v.size ≤ v.bits.length) :
    Grown v.size v' ∧ pos + 1 ≤ v'.size := by
  obtain ⟨n, rfl, hv', hsize⟩ := setBit_eq_ok h
  refine ⟨⟨?_, by omega, ?_⟩, by omega⟩
  · rw [hv', List.head?_eq_getElem?, List.getElem?_set]
    by_cases hn : n = 0
    · subst hn
      have hlength : 0 < (v.bits ++ List.replicate (0 + 1 - v.bits.length) false).length := by
        rw [List.length_append, List.length_replicate]
        omega
      rw [if_pos rfl, if_pos hlength]
    · rw [if_neg hn]
      rcases hfront with hfront | hfront
      · rw [List.head?_eq_getElem?] at hfront
        rw [List.getElem?_append_left (List.getElem?_eq_some_iff.mp hfront).1]
        exact hfront
      · exact absurd (Int.natCast_eq_zero.mp hfront) hn
  · rw [hv', hsize, List.length_set, List.length_append, List.length_replicate]
    omega

/-- The bits of the inputs are set, and the last one makes the vector grow when its register has no bit. -/
theorem insertInputs_true {pieces : List (Bool × ℤ)} {v v' : Shifted} {shift : ℤ}
    (h : insertInputs shift pieces v = .ok v') (hshift : 0 ≤ shift) (htrue : ∀ p ∈ pieces, p.1 = true ∧ 0 ≤ p.2)
    (hfront : v.bits.head? = some true ∨ shift = 0 ∧ pieces ≠ []) (hbits : v.size ≤ v.bits.length) :
    Grown v.size v' ∧ ∀ p ∈ pieces.getLast?, p.2 = 0 → shift + (pieces.map (·.2)).sum + 1 ≤ v'.size := by
  induction pieces generalizing v shift with
  | nil =>
    rcases hfront with hfront | ⟨-, hnil⟩
    · cases h
      exact ⟨⟨hfront, le_rfl, hbits⟩, fun p hp => by cases hp⟩
    · exact absurd rfl hnil
  | cons p rest ih =>
    obtain ⟨bit, memorySize⟩ := p
    obtain ⟨rfl, hmemory⟩ := htrue (bit, memorySize) (.head _)
    rw [insertInputs, bind_eq_ok_iff] at h
    obtain ⟨w, hset, hrest⟩ := h
    obtain ⟨hgrown, hpos⟩ := setBit_true hset (hfront.imp_right (·.1)) hbits
    obtain ⟨hgrown', hlast⟩ := ih hrest (by omega) (fun q hq => htrue q (.tail _ hq))
      (.inl hgrown.front) hgrown.bits_le
    have hle := hgrown'.size_le
    refine ⟨⟨hgrown'.front, hgrown.size_le.trans hle, hgrown'.bits_le⟩, fun q hq hzero => ?_⟩
    rw [List.map_cons, List.sum_cons]
    cases hlast? : rest.getLast? with
    | none =>
      rw [List.getLast?_eq_none_iff] at hlast?
      subst hlast?
      cases hq
      rw [List.map_nil, List.sum_nil, show memorySize = 0 from hzero]
      omega
    | some q' =>
      rw [List.getLast?_cons, hlast?] at hq
      cases hq
      have := hlast q' (by rw [hlast?]; rfl) hzero
      omega

/-- A vector with a set bit at its front is behind the states when it has grown. -/
theorem Grown.le_reverseToDecimal {size memorySizeSum : ℕ} {v : Shifted} (h : Grown size v)
    (hsize : memorySizeSum + 1 ≤ v.size) : 2 ^ memorySizeSum ≤ v.toVector.reverseToDecimal := by
  obtain ⟨bits, n⟩ := v
  obtain ⟨hfront, -, hbits⟩ := h
  cases bits with
  | nil => cases hfront
  | cons b bits =>
    cases hfront
    cases n with
    | zero => cases hsize
    | succ n =>
      have hlength : (bits.take n).length = n := List.length_take_of_le (Nat.le_of_succ_le_succ hbits)
      have hle := ShortBitVector.le_reverseToDecimal (bits.take n)
      rw [hlength] at hle
      exact (Nat.pow_le_pow_right (by omega) (Nat.le_of_succ_le_succ hsize)).trans hle

/-- With no register for the first input bit, two input symbols of set bits lead behind the states. -/
theorem not_encodesByRegisters_of_first (htables : Tables coder memorySizeSum)
    (hsizes : coder.memorySizes.length = coder.codeRateParamaterK)
    (hsum : coder.memorySizes.sum = memorySizeSum) (hnonneg : ∀ memorySize ∈ coder.memorySizes, 0 ≤ memorySize)
    (hfirst : coder.memorySizes.head? = some 0) : ¬coder.EncodesByRegisters := by
  intro hencodes
  obtain ⟨sizes, hmemory⟩ : ∃ sizes, coder.memorySizes = 0 :: sizes := by
    cases hmemory : coder.memorySizes with
    | nil =>
      rw [hmemory] at hfirst
      cases hfirst
    | cons size sizes =>
      rw [hmemory] at hfirst
      exact ⟨sizes, by rw [Option.some.inj hfirst]⟩
  have hK : 0 < coder.codeRateParamaterK := by
    rw [← hsizes, hmemory]
    exact Nat.succ_pos _
  let ones : ShortBitVector := List.replicate coder.codeRateParamaterK true
  have hones : ones.length = coder.codeRateParamaterK := List.length_replicate
  have hstate : reverseToDecimal (List.replicate memorySizeSum false) = 0 :=
    reverseToDecimal_eq_zero fun b hb => List.eq_of_mem_replicate hb
  obtain ⟨next, hnext, htransition⟩ :=
    htables.stateTransitions (List.replicate memorySizeSum false) ones (by simp) hones
  rw [hstate] at htransition
  have hlarge : ¬(next.reverseToDecimal : ℤ) < coder.numberOfStates := by
    obtain ⟨v, hinsert, heq⟩ := bind_eq_ok_iff.mp hnext
    rw [← Except.ok.inj heq, htables.numberOfStates, not_lt]
    have htrue : ∀ p ∈ (ones.zip coder.memorySizes).reverse, p.1 = true ∧ 0 ≤ p.2 := by
      intro p hp
      have hp := List.mem_reverse.mp hp
      exact ⟨List.eq_of_mem_replicate (List.of_mem_zip hp).1, hnonneg _ (List.of_mem_zip hp).2⟩
    have hzip : ones.zip coder.memorySizes = (true, 0) :: (ones.tail).zip sizes := by
      obtain ⟨K, hK⟩ := Nat.exists_eq_succ_of_ne_zero hK.ne'
      simp only [ones, hK, hmemory]
      rfl
    have hlast : (ones.zip coder.memorySizes).reverse.getLast? = some (true, 0) := by
      rw [List.getLast?_reverse, hzip]
      rfl
    obtain ⟨hgrown, hgrows⟩ := insertInputs_true hinsert le_rfl htrue
      (.inr ⟨rfl, fun hnil => by rw [hnil] at hlast; cases hlast⟩) (by simp [leftShift])
    have hsize := hgrows _ hlast rfl
    rw [List.map_reverse, List.sum_reverse, List.map_snd_zip (hsizes.trans hones.symm).le, hsum] at hsize
    exact_mod_cast hgrown.le_reverseToDecimal (by omega)
  have hmod : (ones ++ ones).length % coder.codeRateParamaterK = 0 := by
    rw [List.length_append, hones, ← Nat.two_mul, Nat.mul_mod_left]
  have hdiv : (ones ++ ones).length / coder.codeRateParamaterK = 2 := by
    rw [List.length_append, hones, ← Nat.two_mul, Nat.mul_div_cancel _ hK]
  have hstates : 0 < coder.numberOfStates := htables.numberOfStates ▸ Nat.two_pow_pos _
  have hencode := hencodes (ones ++ ones) hmod
  rw [encodeUnpunctured, if_neg (not_not.mpr hmod), hdiv, encodeSymbols, ← Nat.cast_zero, stateIndex_natCast hstates]
    at hencode
  change (coder.encodeSymbols 1 _ _ >>= _) = _ at hencode
  rw [List.take_left' hones, htransition, encodeSymbols, stateIndex, if_neg fun h => hlarge h.2] at hencode
  cases hencode

theorem exists_split {A B : Type} {R : A → B → Prop} {l : List A} {l' : List B} {a : A} (h : List.Forall₂ R l l')
    (ha : a ∈ l) : ∃ before after before' b after', l = before ++ a :: after ∧ l' = before' ++ b :: after' ∧
      before.length = before'.length ∧ R a b := by
  induction h with
  | nil => cases ha
  | @cons a₀ b₀ l l' hab _ ih =>
    rcases List.mem_cons.mp ha with rfl | ha
    · exact ⟨[], l, [], b₀, l', rfl, rfl, rfl, hab⟩
    · obtain ⟨before, after, before', b, after', rfl, rfl, hlength, hR⟩ := ih ha
      exact ⟨a₀ :: before, after, b₀ :: before', b, after', rfl, rfl, congrArg Nat.succ hlength, hR⟩

theorem outputLoop_of_empty {state : ShortBitVector} {before after : List (Bool × ℤ × List ShortBitVector)}
    {row : List ShortBitVector} (hrow : ∀ polynomial ∈ row, polynomial = []) (bit bit' : Bool) (memorySize : ℤ) :
    ∀ (shift : ℤ) (outputSymbol : ShortBitVector),
      outputLoop state shift (before ++ (bit, memorySize, row) :: after) outputSymbol =
        outputLoop state shift (before ++ (bit', memorySize, row) :: after) outputSymbol := by
  induction before with
  | nil =>
    intro shift outputSymbol
    have hadders : row.map (modulo2Adder (bit :: registerBits state shift memorySize)) =
        row.map (modulo2Adder (bit' :: registerBits state shift memorySize)) := by
      refine List.map_congr_left fun polynomial hmem => ?_
      rw [hrow polynomial hmem, modulo2Adder, modulo2Adder, List.zip_nil_right, List.zip_nil_right]
    rw [List.nil_append, List.nil_append, outputLoop, outputLoop, hadders]
  | cons p before ih =>
    intro shift outputSymbol
    obtain ⟨b, m, r⟩ := p
    exact ih _ _

theorem constraintLengths_pos (hpolynomials : Polynomials code coder)
    (htables : Tables coder memorySizeSum) (hdistinct : coder.DistinctOutputs) :
    ∀ constraintLength ∈ code.constraintLengthVector, 1 ≤ constraintLength := by
  intro constraintLength hmem
  by_contra hlt
  obtain ⟨before, after, before', row, after', hlengths, hmatrix, hbefore, -, hrow⟩ :=
    exists_split hpolynomials.rows hmem
  have hempty : ∀ polynomial ∈ row, polynomial = [] := by
    intro polynomial hpolynomial
    have := hrow polynomial hpolynomial
    exact List.length_eq_zero_iff.mp (by omega)
  have hK : coder.codeRateParamaterK = before.length + (after.length + 1) := by
    rw [← hpolynomials.constraintLengths, hlengths, List.length_append, List.length_cons]
  let symbol (bit : Bool) : ShortBitVector := List.replicate before.length false ++ bit :: List.replicate after.length false
  have hsymbol (bit : Bool) : (symbol bit).length = coder.codeRateParamaterK := by simp [symbol, hK]
  have hzip (bit : Bool) : (symbol bit).zip (coder.memorySizes.zip coder.transferFunctionMatrix) =
      (List.replicate before.length false).zip ((before.map (· - 1)).zip before') ++
        (bit, constraintLength - 1, row) ::
          (List.replicate after.length false).zip ((after.map (· - 1)).zip after') := by
    rw [hpolynomials.memorySizes, hlengths, hmatrix, List.map_append, List.map_cons,
      List.zip_append (by simpa using hbefore), List.zip_cons_cons, List.zip_append (by simp [hbefore]),
      List.zip_cons_cons]
  have houtput : inputSymbolToOutputSymbol coder.codeRateParamaterN coder.memorySizes coder.transferFunctionMatrix
      (List.replicate memorySizeSum false) (symbol true) =
        inputSymbolToOutputSymbol coder.codeRateParamaterN coder.memorySizes coder.transferFunctionMatrix
          (List.replicate memorySizeSum false) (symbol false) := by
    rw [inputSymbolToOutputSymbol, inputSymbolToOutputSymbol, hzip, hzip, List.reverse_append, List.reverse_append,
      List.reverse_cons, List.reverse_cons, List.append_assoc, List.append_assoc]
    exact outputLoop_of_empty hempty true false _ _ _
  have hstate : (List.replicate memorySizeSum false).length = memorySizeSum := List.length_replicate
  rw [← htables.outputSymbols _ _ hstate (hsymbol true), ← htables.outputSymbols _ _ hstate (hsymbol false)] at houtput
  have hdecimal := hdistinct _ (htables.numberOfStates ▸ reverseToDecimal_lt hstate) _
    (reverseToDecimal_lt (hsymbol true)) _ (reverseToDecimal_lt (hsymbol false)) houtput
  have hequal := reverseToDecimal_inj ((hsymbol true).trans (hsymbol false).symm) hdecimal
  have hbit := (List.append_cancel_left hequal)
  cases hbit

theorem new_proper (h : new code = .ok coder) (hregular : coder.Regular) :
    coder.Proper coder.memorySizes.sum.toNat := by
  have hpolynomials := new_polynomials h
  have hsum : 0 ≤ coder.memorySizes.sum := List.sum_nonneg hregular.nonneg
  have hle := hpolynomials.memorySizes_le
  refine ⟨new_tables h hsum, hregular, (Int.toNat_of_nonneg hsum).symm, by omega, ?_, fun row hrow => ?_,
    hpolynomials.outputs_le⟩
  · rw [hpolynomials.memorySizes, List.length_map, hpolynomials.constraintLengths]
  · obtain ⟨-, -, -, constraintLength, -, -, -, -, hrow', -⟩ := exists_split hpolynomials.rows.flip hrow
    exact hrow'

theorem regular_of_constraintLengths (hpolynomials : Polynomials code coder)
    (h : (∀ constraintLength ∈ code.constraintLengthVector, 1 ≤ constraintLength) ∧
      ∀ constraintLength ∈ code.constraintLengthVector.head?, 2 ≤ constraintLength) : coder.Regular := by
  constructor
  · intro memorySize hmem
    rw [hpolynomials.memorySizes] at hmem
    obtain ⟨c, hc, rfl⟩ := List.mem_map.mp hmem
    have := h.1 c hc
    omega
  · intro memorySize hhead
    rw [hpolynomials.memorySizes, List.head?_map] at hhead
    obtain ⟨c, hc, rfl⟩ := Option.map_eq_some_iff.mp hhead
    have := h.2 c hc
    omega

/-- The tables of a code with distinct outputs give its shift registers when that of the first input bit has a
bit. -/
theorem encodesByRegisters_iff_regular (h : new code = .ok coder) (hdistinct : coder.DistinctOutputs) :
    coder.EncodesByRegisters ↔ (∀ constraintLength ∈ code.constraintLengthVector, 1 ≤ constraintLength) ∧
      ∀ constraintLength ∈ code.constraintLengthVector.head?, 2 ≤ constraintLength := by
  have hpolynomials := new_polynomials h
  have hK := hpolynomials.inputs_pos
  have hsizes : coder.memorySizes.length = coder.codeRateParamaterK := by
    rw [hpolynomials.memorySizes, List.length_map, hpolynomials.constraintLengths]
  constructor
  · intro hencodes
    have hsum : 0 ≤ coder.memorySizes.sum := by
      by_contra hneg
      exact not_encodesByRegisters_of_states hK (hpolynomials.states_of_neg (not_le.mp hneg)) hencodes
    have htables := new_tables h hsum
    have hpos := constraintLengths_pos hpolynomials htables hdistinct
    refine ⟨hpos, fun constraintLength hhead => ?_⟩
    by_contra hlt
    refine not_encodesByRegisters_of_first htables hsizes (Int.toNat_of_nonneg hsum).symm ?_ ?_ hencodes
    · intro memorySize hmem
      rw [hpolynomials.memorySizes] at hmem
      obtain ⟨c, hc, rfl⟩ := List.mem_map.mp hmem
      have := hpos c hc
      omega
    · have := hpos _ (List.mem_of_mem_head? hhead)
      rw [hpolynomials.memorySizes, List.head?_map, Option.mem_def.mp hhead, Option.map_some,
        show constraintLength - 1 = 0 by omega]
  · exact fun hlengths => (new_proper h (regular_of_constraintLengths hpolynomials hlengths)).encodesByRegisters

end Accepted

end inet.physicallayer.ConvolutionalCoder
