import LoRaInet.PhysicalLayer.ConvolutionalCoder

open omnetpp

namespace inet

namespace ShortBitVector

@[simp] theorem length_ofDecimal (n size : ℕ) : (ofDecimal n size).length = size := by simp [ofDecimal]

theorem ofDecimal_succ (n size : ℕ) : ofDecimal n (size + 1) = n.testBit 0 :: ofDecimal (n / 2) size := by
  simp [ofDecimal, List.range_succ_eq_map, Function.comp_def, Nat.testBit_succ]

variable (v : ShortBitVector)

theorem toDecimal_lt : toDecimal v < 2 ^ v.length := by
  induction v with
  | nil => simp [toDecimal]
  | cons b v ih =>
    have hb := b.toNat_le
    rw [toDecimal, List.length_cons, pow_succ]
    omega

theorem toDecimal_ofDecimal (size : ℕ) : ∀ n < 2 ^ size, toDecimal (ofDecimal n size) = n := by
  induction size with
  | zero =>
    intro n hn
    have : n = 0 := by simpa using hn
    rw [this]
    rfl
  | succ size ih =>
    intro n hn
    rw [pow_succ] at hn
    rw [ofDecimal_succ, toDecimal, ih (n / 2) (by omega), Nat.testBit_zero]
    rcases Nat.mod_two_eq_zero_or_one n with h | h
    · simp only [h]
      simp
      omega
    · simp only [h]
      simp
      omega

theorem toDecimal_inj : ∀ {v w : ShortBitVector}, v.length = w.length → toDecimal v = toDecimal w → v = w
  | [], [], _, _ => rfl
  | b :: v, c :: w, hlength, h => by
    rw [toDecimal, toDecimal] at h
    have hb := b.toNat_le
    have hc := c.toNat_le
    have hbc : b = c := by
      cases b <;> cases c <;> simp only [Bool.toNat_true, Bool.toNat_false] at * <;> omega
    subst hbc
    rw [toDecimal_inj (Nat.succ.inj hlength) (by omega : toDecimal v = toDecimal w)]

theorem reverseToDecimal_eq : reverseToDecimal v = toDecimal v.reverse := by
  have h (w : List Bool) : w.reverse.foldl (fun decimal b => 2 * decimal + b.toNat) 0 = toDecimal w := by
    induction w with
    | nil => rfl
    | cons b w ih => rw [List.reverse_cons, List.foldl_append, ih, List.foldl_cons, List.foldl_nil, toDecimal,
        Nat.add_comm]
  rw [reverseToDecimal, ← h, List.reverse_reverse]

theorem reverseToDecimal_lt {v : ShortBitVector} {size : ℕ} (h : v.length = size) :
    reverseToDecimal v < 2 ^ size := by
  rw [reverseToDecimal_eq, ← h, ← v.length_reverse]
  exact toDecimal_lt _

theorem reverseToDecimal_inj {v w : ShortBitVector} (hlength : v.length = w.length)
    (h : reverseToDecimal v = reverseToDecimal w) : v = w := by
  rw [reverseToDecimal_eq, reverseToDecimal_eq] at h
  exact List.reverse_injective (toDecimal_inj (by simpa using hlength) h)

theorem reverseToDecimal_eq_zero {v : ShortBitVector} (h : ∀ b ∈ v, b = false) : reverseToDecimal v = 0 := by
  have hzero (w : List Bool) (hw : ∀ b ∈ w, b = false) : toDecimal w = 0 := by
    induction w with
    | nil => rfl
    | cons b w ih =>
      rw [toDecimal, hw b (.head _), ih fun c hc => hw c (.tail _ hc)]
      rfl
  rw [reverseToDecimal_eq]
  exact hzero _ fun b hb => h b (List.mem_reverse.mp hb)

theorem le_reverseToDecimal : 2 ^ v.length ≤ reverseToDecimal (true :: v) := by
  have hsnoc (w : List Bool) : 2 ^ w.length ≤ toDecimal (w ++ [true]) := by
    induction w with
    | nil => simp [toDecimal]
    | cons b w ih =>
      rw [List.cons_append, toDecimal, List.length_cons, pow_succ]
      omega
  rw [reverseToDecimal_eq, List.reverse_cons, ← v.length_reverse]
  exact hsnoc _

theorem exists_ofDecimal {v : ShortBitVector} {size : ℕ} (h : v.length = size) :
    ∃ n < 2 ^ size, ofDecimal n size = v := by
  refine ⟨toDecimal v, h ▸ toDecimal_lt v, toDecimal_inj (by rw [length_ofDecimal, h]) ?_⟩
  exact toDecimal_ofDecimal size _ (h ▸ toDecimal_lt v)

theorem exists_reverseToDecimal {n size : ℕ} (h : n < 2 ^ size) :
    ∃ v : ShortBitVector, v.length = size ∧ reverseToDecimal v = n := by
  refine ⟨(ofDecimal n size).reverse, by simp, ?_⟩
  rw [reverseToDecimal_eq, List.reverse_reverse, toDecimal_ofDecimal size n h]

end ShortBitVector

namespace physicallayer.ConvolutionalCoder

open ShortBitVector

section Tables

variable {A : Type} {table : ℕ → ℕ → A} {entries : List (ℕ × ℕ × A)} {row column : ℕ} {entry : A}

theorem fill_of_notMem (h : ∀ a, (row, column, a) ∉ entries) : fill table entries row column = table row column := by
  induction entries generalizing table with
  | nil => rfl
  | cons e entries ih =>
    obtain ⟨r, c, a⟩ := e
    rw [fill, ih fun a ha => h a (.tail _ ha), if_neg]
    rintro ⟨rfl, rfl⟩
    exact h a (.head _)

/-- Entries at one place agree, so that it does not matter which one is the last. -/
theorem fill_of_mem (h : (row, column, entry) ∈ entries) (hall : ∀ a, (row, column, a) ∈ entries → a = entry) :
    fill table entries row column = entry := by
  induction entries generalizing table with
  | nil => cases h
  | cons e entries ih =>
    obtain ⟨r, c, a⟩ := e
    have hall' (b : A) (hb : (row, column, b) ∈ entries) : b = entry := hall b (.tail _ hb)
    rw [fill]
    by_cases hmem : (row, column, entry) ∈ entries
    · exact ih hmem hall'
    · rw [fill_of_notMem fun b hb => hmem (hall' b hb ▸ hb)]
      rcases List.mem_cons.mp h with heq | heq
      · cases heq
        rw [if_pos ⟨rfl, rfl⟩]
      · exact absurd heq hmem

theorem fill_mem (table : ℕ → ℕ → A) (h : (row, column, entry) ∈ entries) :
    (row, column, fill table entries row column) ∈ entries := by
  induction entries generalizing table entry with
  | nil => cases h
  | cons e entries ih =>
    obtain ⟨r, c, a⟩ := e
    rw [fill]
    by_cases hmem : ∃ b, (row, column, b) ∈ entries
    · obtain ⟨b, hb⟩ := hmem
      exact .tail _ (ih _ hb)
    · rw [fill_of_notMem (not_exists.mp hmem)]
      rcases List.mem_cons.mp h with heq | heq
      · cases heq
        rw [if_pos ⟨rfl, rfl⟩]
        exact (.head _)
      · exact absurd ⟨entry, heq⟩ hmem

theorem symbolTable_reverseToDecimal {size : ℕ} {v : ShortBitVector} (h : v.length = size) :
    symbolTable size (reverseToDecimal v) = v := by
  refine fill_of_mem ?_ fun w hw => ?_
  · obtain ⟨n, hn, rfl⟩ := exists_ofDecimal h
    exact List.mem_map.mpr ⟨n, List.mem_range.mpr hn, rfl⟩
  · obtain ⟨n, hn, heq⟩ := List.mem_map.mp hw
    simp only [Prod.mk.injEq, true_and] at heq
    obtain ⟨hdecimal, rfl⟩ := heq
    exact reverseToDecimal_inj (by rw [length_ofDecimal, h]) hdecimal

theorem mem_stateInputs {numberOfStates numberOfInputSymbols : ℕ} {p : ℕ × ℕ} :
    p ∈ stateInputs numberOfStates numberOfInputSymbols ↔ p.1 < numberOfStates ∧ p.2 < numberOfInputSymbols := by
  obtain ⟨s, i⟩ := p
  simp [stateInputs]

end Tables

/-- The polynomials of an accepted code. -/
structure Polynomials (code : ConvolutionalCode) (coder : ConvolutionalCoder) : Prop where
  inputs_pos : 0 < coder.codeRateParamaterK
  constraintLengths : code.constraintLengthVector.length = coder.codeRateParamaterK
  memorySizes : coder.memorySizes = code.constraintLengthVector.map (· - 1)
  memorySizes_le : coder.memorySizes.sum ≤ 30
  states_of_neg : coder.memorySizes.sum < 0 → coder.numberOfStates = 0
  puncturingMatrix : coder.puncturingMatrix.length = coder.codeRateParamaterN
  outputs_le : coder.codeRateParamaterN ≤ 30
  rows : List.Forall₂ (fun constraintLength row => row.length = coder.codeRateParamaterN ∧
    ∀ polynomial ∈ row, (polynomial.length : ℤ) = constraintLength) code.constraintLengthVector
      coder.transferFunctionMatrix
  mode : coder.mode = "terminated" ∨ coder.mode = "truncated"

/-- What the entries of the tables are. -/
structure Tables (coder : ConvolutionalCoder) (memorySizeSum : ℕ) : Prop where
  numberOfStates : coder.numberOfStates = 2 ^ memorySizeSum
  decimalToInputSymbol : ∀ inputSymbol : ShortBitVector, inputSymbol.length = coder.codeRateParamaterK →
    coder.decimalToInputSymbol inputSymbol.reverseToDecimal = inputSymbol
  decimalToOutputSymbol : ∀ outputSymbol : ShortBitVector, outputSymbol.length = coder.codeRateParamaterN →
    coder.decimalToOutputSymbol outputSymbol.reverseToDecimal = outputSymbol
  outputSymbols : ∀ state inputSymbol : ShortBitVector, state.length = memorySizeSum →
    inputSymbol.length = coder.codeRateParamaterK →
      coder.outputSymbols state.reverseToDecimal inputSymbol.reverseToDecimal =
        inputSymbolToOutputSymbol coder.codeRateParamaterN coder.memorySizes coder.transferFunctionMatrix state
          inputSymbol
  inputSymbols : ∀ s < coder.numberOfStates, ∀ j, coder.inputSymbols s j = -1 ∨
    ∃ i : ℕ, i < 2 ^ coder.codeRateParamaterK ∧ coder.inputSymbols s j = i ∧
      (coder.outputSymbols s i).reverseToDecimal = j
  inputSymbols_outputSymbols : ∀ s < coder.numberOfStates, ∀ i < 2 ^ coder.codeRateParamaterK,
    coder.inputSymbols s (coder.outputSymbols s i).reverseToDecimal ≠ -1
  stateTransitions : ∀ state inputSymbol : ShortBitVector, state.length = memorySizeSum →
    inputSymbol.length = coder.codeRateParamaterK → ∃ next, nextState coder.memorySizes state inputSymbol = .ok next ∧
      coder.stateTransitions state.reverseToDecimal inputSymbol.reverseToDecimal = next.reverseToDecimal

section New

variable {code : ConvolutionalCode} {coder : ConvolutionalCoder} {N : ℕ} {puncturingMatrix : List ShortBitVector}
  {transferFunctionMatrix : List (List ShortBitVector)}

theorem length_of_octalToBinary {octalNum fixedSize : ℤ} {bits : ShortBitVector}
    (h : octalToBinary octalNum fixedSize = .ok bits) : (bits.length : ℤ) = fixedSize := by
  unfold octalToBinary at h
  split at h
  · next hsize =>
    rw [← Except.ok.inj h, length_ofDecimal, Int.toNat_of_nonneg hsize.1]
  · cases h

theorem exists_of_mem_of_mapM {A B : Type} {f : A → Except Fault B} {l : List A} {l' : List B} {b : B}
    (h : l.mapM f = .ok l') (hb : b ∈ l') : ∃ a ∈ l, f a = .ok b :=
  exists_of_forall₂ (mapM_eq_ok_iff.mp h).flip hb

theorem exists_mem_of_mapM {A B : Type} {f : A → Except Fault B} {l : List A} {l' : List B} {a : A}
    (h : l.mapM f = .ok l') (ha : a ∈ l) : ∃ b ∈ l', f a = .ok b :=
  exists_of_forall₂ (mapM_eq_ok_iff.mp h) ha

theorem length_of_setTransferFunctionMatrix {constraintLengths : List ℤ} {matrix : List (List ℤ)}
    (hlength : matrix.length = constraintLengths.length)
    (h : setTransferFunctionMatrix constraintLengths matrix = .ok transferFunctionMatrix)
    (hrows : ∀ row ∈ matrix, row.length = N) :
    List.Forall₂ (fun (constraintLength : ℤ) row => row.length = N ∧
      ∀ polynomial ∈ row, (List.length polynomial : ℤ) = constraintLength) constraintLengths
      transferFunctionMatrix := by
  rw [setTransferFunctionMatrix, mapM_eq_ok_iff] at h
  induction constraintLengths generalizing matrix transferFunctionMatrix with
  | nil =>
    rw [List.zip_nil_right, List.forall₂_nil_left_iff] at h
    rw [h]
    exact .nil
  | cons constraintLength constraintLengths ih =>
    cases matrix with
    | nil => cases hlength
    | cons elems matrix =>
      rw [List.zip_cons_cons, List.forall₂_cons_left_iff] at h
      obtain ⟨row, rows, hrow, hrest, rfl⟩ := h
      refine .cons ⟨?_, fun polynomial hmem => ?_⟩ (ih (Nat.succ.inj hlength) hrest
        fun row hrow => hrows row (.tail _ hrow))
      · rw [← (mapM_eq_ok_iff.mp hrow).length_eq]
        exact hrows elems (.head _)
      · obtain ⟨elem, -, hbits⟩ := exists_of_mem_of_mapM hrow hmem
        cases hbinary : octalToBinary elem constraintLength with
        | error f =>
          rw [hbinary] at hbits
          cases hbits
        | ok binary =>
          rw [hbinary] at hbits
          rw [← Except.ok.inj hbits, List.length_reverse, length_of_octalToBinary hbinary]

theorem new_eq_ok (h : new code = .ok coder) : ∃ N puncturingMatrix transferFunctionMatrix,
    code.transferFunctionMatrix ≠ [] ∧ code.transferFunctionMatrix.length = code.constraintLengthVector.length ∧
    puncturingMatrix.length = N ∧
    List.Forall₂ (fun (constraintLength : ℤ) row => row.length = N ∧
      ∀ polynomial ∈ row, (List.length polynomial : ℤ) = constraintLength) code.constraintLengthVector
      transferFunctionMatrix ∧
    (code.mode = "terminated" ∨ code.mode = "truncated") ∧
    initParameters code N puncturingMatrix transferFunctionMatrix = .ok coder := by
  unfold new at h
  simp only [bind_eq_ok_iff, throwIf_eq_ok] at h
  obtain ⟨_, hmode, puncturingMatrix, -, h⟩ := h
  split at h
  · cases h
  · next firstRow hfirst =>
    simp only [bind_eq_ok_iff, throwIf_eq_ok, not_exists, not_and, not_not] at h
    obtain ⟨_, -, _, hrows, _, hlength, _, hpuncturing, transferFunctionMatrix, hset, hinit⟩ := h
    refine ⟨firstRow.length, puncturingMatrix, transferFunctionMatrix, fun hnil => ?_, hlength, hpuncturing,
      length_of_setTransferFunctionMatrix hlength hset hrows, ?_, hinit⟩
    · rw [hnil] at hfirst
      cases hfirst
    · tauto

theorem new_polynomials (h : new code = .ok coder) : Polynomials code coder := by
  obtain ⟨N, puncturingMatrix, transferFunctionMatrix, hne, hlength, hpuncturing, hrows, hmode, hinit⟩ :=
    new_eq_ok h
  unfold initParameters checkAllocations at hinit
  simp only [bind_eq_ok_iff, throwIf_eq_ok, not_or, not_lt] at hinit
  obtain ⟨_, ⟨hsum, -, hN⟩, transitions, -, heq⟩ := hinit
  rw [← Except.ok.inj heq]
  exact ⟨List.length_pos_iff.mpr hne, hlength.symm, rfl, hsum, fun hneg => if_pos hneg, hpuncturing, hN, hrows, hmode⟩

theorem ofDecimal_eq {n size : ℕ} {state : ShortBitVector} (hstate : state.length = size)
    (h : (ofDecimal n size).reverseToDecimal = state.reverseToDecimal) : ofDecimal n size = state :=
  reverseToDecimal_inj (by rw [length_ofDecimal, hstate]) h

theorem transitionEntry_eq_ok {memorySizes : List ℤ} {memorySizeSum : ℤ} {K : ℕ} {p : ℕ × ℕ} {entry : ℕ × ℕ × ℤ} :
    transitionEntry memorySizes memorySizeSum K p = .ok entry ↔
      ∃ next, nextState memorySizes (ofDecimal p.1 memorySizeSum.toNat) (ofDecimal p.2 K) = .ok next ∧
        entry = ((ofDecimal p.1 memorySizeSum.toNat).reverseToDecimal, (ofDecimal p.2 K).reverseToDecimal,
          (next.reverseToDecimal : ℤ)) := by
  unfold transitionEntry
  rw [bind_eq_ok_iff]
  refine exists_congr fun next => and_congr_right fun _ => ?_
  exact ⟨fun h => (Except.ok.inj h).symm, fun h => congrArg Except.ok h.symm⟩

theorem fill_transitions {memorySizes : List ℤ} {memorySizeSum : ℤ} {K numberOfStates : ℕ}
    {transitions : List (ℕ × ℕ × ℤ)} (hstates : numberOfStates = 2 ^ memorySizeSum.toNat)
    (h : (stateInputs numberOfStates (2 ^ K)).mapM (transitionEntry memorySizes memorySizeSum K) = .ok transitions)
    {state inputSymbol : ShortBitVector} (hstate : state.length = memorySizeSum.toNat)
    (hinput : inputSymbol.length = K) : ∃ next, nextState memorySizes state inputSymbol = .ok next ∧
      fill (fun _ _ => -1) transitions state.reverseToDecimal inputSymbol.reverseToDecimal =
        next.reverseToDecimal := by
  obtain ⟨n, hn, hnstate⟩ := exists_ofDecimal hstate
  obtain ⟨i, hi, hiinput⟩ := exists_ofDecimal hinput
  have hmem : (n, i) ∈ stateInputs numberOfStates (2 ^ K) := mem_stateInputs.mpr ⟨hstates ▸ hn, hi⟩
  obtain ⟨entry, hentry, heq⟩ := exists_mem_of_mapM h hmem
  obtain ⟨next, hnext, rfl⟩ := transitionEntry_eq_ok.mp heq
  simp only [hnstate, hiinput] at hnext hentry
  refine ⟨next, hnext, fill_of_mem hentry fun a ha => ?_⟩
  obtain ⟨p, -, hp⟩ := exists_of_mem_of_mapM h ha
  obtain ⟨next', hnext', heq'⟩ := transitionEntry_eq_ok.mp hp
  simp only [Prod.mk.injEq] at heq'
  obtain ⟨hp1, hp2, rfl⟩ := heq'
  rw [ofDecimal_eq hstate hp1.symm, ofDecimal_eq hinput hp2.symm, hnext] at hnext'
  rw [Except.ok.inj hnext']

section Symbols

variable {size K i j : ℕ} {state : ShortBitVector} (symbol : ShortBitVector → ℕ → ShortBitVector)

theorem fill_outputs (hstate : state.length = size) (hi : i < 2 ^ K) :
    fill (fun _ _ => []) ((stateInputs (2 ^ size) (2 ^ K)).map fun p =>
      ((ofDecimal p.1 size).reverseToDecimal, p.2, symbol (ofDecimal p.1 size) p.2)) state.reverseToDecimal i =
        symbol state i := by
  obtain ⟨n, hn, hnstate⟩ := exists_ofDecimal hstate
  refine fill_of_mem (List.mem_map.mpr ⟨(n, i), mem_stateInputs.mpr ⟨hn, hi⟩, by simp only [hnstate]⟩) fun a ha => ?_
  obtain ⟨p, -, hp⟩ := List.mem_map.mp ha
  simp only [Prod.mk.injEq] at hp
  obtain ⟨hp1, hp2, rfl⟩ := hp
  rw [ofDecimal_eq hstate hp1, hp2]

theorem fill_inputs (hstate : state.length = size) (j : ℕ) :
    fill (fun _ _ => -1) ((stateInputs (2 ^ size) (2 ^ K)).map fun p =>
      ((ofDecimal p.1 size).reverseToDecimal, (symbol (ofDecimal p.1 size) p.2).reverseToDecimal, (p.2 : ℤ)))
        state.reverseToDecimal j = -1 ∨
    ∃ i : ℕ, i < 2 ^ K ∧ fill (fun _ _ => -1) ((stateInputs (2 ^ size) (2 ^ K)).map fun p =>
      ((ofDecimal p.1 size).reverseToDecimal, (symbol (ofDecimal p.1 size) p.2).reverseToDecimal, (p.2 : ℤ)))
        state.reverseToDecimal j = i ∧ (symbol state i).reverseToDecimal = j := by
  generalize hentries : ((stateInputs (2 ^ size) (2 ^ K)).map fun p =>
    ((ofDecimal p.1 size).reverseToDecimal, (symbol (ofDecimal p.1 size) p.2).reverseToDecimal, (p.2 : ℤ))) = entries
  by_cases h : ∃ a, (state.reverseToDecimal, j, a) ∈ entries
  · obtain ⟨a, ha⟩ := h
    have hmem := fill_mem (fun _ _ => -1) ha
    rw [← hentries] at hmem
    obtain ⟨p, hp, heq⟩ := List.mem_map.mp hmem
    simp only [Prod.mk.injEq] at heq
    obtain ⟨hp1, hp2, hp3⟩ := heq
    rw [ofDecimal_eq hstate hp1] at hp2
    rw [hentries] at hp3
    exact .inr ⟨p.2, (mem_stateInputs.mp hp).2, hp3.symm, hp2⟩
  · exact .inl (fill_of_notMem (not_exists.mp h))

theorem fill_inputs_ne (hstate : state.length = size) (hi : i < 2 ^ K) :
    fill (fun _ _ => -1) ((stateInputs (2 ^ size) (2 ^ K)).map fun p =>
      ((ofDecimal p.1 size).reverseToDecimal, (symbol (ofDecimal p.1 size) p.2).reverseToDecimal, (p.2 : ℤ)))
        state.reverseToDecimal (symbol state i).reverseToDecimal ≠ -1 := by
  obtain ⟨n, hn, hnstate⟩ := exists_ofDecimal hstate
  have hmem := fill_mem (fun _ _ => -1) (List.mem_map.mpr ⟨(n, i), mem_stateInputs.mpr ⟨hn, hi⟩, rfl⟩ :
    ((ofDecimal n size).reverseToDecimal, (symbol (ofDecimal n size) i).reverseToDecimal, (i : ℤ)) ∈
      (stateInputs (2 ^ size) (2 ^ K)).map fun p => ((ofDecimal p.1 size).reverseToDecimal,
        (symbol (ofDecimal p.1 size) p.2).reverseToDecimal, (p.2 : ℤ)))
  rw [hnstate] at hmem
  obtain ⟨p, -, heq⟩ := List.mem_map.mp hmem
  simp only [Prod.mk.injEq] at heq
  rw [← heq.2.2]
  omega

end Symbols

theorem new_tables (h : new code = .ok coder) (hsum : 0 ≤ coder.memorySizes.sum) :
    Tables coder coder.memorySizes.sum.toNat := by
  obtain ⟨N, puncturingMatrix, transferFunctionMatrix, -, -, -, -, -, hinit⟩ := new_eq_ok h
  unfold initParameters checkAllocations at hinit
  simp only [bind_eq_ok_iff, throwIf_eq_ok, not_or, not_lt] at hinit
  obtain ⟨_, -, transitions, htransitions, heq⟩ := hinit
  have heq := (Except.ok.inj heq).symm
  subst heq
  have hstates : (if (List.map (· - 1) code.constraintLengthVector).sum < 0 then 0
      else 2 ^ (List.map (· - 1) code.constraintLengthVector).sum.toNat) =
        2 ^ (List.map (· - 1) code.constraintLengthVector).sum.toNat := if_neg (not_lt.mpr hsum)
  let output (state : ShortBitVector) (i : ℕ) := inputSymbolToOutputSymbol N
    (code.constraintLengthVector.map (· - 1)) transferFunctionMatrix state
      (symbolTable code.transferFunctionMatrix.length i)
  constructor
  · exact hstates
  · exact fun inputSymbol hinput => symbolTable_reverseToDecimal hinput
  · exact fun outputSymbol houtput => symbolTable_reverseToDecimal houtput
  · intro state inputSymbol hstate hinput
    simp only [hstates]
    refine (fill_outputs output hstate (reverseToDecimal_lt hinput)).trans ?_
    simp only [output]
    rw [symbolTable_reverseToDecimal hinput]
  · intro s hs j
    simp only [hstates] at hs ⊢
    obtain ⟨state, hstate, rfl⟩ := exists_reverseToDecimal hs
    rcases fill_inputs output hstate j with h | ⟨i, hi, h, hj⟩
    · exact .inl h
    · refine .inr ⟨i, hi, h, ?_⟩
      rw [← hj, ← fill_outputs output hstate hi]
  · intro s hs i hi
    simp only [hstates] at hs ⊢
    obtain ⟨state, hstate, rfl⟩ := exists_reverseToDecimal hs
    have h := fill_inputs_ne output hstate hi
    rwa [← fill_outputs output hstate hi] at h
  · exact fun state inputSymbol hstate hinput => fill_transitions hstates htransitions hstate hinput

end New

end physicallayer.ConvolutionalCoder

end inet

namespace inet.physicallayer.ConvolutionalCoder

open ShortBitVector

section Bytes

/-- The integer of four bytes. -/
def word (a b c d : ℕ) : ℕ := a + 256 * (b + 256 * (c + 256 * d))

/-- The sums of the bits of a byte in fields of two bits, then of four bits, then of eight. -/
def pairSums (a : ℕ) : ℕ := a - (a / 2 &&& 0x55)

def nibbleSums (a : ℕ) : ℕ := (a &&& 0x33) + (a / 4 &&& 0x33)

def byteSum (a : ℕ) : ℕ := (a + a / 16) &&& 0x0F

variable {a b c d m mask masks : ℕ}

theorem land_byte (ha : a < 256) (hmask : mask < 256) :
    (a + 256 * m) &&& (mask + 256 * masks) = (a &&& mask) + 256 * (m &&& masks) := by
  have hand : a &&& mask < 2 ^ 8 := Nat.and_lt_two_pow _ hmask
  refine Nat.eq_of_testBit_eq fun j => ?_
  rw [Nat.testBit_and, Nat.add_comm a, Nat.add_comm mask, Nat.add_comm (a &&& mask),
    show (256 : ℕ) = 2 ^ 8 from rfl, Nat.testBit_two_pow_mul_add m (show a < 2 ^ 8 from ha),
    Nat.testBit_two_pow_mul_add masks (show mask < 2 ^ 8 from hmask), Nat.testBit_two_pow_mul_add _ hand,
    Nat.testBit_and, Nat.testBit_and]
  split <;> rfl

theorem shift_land_byte {k : ℕ} (hk : k * (256 / k) = 256) (hmask : mask < 256)
    (hout : ∀ a < 256, ∀ r < k, (a / k + 256 / k * r) &&& mask = a / k &&& mask) (ha : a < 256) :
    (a + 256 * m) / k &&& (mask + 256 * masks) = (a / k &&& mask) + 256 * (m / k &&& masks) := by
  have hpos : 0 < k := Nat.pos_of_ne_zero (by rintro rfl; simp at hk)
  have hquarter : 0 < 256 / k := Nat.pos_of_ne_zero fun h => by simp [h] at hk
  have hdiv : (a + 256 * m) / k = (a / k + 256 / k * (m % k)) + 256 * (m / k) := by
    have hm := Nat.div_add_mod m k
    have : a + 256 * m = a + k * (256 / k * m) := by rw [← Nat.mul_assoc, hk]
    rw [this, Nat.add_mul_div_left _ _ hpos, Nat.add_assoc]
    congr 1
    conv_lhs => rw [← hm, Nat.mul_add, Nat.add_comm, ← Nat.mul_assoc, Nat.mul_comm (256 / k) k, hk]
  have hlt : a / k + 256 / k * (m % k) < 256 := by
    have hmod := Nat.mod_lt m hpos
    have hak : a / k < 256 / k := by
      rw [Nat.div_lt_iff_lt_mul hpos, Nat.mul_comm, hk]
      exact ha
    have hmul : 256 / k * (m % k) + 256 / k ≤ 256 / k * k := by
      rw [← Nat.mul_succ]
      exact Nat.mul_le_mul_left _ hmod
    rw [Nat.mul_comm (256 / k) k, hk] at hmul
    omega
  rw [hdiv, land_byte hlt hmask, hout a ha _ (Nat.mod_lt m hpos)]

theorem pairSums_le (a : ℕ) : a / 2 &&& 0x55 ≤ a := Nat.and_le_left.trans (Nat.div_le_self _ _)

theorem word_pairSums (ha : a < 256) (hb : b < 256) (hc : c < 256) :
    word a b c d - (word a b c d / 2 &&& 0x55555555) =
      word (pairSums a) (pairSums b) (pairSums c) (pairSums d) := by
  have hout : ∀ a < 256, ∀ r < 2, (a / 2 + 256 / 2 * r) &&& 0x55 = a / 2 &&& 0x55 := by decide +kernel
  have hmask : (0x55555555 : ℕ) = 0x55 + 256 * (0x55 + 256 * (0x55 + 256 * 0x55)) := rfl
  have hland : word a b c d / 2 &&& 0x55555555 =
      word (a / 2 &&& 0x55) (b / 2 &&& 0x55) (c / 2 &&& 0x55) (d / 2 &&& 0x55) := by
    rw [hmask, word, shift_land_byte rfl (by decide) hout ha, shift_land_byte rfl (by decide) hout hb,
      shift_land_byte rfl (by decide) hout hc, word]
  have hla := pairSums_le a
  have hlb := pairSums_le b
  have hlc := pairSums_le c
  have hld := pairSums_le d
  rw [hland]
  simp only [word, pairSums]
  omega

theorem word_nibbleSums (ha : a < 256) (hb : b < 256) (hc : c < 256) :
    (word a b c d &&& 0x33333333) + (word a b c d / 4 &&& 0x33333333) =
      word (nibbleSums a) (nibbleSums b) (nibbleSums c) (nibbleSums d) := by
  have hout : ∀ a < 256, ∀ r < 4, (a / 4 + 256 / 4 * r) &&& 0x33 = a / 4 &&& 0x33 := by decide +kernel
  have hmask : (0x33333333 : ℕ) = 0x33 + 256 * (0x33 + 256 * (0x33 + 256 * 0x33)) := rfl
  rw [hmask, word, shift_land_byte rfl (by decide) hout ha, shift_land_byte rfl (by decide) hout hb,
    shift_land_byte rfl (by decide) hout hc, land_byte ha (by decide), land_byte hb (by decide),
    land_byte hc (by decide)]
  simp only [word, nibbleSums]
  omega

theorem nibbleSums_pairSums : ∀ a < 256, nibbleSums (pairSums a) % 16 ≤ 4 ∧ nibbleSums (pairSums a) / 16 ≤ 4 := by
  decide +kernel

theorem byteSum_eq (a : ℕ) : byteSum a = (a + a / 16) % 16 := Nat.and_two_pow_sub_one_eq_mod _ 4

theorem word_byteSum (ha : a % 16 ≤ 4 ∧ a / 16 ≤ 4) (hb : b % 16 ≤ 4 ∧ b / 16 ≤ 4) (hc : c % 16 ≤ 4 ∧ c / 16 ≤ 4)
    (hd : d % 16 ≤ 4 ∧ d / 16 ≤ 4) :
    (word a b c d + word a b c d / 16) &&& 0x0F0F0F0F = word (byteSum a) (byteSum b) (byteSum c) (byteSum d) := by
  have hmask : (0x0F0F0F0F : ℕ) = 0x0F + 256 * (0x0F + 256 * (0x0F + 256 * 0x0F)) := rfl
  have hsum : word a b c d + word a b c d / 16 = word (a + a / 16 + 16 * (b % 16)) (b + b / 16 + 16 * (c % 16))
      (c + c / 16 + 16 * (d % 16)) (d + d / 16) := by
    simp only [word]
    omega
  have hlow (n : ℕ) : n &&& 0x0F = n % 16 := Nat.and_two_pow_sub_one_eq_mod n 4
  rw [hsum, hmask, word, land_byte (by omega) (by decide), land_byte (by omega) (by decide),
    land_byte (by omega) (by decide), hlow, hlow, hlow, hlow]
  simp only [word, byteSum_eq]
  omega

theorem byteSum_nibbleSums_pairSums :
    ∀ a < 256, byteSum (nibbleSums (pairSums a)) = (ofDecimal a 8).count true := by
  decide +kernel

theorem bitCount_toNat (x : BitVec 32) :
    bitCount x = let pairs := x.toNat - (x.toNat / 2 &&& 0x55555555)
      let nibbles := (pairs &&& 0x33333333) + (pairs / 4 &&& 0x33333333)
      ((nibbles + nibbles / 16) &&& 0x0F0F0F0F) * 0x01010101 % 4294967296 / 16777216 := by
  have hpairs : (x - ((x >>> 1) &&& 0x55555555)).toNat = x.toNat - (x.toNat / 2 &&& 0x55555555) := by
    have hle : (x >>> 1) &&& 0x55555555 ≤ x := by
      rw [BitVec.le_def, BitVec.toNat_and, BitVec.toNat_ushiftRight, Nat.shiftRight_eq_div_pow]
      exact Nat.and_le_left.trans (Nat.div_le_self _ _)
    rw [BitVec.toNat_sub_of_le hle, BitVec.toNat_and, BitVec.toNat_ushiftRight, Nat.shiftRight_eq_div_pow]
    rfl
  have hnibbles (y : BitVec 32) : ((y &&& 0x33333333) + ((y >>> 2) &&& 0x33333333)).toNat =
      (y.toNat &&& 0x33333333) + (y.toNat / 4 &&& 0x33333333) := by
    have hlow : y.toNat &&& 0x33333333 ≤ 0x33333333 := Nat.and_le_right
    have hhigh : y.toNat / 4 &&& 0x33333333 ≤ 0x33333333 := Nat.and_le_right
    have hlt : (y.toNat &&& 0x33333333) + (y.toNat / 4 &&& 0x33333333) < 4294967296 := by omega
    rw [BitVec.toNat_add, BitVec.toNat_and, BitVec.toNat_and, BitVec.toNat_ushiftRight, Nat.shiftRight_eq_div_pow]
    exact Nat.mod_eq_of_lt hlt
  have hbytes (z : BitVec 32) (hz : z.toNat ≤ 0x66666666) : ((z + (z >>> 4)) &&& 0x0F0F0F0F).toNat =
      (z.toNat + z.toNat / 16) &&& 0x0F0F0F0F := by
    rw [BitVec.toNat_and, BitVec.toNat_add, BitVec.toNat_ushiftRight, Nat.shiftRight_eq_div_pow,
      Nat.mod_eq_of_lt (by omega)]
    rfl
  rw [bitCount, BitVec.toNat_ushiftRight, BitVec.toNat_mul, hbytes, hnibbles, hpairs, Nat.shiftRight_eq_div_pow]
  · rfl
  · rw [hnibbles]
    exact Nat.add_le_add Nat.and_le_right Nat.and_le_right

theorem sum_bytes (ha : a ≤ 8) (hb : b ≤ 8) (hc : c ≤ 8) (hd : d ≤ 8) :
    word a b c d * 0x01010101 % 4294967296 / 16777216 = a + b + c + d := by
  have hproduct : word a b c d * 0x01010101 =
      (a + 256 * (a + b) + 65536 * (a + b + c) + 16777216 * (a + b + c + d)) +
        4294967296 * (b + c + d + 256 * (c + d) + 65536 * d) := by
    simp only [word]
    omega
  rw [hproduct, Nat.add_mul_mod_self_left, Nat.mod_eq_of_lt (by omega)]
  omega

theorem bitCount_word (ha : a < 256) (hb : b < 256) (hc : c < 256) (hd : d < 256) :
    bitCount (BitVec.ofNat 32 (word a b c d)) =
      (ofDecimal a 8).count true + (ofDecimal b 8).count true + (ofDecimal c 8).count true +
        (ofDecimal d 8).count true := by
  have hle (n : ℕ) : (ofDecimal n 8).count true ≤ 8 := by
    have := List.count_le_length (a := true) (l := ofDecimal n 8)
    rwa [length_ofDecimal] at this
  have hpair (n : ℕ) (hn : n < 256) : pairSums n < 256 := (Nat.sub_le _ _).trans_lt hn
  have hword : (BitVec.ofNat 32 (word a b c d)).toNat = word a b c d := by
    rw [BitVec.toNat_ofNat]
    refine Nat.mod_eq_of_lt ?_
    simp only [word]
    omega
  rw [bitCount_toNat, hword]
  simp only [word_pairSums ha hb hc, word_nibbleSums (hpair a ha) (hpair b hb) (hpair c hc),
    word_byteSum (nibbleSums_pairSums a ha) (nibbleSums_pairSums b hb) (nibbleSums_pairSums c hc)
      (nibbleSums_pairSums d hd), byteSum_nibbleSums_pairSums a ha, byteSum_nibbleSums_pairSums b hb,
    byteSum_nibbleSums_pairSums c hc, byteSum_nibbleSums_pairSums d hd]
  exact sum_bytes (hle a) (hle b) (hle c) (hle d)

end Bytes

/-- The places that are not punctured and at which the bits differ. -/
def hammingDistance (isPunctured bits others : List Bool) : ℕ :=
  (List.zipWith (fun differ punctured => differ && !punctured) (List.zipWith (· != ·) bits others)
    isPunctured).count true

theorem toDecimal_cons (b : Bool) (v : ShortBitVector) : toDecimal (b :: v) = Nat.bit b (toDecimal v) := by
  rw [toDecimal, Nat.bit_val, Nat.add_comm]

theorem toDecimal_xor : ∀ {v w : ShortBitVector}, v.length = w.length →
    toDecimal (List.zipWith (· != ·) v w) = toDecimal v ^^^ toDecimal w
  | [], [], _ => rfl
  | b :: v, c :: w, h => by
    rw [List.zipWith_cons_cons, toDecimal_cons, toDecimal_cons, toDecimal_cons, Nat.xor_bit,
      toDecimal_xor (Nat.succ.inj h)]

theorem toDecimal_and : ∀ {v w : ShortBitVector}, v.length = w.length →
    toDecimal (List.zipWith (· && ·) v w) = toDecimal v &&& toDecimal w
  | [], [], _ => rfl
  | b :: v, c :: w, h => by
    rw [List.zipWith_cons_cons, toDecimal_cons, toDecimal_cons, toDecimal_cons, Nat.land_bit,
      toDecimal_and (Nat.succ.inj h)]

theorem toDecimal_append (v w : ShortBitVector) : toDecimal (v ++ w) = toDecimal v + 2 ^ v.length * toDecimal w := by
  induction v with
  | nil => simp [toDecimal]
  | cons b v ih =>
    rw [List.cons_append, toDecimal, toDecimal, ih, List.length_cons, pow_succ]
    ring

theorem toDecimal_split (v : ShortBitVector) :
    toDecimal v = toDecimal (v.take 8) + 256 * toDecimal (v.drop 8) := by
  conv_lhs => rw [← List.take_append_drop 8 v, toDecimal_append]
  by_cases h : 8 ≤ v.length
  · rw [List.length_take_of_le h]
    rfl
  · rw [List.drop_eq_nil_of_le (by omega)]
    rfl

theorem count_byte {v : ShortBitVector} (h : v.length ≤ 8) : (ofDecimal (toDecimal v) 8).count true = v.count true := by
  have hpad : ofDecimal (toDecimal v) 8 = v ++ List.replicate (8 - v.length) false := by
    have hzero (n : ℕ) : toDecimal (List.replicate n false) = 0 := by
      induction n with
      | zero => rfl
      | succ n ih => rw [List.replicate_succ, toDecimal, ih]; rfl
    refine toDecimal_inj (by simp; omega) ?_
    rw [toDecimal_append, hzero, toDecimal_ofDecimal 8 _ ((toDecimal_lt v).trans_le
      (Nat.pow_le_pow_right (by omega) h)), Nat.mul_zero, Nat.add_zero]
  rw [hpad, List.count_append, List.count_replicate]
  rfl

theorem bitCount_toDecimal {v : ShortBitVector} (h : v.length ≤ 32) :
    bitCount (BitVec.ofNat 32 (toDecimal v)) = v.count true := by
  have hlt {w : ShortBitVector} (hw : w.length ≤ 8) : toDecimal w < 256 :=
    (toDecimal_lt w).trans_le (Nat.pow_le_pow_right (by omega) hw)
  have htake (w : ShortBitVector) : (w.take 8).length ≤ 8 := List.length_take_le 8 w
  have hlast : (((v.drop 8).drop 8).drop 8).length ≤ 8 := by
    simp only [List.length_drop]
    omega
  have hword : toDecimal v = word (toDecimal (v.take 8)) (toDecimal ((v.drop 8).take 8))
      (toDecimal (((v.drop 8).drop 8).take 8)) (toDecimal (((v.drop 8).drop 8).drop 8)) := by
    rw [word, ← toDecimal_split, ← toDecimal_split, ← toDecimal_split]
  have hcount (w : ShortBitVector) : w.count true = (w.take 8).count true + (w.drop 8).count true := by
    rw [← List.count_append, List.take_append_drop]
  rw [hword, bitCount_word (hlt (htake _)) (hlt (htake _)) (hlt (htake _)) (hlt hlast), count_byte (htake _),
    count_byte (htake _), count_byte (htake _), count_byte hlast, hcount v, hcount (v.drop 8),
    hcount ((v.drop 8).drop 8)]
  omega

/-- The distance of two symbols, where the set bits of a third one tell the places that count. -/
theorem computeHammingDistance_eq {u w isPunctured : List Bool} (hne : u ≠ []) (hlength : u.length = w.length)
    (hpunctured : isPunctured.length = u.length) (h : u.length ≤ 32) :
    computeHammingDistance u (isPunctured.map (!·)) w = .ok (hammingDistance isPunctured u w : ℤ) := by
  have hxor : (List.zipWith (· != ·) u w).length = (isPunctured.map (!·)).length := by
    rw [List.length_zipWith, List.length_map, hpunctured, ← hlength, min_self]
  have hzip : List.zipWith (· && ·) (List.zipWith (· != ·) u w) (isPunctured.map (!·)) =
      List.zipWith (fun differ punctured => differ && !punctured) (List.zipWith (· != ·) u w) isPunctured :=
    List.zipWith_map_right
  have hne' : w ≠ [] := by
    rintro rfl
    exact hne (List.length_eq_zero_iff.mp hlength)
  rw [computeHammingDistance, if_neg (not_or.mpr ⟨hne, hne'⟩), if_neg (not_not.mpr hlength),
    hammingDistanceLookupTable, ← toDecimal_xor hlength, ← toDecimal_and hxor, bitCount_toDecimal, hzip]
  · rfl
  · rw [List.length_zipWith, hxor, min_self, List.length_map, hpunctured]
    exact h

theorem hammingDistance_append {p u w p' u' w' : List Bool} (hu : u.length = w.length) (hp : p.length = u.length) :
    hammingDistance (p ++ p') (u ++ u') (w ++ w') = hammingDistance p u w + hammingDistance p' u' w' := by
  rw [hammingDistance, List.zipWith_append hu, List.zipWith_append, List.count_append]
  · rfl
  · rw [List.length_zipWith, ← hu, min_self, hp]

theorem hammingDistance_le (isPunctured bits others : List Bool) :
    hammingDistance isPunctured bits others ≤ bits.length := by
  refine List.count_le_length.trans ?_
  rw [List.length_zipWith, List.length_zipWith]
  exact (min_le_left _ _).trans (min_le_left _ _)

end inet.physicallayer.ConvolutionalCoder
