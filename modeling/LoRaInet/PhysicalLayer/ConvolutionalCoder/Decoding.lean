import LoRaInet.PhysicalLayer.ConvolutionalCoder.Viterbi

open omnetpp graph

namespace inet.physicallayer.ConvolutionalCoder

open ShortBitVector

section Search

variable {coder : ConvolutionalCoder} {bits isPunctured : List Bool} {memorySizeSum symbols t : ℕ} {dblrand : ℕ → ℚ}
  {search : Search}

theorem length_symbolAt {l : List Bool} (h : l.length = symbols * coder.codeRateParamaterN) (ht : t < symbols) :
    (coder.symbolAt l t).length = coder.codeRateParamaterN := by
  have hle : (t + 1) * coder.codeRateParamaterN ≤ symbols * coder.codeRateParamaterN := Nat.mul_le_mul_right _ ht
  rw [Nat.succ_mul] at hle
  rw [symbolAt, List.length_take, List.length_drop, h]
  omega

theorem giveNextOutputSymbol_of_lt (hbits : bits.length = symbols * coder.codeRateParamaterN) (ht : t < symbols) :
    coder.giveNextOutputSymbol bits isPunctured t =
      (coder.symbolAt bits t, (coder.symbolAt isPunctured t).map (!·)) := by
  have hle : (t + 1) * coder.codeRateParamaterN ≤ symbols * coder.codeRateParamaterN := Nat.mul_le_mul_right _ ht
  rw [giveNextOutputSymbol, if_neg (by rw [hbits]; exact not_lt.mpr hle)]
  rfl

theorem giveNextOutputSymbol_of_end (hN : 0 < coder.codeRateParamaterN)
    (hbits : bits.length = symbols * coder.codeRateParamaterN) :
    (coder.giveNextOutputSymbol bits isPunctured symbols).1 = [] := by
  have hlt : symbols * coder.codeRateParamaterN < (symbols + 1) * coder.codeRateParamaterN := by
    rw [Nat.succ_mul]
    omega
  rw [giveNextOutputSymbol, if_pos (by rw [hbits]; exact hlt)]

/-- The columns behind a time have not been filled in. -/
def Fresh (graph : TrellisGraph) (t : ℕ) : Prop := ∀ u > t, ∀ s, graph s u = initialNode

theorem searchLoop_returns (hproper : coder.Proper memorySizeSum) (hdistinct : coder.DistinctOutputs)
    (hN : 0 < coder.codeRateParamaterN) (hbits : bits.length = symbols * coder.codeRateParamaterN)
    (hpunctured : isPunctured.length = symbols * coder.codeRateParamaterN) (hlength : (bits.length : ℤ) < INT32_MAX)
    (rounds : ℕ) : ∀ t search, t ≤ symbols → symbols < t + rounds → Column coder bits isPunctured search.trellisGraph t →
      Fresh search.trellisGraph t → Returns (coder.searchLoop dblrand bits isPunctured rounds t search)
        fun result => Column coder bits isPunctured result.1.trellisGraph symbols ∧ result.2 = symbols := by
  induction rounds with
  | zero =>
    intro t search hle hlt
    omega
  | succ rounds ih =>
    intro t search hle hlt hcolumn hfresh
    rw [searchLoop]
    rcases Nat.lt_or_eq_of_le hle with ht | rfl
    · have hsymbol := length_symbolAt hbits ht
      have hne : coder.symbolAt bits t ≠ [] := by
        intro hnil
        rw [hnil] at hsymbol
        exact hN.ne hsymbol
      have hbound : ((t + 1) * coder.codeRateParamaterN : ℕ) < INT32_MAX := by
        refine lt_of_le_of_lt ?_ hlength
        rw [hbits]
        exact_mod_cast Nat.mul_le_mul_right _ ht
      simp only [giveNextOutputSymbol_of_lt hbits ht, if_neg hne]
      refine (hcolumn.updateTrellisGraph hproper hdistinct hsymbol (length_symbolAt hpunctured ht) hne hbound
        hfresh).bind fun search' h => ?_
      exact ih (t + 1) search' ht (by omega) h.1 h.2
    · have hend := @giveNextOutputSymbol_of_end coder bits isPunctured t hN hbits
      simp only [hend, if_pos]
      exact .ok ⟨hcolumn, rfl⟩

theorem column_initialGraph : Column coder bits isPunctured initialGraph 0 := by
  intro s _
  by_cases hs : s = 0
  · subst hs
    refine .inl ⟨[], .start, ⟨fun i hi => (by cases hi), fun others _ _ _ => Nat.zero_le _⟩, rfl, rfl, rfl, rfl, rfl,
      fun h => absurd h (lt_irrefl 0)⟩
  · refine .inr ⟨set_of_state_ne hs 0, fun inputs _ hlength hleads => hs ?_⟩
    rw [List.length_eq_zero_iff.mp hlength] at hleads
    exact hleads.symm

theorem fresh_initialGraph : Fresh initialGraph 0 := fun _ hu s => set_of_time_ne hu.ne' s

end Search

section Path

variable {coder : ConvolutionalCoder} {bits isPunctured : List Bool} {memorySizeSum symbols t s : ℕ}
  {graph : TrellisGraph} {inputs : List ℕ}

/-- The bits of the input symbols. -/
def messageOf (coder : ConvolutionalCoder) (inputs : List ℕ) : List Bool := inputs.flatMap coder.decimalToInputSymbol

theorem traverseLoop_of_traced (h : Traced coder graph t s inputs) (reverseDecodedBits : List Bool) :
    coder.traverseLoop graph t (graph s t) reverseDecodedBits =
      .ok (reverseDecodedBits ++ (coder.messageOf inputs).reverse) := by
  induction h generalizing reverseDecodedBits with
  | start => simp [traverseLoop, messageOf]
  | @step t p i inputs s path isInput prev_lt symbol prevState ih =>
    have hsymbol : 0 ≤ (graph s (t + 1)).symbol ∧ (graph s (t + 1)).symbol < 2 ^ coder.codeRateParamaterK := by
      rw [symbol]
      exact ⟨Int.natCast_nonneg i, by exact_mod_cast isInput⟩
    rw [traverseLoop, if_pos hsymbol, prevState, stateIndex_natCast prev_lt, symbol, Int.toNat_natCast]
    refine (ih _).trans ?_
    rw [messageOf, messageOf, List.flatMap_append, List.reverse_append, List.flatMap_singleton, List.append_assoc]

theorem bestNode_truncated (hpos : 0 < coder.numberOfStates) :
    ∃ s < coder.numberOfStates, coder.bestNode graph t true = graph s t ∧
      ∀ s' < coder.numberOfStates, (graph s' t).symbol ≠ -1 →
        (graph s t).comulativeHammingDistance ≤ (graph s' t).comulativeHammingDistance := by
  have hloop (l : List ℕ) (hl : ∀ s ∈ l, s < coder.numberOfStates) : ∀ b < coder.numberOfStates,
      ∃ s < coder.numberOfStates, l.foldl (fun best i =>
        let currentNode := graph i t
        if currentNode.symbol ≠ -1 ∧ currentNode.comulativeHammingDistance < best.comulativeHammingDistance then
          currentNode
        else best) (graph b t) = graph s t ∧
        (graph s t).comulativeHammingDistance ≤ (graph b t).comulativeHammingDistance ∧
        ∀ s' ∈ l, (graph s' t).symbol ≠ -1 →
          (graph s t).comulativeHammingDistance ≤ (graph s' t).comulativeHammingDistance := by
    induction l with
    | nil => exact fun b hb => ⟨b, hb, rfl, le_rfl, fun s' hs' => by cases hs'⟩
    | cons i l ih =>
      intro b hb
      have hl' : ∀ s ∈ l, s < coder.numberOfStates := fun s hs => hl s (.tail _ hs)
      rw [List.foldl_cons]
      by_cases hbetter : (graph i t).symbol ≠ -1 ∧
          (graph i t).comulativeHammingDistance < (graph b t).comulativeHammingDistance
      · obtain ⟨s, hs, hfold, hle, hall⟩ := ih hl' i (hl i (.head _))
        simp only [if_pos hbetter]
        refine ⟨s, hs, hfold, hle.trans hbetter.2.le, fun s' hs' hsymbol => ?_⟩
        rcases List.mem_cons.mp hs' with rfl | hs'
        · exact hle
        · exact hall s' hs' hsymbol
      · obtain ⟨s, hs, hfold, hle, hall⟩ := ih hl' b hb
        simp only [if_neg hbetter]
        refine ⟨s, hs, hfold, hle, fun s' hs' hsymbol => ?_⟩
        rcases List.mem_cons.mp hs' with rfl | hs'
        · exact hle.trans (not_lt.mp fun hlt => hbetter ⟨hsymbol, hlt⟩)
        · exact hall s' hs' hsymbol
  obtain ⟨s, hs, hfold, hle, hall⟩ := hloop (List.range' 1 (coder.numberOfStates - 1)) (fun s hs => by
    rw [List.mem_range'_1] at hs
    omega) 0 hpos
  refine ⟨s, hs, hfold, fun s' hs' hsymbol => ?_⟩
  rcases Nat.eq_zero_or_pos s' with rfl | hs'pos
  · exact hle
  · refine hall s' ?_ hsymbol
    rw [List.mem_range'_1]
    omega

end Path

section Message

variable {coder : ConvolutionalCoder} {bits isPunctured : List Bool} {memorySizeSum symbols t s i : ℕ}
  {inputs : List ℕ} {message : List Bool}

section

variable (hproper : coder.Proper memorySizeSum)
include hproper

theorem decimalToInputSymbol_of_input (hi : coder.IsInput i) :
    (coder.decimalToInputSymbol i).length = coder.codeRateParamaterK ∧
      (coder.decimalToInputSymbol i).reverseToDecimal = i := by
  obtain ⟨inputSymbol, hinput, rfl⟩ := exists_reverseToDecimal hi
  rw [hproper.decimalToInputSymbol inputSymbol hinput]
  exact ⟨hinput, rfl⟩

theorem length_messageOf (h : ∀ i ∈ inputs, coder.IsInput i) :
    (coder.messageOf inputs).length = inputs.length * coder.codeRateParamaterK := by
  induction inputs with
  | nil => simp [messageOf]
  | cons i inputs ih =>
    have := ih fun i hi => h i (.tail _ hi)
    rw [messageOf] at this ⊢
    rw [List.flatMap_cons, List.length_append, this,
      (decimalToInputSymbol_of_input hproper (h i (.head _))).1, List.length_cons, Nat.succ_mul, Nat.add_comm]

theorem exists_inputs :
    ∀ (symbols : ℕ) (message : List Bool), message.length = symbols * coder.codeRateParamaterK →
      ∃ inputs, (∀ i ∈ inputs, coder.IsInput i) ∧ inputs.length = symbols ∧ coder.messageOf inputs = message := by
  intro symbols
  induction symbols with
  | zero =>
    intro message h
    refine ⟨[], fun i hi => (by cases hi), rfl, ?_⟩
    rw [Nat.zero_mul] at h
    exact (List.length_eq_zero_iff.mp h).symm
  | succ symbols ih =>
    intro message h
    rw [Nat.succ_mul] at h
    have htake : (message.take coder.codeRateParamaterK).length = coder.codeRateParamaterK := by
      rw [List.length_take, h]
      omega
    obtain ⟨inputs, hinputs, hlength, hmessage⟩ := ih (message.drop coder.codeRateParamaterK) (by
      rw [List.length_drop, h]
      omega)
    refine ⟨reverseToDecimal (message.take coder.codeRateParamaterK) :: inputs, fun i hi => ?_, by simp [hlength], ?_⟩
    · rcases List.mem_cons.mp hi with rfl | hi
      · exact reverseToDecimal_lt htake
      · exact hinputs i hi
    · rw [messageOf] at hmessage ⊢
      rw [List.flatMap_cons, hmessage, hproper.decimalToInputSymbol _ htake, List.take_append_drop]

/-- The code of a message has the distance of the path of its inputs. -/
theorem encodeSymbols_messageOf (h : ∀ i ∈ inputs, coder.IsInput i) :
    ∀ t, ∀ s < coder.numberOfStates, bits.length = (t + inputs.length) * coder.codeRateParamaterN →
      isPunctured.length = bits.length → ∃ encoded,
        coder.encodeSymbols inputs.length s (coder.messageOf inputs) = .ok encoded ∧
          hammingDistance (isPunctured.drop (t * coder.codeRateParamaterN)) (bits.drop (t * coder.codeRateParamaterN))
            encoded = pathCost coder.next (coder.cost bits isPunctured) t s inputs := by
  induction inputs with
  | nil =>
    intro t s hs hbits hpunctured
    refine ⟨[], rfl, ?_⟩
    rw [hammingDistance, List.zipWith_nil_right, List.zipWith_nil_left]
    rfl
  | cons i inputs ih =>
    intro t s hs hbits hpunctured
    have hi := h i (.head _)
    obtain ⟨hlength, hdecimal⟩ := decimalToInputSymbol_of_input hproper hi
    obtain ⟨⟨s', hs', htransition⟩, houtput⟩ := row_of_input hproper hs hi
    have hbits' : bits.length = (t + 1 + inputs.length) * coder.codeRateParamaterN := by
      rw [hbits, List.length_cons, Nat.add_assoc, Nat.add_comm 1]
    obtain ⟨encoded, hencoded, hdistance⟩ := ih (fun i hi => h i (.tail _ hi)) (t + 1) s' hs' hbits'
      hpunctured
    have hsplit (l : List Bool) : l.drop (t * coder.codeRateParamaterN) =
        coder.symbolAt l t ++ l.drop ((t + 1) * coder.codeRateParamaterN) := by
      rw [symbolAt, Nat.succ_mul, ← List.drop_drop, List.take_append_drop]
    have ht : t < t + 1 + inputs.length := by omega
    have hsymbol := length_symbolAt hbits' ht
    refine ⟨coder.outputSymbols s i ++ encoded, ?_, ?_⟩
    · have hmessage : coder.messageOf (i :: inputs) = coder.decimalToInputSymbol i ++ coder.messageOf inputs :=
        List.flatMap_cons
      rw [List.length_cons, encodeSymbols, stateIndex_natCast hs, hmessage, List.take_left' hlength,
        List.drop_left' hlength, hdecimal]
      change (coder.encodeSymbols inputs.length (coder.stateTransitions s i) (coder.messageOf inputs) >>= _) = _
      rw [htransition, hencoded]
      rfl
    · rw [hsplit bits, hsplit isPunctured, hammingDistance_append (hsymbol.trans houtput.symm)
        ((length_symbolAt (hpunctured.trans hbits') ht).trans hsymbol.symm), hdistance, pathCost, next, htransition,
        Int.toNat_natCast]
      rfl

/-- The registers at the end of a message are those of the state at the end of the path. -/
theorem finalRegisters_messageOf (h : ∀ i ∈ inputs, coder.IsInput i) :
    ∀ registers, coder.Shaped registers →
      coder.Shaped (coder.finalRegisters inputs.length registers (coder.messageOf inputs)) ∧
      (registersState (coder.finalRegisters inputs.length registers (coder.messageOf inputs))).reverseToDecimal =
        pathState coder.next (registersState registers).reverseToDecimal inputs := by
  induction inputs with
  | nil => exact fun registers hshaped => ⟨hshaped, rfl⟩
  | cons i inputs ih =>
    intro registers hshaped
    obtain ⟨hlength, hdecimal⟩ := decimalToInputSymbol_of_input hproper (h i (.head _))
    have hmessage : coder.messageOf (i :: inputs) = coder.decimalToInputSymbol i ++ coder.messageOf inputs :=
      List.flatMap_cons
    have hnext : coder.next (registersState registers).reverseToDecimal i =
        (registersState (shiftIn registers (coder.decimalToInputSymbol i))).reverseToDecimal := by
      have htransition := hshaped.stateTransitions hproper hlength
      rw [hdecimal] at htransition
      rw [next, htransition, Int.toNat_natCast]
    rw [List.length_cons, finalRegisters, hmessage, List.take_left' hlength, List.drop_left' hlength, pathState,
      List.foldl_cons, hnext]
    exact ih (fun i hi => h i (.tail _ hi)) _
      (hshaped.shiftIn (hlength.trans (hshaped.length_registers hproper).symm))

end

end Message

section Received

variable {coder : ConvolutionalCoder} {received bits isPunctured : List Bool} {dblrand : ℕ → ℚ}

theorem length_insertPunctured {decodedBits : List Bool} (h : insertPunctured isPunctured decodedBits = .ok bits) :
    bits.length = isPunctured.length := by
  induction isPunctured generalizing decodedBits bits with
  | nil =>
    cases h
    rfl
  | cons punctured isPunctured ih =>
    cases punctured with
    | true =>
      obtain ⟨rest, hrest, heq⟩ := bind_eq_ok_iff.mp h
      cases heq
      rw [List.length_cons, List.length_cons, ih hrest]
    | false =>
      cases decodedBits with
      | nil => cases h
      | cons bit decodedBits =>
        obtain ⟨rest, hrest, heq⟩ := bind_eq_ok_iff.mp h
        cases heq
        rw [List.length_cons, List.length_cons, ih hrest]

/-- The number of symbols in the received bits. -/
def receivedSymbols (coder : ConvolutionalCoder) (received : List Bool) : ℕ :=
  received.length / coder.codeRatePuncturingN * coder.codeRatePuncturingK / coder.codeRateParamaterK

theorem length_depuncturing (h : coder.depuncturing received = .ok (bits, isPunctured)) :
    bits.length = coder.receivedSymbols received * coder.codeRateParamaterN ∧ isPunctured.length = bits.length ∧
      coder.puncturingMatrix ≠ [] := by
  unfold depuncturing at h
  simp only [bind_eq_ok_iff] at h
  obtain ⟨_, -, _, -, indices, hindices, depunctured, hinsert, heq⟩ := h
  cases heq
  unfold getPuncturedIndices at hindices
  split at hindices
  · cases hindices
  · next row rows hmatrix =>
    have hlength := (mapM_eq_ok_iff.mp hindices).length_eq
    rw [List.length_range] at hlength
    refine ⟨(length_insertPunctured hinsert).trans hlength.symm, (length_insertPunctured hinsert).symm, ?_⟩
    rw [hmatrix]
    exact List.cons_ne_nil _ _

theorem decode_eq (hdepuncturing : coder.depuncturing received = .ok (bits, isPunctured))
    (hmultiple : bits.length % coder.codeRateParamaterN = 0)
    (hmode : coder.mode = "terminated" ∨ coder.mode = "truncated") (hstates : 0 < coder.numberOfStates)
    (hlength : (bits.length : ℤ) < INT32_MAX) :
    coder.decode dblrand received =
      (coder.searchLoop dblrand bits isPunctured (bits.length + 1) 0 ⟨initialGraph, 0, 0⟩ >>= fun result =>
        coder.traversePath (coder.bestNode result.1.trellisGraph result.2 (decide (coder.mode = "truncated")))
          result.1.trellisGraph (decide (coder.mode = "truncated"))) := by
  have hmode' : ¬(coder.mode ≠ "truncated" ∧ coder.mode ≠ "terminated") :=
    fun h => hmode.elim (fun h' => h.2 h') fun h' => h.1 h'
  have hsize : ¬(coder.numberOfStates = 0 ∨ INT32_MAX ≤ (bits.length : ℤ)) :=
    not_or.mpr ⟨hstates.ne', not_le.mpr hlength⟩
  rw [decode, hdepuncturing]
  refine (throwIf_bind (not_not.mpr hmultiple)).trans ?_
  refine (throwIf_bind hmode').trans ?_
  exact throwIf_bind hsize

end Received

section MaximumLikelihood

variable {code : ConvolutionalCode} {coder : ConvolutionalCoder} {received bits isPunctured : List Bool}
  {dblrand : ℕ → ℚ} {memorySizeSum symbols : ℕ}

/-- A message that could have been sent: in terminated mode it leaves the registers empty. -/
def IsMessage (coder : ConvolutionalCoder) (symbols : ℕ) (message : List Bool) : Prop :=
  message.length = symbols * coder.codeRateParamaterK ∧
    (coder.mode = "terminated" → coder.finalRegisters symbols coder.emptyRegisters message = coder.emptyRegisters)

/-- No other message has a code that is closer to the received bits. -/
def MostLikely (coder : ConvolutionalCoder) (symbols : ℕ) (bits isPunctured message : List Bool) : Prop :=
  coder.IsMessage symbols message ∧ ∃ encoded, coder.encodeUnpunctured message = .ok encoded ∧
    ∀ other, coder.IsMessage symbols other → ∃ encodedOther, coder.encodeUnpunctured other = .ok encodedOther ∧
      hammingDistance isPunctured bits encoded ≤ hammingDistance isPunctured bits encodedOther

/-- There is a result when there is a message, and it is the most likely one. -/
def DecodesOptimally (coder : ConvolutionalCoder) (dblrand : ℕ → ℚ) (received bits isPunctured : List Bool) : Prop :=
  ∃ message success, coder.decode dblrand received = .ok (message, success) ∧
    (success = true ↔ ∃ message, coder.IsMessage (coder.receivedSymbols received) message) ∧
    (success = true → coder.MostLikely (coder.receivedSymbols received) bits isPunctured message)

variable {inputs : List ℕ}

theorem encodeUnpunctured_messageOf (hproper : coder.Proper memorySizeSum) (hK : 0 < coder.codeRateParamaterK)
    (h : ∀ i ∈ inputs, coder.IsInput i) (hbits : bits.length = inputs.length * coder.codeRateParamaterN)
    (hpunctured : isPunctured.length = bits.length) : ∃ encoded,
      coder.encodeUnpunctured (coder.messageOf inputs) = .ok encoded ∧
        hammingDistance isPunctured bits encoded = pathCost coder.next (coder.cost bits isPunctured) 0 0 inputs := by
  have hpos : 0 < coder.numberOfStates := hproper.numberOfStates ▸ Nat.two_pow_pos _
  obtain ⟨encoded, hencoded, hdistance⟩ := encodeSymbols_messageOf hproper h 0 0 hpos (by rw [Nat.zero_add, hbits])
    hpunctured
  rw [Nat.zero_mul, List.drop_zero, List.drop_zero] at hdistance
  refine ⟨encoded, ?_, hdistance⟩
  have hlength := length_messageOf hproper h
  rw [encodeUnpunctured, if_neg (by rw [hlength, Nat.mul_mod_left]; exact not_not.mpr rfl), hlength,
    Nat.mul_div_cancel _ hK]
  exact hencoded

/-- The message of inputs may have been sent when their path may end in its state. -/
theorem isMessage_messageOf (hproper : coder.Proper memorySizeSum)
    (h : ∀ i ∈ inputs, coder.IsInput i) : coder.IsMessage inputs.length (coder.messageOf inputs) ↔
      (coder.mode = "terminated" → pathState coder.next 0 inputs = 0) := by
  obtain ⟨hshaped, hstate⟩ := finalRegisters_messageOf hproper h _ hproper.shaped_empty
  rw [state_emptyRegisters] at hstate
  rw [IsMessage, ← hshaped.state_eq_zero hproper, hstate]
  exact and_iff_right (length_messageOf hproper h)

/-- Inputs of the least cost among those that may have been sent are the most likely message. -/
theorem mostLikely_messageOf (hproper : coder.Proper memorySizeSum) (hK : 0 < coder.codeRateParamaterK)
    (h : ∀ i ∈ inputs, coder.IsInput i) (hbits : bits.length = inputs.length * coder.codeRateParamaterN)
    (hpunctured : isPunctured.length = bits.length)
    (hends : coder.mode = "terminated" → pathState coder.next 0 inputs = 0)
    (hleast : ∀ others, (∀ i ∈ others, coder.IsInput i) → others.length = inputs.length →
      (coder.mode = "terminated" → pathState coder.next 0 others = 0) →
        pathCost coder.next (coder.cost bits isPunctured) 0 0 inputs ≤
          pathCost coder.next (coder.cost bits isPunctured) 0 0 others) :
    coder.MostLikely inputs.length bits isPunctured (coder.messageOf inputs) := by
  obtain ⟨encoded, hencoded, hdistance⟩ := encodeUnpunctured_messageOf hproper hK h hbits hpunctured
  refine ⟨(isMessage_messageOf hproper h).mpr hends, encoded, hencoded, fun other hother => ?_⟩
  obtain ⟨others, hothers, hlength, rfl⟩ := exists_inputs hproper inputs.length other hother.1
  rw [← hlength] at hother hbits
  obtain ⟨encodedOther, hencodedOther, hdistanceOther⟩ :=
    encodeUnpunctured_messageOf hproper hK hothers hbits hpunctured
  refine ⟨encodedOther, hencodedOther, ?_⟩
  rw [hdistance, hdistanceOther]
  exact hleast others hothers hlength ((isMessage_messageOf hproper hothers).mp hother)

theorem decode_searched (hproper : coder.Proper memorySizeSum) (hdistinct : coder.DistinctOutputs)
    (hN : 0 < coder.codeRateParamaterN) (hmode : coder.mode = "terminated" ∨ coder.mode = "truncated")
    (hdepuncturing : coder.depuncturing received = .ok (bits, isPunctured)) (hlength : (bits.length : ℤ) < INT32_MAX) :
    ∃ graph, Column coder bits isPunctured graph (coder.receivedSymbols received) ∧
      coder.decode dblrand received =
        coder.traversePath (coder.bestNode graph (coder.receivedSymbols received) (decide (coder.mode = "truncated")))
          graph (decide (coder.mode = "truncated")) := by
  obtain ⟨hbits, hpunctured, -⟩ := length_depuncturing hdepuncturing
  have hpos : 0 < coder.numberOfStates := hproper.numberOfStates ▸ Nat.two_pow_pos _
  have hrounds : coder.receivedSymbols received < 0 + (bits.length + 1) := by
    have := Nat.le_mul_of_pos_right (coder.receivedSymbols received) hN
    omega
  obtain ⟨⟨search, time⟩, hsearch, hcolumn, rfl⟩ := searchLoop_returns hproper hdistinct hN hbits
    (hpunctured.trans hbits) hlength (bits.length + 1) 0 ⟨initialGraph, 0, 0⟩ (Nat.zero_le _) hrounds
    column_initialGraph fresh_initialGraph
  refine ⟨search.trellisGraph, hcolumn, ?_⟩
  rw [decode_eq hdepuncturing (by rw [hbits, Nat.mul_mod_left]) hmode hpos hlength, hsearch]
  rfl

variable {graph : TrellisGraph}

theorem traversePath_best {t s : ℕ} {isTruncatedMode : Bool}
    (h : Best coder bits isPunctured graph t s inputs)
    (hreached : isTruncatedMode = false → (graph s t).symbol ≠ -1) :
    coder.traversePath (graph s t) graph isTruncatedMode = .ok (coder.messageOf inputs, true) := by
  have hcheck : ¬((!isTruncatedMode && (graph s t).symbol = -1) = true) := by
    cases isTruncatedMode with
    | true => exact Bool.false_ne_true
    | false =>
      rw [Bool.not_false, Bool.true_and, decide_eq_true_eq]
      exact hreached rfl
  rw [traversePath, if_neg hcheck, h.depth, traverseLoop_of_traced h.traced]
  change Except.ok (([] ++ (coder.messageOf inputs).reverse).reverse, true) = _
  rw [List.nil_append, List.reverse_reverse]

theorem Column.best_of_inputs (hproper : coder.Proper memorySizeSum) {others : List ℕ}
    (h : Column coder bits isPunctured graph symbols) (hothers : ∀ i ∈ others, coder.IsInput i)
    (hlength : others.length = symbols) : ∃ inputs,
      Best coder bits isPunctured graph symbols (pathState coder.next 0 others) inputs ∧
        pathCost coder.next (coder.cost bits isPunctured) 0 0 inputs ≤
          pathCost coder.next (coder.cost bits isPunctured) 0 0 others := by
  have hpos : 0 < coder.numberOfStates := hproper.numberOfStates ▸ Nat.two_pow_pos _
  rcases h _ (pathState_lt hproper hothers 0 hpos) with ⟨inputs, hbest⟩ | ⟨-, hunreached⟩
  · exact ⟨inputs, hbest, hbest.survivor.least others hothers (hlength.trans hbest.length.symm) hbest.leads.symm⟩
  · exact absurd rfl (hunreached others hothers hlength)

theorem Best.cumulative {t s : ℕ}
    (h : Best coder bits isPunctured graph t s inputs) (ht : 0 < t) : (graph s t).comulativeHammingDistance =
      pathCost coder.next (coder.cost bits isPunctured) 0 0 inputs := by
  rw [← h.distance, TrellisGraphNode.distance, if_pos (h.reached ht).2.ne]

theorem Column.exists_least (hproper : coder.Proper memorySizeSum)
    (h : Column coder bits isPunctured graph symbols) : ∃ inputs : List ℕ, (∀ i ∈ inputs, coder.IsInput i) ∧
      inputs.length = symbols ∧
      coder.traversePath (coder.bestNode graph symbols true) graph true = .ok (coder.messageOf inputs, true) ∧
      ∀ others : List ℕ, (∀ i ∈ others, coder.IsInput i) → others.length = symbols →
        pathCost coder.next (coder.cost bits isPunctured) 0 0 inputs ≤
          pathCost coder.next (coder.cost bits isPunctured) 0 0 others := by
  have hpos : 0 < coder.numberOfStates := hproper.numberOfStates ▸ Nat.two_pow_pos _
  obtain ⟨s, hs, hnode, hleast⟩ := @bestNode_truncated coder symbols graph hpos
  rw [hnode]
  rcases Nat.eq_zero_or_pos symbols with rfl | hsymbols
  · refine ⟨[], fun i hi => (by cases hi), rfl, ?_, fun _ _ _ => Nat.zero_le _⟩
    rcases h s hs with ⟨inputs, hbest⟩ | ⟨hinitial, -⟩
    · rw [traversePath_best hbest fun hfalse => Bool.noConfusion hfalse, List.length_eq_zero_iff.mp hbest.length]
    · rw [hinitial]
      rfl
  · obtain ⟨first, hfirst, -⟩ := @Column.best_of_inputs _ _ _ _ _ _ hproper (List.replicate symbols 0) h (fun i hi => by
      rw [List.eq_of_mem_replicate hi]
      exact Nat.two_pow_pos _) List.length_replicate
    rcases h s hs with ⟨inputs, hbest⟩ | ⟨hinitial, -⟩
    · refine ⟨inputs, hbest.survivor.all_allowed, hbest.length,
        traversePath_best hbest fun hfalse => Bool.noConfusion hfalse, fun others hothers hlength => ?_⟩
      obtain ⟨best, hbest', hle⟩ := h.best_of_inputs hproper hothers hlength
      have hcumulative := hleast _ (pathState_lt hproper hothers 0 hpos) (hbest'.reached hsymbols).1
      rw [hbest.cumulative hsymbols, hbest'.cumulative hsymbols] at hcumulative
      exact (by exact_mod_cast hcumulative : _ ≤ _).trans hle
    · have hfirstReached := hfirst.reached hsymbols
      have hle := hleast _ (hfirst.leads ▸ pathState_lt hproper hfirst.survivor.all_allowed 0 hpos) hfirstReached.1
      rw [hinitial] at hle
      exact absurd (hle.trans_lt hfirstReached.2) (lt_irrefl _)

theorem decode_truncated (hproper : coder.Proper memorySizeSum) (hdistinct : coder.DistinctOutputs)
    (hN : 0 < coder.codeRateParamaterN) (hK : 0 < coder.codeRateParamaterK) (hmode : coder.mode = "truncated")
    (hdepuncturing : coder.depuncturing received = .ok (bits, isPunctured)) (hlength : (bits.length : ℤ) < INT32_MAX) :
    coder.DecodesOptimally dblrand received bits isPunctured := by
  obtain ⟨hbits, hpunctured, -⟩ := length_depuncturing hdepuncturing
  obtain ⟨graph, hcolumn, hdecode⟩ := @decode_searched _ _ _ _ dblrand _ hproper hdistinct hN (.inr hmode)
    hdepuncturing hlength
  have hterminated : ¬coder.mode = "terminated" := by
    rw [hmode]
    decide
  obtain ⟨inputs, hinputs, hsymbols, htraverse, hleast⟩ := hcolumn.exists_least hproper
  rw [decide_eq_true hmode, htraverse] at hdecode
  have hlikely := mostLikely_messageOf hproper hK hinputs (hsymbols ▸ hbits) hpunctured
    (fun h => absurd h hterminated) fun others hothers hsame _ => hleast others hothers (hsame.trans hsymbols)
  rw [hsymbols] at hlikely
  exact ⟨coder.messageOf inputs, true, hdecode, ⟨fun _ => ⟨_, hlikely.1⟩, fun _ => rfl⟩, fun _ => hlikely⟩

theorem decode_terminated (hproper : coder.Proper memorySizeSum) (hdistinct : coder.DistinctOutputs)
    (hN : 0 < coder.codeRateParamaterN) (hK : 0 < coder.codeRateParamaterK) (hmode : coder.mode = "terminated")
    (hdepuncturing : coder.depuncturing received = .ok (bits, isPunctured)) (hlength : (bits.length : ℤ) < INT32_MAX)
    (hsymbols : 0 < coder.receivedSymbols received) :
    coder.DecodesOptimally dblrand received bits isPunctured := by
  obtain ⟨hbits, hpunctured, -⟩ := length_depuncturing hdepuncturing
  obtain ⟨graph, hcolumn, hdecode⟩ := @decode_searched _ _ _ _ dblrand _ hproper hdistinct hN (.inl hmode)
    hdepuncturing hlength
  have hpos : 0 < coder.numberOfStates := hproper.numberOfStates ▸ Nat.two_pow_pos _
  have htruncated : ¬coder.mode = "truncated" := by
    rw [hmode]
    decide
  have hnode : coder.bestNode graph (coder.receivedSymbols received) false = graph 0 (coder.receivedSymbols received) :=
    rfl
  rw [decide_eq_false htruncated, hnode] at hdecode
  rcases hcolumn 0 hpos with ⟨inputs, hbest⟩ | ⟨hinitial, hunreached⟩
  · rw [traversePath_best hbest fun _ => (hbest.reached hsymbols).1] at hdecode
    have hlikely := mostLikely_messageOf hproper hK hbest.survivor.all_allowed (hbest.length ▸ hbits) hpunctured
      (fun _ => hbest.leads) fun others hothers hsame hends =>
        hbest.survivor.least others hothers hsame ((hends hmode).trans hbest.leads.symm)
    rw [hbest.length] at hlikely
    exact ⟨coder.messageOf inputs, true, hdecode, ⟨fun _ => ⟨_, hlikely.1⟩, fun _ => rfl⟩, fun _ => hlikely⟩
  · refine ⟨[], false, ?_, ⟨fun h => Bool.noConfusion h, ?_⟩, fun h => Bool.noConfusion h⟩
    · rw [hdecode, hinitial]
      rfl
    · rintro ⟨message, hmessage⟩
      obtain ⟨inputs, hinputs, hsame, rfl⟩ := exists_inputs hproper _ message hmessage.1
      rw [← hsame] at hmessage
      exact absurd ((isMessage_messageOf hproper hinputs).mp hmessage hmode) (hunreached inputs hinputs hsame)

/-- Without a symbol the node of the empty path counts as one without a path. -/
theorem not_decodesOptimally_of_empty (hproper : coder.Proper memorySizeSum) (hN : 0 < coder.codeRateParamaterN)
    (hmode : coder.mode = "terminated")
    (hdepuncturing : coder.depuncturing received = .ok (bits, isPunctured)) (hlength : (bits.length : ℤ) < INT32_MAX)
    (hsymbols : coder.receivedSymbols received = 0) : ¬coder.DecodesOptimally dblrand received bits isPunctured := by
  rintro ⟨message, success, hdecode, hsuccess, -⟩
  obtain ⟨hbits, -, -⟩ := length_depuncturing hdepuncturing
  rw [hsymbols, Nat.zero_mul] at hbits
  have hpos : 0 < coder.numberOfStates := hproper.numberOfStates ▸ Nat.two_pow_pos _
  have htruncated : ¬coder.mode = "truncated" := by
    rw [hmode]
    decide
  have hend := @giveNextOutputSymbol_of_end coder bits isPunctured 0 hN (by rw [hbits, Nat.zero_mul])
  have hsearch : coder.searchLoop dblrand bits isPunctured (bits.length + 1) 0 ⟨initialGraph, 0, 0⟩ =
      .ok (⟨initialGraph, 0, 0⟩, 0) := by
    rw [searchLoop]
    simp only [hend, if_pos]
  rw [decode_eq hdepuncturing (by rw [hbits, Nat.zero_mod]) (.inl hmode) hpos hlength, hsearch,
    decide_eq_false htruncated] at hdecode
  cases hdecode
  refine Bool.false_ne_true (hsuccess.mpr ⟨[], ?_⟩)
  rw [hsymbols]
  exact ⟨(Nat.zero_mul _).symm, fun _ => rfl⟩

/-- The decoder finds the most likely message and the tables give the code of the shift registers when the first
input bit has a register, and when there is a symbol in terminated mode. -/
theorem maximumLikelihood_iff (hnew : new code = .ok coder) (hdistinct : coder.DistinctOutputs)
    (hdepuncturing : coder.depuncturing received = .ok (bits, isPunctured)) (hlength : (bits.length : ℤ) < INT32_MAX)
    (dblrand : ℕ → ℚ) :
    coder.EncodesByRegisters ∧ coder.DecodesOptimally dblrand received bits isPunctured ↔
      ((∀ constraintLength ∈ code.constraintLengthVector, 1 ≤ constraintLength) ∧
        ∀ constraintLength ∈ code.constraintLengthVector.head?, 2 ≤ constraintLength) ∧
      (coder.mode = "terminated" → 0 < coder.receivedSymbols received) := by
  have hpolynomials := new_polynomials hnew
  have hN : 0 < coder.codeRateParamaterN := by
    rw [← hpolynomials.puncturingMatrix, List.length_pos_iff]
    exact (length_depuncturing hdepuncturing).2.2
  rw [← encodesByRegisters_iff_regular hnew hdistinct]
  refine and_congr_right fun hencodes => ?_
  have hproper := new_proper hnew
    (regular_of_constraintLengths hpolynomials ((encodesByRegisters_iff_regular hnew hdistinct).mp hencodes))
  constructor
  · intro hdecodes hmode
    refine Nat.pos_of_ne_zero fun hsymbols => ?_
    exact not_decodesOptimally_of_empty hproper hN hmode hdepuncturing hlength hsymbols hdecodes
  · intro hsymbols
    rcases hpolynomials.mode with hmode | hmode
    · exact decode_terminated hproper hdistinct hN hpolynomials.inputs_pos hmode hdepuncturing hlength (hsymbols hmode)
    · exact decode_truncated hproper hdistinct hN hpolynomials.inputs_pos hmode hdepuncturing hlength

instance (coder : ConvolutionalCoder) : Decidable coder.DistinctOutputs :=
  inferInstanceAs (Decidable (∀ s < coder.numberOfStates, ∀ i < 2 ^ coder.codeRateParamaterK,
    ∀ j < 2 ^ coder.codeRateParamaterK, coder.outputSymbols s i = coder.outputSymbols s j → i = j))

theorem exists_of_any {A : Type} {x : Except Fault A} {P : A → Prop} [DecidablePred P]
    (h : x.toOption.any (fun a => decide (P a)) = true) : ∃ a, x = .ok a ∧ P a := by
  cases x with
  | error f => cases h
  | ok a => exact ⟨a, rfl, of_decide_eq_true h⟩

/-- One bit is encoded as two, over three bits. -/
def threeBitCode : ConvolutionalCode where
  transferFunctionMatrix := [[7, 5]]
  puncturingMatrix := [[1], [1]]
  constraintLengthVector := [3]
  codeRatePuncturingK := 1
  codeRatePuncturingN := 2
  mode := "terminated"

theorem maximumLikelihood_iff_threeBitCode : ∃ coder : ConvolutionalCoder, new threeBitCode = .ok coder ∧
    coder.EncodesByRegisters ∧ coder.DecodesOptimally (fun _ => 0) [true, true, true, false, true, true]
      [true, true, true, false, true, true] [false, false, false, false, false, false] := by
  obtain ⟨coder, hnew, hdistinct, hdepuncturing, hsymbols⟩ := exists_of_any (x := new threeBitCode)
    (P := fun coder => coder.DistinctOutputs ∧
      (coder.depuncturing [true, true, true, false, true, true]).toOption =
        some ([true, true, true, false, true, true], [false, false, false, false, false, false]) ∧
      0 < coder.receivedSymbols [true, true, true, false, true, true]) (by decide +kernel)
  refine ⟨coder, hnew, (maximumLikelihood_iff hnew hdistinct (toOption_eq_some.mp hdepuncturing) (by decide) _).mpr ?_⟩
  refine ⟨⟨?_, ?_⟩, fun _ => hsymbols⟩
  · decide
  · decide

/-- The bits are sent as they are, without a register. -/
def plainCode : ConvolutionalCode where
  transferFunctionMatrix := [[1]]
  puncturingMatrix := [[1]]
  constraintLengthVector := [1]
  codeRatePuncturingK := 1
  codeRatePuncturingN := 1
  mode := "truncated"

/-- Two set bits lead to a state that the tables do not have. -/
theorem not_maximumLikelihood : ¬∀ (code : ConvolutionalCode) (coder : ConvolutionalCoder)
    (received bits isPunctured : List Bool) (dblrand : ℕ → ℚ), new code = .ok coder → coder.DistinctOutputs →
      coder.depuncturing received = .ok (bits, isPunctured) → (bits.length : ℤ) < INT32_MAX →
        coder.EncodesByRegisters ∧ coder.DecodesOptimally dblrand received bits isPunctured := by
  intro hall
  obtain ⟨coder, hnew, hdistinct, hdepuncturing, hK, hencode⟩ := exists_of_any (x := new plainCode)
    (P := fun coder => coder.DistinctOutputs ∧
      (coder.depuncturing [true, true]).toOption = some ([true, true], [false, false]) ∧
      coder.codeRateParamaterK = 1 ∧ (coder.encodeUnpunctured [true, true]).toOption = none) (by decide +kernel)
  have hencodes := (hall _ coder _ _ _ (fun _ => 0) hnew hdistinct (toOption_eq_some.mp hdepuncturing) (by decide)).1
  rw [hencodes [true, true] (by rw [hK]; rfl)] at hencode
  cases hencode

end MaximumLikelihood

end inet.physicallayer.ConvolutionalCoder
