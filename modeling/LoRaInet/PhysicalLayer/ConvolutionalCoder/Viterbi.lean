import LoRaInet.Graph.Trellis
import LoRaInet.PhysicalLayer.ConvolutionalCoder.Encoding

open omnetpp graph

namespace inet.physicallayer.ConvolutionalCoder

open ShortBitVector

section Columns

variable (coder : ConvolutionalCoder) (bits isPunctured : List Bool)

def next (s i : ℕ) : ℕ := (coder.stateTransitions s i).toNat

/-- The symbol of a time. -/
def symbolAt (t : ℕ) : List Bool := (bits.drop (t * coder.codeRateParamaterN)).take coder.codeRateParamaterN

/-- The distance that a transition adds. -/
def cost (t s i : ℕ) : ℕ :=
  hammingDistance (coder.symbolAt isPunctured t) (coder.symbolAt bits t) (coder.outputSymbols s i)

def IsInput (i : ℕ) : Prop := i < 2 ^ coder.codeRateParamaterK

/-- The distance of the path of a node; the path without a symbol has none. -/
def TrellisGraphNode.distance (node : TrellisGraphNode) : ℤ :=
  if node.comulativeHammingDistance ≠ INT32_MAX then node.comulativeHammingDistance else 0

/-- The inputs of the path on which the nodes lead back to the start. -/
inductive Traced (graph : TrellisGraph) : ℕ → ℕ → List ℕ → Prop
  | start : Traced graph 0 0 []
  | step {t p i : ℕ} {inputs : List ℕ} (s : ℕ) (path : Traced graph t p inputs) (isInput : coder.IsInput i)
      (prev_lt : p < coder.numberOfStates) (symbol : (graph s (t + 1)).symbol = i)
      (prevState : (graph s (t + 1)).prevState = p) : Traced graph (t + 1) s (inputs ++ [i])

/-- The node of a state holds a path to it with the least distance. -/
structure Best (graph : TrellisGraph) (t s : ℕ) (inputs : List ℕ) : Prop where
  traced : Traced coder graph t s inputs
  survivor : Survivor coder.next (coder.cost bits isPunctured) coder.IsInput 0 inputs
  length : inputs.length = t
  leads : pathState coder.next 0 inputs = s
  state : (graph s t).state = s
  depth : (graph s t).depth = t
  distance : (graph s t).distance = pathCost coder.next (coder.cost bits isPunctured) 0 0 inputs
  reached : 0 < t → (graph s t).symbol ≠ -1 ∧ (graph s t).comulativeHammingDistance < INT32_MAX

/-- No path of this length leads to the state. -/
def Unreached (t s : ℕ) : Prop :=
  ∀ inputs : List ℕ, (∀ i ∈ inputs, coder.IsInput i) → inputs.length = t → pathState coder.next 0 inputs ≠ s

variable (graph : TrellisGraph)

/-- The nodes of a time are right. -/
def Column (t : ℕ) : Prop :=
  ∀ s < coder.numberOfStates, (∃ inputs, Best coder bits isPunctured graph t s inputs) ∨
    graph s t = initialNode ∧ coder.Unreached t s

/-- A transition from a node with a path, by the output symbol. -/
structure Edge (graph : TrellisGraph) (t p j i : ℕ) : Prop where
  prev_lt : p < coder.numberOfStates
  live : (graph p t).state ≠ -1
  symbol : coder.inputSymbols p j = i

/-- The distance of a path with one more transition. -/
def candidate (t p i : ℕ) : ℤ := coder.cost bits isPunctured t p i + (graph p t).distance

/-- The node comes from a transition. -/
structure From (graph : TrellisGraph) (t s p i : ℕ) : Prop where
  leads : coder.next p i = s
  symbol : (graph s (t + 1)).symbol = i
  state : (graph s (t + 1)).state = s
  prevState : (graph s (t + 1)).prevState = p
  depth : (graph s (t + 1)).depth = (graph p t).depth + 1
  distance : (graph s (t + 1)).comulativeHammingDistance = coder.candidate bits isPunctured graph t p i

/-- The node of a state comes from the best of the transitions that have been tried. -/
def Tried (t s : ℕ) (done : List (ℕ × ℕ)) : Prop :=
  (graph s (t + 1) = initialNode ∧ ∀ e ∈ done, ∀ i, Edge coder graph t e.1 e.2 i → coder.next e.1 i ≠ s) ∨
    ∃ p j i, (p, j) ∈ done ∧ Edge coder graph t p j i ∧ From coder bits isPunctured graph t s p i ∧
      ∀ e ∈ done, ∀ i', Edge coder graph t e.1 e.2 i' → coder.next e.1 i' = s →
        coder.candidate bits isPunctured graph t p i ≤ coder.candidate bits isPunctured graph t e.1 i'

end Columns

section Set

variable {coder : ConvolutionalCoder} {bits isPunctured : List Bool} {graph graph' : TrellisGraph} {s t p j i : ℕ}
  {inputs : List ℕ} {node : TrellisGraphNode}

theorem set_same (graph : TrellisGraph) (s t : ℕ) (node : TrellisGraphNode) : graph.set s t node s t = node :=
  if_pos ⟨rfl, rfl⟩

theorem set_of_state_ne {s' : ℕ} (h : s' ≠ s) (u : ℕ) : graph.set s t node s' u = graph s' u := if_neg fun h' => h h'.1

theorem set_of_time_ne {u : ℕ} (h : u ≠ t) (s' : ℕ) : graph.set s t node s' u = graph s' u := if_neg fun h' => h h'.2

/-- The nodes up to a time are the same. -/
def SameUntil (graph graph' : TrellisGraph) (t : ℕ) : Prop := ∀ u ≤ t, ∀ s, graph' s u = graph s u

theorem Traced.mono (h : Traced coder graph t s inputs) (hsame : SameUntil graph graph' t) :
    Traced coder graph' t s inputs := by
  induction h with
  | start => exact .start
  | @step t p i inputs s path isInput prev_lt symbol prevState ih =>
    have hs := hsame (t + 1) le_rfl s
    exact .step s (ih fun u hu => hsame u (by omega)) isInput prev_lt (hs ▸ symbol) (hs ▸ prevState)

theorem Best.mono (h : Best coder bits isPunctured graph t s inputs) (hsame : SameUntil graph graph' t) :
    Best coder bits isPunctured graph' t s inputs := by
  have hs := hsame t le_rfl s
  exact ⟨h.traced.mono hsame, h.survivor, h.length, h.leads, hs ▸ h.state, hs ▸ h.depth, hs ▸ h.distance,
    hs ▸ h.reached⟩

theorem Column.mono (h : Column coder bits isPunctured graph t) (hsame : SameUntil graph graph' t) :
    Column coder bits isPunctured graph' t := by
  intro s hs
  rcases h s hs with ⟨inputs, hbest⟩ | ⟨hinitial, hunreached⟩
  · exact .inl ⟨inputs, hbest.mono hsame⟩
  · exact .inr ⟨(hsame t le_rfl s).trans hinitial, hunreached⟩

theorem edge_congr (hsame : SameUntil graph graph' t) : Edge coder graph' t p j i ↔ Edge coder graph t p j i := by
  constructor
  · exact fun h => ⟨h.prev_lt, hsame t le_rfl p ▸ h.live, h.symbol⟩
  · exact fun h => ⟨h.prev_lt, (hsame t le_rfl p).symm ▸ h.live, h.symbol⟩

theorem candidate_congr (hsame : SameUntil graph graph' t) :
    coder.candidate bits isPunctured graph' t p i = coder.candidate bits isPunctured graph t p i := by
  rw [candidate, candidate, hsame t le_rfl p]

theorem Tried.snoc_of_ne {done : List (ℕ × ℕ)} (h : Tried coder bits isPunctured graph t s done)
    (hne : ∀ i, Edge coder graph t p j i → coder.next p i ≠ s) :
    Tried coder bits isPunctured graph t s (done ++ [(p, j)]) := by
  rcases h with ⟨hinitial, hnone⟩ | ⟨q, k, i, hmem, hedge, hfrom, hleast⟩
  · refine .inl ⟨hinitial, fun e he i hedge => ?_⟩
    rcases List.mem_append.mp he with he | he
    · exact hnone e he i hedge
    · rw [List.mem_singleton.mp he] at hedge ⊢
      exact hne i hedge
  · refine .inr ⟨q, k, i, List.mem_append_left _ hmem, hedge, hfrom, fun e he i' hedge' hleads => ?_⟩
    rcases List.mem_append.mp he with he | he
    · exact hleast e he i' hedge' hleads
    · rw [List.mem_singleton.mp he] at hedge' hleads ⊢
      exact absurd hleads (hne i' hedge')

theorem Tried.congr {done : List (ℕ × ℕ)} (h : Tried coder bits isPunctured graph t s done)
    (hsame : SameUntil graph graph' t) (hs : graph' s (t + 1) = graph s (t + 1)) :
    Tried coder bits isPunctured graph' t s done := by
  simp only [Tried, edge_congr hsame, candidate_congr hsame, hs]
  rcases h with h | ⟨p, j, i, hmem, hedge, hfrom, hleast⟩
  · exact .inl h
  · refine .inr ⟨p, j, i, hmem, hedge, ?_, hleast⟩
    refine ⟨hfrom.leads, hs ▸ hfrom.symbol, hs ▸ hfrom.state, hs ▸ hfrom.prevState, ?_, ?_⟩
    · rw [hs, hsame t le_rfl p]
      exact hfrom.depth
    · rw [hs, candidate_congr hsame]
      exact hfrom.distance

end Set

section Update

variable {coder : ConvolutionalCoder} {bits isPunctured : List Bool} {memorySizeSum t : ℕ} {dblrand : ℕ → ℚ}
  {before : TrellisGraph} {search : Search} {done : List (ℕ × ℕ)}

theorem replaces_eq (dblrand : ℕ → ℚ) (distance best : ℤ) (search : Search) :
    (replaces dblrand distance best search).1.trellisGraph = search.trellisGraph ∧
      ((replaces dblrand distance best search).2 = true → distance ≤ best) ∧
      ((replaces dblrand distance best search).2 = false → best ≤ distance) := by
  unfold replaces
  split
  · next heq => exact ⟨rfl, fun _ => heq.le, fun _ => heq.ge⟩
  · split
    · next hlt => exact ⟨rfl, fun _ => hlt.le, fun h => Bool.noConfusion h⟩
    · next hge => exact ⟨rfl, fun h => Bool.noConfusion h, fun _ => not_lt.mp hge⟩

theorem Tried.replace {graph : TrellisGraph} {s p j i : ℕ} {node : TrellisGraphNode}
    (h : Tried coder bits isPunctured graph t s done) (hedge : Edge coder graph t p j i)
    (hfrom : From coder bits isPunctured (graph.set s (t + 1) node) t s p i)
    (hle : coder.candidate bits isPunctured graph t p i ≤ (graph s (t + 1)).comulativeHammingDistance) :
    Tried coder bits isPunctured (graph.set s (t + 1) node) t s (done ++ [(p, j)]) := by
  have hsame : SameUntil graph (graph.set s (t + 1) node) t := fun u hu s' => set_of_time_ne (by omega) s'
  simp only [Tried, edge_congr hsame, candidate_congr hsame]
  refine .inr ⟨p, j, i, by simp, hedge, hfrom, fun e he i' hedge' hleads => ?_⟩
  rcases List.mem_append.mp he with he | he
  · rcases h with ⟨-, hnone⟩ | ⟨q, k, l, -, -, hfrom', hleast⟩
    · exact absurd hleads (hnone e he i' hedge')
    · exact hle.trans (hfrom'.distance.le.trans (hleast e he i' hedge' hleads))
  · rw [List.mem_singleton.mp he] at hedge' ⊢
    have hi : i' = i := by exact_mod_cast hedge'.symbol.symm.trans hedge.symbol
    rw [hi]

theorem Tried.keep {graph : TrellisGraph} {s p j i : ℕ} (h : Tried coder bits isPunctured graph t s done)
    (hedge : Edge coder graph t p j i) (hbound : coder.candidate bits isPunctured graph t p i < INT32_MAX)
    (hge : (graph s (t + 1)).comulativeHammingDistance ≤ coder.candidate bits isPunctured graph t p i) :
    Tried coder bits isPunctured graph t s (done ++ [(p, j)]) := by
  rcases h with ⟨hinitial, -⟩ | ⟨q, k, l, hmem, hedge', hfrom, hleast⟩
  · rw [hinitial] at hge
    exact absurd (hge.trans_lt hbound) (lt_irrefl _)
  · refine .inr ⟨q, k, l, List.mem_append_left _ hmem, hedge', hfrom, fun e he i' hedge'' hleads => ?_⟩
    rcases List.mem_append.mp he with he | he
    · exact hleast e he i' hedge'' hleads
    · rw [List.mem_singleton.mp he] at hedge'' ⊢
      have hi : i' = i := by exact_mod_cast hedge''.symbol.symm.trans hedge.symbol
      rw [hi, ← hfrom.distance]
      exact hge

/-- The column behind a time is being filled in; some transitions have been tried. -/
structure Filling (coder : ConvolutionalCoder) (bits isPunctured : List Bool) (t : ℕ) (before : TrellisGraph)
    (done : List (ℕ × ℕ)) (search : Search) : Prop where
  same : ∀ u ≠ t + 1, ∀ s, search.trellisGraph s u = before s u
  tried : ∀ s < coder.numberOfStates, Tried coder bits isPunctured search.trellisGraph t s done

theorem foldlM_stateInputs {S : Type} (n m : ℕ) (round : ℕ → S → ℕ → Except Fault S) (s : S) :
    (List.range n).foldlM (fun s p => (List.range m).foldlM (round p) s) s =
      (stateInputs n m).foldlM (fun s e => round e.1 s e.2) s := by
  unfold stateInputs
  induction List.range n generalizing s with
  | nil => rfl
  | cons p l ih =>
    rw [List.foldlM_cons, List.flatMap_cons, List.foldlM_append, List.foldlM_map]
    exact congrArg (_ >>= ·) (funext ih)

section

variable (hproper : coder.Proper memorySizeSum)
    (hbits : (coder.symbolAt bits t).length = coder.codeRateParamaterN)
    (hpunctured : (coder.symbolAt isPunctured t).length = coder.codeRateParamaterN)
    (hne : coder.symbolAt bits t ≠ [])
    (hbound : ∀ p j i, Edge coder before t p j i → coder.candidate bits isPunctured before t p i < INT32_MAX)
include hproper hbits hpunctured hne hbound

theorem Filling.updateNode
    (h : Filling coder bits isPunctured t before done search) {p : ℕ} (hp : p < coder.numberOfStates) (j : ℕ) :
    Returns (coder.updateNode dblrand t (coder.symbolAt bits t) ((coder.symbolAt isPunctured t).map (!·)) p search j)
      (Filling coder bits isPunctured t before (done ++ [(p, j)])) := by
  have hsame : SameUntil before search.trellisGraph t := fun u hu s => h.same u (by omega) s
  unfold ConvolutionalCoder.updateNode
  by_cases hlive : (search.trellisGraph p t).state ≠ -1 ∧ coder.inputSymbols p j ≠ -1
  · obtain ⟨hstate, hfeasible⟩ := hlive
    obtain hnone | ⟨i, hi, hsymbol, houtput⟩ := hproper.inputSymbols p hp j
    · exact absurd hnone hfeasible
    obtain ⟨⟨s', hs', htransition⟩, hlength⟩ := row_of_input hproper hp hi
    have hedge : Edge coder search.trellisGraph t p j i := ⟨hp, hstate, hsymbol⟩
    have hnext : coder.next p i = s' := by rw [next, htransition, Int.toNat_natCast]
    have hdecimal : coder.decimalToOutputSymbol j = coder.outputSymbols p i := by
      rw [← houtput]
      exact hproper.decimalToOutputSymbol _ hlength
    have hdistance : computeHammingDistance (coder.symbolAt bits t) ((coder.symbolAt isPunctured t).map (!·))
        (coder.decimalToOutputSymbol j) = .ok (coder.cost bits isPunctured t p i : ℤ) := by
      rw [hdecimal]
      refine computeHammingDistance_eq hne (hbits.trans hlength.symm) (hpunctured.trans hbits.symm) ?_
      rw [hbits]
      exact hproper.outputs_le.trans (by omega)
    rw [if_pos ⟨hstate, hfeasible⟩, hdistance, hsymbol, Int.toNat_natCast, htransition, stateIndex_natCast hs']
    have hdistance' : (coder.cost bits isPunctured t p i : ℤ) +
        (if (search.trellisGraph p t).comulativeHammingDistance ≠ INT32_MAX then
          (search.trellisGraph p t).comulativeHammingDistance else 0) =
            coder.candidate bits isPunctured search.trellisGraph t p i := rfl
    simp only [bind, Except.bind, pure, Except.pure, hdistance']
    obtain ⟨hgraph, hle, hge⟩ := replaces_eq dblrand (coder.candidate bits isPunctured search.trellisGraph t p i)
      (search.trellisGraph s' (t + 1)).comulativeHammingDistance search
    generalize replaces dblrand (coder.candidate bits isPunctured search.trellisGraph t p i)
      (search.trellisGraph s' (t + 1)).comulativeHammingDistance search = result at hgraph hle hge ⊢
    obtain ⟨⟨graph, ties, draws⟩, replace⟩ := result
    obtain rfl : graph = search.trellisGraph := hgraph
    have hbound' : coder.candidate bits isPunctured search.trellisGraph t p i < INT32_MAX := by
      rw [candidate_congr hsame]
      exact hbound p j i ((edge_congr hsame).mp hedge)
    have hother {s : ℕ} (hne : s ≠ s') (i' : ℕ) (hedge' : Edge coder search.trellisGraph t p j i') :
        coder.next p i' ≠ s := by
      have hi : i' = i := by exact_mod_cast hedge'.symbol.symm.trans hedge.symbol
      rw [hi, hnext]
      exact hne.symm
    by_cases hreplace : replace = true
    · rw [if_pos hreplace]
      refine .ok ⟨fun u hu s => (set_of_time_ne hu s).trans (h.same u hu s), fun s hs => ?_⟩
      have hsame' (node : TrellisGraphNode) : SameUntil search.trellisGraph
          (search.trellisGraph.set s' (t + 1) node) t := fun u hu s => set_of_time_ne (by omega) s
      by_cases heq : s = s'
      · subst heq
        refine (h.tried s hs).replace hedge ?_ (hle hreplace)
        have hp (node : TrellisGraphNode) := hsame' node t le_rfl p
        refine ⟨hnext, ?_, ?_, ?_, ?_, ?_⟩
        · rw [set_same]
        · rw [set_same]
        · rw [set_same]
        · rw [set_same, hp]
        · rw [set_same, candidate_congr (hsame' _)]
      · refine ((h.tried s hs).congr (hsame' _) (set_of_state_ne heq _)).snoc_of_ne fun i' hedge' => ?_
        exact hother heq i' ((edge_congr (hsame' _)).mp hedge')
    · rw [if_neg hreplace]
      refine .ok ⟨fun u hu s => ?_, fun s hs => ?_⟩
      · exact h.same u hu s
      · by_cases heq : s = s'
        · subst heq
          exact (h.tried s hs).keep hedge hbound' (hge (Bool.eq_false_of_not_eq_true hreplace))
        · exact (h.tried s hs).snoc_of_ne (hother heq)
  · rw [if_neg hlive]
    refine .ok ⟨h.same, fun s hs => (h.tried s hs).snoc_of_ne fun i hedge => ?_⟩
    refine absurd ⟨hedge.live, ?_⟩ hlive
    rw [hedge.symbol]
    omega

theorem Filling.foldlM
    (pairs : List (ℕ × ℕ)) (hpairs : ∀ e ∈ pairs, e.1 < coder.numberOfStates) :
    ∀ done search, Filling coder bits isPunctured t before done search →
      Returns (pairs.foldlM (fun search e => coder.updateNode dblrand t (coder.symbolAt bits t)
        ((coder.symbolAt isPunctured t).map (!·)) e.1 search e.2) search)
          (Filling coder bits isPunctured t before (done ++ pairs)) := by
  induction pairs with
  | nil =>
    intro done search h
    rw [List.append_nil]
    exact .pure h
  | cons e pairs ih =>
    intro done search h
    rw [List.foldlM_cons, List.append_cons]
    exact (h.updateNode hproper hbits hpunctured hne hbound (hpairs e (.head _)) e.2).bind
      fun search' h' => ih (fun e he => hpairs e (.tail _ he)) _ search' h'

end

theorem cost_le (s i : ℕ) : coder.cost bits isPunctured t s i ≤ coder.codeRateParamaterN :=
  (hammingDistance_le _ _ _).trans (List.length_take_le _ _)

theorem pathCost_le (inputs : List ℕ) : ∀ t s,
    pathCost coder.next (coder.cost bits isPunctured) t s inputs ≤ inputs.length * coder.codeRateParamaterN := by
  induction inputs with
  | nil => exact fun t s => Nat.zero_le _
  | cons i inputs ih =>
    intro t s
    have := ih (t + 1) (coder.next s i)
    have := @cost_le coder bits isPunctured t s i
    rw [pathCost, List.length_cons, Nat.succ_mul]
    omega

theorem pathState_lt (hproper : coder.Proper memorySizeSum) {inputs : List ℕ} (h : ∀ i ∈ inputs, coder.IsInput i) :
    ∀ s < coder.numberOfStates, pathState coder.next s inputs < coder.numberOfStates := by
  induction inputs with
  | nil => exact fun s hs => hs
  | cons i inputs ih =>
    intro s hs
    obtain ⟨⟨s', hs', htransition⟩, -⟩ := row_of_input hproper hs (h i (.head _))
    refine ih (fun i hi => h i (.tail _ hi)) _ ?_
    rw [next, htransition, Int.toNat_natCast]
    exact hs'

/-- Each input has its transition by the output symbol when distinct inputs have distinct ones. -/
theorem exists_edge (hproper : coder.Proper memorySizeSum) (hdistinct : coder.DistinctOutputs) {graph : TrellisGraph}
    {p i : ℕ} (hp : p < coder.numberOfStates) (hlive : (graph p t).state ≠ -1) (hi : coder.IsInput i) :
    ∃ j < 2 ^ coder.codeRateParamaterN, Edge coder graph t p j i := by
  have hlength := (row_of_input hproper hp hi).2
  refine ⟨_, reverseToDecimal_lt hlength, hp, hlive, ?_⟩
  rcases hproper.inputSymbols p hp (coder.outputSymbols p i).reverseToDecimal with hnone | ⟨i', hi', hsymbol, houtput⟩
  · exact absurd hnone (hproper.inputSymbols_outputSymbols p hp i hi)
  · have hequal := reverseToDecimal_inj ((row_of_input hproper hp hi').2.trans hlength.symm) houtput
    rw [hsymbol, hdistinct p hp i' hi' i hi hequal]

theorem Column.best (h : Column coder bits isPunctured before t) {p j i : ℕ} (hedge : Edge coder before t p j i) :
    ∃ inputs, Best coder bits isPunctured before t p inputs := by
  rcases h p hedge.prev_lt with hbest | ⟨hinitial, -⟩
  · exact hbest
  · refine absurd ?_ hedge.live
    rw [hinitial]
    rfl

theorem Column.candidate_lt (h : Column coder bits isPunctured before t)
    (hlength : ((t + 1) * coder.codeRateParamaterN : ℕ) < INT32_MAX) {p j i : ℕ}
    (hedge : Edge coder before t p j i) : coder.candidate bits isPunctured before t p i < INT32_MAX := by
  obtain ⟨inputs, hbest⟩ := h.best hedge
  have hcost := @cost_le coder bits isPunctured t p i
  have hpath := @pathCost_le coder bits isPunctured inputs 0 0
  rw [hbest.length] at hpath
  rw [Nat.succ_mul] at hlength
  rw [candidate, hbest.distance]
  push_cast at hlength ⊢
  omega

theorem pathCost_of_survivors {others inputs : List ℕ}
    (hothers : Survivor coder.next (coder.cost bits isPunctured) coder.IsInput 0 others)
    (hinputs : Survivor coder.next (coder.cost bits isPunctured) coder.IsInput 0 inputs)
    (hlength : others.length = inputs.length)
    (hends : pathState coder.next 0 others = pathState coder.next 0 inputs) :
    pathCost coder.next (coder.cost bits isPunctured) 0 0 others =
      pathCost coder.next (coder.cost bits isPunctured) 0 0 inputs :=
  le_antisymm (hothers.least inputs hinputs.all_allowed hlength.symm hends.symm)
    (hinputs.least others hothers.all_allowed hlength hends)

section

variable (hproper : coder.Proper memorySizeSum) (hdistinct : coder.DistinctOutputs)
include hproper hdistinct

theorem Column.unreached (h : Column coder bits isPunctured before t) {s : ℕ}
    (hnone : ∀ e ∈ stateInputs coder.numberOfStates (2 ^ coder.codeRateParamaterN), ∀ i,
      Edge coder before t e.1 e.2 i → coder.next e.1 i ≠ s) : coder.Unreached (t + 1) s := by
  intro inputs hinputs hlength hleads
  rcases List.eq_nil_or_concat inputs with rfl | ⟨inputs, i, rfl⟩
  · cases hlength
  rw [List.concat_eq_append] at hinputs hlength hleads
  rw [List.length_append, List.length_singleton, Nat.add_right_cancel_iff] at hlength
  rw [pathState_snoc] at hleads
  have hallowed : ∀ k ∈ inputs, coder.IsInput k := fun k hk => hinputs k (List.mem_append_left _ hk)
  have hpos : 0 < coder.numberOfStates := hproper.numberOfStates ▸ Nat.two_pow_pos _
  have hp := pathState_lt hproper hallowed 0 hpos
  rcases h _ hp with ⟨best, hbest⟩ | ⟨-, hunreached⟩
  · have hlive : (before (pathState coder.next 0 inputs) t).state ≠ -1 := by
      rw [hbest.state]
      omega
    obtain ⟨j, hj, hedge⟩ := exists_edge hproper hdistinct hp hlive (hinputs i (by simp))
    exact hnone (_, j) (mem_stateInputs.mpr ⟨hp, hj⟩) i hedge hleads
  · exact hunreached inputs hallowed hlength rfl

theorem Column.succ {graph : TrellisGraph} (h : Column coder bits isPunctured graph t)
    (hlength : ((t + 1) * coder.codeRateParamaterN : ℕ) < INT32_MAX)
    (htried : ∀ s < coder.numberOfStates, Tried coder bits isPunctured graph t s
      (stateInputs coder.numberOfStates (2 ^ coder.codeRateParamaterN))) :
    Column coder bits isPunctured graph (t + 1) := by
  intro s hs
  rcases htried s hs with ⟨hinitial, hnone⟩ | ⟨p, j, i, -, hedge, hfrom, hleast⟩
  · exact .inr ⟨hinitial, h.unreached hproper hdistinct hnone⟩
  · refine .inl ?_
    obtain ⟨inputs, hbest⟩ := h.best hedge
    have hi : coder.IsInput i := by
      rcases hproper.inputSymbols p hedge.prev_lt j with hnone | ⟨i', hi', hsymbol, -⟩
      · rw [hedge.symbol] at hnone
        omega
      · rw [hedge.symbol] at hsymbol
        have : i = i' := by exact_mod_cast hsymbol
        rwa [this]
    have hcost : (pathCost coder.next (coder.cost bits isPunctured) 0 0 (inputs ++ [i]) : ℤ) =
        coder.candidate bits isPunctured graph t p i := by
      rw [pathCost_snoc, hbest.length, hbest.leads, Nat.zero_add, candidate, hbest.distance]
      push_cast
      omega
    have hlt := h.candidate_lt hlength hedge
    have hdistance : (graph s (t + 1)).comulativeHammingDistance ≠ INT32_MAX := by
      rw [hfrom.distance]
      exact hlt.ne
    refine ⟨inputs ++ [i], ?_⟩
    constructor
    · exact .step s hbest.traced hi hedge.prev_lt hfrom.symbol hfrom.prevState
    · refine hbest.survivor.snoc hi fun others k hothers hlength' hk hleads => ?_
      have hpos : 0 < coder.numberOfStates := hproper.numberOfStates ▸ Nat.two_pow_pos _
      have hp := pathState_lt hproper hothers.all_allowed 0 hpos
      rw [hbest.leads, hfrom.leads] at hleads
      rw [hbest.length] at hlength'
      rcases h _ hp with ⟨best, hbest'⟩ | ⟨-, hunreached⟩
      · have hlive : (graph (pathState coder.next 0 others) t).state ≠ -1 := by
          rw [hbest'.state]
          omega
        obtain ⟨j', hj', hedge'⟩ := exists_edge hproper hdistinct hp hlive hk
        have hle := hleast (pathState coder.next 0 others, j') (mem_stateInputs.mpr ⟨hp, hj'⟩) k hedge' hleads
        have hsame := pathCost_of_survivors hothers hbest'.survivor (hlength'.trans hbest'.length.symm)
          hbest'.leads.symm
        have hothers' : (pathCost coder.next (coder.cost bits isPunctured) 0 0 (others ++ [k]) : ℤ) =
            coder.candidate bits isPunctured graph t (pathState coder.next 0 others) k := by
          rw [pathCost_snoc, hlength', Nat.zero_add, candidate, hbest'.distance, hsame]
          push_cast
          omega
        rw [← hcost, ← hothers'] at hle
        exact_mod_cast hle
      · exact absurd rfl (hunreached others hothers.all_allowed hlength')
    · rw [List.length_append, hbest.length, List.length_singleton]
    · rw [pathState_snoc, hbest.leads, hfrom.leads]
    · exact hfrom.state
    · rw [hfrom.depth, hbest.depth]
    · rw [TrellisGraphNode.distance, if_pos hdistance, hfrom.distance, hcost]
    · refine fun _ => ⟨?_, ?_⟩
      · rw [hfrom.symbol]
        omega
      · rw [hfrom.distance]
        exact hlt

/-- The loops over the states and the output symbols fill in the next column. -/
theorem Column.updateTrellisGraph
    (hbits : (coder.symbolAt bits t).length = coder.codeRateParamaterN)
    (hpunctured : (coder.symbolAt isPunctured t).length = coder.codeRateParamaterN)
    (hne : coder.symbolAt bits t ≠ []) (hlength : ((t + 1) * coder.codeRateParamaterN : ℕ) < INT32_MAX)
    (h : Column coder bits isPunctured search.trellisGraph t)
    (hinitial : ∀ u > t, ∀ s, search.trellisGraph s u = initialNode) :
    Returns (coder.updateTrellisGraph dblrand t (coder.symbolAt bits t) ((coder.symbolAt isPunctured t).map (!·)) search)
      fun search' => Column coder bits isPunctured search'.trellisGraph (t + 1) ∧
        ∀ u > t + 1, ∀ s, search'.trellisGraph s u = initialNode := by
  rw [ConvolutionalCoder.updateTrellisGraph, foldlM_stateInputs]
  have hstart : Filling coder bits isPunctured t search.trellisGraph [] { search with tieBreakingCounter := 0 } :=
    ⟨fun u _ s => rfl, fun s _ => .inl ⟨hinitial (t + 1) (Nat.lt_succ_self t) s, fun e he => by cases he⟩⟩
  refine (Filling.foldlM hproper hbits hpunctured hne (fun p j i hedge => h.candidate_lt hlength hedge) _
    (fun e he => (mem_stateInputs.mp he).1) [] _ hstart).mono fun search' hfilled => ⟨?_, fun u hu s => ?_⟩
  · have hsame : SameUntil search.trellisGraph search'.trellisGraph t := fun u hu s => hfilled.same u (by omega) s
    exact (h.mono hsame).succ hproper hdistinct hlength hfilled.tried
  · rw [hfilled.same u hu.ne' s]
    exact hinitial u (by omega) s

end

end Update

end inet.physicallayer.ConvolutionalCoder
