import LoRaInet.Kernel.Assert
import Mathlib

open omnetpp

namespace inet

/-- The bits of a `ShortBitVector`, from the first one. -/
abbrev ShortBitVector := List Bool

namespace ShortBitVector

/-- The first bit is the lowest one. -/
def toDecimal : ShortBitVector → ℕ
  | [] => 0
  | b :: bits => b.toNat + 2 * toDecimal bits

/-- The first bit is the highest one. -/
def reverseToDecimal (v : ShortBitVector) : ℕ := v.foldl (fun decimal b => 2 * decimal + b.toNat) 0

/-- The constructor with the number of bits. -/
def ofDecimal (bits size : ℕ) : ShortBitVector := (List.range size).map bits.testBit

/-- A vector that has been shifted: bits that have left it are still in the integer. -/
structure Shifted where
  bits : List Bool
  size : ℕ

/-- The size is kept. -/
def leftShift (v : ShortBitVector) (shift : ℕ) : Shifted := ⟨List.replicate shift false ++ v, v.length⟩

/-- The vector grows when the position is behind its end; positions are unsigned. -/
def Shifted.setBit (v : Shifted) (pos : ℤ) (value : Bool) : Except Fault Shifted :=
  if 0 ≤ pos ∧ pos < 32 then
    .ok ⟨(v.bits ++ List.replicate (pos.toNat + 1 - v.bits.length) false).set pos.toNat value,
      max v.size (pos.toNat + 1)⟩
  else .error (.cRuntimeError s!"Out of range with bit position: {pos}")

/-- The bits of the vector. -/
def Shifted.toVector (v : Shifted) : ShortBitVector := v.bits.take v.size

end ShortBitVector

namespace physicallayer

/-- The numbers in the strings of a `ConvolutionalCode`, and its other members. -/
structure ConvolutionalCode where
  transferFunctionMatrix : List (List ℤ)
  puncturingMatrix : List (List ℤ)
  constraintLengthVector : List ℤ
  codeRatePuncturingK : ℕ
  codeRatePuncturingN : ℕ
  mode : String

/-- The tables are known by their entries. -/
structure ConvolutionalCoder where
  mode : String
  codeRateParamaterK : ℕ
  codeRateParamaterN : ℕ
  codeRatePuncturingK : ℕ
  codeRatePuncturingN : ℕ
  memorySizes : List ℤ
  transferFunctionMatrix : List (List ShortBitVector)
  puncturingMatrix : List ShortBitVector
  numberOfStates : ℕ
  inputSymbols : ℕ → ℕ → ℤ
  outputSymbols : ℕ → ℕ → ShortBitVector
  decimalToInputSymbol : ℕ → ShortBitVector
  decimalToOutputSymbol : ℕ → ShortBitVector
  stateTransitions : ℕ → ℕ → ℤ

def INT32_MAX : ℤ := 2147483647

/-- `throw cRuntimeError` under a condition. -/
def throwIf (condition : Prop) [Decidable condition] (text : String) : Except Fault Unit :=
  if condition then .error (.cRuntimeError text) else .ok ()

theorem throwIf_eq_ok {condition : Prop} [Decidable condition] {text : String} {u : Unit} :
    throwIf condition text = .ok u ↔ ¬condition := by
  unfold throwIf
  split
  · next h => simp [h]
  · next h => simp [h]

theorem throwIf_bind {condition : Prop} [Decidable condition] {text : String} {B : Type}
    {f : Unit → Except Fault B} (h : ¬condition) : (throwIf condition text >>= f) = f () := by
  rw [throwIf, if_neg h]
  rfl

namespace ConvolutionalCoder

open ShortBitVector

/-- The last entry that is written remains. -/
def fill {A : Type} (table : ℕ → ℕ → A) : List (ℕ × ℕ × A) → ℕ → ℕ → A
  | [] => table
  | (row, column, entry) :: entries =>
    fill (fun r c => if r = row ∧ c = column then entry else table r c) entries

def modulo2Adder (shiftRegisters generatorPolynomial : ShortBitVector) : Bool :=
  (shiftRegisters.zip generatorPolynomial).foldl
    (fun sum (bit, generator) => if generator then sum != bit else sum) false

/-- The bits of the state from a position on; those outside it are not set. -/
def registerBits (state : ShortBitVector) (shift memorySize : ℤ) : ShortBitVector :=
  (List.range memorySize.toNat).map fun k =>
    if 0 ≤ shift + k then (state[(shift + k).toNat]?).getD false else false

/-- From the last input bit to the first. -/
def outputLoop (state : ShortBitVector) :
    ℤ → List (Bool × ℤ × List ShortBitVector) → ShortBitVector → ShortBitVector
  | _, [], outputSymbol => outputSymbol
  | shift, (bit, memorySize, row) :: rest, outputSymbol =>
    let shiftRegisters := bit :: registerBits state shift memorySize
    outputLoop state (shift + memorySize) rest
      (outputSymbol.zipWith (· != ·) (row.map (modulo2Adder shiftRegisters)))

def inputSymbolToOutputSymbol (codeRateParamaterN : ℕ) (memorySizes : List ℤ)
    (transferFunctionMatrix : List (List ShortBitVector)) (state inputSymbol : ShortBitVector) : ShortBitVector :=
  outputLoop state 0 (inputSymbol.zip (memorySizes.zip transferFunctionMatrix)).reverse
    (List.replicate codeRateParamaterN false)

/-- The input bits are put in front of the registers, from the last one to the first. -/
def insertInputs : ℤ → List (Bool × ℤ) → Shifted → Except Fault Shifted
  | _, [], nextState => .ok nextState
  | shift, (bit, memorySize) :: rest, nextState => do
    let nextState ← nextState.setBit shift bit
    insertInputs (shift + memorySize) rest nextState

def nextState (memorySizes : List ℤ) (state inputSymbol : ShortBitVector) : Except Fault ShortBitVector := do
  let nextState ← insertInputs 0 (inputSymbol.zip memorySizes).reverse (state.leftShift 1)
  return nextState.toVector

/-- All states with all input symbols. -/
def stateInputs (numberOfStates numberOfInputSymbols : ℕ) : List (ℕ × ℕ) :=
  (List.range numberOfStates).flatMap fun s => (List.range numberOfInputSymbols).map fun i => (s, i)

/-- The entries of `stateTransitions`. -/
def transitionEntry (memorySizes : List ℤ) (memorySizeSum : ℤ) (codeRateParamaterK : ℕ) :
    ℕ × ℕ → Except Fault (ℕ × ℕ × ℤ)
  | (decState, is) => do
    let state := ofDecimal decState memorySizeSum.toNat
    let inputSymbol := ofDecimal is codeRateParamaterK
    let next ← nextState memorySizes state inputSymbol
    return (state.reverseToDecimal, inputSymbol.reverseToDecimal, next.reverseToDecimal)

/-- The symbol of this size with a decimal that is its reverse. -/
def symbolTable (size : ℕ) (decimal : ℕ) : ShortBitVector :=
  fill (fun _ _ => []) ((List.range (2 ^ size)).map fun i =>
    (0, (ofDecimal i size).reverseToDecimal, ofDecimal i size)) 0 decimal

/-- The digits of a decimal number taken as octal digits. -/
def octalDigits : ℕ → ℕ → ℕ
  | 0, _ => 0
  | digits + 1, n => n % 10 + 8 * octalDigits digits (n / 10)

def octalToDec (octalNum : ℤ) : ℤ := octalNum.sign * octalDigits octalNum.natAbs octalNum.natAbs

def octalToBinary (octalNum fixedSize : ℤ) : Except Fault ShortBitVector :=
  if 0 ≤ fixedSize ∧ fixedSize ≤ 32 then .ok (ofDecimal (octalDigits octalNum.toNat octalNum.toNat) fixedSize.toNat)
  else .error (.cRuntimeError s!"size = {fixedSize} must be less than 32")

def convertBit (position : ℕ) (entry : ℤ) : Except Fault Bool :=
  if entry ≠ 1 ∧ entry ≠ 0 then .error (.cRuntimeError "A bool matrix only contains 0-1 values")
  else if position < 32 then .ok (entry = 1)
  else .error (.cRuntimeError s!"Out of range with bit position: {position}")

def convertToShortBitVectorMatrix (matrix : List (List ℤ)) : Except Fault (List ShortBitVector) :=
  matrix.mapM fun row => row.zipIdx.mapM fun (entry, position) => convertBit position entry

/-- A polynomial with the constraint length of its row. -/
def checkPolynomial (constraintLength : Option ℤ) (octalNum : ℤ) : Except Fault Unit :=
  match constraintLength with
  | none => .error .outOfRange
  | some constraintLength =>
    if (octalToDec octalNum : ℚ) ≥ (2 : ℚ) ^ constraintLength then
      .error (.cRuntimeError "Code size is greater then constraint length")
    else .ok ()

def checkPolynomials (constraintLengths : List ℤ) (matrix : List (List ℤ)) : Except Fault Unit :=
  (List.range matrix.length).forM fun i =>
    ((matrix[i]?).getD []).forM (checkPolynomial constraintLengths[i]?)

def setTransferFunctionMatrix (constraintLengths : List ℤ) (matrix : List (List ℤ)) :
    Except Fault (List (List ShortBitVector)) :=
  (matrix.zip constraintLengths).mapM fun (row, constraintLength) =>
    row.mapM fun elem => (octalToBinary elem constraintLength).map List.reverse

/-- The numbers of states and symbols are powers of two that are ints. -/
def checkAllocations (memorySizeSum : ℤ) (codeRateParamaterK codeRateParamaterN : ℕ) : Except Fault Unit :=
  throwIf (30 < memorySizeSum ∨ 30 < codeRateParamaterK ∨ 30 < codeRateParamaterN) "std::bad_array_new_length"

/-- `initParameters`, from the matrices on. -/
def initParameters (code : ConvolutionalCode) (codeRateParamaterN : ℕ) (puncturingMatrix : List ShortBitVector)
    (transferFunctionMatrix : List (List ShortBitVector)) : Except Fault ConvolutionalCoder := do
  let codeRateParamaterK := code.transferFunctionMatrix.length
  let memorySizes := code.constraintLengthVector.map (· - 1)
  let memorySizeSum := memorySizes.sum
  checkAllocations memorySizeSum codeRateParamaterK codeRateParamaterN
  let numberOfStates := if memorySizeSum < 0 then 0 else 2 ^ memorySizeSum.toNat
  let pairs := stateInputs numberOfStates (2 ^ codeRateParamaterK)
  let decimalToInputSymbol := symbolTable codeRateParamaterK
  let output (p : ℕ × ℕ) := inputSymbolToOutputSymbol codeRateParamaterN memorySizes transferFunctionMatrix
    (ofDecimal p.1 memorySizeSum.toNat) (decimalToInputSymbol p.2)
  let reverseDec (p : ℕ × ℕ) := (ofDecimal p.1 memorySizeSum.toNat).reverseToDecimal
  let transitions ← pairs.mapM (transitionEntry memorySizes memorySizeSum codeRateParamaterK)
  return {
    mode := code.mode
    codeRateParamaterK := codeRateParamaterK
    codeRateParamaterN := codeRateParamaterN
    codeRatePuncturingK := code.codeRatePuncturingK
    codeRatePuncturingN := code.codeRatePuncturingN
    memorySizes := memorySizes
    transferFunctionMatrix := transferFunctionMatrix
    puncturingMatrix := puncturingMatrix
    numberOfStates := numberOfStates
    inputSymbols := fill (fun _ _ => -1) (pairs.map fun p => (reverseDec p, (output p).reverseToDecimal, (p.2 : ℤ)))
    outputSymbols := fill (fun _ _ => []) (pairs.map fun p => (reverseDec p, p.2, output p))
    decimalToInputSymbol := decimalToInputSymbol
    decimalToOutputSymbol := symbolTable codeRateParamaterN
    stateTransitions := fill (fun _ _ => -1) transitions }

def new (code : ConvolutionalCode) : Except Fault ConvolutionalCoder := do
  throwIf (code.mode ≠ "terminated" ∧ code.mode ≠ "truncated") s!"Unknown (= {code.mode} ) coding mode"
  let puncturingMatrix ← convertToShortBitVectorMatrix code.puncturingMatrix
  match code.transferFunctionMatrix.head? with
  | none => .error .outOfRange
  | some firstRow => do
    let codeRateParamaterN := firstRow.length
    checkPolynomials code.constraintLengthVector code.transferFunctionMatrix
    throwIf (∃ row ∈ code.transferFunctionMatrix, row.length ≠ codeRateParamaterN)
      "Transfer function matrix must be a k-by-n matrix of octal numbers"
    throwIf (code.transferFunctionMatrix.length ≠ code.constraintLengthVector.length)
      "Constraint length vector must be a 1-by-k vector of integers"
    throwIf (puncturingMatrix.length ≠ codeRateParamaterN)
      "Puncturing matrix must be a n-by-arbitrary bool matrix"
    let transferFunctionMatrix ← setTransferFunctionMatrix code.constraintLengthVector code.transferFunctionMatrix
    initParameters code codeRateParamaterN puncturingMatrix transferFunctionMatrix

/-- Whether the bit at a position of the encoded bits is left out. -/
def isPuncturedBit (coder : ConvolutionalCoder) (puncturingMatrixSize position : ℕ) : Except Fault Bool :=
  if puncturingMatrixSize = 0 then .error (.cRuntimeError "Floating point exception")
  else
    let place := position / coder.codeRateParamaterN % puncturingMatrixSize
    match coder.puncturingMatrix[position % coder.codeRateParamaterN]?.bind (·[place]?) with
    | some kept => .ok !kept
    | none => .error (.cRuntimeError s!"Out of range with bit position {place}")

def getPuncturedIndices (coder : ConvolutionalCoder) (length : ℕ) : Except Fault (List Bool) :=
  match coder.puncturingMatrix with
  | [] => .error .outOfRange
  | row :: _ => (List.range length).mapM (coder.isPuncturedBit row.length)

section Encode

variable (coder : ConvolutionalCoder)

def puncturing (informationBits : List Bool) : Except Fault (List Bool) := do
  let isPunctured ← coder.getPuncturedIndices informationBits.length
  return ((informationBits.zip isPunctured).filter (!·.2)).map (·.1)

/-- An element of a table that has a row for each state. -/
def stateIndex (state : ℤ) : Except Fault ℕ :=
  if 0 ≤ state ∧ state < coder.numberOfStates then .ok state.toNat else .error .outOfRange

/-- The encoded bits before the puncturing, a symbol at a time. -/
def encodeSymbols : ℕ → ℤ → List Bool → Except Fault (List Bool)
  | 0, _, _ => .ok []
  | symbols + 1, state, informationBits => do
    let inputSymbol := informationBits.take coder.codeRateParamaterK
    let inputSymbolDec := reverseToDecimal inputSymbol
    let row ← coder.stateIndex state
    let rest ← encodeSymbols symbols (coder.stateTransitions row inputSymbolDec)
      (informationBits.drop coder.codeRateParamaterK)
    return coder.outputSymbols row inputSymbolDec ++ rest

/-- The code before the puncturing. -/
def encodeUnpunctured (informationBits : List Bool) : Except Fault (List Bool) :=
  if informationBits.length % coder.codeRateParamaterK ≠ 0 then
    .error (.cRuntimeError s!"Length of informationBits must be a multiple of codeRateParamaterK = {coder.codeRateParamaterK}")
  else coder.encodeSymbols (informationBits.length / coder.codeRateParamaterK) 0 informationBits

def encode (informationBits : List Bool) : Except Fault (List Bool) := do
  let encodedInformationBits ← coder.encodeUnpunctured informationBits
  coder.puncturing encodedInformationBits

end Encode

section Decode

/-- The received bits, with a bit that is not set for each one that was left out. -/
def insertPunctured : List Bool → List Bool → Except Fault (List Bool)
  | [], _ => .ok []
  | true :: isPunctured, decodedBits => do
    let rest ← insertPunctured isPunctured decodedBits
    return false :: rest
  | false :: isPunctured, decodedBits =>
    match decodedBits with
    | [] => .error (.cRuntimeError "Out of range with bit position")
    | bit :: decodedBits => do
      let rest ← insertPunctured isPunctured decodedBits
      return bit :: rest

variable (coder : ConvolutionalCoder)

/-- The bits with the places that do not count. -/
def depuncturing (decodedBits : List Bool) : Except Fault (List Bool × List Bool) := do
  throwIf (coder.codeRatePuncturingN = 0) "Floating point exception"
  ASSERT (decodedBits.length % coder.codeRatePuncturingN = 0) "decodedBits.getSize() % codeRatePuncturingN == 0"
  let encodedLength := decodedBits.length / coder.codeRatePuncturingN * coder.codeRatePuncturingK
  let depuncturedLength := encodedLength / coder.codeRateParamaterK * coder.codeRateParamaterN
  let isPunctured ← coder.getPuncturedIndices depuncturedLength
  let depuncturedDecodedBits ← insertPunctured isPunctured decodedBits
  return (depuncturedDecodedBits, isPunctured)

/-- The number of set bits of an unsigned integer. -/
def bitCount (x : BitVec 32) : ℕ :=
  let x := x - ((x >>> 1) &&& 0x55555555)
  let x := (x &&& 0x33333333) + ((x >>> 2) &&& 0x33333333)
  ((((x + (x >>> 4)) &&& 0x0F0F0F0F) * 0x01010101) >>> 24).toNat

/-- An element of the table of the distances. -/
def hammingDistanceLookupTable (i j k : ℕ) : ℕ := bitCount (BitVec.ofNat 32 ((i ^^^ j) &&& k))

def computeHammingDistance (u excludedBits w : ShortBitVector) : Except Fault ℤ :=
  if u = [] ∨ w = [] then
    .error (.cRuntimeError "You can't compute the Hamming distance between undefined BitVectors")
  else if u.length ≠ w.length then
    .error (.cRuntimeError "You can't compute Hamming distance between two vectors with different sizes")
  else .ok (hammingDistanceLookupTable u.toDecimal w.toDecimal excludedBits.toDecimal)

structure TrellisGraphNode where
  symbol : ℤ
  state : ℤ
  prevState : ℤ
  comulativeHammingDistance : ℤ
  numberOfErrors : ℤ
  depth : ℕ

def initialNode : TrellisGraphNode := ⟨-1, -1, -1, INT32_MAX, 0, 0⟩

/-- The nodes by their state and time. -/
abbrev TrellisGraph := ℕ → ℕ → TrellisGraphNode

def TrellisGraph.set (graph : TrellisGraph) (state time : ℕ) (node : TrellisGraphNode) : TrellisGraph :=
  fun s t => if s = state ∧ t = time then node else graph s t

/-- The graph and the counter of ties, and how many random numbers have been drawn. -/
structure Search where
  trellisGraph : TrellisGraph
  tieBreakingCounter : ℕ
  draws : ℕ

variable (dblrand : ℕ → ℚ)

/-- Whether the new node takes the place of the best one; ties are broken at random. -/
def replaces (cumulativeHammingDistance best : ℤ) (search : Search) : Search × Bool :=
  if cumulativeHammingDistance = best then
    ({ search with tieBreakingCounter := search.tieBreakingCounter + 1, draws := search.draws + 1 },
      dblrand search.draws < 1 / (search.tieBreakingCounter + 1))
  else if cumulativeHammingDistance < best then ({ search with tieBreakingCounter := 0 }, true)
  else (search, false)

/-- One round of the inner loop. -/
def updateNode (time : ℕ) (outputSymbol excludedFromHammingDistance : ShortBitVector)
    (prevState : ℕ) (search : Search) (j : ℕ) : Except Fault Search :=
  let node := search.trellisGraph prevState time
  let feasibleDecodedSymbol := coder.inputSymbols prevState j
  if node.state ≠ -1 ∧ feasibleDecodedSymbol ≠ -1 then do
    let hammingDistance ← computeHammingDistance outputSymbol excludedFromHammingDistance
      (coder.decimalToOutputSymbol j)
    let newState ← coder.stateIndex (coder.stateTransitions prevState feasibleDecodedSymbol.toNat)
    let cumulativeHammingDistance := hammingDistance +
      if node.comulativeHammingDistance ≠ INT32_MAX then node.comulativeHammingDistance else 0
    let best := search.trellisGraph newState (time + 1)
    let (search, replace) := replaces dblrand cumulativeHammingDistance best.comulativeHammingDistance search
    let replacement : TrellisGraphNode :=
      { symbol := feasibleDecodedSymbol
        state := newState
        prevState := prevState
        comulativeHammingDistance := cumulativeHammingDistance
        numberOfErrors := if hammingDistance > 0 then node.numberOfErrors + 1 else node.numberOfErrors
        depth := node.depth + 1 }
    let replaced : Search := { search with
      trellisGraph := search.trellisGraph.set newState (time + 1) replacement }
    return if replace then replaced else search
  else .ok search

def updateTrellisGraph (time : ℕ) (outputSymbol excludedFromHammingDistance : ShortBitVector)
    (search : Search) : Except Fault Search :=
  (List.range coder.numberOfStates).foldlM (fun search prevState =>
    (List.range (2 ^ coder.codeRateParamaterN)).foldlM
      (coder.updateNode dblrand time outputSymbol excludedFromHammingDistance prevState) search)
    { search with tieBreakingCounter := 0 }

/-- The received symbol at a time, with the places that count; it is empty at the end. -/
def giveNextOutputSymbol (encodedBits isPunctured : List Bool) (time : ℕ) : ShortBitVector × ShortBitVector :=
  if (time + 1) * coder.codeRateParamaterN > encodedBits.length then
    ([], List.replicate coder.codeRateParamaterN true)
  else
    ((encodedBits.drop (time * coder.codeRateParamaterN)).take coder.codeRateParamaterN,
      ((isPunctured.drop (time * coder.codeRateParamaterN)).take coder.codeRateParamaterN).map (!·))

/-- The loop over the received symbols, and the time at its end. -/
def searchLoop (dblrand : ℕ → ℚ) (encodedBits isPunctured : List Bool) :
    ℕ → ℕ → Search → Except Fault (Search × ℕ)
  | 0, time, search => .ok (search, time)
  | rounds + 1, time, search =>
    let (nextOutputSymbol, countsOnHammingDistance) := coder.giveNextOutputSymbol encodedBits isPunctured time
    if nextOutputSymbol = [] then .ok (search, time)
    else do
      let search ← coder.updateTrellisGraph dblrand time nextOutputSymbol countsOnHammingDistance search
      searchLoop dblrand encodedBits isPunctured rounds (time + 1) search

/-- The decoded bits of the path, from its end. -/
def traverseLoop (trellisGraph : TrellisGraph) : ℕ → TrellisGraphNode → List Bool → Except Fault (List Bool)
  | 0, _, reverseDecodedBits => .ok reverseDecodedBits
  | depth + 1, path, reverseDecodedBits =>
    if 0 ≤ path.symbol ∧ path.symbol < 2 ^ coder.codeRateParamaterK then do
      let inputSymbol := coder.decimalToInputSymbol path.symbol.toNat
      let prevState ← coder.stateIndex path.prevState
      traverseLoop trellisGraph depth (trellisGraph prevState depth) (reverseDecodedBits ++ inputSymbol.reverse)
    else .error .outOfRange

def traversePath (bestNode : TrellisGraphNode) (trellisGraph : TrellisGraph) (isTruncatedMode : Bool) :
    Except Fault (List Bool × Bool) :=
  if !isTruncatedMode && bestNode.symbol = -1 then .ok ([], false)
  else do
    let reverseDecodedBits ← coder.traverseLoop trellisGraph bestNode.depth bestNode []
    return (reverseDecodedBits.reverse, true)

/-- The best of the nodes at the end. -/
def bestNode (trellisGraph : TrellisGraph) (time : ℕ) (isTruncatedMode : Bool) : TrellisGraphNode :=
  if isTruncatedMode then
    (List.range' 1 (coder.numberOfStates - 1)).foldl (fun best i =>
      let currentNode := trellisGraph i time
      if currentNode.symbol ≠ -1 ∧ currentNode.comulativeHammingDistance < best.comulativeHammingDistance then
        currentNode
      else best) (trellisGraph 0 time)
  else trellisGraph 0 time

def initialGraph : TrellisGraph :=
  TrellisGraph.set (fun _ _ => initialNode) 0 0 { initialNode with state := 0 }

/-- The decoded bits, and whether there are some. An int does not hold the number of the columns from `INT32_MAX` bits
on, and the graph has no row when there are no states. -/
def decode (encodedBits : List Bool) : Except Fault (List Bool × Bool) := do
  let (depuncturedEncodedBits, isPunctured) ← coder.depuncturing encodedBits
  throwIf (depuncturedEncodedBits.length % coder.codeRateParamaterN ≠ 0)
    s!"Length of encodedBits must be a multiple of codeRateParamaterN = {coder.codeRateParamaterN}"
  throwIf (coder.mode ≠ "truncated" ∧ coder.mode ≠ "terminated")
    s!"Unknown decodingMode = {coder.mode} decodingMode"
  let isTruncatedMode := decide (coder.mode = "truncated")
  throwIf (coder.numberOfStates = 0 ∨ INT32_MAX ≤ depuncturedEncodedBits.length) "Segmentation fault"
  let (search, time) ← coder.searchLoop dblrand depuncturedEncodedBits isPunctured
    (depuncturedEncodedBits.length + 1) 0 ⟨initialGraph, 0, 0⟩
  coder.traversePath (coder.bestNode search.trellisGraph time isTruncatedMode) search.trellisGraph isTruncatedMode

end Decode

end ConvolutionalCoder

end physicallayer

end inet
