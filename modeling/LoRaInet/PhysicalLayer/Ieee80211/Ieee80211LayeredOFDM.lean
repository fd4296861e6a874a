import LoRaInet.Common.Serializer.Buffer
import LoRaInet.PhysicalLayer.Ieee80211.Ieee80211OFDMCode

open omnetpp

namespace inet

abbrev Hz := ℚ

def MHz (x : ℚ) : Hz := 1000000 * x

namespace physicallayer

open BitVector serializer Ieee80211OFDMCompliantCodes

inductive APSKModulationBase where
  | BPSK
  | QPSK
  | QAM16
  | QAM64
  deriving DecidableEq

/-- The bits of a symbol of the constellation. -/
def APSKModulationBase.getCodeWordSize : APSKModulationBase → ℕ
  | .BPSK => 1
  | .QPSK => 2
  | .QAM16 => 4
  | .QAM64 => 6

structure Ieee80211OFDMSignalMode where
  code : Ieee80211OFDMCode
  rate : ℕ

structure Ieee80211OFDMDataMode where
  code : Ieee80211OFDMCode
  modulation : APSKModulationBase

structure Ieee80211OFDMMode where
  name : String
  signalMode : Ieee80211OFDMSignalMode
  dataMode : Ieee80211OFDMDataMode
  channelSpacing : Hz

def Ieee80211OFDMDataMode.codedBitsPerOFDMSymbol (dataMode : Ieee80211OFDMDataMode) : ℕ :=
  dataMode.modulation.getCodeWordSize * NUMBER_OF_OFDM_DATA_SUBCARRIERS

namespace Ieee80211OFDMCompliantModes

/-- The signal modes of each channel spacing, by their rate. -/
def ofdmHeaderMode (rate : ℕ) : Ieee80211OFDMSignalMode := ⟨ofdmCC1_2BPSKInterleavingWithoutScrambling, rate⟩

def ofdmDataMode1_5Mbps : Ieee80211OFDMDataMode := ⟨ofdmCC1_2BPSKInterleaving, .BPSK⟩

def ofdmDataMode2_25Mbps : Ieee80211OFDMDataMode := ⟨ofdmCC3_4BPSKInterleaving, .BPSK⟩

def ofdmDataMode3MbpsCS5MHz : Ieee80211OFDMDataMode := ⟨ofdmCC1_2QPSKInterleaving, .QPSK⟩

def ofdmDataMode3MbpsCS10MHz : Ieee80211OFDMDataMode := ⟨ofdmCC1_2BPSKInterleaving, .BPSK⟩

def ofdmDataMode4_5MbpsCS5MHz : Ieee80211OFDMDataMode := ⟨ofdmCC3_4QPSKInterleaving, .QPSK⟩

def ofdmDataMode4_5MbpsCS10MHz : Ieee80211OFDMDataMode := ⟨ofdmCC3_4BPSKInterleaving, .BPSK⟩

def ofdmDataMode6MbpsCS5MHz : Ieee80211OFDMDataMode := ⟨ofdmCC1_2QAM16Interleaving, .QAM16⟩

def ofdmDataMode6MbpsCS10MHz : Ieee80211OFDMDataMode := ⟨ofdmCC1_2QPSKInterleaving, .QPSK⟩

def ofdmDataMode6MbpsCS20MHz : Ieee80211OFDMDataMode := ⟨ofdmCC1_2BPSKInterleaving, .BPSK⟩

def ofdmDataMode9MbpsCS5MHz : Ieee80211OFDMDataMode := ⟨ofdmCC3_4QAM16Interleaving, .QAM16⟩

def ofdmDataMode9MbpsCS10MHz : Ieee80211OFDMDataMode := ⟨ofdmCC3_4QPSKInterleaving, .QPSK⟩

def ofdmDataMode9MbpsCS20MHz : Ieee80211OFDMDataMode := ⟨ofdmCC3_4BPSKInterleaving, .BPSK⟩

def ofdmDataMode12MbpsCS5MHz : Ieee80211OFDMDataMode := ⟨ofdmCC2_3QAM64Interleaving, .QAM64⟩

def ofdmDataMode12MbpsCS10MHz : Ieee80211OFDMDataMode := ⟨ofdmCC1_2QAM16Interleaving, .QAM16⟩

def ofdmDataMode12MbpsCS20MHz : Ieee80211OFDMDataMode := ⟨ofdmCC1_2QPSKInterleaving, .QPSK⟩

def ofdmDataMode13_5Mbps : Ieee80211OFDMDataMode := ⟨ofdmCC3_4QAM64Interleaving, .QAM64⟩

def ofdmDataMode18MbpsCS10MHz : Ieee80211OFDMDataMode := ⟨ofdmCC3_4QAM16Interleaving, .QAM16⟩

def ofdmDataMode18MbpsCS20MHz : Ieee80211OFDMDataMode := ⟨ofdmCC3_4QPSKInterleaving, .QPSK⟩

def ofdmDataMode24MbpsCS10MHz : Ieee80211OFDMDataMode := ⟨ofdmCC2_3QAM64Interleaving, .QAM64⟩

def ofdmDataMode24MbpsCS20MHz : Ieee80211OFDMDataMode := ⟨ofdmCC1_2QAM16Interleaving, .QAM16⟩

def ofdmDataMode27Mbps : Ieee80211OFDMDataMode := ⟨ofdmCC2_3QAM64Interleaving, .QAM64⟩

def ofdmDataMode36Mbps : Ieee80211OFDMDataMode := ⟨ofdmCC3_4QAM16Interleaving, .QAM16⟩

def ofdmDataMode48Mbps : Ieee80211OFDMDataMode := ⟨ofdmCC2_3QAM64Interleaving, .QAM64⟩

def ofdmDataMode54Mbps : Ieee80211OFDMDataMode := ⟨ofdmCC3_4QAM64Interleaving, .QAM64⟩

def ofdmMode1_5Mbps : Ieee80211OFDMMode := ⟨"ofdmMode1_5Mbps", ofdmHeaderMode 13, ofdmDataMode1_5Mbps, MHz 5⟩

def ofdmMode2_25Mbps : Ieee80211OFDMMode := ⟨"ofdmMode2_25Mbps", ofdmHeaderMode 15, ofdmDataMode2_25Mbps, MHz 5⟩

def ofdmMode3MbpsCS5MHz : Ieee80211OFDMMode := ⟨"ofdmMode3MbpsCS5MHz", ofdmHeaderMode 5, ofdmDataMode3MbpsCS5MHz, MHz 5⟩

def ofdmMode3MbpsCS10MHz : Ieee80211OFDMMode := ⟨"ofdmMode3MbpsCS10MHz", ofdmHeaderMode 13, ofdmDataMode3MbpsCS10MHz, MHz 10⟩

def ofdmMode4_5MbpsCS5MHz : Ieee80211OFDMMode := ⟨"ofdmMode4_5MbpsCS5MHz", ofdmHeaderMode 7, ofdmDataMode4_5MbpsCS5MHz, MHz 5⟩

def ofdmMode4_5MbpsCS10MHz : Ieee80211OFDMMode := ⟨"ofdmMode4_5MbpsCS10MHz", ofdmHeaderMode 15, ofdmDataMode4_5MbpsCS10MHz, MHz 10⟩

def ofdmMode6MbpsCS5MHz : Ieee80211OFDMMode := ⟨"ofdmMode6MbpsCS5MHz", ofdmHeaderMode 9, ofdmDataMode6MbpsCS5MHz, MHz 5⟩

def ofdmMode6MbpsCS10MHz : Ieee80211OFDMMode := ⟨"ofdmMode6MbpsCS10MHz", ofdmHeaderMode 5, ofdmDataMode6MbpsCS10MHz, MHz 10⟩

def ofdmMode6MbpsCS20MHz : Ieee80211OFDMMode := ⟨"ofdmMode6MbpsCS20MHz", ofdmHeaderMode 13, ofdmDataMode6MbpsCS20MHz, MHz 20⟩

def ofdmMode9MbpsCS5MHz : Ieee80211OFDMMode := ⟨"ofdmMode9MbpsCS5MHz", ofdmHeaderMode 11, ofdmDataMode9MbpsCS5MHz, MHz 5⟩

def ofdmMode9MbpsCS10MHz : Ieee80211OFDMMode := ⟨"ofdmMode9MbpsCS10MHz", ofdmHeaderMode 7, ofdmDataMode9MbpsCS10MHz, MHz 10⟩

def ofdmMode9MbpsCS20MHz : Ieee80211OFDMMode := ⟨"ofdmMode9MbpsCS20MHz", ofdmHeaderMode 15, ofdmDataMode9MbpsCS20MHz, MHz 20⟩

def ofdmMode12MbpsCS5MHz : Ieee80211OFDMMode := ⟨"ofdmMode12MbpsCS5MHz", ofdmHeaderMode 1, ofdmDataMode12MbpsCS5MHz, MHz 5⟩

def ofdmMode12MbpsCS10MHz : Ieee80211OFDMMode := ⟨"ofdmMode12MbpsCS10MHz", ofdmHeaderMode 9, ofdmDataMode12MbpsCS10MHz, MHz 10⟩

def ofdmMode12MbpsCS20MHz : Ieee80211OFDMMode := ⟨"ofdmMode12MbpsCS20MHz", ofdmHeaderMode 5, ofdmDataMode12MbpsCS20MHz, MHz 20⟩

def ofdmMode13_5Mbps : Ieee80211OFDMMode := ⟨"ofdmMode13_5Mbps", ofdmHeaderMode 3, ofdmDataMode13_5Mbps, MHz 5⟩

def ofdmMode18MbpsCS10MHz : Ieee80211OFDMMode := ⟨"ofdmMode18MbpsCS10MHz", ofdmHeaderMode 11, ofdmDataMode18MbpsCS10MHz, MHz 10⟩

def ofdmMode18MbpsCS20MHz : Ieee80211OFDMMode := ⟨"ofdmMode18MbpsCS20MHz", ofdmHeaderMode 7, ofdmDataMode18MbpsCS20MHz, MHz 20⟩

def ofdmMode24MbpsCS10MHz : Ieee80211OFDMMode := ⟨"ofdmMode24MbpsCS10MHz", ofdmHeaderMode 1, ofdmDataMode24MbpsCS10MHz, MHz 10⟩

def ofdmMode24MbpsCS20MHz : Ieee80211OFDMMode := ⟨"ofdmMode24MbpsCS20MHz", ofdmHeaderMode 9, ofdmDataMode24MbpsCS20MHz, MHz 20⟩

def ofdmMode27Mbps : Ieee80211OFDMMode := ⟨"ofdmMode27Mbps", ofdmHeaderMode 3, ofdmDataMode27Mbps, MHz 10⟩

def ofdmMode36Mbps : Ieee80211OFDMMode := ⟨"ofdmMode36Mbps", ofdmHeaderMode 11, ofdmDataMode36Mbps, MHz 20⟩

def ofdmMode48Mbps : Ieee80211OFDMMode := ⟨"ofdmMode48Mbps", ofdmHeaderMode 1, ofdmDataMode48Mbps, MHz 20⟩

def ofdmMode54Mbps : Ieee80211OFDMMode := ⟨"ofdmMode54Mbps", ofdmHeaderMode 3, ofdmDataMode54Mbps, MHz 20⟩

/-- Table 18-6, contents of the SIGNAL field. -/
def getCompliantMode (signalRateField : ℕ) (channelSpacing : Hz) : Except Fault Ieee80211OFDMMode :=
  if channelSpacing = MHz 20 then
    match signalRateField with
    | 13 => .ok ofdmMode6MbpsCS20MHz
    | 15 => .ok ofdmMode9MbpsCS20MHz
    | 5 => .ok ofdmMode12MbpsCS20MHz
    | 7 => .ok ofdmMode18MbpsCS20MHz
    | 9 => .ok ofdmMode24MbpsCS20MHz
    | 11 => .ok ofdmMode36Mbps
    | 1 => .ok ofdmMode48Mbps
    | 3 => .ok ofdmMode54Mbps
    | _ => .error (.cRuntimeError s!"{signalRateField} is not a valid rate")
  else if channelSpacing = MHz 10 then
    match signalRateField with
    | 13 => .ok ofdmMode3MbpsCS10MHz
    | 15 => .ok ofdmMode4_5MbpsCS10MHz
    | 5 => .ok ofdmMode6MbpsCS10MHz
    | 7 => .ok ofdmMode9MbpsCS10MHz
    | 9 => .ok ofdmMode12MbpsCS10MHz
    | 11 => .ok ofdmMode18MbpsCS10MHz
    | 1 => .ok ofdmMode24MbpsCS10MHz
    | 3 => .ok ofdmMode27Mbps
    | _ => .error (.cRuntimeError s!"{signalRateField} is not a valid rate")
  else if channelSpacing = MHz 5 then
    match signalRateField with
    | 13 => .ok ofdmMode1_5Mbps
    | 15 => .ok ofdmMode2_25Mbps
    | 5 => .ok ofdmMode3MbpsCS5MHz
    | 7 => .ok ofdmMode4_5MbpsCS5MHz
    | 9 => .ok ofdmMode6MbpsCS5MHz
    | 11 => .ok ofdmMode9MbpsCS5MHz
    | 1 => .ok ofdmMode12MbpsCS5MHz
    | 3 => .ok ofdmMode13_5Mbps
    | _ => .error (.cRuntimeError s!"{signalRateField} is not a valid rate")
  else .error (.cRuntimeError s!"Channel spacing = {channelSpacing} must be 5, 10 or 20 MHz")

end Ieee80211OFDMCompliantModes

/-- A MAC frame, with what the serializer of the frame makes of a buffer. -/
structure Ieee80211Frame where
  byteLength : ℕ
  serialize : Buffer → Buffer
  getBufSize_serialize : ∀ b, (serialize b).getBufSize = b.getBufSize

def Ieee80211Frame.serializePacket (pkt : Ieee80211Frame) (b : Buffer) : Except Fault Buffer :=
  let written := pkt.serialize b
  if written.errorFound = false ∧ written.getPos - b.getPos ≠ pkt.byteLength then
    .error (.cRuntimeError s!"Ieee80211Serializer serializer error: packet length is {pkt.byteLength} but serialized length is {written.getPos - b.getPos}")
  else .ok written

structure Ieee80211OFDMPLCPFrame where
  rate : ℕ
  length : ℕ
  bitLength : ℕ
  encapsulatedPacket : Ieee80211Frame

def Ieee80211OFDMPLCPFrame.getByteLength (frame : Ieee80211OFDMPLCPFrame) : ℕ := (frame.bitLength + 7) / 8

namespace Ieee80211PhySerializer

def OFDM_PLCP_HEADER_LENGTH : ℕ := 5

/-- The bit fields of the header, rate and length among them, from the lowest bit of the first byte. -/
def header (rate length : ℕ) : ℕ := rate % 2 ^ 4 + 2 ^ 5 * (length % 2 ^ 12)

/-- The bytes of the header. The service field is zero, also the byte of it that lies behind the header. -/
def headerBytes (rate length : ℕ) : List UInt8 :=
  (List.range OFDM_PLCP_HEADER_LENGTH).map fun i => UInt8.ofNat (header rate length / 256 ^ i)

def writeToBitVector (buf : List UInt8) : BitVector := buf.flatMap fun currentByte => ShortBitVector.ofDecimal currentByte.toNat 8

/-- The bytes of the header and of the frame, the bytes that its serializer has not written, and the tail bits. -/
def serialize (plcpHeader : Ieee80211OFDMPLCPFrame) : Except Fault BitVector := do
  let b := Buffer.ofBytes (List.replicate plcpHeader.getByteLength 0)
  let b := Buffer.writeNBytes (headerBytes plcpHeader.rate plcpHeader.length) b
  let subBuffer ← plcpHeader.encapsulatedPacket.serializePacket (b.sub b.getRemainingSize)
  let b := b.join subBuffer
  return writeToBitVector b.before ++ List.replicate ((plcpHeader.getByteLength - b.getPos) * 8) false ++
    List.replicate 6 false

/-- The bytes that hold the bits, one at least. -/
def getBytes (serializedPacket : BitVector) : List UInt8 :=
  (List.range (max 1 ((serializedPacket.length + 7) / 8))).map fun i =>
    UInt8.ofNat (ShortBitVector.toDecimal ((serializedPacket.drop (i * 8)).take 8))

/-- The rate and the length of the header, and the bytes that the serializer of the frame gets. -/
def deserialize (serializedPacket : BitVector) : Except Fault (ℕ × ℕ × List UInt8) := do
  let bitFields := getBytes serializedPacket
  throwIf (bitFields.length < OFDM_PLCP_HEADER_LENGTH) "Segmentation fault"
  let hdr := writeToBitVector (bitFields.take OFDM_PLCP_HEADER_LENGTH)
  let rate := ShortBitVector.toDecimal (hdr.take 4)
  let length := ShortBitVector.toDecimal ((hdr.drop 5).take 12)
  throwIf (bitFields.length < length + OFDM_PLCP_HEADER_LENGTH) "Segmentation fault"
  return (rate, length, (bitFields.drop OFDM_PLCP_HEADER_LENGTH).take length)

end Ieee80211PhySerializer

structure TransmissionBitModel where
  headerBitLength : ℕ
  payloadBitLength : ℕ
  bits : BitVector
  deriving DecidableEq

namespace ConvolutionalCode

def getDecodedLength (convolutionalCode : ConvolutionalCode) (encodedLength : ℕ) : Except Fault ℕ := do
  ASSERT (encodedLength % convolutionalCode.codeRatePuncturingN = 0) "encodedLength % codeRatePuncturingN == 0"
  return encodedLength * convolutionalCode.codeRatePuncturingK / convolutionalCode.codeRatePuncturingN

end ConvolutionalCode

namespace Ieee80211LayeredOFDMTransmitter

/-- N_DBPS. -/
def dataBitsPerOFDMSymbol (dataMode : Ieee80211OFDMDataMode) : Except Fault ℕ :=
  match dataMode.code.convolutionalCode with
  | some convolutionalCode => convolutionalCode.getDecodedLength dataMode.codedBitsPerOFDMSymbol
  | none => .ok dataMode.codedBitsPerOFDMSymbol

variable (mode : Ieee80211OFDMMode) (serializedPacket : BitVector)

/-- 18.3.5.4, pad bits. -/
def appendPadding (length : ℕ) : Except Fault BitVector := do
  let dataBitsPerOFDMSymbol ← dataBitsPerOFDMSymbol mode.dataMode
  let dataBitsLength := 6 + length * 8 + 16
  let numberOfOFDMSymbols := ⌈(dataBitsLength : ℚ) / dataBitsPerOFDMSymbol⌉₊
  let numberOfBitsInTheDataField := dataBitsPerOFDMSymbol * numberOfOFDMSymbols
  let numberOfPadBits := numberOfBitsInTheDataField - dataBitsLength
  return serializedPacket ++ List.replicate numberOfPadBits false

def serialize (mode : Ieee80211OFDMMode) (phyFrame : Ieee80211OFDMPLCPFrame) : Except Fault BitVector := do
  let serializedPacket ← Ieee80211PhySerializer.serialize phyFrame
  appendPadding mode serializedPacket phyFrame.length

def createPacketModel (macFrame : Ieee80211Frame) : Except Fault BitVector :=
  let plcpHeaderLength := 4 + 1 + 12 + 1 + 6 + 16
  serialize mode
    { rate := mode.signalMode.rate
      length := macFrame.byteLength
      bitLength := macFrame.byteLength * 8 + plcpHeaderLength
      encapsulatedPacket := macFrame }

def createSignalFieldPacketModel : Except Fault BitVector :=
  (List.range (NUMBER_OF_OFDM_DATA_SUBCARRIERS / 2)).mapM fun i => getBit serializedPacket i

def createDataFieldPacketModel : Except Fault BitVector :=
  (List.range (serializedPacket.length - NUMBER_OF_OFDM_DATA_SUBCARRIERS / 2)).mapM fun i =>
    getBit serializedPacket (NUMBER_OF_OFDM_DATA_SUBCARRIERS / 2 + i)

def createBitModel (signalFieldBits dataFieldBits : BitVector) : TransmissionBitModel where
  headerBitLength := signalFieldBits.length
  payloadBitLength := dataFieldBits.length
  bits := signalFieldBits ++ dataFieldBits

/-- The bits of a transmission in compliant mode. -/
def createTransmission (macFrame : Ieee80211Frame) : Except Fault TransmissionBitModel := do
  let serializedPacket ← createPacketModel mode macFrame
  let signalField ← createSignalFieldPacketModel serializedPacket
  let signalFieldBits ← Ieee80211OFDMEncoder.encode mode.signalMode.code signalField
  let dataField ← createDataFieldPacketModel serializedPacket
  let dataFieldBits ← Ieee80211OFDMEncoder.encode mode.dataMode.code dataField
  return createBitModel signalFieldBits dataFieldBits

end Ieee80211LayeredOFDMTransmitter

namespace Ieee80211LayeredOFDMReceiver

def ENCODED_SIGNAL_FIELD_LENGTH : ℕ := 48

def SIGNAL_LENGTH_FIELD_START : ℕ := 5

def SIGNAL_LENGTH_FIELD_END : ℕ := 16

def PPDU_SERVICE_FIELD_BITS_LENGTH : ℕ := 16

def PPDU_TAIL_BITS_LENGTH : ℕ := 6

def calculatePadding (dataFieldLengthInBits : ℕ) (modulation : APSKModulationBase) (codeRate : ℚ) : ℕ :=
  let codedBitsPerOFDMSymbol := modulation.getCodeWordSize * NUMBER_OF_OFDM_DATA_SUBCARRIERS
  let dataBitsPerOFDMSymbol := ⌊(codedBitsPerOFDMSymbol : ℚ) * codeRate⌋₊
  dataBitsPerOFDMSymbol - dataFieldLengthInBits % dataBitsPerOFDMSymbol

def getSignalFieldLength (signalField : BitVector) : Except Fault ℕ := do
  let length ← (List.range (SIGNAL_LENGTH_FIELD_END - SIGNAL_LENGTH_FIELD_START + 1)).mapM fun i =>
    getBit signalField (SIGNAL_LENGTH_FIELD_START + i)
  return ShortBitVector.toDecimal length

def getRate (serializedPacket : BitVector) : Except Fault ℕ := do
  let rate ← (List.range 4).mapM fun i => getBit serializedPacket i
  return ShortBitVector.toDecimal rate

def createSignalFieldBitModel (bits : BitVector) : Except Fault BitVector :=
  (List.range ENCODED_SIGNAL_FIELD_LENGTH).mapM fun i => getBit bits i

/-- The length of the data field and of its code, for a code rate that is the inverse one. -/
def dataFieldLengths (mode : Ieee80211OFDMMode) (signalFieldLength : ℕ) : Except Fault (ℕ × ℕ) :=
  match mode.dataMode.code.convolutionalCode with
  | none => .error .nullPointer
  | some convolutionalCode =>
    let psduLengthInBits := signalFieldLength * 8
    let dataFieldLengthInBits := psduLengthInBits + PPDU_SERVICE_FIELD_BITS_LENGTH + PPDU_TAIL_BITS_LENGTH
    let codeRate : ℚ := convolutionalCode.codeRatePuncturingN / convolutionalCode.codeRatePuncturingK
    let dataFieldLengthInBits :=
      dataFieldLengthInBits + calculatePadding dataFieldLengthInBits mode.dataMode.modulation (1 / codeRate)
    .ok (dataFieldLengthInBits, ⌊dataFieldLengthInBits * codeRate⌋₊)

def createDataFieldBitModel (mode : Ieee80211OFDMMode) (bits signalField signalFieldBits : BitVector) :
    Except Fault BitVector := do
  let signalFieldLength ← getSignalFieldLength signalField
  let lengths ← dataFieldLengths mode signalFieldLength
  throwIf (lengths.1 + signalFieldBits.length > bits.length)
    s!"The calculated data field length = {lengths.1} is greater then the actual bitvector length = {bits.length}"
  (List.range lengths.2).mapM fun i => getBit bits (signalFieldBits.length + i)

/-- `computeReceptionResult` in compliant mode up to the bits of the data field, with the mode of the signal field. -/
def receiveDataField (channelSpacing : Hz) (dblrand : ℕ → ℚ) (bits : BitVector) :
    Except Fault (Ieee80211OFDMMode × BitVector) := do
  let signalFieldBits ← createSignalFieldBitModel bits
  let signalField ← Ieee80211OFDMDecoder.decode dblrand ofdmCC1_2BPSKInterleavingWithoutScrambling signalFieldBits
  let rate ← getRate signalField
  let mode ← Ieee80211OFDMCompliantModes.getCompliantMode rate channelSpacing
  let dataFieldBits ← createDataFieldBitModel mode bits signalField signalFieldBits
  return (mode, dataFieldBits)

/-- `computeReceptionResult` in compliant mode up to the bytes of the frame. -/
def receivePacket (channelSpacing : Hz) (dblrand dataDblrand : ℕ → ℚ) (bits : BitVector) :
    Except Fault (ℕ × ℕ × List UInt8) := do
  let signalFieldBits ← createSignalFieldBitModel bits
  let signalField ← Ieee80211OFDMDecoder.decode dblrand ofdmCC1_2BPSKInterleavingWithoutScrambling signalFieldBits
  let received ← receiveDataField channelSpacing dblrand bits
  let dataField ← Ieee80211OFDMDecoder.decode dataDblrand received.1.dataMode.code received.2
  Ieee80211PhySerializer.deserialize (signalField ++ dataField)

end Ieee80211LayeredOFDMReceiver

section Header

open ShortBitVector Ieee80211PhySerializer

theorem ofDecimal_add (v a b : ℕ) : ofDecimal v (a + b) = ofDecimal v a ++ ofDecimal (v / 2 ^ a) b := by
  rw [ofDecimal, ofDecimal, ofDecimal, List.range_add, List.map_append, List.map_map]
  congr 1
  refine List.map_congr_left fun j _ => ?_
  rw [Nat.testBit_div_two_pow, Function.comp_apply, Nat.add_comm]

theorem ofDecimal_mod (v size : ℕ) : ofDecimal (v % 2 ^ size) size = ofDecimal v size := by
  refine List.map_congr_left fun j hj => ?_
  rw [Nat.testBit_mod_two_pow, decide_eq_true (List.mem_range.mp hj), Bool.true_and]

theorem toDecimal_ofDecimal_mod (v size : ℕ) : toDecimal (ofDecimal v size) = v % 2 ^ size := by
  rw [← ofDecimal_mod, toDecimal_ofDecimal size _ (Nat.mod_lt _ (Nat.two_pow_pos _))]

theorem writeToBitVector_bytes (v n : ℕ) :
    writeToBitVector ((List.range n).map fun i => UInt8.ofNat (v / 256 ^ i)) = ofDecimal v (n * 8) := by
  induction n with
  | zero => rfl
  | succ n ih =>
    have hbyte : (UInt8.ofNat (v / 256 ^ n)).toNat = v / 2 ^ (n * 8) % 2 ^ 8 := by
      have hpow : 2 ^ (n * 8) = 256 ^ n := by rw [Nat.mul_comm, pow_mul]; norm_num
      rw [UInt8.toNat_ofNat', hpow]
    rw [writeToBitVector, List.range_succ, List.map_append, List.flatMap_append, ← writeToBitVector, ih, Nat.succ_mul,
      ofDecimal_add, List.map_singleton, List.flatMap_singleton, hbyte, ofDecimal_mod]

theorem length_writeToBitVector (buf : List UInt8) : (writeToBitVector buf).length = 8 * buf.length := by
  induction buf with
  | nil => rfl
  | cons byte buf ih =>
    rw [writeToBitVector, List.flatMap_cons, List.length_append, ← writeToBitVector, ih, length_ofDecimal,
      List.length_cons]
    omega

open Buffer

theorem writeToBitVector_append (bytes others : List UInt8) :
    writeToBitVector (bytes ++ others) = writeToBitVector bytes ++ writeToBitVector others := List.flatMap_append

theorem writeToBitVector_zeros (n : ℕ) : writeToBitVector (List.replicate n 0) = List.replicate (n * 8) false := by
  induction n with
  | zero => rfl
  | succ n ih =>
    rw [List.replicate_succ', writeToBitVector_append, ih, Nat.succ_mul, List.replicate_add]
    rfl

/-- The bytes of a frame. Those that its serializer has not written are zero. -/
def frameBytes (n : ℕ) (written : Buffer) : List UInt8 :=
  written.before ++ List.replicate (n - written.before.length) 0

theorem length_headerBytes (rate length : ℕ) : (headerBytes rate length).length = OFDM_PLCP_HEADER_LENGTH := by
  rw [headerBytes, List.length_map, List.length_range]

theorem length_frameBytes {macFrame : Ieee80211Frame} {n : ℕ} {written : Buffer}
    (hwritten : macFrame.serializePacket (ofBytes (List.replicate n 0)) = .ok written) :
    (frameBytes n written).length = n := by
  have hkept := macFrame.getBufSize_serialize (ofBytes (List.replicate n 0))
  rw [Ieee80211Frame.serializePacket] at hwritten
  split at hwritten
  · cases hwritten
  · cases hwritten
    have hsize : getBufSize (ofBytes (List.replicate n 0)) = n := by
      rw [getBufSize, ofBytes, List.length_nil, List.length_replicate, Nat.zero_add]
    rw [hsize, getBufSize] at hkept
    rw [frameBytes, List.length_append, List.length_replicate]
    omega

/-- The packet holds the bytes of the header and of the frame, and the tail. -/
theorem serialize_returns {plcpHeader : Ieee80211OFDMPLCPFrame} {n : ℕ} {written : Buffer}
    (hlength : plcpHeader.getByteLength = OFDM_PLCP_HEADER_LENGTH + n)
    (hwritten : plcpHeader.encapsulatedPacket.serializePacket (ofBytes (List.replicate n 0)) = .ok written) :
    Ieee80211PhySerializer.serialize plcpHeader =
      .ok (writeToBitVector (headerBytes plcpHeader.rate plcpHeader.length ++ frameBytes n written) ++
        List.replicate 6 false) := by
  have hheader := length_headerBytes plcpHeader.rate plcpHeader.length
  have hbuffer : writeNBytes (headerBytes plcpHeader.rate plcpHeader.length)
      (ofBytes (List.replicate plcpHeader.getByteLength 0)) =
        ⟨headerBytes plcpHeader.rate plcpHeader.length, List.replicate n 0, false⟩ := by
    rw [ofBytes, writeNBytes_eq _ _ _ _ (by rw [hheader, List.length_replicate]; omega), List.nil_append,
      List.drop_replicate, hheader, hlength, Nat.add_sub_cancel_left]
  have hsub : sub ⟨headerBytes plcpHeader.rate plcpHeader.length, List.replicate n 0, false⟩
      (getRemainingSize ⟨headerBytes plcpHeader.rate plcpHeader.length, List.replicate n 0, false⟩) =
        ofBytes (List.replicate n 0) := by
    rw [sub, getRemainingSize, List.take_length, ofBytes]
  rw [Ieee80211PhySerializer.serialize]
  simp only [hbuffer, hsub, hwritten]
  change Except.ok _ = Except.ok _
  simp only [join, getPos, List.length_append, hheader, hlength, Nat.add_sub_add_left]
  rw [frameBytes, ← List.append_assoc, writeToBitVector_append _ (List.replicate _ 0), writeToBitVector_zeros]

theorem byte_written {bytes : List UInt8} (tail : BitVector) {i : ℕ} {byte : UInt8} (h : bytes[i]? = some byte) :
    ((writeToBitVector bytes ++ tail).drop (i * 8)).take 8 = ofDecimal byte.toNat 8 := by
  obtain ⟨hi, rfl⟩ := List.getElem?_eq_some_iff.mp h
  have hbefore : (writeToBitVector (bytes.take i)).length = i * 8 := by
    rw [length_writeToBitVector, List.length_take_of_le hi.le, Nat.mul_comm]
  conv_lhs => rw [← List.take_append_drop i bytes, List.drop_eq_getElem_cons hi]
  rw [writeToBitVector_append, List.append_assoc, List.drop_left' hbefore, writeToBitVector, List.flatMap_cons,
    List.append_assoc, List.take_left' (length_ofDecimal _ _)]

theorem getBytes_written (bytes : List UInt8) (tail : BitVector) :
    ∃ rest, getBytes (writeToBitVector bytes ++ tail) = bytes ++ rest := by
  refine ⟨(getBytes (writeToBitVector bytes ++ tail)).drop bytes.length, ?_⟩
  have htake : (getBytes (writeToBitVector bytes ++ tail)).take bytes.length = bytes := by
    refine List.ext_getElem? fun i => ?_
    rw [List.getElem?_take]
    split
    · next hi =>
      have hbyte := List.getElem?_eq_getElem hi
      have hrange : i < max 1 (((writeToBitVector bytes ++ tail).length + 7) / 8) := by
        rw [List.length_append, length_writeToBitVector]
        omega
      rw [getBytes, List.getElem?_map, List.getElem?_range hrange, Option.map_some, byte_written tail hbyte, hbyte,
        toDecimal_ofDecimal_mod, ← UInt8.toNat_ofNat', UInt8.ofNat_toNat, UInt8.ofNat_toNat]
    · next hi => exact (List.getElem?_eq_none (not_lt.mp hi)).symm
  exact (List.take_append_drop _ _).symm.trans (congrArg (· ++ _) htake)

theorem take_written (rate length : ℕ) (frame : List UInt8) (tail : BitVector) :
    (writeToBitVector (headerBytes rate length ++ frame) ++ tail).take 24 = ofDecimal (header rate length) 24 := by
  have hheader : writeToBitVector (headerBytes rate length) = ofDecimal (header rate length) (24 + 16) :=
    writeToBitVector_bytes _ 5
  rw [writeToBitVector_append, hheader, ofDecimal_add, List.append_assoc, List.append_assoc,
    List.take_left' (length_ofDecimal _ _)]

/-- The header and the frame are read as they were written. -/
theorem deserialize_written {rate length : ℕ} {frame : List UInt8} (hrate : rate < 16) (hlength : length < 4096)
    (hframe : frame.length = length) (tail : BitVector) :
    deserialize (writeToBitVector (headerBytes rate length ++ frame) ++ tail) = .ok (rate, length, frame) := by
  obtain ⟨rest, hrest⟩ := getBytes_written (headerBytes rate length ++ frame) tail
  have hheader := length_headerBytes rate length
  have hbits : writeToBitVector (headerBytes rate length) = ofDecimal (header rate length) (4 + (1 + (12 + 23))) :=
    writeToBitVector_bytes _ 5
  have hsize : (headerBytes rate length ++ (frame ++ rest)).length = OFDM_PLCP_HEADER_LENGTH + (length + rest.length) := by
    rw [List.length_append, List.length_append, hheader, hframe]
  rw [deserialize, hrest, List.append_assoc]
  simp only [List.take_left' hheader, List.drop_left' hheader, hbits, hsize]
  have hrateRead : toDecimal ((ofDecimal (header rate length) (4 + (1 + (12 + 23)))).take 4) = rate := by
    rw [ofDecimal_add, List.take_left' (length_ofDecimal _ _), toDecimal_ofDecimal_mod, header]
    omega
  have hlengthRead : toDecimal (((ofDecimal (header rate length) (4 + (1 + (12 + 23)))).drop 5).take 12) = length := by
    rw [← Nat.add_assoc, ofDecimal_add, List.drop_left' (length_ofDecimal _ _), ofDecimal_add,
      List.take_left' (length_ofDecimal _ _), toDecimal_ofDecimal_mod, header]
    omega
  rw [hrateRead, hlengthRead, throwIf_bind (by omega), throwIf_bind (by omega), List.take_left' hframe]
  rfl

open Ieee80211LayeredOFDMReceiver

/-- The receiver reads the rate and the length where the header has them. -/
theorem getRate_header {rate length : ℕ} (hrate : rate < 16) :
    getRate (ofDecimal (header rate length) 24) = .ok rate := by
  have hbits : (ofDecimal (header rate length) 24).take 4 = ofDecimal (header rate length) 4 := by
    rw [show 24 = 4 + 20 from rfl, ofDecimal_add, List.take_left' (length_ofDecimal _ _)]
  have hread := @mapM_getBit (ofDecimal (header rate length) 24) 0 4 (by rw [length_ofDecimal]; decide)
  simp only [Nat.zero_add, List.drop_zero, hbits] at hread
  rw [getRate, hread]
  change Except.ok _ = _
  rw [toDecimal_ofDecimal_mod, header]
  congr 1
  omega

theorem getSignalFieldLength_header {rate length : ℕ} (hlength : length < 4096) :
    getSignalFieldLength (ofDecimal (header rate length) 24) = .ok length := by
  have hbits : ((ofDecimal (header rate length) 24).drop 5).take 12 = ofDecimal (header rate length / 2 ^ 5) 12 := by
    rw [show 24 = 5 + (12 + 7) from rfl, ofDecimal_add, List.drop_left' (length_ofDecimal _ _), ofDecimal_add,
      List.take_left' (length_ofDecimal _ _)]
  have hread := @mapM_getBit (ofDecimal (header rate length) 24) 5 12 (by rw [length_ofDecimal]; decide)
  rw [hbits] at hread
  rw [getSignalFieldLength]
  change ((List.range 12).mapM (fun i => getBit (ofDecimal (header rate length) 24) (5 + i)) >>= _) = _
  rw [hread]
  change Except.ok _ = _
  rw [toDecimal_ofDecimal_mod, header]
  congr 1
  omega

end Header

section Symbols

open Ieee80211OFDMInterleaver Ieee80211OFDMCompliantModes

/-- The numbers of a data mode: an OFDM symbol is `blocks` periods of the puncturing matrix, and the data bits in it are a
multiple of four. -/
structure Ieee80211OFDMDataMode.Cuts (dataMode : Ieee80211OFDMDataMode) (convolutionalCode : ConvolutionalCode)
    (interleaving : Ieee80211OFDMInterleaving) (blocks : ℕ) : Prop where
  usable : dataMode.code.Usable convolutionalCode interleaving
  symbol : interleaving.numberOfCodedBitsPerSymbol = dataMode.codedBitsPerOFDMSymbol
  coded : dataMode.codedBitsPerOFDMSymbol = blocks * convolutionalCode.codeRatePuncturingN
  N_pos : 0 < convolutionalCode.codeRatePuncturingN
  K_le : convolutionalCode.codeRatePuncturingK ≤ convolutionalCode.codeRatePuncturingN
  data_pos : 0 < blocks * convolutionalCode.codeRatePuncturingK
  four_dvd : 4 ∣ blocks * convolutionalCode.codeRatePuncturingK

/-- The data modes of the compliant modes, without their names. -/
def compliantDataModes : List Ieee80211OFDMDataMode :=
  [⟨ofdmCC1_2BPSKInterleaving, .BPSK⟩, ⟨ofdmCC3_4BPSKInterleaving, .BPSK⟩, ⟨ofdmCC1_2QPSKInterleaving, .QPSK⟩,
    ⟨ofdmCC3_4QPSKInterleaving, .QPSK⟩, ⟨ofdmCC1_2QAM16Interleaving, .QAM16⟩, ⟨ofdmCC3_4QAM16Interleaving, .QAM16⟩,
    ⟨ofdmCC2_3QAM64Interleaving, .QAM64⟩, ⟨ofdmCC3_4QAM64Interleaving, .QAM64⟩]

theorem cuts_of_mem {dataMode : Ieee80211OFDMDataMode} (h : dataMode ∈ compliantDataModes) :
    ∃ convolutionalCode interleaving blocks, dataMode.Cuts convolutionalCode interleaving blocks := by
  have husable {convolutionalCode : ConvolutionalCode} {interleaving : Ieee80211OFDMInterleaving}
      (hcode : convolutionalCode ∈ [ofdmConvolutionalCode1_2, ofdmConvolutionalCode2_3, ofdmConvolutionalCode3_4])
      (hinterleaving : interleaving ∈ [ofdmBPSKInterleaving, ofdmQPSKInterleaving, ofdmQAM16Interleaving,
        ofdmQAM64Interleaving]) :
      (⟨some convolutionalCode, some interleaving, some ofdmScrambling⟩ : Ieee80211OFDMCode).Usable convolutionalCode
        interleaving := by
    refine ⟨rfl, rfl, encodes_of_mem (List.mem_append_left _ hcode), bijective_of_mem _ hinterleaving, fun scrambling hscrambling => ?_⟩
    cases hscrambling
    exact List.cons_ne_nil _ _
  simp only [compliantDataModes, List.mem_cons, List.not_mem_nil, or_false] at h
  rcases h with rfl | rfl | rfl | rfl | rfl | rfl | rfl | rfl
  · exact ⟨_, _, 24, husable (by simp) (by simp), rfl, rfl, by decide, by decide, by decide, by decide⟩
  · exact ⟨_, _, 12, husable (by simp) (by simp), rfl, rfl, by decide, by decide, by decide, by decide⟩
  · exact ⟨_, _, 48, husable (by simp) (by simp), rfl, rfl, by decide, by decide, by decide, by decide⟩
  · exact ⟨_, _, 24, husable (by simp) (by simp), rfl, rfl, by decide, by decide, by decide, by decide⟩
  · exact ⟨_, _, 96, husable (by simp) (by simp), rfl, rfl, by decide, by decide, by decide, by decide⟩
  · exact ⟨_, _, 48, husable (by simp) (by simp), rfl, rfl, by decide, by decide, by decide, by decide⟩
  · exact ⟨_, _, 96, husable (by simp) (by simp), rfl, rfl, by decide, by decide, by decide, by decide⟩
  · exact ⟨_, _, 72, husable (by simp) (by simp), rfl, rfl, by decide, by decide, by decide, by decide⟩

theorem getCompliantMode_eq_ok {signalRateField : ℕ} {channelSpacing : Hz} {mode : Ieee80211OFDMMode}
    (h : getCompliantMode signalRateField channelSpacing = .ok mode) :
    mode.signalMode = ofdmHeaderMode signalRateField ∧ signalRateField < 16 ∧ mode.dataMode ∈ compliantDataModes := by
  unfold getCompliantMode at h
  split_ifs at h
  all_goals
    split at h
    all_goals first
      | cases h
        refine ⟨rfl, by decide, ?_⟩
        repeat first
          | exact List.Mem.head _
          | apply List.Mem.tail
      | cases h

end Symbols

section Padding

variable {dataMode : Ieee80211OFDMDataMode} {convolutionalCode : ConvolutionalCode}
  {interleaving : Ieee80211OFDMInterleaving} {blocks : ℕ}

/-- The bits of the service field, of the frame and of the tail are no multiple of four, so they never fill their last
symbol. -/
theorem mod_dataBits_ne {data n : ℕ} (hfour : 4 ∣ data) : (6 + n * 8 + 16) % data ≠ 0 := by
  intro hmod
  have hdvd := hfour.trans (Nat.dvd_of_mod_eq_zero hmod)
  omega

theorem ceil_div_of_mod_ne {a b : ℕ} (hb : 0 < b) (h : a % b ≠ 0) : ⌈(a : ℚ) / b⌉₊ = a / b + 1 := by
  have hb' : (0 : ℚ) < b := by exact_mod_cast hb
  have hdiv := Nat.div_add_mod a b
  have hlt := Nat.mod_lt a hb
  have hbound : a ≤ (a / b + 1) * b := by
    rw [Nat.add_mul, Nat.one_mul, Nat.mul_comm]
    omega
  rw [Nat.ceil_eq_iff (Nat.succ_ne_zero _), Nat.succ_sub_one, lt_div_iff₀ hb', div_le_iff₀ hb']
  constructor
  · have : a / b * b < a := by
      rw [Nat.mul_comm]
      omega
    exact_mod_cast this
  · exact_mod_cast hbound

/-- The bits up to the end of the symbol after those that are full. -/
theorem add_padding {a b : ℕ} (hb : 0 < b) :
    a + (b * (a / b + 1) - a) = (a / b + 1) * b ∧ a + (b - a % b) = (a / b + 1) * b := by
  have hdiv := Nat.div_add_mod a b
  have hlt := Nat.mod_lt a hb
  have hsymbol : b * (a / b + 1) = b * (a / b) + b := Nat.mul_succ _ _
  rw [Nat.mul_comm (a / b + 1), hsymbol]
  omega

theorem Ieee80211OFDMDataMode.Cuts.dataBits (h : dataMode.Cuts convolutionalCode interleaving blocks) :
    Ieee80211LayeredOFDMTransmitter.dataBitsPerOFDMSymbol dataMode =
      .ok (blocks * convolutionalCode.codeRatePuncturingK) := by
  rw [Ieee80211LayeredOFDMTransmitter.dataBitsPerOFDMSymbol, h.usable.convolutionalCode_eq]
  change convolutionalCode.getDecodedLength _ = _
  rw [ConvolutionalCode.getDecodedLength, h.coded, Nat.mul_mod_left, Nat.mul_right_comm,
    Nat.mul_div_cancel _ h.N_pos]
  rfl

/-- The transmitter fills the symbol in which the bits of the data field end. -/
theorem Ieee80211OFDMDataMode.Cuts.appendPadding {mode : Ieee80211OFDMMode}
    (h : mode.dataMode.Cuts convolutionalCode interleaving blocks) (serializedPacket : BitVector) (n : ℕ) :
    ∃ pad, Ieee80211LayeredOFDMTransmitter.appendPadding mode serializedPacket n =
        .ok (serializedPacket ++ List.replicate pad false) ∧
      6 + n * 8 + 16 + pad =
        ((6 + n * 8 + 16) / (blocks * convolutionalCode.codeRatePuncturingK) + 1) *
          (blocks * convolutionalCode.codeRatePuncturingK) := by
  refine ⟨_, by rw [Ieee80211LayeredOFDMTransmitter.appendPadding, h.dataBits]; rfl, ?_⟩
  rw [ceil_div_of_mod_ne h.data_pos (mod_dataBits_ne h.four_dvd)]
  exact (add_padding h.data_pos).1

/-- The receiver finds the same symbol, with a symbol's bits less what the last symbol holds. -/
theorem Ieee80211OFDMDataMode.Cuts.dataFieldLengths {mode : Ieee80211OFDMMode}
    (h : mode.dataMode.Cuts convolutionalCode interleaving blocks) (n : ℕ) :
    Ieee80211LayeredOFDMReceiver.dataFieldLengths mode n =
      .ok (((6 + n * 8 + 16) / (blocks * convolutionalCode.codeRatePuncturingK) + 1) *
          (blocks * convolutionalCode.codeRatePuncturingK),
        ((6 + n * 8 + 16) / (blocks * convolutionalCode.codeRatePuncturingK) + 1) *
          (blocks * convolutionalCode.codeRatePuncturingN)) := by
  have hK : (0 : ℚ) < convolutionalCode.codeRatePuncturingK := by
    exact_mod_cast Nat.pos_of_mul_pos_left h.data_pos
  have hN : (0 : ℚ) < convolutionalCode.codeRatePuncturingN := by exact_mod_cast h.N_pos
  have hcoded : mode.dataMode.modulation.getCodeWordSize * NUMBER_OF_OFDM_DATA_SUBCARRIERS =
      blocks * convolutionalCode.codeRatePuncturingN := h.coded
  have hdata : ⌊((mode.dataMode.modulation.getCodeWordSize * NUMBER_OF_OFDM_DATA_SUBCARRIERS : ℕ) : ℚ) *
      (1 / (convolutionalCode.codeRatePuncturingN / convolutionalCode.codeRatePuncturingK))⌋₊ =
        blocks * convolutionalCode.codeRatePuncturingK := by
    rw [hcoded, Nat.cast_mul, one_div_div, mul_assoc, mul_div_cancel₀ _ hN.ne', ← Nat.cast_mul, Nat.floor_natCast]
  have hpadding : n * 8 + Ieee80211LayeredOFDMReceiver.PPDU_SERVICE_FIELD_BITS_LENGTH +
      Ieee80211LayeredOFDMReceiver.PPDU_TAIL_BITS_LENGTH + Ieee80211LayeredOFDMReceiver.calculatePadding
        (n * 8 + Ieee80211LayeredOFDMReceiver.PPDU_SERVICE_FIELD_BITS_LENGTH +
          Ieee80211LayeredOFDMReceiver.PPDU_TAIL_BITS_LENGTH) mode.dataMode.modulation
        (1 / (convolutionalCode.codeRatePuncturingN / convolutionalCode.codeRatePuncturingK)) =
      ((6 + n * 8 + 16) / (blocks * convolutionalCode.codeRatePuncturingK) + 1) *
        (blocks * convolutionalCode.codeRatePuncturingK) := by
    have hbits : n * 8 + Ieee80211LayeredOFDMReceiver.PPDU_SERVICE_FIELD_BITS_LENGTH +
        Ieee80211LayeredOFDMReceiver.PPDU_TAIL_BITS_LENGTH = 6 + n * 8 + 16 := by
      rw [Ieee80211LayeredOFDMReceiver.PPDU_SERVICE_FIELD_BITS_LENGTH, Ieee80211LayeredOFDMReceiver.PPDU_TAIL_BITS_LENGTH]
      omega
    rw [hbits, Ieee80211LayeredOFDMReceiver.calculatePadding]
    simp only [hdata]
    exact (add_padding h.data_pos).2
  rw [Ieee80211LayeredOFDMReceiver.dataFieldLengths, h.usable.convolutionalCode_eq]
  simp only [hpadding]
  refine congrArg Except.ok (Prod.ext rfl ?_)
  change ⌊_⌋₊ = _
  rw [← Nat.mul_assoc, Nat.cast_mul, mul_assoc, mul_div_cancel₀ _ hK.ne', ← Nat.cast_mul, Nat.floor_natCast, Nat.mul_assoc]

end Padding

section Cut

theorem ok_bind {A B : Type} (a : A) (f : A → Except Fault B) : (Except.ok a >>= f) = f a := rfl

open Ieee80211OFDMCompliantModes Ieee80211LayeredOFDMTransmitter Ieee80211LayeredOFDMReceiver Ieee80211PhySerializer

variable {signalRateField : ℕ} {channelSpacing : Hz} {mode : Ieee80211OFDMMode} {macFrame : Ieee80211Frame}
  {written : Buffer} {convolutionalCode : ConvolutionalCode} {interleaving : Ieee80211OFDMInterleaving} {blocks : ℕ}

open ShortBitVector

section Transmission

variable (h : mode.dataMode.Cuts convolutionalCode interleaving blocks)
  (hsignal : mode.signalMode = ofdmHeaderMode signalRateField)
  (hwritten : macFrame.serializePacket (Buffer.ofBytes (List.replicate macFrame.byteLength 0)) = .ok written)
include h hsignal hwritten

/-- The packet holds the header and the frame, and the data field of whole symbols behind its signal field. -/
theorem createPacketModel_returns : ∃ packet tail, createPacketModel mode macFrame = .ok packet ∧
    packet = writeToBitVector (headerBytes signalRateField macFrame.byteLength ++
      frameBytes macFrame.byteLength written) ++ tail ∧
    packet.length = 24 + ((6 + macFrame.byteLength * 8 + 16) / (blocks * convolutionalCode.codeRatePuncturingK) + 1) *
      (blocks * convolutionalCode.codeRatePuncturingK) := by
  let phyFrame : Ieee80211OFDMPLCPFrame :=
    { rate := mode.signalMode.rate
      length := macFrame.byteLength
      bitLength := macFrame.byteLength * 8 + 40
      encapsulatedPacket := macFrame }
  have hbytes : phyFrame.getByteLength = OFDM_PLCP_HEADER_LENGTH + macFrame.byteLength := by
    rw [Ieee80211OFDMPLCPFrame.getByteLength, OFDM_PLCP_HEADER_LENGTH]
    change (macFrame.byteLength * 8 + 40 + 7) / 8 = _
    omega
  have hserialize := serialize_returns hbytes hwritten
  have hrate : phyFrame.rate = signalRateField := congrArg Ieee80211OFDMSignalMode.rate hsignal
  rw [hrate] at hserialize
  obtain ⟨pad, hpad, hlength⟩ := h.appendPadding (writeToBitVector (headerBytes signalRateField macFrame.byteLength ++
    frameBytes macFrame.byteLength written) ++ List.replicate 6 false) macFrame.byteLength
  refine ⟨_, _, (congrArg (· >>= fun serializedPacket => appendPadding mode serializedPacket macFrame.byteLength)
    hserialize).trans hpad, List.append_assoc _ _ _, ?_⟩
  rw [← hlength]
  simp only [List.length_append, length_writeToBitVector, length_headerBytes, length_frameBytes hwritten,
    List.length_replicate, OFDM_PLCP_HEADER_LENGTH]
  omega

/-- The bits of a transmission are the codes of the signal field and of the data field of its packet. -/
theorem createTransmission_encodes (dblrand : ℕ → ℚ) :
    ∃ signalFieldBits dataFieldBits packet tail,
      createTransmission mode macFrame = .ok (createBitModel signalFieldBits dataFieldBits) ∧
      signalFieldBits.length = 48 ∧
      Ieee80211OFDMDecoder.decode dblrand ofdmCC1_2BPSKInterleavingWithoutScrambling signalFieldBits =
        .ok (ofDecimal (header signalRateField macFrame.byteLength) 24) ∧
      dataFieldBits.length =
        ((6 + macFrame.byteLength * 8 + 16) / (blocks * convolutionalCode.codeRatePuncturingK) + 1) *
          (blocks * convolutionalCode.codeRatePuncturingN) ∧
      Ieee80211OFDMEncoder.encode mode.dataMode.code (packet.drop 24) = .ok dataFieldBits ∧
      (packet.drop 24).length = ((6 + macFrame.byteLength * 8 + 16) /
        (blocks * convolutionalCode.codeRatePuncturingK) + 1) * blocks * convolutionalCode.codeRatePuncturingK ∧
      packet = writeToBitVector (headerBytes signalRateField macFrame.byteLength ++
        frameBytes macFrame.byteLength written) ++ tail := by
  obtain ⟨packet, tail, hpacket, hbytes, hlength⟩ := createPacketModel_returns h hsignal hwritten
  have hsignalCode : mode.signalMode.code = ofdmCC1_2BPSKInterleavingWithoutScrambling :=
    congrArg Ieee80211OFDMSignalMode.code hsignal
  have hfield : packet.take 24 = ofDecimal (header signalRateField macFrame.byteLength) 24 :=
    hbytes ▸ take_written _ _ _ _
  obtain ⟨signalFieldBits, hsignalFieldBits, hsignalLength, hdecode⟩ :=
    @decode_encode_signal _ 1 (length_ofDecimal (header signalRateField macFrame.byteLength) 24) (by decide) dblrand
  have hdataLength : (packet.drop 24).length = ((6 + macFrame.byteLength * 8 + 16) /
      (blocks * convolutionalCode.codeRatePuncturingK) + 1) * blocks * convolutionalCode.codeRatePuncturingK := by
    rw [List.length_drop, hlength, Nat.add_sub_cancel_left, Nat.mul_assoc]
  obtain ⟨dataFieldBits, hdataFieldBits, hdata⟩ := h.usable.encode hdataLength (by rw [h.symbol, h.coded, Nat.mul_assoc])
  have hsignalField : createSignalFieldPacketModel packet =
      .ok (ofDecimal (header signalRateField macFrame.byteLength) 24) := by
    have hread := @mapM_getBit packet 0 24 (by omega)
    rw [List.drop_zero, hfield] at hread
    simp only [Nat.zero_add] at hread
    exact hread
  have hdataField : createDataFieldPacketModel packet = .ok (packet.drop 24) := by
    have hread := @mapM_getBit packet 24 (packet.length - 24) (by omega)
    rwa [← List.length_drop, List.take_length, List.length_drop] at hread
  refine ⟨signalFieldBits, dataFieldBits, packet, tail, ?_, hsignalLength, hdecode, by rw [hdata, Nat.mul_assoc],
    hdataFieldBits, hdataLength, hbytes⟩
  rw [createTransmission, hpacket]
  simp only [ok_bind, hsignalField, hdataField, hsignalCode, hsignalFieldBits, hdataFieldBits]
  rfl

/-- The receiver decodes the signal field of a transmission. -/
theorem createTransmission_returns (dblrand : ℕ → ℚ) :
    ∃ signalFieldBits dataFieldBits,
      createTransmission mode macFrame = .ok (createBitModel signalFieldBits dataFieldBits) ∧
      signalFieldBits.length = 48 ∧
      Ieee80211OFDMDecoder.decode dblrand ofdmCC1_2BPSKInterleavingWithoutScrambling signalFieldBits =
        .ok (ofDecimal (header signalRateField macFrame.byteLength) 24) ∧
      dataFieldBits.length =
        ((6 + macFrame.byteLength * 8 + 16) / (blocks * convolutionalCode.codeRatePuncturingK) + 1) *
          (blocks * convolutionalCode.codeRatePuncturingN) := by
  obtain ⟨signalFieldBits, dataFieldBits, _, _, htransmission, hlength, hdecode, hdata, -⟩ :=
    createTransmission_encodes h hsignal hwritten dblrand
  exact ⟨signalFieldBits, dataFieldBits, htransmission, hlength, hdecode, hdata⟩

end Transmission

theorem createSignalFieldBitModel_append {signalFieldBits : BitVector} (hlength : signalFieldBits.length = 48)
    (dataFieldBits : BitVector) :
    createSignalFieldBitModel (signalFieldBits ++ dataFieldBits) =
      .ok signalFieldBits := by
  have hread := @mapM_getBit (signalFieldBits ++ dataFieldBits) 0 48 (by
    rw [List.length_append, hlength]
    omega)
  rw [List.drop_zero, List.take_left' hlength] at hread
  simp only [Nat.zero_add] at hread
  exact hread

/-- The receiver reads the bits of the data field as far as they were sent. -/
theorem receiveDataField_returns (h : mode.dataMode.Cuts convolutionalCode interleaving blocks)
    (hmode : getCompliantMode signalRateField channelSpacing = .ok mode) (hrate : signalRateField < 16) {n : ℕ}
    (hn : n < 4096) {signalFieldBits dataFieldBits : BitVector} {dblrand : ℕ → ℚ} (hlength : signalFieldBits.length = 48)
    (hdecode : Ieee80211OFDMDecoder.decode dblrand ofdmCC1_2BPSKInterleavingWithoutScrambling signalFieldBits =
      .ok (ofDecimal (header signalRateField n) 24))
    (hdata : dataFieldBits.length = ((6 + n * 8 + 16) / (blocks * convolutionalCode.codeRatePuncturingK) + 1) *
      (blocks * convolutionalCode.codeRatePuncturingN)) :
    receiveDataField channelSpacing dblrand (signalFieldBits ++ dataFieldBits) =
      .ok (mode, dataFieldBits) := by
  have hsignalField := createSignalFieldBitModel_append hlength dataFieldBits
  have hdataField : createDataFieldBitModel mode (signalFieldBits ++ dataFieldBits)
      (ofDecimal (header signalRateField n) 24) signalFieldBits =
        .ok dataFieldBits := by
    have hle : ((6 + n * 8 + 16) / (blocks * convolutionalCode.codeRatePuncturingK) + 1) *
        (blocks * convolutionalCode.codeRatePuncturingK) ≤ dataFieldBits.length := by
      rw [hdata]
      exact Nat.mul_le_mul_left _ (Nat.mul_le_mul_left _ h.K_le)
    have hread := @mapM_getBit (signalFieldBits ++ dataFieldBits) signalFieldBits.length dataFieldBits.length (by
      rw [List.length_append])
    rw [List.drop_left, List.take_length] at hread
    rw [createDataFieldBitModel, getSignalFieldLength_header hn]
    change (dataFieldLengths mode n >>= _) = _
    rw [h.dataFieldLengths]
    refine (throwIf_bind ?_).trans ?_
    · rw [List.length_append]
      omega
    · rw [← hdata]
      exact hread
  rw [receiveDataField, hsignalField]
  simp only [ok_bind, hdecode, getRate_header hrate, hmode, hdataField]
  rfl

/-- The receiver takes the data field as it was sent: all bits behind the signal field, whole OFDM symbols, and no more. -/
theorem receiveDataField_transmission (hmode : getCompliantMode signalRateField channelSpacing = .ok mode)
    (hlength : macFrame.byteLength < 4096)
    (hwritten : macFrame.serializePacket (Buffer.ofBytes (List.replicate macFrame.byteLength 0)) = .ok written)
    (dblrand : ℕ → ℚ) :
    ∃ transmission dataFieldBits, Ieee80211LayeredOFDMTransmitter.createTransmission mode macFrame = .ok transmission ∧
      Ieee80211LayeredOFDMReceiver.receiveDataField channelSpacing dblrand transmission.bits =
        .ok (mode, dataFieldBits) ∧
      dataFieldBits.length = transmission.payloadBitLength ∧
      mode.dataMode.codedBitsPerOFDMSymbol ∣ dataFieldBits.length ∧
      dataFieldBits = transmission.bits.drop transmission.headerBitLength := by
  obtain ⟨hsignal, hrate, hmem⟩ := getCompliantMode_eq_ok hmode
  obtain ⟨convolutionalCode, interleaving, blocks, h⟩ := cuts_of_mem hmem
  obtain ⟨signalFieldBits, dataFieldBits, htransmission, hsignalLength, hdecode, hdata⟩ :=
    createTransmission_returns h hsignal hwritten dblrand
  refine ⟨_, dataFieldBits, htransmission,
    receiveDataField_returns h hmode hrate hlength hsignalLength hdecode hdata, rfl, ?_, ?_⟩
  · rw [hdata, ← h.coded]
    exact Nat.dvd_mul_left _ _
  · exact List.drop_left.symm

theorem getBufSize_writeNBytes (bytes : List UInt8) (b : Buffer) :
    (Buffer.writeNBytes bytes b).getBufSize = b.getBufSize := by
  induction bytes generalizing b with
  | nil => rfl
  | cons byte bytes ih =>
    obtain ⟨before, after, errorFound⟩ := b
    cases after with
    | nil => rfl
    | cons old rest =>
      refine (ih _).trans ?_
      simp only [Buffer.getBufSize, List.length_append, List.length_cons, List.length_nil]
      omega

/-- An acknowledgement of 14 bytes. -/
def ackFrame : Ieee80211Frame where
  byteLength := 14
  serialize := Buffer.writeNBytes (List.replicate 14 0xD4)
  getBufSize_serialize := getBufSize_writeNBytes _

theorem receiveDataField_transmission_ack : ∃ transmission dataFieldBits,
    Ieee80211LayeredOFDMTransmitter.createTransmission ofdmMode36Mbps ackFrame = .ok transmission ∧
      Ieee80211LayeredOFDMReceiver.receiveDataField (MHz 20) (fun _ => 0) transmission.bits =
        .ok (ofdmMode36Mbps, dataFieldBits) ∧
      dataFieldBits.length = transmission.payloadBitLength ∧
      ofdmMode36Mbps.dataMode.codedBitsPerOFDMSymbol ∣ dataFieldBits.length ∧
      dataFieldBits = transmission.bits.drop transmission.headerBitLength :=
  @receiveDataField_transmission 11 (MHz 20) ofdmMode36Mbps ackFrame
    (Buffer.writeNBytes (List.replicate 14 0xD4) (Buffer.ofBytes (List.replicate 14 0)))
    (if_pos rfl) (by decide) rfl _

theorem supported_of_mem {dataMode : Ieee80211OFDMDataMode} (h : dataMode ∈ compliantDataModes) :
    ∃ convolutionalCode ∈ convolutionalCodes, dataMode.code.convolutionalCode = some convolutionalCode := by
  simp only [compliantDataModes, List.mem_cons, List.not_mem_nil, or_false] at h
  rcases h with rfl | rfl | rfl | rfl | rfl | rfl | rfl | rfl
  all_goals
    refine ⟨_, ?_, rfl⟩
    simp [convolutionalCodes]

/-- The receiver gets the rate, the length and the bytes of the frame that was sent. -/
theorem receivePacket_transmission (hmode : getCompliantMode signalRateField channelSpacing = .ok mode)
    (hlength : macFrame.byteLength < 4096)
    (hwritten : macFrame.serializePacket (Buffer.ofBytes (List.replicate macFrame.byteLength 0)) = .ok written)
    (dblrand dataDblrand : ℕ → ℚ) :
    ∃ transmission, createTransmission mode macFrame = .ok transmission ∧
      receivePacket channelSpacing dblrand dataDblrand transmission.bits =
        .ok (signalRateField, macFrame.byteLength, frameBytes macFrame.byteLength written) := by
  obtain ⟨hsignal, hrate, hmem⟩ := getCompliantMode_eq_ok hmode
  obtain ⟨convolutionalCode, interleaving, blocks, h⟩ := cuts_of_mem hmem
  obtain ⟨signalFieldBits, dataFieldBits, packet, tail, htransmission, hsignalLength, hdecode, hdata, hencode,
    hfield, hbytes⟩ := createTransmission_encodes h hsignal hwritten dblrand
  obtain ⟨_, hsupported, heq⟩ := supported_of_mem hmem
  rw [h.usable.convolutionalCode_eq] at heq
  cases heq
  have hsymbol : blocks * convolutionalCode.codeRatePuncturingK ≤ 6 * NUMBER_OF_OFDM_DATA_SUBCARRIERS := by
    refine (Nat.mul_le_mul_left _ h.K_le).trans (h.coded ▸ Nat.mul_le_mul_right _ ?_)
    cases mode.dataMode.modulation <;> decide
  have hshort : (packet.drop 24).length ≤ 6 + macFrame.byteLength * 8 + 16 + 6 * NUMBER_OF_OFDM_DATA_SUBCARRIERS := by
    rw [hfield, Nat.mul_assoc, Nat.succ_mul]
    exact Nat.add_le_add (Nat.div_mul_le_self _ _) hsymbol
  rw [NUMBER_OF_OFDM_DATA_SUBCARRIERS] at hshort
  obtain ⟨_, hencode', -, hdecodeData⟩ := h.usable.decode_encode hsupported hfield
    (by rw [h.symbol, h.coded, Nat.mul_assoc]) (by rw [INT32_MAX]; omega) dataDblrand
  rw [hencode] at hencode'
  cases hencode'
  refine ⟨_, htransmission, ?_⟩
  have hreceive := receiveDataField_returns h hmode hrate hlength hsignalLength hdecode hdata
  have hpacket := take_written signalRateField macFrame.byteLength (frameBytes macFrame.byteLength written) tail
  rw [receivePacket]
  change (createSignalFieldBitModel (signalFieldBits ++ dataFieldBits) >>= _) = _
  simp only [createSignalFieldBitModel_append hsignalLength, ok_bind, hdecode, createBitModel, hreceive, hdecodeData]
  rw [← hpacket, ← hbytes, List.take_append_drop, hbytes]
  exact deserialize_written hrate hlength (length_frameBytes hwritten) tail

theorem receivePacket_transmission_ack : ∃ transmission,
    createTransmission ofdmMode36Mbps ackFrame = .ok transmission ∧
      receivePacket (MHz 20) (fun _ => 0) (fun _ => 0) transmission.bits =
        .ok (11, 14, List.replicate 14 0xD4) :=
  @receivePacket_transmission 11 (MHz 20) ofdmMode36Mbps ackFrame
    (Buffer.writeNBytes (List.replicate 14 0xD4) (Buffer.ofBytes (List.replicate 14 0)))
    (if_pos rfl) (by decide) rfl _ _

end Cut

end physicallayer

end inet
