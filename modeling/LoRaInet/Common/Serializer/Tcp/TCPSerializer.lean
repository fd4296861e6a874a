import LoRaInet.Common.Serializer.SerializerBase

open omnetpp

namespace inet

namespace tcp

structure SackItem where
  start : uint32
  endSeq : uint32
  deriving DecidableEq

/-- The classes of header options. The kind of an option follows from its class. -/
inductive OptionData where
  | endOfOptionList
  | noOperation
  | maxSegmentSize (maxSegmentSize : BitVec 16)
  | windowScale (windowScale : ℕ)
  | sackPermitted
  | sack (sackItem : List SackItem)
  | timestamp (senderTimestamp echoedTimestamp : uint32)
  | unknown (kind : ℕ) (bytes : List UInt8)
  deriving DecidableEq

structure TCPOption where
  length : ℕ
  data : OptionData

def TCPOption.getKind (option : TCPOption) : ℕ :=
  match option.data with
  | .endOfOptionList => 0
  | .noOperation => 1
  | .maxSegmentSize _ => 2
  | .windowScale _ => 3
  | .sackPermitted => 4
  | .sack _ => 5
  | .timestamp .. => 8
  | .unknown kind _ => kind

def TCPOptionEnd : TCPOption := ⟨1, .endOfOptionList⟩

/-- A segment as its serializer sees it: the header, and the bytes behind it. -/
structure WireSegment where
  srcPort : BitVec 16
  destPort : BitVec 16
  sequenceNo : uint32
  ackNo : uint32
  headerLength : ℕ
  urgBit : Bool
  ackBit : Bool
  pshBit : Bool
  rstBit : Bool
  synBit : Bool
  finBit : Bool
  window : BitVec 16
  urgentPointer : BitVec 16
  headerOption : List TCPOption
  byteArray : ByteArray

end tcp

namespace serializer.TCPSerializer

open tcp

def TCP_HEADER_OCTETS : ℕ := 20

def IP_PROT_TCP : ℕ := 6

def TH_FIN : UInt8 := 0x01
def TH_SYN : UInt8 := 0x02
def TH_RST : UInt8 := 0x04
def TH_PUSH : UInt8 := 0x08
def TH_ACK : UInt8 := 0x10
def TH_URG : UInt8 := 0x20

/-- The flags in the order of their bits. -/
def th_flags (tcpseg : WireSegment) : UInt8 :=
  (if tcpseg.finBit then TH_FIN else 0) ||| (if tcpseg.synBit then TH_SYN else 0) |||
    (if tcpseg.rstBit then TH_RST else 0) ||| (if tcpseg.pshBit then TH_PUSH else 0) |||
    (if tcpseg.ackBit then TH_ACK else 0) ||| (if tcpseg.urgBit then TH_URG else 0)

/-- The data offset is a field of four bits. -/
def th_offs (headerLength : ℕ) : UInt8 := UInt8.ofNat (headerLength / 4 % 16 * 16)

/-- The fixed header without its checksum. -/
def headerBytes (tcpseg : WireSegment) : List UInt8 :=
  bigEndian 2 tcpseg.srcPort.toNat ++ bigEndian 2 tcpseg.destPort.toNat ++
    bigEndian 4 tcpseg.sequenceNo.toNat ++ bigEndian 4 tcpseg.ackNo.toNat ++
    [th_offs tcpseg.headerLength, th_flags tcpseg] ++ bigEndian 2 tcpseg.window.toNat ++
    bigEndian 2 0 ++ bigEndian 2 tcpseg.urgentPointer.toNat

def serializeOptionData (option : TCPOption) (b : Buffer) : Except Fault Buffer :=
  match option.data with
  | .unknown _ bytes => do
    ASSERT (option.length = 2 + bytes.length) "length == 2 + datalen"
    return b.writeNBytes bytes
  | .endOfOptionList | .noOperation => do
    ASSERT (option.length = 1) "length == 1"
    return b
  | .maxSegmentSize maxSegmentSize => do
    ASSERT (option.length = 4) "length == 4"
    return b.writeUint16 maxSegmentSize.toNat
  | .windowScale windowScale => do
    ASSERT (option.length = 3) "length == 3"
    return b.writeByte (UInt8.ofNat windowScale)
  | .sackPermitted => do
    ASSERT (option.length = 2) "length == 2"
    return b
  | .sack sackItem => do
    ASSERT (option.length = 2 + sackItem.length * 8)
      "length == 2 + opt->getSackItemArraySize() * 8"
    return sackItem.foldl (fun b si => (b.writeUint32 si.start.toNat).writeUint32 si.endSeq.toNat) b
  | .timestamp senderTimestamp echoedTimestamp => do
    ASSERT (option.length = 10) "length == 10"
    return (b.writeUint32 senderTimestamp.toNat).writeUint32 echoedTimestamp.toNat

def serializeOption (option : TCPOption) (b : Buffer) : Except Fault Buffer :=
  let b := b.writeByte (UInt8.ofNat option.getKind)
  serializeOptionData option
    (if option.length > 1 then b.writeByte (UInt8.ofNat option.length) else b)

/-- The options one after the other, with the sum of their lengths. -/
def serializeOptions : List TCPOption → ℕ → Buffer → Except Fault (ℕ × Buffer)
  | [], optionsLength, b => .ok (optionsLength, b)
  | option :: options, optionsLength, b => do
    let b ← serializeOption option b
    serializeOptions options (optionsLength + option.length) b

def padding (optionsLength : ℕ) (b : Buffer) : Buffer :=
  if optionsLength % 4 ≠ 0 then b.fillNBytes (4 - optionsLength % 4) 0 else b

/-- A segment without a byte array is filled with the letter t. -/
def serializeData (tcpseg : WireSegment) (byteLength : ℕ) (b : Buffer) : Except Fault Buffer := do
  if byteLength > tcpseg.headerLength then
    let dataLength := byteLength - tcpseg.headerLength
    if tcpseg.byteArray.length > 0 then
      ASSERT (tcpseg.byteArray.length = dataLength)
        "tcpseg->getByteArray().getDataArraySize() == dataLength"
      return b.writeNBytes tcpseg.byteArray
    else
      return b.fillNBytes dataLength 0x74
  else
    return b

variable (l3Addresses : List UInt8)

/-- The checksum is written last, over everything before the position. -/
def serialize (tcpseg : WireSegment) (byteLength : ℕ) (b : Buffer) : Except Fault Buffer := do
  ASSERT (b.getPos = 0) "b.getPos() == 0"
  if tcpseg.headerLength % 4 ≠ 0 then
    throw (.cRuntimeError s!"invalid TCP header length={tcpseg.headerLength}: must be dividable by 4")
  else
    let numOptions := tcpseg.headerOption.length % 65536
    let (optionsLength, b) ←
      serializeOptions (tcpseg.headerOption.take numOptions) 0 (b.writeNBytes (headerBytes tcpseg))
    let b ← serializeData tcpseg byteLength (padding optionsLength b)
    return b.writeUint16To 16 (TCPIPchecksum.checksumWith IP_PROT_TCP b.before l3Addresses)

open Reading

/-- Any option with a length that does not suit its kind is an unknown option. -/
def deserializeUnknown (kind length : UInt8) : Reading TCPOption := do
  let bytes ← readNBytes (length.toNat - 2)
  return ⟨length.toNat, .unknown kind.toNat bytes⟩

def deserializeSackItems : ℕ → Reading (List SackItem)
  | 0 => return []
  | count + 1 => do
    let start ← readUint32
    let endSeq ← readUint32
    let items ← deserializeSackItems count
    return ⟨BitVec.ofNat 32 start, BitVec.ofNat 32 endSeq⟩ :: items

/-- An option of more than one byte, behind its kind and its length. -/
def deserializeOptionData (kind length : UInt8) : Reading TCPOption := do
  if kind = 2 ∧ length = 4 then
    let maxSegmentSize ← readUint16
    return ⟨length.toNat, .maxSegmentSize (BitVec.ofNat 16 maxSegmentSize)⟩
  else if kind = 3 ∧ length = 3 then
    let windowScale ← readByte
    return ⟨length.toNat, .windowScale windowScale.toNat⟩
  else if kind = 4 ∧ length = 2 then
    return ⟨length.toNat, .sackPermitted⟩
  else if kind = 5 ∧ length > 2 ∧ length % 8 = 2 then
    let items ← deserializeSackItems (length.toNat / 8)
    return ⟨length.toNat, .sack items⟩
  else if kind = 8 ∧ length = 10 then
    let senderTimestamp ← readUint32
    let echoedTimestamp ← readUint32
    return ⟨length.toNat,
      .timestamp (BitVec.ofNat 32 senderTimestamp) (BitVec.ofNat 32 echoedTimestamp)⟩
  else
    deserializeUnknown kind length

def deserializeOption : Reading TCPOption := do
  let kind ← readByte
  if kind = 0 then return TCPOptionEnd
  else if kind = 1 then return ⟨1, .noOperation⟩
  else
    let length ← readByte
    deserializeOptionData kind length

/-- Options are read as long as there are bytes. Every option takes at least one of them. -/
def deserializeOptions : ℕ → Reading (List TCPOption)
  | 0 => return []
  | fuel + 1 => do
    let b ← get
    if b.getRemainingSize = 0 then return []
    else
      let option ← deserializeOption
      let options ← deserializeOptions fuel
      return option :: options

/-- The options in a sub-buffer. The bytes are not skipped in the buffer itself. -/
def readOptions (optionBytes : ℕ) : Reading (List TCPOption) := fun b => do
  let sb := b.sub optionBytes
  let (options, sb) ← deserializeOptions sb.getRemainingSize sb
  return (options, if sb.errorFound then b.setError else b)

/-- The fixed header, with its checksum. -/
def readHeader : Reading (WireSegment × ℕ) := do
  let srcPort ← readUint16
  let destPort ← readUint16
  let sequenceNo ← readUint32
  let ackNo ← readUint32
  let offs ← readByte
  let flags ← readByte
  let window ← readUint16
  let sum ← readUint16
  let urgentPointer ← readUint16
  let tcpseg : WireSegment :=
    { srcPort := BitVec.ofNat 16 srcPort
      destPort := BitVec.ofNat 16 destPort
      sequenceNo := BitVec.ofNat 32 sequenceNo
      ackNo := BitVec.ofNat 32 ackNo
      headerLength := offs.toNat / 16 * 4
      urgBit := flags &&& TH_URG = TH_URG
      ackBit := flags &&& TH_ACK = TH_ACK
      pshBit := flags &&& TH_PUSH = TH_PUSH
      rstBit := flags &&& TH_RST = TH_RST
      synBit := flags &&& TH_SYN = TH_SYN
      finBit := flags &&& TH_FIN = TH_FIN
      window := BitVec.ofNat 16 window
      urgentPointer := BitVec.ofNat 16 urgentPointer
      headerOption := []
      byteArray := [] }
  return (tcpseg, sum)

/-- The length is that of the buffer, and the checksum is taken over all of it. -/
def finishSegment (tcpseg : WireSegment) (sum : ℕ) : Reading (Parsed WireSegment) := do
  let b ← get
  let _ ← accessNBytes b.getRemainingSize
  let parsed : Parsed WireSegment := ⟨{ tcpseg with byteArray := b.after }, b.getBufSize, false⟩
  let b ← get
  let wrongSum := sum ≠ 0 ∧ l3Addresses ≠ [] ∧
    TCPIPchecksum.checksumWith IP_PROT_TCP (b.before ++ b.after) l3Addresses ≠ 0
  return if b.errorFound ∨ wrongSum then parsed.setBitError else parsed

def deserialize : Reading (Parsed WireSegment) := do
  let (tcpseg, sum) ← readHeader
  let headerOption ←
    (if tcpseg.headerLength > TCP_HEADER_OCTETS then
      readOptions (tcpseg.headerLength - TCP_HEADER_OCTETS)
    else pure [])
  seek tcpseg.headerLength
  finishSegment l3Addresses { tcpseg with headerOption := headerOption } sum

end serializer.TCPSerializer

end inet
