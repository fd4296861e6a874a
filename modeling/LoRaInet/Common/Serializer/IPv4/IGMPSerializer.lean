import LoRaInet.Common.Serializer.SerializerBase
import LoRaInet.NetworkLayer.IPv4.IPv4Route

open omnetpp

namespace inet

structure GroupRecord where
  recordType : UInt8
  groupAddress : IPv4Address
  sourceList : List IPv4Address

/-- The classes of IGMP messages. -/
inductive IGMPMessage where
  | v1Query (groupAddress : IPv4Address)
  | v2Query (groupAddress : IPv4Address) (maxRespTime : UInt8)
  | v3Query (groupAddress : IPv4Address) (maxRespCode : UInt8) (suppressRouterProc : Bool)
    (robustnessVariable queryIntervalCode : UInt8) (sourceList : List IPv4Address)
  | v1Report (groupAddress : IPv4Address)
  | v2Report (groupAddress : IPv4Address)
  | v2Leave (groupAddress : IPv4Address)
  | v3Report (groupRecord : List GroupRecord)

namespace serializer

def Buffer.writeIPv4Address (addr : IPv4Address) (b : Buffer) : Buffer := b.writeUint32 addr.toNat

def Reading.readIPv4Address : Reading IPv4Address := do
  let addr ← Reading.readUint32
  return BitVec.ofNat 32 addr

namespace IGMPSerializer

def IGMP_MEMBERSHIP_QUERY : UInt8 := 0x11
def IGMPV1_MEMBERSHIP_REPORT : UInt8 := 0x12
def IGMPV2_MEMBERSHIP_REPORT : UInt8 := 0x16
def IGMPV2_LEAVE_GROUP : UInt8 := 0x17
def IGMPV3_MEMBERSHIP_REPORT : UInt8 := 0x22

/-- Type, code, place of the checksum and group address. -/
def serializeHeader (type : UInt8) (groupAddress : IPv4Address) (b : Buffer) : Buffer :=
  (((b.writeByte type).writeByte 0).writeUint16 0).writeIPv4Address groupAddress

def serializeGroupRecord (b : Buffer) (gr : GroupRecord) : Buffer :=
  let b := b.writeByte gr.recordType
  let b := b.writeByte 0
  let b := b.writeUint16 gr.sourceList.length
  let b := b.writeIPv4Address gr.groupAddress
  gr.sourceList.foldl (fun b src => b.writeIPv4Address src) b

def serializeBody (pkt : IGMPMessage) (b : Buffer) : Except Fault Buffer :=
  match pkt with
  | .v1Query groupAddress => .ok (serializeHeader IGMP_MEMBERSHIP_QUERY groupAddress b)
  | .v2Query groupAddress maxRespTime =>
    .ok ((serializeHeader IGMP_MEMBERSHIP_QUERY groupAddress b).writeByteTo 1 maxRespTime)
  | .v3Query groupAddress maxRespCode suppressRouterProc robustnessVariable queryIntervalCode
      sourceList => do
    let b := (serializeHeader IGMP_MEMBERSHIP_QUERY groupAddress b).writeByteTo 1 maxRespCode
    ASSERT (robustnessVariable ≤ 7) "v3pkt->getRobustnessVariable() <= 7"
    let b := b.writeByte ((if suppressRouterProc then 0x8 else 0) ||| robustnessVariable)
    let b := b.writeByte queryIntervalCode
    let b := b.writeUint16 sourceList.length
    return sourceList.foldl (fun b src => b.writeIPv4Address src) b
  | .v1Report groupAddress => .ok (serializeHeader IGMPV1_MEMBERSHIP_REPORT groupAddress b)
  | .v2Report groupAddress => .ok (serializeHeader IGMPV2_MEMBERSHIP_REPORT groupAddress b)
  | .v2Leave groupAddress => .ok (serializeHeader IGMPV2_LEAVE_GROUP groupAddress b)
  | .v3Report groupRecord =>
    let b := ((b.writeByte IGMPV3_MEMBERSHIP_REPORT).writeByte 0).writeUint16 0
    let b := (b.writeUint16 0).writeUint16 groupRecord.length
    .ok (groupRecord.foldl serializeGroupRecord b)

/-- The checksum is written last. -/
def serialize (pkt : IGMPMessage) (b : Buffer) : Except Fault Buffer := do
  let written ← serializeBody pkt b
  return written.writeUint16To 2 (TCPIPchecksum.checksum (written.before.drop b.getPos))

open Reading

def deserializeSources : ℕ → Reading (List IPv4Address)
  | 0 => return []
  | n + 1 => do
    if ← hasError then return []
    let source ← readIPv4Address
    let sources ← deserializeSources n
    return source :: sources

def deserializeGroupRecord : Reading GroupRecord := do
  let recordType ← readByte
  let auxDataLen ← readByte
  let gac ← readUint16
  let groupAddress ← readIPv4Address
  let sourceList ← deserializeSources gac
  let _ ← accessNBytes (4 * auxDataLen.toNat)
  return ⟨recordType, groupAddress, sourceList⟩

def deserializeGroupRecords : ℕ → Reading (List GroupRecord)
  | 0 => return []
  | n + 1 => do
    if ← hasError then return []
    let gr ← deserializeGroupRecord
    let grs ← deserializeGroupRecords n
    return gr :: grs

/-- The source list of the new message is empty, and has no place for a source. -/
def deserializeV3Query (code : UInt8) (startPos : ℕ) : Reading (IGMPMessage × ℕ) := do
  let groupAddress ← readIPv4Address
  let x ← readByte
  let queryIntervalCode ← readByte
  let vs ← readUint16
  let b ← get
  if vs > 0 && !b.errorFound then
    throw .outOfRange
  else
    return (.v3Query groupAddress code (x &&& 0x8 ≠ 0) (x &&& 7) queryIntervalCode [],
      b.getPos - startPos)

def deserializeQuery (code : UInt8) (start : Buffer) : Reading (IGMPMessage × ℕ) := do
  if code = 0 then
    return (.v1Query (← readIPv4Address), 8)
  else if start.getBufSize - start.getPos = 8 then
    return (.v2Query (← readIPv4Address) code, 8)
  else
    deserializeV3Query code start.getPos

def deserializeV3Report (startPos : ℕ) : Reading (IGMPMessage × ℕ) := do
  let _ ← readUint16
  let s ← readUint16
  let groupRecord ← deserializeGroupRecords s
  let b ← get
  return (.v3Report groupRecord, b.getPos - startPos)

/-- A message of a known type, with its length. -/
def deserializeMessage (type code : UInt8) (start : Buffer) :
    Reading (Option (IGMPMessage × ℕ)) := do
  if type = IGMP_MEMBERSHIP_QUERY then
    return some (← deserializeQuery code start)
  else if type = IGMPV1_MEMBERSHIP_REPORT then
    return some (.v1Report (← readIPv4Address), 8)
  else if type = IGMPV2_MEMBERSHIP_REPORT then
    return some (.v2Report (← readIPv4Address), 8)
  else if type = IGMPV2_LEAVE_GROUP then
    return some (.v2Leave (← readIPv4Address), 8)
  else if type = IGMPV3_MEMBERSHIP_REPORT then
    return some (← deserializeV3Report start.getPos)
  else
    return none

/-- Bytes of an unknown type become a raw packet with a bit error. -/
def deserializeUnknown (startPos : ℕ) : Reading (Parsed (IGMPMessage ⊕ ByteArray)) := do
  seek startPos
  match ← SerializerBase.deserializePacket .inr (ByteArraySerializer.deserialize .inr) with
  | some packet => return packet.setBitError
  | none => throw .nullPointer

/-- The checksum is taken over the length of the packet. -/
def checkPacket (startPos : ℕ) (packet : Parsed (IGMPMessage ⊕ ByteArray)) :
    Reading (Parsed (IGMPMessage ⊕ ByteArray)) := do
  let b ← get
  let igmp := (b.before ++ b.after).drop startPos
  if b.errorFound then return packet.setBitError
  else if packet.byteLength > igmp.length then
    throw .outOfRange
  else if TCPIPchecksum.checksum (igmp.take packet.byteLength) ≠ 0 then return packet.setBitError
  else return packet

def deserialize : Reading (Parsed (IGMPMessage ⊕ ByteArray)) := do
  let start ← get
  let type ← readByte
  let code ← readByte
  let _ ← readUint16
  let packet ← (do
    match ← deserializeMessage type code start with
    | some (message, byteLength) => return ⟨.inl message, byteLength, false⟩
    | none => deserializeUnknown start.getPos)
  checkPacket start.getPos packet

end IGMPSerializer

end serializer

end inet
