import LoRaInet.Common.Serializer.SerializerBase
import Mathlib.Tactic.IntervalCases

open omnetpp

namespace inet

/-- The four words of an address. -/
structure IPv6Address where
  d0 : uint32
  d1 : uint32
  d2 : uint32
  d3 : uint32
  deriving DecidableEq

def IPv6Address.words (address : IPv6Address) : List uint32 :=
  [address.d0, address.d1, address.d2, address.d3]

/-- The classes of extension headers. The length of a routing or fragment header follows from
its class. -/
inductive IPv6ExtensionHeader where
  | hopByHop (byteLength : ℕ)
  | destination (byteLength : ℕ)
  | routing (routingType segmentsLeft : UInt8) (address : List IPv6Address)
  | fragment (fragmentOffset : BitVec 16) (moreFragments : Bool) (identification : uint32)
  | authentication (byteLength : ℕ)
  | encapsulatingSecurityPayload (byteLength : ℕ)
  | other (extensionType : UInt8) (byteLength : ℕ)
  deriving DecidableEq

namespace IPv6ExtensionHeader

def getExtensionType : IPv6ExtensionHeader → UInt8
  | .hopByHop _ => 0
  | .destination _ => 60
  | .routing .. => 43
  | .fragment .. => 44
  | .authentication _ => 51
  | .encapsulatingSecurityPayload _ => 50
  | .other extensionType _ => extensionType

def getByteLength : IPv6ExtensionHeader → ℕ
  | .routing _ _ address => 8 + 16 * address.length
  | .fragment .. => 8
  | .hopByHop byteLength | .destination byteLength | .authentication byteLength
  | .encapsulatingSecurityPayload byteLength | .other _ byteLength => byteLength

end IPv6ExtensionHeader

/-- A datagram around a packet of type `E`. The hop limit is a 16-bit integer. -/
structure IPv6Datagram (E : Type) where
  srcAddress : IPv6Address
  destAddress : IPv6Address
  trafficClass : UInt8
  flowLabel : BitVec 20
  hopLimit : BitVec 16
  transportProtocol : UInt8
  extensionHeader : List IPv6ExtensionHeader
  encapsulatedPacket : E
  deriving DecidableEq

namespace serializer

/-- The byte order of the machine. -/
inductive ByteOrder where
  | littleEndian
  | bigEndian
  deriving DecidableEq

def htons (host : ByteOrder) (value : BitVec 16) : BitVec 16 :=
  match host with
  | .littleEndian => (value <<< 8) ||| (value >>> 8)
  | .bigEndian => value

def ntohs (host : ByteOrder) (value : BitVec 16) : BitVec 16 := htons host value

namespace IPv6Serializer

def IPv6_HEADER_BYTES : ℕ := 40

def addressBytes (address : IPv6Address) : List UInt8 :=
  address.words.flatMap fun word => bigEndian 4 word.toNat

def flowinfo (trafficClass : UInt8) (flowLabel : BitVec 20) : uint32 :=
  (((0x06 <<< 8) ||| BitVec.setWidth 32 trafficClass.toBitVec) <<< 20) |||
    BitVec.setWidth 32 flowLabel

/-- The fixed header with a payload length of 0. The hop limit is a field of one byte. -/
def headerBytes {E : Type} (host : ByteOrder) (dgram : IPv6Datagram E) : List UInt8 :=
  bigEndian 4 (flowinfo dgram.trafficClass dgram.flowLabel).toNat ++ bigEndian 2 0 ++
    [dgram.transportProtocol, UInt8.ofBitVec ((htons host dgram.hopLimit).setWidth 8)] ++
    addressBytes dgram.srcAddress ++ addressBytes dgram.destAddress

/-- The bytes of an extension header behind its type and its length. -/
def serializeExtensionData (extHdr : IPv6ExtensionHeader) (b : Buffer) : Except Fault Buffer :=
  match extHdr with
  | .hopByHop byteLength | .destination byteLength | .authentication byteLength
  | .encapsulatingSecurityPayload byteLength =>
    .ok (b.fillNBytes (BitVec.ofNat 32 byteLength - 2).toNat 0)
  | .routing routingType segmentsLeft address =>
    .ok (((b.writeByte routingType).writeByte segmentsLeft).writeNBytes
      (address.flatMap addressBytes) |>.fillNBytes 4 0)
  | .fragment fragmentOffset moreFragments identification => do
    ASSERT (fragmentOffset &&& 7 = 0) "(hdr->getFragmentOffset() & 7) == 0"
    return (b.writeUint16 (fragmentOffset ||| (if moreFragments then 1 else 0)).toNat).writeUint32
      identification.toNat
  | .other extensionType _ =>
    .error (.cRuntimeError s!"Unknown IPv6 extension header {extensionType.toNat}")

/-- Each header puts its type into the place that the one before has left for it. -/
def serializeExtensionHeaders (transportProtocol : UInt8) :
    List IPv6ExtensionHeader → ℕ → Buffer → Except Fault Buffer
  | [], _, b => .ok b
  | extHdr :: rest, nextHdrCodePos, b => do
    let b := b.writeByteTo nextHdrCodePos extHdr.getExtensionType
    let nextHdrCodePos := b.getPos
    let b := b.writeByte transportProtocol
    ASSERT (extHdr.getByteLength % 8 = 0) "(extHdr->getByteLength() & 7) == 0"
    let b := b.writeByte (UInt8.ofNat (extHdr.getByteLength / 8) - 1)
    let b ← serializeExtensionData extHdr b
    ASSERT (nextHdrCodePos + extHdr.getByteLength = b.getPos)
      "nextHdrCodePos + extHdr->getByteLength() == b.getPos()"
    serializeExtensionHeaders transportProtocol rest nextHdrCodePos b

/-- The payload length counts the encapsulated packet only. -/
def serialize (host : ByteOrder) (dgram : IPv6Datagram (Option ByteArray)) (b : Buffer) :
    Except Fault Buffer := do
  let start := b.getPos
  if b.getRemainingSize < IPv6_HEADER_BYTES then
    throw .nullPointer
  else
    let b := b.writeNBytes (headerBytes host dgram)
    let b ← serializeExtensionHeaders dgram.transportProtocol dgram.extensionHeader (start + 6) b
    let encapStart := b.getPos
    let b ← SerializerBase.lookupAndSerialize dgram.encapsulatedPacket b
    return b.writeUint16To (start + 4) (b.getPos - encapStart)

open Reading

def readIPv6Address : Reading IPv6Address := do
  let d0 ← readUint32
  let d1 ← readUint32
  let d2 ← readUint32
  let d3 ← readUint32
  return ⟨BitVec.ofNat 32 d0, BitVec.ofNat 32 d1, BitVec.ofNat 32 d2, BitVec.ofNat 32 d3⟩

/-- The fixed header, with the payload length. -/
def readHeader (host : ByteOrder) : Reading (IPv6Datagram Unit × ℕ) := do
  let flow ← readUint32
  let packetLength ← readUint16
  let transportProtocol ← readByte
  let hlim ← readByte
  let srcAddress ← readIPv6Address
  let destAddress ← readIPv6Address
  let dest : IPv6Datagram Unit :=
    { srcAddress := srcAddress
      destAddress := destAddress
      trafficClass := UInt8.ofBitVec ((BitVec.ofNat 32 flow >>> 20).setWidth 8)
      flowLabel := (BitVec.ofNat 32 flow).setWidth 20
      hopLimit := ntohs host (hlim.toBitVec.setWidth 16)
      transportProtocol := transportProtocol
      extensionHeader := []
      encapsulatedPacket := () }
  return (dest, packetLength)

/-- The datagram with another packet in it. -/
def encapsulate {E F : Type} (dgram : IPv6Datagram E) (encapPacket : F) : IPv6Datagram F :=
  ⟨dgram.srcAddress, dgram.destAddress, dgram.trafficClass, dgram.flowLabel, dgram.hopLimit,
    dgram.transportProtocol, dgram.extensionHeader, encapPacket⟩

/-- Extension headers are not read. -/
def deserialize {P : Type} (host : ByteOrder) (raw : ByteArray → P)
    (registry : SerializerBase.Registry P) :
    Reading (Parsed (IPv6Datagram (Option (Parsed P)))) := do
  let b ← get
  ASSERT (b.getPos = 0) "b.getPos() == 0"
  if b.getRemainingSize < IPv6_HEADER_BYTES then
    throw .nullPointer
  else
    let (dest, packetLength) ← readHeader host
    if packetLength + IPv6_HEADER_BYTES > b.getBufSize then
      modify Buffer.setError
    let encapPacket ← SerializerBase.lookupAndDeserialize raw registry dest.transportProtocol.toNat
      packetLength
    return ⟨encapsulate dest encapPacket,
      IPv6_HEADER_BYTES + (encapPacket.map (·.byteLength)).getD 0, false⟩

end IPv6Serializer

end serializer

end inet

namespace inet.serializer.IPv6Serializer

open Buffer Reading SerializerBase

theorem flowinfo_flowLabel (trafficClass : UInt8) (flowLabel : BitVec 20) :
    (flowinfo trafficClass flowLabel).setWidth 20 = flowLabel := by
  ext i hi
  simp [flowinfo]

theorem flowinfo_trafficClass (trafficClass : UInt8) (flowLabel : BitVec 20) :
    (flowinfo trafficClass flowLabel >>> 20).setWidth 8 = trafficClass.toBitVec := by
  ext i hi
  simp only [flowinfo, BitVec.getElem_setWidth]
  interval_cases i <;> simp

theorem htons_toNat (value : BitVec 16) :
    (htons .littleEndian value).toNat = 256 * (value.toNat % 256) + value.toNat / 256 := by
  have hlt := value.isLt
  have hlow : (value <<< 8).toNat = 2 ^ 8 * (value.toNat % 256) := by
    rw [BitVec.toNat_shiftLeft, Nat.shiftLeft_eq]
    omega
  have hhigh : (value >>> 8).toNat = value.toNat / 256 := by
    rw [BitVec.toNat_ushiftRight, Nat.shiftRight_eq_div_pow]
  rw [htons, BitVec.toNat_or, hlow, hhigh, ← Nat.two_pow_add_eq_or_of_lt (by omega)]

/-- The hop limit that comes back through a field of one byte. -/
def receivedHopLimit (host : ByteOrder) (hopLimit : BitVec 16) : BitVec 16 :=
  ntohs host ((UInt8.ofBitVec ((htons host hopLimit).setWidth 8)).toBitVec.setWidth 16)

/-- Where the bytes are swapped, the field gets the high byte, and gives it back as such. -/
theorem receivedHopLimit_eq_iff {host : ByteOrder} {hopLimit : BitVec 16} :
    receivedHopLimit host hopLimit = hopLimit ↔
      match host with
      | .littleEndian => hopLimit.toNat % 256 = 0
      | .bigEndian => hopLimit.toNat < 256 := by
  have hlt := hopLimit.isLt
  cases host with
  | littleEndian =>
    have hreceived : (receivedHopLimit .littleEndian hopLimit).toNat =
        256 * (hopLimit.toNat / 256) := by
      have hlow : (256 * (hopLimit.toNat % 256) + hopLimit.toNat / 256) % 2 ^ 8 =
          hopLimit.toNat / 256 := by omega
      rw [receivedHopLimit, ntohs, htons_toNat, BitVec.toNat_setWidth, BitVec.toNat_setWidth,
        htons_toNat, hlow]
      omega
    rw [← BitVec.toNat_inj, hreceived]
    simp only
    omega
  | bigEndian =>
    have hreceived : (receivedHopLimit .bigEndian hopLimit).toNat = hopLimit.toNat % 256 := by
      rw [receivedHopLimit, ntohs, htons, BitVec.toNat_setWidth, BitVec.toNat_setWidth, htons]
      omega
    rw [← BitVec.toNat_inj, hreceived]
    simp only
    omega

theorem reads_readIPv6Address (address : IPv6Address) :
    Reads readIPv6Address (addressBytes address) address := by
  have hword : ∀ word : uint32, Reads readUint32 (bigEndian 4 word.toNat) word.toNat := by
    intro word
    have hlt : word.toNat < 256 ^ 4 := lt_of_lt_of_eq word.isLt (by norm_num)
    have hread := reads_readUint 4 word.toNat
    rwa [Nat.mod_eq_of_lt hlt] at hread
  have hbytes : addressBytes address = bigEndian 4 address.d0.toNat ++
      (bigEndian 4 address.d1.toNat ++ (bigEndian 4 address.d2.toNat ++
        (bigEndian 4 address.d3.toNat ++ []))) := rfl
  rw [hbytes]
  refine (hword address.d0).bind ?_
  refine (hword address.d1).bind ?_
  refine (hword address.d2).bind ?_
  refine (hword address.d3).bind ?_
  have haddress : (⟨BitVec.ofNat 32 address.d0.toNat, BitVec.ofNat 32 address.d1.toNat,
      BitVec.ofNat 32 address.d2.toNat, BitVec.ofNat 32 address.d3.toNat⟩ : IPv6Address) =
      address := by simp
  rw [haddress]
  exact Reads.pure address

section Bytes

variable {host : ByteOrder} {dgram : IPv6Datagram (Option ByteArray)} {payload : ByteArray}

/-- The bytes behind the payload length, without the payload. -/
def tailBytes (host : ByteOrder) (dgram : IPv6Datagram (Option ByteArray)) : List UInt8 :=
  [dgram.transportProtocol, UInt8.ofBitVec ((htons host dgram.hopLimit).setWidth 8)] ++
    addressBytes dgram.srcAddress ++ addressBytes dgram.destAddress

/-- A datagram without extension headers, with a given payload length. -/
def wireBytes (host : ByteOrder) (dgram : IPv6Datagram (Option ByteArray)) (payloadLength : ℕ)
    (payload : ByteArray) : List UInt8 :=
  bigEndian 4 (flowinfo dgram.trafficClass dgram.flowLabel).toNat ++ bigEndian 2 payloadLength ++
    (tailBytes host dgram ++ payload)

theorem tailBytes_length (host : ByteOrder) (dgram : IPv6Datagram (Option ByteArray)) :
    (tailBytes host dgram).length = 34 := rfl

theorem wireBytes_length (host : ByteOrder) (dgram : IPv6Datagram (Option ByteArray))
    (payloadLength : ℕ) (payload : ByteArray) :
    (wireBytes host dgram payloadLength payload).length = 40 + payload.length := by
  simp only [wireBytes, List.length_append, bigEndian_length, tailBytes_length]
  omega

/-- Without extension headers the payload length is that of the payload. -/
theorem serialize_eq {space : List UInt8} (hext : dgram.extensionHeader = [])
    (hpayload : dgram.encapsulatedPacket = some payload)
    (hspace : 40 + payload.length ≤ space.length) :
    serialize host dgram (ofBytes space) =
      .ok ⟨wireBytes host dgram payload.length payload, space.drop (40 + payload.length), false⟩ := by
  have hheader : headerBytes host dgram =
      bigEndian 4 (flowinfo dgram.trafficClass dgram.flowLabel).toNat ++ bigEndian 2 0 ++
        tailBytes host dgram := by
    simp only [headerBytes, tailBytes, List.append_assoc]
  have hlength : (headerBytes host dgram).length = 40 := rfl
  have hfits : (headerBytes host dgram).length ≤ space.length := by omega
  have hrest : payload.length ≤ (space.drop (headerBytes host dgram).length).length := by
    rw [List.length_drop]
    omega
  have hlong : ¬(ofBytes space).getRemainingSize < IPv6_HEADER_BYTES := by
    simp only [ofBytes, getRemainingSize, IPv6_HEADER_BYTES]
    omega
  have hpatch := writeUint16To_before (bigEndian 4 (flowinfo dgram.trafficClass dgram.flowLabel).toNat)
    (tailBytes host dgram ++ payload) (space.drop (40 + payload.length)) 0 payload.length false
  rw [bigEndian_length] at hpatch
  rw [serialize, if_neg hlong, hext]
  simp only [serializeExtensionHeaders, hpayload, ofBytes, writeNBytes_eq _ _ _ _ hfits,
    List.nil_append]
  refine bind_eq_ok_iff.mpr ⟨_, rfl, bind_eq_ok_iff.mpr ⟨_, lookupAndSerialize_eq hrest, ?_⟩⟩
  have hcount : getPos ⟨headerBytes host dgram ++ payload,
      (space.drop (headerBytes host dgram).length).drop payload.length, false⟩ -
      getPos ⟨headerBytes host dgram, space.drop (headerBytes host dgram).length, false⟩ =
      payload.length := by
    simp [getPos]
  rw [hcount, List.drop_drop, hlength, hheader, List.append_assoc _ _ payload]
  exact congrArg Except.ok hpatch

theorem reads_readHeader (payloadLength : ℕ) :
    Reads (readHeader host)
      (bigEndian 4 (flowinfo dgram.trafficClass dgram.flowLabel).toNat ++
        (bigEndian 2 payloadLength ++ tailBytes host dgram))
      (⟨dgram.srcAddress, dgram.destAddress, dgram.trafficClass, dgram.flowLabel,
        receivedHopLimit host dgram.hopLimit, dgram.transportProtocol, [], ()⟩,
        payloadLength % 65536) := by
  have hbytes : tailBytes host dgram = [dgram.transportProtocol] ++
      ([UInt8.ofBitVec ((htons host dgram.hopLimit).setWidth 8)] ++
        (addressBytes dgram.srcAddress ++ (addressBytes dgram.destAddress ++ []))) := by
    simp [tailBytes]
  have hflow : BitVec.ofNat 32
      ((flowinfo dgram.trafficClass dgram.flowLabel).toNat % 256 ^ 4) =
      flowinfo dgram.trafficClass dgram.flowLabel := by
    have hlt : (flowinfo dgram.trafficClass dgram.flowLabel).toNat < 256 ^ 4 :=
      lt_of_lt_of_eq (flowinfo dgram.trafficClass dgram.flowLabel).isLt (by norm_num)
    rw [Nat.mod_eq_of_lt hlt, BitVec.ofNat_toNat, BitVec.setWidth_eq]
  rw [hbytes]
  refine (reads_readUint 4 _).bind ?_
  refine (reads_readUint 2 payloadLength).bind ?_
  refine (reads_readByte _).bind ?_
  refine (reads_readByte _).bind ?_
  refine (reads_readIPv6Address dgram.srcAddress).bind ?_
  refine (reads_readIPv6Address dgram.destAddress).bind ?_
  rw [hflow, flowinfo_flowLabel, flowinfo_trafficClass, UInt8.ofBitVec_toBitVec]
  exact Reads.pure _

variable {P : Type} {raw : ByteArray → P} {registry : Registry P}

theorem deserialize_eq {encapPacket : Option (Parsed P)} (hlength : payload.length < 65536)
    (hpacket : payloadPacket raw registry dgram.transportProtocol.toNat payload = .ok encapPacket) :
    ∃ rest, deserialize host raw registry (ofBytes (wireBytes host dgram payload.length payload)) =
      .ok (⟨⟨dgram.srcAddress, dgram.destAddress, dgram.trafficClass, dgram.flowLabel,
          receivedHopLimit host dgram.hopLimit, dgram.transportProtocol, [], encapPacket⟩,
        IPv6_HEADER_BYTES + (encapPacket.map (·.byteLength)).getD 0, false⟩, rest) := by
  have hsize : (ofBytes (wireBytes host dgram payload.length payload)).getBufSize =
      40 + payload.length := by
    rw [ofBytes, getBufSize, List.length_nil, Nat.zero_add, wireBytes_length]
  have hlong : ¬(ofBytes (wireBytes host dgram payload.length payload)).getRemainingSize <
      IPv6_HEADER_BYTES := by
    simp only [ofBytes, getRemainingSize, wireBytes_length, IPv6_HEADER_BYTES]
    omega
  have hheader := @reads_readHeader host dgram payload.length [] payload
  have hbytes : wireBytes host dgram payload.length payload =
      bigEndian 4 (flowinfo dgram.trafficClass dgram.flowLabel).toNat ++
        (bigEndian 2 payload.length ++ tailBytes host dgram) ++ payload := by
    simp only [wireBytes, List.append_assoc]
  rw [← hbytes, Nat.mod_eq_of_lt hlength] at hheader
  obtain ⟨rest, hrest⟩ := lookupAndDeserialize_eq hpacket
    ([] ++ (bigEndian 4 (flowinfo dgram.trafficClass dgram.flowLabel).toNat ++
      (bigEndian 2 payload.length ++ tailBytes host dgram)))
  refine ⟨rest, ?_⟩
  rw [deserialize, get_bind]
  refine bind_eq_ok.mpr ⟨(), _, rfl, ?_⟩
  rw [if_neg hlong]
  refine bind_eq_ok.mpr ⟨_, _, hheader, ?_⟩
  have hfits : ¬payload.length + IPv6_HEADER_BYTES >
      (ofBytes (wireBytes host dgram payload.length payload)).getBufSize := by
    rw [hsize, IPv6_HEADER_BYTES]
    omega
  simp only [hfits, if_false]
  exact bind_eq_ok.mpr ⟨_, _, hrest, rfl⟩

end Bytes

/-- The bytes at which the types of the extension headers and the upper-layer protocol stand. -/
def NextHeaders (transportProtocol : UInt8) (bytes : List UInt8) :
    List IPv6ExtensionHeader → ℕ → ℕ → Prop
  | [], nextHdrCodePos, _ => bytes[nextHdrCodePos]? = some transportProtocol
  | extHdr :: rest, nextHdrCodePos, start =>
    bytes[nextHdrCodePos]? = some extHdr.getExtensionType ∧
      NextHeaders transportProtocol bytes rest start (start + extHdr.getByteLength)

section RoundTrip

variable {P : Type} (host : ByteOrder) (raw : ByteArray → P) (registry : Registry P)
  (dgram : IPv6Datagram (Option ByteArray))

/-- The payload length covers everything behind the fixed header, the types of the extension
headers form a chain, and the datagram comes back with the packet of its payload. -/
def RoundTrip (space : List UInt8) : Prop :=
  ∃ written, serialize host dgram (ofBytes space) = .ok written ∧
    ofBigEndian ((written.before.drop 4).take 2) = written.before.length - IPv6_HEADER_BYTES ∧
    NextHeaders dgram.transportProtocol written.before dgram.extensionHeader 6 IPv6_HEADER_BYTES ∧
    ∃ payload encapPacket parsed rest, dgram.encapsulatedPacket = some payload ∧
      payloadPacket raw registry dgram.transportProtocol.toNat payload = .ok encapPacket ∧
      deserialize host raw registry (ofBytes written.before) = .ok (parsed, rest) ∧
      parsed.packet = encapsulate dgram encapPacket ∧ parsed.bitError = false

/-- There are no extension headers, the payload can be read and its length fits into 16 bits,
and the hop limit survives the byte swap. -/
def Restorable : Prop :=
  dgram.extensionHeader = [] ∧
    (∃ payload encapPacket, dgram.encapsulatedPacket = some payload ∧ payload.length < 65536 ∧
      payloadPacket raw registry dgram.transportProtocol.toNat payload = .ok encapPacket) ∧
    match host with
    | .littleEndian => dgram.hopLimit.toNat % 256 = 0
    | .bigEndian => dgram.hopLimit.toNat < 256

end RoundTrip

section Restorable

variable {P : Type} {host : ByteOrder} {raw : ByteArray → P} {registry : Registry P}
  {dgram : IPv6Datagram (Option ByteArray)} {space : List UInt8}

theorem deserialize_extensionHeader {b b' : Buffer}
    {parsed : Parsed (IPv6Datagram (Option (Parsed P)))}
    (hok : deserialize host raw registry b = .ok (parsed, b')) :
    parsed.packet.extensionHeader = [] := by
  rw [deserialize, get_bind] at hok
  obtain ⟨-, _, -, hok⟩ := bind_eq_ok.mp hok
  split at hok
  · cases hok
  · obtain ⟨⟨dest, packetLength⟩, _, hheader, hok⟩ := bind_eq_ok.mp hok
    have hdest : dest.extensionHeader = [] := by
      obtain ⟨flow, _, -, hheader⟩ := bind_eq_ok.mp hheader
      obtain ⟨length, _, -, hheader⟩ := bind_eq_ok.mp hheader
      obtain ⟨protocol, _, -, hheader⟩ := bind_eq_ok.mp hheader
      obtain ⟨hlim, _, -, hheader⟩ := bind_eq_ok.mp hheader
      obtain ⟨src, _, -, hheader⟩ := bind_eq_ok.mp hheader
      obtain ⟨dst, _, -, hheader⟩ := bind_eq_ok.mp hheader
      cases hheader
      rfl
    by_cases hlong : packetLength + IPv6_HEADER_BYTES > b.getBufSize
    · simp only [hlong, if_true] at hok
      obtain ⟨-, _, -, hok⟩ := bind_eq_ok.mp hok
      obtain ⟨encapPacket, _, -, hok⟩ := bind_eq_ok.mp hok
      cases hok
      exact hdest
    · simp only [hlong, if_false] at hok
      obtain ⟨encapPacket, _, -, hok⟩ := bind_eq_ok.mp hok
      cases hok
      exact hdest

/-- A datagram makes the round trip exactly when it can be restored. -/
theorem ipv6_roundTrip_iff (hspace : IPv6_HEADER_BYTES +
      ((dgram.extensionHeader.map (·.getByteLength)).sum +
        (dgram.encapsulatedPacket.map List.length).getD 0) ≤ space.length) :
    RoundTrip host raw registry dgram space ↔ Restorable host raw registry dgram := by
  have hwire : ∀ {payload : ByteArray}, dgram.extensionHeader = [] →
      dgram.encapsulatedPacket = some payload → 40 + payload.length ≤ space.length := by
    intro payload hext hpayload
    rw [hext, hpayload] at hspace
    simpa [IPv6_HEADER_BYTES] using hspace
  have hcovers : ∀ payload : ByteArray,
      ((wireBytes host dgram payload.length payload).drop 4).take 2 = bigEndian 2 payload.length :=
    fun _ => rfl
  constructor
  · rintro ⟨written, hwritten, hcovered, -, payload, encapPacket, parsed, rest, hpayload, hpacket,
      hdeserialize, hparsed, -⟩
    have hext : dgram.extensionHeader = [] := by
      have hnone := deserialize_extensionHeader hdeserialize
      rwa [hparsed] at hnone
    rw [serialize_eq hext hpayload (hwire hext hpayload)] at hwritten
    cases hwritten
    rw [hcovers, ofBigEndian_bigEndian, wireBytes_length, IPv6_HEADER_BYTES] at hcovered
    have hlength : payload.length < 65536 := by omega
    refine ⟨hext, ⟨payload, encapPacket, hpayload, hlength, hpacket⟩, ?_⟩
    obtain ⟨rest', hread⟩ := @deserialize_eq host _ _ _ _ _ _ hlength hpacket
    rw [hread] at hdeserialize
    cases hdeserialize
    exact receivedHopLimit_eq_iff.mp (congrArg IPv6Datagram.hopLimit hparsed)
  · rintro ⟨hext, ⟨payload, encapPacket, hpayload, hlength, hpacket⟩, hhop⟩
    obtain ⟨rest, hread⟩ := @deserialize_eq host _ _ _ _ _ _ hlength hpacket
    refine ⟨_, serialize_eq hext hpayload (hwire hext hpayload), ?_, ?_, payload, encapPacket, _,
      rest, hpayload, hpacket, hread, ?_, rfl⟩
    · rw [hcovers, ofBigEndian_bigEndian, wireBytes_length, IPv6_HEADER_BYTES]
      omega
    · rw [hext]
      rfl
    · rw [receivedHopLimit_eq_iff.mpr hhop, encapsulate, hext]

end Restorable

/-- A datagram with a hop limit of 0, on a machine that swaps bytes. -/
theorem ipv6_roundTrip_iff_local :
    RoundTrip .littleEndian (fun data : ByteArray => data) (fun _ => none)
        ⟨⟨1, 2, 3, 4⟩, ⟨5, 6, 7, 8⟩, 0, 7, 0, 59, [], some [1, 2, 3]⟩ (List.replicate 43 0) ↔
      Restorable .littleEndian (fun data : ByteArray => data) (fun _ => none)
        ⟨⟨1, 2, 3, 4⟩, ⟨5, 6, 7, 8⟩, 0, 7, 0, 59, [], some [1, 2, 3]⟩ :=
  ipv6_roundTrip_iff (by decide)

/-- A hop limit of 64 comes back as 0. -/
theorem not_roundTrip_hopLimit : ∃ written parsed rest,
    serialize .littleEndian ⟨⟨1, 2, 3, 4⟩, ⟨5, 6, 7, 8⟩, 0, 7, 64, 59, [], some [1, 2, 3]⟩
      (ofBytes (List.replicate 43 0)) = .ok written ∧
    deserialize .littleEndian (fun data : ByteArray => data) (fun _ => none)
      (ofBytes written.before) = .ok (parsed, rest) ∧ parsed.packet.hopLimit = 0 ∧
    ¬RoundTrip .littleEndian (fun data : ByteArray => data) (fun _ => none)
      ⟨⟨1, 2, 3, 4⟩, ⟨5, 6, 7, 8⟩, 0, 7, 64, 59, [], some [1, 2, 3]⟩ (List.replicate 43 0) := by
  have hread : ((serialize .littleEndian
      ⟨⟨1, 2, 3, 4⟩, ⟨5, 6, 7, 8⟩, 0, 7, 64, 59, [], some [1, 2, 3]⟩
      (ofBytes (List.replicate 43 0))).toOption.bind fun written =>
        (deserialize .littleEndian (fun data : ByteArray => data) (fun _ => none)
          (ofBytes written.before)).toOption.map (·.1.packet.hopLimit)) = some 0 := by
    decide +kernel
  obtain ⟨written, hwritten, hread⟩ := Option.bind_eq_some_iff.mp hread
  obtain ⟨⟨parsed, rest⟩, hparsed, hzero⟩ := Option.map_eq_some_iff.mp hread
  rw [toOption_eq_some] at hwritten hparsed
  refine ⟨written, parsed, rest, hwritten, hparsed, hzero, ?_⟩
  rintro ⟨written', hwritten', -, -, payload, encapPacket, parsed', rest', -, -, hparsed', hsame, -⟩
  rw [hwritten] at hwritten'
  cases hwritten'
  rw [hparsed] at hparsed'
  cases hparsed'
  rw [hsame] at hzero
  have hne : (64 : BitVec 16) ≠ 0 := by decide
  exact hne hzero

end inet.serializer.IPv6Serializer
