import LoRaInet.Common.ByteArray
import LoRaInet.Common.Serializer.TCPIPchecksum

open omnetpp

namespace inet.serializer

/-- A packet that was read, with its length and its error flag. -/
structure Parsed (P : Type) where
  packet : P
  byteLength : ℕ
  bitError : Bool

variable {P : Type}

def Parsed.setBitError (parsed : Parsed P) : Parsed P := { parsed with bitError := true }

namespace ByteArraySerializer

def serialize (data : ByteArray) (byteLength : ℕ) (b : Buffer) : Buffer :=
  let wl := min byteLength b.getRemainingSize
  let copied := data.copyDataToBuffer wl 0
  (b.writeNBytes copied).fillNBytes (byteLength - copied.length) 0x3F

/-- All remaining bytes; no packet without any. -/
def deserialize (raw : ByteArray → P) : Reading (Option (Parsed P)) := do
  let b ← get
  let bytes := b.after
  if bytes.length = 0 then return none
  let _ ← Reading.accessNBytes bytes.length
  return some ⟨raw bytes, bytes.length, false⟩

end ByteArraySerializer

namespace SerializerBase

variable {P : Type} (raw : ByteArray → P)

/-- What could not be read becomes raw bytes. -/
def deserializeOrBytes (deserialize : Reading (Option (Parsed P))) :
    Reading (Option (Parsed P)) := do
  let start ← get
  match ← deserialize with
  | some parsed => return some parsed
  | none =>
    Reading.seek start.getPos
    ByteArraySerializer.deserialize raw

/-- A packet without an error is as long as what was taken from the buffer. -/
def checkLength (startPos : ℕ) (parsed : Parsed P) : Reading (Option (Parsed P)) := do
  let b ← get
  if !parsed.bitError && !b.errorFound && b.getPos - startPos ≠ parsed.byteLength then
    throw (.cRuntimeError "deserializer error: packet length is not the deserialized length")
  return some (if b.errorFound then parsed.setBitError else parsed)

def deserializePacket (deserialize : Reading (Option (Parsed P))) :
    Reading (Option (Parsed P)) := do
  let start ← get
  if start.getRemainingSize = 0 then return none
  match ← deserializeOrBytes raw deserialize with
  | none => throw (.cRuntimeError "ASSERT: Condition 'pkt' does not hold")
  | some parsed => checkLength start.getPos parsed

/-- The deserializers that are registered for the protocols of a group. -/
abbrev Registry (P : Type) := ℕ → Option (Reading (Option (Parsed P)))

/-- A protocol for which nothing is registered is read as bytes. -/
def lookupDeserializer (registry : Registry P) (id : ℕ) : Reading (Option (Parsed P)) :=
  match registry id with
  | some deserialize => deserialize
  | none => ByteArraySerializer.deserialize raw

/-- The packet in at most `maxLength` of the bytes that are left. -/
def lookupAndDeserialize (registry : Registry P) (id maxLength : ℕ) :
    Reading (Option (Parsed P)) := fun b => do
  let (encapPacket, subBuffer) ←
    deserializePacket raw (lookupDeserializer raw registry id) (b.sub maxLength)
  let (_, b) ← Reading.accessNBytes subBuffer.getPos b
  return (encapPacket, b)

/-- A raw packet, which is always written as bytes, in a sub-buffer of its own. -/
def lookupAndSerialize (encapPacket : Option ByteArray) (b : Buffer) : Except Fault Buffer := do
  match encapPacket with
  | none => throw (.cRuntimeError "ASSERT: Condition 'pkt' does not hold")
  | some data =>
    let subBuffer := ByteArraySerializer.serialize data data.length (b.sub b.getRemainingSize)
    if !subBuffer.errorFound && subBuffer.getPos ≠ data.length then
      throw (.cRuntimeError "serializer error: packet length is not the serialized length")
    else
      return b.join subBuffer

end SerializerBase

open Reading

variable {raw : ByteArray → P}

open ByteArraySerializer

theorem ByteArraySerializer.deserialize_raw {parsed : Parsed P}
    {b b' : Buffer} (hok : deserialize raw b = .ok (some parsed, b')) :
    ∃ data, parsed.packet = raw data := by
  rw [deserialize, get_bind] at hok
  split at hok
  · cases hok
  · obtain ⟨_, _, -, hok⟩ := bind_eq_ok.mp hok
    cases hok
    exact ⟨_, rfl⟩

theorem SerializerBase.checkLength_packet {startPos : ℕ} {parsed checked : Parsed P}
    {b b' : Buffer} (hok : checkLength startPos parsed b = .ok (some checked, b')) :
    checked.packet = parsed.packet := by
  rw [checkLength, get_bind] at hok
  split at hok
  · cases hok
  · cases hok
    split <;> rfl

theorem SerializerBase.deserializePacket_raw {parsed : Parsed P} {b b' : Buffer}
    (hok : deserializePacket raw (deserialize raw) b = .ok (some parsed, b')) :
    ∃ data, parsed.packet = raw data := by
  rw [deserializePacket, get_bind] at hok
  split at hok
  · cases hok
  · obtain ⟨found, _, hfound, hok⟩ := bind_eq_ok.mp hok
    cases found with
    | none => cases hok
    | some found =>
      rw [checkLength_packet hok]
      rw [deserializeOrBytes, get_bind] at hfound
      obtain ⟨first, _, hfirst, hsecond⟩ := bind_eq_ok.mp hfound
      cases first with
      | some first =>
        cases hsecond
        exact deserialize_raw hfirst
      | none =>
        obtain ⟨_, _, -, hsecond⟩ := bind_eq_ok.mp hsecond
        exact deserialize_raw hsecond

open Buffer

theorem SerializerBase.lookupAndSerialize_eq {data before after : List UInt8}
    (h : data.length ≤ after.length) :
    lookupAndSerialize (some data) ⟨before, after, false⟩ =
      .ok ⟨before ++ data, after.drop data.length, false⟩ := by
  have hcopy : ByteArray.copyDataToBuffer data (min data.length after.length) 0 = data := by
    rw [ByteArray.copyDataToBuffer_eq, List.drop_zero, min_eq_left h, List.take_of_length_le le_rfl]
  have hwritten : serialize data data.length
      (sub ⟨before, after, false⟩ after.length) = ⟨data, after.drop data.length, false⟩ := by
    have hsize : (sub ⟨before, after, false⟩ after.length).getRemainingSize =
        after.length := by simp [sub, getRemainingSize]
    rw [serialize, hsize, hcopy, Nat.sub_self]
    simp only [fillNBytes, List.replicate_zero, writeNBytes, sub,
      List.take_length]
    rw [writeNBytes_eq _ _ _ _ h, List.nil_append]
  simp only [lookupAndSerialize, getRemainingSize, hwritten]
  simp [getPos, join, pure, Except.pure, h]

/-- What the deserializer of a protocol makes of a payload. -/
def SerializerBase.payloadPacket (raw : ByteArray → P) (registry : Registry P) (id : ℕ)
    (payload : ByteArray) : Except Fault (Option (Parsed P)) :=
  (deserializePacket raw (lookupDeserializer raw registry id) (Buffer.ofBytes payload)).map Prod.fst

theorem SerializerBase.lookupAndDeserialize_eq
    {registry : Registry P} {id : ℕ} {payload : ByteArray} {encapPacket : Option (Parsed P)}
    (h : payloadPacket raw registry id payload = .ok encapPacket) (before : List UInt8) :
    ∃ rest, lookupAndDeserialize raw registry id payload.length ⟨before, payload, false⟩ =
      .ok (encapPacket, rest) := by
  rw [payloadPacket] at h
  cases hread : deserializePacket raw (lookupDeserializer raw registry id)
      (ofBytes payload) with
  | error fault =>
    rw [hread] at h
    cases h
  | ok read =>
    rw [hread] at h
    cases h
    have hsub : sub ⟨before, payload, false⟩ payload.length = ofBytes payload := by
      rw [sub, List.take_length, ofBytes]
    have haccess : ∀ n, ∃ skipped rest,
        accessNBytes n ⟨before, payload, false⟩ = .ok (skipped, rest) := by
      intro n
      rw [accessNBytes]
      split <;> exact ⟨_, _, rfl⟩
    obtain ⟨skipped, rest, hskipped⟩ := haccess read.2.getPos
    refine ⟨rest, ?_⟩
    rw [lookupAndDeserialize, hsub, hread]
    change (accessNBytes read.2.getPos ⟨before, payload, false⟩ >>= fun r => _) = _
    rw [hskipped]
    rfl

end inet.serializer
