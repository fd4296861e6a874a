import Mathlib.Algebra.Order.Field.Rat

namespace inet

/-- `DevAddr`: the 32 bits of a LoRa device address. -/
structure DevAddr where
  address : BitVec 32
  deriving DecidableEq

/-- `getInt()` assigned to an `int`. -/
def DevAddr.getInt (addr : DevAddr) : Int := addr.address.toInt

/-- `L3Address`: the two words of a network address. -/
structure L3Address where
  hi : BitVec 64 := 0
  lo : BitVec 64 := 0
  deriving DecidableEq

inductive AppPacketType where
  | JOIN_REQUEST | JOIN_REPLY | DATA | TXCONFIG
  deriving DecidableEq

/-- `LoRaOptions`, with the defaults of the message definition. -/
structure LoRaOptions where
  LoRaTP : ℚ := -1
  LoRaCF : ℚ := -1
  LoRaSF : Int := -1
  LoRaBW : ℚ := -1
  LoRaCR : Int := -1
  UseHeader : Bool := true
  ADRACKReq : Bool := false
  deriving DecidableEq

/-- `LoRaAppPacket`. The type is `none` until it is set: the field starts as 0,
which is no enumerator. -/
structure LoRaAppPacket where
  msgType : Option AppPacketType := none
  sampleMeasurement : Int := 0
  options : LoRaOptions := {}
  deriving DecidableEq

/-- `LoRaMacFrame` with the application packet it encapsulates. -/
structure LoRaMacFrame where
  transmitterAddress : DevAddr := ⟨0⟩
  receiverAddress : DevAddr := ⟨0⟩
  sequenceNumber : Int := 0
  LoRaTP : ℚ := 0
  LoRaCF : ℚ := 0
  LoRaSF : Int := 0
  LoRaBW : ℚ := 0
  LoRaCR : Int := 0
  LoRaUseHeader : Bool := false
  RSSI : ℚ := 0
  SNIR : ℚ := 0
  encapsulatedPacket : LoRaAppPacket := {}
  deriving DecidableEq

/-- `LoRaMacControlInfo`, with the defaults of a generated message class. -/
structure LoRaMacControlInfo where
  src : DevAddr := ⟨0⟩
  dest : DevAddr := ⟨0⟩
  LoRaTP : ℚ := 0
  LoRaCF : ℚ := 0
  LoRaSF : Int := 0
  LoRaBW : ℚ := 0
  LoRaCR : Int := 0
  LoRaUseHeader : Bool := false

def DevAddr.BROADCAST_ADDRESS : DevAddr := ⟨0xffffffff⟩

/-- `LoRaMac::encapsulate`. -/
def LoRaMac.encapsulate (address : DevAddr) (msg : LoRaAppPacket) : LoRaMacFrame :=
  { transmitterAddress := address, encapsulatedPacket := msg }

/-- The frame that `LoRaMac::handleUpperPacket` queues for a packet of the
application. -/
def LoRaMac.handleUpperPacket (address : DevAddr) (sequenceNumber : Int) (msg : LoRaAppPacket)
    (cInfo : LoRaMacControlInfo) : LoRaMacFrame :=
  { LoRaMac.encapsulate address msg with
    LoRaTP := cInfo.LoRaTP
    LoRaCF := cInfo.LoRaCF
    LoRaSF := cInfo.LoRaSF
    LoRaBW := cInfo.LoRaBW
    LoRaCR := cInfo.LoRaCR
    sequenceNumber := sequenceNumber
    receiverAddress := DevAddr.BROADCAST_ADDRESS
    LoRaUseHeader := cInfo.LoRaUseHeader }

/-- What `PacketForwarder::processLoraMACPacket` sends on to the server. -/
def PacketForwarder.processLoraMACPacket (frame : LoRaMacFrame) (RSSI SNIR : ℚ) : LoRaMacFrame :=
  { frame with RSSI := RSSI, SNIR := SNIR }

end inet
