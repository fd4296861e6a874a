import LoRaInet.LoRa.Messages
import LoRaInet.PhysicalLayer.Signal

open omnetpp

namespace inet.physicallayer

structure Coord where
  x : ℚ := 0
  y : ℚ := 0
  z : ℚ := 0
  deriving DecidableEq

/-- `LoRaTransmission`. The transmitter is the identity of a radio, and the
power is in dBm, as it is in the frame. -/
structure LoRaTransmission where
  id : Nat
  transmitter : Nat
  startTime : SimTime
  endTime : SimTime
  preambleDuration : SimTime
  headerDuration : SimTime
  dataDuration : SimTime
  startPosition : Coord
  endPosition : Coord
  LoRaTP : ℚ
  LoRaCF : ℚ
  LoRaSF : Int
  LoRaBW : ℚ
  LoRaCR : Int
  deriving DecidableEq

namespace LoRaTransmitter

/-- The number of symbols of the payload; the division is one of integers. -/
def payloadSymbNb (payloadBytes LoRaSF LoRaCR : Int) : Int :=
  8 + max (((8 * payloadBytes - 4 * LoRaSF + 28 + 16 - 20 * 0).tdiv (4 * (LoRaSF - 2 * 0))) *
    (LoRaCR + 4)) 0

/-- The duration of a symbol, in milliseconds. -/
def Tsym (frame : LoRaMacFrame) : ℚ := (2 : ℚ) ^ frame.LoRaSF / (frame.LoRaBW / 1000)

def Tpreamble (frame : LoRaMacFrame) : SimTime :=
  let nPreamble := 8
  (nPreamble + 17 / 4) * Tsym frame / 1000

variable (iAmGateway : Bool)

/-- The header and the payload get half of the symbols each. -/
def Tpayload (frame : LoRaMacFrame) : SimTime :=
  let payloadBytes := if iAmGateway then 15 else 20
  1 / 2 * (8 + payloadSymbNb payloadBytes frame.LoRaSF frame.LoRaCR) * Tsym frame / 1000

def duration (frame : LoRaMacFrame) : SimTime :=
  Tpreamble frame + Tpayload iAmGateway frame + Tpayload iAmGateway frame

def createTransmission (id transmitter : Nat) (position : Coord)
    (frame : LoRaMacFrame) (startTime : SimTime) : LoRaTransmission where
  id
  transmitter
  startTime
  endTime := startTime + duration iAmGateway frame
  preambleDuration := Tpreamble frame
  headerDuration := Tpayload iAmGateway frame
  dataDuration := Tpayload iAmGateway frame
  startPosition := position
  endPosition := position
  LoRaTP := frame.LoRaTP
  LoRaCF := frame.LoRaCF
  LoRaSF := frame.LoRaSF
  LoRaBW := frame.LoRaBW
  LoRaCR := frame.LoRaCR

end LoRaTransmitter

end inet.physicallayer
