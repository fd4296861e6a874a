import LoRaInet.Container.Sweep
import LoRaInet.LoRaApp.SimpleLoRaApp
import Mathlib.Algebra.Order.Field.Basic

open omnetpp container

namespace inet.physicallayer

/-- `LoRaReception` with its power, as the analog model reads it. -/
structure ReceivedSignal (W : Type) [Zero W] [LE W] where
  startTime : SimTime
  endTime : SimTime
  LoRaCF : ℚ
  LoRaBW : ℚ
  power : W
  startTime_le : startTime ≤ endTime
  power_nonneg : 0 ≤ power

structure LoRaBandListening where
  startTime : SimTime
  endTime : SimTime
  LoRaCF : ℚ
  LoRaSF : Int
  LoRaBW : ℚ

structure ScalarNoise (W : Type) where
  startTime : SimTime
  endTime : SimTime
  carrierFrequency : ℚ
  bandwidth : ℚ
  powerChanges : OrderedMap SimTime W

/-- `SimTime::getMaxTime` with the resolution of a picosecond. -/
def getMaxTime : SimTime := 9223372036854775807 / 1000000000000

/-- The powers in dBm for a spreading factor and a bandwidth. -/
def backgroundNoisedBm (LoRaSF : Int) (LoRaBW : ℚ) : ℚ :=
  let ofBW (at125 at250 at500 : ℚ) : ℚ :=
    if LoRaBW = 125000 then at125
    else if LoRaBW = 250000 then at250
    else if LoRaBW = 500000 then at500
    else -126.5
  if LoRaSF = 6 then ofBW (-121) (-118) (-111)
  else if LoRaSF = 7 then ofBW (-124) (-122) (-116)
  else if LoRaSF = 8 then ofBW (-127) (-125) (-119)
  else if LoRaSF = 9 then ofBW (-130) (-128) (-122)
  else if LoRaSF = 10 then ofBW (-133) (-130) (-125)
  else if LoRaSF = 11 then ofBW (-135) (-132) (-128)
  else if LoRaSF = 12 then ofBW (-137) (-135) (-129)
  else -126.5

/-- `ScalarAnalogModelBase::areOverlappingBands`. -/
def areOverlappingBands (carrierFrequency1 bandwidth1 carrierFrequency2 bandwidth2 : ℚ) : Bool :=
  carrierFrequency1 + bandwidth1 / 2 ≥ carrierFrequency2 - bandwidth2 / 2 ∧
    carrierFrequency1 - bandwidth1 / 2 ≤ carrierFrequency2 + bandwidth2 / 2

namespace LoRaAnalogModel

section ComputeNoise

variable {W : Type} [Field W] [LinearOrder W] (dBm2mW : ℚ → W) (listening : LoRaBandListening)

/-- The conversion of powers is the `pow` of the C library. -/
def getBackgroundNoisePower : W :=
  dBm2mW (backgroundNoisedBm listening.LoRaSF listening.LoRaBW) / 1000

/-- The variables of the loop over the interfering receptions. -/
structure Interference (W : Type) where
  noiseStartTime : SimTime := getMaxTime
  noiseEndTime : SimTime := 0
  powerChanges : OrderedMap SimTime W := .empty

def addReception (interference : Interference W)
    (reception : ReceivedSignal W) : Except Fault (Interference W) :=
  if listening.LoRaCF = reception.LoRaCF ∧ listening.LoRaBW = reception.LoRaBW then
    .ok {
      noiseStartTime := if reception.startTime < interference.noiseStartTime then reception.startTime
        else interference.noiseStartTime
      noiseEndTime := if reception.endTime > interference.noiseEndTime then reception.endTime
        else interference.noiseEndTime
      powerChanges := (interference.powerChanges.add reception.startTime reception.power).add
        reception.endTime (-reception.power) }
  else if areOverlappingBands listening.LoRaCF listening.LoRaBW reception.LoRaCF reception.LoRaBW then
    .error (.cRuntimeError "Overlapping bands are not supported")
  else .ok interference

/-- `insert` leaves an entry that is there as it is. -/
def insert (m : OrderedMap SimTime W) (t : SimTime) (power : W) : OrderedMap SimTime W :=
  if (m.lookup t).isSome then m else m.assign t power

def backgroundNoisePowerChanges : OrderedMap SimTime W :=
  let noisePower := getBackgroundNoisePower dBm2mW listening
  insert (insert .empty listening.startTime noisePower) listening.endTime (-noisePower)

def computeNoise (interferingReceptions : List (ReceivedSignal W)) :
    Except Fault (ScalarNoise W) := do
  let interference ← interferingReceptions.foldlM (addReception listening) {}
  return {
    startTime := interference.noiseStartTime
    endTime := interference.noiseEndTime
    carrierFrequency := listening.LoRaCF
    bandwidth := listening.LoRaBW
    powerChanges :=
      interference.powerChanges.addAll (backgroundNoisePowerChanges dBm2mW listening).entries }

end ComputeNoise

end LoRaAnalogModel

/-- The loop goes over the changes in the order of their times. -/
def ScalarNoise.computeMaxPower {W : Type} [Field W] [LinearOrder W] (noise : ScalarNoise W)
    (startTime endTime : SimTime) : W :=
  peak startTime endTime 0 0 noise.powerChanges.entries

/-- `ScalarSNIR::computeMin`. -/
def ScalarSNIR.computeMin {W : Type} [Field W] [LinearOrder W] (reception : ReceivedSignal W)
    (noise : ScalarNoise W) : W :=
  reception.power / noise.computeMaxPower reception.startTime reception.endTime

/-- The members that no constructor or `initialize` sets are 0 Hz; the spreading factor starts with any
value. -/
structure LoRaReceiver where
  iAmGateway : Bool
  LoRaCF : ℚ := 0
  LoRaSF : Int
  LoRaBW : ℚ := 0

def LoRaReceiver.initialize (parentClassName : String) (LoRaSF : Int) : LoRaReceiver :=
  { iAmGateway := parentClassName = "inet::physicallayer::LoRaGWRadio", LoRaSF }

def LoRaReceiver.createListening (receiver : LoRaReceiver) (loRaApp : SimpleLoRaApp)
    (startTime endTime : SimTime) : LoRaBandListening :=
  if receiver.iAmGateway = false then
    { startTime, endTime, LoRaCF := loRaApp.loRaCF, LoRaSF := loRaApp.loRaSF, LoRaBW := loRaApp.loRaBW }
  else
    { startTime, endTime, LoRaCF := receiver.LoRaCF, LoRaSF := receiver.LoRaSF, LoRaBW := receiver.LoRaBW }

end inet.physicallayer
