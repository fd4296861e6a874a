import LoRaInet.Kernel.FutureEventSet

open omnetpp

namespace inet.physicallayer

/-- `IRadioSignal::SignalPart`, from -1 on. -/
inductive SignalPart where
  | NONE | WHOLE | PREAMBLE | HEADER | DATA
  deriving DecidableEq

/-- `part + 1`; there is no part after the last. -/
def SignalPart.next : SignalPart → Option SignalPart
  | .NONE => some .WHOLE
  | .WHOLE => some .PREAMBLE
  | .PREAMBLE => some .HEADER
  | .HEADER => some .DATA
  | .DATA => none

/-- The times of an `Arrival`; a `TransmissionBase` has the same ones. -/
structure Arrival where
  startTime : SimTime
  endTime : SimTime
  preambleDuration : SimTime
  headerDuration : SimTime
  dataDuration : SimTime
  deriving DecidableEq

/-- The default branch of the two functions below. -/
def unknownSignalPart : Fault := .cRuntimeError "Unknown signal part: 'NONE'"

def Arrival.getStartTime (arrival : Arrival) : SignalPart → Except Fault SimTime
  | .WHOLE => .ok arrival.startTime
  | .PREAMBLE => .ok arrival.startTime
  | .HEADER => .ok (arrival.startTime + arrival.preambleDuration)
  | .DATA => .ok (arrival.endTime - arrival.dataDuration)
  | .NONE => .error unknownSignalPart

def Arrival.getEndTime (arrival : Arrival) : SignalPart → Except Fault SimTime
  | .WHOLE => .ok arrival.endTime
  | .PREAMBLE => .ok (arrival.startTime + arrival.preambleDuration)
  | .HEADER => .ok (arrival.endTime - arrival.dataDuration)
  | .DATA => .ok arrival.endTime
  | .NONE => .error unknownSignalPart

/-- `IRadio::RadioMode`. -/
inductive RadioMode where
  | OFF | SLEEP | RECEIVER | TRANSMITTER | TRANSCEIVER | SWITCHING
  deriving DecidableEq

def isReceiverMode (radioMode : RadioMode) : Bool :=
  radioMode = .RECEIVER ∨ radioMode = .TRANSCEIVER

end inet.physicallayer
