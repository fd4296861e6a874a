import LoRaInet.PhysicalLayer.Signal
import LoRaInet.Transition.Run

open omnetpp transition

namespace inet.physicallayer

/-- The self messages of the radio. A timer is a `cMessage` object with an
identity of its own; its kind is the signal part that ends with it. -/
inductive GWRadioTimer where
  | switchTimer
  | transmissionTimer (id : Nat) (kind : SignalPart) (transmission : Arrival)
  | receptionTimer (id : Nat) (kind : SignalPart) (arrival : Arrival)
  deriving DecidableEq

/-- The state of a gateway radio. Timers are referred to by their identity, as
by their address, whether they still exist or not. -/
structure LoRaGWRadio where
  radioMode : RadioMode
  nextRadioMode : RadioMode
  iAmTransmiting : Bool
  receptionTimer : Option Nat
  concurrentReceptions : List Nat
  concurrentTransmissions : List Nat
  LoRaGWRadioReceptionStarted_counter : Nat
  LoRaGWRadioReceptionFinishedCorrect_counter : Nat
  messageCount : Nat
  fes : FutureEventSet GWRadioTimer

namespace LoRaGWRadio

structure Parameters where
  iAmGateway : Bool := true
  separateTransmissionParts : Bool := false
  separateReceptionParts : Bool := false
  switchingTimes : RadioMode → RadioMode → SimTime := fun _ _ => 0
  warmupPeriod : SimTime := 0

/-- What the medium answers about a reception: whether the part that ends was
received, and whether the part that starts is attempted. -/
structure MediumAnswers where
  isReceptionSuccessful : Bool
  isReceptionAttempted : Bool

variable (par : Parameters) (s : LoRaGWRadio) (id : Nat)

/-- `concurrentReceptions.remove(timer)`, if the radio is a gateway's. -/
def removeReception : List Nat :=
  if par.iAmGateway then s.concurrentReceptions.filter (· ≠ id) else s.concurrentReceptions

def countReceptionStarted : LoRaGWRadio :=
  if par.warmupPeriod ≤ s.fes.simTime then
    { s with LoRaGWRadioReceptionStarted_counter := s.LoRaGWRadioReceptionStarted_counter + 1 }
  else s

/-- The block of `startReception` in which a reception may be attempted. -/
def attemptReception (startTime : SimTime) (isReceptionAttempted : Bool) : LoRaGWRadio :=
  if isReceiverMode s.radioMode ∧ startTime = s.fes.simTime ∧ s.iAmTransmiting = false ∧
      isReceptionAttempted then
    { s with
      concurrentReceptions :=
        if par.iAmGateway then s.concurrentReceptions ++ [id] else s.concurrentReceptions
      receptionTimer := some id }
  else s

def startReception (arrival : Arrival)
    (part : SignalPart) (isReceptionAttempted : Bool) : Except Fault LoRaGWRadio := do
  let startTime ← arrival.getStartTime part
  let s := (s.countReceptionStarted par).attemptReception par id startTime isReceptionAttempted
  let endTime ← arrival.getEndTime part
  let fes ← s.fes.scheduleAt endTime (.receptionTimer id part arrival)
  .ok { s with fes, radioMode := .TRANSCEIVER }

/-- The loop over `concurrentReceptions` that makes a timer it holds current. -/
def makeCurrent : LoRaGWRadio :=
  if par.iAmGateway ∧ id ∈ s.concurrentReceptions then { s with receptionTimer := some id } else s

/-- The radio lets a reception go. -/
def dropReception : LoRaGWRadio :=
  { s with receptionTimer := none, concurrentReceptions := s.removeReception par id }

/-- The guard under which `continueReception` and `endReception` take a timer
for a reception of theirs. -/
def IsReceiving (endTime : SimTime) : Prop :=
  s.receptionTimer = some id ∧ isReceiverMode s.radioMode ∧ endTime = s.fes.simTime ∧
    s.iAmTransmiting = false
deriving Decidable

/-- The block of `continueReception` under that guard. -/
def judgeParts (answers : MediumAnswers) : LoRaGWRadio :=
  let s := if answers.isReceptionSuccessful then s else s.dropReception par id
  if answers.isReceptionAttempted then s else s.dropReception par id

variable (kind : SignalPart)

def continueReception (arrival : Arrival) (answers : MediumAnswers) : Except Fault LoRaGWRadio := do
  let s := s.makeCurrent par id
  let previousEndTime ← arrival.getEndTime kind
  let s := if s.IsReceiving id previousEndTime then s.judgeParts par id answers else s
  match kind.next with
  | none => .error unknownSignalPart
  | some nextPart =>
    let endTime ← arrival.getEndTime nextPart
    let fes ← s.fes.scheduleAt endTime (.receptionTimer id nextPart arrival)
    .ok { s with fes, radioMode := .TRANSCEIVER }

def countReceptionFinished (isReceptionSuccessful : Bool) : LoRaGWRadio :=
  if isReceptionSuccessful ∧ par.warmupPeriod ≤ s.fes.simTime then
    { s with LoRaGWRadioReceptionFinishedCorrect_counter :=
      s.LoRaGWRadioReceptionFinishedCorrect_counter + 1 }
  else s

/-- The timer is deleted at the end: it is no longer scheduled, and its address
may only be left in the two fields. -/
def endReception (arrival : Arrival) (isReceptionSuccessful : Bool) : LoRaGWRadio :=
  let s := s.makeCurrent par id
  let s := if s.IsReceiving id arrival.endTime then
    (s.countReceptionFinished par isReceptionSuccessful).dropReception par id else s
  { s with radioMode := .TRANSCEIVER }

/-- `handleReceptionTimer` of the base class, which looks at the kind. -/
def handleReceptionTimer (arrival : Arrival) (answers : MediumAnswers) : Except Fault LoRaGWRadio :=
  match kind with
  | .WHOLE | .DATA => .ok (s.endReception par id arrival answers.isReceptionSuccessful)
  | .PREAMBLE | .HEADER => s.continueReception par id kind arrival answers
  | .NONE => .error (.cRuntimeError "Unknown self message")

def handleLowerPacket (arrival : Arrival)
    (isReceptionAttempted : Bool) : Except Fault LoRaGWRadio :=
  { s with messageCount := s.messageCount + 1 }.startReception par s.messageCount arrival
    (if par.separateReceptionParts then .PREAMBLE else .WHOLE) isReceptionAttempted

variable (transmission : Arrival)

def startTransmission (part : SignalPart) : Except Fault LoRaGWRadio :=
  if s.iAmTransmiting = false then do
    let endTime ← transmission.getEndTime part
    let fes ← s.fes.scheduleAt endTime (.transmissionTimer s.messageCount part transmission)
    .ok { s with fes, iAmTransmiting := true, messageCount := s.messageCount + 1 }
  else .ok s

def handleUpperPacket : Except Fault LoRaGWRadio :=
  s.startTransmission transmission (if par.separateTransmissionParts then .PREAMBLE else .WHOLE)

def continueTransmission : Except Fault LoRaGWRadio :=
  match kind.next with
  | none => .error unknownSignalPart
  | some nextPart => do
    let endTime ← transmission.getEndTime nextPart
    let fes ← s.fes.scheduleAt endTime (.transmissionTimer id nextPart transmission)
    .ok { s with fes }

def endTransmission : LoRaGWRadio :=
  { s with
    iAmTransmiting := false
    concurrentTransmissions := s.concurrentTransmissions.filter (· ≠ id) }

def handleTransmissionTimer : Except Fault LoRaGWRadio :=
  match kind with
  | .WHOLE | .DATA => .ok (s.endTransmission id)
  | .PREAMBLE | .HEADER => s.continueTransmission id kind transmission
  | .NONE => .error (.cRuntimeError "Unknown self message")

/-- `abortReception(receptionTimer)`, which reads the timer: it must exist. -/
def abortReception : Except Fault LoRaGWRadio :=
  if s.fes.messages.any fun
      | .receptionTimer other _ _ => other = id
      | _ => false then
    .ok (s.dropReception par id)
  else .error .outOfRange

variable (newRadioMode : RadioMode)

/-- The reception in progress ends with the receiver mode. -/
def abortUnlessReceiver : Except Fault LoRaGWRadio :=
  if isReceiverMode newRadioMode then .ok s
  else match s.receptionTimer with
    | none => .ok s
    | some id => s.abortReception par id

/-- `completeRadioModeSwitch` of the base class. The `transmissionTimer` of the
base class is never scheduled by this radio. -/
def completeRadioModeSwitch : Except Fault LoRaGWRadio := do
  let s ← s.abortUnlessReceiver par newRadioMode
  .ok { s with radioMode := newRadioMode, nextRadioMode := newRadioMode }

def startRadioModeSwitch (switchingTime : SimTime) : Except Fault LoRaGWRadio := do
  let fes ← s.fes.scheduleAt (s.fes.simTime + switchingTime) .switchTimer
  .ok { s with fes, radioMode := .SWITCHING, nextRadioMode := newRadioMode }

/-- `setRadioMode` of the base class. -/
def setRadioMode : Except Fault LoRaGWRadio :=
  if newRadioMode = .SWITCHING then
    .error (.cRuntimeError "Cannot switch manually to RADIO_MODE_SWITCHING")
  else if s.radioMode = .SWITCHING ∨ GWRadioTimer.switchTimer ∈ s.fes.messages then
    .error (.cRuntimeError
      "Cannot switch to a new radio mode while another switch is in progress")
  else if newRadioMode ≠ s.radioMode ∧ newRadioMode ≠ s.nextRadioMode then
    if par.switchingTimes s.radioMode newRadioMode ≠ 0 then
      s.startRadioModeSwitch newRadioMode (par.switchingTimes s.radioMode newRadioMode)
    else s.completeRadioModeSwitch par newRadioMode
  else .ok s

/-- `handleSelfMessage`. -/
def handleSelfMessage (answers : MediumAnswers) : GWRadioTimer → Except Fault LoRaGWRadio
  | .switchTimer => s.completeRadioModeSwitch par s.nextRadioMode
  | .transmissionTimer id kind transmission => s.handleTransmissionTimer id kind transmission
  | .receptionTimer id kind arrival => s.handleReceptionTimer par id kind arrival answers

/-- The state before the last stage of `initialize`. -/
def blank : LoRaGWRadio where
  radioMode := .OFF
  nextRadioMode := .OFF
  iAmTransmiting := false
  receptionTimer := none
  concurrentReceptions := []
  concurrentTransmissions := []
  LoRaGWRadioReceptionStarted_counter := 0
  LoRaGWRadioReceptionFinishedCorrect_counter := 0
  messageCount := 0
  fes := { simTime := 0, scheduled := [] }

/-- `initialize` ends in `setRadioMode(RADIO_MODE_TRANSCEIVER)`. -/
def Initial : Prop :=
  blank.setRadioMode par .TRANSCEIVER = .ok s

/-- A packet comes from the MAC, a frame arrives with the medium's answer on its
first part, a timer is delivered, or the MAC asks for another mode. -/
inductive Event where
  | upperPacket (t : SimTime) (transmission : Arrival)
  | lowerPacket (t : SimTime) (arrival : Arrival) (isReceptionAttempted : Bool)
  | selfMessage (e : ScheduledMessage GWRadioTimer) (answers : MediumAnswers)
  | setRadioMode (t : SimTime) (newRadioMode : RadioMode)

/-- What an event does, once the clock has moved on to it. -/
def handle (par : Parameters) (s : LoRaGWRadio) : Event → Except Fault LoRaGWRadio
  | .upperPacket _ transmission => s.handleUpperPacket par transmission
  | .lowerPacket _ arrival isReceptionAttempted =>
    s.handleLowerPacket par arrival isReceptionAttempted
  | .selfMessage e answers => s.handleSelfMessage par answers e.message
  | .setRadioMode _ newRadioMode => s.setRadioMode par newRadioMode

/-- The event set from which an event is handled, if it is the next event. -/
def fesAt : Event → Option (FutureEventSet GWRadioTimer)
  | .upperPacket t _ => if s.fes.IsNext t then some (s.fes.advance t) else none
  | .lowerPacket t _ _ => if s.fes.IsNext t then some (s.fes.advance t) else none
  | .selfMessage e _ =>
    if e ∈ s.fes.scheduled ∧ s.fes.IsNext e.arrivalTime then some (s.fes.fire e) else none
  | .setRadioMode t _ => if s.fes.IsNext t then some (s.fes.advance t) else none

/-- One event of the simulation; one that ends in a fault is not a step. -/
def step (event : Event) : Option (LoRaGWRadio × Unit) :=
  match s.fesAt event with
  | none => none
  | some fes =>
    match handle par { s with fes } event with
    | .ok s' => some (s', ())
    | .error _ => none

/-- A step taken: the event and the state before it. -/
abbrev Label := Event × LoRaGWRadio × Unit

abbrev RadioRun : List Label → LoRaGWRadio → Prop :=
  Run (Initial par) (StepOf (traced (step par)))

end LoRaGWRadio

end inet.physicallayer
