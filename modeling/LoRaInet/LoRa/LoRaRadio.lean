import LoRaInet.LoRa.LoRaMac
import LoRaInet.Transition.Run

open omnetpp transition inet.physicallayer

namespace inet.LoRaNic

def isTransmitterMode (radioMode : RadioMode) : Bool :=
  radioMode = .TRANSMITTER ∨ radioMode = .TRANSCEIVER

section Radio

-- the nested calls of `setRadioMode`, and the answer of `isListeningPossible`
variable (setRadioMode : RadioMode → LoRaNic → Except Fault LoRaNic) (isListeningPossible : Bool)

/-- `receptionTimer && receptionTimer->isScheduled()`. -/
def isReceptionScheduled (s : LoRaNic) : Bool :=
  match s.radio.receptionTimer with
  | some id => s.radio.receptionTimers.any fun timer => timer.1 = id
  | none => false

def newReceptionState (s : LoRaNic) : ReceptionState :=
  if s.radio.radioMode = .OFF ∨ s.radio.radioMode = .SLEEP ∨ s.radio.radioMode = .TRANSMITTER then
    .UNDEFINED
  else if isReceptionScheduled s then .RECEIVING
  else if isListeningPossible then .BUSY
  else .IDLE

def newTransmissionState (s : LoRaNic) : TransmissionState :=
  if s.radio.radioMode = .OFF ∨ s.radio.radioMode = .SLEEP ∨ s.radio.radioMode = .RECEIVER then
    .UNDEFINED
  else if s.radio.transmissionTimer then .TRANSMITTING
  else .IDLE

def setReceptionState (receptionState : ReceptionState) (s : LoRaNic) : LoRaNic :=
  { s with radio := { s.radio with receptionState := receptionState } }

def updateReceptionState (s : LoRaNic) : Except Fault LoRaNic :=
  let newRadioReceptionState := newReceptionState isListeningPossible s
  if s.radio.receptionState ≠ newRadioReceptionState then
    receptionStateChanged setRadioMode newRadioReceptionState
      (setReceptionState newRadioReceptionState s)
  else .ok s

def updateTransmissionState (s : LoRaNic) : Except Fault LoRaNic :=
  let newRadioTransmissionState := newTransmissionState s
  if s.radio.transmissionState ≠ newRadioTransmissionState then
    transmissionStateChanged setRadioMode newRadioTransmissionState
      { s with radio := { s.radio with transmissionState := newRadioTransmissionState } }
  else .ok s

/-- The signals of the first half may change what the second half sees. -/
def updateTransceiverState (s : LoRaNic) : Except Fault LoRaNic := do
  let s ← updateReceptionState setRadioMode isListeningPossible s
  updateTransmissionState setRadioMode s

def clearReceptionTimer (s : LoRaNic) : LoRaNic :=
  { s with radio := { s.radio with receptionTimer := none } }

def abortReception (s : LoRaNic) : Except Fault LoRaNic :=
  updateTransceiverState setRadioMode isListeningPossible (clearReceptionTimer s)

def abortTransmission (s : LoRaNic) : Except Fault LoRaNic :=
  updateTransceiverState setRadioMode isListeningPossible
    { s with radio := { s.radio with transmissionTimer := false } }

def completeRadioModeSwitch (newRadioMode : RadioMode) (s : LoRaNic) : Except Fault LoRaNic := do
  let s ← if !isReceiverMode newRadioMode && s.radio.receptionTimer.isSome then
      abortReception setRadioMode isListeningPossible s
    else .ok s
  let s ← if !isTransmitterMode newRadioMode && s.radio.transmissionTimer then
      abortTransmission setRadioMode isListeningPossible s
    else .ok s
  updateTransceiverState setRadioMode isListeningPossible
    { s with radio := { s.radio with radioMode := newRadioMode, nextRadioMode := newRadioMode } }

end Radio

/-- `setRadioMode` with switching times of zero. The depth bounds how far the calls nest
through the signals that they emit. -/
def setRadioMode (isListeningPossible : Bool) : ℕ → RadioMode → LoRaNic → Except Fault LoRaNic
  | 0, _, _ => .error (.cRuntimeError "stack overflow")
  | depth + 1, newRadioMode, s =>
    if newRadioMode = .SWITCHING then
      .error (.cRuntimeError "Cannot switch manually to RADIO_MODE_SWITCHING")
    else if s.radio.radioMode = .SWITCHING then
      .error (.cRuntimeError
        "Cannot switch to a new radio mode while another switch is in progress")
    else if newRadioMode ≠ s.radio.radioMode ∧ newRadioMode ≠ s.radio.nextRadioMode then
      completeRadioModeSwitch (setRadioMode isListeningPossible depth) isListeningPossible
        newRadioMode s
    else .ok s

section Events

variable (setRadioMode : RadioMode → LoRaNic → Except Fault LoRaNic) (isListeningPossible : Bool)

/-- The radio's `handleUpperPacket`; outside the transmitter mode the frame is dropped. -/
def transmitFrame (s : LoRaNic) : Except Fault LoRaNic :=
  if isTransmitterMode s.radio.radioMode then
    if s.radio.transmissionTimer then
      .error (.cRuntimeError "Received frame from upper layer while already transmitting.")
    else updateTransceiverState setRadioMode isListeningPossible
      { s with radio := { s.radio with transmissionTimer := true } }
  else .ok s

def continueTransmission (s : LoRaNic) : Except Fault LoRaNic :=
  updateTransceiverState setRadioMode isListeningPossible s

def endTransmission (s : LoRaNic) : Except Fault LoRaNic :=
  updateTransceiverState setRadioMode isListeningPossible
    { s with radio := { s.radio with transmissionTimer := false } }

/-- `startReception` for a frame that arrives; its timer is scheduled also when the
reception is not attempted. -/
def startReception (frame : LoRaMacFrame) (isReceptionAttempted : Bool) (s : LoRaNic) :
    Except Fault LoRaNic :=
  let timer := s.radio.messageCount
  let receptionTimer := if isReceiverMode s.radio.radioMode && isReceptionAttempted then some timer
    else s.radio.receptionTimer
  updateTransceiverState setRadioMode isListeningPossible { s with radio := { s.radio with
        receptionTimer := receptionTimer
        receptionTimers := s.radio.receptionTimers ++ [(timer, frame)]
        messageCount := timer + 1 } }

/-- The timer is current and the radio receives. -/
def isCurrent (timer : ℕ) (s : LoRaNic) : Bool :=
  s.radio.receptionTimer = some timer && isReceiverMode s.radio.radioMode

/-- The next part follows when this one was received and the next is attempted. -/
def continueReception (timer : ℕ) (isReceptionSuccessful isReceptionAttempted : Bool)
    (s : LoRaNic) : Except Fault LoRaNic :=
  updateTransceiverState setRadioMode isListeningPossible
    (if isCurrent timer s && !(isReceptionSuccessful && isReceptionAttempted) then
      clearReceptionTimer s
    else s)

/-- The frame of the current timer is sent up, or its loss is signalled. -/
def finishReception (frame : LoRaMacFrame) (isReceptionSuccessful : Bool) (s : LoRaNic) :
    Except Fault LoRaNic := do
  let s ← if isReceptionSuccessful then .ok { s with toMac := s.toMac ++ [frame] }
    else droppedPacket setRadioMode s
  return clearReceptionTimer s

def endReception (timer : ℕ) (frame : LoRaMacFrame) (isReceptionSuccessful : Bool) (s : LoRaNic) :
    Except Fault LoRaNic := do
  let s ← if isCurrent timer s then finishReception setRadioMode frame isReceptionSuccessful s
    else .ok s
  updateTransceiverState setRadioMode isListeningPossible s

end Events

/-- The events of the node. Each comes with the medium's answer on whether listening is
possible. -/
inductive Event where
  | upperPacket (packet : LoRaAppPacket) (cInfo : LoRaMacControlInfo)
  | frameToRadio
  | transmissionContinues
  | transmissionEnds
  | macTimer (timer : LoRaMac.Timer)
  | receptionStarts (frame : LoRaMacFrame) (isReceptionAttempted : Bool)
  | receptionContinues (timer : ℕ) (isReceptionSuccessful isReceptionAttempted : Bool)
  | receptionEnds (timer : ℕ) (frame : LoRaMacFrame) (isReceptionSuccessful : Bool)
  | frameToMac

/-- The message of the event is on its way, and the application only sends when the MAC
is idle. -/
def Event.Pending (s : LoRaNic) : Event → Prop
  | .upperPacket _ _ => s.mac.fsm = .IDLE
  | .frameToRadio => s.toRadio ≠ []
  | .transmissionContinues => s.radio.transmissionTimer = true
  | .transmissionEnds => s.radio.transmissionTimer = true
  | .macTimer timer => isScheduled s timer = true
  | .receptionStarts _ _ => True
  | .receptionContinues timer _ _ => ∃ frame, (timer, frame) ∈ s.radio.receptionTimers
  | .receptionEnds timer frame _ => (timer, frame) ∈ s.radio.receptionTimers
  | .frameToMac => s.toMac ≠ []

instance (s : LoRaNic) (event : Event) : Decidable (event.Pending s) :=
  match event with
  | .upperPacket _ _ => inferInstanceAs (Decidable (_ = _))
  | .frameToRadio | .frameToMac => inferInstanceAs (Decidable (_ ≠ _))
  | .transmissionContinues | .transmissionEnds | .macTimer _ => inferInstanceAs (Decidable (_ = _))
  | .receptionStarts _ _ => inferInstanceAs (Decidable True)
  | .receptionContinues timer _ _ =>
    decidable_of_iff (∃ entry ∈ s.radio.receptionTimers, entry.1 = timer)
      ⟨fun ⟨⟨_, frame⟩, hmem, heq⟩ => ⟨frame, heq ▸ hmem⟩, fun ⟨_, hmem⟩ => ⟨_, hmem, rfl⟩⟩
  | .receptionEnds timer frame _ => inferInstanceAs (Decidable ((timer, frame) ∈ _))

/-- A timer that is delivered is no longer scheduled. -/
def fired (timer : ℕ) (frame : LoRaMacFrame) (s : LoRaNic) : LoRaNic :=
  { s with radio := { s.radio with
      receptionTimers := s.radio.receptionTimers.erase (timer, frame) } }

/-- How far the calls of one event may nest. -/
def maxDepth : ℕ := 16

def handle (isListeningPossible : Bool) (event : Event) (s : LoRaNic) : Except Fault LoRaNic :=
  let set := setRadioMode isListeningPossible maxDepth
  match event with
  | .upperPacket packet cInfo => handleUpperPacket set packet cInfo s
  | .frameToRadio => transmitFrame set isListeningPossible { s with toRadio := s.toRadio.tail }
  | .transmissionContinues => continueTransmission set isListeningPossible s
  | .transmissionEnds => endTransmission set isListeningPossible s
  | .macTimer timer => handleSelfMessage set timer s
  | .receptionStarts frame isReceptionAttempted =>
    startReception set isListeningPossible frame isReceptionAttempted s
  | .receptionContinues timer isReceptionSuccessful isReceptionAttempted =>
    continueReception set isListeningPossible timer isReceptionSuccessful isReceptionAttempted s
  | .receptionEnds timer frame isReceptionSuccessful =>
    endReception set isListeningPossible timer frame isReceptionSuccessful (fired timer frame s)
  | .frameToMac =>
    match s.toMac with
    | [] => .error .nullPointer
    | frame :: toMac => handleLowerPacket set frame { s with toMac := toMac }

/-- `initialize` ends in `setRadioMode(RADIO_MODE_SLEEP)`. -/
def Initial (s : LoRaNic) : Prop :=
  ∃ address isListeningPossible,
    setRadioMode isListeningPossible maxDepth .SLEEP { mac := { address := address } } = .ok s

def step (s : LoRaNic) (label : Event × Bool) : Option (LoRaNic × Unit) :=
  if label.1.Pending s then (handle label.2 label.1 s).toOption.map fun s' => (s', ()) else none

/-- A run of the node: its events, each with the medium's answer. -/
abbrev NicRun : List ((Event × Bool) × Unit) → LoRaNic → Prop := Run Initial (StepOf step)

end inet.LoRaNic
