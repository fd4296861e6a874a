import LoRaInet.Common.FSMA
import LoRaInet.LoRa.Messages
import LoRaInet.PhysicalLayer.Signal

open omnetpp inet.physicallayer

namespace inet

/-- `IRadio::ReceptionState`. -/
inductive ReceptionState where
  | UNDEFINED | IDLE | BUSY | RECEIVING
  deriving DecidableEq

/-- `IRadio::TransmissionState`. -/
inductive TransmissionState where
  | UNDEFINED | IDLE | TRANSMITTING
  deriving DecidableEq

namespace LoRaMac

/-- The states of the machine, in the order of their blocks. -/
inductive State where
  | IDLE | TRANSMIT | WAIT_DELAY_1 | LISTENING_1 | RECEIVING_1 | WAIT_DELAY_2 | LISTENING_2
  | RECEIVING_2
  deriving DecidableEq

inductive Timer where
  | endDelay_1 | endListening_1 | endDelay_2 | endListening_2
  deriving DecidableEq

/-- The message that the machine is run with: a frame from the gate above or below, or one
of the self messages. -/
inductive Message where
  | upper (frame : LoRaMacFrame)
  | lower (frame : LoRaMacFrame)
  | timer (timer : Timer)
  | endTransmission
  | droppedPacket
  | mediumStateChange
  deriving DecidableEq

end LoRaMac

/-- The state of the MAC; a timer is true while it is scheduled. -/
structure LoRaMac where
  address : DevAddr
  fsm : LoRaMac.State := .IDLE
  receptionState : ReceptionState := .UNDEFINED
  transmissionState : TransmissionState := .UNDEFINED
  endDelay_1 : Bool := false
  endListening_1 : Bool := false
  endDelay_2 : Bool := false
  endListening_2 : Bool := false
  transmissionQueue : List LoRaMacFrame := []
  sequenceNumber : ℤ := 0
  numSent : ℕ := 0
  numReceived : ℕ := 0
  deriving DecidableEq

/-- The state of the radio. Reception timers are scheduled with the frame that they bring;
the current one is referred to by its identity. -/
structure LoRaRadio where
  radioMode : RadioMode := .OFF
  nextRadioMode : RadioMode := .OFF
  receptionState : ReceptionState := .UNDEFINED
  transmissionState : TransmissionState := .UNDEFINED
  receptionTimer : Option ℕ := none
  receptionTimers : List (ℕ × LoRaMacFrame) := []
  transmissionTimer : Bool := false
  messageCount : ℕ := 0
  deriving DecidableEq

def LoRaMac.State.name : LoRaMac.State → String
  | .IDLE => "IDLE"
  | .TRANSMIT => "TRANSMIT"
  | .WAIT_DELAY_1 => "WAIT_DELAY_1"
  | .LISTENING_1 => "LISTENING_1"
  | .RECEIVING_1 => "RECEIVING_1"
  | .WAIT_DELAY_2 => "WAIT_DELAY_2"
  | .LISTENING_2 => "LISTENING_2"
  | .RECEIVING_2 => "RECEIVING_2"

/-- The MAC, its radio, and the messages on their way between them and up. -/
structure LoRaNic where
  mac : LoRaMac
  radio : LoRaRadio := {}
  toRadio : List LoRaMacFrame := []
  toMac : List LoRaMacFrame := []
  toUpper : List LoRaAppPacket := []
  deriving DecidableEq

namespace LoRaNic

open LoRaMac (State Timer Message)

def isScheduled (s : LoRaNic) : Timer → Bool
  | .endDelay_1 => s.mac.endDelay_1
  | .endListening_1 => s.mac.endListening_1
  | .endDelay_2 => s.mac.endDelay_2
  | .endListening_2 => s.mac.endListening_2

def setScheduled (s : LoRaNic) (scheduled : Bool) : Timer → LoRaNic
  | .endDelay_1 => { s with mac := { s.mac with endDelay_1 := scheduled } }
  | .endListening_1 => { s with mac := { s.mac with endListening_1 := scheduled } }
  | .endDelay_2 => { s with mac := { s.mac with endDelay_2 := scheduled } }
  | .endListening_2 => { s with mac := { s.mac with endListening_2 := scheduled } }

def cancelEvent (timer : Timer) (s : LoRaNic) : LoRaNic := setScheduled s false timer

/-- A message that is already scheduled cannot be scheduled once more. -/
def scheduleAt (timer : Timer) (s : LoRaNic) : Except Fault LoRaNic :=
  if isScheduled s timer then
    .error (.cRuntimeError "scheduleAt(): message is currently scheduled")
  else .ok (setScheduled s true timer)

def isForUs (s : LoRaNic) (frame : LoRaMacFrame) : Bool := frame.receiverAddress = s.mac.address

def isReceiving (s : LoRaNic) : Bool := s.radio.receptionState = .RECEIVING

def popTransmissionQueue (s : LoRaNic) : Except Fault LoRaNic :=
  match s.mac.transmissionQueue with
  | [] => .error (.cRuntimeError "pop(): queue empty")
  | _ :: queue => .ok { s with mac := { s.mac with transmissionQueue := queue } }

def finishCurrentTransmission (s : LoRaNic) : Except Fault LoRaNic := do
  let s ← scheduleAt .endDelay_1 s
  let s ← scheduleAt .endListening_1 s
  let s ← scheduleAt .endDelay_2 s
  let s ← scheduleAt .endListening_2 s
  popTransmissionQueue s

def decapsulate (frame : LoRaMacFrame) : LoRaAppPacket := frame.encapsulatedPacket

def sendUp (packet : LoRaAppPacket) (s : LoRaNic) : LoRaNic :=
  { s with toUpper := s.toUpper ++ [packet] }

def countSent (s : LoRaNic) : LoRaNic := { s with mac := { s.mac with numSent := s.mac.numSent + 1 } }

def countReceived (s : LoRaNic) : LoRaNic :=
  { s with mac := { s.mac with numReceived := s.mac.numReceived + 1 } }

section HandleWithFsm

variable (setRadioMode : RadioMode → LoRaNic → Except Fault LoRaNic)

def turnOnReceiver (s : LoRaNic) : Except Fault LoRaNic := setRadioMode .RECEIVER s

def turnOffReceiver (s : LoRaNic) : Except Fault LoRaNic := setRadioMode .SLEEP s

/-- A copy of the current transmission is sent down. -/
def sendDataFrame (s : LoRaNic) : Except Fault LoRaNic := do
  let frameToSend := s.mac.transmissionQueue.head?
  let s ← setRadioMode .TRANSMITTER s
  match frameToSend with
  | none => .error .nullPointer
  | some frame => return { s with toRadio := s.toRadio ++ [frame] }

def isLower (msg : Message) (accept : LoRaMacFrame → Bool) : Bool :=
  match msg with
  | .lower frame => accept frame
  | _ => false

/-- The frame is passed up, and the timers are cancelled. -/
def receive (msg : Message) (timers : List Timer) (s : LoRaNic) : Except Fault LoRaNic :=
  match msg with
  | .lower frame => .ok (timers.foldl (fun s timer => cancelEvent timer s)
      (countReceived (sendUp (decapsulate frame) s)))
  | _ => .error .nullPointer

def isUpperMessage : Message → Bool
  | .upper _ => true
  | _ => false

open fsma in
/-- The machine of `handleWithFsm`. -/
def blocks (msg : Message) : List (Block State LoRaNic) :=
  [{ state := .IDLE
     enter := turnOffReceiver setRadioMode
     transitions :=
      [{ condition := fun _ => isUpperMessage msg, target := .TRANSMIT, action := .ok }] },
    { state := .TRANSMIT
      enter := sendDataFrame setRadioMode
      transitions :=
        [{ condition := fun _ => msg = .endTransmission
           target := .WAIT_DELAY_1
           action := fun s => (finishCurrentTransmission s).map countSent }] },
    { state := .WAIT_DELAY_1
      enter := turnOffReceiver setRadioMode
      transitions :=
        [{ condition := fun s => msg = .timer .endDelay_1 || !isScheduled s .endDelay_1
           target := .LISTENING_1
           action := .ok }] },
    { state := .LISTENING_1
      enter := turnOnReceiver setRadioMode
      transitions :=
        [{ condition := fun s => msg = .timer .endListening_1 || !isScheduled s .endListening_1
           target := .WAIT_DELAY_2
           action := .ok },
          { condition := fun s => msg = .mediumStateChange && isReceiving s
            target := .RECEIVING_1
            action := .ok }] },
    { state := .RECEIVING_1
      enter := .ok
      transitions :=
        [{ condition := fun s => isLower msg fun frame => !isForUs s frame
           target := .LISTENING_1
           action := .ok },
          { condition := fun s => isLower msg fun frame => isForUs s frame
            target := .IDLE
            action := receive msg [.endListening_1, .endDelay_2, .endListening_2] },
          { condition := fun _ => msg = .droppedPacket, target := .LISTENING_1, action := .ok }] },
    { state := .WAIT_DELAY_2
      enter := turnOffReceiver setRadioMode
      transitions :=
        [{ condition := fun s => msg = .timer .endDelay_2 || !isScheduled s .endDelay_2
           target := .LISTENING_2
           action := .ok }] },
    { state := .LISTENING_2
      enter := turnOnReceiver setRadioMode
      transitions :=
        [{ condition := fun s => msg = .timer .endListening_2 || !isScheduled s .endListening_2
           target := .IDLE
           action := .ok },
          { condition := fun s => msg = .mediumStateChange && isReceiving s
            target := .RECEIVING_2
            action := .ok }] },
    { state := .RECEIVING_2
      enter := .ok
      transitions :=
        [{ condition := fun s => isLower msg fun frame => !isForUs s frame
           target := .LISTENING_2
           action := .ok },
          { condition := fun s => isLower msg fun frame => isForUs s frame
            target := .IDLE
            action := receive msg [.endListening_2] },
          { condition := fun _ => msg = .droppedPacket, target := .LISTENING_2, action := .ok }] }]

def setState (state : State) (s : LoRaNic) : LoRaNic :=
  { s with mac := { s.mac with fsm := state } }

def fsm : fsma.Machine State LoRaNic where
  getState s := s.mac.fsm
  setState := setState

/-- `FSM_MAXT`. -/
def maxTransitions : ℕ := 64

def handleWithFsm (msg : Message) (s : LoRaNic) : Except Fault LoRaNic :=
  fsma.switch fsm (blocks setRadioMode msg) maxTransitions true s

def noteReception (receptionState : ReceptionState) (s : LoRaNic) : LoRaNic :=
  { s with mac := { s.mac with receptionState := receptionState } }

/-- `receiveSignal` of `receptionStateChangedSignal`. -/
def receptionStateChanged (newRadioReceptionState : ReceptionState) (s : LoRaNic) :
    Except Fault LoRaNic := do
  let s ← if s.mac.receptionState = .RECEIVING then setRadioMode .SLEEP s else .ok s
  handleWithFsm setRadioMode .mediumStateChange (noteReception newRadioReceptionState s)

/-- `receiveSignal` of the radio's `droppedPacket`. -/
def droppedPacket (s : LoRaNic) : Except Fault LoRaNic := do
  let s ← setRadioMode .SLEEP s
  handleWithFsm setRadioMode .droppedPacket s

/-- `receiveSignal` of `transmissionStateChangedSignal`. -/
def transmissionStateChanged (newRadioTransmissionState : TransmissionState) (s : LoRaNic) :
    Except Fault LoRaNic := do
  let s ← if s.mac.transmissionState = .TRANSMITTING ∧ newRadioTransmissionState = .IDLE then do
      let s ← handleWithFsm setRadioMode .endTransmission s
      setRadioMode .SLEEP s
    else .ok s
  return { s with mac := { s.mac with transmissionState := newRadioTransmissionState } }

/-- The frame of a packet is queued, and the sequence number is used. -/
def enqueue (frame : LoRaMacFrame) (s : LoRaNic) : LoRaNic :=
  { s with mac := { s.mac with
      transmissionQueue := s.mac.transmissionQueue ++ [frame]
      sequenceNumber := s.mac.sequenceNumber + 1 } }

def handleUpperPacket (packet : LoRaAppPacket) (cInfo : LoRaMacControlInfo) (s : LoRaNic) :
    Except Fault LoRaNic :=
  if s.mac.fsm ≠ .IDLE then .error (.cRuntimeError s.mac.fsm.name)
  else
    let frame := LoRaMac.handleUpperPacket s.mac.address s.mac.sequenceNumber packet cInfo
    handleWithFsm setRadioMode (.upper frame) (enqueue frame s)

def handleLowerPacket (frame : LoRaMacFrame) (s : LoRaNic) : Except Fault LoRaNic :=
  if s.mac.fsm = .RECEIVING_1 ∨ s.mac.fsm = .RECEIVING_2 then
    handleWithFsm setRadioMode (.lower frame) s
  else .ok s

/-- A timer that is delivered is no longer scheduled. -/
def handleSelfMessage (timer : Timer) (s : LoRaNic) : Except Fault LoRaNic :=
  handleWithFsm setRadioMode (.timer timer) (setScheduled s false timer)

end HandleWithFsm

end LoRaNic

end inet
