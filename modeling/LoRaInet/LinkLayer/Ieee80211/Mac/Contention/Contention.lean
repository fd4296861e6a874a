import LoRaInet.Kernel.Assert
import LoRaInet.Transition.Run
import Mathlib.Data.Int.Notation

open omnetpp transition

namespace inet.ieee80211

namespace Contention

inductive State where
  | IDLE
  | DEFER
  | IFS_AND_BACKOFF
  deriving DecidableEq

inductive EventType where
  | START
  | MEDIUM_STATE_CHANGED
  | CORRUPTED_FRAME_RECEIVED
  | CHANNEL_ACCESS_GRANTED

end Contention

/-- All times are raw ones: numbers of the smallest unit. -/
structure Contention where
  startTxEvent : Option ℤ := none
  channelGrantedEvent : Option ℤ := none
  ifs : ℤ := 0
  eifs : ℤ := 0
  slotTime : ℤ := 0
  fsm : Contention.State := .IDLE
  endEifsTime : ℤ := 0
  backoffSlots : ℤ := 0
  scheduledTransmissionTime : ℤ := 0
  lastChannelBusyTime : ℤ
  lastIdleStartTime : ℤ
  backoffOptimizationDelta : ℤ := 0
  mediumFree : Bool := true
  backoffOptimization : Bool

namespace Contention

/-- Half of the greatest time. -/
def longAgo : ℤ := 0x7FFFFFFFFFFFFFFF / 2

def new (backoffOptimization initialChannelBusy : Bool) : Contention where
  lastChannelBusyTime := if initialChannelBusy then 0 else -longAgo
  lastIdleStartTime := -longAgo
  backoffOptimization := backoffOptimization

variable (c : Contention)

def scheduleTransmissionRequestFor (now txStartTime : ℤ) : Except Fault Contention :=
  if txStartTime < now then .error .scheduledToThePast
  else do
    ASSERT (c.startTxEvent = none) "startTxEvent is not scheduled"
    return { c with startTxEvent := some txStartTime }

def cancelTransmissionRequest : Contention := { c with startTxEvent := none }

def scheduleTransmissionRequest (c : Contention) (now : ℤ) : Except Fault Contention := do
  ASSERT (c.mediumFree = true) "mediumFree"
  let useEifs : Bool := c.endEifsTime > now + c.ifs
  let waitInterval := (if useEifs then c.eifs else c.ifs) + c.backoffSlots * c.slotTime
  if c.backoffOptimization = true ∧ c.fsm = .IDLE then
    let elapsedFreeChannelTime := now - c.lastChannelBusyTime
    let elapsedIdleTime := now - c.lastIdleStartTime
    let delta := min waitInterval (min elapsedFreeChannelTime elapsedIdleTime)
    let waitInterval := if delta > 0 then waitInterval - delta else waitInterval
    let c := { c with
      backoffOptimizationDelta := delta
      scheduledTransmissionTime := now + waitInterval }
    c.scheduleTransmissionRequestFor now c.scheduledTransmissionTime
  else
    let c := { c with scheduledTransmissionTime := now + waitInterval }
    c.scheduleTransmissionRequestFor now c.scheduledTransmissionTime

variable (now : ℤ)

def switchToEifs : Except Fault Contention :=
  let c := { c with endEifsTime := now + c.eifs }
  c.cancelTransmissionRequest.scheduleTransmissionRequest now

/-- The slots that are left, before they are kept in an `int`. -/
def slotsLeft : ℤ :=
  (c.scheduledTransmissionTime - now + c.slotTime - 1).tdiv c.slotTime

/-- A number as an `int`. -/
def toInt (x : ℤ) : ℤ := x.bmod 0x100000000

def computeRemainingBackoffSlots : Contention :=
  let remainingSlots := toInt (c.slotsLeft now)
  if remainingSlots < c.backoffSlots then { c with backoffSlots := remainingSlots } else c

/-- In the end the owner is told that it has access, by an event of its own. -/
def handleWithFSM (event : EventType) : Except Fault Contention :=
  let unhandled := Except.error (.cRuntimeError "Unhandled event")
  match c.fsm with
  | .IDLE =>
    match event with
    | .START =>
      if c.mediumFree then do
        let c ← c.scheduleTransmissionRequest now
        return { c with fsm := .IFS_AND_BACKOFF }
      else .ok { c with fsm := .DEFER }
    | .MEDIUM_STATE_CHANGED | .CORRUPTED_FRAME_RECEIVED => .ok c
    | .CHANNEL_ACCESS_GRANTED => unhandled
  | .DEFER =>
    match event with
    | .MEDIUM_STATE_CHANGED =>
      if c.mediumFree then do
        let c ← c.scheduleTransmissionRequest now
        return { c with fsm := .IFS_AND_BACKOFF }
      else unhandled
    | .CORRUPTED_FRAME_RECEIVED => .ok { c with endEifsTime := now + c.eifs }
    | .START | .CHANNEL_ACCESS_GRANTED => unhandled
  | .IFS_AND_BACKOFF =>
    match event with
    | .CHANNEL_ACCESS_GRANTED =>
      .ok { c with lastIdleStartTime := now, fsm := .IDLE, channelGrantedEvent := some now }
    | .MEDIUM_STATE_CHANGED =>
      if !c.mediumFree then
        .ok { c.cancelTransmissionRequest.computeRemainingBackoffSlots now with fsm := .DEFER }
      else unhandled
    | .CORRUPTED_FRAME_RECEIVED => c.switchToEifs now
    | .START => unhandled

/-- The backoff is what `intrand(cw + 1)` returns. -/
def startContention (now cw ifs eifs slotTime backoff : ℤ) : Except Fault Contention := do
  ASSERT (ifs ≥ 0 ∧ eifs ≥ 0 ∧ slotTime ≥ 0 ∧ cw ≥ 0) "ifs >= 0 && eifs >= 0 && slotTime >= 0 && cw >= 0"
  ASSERT (c.fsm = .IDLE) "fsm.getState() == IDLE"
  let c := { c with
    channelGrantedEvent := none
    ifs := ifs
    eifs := eifs
    slotTime := slotTime
    backoffSlots := backoff }
  c.handleWithFSM now .START

def mediumStateChanged (mediumFree : Bool) : Except Fault Contention :=
  let c := { c with mediumFree := mediumFree, lastChannelBusyTime := now }
  c.handleWithFSM now .MEDIUM_STATE_CHANGED

def corruptedFrameReceived : Except Fault Contention :=
  c.handleWithFSM now .CORRUPTED_FRAME_RECEIVED

inductive Event where
  | startContention (cw ifs eifs slotTime backoff : ℤ)
  | mediumStateChanged (mediumFree : Bool)
  | corruptedFrameReceived
  | startTx
  | channelGranted
  deriving DecidableEq

/-- A call or a message, and whether `channelAccessGranted` is called. -/
def handle (c : Contention) (now : ℤ) : Event → Except Fault (Contention × Bool)
  | .startContention cw ifs eifs slotTime backoff =>
    (c.startContention now cw ifs eifs slotTime backoff).map (·, false)
  | .mediumStateChanged mediumFree => (c.mediumStateChanged now mediumFree).map (·, false)
  | .corruptedFrameReceived => (c.corruptedFrameReceived now).map (·, false)
  | .startTx =>
    ({ c with startTxEvent := none }.handleWithFSM now .CHANNEL_ACCESS_GRANTED).map (·, false)
  | .channelGranted => .ok ({ c with channelGrantedEvent := none }, true)

end Contention

/-- The contention with the time of the simulation. -/
structure ContentionModule where
  now : ℤ
  contention : Contention

namespace ContentionModule

open Contention

/-- Time goes on, but not past a message that is scheduled, and a message comes at its time. -/
def IsNext (s : ContentionModule) (t : ℤ) (e : Event) : Prop :=
  s.now ≤ t ∧ (∀ t' ∈ s.contention.startTxEvent, t ≤ t') ∧
    (∀ t' ∈ s.contention.channelGrantedEvent, t ≤ t') ∧
    (e = .startTx → s.contention.startTxEvent = some t) ∧
    (e = .channelGranted → s.contention.channelGrantedEvent = some t)
deriving Decidable

def step (s : ContentionModule) (e : ℤ × Event) : Option (ContentionModule × Bool) :=
  if s.IsNext e.1 e.2 then
    (s.contention.handle e.1 e.2).toOption.map fun (c, granted) => (⟨e.1, c⟩, granted)
  else none

end ContentionModule

end inet.ieee80211
