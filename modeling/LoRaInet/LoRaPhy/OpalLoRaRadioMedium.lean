import LoRaInet.Container.Basic
import LoRaInet.LoRaPhy.LoRaTransmitter
import LoRaInet.Transition.Run

open omnetpp transition container

namespace inet.physicallayer

/-- `OpalReceiverCallback`. A transmission that was never set is `none`. -/
structure OpalReceiverCallback where
  opalReceiverId : Int
  radio : Nat
  lastPower : ℚ := 0
  lastTransmitterId : Int := -1
  hasReceivedPower : Bool := false
  transmission : Option LoRaTransmission := none

def OpalReceiverCallback.reset (ocb : OpalReceiverCallback) : OpalReceiverCallback :=
  { ocb with lastPower := 0, lastTransmitterId := -1, hasReceivedPower := false }

/-- `receptions` holds the powers of the receptions in the communication cache,
by radio and by the id of the transmission. -/
structure OpalLoRaRadioMedium where
  radios : List Nat
  receiversRadios : Map Nat OpalReceiverCallback
  mapReceptions : Map Nat (Map Nat ℚ)
  transmissions : List LoRaTransmission
  receptions : Nat → Nat → Option ℚ
  simTime : SimTime

namespace OpalLoRaRadioMedium

/-- The radios never move. What the ray tracer reports at a receiver, if it does,
is a function of the two places and of the power in the frame. -/
structure Parameters where
  isStatic : Bool
  opalReceiverId : Nat → Int
  position : Nat → Coord
  traced : Coord → Coord → ℚ → Option ℚ

/-- The power between two radios is inserted if there is none yet; a transmitter
that has not transmitted is not in the map. -/
def cachePower (mapReceptions : Map Nat (Map Nat ℚ)) (transmitter receiver : Nat) (p : ℚ) :
    Map Nat (Map Nat ℚ) :=
  match mapReceptions.lookup transmitter with
  | none => mapReceptions
  | some CPE =>
    match CPE.lookup receiver with
    | some _ => mapReceptions
    | none => mapReceptions.insert transmitter (CPE.insert receiver p)

variable (par : Parameters) (s : OpalLoRaRadioMedium) (receiver : Nat)

variable (transmission : LoRaTransmission)

def cacheReceptionPower (receptionPower : ℚ) : OpalLoRaRadioMedium :=
  if par.isStatic then
    { s with
      mapReceptions := cachePower s.mapReceptions transmission.transmitter receiver receptionPower }
  else s

/-- The power in the callback, which is reset once it has been taken. -/
def takeReceivedPower (ocb : OpalReceiverCallback)
    (txId : Int) : Except Fault (OpalLoRaRadioMedium × ℚ) :=
  if ocb.hasReceivedPower then
    if ocb.lastTransmitterId ≠ txId then
      .error (.cRuntimeError s!"{s.simTime}: R[{ocb.opalReceiverId}]: Received power from unknown transmitter {ocb.lastTransmitterId}, expected transmitter {txId}")
    else if ocb.opalReceiverId = txId then
      .error (.cRuntimeError s!"{s.simTime}: R[{ocb.opalReceiverId}]: Received power from my own transmitter {txId}")
    else .ok ({ s with receiversRadios := s.receiversRadios.insert receiver ocb.reset },
      ocb.lastPower)
  else .ok (s, 0)

def opalComputeReception : Except Fault (OpalLoRaRadioMedium × ℚ) :=
  match s.receiversRadios.lookup receiver with
  | none => .error (.cRuntimeError
      s!"computeReception():: radio {receiver} is not registered with opal")
  | some ocb =>
    match s.receiversRadios.lookup transmission.transmitter with
    | none => .error (.cRuntimeError s!"computeReception():: receiver {ocb.opalReceiverId}. transmitter {transmission.transmitter} is not registered with opal")
    | some transmitterCallback => do
      let (s, p) ← s.takeReceivedPower receiver ocb transmitterCallback.opalReceiverId
      .ok (cacheReceptionPower par s receiver transmission p, p)

/-- A reception is computed once, and then found in the communication cache. -/
def getReception : Except Fault OpalLoRaRadioMedium :=
  match s.receptions receiver transmission.id with
  | some _ => .ok s
  | none => do
    let (s, p) ← opalComputeReception par s receiver transmission
    .ok { s with
      receptions := fun radio id =>
        if radio = receiver ∧ id = transmission.id then some p else s.receptions radio id }

/-- `createReception` of a callback, with the power and the transmitter. -/
def createReception (callback : OpalReceiverCallback)
    (p : ℚ) (id : Int) : Except Fault OpalLoRaRadioMedium :=
  let s := { s with
    receiversRadios := s.receiversRadios.insert callback.radio
      { callback with lastPower := p, lastTransmitterId := id, hasReceivedPower := true } }
  match callback.transmission with
  | none => .error .nullPointer
  | some transmission => getReception par s callback.radio transmission

/-- The callbacks of the radios, one after the other; each gets its own power. -/
def createReceptions (par : Parameters) (id : Int) (notRegistered : String) :
    OpalLoRaRadioMedium → List (Nat × ℚ) → Except Fault OpalLoRaRadioMedium
  | s, [] => .ok s
  | s, (radio, p) :: rest =>
    match s.receiversRadios.lookup radio with
    | none => .error (.cRuntimeError notRegistered)
    | some callback => do
      let s ← createReception par s callback p id
      createReceptions par id notRegistered s rest

/-- The receivers that Opal calls back, in some order: the transmitter's own is
switched off, and the others may get no power. -/
def CallsBack (order : List Nat) : Prop :=
  order.Perm (s.receiversRadios.keys.filter fun radio => radio ≠ transmission.transmitter ∧
    (par.traced (par.position transmission.transmitter) (par.position radio)
      transmission.LoRaTP).isSome)
deriving Decidable

/-- `transmit` of Opal calls back each receiver in the order given. -/
def transmitInOpal (par : Parameters) (s : OpalLoRaRadioMedium) (radio : Nat)
    (transmission : LoRaTransmission) (order : List Nat) : Except Fault OpalLoRaRadioMedium :=
  match s.receiversRadios.lookup radio with
  | none => .error (.cRuntimeError
      s!"transmitInOpal():: radio {radio} is not registered with opal")
  | some callback =>
    createReceptions par callback.opalReceiverId "" s (order.map fun receiver =>
      (receiver, (par.traced (par.position radio) (par.position receiver)
        transmission.LoRaTP).getD 0))

/-- `sendToRadio`, with no filter: the transmission is set in the callback. -/
def sendToRadio (transmission : LoRaTransmission) (s : OpalLoRaRadioMedium) (receiver : Nat) :
    Except Fault OpalLoRaRadioMedium :=
  if receiver ≠ transmission.transmitter then
    match s.receiversRadios.lookup receiver with
    | none => .error (.cRuntimeError
        s!"sendToRadio():: radio {receiver} is not registered with opal")
    | some callback => .ok { s with
        receiversRadios := s.receiversRadios.insert receiver
          { callback with transmission := some transmission } }
  else .ok s

/-- The cached powers of a transmitter that are not zero. -/
def cachedPowers (CPE : Map Nat ℚ) : List (Nat × ℚ) :=
  (CPE.entries.filter fun rx => rx.2 ≠ 0).map fun rx => (rx.1, rx.2)

/-- What follows `sendToAffectedRadios`. -/
def computeReceptions (radio : Nat)
    (transmission : LoRaTransmission) (order : List Nat) : Except Fault OpalLoRaRadioMedium :=
  if par.isStatic then
    match s.mapReceptions.lookup transmission.transmitter with
    | some CPE =>
      match s.receiversRadios.lookup transmission.transmitter with
      | none => .error .outOfRange
      | some callback => createReceptions par callback.opalReceiverId
          s!"sendToRadio():: radio {radio} is not registered with opal" s (cachedPowers CPE)
    | none => transmitInOpal par
        { s with mapReceptions := s.mapReceptions.insert transmission.transmitter ∅ } radio
        transmission order
  else transmitInOpal par s radio transmission order

def transmitPacket (radio : Nat) (iAmGateway : Bool)
    (frame : LoRaMacFrame) (order : List Nat) : Except Fault OpalLoRaRadioMedium := do
  let transmission := LoRaTransmitter.createTransmission iAmGateway s.transmissions.length radio
    (par.position radio) frame s.simTime
  let s := { s with transmissions := s.transmissions ++ [transmission] }
  let s ← s.radios.foldlM (sendToRadio transmission) s
  computeReceptions par s radio transmission order

/-- The callback is registered under the radio, once. -/
def addRadio (radio : Nat) : OpalLoRaRadioMedium :=
  { s with
    radios := s.radios ++ [radio]
    receiversRadios := s.receiversRadios.subscript radio
      { opalReceiverId := par.opalReceiverId radio, radio } }

/-- A frame is transmitted, or a reception of a transmission is asked for. -/
inductive Event where
  | transmitPacket (t : SimTime) (radio : Nat) (iAmGateway : Bool) (frame : LoRaMacFrame)
      (order : List Nat)
  | getReception (receiver : Nat) (transmission : LoRaTransmission)

def ofExcept (result : Except Fault OpalLoRaRadioMedium) : Option (OpalLoRaRadioMedium × Unit) :=
  match result with
  | .ok s => some (s, ())
  | .error _ => none

def step (event : Event) : Option (OpalLoRaRadioMedium × Unit) :=
  match event with
  | .transmitPacket t radio iAmGateway frame order =>
    if radio ∈ s.radios ∧ s.simTime ≤ t ∧ CallsBack par s
        (LoRaTransmitter.createTransmission iAmGateway s.transmissions.length radio
          (par.position radio) frame t) order then
      ofExcept (transmitPacket par { s with simTime := t } radio iAmGateway frame order)
    else none
  | .getReception receiver transmission =>
    if receiver ∈ s.radios ∧ transmission ∈ s.transmissions ∧
        receiver ≠ transmission.transmitter then
      ofExcept (getReception par s receiver transmission)
    else none

/-- The medium with its radios, before the first transmission. -/
def initial (radios : List Nat) : OpalLoRaRadioMedium :=
  radios.foldl (addRadio par)
    { radios := [], receiversRadios := ∅, mapReceptions := ∅, transmissions := []
      receptions := fun _ _ => none, simTime := 0 }

abbrev OpalRun : List (Event × Unit) → OpalLoRaRadioMedium → Prop :=
  Run (fun s => ∃ radios, s = initial par radios) (StepOf (step par))

end OpalLoRaRadioMedium

end inet.physicallayer
