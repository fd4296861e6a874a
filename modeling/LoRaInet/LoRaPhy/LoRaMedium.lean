import LoRaInet.LoRaPhy.LoRaTransmitter
import LoRaInet.Transition.Run

open omnetpp transition

namespace inet.physicallayer

/-- The arrival of a transmission at a receiver, with the places. -/
structure ArrivalAt extends Arrival where
  startPosition : Coord := {}
  endPosition : Coord := {}

/-- An interval of an `IntervalTree`; the value is the transmission. -/
structure Interval where
  low : SimTime
  high : SimTime
  value : LoRaTransmission
  deriving DecidableEq

/-- `overlap` of the interval tree. -/
def overlap (a1 a2 b1 b2 : SimTime) : Bool :=
  if a1 ≤ b1 then b1 ≤ a2 else a1 ≤ b2

/-- `LoRaReception`, by whom and of what. -/
structure LoRaReception where
  receiver : Nat
  transmission : LoRaTransmission
  startTime : SimTime
  endTime : SimTime
  startPosition : Coord
  endPosition : Coord
  deriving DecidableEq

/-- The part of the communication cache that the medium uses here: it holds
what was set, by radio and by the id of the transmission. -/
structure MediumCache where
  interferenceEndTime : Nat → Option SimTime := fun _ => none
  arrival : Nat → Nat → Option ArrivalAt := fun _ _ => none
  interval : Nat → Nat → Option Interval := fun _ _ => none
  receptionIntervals : Nat → List Interval := fun _ => []

namespace MediumCache

def setCachedInterferenceEndTime (c : MediumCache) (transmission : LoRaTransmission)
    (t : SimTime) : MediumCache :=
  { c with interferenceEndTime := fun id =>
      if id = transmission.id then some t else c.interferenceEndTime id }

def setCachedArrival (c : MediumCache) (receiver : Nat) (transmission : LoRaTransmission)
    (arrival : ArrivalAt) : MediumCache :=
  { c with arrival := fun radio id =>
      if radio = receiver ∧ id = transmission.id then some arrival else c.arrival radio id }

def setCachedInterval (c : MediumCache) (receiver : Nat) (transmission : LoRaTransmission)
    (interval : Interval) : MediumCache :=
  { c with
    interval := fun radio id =>
      if radio = receiver ∧ id = transmission.id then some interval else c.interval radio id
    receptionIntervals := fun radio =>
      if radio = receiver then c.receptionIntervals radio ++ [interval]
      else c.receptionIntervals radio }

/-- Every entry of the transmission goes, with its intervals in the trees. -/
def removeTransmission (c : MediumCache) (transmission : LoRaTransmission) : MediumCache where
  interferenceEndTime id := if id = transmission.id then none else c.interferenceEndTime id
  arrival radio id := if id = transmission.id then none else c.arrival radio id
  interval radio id := if id = transmission.id then none else c.interval radio id
  receptionIntervals radio :=
    match c.interval radio transmission.id with
    | none => c.receptionIntervals radio
    | some interval => (c.receptionIntervals radio).erase interval

def computeInterferingTransmissions (c : MediumCache) (radio : Nat) (startTime endTime : SimTime) :
    List LoRaTransmission :=
  ((c.receptionIntervals radio).filter
    fun interval => overlap startTime endTime interval.low interval.high).map (·.value)

end MediumCache

inductive MediumTimer where
  | removeNonInterferingTransmissionsTimer
  deriving DecidableEq

structure LoRaMedium where
  radios : List Nat
  transmissions : List LoRaTransmission
  transmissionCount : Nat
  cache : MediumCache
  fes : FutureEventSet MediumTimer

namespace LoRaMedium

/-- The limits of `LoRaMediumCache`, and the propagation model with the places
of the radios. A range that is not a number is `none`. -/
structure Parameters where
  computeArrival : LoRaTransmission → Nat → ArrivalAt
  distance : Coord → Coord → ℚ := fun _ _ => 0
  maxTransmissionDuration : SimTime := 10 / 1000
  minInterferenceTime : SimTime := 1 / 1000000000000
  maxInterferenceRange : Option ℚ := none

def isInInterferenceRange (par : Parameters) (transmission : LoRaTransmission)
    (startPosition endPosition : Coord) : Bool :=
  match par.maxInterferenceRange with
  | none => true
  | some range => par.distance transmission.startPosition startPosition < range ∧
      par.distance transmission.endPosition endPosition < range

/-- `isInterferingTransmission(transmission, reception)`, given the arrival of
the transmission at the receiver. -/
def interferes (par : Parameters) (transmission : LoRaTransmission) (arrival : ArrivalAt)
    (reception : LoRaReception) : Bool :=
  transmission.transmitter ≠ reception.receiver ∧
    reception.startTime + par.minInterferenceTime < arrival.endTime ∧
    arrival.startTime < reception.endTime - par.minInterferenceTime ∧
    isInInterferenceRange par transmission reception.startPosition reception.endPosition

/-- `computeReception`, from the arrival. -/
def receptionAt (radio : Nat) (transmission : LoRaTransmission) (arrival : ArrivalAt) :
    LoRaReception where
  receiver := radio
  transmission
  startTime := arrival.startTime
  endTime := arrival.endTime
  startPosition := arrival.startPosition
  endPosition := arrival.endPosition

/-- The loop of `computeInterferingReceptions` over the transmissions found. The
arrival that it reads must be cached. -/
def interferingReceptions (par : Parameters) (c : MediumCache) (reception : LoRaReception) :
    List LoRaTransmission → Except Fault (List LoRaReception)
  | [] => .ok []
  | interferingTransmission :: rest =>
    if reception.transmission ≠ interferingTransmission then
      match c.arrival reception.receiver interferingTransmission.id with
      | none => .error .nullPointer
      | some arrival => do
        let receptions ← interferingReceptions par c reception rest
        .ok (if interferes par interferingTransmission arrival reception then
          receptionAt reception.receiver interferingTransmission arrival :: receptions
        else receptions)
    else interferingReceptions par c reception rest

def computeInterferingReceptions (par : Parameters) (s : LoRaMedium) (reception : LoRaReception) :
    Except Fault (List LoRaReception) :=
  interferingReceptions par s.cache reception
    (s.cache.computeInterferingTransmissions reception.receiver reception.startTime
      reception.endTime)

/-- `scheduleAt` with the interference end time of `transmissions[0]`. -/
def scheduleRemoval (s : LoRaMedium) : Except Fault LoRaMedium :=
  match s.transmissions with
  | [] => .error .outOfRange
  | transmission :: _ =>
    match s.cache.interferenceEndTime transmission.id with
    | none => .error .scheduledToThePast
    | some t => do
      let fes ← s.fes.scheduleAt t .removeNonInterferingTransmissionsTimer
      .ok { s with fes }

/-- The body of the loop over `radios`, with `maxArrivalEndTime`. -/
def addReceiver (par : Parameters) (transmitterRadio : Nat) (transmission : LoRaTransmission)
    (acc : MediumCache × SimTime) (receiverRadio : Nat) : MediumCache × SimTime :=
  if receiverRadio ≠ transmitterRadio then
    let arrival := par.computeArrival transmission receiverRadio
    ((acc.1.setCachedArrival receiverRadio transmission arrival).setCachedInterval receiverRadio
        transmission ⟨arrival.startTime, arrival.endTime, transmission⟩,
      if acc.2 < arrival.endTime then arrival.endTime else acc.2)
  else acc

def addTransmission (par : Parameters) (s : LoRaMedium) (transmitterRadio : Nat)
    (transmission : LoRaTransmission) : Except Fault LoRaMedium :=
  let (cache, maxArrivalEndTime) :=
    s.radios.foldl (addReceiver par transmitterRadio transmission) (s.cache, transmission.endTime)
  let s := { s with
    transmissionCount := s.transmissionCount + 1
    transmissions := s.transmissions ++ [transmission]
    cache := cache.setCachedInterferenceEndTime transmission
      (maxArrivalEndTime + par.maxTransmissionDuration) }
  if .removeNonInterferingTransmissionsTimer ∈ s.fes.messages then .ok s else s.scheduleRemoval

/-- `getCachedInterferenceEndTime(transmission) <= now`; one never set is NaN,
which is converted to no positive time. -/
def Expired (s : LoRaMedium) (transmission : LoRaTransmission) : Bool :=
  ∀ t ∈ s.cache.interferenceEndTime transmission.id, t ≤ s.fes.simTime

def removeNonInterferingTransmissions (s : LoRaMedium) : Except Fault LoRaMedium :=
  let transmissionIndex := (s.transmissions.takeWhile s.Expired).length
  let s := { s with
    cache := (s.transmissions.take transmissionIndex).foldl MediumCache.removeTransmission s.cache
    transmissions := s.transmissions.drop transmissionIndex }
  if s.transmissions ≠ [] then s.scheduleRemoval else .ok s

/-- The arrivals of the transmissions on the medium are cached. -/
def addRadio (par : Parameters) (s : LoRaMedium) (radio : Nat) : LoRaMedium :=
  { s with
    radios := s.radios ++ [radio]
    cache := s.transmissions.foldl (fun c transmission =>
      c.setCachedArrival radio transmission (par.computeArrival transmission radio)) s.cache }

/-- A radio is added, a radio transmits a frame, or the timer is delivered. -/
inductive Event where
  | addRadio (t : SimTime) (radio : Nat)
  | transmit (t : SimTime) (radio : Nat) (iAmGateway : Bool) (position : Coord)
      (frame : LoRaMacFrame)
  | selfMessage (e : ScheduledMessage MediumTimer)

/-- The transmission that is created for a frame. Ids are given in order. -/
def transmissionOf (s : LoRaMedium) (t : SimTime) (radio : Nat) (iAmGateway : Bool)
    (position : Coord) (frame : LoRaMacFrame) : LoRaTransmission :=
  LoRaTransmitter.createTransmission iAmGateway s.transmissionCount radio position frame t

/-- One event, once the clock has moved on to it. A radio is added once. -/
def step (par : Parameters) (s : LoRaMedium) (event : Event) : Option (LoRaMedium × Unit) :=
  match event with
  | .addRadio t radio =>
    if s.fes.IsNext t ∧ radio ∉ s.radios then
      some (addRadio par { s with fes := s.fes.advance t } radio, ())
    else none
  | .transmit t radio iAmGateway position frame =>
    if s.fes.IsNext t then
      match addTransmission par { s with fes := s.fes.advance t } radio
          (s.transmissionOf t radio iAmGateway position frame) with
      | .ok s' => some (s', ())
      | .error _ => none
    else none
  | .selfMessage e =>
    if e ∈ s.fes.scheduled ∧ s.fes.IsNext e.arrivalTime then
      match removeNonInterferingTransmissions { s with fes := s.fes.fire e } with
      | .ok s' => some (s', ())
      | .error _ => none
    else none

/-- The medium before the first transmission, with the radios it has. -/
def initial (radios : List Nat) : LoRaMedium where
  radios
  transmissions := []
  transmissionCount := 0
  cache := {}
  fes := { simTime := 0, scheduled := [] }

/-- A step taken: the event and the state before it. -/
abbrev Label := Event × LoRaMedium × Unit

abbrev MediumRun (par : Parameters) : List Label → LoRaMedium → Prop :=
  Run (fun s => ∃ radios, radios.Nodup ∧ s = initial radios) (StepOf (traced (step par)))

end LoRaMedium

end inet.physicallayer
