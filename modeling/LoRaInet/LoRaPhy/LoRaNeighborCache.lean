import LoRaInet.LoRaPhy.LoRaTransmitter
import LoRaInet.Transition.Run
import Mathlib.Data.NNRat.Defs

open omnetpp

namespace inet.physicallayer

/-- A radio, with `getMaxSpeed` of its mobility; NaN is `none`. -/
structure IRadio where
  id : Nat
  maxSpeed : Option ℚ≥0
  deriving DecidableEq

def Coord.sqrdist (a b : Coord) : ℚ := (a.x - b.x) ^ 2 + (a.y - b.y) ^ 2 + (a.z - b.z) ^ 2

def maxIgnoreNaN : Option ℚ≥0 → Option ℚ≥0 → Option ℚ≥0
  | none, b => b
  | a, none => a
  | some a, some b => if a > b then some a else some b

/-- The limit of the medium that the neighbor cache reads. `parMaxSpeed` is the
parameter of the module. -/
structure MediumLimitCache where
  parMaxSpeed : Option ℚ≥0
  radios : List IRadio
  maxSpeed : Option ℚ≥0

namespace MediumLimitCache

def computeMaxSpeed (parMaxSpeed : Option ℚ≥0) (radios : List IRadio) : Option ℚ≥0 :=
  radios.foldl (fun maxSpeed radio => maxIgnoreNaN maxSpeed radio.maxSpeed) parMaxSpeed

variable (c : MediumLimitCache)

def updateLimits : MediumLimitCache :=
  { c with maxSpeed := computeMaxSpeed c.parMaxSpeed c.radios }

def addRadio (radio : IRadio) : MediumLimitCache :=
  { c with radios := c.radios ++ [radio] }.updateLimits

def removeRadio (radio : IRadio) : MediumLimitCache :=
  { c with radios := c.radios.filter (· ≠ radio) }.updateLimits

end MediumLimitCache

structure RadioEntry where
  radio : IRadio
  neighborVector : List IRadio

/-- The entries of the radios that were removed are still reached through
`radioToEntry`. -/
structure LoRaNeighborCache where
  radios : List RadioEntry
  detached : List RadioEntry
  updateNeighborListsTimer : Option SimTime
  refillPeriod : ℚ≥0
  range : ℚ≥0
  maxSpeed : Option ℚ≥0

namespace LoRaNeighborCache

variable (c : LoRaNeighborCache)

def radioToEntry (radio : IRadio) : Option RadioEntry :=
  (c.radios ++ c.detached).find? (·.radio = radio)

def sendToNeighbors (transmitter : IRadio) (range : ℚ) : Except Fault (List IRadio) :=
  if c.range < range then
    .error (.cRuntimeError s!"The transmitter's (id: {transmitter.id}) range is bigger then the cache range")
  else match c.radioToEntry transmitter with
    | none => .error (.cRuntimeError "Transmitter is not found")
    | some radioEntry => .ok radioEntry.neighborVector

/-- The comparison with the square of a radius that may be NaN. -/
def inRadius (radius : Option ℚ) (a b : Coord) : Bool :=
  match radius with
  | none => false
  | some radius => a.sqrdist b ≤ radius * radius

def radius : Option ℚ :=
  c.maxSpeed.map fun maxSpeed => maxSpeed * c.refillPeriod + c.range

def updateNeighborList (position : Nat → Coord) (radioEntry : RadioEntry) : RadioEntry :=
  { radioEntry with
    neighborVector := (c.radios.map (·.radio)).filter fun otherRadio =>
      otherRadio.id ≠ radioEntry.radio.id &&
        inRadius c.radius (position otherRadio.id) (position radioEntry.radio.id) }

def updateNeighborLists (position : Nat → Coord) : LoRaNeighborCache :=
  { c with radios := c.radios.map (c.updateNeighborList position) }

variable (simTime : SimTime)

/-- The timer is scheduled to the end of the period if the test before it passes. -/
def schedule (condition : Bool) : LoRaNeighborCache :=
  if condition then { c with updateNeighborListsTimer := some (simTime + c.refillPeriod) } else c

/-- `INITSTAGE_LINK_LAYER_2` of `initialize`. -/
def initLinkLayer2 (position : Nat → Coord) (maxSpeed : Option ℚ≥0) : LoRaNeighborCache :=
  ({ c with maxSpeed }.updateNeighborLists position).schedule simTime (maxSpeed ≠ some 0)

def handleMessage (position : Nat → Coord) : LoRaNeighborCache :=
  (c.updateNeighborLists position).schedule simTime true

def addRadio (position : Nat → Coord)
    (initialized : Bool) (maxSpeed : Option ℚ≥0) (radio : IRadio) : LoRaNeighborCache :=
  let newEntry := { radio, neighborVector := [] }
  let c := { c with radios := c.radios ++ [newEntry] }.updateNeighborLists position
  { c with maxSpeed }.schedule simTime
    (maxSpeed ≠ some 0 && !c.updateNeighborListsTimer.isSome && initialized)

/-- The vector that is erased from is a copy of the one of the entry. -/
def removeRadioFromNeighborLists (radios : List RadioEntry) (radio : IRadio) : List RadioEntry :=
  radios.map fun elem =>
    let _neighborVector := elem.neighborVector.erase radio
    elem

def removeRadio (initialized : Bool) (maxSpeed : Option ℚ≥0)
    (radio : IRadio) : Except Fault LoRaNeighborCache :=
  match c.radios.find? (·.radio = radio) with
  | none => .error (.cRuntimeError s!"You can't remove radio: {radio.id} because it is not in our radio vector")
  | some it =>
    let radios := (removeRadioFromNeighborLists c.radios radio).eraseP (·.radio = radio)
    .ok { c with
      radios
      detached := it :: c.detached
      maxSpeed
      updateNeighborListsTimer :=
        if maxSpeed = some 0 && initialized then none else c.updateNeighborListsTimer }

end LoRaNeighborCache

/-- The radios on a medium with a neighbor cache, and where they are. -/
structure RadiosOnMedium where
  simTime : SimTime
  position : Nat → Coord
  initialized : Bool
  neighborCache : LoRaNeighborCache
  mediumLimitCache : MediumLimitCache

namespace RadiosOnMedium

inductive Event where
  | linkLayer2
  | addRadio (radio : IRadio)
  | removeRadio (radio : IRadio)
  | updateNeighborListsTimer
  | move (t : SimTime) (position : Nat → Coord)

/-- Before any radio is added, with the parameters of the modules. -/
def new (refillPeriod range : ℚ≥0) (parMaxSpeed : Option ℚ≥0) (position : Nat → Coord) :
    RadiosOnMedium where
  simTime := 0
  position
  initialized := false
  neighborCache :=
    { radios := [], detached := [], updateNeighborListsTimer := none, refillPeriod, range,
      maxSpeed := none }
  mediumLimitCache := { parMaxSpeed, radios := [], maxSpeed := none }

/-- The part of `LoRaMedium::addRadio` that both caches see. -/
def addRadio (s : RadiosOnMedium) (radio : IRadio) : RadiosOnMedium :=
  let neighborCache := s.neighborCache.addRadio s.simTime s.position s.initialized
    s.mediumLimitCache.maxSpeed radio
  { s with neighborCache, mediumLimitCache := s.mediumLimitCache.addRadio radio }

def removeRadio (s : RadiosOnMedium) (radio : IRadio) : Except Fault RadiosOnMedium := do
  let neighborCache ← s.neighborCache.removeRadio s.initialized s.mediumLimitCache.maxSpeed radio
  .ok { s with neighborCache, mediumLimitCache := s.mediumLimitCache.removeRadio radio }

/-- Time passes while the radios move, up to the timer at the latest. -/
def step (s : RadiosOnMedium) : Event → Option (RadiosOnMedium × Unit)
  | .linkLayer2 =>
    if s.initialized then none
    else some ({ s with
      initialized := true
      neighborCache := s.neighborCache.initLinkLayer2 s.simTime s.position
        s.mediumLimitCache.maxSpeed }, ())
  | .addRadio radio => some (s.addRadio radio, ())
  | .removeRadio radio => (s.removeRadio radio).toOption.map (·, ())
  | .updateNeighborListsTimer =>
    if s.neighborCache.updateNeighborListsTimer = some s.simTime then
      some ({ s with neighborCache := s.neighborCache.handleMessage s.simTime s.position }, ())
    else none
  | .move t position =>
    if s.simTime ≤ t ∧ ∀ τ ∈ s.neighborCache.updateNeighborListsTimer, t ≤ τ then
      some ({ s with simTime := t, position }, ())
    else none

end RadiosOnMedium

end inet.physicallayer
