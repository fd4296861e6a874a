import LoRaInet.Container.Basic
import LoRaInet.PhysicalLayer.Signal

open omnetpp container

namespace inet.physicallayer

/-- The index of a part in a vector; `SIGNAL_PART_NONE` is -1. -/
def SignalPart.index : SignalPart → Option Nat
  | .NONE => none
  | .WHOLE => some 0
  | .PREAMBLE => some 1
  | .HEADER => some 2
  | .DATA => some 3

instance {p : SignalPart → Prop} [DecidablePred p] : Decidable (∀ part, p part) :=
  decidable_of_iff (p .NONE ∧ p .WHOLE ∧ p .PREAMBLE ∧ p .HEADER ∧ p .DATA)
    ⟨fun h part => by cases part <;> simp [h], fun h => ⟨h _, h _, h _, h _, h _⟩⟩

/-- The cached objects are pointers, `P` is the type of those that are not
null. An interval tree is the list of the intervals it holds. -/
structure RadioCacheEntry (P : Type) where
  receptionIntervals : Option (List P) := none
  stale : Bool := false

/-- The pointers cached for a reception, but for the decisions. -/
inductive ReceptionField where
  | frame | arrival | interval | listening | reception | interference | noise | snir
  | receptionResult
  deriving DecidableEq

structure ReceptionCacheEntry (P : Type) where
  frame : Option P := none
  arrival : Option P := none
  interval : Option P := none
  listening : Option P := none
  reception : Option P := none
  interference : Option P := none
  noise : Option P := none
  snir : Option P := none
  receptionDecisions : List (Option P) := []
  receptionResult : Option P := none

/-- A time that was never set is the one `NaN` is converted to. -/
structure TransmissionCacheEntry (P : Type) where
  interferenceEndTime : Option SimTime := none
  frame : Option P := none

/-- The whole entry; the base class does not know what holds the receptions. -/
structure TransmissionCacheEntryOf (P R : Type) extends TransmissionCacheEntry P where
  receptionCacheEntries : Option R := none

/-- `interferenceEndTime <= now`; the conversion of `NaN` gives no positive
number. -/
def TransmissionCacheEntry.Expired {P : Type} (entry : TransmissionCacheEntry P) (now : SimTime) :
    Prop :=
  ∀ t ∈ entry.interferenceEndTime, t ≤ now
deriving Decidable

namespace ReceptionCacheEntry

variable {P : Type} (entry : ReceptionCacheEntry P)

def get : ReceptionField → Option P
  | .frame => entry.frame
  | .arrival => entry.arrival
  | .interval => entry.interval
  | .listening => entry.listening
  | .reception => entry.reception
  | .interference => entry.interference
  | .noise => entry.noise
  | .snir => entry.snir
  | .receptionResult => entry.receptionResult

variable (field : ReceptionField)

def put (v : Option P) : ReceptionCacheEntry P :=
  match field with
  | .frame => { entry with frame := v }
  | .arrival => { entry with arrival := v }
  | .interval => { entry with interval := v }
  | .listening => { entry with listening := v }
  | .reception => { entry with reception := v }
  | .interference => { entry with interference := v }
  | .noise => { entry with noise := v }
  | .snir => { entry with snir := v }
  | .receptionResult => { entry with receptionResult := v }

/-- The decision that is cached for a part, if one is. -/
def decision (part : SignalPart) : Option P :=
  part.index.bind fun i => entry.receptionDecisions[i]?.getD none

@[simp] theorem get_put_self (v : Option P) : (entry.put field v).get field = v := by
  cases field <;> rfl

theorem get_put_of_ne {field other : ReceptionField}
    (v : Option P) (hne : field ≠ other) : (entry.put field v).get other = entry.get other := by
  cases field <;> cases other <;> first | rfl | exact absurd rfl hne

@[simp] theorem decision_put
    (v : Option P) (part : SignalPart) : (entry.put field v).decision part = entry.decision part := by
  cases field <;> rfl

end ReceptionCacheEntry

/-- The part of a communication cache that its two implementations differ in.
An entry is returned with the cache in which it has been created; a write
through the returned pointer is a `put`. -/
class CommunicationCacheBase (C : Type) (P : outParam Type) where
  getRadioCacheEntry : C → Nat → C × Option (RadioCacheEntry P)
  putRadioCacheEntry : C → Nat → RadioCacheEntry P → C
  getTransmissionCacheEntry : C → Nat → C × Option (TransmissionCacheEntry P)
  putTransmissionCacheEntry : C → Nat → TransmissionCacheEntry P → C
  getReceptionCacheEntry : C → Nat → Nat → C × Option (ReceptionCacheEntry P)
  putReceptionCacheEntry : C → Nat → Nat → ReceptionCacheEntry P → C
  addRadio : C → Nat → C
  removeRadio : C → Nat → Except Fault C
  addTransmission : C → Nat → C
  removeTransmission : C → Nat → Except Fault C
  removeNonInterferingTransmissions : C → SimTime → Except Fault C

namespace CommunicationCacheBase

variable {C P : Type} [CommunicationCacheBase C P] (c : C) (transmission : Nat)

/-- `getTransmissionCacheEntry(transmission)->...`, read and written. -/
def transmissionCacheEntry : Except Fault (C × TransmissionCacheEntry P) :=
  match getTransmissionCacheEntry c transmission with
  | (_, none) => .error .nullPointer
  | (c, some entry) => .ok (c, entry)

def getCachedInterferenceEndTime : Except Fault (C × Option SimTime) := do
  let (c, entry) ← transmissionCacheEntry c transmission
  .ok (c, entry.interferenceEndTime)

def setCachedInterferenceEndTime (interferenceEndTime : SimTime) : Except Fault C := do
  let (c, entry) ← transmissionCacheEntry c transmission
  .ok (putTransmissionCacheEntry c transmission
    { entry with interferenceEndTime := some interferenceEndTime })

def removeCachedInterferenceEndTime : Except Fault C :=
  setCachedInterferenceEndTime c transmission (-1)

def getCachedTransmissionFrame : Except Fault (C × Option P) := do
  let (c, entry) ← transmissionCacheEntry c transmission
  .ok (c, entry.frame)

def setCachedTransmissionFrame (frame : Option P) : Except Fault C := do
  let (c, entry) ← transmissionCacheEntry c transmission
  .ok (putTransmissionCacheEntry c transmission { entry with frame })

def removeCachedTransmissionFrame : Except Fault C :=
  setCachedTransmissionFrame c transmission none

variable (field : ReceptionField)

/-- The getters of a reception, each with its field. -/
def getCached (c : C) (receiver transmission : Nat) : C × Option P :=
  match getReceptionCacheEntry c receiver transmission with
  | (c, none) => (c, none)
  | (c, some entry) => (c, entry.get field)

/-- The setters of a reception, each with its field. -/
def setCached (c : C) (receiver transmission : Nat) (v : Option P) : Except Fault C :=
  match getReceptionCacheEntry c receiver transmission with
  | (_, none) => .error (.cRuntimeError "Cache entry not found")
  | (c, some entry) => .ok (putReceptionCacheEntry c receiver transmission (entry.put field v))

def removeCached (c : C) (receiver transmission : Nat) : C :=
  match getReceptionCacheEntry c receiver transmission with
  | (c, none) => c
  | (c, some entry) => putReceptionCacheEntry c receiver transmission (entry.put field none)

/-- `receptionIntervals->insert(interval)`, in a tree created when needed. -/
def insertInterval (receiver : Nat) (interval : P) : Except Fault C :=
  match getRadioCacheEntry c receiver with
  | (_, none) => .error .nullPointer
  | (c, some entry) =>
    .ok (putRadioCacheEntry c receiver
      { entry with receptionIntervals := some (entry.receptionIntervals.getD [] ++ [interval]) })

/-- The interval is inserted in the tree of the receiver as well, which reads
its bounds. -/
def setCachedInterval (receiver transmission : Nat) (interval : Option P) : Except Fault C := do
  let c ← setCached .interval c receiver transmission interval
  match interval with
  | none => .error .nullPointer
  | some interval => insertInterval c receiver interval

def getCachedFrame := getCached (C := C) .frame
def getCachedArrival := getCached (C := C) .arrival
def getCachedInterval := getCached (C := C) .interval
def getCachedListening := getCached (C := C) .listening
def getCachedReception := getCached (C := C) .reception
def getCachedInterference := getCached (C := C) .interference
def getCachedNoise := getCached (C := C) .noise
def getCachedSNIR := getCached (C := C) .snir
def getCachedReceptionResult := getCached (C := C) .receptionResult

def setCachedFrame := setCached (C := C) .frame
def setCachedArrival := setCached (C := C) .arrival
def setCachedListening := setCached (C := C) .listening
def setCachedReception := setCached (C := C) .reception
def setCachedInterference := setCached (C := C) .interference
def setCachedNoise := setCached (C := C) .noise
def setCachedSNIR := setCached (C := C) .snir
def setCachedReceptionResult := setCached (C := C) .receptionResult

def removeCachedFrame := removeCached (C := C) .frame
def removeCachedArrival := removeCached (C := C) .arrival
def removeCachedInterval := removeCached (C := C) .interval
def removeCachedListening := removeCached (C := C) .listening
def removeCachedReception := removeCached (C := C) .reception
def removeCachedInterference := removeCached (C := C) .interference
def removeCachedNoise := removeCached (C := C) .noise
def removeCachedSNIR := removeCached (C := C) .snir
def removeCachedReceptionResult := removeCached (C := C) .receptionResult

/-- `receptionDecisions.resize(part + 1)` and `receptionDecisions[part]`. -/
def resizeReceptionDecisions (entry : ReceptionCacheEntry P) (part : SignalPart) :
    Except Fault (Nat × List (Option P)) :=
  match part.index with
  | none => .error .outOfRange
  | some i => .ok (i, resize entry.receptionDecisions (i + 1) none)

def getCachedReceptionDecision (receiver transmission : Nat) (part : SignalPart) :
    Except Fault (C × Option P) :=
  match getReceptionCacheEntry c receiver transmission with
  | (c, none) => .ok (c, none)
  | (c, some entry) => do
    let (i, receptionDecisions) ← resizeReceptionDecisions entry part
    .ok (putReceptionCacheEntry c receiver transmission { entry with receptionDecisions },
      receptionDecisions[i]?.getD none)

def setCachedReceptionDecision (receiver transmission : Nat) (part : SignalPart)
    (receptionDecision : Option P) : Except Fault C :=
  match getReceptionCacheEntry c receiver transmission with
  | (_, none) => .error (.cRuntimeError "Cache entry not found")
  | (c, some entry) => do
    let (i, receptionDecisions) ← resizeReceptionDecisions entry part
    .ok (putReceptionCacheEntry c receiver transmission
      { entry with receptionDecisions := receptionDecisions.set i receptionDecision })

def removeCachedReceptionDecision (receiver transmission : Nat) (part : SignalPart) :
    Except Fault C :=
  match getReceptionCacheEntry c receiver transmission with
  | (c, none) => .ok c
  | (c, some entry) => do
    let (i, receptionDecisions) ← resizeReceptionDecisions entry part
    .ok (putReceptionCacheEntry c receiver transmission
      { entry with receptionDecisions := receptionDecisions.set i none })

end CommunicationCacheBase

end inet.physicallayer
