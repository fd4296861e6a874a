import LoRaInet.PhysicalLayer.CommunicationCache.CommunicationCacheBase

open omnetpp

namespace inet.physicallayer

/-- What a pointer is cached for. -/
inductive PointerKey where
  | frame (transmission : Nat)
  | reception (field : ReceptionField) (receiver transmission : Nat)
  | receptionDecision (part : SignalPart) (receiver transmission : Nat)
  deriving DecidableEq

def PointerKey.isInterval : PointerKey → Bool
  | .reception .interval _ _ => true
  | _ => false

/-- The calls of `ICommunicationCache`. -/
inductive Call (P : Type) where
  | addRadio (radio : Nat)
  | removeRadio (radio : Nat)
  | addTransmission (transmission : Nat)
  | removeTransmission (transmission : Nat)
  | removeNonInterferingTransmissions (now : SimTime)
  | getCachedInterferenceEndTime (transmission : Nat)
  | setCachedInterferenceEndTime (transmission : Nat) (interferenceEndTime : SimTime)
  | removeCachedInterferenceEndTime (transmission : Nat)
  | get (key : PointerKey)
  | set (key : PointerKey) (v : Option P)
  | remove (key : PointerKey)
  deriving DecidableEq

/-- What a call returns. -/
inductive Output (P : Type) where
  | done
  | time (t : Option SimTime)
  | pointer (v : Option P)
  deriving DecidableEq

namespace CommunicationCacheBase

variable {C P : Type} [CommunicationCacheBase C P]

def getter : ReceptionField → C → Nat → Nat → C × Option P
  | .frame => getCachedFrame
  | .arrival => getCachedArrival
  | .interval => getCachedInterval
  | .listening => getCachedListening
  | .reception => getCachedReception
  | .interference => getCachedInterference
  | .noise => getCachedNoise
  | .snir => getCachedSNIR
  | .receptionResult => getCachedReceptionResult

def setter : ReceptionField → C → Nat → Nat → Option P → Except Fault C
  | .frame => setCachedFrame
  | .arrival => setCachedArrival
  | .interval => setCachedInterval
  | .listening => setCachedListening
  | .reception => setCachedReception
  | .interference => setCachedInterference
  | .noise => setCachedNoise
  | .snir => setCachedSNIR
  | .receptionResult => setCachedReceptionResult

def remover : ReceptionField → C → Nat → Nat → C
  | .frame => removeCachedFrame
  | .arrival => removeCachedArrival
  | .interval => removeCachedInterval
  | .listening => removeCachedListening
  | .reception => removeCachedReception
  | .interference => removeCachedInterference
  | .noise => removeCachedNoise
  | .snir => removeCachedSNIR
  | .receptionResult => removeCachedReceptionResult

theorem getter_eq (field : ReceptionField) : getter (C := C) field = getCached field := by
  cases field <;> rfl

theorem setter_eq {field : ReceptionField} (hne : field ≠ .interval) :
    setter (C := C) field = setCached field := by
  cases field <;> first | rfl | exact absurd rfl hne

theorem remover_eq (field : ReceptionField) : remover (C := C) field = removeCached field := by
  cases field <;> rfl

def getPointer (c : C) : PointerKey → Except Fault (C × Option P)
  | .frame transmission => getCachedTransmissionFrame c transmission
  | .reception field receiver transmission => .ok (getter field c receiver transmission)
  | .receptionDecision part receiver transmission =>
    getCachedReceptionDecision c receiver transmission part

def setPointer (c : C) : PointerKey → Option P → Except Fault C
  | .frame transmission, v => setCachedTransmissionFrame c transmission v
  | .reception field receiver transmission, v => setter field c receiver transmission v
  | .receptionDecision part receiver transmission, v =>
    setCachedReceptionDecision c receiver transmission part v

def removePointer (c : C) : PointerKey → Except Fault C
  | .frame transmission => removeCachedTransmissionFrame c transmission
  | .reception field receiver transmission => .ok (remover field c receiver transmission)
  | .receptionDecision part receiver transmission =>
    removeCachedReceptionDecision c receiver transmission part

def perform (c : C) : Call P → Except Fault (C × Output P)
  | .addRadio radio => .ok (addRadio c radio, .done)
  | .removeRadio radio => do
    let c ← removeRadio c radio
    .ok (c, .done)
  | .addTransmission transmission => .ok (addTransmission c transmission, .done)
  | .removeTransmission transmission => do
    let c ← removeTransmission c transmission
    .ok (c, .done)
  | .removeNonInterferingTransmissions now => do
    let c ← removeNonInterferingTransmissions c now
    .ok (c, .done)
  | .getCachedInterferenceEndTime transmission => do
    let (c, t) ← getCachedInterferenceEndTime c transmission
    .ok (c, .time t)
  | .setCachedInterferenceEndTime transmission interferenceEndTime => do
    let c ← setCachedInterferenceEndTime c transmission interferenceEndTime
    .ok (c, .done)
  | .removeCachedInterferenceEndTime transmission => do
    let c ← removeCachedInterferenceEndTime c transmission
    .ok (c, .done)
  | .get key => do
    let (c, v) ← getPointer c key
    .ok (c, .pointer v)
  | .set key v => do
    let c ← setPointer c key v
    .ok (c, .done)
  | .remove key => do
    let c ← removePointer c key
    .ok (c, .done)

end CommunicationCacheBase

/-- The pointer that was last set for a key, unless it was removed since. The
calls are given with the most recent one first. -/
def stored {P : Type} : List (Call P) → PointerKey → Option P
  | [], _ => none
  | .set other v :: history, key => if other = key then v else stored history key
  | .remove other :: history, key => if other = key then none else stored history key
  | _ :: history, key => stored history key

/-- The interference end time that was last set; to remove it is to set -1. -/
def storedInterferenceEndTime {P : Type} : List (Call P) → Nat → Option SimTime
  | [], _ => none
  | .setCachedInterferenceEndTime other t :: history, transmission =>
    if other = transmission then some t else storedInterferenceEndTime history transmission
  | .removeCachedInterferenceEndTime other :: history, transmission =>
    if other = transmission then some (-1) else storedInterferenceEndTime history transmission
  | _ :: history, transmission => storedInterferenceEndTime history transmission

/-- What a call is expected to return. -/
def Call.expected {P : Type} (history : List (Call P)) : Call P → Output P
  | .getCachedInterferenceEndTime transmission =>
    .time (storedInterferenceEndTime history transmission)
  | .get key => .pointer (stored history key)
  | _ => .done

/-- The radios and transmissions that are alive, and the ids that are free. -/
structure Directory where
  radios : List Nat := []
  transmissions : List Nat := []
  nextRadio : Nat := 0
  nextTransmission : Nat := 0

namespace Directory

variable (d : Directory)

def addRadio (radio : Nat) : Directory :=
  { d with radios := radio :: d.radios, nextRadio := radio + 1 }

def removeRadio (radio : Nat) : Directory :=
  { d with radios := d.radios.filter (· ≠ radio) }

def addTransmission (transmission : Nat) : Directory :=
  { d with transmissions := transmission :: d.transmissions, nextTransmission := transmission + 1 }

def removeTransmission (transmission : Nat) : Directory :=
  { d with transmissions := d.transmissions.filter (· ≠ transmission) }

/-- The radio and the transmission of a key are alive, and it names a part. -/
def HasKey : PointerKey → Prop
  | .frame transmission => transmission ∈ d.transmissions
  | .reception _ receiver transmission => receiver ∈ d.radios ∧ transmission ∈ d.transmissions
  | .receptionDecision part receiver transmission =>
    part ≠ .NONE ∧ receiver ∈ d.radios ∧ transmission ∈ d.transmissions

/-- Ids increase in order of creation, and only what is alive is used. No null
interval is set: it is inserted in a tree. -/
def Allows {P : Type} (d : Directory) : Call P → Prop
  | .addRadio radio => d.nextRadio ≤ radio
  | .removeRadio radio => radio ∈ d.radios
  | .addTransmission transmission => d.nextTransmission ≤ transmission
  | .removeTransmission transmission => transmission ∈ d.transmissions
  | .removeNonInterferingTransmissions _ => True
  | .getCachedInterferenceEndTime transmission => transmission ∈ d.transmissions
  | .setCachedInterferenceEndTime transmission _ => transmission ∈ d.transmissions
  | .removeCachedInterferenceEndTime transmission => transmission ∈ d.transmissions
  | .get key => d.HasKey key
  | .set key v => d.HasKey key ∧ (key.isInterval → v ≠ none)
  | .remove key => d.HasKey key

instance (d : Directory) : DecidablePred d.HasKey
  | .frame _ => inferInstanceAs (Decidable (_ ∈ _))
  | .reception .. | .receptionDecision .. => inferInstanceAs (Decidable (_ ∧ _))

instance {P : Type} [DecidableEq P] (d : Directory) : DecidablePred (d.Allows (P := P))
  | .addRadio _ | .addTransmission _ => inferInstanceAs (Decidable (_ ≤ _))
  | .removeRadio _ | .removeTransmission _ | .getCachedInterferenceEndTime _ | .setCachedInterferenceEndTime _ _
  | .removeCachedInterferenceEndTime _ => inferInstanceAs (Decidable (_ ∈ _))
  | .removeNonInterferingTransmissions _ => isTrue trivial
  | .get key | .remove key => inferInstanceAs (Decidable (d.HasKey key))
  | .set key _ => inferInstanceAs (Decidable (d.HasKey key ∧ _))

end Directory

def directory {P : Type} : List (Call P) → Directory
  | [] => {}
  | .addRadio radio :: history => (directory history).addRadio radio
  | .removeRadio radio :: history => (directory history).removeRadio radio
  | .addTransmission transmission :: history => (directory history).addTransmission transmission
  | .removeTransmission transmission :: history =>
    (directory history).removeTransmission transmission
  | _ :: history => directory history

/-- No decision is stored for a later part of a signal. -/
def NoLaterStored {P : Type} (history : List (Call P)) (part : SignalPart)
    (receiver transmission : Nat) : Prop :=
  ∀ later : SignalPart, part.index < later.index →
    stored history (.receptionDecision later receiver transmission) = none

instance {P : Type} [DecidableEq P] (history : List (Call P)) (part : SignalPart)
    (receiver transmission : Nat) : Decidable (NoLaterStored history part receiver transmission) :=
  have (later : SignalPart) : Decidable (part.index < later.index) :=
    inferInstanceAs (Decidable (Option.lt (· < ·) part.index later.index))
  inferInstanceAs (Decidable (∀ later : SignalPart, part.index < later.index → _))

/-- A decision call finds no decision cached for a later part, which the
resizing of the vector would drop. -/
def KeepsDecisions {P : Type} (history : List (Call P)) : Call P → Prop
  | .get (.receptionDecision part receiver transmission) =>
    NoLaterStored history part receiver transmission
  | .set (.receptionDecision part receiver transmission) _ =>
    NoLaterStored history part receiver transmission
  | .remove (.receptionDecision part receiver transmission) =>
    NoLaterStored history part receiver transmission
  | _ => True

instance {P : Type} [DecidableEq P] (history : List (Call P)) :
    DecidablePred (KeepsDecisions history)
  | .get (.receptionDecision _ _ _) | .set (.receptionDecision _ _ _) _
  | .remove (.receptionDecision _ _ _) => inferInstanceAs (Decidable (NoLaterStored ..))
  | .get (.frame _) | .get (.reception _ _ _) | .set (.frame _) _ | .set (.reception _ _ _) _
  | .remove (.frame _) | .remove (.reception _ _ _) | .addRadio _ | .removeRadio _
  | .addTransmission _ | .removeTransmission _ | .removeNonInterferingTransmissions _
  | .getCachedInterferenceEndTime _ | .setCachedInterferenceEndTime _ _
  | .removeCachedInterferenceEndTime _ => isTrue trivial

end inet.physicallayer
