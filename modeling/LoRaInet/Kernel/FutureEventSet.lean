import Mathlib.Algebra.Order.Field.Rat
import Mathlib.Data.List.Nodup

namespace omnetpp

/-- Simulation time in seconds, exact where `simtime_t` counts ticks. -/
abbrev SimTime := ℚ

/-- The ways a call of the simulated program ends without returning. -/
inductive Fault where
  | cRuntimeError (text : String)
  | scheduledToThePast
  /-- An access outside a container, which the language leaves undefined. -/
  | outOfRange
  | nullPointer
  deriving DecidableEq

theorem bind_eq_ok_iff {A B : Type} {x : Except Fault A} {f : A → Except Fault B} {b : B} :
    (x >>= f) = .ok b ↔ ∃ a, x = .ok a ∧ f a = .ok b := by
  cases x with
  | error fault | ok a => simp [bind, Except.bind]

theorem toOption_eq_some {A : Type} {x : Except Fault A} {a : A} :
    x.toOption = some a ↔ x = .ok a := by
  cases x with
  | error fault | ok b => simp [Except.toOption]

/-- A self message waiting for its arrival time. -/
structure ScheduledMessage (M : Type) where
  arrivalTime : SimTime
  message : M
  deriving DecidableEq

/-- The clock of the simulation and the self messages a module has scheduled. -/
structure FutureEventSet (M : Type) where
  simTime : SimTime
  scheduled : List (ScheduledMessage M)
  deriving DecidableEq

namespace FutureEventSet

variable {M : Type} (fes : FutureEventSet M) (t : SimTime)

def scheduleAt (message : M) : Except Fault (FutureEventSet M) :=
  if t < fes.simTime then .error .scheduledToThePast
  else .ok { fes with scheduled := fes.scheduled ++ [⟨t, message⟩] }

/-- Nothing is scheduled before `t`, and `t` is not in the past. -/
def IsNext : Prop :=
  fes.simTime ≤ t ∧ ∀ e ∈ fes.scheduled, t ≤ e.arrivalTime
deriving Decidable

/-- The clock moves on to `t`, for an event that comes from another module. -/
def advance : FutureEventSet M := { fes with simTime := t }

/-- The scheduled message is taken out and delivered at its arrival time. -/
def fire [DecidableEq M] (fes : FutureEventSet M) (e : ScheduledMessage M) : FutureEventSet M :=
  { simTime := e.arrivalTime, scheduled := fes.scheduled.erase e }

def messages : List M := fes.scheduled.map (·.message)

@[simp] theorem advance_simTime : (fes.advance t).simTime = t := rfl

@[simp] theorem advance_scheduled : (fes.advance t).scheduled = fes.scheduled := rfl

@[simp] theorem advance_messages : (fes.advance t).messages = fes.messages := rfl

theorem scheduleAt_eq_ok {fes fes' : FutureEventSet M} {t : SimTime} {message : M} :
    fes.scheduleAt t message = .ok fes' ↔ fes.simTime ≤ t ∧
      fes' = { fes with scheduled := fes.scheduled ++ [⟨t, message⟩] } := by
  unfold scheduleAt
  split
  · next hpast => simp [not_le_of_gt hpast]
  · next hpast => simp [not_lt.mp hpast, eq_comm]

end FutureEventSet

end omnetpp
