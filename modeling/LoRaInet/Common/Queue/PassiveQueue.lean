import LoRaInet.Kernel.Assert
import LoRaInet.Transition.Run
import Mathlib.Data.Int.Notation
import Mathlib.Data.List.FinRange
import Mathlib.Logic.Function.Basic

namespace inet

/-- How a scheduler chooses among its inputs: `PriorityScheduler` or `WRRScheduler`. -/
inductive Discipline (n : ℕ) where
  | priority
  | wrr (weights buckets : Fin n → ℤ)

/-- The input that is requested from, and whether the buckets have been filled again. -/
structure Scheduled (n : ℕ) where
  request : Option (Fin n) := none
  refilled : Bool := false

/-- How often each input has been requested from since the buckets were last filled. -/
def Scheduled.servedSinceRefill {n : ℕ} (scheduled : Scheduled n) (served : Fin n → ℕ) (i : Fin n) : ℕ :=
  (if scheduled.request = some i then 1 else 0) + if scheduled.refilled then 0 else served i

namespace Discipline

variable {n : ℕ}

/-- A loop over the inputs that ends at the first one for which the test holds. -/
def firstInput (p : Fin n → Bool) : Option (Fin n) := (List.finRange n).find? p

variable (d : Discipline n)

def schedulePacket (isEmpty : Fin n → Bool) : Discipline n × Scheduled n :=
  match d with
  | .priority => (.priority, { request := firstInput fun i => !isEmpty i })
  | .wrr weights buckets =>
    match firstInput fun i => !isEmpty i && buckets i > 0 with
    | some i => (.wrr weights (Function.update buckets i (buckets i - 1)), { request := some i })
    | none =>
      if ∀ i, isEmpty i = true then (.wrr weights buckets, {})
      else
        match firstInput fun i => weights i > 0 && !isEmpty i with
        | some i =>
          (.wrr weights (Function.update weights i (weights i - 1)),
            { request := some i, refilled := true })
        | none => (.wrr weights weights, { refilled := true })

/-- Whether an input has a positive weight. -/
def positive (i : Fin n) : Bool :=
  match d with
  | .priority => true
  | .wrr weights _ => weights i > 0

/-- What is missing in a bucket, compared to the weight of its input, is what its input has been served. -/
def Filled (served : Fin n → ℕ) : Prop :=
  match d with
  | .priority => True
  | .wrr weights buckets =>
    ∀ i, buckets i + served i = weights i ∧ (0 ≤ buckets i ∨ buckets i = weights i)

/-- Every bucket has the weight of its input. -/
def Full : Discipline n → Prop
  | .priority => True
  | .wrr weights buckets => ∀ i, buckets i = weights i

/-- No input has been served more often than its weight says. -/
def WithinWeights (served : Fin n → ℕ) : Prop :=
  match d with
  | .priority => True
  | .wrr weights _ => ∀ i, (served i : ℤ) ≤ max 0 (weights i)

section FirstInput

variable {p : Fin n → Bool} {i : Fin n}

theorem firstInput_some (h : firstInput p = some i) : p i = true := List.find?_some h

theorem firstInput_eq_none : firstInput p = none ↔ ∀ i, p i = false := by
  simp [firstInput, List.find?_eq_none]

end FirstInput

section SchedulePacket

variable {d d' : Discipline n} {isEmpty : Fin n → Bool} {scheduled : Scheduled n} {served : Fin n → ℕ}

theorem Filled.withinWeights (h : Filled d served) : WithinWeights d served := by
  cases d with
  | priority => trivial
  | wrr weights buckets =>
    intro i
    obtain ⟨hsum, hle⟩ := h i
    omega

theorem Full.filled (h : Full d) (hserved : ∀ i, served i = 0) : Filled d served := by
  cases d with
  | priority => trivial
  | wrr weights buckets => exact fun i => ⟨by simp [hserved i, h i], .inr (h i)⟩

theorem taken_of_positive {weights values : Fin n → ℤ} {i : Fin n} (hpositive : 0 < values i)
    (h : ∀ j, values j + served j = weights j ∧ (0 ≤ values j ∨ values j = weights j)) (j : Fin n) :
    Function.update values i (values i - 1) j + ((if some i = some j then 1 else 0) + served j : ℕ) = weights j ∧
      (0 ≤ Function.update values i (values i - 1) j ∨
        Function.update values i (values i - 1) j = weights j) := by
  obtain ⟨hsum, hle⟩ := h j
  rw [Function.update_apply]
  by_cases hj : j = i
  · subst hj
    rw [if_pos rfl, if_pos rfl]
    push_cast
    exact ⟨by omega, .inl (by omega)⟩
  · rw [if_neg hj, if_neg fun heq => hj (Option.some.inj heq).symm]
    exact ⟨by simpa using hsum, hle⟩

/-- What is requested from is an input with packets and a positive weight, and nothing is requested only if
there is none. -/
theorem schedulePacket_spec (hfilled : Filled d served) (h : d.schedulePacket isEmpty = (d', scheduled)) :
    Filled d' (scheduled.servedSinceRefill served) ∧ d'.positive = d.positive ∧
      (∀ i, scheduled.request = some i → isEmpty i = false ∧ d.positive i = true) ∧
      (scheduled.request = none → ∀ i, d.positive i = true → isEmpty i = true) := by
  cases d with
  | priority =>
    cases h
    refine ⟨trivial, rfl, fun i hi => ⟨?_, rfl⟩, fun hnone i _ => ?_⟩
    · simpa using firstInput_some hi
    · simpa using firstInput_eq_none.mp hnone i
  | wrr weights buckets =>
    unfold schedulePacket at h
    dsimp only at h
    split at h
    · next i hi =>
      cases h
      have htest := firstInput_some hi
      simp only [Bool.and_eq_true, Bool.not_eq_true', decide_eq_true_eq] at htest
      refine ⟨taken_of_positive htest.2 hfilled, rfl, fun j hj => ?_, nofun⟩
      cases hj
      have hsum := (hfilled i).1
      exact ⟨htest.1, decide_eq_true (by omega)⟩
    · next hnone =>
      split at h
      · next hall =>
        cases h
        refine ⟨fun i => ?_, rfl, nofun, fun _ i _ => hall i⟩
        simpa [Scheduled.servedSinceRefill] using hfilled i
      · have hrefilled : ∀ i, weights i + ((fun _ => 0 : Fin n → ℕ) i : ℕ) = weights i ∧
            (0 ≤ weights i ∨ weights i = weights i) := fun i => ⟨by simp, .inr rfl⟩
        split at h
        · next i hi =>
          cases h
          have htest := firstInput_some hi
          simp only [Bool.and_eq_true, Bool.not_eq_true', decide_eq_true_eq] at htest
          refine ⟨taken_of_positive htest.1 hrefilled, rfl, fun j hj => ?_, nofun⟩
          cases hj
          exact ⟨htest.2, decide_eq_true htest.1⟩
        · next hnone =>
          cases h
          refine ⟨hrefilled, rfl, nofun, fun _ i hpositive => ?_⟩
          have htest := firstInput_eq_none.mp hnone i
          have hpositive : decide (weights i > 0) = true := hpositive
          rw [hpositive, Bool.true_and] at htest
          simpa using htest

end SchedulePacket

end Discipline

end inet

open omnetpp transition

namespace inet

/-- `PassiveQueueBase` as a `DropTailQueue`, which has no limit if its capacity is 0, or a `FIFOQueue`. -/
structure PassiveQueueBase (P : Type) where
  queue : List P := []
  frameCapacity : ℕ := 0
  packetRequested : ℕ := 0

/-- `served` is not in the code: it counts how often each input has been requested from since the buckets
were last filled. -/
structure SchedulerBase (n : ℕ) where
  packetsRequestedFromUs : ℕ := 0
  packetsToBeRequestedFromInputs : ℕ := 0
  discipline : Discipline n
  served : Fin n → ℕ := fun _ => 0

/-- A queue, or a scheduler with its inputs, with the packets that it has sent and that have not arrived
yet. -/
inductive PassiveQueue (P : Type) where
  | queue (q : PassiveQueueBase P) (sent : List P)
  | scheduler {n : ℕ} (s : SchedulerBase n) (inputs : Fin n → PassiveQueue P) (sent : List P)

namespace PassiveQueue

variable {P : Type} {n : ℕ}

def sentOf : PassiveQueue P → List P
  | .queue _ sent | .scheduler _ _ sent => sent

def getNumPendingRequests : PassiveQueue P → ℕ
  | .queue q _ => q.packetRequested
  | .scheduler s _ _ => s.packetsRequestedFromUs

def isEmpty : PassiveQueue P → Bool
  | .queue q _ => q.queue.isEmpty
  | .scheduler _ inputs _ => (List.finRange _).all fun i => isEmpty (inputs i)

/-- Schedules a packet, given what each input becomes when it is requested from. -/
def schedule (s : SchedulerBase n) (inputs requested : Fin n → PassiveQueue P) :
    SchedulerBase n × (Fin n → PassiveQueue P) :=
  let (discipline, scheduled) := s.discipline.schedulePacket fun i => isEmpty (inputs i)
  let s := { s with discipline := discipline, served := scheduled.servedSinceRefill s.served }
  match scheduled.request with
  | some i =>
    ({ s with packetsToBeRequestedFromInputs := s.packetsToBeRequestedFromInputs - 1 },
      Function.update inputs i (requested i))
  | none => (s, inputs)

/-- A packet is sent, or the request is kept for the next one. -/
def requestPacket : PassiveQueue P → PassiveQueue P
  | .queue q sent =>
    match q.queue with
    | [] => .queue { q with packetRequested := q.packetRequested + 1 } sent
    | msg :: rest => .queue { q with queue := rest } (sent ++ [msg])
  | .scheduler s inputs sent =>
    let s := { s with
      packetsRequestedFromUs := s.packetsRequestedFromUs + 1
      packetsToBeRequestedFromInputs := s.packetsToBeRequestedFromInputs + 1 }
    let (s, inputs) := schedule s inputs fun i => requestPacket (inputs i)
    .scheduler s inputs sent

/-- Returns whether the listener of the scheduler is notified. -/
def packetEnqueued (s : SchedulerBase n) (inputs : Fin n → PassiveQueue P) :
    SchedulerBase n × (Fin n → PassiveQueue P) × Bool :=
  if s.packetsToBeRequestedFromInputs > 0 then
    let (s, inputs) := schedule s inputs fun i => requestPacket (inputs i)
    (s, inputs, false)
  else (s, inputs, s.packetsRequestedFromUs = 0)

/-- A module notifies its listener, and this perhaps its own one. The way to the module is given by the
numbers of the inputs. -/
def notifyListeners : PassiveQueue P → List ℕ → PassiveQueue P × Bool
  | .scheduler (n := n) s inputs sent, i :: way =>
    if h : i < n then
      let (input, notified) := notifyListeners (inputs ⟨i, h⟩) way
      let inputs := Function.update inputs ⟨i, h⟩ input
      if notified then
        let (s, inputs, notified) := packetEnqueued s inputs
        (.scheduler s inputs sent, notified)
      else (.scheduler s inputs sent, false)
    else (.scheduler s inputs sent, false)
  | q, _ => (q, true)

/-- What becomes of a packet that arrives at a queue. -/
inductive Arrived where
  | forwarded
  | enqueued
  | dropped
  deriving DecidableEq

/-- A packet arrives at the queue at the end of the way, which does not notify its listener yet. -/
def enqueueAt : PassiveQueue P → List ℕ → P → Option (PassiveQueue P × Arrived)
  | .queue q sent, [], msg =>
    if q.packetRequested > 0 then
      some (.queue { q with packetRequested := q.packetRequested - 1 } (sent ++ [msg]), .forwarded)
    else if q.frameCapacity ≠ 0 ∧ q.queue.length ≥ q.frameCapacity then
      some (.queue q sent, .dropped)
    else some (.queue { q with queue := q.queue ++ [msg] } sent, .enqueued)
  | .scheduler (n := n) s inputs sent, i :: way, msg =>
    if h : i < n then
      (enqueueAt (inputs ⟨i, h⟩) way msg).map fun (input, arrived) =>
        (.scheduler s (Function.update inputs ⟨i, h⟩ input) sent, arrived)
    else none
  | _, _, _ => none

/-- `PassiveQueueBase::handleMessage`. -/
def handleMessage (q : PassiveQueue P) (way : List ℕ) (msg : P) :
    Option (PassiveQueue P × Arrived) :=
  (enqueueAt q way msg).map fun (q, arrived) =>
    if arrived = .enqueued then ((notifyListeners q way).1, arrived) else (q, arrived)

/-- The first packet that the module has sent is taken from the connection. -/
def takeSent : PassiveQueue P → Option (P × PassiveQueue P)
  | .queue q (msg :: sent) => some (msg, .queue q sent)
  | .scheduler s inputs (msg :: sent) => some (msg, .scheduler s inputs sent)
  | _ => none

/-- A packet arrives at the scheduler above the module: `SchedulerBase::handleMessage`. -/
def deliver : PassiveQueue P → List ℕ → Option (Except Fault (PassiveQueue P))
  | .scheduler (n := n) s inputs sent, [i] =>
    if h : i < n then
      (takeSent (inputs ⟨i, h⟩)).map fun (msg, input) => do
        ASSERT (s.packetsRequestedFromUs > 0) "packetsRequestedFromUs > 0"
        let s := { s with packetsRequestedFromUs := s.packetsRequestedFromUs - 1 }
        return .scheduler s (Function.update inputs ⟨i, h⟩ input) (sent ++ [msg])
    else none
  | .scheduler (n := n) s inputs sent, i :: way =>
    if h : i < n then
      (deliver (inputs ⟨i, h⟩) way).map fun result =>
        result.map fun input => .scheduler s (Function.update inputs ⟨i, h⟩ input) sent
    else none
  | _, _ => none

def pop : PassiveQueue P → PassiveQueue P × Option P
  | .queue q sent =>
    match q.queue with
    | [] => (.queue q sent, none)
    | msg :: rest => (.queue { q with queue := rest } sent, some msg)
  | .scheduler s inputs sent =>
    match Discipline.firstInput fun i => !isEmpty (inputs i) with
    | some i =>
      let (input, msg) := pop (inputs i)
      (.scheduler s (Function.update inputs i input) sent, msg)
    | none => (.scheduler s inputs sent, none)

/-- Returns the packets that are deleted, too. -/
def clear : PassiveQueue P → PassiveQueue P × List P
  | .queue q sent => (.queue { q with queue := [], packetRequested := 0 } sent, q.queue)
  | .scheduler s inputs sent =>
    (.scheduler { s with packetsRequestedFromUs := 0, packetsToBeRequestedFromInputs := 0 }
      (fun i => (clear (inputs i)).1) sent,
      (List.finRange _).flatMap fun i => (clear (inputs i)).2)

end PassiveQueue

/-- A packet with the queue at which it has entered the chain. -/
structure Packet (M : Type) where
  entered : List ℕ
  msg : M
  deriving DecidableEq

namespace PassiveQueue

variable {M : Type}

/-- Packets arrive at the queues and at the schedulers; the other calls are made to the last module of the
chain. -/
inductive Event (M : Type) where
  | arrival (way : List ℕ) (msg : M)
  | deliver (way : List ℕ)
  | requestPacket
  | pop
  | clear

inductive Output (M : Type) where
  | arrived (arrived : Arrived)
  | popped (msg : Option (Packet M))
  | cleared (msgs : List (Packet M))
  | done

/-- Nothing where there is no such module or no such packet. -/
def handle (q : PassiveQueue (Packet M)) :
    Event M → Option (Except Fault (PassiveQueue (Packet M) × Output M))
  | .arrival way msg => (q.handleMessage way ⟨way, msg⟩).map fun (q, arrived) => .ok (q, .arrived arrived)
  | .deliver way => (q.deliver way).map fun result => result.map fun q => (q, .done)
  | .requestPacket => some (.ok (q.requestPacket, .done))
  | .pop =>
    let (q, msg) := q.pop
    some (.ok (q, .popped msg))
  | .clear =>
    let (q, msgs) := q.clear
    some (.ok (q, .cleared msgs))

def step (q : PassiveQueue (Packet M)) (e : Event M) : Option (PassiveQueue (Packet M) × Output M) :=
  (q.handle e).bind Except.toOption

end PassiveQueue

end inet
