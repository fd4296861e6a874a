import LoRaInet.Common.Queue.PassiveQueue
import Mathlib.Algebra.BigOperators.Fin

open omnetpp transition

namespace inet.PassiveQueue

variable {P : Type} {n : ℕ} {s s' : SchedulerBase n} {inputs inputs' requested : Fin n → PassiveQueue P}
  {q q' : PassiveQueue P} {sent : List P} {way : List ℕ} {i : Fin n}

/-- The requests that a module has not answered, as the scheduler above it sees it. -/
def owed (q : PassiveQueue P) : ℕ := q.getNumPendingRequests + q.sentOf.length

/-- The requests of every scheduler are to be made of its inputs, or have been made and not answered. -/
def Agree : PassiveQueue P → Prop
  | .queue _ _ => True
  | .scheduler s inputs _ =>
    s.packetsRequestedFromUs = s.packetsToBeRequestedFromInputs + ∑ i, owed (inputs i) ∧
      ∀ i, Agree (inputs i)

/-- No request waits for a packet. -/
def Answered : PassiveQueue P → Prop
  | .queue q _ => q.packetRequested = 0
  | .scheduler s inputs _ => s.packetsToBeRequestedFromInputs = 0 ∧ ∀ i, Answered (inputs i)

def AllFilled : PassiveQueue P → Prop
  | .queue _ _ => True
  | .scheduler s inputs _ => s.discipline.Filled s.served ∧ ∀ i, AllFilled (inputs i)

/-- Of the inputs of a scheduler that have packets one has a positive weight. -/
def Ready : PassiveQueue P → Prop
  | .queue _ _ => True
  | .scheduler s inputs _ =>
    ((∃ i, isEmpty (inputs i) = false) → ∃ i, isEmpty (inputs i) = false ∧ s.discipline.positive i = true) ∧
      ∀ i, Ready (inputs i)

/-- Only the last module of the chain lets requests wait, and only as long as it could not have answered them. -/
def Waiting : PassiveQueue P → Prop
  | .queue q _ => 0 < q.packetRequested → q.queue = []
  | .scheduler s inputs _ =>
    (∀ i, Answered (inputs i)) ∧
      (0 < s.packetsToBeRequestedFromInputs → ∀ i, s.discipline.positive i = true → isEmpty (inputs i) = true)

/-- The packets in all queues. -/
def queued : PassiveQueue P → ℕ
  | .queue q _ => q.queue.length
  | .scheduler _ inputs _ => ∑ i, queued (inputs i)

theorem isEmpty_iff : isEmpty q = true ↔ queued q = 0 := by
  induction q with
  | queue q sent => simp [isEmpty, queued]
  | scheduler s inputs sent ih =>
    unfold isEmpty queued
    rw [List.all_eq_true, Finset.sum_eq_zero_iff]
    simp only [List.mem_finRange, Finset.mem_univ, forall_const, ih]

theorem isEmpty_scheduler :
    isEmpty (.scheduler s inputs sent) = false ↔ ∃ i, isEmpty (inputs i) = false := by
  rw [isEmpty, List.all_eq_false]
  simp

theorem sum_update (f : PassiveQueue P → ℕ) (inputs : Fin n → PassiveQueue P) (i : Fin n)
    (q : PassiveQueue P) :
    ∑ j, f (Function.update inputs i q j) + f (inputs i) = ∑ j, f (inputs j) + f q := by
  have hrest : ∑ j ∈ Finset.univ.erase i, f (Function.update inputs i q j) =
      ∑ j ∈ Finset.univ.erase i, f (inputs j) :=
    Finset.sum_congr rfl fun j hj => by rw [Function.update_of_ne (Finset.ne_of_mem_erase hj)]
  rw [← Finset.add_sum_erase _ _ (Finset.mem_univ i), ← Finset.add_sum_erase _ _ (Finset.mem_univ i),
    hrest, Function.update_self]
  omega

theorem forall_update {p : PassiveQueue P → Prop} (h : ∀ j, p (inputs j)) (hq : p q) (j : Fin n) :
    p (Function.update inputs i q j) := by
  by_cases hj : j = i
  · subst hj
    rw [Function.update_self]
    exact hq
  · rw [Function.update_of_ne hj]
    exact h j

/-- One input with packets and a positive weight is requested from, unless there is none. -/
theorem schedule_cases (h : schedule s inputs requested = (s', inputs'))
    (hfilled : s.discipline.Filled s.served) :
    s'.discipline.Filled s'.served ∧ s'.discipline.positive = s.discipline.positive ∧
      s'.packetsRequestedFromUs = s.packetsRequestedFromUs ∧
      ((∃ i, isEmpty (inputs i) = false ∧ s.discipline.positive i = true ∧
          inputs' = Function.update inputs i (requested i) ∧
          s'.packetsToBeRequestedFromInputs = s.packetsToBeRequestedFromInputs - 1) ∨
        (∀ i, s.discipline.positive i = true → isEmpty (inputs i) = true) ∧ inputs' = inputs ∧
          s'.packetsToBeRequestedFromInputs = s.packetsToBeRequestedFromInputs) := by
  unfold schedule at h
  cases hscheduled : s.discipline.schedulePacket fun i => isEmpty (inputs i) with
  | mk discipline scheduled =>
    obtain ⟨hfilled', hpositive, hsome, hnone⟩ := Discipline.schedulePacket_spec hfilled hscheduled
    rw [hscheduled] at h
    dsimp only at h
    cases hrequest : scheduled.request with
    | some i =>
      rw [hrequest] at h
      cases h
      obtain ⟨hempty, hpos⟩ := hsome i hrequest
      exact ⟨hfilled', hpositive, rfl, .inl ⟨i, hempty, hpos, rfl, rfl⟩⟩
    | none =>
      rw [hrequest] at h
      cases h
      exact ⟨hfilled', hpositive, rfl, .inr ⟨hnone hrequest, rfl, rfl⟩⟩

theorem requestPacket_cases (hfilled : s.discipline.Filled s.served) :
    ∃ s' inputs', requestPacket (.scheduler s inputs sent) = .scheduler s' inputs' sent ∧
      s'.discipline.Filled s'.served ∧ s'.discipline.positive = s.discipline.positive ∧
      s'.packetsRequestedFromUs = s.packetsRequestedFromUs + 1 ∧
      ((∃ i, isEmpty (inputs i) = false ∧ s.discipline.positive i = true ∧
          inputs' = Function.update inputs i (requestPacket (inputs i)) ∧
          s'.packetsToBeRequestedFromInputs = s.packetsToBeRequestedFromInputs) ∨
        (∀ i, s.discipline.positive i = true → isEmpty (inputs i) = true) ∧ inputs' = inputs ∧
          s'.packetsToBeRequestedFromInputs = s.packetsToBeRequestedFromInputs + 1) := by
  cases h : schedule { s with
      packetsRequestedFromUs := s.packetsRequestedFromUs + 1
      packetsToBeRequestedFromInputs := s.packetsToBeRequestedFromInputs + 1 } inputs
        (fun i => requestPacket (inputs i)) with
  | mk s' inputs' =>
    refine ⟨s', inputs', ?_, schedule_cases h hfilled⟩
    unfold requestPacket
    dsimp only
    rw [h]

theorem AllFilled.requestPacket (h : AllFilled q) : AllFilled (requestPacket q) := by
  induction q with
  | queue q sent =>
    unfold PassiveQueue.requestPacket
    split <;> trivial
  | scheduler s inputs sent ih =>
    obtain ⟨s', inputs', heq, hfilled, -, -, hcases⟩ := @requestPacket_cases _ _ s inputs sent h.1
    rw [heq]
    refine ⟨hfilled, ?_⟩
    rcases hcases with ⟨i, -, -, rfl, -⟩ | ⟨-, rfl, -⟩
    · exact forall_update h.2 (ih i (h.2 i))
    · exact h.2

theorem owed_requestPacket (h : AllFilled q) : owed (requestPacket q) = owed q + 1 := by
  cases q with
  | queue q sent =>
    unfold requestPacket
    split
    · simp [owed, getNumPendingRequests, sentOf, add_right_comm]
    · simp [owed, getNumPendingRequests, sentOf, add_assoc]
  | scheduler s inputs sent =>
    obtain ⟨s', inputs', heq, -, -, hrequested, -⟩ := @requestPacket_cases _ _ s inputs sent h.1
    rw [heq]
    simp only [owed, getNumPendingRequests, sentOf, hrequested]
    omega

theorem Agree.requestPacket (hfilled : AllFilled q) (h : Agree q) : Agree (requestPacket q) := by
  induction q with
  | queue q sent =>
    unfold PassiveQueue.requestPacket
    split <;> trivial
  | scheduler s inputs sent ih =>
    obtain ⟨s', inputs', heq, -, -, hrequested, hcases⟩ := @requestPacket_cases _ _ s inputs sent hfilled.1
    have hsum := h.1
    rw [heq]
    rcases hcases with ⟨i, -, -, rfl, htoBe⟩ | ⟨-, rfl, htoBe⟩
    · have hupdate := sum_update owed inputs i (PassiveQueue.requestPacket (inputs i))
      rw [owed_requestPacket (hfilled.2 i)] at hupdate
      exact ⟨by omega, forall_update h.2 (ih i (hfilled.2 i) (h.2 i))⟩
    · exact ⟨by omega, h.2⟩

/-- A request that is made of a module with packets is answered at once. -/
theorem Answered.requestPacket (hfilled : AllFilled q) (hready : Ready q) (h : Answered q)
    (hempty : isEmpty q = false) :
    Answered (requestPacket q) ∧ queued (PassiveQueue.requestPacket q) + 1 = queued q := by
  induction q with
  | queue q sent =>
    unfold PassiveQueue.requestPacket
    split
    · next hnil =>
      rw [isEmpty, hnil] at hempty
      cases hempty
    · next msg rest hcons =>
      refine ⟨h, ?_⟩
      unfold queued
      rw [hcons]
      rfl
  | scheduler s inputs sent ih =>
    obtain ⟨s', inputs', heq, -, -, -, hcases⟩ := @requestPacket_cases _ _ s inputs sent hfilled.1
    rw [heq]
    rcases hcases with ⟨i, hi, -, rfl, htoBe⟩ | ⟨hall, -⟩
    · obtain ⟨hanswered, hqueued⟩ := ih i (hfilled.2 i) (hready.2 i) (h.2 i) hi
      refine ⟨⟨?_, forall_update h.2 hanswered⟩, ?_⟩
      · rw [htoBe]
        exact h.1
      · have hupdate := sum_update queued inputs i (PassiveQueue.requestPacket (inputs i))
        simp only [queued]
        omega
    · obtain ⟨i, hi, hpositive⟩ := hready.1 (isEmpty_scheduler.mp hempty)
      rw [hall i hpositive] at hi
      cases hi

section EnqueueAt

variable {msg : P} {arrived : Arrived}

/-- What an arrival leaves of the modules: only a packet that is enqueued is new to them. -/
structure Takes (q q' : PassiveQueue P) (arrived : Arrived) : Prop where
  filled : AllFilled q → AllFilled q'
  owed : owed q' = PassiveQueue.owed q
  agree : Agree q → Agree q'
  answered : Answered q → Answered q' ∧ arrived ≠ .forwarded
  queued : arrived = .enqueued → queued q' = PassiveQueue.queued q + 1
  dropped : arrived = .dropped → q' = q

open PassiveQueue

theorem takes_enqueueAt (h : enqueueAt q way msg = some (q', arrived)) : Takes q q' arrived := by
  induction q generalizing way q' with
  | queue q sent =>
    cases way with
    | cons i way => cases h
    | nil =>
      unfold enqueueAt at h
      split at h
      · next hrequested =>
        cases h
        refine ⟨id, ?_, id, fun hanswered => absurd hanswered hrequested.ne', nofun, nofun⟩
        simp only [owed, getNumPendingRequests, sentOf, List.length_append,
          List.length_singleton]
        omega
      · split at h
        · cases h
          exact ⟨id, rfl, id, fun hanswered => ⟨hanswered, nofun⟩, nofun, fun _ => rfl⟩
        · cases h
          exact ⟨id, rfl, id, fun hanswered => ⟨hanswered, nofun⟩,
            fun _ => by simp [queued], nofun⟩
  | @scheduler n s inputs sent ih =>
    cases way with
    | nil => cases h
    | cons i way =>
      unfold enqueueAt at h
      split at h
      · next hi =>
        obtain ⟨⟨input, arrived'⟩, hinput, heq⟩ := Option.map_eq_some_iff.mp h
        cases heq
        have htakes := ih ⟨i, hi⟩ hinput
        have howed := sum_update owed inputs ⟨i, hi⟩ input
        have hqueued := sum_update queued inputs ⟨i, hi⟩ input
        rw [htakes.owed] at howed
        refine ⟨fun hfilled => ⟨hfilled.1, forall_update hfilled.2 (htakes.filled (hfilled.2 _))⟩, rfl,
          fun hagree => ⟨?_, forall_update hagree.2 (htakes.agree (hagree.2 _))⟩,
          fun hanswered => ?_, fun henqueued => ?_, fun hdropped => ?_⟩
        · have hsum := hagree.1
          omega
        · obtain ⟨hinput', hne⟩ := htakes.answered (hanswered.2 _)
          exact ⟨⟨hanswered.1, forall_update hanswered.2 hinput'⟩, hne⟩
        · rw [htakes.queued henqueued] at hqueued
          simp only [queued]
          omega
        · rw [htakes.dropped hdropped, Function.update_eq_self]
      · cases h

/-- No scheduler on the way has been requested from. -/
def Idle : PassiveQueue P → List ℕ → Prop
  | .scheduler (n := n) s inputs _, i :: way =>
    s.packetsRequestedFromUs = 0 ∧ ∀ h : i < n, Idle (inputs ⟨i, h⟩) way
  | _, _ => True

theorem packetEnqueued_eq (h : s.packetsToBeRequestedFromInputs = 0) :
    packetEnqueued s inputs = (s, inputs, decide (s.packetsRequestedFromUs = 0)) := by
  unfold packetEnqueued
  rw [if_neg (by omega)]

/-- A scheduler that has nothing to request only passes the notification on, if at all. -/
theorem Answered.notifyListeners (h : Answered q) : (notifyListeners q way).1 = q := by
  induction q generalizing way with
  | queue q sent =>
    unfold notifyListeners
    rfl
  | @scheduler n s inputs sent ih =>
    cases way with
    | nil => rfl
    | cons i way =>
      unfold notifyListeners
      split
      · next hi =>
        have hinput := @ih ⟨i, hi⟩ way (h.2 _)
        generalize notifyListeners (inputs ⟨i, hi⟩) way = result at hinput
        obtain ⟨input, notified⟩ := result
        obtain rfl : input = inputs ⟨i, hi⟩ := hinput
        dsimp only
        rw [Function.update_eq_self, packetEnqueued_eq h.1]
        split <;> rfl
      · rfl

theorem Idle.notified (hidle : Idle q way) (hanswered : Answered q')
    (h : enqueueAt q way msg = some (q', arrived)) : (notifyListeners q' way).2 = true := by
  induction q generalizing way q' with
  | queue q sent =>
    cases way with
    | cons i way => cases h
    | nil =>
      unfold enqueueAt at h
      split at h
      · cases h
        rfl
      · split at h
        · cases h
          rfl
        · cases h
          rfl
  | @scheduler n s inputs sent ih =>
    cases way with
    | nil => cases h
    | cons i way =>
      unfold enqueueAt at h
      split at h
      · next hi =>
        obtain ⟨⟨input, arrived'⟩, hinput, heq⟩ := Option.map_eq_some_iff.mp h
        cases heq
        have hanswered' := hanswered.2 ⟨i, hi⟩
        rw [Function.update_self] at hanswered'
        have hnotified := ih ⟨i, hi⟩ (hidle.2 hi) hanswered' hinput
        unfold notifyListeners
        rw [dif_pos hi]
        dsimp only
        rw [Function.update_self, hnotified, if_pos rfl, packetEnqueued_eq hanswered.1]
        exact decide_eq_true hidle.1
      · cases h

end EnqueueAt

/-- What the operations that neither bring packets nor requests leave of the modules. -/
structure Keeps (q q' : PassiveQueue P) : Prop where
  filled : AllFilled q → AllFilled q'
  owed : owed q' = PassiveQueue.owed q
  agree : Agree q → Agree q'
  answered : Answered q → Answered q'
  waiting : Waiting q → Waiting q'
  queued : queued q' ≤ PassiveQueue.queued q

theorem isEmpty_of_queued_le (h : queued q' ≤ queued q) (hempty : isEmpty q = true) : isEmpty q' = true := by
  rw [isEmpty_iff] at hempty ⊢
  omega

theorem Waiting.of_update {s' : SchedulerBase n} {sent' : List P} {input : PassiveQueue P}
    (h : Waiting (.scheduler s inputs sent)) (hs : s'.discipline = s.discipline)
    (htoBe : s'.packetsToBeRequestedFromInputs = s.packetsToBeRequestedFromInputs)
    (hanswered : Answered (inputs i) → Answered input) (hqueued : queued input ≤ queued (inputs i)) :
    Waiting (.scheduler s' (Function.update inputs i input) sent') := by
  refine ⟨forall_update h.1 (hanswered (h.1 i)), fun hpos j hpositive => ?_⟩
  rw [htoBe] at hpos
  rw [hs] at hpositive
  have hempty := h.2 hpos j hpositive
  by_cases hj : j = i
  · subst hj
    rw [Function.update_self]
    exact isEmpty_of_queued_le hqueued hempty
  · rw [Function.update_of_ne hj]
    exact hempty

theorem Keeps.update {input : PassiveQueue P} (h : Keeps (inputs i) input) :
    Keeps (.scheduler s inputs sent) (.scheduler s (Function.update inputs i input) sent) := by
  have howed := sum_update PassiveQueue.owed inputs i input
  have hqueued := sum_update PassiveQueue.queued inputs i input
  rw [h.owed] at howed
  refine ⟨fun hfilled => ⟨hfilled.1, forall_update hfilled.2 (h.filled (hfilled.2 i))⟩, rfl,
    fun hagree => ⟨?_, forall_update hagree.2 (h.agree (hagree.2 i))⟩,
    fun hanswered => ⟨hanswered.1, forall_update hanswered.2 (h.answered (hanswered.2 i))⟩,
    fun hwaiting => hwaiting.of_update rfl rfl h.answered h.queued, ?_⟩
  · have hsum := hagree.1
    omega
  · have hle := h.queued
    simp only [PassiveQueue.queued]
    omega

section Deliver

variable {result : Except Fault (PassiveQueue P)} {msg : P}

theorem takeSent_spec (h : takeSent q = some (msg, q')) :
    q.sentOf = msg :: q'.sentOf ∧ (AllFilled q → AllFilled q') ∧ owed q = owed q' + 1 ∧
      (Agree q → Agree q') ∧ (Answered q → Answered q') ∧ queued q' = queued q := by
  unfold takeSent at h
  split at h
  · cases h
    exact ⟨rfl, id, rfl, id, id, rfl⟩
  · cases h
    exact ⟨rfl, id, rfl, id, id, rfl⟩
  · cases h

/-- A packet on its way has been requested, and its arrival leaves the counters in agreement. -/
theorem Agree.deliver (hagree : Agree q) (h : deliver q way = some result) :
    ∃ q', result = .ok q' ∧ Keeps q q' := by
  induction q generalizing way result with
  | queue q sent => cases h
  | @scheduler n s inputs sent ih =>
    cases way with
    | nil => cases h
    | cons i way =>
      by_cases hi : i < n
      · cases way with
        | nil =>
          unfold deliver at h
          rw [dif_pos hi] at h
          obtain ⟨⟨msg, input⟩, htake, rfl⟩ := Option.map_eq_some_iff.mp h
          obtain ⟨-, hfilled, howed, hagree', hanswered, hqueued⟩ := takeSent_spec htake
          have hsum := hagree.1
          have howedUpdate := sum_update owed inputs ⟨i, hi⟩ input
          have hqueuedUpdate := sum_update queued inputs ⟨i, hi⟩ input
          have hpositive : s.packetsRequestedFromUs > 0 := by omega
          rw [ASSERT, if_pos hpositive]
          refine ⟨_, rfl, fun h => ⟨h.1, forall_update h.2 (hfilled (h.2 _))⟩, ?_,
            fun h => ⟨?_, forall_update h.2 (hagree' (h.2 _))⟩,
            fun h => ⟨h.1, forall_update h.2 (hanswered (h.2 _))⟩,
            fun h => h.of_update rfl rfl hanswered hqueued.le, ?_⟩
          · simp only [owed, getNumPendingRequests, sentOf, List.length_append, List.length_singleton]
            omega
          · dsimp only
            omega
          · simp only [queued]
            omega
        | cons j way =>
          unfold deliver at h
          rw [dif_pos hi] at h
          obtain ⟨inputResult, hinput, rfl⟩ := Option.map_eq_some_iff.mp h
          obtain ⟨input, rfl, hkeeps⟩ := ih ⟨i, hi⟩ (hagree.2 _) hinput
          exact ⟨_, rfl, hkeeps.update⟩
      · cases way with
        | nil | cons j way =>
          unfold deliver at h
          rw [dif_neg hi] at h
          cases h

end Deliver

end inet.PassiveQueue
