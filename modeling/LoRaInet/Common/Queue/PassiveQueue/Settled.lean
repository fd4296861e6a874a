import LoRaInet.Common.Queue.PassiveQueue.Counters

open omnetpp transition

namespace inet.PassiveQueue

variable {P : Type} {n : ℕ} {s s' : SchedulerBase n} {inputs inputs' : Fin n → PassiveQueue P}
  {q q' : PassiveQueue P} {sent : List P} {way : List ℕ} {i : Fin n} {msg : P} {arrived : Arrived}

/-- The counters of a chain in which only the last module has requests that wait. -/
structure Settled (q : PassiveQueue P) : Prop where
  filled : AllFilled q
  agree : Agree q
  waiting : Waiting q

theorem Keeps.settled (h : Keeps q q') (hsettled : Settled q) : Settled q' :=
  ⟨h.filled hsettled.filled, h.agree hsettled.agree, h.waiting hsettled.waiting⟩

theorem keeps_pop : Keeps q q.pop.1 := by
  induction q with
  | queue q sent =>
    unfold pop
    split
    · exact ⟨id, rfl, id, id, id, le_rfl⟩
    · next msg rest hcons =>
      refine ⟨id, rfl, id, id, fun hwaiting hpos => ?_, ?_⟩
      · have hnil := hwaiting hpos
        rw [hcons] at hnil
        cases hnil
      · simp [queued, hcons]
  | scheduler s inputs sent ih =>
    unfold pop
    split
    · next i hi => exact (ih i).update
    · exact ⟨id, rfl, id, id, id, le_rfl⟩

theorem Settled.requestPacket (h : Settled q) (hready : Ready q) : Settled (requestPacket q) := by
  refine ⟨h.filled.requestPacket, h.agree.requestPacket h.filled, ?_⟩
  cases q with
  | queue q sent =>
    unfold PassiveQueue.requestPacket
    split
    · next hnil => exact fun _ => hnil
    · next msg rest hcons =>
      intro hpos
      have hnil := h.waiting hpos
      rw [hcons] at hnil
      cases hnil
  | scheduler s inputs sent =>
    obtain ⟨s', inputs', heq, -, hpositive, -, hcases⟩ := @requestPacket_cases _ _ s inputs sent h.filled.1
    rw [heq]
    rcases hcases with ⟨i, hi, hpos, rfl, htoBe⟩ | ⟨hall, rfl, -⟩
    · have hanswered := (Answered.requestPacket (h.filled.2 i) (hready.2 i) (h.waiting.1 i) hi).1
      refine ⟨forall_update h.waiting.1 hanswered, fun hwaits => ?_⟩
      rw [htoBe] at hwaits
      rw [h.waiting.2 hwaits i hpos] at hi
      cases hi
    · exact ⟨h.waiting.1, fun _ => hpositive ▸ hall⟩

/-- The packet is not dropped by the queue at which it arrives. -/
def Accepts (q : PassiveQueue P) (way : List ℕ) (msg : P) : Prop :=
  ∃ r ∈ enqueueAt q way msg, r.2 ≠ .dropped

/-- While the last scheduler has requests that wait, no other scheduler on the way has been requested from. -/
def Notifiable : PassiveQueue P → List ℕ → Prop
  | .scheduler (n := n) s inputs _, i :: way =>
    s.packetsToBeRequestedFromInputs = 0 ∨ ∀ h : i < n, Idle (inputs ⟨i, h⟩) way
  | _, _ => True

/-- The scheduler at the end of the chain is notified of a packet, and requests it if it has to. -/
theorem Settled.packetEnqueued {input : PassiveQueue P} {notified : Bool}
    (hsettled : Settled (.scheduler s inputs sent)) (htakes : Takes (inputs i) input .enqueued)
    (hready : Ready (.scheduler s (Function.update inputs i input) sent))
    (h : PassiveQueue.packetEnqueued s (Function.update inputs i input) = (s', inputs', notified)) :
    Settled (.scheduler s' inputs' sent) ∧ s'.packetsRequestedFromUs = s.packetsRequestedFromUs := by
  have hanswered := (htakes.answered (hsettled.waiting.1 i)).1
  have hfilled := htakes.filled (hsettled.filled.2 i)
  have hagree := htakes.agree (hsettled.agree.2 i)
  have hqueued := htakes.queued rfl
  have howed := sum_update owed inputs i input
  rw [htakes.owed] at howed
  have hsum := hsettled.agree.1
  have hall := forall_update (i := i) hsettled.filled.2 hfilled
  have hallAgree := forall_update (i := i) hsettled.agree.2 hagree
  have hallAnswered := forall_update (i := i) hsettled.waiting.1 hanswered
  unfold PassiveQueue.packetEnqueued at h
  split at h
  · next hwaits =>
    cases hschedule : schedule s (Function.update inputs i input)
        (fun j => PassiveQueue.requestPacket (Function.update inputs i input j)) with
    | mk s₁ inputs₁ =>
      rw [hschedule] at h
      dsimp only at h
      obtain ⟨rfl, rfl, -⟩ := h
      obtain ⟨hfilled', hpositive', hrequested, hcases⟩ := schedule_cases hschedule hsettled.filled.1
      rcases hcases with ⟨j, hj, hpos, rfl, htoBe⟩ | ⟨hnone, rfl, htoBe⟩
      · -- the packet that has arrived is the only one that can be requested
        have hempty := hsettled.waiting.2 hwaits
        obtain rfl : j = i := by
          by_contra hne
          rw [Function.update_of_ne hne, hempty j hpos] at hj
          cases hj
        rw [Function.update_self, Function.update_idem] at *
        obtain ⟨hanswered', hqueued'⟩ :=
          Answered.requestPacket hfilled (by simpa using hready.2 j) hanswered hj
        have howed' := sum_update owed inputs j (PassiveQueue.requestPacket input)
        rw [owed_requestPacket hfilled, htakes.owed] at howed'
        refine ⟨⟨⟨hfilled', forall_update hsettled.filled.2 hfilled.requestPacket⟩,
          ⟨by omega, forall_update hsettled.agree.2 (hagree.requestPacket hfilled)⟩,
          forall_update hsettled.waiting.1 hanswered', fun _ k hk => ?_⟩, hrequested⟩
        rw [hpositive'] at hk
        have hemptyk := hempty k hk
        by_cases hkj : k = j
        · subst hkj
          rw [Function.update_self]
          rw [isEmpty_iff] at hemptyk ⊢
          omega
        · rw [Function.update_of_ne hkj]
          exact hemptyk
      · refine ⟨⟨⟨hfilled', hall⟩, ⟨by omega, hallAgree⟩, hallAnswered, fun _ => ?_⟩, hrequested⟩
        rw [hpositive']
        exact hnone
  · next hwaits =>
    obtain ⟨rfl, rfl, -⟩ := h
    exact ⟨⟨⟨hsettled.filled.1, hall⟩, ⟨by omega, hallAgree⟩, hallAnswered,
      fun hpos => absurd hpos hwaits⟩, rfl⟩

/-- An arrival leaves the counters in agreement, and brings no request. -/
theorem Settled.handleMessage (h : Settled q) (harrives : handleMessage q way msg = some (q', arrived))
    (hready : ∀ r ∈ enqueueAt q way msg, Ready r.1) (hnotifiable : Accepts q way msg → Notifiable q way) :
    Settled q' ∧ owed q' = owed q := by
  obtain ⟨⟨taken, arrived'⟩, htaken, heq⟩ := Option.map_eq_some_iff.mp harrives
  have hready := hready _ htaken
  have htakes := takes_enqueueAt htaken
  have hnotifiable := fun hne => hnotifiable ⟨_, htaken, hne⟩
  dsimp only at heq hready hnotifiable
  cases q with
  | queue q sent =>
    cases way with
    | cons i way => cases htaken
    | nil =>
      have hq : q' = taken := by
        unfold enqueueAt at htaken
        split at htaken
        · cases htaken
          exact (Prod.mk.inj heq).1.symm
        · split at htaken <;> obtain ⟨rfl, rfl⟩ := Prod.mk.inj (Option.some.inj htaken) <;>
            exact (Prod.mk.inj heq).1.symm
      subst hq
      refine ⟨⟨htakes.filled h.filled, htakes.agree h.agree, ?_⟩, htakes.owed⟩
      unfold enqueueAt at htaken
      split at htaken
      · next hrequested =>
        cases htaken
        exact fun _ => h.waiting hrequested
      · next hrequested =>
        split at htaken <;> obtain ⟨rfl, -⟩ := Prod.mk.inj (Option.some.inj htaken) <;>
          exact fun hpos => absurd hpos hrequested
  | @scheduler n s inputs sent =>
    cases way with
    | nil => cases htaken
    | cons i way =>
      unfold enqueueAt at htaken
      split at htaken
      · next hi =>
        obtain ⟨⟨input, arrived''⟩, hinput, heqInput⟩ := Option.map_eq_some_iff.mp htaken
        obtain ⟨rfl, rfl⟩ := Prod.mk.inj heqInput
        have htakesInput := takes_enqueueAt hinput
        obtain ⟨hanswered, hne⟩ := htakesInput.answered (h.waiting.1 ⟨i, hi⟩)
        cases arrived'' with
        | forwarded => exact absurd rfl hne
        | dropped =>
          cases heq
          rw [htakesInput.dropped rfl, Function.update_eq_self]
          exact ⟨h, rfl⟩
        | enqueued =>
          cases heq
          have hnotify : (notifyListeners input way).1 = input := hanswered.notifyListeners
          have hidle := fun htoBe => Idle.notified
            ((hnotifiable (by simp)).resolve_left htoBe hi) hanswered hinput
          unfold notifyListeners
          rw [dif_pos hi, Function.update_self]
          generalize notifyListeners input way = result at hnotify hidle
          obtain ⟨input', notified⟩ := result
          obtain rfl : input' = input := hnotify
          dsimp only at hidle ⊢
          rw [Function.update_idem]
          cases henqueued : PassiveQueue.packetEnqueued s (Function.update inputs ⟨i, hi⟩ input') with
          | mk s' rest =>
            obtain ⟨inputs', notified'⟩ := rest
            obtain ⟨hsettled, hrequested⟩ := h.packetEnqueued htakesInput hready henqueued
            cases notified with
            | true =>
              rw [if_pos rfl]
              exact ⟨hsettled, by simp only [owed, getNumPendingRequests, sentOf, hrequested]⟩
            | false =>
              -- a scheduler that is not notified has no requests to make
              have htoBe : s.packetsToBeRequestedFromInputs = 0 := by
                by_contra htoBe
                cases hidle htoBe
              rw [packetEnqueued_eq htoBe] at henqueued
              obtain ⟨rfl, rfl, -⟩ := henqueued
              rw [if_neg Bool.false_ne_true]
              exact ⟨hsettled, rfl⟩
      · cases htaken

/-- Every packet that a module has sent to another one has arrived there. -/
def NoneInFlight : PassiveQueue P → Prop
  | .queue _ _ => True
  | .scheduler _ inputs _ => ∀ i, (inputs i).sentOf = [] ∧ NoneInFlight (inputs i)

theorem owed_clear : owed q.clear.1 = q.sentOf.length := by
  cases q <;> simp [owed, clear, getNumPendingRequests, sentOf]

theorem answered_clear : Answered q.clear.1 ∧ queued q.clear.1 = 0 := by
  induction q with
  | queue q sent => exact ⟨rfl, rfl⟩
  | scheduler s inputs sent ih =>
    refine ⟨⟨rfl, fun i => (ih i).1⟩, ?_⟩
    simp only [clear, queued, Finset.sum_eq_zero_iff]
    exact fun i _ => (ih i).2

theorem AllFilled.clear (h : AllFilled q) : AllFilled q.clear.1 := by
  induction q with
  | queue q sent => trivial
  | scheduler s inputs sent ih => exact ⟨h.1, fun i => ih i (h.2 i)⟩

theorem NoneInFlight.agree_clear (h : NoneInFlight q) : Agree q.clear.1 := by
  induction q with
  | queue q sent => trivial
  | scheduler s inputs sent ih =>
    refine ⟨?_, fun i => ih i (h i).2⟩
    have hsum : ∑ i, owed (inputs i).clear.1 = 0 := by
      simp only [Finset.sum_eq_zero_iff, owed_clear, (h _).1, List.length_nil, implies_true]
    simp only [hsum]

theorem Settled.clear (h : Settled q) (hnone : NoneInFlight q) : Settled q.clear.1 := by
  refine ⟨h.filled.clear, hnone.agree_clear, ?_⟩
  cases q with
  | queue q sent => exact fun _ => rfl
  | scheduler s inputs sent =>
    exact ⟨fun i => answered_clear.1, fun _ i _ => isEmpty_iff.mpr answered_clear.2⟩

/-- No packets and no requests, and the buckets are full. -/
def Initial : PassiveQueue P → Prop
  | .queue q sent => q.queue = [] ∧ q.packetRequested = 0 ∧ sent = []
  | .scheduler s inputs sent =>
    s.packetsRequestedFromUs = 0 ∧ s.packetsToBeRequestedFromInputs = 0 ∧ s.discipline.Full ∧
      (∀ i, s.served i = 0) ∧ sent = [] ∧ ∀ i, Initial (inputs i)

theorem Initial.settled (h : Initial q) : Settled q ∧ owed q = 0 ∧ Answered q := by
  induction q with
  | queue q sent =>
    obtain ⟨hqueue, hrequested, rfl⟩ := h
    refine ⟨⟨trivial, trivial, fun _ => hqueue⟩, ?_, hrequested⟩
    simp [owed, getNumPendingRequests, sentOf, hrequested]
  | scheduler s inputs sent ih =>
    obtain ⟨hrequested, htoBe, hfull, hserved, rfl, hinputs⟩ := h
    have hinput := fun i => ih i (hinputs i)
    refine ⟨⟨⟨hfull.filled hserved, fun i => (hinput i).1.filled⟩,
      ⟨?_, fun i => (hinput i).1.agree⟩, fun i => (hinput i).2.2, fun hpos => ?_⟩, ?_,
      htoBe, fun i => (hinput i).2.2⟩
    · simp [hrequested, htoBe, (hinput _).2.1]
    · omega
    · simp [owed, getNumPendingRequests, sentOf, hrequested]

end inet.PassiveQueue
