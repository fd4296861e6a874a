import LoRaInet.Common.Queue.PassiveQueue.Departures

open omnetpp transition

namespace inet.PassiveQueue

section Conditions

variable {P : Type} {M : Type}

/-- Wherever a packet is scheduled for a request, an input with packets has a positive weight if there is any
with packets. -/
def Serviceable (q : PassiveQueue (Packet M)) : Event M → Prop
  | .arrival way msg => ∀ r ∈ enqueueAt q way ⟨way, msg⟩, Ready r.1
  | .requestPacket => Ready q
  | _ => True

/-- A packet that is enqueued while the last scheduler has requests that wait finds no other scheduler that
has been requested from, and the queues are only cleared when no packet is on its way inside the chain. -/
def Undisturbed (q : PassiveQueue (Packet M)) : Event M → Prop
  | .arrival way msg => Accepts q way ⟨way, msg⟩ → Notifiable q way
  | .clear => NoneInFlight q
  | _ => True

/-- A request that is not answered waits for packets in inputs of positive weight. -/
def NoneWaitsInVain : PassiveQueue P → Prop
  | .queue q _ => 0 < q.packetRequested → q.queue = []
  | .scheduler s inputs _ =>
    (0 < s.packetsToBeRequestedFromInputs → ∀ i, s.discipline.positive i = true → isEmpty (inputs i) = true) ∧
      ∀ i, NoneWaitsInVain (inputs i)

def AllWithinWeights : PassiveQueue P → Prop
  | .queue _ _ => True
  | .scheduler s inputs _ => s.discipline.WithinWeights s.served ∧ ∀ i, AllWithinWeights (inputs i)

instance decidableReady : (q : PassiveQueue P) → Decidable (Ready q)
  | .queue _ _ => isTrue trivial
  | .scheduler _ inputs _ =>
    have := fun i => decidableReady (inputs i)
    inferInstanceAs (Decidable (_ ∧ _))

instance decidableNoneWaitsInVain : (q : PassiveQueue P) → Decidable (NoneWaitsInVain q)
  | .queue q _ =>
    have := decidable_of_iff (q.queue.isEmpty = true) List.isEmpty_iff
    inferInstanceAs (Decidable (_ → _))
  | .scheduler _ inputs _ =>
    have := fun i => decidableNoneWaitsInVain (inputs i)
    inferInstanceAs (Decidable (_ ∧ _))

instance decidableNoneInFlight : (q : PassiveQueue P) → Decidable (NoneInFlight q)
  | .queue _ _ => isTrue trivial
  | .scheduler _ inputs _ =>
    have := fun i => decidableNoneInFlight (inputs i)
    have := fun i => decidable_of_iff ((inputs i).sentOf.isEmpty = true) List.isEmpty_iff
    inferInstanceAs (Decidable (∀ _, _ ∧ _))

instance decidableIdle : (q : PassiveQueue P) → (way : List ℕ) → Decidable (Idle q way)
  | .queue _ _, _ | .scheduler _ _ _, [] => isTrue trivial
  | .scheduler _ inputs _, _ :: way =>
    have := fun i => decidableIdle (inputs i) way
    inferInstanceAs (Decidable (_ ∧ _))

instance : DecidableRel (Notifiable (P := P)) := fun q way =>
  match q, way with
  | .queue _ _, _ | .scheduler _ _ _, [] => isTrue trivial
  | .scheduler _ _ _, _ :: _ => inferInstanceAs (Decidable (_ ∨ _))

instance (q : PassiveQueue P) (way : List ℕ) (msg : P) : Decidable (Accepts q way msg) :=
  inferInstanceAs (Decidable (∃ _ ∈ _, _))

instance (q : PassiveQueue (Packet M)) : DecidablePred (Serviceable q) := fun e =>
  match e with
  | .arrival _ _ => inferInstanceAs (Decidable (∀ _ ∈ _, _))
  | .requestPacket => inferInstanceAs (Decidable (Ready q))
  | .deliver _ | .pop | .clear => isTrue trivial

instance (q : PassiveQueue (Packet M)) : DecidablePred (Undisturbed q) := fun e =>
  match e with
  | .arrival _ _ => inferInstanceAs (Decidable (_ → _))
  | .clear => inferInstanceAs (Decidable (NoneInFlight q))
  | .deliver _ | .pop | .requestPacket => isTrue trivial

end Conditions

section Histories

variable {M : Type}

/-- Every event is put down with the state before it and with what came of it. -/
abbrev Label (M : Type) := Event M × (PassiveQueue (Packet M) × Output M)

variable (entered : List ℕ)

def acceptedBy (e : Event M) (o : Output M) : List (Packet M) :=
  match e, o with
  | .arrival way msg, .arrived arrived => accepting arrived way ⟨way, msg⟩ entered
  | _, _ => []

def poppedBy : Output M → List (Packet M)
  | .popped msg => takenFrom msg.toList entered
  | _ => []

def clearedBy : Output M → List (Packet M)
  | .cleared msgs => takenFrom msgs entered
  | _ => []

/-- The packets that a queue has accepted, in order. -/
def accepted (history : List (Label M)) : List (Packet M) :=
  history.reverse.flatMap fun l => acceptedBy entered l.1 l.2.2

def popped (history : List (Label M)) : List (Packet M) :=
  history.reverse.flatMap fun l => poppedBy entered l.2.2

def cleared (history : List (Label M)) : List (Packet M) :=
  history.reverse.flatMap fun l => clearedBy entered l.2.2

def requests : List (Label M) → ℕ
  | [] => 0
  | (.requestPacket, _) :: history => requests history + 1
  | _ :: history => requests history

/-- What a queue has accepted and does not hold any more has left it in order, and every packet of it in one
way: it has been sent, popped or cleared. -/
def LeaveOnce (history : List (Label M)) (q : PassiveQueue (Packet M)) : Prop :=
  ∃ departed, accepted entered history = departed ++ queueAt q entered ∧
    List.Sublist (sentFrom entered q entered) departed ∧ List.Sublist (popped entered history) departed ∧
      List.Sublist (cleared entered history) departed ∧
        departed.Perm (sentFrom entered q entered ++ (popped entered history ++ cleared entered history))

end Histories

section Steps

variable {M : Type} {q q' : PassiveQueue (Packet M)} {e : Event M} {o : Output M}
  {history : List (Label M)} {entered : List ℕ}

theorem Flows.keeps_leaveOnce (h : Flows (acceptedBy · e o) (fun ℓ => poppedBy ℓ o ++ clearedBy ℓ o) [] q q')
    (hleave : LeaveOnce entered history q) : LeaveOnce entered ((e, (q, o)) :: history) q' := by
  obtain ⟨departed, haccepted, hsent, hpopped, hcleared, hperm⟩ := hleave
  obtain ⟨moved, hqueue, hmoved⟩ := h.flows entered
  have hcons : ∀ f : Label M → List (Packet M), ((e, (q, o)) :: history).reverse.flatMap f =
      history.reverse.flatMap f ++ f (e, (q, o)) := fun f => by simp
  simp only [List.nil_append] at hqueue hmoved
  unfold LeaveOnce accepted popped cleared
  simp only [hcons]
  refine ⟨departed ++ (moved ++ (poppedBy entered o ++ clearedBy entered o)), ?_, ?_, ?_, ?_, ?_⟩
  · change accepted entered history ++ _ = _
    rw [haccepted, List.append_assoc, hqueue]
    simp only [List.append_assoc]
  · rw [hmoved]
    exact hsent.append (List.sublist_append_left _ _)
  · exact hpopped.append ((List.sublist_append_left _ _).trans (List.sublist_append_right _ _))
  · exact hcleared.append ((List.sublist_append_right _ _).trans (List.sublist_append_right _ _))
  · rw [hmoved]
    apply (hperm.append_right _).trans
    classical
    rw [List.perm_iff_count]
    intro p
    simp only [List.count_append, popped, cleared]
    omega

/-- What is known of the chain after a run. -/
structure Sound (history : List (Label M)) (q : PassiveQueue (Packet M)) : Prop where
  settled : Settled q
  belongs : Belongs q []
  owed_le : owed q ≤ requests history
  leave : ∀ entered, LeaveOnce entered history q

theorem Initial.places {way place : List ℕ} (h : Initial q) :
    Belongs q place ∧ queueAt q way = [] ∧ sentFrom entered q way = [] := by
  induction q generalizing way place with
  | queue q sent =>
    obtain ⟨hqueue, -, rfl⟩ := h
    refine ⟨fun p hp => ?_, ?_, ?_⟩
    · rw [hqueue] at hp
      cases hp
    · cases way with
      | nil => exact hqueue
      | cons i way => rfl
    · cases way <;> rfl
  | @scheduler n s inputs sent ih =>
    obtain ⟨-, -, -, -, rfl, hinputs⟩ := h
    refine ⟨⟨nofun, fun i => (@ih i [] _ (hinputs i)).1⟩, ?_⟩
    cases way with
    | nil => exact ⟨rfl, rfl⟩
    | cons i way =>
      unfold queueAt sentFrom
      by_cases hi : i < n
      · rw [dif_pos hi, dif_pos hi]
        exact (@ih ⟨i, hi⟩ way [] (hinputs _)).2
      · rw [dif_neg hi, dif_neg hi]
        exact ⟨rfl, rfl⟩

theorem Sound.of_initial (h : Initial q) : Sound [] q := by
  obtain ⟨hsettled, howed, -⟩ := h.settled
  refine ⟨hsettled, (@h.places _ _ [] [] []).1, howed.le, fun entered => ⟨[], ?_⟩⟩
  obtain ⟨-, hqueue, hsent⟩ := @Initial.places _ _ entered entered [] h
  rw [hqueue, hsent]
  exact ⟨rfl, .slnil, .slnil, .slnil, .nil⟩

theorem flows_none {place : List ℕ} {gone : List ℕ → List (Packet M)}
    (h : Flows (fun _ => []) gone place q q') (e : Event M) (o : Output M) (he : ∀ ℓ, acceptedBy ℓ e o = [])
    (ho : ∀ ℓ, poppedBy ℓ o ++ clearedBy ℓ o = gone ℓ) :
    Flows (acceptedBy · e o) (fun ℓ => poppedBy ℓ o ++ clearedBy ℓ o) place q q' := by
  simpa only [he, ho] using h

theorem Sound.step (h : Sound history q) (hstep : step q e = some (q', o)) (hserviceable : Serviceable q e)
    (hundisturbed : Undisturbed q e) : Sound ((e, (q, o)) :: history) q' := by
  have howed := h.owed_le
  obtain ⟨result, hresult, hok⟩ := Option.bind_eq_some_iff.mp hstep
  rw [toOption_eq_some] at hok
  subst hok
  cases e with
  | arrival way msg =>
    obtain ⟨⟨q₁, arrived⟩, harrives, heq⟩ := Option.map_eq_some_iff.mp hresult
    cases heq
    obtain ⟨hsettled, howed'⟩ := h.settled.handleMessage harrives hserviceable hundisturbed
    have hentered : (Packet.mk way msg).entered = way := rfl
    have hflows := h.settled.flows_handleMessage h.belongs hentered harrives
    exact ⟨hsettled, hflows.belongs, howed'.trans_le howed,
      fun entered => Flows.keeps_leaveOnce hflows (h.leave entered)⟩
  | deliver way =>
    obtain ⟨result, hdeliver, heq⟩ := Option.map_eq_some_iff.mp hresult
    obtain ⟨q₁, rfl, hkeeps⟩ := h.settled.agree.deliver hdeliver
    cases heq
    have hflows := flows_none (Flows.deliver h.belongs hdeliver) (.deliver way) .done (fun _ => rfl) fun _ => rfl
    exact ⟨hkeeps.settled h.settled, hflows.belongs, hkeeps.owed.trans_le howed,
      fun entered => hflows.keeps_leaveOnce (h.leave entered)⟩
  | requestPacket =>
    cases hresult
    have hflows := flows_none (Flows.requestPacket h.settled.filled h.belongs) .requestPacket .done
      (fun _ => rfl) fun _ => rfl
    refine ⟨h.settled.requestPacket hserviceable, hflows.belongs, ?_,
      fun entered => hflows.keeps_leaveOnce (h.leave entered)⟩
    rw [owed_requestPacket h.settled.filled]
    exact Nat.succ_le_succ howed
  | pop =>
    cases hresult
    have hflows := flows_none (Flows.pop h.belongs).1 .pop (.popped q.pop.2) (fun _ => rfl)
      fun _ => List.append_nil _
    exact ⟨keeps_pop.settled h.settled, hflows.belongs, keeps_pop.owed.trans_le howed,
      fun entered => hflows.keeps_leaveOnce (h.leave entered)⟩
  | clear =>
    cases hresult
    have hflows := flows_none (Flows.clear h.belongs).1 .clear (.cleared q.clear.2) (fun _ => rfl) fun _ => rfl
    refine ⟨h.settled.clear hundisturbed, hflows.belongs, ?_,
      fun entered => hflows.keeps_leaveOnce (h.leave entered)⟩
    rw [owed_clear]
    exact le_trans (Nat.le_add_left _ _) howed

end Steps

section Runs

variable {M : Type} {P : Type} {q : PassiveQueue (Packet M)} {history : List (Label M)}

theorem Answered.noneWaitsInVain {q : PassiveQueue P} (h : Answered q) : NoneWaitsInVain q := by
  induction q with
  | queue q sent => exact fun hpos => absurd h hpos.ne'
  | scheduler s inputs sent ih => exact ⟨fun hpos => absurd h.1 hpos.ne', fun i => ih i (h.2 i)⟩

theorem Waiting.noneWaitsInVain {q : PassiveQueue P} (h : Waiting q) : NoneWaitsInVain q := by
  cases q with
  | queue q sent => exact h
  | scheduler s inputs sent => exact ⟨h.2, fun i => (h.1 i).noneWaitsInVain⟩

theorem AllFilled.allWithinWeights {q : PassiveQueue P} (h : AllFilled q) : AllWithinWeights q := by
  induction q with
  | queue q sent => trivial
  | scheduler s inputs sent ih => exact ⟨h.1.withinWeights, fun i => ih i (h.2 i)⟩

/-- Packets leave every queue once and in order, not more of them are sent out than were requested, requests
only wait for packets, the counters agree, and no input is served more often than its weight says. -/
theorem packets_leave_once (hrun : Run Initial (StepOf (traced step)) history q)
    (hserviceable : Always (fun _ l => Serviceable l.2.1 l.1) history)
    (hundisturbed : Always (fun _ l => Undisturbed l.2.1 l.1) history) :
    (∀ entered, LeaveOnce entered history q) ∧ q.sentOf.length + q.getNumPendingRequests ≤ requests history ∧
      NoneWaitsInVain q ∧ Agree q ∧ AllWithinWeights q ∧
        ∀ e, (q.handle e).isSome = true → (q.step e).isSome = true := by
  have hsound : Sound history q := by
    induction hrun with
    | init hinit => exact .of_initial hinit
    | @step history q q' l hrun hstep ih =>
      obtain ⟨e, before, o⟩ := l
      obtain ⟨rfl, hstep⟩ := traced_eq_some.mp hstep
      exact (ih hserviceable.1 hundisturbed.1).step hstep hserviceable.2 hundisturbed.2
  refine ⟨hsound.leave, Nat.add_comm _ _ ▸ hsound.owed_le, hsound.settled.waiting.noneWaitsInVain,
    hsound.settled.agree, hsound.settled.filled.allWithinWeights, fun e hhandled => ?_⟩
  cases e with
  | arrival way msg =>
    obtain ⟨result, hresult⟩ := Option.isSome_iff_exists.mp hhandled
    obtain ⟨r, -, rfl⟩ := Option.map_eq_some_iff.mp hresult
    simp [step, hresult, Except.toOption]
  | deliver way =>
    obtain ⟨result, hresult⟩ := Option.isSome_iff_exists.mp hhandled
    obtain ⟨r, hdeliver, rfl⟩ := Option.map_eq_some_iff.mp hresult
    obtain ⟨q', rfl, -⟩ := hsound.settled.agree.deliver hdeliver
    simp [step, hresult, Except.map, Except.toOption]
  | requestPacket => rfl
  | pop => rfl
  | clear => rfl

end Runs

/-- The first input of the scheduler is a scheduler as well. -/
def sampleChain : PassiveQueue (Packet ℕ) :=
  .scheduler { discipline := .wrr (n := 2) ![2, 1] ![2, 1] }
    ![.scheduler { discipline := .priority (n := 1) } (fun _ => .queue {} []) [],
      .queue { frameCapacity := 1 } []] []

theorem initial_sampleChain : Initial sampleChain := by
  refine ⟨rfl, rfl, fun _ => rfl, fun _ => rfl, rfl, fun i => ?_⟩
  match i with
  | 0 => exact ⟨rfl, rfl, trivial, fun _ => rfl, rfl, fun _ => ⟨rfl, rfl, rfl⟩⟩
  | 1 => exact ⟨rfl, rfl, rfl⟩

/-- The fourth request waits until another packet arrives. -/
theorem packets_leave_once_of_wait : ∃ history q, Run Initial (StepOf (traced step)) history q ∧
    (∀ entered, LeaveOnce entered history q) ∧ Agree q ∧ requests history = 4 ∧
      q.sentOf.map (·.msg) = [10, 11, 20, 12] := by
  obtain ⟨q, history, hrun, hserviceable, hundisturbed, hrequests, hsent⟩ := @exists_run_of_initial _ _ _
    (traced step) Initial _ initial_sampleChain
    [.arrival [0, 0] 10, .arrival [0, 0] 11, .arrival [1] 20, .arrival [1] 21, .requestPacket, .requestPacket,
      .deliver [0, 0], .deliver [0], .requestPacket, .requestPacket, .deliver [0, 0], .deliver [0], .deliver [1],
      .arrival [0, 0] 12, .arrival [0, 0] 13, .deliver [0, 0], .deliver [0], .pop, .clear]
    (fun q history => Always (fun _ l => Serviceable l.2.1 l.1) history ∧
      Always (fun _ l => Undisturbed l.2.1 l.1) history ∧ requests history = 4 ∧
        q.sentOf.map (·.msg) = [10, 11, 20, 12])
    (by decide +kernel)
  have hleave := packets_leave_once hrun hserviceable hundisturbed
  exact ⟨history, q, hrun, hleave.1, hleave.2.2.2.1, hrequests, hsent⟩

/-- A scheduler does not pass a notification on while a packet that it has requested is on its way, so that a
request waits although there is a packet. The arrival of a packet that was on its way when the queues were
cleared fails. -/
theorem not_packets_leave_once :
    (∃ r ∈ execute (traced step) sampleChain [] [.arrival [0, 0] 10, .requestPacket, .requestPacket,
        .arrival [0, 0] 11],
      Always (fun _ l => Serviceable l.2.1 l.1) r.2 ∧ ¬ NoneWaitsInVain r.1) ∧
    ∃ r ∈ execute (traced step) sampleChain [] [.arrival [0, 0] 10, .requestPacket, .clear],
      Always (fun _ l => Serviceable l.2.1 l.1) r.2 ∧
        (r.1.handle (.deliver [0, 0])).isSome = true ∧ (r.1.step (.deliver [0, 0])).isSome = false := by
  decide +kernel

end inet.PassiveQueue
