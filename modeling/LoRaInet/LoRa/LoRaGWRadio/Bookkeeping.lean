import LoRaInet.LoRa.LoRaGWRadio

open omnetpp transition

namespace inet.physicallayer

def GWRadioTimer.receptionId : GWRadioTimer → Option Nat
  | .receptionTimer id _ _ => some id
  | _ => none

namespace LoRaGWRadio

variable {par : Parameters} {s s' : LoRaGWRadio}

/-- The reception timers that are scheduled. -/
def pendingReceptions (fes : FutureEventSet GWRadioTimer) : List Nat :=
  fes.messages.filterMap GWRadioTimer.receptionId

/-- The fields refer only to these timers, and to each at most once. -/
structure TracksOnly (pending : List Nat) (s : LoRaGWRadio) : Prop where
  nodup : s.concurrentReceptions.Nodup
  concurrent : ∀ id ∈ s.concurrentReceptions, id ∈ pending
  current : ∀ id, s.receptionTimer = some id → id ∈ pending

/-- No field refers to a timer that is not scheduled. -/
def Bookkeeping (s : LoRaGWRadio) : Prop := TracksOnly (pendingReceptions s.fes) s

/-- A reception the radio is following. -/
def Tracks (s : LoRaGWRadio) (id : Nat) : Prop :=
  id ∈ s.concurrentReceptions ∨ s.receptionTimer = some id
deriving Decidable

/-- The scheduled timers are distinct, and each ends a part of its arrival. -/
structure TimersConsistent (par : Parameters) (s : LoRaGWRadio) : Prop where
  nodup : (pendingReceptions s.fes).Nodup
  fresh : ∀ id ∈ pendingReceptions s.fes, id < s.messageCount
  timed : ∀ e ∈ s.fes.scheduled, ∀ id kind arrival, e.message = .receptionTimer id kind arrival →
    arrival.getEndTime kind = .ok e.arrivalTime
  node : par.iAmGateway = false → s.concurrentReceptions = []

theorem pendingReceptions_scheduleAt {fes fes' : FutureEventSet GWRadioTimer} {t : SimTime}
    {timer : GWRadioTimer} (h : fes.scheduleAt t timer = .ok fes') :
    pendingReceptions fes' = pendingReceptions fes ++ timer.receptionId.toList := by
  obtain ⟨-, rfl⟩ := FutureEventSet.scheduleAt_eq_ok.mp h
  unfold pendingReceptions FutureEventSet.messages
  cases hid : timer.receptionId with
  | none | some id => simp [hid]

variable {fes : FutureEventSet GWRadioTimer} {e : ScheduledMessage GWRadioTimer}

theorem pendingReceptions_fire (he : e ∈ fes.scheduled) :
    (pendingReceptions fes).Perm (e.message.receptionId.toList ++ pendingReceptions (fes.fire e)) := by
  have hmessages : fes.messages.Perm (e.message :: (fes.fire e).messages) :=
    (List.perm_cons_erase he).map _
  refine (hmessages.filterMap _).trans ?_
  cases hid : e.message.receptionId with
  | none =>
    rw [List.filterMap_cons_none hid]
    exact .refl _
  | some id =>
    rw [List.filterMap_cons_some hid]
    exact .refl _

theorem TracksOnly.mono {pending pending' : List Nat} (h : TracksOnly pending s)
    (hsub : pending ⊆ pending') : TracksOnly pending' s :=
  ⟨h.nodup, fun id hid => hsub (h.concurrent id hid), fun id hid => hsub (h.current id hid)⟩

theorem TracksOnly.narrow {pending : List Nat} (h : TracksOnly pending s)
    (hconcurrent : s'.concurrentReceptions.Sublist s.concurrentReceptions)
    (hcurrent : s'.receptionTimer = s.receptionTimer ∨ s'.receptionTimer = none) :
    TracksOnly pending s' := by
  refine ⟨h.nodup.sublist hconcurrent, ?_, ?_⟩
  · intro id hid
    exact h.concurrent id (hconcurrent.subset hid)
  · intro id hid
    obtain hsame | hnone := hcurrent
    · exact h.current id (hsame ▸ hid)
    · rw [hnone] at hid
      cases hid

theorem removeReception_sublist (par : Parameters) (s : LoRaGWRadio) (id : Nat) :
    (s.removeReception par id).Sublist s.concurrentReceptions := by
  unfold removeReception
  split
  · exact List.filter_sublist
  · exact .refl _

/-- What `startReception` and `continueReception` leave scheduled. -/
def Reschedules (s : LoRaGWRadio) (id : Nat) (s' : LoRaGWRadio) : Prop :=
  ∃ kind arrival endTime, arrival.getEndTime kind = .ok endTime ∧
    s.fes.scheduleAt endTime (.receptionTimer id kind arrival) = .ok s'.fes ∧
    s'.messageCount = s.messageCount

@[simp] theorem countReceptionStarted_fes (s : LoRaGWRadio) :
    (s.countReceptionStarted par).fes = s.fes := by
  unfold countReceptionStarted
  split <;> rfl

theorem countReceptionStarted_frame (par : Parameters) (s : LoRaGWRadio) :
    (s.countReceptionStarted par).concurrentReceptions = s.concurrentReceptions ∧
      (s.countReceptionStarted par).receptionTimer = s.receptionTimer ∧
      (s.countReceptionStarted par).messageCount = s.messageCount := by
  unfold countReceptionStarted
  split <;> exact ⟨rfl, rfl, rfl⟩

theorem attemptReception_frame (par : Parameters) (s : LoRaGWRadio) (id : Nat) (startTime : SimTime)
    (attempted : Bool) :
    (s.attemptReception par id startTime attempted).fes = s.fes ∧
      (s.attemptReception par id startTime attempted).messageCount = s.messageCount := by
  unfold attemptReception
  split <;> exact ⟨rfl, rfl⟩

theorem attemptReception_cases (par : Parameters) (s : LoRaGWRadio) (id : Nat) (startTime : SimTime)
    (attempted : Bool) :
    let s' := s.attemptReception par id startTime attempted
    s'.concurrentReceptions = s.concurrentReceptions ∧ s'.receptionTimer = s.receptionTimer ∨
      s'.concurrentReceptions = (if par.iAmGateway then s.concurrentReceptions ++ [id]
        else s.concurrentReceptions) ∧ s'.receptionTimer = some id := by
  unfold attemptReception
  split
  · exact Or.inr ⟨rfl, rfl⟩
  · exact Or.inl ⟨rfl, rfl⟩

variable {id : Nat} {arrival : Arrival}

theorem startReception_spec {part : SignalPart} {attempted : Bool}
    (h : s.startReception par id arrival part attempted = .ok s') :
    s.Reschedules id s' ∧
      (s'.concurrentReceptions = s.concurrentReceptions ∧ s'.receptionTimer = s.receptionTimer ∨
        s'.concurrentReceptions = (if par.iAmGateway then s.concurrentReceptions ++ [id]
          else s.concurrentReceptions) ∧ s'.receptionTimer = some id) := by
  unfold startReception at h
  obtain ⟨startTime, -, h⟩ := bind_eq_ok_iff.mp h
  obtain ⟨endTime, hend, h⟩ := bind_eq_ok_iff.mp h
  obtain ⟨fes, hfes, h⟩ := bind_eq_ok_iff.mp h
  cases h
  obtain ⟨hconcurrent, hcurrent, hcount⟩ := countReceptionStarted_frame par s
  obtain ⟨hattemptFes, hattemptCount⟩ :=
    attemptReception_frame par (s.countReceptionStarted par) id startTime attempted
  refine ⟨⟨part, arrival, endTime, hend, ?_, hattemptCount.trans hcount⟩, ?_⟩
  · rw [hattemptFes, countReceptionStarted_fes] at hfes
    exact hfes
  · have hcases :=
      attemptReception_cases par (s.countReceptionStarted par) id startTime attempted
    rw [hconcurrent, hcurrent] at hcases
    exact hcases

/-- Nothing but the two fields changes when a timer becomes current or a
reception is dropped. -/
theorem judgeParts_frame (par : Parameters) (s : LoRaGWRadio) (id : Nat) (answers : MediumAnswers) :
    let s' := s.judgeParts par id answers
    s'.fes = s.fes ∧ s'.messageCount = s.messageCount ∧
      s'.concurrentReceptions.Sublist s.concurrentReceptions ∧
      (s'.receptionTimer = s.receptionTimer ∨ s'.receptionTimer = none) := by
  unfold judgeParts
  have hdrop := removeReception_sublist par s id
  cases answers.isReceptionSuccessful with
  | true =>
    cases answers.isReceptionAttempted with
    | true => exact ⟨rfl, rfl, .refl _, Or.inl rfl⟩
    | false => exact ⟨rfl, rfl, hdrop, Or.inr rfl⟩
  | false =>
    cases answers.isReceptionAttempted with
    | true => exact ⟨rfl, rfl, hdrop, Or.inr rfl⟩
    | false =>
      exact ⟨rfl, rfl, (removeReception_sublist par (s.dropReception par id) id).trans hdrop,
        Or.inr rfl⟩

theorem makeCurrent_frame (par : Parameters) (s : LoRaGWRadio) (id : Nat) :
    (s.makeCurrent par id).fes = s.fes ∧ (s.makeCurrent par id).messageCount = s.messageCount ∧
      (s.makeCurrent par id).concurrentReceptions = s.concurrentReceptions ∧
      (s.makeCurrent par id).radioMode = s.radioMode ∧
      (s.makeCurrent par id).iAmTransmiting = s.iAmTransmiting ∧
      ((s.makeCurrent par id).receptionTimer = s.receptionTimer ∨
        id ∈ s.concurrentReceptions ∧ (s.makeCurrent par id).receptionTimer = some id) := by
  unfold makeCurrent
  split
  · next hmem => exact ⟨rfl, rfl, rfl, rfl, rfl, Or.inr ⟨hmem.2, rfl⟩⟩
  · exact ⟨rfl, rfl, rfl, rfl, rfl, Or.inl rfl⟩

variable {kind : SignalPart}

theorem continueReception_spec
    {answers : MediumAnswers} (h : s.continueReception par id kind arrival answers = .ok s') :
    s.Reschedules id s' ∧ s'.concurrentReceptions.Sublist s.concurrentReceptions ∧
      (s'.receptionTimer = s.receptionTimer ∨ s'.receptionTimer = some id ∨
        s'.receptionTimer = none) := by
  unfold continueReception at h
  obtain ⟨previousEndTime, -, h⟩ := bind_eq_ok_iff.mp h
  obtain ⟨hfes, hcount, hconcurrent, -, -, hcurrent⟩ := makeCurrent_frame par s id
  generalize s.makeCurrent par id = current at h hfes hcount hconcurrent hcurrent
  have hjudged : ∃ judged : LoRaGWRadio,
      (if current.IsReceiving id previousEndTime then current.judgeParts par id answers
        else current) = judged ∧
      judged.fes = s.fes ∧ judged.messageCount = s.messageCount ∧
      judged.concurrentReceptions.Sublist s.concurrentReceptions ∧
      (judged.receptionTimer = s.receptionTimer ∨ judged.receptionTimer = some id ∨
        judged.receptionTimer = none) := by
    refine ⟨_, rfl, ?_⟩
    obtain ⟨hjudgeFes, hjudgeCount, hjudgeConcurrent, hjudgeCurrent⟩ :=
      judgeParts_frame par current id answers
    split
    · refine ⟨hjudgeFes.trans hfes, hjudgeCount.trans hcount, hconcurrent ▸ hjudgeConcurrent, ?_⟩
      rcases hjudgeCurrent with hsame | hnone
      · rw [hsame]
        tauto
      · tauto
    · exact ⟨hfes, hcount, hconcurrent ▸ .refl _, by tauto⟩
  obtain ⟨judged, hjudge, hjudgedFes, hjudgedCount, hsublist, hjudgedCurrent⟩ := hjudged
  rw [hjudge] at h
  cases hnext : kind.next with
  | none =>
    rw [hnext] at h
    cases h
  | some nextPart =>
    rw [hnext] at h
    obtain ⟨endTime, hend, h⟩ := bind_eq_ok_iff.mp h
    obtain ⟨fes, hscheduled, h⟩ := bind_eq_ok_iff.mp h
    cases h
    rw [hjudgedFes] at hscheduled
    exact ⟨⟨nextPart, arrival, endTime, hend, hscheduled, hjudgedCount⟩, hsublist, hjudgedCurrent⟩

/-- The end of a reception the radio does not follow changes neither field. One
it follows is dropped when it is still receiving it; else the timer, which is
deleted, stays current. -/
theorem endReception_spec (par : Parameters) (s : LoRaGWRadio) (id : Nat) (arrival : Arrival)
    (successful : Bool) (hnode : par.iAmGateway = false → s.concurrentReceptions = []) :
    let s' := s.endReception par id arrival successful
    s'.fes = s.fes ∧ s'.messageCount = s.messageCount ∧
      (¬ s.Tracks id → s'.concurrentReceptions = s.concurrentReceptions ∧
        s'.receptionTimer = s.receptionTimer) ∧
      (s.Tracks id → isReceiverMode s.radioMode ∧ arrival.endTime = s.fes.simTime ∧
          s.iAmTransmiting = false →
        s'.concurrentReceptions = s.concurrentReceptions.filter (· ≠ id) ∧
        s'.receptionTimer = none) ∧
      (s.Tracks id → ¬ (isReceiverMode s.radioMode ∧ arrival.endTime = s.fes.simTime ∧
          s.iAmTransmiting = false) →
        s'.concurrentReceptions = s.concurrentReceptions ∧ s'.receptionTimer = some id) := by
  have hcurrent : s.Tracks id → (s.makeCurrent par id).receptionTimer = some id := by
    unfold makeCurrent
    rintro (hmem | hsame)
    · cases hgateway : par.iAmGateway with
      | true => rw [if_pos ⟨rfl, hmem⟩]
      | false =>
        rw [hnode hgateway] at hmem
        cases hmem
    · split
      · rfl
      · exact hsame
  obtain ⟨hfes, hcount, hconcurrent, hmode, htransmitting, hkept⟩ := makeCurrent_frame par s id
  have hremoved : (s.makeCurrent par id).removeReception par id =
      s.concurrentReceptions.filter (· ≠ id) := by
    unfold removeReception
    rw [hconcurrent]
    split
    · rfl
    · next hnot => rw [hnode (by simpa using hnot), List.filter_nil]
  have hreceiving : (s.makeCurrent par id).IsReceiving id arrival.endTime ↔
      (s.makeCurrent par id).receptionTimer = some id ∧ isReceiverMode s.radioMode ∧
        arrival.endTime = s.fes.simTime ∧ s.iAmTransmiting = false := by
    unfold IsReceiving
    rw [hfes, hmode, htransmitting]
  unfold endReception
  dsimp only
  generalize s.makeCurrent par id = current at *
  have hfinished : ∀ finished : LoRaGWRadio, finished = current.countReceptionFinished par successful →
      finished.fes = current.fes ∧ finished.messageCount = current.messageCount ∧
        finished.removeReception par id = current.removeReception par id := by
    rintro finished rfl
    unfold countReceptionFinished
    split <;> exact ⟨rfl, rfl, rfl⟩
  obtain ⟨hfinishedFes, hfinishedCount, hfinishedRemoved⟩ := hfinished _ rfl
  by_cases htracks : s.Tracks id
  · have hsome := hcurrent htracks
    by_cases hguard : isReceiverMode s.radioMode ∧ arrival.endTime = s.fes.simTime ∧
        s.iAmTransmiting = false
    · rw [if_pos (hreceiving.mpr ⟨hsome, hguard⟩)]
      exact ⟨hfinishedFes.trans hfes, hfinishedCount.trans hcount, fun hnot => absurd htracks hnot,
        fun _ _ => ⟨hfinishedRemoved.trans hremoved, rfl⟩, fun _ hnot => absurd hguard hnot⟩
    · rw [if_neg (fun h => hguard (hreceiving.mp h).2)]
      exact ⟨hfes, hcount, fun hnot => absurd htracks hnot, fun _ h => absurd h hguard,
        fun _ _ => ⟨hconcurrent, hsome⟩⟩
  · have hnot : ¬ current.receptionTimer = some id := by
      rcases hkept with hsame | ⟨hmem, -⟩
      · rw [hsame]
        exact fun h => htracks (Or.inr h)
      · exact absurd (Or.inl hmem) htracks
    have hsame : current.receptionTimer = s.receptionTimer := by
      rcases hkept with hsame | ⟨hmem, -⟩
      · exact hsame
      · exact absurd (Or.inl hmem) htracks
    rw [if_neg (fun h => hnot (hreceiving.mp h).1)]
    exact ⟨hfes, hcount, fun _ => ⟨hconcurrent, hsame⟩, fun h => absurd h htracks,
      fun h => absurd h htracks⟩

/-- The other handlers schedule at most a timer of another kind, and change the
two fields only to drop a reception. -/
structure LeavesReceptions (s s' : LoRaGWRadio) : Prop where
  pending : pendingReceptions s'.fes = pendingReceptions s.fes
  scheduled : ∀ e ∈ s'.fes.scheduled, e ∈ s.fes.scheduled ∨ e.message.receptionId = none
  count : s.messageCount ≤ s'.messageCount
  concurrent : s'.concurrentReceptions.Sublist s.concurrentReceptions
  current : s'.receptionTimer = s.receptionTimer ∨ s'.receptionTimer = none

theorem leavesReceptions_of_scheduleAt {timer : GWRadioTimer} {t : SimTime}
    (htimer : timer.receptionId = none) (h : s.fes.scheduleAt t timer = .ok s'.fes)
    (hcount : s.messageCount ≤ s'.messageCount)
    (hconcurrent : s'.concurrentReceptions = s.concurrentReceptions)
    (hcurrent : s'.receptionTimer = s.receptionTimer) : LeavesReceptions s s' := by
  refine ⟨?_, ?_, hcount, hconcurrent ▸ .refl _, Or.inl hcurrent⟩
  · rw [pendingReceptions_scheduleAt h, htimer, Option.toList_none, List.append_nil]
  · intro e he
    rw [(FutureEventSet.scheduleAt_eq_ok.mp h).2] at he
    rcases List.mem_append.mp he with he | he
    · exact Or.inl he
    · exact Or.inr (List.mem_singleton.mp he ▸ htimer)

theorem leavesReceptions_of_fes (hfes : s'.fes = s.fes) (hcount : s'.messageCount = s.messageCount)
    (hconcurrent : s'.concurrentReceptions.Sublist s.concurrentReceptions)
    (hcurrent : s'.receptionTimer = s.receptionTimer ∨ s'.receptionTimer = none) :
    LeavesReceptions s s' :=
  ⟨by rw [hfes], fun e he => Or.inl (hfes ▸ he), hcount.ge, hconcurrent, hcurrent⟩

theorem startTransmission_leaves {transmission : Arrival} {part : SignalPart}
    (h : s.startTransmission transmission part = .ok s') : LeavesReceptions s s' := by
  unfold startTransmission at h
  split at h
  · obtain ⟨endTime, -, h⟩ := bind_eq_ok_iff.mp h
    obtain ⟨fes, hfes, h⟩ := bind_eq_ok_iff.mp h
    cases h
    exact leavesReceptions_of_scheduleAt rfl hfes (Nat.le_succ _) rfl rfl
  · cases h
    exact leavesReceptions_of_fes rfl rfl (.refl _) (Or.inl rfl)

theorem handleTransmissionTimer_leaves {transmission : Arrival}
    (h : s.handleTransmissionTimer id kind transmission = .ok s') : LeavesReceptions s s' := by
  have hcontinue : s.continueTransmission id kind transmission = .ok s' →
      LeavesReceptions s s' := by
    intro h
    unfold continueTransmission at h
    split at h
    · cases h
    · obtain ⟨endTime, -, h⟩ := bind_eq_ok_iff.mp h
      obtain ⟨fes, hfes, h⟩ := bind_eq_ok_iff.mp h
      cases h
      exact leavesReceptions_of_scheduleAt rfl hfes le_rfl rfl rfl
  have hend : .ok (s.endTransmission id) = (.ok s' : Except Fault LoRaGWRadio) →
      LeavesReceptions s s' := by
    intro h
    cases h
    exact leavesReceptions_of_fes rfl rfl (.refl _) (Or.inl rfl)
  cases kind with
  | NONE => cases h
  | WHOLE => exact hend h
  | PREAMBLE | HEADER => exact hcontinue h
  | DATA => exact hend h

theorem completeRadioModeSwitch_leaves {newRadioMode : RadioMode}
    (h : s.completeRadioModeSwitch par newRadioMode = .ok s') : LeavesReceptions s s' := by
  unfold completeRadioModeSwitch at h
  obtain ⟨aborted, haborted, h⟩ := bind_eq_ok_iff.mp h
  cases h
  have hkept : .ok s = (.ok aborted : Except Fault LoRaGWRadio) → LeavesReceptions s
      { aborted with radioMode := newRadioMode, nextRadioMode := newRadioMode } := by
    intro heq
    cases heq
    exact leavesReceptions_of_fes rfl rfl (.refl _) (Or.inl rfl)
  unfold abortUnlessReceiver at haborted
  split at haborted
  · exact hkept haborted
  · cases hcurrent : s.receptionTimer with
    | none =>
      rw [hcurrent] at haborted
      exact hkept haborted
    | some id =>
      rw [hcurrent] at haborted
      dsimp only at haborted
      unfold abortReception at haborted
      split at haborted
      · cases haborted
        exact leavesReceptions_of_fes rfl rfl (removeReception_sublist par s id) (Or.inr rfl)
      · cases haborted

theorem setRadioMode_leaves {newRadioMode : RadioMode}
    (h : s.setRadioMode par newRadioMode = .ok s') : LeavesReceptions s s' := by
  unfold setRadioMode at h
  split at h
  · cases h
  · split at h
    · cases h
    · split at h
      · split at h
        · unfold startRadioModeSwitch at h
          obtain ⟨fes, hfes, h⟩ := bind_eq_ok_iff.mp h
          cases h
          exact leavesReceptions_of_scheduleAt rfl hfes le_rfl rfl rfl
        · exact completeRadioModeSwitch_leaves h
      · cases h
        exact leavesReceptions_of_fes rfl rfl (.refl _) (Or.inl rfl)

/-- The reception timer that an event delivers, if it does. -/
def Event.receptionId : Event → Option Nat
  | .selfMessage e _ => e.message.receptionId
  | _ => none

/-- What the handling of an event may do, in the state in which its timer has
been taken out. -/
inductive Handled (par : Parameters) (s : LoRaGWRadio) : Event → LoRaGWRadio → Prop where
  | other {event : Event} {s' : LoRaGWRadio} (hevent : event.receptionId = none)
      (hleaves : LeavesReceptions s s') : Handled par s event s'
  | started {t : SimTime} {arrival : Arrival} {attempted : Bool} {s' : LoRaGWRadio}
      (hschedule : Reschedules { s with messageCount := s.messageCount + 1 } s.messageCount s')
      (hfields : s'.concurrentReceptions = s.concurrentReceptions ∧
          s'.receptionTimer = s.receptionTimer ∨
        s'.concurrentReceptions = (if par.iAmGateway then
          s.concurrentReceptions ++ [s.messageCount] else s.concurrentReceptions) ∧
          s'.receptionTimer = some s.messageCount) :
      Handled par s (.lowerPacket t arrival attempted) s'
  | continued {e : ScheduledMessage GWRadioTimer} {answers : MediumAnswers} {id : Nat}
      {kind : SignalPart} {arrival : Arrival} {s' : LoRaGWRadio}
      (hmessage : e.message = .receptionTimer id kind arrival)
      (hkind : ¬ (kind = .WHOLE ∨ kind = .DATA)) (hschedule : s.Reschedules id s')
      (hconcurrent : s'.concurrentReceptions.Sublist s.concurrentReceptions)
      (hcurrent : s'.receptionTimer = s.receptionTimer ∨ s'.receptionTimer = some id ∨
        s'.receptionTimer = none) : Handled par s (.selfMessage e answers) s'
  | ended {e : ScheduledMessage GWRadioTimer} {answers : MediumAnswers} {id : Nat}
      {kind : SignalPart} {arrival : Arrival}
      (hmessage : e.message = .receptionTimer id kind arrival)
      (hkind : kind = .WHOLE ∨ kind = .DATA) : Handled par s (.selfMessage e answers)
        (s.endReception par id arrival answers.isReceptionSuccessful)

variable {event : Event}

theorem handle_handled (h : handle par s event = .ok s') : Handled par s event s' := by
  cases event with
  | upperPacket t transmission => exact .other rfl (startTransmission_leaves h)
  | setRadioMode t newRadioMode => exact .other rfl (setRadioMode_leaves h)
  | lowerPacket t arrival attempted =>
    obtain ⟨hschedule, hfields⟩ := startReception_spec h
    exact .started hschedule hfields
  | selfMessage e answers =>
    rw [handle] at h
    cases hmessage : e.message with
    | switchTimer =>
      rw [hmessage] at h
      exact .other (by rw [Event.receptionId, hmessage]; rfl) (completeRadioModeSwitch_leaves h)
    | transmissionTimer id kind transmission =>
      rw [hmessage] at h
      exact .other (by rw [Event.receptionId, hmessage]; rfl) (handleTransmissionTimer_leaves h)
    | receptionTimer id kind arrival =>
      rw [hmessage] at h
      have hcontinued : s.continueReception par id kind arrival answers = .ok s' →
          ¬ (kind = .WHOLE ∨ kind = .DATA) → Handled par s (.selfMessage e answers) s' := by
        intro hcontinue hkind
        obtain ⟨hschedule, hconcurrent, hcurrent⟩ := continueReception_spec hcontinue
        exact .continued hmessage hkind hschedule hconcurrent hcurrent
      have hended : s.endReception par id arrival answers.isReceptionSuccessful = s' →
          (kind = .WHOLE ∨ kind = .DATA) → Handled par s (.selfMessage e answers) s' := by
        rintro rfl hkind
        exact .ended hmessage hkind
      cases kind with
      | NONE => cases h
      | WHOLE => exact hended (Except.ok.inj h) (Or.inl rfl)
      | PREAMBLE | HEADER => exact hcontinued h (by simp)
      | DATA => exact hended (Except.ok.inj h) (Or.inr rfl)

theorem step_handled (h : step par s event = some (s', ())) :
    ∃ fes, s.fesAt event = some fes ∧ Handled par { s with fes } event s' := by
  unfold step at h
  cases hfes : s.fesAt event with
  | none => simp [hfes] at h
  | some fes =>
    simp only [hfes] at h
    cases hhandle : handle par { s with fes } event with
    | error fault => simp [hhandle] at h
    | ok next =>
      simp only [hhandle, Option.some.injEq, Prod.mk.injEq, and_true] at h
      exact ⟨fes, rfl, handle_handled (h ▸ hhandle)⟩

/-- The event set when an event is handled: its timer, if it is one of the
reception timers, has been taken out. -/
theorem fesAt_spec (h : s.fesAt event = some fes) :
    (pendingReceptions s.fes).Perm (event.receptionId.toList ++ pendingReceptions fes) ∧
      fes.scheduled ⊆ s.fes.scheduled ∧
      ∀ e answers, event = .selfMessage e answers →
        e ∈ s.fes.scheduled ∧ fes.simTime = e.arrivalTime := by
  have hadvance : ∀ t, (if s.fes.IsNext t then some (s.fes.advance t) else none) = some fes →
      event.receptionId = none → (∀ e answers, event ≠ .selfMessage e answers) →
      (pendingReceptions s.fes).Perm (event.receptionId.toList ++ pendingReceptions fes) ∧
        fes.scheduled ⊆ s.fes.scheduled ∧
        ∀ e answers, event = .selfMessage e answers →
          e ∈ s.fes.scheduled ∧ fes.simTime = e.arrivalTime := by
    intro t hsome hnone hother
    split at hsome
    · cases hsome
      refine ⟨?_, List.Subset.refl _, fun e answers heq => absurd heq (hother e answers)⟩
      rw [hnone]
      exact .refl _
    · cases hsome
  cases event with
  | upperPacket t transmission | lowerPacket t arrival attempted | setRadioMode t newRadioMode =>
    exact hadvance t h rfl (by simp)
  | selfMessage e answers =>
    rw [fesAt] at h
    split at h
    · next hnext =>
      cases h
      refine ⟨pendingReceptions_fire hnext.1, List.erase_subset, ?_⟩
      intro other otherAnswers heq
      obtain ⟨rfl, -⟩ := Event.selfMessage.inj heq
      exact ⟨hnext.1, rfl⟩
    · cases h

theorem TimersConsistent.moved (htimers : TimersConsistent par s) (h : s.fesAt event = some fes) :
    TimersConsistent par { s with fes } := by
  obtain ⟨hperm, hsub, -⟩ := fesAt_spec h
  have hsublist : (pendingReceptions fes).Sublist
      (event.receptionId.toList ++ pendingReceptions fes) := List.sublist_append_right _ _
  refine ⟨(hperm.nodup_iff.mp htimers.nodup).sublist hsublist, ?_, ?_, htimers.node⟩
  · intro id hid
    exact htimers.fresh id (hperm.mem_iff.mpr (hsublist.subset hid))
  · intro e he
    exact htimers.timed e (hsub he)

theorem TimersConsistent.leaves (htimers : TimersConsistent par s)
    (hleaves : LeavesReceptions s s') : TimersConsistent par s' := by
  refine ⟨hleaves.pending ▸ htimers.nodup, ?_, ?_, ?_⟩
  · intro id hid
    rw [hleaves.pending] at hid
    exact (htimers.fresh id hid).trans_le hleaves.count
  · intro e he id kind arrival hmessage
    rcases hleaves.scheduled e he with he | hnone
    · exact htimers.timed e he id kind arrival hmessage
    · rw [hmessage] at hnone
      cases hnone
  · intro hnode
    have hempty := hleaves.concurrent
    rw [htimers.node hnode] at hempty
    exact List.sublist_nil.mp hempty

theorem Reschedules.pending (hschedule : s.Reschedules id s') :
    pendingReceptions s'.fes = pendingReceptions s.fes ++ [id] := by
  obtain ⟨kind, arrival, endTime, -, hfes, -⟩ := hschedule
  exact pendingReceptions_scheduleAt hfes

theorem TimersConsistent.reschedules (htimers : TimersConsistent par s)
    (hschedule : s.Reschedules id s') (hid : id ∉ pendingReceptions s.fes)
    (hfresh : id < s.messageCount)
    (hnode : par.iAmGateway = false → s'.concurrentReceptions = []) : TimersConsistent par s' := by
  have hpending := hschedule.pending
  obtain ⟨kind, arrival, endTime, hend, hfes, hcount⟩ := hschedule
  refine ⟨?_, ?_, ?_, hnode⟩
  · rw [hpending]
    exact List.Nodup.append htimers.nodup (List.nodup_singleton _) (List.disjoint_singleton.mpr hid)
  · intro other hother
    rw [hpending] at hother
    rw [hcount]
    rcases List.mem_append.mp hother with hother | hother
    · exact htimers.fresh other hother
    · exact List.mem_singleton.mp hother ▸ hfresh
  · intro e he other otherKind otherArrival hmessage
    rw [(FutureEventSet.scheduleAt_eq_ok.mp hfes).2] at he
    rcases List.mem_append.mp he with he | he
    · exact htimers.timed e he other otherKind otherArrival hmessage
    · rw [List.mem_singleton.mp he] at hmessage ⊢
      obtain ⟨-, rfl, rfl⟩ := GWRadioTimer.receptionTimer.inj hmessage
      exact hend

/-- A reception timer that is being handled is in none of the others' places. -/
theorem not_mem_pending_of_fesAt (htimers : TimersConsistent par s) (h : s.fesAt event = some fes)
    (hid : event.receptionId = some id) :
    id ∉ pendingReceptions fes ∧ id ∈ pendingReceptions s.fes ∧
      ∀ other ∈ pendingReceptions s.fes, other = id ∨ other ∈ pendingReceptions fes := by
  obtain ⟨hperm, -, -⟩ := fesAt_spec h
  rw [hid, Option.toList_some, List.singleton_append] at hperm
  have hnodup := hperm.nodup_iff.mp htimers.nodup
  exact ⟨(List.nodup_cons.mp hnodup).1, hperm.mem_iff.mpr (.head _),
    fun other hother => List.mem_cons.mp (hperm.mem_iff.mp hother)⟩

theorem endReception_sublist (id : Nat) (arrival : Arrival) (successful : Bool)
    (hnode : par.iAmGateway = false → s.concurrentReceptions = []) :
    (s.endReception par id arrival successful).concurrentReceptions.Sublist
      s.concurrentReceptions := by
  obtain ⟨-, -, hother, hdropped, hstale⟩ := endReception_spec par s id arrival successful hnode
  by_cases htracks : s.Tracks id
  · by_cases hguard : isReceiverMode s.radioMode ∧ arrival.endTime = s.fes.simTime ∧
        s.iAmTransmiting = false
    · rw [(hdropped htracks hguard).1]
      exact List.filter_sublist
    · rw [(hstale htracks hguard).1]
  · rw [(hother htracks).1]

theorem step_timersConsistent (htimers : TimersConsistent par s)
    (h : step par s event = some (s', ())) : TimersConsistent par s' := by
  obtain ⟨fes, hfes, hhandled⟩ := step_handled h
  have hmoved := htimers.moved hfes
  cases hhandled with
  | other hevent hleaves => exact hmoved.leaves hleaves
  | @started t arrival attempted _ hschedule hfields =>
    have hnode : par.iAmGateway = false → s'.concurrentReceptions = [] := by
      intro hgateway
      obtain ⟨hsame, -⟩ | ⟨hadded, -⟩ := hfields
      · rw [hsame]
        exact htimers.node hgateway
      · rw [hadded, if_neg (by simp [hgateway])]
        exact htimers.node hgateway
    have hcounted : TimersConsistent par { s with fes, messageCount := s.messageCount + 1 } :=
      ⟨hmoved.nodup, fun id hid => (hmoved.fresh id hid).trans (Nat.lt_succ_self _),
        hmoved.timed, hmoved.node⟩
    have hnew : s.messageCount ∉ pendingReceptions fes := by
      intro hmem
      exact absurd (hmoved.fresh _ hmem) (Nat.lt_irrefl _)
    exact hcounted.reschedules hschedule hnew (Nat.lt_succ_self _) hnode
  | @continued e answers id kind arrival _ hmessage hkind hschedule hconcurrent hcurrent =>
    have hid : (Event.selfMessage e answers).receptionId = some id := by
      rw [Event.receptionId, hmessage, GWRadioTimer.receptionId]
    obtain ⟨hnot, hmem, -⟩ := not_mem_pending_of_fesAt htimers hfes hid
    refine hmoved.reschedules hschedule hnot (htimers.fresh id hmem) ?_
    intro hgateway
    have hempty : s.concurrentReceptions = [] := htimers.node hgateway
    exact List.sublist_nil.mp (hempty ▸ hconcurrent)
  | @ended e answers id kind arrival hmessage hkind =>
    have hsublist := endReception_sublist id arrival answers.isReceptionSuccessful hmoved.node
    obtain ⟨hfesSame, hcount, -⟩ :=
      endReception_spec par { s with fes } id arrival answers.isReceptionSuccessful hmoved.node
    refine ⟨hfesSame ▸ hmoved.nodup, ?_, hfesSame ▸ hmoved.timed, ?_⟩
    · rw [hfesSame, hcount]
      exact hmoved.fresh
    · intro hgateway
      exact List.sublist_nil.mp (hmoved.node hgateway ▸ hsublist)

theorem initial_spec (hinit : Initial par s) : TimersConsistent par s ∧ Bookkeeping s := by
  have hleaves := setRadioMode_leaves hinit
  have hblank : TimersConsistent par blank :=
    ⟨List.nodup_nil, fun id hid => absurd hid List.not_mem_nil,
      fun e he => absurd he List.not_mem_nil, fun _ => rfl⟩
  have hempty : s.concurrentReceptions = [] := List.sublist_nil.mp hleaves.concurrent
  have hnone : s.receptionTimer = none := by
    obtain h | h := hleaves.current <;> exact h
  refine ⟨hblank.leaves hleaves, ?_, ?_, ?_⟩
  · rw [hempty]
    exact List.nodup_nil
  · rw [hempty]
    intro id hid
    cases hid
  · rw [hnone]
    intro id hid
    cases hid

theorem timersConsistent_of_run {history : List Label} (hrun : RadioRun par history s) :
    TimersConsistent par s := by
  refine @Run.invariant _ _ _ _ (fun _ s => TimersConsistent par s) _ _ hrun ?_ ?_
  · intro s hinit
    exact (initial_spec hinit).1
  · rintro history s ⟨event, before, _⟩ s' - htimers hstep
    obtain ⟨rfl, hstep⟩ := traced_eq_some.mp hstep
    exact step_timersConsistent htimers hstep

/-- An event at which a reception the radio is following does not end while the
radio transmits, nor while it is in no receiver mode. -/
def EndsReceiving (s : LoRaGWRadio) : Event → Prop
  | .selfMessage ⟨_, .receptionTimer id kind _⟩ _ =>
    kind = .WHOLE ∨ kind = .DATA → s.Tracks id →
      isReceiverMode s.radioMode ∧ s.iAmTransmiting = false
  | _ => True

instance : DecidablePred s.EndsReceiving
  | .selfMessage ⟨_, .receptionTimer _ _ _⟩ _ => inferInstanceAs (Decidable (_ → _ → _))
  | .selfMessage ⟨_, .switchTimer⟩ _ | .selfMessage ⟨_, .transmissionTimer ..⟩ _ | .upperPacket .. | .lowerPacket ..
  | .setRadioMode .. => isTrue trivial

instance : Decidable s.Bookkeeping :=
  decidable_of_iff (s.concurrentReceptions.Nodup ∧
      (∀ id ∈ s.concurrentReceptions, id ∈ pendingReceptions s.fes) ∧
      ∀ id ∈ s.receptionTimer, id ∈ pendingReceptions s.fes)
    ⟨fun h => ⟨h.1, h.2.1, h.2.2⟩, fun h => ⟨h.nodup, h.concurrent, h.current⟩⟩

theorem Bookkeeping.started {s s' : LoRaGWRadio}
    (hbook : TracksOnly (pendingReceptions s.fes) s) (hid : id ∉ pendingReceptions s.fes)
    (hschedule : s.Reschedules id s')
    (hfields : s'.concurrentReceptions = s.concurrentReceptions ∧
        s'.receptionTimer = s.receptionTimer ∨
      s'.concurrentReceptions = (if par.iAmGateway then s.concurrentReceptions ++ [id]
        else s.concurrentReceptions) ∧ s'.receptionTimer = some id) : s'.Bookkeeping := by
  have hsub : pendingReceptions s.fes ⊆ pendingReceptions s'.fes := by
    rw [hschedule.pending]
    exact List.subset_append_left _ _
  obtain ⟨hsame, hcurrent⟩ | ⟨hadded, hcurrent⟩ := hfields
  · exact (hbook.mono hsub).narrow (hsame ▸ .refl _) (Or.inl hcurrent)
  · have hmem : id ∈ pendingReceptions s'.fes := by
      rw [hschedule.pending]
      exact List.mem_append_right _ (.head _)
    refine ⟨?_, ?_, ?_⟩
    · rw [hadded]
      split
      · refine List.Nodup.append hbook.nodup (List.nodup_singleton _) ?_
        rw [List.disjoint_singleton]
        intro hconcurrent
        exact hid (hbook.concurrent id hconcurrent)
      · exact hbook.nodup
    · intro other hother
      rw [hadded] at hother
      split at hother
      · obtain hother | hother := List.mem_append.mp hother
        · exact hsub (hbook.concurrent other hother)
        · exact List.mem_singleton.mp hother ▸ hmem
      · exact hsub (hbook.concurrent other hother)
    · intro other hother
      rw [hcurrent] at hother
      exact Option.some.inj hother ▸ hmem

/-- The guard at the end of a part can only fail on the mode or on the
transmission: a timer is delivered at the end time of its arrival. -/
theorem endTime_eq_now {answers : MediumAnswers} {id : Nat}
    (htimers : TimersConsistent par s) (hfes : s.fesAt event = some fes)
    (hevent : event = .selfMessage e answers) (hmessage : e.message = .receptionTimer id kind arrival)
    (hkind : kind = .WHOLE ∨ kind = .DATA) : arrival.endTime = fes.simTime := by
  obtain ⟨-, -, hself⟩ := fesAt_spec hfes
  obtain ⟨hmem, hnow⟩ := hself e answers hevent
  have htimed := htimers.timed e hmem id kind arrival hmessage
  rw [hnow]
  obtain rfl | rfl := hkind
  · exact Except.ok.inj htimed
  · exact Except.ok.inj htimed

theorem bookkeeping_step (htimers : TimersConsistent par s)
    (hbook : s.Bookkeeping) (hcond : s.EndsReceiving event)
    (h : step par s event = some (s', ())) : s'.Bookkeeping := by
  obtain ⟨fes, hfes, hhandled⟩ := step_handled h
  have hmoved := htimers.moved hfes
  obtain ⟨hperm, -, -⟩ := fesAt_spec hfes
  cases hhandled with
  | other hevent hleaves =>
    rw [hevent, Option.toList_none, List.nil_append] at hperm
    have hkept : TracksOnly (pendingReceptions fes) { s with fes } :=
      ⟨hbook.nodup, fun id hid => hperm.subset (hbook.concurrent id hid),
        fun id hid => hperm.subset (hbook.current id hid)⟩
    unfold Bookkeeping
    rw [hleaves.pending]
    exact hkept.narrow hleaves.concurrent hleaves.current
  | @started t arrival attempted _ hschedule hfields =>
    have hkept : TracksOnly (pendingReceptions fes)
        { s with fes, messageCount := s.messageCount + 1 } :=
      ⟨hbook.nodup, fun id hid => hperm.subset (hbook.concurrent id hid),
        fun id hid => hperm.subset (hbook.current id hid)⟩
    have hnew : s.messageCount ∉ pendingReceptions fes := by
      intro hmem
      exact absurd (hmoved.fresh _ hmem) (Nat.lt_irrefl _)
    exact Bookkeeping.started hkept hnew hschedule hfields
  | @continued e answers id kind arrival _ hmessage hkind hschedule hconcurrent hcurrent =>
    have hid : (Event.selfMessage e answers).receptionId = some id := by
      rw [Event.receptionId, hmessage, GWRadioTimer.receptionId]
    obtain ⟨-, -, hothers⟩ := not_mem_pending_of_fesAt htimers hfes hid
    -- the timer that was taken out is scheduled again for the next part
    have hback : ∀ other ∈ pendingReceptions s.fes, other ∈ pendingReceptions s'.fes := by
      intro other hother
      rw [hschedule.pending]
      obtain rfl | hother := hothers other hother
      · exact List.mem_append_right _ (.head _)
      · exact List.mem_append_left _ hother
    refine ⟨hbook.nodup.sublist hconcurrent, ?_, ?_⟩
    · intro other hother
      exact hback other (hbook.concurrent other (hconcurrent.subset hother))
    · intro other hother
      obtain hsame | hself | hnone := hcurrent
      · exact hback other (hbook.current other (hsame ▸ hother))
      · rw [hself] at hother
        cases hother
        rw [hschedule.pending]
        exact List.mem_append_right _ (.head _)
      · rw [hnone] at hother
        cases hother
  | @ended e answers id kind arrival hmessage hkind =>
    have hid : (Event.selfMessage e answers).receptionId = some id := by
      rw [Event.receptionId, hmessage, GWRadioTimer.receptionId]
    obtain ⟨-, -, hothers⟩ := not_mem_pending_of_fesAt htimers hfes hid
    have hnow := endTime_eq_now htimers hfes rfl hmessage hkind
    obtain ⟨hfesSame, -, hother, hdropped, -⟩ :=
      endReception_spec par { s with fes } id arrival answers.isReceptionSuccessful hmoved.node
    have hcond : s.Tracks id → isReceiverMode s.radioMode ∧ s.iAmTransmiting = false := by
      obtain ⟨arrivalTime, message⟩ := e
      obtain rfl : message = .receptionTimer id kind arrival := hmessage
      exact hcond hkind
    unfold Bookkeeping
    rw [hfesSame]
    by_cases htracks : s.Tracks id
    · obtain ⟨hmode, htransmitting⟩ := hcond htracks
      obtain ⟨hconcurrent, hcurrent⟩ := hdropped htracks ⟨hmode, hnow, htransmitting⟩
      refine ⟨?_, ?_, ?_⟩
      · rw [hconcurrent]
        exact hbook.nodup.filter _
      · intro other hother
        rw [hconcurrent] at hother
        obtain ⟨hother, hne⟩ := List.mem_filter.mp hother
        obtain rfl | hpending := hothers other (hbook.concurrent other hother)
        · exact absurd rfl (of_decide_eq_true hne)
        · exact hpending
      · rw [hcurrent]
        intro other hother
        cases hother
    · obtain ⟨hconcurrent, hcurrent⟩ := hother htracks
      refine ⟨?_, ?_, ?_⟩
      · rw [hconcurrent]
        exact hbook.nodup
      · intro other hmem
        rw [hconcurrent] at hmem
        obtain rfl | hpending := hothers other (hbook.concurrent other hmem)
        · exact absurd (Or.inl hmem) htracks
        · exact hpending
      · intro other hsome
        rw [hcurrent] at hsome
        obtain rfl | hpending := hothers other (hbook.current other hsome)
        · exact absurd (Or.inr hsome) htracks
        · exact hpending

theorem not_bookkeeping_step (htimers : TimersConsistent par s)
    (hcond : ¬ s.EndsReceiving event) (h : step par s event = some (s', ())) :
    ¬ s'.Bookkeeping := by
  obtain ⟨fes, hfes, hhandled⟩ := step_handled h
  have hmoved := htimers.moved hfes
  unfold EndsReceiving at hcond
  split at hcond
  · next arrivalTime id kind arrival answers =>
    obtain ⟨hkind, hcond⟩ := Classical.not_imp.mp hcond
    obtain ⟨htracks, hnot⟩ := Classical.not_imp.mp hcond
    obtain ⟨hgone, -, -⟩ := not_mem_pending_of_fesAt htimers hfes rfl
    cases hhandled with
    | other hevent hleaves => cases hevent
    | continued hmessage hother hschedule hconcurrent hcurrent =>
      obtain ⟨-, rfl, -⟩ := GWRadioTimer.receptionTimer.inj hmessage
      exact absurd hkind hother
    | ended hmessage hkind =>
      obtain ⟨rfl, rfl, rfl⟩ := GWRadioTimer.receptionTimer.inj hmessage
      obtain ⟨hfesSame, -, -, -, hstale⟩ :=
        endReception_spec par { s with fes } id arrival answers.isReceptionSuccessful hmoved.node
      have hstill := (hstale htracks fun hguard => hnot ⟨hguard.1, hguard.2.2⟩).2
      intro hbook
      have hpending := hbook.current id hstill
      rw [hfesSame] at hpending
      exact hgone hpending
  · exact absurd trivial hcond

/-- The bookkeeping is right after every event of a run exactly when no
reception the radio is following ever ends while it transmits or while it is in
no receiver mode. -/
theorem bookkeeping_iff_endsReceiving {history : List Label} (hrun : RadioRun par history s) :
    ((∀ label ∈ history, label.2.1.Bookkeeping) ∧ s.Bookkeeping) ↔
      ∀ label ∈ history, label.2.1.EndsReceiving label.1 := by
  induction hrun with
  | init hinit => simpa using (initial_spec hinit).2
  | @step history s s' label hrun hstep ih =>
    obtain ⟨event, before, _⟩ := label
    obtain ⟨rfl, htaken⟩ := traced_eq_some.mp hstep
    have htimers := timersConsistent_of_run hrun
    rw [List.forall_mem_cons, List.forall_mem_cons, ← ih]
    constructor
    · rintro ⟨⟨hbefore, hhistory⟩, hafter⟩
      refine ⟨?_, hhistory, hbefore⟩
      by_contra hcond
      exact not_bookkeeping_step htimers hcond htaken hafter
    · rintro ⟨hcond, hhistory, hbefore⟩
      exact ⟨⟨hbefore, hhistory⟩, bookkeeping_step htimers hbefore hcond htaken⟩

/-- A radio that has no switching times is a transceiver from the start. -/
def idle : LoRaGWRadio := { blank with radioMode := .TRANSCEIVER, nextRadioMode := .TRANSCEIVER }

theorem initial_idle : Initial {} idle := rfl

/-- Two frames overlap, and a third one ends after the transmission. -/
theorem bookkeeping_iff_endsReceiving_overlap : ∃ s history,
    (RadioRun {} history s ∧ s.concurrentReceptions = [2]) ∧
      ((∀ label ∈ history, label.2.1.Bookkeeping) ∧ s.Bookkeeping) := by
  obtain ⟨s, history, hrun, hconcurrent, hcond⟩ := exists_run_of_initial (traced (step {}))
    initial_idle
    [.lowerPacket 0 ⟨0, 10, 0, 0, 0⟩ true, .lowerPacket 5 ⟨5, 15, 0, 0, 0⟩ true,
      .lowerPacket 6 ⟨6, 40, 0, 0, 0⟩ true,
      .selfMessage ⟨10, .receptionTimer 0 .WHOLE ⟨0, 10, 0, 0, 0⟩⟩ ⟨true, true⟩,
      .selfMessage ⟨15, .receptionTimer 1 .WHOLE ⟨5, 15, 0, 0, 0⟩⟩ ⟨false, true⟩,
      .upperPacket 20 ⟨20, 30, 0, 0, 0⟩]
    (fun s history => s.concurrentReceptions = [2] ∧
      ∀ label ∈ history, label.2.1.EndsReceiving label.1)
    (by decide +kernel)
  exact ⟨s, history, ⟨hrun, hconcurrent⟩, (bookkeeping_iff_endsReceiving hrun).mpr hcond⟩

/-- A frame ends while the gateway transmits: its timer is deleted, and is left
in both fields. -/
theorem endReception_leaves_deleted_timer : ∃ s history, RadioRun {} history s ∧
    pendingReceptions s.fes = [] ∧ s.concurrentReceptions = [0] ∧ s.receptionTimer = some 0 ∧
      ¬ s.Bookkeeping := by
  exact exists_run_of_initial (traced (step {})) initial_idle
    [.lowerPacket 0 ⟨0, 10, 0, 0, 0⟩ true, .upperPacket 5 ⟨5, 20, 0, 0, 0⟩,
      .selfMessage ⟨10, .receptionTimer 0 .WHOLE ⟨0, 10, 0, 0, 0⟩⟩ ⟨true, true⟩]
    (fun s _ => pendingReceptions s.fes = [] ∧ s.concurrentReceptions = [0] ∧
      s.receptionTimer = some 0 ∧ ¬ s.Bookkeeping) (by decide +kernel)

end LoRaGWRadio

end inet.physicallayer
