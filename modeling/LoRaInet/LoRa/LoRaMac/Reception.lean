import LoRaInet.LoRa.LoRaMac.Invariant

open omnetpp transition inet.physicallayer

namespace inet.LoRaNic

open LoRaMac (State Timer Message)

variable {s s' : LoRaNic} {b : Bool} {n : ℕ}

/-- The state of the radio apart from the timers of frames that arrive. -/
structure SameRadio (s s' : LoRaNic) : Prop where
  mode : s'.radio.radioMode = s.radio.radioMode
  nextMode : s'.radio.nextRadioMode = s.radio.nextRadioMode
  reception : s'.radio.receptionState = s.radio.receptionState
  transmission : s'.radio.transmissionState = s.radio.transmissionState
  receptionTimer : s'.radio.receptionTimer = s.radio.receptionTimer
  transmissionTimer : s'.radio.transmissionTimer = s.radio.transmissionTimer
  mac : s'.mac = s.mac
  toRadio : s'.toRadio = s.toRadio
  toMac : s'.toMac = s.toMac

theorem Sleeping.same (h : Sleeping s) (hsame : SameRadio s s') : Sleeping s' :=
  ⟨hsame.mode.trans h.mode, hsame.nextMode.trans h.nextMode, hsame.reception.trans h.reception,
    hsame.transmission.trans h.transmission, hsame.receptionTimer.trans h.noReception,
    hsame.transmissionTimer.trans h.noTransmission⟩

theorem Listening.same (h : Listening s) (hsame : SameRadio s s') : Listening s' := by
  refine ⟨hsame.mode.trans h.mode, hsame.nextMode.trans h.nextMode, ?_,
    hsame.transmission.trans h.transmission, hsame.receptionTimer.trans h.noReception,
    hsame.transmissionTimer.trans h.noTransmission⟩
  rw [hsame.reception]
  exact h.reception

theorem Rest.same (h : Rest s) (hsame : SameRadio s s') : Rest s' := by
  have hmac := hsame.mac
  cases h with
  | idle hfsm hradio h1 h2 h3 h4 =>
    rw [← hmac] at hfsm h1 h2 h3 h4
    exact .idle hfsm (hradio.same hsame) h1 h2 h3 h4
  | delay_1 hfsm hradio h1 =>
    rw [← hmac] at hfsm h1
    exact .delay_1 hfsm (hradio.same hsame) h1
  | listening_1 hfsm hradio h1 h2 =>
    rw [← hmac] at hfsm h1 h2
    exact .listening_1 hfsm (hradio.same hsame) h1 h2
  | delay_2 hfsm hradio h1 h2 h3 =>
    rw [← hmac] at hfsm h1 h2 h3
    exact .delay_2 hfsm (hradio.same hsame) h1 h2 h3
  | listening_2 hfsm hradio h1 h2 h3 h4 =>
    rw [← hmac] at hfsm h1 h2 h3 h4
    exact .listening_2 hfsm (hradio.same hsame) h1 h2 h3 h4

theorem Empty.same (h : Empty s) (hsame : SameRadio s s') : Empty s' := by
  refine ⟨hsame.toRadio.trans h.toRadio, hsame.toMac.trans h.toMac, ?_, ?_⟩
  · rw [hsame.mac]
    exact h.queue
  · rw [hsame.mac]
    exact h.notTransmitting

theorem Sending.same (h : Sending s) (hsame : SameRadio s s') : Sending s' := by
  refine ⟨?_, hsame.mode.trans h.mode, hsame.nextMode.trans h.nextMode,
    hsame.reception.trans h.reception, ?_, hsame.receptionTimer.trans h.noReception, ?_, ?_, ?_, ?_,
    hsame.toMac.trans h.toMac, ?_⟩ <;> rw [hsame.mac]
  · exact h.fsm
  · exact h.macReception
  · exact h.h1
  · exact h.h2
  · exact h.h3
  · exact h.h4
  · exact h.queue

theorem InWindow.same (h : InWindow s) (hsame : SameRadio s s') : InWindow s' := by
  have hmac := hsame.mac
  cases h with
  | first hfsm h1 =>
    rw [← hmac] at hfsm h1
    exact .first hfsm h1
  | second hfsm h1 h2 h3 =>
    rw [← hmac] at hfsm h1 h2 h3
    exact .second hfsm h1 h2 h3

variable {set : RadioMode → LoRaNic → Except Fault LoRaNic}

/-- The reception state of a radio that listens may follow what it hears. -/
theorem update_rest (h : Rest s) (hmac : s.mac.receptionState ≠ .RECEIVING) (hempty : Empty s) :
    ∃ s', updateTransceiverState set b s = .ok s' ∧ Inv s' := by
  by_cases hsame : newReceptionState b s = s.radio.receptionState
  · exact ⟨s, updateTransceiverState_same hsame h.transmission, .rest h hmac hempty⟩
  have hsleeping (hradio : Sleeping s) : newReceptionState b s = s.radio.receptionState := by
    rw [newReceptionState, hradio.mode, hradio.reception]
    rfl
  have hlistening (hradio : Listening s) : newReceptionState b s = heard b := by
    rw [newReceptionState, isReceptionScheduled, hradio.mode, hradio.noReception]
    rfl
  obtain ⟨hnew, hrest⟩ : newReceptionState b s = heard b ∧
      Rest (withReceptionState (heard b) s) := by
    cases h with
    | idle _ hradio | delay_1 _ hradio | delay_2 _ hradio => exact absurd (hsleeping hradio) hsame
    | listening_1 hfsm hradio h1 h2 =>
      exact ⟨hlistening hradio, .listening_1 hfsm ⟨hradio.mode, hradio.nextMode, heard_or b,
        hradio.transmission, hradio.noReception, hradio.noTransmission⟩ h1 h2⟩
    | listening_2 hfsm hradio h1 h2 h3 h4 =>
      exact ⟨hlistening hradio, .listening_2 hfsm ⟨hradio.mode, hradio.nextMode, heard_or b,
        hradio.transmission, hradio.noReception, hradio.noTransmission⟩ h1 h2 h3 h4⟩
  refine ⟨withReceptionState (heard b) s, ?_, .rest hrest (heard_ne b).1
    ⟨hempty.toRadio, hempty.toMac, hempty.queue, hempty.notTransmitting⟩⟩
  refine updateTransceiverState_changed hnew ?_ hmac hrest.medium hrest.transmission
  rw [← hnew]
  exact fun heq => hsame heq.symm

theorem isReceptionScheduled_receiving (h : Receiving s) : isReceptionScheduled s = true := by
  obtain ⟨timer, frame, htimer, hmem⟩ := h.scheduled
  rw [isReceptionScheduled, htimer]
  simp only [List.any_eq_true, decide_eq_true_eq]
  exact ⟨_, hmem, rfl⟩

/-- A radio that sends, sleeps or receives has nothing new to signal. -/
theorem update_inv (h : Inv s) : ∃ s', updateTransceiverState set b s = .ok s' ∧ Inv s' := by
  cases h with
  | rest hrest hmac hempty => exact update_rest hrest hmac hempty
  | queued hsending htimer hframe hradio hmac =>
    refine ⟨s, updateTransceiverState_same (newReceptionState_sending hsending) ?_,
      .queued hsending htimer hframe hradio hmac⟩
    rw [newTransmissionState, hsending.mode, htimer, hradio]
    rfl
  | transmitting hsending htimer hframe hradio hmac =>
    refine ⟨s, updateTransceiverState_same (newReceptionState_sending hsending) ?_,
      .transmitting hsending htimer hframe hradio hmac⟩
    rw [newTransmissionState, hsending.mode, htimer, hradio]
    rfl
  | receiving hwindow hradio hempty =>
    refine ⟨s, updateTransceiverState_same ?_ ?_, .receiving hwindow hradio hempty⟩
    · rw [newReceptionState, hradio.mode, isReceptionScheduled_receiving hradio, hradio.reception]
      rfl
    · rw [newTransmissionState, hradio.mode, hradio.transmission]
      rfl
  | received hwindow hradio hmac hframe hempty =>
    refine ⟨s, updateTransceiverState_same ?_ ?_, .received hwindow hradio hmac hframe hempty⟩
    · rw [newReceptionState, hradio.mode, hradio.reception]
      rfl
    · rw [newTransmissionState, hradio.mode, hradio.transmission]
      rfl

theorem Inv.same (h : Inv s) (hsame : SameRadio s s')
    (hkeep : ∀ timer, s.radio.receptionTimer = some timer → ∀ frame,
      (timer, frame) ∈ s.radio.receptionTimers → (timer, frame) ∈ s'.radio.receptionTimers) :
    Inv s' := by
  have hmac := hsame.mac
  cases h with
  | rest hrest hreception hempty =>
    refine .rest (hrest.same hsame) ?_ (hempty.same hsame)
    rw [hmac]
    exact hreception
  | queued hsending htimer hframe hradio htransmission =>
    refine .queued (hsending.same hsame) (hsame.transmissionTimer.trans htimer) ?_
      (hsame.transmission.trans hradio) ?_
    · rw [hsame.toRadio]
      exact hframe
    · rw [hmac]
      exact htransmission
  | transmitting hsending htimer hframe hradio htransmission =>
    refine .transmitting (hsending.same hsame) (hsame.transmissionTimer.trans htimer)
      (hsame.toRadio.trans hframe) (hsame.transmission.trans hradio) ?_
    rw [hmac]
    exact htransmission
  | receiving hwindow hradio hempty =>
    obtain ⟨timer, frame, htimer, hmem⟩ := hradio.scheduled
    refine .receiving (hwindow.same hsame) ⟨hsame.mode.trans hradio.mode,
      hsame.nextMode.trans hradio.nextMode, hsame.reception.trans hradio.reception, ?_,
      hsame.transmission.trans hradio.transmission,
      hsame.transmissionTimer.trans hradio.noTransmission,
      ⟨timer, frame, hsame.receptionTimer.trans htimer, hkeep timer htimer frame hmem⟩⟩
      (hempty.same hsame)
    rw [hmac]
    exact hradio.macReception
  | received hwindow hradio hreception hframe hempty =>
    refine .received (hwindow.same hsame) (hradio.same hsame) ?_ ?_ ?_
    · rw [hmac]
      exact hreception
    · rw [hsame.toMac]
      exact hframe
    · refine ⟨hsame.toRadio.trans hempty.toRadio, rfl, ?_, ?_⟩
      · change s'.mac.transmissionQueue = []
        rw [hmac]
        exact hempty.queue
      · change s'.mac.transmissionState ≠ .TRANSMITTING
        rw [hmac]
        exact hempty.notTransmitting

variable (frame : LoRaMacFrame)

/-- The timer of a frame that arrives is scheduled. -/
def arrived (s : LoRaNic) : LoRaNic :=
  { s with radio := { s.radio with
      receptionTimers := s.radio.receptionTimers ++ [(s.radio.messageCount, frame)]
      messageCount := s.radio.messageCount + 1 } }

/-- And it is made current. -/
def attempted (s : LoRaNic) : LoRaNic :=
  { arrived frame s with radio := { (arrived frame s).radio with
      receptionTimer := some s.radio.messageCount } }

theorem arrived_inv (h : Inv s) (frame : LoRaMacFrame) : Inv (arrived frame s) :=
  h.same ⟨rfl, rfl, rfl, rfl, rfl, rfl, rfl, rfl, rfl⟩ fun _ _ _ hmem => List.mem_append_left _ hmem

theorem isReceptionScheduled_attempted : isReceptionScheduled (attempted frame s) = true := by
  simp [isReceptionScheduled, attempted, arrived]

/-- A reception that is attempted takes the machine from a window into reception. -/
theorem attempted_listening
    (condition : LoRaNic → Bool) (frame : LoRaMacFrame) {state : State} (hradio : Listening s)
    (hmac : s.mac.receptionState ≠ .RECEIVING) (hempty : Empty s)
    (hstate : state = .RECEIVING_1 ∨ state = .RECEIVING_2)
    (hwindow : InWindow (setState state s))
    (hfiring : fsma.firing fsm (blocks set .mediumStateChange)
      (withReceptionState .RECEIVING (attempted frame s)) = some ⟨condition, state, .ok⟩) :
    ∃ s', updateTransceiverState set b (attempted frame s) = .ok s' ∧ Inv s' := by
  obtain ⟨t, ht⟩ : ∃ t, setState state (withReceptionState .RECEIVING (attempted frame s)) = t :=
    ⟨_, rfl⟩
  have hfsm : t.mac.fsm = state := by rw [← ht]; rfl
  have hentered : fsma.enter fsm (blocks set .mediumStateChange) t = .ok t := by
    refine enter_eq ?_ (.inl rfl)
    rw [hfsm]
    rcases hstate with rfl | rfl <;> rfl
  have hnew : newReceptionState b (attempted frame s) = .RECEIVING := by
    have hmode : (attempted frame s).radio.radioMode = .RECEIVER := hradio.mode
    rw [newReceptionState, hmode, isReceptionScheduled_attempted]
    rfl
  refine ⟨t, updateTransceiverState_changed hnew ?_ hmac (handle_to hfiring (ht ▸ hentered)) ?_, ?_⟩
  · change s.radio.receptionState ≠ .RECEIVING
    rcases hradio.reception with hrec | hrec <;> simp [hrec]
  · subst ht
    have hmode : s.radio.radioMode = .RECEIVER := hradio.mode
    change (if s.radio.radioMode = .OFF ∨ s.radio.radioMode = .SLEEP ∨
      s.radio.radioMode = .RECEIVER then TransmissionState.UNDEFINED else _) =
      s.radio.transmissionState
    rw [if_pos (.inr (.inr hmode)), hradio.transmission]
  · subst ht
    have hwindow' : InWindow (setState state (withReceptionState .RECEIVING (attempted frame s))) := by
      cases hwindow with
      | first hfsm h1 => exact .first hfsm h1
      | second hfsm h1 h2 h3 => exact .second hfsm h1 h2 h3
    refine .receiving hwindow' ⟨hradio.mode, hradio.nextMode, rfl, rfl, hradio.transmission,
      hradio.noTransmission, ⟨s.radio.messageCount, frame, rfl, ?_⟩⟩
      ⟨hempty.toRadio, hempty.toMac, hempty.queue, hempty.notTransmitting⟩
    exact List.mem_append_right _ (List.mem_singleton.mpr rfl)

theorem receptionStarts_inv (h : Inv s) (frame : LoRaMacFrame) (isReceptionAttempted : Bool) :
    ∃ s', startReception set b frame isReceptionAttempted s = .ok s' ∧ Inv s' := by
  have hignored (hmode : isReceiverMode s.radio.radioMode = false) :
      ∃ s', startReception set b frame isReceptionAttempted s = .ok s' ∧ Inv s' := by
    rw [startReception, hmode]
    exact update_inv (arrived_inv h frame)
  cases isReceptionAttempted with
  | false =>
    rw [startReception, Bool.and_false]
    exact update_inv (arrived_inv h frame)
  | true =>
    have hattempted (hmode : s.radio.radioMode = .RECEIVER) :
        startReception set b frame true s = updateTransceiverState set b (attempted frame s) := by
      rw [startReception, hmode]
      rfl
    cases h with
    | rest hrest hmac hempty =>
      cases hrest with
      | idle _ hradio | delay_1 _ hradio | delay_2 _ hradio =>
        exact hignored (by rw [hradio.mode]; rfl)
      | listening_1 hfsm hradio h1 h2 =>
        rw [hattempted hradio.mode]
        refine attempted_listening (fun s => Message.mediumStateChange =
          .mediumStateChange && isReceiving s) frame hradio hmac hempty (.inl rfl)
          (.first rfl h1) ?_
        simp [fsma.firing, blocks, fsm, withReceptionState, attempted, arrived, hfsm, isScheduled,
          h2, isReceiving]
      | listening_2 hfsm hradio h1 h2 h3 h4 =>
        rw [hattempted hradio.mode]
        refine attempted_listening (fun s => Message.mediumStateChange =
          .mediumStateChange && isReceiving s) frame hradio hmac hempty (.inr rfl)
          (.second rfl h1 h2 h3) ?_
        simp [fsma.firing, blocks, fsm, withReceptionState, attempted, arrived, hfsm, isScheduled,
          h4, isReceiving]
    | queued hsending | transmitting hsending => exact hignored (by rw [hsending.mode]; rfl)
    | received _ hradio => exact hignored (by rw [hradio.mode]; rfl)
    | receiving hwindow hradio hempty =>
      rw [hattempted hradio.mode]
      have hwindow' : InWindow (attempted frame s) := by
        cases hwindow with
        | first hfsm h1 => exact .first hfsm h1
        | second hfsm h1 h2 h3 => exact .second hfsm h1 h2 h3
      refine update_inv (.receiving hwindow' ⟨hradio.mode, hradio.nextMode, hradio.reception,
        hradio.macReception, hradio.transmission, hradio.noTransmission,
        ⟨s.radio.messageCount, frame, rfl, ?_⟩⟩
        ⟨hempty.toRadio, hempty.toMac, hempty.queue, hempty.notTransmitting⟩)
      exact List.mem_append_right _ (List.mem_singleton.mpr rfl)

/-- The reception is over, and its timer is no longer current. -/
structure Ended (s : LoRaNic) : Prop where
  window : InWindow s
  mode : s.radio.radioMode = .RECEIVER
  nextMode : s.radio.nextRadioMode = .RECEIVER
  reception : s.radio.receptionState = .RECEIVING
  macReception : s.mac.receptionState = .RECEIVING
  transmission : s.radio.transmissionState = .UNDEFINED
  noTransmission : s.radio.transmissionTimer = false
  noReception : s.radio.receptionTimer = none

theorem InWindow.medium {set : RadioMode → LoRaNic → Except Fault LoRaNic} (h : InWindow s) :
    handleWithFsm set .mediumStateChange s = .ok s := by
  apply handle_none
  cases h with
  | first hfsm | second hfsm => simp [fsma.firing, blocks, fsm, hfsm, isLower]

theorem InWindow.of_mac (h : InWindow s) (hfsm : s'.mac.fsm = s.mac.fsm)
    (h1 : s'.mac.endDelay_1 = s.mac.endDelay_1) (h2 : s'.mac.endListening_1 = s.mac.endListening_1)
    (h3 : s'.mac.endDelay_2 = s.mac.endDelay_2) : InWindow s' := by
  cases h with
  | first hstate hd => exact .first (hfsm.trans hstate) (h1.trans hd)
  | second hstate hd hl he =>
    exact .second (hfsm.trans hstate) (h1.trans hd) (h2.trans hl) (h3.trans he)

theorem updateReceptionState_receiving
    {receptionState : ReceptionState} {t : LoRaNic} (hnew : newReceptionState b s = receptionState)
    (hne : s.radio.receptionState ≠ receptionState) (hmac : s.mac.receptionState = .RECEIVING)
    (hsleep : set .SLEEP (setReceptionState receptionState s) = .ok t)
    (hhandled : handleWithFsm set .mediumStateChange (noteReception receptionState t) = .ok s') :
    updateReceptionState set b s = .ok s' := by
  have hmac' : (setReceptionState receptionState s).mac.receptionState = .RECEIVING := hmac
  rw [updateReceptionState, hnew, if_pos hne, receptionStateChanged, if_pos hmac', hsleep]
  exact hhandled

/-- The MAC, which still receives, puts a radio to sleep that has ended a reception. -/
theorem sleep_ended (hwindow : InWindow s) (hmode : s.radio.radioMode = .RECEIVER)
    (hnext : s.radio.nextRadioMode = .RECEIVER) (hreception : s.radio.receptionState ≠ .UNDEFINED)
    (hmac : s.mac.receptionState = .RECEIVING) (htransmission : s.radio.transmissionState = .UNDEFINED)
    (hnoTransmission : s.radio.transmissionTimer = false)
    (hnoReception : s.radio.receptionTimer = none) :
    setRadioMode b (n + 2) .SLEEP s = .ok (asleep s) := by
  have hsame : setRadioMode b (n + 1) .SLEEP (setReceptionState .UNDEFINED (withMode .SLEEP s)) =
      .ok (setReceptionState .UNDEFINED (withMode .SLEEP s)) := setRadioMode_same rfl (by simp)
  have hmedium : handleWithFsm (setRadioMode b (n + 1)) .mediumStateChange (asleep s) =
      .ok (asleep s) := by
    apply InWindow.medium
    exact hwindow.of_mac rfl rfl rfl rfl
  have hnew : newReceptionState b (withMode .SLEEP s) = .UNDEFINED := rfl
  have hasleep : noteReception .UNDEFINED (setReceptionState .UNDEFINED (withMode .SLEEP s)) =
      asleep s := rfl
  rw [← hasleep] at hmedium
  have hupdated := updateReceptionState_receiving hnew hreception hmac hsame hmedium
  rw [setRadioMode_other (by simp [hmode]) (by simp) (by simp [hmode]) (by simp [hnext]),
    completeRadioModeSwitch_eq hnoReception hnoTransmission, updateTransceiverState, hupdated]
  exact updateTransmissionState_same htransmission.symm

/-- The state after the end of a reception: the MAC keeps the state that was heard. -/
def ended (isListeningPossible : Bool) (s : LoRaNic) : LoRaNic :=
  { asleep s with mac := { (asleep s).mac with receptionState := heard isListeningPossible } }

theorem update_ended (h : Ended s) :
    updateTransceiverState (setRadioMode b (n + 2)) b s = .ok (ended b s) := by
  have hnew : newReceptionState b s = heard b := by
    rw [newReceptionState, isReceptionScheduled, h.mode, h.noReception]
    rfl
  have hne : s.radio.receptionState ≠ heard b := by
    rw [h.reception]
    exact (heard_ne b).1.symm
  have hsleep := sleep_ended (b := b) (n := n) (s := setReceptionState (heard b) s)
    (h.window.of_mac rfl rfl rfl rfl) h.mode h.nextMode (heard_ne b).2 h.macReception h.transmission
    h.noTransmission h.noReception
  have hmedium : handleWithFsm (setRadioMode b (n + 2)) .mediumStateChange (ended b s) =
      .ok (ended b s) := by
    apply InWindow.medium
    exact h.window.of_mac rfl rfl rfl rfl
  have hended : noteReception (heard b) (asleep (setReceptionState (heard b) s)) = ended b s := rfl
  rw [← hended] at hmedium
  have hupdated := updateReceptionState_receiving hnew hne h.macReception hsleep hmedium
  rw [updateTransceiverState, hupdated]
  exact updateTransmissionState_same h.transmission.symm

theorem sleeping_ended (h : Ended s) (b : Bool) : Sleeping (ended b s) :=
  ⟨rfl, rfl, rfl, h.transmission, h.noReception, h.noTransmission⟩

variable {timer : ℕ}

/-- A reception that failed puts the radio to sleep before the MAC handles it. -/
theorem sleep_dropped (htimer : s.radio.receptionTimer = some timer)
    (h : Ended (clearReceptionTimer s)) :
    setRadioMode b (n + 3) .SLEEP s = .ok (ended b (clearReceptionTimer s)) := by
  have hmode : s.radio.radioMode = .RECEIVER := h.mode
  have hnext : s.radio.nextRadioMode = .RECEIVER := h.nextMode
  have habort : (!isReceiverMode .SLEEP && s.radio.receptionTimer.isSome) = true := by
    rw [htimer]
    rfl
  have hnot : ¬((!isTransmitterMode .SLEEP &&
      (ended b (clearReceptionTimer s)).radio.transmissionTimer) = true) := by
    have hnoTransmission := (sleeping_ended h b).noTransmission
    simp [hnoTransmission]
  rw [setRadioMode_other (by simp [hmode]) (by simp) (by simp [hmode]) (by simp [hnext]),
    completeRadioModeSwitch, if_pos habort, abortReception, update_ended h]
  simp only [bind, Except.bind]
  rw [if_neg hnot]
  exact updateTransceiverState_same rfl h.transmission.symm

/-- A frame for another node, or one that is dropped, leads back to the window. -/
theorem enter_window (msg : Message) (h : InWindow s) (hradio : Sleeping s)
    (hmac : s.mac.receptionState ≠ .RECEIVING) :
    ∃ s', fsma.enter fsm (blocks (setRadioMode b (n + 4)) msg)
      (setState (if s.mac.fsm = .RECEIVING_1 then .LISTENING_1 else .LISTENING_2) s) = .ok s' ∧
        Caught (setState (if s.mac.fsm = .RECEIVING_1 then .LISTENING_1 else .LISTENING_2) s) s' := by
  cases h with
  | first hfsm h1 =>
    rw [if_pos hfsm]
    exact enter_listening_1 msg rfl (hradio.of_radio rfl) hmac h1
  | second hfsm h1 h2 h3 =>
    rw [if_neg (by simp [hfsm])]
    exact enter_listening_2 msg rfl (hradio.of_radio rfl) hmac h1 h2 h3

/-- A part of the reception that is received, with the next one attempted. -/
theorem receptionContinues_inv (h : Inv s)
    (timer : ℕ) : ∃ s', continueReception set b timer true true s = .ok s' ∧ Inv s' := by
  have hkept : ¬((isCurrent timer s && !(true && true)) = true) := by simp
  rw [continueReception, if_neg hkept]
  exact update_inv h

theorem fired_inv (h : Inv s) (hother : isCurrent timer s = false)
    (frame : LoRaMacFrame) : Inv (fired timer frame s) := by
  refine h.same ⟨rfl, rfl, rfl, rfl, rfl, rfl, rfl, rfl, rfl⟩ fun current hcurrent f hmem => ?_
  have hne : (current, f) ≠ (timer, frame) := by
    rintro heq
    cases heq
    have hmode : isReceiverMode s.radio.radioMode = false := by
      rw [isCurrent, hcurrent] at hother
      simpa using hother
    cases h with
    | rest hrest => rw [noReception_of_rest hrest] at hcurrent; cases hcurrent
    | queued hsending | transmitting hsending =>
      rw [hsending.noReception] at hcurrent; cases hcurrent
    | received _ hradio => rw [hradio.noReception] at hcurrent; cases hcurrent
    | receiving _ hradio => rw [hradio.mode] at hmode; cases hmode
  exact (List.mem_erase_of_ne hne).mpr hmem

theorem receiving_of_current (h : Inv s) (hcurrent : isCurrent timer s = true) :
    s.radio.receptionTimer = some timer ∧ Empty s ∧ Ended (clearReceptionTimer s) := by
  rw [isCurrent, Bool.and_eq_true, decide_eq_true_eq] at hcurrent
  obtain ⟨hcurrent, -⟩ := hcurrent
  cases h with
  | rest hrest => rw [noReception_of_rest hrest] at hcurrent; cases hcurrent
  | queued hsending | transmitting hsending => rw [hsending.noReception] at hcurrent; cases hcurrent
  | received _ hradio => rw [hradio.noReception] at hcurrent; cases hcurrent
  | receiving hwindow hradio hempty =>
    exact ⟨hcurrent, hempty, hwindow.of_mac rfl rfl rfl rfl, hradio.mode, hradio.nextMode,
      hradio.reception, hradio.macReception, hradio.transmission, hradio.noTransmission, rfl⟩

theorem handle_window (msg : Message) (h : InWindow s) (hradio : Sleeping s)
    (hmac : s.mac.receptionState ≠ .RECEIVING) (condition : LoRaNic → Bool)
    (hfiring : fsma.firing fsm (blocks (setRadioMode b (n + 4)) msg) s =
      some ⟨condition, if s.mac.fsm = .RECEIVING_1 then .LISTENING_1 else .LISTENING_2, .ok⟩)
    (hempty : Empty s) : ∃ s', handleWithFsm (setRadioMode b (n + 4)) msg s = .ok s' ∧ Inv s' ∧
      s'.radio.receptionTimer = none := by
  obtain ⟨s', hentered, hcaught⟩ := enter_window (b := b) (n := n) msg h hradio hmac
  exact ⟨s', handle_to hfiring hentered, hcaught.inv
    ⟨hempty.toRadio, hempty.toMac, hempty.queue, hempty.notTransmitting⟩,
    noReception_of_rest hcaught.rest⟩

theorem droppedPacket_inv (htimer : s.radio.receptionTimer = some timer)
    (h : Ended (clearReceptionTimer s)) (hempty : Empty s) :
    ∃ s', droppedPacket (setRadioMode b (n + 4)) s = .ok s' ∧ Inv s' ∧
      s'.radio.receptionTimer = none := by
  rw [droppedPacket, sleep_dropped htimer h]
  have hwindow : InWindow (ended b (clearReceptionTimer s)) := h.window.of_mac rfl rfl rfl rfl
  refine handle_window _ hwindow (sleeping_ended h b) (heard_ne b).1
    (fun _ => Message.droppedPacket = .droppedPacket) ?_
    ⟨hempty.toRadio, hempty.toMac, hempty.queue, hempty.notTransmitting⟩
  cases hwindow with
  | first hfsm | second hfsm => simp [fsma.firing, blocks, fsm, hfsm, isLower]

theorem receptionEnds_inv (h : Inv s) (timer : ℕ) (frame : LoRaMacFrame)
    (isReceptionSuccessful : Bool) :
    ∃ s', endReception (setRadioMode b (n + 4)) b timer frame isReceptionSuccessful
      (fired timer frame s) = .ok s' ∧ Inv s' := by
  have hsame : isCurrent timer (fired timer frame s) = isCurrent timer s := rfl
  cases hcurrent : isCurrent timer s with
  | false =>
    rw [endReception, hsame, hcurrent]
    exact update_inv (fired_inv h hcurrent frame)
  | true =>
    obtain ⟨htimer, hempty, hended⟩ := receiving_of_current h hcurrent
    have hended' : Ended (clearReceptionTimer (fired timer frame s)) :=
      ⟨hended.window.of_mac rfl rfl rfl rfl, hended.mode, hended.nextMode, hended.reception,
        hended.macReception, hended.transmission, hended.noTransmission, rfl⟩
    cases isReceptionSuccessful with
    | true =>
      obtain ⟨t, ht⟩ : ∃ t : LoRaNic, { fired timer frame s with
        toMac := (fired timer frame s).toMac ++ [frame] } = t := ⟨_, rfl⟩
      have hendedT : Ended (clearReceptionTimer t) := by
        subst ht
        exact ⟨hended'.window.of_mac rfl rfl rfl rfl, hended'.mode, hended'.nextMode,
          hended'.reception, hended'.macReception, hended'.transmission, hended'.noTransmission,
          rfl⟩
      refine ⟨ended b (clearReceptionTimer t), ?_, ?_⟩
      · rw [endReception, hsame, hcurrent]
        change updateTransceiverState _ b (clearReceptionTimer { fired timer frame s with
          toMac := (fired timer frame s).toMac ++ [frame] }) = _
        rw [ht]
        exact update_ended hendedT
      · refine .received (hendedT.window.of_mac rfl rfl rfl rfl) (sleeping_ended hendedT b)
          (heard_ne b).1 ⟨frame, ?_⟩ ?_
        · subst ht
          change s.toMac ++ [frame] = [frame]
          rw [hempty.toMac]
          rfl
        · subst ht
          exact ⟨hempty.toRadio, rfl, hempty.queue, hempty.notTransmitting⟩
    | false =>
      have htimer' : (fired timer frame s).radio.receptionTimer = some timer := htimer
      obtain ⟨t, hdropped, hinv, hnone⟩ := droppedPacket_inv (b := b) (n := n) htimer' hended'
        ⟨hempty.toRadio, hempty.toMac, hempty.queue, hempty.notTransmitting⟩
      have hcleared : Inv (clearReceptionTimer t) := by
        refine hinv.same ⟨rfl, rfl, rfl, rfl, hnone.symm, rfl, rfl, rfl, rfl⟩ fun current hcurrent => ?_
        rw [hnone] at hcurrent
        cases hcurrent
      obtain ⟨s', hupdated, hinv'⟩ : ∃ s', updateTransceiverState (setRadioMode b (n + 4)) b
          (clearReceptionTimer t) = .ok s' ∧ Inv s' := update_inv hcleared
      refine ⟨s', ?_, hinv'⟩
      have hfinished : finishReception (setRadioMode b (n + 4)) frame false (fired timer frame s) =
          .ok (clearReceptionTimer t) := by
        rw [finishReception, if_neg Bool.false_ne_true, hdropped]
        rfl
      rw [endReception, hsame, hcurrent, if_pos rfl, hfinished]
      exact hupdated

/-- A frame that was received is passed up, or the machine listens again. -/
theorem frameToMac_received (hwindow : InWindow s) (hradio : Sleeping s)
    (hmac : s.mac.receptionState ≠ .RECEIVING) (hempty : Empty s) (frame : LoRaMacFrame) :
    ∃ s', handleLowerPacket (setRadioMode b (n + 4)) frame s = .ok s' ∧ Inv s' := by
  have hreceiving : s.mac.fsm = .RECEIVING_1 ∨ s.mac.fsm = .RECEIVING_2 := by
    cases hwindow with
    | first hfsm => exact .inl hfsm
    | second hfsm => exact .inr hfsm
  rw [handleLowerPacket, if_pos hreceiving]
  cases hforUs : isForUs s frame with
  | false =>
    obtain ⟨s', hhandled, hinv, -⟩ := handle_window (b := b) (n := n) (.lower frame)
      hwindow hradio hmac (fun s => isLower (.lower frame) fun frame => !isForUs s frame) (by
        cases hwindow with
        | first hfsm => simp [fsma.firing, blocks, fsm, hfsm, isLower, hforUs]
        | second hfsm => simp [fsma.firing, blocks, fsm, hfsm, isLower, hforUs]) hempty
    exact ⟨s', hhandled, hinv⟩
  | true =>
    have hidle (t : LoRaNic) (htradio : t.radio = s.radio) (htfsm : t.mac.fsm = .IDLE) :
        fsma.enter fsm (blocks (setRadioMode b (n + 4)) (.lower frame)) t = .ok t := by
      refine enter_eq ?_ (.inl rfl)
      rw [htfsm]
      have hmode : t.radio.radioMode = .SLEEP := by
        rw [htradio]
        exact hradio.mode
      exact setRadioMode_same hmode (by simp)
    cases hwindow with
    | first hfsm h1 =>
      obtain ⟨t, ht⟩ : ∃ t, [Timer.endListening_1, .endDelay_2, .endListening_2].foldl
        (fun s timer => cancelEvent timer s) (countReceived (sendUp (decapsulate frame) s)) = t :=
        ⟨_, rfl⟩
      have hfiring : fsma.firing fsm (blocks (setRadioMode b (n + 4)) (.lower frame)) s =
          some ⟨fun s => isLower (.lower frame) fun frame => isForUs s frame, .IDLE,
            receive (.lower frame) [.endListening_1, .endDelay_2, .endListening_2]⟩ := by
        simp [fsma.firing, blocks, fsm, hfsm, isLower, hforUs]
      refine ⟨setState .IDLE t, (handle_some _ hfiring (congrArg Except.ok ht)).trans
        (hidle _ (by rw [← ht]; rfl) rfl), ?_⟩
      subst ht
      exact .rest (.idle rfl (hradio.of_radio rfl) h1 rfl rfl rfl) hmac
        ⟨hempty.toRadio, hempty.toMac, hempty.queue, hempty.notTransmitting⟩
    | second hfsm h1 h2 h3 =>
      obtain ⟨t, ht⟩ : ∃ t, [Timer.endListening_2].foldl (fun s timer => cancelEvent timer s)
        (countReceived (sendUp (decapsulate frame) s)) = t := ⟨_, rfl⟩
      have hfiring : fsma.firing fsm (blocks (setRadioMode b (n + 4)) (.lower frame)) s =
          some ⟨fun s => isLower (.lower frame) fun frame => isForUs s frame, .IDLE,
            receive (.lower frame) [.endListening_2]⟩ := by
        simp [fsma.firing, blocks, fsm, hfsm, isLower, hforUs]
      refine ⟨setState .IDLE t, (handle_some _ hfiring (congrArg Except.ok ht)).trans
        (hidle _ (by rw [← ht]; rfl) rfl), ?_⟩
      subst ht
      exact .rest (.idle rfl (hradio.of_radio rfl) h1 h2 h3 rfl) hmac
        ⟨hempty.toRadio, hempty.toMac, hempty.queue, hempty.notTransmitting⟩

end inet.LoRaNic
