import LoRaInet.LoRa.LoRaMac.CatchUp

open omnetpp transition inet.physicallayer

namespace inet

namespace LoRaNic

open LoRaMac (State Timer Message)

variable {s s' : LoRaNic} {b : Bool} {n : ℕ}

/-- Nothing is on its way and nothing is sent. -/
structure Empty (s : LoRaNic) : Prop where
  toRadio : s.toRadio = []
  toMac : s.toMac = []
  queue : s.mac.transmissionQueue = []
  notTransmitting : s.mac.transmissionState ≠ .TRANSMITTING

/-- The machine receives in one of the windows. -/
inductive InWindow (s : LoRaNic) : Prop where
  | first (hfsm : s.mac.fsm = .RECEIVING_1) (h1 : s.mac.endDelay_1 = false)
  | second (hfsm : s.mac.fsm = .RECEIVING_2) (h1 : s.mac.endDelay_1 = false)
      (h2 : s.mac.endListening_1 = false) (h3 : s.mac.endDelay_2 = false)

/-- A reception of the radio is in progress. -/
structure Receiving (s : LoRaNic) : Prop where
  mode : s.radio.radioMode = .RECEIVER
  nextMode : s.radio.nextRadioMode = .RECEIVER
  reception : s.radio.receptionState = .RECEIVING
  macReception : s.mac.receptionState = .RECEIVING
  transmission : s.radio.transmissionState = .UNDEFINED
  noTransmission : s.radio.transmissionTimer = false
  scheduled : ∃ timer frame, s.radio.receptionTimer = some timer ∧
    (timer, frame) ∈ s.radio.receptionTimers

/-- A frame is sent: no timer is scheduled, and the radio is in transmitter mode. -/
structure Sending (s : LoRaNic) : Prop where
  fsm : s.mac.fsm = .TRANSMIT
  mode : s.radio.radioMode = .TRANSMITTER
  nextMode : s.radio.nextRadioMode = .TRANSMITTER
  reception : s.radio.receptionState = .UNDEFINED
  macReception : s.mac.receptionState ≠ .RECEIVING
  noReception : s.radio.receptionTimer = none
  h1 : s.mac.endDelay_1 = false
  h2 : s.mac.endListening_1 = false
  h3 : s.mac.endDelay_2 = false
  h4 : s.mac.endListening_2 = false
  toMac : s.toMac = []
  queue : ∃ frame, s.mac.transmissionQueue = [frame]

/-- What holds between two events: something is always due that takes the machine on, unless
it is idle. -/
inductive Inv (s : LoRaNic) : Prop where
  | rest (hrest : Rest s) (hmac : s.mac.receptionState ≠ .RECEIVING) (hempty : Empty s)
  | queued (hsending : Sending s) (htimer : s.radio.transmissionTimer = false)
      (hframe : ∃ frame, s.toRadio = [frame]) (hradio : s.radio.transmissionState = .IDLE)
      (hmac : s.mac.transmissionState = .IDLE)
  | transmitting (hsending : Sending s) (htimer : s.radio.transmissionTimer = true)
      (hframe : s.toRadio = []) (hradio : s.radio.transmissionState = .TRANSMITTING)
      (hmac : s.mac.transmissionState = .TRANSMITTING)
  | receiving (hwindow : InWindow s) (hradio : Receiving s) (hempty : Empty s)
  | received (hwindow : InWindow s) (hradio : Sleeping s) (hmac : s.mac.receptionState ≠ .RECEIVING)
      (hframe : ∃ frame, s.toMac = [frame]) (hempty : Empty { s with toMac := [] })

theorem Empty.of_frame (h : Empty s) (hframe : Frame s s') : Empty s' := by
  refine ⟨hframe.toRadio.trans h.toRadio, hframe.toMac.trans h.toMac, hframe.queue.trans h.queue, ?_⟩
  rw [hframe.transmission]
  exact h.notTransmitting

theorem noReception_of_rest (h : Rest s) : s.radio.receptionTimer = none := by
  cases h with
  | idle _ hradio | delay_1 _ hradio | delay_2 _ hradio | listening_1 _ hradio
  | listening_2 _ hradio => exact hradio.noReception

theorem noTransmission_of_rest (h : Rest s) : s.radio.transmissionTimer = false := by
  cases h with
  | idle _ hradio | delay_1 _ hradio | delay_2 _ hradio | listening_1 _ hradio
  | listening_2 _ hradio => exact hradio.noTransmission

theorem Caught.inv (h : Caught s s') (hempty : Empty s) : Inv s' :=
  .rest h.rest h.notReceiving (hempty.of_frame h.frame)

end LoRaNic

namespace LoRaNic

open LoRaMac (State Timer Message)

variable {s s' : LoRaNic} {b : Bool} {n : ℕ}

theorem radio_setScheduled (s : LoRaNic) (scheduled : Bool) (timer : Timer) :
    (setScheduled s scheduled timer).radio = s.radio := by
  cases timer <;> rfl

theorem fsm_setScheduled (s : LoRaNic) (scheduled : Bool) (timer : Timer) :
    (setScheduled s scheduled timer).mac.fsm = s.mac.fsm := by
  cases timer <;> rfl

theorem Empty.setScheduled (h : Empty s) (scheduled : Bool) (timer : Timer) :
    Empty (setScheduled s scheduled timer) := by
  cases timer <;> exact ⟨h.toRadio, h.toMac, h.queue, h.notTransmitting⟩

theorem receptionState_setScheduled (s : LoRaNic) (scheduled : Bool) (timer : Timer) :
    (setScheduled s scheduled timer).mac.receptionState = s.mac.receptionState := by
  cases timer <;> rfl

variable {set : RadioMode → LoRaNic → Except Fault LoRaNic}

/-- A timer that the state does not wait for only ceases to be scheduled. -/
theorem macTimer_ignored (timer : Timer)
    (hmac : s.mac.receptionState ≠ .RECEIVING) (hempty : Empty s)
    (hrest : Rest (setScheduled s false timer))
    (hfiring : fsma.firing fsm (blocks set (.timer timer)) (setScheduled s false timer) = none) :
    ∃ s', handleSelfMessage set timer s = .ok s' ∧ Inv s' := by
  refine ⟨setScheduled s false timer, handle_none hfiring, .rest hrest ?_ (hempty.setScheduled _ _)⟩
  rw [receptionState_setScheduled]
  exact hmac

theorem macTimer_entered {timer : Timer}
    {state : State} (condition : LoRaNic → Bool) (hempty : Empty s)
    (hfiring : fsma.firing fsm (blocks set (.timer timer)) (setScheduled s false timer) =
      some ⟨condition, state, .ok⟩)
    (hentered : ∃ s', fsma.enter fsm (blocks set (.timer timer))
      (setState state (setScheduled s false timer)) = .ok s' ∧
        Caught (setState state (setScheduled s false timer)) s') :
    ∃ s', handleSelfMessage set timer s = .ok s' ∧ Inv s' := by
  obtain ⟨s', hentered, hcaught⟩ := hentered
  have hempty' := hempty.setScheduled false timer
  exact ⟨s', handle_to hfiring hentered, hcaught.inv
    ⟨hempty'.toRadio, hempty'.toMac, hempty'.queue, hempty'.notTransmitting⟩⟩

theorem macTimer_rest (hrest : Rest s) (hmac : s.mac.receptionState ≠ .RECEIVING) (hempty : Empty s)
    (timer : Timer) (hpending : isScheduled s timer = true) :
    ∃ s', handleSelfMessage (setRadioMode b (n + 4)) timer s = .ok s' ∧ Inv s' := by
  have hradio' := radio_setScheduled s false timer
  have hmac' : (setScheduled s false timer).mac.receptionState ≠ .RECEIVING := by
    rw [receptionState_setScheduled]
    exact hmac
  cases hrest with
  | idle hfsm hradio h1 h2 h3 h4 =>
    cases timer with
    | endDelay_1 => exact absurd (h1.symm.trans hpending) (by simp)
    | endListening_1 => exact absurd (h2.symm.trans hpending) (by simp)
    | endDelay_2 => exact absurd (h3.symm.trans hpending) (by simp)
    | endListening_2 => exact absurd (h4.symm.trans hpending) (by simp)
  | delay_1 hfsm hradio h1 =>
    have hsleeping := hradio.of_radio hradio'
    cases timer with
    | endDelay_1 =>
      refine macTimer_entered (fun s => Message.timer .endDelay_1 = .timer .endDelay_1 ||
        !isScheduled s .endDelay_1) hempty ?_
        (enter_listening_1 _ rfl (hsleeping.of_radio rfl) hmac' rfl)
      simp [fsma.firing, blocks, fsm, setScheduled, hfsm]
    | endListening_1 | endDelay_2 | endListening_2 =>
      refine macTimer_ignored _ hmac hempty (.delay_1 hfsm hsleeping h1) ?_
      simp [fsma.firing, blocks, fsm, setScheduled, isScheduled, hfsm, h1]
  | listening_1 hfsm hradio h1 h2 =>
    have hlistening := hradio.of_radio hradio'
    have hnot := not_receiving_of_listening hlistening
    cases timer with
    | endDelay_1 => exact absurd (h1.symm.trans hpending) (by simp)
    | endListening_1 =>
      refine macTimer_entered (fun s => Message.timer .endListening_1 =
        .timer .endListening_1 || !isScheduled s .endListening_1) hempty ?_
        (enter_delay_2 _ rfl (hlistening.of_radio rfl) hmac' h1 rfl)
      simp [fsma.firing, blocks, fsm, setScheduled, hfsm]
    | endDelay_2 | endListening_2 =>
      refine macTimer_ignored _ hmac hempty (.listening_1 hfsm hlistening h1 h2) ?_
      simp [fsma.firing, blocks, fsm, setScheduled, isScheduled, hfsm, h2]
  | delay_2 hfsm hradio h1 h2 h3 =>
    have hsleeping := hradio.of_radio hradio'
    cases timer with
    | endDelay_1 => exact absurd (h1.symm.trans hpending) (by simp)
    | endListening_1 => exact absurd (h2.symm.trans hpending) (by simp)
    | endDelay_2 =>
      refine macTimer_entered (fun s => Message.timer .endDelay_2 = .timer .endDelay_2 ||
        !isScheduled s .endDelay_2) hempty ?_
        (enter_listening_2 _ rfl (hsleeping.of_radio rfl) hmac' h1 h2 rfl)
      simp [fsma.firing, blocks, fsm, setScheduled, hfsm]
    | endListening_2 =>
      refine macTimer_ignored _ hmac hempty (.delay_2 hfsm hsleeping h1 h2 h3) ?_
      simp [fsma.firing, blocks, fsm, setScheduled, isScheduled, hfsm, h3]
  | listening_2 hfsm hradio h1 h2 h3 h4 =>
    have hlistening := hradio.of_radio hradio'
    cases timer with
    | endDelay_1 => exact absurd (h1.symm.trans hpending) (by simp)
    | endListening_1 => exact absurd (h2.symm.trans hpending) (by simp)
    | endDelay_2 => exact absurd (h3.symm.trans hpending) (by simp)
    | endListening_2 =>
      refine macTimer_entered (fun s => Message.timer .endListening_2 =
        .timer .endListening_2 || !isScheduled s .endListening_2) hempty ?_
        (enter_idle _ rfl (hlistening.of_radio rfl) hmac' h1 h2 h3 rfl)
      simp [fsma.firing, blocks, fsm, setScheduled, hfsm]

theorem InWindow.setScheduled (h : InWindow s) (timer : Timer) :
    InWindow (setScheduled s false timer) := by
  cases h with
  | first hfsm h1 =>
    cases timer with
    | endDelay_1 => exact .first hfsm rfl
    | endListening_1 | endDelay_2 | endListening_2 => exact .first hfsm h1
  | second hfsm h1 h2 h3 =>
    cases timer with
    | endDelay_1 => exact .second hfsm rfl h2 h3
    | endListening_1 => exact .second hfsm h1 rfl h3
    | endDelay_2 => exact .second hfsm h1 h2 rfl
    | endListening_2 => exact .second hfsm h1 h2 h3

theorem macTimer_window (h : InWindow s)
    (timer : Timer) : handleSelfMessage set timer s = .ok (setScheduled s false timer) := by
  apply handle_none
  have hfsm' := fsm_setScheduled s false timer
  cases h with
  | first hfsm | second hfsm =>
    rw [hfsm] at hfsm'
    simp [fsma.firing, blocks, fsm, hfsm', isLower]

end LoRaNic

namespace LoRaNic

open LoRaMac (State Timer Message)

variable {s s' : LoRaNic} {b : Bool} {n : ℕ}

/-- The state after the transmitter is turned on. -/
def transmitter (s : LoRaNic) : LoRaNic :=
  { s with
    mac := { s.mac with transmissionState := .IDLE }
    radio := { s.radio with
      radioMode := .TRANSMITTER
      nextRadioMode := .TRANSMITTER
      transmissionState := .IDLE } }

theorem turnOnTransmitter (h : Sleeping s) (hmac : s.mac.transmissionState ≠ .TRANSMITTING) :
    setRadioMode b (n + 1) .TRANSMITTER s = .ok (transmitter s) := by
  have hmode := h.mode
  have hnext := h.nextMode
  have hreception : newReceptionState b (withMode .TRANSMITTER s) =
      (withMode .TRANSMITTER s).radio.receptionState := h.reception.symm
  have htransmission : newTransmissionState (withMode .TRANSMITTER s) = .IDLE := by
    rw [newTransmissionState]
    simp only [withMode, h.noTransmission]
    rfl
  have hne : (withMode .TRANSMITTER s).radio.transmissionState ≠ .IDLE := by
    simp [withMode, h.transmission]
  rw [setRadioMode_other (by simp [hmode]) (by simp) (by simp [hmode]) (by simp [hnext]),
    completeRadioModeSwitch_eq h.noReception h.noTransmission, updateTransceiverState,
    updateReceptionState, if_neg (not_not_intro hreception.symm)]
  change updateTransmissionState _ (withMode .TRANSMITTER s) = _
  rw [updateTransmissionState, htransmission, if_pos hne, transmissionStateChanged,
    if_neg fun hsent => hmac hsent.1]
  rfl

theorem upperPacket_idle (hfsm : s.mac.fsm = .IDLE) (hradio : Sleeping s)
    (h1 : s.mac.endDelay_1 = false) (h2 : s.mac.endListening_1 = false)
    (h3 : s.mac.endDelay_2 = false) (h4 : s.mac.endListening_2 = false)
    (hmac : s.mac.receptionState ≠ .RECEIVING) (hempty : Empty s) (packet : LoRaAppPacket)
    (cInfo : LoRaMacControlInfo) :
    ∃ s', handleUpperPacket (setRadioMode b (n + 1)) packet cInfo s = .ok s' ∧ Inv s' := by
  obtain ⟨frame, hframe⟩ : ∃ frame, LoRaMac.handleUpperPacket s.mac.address s.mac.sequenceNumber
      packet cInfo = frame := ⟨_, rfl⟩
  have hqueue : (enqueue frame s).mac.transmissionQueue = [frame] := by
    simp [enqueue, hempty.queue]
  have hradio' : Sleeping (setState .TRANSMIT (enqueue frame s)) :=
    ⟨hradio.mode, hradio.nextMode, hradio.reception, hradio.transmission, hradio.noReception,
      hradio.noTransmission⟩
  obtain ⟨t, ht⟩ : ∃ t, transmitter (setState .TRANSMIT (enqueue frame s)) = t := ⟨_, rfl⟩
  have hsent : sendDataFrame (setRadioMode b (n + 1)) (setState .TRANSMIT (enqueue frame s)) =
      .ok { t with toRadio := t.toRadio ++ [frame] } := by
    have hhead : (setState .TRANSMIT (enqueue frame s)).mac.transmissionQueue.head? = some frame :=
      congrArg List.head? hqueue
    rw [sendDataFrame, turnOnTransmitter hradio' hempty.notTransmitting, hhead, ht]
    rfl
  refine ⟨{ t with toRadio := t.toRadio ++ [frame] }, ?_, ?_⟩
  · have hfiring : fsma.firing fsm (blocks (setRadioMode b (n + 1)) (.upper frame))
        (enqueue frame s) = some ⟨fun _ => isUpperMessage (.upper frame), .TRANSMIT, .ok⟩ := by
      have hfsm' : (enqueue frame s).mac.fsm = .IDLE := hfsm
      simp [fsma.firing, blocks, fsm, hfsm', isUpperMessage]
    rw [handleUpperPacket, if_neg (not_not_intro hfsm), hframe]
    refine (handle_some _ hfiring rfl).trans (enter_eq hsent (.inl ?_))
    rw [← ht]
    rfl
  · subst ht
    refine .queued ⟨rfl, rfl, rfl, hradio.reception, hmac, hradio.noReception, h1, h2, h3, h4,
      hempty.toMac, ⟨frame, hqueue⟩⟩ hradio.noTransmission ⟨frame, ?_⟩ rfl rfl
    change s.toRadio ++ [frame] = [frame]
    rw [hempty.toRadio]
    rfl

theorem newReceptionState_sending (h : Sending s) :
    newReceptionState b s = s.radio.receptionState := by
  rw [newReceptionState, h.mode, h.reception]
  rfl

theorem frameToRadio_queued (h : Sending s) (htimer : s.radio.transmissionTimer = false)
    (hframe : ∃ frame, s.toRadio = [frame]) (hradio : s.radio.transmissionState = .IDLE) :
    ∃ s', transmitFrame (setRadioMode b (n + 1)) b { s with toRadio := s.toRadio.tail } = .ok s' ∧
      Inv s' := by
  obtain ⟨frame, hframe⟩ := hframe
  obtain ⟨t, ht⟩ : ∃ t : LoRaNic, { s with
      toRadio := s.toRadio.tail
      radio := { s.radio with transmissionTimer := true } } = t := ⟨_, rfl⟩
  have hsending : Sending t := by
    subst ht
    exact ⟨h.fsm, h.mode, h.nextMode, h.reception, h.macReception, h.noReception, h.h1, h.h2, h.h3,
      h.h4, h.toMac, h.queue⟩
  have hmode : isTransmitterMode s.radio.radioMode = true := by
    rw [h.mode]
    decide
  have hnew : newTransmissionState t = .TRANSMITTING := by
    rw [newTransmissionState, hsending.mode, ← ht]
    rfl
  have hne : t.radio.transmissionState ≠ .TRANSMITTING := by
    rw [← ht]
    simp [hradio]
  refine ⟨{ t with
    mac := { t.mac with transmissionState := .TRANSMITTING }
    radio := { t.radio with transmissionState := .TRANSMITTING } }, ?_, ?_⟩
  · rw [transmitFrame, if_pos hmode, if_neg (by simp [htimer])]
    change updateTransceiverState _ b _ = _
    rw [ht, updateTransceiverState, updateReceptionState,
      if_neg (not_not_intro (newReceptionState_sending hsending).symm)]
    change updateTransmissionState _ t = _
    rw [updateTransmissionState, hnew, if_pos hne, transmissionStateChanged,
      if_neg fun hsent => by cases hsent.2]
    rfl
  · refine .transmitting ⟨hsending.fsm, hsending.mode, hsending.nextMode, hsending.reception,
      hsending.macReception, hsending.noReception, hsending.h1, hsending.h2, hsending.h3,
      hsending.h4, hsending.toMac, hsending.queue⟩ ?_ ?_ rfl rfl
    · rw [← ht]
    · rw [← ht]
      change s.toRadio.tail = []
      rw [hframe]
      rfl

/-- The state after the transmitter is turned off. -/
def turnedOff (s : LoRaNic) : LoRaNic :=
  { s with
    mac := { s.mac with transmissionState := .UNDEFINED }
    radio := { s.radio with
      radioMode := .SLEEP
      nextRadioMode := .SLEEP
      transmissionState := .UNDEFINED } }

theorem turnOffTransmitter (hmode : s.radio.radioMode = .TRANSMITTER)
    (hnext : s.radio.nextRadioMode = .TRANSMITTER) (hreception : s.radio.receptionState = .UNDEFINED)
    (hradio : s.radio.transmissionState = .IDLE) (hnoReception : s.radio.receptionTimer = none)
    (htimer : s.radio.transmissionTimer = false) :
    setRadioMode b (n + 1) .SLEEP s = .ok (turnedOff s) := by
  have hsame : newReceptionState b (withMode .SLEEP s) =
      (withMode .SLEEP s).radio.receptionState := hreception.symm
  have hne : (withMode .SLEEP s).radio.transmissionState ≠ .UNDEFINED := by
    simp [withMode, hradio]
  rw [setRadioMode_other (by simp [hmode]) (by simp) (by simp [hmode]) (by simp [hnext]),
    completeRadioModeSwitch_eq hnoReception htimer, updateTransceiverState,
    updateReceptionState, if_neg (not_not_intro hsame.symm)]
  change updateTransmissionState _ (withMode .SLEEP s) = _
  have hnew : newTransmissionState (withMode .SLEEP s) = .UNDEFINED := rfl
  rw [updateTransmissionState, hnew, if_pos hne, transmissionStateChanged,
    if_neg fun hsent => by cases hsent.2]
  rfl

/-- What is done at the end of a transmission. -/
def transmitted (queue : List LoRaMacFrame) (s : LoRaNic) : LoRaNic :=
  { s with mac := { s.mac with
      endDelay_1 := true
      endListening_1 := true
      endDelay_2 := true
      endListening_2 := true
      transmissionQueue := queue
      numSent := s.mac.numSent + 1 } }

theorem finishCurrentTransmission_eq {frame : LoRaMacFrame} {queue : List LoRaMacFrame}
    (h1 : s.mac.endDelay_1 = false) (h2 : s.mac.endListening_1 = false)
    (h3 : s.mac.endDelay_2 = false) (h4 : s.mac.endListening_2 = false)
    (hqueue : s.mac.transmissionQueue = frame :: queue) :
    (finishCurrentTransmission s).map countSent = .ok (transmitted queue s) := by
  obtain ⟨mac, radio, toRadio, toMac, toUpper⟩ := s
  obtain ⟨address, fsm, receptionState, transmissionState, d1, l1, d2, l2, transmissionQueue,
    sequenceNumber, numSent, numReceived⟩ := mac
  simp only at h1 h2 h3 h4 hqueue
  subst h1 h2 h3 h4 hqueue
  rfl

/-- The end of the transmission schedules the four timers, and the radio is put to sleep. -/
theorem transmissionEnds_transmitting (h : Sending s)
    (hframe : s.toRadio = []) (hradio : s.radio.transmissionState = .TRANSMITTING)
    (hmac : s.mac.transmissionState = .TRANSMITTING) :
    ∃ s', endTransmission (setRadioMode b (n + 1)) b s = .ok s' ∧ Inv s' := by
  obtain ⟨t, ht⟩ : ∃ t : LoRaNic, { s with radio := { s.radio with
      transmissionTimer := false
      transmissionState := .IDLE } } = t := ⟨_, rfl⟩
  obtain ⟨frame, hqueue⟩ := h.queue
  have hfsm : t.mac.fsm = .TRANSMIT := by rw [← ht]; exact h.fsm
  have haction : (finishCurrentTransmission t).map countSent = .ok (transmitted [] t) := by
    subst ht
    exact finishCurrentTransmission_eq h.h1 h.h2 h.h3 h.h4 hqueue
  obtain ⟨u, hu⟩ : ∃ u, setState .WAIT_DELAY_1 (transmitted [] t) = u := ⟨_, rfl⟩
  have hoff : setRadioMode b (n + 1) .SLEEP u = .ok (turnedOff u) := by
    subst hu ht
    exact turnOffTransmitter h.mode h.nextMode h.reception rfl h.noReception rfl
  have hufsm : u.mac.fsm = .WAIT_DELAY_1 := by rw [← hu]; rfl
  have hentered : fsma.enter fsm (blocks (setRadioMode b (n + 1)) .endTransmission) u =
      .ok (turnedOff u) := by
    refine enter_eq ?_ (.inl rfl)
    rw [hufsm]
    exact hoff
  have hhandled : handleWithFsm (setRadioMode b (n + 1)) .endTransmission t = .ok (turnedOff u) := by
    have hfiring : fsma.firing fsm (blocks (setRadioMode b (n + 1)) .endTransmission) t =
        some ⟨fun _ => Message.endTransmission = .endTransmission, .WAIT_DELAY_1,
          fun s => (finishCurrentTransmission s).map countSent⟩ := by
      simp [fsma.firing, blocks, fsm, hfsm]
    refine (handle_some _ hfiring haction).trans ?_
    rw [hu]
    exact hentered
  have hasleep : setRadioMode b (n + 1) .SLEEP (turnedOff u) = .ok (turnedOff u) :=
    setRadioMode_same rfl (by simp)
  refine ⟨{ turnedOff u with mac := { (turnedOff u).mac with transmissionState := .IDLE } }, ?_, ?_⟩
  · have hsame : newReceptionState b { s with radio := { s.radio with transmissionTimer := false } } =
        s.radio.receptionState := by
      rw [newReceptionState]
      simp only [h.mode, h.reception]
      rfl
    have hnew : newTransmissionState { s with radio := { s.radio with transmissionTimer := false } } =
        .IDLE := by
      rw [newTransmissionState]
      simp only [h.mode]
      rfl
    rw [endTransmission, updateTransceiverState, updateReceptionState,
      if_neg (not_not_intro hsame.symm)]
    change updateTransmissionState _ { s with radio := { s.radio with transmissionTimer := false } } = _
    rw [updateTransmissionState, hnew, if_pos (by simp [hradio])]
    change transmissionStateChanged _ .IDLE { s with radio := { s.radio with
      transmissionTimer := false
      transmissionState := .IDLE } } = _
    rw [ht, transmissionStateChanged, if_pos ⟨by rw [← ht]; exact hmac, rfl⟩, hhandled]
    simp only [bind, Except.bind, hasleep]
    rfl
  · subst hu ht
    refine .rest (.delay_1 rfl ⟨rfl, rfl, h.reception, rfl, h.noReception, rfl⟩ rfl) h.macReception
      ⟨hframe, h.toMac, rfl, by simp⟩

end LoRaNic

end inet
