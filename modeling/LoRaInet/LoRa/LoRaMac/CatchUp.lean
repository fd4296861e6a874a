import LoRaInet.LoRa.LoRaRadio

open omnetpp transition inet.physicallayer

namespace inet.LoRaNic

open LoRaMac (State Timer Message)

variable {set : RadioMode → LoRaNic → Except Fault LoRaNic} {s s' : LoRaNic} {msg : Message}
  {b : Bool} {n : ℕ}

/-- The enter action of a state. -/
def enterAction (set : RadioMode → LoRaNic → Except Fault LoRaNic) :
    State → LoRaNic → Except Fault LoRaNic
  | .IDLE => turnOffReceiver set
  | .TRANSMIT => sendDataFrame set
  | .WAIT_DELAY_1 => turnOffReceiver set
  | .LISTENING_1 => turnOnReceiver set
  | .RECEIVING_1 => .ok
  | .WAIT_DELAY_2 => turnOffReceiver set
  | .LISTENING_2 => turnOnReceiver set
  | .RECEIVING_2 => .ok

theorem enter_of_mem {block : fsma.Block State LoRaNic} (h : block ∈ blocks set msg) :
    block.enter = enterAction set block.state := by
  simp only [blocks, List.mem_cons, List.not_mem_nil, or_false] at h
  rcases h with rfl | rfl | rfl | rfl | rfl | rfl | rfl | rfl <;> rfl

theorem exists_block (set : RadioMode → LoRaNic → Except Fault LoRaNic) (msg : Message)
    (state : State) : ∃ before block after, blocks set msg = before ++ block :: after ∧
      block.state = state ∧ (∀ b ∈ before, b.state ≠ state) ∧ ∀ b ∈ after, b.state ≠ state := by
  have hsplit (k : ℕ) (hk : k < (blocks set msg).length)
      (hbefore : ∀ b ∈ (blocks set msg).take k, b.state ≠ (blocks set msg)[k].state)
      (hafter : ∀ b ∈ (blocks set msg).drop (k + 1), b.state ≠ (blocks set msg)[k].state) :
      ∃ before block after, blocks set msg = before ++ block :: after ∧
        block.state = (blocks set msg)[k].state ∧
        (∀ b ∈ before, b.state ≠ (blocks set msg)[k].state) ∧
        ∀ b ∈ after, b.state ≠ (blocks set msg)[k].state := by
    refine ⟨_, _, _, ?_, rfl, hbefore, hafter⟩
    rw [← List.drop_eq_getElem_cons hk, List.take_append_drop]
  cases state with
  | IDLE => exact hsplit 0 (by simp [blocks]) (by simp [blocks]) (by simp [blocks])
  | TRANSMIT => exact hsplit 1 (by simp [blocks]) (by simp [blocks]) (by simp [blocks])
  | WAIT_DELAY_1 => exact hsplit 2 (by simp [blocks]) (by simp [blocks]) (by simp [blocks])
  | LISTENING_1 => exact hsplit 3 (by simp [blocks]) (by simp [blocks]) (by simp [blocks])
  | RECEIVING_1 => exact hsplit 4 (by simp [blocks]) (by simp [blocks]) (by simp [blocks])
  | WAIT_DELAY_2 => exact hsplit 5 (by simp [blocks]) (by simp [blocks]) (by simp [blocks])
  | LISTENING_2 => exact hsplit 6 (by simp [blocks]) (by simp [blocks]) (by simp [blocks])
  | RECEIVING_2 => exact hsplit 7 (by simp [blocks]) (by simp [blocks]) (by simp [blocks])

/-- A state is entered, and the blocks that follow find the machine in it or in a state
whose enter action has been done. -/
theorem enter_eq (h : enterAction set s.mac.fsm s = .ok s')
    (hstable : s'.mac.fsm = s.mac.fsm ∨ enterAction set s'.mac.fsm s' = .ok s') :
    fsma.enter fsm (blocks set msg) s = .ok s' := by
  obtain ⟨before, block, after, hblocks, hstate, hbefore, hafter⟩ := exists_block set msg s.mac.fsm
  have henter : ∀ b ∈ blocks set msg, b.enter = enterAction set b.state := fun b => enter_of_mem
  rw [hblocks] at henter
  have hafter' : fsma.enter fsm after s' = .ok s' := by
    rcases hstable with hsame | hstable
    · refine fsma.enter_of_ne fun b hb heq => hafter b hb ?_
      rw [← heq, ← hsame]
      rfl
    · refine fsma.enter_of_stable fun b hb heq => ?_
      have hb' : s'.mac.fsm = b.state := heq
      rw [henter b (by simp [hb]), ← hb']
      exact hstable
  rw [hblocks, fsma.enter_append (fun b hb heq => hbefore b hb heq.symm) hstate.symm,
    henter block (by simp), hstate, h]
  exact hafter'

theorem handle_none (h : fsma.firing fsm (blocks set msg) s = none) :
    handleWithFsm set msg s = .ok s := fsma.switch_none 63 h

theorem handle_some (transition : fsma.Transition State LoRaNic)
    (h : fsma.firing fsm (blocks set msg) s = some transition) {acted : LoRaNic}
    (haction : transition.action s = .ok acted) :
    handleWithFsm set msg s =
      fsma.enter fsm (blocks set msg) (setState transition.target acted) := by
  have hswitch := fsma.switch_some 62 h
  rw [handleWithFsm, maxTransitions, hswitch, fsma.take, haction]
  rfl

theorem handle_to {state : State} {condition : LoRaNic → Bool}
    (h : fsma.firing fsm (blocks set msg) s = some ⟨condition, state, .ok⟩)
    (hentered : fsma.enter fsm (blocks set msg) (setState state s) = .ok s') :
    handleWithFsm set msg s = .ok s' := (handle_some _ h rfl).trans hentered

section Radio

/-- The radio sleeps. -/
structure Sleeping (s : LoRaNic) : Prop where
  mode : s.radio.radioMode = .SLEEP
  nextMode : s.radio.nextRadioMode = .SLEEP
  reception : s.radio.receptionState = .UNDEFINED
  transmission : s.radio.transmissionState = .UNDEFINED
  noReception : s.radio.receptionTimer = none
  noTransmission : s.radio.transmissionTimer = false

/-- The radio listens and receives nothing. -/
structure Listening (s : LoRaNic) : Prop where
  mode : s.radio.radioMode = .RECEIVER
  nextMode : s.radio.nextRadioMode = .RECEIVER
  reception : s.radio.receptionState = .IDLE ∨ s.radio.receptionState = .BUSY
  transmission : s.radio.transmissionState = .UNDEFINED
  noReception : s.radio.receptionTimer = none
  noTransmission : s.radio.transmissionTimer = false

def withReceptionState (receptionState : ReceptionState) (s : LoRaNic) : LoRaNic :=
  { s with
    mac := { s.mac with receptionState := receptionState }
    radio := { s.radio with receptionState := receptionState } }

def withMode (mode : RadioMode) (s : LoRaNic) : LoRaNic :=
  { s with radio := { s.radio with radioMode := mode, nextRadioMode := mode } }

/-- The reception state of a radio that listens. -/
def heard (isListeningPossible : Bool) : ReceptionState :=
  if isListeningPossible then .BUSY else .IDLE

def awake (isListeningPossible : Bool) (s : LoRaNic) : LoRaNic :=
  withMode .RECEIVER (withReceptionState (heard isListeningPossible) s)

def asleep (s : LoRaNic) : LoRaNic := withMode .SLEEP (withReceptionState .UNDEFINED s)

theorem heard_ne (b : Bool) : heard b ≠ .RECEIVING ∧ heard b ≠ .UNDEFINED := by
  cases b <;> decide

theorem heard_or (b : Bool) : heard b = .IDLE ∨ heard b = .BUSY := by
  cases b <;> decide

theorem Sleeping.awake (h : Sleeping s) (b : Bool) : Listening (awake b s) :=
  ⟨rfl, rfl, heard_or b, h.transmission, h.noReception, h.noTransmission⟩

theorem Listening.asleep (h : Listening s) : Sleeping (asleep s) :=
  ⟨rfl, rfl, rfl, h.transmission, h.noReception, h.noTransmission⟩

theorem Sleeping.of_radio (h : Sleeping s) (hradio : s'.radio = s.radio) : Sleeping s' :=
  ⟨hradio ▸ h.mode, hradio ▸ h.nextMode, hradio ▸ h.reception, hradio ▸ h.transmission, hradio ▸ h.noReception,
    hradio ▸ h.noTransmission⟩

theorem Listening.of_radio (h : Listening s) (hradio : s'.radio = s.radio) : Listening s' :=
  ⟨hradio ▸ h.mode, hradio ▸ h.nextMode, hradio ▸ h.reception, hradio ▸ h.transmission, hradio ▸ h.noReception,
    hradio ▸ h.noTransmission⟩

variable {mode : RadioMode}

theorem setRadioMode_same (h : s.radio.radioMode = mode)
    (hmode : mode ≠ .SWITCHING) : setRadioMode b (n + 1) mode s = .ok s := by
  rw [setRadioMode, if_neg hmode, if_neg (h ▸ hmode), if_neg]
  rintro ⟨hne, -⟩
  exact hne h.symm

theorem setRadioMode_other (h : s.radio.radioMode ≠ .SWITCHING)
    (hmode : mode ≠ .SWITCHING) (hne : mode ≠ s.radio.radioMode) (hnext : mode ≠ s.radio.nextRadioMode) :
    setRadioMode b (n + 1) mode s = completeRadioModeSwitch (setRadioMode b n) b mode s := by
  rw [setRadioMode, if_neg hmode, if_neg h, if_pos ⟨hne, hnext⟩]

theorem updateTransmissionState_same (h : newTransmissionState s = s.radio.transmissionState) :
    updateTransmissionState set s = .ok s := by
  rw [updateTransmissionState, if_neg (not_not_intro h.symm)]

theorem updateTransceiverState_same (hreception : newReceptionState b s = s.radio.receptionState)
    (htransmission : newTransmissionState s = s.radio.transmissionState) :
    updateTransceiverState set b s = .ok s := by
  rw [updateTransceiverState, updateReceptionState, if_neg (not_not_intro hreception.symm)]
  exact updateTransmissionState_same htransmission

/-- A new reception state is signalled to the MAC, which does not receive. -/
theorem updateTransceiverState_changed {receptionState : ReceptionState}
    (hreception : newReceptionState b s = receptionState)
    (hne : s.radio.receptionState ≠ receptionState) (hmac : s.mac.receptionState ≠ .RECEIVING)
    (hhandled : handleWithFsm set .mediumStateChange (withReceptionState receptionState s) = .ok s')
    (htransmission : newTransmissionState s' = s'.radio.transmissionState) :
    updateTransceiverState set b s = .ok s' := by
  have hmac' : ¬(setReceptionState receptionState s).mac.receptionState = .RECEIVING := hmac
  rw [updateTransceiverState, updateReceptionState, hreception, if_pos hne, receptionStateChanged,
    if_neg hmac']
  change handleWithFsm set .mediumStateChange (withReceptionState receptionState s) >>= _ = _
  rw [hhandled]
  exact updateTransmissionState_same htransmission

theorem completeRadioModeSwitch_eq (hreception : s.radio.receptionTimer = none)
    (htransmission : s.radio.transmissionTimer = false) :
    completeRadioModeSwitch set b mode s = updateTransceiverState set b (withMode mode s) := by
  have hnoReception : ¬((!isReceiverMode mode && s.radio.receptionTimer.isSome) = true) := by
    simp [hreception]
  have hnoTransmission : ¬((!isTransmitterMode mode && s.radio.transmissionTimer) = true) := by
    simp [htransmission]
  rw [completeRadioModeSwitch, if_neg hnoReception]
  simp only [bind, Except.bind]
  rw [if_neg hnoTransmission]
  rfl

/-- The receiver is turned on, and the MAC handles the new reception state. -/
theorem turnOn (h : Sleeping s) (hmac : s.mac.receptionState ≠ .RECEIVING)
    (hhandled : handleWithFsm (setRadioMode b n) .mediumStateChange (awake b s) = .ok s')
    (htransmission : newTransmissionState s' = s'.radio.transmissionState) :
    setRadioMode b (n + 1) .RECEIVER s = .ok s' := by
  have hmode := h.mode
  have hnext := h.nextMode
  have hnew : newReceptionState b (withMode .RECEIVER s) = heard b := by
    rw [newReceptionState, isReceptionScheduled]
    simp only [withMode, h.noReception]
    rfl
  rw [setRadioMode_other (by simp [hmode]) (by simp) (by simp [hmode]) (by simp [hnext]),
    completeRadioModeSwitch_eq h.noReception h.noTransmission]
  refine updateTransceiverState_changed hnew ?_ hmac hhandled htransmission
  change s.radio.receptionState ≠ heard b
  rw [h.reception]
  exact (heard_ne b).2.symm

/-- The receiver is turned off, and the MAC handles the new reception state. -/
theorem turnOff (h : Listening s) (hmac : s.mac.receptionState ≠ .RECEIVING)
    (hhandled : handleWithFsm (setRadioMode b n) .mediumStateChange (asleep s) = .ok s')
    (htransmission : newTransmissionState s' = s'.radio.transmissionState) :
    setRadioMode b (n + 1) .SLEEP s = .ok s' := by
  have hmode := h.mode
  have hnext := h.nextMode
  have hnew : newReceptionState b (withMode .SLEEP s) = .UNDEFINED := rfl
  rw [setRadioMode_other (by simp [hmode]) (by simp) (by simp [hmode]) (by simp [hnext]),
    completeRadioModeSwitch_eq h.noReception h.noTransmission]
  refine updateTransceiverState_changed hnew ?_ hmac hhandled htransmission
  change s.radio.receptionState ≠ .UNDEFINED
  rcases h.reception with hrec | hrec <;> simp [hrec]

end Radio

/-- Between two events the machine waits for a timer that is scheduled, or for the
application. -/
inductive Rest (s : LoRaNic) : Prop where
  | idle (hfsm : s.mac.fsm = .IDLE) (hradio : Sleeping s) (h1 : s.mac.endDelay_1 = false)
      (h2 : s.mac.endListening_1 = false) (h3 : s.mac.endDelay_2 = false)
      (h4 : s.mac.endListening_2 = false)
  | delay_1 (hfsm : s.mac.fsm = .WAIT_DELAY_1) (hradio : Sleeping s) (h1 : s.mac.endDelay_1 = true)
  | listening_1 (hfsm : s.mac.fsm = .LISTENING_1) (hradio : Listening s)
      (h1 : s.mac.endDelay_1 = false) (h2 : s.mac.endListening_1 = true)
  | delay_2 (hfsm : s.mac.fsm = .WAIT_DELAY_2) (hradio : Sleeping s)
      (h1 : s.mac.endDelay_1 = false) (h2 : s.mac.endListening_1 = false)
      (h3 : s.mac.endDelay_2 = true)
  | listening_2 (hfsm : s.mac.fsm = .LISTENING_2) (hradio : Listening s)
      (h1 : s.mac.endDelay_1 = false) (h2 : s.mac.endListening_1 = false)
      (h3 : s.mac.endDelay_2 = false) (h4 : s.mac.endListening_2 = true)

/-- What the machine does not touch while it catches up. -/
structure Frame (s s' : LoRaNic) : Prop where
  queue : s'.mac.transmissionQueue = s.mac.transmissionQueue
  transmission : s'.mac.transmissionState = s.mac.transmissionState
  toRadio : s'.toRadio = s.toRadio
  toMac : s'.toMac = s.toMac

/-- What a catch-up ends in: the machine at rest, with the MAC not receiving. -/
structure Caught (s s' : LoRaNic) : Prop where
  rest : Rest s'
  notReceiving : s'.mac.receptionState ≠ .RECEIVING
  frame : Frame s s'

theorem Rest.transmission (h : Rest s) : newTransmissionState s = s.radio.transmissionState := by
  have hsleeping (hradio : Sleeping s) : newTransmissionState s = s.radio.transmissionState := by
    rw [newTransmissionState, hradio.mode, hradio.transmission]
    rfl
  have hlistening (hradio : Listening s) : newTransmissionState s = s.radio.transmissionState := by
    rw [newTransmissionState, hradio.mode, hradio.transmission]
    rfl
  cases h with
  | idle _ hradio | delay_1 _ hradio | delay_2 _ hradio => exact hsleeping hradio
  | listening_1 _ hradio | listening_2 _ hradio => exact hlistening hradio

/-- The enter action of a state in which the machine rests has been done. -/
theorem Rest.stable (h : Rest s) : enterAction (setRadioMode b (n + 1)) s.mac.fsm s = .ok s := by
  cases h with
  | idle hfsm hradio | delay_1 hfsm hradio | listening_1 hfsm hradio | delay_2 hfsm hradio
  | listening_2 hfsm hradio => rw [hfsm]; exact setRadioMode_same hradio.mode (by simp)

theorem not_receiving_of_listening (h : Listening s) : isReceiving s = false := by
  rcases h.reception with hrec | hrec <;> simp [isReceiving, hrec]

theorem Rest.medium (h : Rest s) : handleWithFsm set .mediumStateChange s = .ok s := by
  apply handle_none
  cases h with
  | idle hfsm => simp [fsma.firing, blocks, fsm, hfsm, isUpperMessage]
  | delay_1 hfsm _ h1 => simp [fsma.firing, blocks, fsm, hfsm, isScheduled, h1]
  | listening_1 hfsm hradio _ h2 =>
    simp [fsma.firing, blocks, fsm, hfsm, isScheduled, h2, not_receiving_of_listening hradio]
  | delay_2 hfsm _ _ _ h3 => simp [fsma.firing, blocks, fsm, hfsm, isScheduled, h3]
  | listening_2 hfsm hradio _ _ _ h4 =>
    simp [fsma.firing, blocks, fsm, hfsm, isScheduled, h4, not_receiving_of_listening hradio]

theorem asleep_notReceiving (s : LoRaNic) : (asleep s).mac.receptionState ≠ .RECEIVING := by
  simp [asleep, withReceptionState, withMode]

theorem Caught.of_frame {t : LoRaNic} (h : Caught t s') (hframe : Frame s t) : Caught s s' :=
  ⟨h.rest, h.notReceiving, h.frame.queue.trans hframe.queue, h.frame.transmission.trans hframe.transmission,
    h.frame.toRadio.trans hframe.toRadio, h.frame.toMac.trans hframe.toMac⟩

theorem Rest.handled (h : Rest s) (hmac : s.mac.receptionState ≠ .RECEIVING) :
    ∃ s', handleWithFsm set .mediumStateChange s = .ok s' ∧ Caught s s' :=
  ⟨s, h.medium, h, hmac, rfl, rfl, rfl, rfl⟩

/-- A state that the machine does not rest in is left at once. -/
theorem handled_of_enter {state : State} (condition : LoRaNic → Bool)
    (hfiring : fsma.firing fsm (blocks set .mediumStateChange) s = some ⟨condition, state, .ok⟩)
    (h : ∃ s', fsma.enter fsm (blocks set .mediumStateChange) (setState state s) = .ok s' ∧
      Caught (setState state s) s') :
    ∃ s', handleWithFsm set .mediumStateChange s = .ok s' ∧ Caught s s' := by
  obtain ⟨s', hentered, hcaught⟩ := h
  exact ⟨s', handle_to hfiring hentered, hcaught.of_frame ⟨rfl, rfl, rfl, rfl⟩⟩

/-- A state is entered whose action switches the receiver, and the machine catches up from there. -/
theorem enter_switched (t : LoRaNic) (msg : Message) (hframe : Frame s t)
    (hturn : ∀ {s'}, handleWithFsm (setRadioMode b n) .mediumStateChange t = .ok s' →
      newTransmissionState s' = s'.radio.transmissionState →
        enterAction (setRadioMode b (n + 1)) s.mac.fsm s = .ok s')
    (h : ∃ s', handleWithFsm (setRadioMode b n) .mediumStateChange t = .ok s' ∧ Caught t s') :
    ∃ s', fsma.enter fsm (blocks (setRadioMode b (n + 1)) msg) s = .ok s' ∧ Caught s s' := by
  obtain ⟨s', hhandled, hcaught⟩ := h
  exact ⟨s', enter_eq (hturn hhandled hcaught.rest.transmission) (.inr hcaught.rest.stable),
    hcaught.of_frame hframe⟩

theorem enter_idle (msg : Message) (hfsm : s.mac.fsm = .IDLE) (hradio : Listening s)
    (hmac : s.mac.receptionState ≠ .RECEIVING) (h1 : s.mac.endDelay_1 = false)
    (h2 : s.mac.endListening_1 = false) (h3 : s.mac.endDelay_2 = false)
    (h4 : s.mac.endListening_2 = false) :
    ∃ s', fsma.enter fsm (blocks (setRadioMode b (n + 1)) msg) s = .ok s' ∧ Caught s s' := by
  refine enter_switched (asleep s) msg ⟨rfl, rfl, rfl, rfl⟩ (fun hhandled => hfsm ▸ turnOff hradio hmac hhandled) ?_
  exact (@Rest.idle (asleep s) hfsm hradio.asleep h1 h2 h3 h4).handled (asleep_notReceiving s)

/-- The second window is entered; one that is over is left at once. -/
theorem enter_listening_2 (msg : Message) (hfsm : s.mac.fsm = .LISTENING_2) (hradio : Sleeping s)
    (hmac : s.mac.receptionState ≠ .RECEIVING) (h1 : s.mac.endDelay_1 = false)
    (h2 : s.mac.endListening_1 = false) (h3 : s.mac.endDelay_2 = false) :
    ∃ s', fsma.enter fsm (blocks (setRadioMode b (n + 2)) msg) s = .ok s' ∧ Caught s s' := by
  have hlistening := hradio.awake b
  refine enter_switched (awake b s) msg ⟨rfl, rfl, rfl, rfl⟩ (fun hhandled => hfsm ▸ turnOn hradio hmac hhandled) ?_
  cases h4 : s.mac.endListening_2 with
  | true => exact (@Rest.listening_2 (awake b s) hfsm hlistening h1 h2 h3 h4).handled (heard_ne b).1
  | false =>
    refine handled_of_enter (fun s => Message.mediumStateChange = .timer .endListening_2 ||
      !isScheduled s .endListening_2) ?_ (enter_idle _ rfl (hlistening.of_radio rfl) (heard_ne b).1 h1 h2 h3 h4)
    have hfsm' : (awake b s).mac.fsm = .LISTENING_2 := hfsm
    have h4' : (awake b s).mac.endListening_2 = false := h4
    simp [fsma.firing, blocks, fsm, hfsm', isScheduled, h4']

theorem enter_delay_2 (msg : Message) (hfsm : s.mac.fsm = .WAIT_DELAY_2) (hradio : Listening s)
    (hmac : s.mac.receptionState ≠ .RECEIVING) (h1 : s.mac.endDelay_1 = false)
    (h2 : s.mac.endListening_1 = false) :
    ∃ s', fsma.enter fsm (blocks (setRadioMode b (n + 3)) msg) s = .ok s' ∧ Caught s s' := by
  have hsleeping := hradio.asleep
  refine enter_switched (asleep s) msg ⟨rfl, rfl, rfl, rfl⟩ (fun hhandled => hfsm ▸ turnOff hradio hmac hhandled) ?_
  cases h3 : s.mac.endDelay_2 with
  | true => exact (@Rest.delay_2 (asleep s) hfsm hsleeping h1 h2 h3).handled (asleep_notReceiving s)
  | false =>
    refine handled_of_enter (fun s => Message.mediumStateChange = .timer .endDelay_2 ||
      !isScheduled s .endDelay_2) ?_
      (enter_listening_2 _ rfl (hsleeping.of_radio rfl) (asleep_notReceiving s) h1 h2 h3)
    have hfsm' : (asleep s).mac.fsm = .WAIT_DELAY_2 := hfsm
    have h3' : (asleep s).mac.endDelay_2 = false := h3
    simp [fsma.firing, blocks, fsm, hfsm', isScheduled, h3']

theorem enter_listening_1 (msg : Message) (hfsm : s.mac.fsm = .LISTENING_1) (hradio : Sleeping s)
    (hmac : s.mac.receptionState ≠ .RECEIVING) (h1 : s.mac.endDelay_1 = false) :
    ∃ s', fsma.enter fsm (blocks (setRadioMode b (n + 4)) msg) s = .ok s' ∧ Caught s s' := by
  have hlistening := hradio.awake b
  refine enter_switched (awake b s) msg ⟨rfl, rfl, rfl, rfl⟩ (fun hhandled => hfsm ▸ turnOn hradio hmac hhandled) ?_
  cases h2 : s.mac.endListening_1 with
  | true => exact (@Rest.listening_1 (awake b s) hfsm hlistening h1 h2).handled (heard_ne b).1
  | false =>
    refine handled_of_enter (fun s => Message.mediumStateChange = .timer .endListening_1 ||
      !isScheduled s .endListening_1) ?_ (enter_delay_2 _ rfl (hlistening.of_radio rfl) (heard_ne b).1 h1 h2)
    have hfsm' : (awake b s).mac.fsm = .LISTENING_1 := hfsm
    have h2' : (awake b s).mac.endListening_1 = false := h2
    simp [fsma.firing, blocks, fsm, hfsm', isScheduled, h2']

end inet.LoRaNic
