import LoRaInet.LoRa.LoRaMac.Reception

open omnetpp transition inet.physicallayer

namespace inet.LoRaNic

open LoRaMac (State Timer Message)

variable {s s' : LoRaNic} {b : Bool}

/-- Each part of a reception is received; a frame may be lost at its end. -/
def Event.endsWhole : Event → Bool
  | .receptionContinues _ isReceptionSuccessful isReceptionAttempted =>
    isReceptionSuccessful && isReceptionAttempted
  | _ => true

/-- None of the timers is scheduled, no transmission or reception is in progress, and no
frame is on its way. -/
structure Quiet (s : LoRaNic) : Prop where
  timers : ∀ timer, isScheduled s timer = false
  noTransmission : s.radio.transmissionTimer = false
  noReception : s.radio.receptionTimer = none
  toRadio : s.toRadio = []
  toMac : s.toMac = []

theorem upperPacket_inv (h : Inv s) (hfsm : s.mac.fsm = .IDLE) (packet : LoRaAppPacket)
    (cInfo : LoRaMacControlInfo) :
    ∃ s', handle b (.upperPacket packet cInfo) s = .ok s' ∧ Inv s' := by
  cases h with
  | rest hrest hmac hempty =>
    cases hrest with
    | idle _ hradio h1 h2 h3 h4 =>
      exact upperPacket_idle hfsm hradio h1 h2 h3 h4 hmac hempty packet cInfo
    | delay_1 hstate | listening_1 hstate | delay_2 hstate | listening_2 hstate =>
      cases hstate.symm.trans hfsm
  | queued hsending | transmitting hsending => cases hsending.fsm.symm.trans hfsm
  | receiving hwindow | received hwindow => cases hwindow with
    | first hstate | second hstate => cases hstate.symm.trans hfsm

theorem frameToRadio_inv (h : Inv s) (hpending : s.toRadio ≠ []) :
    ∃ s', handle b .frameToRadio s = .ok s' ∧ Inv s' := by
  cases h with
  | rest _ _ hempty => exact absurd hempty.toRadio hpending
  | queued hsending htimer hframe hradio => exact frameToRadio_queued hsending htimer hframe hradio
  | transmitting _ _ hframe => exact absurd hframe hpending
  | receiving _ _ hempty | received _ _ _ _ hempty => exact absurd hempty.toRadio hpending

theorem transmissionEnds_inv (h : Inv s) (hpending : s.radio.transmissionTimer = true) :
    ∃ s', handle b .transmissionEnds s = .ok s' ∧ Inv s' := by
  cases h with
  | rest hrest => cases (noTransmission_of_rest hrest).symm.trans hpending
  | queued _ htimer => cases htimer.symm.trans hpending
  | transmitting hsending _ hframe hradio hmac =>
    exact transmissionEnds_transmitting hsending hframe hradio hmac
  | receiving _ hradio | received _ hradio => cases hradio.noTransmission.symm.trans hpending

theorem not_isScheduled_of_sending (h : Sending s) (timer : Timer) : isScheduled s timer = false := by
  cases timer with
  | endDelay_1 => exact h.h1
  | endListening_1 => exact h.h2
  | endDelay_2 => exact h.h3
  | endListening_2 => exact h.h4

theorem macTimer_inv (h : Inv s) (timer : Timer) (hpending : isScheduled s timer = true) :
    ∃ s', handle b (.macTimer timer) s = .ok s' ∧ Inv s' := by
  cases h with
  | rest hrest hmac hempty => exact macTimer_rest hrest hmac hempty timer hpending
  | queued hsending | transmitting hsending =>
    cases (not_isScheduled_of_sending hsending timer).symm.trans hpending
  | receiving hwindow hradio hempty =>
    refine ⟨_, macTimer_window hwindow timer, .receiving (hwindow.setScheduled timer) ?_
      (hempty.setScheduled false timer)⟩
    cases timer <;> exact ⟨hradio.mode, hradio.nextMode, hradio.reception, hradio.macReception,
      hradio.transmission, hradio.noTransmission, hradio.scheduled⟩
  | received hwindow hradio hmac hframe hempty =>
    have hempty' := hempty.setScheduled false timer
    refine ⟨_, macTimer_window hwindow timer, .received (hwindow.setScheduled timer)
      (hradio.of_radio (radio_setScheduled s false timer)) ?_ ?_ ?_⟩
    · rw [receptionState_setScheduled]
      exact hmac
    · cases timer <;> exact hframe
    · cases timer <;> exact ⟨hempty'.toRadio, rfl, hempty'.queue, hempty'.notTransmitting⟩

theorem frameToMac_inv (h : Inv s) (hpending : s.toMac ≠ []) :
    ∃ s', handle b .frameToMac s = .ok s' ∧ Inv s' := by
  cases h with
  | rest _ _ hempty | receiving _ _ hempty => exact absurd hempty.toMac hpending
  | queued hsending | transmitting hsending => exact absurd hsending.toMac hpending
  | received hwindow hradio hmac hframe hempty =>
    obtain ⟨frame, hframe⟩ := hframe
    rw [handle]
    simp only [hframe]
    exact frameToMac_received (s := { s with toMac := [] }) (hwindow.of_mac rfl rfl rfl rfl)
      (hradio.of_radio rfl) hmac hempty frame

theorem handle_inv (h : Inv s) (event : Event) (hpending : event.Pending s)
    (hwhole : event.endsWhole) : ∃ s', handle b event s = .ok s' ∧ Inv s' := by
  cases event with
  | upperPacket packet cInfo => exact upperPacket_inv h hpending packet cInfo
  | frameToRadio => exact frameToRadio_inv h hpending
  | transmissionContinues => exact update_inv h
  | transmissionEnds => exact transmissionEnds_inv h hpending
  | macTimer timer => exact macTimer_inv h timer hpending
  | receptionStarts frame isReceptionAttempted => exact receptionStarts_inv h frame isReceptionAttempted
  | receptionContinues timer isReceptionSuccessful isReceptionAttempted =>
    obtain ⟨rfl, rfl⟩ := Bool.and_eq_true_iff.mp hwhole
    exact receptionContinues_inv h timer
  | receptionEnds timer frame isReceptionSuccessful =>
    exact receptionEnds_inv h timer frame isReceptionSuccessful
  | frameToMac => exact frameToMac_inv h hpending

theorem initial_inv (h : Initial s) : Inv s := by
  obtain ⟨address, isListeningPossible, hstarted⟩ := h
  have hasleep : setRadioMode isListeningPossible maxDepth .SLEEP { mac := { address := address } } =
      .ok { mac := { address := address }
            radio := { radioMode := .SLEEP, nextRadioMode := .SLEEP } } := rfl
  obtain rfl := Except.ok.inj (hasleep.symm.trans hstarted)
  exact .rest (.idle rfl ⟨rfl, rfl, rfl, rfl, rfl, rfl⟩ rfl rfl rfl rfl) (by simp)
    ⟨rfl, rfl, rfl, by simp⟩

variable {history : List ((Event × Bool) × Unit)}

theorem run_inv (hrun : NicRun history s) (hwhole : ∀ entry ∈ history, entry.1.1.endsWhole) :
    Inv s := by
  induction hrun with
  | init hinit => exact initial_inv hinit
  | @step history s s' label hrun hstep ih =>
    have hinv := ih fun entry hentry => hwhole entry (by simp [hentry])
    have hstep' : step s label.1 = some (s', label.2) := hstep
    rw [step] at hstep'
    split at hstep'
    · next hpending =>
      obtain ⟨t, hhandled, hinv'⟩ := handle_inv (b := label.1.2) hinv label.1.1 hpending
        (hwhole label (by simp))
      rw [hhandled] at hstep'
      cases hstep'
      exact hinv'
    · cases hstep'

end inet.LoRaNic
