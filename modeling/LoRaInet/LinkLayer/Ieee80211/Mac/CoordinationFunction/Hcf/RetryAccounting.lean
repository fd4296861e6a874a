import LoRaInet.LinkLayer.Ieee80211.Mac.CoordinationFunction.Hcf.Handlers
import LoRaInet.LinkLayer.Ieee80211.Mac.CoordinationFunction.Hcf.Tracking

open omnetpp transition

namespace inet.ieee80211

open InProgressFrames QoSAckHandler EdcaQueue

instance (frames : InProgressFrames) (short long : RetryCounter) :
    Decidable (Undisputed frames short long) :=
  decidable_of_iff ((retryKeys (frames.inProgressFrames ++ frames.pendingFrames)).Nodup ∧
      ∀ key ∈ retryKeys frames.pendingFrames, short key = none ∧ long key = none)
    ⟨fun h => ⟨h.1, h.2⟩, fun h => ⟨h.distinct, h.unused⟩⟩

/-- No frame of the queue gets in the way of the counters or of the status of another one. -/
def EdcaQueue.Unshared (q : EdcaQueue) : Bool :=
  Undisputed q.frames q.dataRecovery.shortRetryCounter q.dataRecovery.longRetryCounter ∧
    FreeToProgress q.frames q.frames.pendingFrames

namespace Hcf

variable {p : HcfParameters} {e : Event} {s s' : Hcf} {ac : AccessCategory}

/-- A response to the step that is running, or the lack of one. -/
def Answers (p : HcfParameters) (s : Hcf) (ac : AccessCategory) (e : Event) : SequenceStep → Bool
  | .receiveCts f next =>
    match e with
    | .lowerFrame .cts _ => KeepsPolicy p s e (.receiveCts f next)
    | _ => !f.isManagement
  | .receiveAck f =>
    match e with
    | .lowerFrame .ack _ =>
      (f.isManagement → ¬p.dataAndMgmtRateControl) ∧ AcksAtMinimum p (s.queue ac) e (.receiveAck f)
    | _ => true
  | .receiveBlockAck blockAckReq => AcksAtMinimum p (s.queue ac) e (.receiveBlockAck blockAckReq)
  | .transmitMulticast _ | .transmitRts _ _ | .transmitData _ _ | .transmitManagement _
  | .transmitBlockAckReq _ => false

/-- What is asked of an event. -/
def Accepts (p : HcfParameters) (s : Hcf) : Event → Bool
  | .upperFrame fragments => (classifyFrame fragments.first).toOption.isSome
  | .pendingQueueChanged _ _ | .agreementsChanged _ => true
  | .channelGranted ac internallyCollided =>
    s.step = none ∧ ∀ ac' ∈ ac :: internallyCollided, (s.queue ac').hasFrameToTransmit
  | .transmissionComplete addbaRequest _ =>
    ∀ request ∈ addbaRequest, FreeToProgress (s.queue .AC_VO).frames request.frames
  | .lowerFrame frame remaining =>
    match s.running with
    | none => frame = .ack ∨ frame = .other
    | some (ac, step) => Answers p s ac (.lowerFrame frame remaining) step
  | .startRxTimeout =>
    match s.running with
    | none => true
    | some (ac, step) => Answers p s ac .startRxTimeout step
  | .corruptedFrameReceived =>
    match s.running with
    | none => true
    | some (ac, step) => Answers p s ac .corruptedFrameReceived step

/-- The frames of the queues do not get in the way of each other, and the event is accepted. -/
def CountsFrames (p : HcfParameters) (s : Hcf) (e : Event) : Bool :=
  (s.queue .AC_BK).Unshared && (s.queue .AC_BE).Unshared && (s.queue .AC_VI).Unshared &&
    (s.queue .AC_VO).Unshared && Accepts p s e

theorem unshared_of_countsFrames (h : s.CountsFrames p e) (ac : AccessCategory) :
    Undisputed (s.queue ac).frames (s.queue ac).dataRecovery.shortRetryCounter
        (s.queue ac).dataRecovery.longRetryCounter ∧
      FreeToProgress (s.queue ac).frames (s.queue ac).frames.pendingFrames := by
  simp only [CountsFrames, Bool.and_eq_true] at h
  obtain ⟨⟨⟨⟨hbk, hbe⟩, hvi⟩, hvo⟩, -⟩ := h
  cases ac with
  | AC_BK => exact of_decide_eq_true hbk
  | AC_BE => exact of_decide_eq_true hbe
  | AC_VI => exact of_decide_eq_true hvi
  | AC_VO => exact of_decide_eq_true hvo

theorem accepts_of_countsFrames (h : s.CountsFrames p e) : Accepts p s e :=
  (Bool.and_eq_true _ _ ▸ h).2

/-- The retries of every queue are accounted for. -/
structure AllCounted (s : Hcf) : Prop where
  owned : s.Owned
  kept : ∀ ac, Kept ac (s.queue ac).frames (s.queue ac).ackPolicy (s.stepOf ac)
  balanced : ∀ ac, (s.queue ac).account.Balanced
  inBounds : ∀ ac, (s.queue ac).dataRecovery.cwCalculator.InBounds

variable {step : SequenceStep}

theorem answers_of_running (hcounts : s.CountsFrames p e)
    (he : e.isReception) (hrunning : s.running = some (ac, step)) : Answers p s ac e step := by
  have haccepts := accepts_of_countsFrames hcounts
  unfold Accepts at haccepts
  cases e with
  | lowerFrame frame remaining | startRxTimeout | corruptedFrameReceived =>
    dsimp only at haccepts
    rw [hrunning] at haccepts
    exact haccepts
  | _ => cases he

theorem acksAtMinimum_of_stepOf (hcounts : s.CountsFrames p e) :
    ∀ st ∈ s.stepOf ac, AcksAtMinimum p (s.queue ac) e st := by
  intro st hst
  have hrunning := running_of_stepOf hst
  cases hreception : e.isReception with
  | false =>
    cases e with
    | lowerFrame frame remaining => cases hreception
    | _ => rfl
  | true =>
    have hanswers := answers_of_running hcounts hreception hrunning
    cases st with
    | receiveAck f =>
      cases e with
      | lowerFrame frame remaining =>
        cases frame with
        | ack => exact (of_decide_eq_true hanswers).2
        | _ => rfl
      | _ => rfl
    | receiveBlockAck blockAckReq => exact hanswers
    | _ =>
      cases e with
      | lowerFrame frame remaining => cases frame <;> rfl
      | _ => rfl

theorem suits_of_countsFrames (h : s.AllCounted) (hcounts : s.CountsFrames p e) (ac : AccessCategory)
    (f : Ieee80211DataOrMgmtFrame) (next : TxOpSequence) (remaining : Bool)
    (hrunning : s.running = some (ac, .receiveCts f next)) (he : e = .lowerFrame .cts remaining) :
    Suits p s ac next := by
  subst he
  obtain ⟨heligible, hunicast, -⟩ := (h.kept ac).suits _ (stepOf_of_running hrunning)
  exact suits_of_eligible heligible hunicast (answers_of_running hcounts rfl hrunning)

theorem AllCounted.evolved (h : s.AllCounted) (hcounts : s.CountsFrames p e)
    (henabled : Enabled s e) (hhandle : s.handleEvent p e = .ok s') : Evolved p e s s' :=
  handleEvent_yields h.owned henabled (suits_of_countsFrames h hcounts) s' hhandle

theorem AllCounted.handleEvent (h : s.AllCounted) (hcounts : s.CountsFrames p e)
    (henabled : Enabled s e) (hhandle : s.handleEvent p e = .ok s') : s'.AllCounted := by
  obtain ⟨howned, hevolves⟩ := h.evolved hcounts henabled hhandle
  have hmanagement : ∀ request remaining, e = .transmissionComplete (some request) remaining →
      ∀ f ∈ request.frames, f.isManagement := by
    rintro request remaining rfl
    exact henabled.2 request rfl
  refine ⟨howned, fun ac => (h.kept ac).evolves (hevolves ac), fun ac => ?_,
    fun ac => (hevolves ac).moves.inBounds (h.inBounds ac)⟩
  have haccounted : Accounted (s.queue ac) := ⟨h.balanced ac, (unshared_of_countsFrames hcounts ac).1⟩
  exact haccounted.evolves (h.kept ac) hmanagement (hevolves ac)

theorem foldlM_handleInternalCollision_returns {owner : AccessCategory} {l : List AccessCategory} :
    l.Nodup → ∀ s : Hcf, (∀ ac ∈ l, (s.queue ac).frames.Unblocked ∧ (s.queue ac).hasFrameToTransmit ∧
        ∀ f, (s.queue ac).frames.ensured.eligibleFrame = some f → ¬f.isManagement) →
      Returns (l.foldlM (fun s collided => s.handleInternalCollision owner collided) s) fun _ => True := by
  induction l with
  | nil => exact fun _ _ _ => .pure trivial
  | cons ac l ih =>
    intro hnodup s hall
    obtain ⟨hnotMem, hnodup⟩ := List.nodup_cons.mp hnodup
    obtain ⟨hfree, hframe, hdata⟩ := hall ac (.head _)
    rw [List.foldlM_cons]
    refine ((handleInternalCollision_returns hfree hframe hdata).yields
      handleInternalCollision_yields).bind fun s₁ h => ih hnodup s₁ fun ac' hac' => ?_
    obtain ⟨-, -, -, -, hothers⟩ := h
    rw [hothers ac' fun heq => hnotMem (heq ▸ hac')]
    exact hall ac' (List.mem_cons_of_mem ac hac')

theorem stepOf_of_idle (h : s.step = none) (ac : AccessCategory) : s.stepOf ac = none := by
  unfold stepOf
  rw [h, ite_self]

/-- Management frames are of the highest access category, which never collides internally. -/
theorem data_of_collided (hkept : Kept ac (s.queue ac).frames (s.queue ac).ackPolicy none)
    {owner : AccessCategory} (hlower : ac.toNat < owner.toNat) {f : Ieee80211DataOrMgmtFrame}
    (heligible : (s.queue ac).frames.ensured.eligibleFrame = some f) : ¬f.isManagement := by
  intro hmanagement
  have hplaced := (hkept.extend (.ensured _)).placed f (List.mem_of_find?_eq_some heligible)
  unfold classifyFrame at hplaced
  rw [if_pos hmanagement] at hplaced
  cases hplaced
  cases owner <;> simp [AccessCategory.toNat] at hlower

theorem channelGranted_returns {internallyCollided : List AccessCategory} (h : s.AllCounted)
    (henabled : Enabled s (.channelGranted ac internallyCollided))
    (hcounts : s.CountsFrames p (.channelGranted ac internallyCollided)) :
    Returns (s.channelGranted p ac internallyCollided) fun _ => True := by
  obtain ⟨-, hnodup, hcollided⟩ := henabled
  obtain ⟨hidle, hframes⟩ := of_decide_eq_true (accepts_of_countsFrames hcounts)
  have hkept : ∀ ac', Kept ac' (s.queue ac').frames (s.queue ac').ackPolicy none := by
    intro ac'
    have hkept := h.kept ac'
    rw [stepOf_of_idle hidle] at hkept
    exact hkept
  have hfree : ∀ ac', (s.queue ac').frames.Unblocked := fun ac' =>
    (unshared_of_countsFrames hcounts ac').2.unblocked fun _ _ h => h
  have hnotMem : ac ∉ internallyCollided := fun hac => lt_irrefl _ (hcollided ac hac).1
  have hquiet := foldl_endContention_queue (ac :: internallyCollided) s
  have hcollisions : Returns (internallyCollided.foldlM
      (fun s collided => s.handleInternalCollision ac collided)
      { (ac :: internallyCollided).foldl endContention s with channelOwner := some ac })
      fun _ => True := by
    refine foldlM_handleInternalCollision_returns hnodup _ fun ac' hac' => ?_
    rw [hquiet, if_pos (.tail _ hac')]
    exact ⟨hfree ac', hframes ac' (.tail _ hac'), fun f heligible =>
      data_of_collided (hkept ac') (hcollided ac' hac').1 heligible⟩
  unfold channelGranted
  refine (hcollisions.yields (foldlM_handleInternalCollision_yields hnodup _)).bind fun s₁ hs₁ => ?_
  obtain ⟨-, -, hstep, -, hkeptQueue⟩ := hs₁
  have hqueue : s₁.queue ac = (s.queue ac).contend false := by
    rw [hkeptQueue ac hnotMem]
    rw [hquiet, if_pos (.head _)]
  refine startFrameSequence_returns ?_ ?_ ?_
  · rw [hstep]
    rw [foldl_endContention_channelOwner, hidle]
  · rw [hqueue]
    exact hfree ac
  · rw [hqueue]
    exact hframes ac (.head _)

/-- The element of a sequence that the event ends leaves its queue able to go on. -/
theorem unblocked_of_completed {s₁ : Hcf} (h : s.AllCounted) (henabled : Enabled s e)
    (hcounts : s.CountsFrames p e)
    (hcompleted : Completed p e s ac s₁ none) : (s₁.queue ac).frames.Unblocked := by
  obtain ⟨⟨q, contention, hcompletes, hq⟩, -, -⟩ := hcompleted
  have hpending := (unshared_of_countsFrames hcounts ac).2
  rw [hq]
  refine hcompletes.unblocked (h.kept ac) hpending ?_ rfl
  rintro request remaining rfl hbelongs
  have hclassify := hbelongs request.first (.head _)
  unfold classifyFrame at hclassify
  rw [if_pos (henabled.2 request rfl request.first (.head _))] at hclassify
  cases hclassify
  exact of_decide_eq_true (accepts_of_countsFrames hcounts) request rfl

theorem transmissionComplete_returns {addbaRequest : Option Fragments}
    {remaining : Bool} (h : s.AllCounted) (henabled : Enabled s (.transmissionComplete addbaRequest remaining))
    (hcounts : s.CountsFrames p (.transmissionComplete addbaRequest remaining))
    (hrunning : s.running = some (ac, step)) :
    Returns (s.transmissionComplete p ac step addbaRequest remaining) fun _ => True := by
  have hsuits := (h.kept ac).suits step (stepOf_of_running hrunning)
  have hfree : ∀ s₁, Completed p (.transmissionComplete addbaRequest remaining) s ac s₁ none →
      (s₁.queue ac).frames.Unblocked := fun _ => unblocked_of_completed h henabled hcounts
  unfold transmissionComplete
  cases step with
  | transmitMulticast frame =>
    obtain ⟨-, -, hmulticast⟩ := hsuits
    refine ((originatorProcessTransmittedFrame_returns fun hunicast _ => absurd hmulticast hunicast).yields
      originatorProcessTransmittedFrame_yields).bind fun s₁ hs₁ => ?_
    obtain ⟨-, q, htransmitted, rfl⟩ := hs₁
    exact repeatMulticastSequence_returns
      (hfree _ (completed_setQueue hrunning (.multicastTransmitted htransmitted)))
  | transmitRts protectedFrame next => exact .ok trivial
  | transmitData frame ackExpected =>
    obtain ⟨-, -, -, -, hpolicy, -⟩ := hsuits
    refine ((originatorProcessTransmittedFrame_returns fun _ _ => ⟨ackExpected, hpolicy⟩).yields
      originatorProcessTransmittedFrame_yields).bind fun s₁ hs₁ => ?_
    obtain ⟨-, q, htransmitted, rfl⟩ := hs₁
    have hnext : ∀ s₂, Completed p (.transmissionComplete addbaRequest remaining) s ac s₂
          (if ackExpected then some (.receiveAck frame) else none) →
        Returns (if ackExpected then pure (s₂.setStep (.receiveAck frame))
            else repeatSequence p s₂ ac remaining) fun _ => True := by
      intro s₂ hcompleted
      split
      · exact .pure trivial
      · next hack =>
        rw [if_neg hack] at hcompleted
        exact repeatSequence_returns (hfree s₂ hcompleted)
    cases addbaRequest with
    | none =>
      refine hnext _ (completed_setQueue hrunning ?_)
      have hcompletes := @Completes.dataTransmitted p ac none remaining ackExpected _ q frame []
        htransmitted nofun
      rw [List.append_nil] at hcompletes
      exact hcompletes
    | some request =>
      have hclassify : classifyFrame request.first = .ok .AC_VO := by
        unfold classifyFrame
        rw [if_pos (henabled.2 request rfl request.first (.head _))]
      refine ((processUpperFrame_returns hclassify).yields processUpperFrame_yields).bind
        fun s₂ hs₂ => hnext s₂ ?_
      obtain ⟨-, howner, -, hqueues⟩ := hs₂
      exact completed_of_request hrunning (henabled.2 request rfl) htransmitted howner hqueues
  | transmitManagement frame =>
    obtain ⟨-, -, -, hmanagement⟩ := hsuits
    refine Returns.bind (P := fun _ => True) (originatorProcessTransmittedFrame_returns fun _ hqos => ?_)
      fun _ _ => .pure trivial
    simp [Ieee80211DataOrMgmtFrame.isManagement, hqos] at hmanagement
  | transmitBlockAckReq blockAckReq | receiveCts _ _ | receiveAck _ | receiveBlockAck _ =>
    exact .ok trivial

theorem abortFrameSequence_returns (hsuits : step.Suits (s.queue ac).frames (s.queue ac).ackPolicy)
    (hprotected : ∀ f next, step = .receiveCts f next → ¬f.isManagement) :
    Returns (s.abortFrameSequence p ac step) fun _ => True := by
  unfold abortFrameSequence
  cases step with
  | receiveCts f next =>
    refine Returns.bind (P := fun _ => True)
      (originatorProcessRtsProtectionFailed_returns (hprotected f next rfl)) fun _ _ => ?_
    exact .pure trivial
  | receiveAck f =>
    obtain ⟨-, hstatus, hpolicy⟩ := hsuits
    refine Returns.bind (P := fun _ => True) (originatorProcessFailedFrame_returns hstatus hpolicy)
      fun _ _ => ?_
    exact .pure trivial
  | _ => exact .ok trivial

theorem not_isTransmit_of_answers (h : Answers p s ac e step) : step.isTransmit = false := by
  cases step with
  | receiveCts _ _ | receiveAck _ | receiveBlockAck _ => rfl
  | _ => exact absurd h Bool.false_ne_true

theorem processResponse_returns {frame : ReceivedFrame} {remaining : Bool}
    (h : s.AllCounted) (henabled : Enabled s (.lowerFrame frame remaining))
    (hcounts : s.CountsFrames p (.lowerFrame frame remaining)) (hrunning : s.running = some (ac, step)) :
    Returns (s.processResponse p ac step frame remaining) fun _ => True := by
  have hsuits := (h.kept ac).suits step (stepOf_of_running hrunning)
  have hanswers := answers_of_running hcounts rfl hrunning
  have hfree : ∀ s₁, Completed p (.lowerFrame frame remaining) s ac s₁ none →
      (s₁.queue ac).frames.Unblocked := fun _ => unblocked_of_completed h henabled hcounts
  unfold processResponse
  split
  · next protectedFrame next =>
    obtain ⟨heligible, -, hmanagement, hnext⟩ := hsuits
    refine startElement_returns ?_ (fun _ => ⟨protectedFrame, ?_, hmanagement⟩) fun heq => absurd heq hnext
    · exact hfree (s.originatorProcessReceivedCts ac) (completed_setQueue hrunning .ctsReceived)
    · unfold originatorProcessReceivedCts
      rw [setQueue_self]
      rw [ensured_eq_self heligible]
      exact heligible
  · next f =>
    obtain ⟨hf, hstatus, -⟩ := hsuits
    obtain ⟨hmanagement, -⟩ := of_decide_eq_true hanswers
    refine ((originatorProcessReceivedAck_returns (h.balanced ac) hf hstatus hmanagement).yields
      (@originatorProcessReceivedAck_yields p s ac f remaining hrunning)).bind fun s₁ hs₁ => ?_
    exact repeatSequence_returns (hfree s₁ hs₁.2)
  · next blockAckReq transmitterAddress blockAck =>
    exact repeatSequence_returns (hfree _ (completed_setQueue hrunning .blockAckReceived))
  · next _ _ hcts hack hblockAck =>
    split
    · next htransmit => exact absurd htransmit (by simp [not_isTransmit_of_answers hanswers])
    · refine abortFrameSequence_returns hsuits ?_
      rintro f next rfl
      cases frame with
      | cts => exact (hcts f next rfl rfl).elim
      | _ => simpa [Answers] using hanswers

theorem handleStartRxTimeout_returns (h : s.AllCounted)
    (hcounts : s.CountsFrames p e) (he : e = .startRxTimeout ∨ e = .corruptedFrameReceived)
    (hrunning : s.running = some (ac, step)) :
    Returns (s.handleStartRxTimeout p ac step) fun _ => True := by
  have hsuits := (h.kept ac).suits step (stepOf_of_running hrunning)
  have hanswers : Answers p s ac e step :=
    answers_of_running hcounts (by rcases he with rfl | rfl <;> rfl) hrunning
  unfold handleStartRxTimeout
  split
  · next htransmit => exact absurd htransmit (by simp [not_isTransmit_of_answers hanswers])
  · refine abortFrameSequence_returns hsuits ?_
    rintro f next rfl
    rcases he with rfl | rfl <;> simpa [Answers] using hanswers

theorem AllCounted.handleEvent_returns (h : s.AllCounted) (henabled : Enabled s e)
    (hcounts : s.CountsFrames p e) : Returns (s.handleEvent p e) fun _ => True := by
  have haccepts := accepts_of_countsFrames hcounts
  unfold Hcf.handleEvent
  cases e with
  | upperFrame fragments =>
    obtain ⟨ac, hclassify⟩ := Option.isSome_iff_exists.mp haccepts
    exact processUpperFrame_returns (toOption_eq_some.mp hclassify)
  | pendingQueueChanged ac pendingQueue | agreementsChanged agreements => exact .ok trivial
  | channelGranted ac internallyCollided => exact channelGranted_returns h henabled hcounts
  | transmissionComplete addbaRequest remaining =>
    dsimp only
    split
    · next ac step hrunning => exact transmissionComplete_returns h henabled hcounts hrunning
    · exact .ok trivial
  | lowerFrame frame remaining =>
    dsimp only
    split
    · next ac step hrunning => exact processResponse_returns h henabled hcounts hrunning
    · next hidle =>
      unfold Accepts at haccepts
      dsimp only at haccepts
      rw [hidle] at haccepts
      rcases of_decide_eq_true haccepts with rfl | rfl
      · exact .ok trivial
      · exact .ok trivial
  | startRxTimeout =>
    dsimp only
    split
    · next ac step hrunning => exact handleStartRxTimeout_returns h hcounts (.inl rfl) hrunning
    · exact .ok trivial
  | corruptedFrameReceived =>
    dsimp only
    split
    · next ac step hrunning => exact handleStartRxTimeout_returns h hcounts (.inr rfl) hrunning
    · exact .ok trivial

theorem Initial.allCounted (h : s.Initial) : s.AllCounted := by
  have hstepOf := stepOf_of_idle h.step
  refine ⟨by simp [Owned, h.channelOwner, h.step], fun ac => ?_, fun ac => (h.queue ac).balanced,
    fun ac => ?_⟩
  · rw [hstepOf]
    exact Kept.initial (h.queue ac)
  · have hq := h.queue ac
    exact ⟨hq.cwMin, hq.cw.ge, hq.cw.le.trans hq.cwMax⟩

theorem run_allCounted {history : List (Event × Hcf × Unit)}
    (hrun : Run Initial (StepOf (traced (handle p))) history s)
    (hcounts : Always (fun _ l => l.2.1.CountsFrames p l.1) history) : s.AllCounted := by
  refine @Run.invariant_of_always _ _ _ _ _ (fun _ s => s.AllCounted) _ _ hrun hcounts
    (fun s h => h.allCounted) ?_
  rintro history s ⟨e, before, o⟩ s' - h hstep hcounts
  obtain ⟨rfl, hhandle⟩ := traced_eq_some.mp hstep
  obtain ⟨henabled, hhandle⟩ := handle_eq_some.mp hhandle
  exact h.handleEvent hcounts henabled hhandle

/-- A data frame is discarded just when its own failures reach a limit, the windows stay within their
bounds, and no event is a fault or leaves the window wide after an acknowledgement. -/
theorem retries_accounted {history : List (Event × Hcf × Unit)}
    (hrun : Run Initial (StepOf (traced (handle p))) history s)
    (hcounts : Always (fun _ l => l.2.1.CountsFrames p l.1) history) :
    (∀ ac, (∀ f, ¬f.isManagement →
        (.discarded f ∈ (s.queue ac).log ↔ (s.queue ac).account.Exhausted f)) ∧
      (∀ f ∈ (s.queue ac).frames.inProgressFrames, ¬f.isManagement → (s.queue ac).account.Below f) ∧
      (s.queue ac).dataRecovery.cwCalculator.InBounds) ∧
    ∀ e, Enabled s e → s.CountsFrames p e → ∃ s', handle p s e = some (s', ()) ∧
      ∀ ac, (s.queue ac).Logs (s'.queue ac) := by
  have h := run_allCounted hrun hcounts
  refine ⟨fun ac => ⟨(h.balanced ac).discarded, (h.balanced ac).below, h.inBounds ac⟩,
    fun e henabled hcounts => ?_⟩
  obtain ⟨s', hhandle, -⟩ := h.handleEvent_returns henabled hcounts
  refine ⟨s', handle_eq_some.mpr ⟨henabled, hhandle⟩, fun ac => ?_⟩
  exact ((h.evolved hcounts henabled hhandle).evolves ac).logs (acksAtMinimum_of_stepOf hcounts)

/-- A transmission that no acknowledgement comes for, of the frame that waits. -/
def sampleFailure : List Event := [.channelGranted .AC_BE [], .transmissionComplete none true, .startRxTimeout]

/-- A short frame fails until it is discarded. -/
theorem retries_accounted_of_failures : ∃ history s f,
    Run Initial (StepOf (traced (handle sampleParameters))) history s ∧ history.length = 22 ∧
      .discarded f ∈ (s.queue .AC_BE).log ∧ (s.queue .AC_BE).account.Exhausted f := by
  obtain ⟨s, history, hrun, hlength, hdiscarded, hcounts⟩ := exists_run_of_initial
    (traced (handle sampleParameters)) sampleHcf_initial
    (.upperFrame ⟨sampleFrame 0, []⟩ :: (List.replicate 7 sampleFailure).flatten)
    (fun s history => history.length = 22 ∧ .discarded (sampleFrame 0) ∈ (s.queue .AC_BE).log ∧
      Always (fun _ l => l.2.1.CountsFrames sampleParameters l.1) history) (by decide +kernel)
  obtain ⟨hqueues, -⟩ := retries_accounted hrun hcounts
  exact ⟨history, s, sampleFrame 0, hrun, hlength, hdiscarded,
    ((hqueues .AC_BE).1 (sampleFrame 0) (by decide)).mp hdiscarded⟩

/-- Without a rate control module the window stays wide after an acknowledgement. -/
theorem window_stays_wide : ∃ history s,
    Run Initial (StepOf (traced (handle sampleParameters))) history s ∧
      (s.queue .AC_BE).log.head? = some (.acknowledged (sampleFrame 0)) ∧
      (s.queue .AC_BE).dataRecovery.cwCalculator.cw ≠
        (s.queue .AC_BE).dataRecovery.cwCalculator.cwMin := by
  obtain ⟨s, history, hrun, hlog, hcw⟩ := exists_run_of_initial
    (traced (handle sampleParameters)) sampleHcf_initial
    (.upperFrame ⟨sampleFrame 0, []⟩ :: sampleFailure ++
      [.channelGranted .AC_BE [], .transmissionComplete none true, .lowerFrame .ack true])
    (fun s _ => (s.queue .AC_BE).log.head? = some (.acknowledged (sampleFrame 0)) ∧
      (s.queue .AC_BE).dataRecovery.cwCalculator.cw ≠
        (s.queue .AC_BE).dataRecovery.cwCalculator.cwMin) (by decide +kernel)
  exact ⟨history, s, hrun, hlog, hcw⟩

end Hcf

end inet.ieee80211
