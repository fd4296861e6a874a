import LoRaInet.LinkLayer.Ieee80211.Mac.CoordinationFunction.Hcf.Evolution

open omnetpp

namespace inet.ieee80211

open InProgressFrames EdcaQueue

namespace Hcf

variable {p : HcfParameters} {e : Event} {s s₁ s' : Hcf} {ac : AccessCategory}

/-- The step of the sequence that a queue is transmitting. -/
def stepOf (s : Hcf) (ac : AccessCategory) : Option SequenceStep :=
  if s.channelOwner = some ac then s.step else none

/-- The channel has an owner just while a sequence is running. -/
def Owned (s : Hcf) : Prop := s.channelOwner = none ↔ s.step = none

/-- All queues and their steps have gone through the event. -/
structure Evolved (p : HcfParameters) (e : Event) (s s' : Hcf) : Prop where
  owned : s'.Owned
  evolves : ∀ ac, Evolves p ac e (s.queue ac) (s.stepOf ac) (s'.queue ac) (s'.stepOf ac)

/-- The event has begun for all queues, of which this one owns the channel. -/
structure Completed (p : HcfParameters) (e : Event) (s : Hcf) (ac : AccessCategory) (s₁ : Hcf)
    (step : Option SequenceStep) : Prop where
  own : ∃ q contention, Completes p ac e (s.queue ac) (s.stepOf ac) q step ∧
    s₁.queue ac = q.contend contention
  others : ∀ ac' ≠ ac, Evolves p ac' e (s.queue ac') (s.stepOf ac') (s₁.queue ac') none
  owner : s₁.channelOwner = some ac

theorem stepOf_of_ne {ac' : AccessCategory} (h : s.channelOwner = some ac) (hne : ac' ≠ ac) :
    s.stepOf ac' = none := by
  unfold stepOf
  rw [h, if_neg]
  exact fun heq => hne (Option.some.inj heq).symm

variable {step : SequenceStep}

theorem Completed.setStep (h : Completed p e s ac s₁ (some step)) :
    Evolved p e s (s₁.setStep step) := by
  obtain ⟨⟨q, contention, hcompletes, hq⟩, hothers, howner⟩ := h
  have howner' : (s₁.setStep step).channelOwner = some ac := howner
  refine ⟨by simp [Owned, howner, Hcf.setStep], fun ac' => ?_⟩
  by_cases hac : ac' = ac
  · subst hac
    have hstep : (s₁.setStep step).stepOf ac' = some step := if_pos howner'
    rw [hstep]
    change Evolves p ac' e _ _ (s₁.queue ac') _
    rw [hq]
    exact .stays contention hcompletes
  · rw [stepOf_of_ne howner' hac]
    exact hothers ac' hac

theorem Completed.resumes (h : Completed p e s ac s₁ none) (hresumes : Resumes ac s₁ s') :
    Evolved p e s s' := by
  obtain ⟨⟨q, contention, hcompletes, hq⟩, hothers, howner⟩ := h
  obtain ⟨⟨q', contention', hcontinues, hq'⟩, hothers', howner'⟩ := hresumes
  rw [howner] at howner'
  have howned : s'.Owned := by
    unfold Owned
    rw [howner']
    cases s'.step <;> simp
  have hstep : s'.stepOf ac = s'.step := by
    unfold stepOf
    rw [howner']
    cases s'.step <;> simp
  refine ⟨howned, fun ac' => ?_⟩
  by_cases hac : ac' = ac
  · subst hac
    rw [hq] at hcontinues
    rw [hstep, hq']
    exact .continues contention contention' hcompletes hcontinues
  · have hnone : s'.stepOf ac' = none := by
      unfold stepOf
      rw [howner']
      cases s'.step <;> simp [Ne.symm hac]
    rw [hnone, hothers' ac' hac]
    exact hothers ac' hac

theorem Adjusts.refl (q : EdcaQueue) (ac : AccessCategory) : q.Adjusts ac q :=
  .intro q.frames.pendingQueue (fun _ => .inl) (.refl _)

variable {step : SequenceStep}

theorem running_eq_some :
    s.running = some (ac, step) ↔ s.channelOwner = some ac ∧ s.step = some step := by
  unfold running
  constructor
  · intro h
    split at h
    · next hchannelOwner hstep =>
      cases h
      exact ⟨hchannelOwner, hstep⟩
    · cases h
  · rintro ⟨hchannelOwner, hstep⟩
    rw [hchannelOwner, hstep]

theorem stepOf_of_running (h : s.running = some (ac, step)) : s.stepOf ac = some step := by
  obtain ⟨howner, hstep⟩ := running_eq_some.mp h
  unfold stepOf
  rw [if_pos howner, hstep]

variable {q : EdcaQueue} {step' : Option SequenceStep}

/-- The event has begun for the owner, and adjusted the other queues. -/
theorem completed_of_running {contention : Bool} (hrunning : s.running = some (ac, step))
    (h : Completes p ac e (s.queue ac) (some step) q step') (hown : s₁.queue ac = q.contend contention)
    (hothers : ∀ ac' ≠ ac, (s.queue ac').Adjusts ac' (s₁.queue ac'))
    (howner : s₁.channelOwner = s.channelOwner) : Completed p e s ac s₁ step' := by
  have howner' := (running_eq_some.mp hrunning).1
  refine ⟨⟨q, contention, ?_, hown⟩, fun ac' hne => ?_, howner.trans howner'⟩
  · rw [stepOf_of_running hrunning]
    exact h
  · rw [stepOf_of_ne howner' hne]
    exact .adjusts (hothers ac' hne)

open Adjusts

theorem completed_setQueue
    (hrunning : s.running = some (ac, step)) (h : Completes p ac e (s.queue ac) (some step) q step') :
    Completed p e s ac (s.setQueue ac q) step' := by
  refine completed_of_running hrunning h (setQueue_self s ac q) (fun ac' hne => ?_) rfl
  rw [setQueue_of_ne _ _ hne]
  exact refl _ _

theorem evolved_of_adjusts (howned : s.Owned) (howner : s'.channelOwner = s.channelOwner)
    (hstep : s'.step = s.step) (hqueues : ∀ ac, (s.queue ac).Adjusts ac (s'.queue ac)) :
    Evolved p e s s' := by
  refine ⟨?_, fun ac => ?_⟩
  · unfold Owned
    rw [howner, hstep]
    exact howned
  · have heq : s'.stepOf ac = s.stepOf ac := by
      unfold stepOf
      rw [howner, hstep]
    rw [heq]
    exact .adjusts (hqueues ac)

open Yields

theorem processUpperFrame_yields {fragments : Fragments} :
    Yields (s.processUpperFrame fragments) fun s' =>
      s'.channelOwner = s.channelOwner ∧ s'.step = s.step ∧ ∀ ac, ∃ requests contention,
        (∀ request ∈ requests, request = fragments ∧ classifyFrame fragments.first = .ok ac) ∧ s'.queue ac = EdcaQueue.contend
          { s.queue ac with
            frames.pendingQueue := (s.queue ac).frames.pendingQueue ++ requests } contention := by
  unfold processUpperFrame
  refine bind (P := fun ac => classifyFrame fragments.first = .ok ac) (fun _ h => h)
    fun ac' hclassify => .pure ?_
  have hinsert : ∀ ac, ∃ requests contention,
      (∀ request ∈ requests, request = fragments ∧ classifyFrame fragments.first = .ok ac) ∧
      (s.setQueue ac' ((s.queue ac').insert fragments)).queue ac = EdcaQueue.contend
        { s.queue ac with
          frames.pendingQueue := (s.queue ac).frames.pendingQueue ++ requests } contention := by
    intro ac
    by_cases hac : ac = ac'
    · subst hac
      refine ⟨[fragments], (s.queue ac).dataRecovery.cwCalculator.isContentionInProgress, ?_, ?_⟩
      · exact fun request h => ⟨List.mem_singleton.mp h, hclassify⟩
      · rw [setQueue_self]
        rfl
    · refine ⟨[], (s.queue ac).dataRecovery.cwCalculator.isContentionInProgress, nofun, ?_⟩
      rw [setQueue_of_ne _ _ hac, List.append_nil]
      rfl
  split
  · refine ⟨rfl, rfl, fun ac => ?_⟩
    obtain ⟨requests, contention, hrequests, hq⟩ := hinsert ac
    by_cases hac : ac = ac'
    · subst hac
      refine ⟨requests, true, hrequests, ?_⟩
      unfold requestChannel
      rw [setQueue_self, hq]
      rfl
    · refine ⟨requests, contention, hrequests, ?_⟩
      unfold requestChannel
      rw [setQueue_of_ne _ _ hac, hq]
  · exact ⟨rfl, rfl, hinsert⟩

theorem adjusts_insert {requests : List Fragments} (contention : Bool)
    (h : ∀ request ∈ requests, Belongs request ac) :
    q.Adjusts ac (EdcaQueue.contend
      { q with frames.pendingQueue := q.frames.pendingQueue ++ requests } contention) :=
  .intro _ (fun _ hmem => (List.mem_append.mp hmem).imp_right (h _)) ⟨.inl rfl, rfl, rfl⟩

theorem belongs_of_management {fragments : Fragments}
    (h : ∀ frame ∈ fragments.frames, frame.isManagement)
    (hclassify : classifyFrame fragments.first = .ok ac) : Belongs fragments ac := by
  intro frame hframe
  unfold classifyFrame at hclassify ⊢
  rw [if_pos (h fragments.first (.head _))] at hclassify
  rw [if_pos (h frame hframe)]
  exact hclassify

variable {frame : Ieee80211DataOrMgmtFrame}

theorem originatorProcessTransmittedFrame_yields :
    Yields (s.originatorProcessTransmittedFrame ac frame) fun s₁ =>
      ∃ q, (s.queue ac).Transmitted frame q ∧ s₁ = s.setQueue ac q := by
  unfold originatorProcessTransmittedFrame
  split
  · next hmulticast => exact .ok ⟨_, .multicast hmulticast, rfl⟩
  · next hunicast =>
    refine bind (P := fun ackStatuses => QoSAckHandler.processTransmittedDataOrMgmtFrame
      (s.queue ac).frames.ackStatuses frame ((s.queue ac).ackPolicy frame.id) = .ok ackStatuses)
      (fun _ h => h) fun ackStatuses hstatuses => .pure ?_
    exact ⟨_, .unicast hunicast hstatuses, rfl⟩

/-- A data frame has been transmitted, and the request for an agreement put in its queue. -/
theorem completed_of_request {ackExpected remaining : Bool}
    {q : EdcaQueue} {request : Fragments} {s₂ : Hcf}
    (hrunning : s.running = some (ac, .transmitData frame ackExpected))
    (hrequest : ∀ frame ∈ request.frames, frame.isManagement)
    (htransmitted : (s.queue ac).Transmitted frame q) (howner : s₂.channelOwner = s.channelOwner)
    (hqueues : ∀ ac', ∃ requests contention, (∀ r ∈ requests, r = request ∧
      classifyFrame request.first = .ok ac') ∧ s₂.queue ac' = EdcaQueue.contend
        { (s.setQueue ac q).queue ac' with
          frames.pendingQueue := ((s.setQueue ac q).queue ac').frames.pendingQueue ++ requests }
        contention) :
    Completed p (.transmissionComplete (some request) remaining) s ac s₂
      (if ackExpected then some (.receiveAck frame) else none) := by
  obtain ⟨requests, contention, hrequests, hq⟩ := hqueues ac
  rw [setQueue_self] at hq
  refine completed_of_running hrunning (.dataTransmitted htransmitted fun r hr => ?_) hq
    (fun ac' hne => ?_) howner
  · obtain ⟨rfl, hclassify⟩ := hrequests r hr
    exact ⟨rfl, belongs_of_management hrequest hclassify⟩
  · obtain ⟨requests', contention', hrequests', hq'⟩ := hqueues ac'
    rw [setQueue_of_ne _ _ hne] at hq'
    rw [hq']
    refine adjusts_insert contention' fun r hr => ?_
    obtain ⟨rfl, hclassify⟩ := hrequests' r hr
    exact belongs_of_management hrequest hclassify

variable {remaining : Bool}

theorem transmissionComplete_yields {addbaRequest : Option Fragments}
    (htransmit : step.isTransmit) (hrunning : s.running = some (ac, step))
    (hrequest : ∀ request ∈ addbaRequest, ∀ frame ∈ request.frames, frame.isManagement) :
    Yields (s.transmissionComplete p ac step addbaRequest remaining)
      (Evolved p (.transmissionComplete addbaRequest remaining) s) := by
  unfold transmissionComplete
  cases step with
  | transmitMulticast frame =>
    refine originatorProcessTransmittedFrame_yields.bind fun s₁ h => ?_
    obtain ⟨q, htransmitted, rfl⟩ := h
    refine repeatMulticastSequence_yields.mono fun s' hresumes => ?_
    exact (completed_setQueue hrunning (.multicastTransmitted htransmitted)).resumes hresumes
  | transmitRts protectedFrame next =>
    have h : Completed p (.transmissionComplete addbaRequest remaining) s ac s
        (some (.receiveCts protectedFrame next)) :=
      completed_of_running hrunning .rtsTransmitted (contend_self _).symm
        (fun _ _ => refl _ _) rfl
    exact .ok h.setStep
  | transmitData frame ackExpected =>
    refine originatorProcessTransmittedFrame_yields.bind fun s₁ h => ?_
    obtain ⟨q, htransmitted, rfl⟩ := h
    have hnext : ∀ s₂, Completed p (.transmissionComplete addbaRequest remaining) s ac s₂
          (if ackExpected then some (.receiveAck frame) else none) →
        Yields (if ackExpected then pure (s₂.setStep (.receiveAck frame))
            else repeatSequence p s₂ ac remaining)
          (Evolved p (.transmissionComplete addbaRequest remaining) s) := by
      intro s₂ h
      split
      · next hack =>
        rw [if_pos hack] at h
        exact .pure h.setStep
      · next hack =>
        rw [if_neg hack] at h
        exact repeatSequence_yields.mono fun s' hresumes => h.resumes hresumes
    cases addbaRequest with
    | none =>
      refine hnext _ (completed_setQueue hrunning ?_)
      have h := @Completes.dataTransmitted p ac none remaining ackExpected _ q frame [] htransmitted nofun
      rw [List.append_nil] at h
      exact h
    | some request =>
      refine bind processUpperFrame_yields fun s₂ h => hnext s₂ ?_
      obtain ⟨howner, -, hqueues⟩ := h
      exact completed_of_request hrunning (hrequest request rfl) htransmitted howner hqueues
  | transmitManagement frame =>
    refine originatorProcessTransmittedFrame_yields.bind fun s₁ h => ?_
    obtain ⟨q, htransmitted, rfl⟩ := h
    exact .pure (completed_setQueue hrunning (.managementTransmitted htransmitted)).setStep
  | transmitBlockAckReq blockAckReq =>
    exact .ok (completed_setQueue hrunning .blockAckReqTransmitted).setStep
  | receiveCts _ _ | receiveAck _ | receiveBlockAck _ => cases htransmit

/-- A management frame moves no window but that of the best effort queue. -/
structure Rewindows (s s' : Hcf) : Prop where
  owner : s'.channelOwner = s.channelOwner
  step : s'.step = s.step
  queues : ∀ ac, ∃ edcaf, (s.queue ac).dataRecovery.cwCalculator.Moves edcaf ∧
    s'.queue ac = { s.queue ac with dataRecovery.cwCalculator := edcaf }
  others : ∀ ac ≠ .AC_BE, s'.queue ac = s.queue ac

theorem rewindows_setQueue {edcaf : Edcaf} (mgmtRecovery : NonQoSRecoveryProcedure)
    (stationRetryCounters : AccessCategory → StationRetryCounters)
    (h : (s.queue .AC_BE).dataRecovery.cwCalculator.Moves edcaf) :
    Rewindows s { s.setQueue .AC_BE { s.queue .AC_BE with dataRecovery.cwCalculator := edcaf } with
        mgmtRecovery := mgmtRecovery
        stationRetryCounters := stationRetryCounters } := by
  refine ⟨rfl, rfl, fun ac => ?_, fun ac hne => setQueue_of_ne _ _ hne⟩
  by_cases hac : ac = .AC_BE
  · subst hac
    refine ⟨edcaf, h, ?_⟩
    unfold setQueue
    dsimp only
    rw [Function.update_self]
  · exact ⟨_, .refl _, setQueue_of_ne _ _ hac⟩

open NonQoSRecoveryProcedure

theorem moves_of_managementFailed (r : NonQoSRecoveryProcedure) (frame : Ieee80211DataOrMgmtFrame)
    (counters : StationRetryCounters) (edcaf : Edcaf) :
    edcaf.Moves (r.dataOrMgmtFrameTransmissionFailed frame counters edcaf).2.2 := by
  unfold dataOrMgmtFrameTransmissionFailed
    incrementStationLrc incrementStationSrc
  dsimp only
  split_ifs <;> first | exact ⟨.inr (.inl rfl), rfl, rfl⟩ | exact ⟨.inr (.inr rfl), rfl, rfl⟩

theorem moves_of_managementAcked (r : NonQoSRecoveryProcedure) (frame : Ieee80211DataOrMgmtFrame)
    (counters : StationRetryCounters) (edcaf : Edcaf) :
    edcaf.Moves (r.ackFrameReceived frame counters edcaf).2.2 := by
  unfold ackFrameReceived
  split <;> exact ⟨.inr (.inl rfl), rfl, rfl⟩

theorem mgmtFrameTransmissionFailed_spec (s : Hcf) (ac : AccessCategory)
    (frame : Ieee80211DataOrMgmtFrame) : ∃ s₁, Rewindows s s₁ ∧
      s.mgmtFrameTransmissionFailed ac frame =
        s₁.setQueue ac ((s₁.queue ac).report (.transmissionFailed frame)) := by
  have hmoves := moves_of_managementFailed s.mgmtRecovery frame (s.stationRetryCounters ac)
    (s.queue .AC_BE).dataRecovery.cwCalculator
  let failed := s.mgmtRecovery.dataOrMgmtFrameTransmissionFailed frame (s.stationRetryCounters ac)
    (s.queue .AC_BE).dataRecovery.cwCalculator
  exact ⟨_, rewindows_setQueue failed.1 (Function.update s.stationRetryCounters ac failed.2.1) hmoves,
    rfl⟩

theorem ackMgmtFrame_rewindows (s : Hcf) (ac : AccessCategory) (frame : Ieee80211DataOrMgmtFrame) :
    Rewindows s (s.ackMgmtFrame ac frame) :=
  rewindows_setQueue _ _ (moves_of_managementAcked s.mgmtRecovery frame (s.stationRetryCounters ac)
    (s.queue .AC_BE).dataRecovery.cwCalculator)

theorem processFailedStatus_yields {frame : Ieee80211DataOrMgmtFrame} :
    Yields (processFailedStatus q frame) fun q' => q' = q.withFailedStatus frame := by
  unfold processFailedStatus QoSAckHandler.processFailedFrame
  refine bind (P := fun ackStatuses => ackStatuses = Function.update q.frames.ackStatuses
    (QoSAckHandler.key frame) .NORMAL_ACK_NOT_ARRIVED) ?_ fun _ h => .pure (by rw [h]; rfl)
  exact bind (P := fun _ => True) (fun _ _ => trivial) fun _ _ => .pure rfl

/-- The owner's queue is changed, and all windows may have moved before. -/
theorem completed_of_rewindows (hrunning : s.running = some (ac, step)) (hwindows : Rewindows s s₁)
    (howner : s'.channelOwner = s₁.channelOwner) (hqueue : s'.queue = Function.update s₁.queue ac q)
    (h : Completes p ac e (s.queue ac) (some step) q step') : Completed p e s ac s' step' := by
  have hown : s'.queue ac = q := by rw [hqueue, Function.update_self]
  refine completed_of_running hrunning h (hown.trans (contend_self q).symm) (fun ac' hne => ?_)
    (howner.trans hwindows.owner)
  obtain ⟨edcaf, hmoves, hq⟩ := hwindows.queues ac'
  rw [hqueue, Function.update_of_ne hne, hq]
  exact .intro _ (fun _ => .inl) hmoves

theorem originatorProcessReceivedAck_yields (hrunning : s.running = some (ac, .receiveAck frame)) :
    Yields (s.originatorProcessReceivedAck p ac frame) fun s₁ =>
      Completed p (.lowerFrame .ack remaining) s ac s₁ none := by
  unfold originatorProcessReceivedAck
  dsimp only
  split
  · next hmanagement =>
    split
    · exact .error _
    · have hwindows := ackMgmtFrame_rewindows s ac frame
      obtain ⟨edcaf, hmoves, hq⟩ := hwindows.queues ac
      refine bind (P := fun ackStatuses => QoSAckHandler.processReceivedAck
        ((s.ackMgmtFrame ac frame).queue ac).frames.ackStatuses frame = .ok ackStatuses)
        (fun _ h => h) fun ackStatuses hstatuses => .pure ?_
      rw [hq] at hstatuses ⊢
      exact completed_of_rewindows hrunning hwindows rfl rfl
        (.managementAckReceived hmanagement hmoves hstatuses)
  · next hdata =>
    refine bind (P := fun q => ackDataFrame p (s.queue ac) frame = .ok q) (fun _ h => h)
      fun q hcounters => ?_
    refine bind (P := fun s₁ => s₁ = s.setQueue ac q) (.pure rfl) fun s₁ h => ?_
    subst h
    rw [setQueue_self]
    refine bind (P := fun ackStatuses => QoSAckHandler.processReceivedAck
      q.frames.ackStatuses frame = .ok ackStatuses) (fun _ h => h) fun ackStatuses hstatuses => .pure ?_
    rw [setQueue_setQueue]
    exact completed_setQueue hrunning (.dataAckReceived hdata hcounters hstatuses)

theorem originatorProcessRtsProtectionFailed_yields {protectedFrame : Ieee80211DataOrMgmtFrame}
    {next : TxOpSequence} (hrunning : s.running = some (ac, .receiveCts protectedFrame next)) :
    Yields (s.originatorProcessRtsProtectionFailed ac protectedFrame) fun s₁ =>
      Completed p e s ac s₁ none := by
  unfold originatorProcessRtsProtectionFailed
  split
  · exact .error _
  · next hdata =>
    refine bind (P := fun retryLimitReached =>
      ((s.queue ac).dataRecovery.rtsFrameTransmissionFailed protectedFrame).isRtsFrameRetryLimitReached
        protectedFrame = .ok retryLimitReached) (fun _ h => h) fun retryLimitReached hlimit => .pure ?_
    exact completed_setQueue hrunning (.rtsFailed hdata hlimit)

theorem discardMgmtFrame_queue (s : Hcf) (ac : AccessCategory) (frame : Ieee80211DataOrMgmtFrame) :
    (s.discardMgmtFrame ac frame).queue =
      Function.update s.queue ac ((s.queue ac).discardManagement frame) := rfl

theorem originatorProcessFailedFrame_yields {failedFrame : Ieee80211DataOrMgmtFrame}
    (hrunning : s.running = some (ac, .receiveAck failedFrame)) :
    Yields (s.originatorProcessFailedFrame p ac failedFrame) fun s₁ =>
      Completed p e s ac s₁ none := by
  unfold originatorProcessFailedFrame
  split
  · next hmanagement =>
    obtain ⟨s₁, hwindows, hfailed⟩ := mgmtFrameTransmissionFailed_spec s ac failedFrame
    obtain ⟨edcaf, hmoves, hq⟩ := hwindows.queues ac
    dsimp only
    rw [hfailed, setQueue_self]
    refine processFailedStatus_yields.bind fun q h => ?_
    subst h
    split
    · refine .pure (completed_of_rewindows hrunning hwindows rfl ?_
        (.managementFailed true hmanagement hmoves))
      rw [discardMgmtFrame_queue, setQueue_self, setQueue_setQueue, hq]
      exact Function.update_idem _ _ _
    · refine .pure (completed_of_rewindows hrunning hwindows rfl ?_
        (.managementFailed false hmanagement hmoves))
      rw [setQueue_setQueue, hq]
      rfl
  · next hdata =>
    split
    · refine bind (P := fun retryLimitReached =>
        ((s.queue ac).dataRecovery.dataFrameTransmissionFailed failedFrame).isRetryLimitReached
          failedFrame = .ok retryLimitReached) (fun _ h => h) fun retryLimitReached hlimit => ?_
      refine bind (P := fun _ => True) (fun _ _ => trivial) fun _ _ => ?_
      refine processFailedStatus_yields.bind fun q h => .pure ?_
      subst h
      exact completed_setQueue hrunning (.dataFailed hdata hlimit)
    · next hpolicy =>
      refine processFailedStatus_yields.bind fun q h => .pure ?_
      subst h
      exact completed_setQueue hrunning (.blockAckDataFailed hdata hpolicy)
    · exact .error _

theorem abortFrameSequence_yields (he : e.isReception)
    (hlost : ∀ transmitterAddress blockAck remaining,
      e = .lowerFrame (.blockAck transmitterAddress blockAck) remaining →
        ∀ blockAckReq, step ≠ .receiveBlockAck blockAckReq)
    (hreceive : step.isTransmit = false) (hrunning : s.running = some (ac, step)) :
    Yields (s.abortFrameSequence p ac step) (Evolved p e s) := by
  have hfinish : ∀ s₁, Completed p e s ac s₁ none → Yields (pure (s₁.frameSequenceFinished ac))
      (Evolved p e s) := fun s₁ h => .pure (h.resumes (frameSequenceFinished_resumes s₁ ac))
  unfold abortFrameSequence
  cases step with
  | receiveCts protectedFrame next =>
    exact (originatorProcessRtsProtectionFailed_yields hrunning).bind hfinish
  | receiveAck frame => exact (originatorProcessFailedFrame_yields hrunning).bind hfinish
  | receiveBlockAck blockAckReq =>
    refine hfinish s (completed_of_running hrunning (.blockAckLost he ?_) (contend_self _).symm
      (fun _ _ => refl _ _) rfl)
    exact fun transmitterAddress blockAck remaining heq => hlost _ _ _ heq _ rfl
  | transmitMulticast _ | transmitRts _ _ | transmitData _ _ | transmitManagement _
  | transmitBlockAckReq _ => cases hreceive

theorem processResponse_yields {frame : ReceivedFrame} (hrunning : s.running = some (ac, step))
    (hsuits : ∀ f next, step = .receiveCts f next → frame = .cts → Suits p s ac next) :
    Yields (s.processResponse p ac step frame remaining) (Evolved p (.lowerFrame frame remaining) s) := by
  unfold processResponse
  split
  · next protectedFrame next =>
    have hcompleted : Completed p (.lowerFrame .cts remaining) s ac (s.originatorProcessReceivedCts ac)
        none := completed_setQueue hrunning .ctsReceived
    refine (startElement_yields ?_).mono fun s' hresumes => hcompleted.resumes hresumes
    intro hne f hf
    unfold originatorProcessReceivedCts at hf
    rw [setQueue_self] at hf
    exact hsuits protectedFrame next rfl rfl hne f hf
  · refine bind (@originatorProcessReceivedAck_yields _ _ _ _ remaining hrunning) fun s₁ h => ?_
    exact repeatSequence_yields.mono fun s' hresumes => h.resumes hresumes
  · next blockAckReq transmitterAddress blockAck =>
    have hcompleted : Completed p (.lowerFrame (.blockAck transmitterAddress blockAck) remaining) s ac
        (s.originatorProcessReceivedBlockAck ac transmitterAddress blockAck) none :=
      completed_setQueue hrunning .blockAckReceived
    exact repeatSequence_yields.mono fun s' hresumes => hcompleted.resumes hresumes
  · next step frame hcts hack hblockAck =>
    split
    · exact .error _
    · next hreceive =>
      refine abortFrameSequence_yields rfl ?_ (by simpa using hreceive) hrunning
      rintro transmitterAddress blockAck remaining' heq blockAckReq rfl
      obtain ⟨rfl, -⟩ := Event.lowerFrame.inj heq
      exact hblockAck blockAckReq transmitterAddress blockAck rfl rfl

theorem handleStartRxTimeout_yields (he : e = .startRxTimeout ∨ e = .corruptedFrameReceived)
    (hrunning : s.running = some (ac, step)) :
    Yields (s.handleStartRxTimeout p ac step) (Evolved p e s) := by
  unfold handleStartRxTimeout
  split
  · exact .error _
  · next hreceive =>
    refine abortFrameSequence_yields ?_ ?_ (by simpa using hreceive) hrunning
    · rcases he with rfl | rfl <;> rfl
    · rcases he with rfl | rfl <;> nofun

/-- One queue has changed, nothing else. -/
structure OnlyQueue (ac : AccessCategory) (s s' : Hcf) : Prop where
  owner : s'.channelOwner = s.channelOwner
  step : s'.step = s.step
  others : ∀ ac' ≠ ac, s'.queue ac' = s.queue ac'

theorem onlyQueue_setQueue (s : Hcf) (ac : AccessCategory) (q : EdcaQueue) :
    OnlyQueue ac s (s.setQueue ac q) := ⟨rfl, rfl, fun _ hne => setQueue_of_ne s q hne⟩

theorem OnlyQueue.trans {s₂ : Hcf} (h : OnlyQueue ac s s₁) (h' : OnlyQueue ac s₁ s₂) :
    OnlyQueue ac s s₂ :=
  ⟨h'.owner.trans h.owner, h'.step.trans h.step,
    fun ac' hne => (h'.others ac' hne).trans (h.others ac' hne)⟩

theorem onlyQueue_discardMgmtFrame (s : Hcf) (ac : AccessCategory) (frame : Ieee80211DataOrMgmtFrame) :
    OnlyQueue ac s (s.discardMgmtFrame ac frame) := by
  refine ⟨rfl, rfl, fun ac' hne => ?_⟩
  rw [discardMgmtFrame_queue, Function.update_of_ne hne]

theorem handleInternalCollision_yields {owner : AccessCategory} :
    Yields (s.handleInternalCollision owner ac) fun s' =>
      (s.queue ac).Collides (s'.queue ac) ∧ OnlyQueue ac s s' := by
  unfold handleInternalCollision
  refine getFrameToTransmit_bind fun frame heligible => ?_
  have hext := Extends.ensured (s.queue ac).frames
  have honly : OnlyQueue ac s
      (s.setQueue ac { s.queue ac with frames := (s.queue ac).frames.ensured }) :=
    onlyQueue_setQueue _ _ _
  -- the channel may be requested again
  have hend : ∀ {s₁ : Hcf}, OnlyQueue ac s s₁ →
      (∀ contention, (s.queue ac).Collides ((s₁.queue ac).contend contention)) →
      ((s.queue ac).Collides (s₁.queue ac) ∧ OnlyQueue ac s s₁) ∧
        (s.queue ac).Collides ((s₁.requestChannel ac).queue ac) ∧ OnlyQueue ac s (s₁.requestChannel ac) := by
    intro s₁ honly₁ hcollides
    refine ⟨⟨?_, honly₁⟩, ?_, honly₁.trans (onlyQueue_setQueue _ _ _)⟩
    · exact hcollides (s₁.queue ac).dataRecovery.cwCalculator.isContentionInProgress
    · unfold requestChannel
      rw [setQueue_self]
      exact hcollides true
  cases frame with
  | none => exact .error _
  | some frame =>
    dsimp only
    split
    · next hmanagement =>
      refine bind (P := fun _ => ac = .AC_BE) (fun _ h => assert_eq_ok.mp h) fun _ hac => ?_
      obtain ⟨s₁, hwindows, hfailed⟩ := mgmtFrameTransmissionFailed_spec
        (s.setQueue ac { s.queue ac with frames := (s.queue ac).frames.ensured }) ac frame
      obtain ⟨edcaf, hmoves, hq⟩ := hwindows.queues ac
      rw [setQueue_self] at hmoves hq
      have honly₁ : OnlyQueue ac s s₁ := by
        refine honly.trans ⟨hwindows.owner, hwindows.step, fun ac' hne => hwindows.others ac' ?_⟩
        rw [← hac]
        exact hne
      have honly₂ := honly₁.trans (onlyQueue_setQueue s₁ ac ((s₁.queue ac).report (.transmissionFailed frame)))
      rw [hfailed]
      split
      · have h := hend (honly₂.trans (onlyQueue_discardMgmtFrame _ _ frame)) fun contention => by
          rw [discardMgmtFrame_queue, Function.update_self, setQueue_self, hq]
          exact .management true contention hext heligible hmanagement hmoves
        split
        · exact .pure h.2
        · exact .pure h.1
      · refine .pure (hend honly₂ fun contention => ?_).2
        rw [setQueue_self, hq]
        exact .management false contention hext heligible hmanagement hmoves
    · next hdata =>
      rw [setQueue_self]
      refine bind (P := fun retryLimitReached =>
        ((s.queue ac).dataRecovery.dataFrameTransmissionFailed frame).isRetryLimitReached frame =
          .ok retryLimitReached) (fun _ h => h) fun retryLimitReached hlimit => ?_
      rw [setQueue_setQueue, setQueue_setQueue]
      have h := fun {q : EdcaQueue} => @hend (s.setQueue ac q) (onlyQueue_setQueue _ _ _)
      simp only [setQueue_self] at h
      cases retryLimitReached with
      | true =>
        have h := h fun contention => .data contention hext heligible hdata hlimit
        rw [if_pos rfl]
        split
        · exact .pure h.2
        · refine .pure ?_
          rw [setQueue_self]
          exact h.1
      | false =>
        exact .pure (h fun contention => .data contention hext heligible hdata hlimit).2

theorem foldlM_handleInternalCollision_yields {owner : AccessCategory} {l : List AccessCategory} :
    l.Nodup → ∀ s : Hcf, Yields (l.foldlM (fun s collided => s.handleInternalCollision owner collided) s)
      fun s' => s'.channelOwner = s.channelOwner ∧ s'.step = s.step ∧
        (∀ ac ∈ l, (s.queue ac).Collides (s'.queue ac)) ∧ ∀ ac ∉ l, s'.queue ac = s.queue ac := by
  induction l with
  | nil => exact fun _ s => .pure ⟨rfl, rfl, nofun, fun _ _ => rfl⟩
  | cons ac l ih =>
    intro hnodup s
    obtain ⟨hnotMem, hnodup⟩ := List.nodup_cons.mp hnodup
    rw [List.foldlM_cons]
    refine handleInternalCollision_yields.bind fun s₁ h => (ih hnodup s₁).mono fun s' h' => ?_
    obtain ⟨hcollides, howner, hstep, hothers⟩ := h
    obtain ⟨howner', hstep', hcollided, hkept⟩ := h'
    refine ⟨howner'.trans howner, hstep'.trans hstep, fun ac' hac' => ?_, fun ac' hac' => ?_⟩
    · rcases List.mem_cons.mp hac' with rfl | hac'
      · rw [hkept ac' hnotMem]
        exact hcollides
      · rw [← hothers ac' fun heq => hnotMem (heq ▸ hac')]
        exact hcollided ac' hac'
    · rw [List.mem_cons, not_or] at hac'
      obtain ⟨hne, hac'⟩ := hac'
      rw [hkept ac' hac', hothers ac' hne]

theorem foldl_endContention_queue (l : List AccessCategory) : ∀ s : Hcf, ∀ ac,
    (l.foldl endContention s).queue ac = if ac ∈ l then (s.queue ac).contend false else s.queue ac := by
  induction l with
  | nil => exact fun _ _ => rfl
  | cons ac' l ih =>
    intro s ac
    rw [List.foldl_cons, ih]
    by_cases hac : ac = ac'
    · subst hac
      simp [endContention, contend]
    · simp [endContention, setQueue_of_ne _ _ hac, hac]

theorem foldl_endContention_channelOwner (l : List AccessCategory) : ∀ s : Hcf,
    (l.foldl endContention s).step = s.step := by
  induction l with
  | nil => exact fun _ => rfl
  | cons ac l ih =>
    intro s
    rw [List.foldl_cons, ih]
    rfl

theorem channelGranted_yields {internallyCollided : List AccessCategory} (howned : s.Owned)
    (hnodup : internallyCollided.Nodup) (hac : ac ∉ internallyCollided) :
    Yields (s.channelGranted p ac internallyCollided)
      (Evolved p (.channelGranted ac internallyCollided) s) := by
  unfold channelGranted
  refine (foldlM_handleInternalCollision_yields hnodup _).bind fun s₁ h => ?_
  obtain ⟨howner, hstep, hcollided, hkept⟩ := h
  refine startFrameSequence_yields.mono fun s' h' => ?_
  obtain ⟨hidle, hresumes⟩ := h'
  have hidle' : s.step = none := by
    rw [← foldl_endContention_channelOwner (ac :: internallyCollided) s, ← hidle, hstep]
  have hstepOf : ∀ ac', s.stepOf ac' = none := by
    intro ac'
    unfold stepOf
    rw [howned.mpr hidle', if_neg nofun]
  have hcompleted : Completed p (.channelGranted ac internallyCollided) s ac s₁ none := by
    refine ⟨⟨s.queue ac, false, ?_, ?_⟩, fun ac' hne => ?_, howner⟩
    · rw [hstepOf ac]
      exact .granted
    · rw [hkept ac hac, foldl_endContention_queue]
      simp [contend]
    · rw [hstepOf ac']
      by_cases hmem : ac' ∈ internallyCollided
      · have h := hcollided ac' hmem
        rw [foldl_endContention_queue, if_pos (.tail _ hmem)] at h
        exact .stays (s₁.queue ac').dataRecovery.cwCalculator.isContentionInProgress (.collided h)
      · rw [hkept ac' hmem, foldl_endContention_queue, if_neg (by simp [hne, hmem])]
        exact .adjusts (refl _ _)
  exact hcompleted.resumes hresumes

theorem handleEvent_yields (howned : s.Owned) (henabled : Enabled s e)
    (hsuits : ∀ ac f next remaining, s.running = some (ac, .receiveCts f next) →
      e = .lowerFrame .cts remaining → Suits p s ac next) :
    Yields (s.handleEvent p e) (Evolved p e s) := by
  unfold handleEvent
  cases e with
  | upperFrame fragments =>
    refine processUpperFrame_yields.mono fun s' h => ?_
    obtain ⟨howner, hstep, hqueues⟩ := h
    refine evolved_of_adjusts howned howner hstep fun ac => ?_
    obtain ⟨requests, contention, hrequests, hq⟩ := hqueues ac
    rw [hq]
    refine adjusts_insert contention fun request hrequest => ?_
    obtain ⟨rfl, hclassify⟩ := hrequests request hrequest
    exact fun frame hframe => (henabled frame hframe).trans hclassify
  | pendingQueueChanged ac pendingQueue =>
    refine .ok (evolved_of_adjusts howned rfl rfl fun ac' => ?_)
    by_cases hac : ac' = ac
    · subst hac
      rw [setQueue_self]
      exact .intro _ (fun fragments hmem => .inr (henabled.2 fragments hmem)) (.refl _)
    · rw [setQueue_of_ne _ _ hac]
      exact refl _ _
  | agreementsChanged agreements =>
    exact .ok (evolved_of_adjusts howned rfl rfl fun _ => refl _ _)
  | channelGranted ac internallyCollided =>
    obtain ⟨-, hnodup, hcollided⟩ := henabled
    exact channelGranted_yields howned hnodup fun hac => lt_irrefl _ (hcollided ac hac).1
  | transmissionComplete addbaRequest remaining =>
    dsimp only
    split
    · next ac step hrunning =>
      obtain ⟨⟨step', hstep', htransmit⟩, hrequest⟩ := henabled
      have hstep := (running_eq_some.mp hrunning).2
      obtain rfl := Option.some.inj (hstep.symm.trans hstep')
      exact transmissionComplete_yields htransmit hrunning hrequest
    · exact .ok (evolved_of_adjusts howned rfl rfl fun _ => refl _ _)
  | lowerFrame frame remaining =>
    dsimp only
    split
    · next ac step hrunning =>
      refine processResponse_yields hrunning ?_
      rintro f next rfl rfl
      exact hsuits ac f next remaining hrunning rfl
    · unfold recipientProcessReceivedFrame
      split
      · exact .ok (evolved_of_adjusts howned rfl rfl fun _ => refl _ _)
      · exact .ok (evolved_of_adjusts howned rfl rfl fun _ => refl _ _)
      · exact .error _
      · exact .error _
  | startRxTimeout =>
    dsimp only
    split
    · next ac step hrunning => exact handleStartRxTimeout_yields (.inl rfl) hrunning
    · exact .ok (evolved_of_adjusts howned rfl rfl fun _ => refl _ _)
  | corruptedFrameReceived =>
    dsimp only
    split
    · next ac step hrunning => exact handleStartRxTimeout_yields (.inr rfl) hrunning
    · exact .ok (evolved_of_adjusts howned rfl rfl fun _ => refl _ _)

end Hcf

end inet.ieee80211
