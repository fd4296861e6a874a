import LoRaInet.LinkLayer.Ieee80211.Mac.CoordinationFunction.Hcf.Acknowledgement

open omnetpp transition

namespace inet.ieee80211

open InProgressFrames QoSAckHandler EdcaQueue

theorem QoSAckHandler.qos_of_key_eq {f g : Ieee80211DataOrMgmtFrame} (hkey : key g = key f)
    (htype : g.type = .ST_DATA_WITH_QOS) : f.type = .ST_DATA_WITH_QOS := by
  by_contra hother
  unfold key at hkey
  rw [if_pos htype, if_neg hother] at hkey
  cases hkey

/-- Outside of a sequence each frame waits for its transmission or for a request. -/
theorem Tracked.eligible_or_outstanding {frames : InProgressFrames} {ackPolicy : ℕ → AckPolicy}
    {log : List Report} {f : Ieee80211DataOrMgmtFrame} (h : Tracked frames ackPolicy log none)
    (hf : f ∈ frames.inProgressFrames) :
    isEligibleToTransmit frames.ackStatuses f ∨ isOutstandingFrame frames.ackStatuses f := by
  obtain ⟨hack, hblockAck, hnoAck⟩ := h.live f hf
  obtain ⟨hnormal, hblock⟩ := h.idle (key f)
  cases hstatus : frames.ackStatuses (key f) with
  | FRAME_NOT_YET_TRANSMITTED | NORMAL_ACK_NOT_ARRIVED | BLOCK_ACK_ARRIVED_UNACKED =>
    exact .inl (by simp [isEligibleToTransmit, hstatus])
  | BLOCK_ACK_NOT_YET_REQUESTED =>
    obtain ⟨g, -, hkey, htype⟩ := h.outstanding (key f) hstatus
    exact .inr (by simp [isOutstandingFrame, qos_of_key_eq hkey htype, hstatus])
  | NO_ACK_REQUIRED => exact absurd hstatus hnoAck
  | WAITING_FOR_NORMAL_ACK => exact absurd hstatus hnormal
  | WAITING_FOR_BLOCK_ACK => exact absurd hstatus hblock
  | NORMAL_ACK_ARRIVED => exact absurd hstatus hack
  | BLOCK_ACK_ARRIVED_ACKED => exact absurd hstatus hblockAck

namespace Hcf

variable {p : HcfParameters} {e : Event} {s s' : Hcf}

/-- The acknowledgement policy of a frame is still the one that its sequence was chosen for. -/
def KeepsPolicy (p : HcfParameters) (s : Hcf) (e : Event) : SequenceStep → Bool
  | .receiveCts f next =>
    match e with
    | .lowerFrame .cts _ =>
      (next = .dataAck → computeAckPolicy p s f = .NORMAL_ACK) ∧
        (next = .dataBlockAck → computeAckPolicy p s f = .BLOCK_ACK)
    | _ => true
  | _ => true

/-- The event does not lose track of a frame of the sequence that is running. -/
def KeepsTrackOfFrames (p : HcfParameters) (s : Hcf) (e : Event) : Bool :=
  match s.running with
  | none => true
  | some (ac, step) => KeepsTrack (s.queue ac) e step && KeepsPolicy p s e step

/-- Every queue keeps track of its frames. -/
structure AllTracked (s : Hcf) : Prop where
  owned : s.Owned
  tracked : ∀ ac, Tracked (s.queue ac).frames (s.queue ac).ackPolicy (s.queue ac).log (s.stepOf ac)

variable {ac : AccessCategory}

theorem running_of_stepOf {step : SequenceStep} (h : s.stepOf ac = some step) :
    s.running = some (ac, step) := by
  unfold stepOf at h
  split at h
  · next howner => exact running_eq_some.mpr ⟨howner, h⟩
  · cases h

theorem keepsTrack_of_stepOf (hkeeps : s.KeepsTrackOfFrames p e) :
    ∀ st ∈ s.stepOf ac, KeepsTrack (s.queue ac) e st := by
  intro st hst
  unfold KeepsTrackOfFrames at hkeeps
  rw [running_of_stepOf hst] at hkeeps
  exact (Bool.and_eq_true _ _ ▸ hkeeps).1

theorem suits_of_eligible {f : Ieee80211DataOrMgmtFrame} {next : TxOpSequence}
    (heligible : (s.queue ac).frames.eligibleFrame = some f) (hunicast : ¬f.receiverAddress.isMulticast)
    (hpolicy : decide ((next = .dataAck → computeAckPolicy p s f = .NORMAL_ACK) ∧
      (next = .dataBlockAck → computeAckPolicy p s f = .BLOCK_ACK)) = true) : Suits p s ac next := by
  intro _ g hg
  rw [ensured_eq_self heligible] at hg
  obtain rfl := Option.some.inj (heligible.symm.trans hg)
  exact ⟨hunicast, of_decide_eq_true hpolicy⟩

theorem suits_of_keepsTrack (h : s.AllTracked) (hkeeps : s.KeepsTrackOfFrames p e) (ac : AccessCategory)
    (f : Ieee80211DataOrMgmtFrame) (next : TxOpSequence) (remaining : Bool)
    (hrunning : s.running = some (ac, .receiveCts f next)) (he : e = .lowerFrame .cts remaining) :
    Suits p s ac next := by
  subst he
  obtain ⟨heligible, hunicast, -⟩ := (h.tracked ac).suits _ (stepOf_of_running hrunning)
  unfold KeepsTrackOfFrames at hkeeps
  rw [hrunning] at hkeeps
  exact suits_of_eligible heligible hunicast (Bool.and_eq_true _ _ ▸ hkeeps).2

theorem AllTracked.evolved (h : s.AllTracked) (hkeeps : s.KeepsTrackOfFrames p e)
    (henabled : Enabled s e) (hhandle : s.handleEvent p e = .ok s') : Evolved p e s s' :=
  handleEvent_yields h.owned henabled (suits_of_keepsTrack h hkeeps) s' hhandle

theorem AllTracked.handleEvent (h : s.AllTracked) (hkeeps : s.KeepsTrackOfFrames p e)
    (henabled : Enabled s e) (hhandle : s.handleEvent p e = .ok s') : s'.AllTracked := by
  obtain ⟨howned, hevolves⟩ := h.evolved hkeeps henabled hhandle
  exact ⟨howned, fun ac => (h.tracked ac).evolves (keepsTrack_of_stepOf hkeeps) (hevolves ac)⟩

theorem Initial.allTracked (h : s.Initial) : s.AllTracked := by
  refine ⟨by simp [Owned, h.channelOwner, h.step], fun ac => ?_⟩
  unfold stepOf
  rw [h.step, ite_self]
  exact Tracked.initial (h.queue ac)

theorem run_allTracked {history : List (Event × Hcf × Unit)}
    (hrun : Run Initial (StepOf (traced (handle p))) history s)
    (hkeeps : Always (fun _ l => l.2.1.KeepsTrackOfFrames p l.1) history) : s.AllTracked := by
  refine @Run.invariant_of_always _ _ _ _ _ (fun _ s => s.AllTracked) _ _ hrun hkeeps
    (fun s h => h.allTracked) ?_
  rintro history s ⟨e, before, o⟩ s' - h hstep hkeeps
  obtain ⟨rfl, hhandle⟩ := traced_eq_some.mp hstep
  obtain ⟨henabled, hhandle⟩ := handle_eq_some.mp hhandle
  exact h.handleEvent hkeeps henabled hhandle

/-- A request moves the outstanding frames of its receiver and TID in its window, and no other
frame. -/
theorem blockAckReq_moves {blockAckReq : BuiltBlockAckReq} {statuses : AckStatuses}
    {f : Ieee80211DataOrMgmtFrame} (hcovers : isOutstandingFrame statuses f →
      f.tid = blockAckReq.tidInfo → blockAckReq.Covers f) :
    processTransmittedBlockAckReq statuses blockAckReq (key f) =
      if isOutstandingFrame statuses f ∧ f.receiverAddress = blockAckReq.receiverAddress ∧
          f.tid = blockAckReq.tidInfo ∧
          ((f.sequenceNumber - blockAckReq.startingSequenceNumber : Fin 4096) : ℕ) < 64 then
        .WAITING_FOR_BLOCK_ACK
      else statuses (key f) := by
  by_cases htype : f.type = .ST_DATA_WITH_QOS
  · have hkey : key f = .qosData f.receiverAddress f.tid f.sequenceNumber f.fragmentNumber := if_pos htype
    have houtstanding : isOutstandingFrame statuses f ↔
        statuses (key f) = .BLOCK_ACK_NOT_YET_REQUESTED := by
      simp [isOutstandingFrame, htype]
    simp only [houtstanding, hkey] at hcovers ⊢
    unfold processTransmittedBlockAckReq
    refine if_congr ?_ rfl rfl
    constructor
    · rintro ⟨htid, hstatus, hle⟩
      obtain ⟨hiff, -⟩ := of_decide_eq_true (hcovers hstatus htid.symm)
      obtain ⟨hreceiver, hwindow⟩ := hiff.mp hle
      exact ⟨hstatus, hreceiver, htid.symm, hwindow⟩
    · rintro ⟨hstatus, hreceiver, htid, hwindow⟩
      obtain ⟨hiff, -⟩ := of_decide_eq_true (hcovers hstatus htid)
      exact ⟨htid.symm, hstatus, hiff.mpr ⟨hreceiver, hwindow⟩⟩
  · rw [if_neg (by simp [isOutstandingFrame, htype])]
    unfold key
    rw [if_neg htype]
    rfl

theorem handleEvent_transmittedBlockAckReq {blockAckReq : BuiltBlockAckReq}
    {addbaRequest : Option Fragments} {remaining : Bool}
    (hstep : s.stepOf ac = some (.transmitBlockAckReq blockAckReq))
    (hhandle : s.handleEvent p (.transmissionComplete addbaRequest remaining) = .ok s') :
    (s'.queue ac).frames.ackStatuses =
      processTransmittedBlockAckReq (s.queue ac).frames.ackStatuses blockAckReq := by
  unfold Hcf.handleEvent at hhandle
  rw [running_of_stepOf hstep] at hhandle
  have heq : (s.originatorProcessTransmittedBlockAckReq ac blockAckReq).setStep
      (.receiveBlockAck blockAckReq) = s' := Except.ok.inj hhandle
  rw [← heq]
  change ((s.originatorProcessTransmittedBlockAckReq ac blockAckReq).queue ac).frames.ackStatuses = _
  unfold originatorProcessTransmittedBlockAckReq
  rw [setQueue_self]

/-- No frame in progress is lost track of, and none is acknowledged by mistake. -/
theorem frames_tracked {history : List (Event × Hcf × Unit)}
    (hrun : Run Initial (StepOf (traced (handle p))) history s)
    (hkeeps : Always (fun _ l => l.2.1.KeepsTrackOfFrames p l.1) history) :
    (∀ ac, s.stepOf ac = none → ∀ f ∈ (s.queue ac).frames.inProgressFrames,
      isEligibleToTransmit (s.queue ac).frames.ackStatuses f ∨
        isOutstandingFrame (s.queue ac).frames.ackStatuses f) ∧
    (∀ ac, (s.queue ac).log.Pairwise fun later earlier =>
      ∀ f, earlier = .acknowledged f → later ≠ .transmitted f) ∧
    ∀ e s', handle p s e = some (s', ()) → s.KeepsTrackOfFrames p e →
      (∀ ac, ∀ f ∈ (s.queue ac).frames.inProgressFrames,
        f ∉ (s'.queue ac).frames.inProgressFrames → Leaves e (s.stepOf ac) (s'.queue ac) f) ∧
      ∀ ac blockAckReq, s.stepOf ac = some (.transmitBlockAckReq blockAckReq) →
        (∃ addbaRequest remaining, e = .transmissionComplete addbaRequest remaining) →
        ∀ f ∈ (s.queue ac).frames.inProgressFrames, (s'.queue ac).frames.ackStatuses (key f) =
          if isOutstandingFrame (s.queue ac).frames.ackStatuses f ∧
              f.receiverAddress = blockAckReq.receiverAddress ∧ f.tid = blockAckReq.tidInfo ∧
              ((f.sequenceNumber - blockAckReq.startingSequenceNumber : Fin 4096) : ℕ) < 64 then
            .WAITING_FOR_BLOCK_ACK
          else (s.queue ac).frames.ackStatuses (key f) := by
  have h := run_allTracked hrun hkeeps
  refine ⟨fun ac hidle f hf => ?_, fun ac => (h.tracked ac).final, fun e s' hhandle hkeeps => ?_⟩
  · have htracked := h.tracked ac
    rw [hidle] at htracked
    exact htracked.eligible_or_outstanding hf
  · obtain ⟨henabled, hhandle⟩ := handle_eq_some.mp hhandle
    have hevolved := h.evolved hkeeps henabled hhandle
    refine ⟨fun ac f hf hleft => Leaves.of_evolves (h.tracked ac) (hevolved.evolves ac) hf hleft, ?_⟩
    rintro ac blockAckReq hstep ⟨addbaRequest, remaining, rfl⟩ f hf
    rw [handleEvent_transmittedBlockAckReq hstep hhandle]
    refine blockAckReq_moves fun houtstanding htid => ?_
    have hcovers : decide (∀ f ∈ (s.queue ac).frames.getOutstandingFrames,
        f.tid = blockAckReq.tidInfo → blockAckReq.Covers f) = true :=
      keepsTrack_of_stepOf hkeeps _ hstep
    exact of_decide_eq_true hcovers f (List.mem_filter.mpr ⟨hf, houtstanding⟩) htid

def sampleEdcaQueue : EdcaQueue where
  frames := ⟨[], [], fun _ => .FRAME_NOT_YET_TRANSMITTED, 0⟩
  ackPolicy _ := .NORMAL_ACK
  retry _ := false
  dataRecovery := ⟨⟨15, 15, 1023, false⟩, fun _ => none, fun _ => none, 0, 0, 7, 4, 3000⟩
  log := []

def sampleHcf : Hcf where
  queue _ := sampleEdcaQueue
  mgmtRecovery := ⟨fun _ => 0, fun _ => 0, 7, 4, 3000⟩
  stationRetryCounters _ := ⟨0, 0⟩
  agreements _ _ := none
  channelOwner := none
  step := none

theorem sampleEdcaQueue_initial : sampleEdcaQueue.Initial :=
  ⟨rfl, rfl, rfl, rfl, rfl, rfl, rfl, by decide, by decide, by decide, by decide, rfl⟩

theorem sampleHcf_initial : sampleHcf.Initial := ⟨fun _ => sampleEdcaQueue_initial, rfl, rfl⟩

def sampleFrame (sequenceNumber : Fin 4096) : Ieee80211DataOrMgmtFrame :=
  ⟨0, .ST_DATA_WITH_QOS, 1, 0, sequenceNumber, 0, 100, false⟩

/-- A request is needed as soon as one frame is outstanding. -/
def sampleParameters : HcfParameters := ⟨false, ⟨1000, 1⟩⟩

def sampleAgreements (_ : MACAddress) (_ : Tid) : Option OriginatorBlockAckAgreement :=
  some ⟨0, 64, 0, false, true⟩

/-- A frame is transmitted under an agreement, and its acknowledgement requested. -/
def sampleEvents : List Event :=
  [.agreementsChanged sampleAgreements, .upperFrame ⟨sampleFrame 0, []⟩, .channelGranted .AC_BE [],
    .transmissionComplete none true, .upperFrame ⟨sampleFrame 1, []⟩, .channelGranted .AC_BE [],
    .transmissionComplete none true]

def sampleBlockAck : Ieee80211BasicBlockAck := ⟨2, false, 0, 0, List.replicate 64 [true]⟩

/-- The BlockAck frame comes. -/
theorem frames_tracked_of_blockAck : ∃ history s,
    Run Initial (StepOf (traced (handle sampleParameters))) history s ∧ history.length = 8 ∧
      (∀ ac, s.stepOf ac = none → ∀ f ∈ (s.queue ac).frames.inProgressFrames,
        isEligibleToTransmit (s.queue ac).frames.ackStatuses f ∨
          isOutstandingFrame (s.queue ac).frames.ackStatuses f) := by
  obtain ⟨s, history, hrun, hlength, hkeeps⟩ := exists_run_of_initial
    (traced (handle sampleParameters)) sampleHcf_initial
    (sampleEvents ++ [.lowerFrame (.blockAck 1 sampleBlockAck) true])
    (fun _ history => history.length = 8 ∧
      Always (fun _ l => l.2.1.KeepsTrackOfFrames sampleParameters l.1) history) (by decide +kernel)
  exact ⟨history, s, hrun, hlength, (frames_tracked hrun hkeeps).1⟩

/-- The BlockAck frame is lost: no sequence is running, and still it is waited for. -/
theorem frame_waits_for_lost_blockAck : ∃ history s,
    Run Initial (StepOf (traced (handle sampleParameters))) history s ∧ s.step = none ∧
      ∃ f ∈ (s.queue .AC_BE).frames.inProgressFrames,
        (s.queue .AC_BE).frames.ackStatuses (key f) = .WAITING_FOR_BLOCK_ACK := by
  obtain ⟨s, history, hrun, hstep, hwaiting⟩ := exists_run_of_initial
    (traced (handle sampleParameters)) sampleHcf_initial (sampleEvents ++ [.startRxTimeout])
    (fun s _ => s.step = none ∧ ∃ f ∈ (s.queue .AC_BE).frames.inProgressFrames,
      (s.queue .AC_BE).frames.ackStatuses (key f) = .WAITING_FOR_BLOCK_ACK) (by decide +kernel)
  exact ⟨history, s, hrun, hstep, hwaiting⟩

end Hcf

end inet.ieee80211

open omnetpp

namespace inet.ieee80211

open QoSAckHandler EdcaQueue Hcf

namespace QoSRecoveryProcedure

variable (r : QoSRecoveryProcedure) (f : Ieee80211DataOrMgmtFrame)

theorem moves_incrementStationSrc : r.cwCalculator.Moves r.incrementStationSrc.cwCalculator := by
  unfold incrementStationSrc
  dsimp only
  split
  · exact ⟨.inr (.inl rfl), rfl, rfl⟩
  · exact ⟨.inr (.inr rfl), rfl, rfl⟩

theorem moves_incrementStationLrc : r.cwCalculator.Moves r.incrementStationLrc.cwCalculator := by
  unfold incrementStationLrc
  dsimp only
  split
  · exact ⟨.inr (.inl rfl), rfl, rfl⟩
  · exact ⟨.inr (.inr rfl), rfl, rfl⟩

theorem moves_dataFrameTransmissionFailed :
    r.cwCalculator.Moves (r.dataFrameTransmissionFailed f).cwCalculator := by
  unfold dataFrameTransmissionFailed
  split
  · exact r.moves_incrementStationLrc
  · exact r.moves_incrementStationSrc

theorem ackFrameReceived_cwCalculator :
    (r.ackFrameReceived f).cwCalculator = r.cwCalculator.resetCw := by
  unfold ackFrameReceived
  split <;> rfl

theorem retryLimitReached_cwCalculator : (r.retryLimitReached f).cwCalculator = r.cwCalculator := by
  unfold retryLimitReached
  split <;> rfl

end QoSRecoveryProcedure

open QoSRecoveryProcedure

variable {p : HcfParameters} {ac : AccessCategory} {e : Event} {q q' : EdcaQueue}
  {step step' : Option SequenceStep} {f : Ieee80211DataOrMgmtFrame}

theorem EdcaQueue.discard_cwCalculator (q : EdcaQueue) (f : Ieee80211DataOrMgmtFrame) :
    (q.discard f).dataRecovery.cwCalculator = q.dataRecovery.cwCalculator :=
  q.dataRecovery.retryLimitReached_cwCalculator f

theorem EdcaQueue.contend_moves {edcaf : Edcaf} {contention : Bool} :
    edcaf.Moves (q.contend contention).dataRecovery.cwCalculator =
      edcaf.Moves q.dataRecovery.cwCalculator :=
  propext ⟨fun h => ⟨h.cw, h.cwMin, h.cwMax⟩, fun h => ⟨h.cw, h.cwMin, h.cwMax⟩⟩

theorem Completes.moves (h : Completes p ac e q step q' step') :
    q.dataRecovery.cwCalculator.Moves q'.dataRecovery.cwCalculator := by
  cases h with
  | granted | rtsTransmitted | blockAckReqTransmitted | ctsReceived
  | blockAckReceived | blockAckLost he hlost | blockAckDataFailed => exact .refl _
  | collided hcollides =>
    cases hcollides with
    | @data frames frame retryLimitReached contention hext heligible hdata hlimit =>
      have hmoves := (q.contend false).dataRecovery.moves_dataFrameTransmissionFailed frame
      cases retryLimitReached with
      | false => exact ⟨hmoves.cw, hmoves.cwMin, hmoves.cwMax⟩
      | true =>
        have hdiscard := ({ q.contend false with
          frames := frames }.dataFrameTransmissionFailed frame).discard_cwCalculator frame
        rw [if_pos rfl, contend_moves, hdiscard]
        exact ⟨hmoves.cw, hmoves.cwMin, hmoves.cwMax⟩
    | @management frames frame edcaf retryLimitReached contention hext heligible hmgmt hwindow =>
      obtain ⟨hcw, hmin, hmax⟩ := hwindow
      cases retryLimitReached
      · exact ⟨hcw, hmin, hmax⟩
      · exact ⟨hcw, hmin, hmax⟩
  | multicastTransmitted htransmitted => cases htransmitted <;> exact .refl _
  | dataTransmitted htransmitted hrequests | managementTransmitted htransmitted =>
    cases htransmitted <;> exact .refl _
  | dataAckReceived hdata hcounters hstatuses =>
    obtain ⟨-, -, -, hcases⟩ := Tracked.ackDataFrame_eq_ok hcounters
    rcases hcases with ⟨-, rfl⟩ | ⟨-, rfl⟩
    · exact .refl _
    · change q.dataRecovery.cwCalculator.Moves (q.dataRecovery.ackFrameReceived _).cwCalculator
      rw [ackFrameReceived_cwCalculator]
      exact ⟨.inr (.inl rfl), rfl, rfl⟩
  | managementAckReceived hmanagement hwindow hstatuses => exact hwindow
  | @rtsFailed _ _ protectedFrame _ retryLimitReached =>
    have hmoves := q.dataRecovery.moves_incrementStationSrc
    cases retryLimitReached with
    | false => exact hmoves
    | true =>
      rw [if_pos rfl, discard_cwCalculator]
      exact hmoves
  | @dataFailed _ _ failedFrame retryLimitReached =>
    have hmoves := q.dataRecovery.moves_dataFrameTransmissionFailed failedFrame
    cases retryLimitReached with
    | false => exact hmoves
    | true =>
      rw [if_pos rfl, discard_cwCalculator]
      exact hmoves
  | managementFailed retryLimitReached hmanagement hwindow =>
    cases retryLimitReached
    · exact hwindow
    · exact hwindow

/-- A data frame is acknowledged when its window is reset for it, or at its least already. -/
def AcksAtMinimum (p : HcfParameters) (q : EdcaQueue) : Event → SequenceStep → Bool
  | .lowerFrame .ack _, .receiveAck frame =>
    frame.isManagement ∨ p.dataAndMgmtRateControl ∨
      q.dataRecovery.cwCalculator.cw = q.dataRecovery.cwCalculator.cwMin
  | .lowerFrame (.blockAck transmitterAddress blockAck) _, .receiveBlockAck _ =>
    q.dataRecovery.cwCalculator.cw = q.dataRecovery.cwCalculator.cwMin ∨
      ∀ frame ∈ q.frames.inProgressFrames, ¬(frame.type = .ST_DATA_WITH_QOS ∧
        ackedFrames q.frames.ackStatuses transmitterAddress blockAck (key frame))
  | _, _ => true

/-- What is logged, and the window after an acknowledgement of a data frame. -/
def EdcaQueue.Logs (q q' : EdcaQueue) : Prop :=
  ∃ reports, q'.log = reports ++ q.log ∧ ∀ f, ¬f.isManagement → .acknowledged f ∈ reports →
    q'.dataRecovery.cwCalculator.cw = q'.dataRecovery.cwCalculator.cwMin

theorem EdcaQueue.Logs.refl (h : q'.log = q.log) : q.Logs q' :=
  ⟨[], h, fun _ _ hmem => absurd hmem List.not_mem_nil⟩

theorem EdcaQueue.Logs.other (reports : List Report) (hlog : q'.log = reports ++ q.log)
    (h : ∀ r ∈ reports, ∀ f, r ≠ .acknowledged f) : q.Logs q' :=
  ⟨reports, hlog, fun f _ hmem => absurd rfl (h _ hmem f)⟩

theorem EdcaQueue.Transmitted.log (h : q.Transmitted f q') : q'.log = q.log := by
  cases h <;> rfl

theorem Completes.logs (h : Completes p ac e q step q' step')
    (hacks : ∀ st ∈ step, AcksAtMinimum p q e st) : q.Logs q' := by
  cases h with
  | granted | rtsTransmitted | blockAckReqTransmitted | ctsReceived | blockAckLost he hlost
  | blockAckDataFailed => exact .refl rfl
  | collided hcollides =>
    cases hcollides with
    | @data frames frame retryLimitReached contention hext heligible hdata hlimit
    | @management frames frame edcaf retryLimitReached contention hext heligible hmgmt hwindow =>
      cases retryLimitReached
      · exact .other [.transmissionFailed frame] rfl (by simp)
      · exact .other [.discarded frame, .transmissionFailed frame] rfl (by simp)
  | multicastTransmitted htransmitted => exact .refl htransmitted.log
  | dataTransmitted htransmitted hrequests | managementTransmitted htransmitted =>
    exact .refl htransmitted.log
  | @dataAckReceived remaining _ q₁ frame ackStatuses hdata hcounters hstatuses =>
    have hminimum := hacks _ rfl
    obtain ⟨-, -, hlog, hcases⟩ := Tracked.ackDataFrame_eq_ok hcounters
    refine ⟨[.acknowledged frame], congrArg (List.cons _) hlog, fun _ _ _ => ?_⟩
    change q₁.dataRecovery.cwCalculator.cw = q₁.dataRecovery.cwCalculator.cwMin
    rcases hcases with ⟨hrateControl, rfl⟩ | ⟨-, rfl⟩
    · exact ((of_decide_eq_true hminimum).resolve_left hdata).resolve_left hrateControl
    · dsimp only
      rw [ackFrameReceived_cwCalculator]
      rfl
  | @managementAckReceived _ _ frame _ _ hmanagement hwindow hstatuses =>
    refine ⟨[.acknowledged frame], rfl, fun f hdata hmem => ?_⟩
    obtain rfl := Report.acknowledged.inj (List.mem_singleton.mp hmem)
    exact absurd hmanagement hdata
  | blockAckReceived =>
    refine ⟨_, rfl, fun f _ hmem => ?_⟩
    obtain ⟨g, hg, -⟩ := List.mem_map.mp hmem
    obtain ⟨hg, hacked⟩ := List.mem_filter.mp hg
    refine (of_decide_eq_true (hacks _ rfl)).resolve_right fun hnone => hnone g hg ?_
    simpa using hacked
  | @rtsFailed _ _ protectedFrame _ retryLimitReached =>
    cases retryLimitReached
    · exact .other [.rtsTransmissionFailed protectedFrame] rfl (by simp)
    · exact .other [.discarded protectedFrame, .rtsTransmissionFailed protectedFrame] rfl
        (by simp)
  | @dataFailed _ _ failedFrame retryLimitReached =>
    cases retryLimitReached
    · exact .other [.transmissionFailed failedFrame] rfl (by simp)
    · exact .other [.discarded failedFrame, .transmissionFailed failedFrame] rfl (by simp)
  | @managementFailed _ _ failedFrame _ retryLimitReached hmanagement hwindow =>
    cases retryLimitReached
    · exact .other [.transmissionFailed failedFrame] rfl (by simp)
    · exact .other [.discarded failedFrame, .transmissionFailed failedFrame] rfl (by simp)

theorem Continues.logs (h : Continues q q' step) :
    ∃ reports, q'.log = reports ++ q.log ∧ ∀ r ∈ reports, ∀ f, r ≠ .acknowledged f := by
  cases h with
  | @transmit _ _ frame => exact ⟨[.transmitted frame], rfl, by simp⟩
  | rts | blockAckReq | released => exact ⟨[], rfl, nofun⟩

theorem Continues.dataRecovery (h : Continues q q' step) : q'.dataRecovery = q.dataRecovery := by
  cases h <;> rfl

theorem Evolves.moves (h : Evolves p ac e q step q' step') :
    q.dataRecovery.cwCalculator.Moves q'.dataRecovery.cwCalculator := by
  cases h with
  | adjusts hadjusts =>
    obtain ⟨pendingQueue, hbelongs, hwindow⟩ := hadjusts
    exact hwindow
  | stays contention hcompletes =>
    rw [contend_moves]
    exact hcompletes.moves
  | @continues q₁ _ _ contention contention' hcompletes hcontinues =>
    have hmoves := hcompletes.moves
    rw [contend_moves, hcontinues.dataRecovery, contend_moves]
    exact hmoves

theorem Evolves.logs (h : Evolves p ac e q step q' step')
    (hacks : ∀ st ∈ step, AcksAtMinimum p q e st) : q.Logs q' := by
  cases h with
  | adjusts hadjusts =>
    obtain ⟨pendingQueue, hbelongs, hwindow⟩ := hadjusts
    exact .refl rfl
  | stays contention hcompletes =>
    have hlogs := hcompletes.logs hacks
    exact hlogs
  | @continues q₁ q₂ _ contention contention' hcompletes hcontinues =>
    obtain ⟨reports, hlog, hminimum⟩ := hcompletes.logs hacks
    obtain ⟨reports', hlog', hother⟩ := hcontinues.logs
    refine ⟨reports' ++ reports, ?_, fun f hdata hmem => ?_⟩
    · change q₂.log = _
      rw [hlog', List.append_assoc]
      exact congrArg _ hlog
    · rcases List.mem_append.mp hmem with hmem | hmem
      · exact absurd rfl (hother _ hmem f)
      · change q₂.dataRecovery.cwCalculator.cw = q₂.dataRecovery.cwCalculator.cwMin
        rw [hcontinues.dataRecovery]
        exact hminimum f hdata hmem

end inet.ieee80211
