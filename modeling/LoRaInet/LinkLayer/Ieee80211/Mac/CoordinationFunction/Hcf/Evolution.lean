import LoRaInet.LinkLayer.Ieee80211.Mac.CoordinationFunction.Hcf.Continuation

open omnetpp

namespace inet.ieee80211

open InProgressFrames Hcf

/-- The window is kept, reset or incremented. -/
structure Edcaf.Moves (edcaf edcaf' : Edcaf) : Prop where
  cw : edcaf'.cw = edcaf.cw ∨ edcaf'.cw = edcaf.resetCw.cw ∨ edcaf'.cw = edcaf.incrementCw.cw
  cwMin : edcaf'.cwMin = edcaf.cwMin
  cwMax : edcaf'.cwMax = edcaf.cwMax

theorem Edcaf.Moves.refl (edcaf : Edcaf) : edcaf.Moves edcaf := ⟨.inl rfl, rfl, rfl⟩

theorem Edcaf.Moves.inBounds {edcaf edcaf' : Edcaf} (h : edcaf.Moves edcaf') (hbounds : edcaf.InBounds) :
    edcaf'.InBounds := by
  obtain ⟨hcw, hmin, hmax⟩ := h
  unfold InBounds
  rw [hmin, hmax]
  rcases hcw with hcw | hcw | hcw <;> rw [hcw]
  · exact hbounds
  · exact hbounds.resetCw
  · exact hbounds.incrementCw

namespace EdcaQueue

/-- The frame was handed over, and its transmission is over. -/
inductive Transmitted (q : EdcaQueue) (frame : Ieee80211DataOrMgmtFrame) : EdcaQueue → Prop where
  | multicast (hmulticast : frame.receiverAddress.isMulticast) :
      Transmitted q frame { q with
          dataRecovery := q.dataRecovery.multicastFrameTransmitted
          frames := q.frames.dropFrame frame }
  | unicast {ackStatuses : QoSAckHandler.AckStatuses} (hunicast : ¬frame.receiverAddress.isMulticast)
      (hstatuses : QoSAckHandler.processTransmittedDataOrMgmtFrame q.frames.ackStatuses frame
        (q.ackPolicy frame.id) = .ok ackStatuses) :
      Transmitted q frame { q with
          frames :=
            if !frame.isManagement && q.ackPolicy frame.id = .NO_ACK then
              { q.frames with ackStatuses := ackStatuses }.dropFrame frame
            else { q.frames with ackStatuses := ackStatuses } }

def withFailedStatus (q : EdcaQueue) (frame : Ieee80211DataOrMgmtFrame) : EdcaQueue :=
  { q with
    frames.ackStatuses :=
      Function.update q.frames.ackStatuses (QoSAckHandler.key frame) .NORMAL_ACK_NOT_ARRIVED }

def acknowledge (q : EdcaQueue) (ackStatuses : QoSAckHandler.AckStatuses)
    (frame : Ieee80211DataOrMgmtFrame) : EdcaQueue :=
  { q with frames := { q.frames with ackStatuses := ackStatuses }.dropFrame frame }.report
    (.acknowledged frame)

def discardManagement (q : EdcaQueue) (frame : Ieee80211DataOrMgmtFrame) : EdcaQueue :=
  { q with frames := q.frames.dropFrame frame }.report (.discarded frame)

/-- The queue has collided with one of a higher priority. -/
inductive Collides (q : EdcaQueue) : EdcaQueue → Prop where
  | data {frames : InProgressFrames} {frame : Ieee80211DataOrMgmtFrame} {retryLimitReached : Bool}
      (isContentionInProgress : Bool) (hext : Extends q.frames frames)
      (heligible : frames.eligibleFrame = some frame) (hdata : ¬frame.isManagement)
      (hlimit : (q.dataRecovery.dataFrameTransmissionFailed frame).isRetryLimitReached frame =
        .ok retryLimitReached) :
      Collides q (EdcaQueue.contend (if retryLimitReached then
          ({ q with frames := frames }.dataFrameTransmissionFailed frame).discard frame
        else { q with frames := frames }.dataFrameTransmissionFailed frame) isContentionInProgress)
  | management {frames : InProgressFrames} {frame : Ieee80211DataOrMgmtFrame} {edcaf : Edcaf}
      (retryLimitReached isContentionInProgress : Bool) (hext : Extends q.frames frames)
      (heligible : frames.eligibleFrame = some frame) (hmanagement : frame.isManagement)
      (hwindow : q.dataRecovery.cwCalculator.Moves edcaf) :
      Collides q (EdcaQueue.contend (if retryLimitReached then
          ({ q with
            frames := frames
            dataRecovery.cwCalculator := edcaf }.report (.transmissionFailed frame)).discardManagement frame
        else { q with
          frames := frames
          dataRecovery.cwCalculator := edcaf }.report (.transmissionFailed frame)) isContentionInProgress)

/-- Other frames of the access category wait, or the contention or the window have changed. -/
inductive Adjusts (q : EdcaQueue) (ac : AccessCategory) : EdcaQueue → Prop where
  | intro (pendingQueue : List Fragments) {edcaf : Edcaf}
      (hbelongs : ∀ fragments ∈ pendingQueue,
        fragments ∈ q.frames.pendingQueue ∨ Belongs fragments ac)
      (hwindow : q.dataRecovery.cwCalculator.Moves edcaf) :
      Adjusts q ac { q with
        frames.pendingQueue := pendingQueue
        dataRecovery.cwCalculator := edcaf }

end EdcaQueue

open EdcaQueue

/-- A frame has come or not come in time, or a wrong one has. -/
def Hcf.Event.isReception : Event → Bool
  | .lowerFrame _ _ | .startRxTimeout | .corruptedFrameReceived => true
  | _ => false

/-- How an event begins for a queue, with the step of its sequence. No step is left where the queue
may go on with another element. -/
inductive Completes (p : HcfParameters) (ac : AccessCategory) :
    Event → EdcaQueue → Option SequenceStep → EdcaQueue → Option SequenceStep → Prop where
  | granted {internallyCollided : List AccessCategory} {q : EdcaQueue} :
      Completes p ac (.channelGranted ac internallyCollided) q none q none
  | collided {owner : AccessCategory} {internallyCollided : List AccessCategory} {q q' : EdcaQueue}
      (h : (q.contend false).Collides q') :
      Completes p ac (.channelGranted owner internallyCollided) q none q' none
  | multicastTransmitted {addbaRequest : Option Fragments} {remaining : Bool} {q q' : EdcaQueue}
      {frame : Ieee80211DataOrMgmtFrame} (h : q.Transmitted frame q') :
      Completes p ac (.transmissionComplete addbaRequest remaining) q (some (.transmitMulticast frame))
        q' none
  | rtsTransmitted {addbaRequest : Option Fragments} {remaining : Bool} {q : EdcaQueue}
      {protectedFrame : Ieee80211DataOrMgmtFrame} {next : TxOpSequence} :
      Completes p ac (.transmissionComplete addbaRequest remaining) q
        (some (.transmitRts protectedFrame next)) q (some (.receiveCts protectedFrame next))
  | dataTransmitted {addbaRequest : Option Fragments} {remaining ackExpected : Bool}
      {q q' : EdcaQueue} {frame : Ieee80211DataOrMgmtFrame} {requests : List Fragments}
      (h : q.Transmitted frame q') (hrequests : ∀ request ∈ requests, addbaRequest = some request ∧ Belongs request ac) :
      Completes p ac (.transmissionComplete addbaRequest remaining) q
        (some (.transmitData frame ackExpected))
        { q' with frames.pendingQueue := q'.frames.pendingQueue ++ requests }
        (if ackExpected then some (.receiveAck frame) else none)
  | managementTransmitted {addbaRequest : Option Fragments} {remaining : Bool} {q q' : EdcaQueue}
      {frame : Ieee80211DataOrMgmtFrame} (h : q.Transmitted frame q') :
      Completes p ac (.transmissionComplete addbaRequest remaining) q
        (some (.transmitManagement frame)) q' (some (.receiveAck frame))
  | blockAckReqTransmitted {addbaRequest : Option Fragments} {remaining : Bool} {q : EdcaQueue}
      {blockAckReq : BuiltBlockAckReq} :
      Completes p ac (.transmissionComplete addbaRequest remaining) q
        (some (.transmitBlockAckReq blockAckReq))
        { q with
          frames.ackStatuses :=
            QoSAckHandler.processTransmittedBlockAckReq q.frames.ackStatuses blockAckReq }
        (some (.receiveBlockAck blockAckReq))
  | ctsReceived {remaining : Bool} {q : EdcaQueue} {protectedFrame : Ieee80211DataOrMgmtFrame}
      {next : TxOpSequence} :
      Completes p ac (.lowerFrame .cts remaining) q (some (.receiveCts protectedFrame next))
        { q with dataRecovery := q.dataRecovery.ctsFrameReceived } none
  | dataAckReceived {remaining : Bool} {q q' : EdcaQueue} {frame : Ieee80211DataOrMgmtFrame}
      {ackStatuses : QoSAckHandler.AckStatuses} (hdata : ¬frame.isManagement)
      (hcounters : ackDataFrame p q frame = .ok q')
      (hstatuses : QoSAckHandler.processReceivedAck q'.frames.ackStatuses frame = .ok ackStatuses) :
      Completes p ac (.lowerFrame .ack remaining) q (some (.receiveAck frame))
        (q'.acknowledge ackStatuses frame) none
  | managementAckReceived {remaining : Bool} {q : EdcaQueue} {frame : Ieee80211DataOrMgmtFrame}
      {edcaf : Edcaf} {ackStatuses : QoSAckHandler.AckStatuses} (hmanagement : frame.isManagement)
      (hwindow : q.dataRecovery.cwCalculator.Moves edcaf)
      (hstatuses : QoSAckHandler.processReceivedAck q.frames.ackStatuses frame = .ok ackStatuses) :
      Completes p ac (.lowerFrame .ack remaining) q (some (.receiveAck frame))
        ({ q with dataRecovery.cwCalculator := edcaf }.acknowledge ackStatuses frame) none
  | blockAckReceived {remaining : Bool} {q : EdcaQueue} {blockAckReq : BuiltBlockAckReq}
      {transmitterAddress : MACAddress} {blockAck : Ieee80211BasicBlockAck} :
      Completes p ac (.lowerFrame (.blockAck transmitterAddress blockAck) remaining) q
        (some (.receiveBlockAck blockAckReq))
        { q with
          dataRecovery := q.dataRecovery.blockAckFrameReceived
          frames :=
            { q.frames with
              ackStatuses := QoSAckHandler.processReceivedBlockAck q.frames.ackStatuses
                transmitterAddress blockAck }.dropFrames
              (QoSAckHandler.ackedFrames q.frames.ackStatuses transmitterAddress blockAck)
          log := (q.frames.inProgressFrames.filter fun frame =>
              frame.type = .ST_DATA_WITH_QOS &&
                QoSAckHandler.ackedFrames q.frames.ackStatuses transmitterAddress blockAck
                  (QoSAckHandler.key frame)).map .acknowledged ++ q.log } none
  | blockAckLost {e : Event} {q : EdcaQueue} {blockAckReq : BuiltBlockAckReq} (he : e.isReception)
      (hlost : ∀ transmitterAddress blockAck remaining,
        e ≠ .lowerFrame (.blockAck transmitterAddress blockAck) remaining) :
      Completes p ac e q (some (.receiveBlockAck blockAckReq)) q none
  | rtsFailed {e : Event} {q : EdcaQueue} {protectedFrame : Ieee80211DataOrMgmtFrame}
      {next : TxOpSequence} {retryLimitReached : Bool} (hdata : ¬protectedFrame.isManagement)
      (hlimit : (q.dataRecovery.rtsFrameTransmissionFailed protectedFrame).isRtsFrameRetryLimitReached
        protectedFrame = .ok retryLimitReached) :
      Completes p ac e q (some (.receiveCts protectedFrame next)) (if retryLimitReached then
          (q.rtsFrameTransmissionFailed protectedFrame).discard protectedFrame
        else q.rtsFrameTransmissionFailed protectedFrame) none
  | dataFailed {e : Event} {q : EdcaQueue} {failedFrame : Ieee80211DataOrMgmtFrame}
      {retryLimitReached : Bool} (hdata : ¬failedFrame.isManagement)
      (hlimit : (q.dataRecovery.dataFrameTransmissionFailed failedFrame).isRetryLimitReached
        failedFrame = .ok retryLimitReached) :
      Completes p ac e q (some (.receiveAck failedFrame)) (if retryLimitReached then
          ((q.dataFrameTransmissionFailed failedFrame).withFailedStatus failedFrame).discard failedFrame
        else setRetry ((q.dataFrameTransmissionFailed failedFrame).withFailedStatus failedFrame)
          failedFrame) none
  | blockAckDataFailed {e : Event} {q : EdcaQueue} {failedFrame : Ieee80211DataOrMgmtFrame}
      (hdata : ¬failedFrame.isManagement) (hpolicy : q.ackPolicy failedFrame.id = .BLOCK_ACK) :
      Completes p ac e q (some (.receiveAck failedFrame))
        (setRetry (q.withFailedStatus failedFrame) failedFrame) none
  | managementFailed {e : Event} {q : EdcaQueue} {failedFrame : Ieee80211DataOrMgmtFrame}
      {edcaf : Edcaf} (retryLimitReached : Bool) (hmanagement : failedFrame.isManagement)
      (hwindow : q.dataRecovery.cwCalculator.Moves edcaf) :
      Completes p ac e q (some (.receiveAck failedFrame)) (if retryLimitReached then
          (({ q with dataRecovery.cwCalculator := edcaf }.report
            (.transmissionFailed failedFrame)).withFailedStatus failedFrame).discardManagement failedFrame
        else setRetry (({ q with dataRecovery.cwCalculator := edcaf }.report
            (.transmissionFailed failedFrame)).withFailedStatus failedFrame) failedFrame) none

/-- What an event does to a queue and to the step of its sequence. -/
inductive Evolves (p : HcfParameters) (ac : AccessCategory) (e : Event) (q : EdcaQueue) (step : Option SequenceStep) :
    EdcaQueue → Option SequenceStep → Prop where
  | adjusts {q' : EdcaQueue} (h : q.Adjusts ac q') : Evolves p ac e q step q' step
  | stays {q' : EdcaQueue} {step' : Option SequenceStep} (isContentionInProgress : Bool)
      (h : Completes p ac e q step q' step') : Evolves p ac e q step (q'.contend isContentionInProgress) step'
  | continues {q₁ q' : EdcaQueue} {step' : Option SequenceStep} (contention contention' : Bool)
      (h : Completes p ac e q step q₁ none) (h' : Continues (q₁.contend contention) q' step') :
      Evolves p ac e q step (q'.contend contention') step'

end inet.ieee80211

namespace inet.ieee80211

open InProgressFrames QoSAckHandler

/-- The request asks for the acknowledgement of the frames with this key. -/
def BuiltBlockAckReq.Requests (blockAckReq : BuiltBlockAckReq) : Key → Prop
  | .qosData receiverAddress tid sequenceNumber fragmentNumber =>
    receiverAddress = blockAckReq.receiverAddress ∧ tid = blockAckReq.tidInfo ∧
      ((sequenceNumber - blockAckReq.startingSequenceNumber : Fin 4096) : ℕ) < 64 ∧ fragmentNumber < 16
  | .mgmtOrNonQoS _ _ _ => False

/-- The status of a frame that is in progress. -/
def QoSAckHandler.Status.Live (status : Status) : Prop :=
  status ≠ .NORMAL_ACK_ARRIVED ∧ status ≠ .BLOCK_ACK_ARRIVED_ACKED ∧ status ≠ .NO_ACK_REQUIRED

/-- What the frame of a step is like. -/
def SequenceStep.Suits (frames : InProgressFrames) (ackPolicy : ℕ → AckPolicy) : SequenceStep → Prop
  | .transmitMulticast frame =>
    frame ∈ frames.inProgressFrames ∧ isEligibleToTransmit frames.ackStatuses frame ∧
      frame.receiverAddress.isMulticast
  | .transmitRts frame next | .receiveCts frame next =>
    frames.eligibleFrame = some frame ∧ ¬frame.receiverAddress.isMulticast ∧
      (next = .managementAck ↔ frame.isManagement) ∧ next ≠ .blockAckReqBlockAck
  | .transmitData frame ackExpected =>
    frame ∈ frames.inProgressFrames ∧ isEligibleToTransmit frames.ackStatuses frame ∧
      ¬frame.receiverAddress.isMulticast ∧ ¬frame.isManagement ∧
      ackPolicy frame.id = policyOf ackExpected ∧
      (ackExpected = false → frame.type = .ST_DATA_WITH_QOS)
  | .transmitManagement frame =>
    frame ∈ frames.inProgressFrames ∧ isEligibleToTransmit frames.ackStatuses frame ∧
      ¬frame.receiverAddress.isMulticast ∧ frame.isManagement
  | .receiveAck frame =>
    frame ∈ frames.inProgressFrames ∧ frames.ackStatuses (key frame) = .WAITING_FOR_NORMAL_ACK ∧
      (¬frame.isManagement → ackPolicy frame.id = .NORMAL_ACK)
  | .transmitBlockAckReq _ | .receiveBlockAck _ => True

theorem Transmits.suits {q : EdcaQueue} {frames frames' : InProgressFrames} {frame : Ieee80211DataOrMgmtFrame}
    {policy : AckPolicy} {step : SequenceStep} (hstep : Transmits frame policy step)
    (heligible : frames.eligibleFrame = some frame) (hext : Extends frames frames') :
    step.Suits frames' (q.started frames' frame policy).ackPolicy := by
  have hmem := mem_of_extends hext (List.mem_of_find?_eq_some heligible)
  have heligible' := eligible_of_extends hext (List.find?_some heligible)
  cases hstep with
  | multicast hmulticast => exact ⟨hmem, heligible', hmulticast⟩
  | data hunicast hdata hpolicy hqos =>
    refine ⟨hmem, heligible', hunicast, hdata, ?_, hqos⟩
    unfold EdcaQueue.started EdcaQueue.report
    dsimp only
    rw [if_neg hdata, Function.update_self, hpolicy]
  | management hunicast hmanagement => exact ⟨hmem, heligible', hunicast, hmanagement⟩

/-- A queue keeps track of its frames: an acknowledgement is waited for only in the step that
receives it, and a frame that was acknowledged does not come back. -/
structure Tracked (frames : InProgressFrames) (ackPolicy : ℕ → AckPolicy) (log : List Report)
    (step : Option SequenceStep) : Prop where
  nodup : (frames.inProgressFrames.map (·.id)).Nodup
  fresh : ∀ f ∈ frames.inProgressFrames, f.id < frames.nextId
  retired : ∀ f, .acknowledged f ∈ log →
    f.id < frames.nextId ∧ ∀ g ∈ frames.inProgressFrames, g.id ≠ f.id
  final : log.Pairwise fun later earlier => ∀ f, earlier = .acknowledged f → later ≠ .transmitted f
  live : ∀ f ∈ frames.inProgressFrames, (frames.ackStatuses (key f)).Live
  outstanding : ∀ id, frames.ackStatuses id = .BLOCK_ACK_NOT_YET_REQUESTED →
    ∃ f ∈ frames.inProgressFrames, key f = id ∧ f.type = .ST_DATA_WITH_QOS
  normal : ∀ id, frames.ackStatuses id = .WAITING_FOR_NORMAL_ACK →
    ∃ f, step = some (.receiveAck f) ∧ key f = id
  block : ∀ id, frames.ackStatuses id = .WAITING_FOR_BLOCK_ACK →
    ∃ blockAckReq, step = some (.receiveBlockAck blockAckReq) ∧ blockAckReq.Requests id
  suits : ∀ st ∈ step, st.Suits frames ackPolicy

namespace Tracked

variable {frames frames' : InProgressFrames} {ackPolicy ackPolicy' : ℕ → AckPolicy}
  {log : List Report} {step step' : Option SequenceStep} {f g : Ieee80211DataOrMgmtFrame}

theorem eq_of_id (h : Tracked frames ackPolicy log step) (hf : f ∈ frames.inProgressFrames)
    (hg : g ∈ frames.inProgressFrames) (hid : f.id = g.id) : f = g :=
  List.inj_on_of_nodup_map h.nodup hf hg hid

theorem withPending (h : Tracked frames ackPolicy log step) (pendingQueue : List Fragments) :
    Tracked { frames with pendingQueue := pendingQueue } ackPolicy log step :=
  ⟨h.nodup, h.fresh, h.retired, h.final, h.live, h.outstanding, h.normal, h.block, fun st hst => by
    have hsuits := h.suits st hst
    cases st <;> exact hsuits⟩

theorem idle (h : Tracked frames ackPolicy log none) (id : Key) :
    frames.ackStatuses id ≠ .WAITING_FOR_NORMAL_ACK ∧ frames.ackStatuses id ≠ .WAITING_FOR_BLOCK_ACK := by
  refine ⟨fun hid => ?_, fun hid => ?_⟩
  · obtain ⟨f, hstep, -⟩ := h.normal id hid
    cases hstep
  · obtain ⟨blockAckReq, hstep, -⟩ := h.block id hid
    cases hstep

theorem finish {st : SequenceStep} (h : Tracked frames ackPolicy log (some st))
    (hack : ∀ f, st ≠ .receiveAck f) (hblockAck : ∀ blockAckReq, st ≠ .receiveBlockAck blockAckReq) :
    Tracked frames ackPolicy log none := by
  refine ⟨h.nodup, h.fresh, h.retired, h.final, h.live, h.outstanding, fun id hid => ?_,
    fun id hid => ?_, nofun⟩
  · obtain ⟨f, hstep, -⟩ := h.normal id hid
    exact absurd (Option.some.inj hstep) (hack f)
  · obtain ⟨blockAckReq, hstep, -⟩ := h.block id hid
    exact absurd (Option.some.inj hstep) (hblockAck blockAckReq)

theorem start {st : SequenceStep} (h : Tracked frames ackPolicy log none)
    (hsuits : st.Suits frames ackPolicy') : Tracked frames ackPolicy' log (some st) := by
  refine ⟨h.nodup, h.fresh, h.retired, h.final, h.live, h.outstanding, fun id hid => ?_,
    fun id hid => ?_, fun st' hst' => ?_⟩
  · exact absurd hid (h.idle id).1
  · exact absurd hid (h.idle id).2
  · cases hst'
    exact hsuits

theorem report (h : Tracked frames ackPolicy log step) (report : Report)
    (hacknowledged : ∀ f, report ≠ .acknowledged f)
    (htransmitted : ∀ f, report = .transmitted f → f ∈ frames.inProgressFrames) :
    Tracked frames ackPolicy (report :: log) step := by
  refine ⟨h.nodup, h.fresh, fun f hf => ?_, List.pairwise_cons.mpr ⟨?_, h.final⟩, h.live,
    h.outstanding, h.normal, h.block, h.suits⟩
  · rcases List.mem_cons.mp hf with heq | hf
    · exact absurd heq.symm (hacknowledged f)
    · exact h.retired f hf
  · rintro _ hmem f rfl heq
    exact (h.retired f hmem).2 f (htransmitted f heq) rfl

theorem dropFrame (h : Tracked frames ackPolicy log none) (hf : f ∈ frames.inProgressFrames)
    (hstatus : frames.ackStatuses (key f) ≠ .BLOCK_ACK_NOT_YET_REQUESTED) :
    Tracked (frames.dropFrame f) ackPolicy log none := by
  have hsub : (frames.dropFrame f).inProgressFrames.Sublist frames.inProgressFrames :=
    List.filter_sublist
  refine ⟨h.nodup.sublist (hsub.map _), fun g hg => h.fresh g (hsub.subset hg), fun g hg => ?_, h.final,
    fun g hg => h.live g (hsub.subset hg), fun id hid => ?_, h.normal, h.block, nofun⟩
  · exact (h.retired g hg).imp_right fun hne g' hg' => hne g' (hsub.subset hg')
  · obtain ⟨g, hg, hkey, htype⟩ := h.outstanding id hid
    refine ⟨g, List.mem_filter.mpr ⟨hg, decide_eq_true fun heq => ?_⟩, hkey, htype⟩
    obtain rfl := h.eq_of_id hg hf heq
    exact hstatus (hkey ▸ hid)

theorem update {status : Status} (h : Tracked frames ackPolicy log step)
    (hf : f ∈ frames.inProgressFrames)
    (hothers : ∀ id ≠ key f, frames.ackStatuses id ≠ .WAITING_FOR_NORMAL_ACK ∧
      frames.ackStatuses id ≠ .WAITING_FOR_BLOCK_ACK)
    (hlive : status.Live)
    (houtstanding : status = .BLOCK_ACK_NOT_YET_REQUESTED → f.type = .ST_DATA_WITH_QOS)
    (hnormal : status = .WAITING_FOR_NORMAL_ACK → step' = some (.receiveAck f))
    (hblock : status ≠ .WAITING_FOR_BLOCK_ACK)
    (hsuits : ∀ st ∈ step', st.Suits
      { frames with ackStatuses := Function.update frames.ackStatuses (key f) status } ackPolicy) :
    Tracked { frames with ackStatuses := Function.update frames.ackStatuses (key f) status }
      ackPolicy log step' := by
  refine ⟨h.nodup, h.fresh, h.retired, h.final, fun g hg => ?_, fun id hid => ?_, fun id hid => ?_,
    fun id hid => ?_, hsuits⟩
  · dsimp only
    by_cases hkey : key g = key f
    · rw [hkey, Function.update_self]
      exact hlive
    · rw [Function.update_of_ne hkey]
      exact h.live g hg
  · dsimp only at hid
    by_cases hkey : id = key f
    · subst hkey
      rw [Function.update_self] at hid
      exact ⟨f, hf, rfl, houtstanding hid⟩
    · rw [Function.update_of_ne hkey] at hid
      exact h.outstanding id hid
  · dsimp only at hid
    by_cases hkey : id = key f
    · subst hkey
      rw [Function.update_self] at hid
      exact ⟨f, hnormal hid, rfl⟩
    · rw [Function.update_of_ne hkey] at hid
      exact absurd hid (hothers id hkey).1
  · dsimp only at hid
    by_cases hkey : id = key f
    · subst hkey
      rw [Function.update_self] at hid
      exact absurd hid hblock
    · rw [Function.update_of_ne hkey] at hid
      exact absurd hid (hothers id hkey).2

theorem pushed (h : Tracked frames ackPolicy log none) (l : List Ieee80211DataOrMgmtFrame) :
    Tracked (frames.pushed l) ackPolicy log none := by
  have hstatus : ∀ {id status}, status ≠ .FRAME_NOT_YET_TRANSMITTED →
      (frames.pushed l).ackStatuses id = status → frames.ackStatuses id = status := by
    intro id status hne hid
    unfold InProgressFrames.pushed at hid
    dsimp only at hid
    split at hid
    · exact absurd hid.symm hne
    · exact hid
  refine ⟨nodup_pushed h.nodup h.fresh l, fresh_pushed h.fresh l, fun f hf => ?_, h.final, fun g hg => ?_,
    fun id hid => ?_, fun id hid => ?_, fun id hid => ?_, nofun⟩
  · obtain ⟨hlt, hne⟩ := h.retired f hf
    refine ⟨Nat.lt_add_right _ hlt, fun g hg => ?_⟩
    rcases mem_pushed hg with hg | ⟨hle, -, -⟩
    · exact hne g hg
    · omega
  · by_cases hnew : ∃ f ∈ l, key f = key g
    · have heq : (frames.pushed l).ackStatuses (key g) = .FRAME_NOT_YET_TRANSMITTED := if_pos hnew
      rw [heq]
      exact ⟨nofun, nofun, nofun⟩
    · have heq : (frames.pushed l).ackStatuses (key g) = frames.ackStatuses (key g) := if_neg hnew
      rw [heq]
      rcases mem_pushed hg with hg | ⟨-, -, f, hf, hg⟩
      · exact h.live g hg
      · exact absurd ⟨f, hf, by rw [hg]; rfl⟩ hnew
  · obtain ⟨f, hf, hkey, htype⟩ := h.outstanding id (hstatus nofun hid)
    exact ⟨f, List.mem_append_left _ hf, hkey, htype⟩
  · exact ((h.idle id).1 (hstatus nofun hid)).elim
  · exact ((h.idle id).2 (hstatus nofun hid)).elim

theorem extend (h : Tracked frames ackPolicy log none) (hext : Extends frames frames') :
    Tracked frames' ackPolicy log none := by
  refine hext.invariant (P := fun frames => Tracked frames ackPolicy log none) (fun q hq => ?_) h
  unfold extracted
  split
  · exact hq
  · exact (hq.withPending _).pushed _

theorem status_of_eligible (h : isEligibleToTransmit frames.ackStatuses f) :
    frames.ackStatuses (key f) ≠ .BLOCK_ACK_NOT_YET_REQUESTED := by
  intro heq
  simp [isEligibleToTransmit, heq] at h

/-- The owner of the channel goes on with another element, or releases the channel. -/
theorem continues {q q' : EdcaQueue} (h : Tracked q.frames q.ackPolicy q.log none)
    (hcontinues : Continues q q' step) : Tracked q'.frames q'.ackPolicy q'.log step := by
  cases hcontinues with
  | transmit hext heligible hext' hstep =>
    have hmem := mem_of_extends hext' (List.mem_of_find?_eq_some heligible)
    have hreported := ((h.extend hext).extend hext').report (.transmitted _) nofun
      fun f heq => by cases heq; exact hmem
    exact hreported.start (hstep.suits heligible hext')
  | rts hext heligible hunicast hmanagement hnext =>
    exact (h.extend hext).start ⟨heligible, hunicast, hmanagement, hnext⟩
  | blockAckReq blockAckReq hext => exact (h.extend hext).start trivial
  | released hext => exact h.extend hext

end Tracked

end inet.ieee80211
