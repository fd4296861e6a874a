import LoRaInet.LinkLayer.Ieee80211.Mac.CoordinationFunction.Hcf.Faultless
import LoRaInet.LinkLayer.Ieee80211.Mac.CoordinationFunction.Hcf.Retries

open omnetpp

namespace inet.ieee80211

open InProgressFrames QoSAckHandler EdcaQueue Hcf

instance (ackStatuses : AckStatuses) (frame : Ieee80211DataOrMgmtFrame) :
    Decidable (Blocked ackStatuses frame) :=
  inferInstanceAs (Decidable (_ ∨ _))

/-- The frames can get in progress, also after the frames that are in progress now. -/
def FreeToProgress (frames : InProgressFrames) (l : List Ieee80211DataOrMgmtFrame) : Prop :=
  ∀ g ∈ l, ¬Blocked frames.ackStatuses g ∧ ∀ f ∈ frames.inProgressFrames, key f ≠ key g
deriving Decidable

variable {p : HcfParameters} {ac : AccessCategory} {e : Event} {q q' : EdcaQueue}
  {frames frames' : InProgressFrames} {step step' : Option SequenceStep} {f g : Ieee80211DataOrMgmtFrame}

theorem FreeToProgress.unblocked (h : FreeToProgress frames frames'.pendingFrames)
    (hstatuses : ∀ g, (∀ f ∈ frames.inProgressFrames, key f ≠ key g) →
      Blocked frames'.ackStatuses g → Blocked frames.ackStatuses g) : frames'.Unblocked := by
  intro fragments hfragments g hg hblocked
  obtain ⟨hfree, hkey⟩ := h g (List.mem_flatMap.mpr ⟨fragments, hfragments, hg⟩)
  exact hfree (hstatuses g hkey hblocked)

theorem blocked_of_update {ackStatuses : AckStatuses} {status : Status} (hkey : key f ≠ key g)
    (h : Blocked (Function.update ackStatuses (key f) status) g) : Blocked ackStatuses g := by
  unfold Blocked at h ⊢
  rw [Function.update_of_ne hkey.symm] at h
  exact h

theorem blocked_of_processReceivedAck {ackStatuses ackStatuses' : AckStatuses}
    (hstatuses : processReceivedAck ackStatuses f = .ok ackStatuses') (hkey : key f ≠ key g)
    (h : Blocked ackStatuses' g) : Blocked ackStatuses g := by
  unfold processReceivedAck at hstatuses
  split at hstatuses
  · cases hstatuses
  · cases hstatuses
    exact blocked_of_update hkey h

theorem blocked_of_processReceivedBlockAck {ackStatuses : AckStatuses} {transmitterAddress : MACAddress}
    {blockAck : Ieee80211BasicBlockAck}
    (h : Blocked (processReceivedBlockAck ackStatuses transmitterAddress blockAck) g) :
    Blocked ackStatuses g := by
  unfold Blocked processReceivedBlockAck at h
  by_cases hwaiting : ackStatuses (key g) = .WAITING_FOR_BLOCK_ACK
  · simp only [hwaiting, if_true] at h
    refine .inr ⟨?_, .inr hwaiting⟩
    cases hbit : blockAckBit transmitterAddress blockAck (key g) with
    | none => simpa [hbit] using h
    | some bit => cases bit <;> simp [hbit] at h
  · simp only [hwaiting, if_false] at h
    exact h.imp_right fun h => ⟨h.1, .inl (h.2.resolve_right id)⟩

/-- An element of a sequence that is over keeps no frame from getting in progress. -/
theorem Completes.unblocked (h : Completes p ac e q step q' step') (hkept : Kept ac q.frames q.ackPolicy step)
    (hpending : FreeToProgress q.frames q.frames.pendingFrames)
    (hrequest : ∀ request remaining, e = .transmissionComplete (some request) remaining →
      Belongs request ac → FreeToProgress q.frames request.frames) (hstep : step' = none) :
    q'.frames.Unblocked := by
  have hsame : q.frames.Unblocked := hpending.unblocked fun _ _ h => h
  cases h with
  | granted | rtsTransmitted | ctsReceived | blockAckLost he hlost => exact hsame
  | collided hcollides =>
    cases hcollides with
    | @data frames frame retryLimitReached contention hext heligible hdata hlimit
    | @management frames frame edcaf retryLimitReached contention hext heligible hmgmt hwindow =>
      have hextended : frames.Unblocked := @Unblocked.extends q.frames frames hsame hext
      cases retryLimitReached <;> exact hextended
  | multicastTransmitted htransmitted =>
    obtain ⟨-, -, hmulticast⟩ := hkept.suits _ rfl
    cases htransmitted with
    | multicast _ => exact hsame
    | unicast hunicast _ => exact absurd hmulticast hunicast
  | @dataTransmitted _ _ ackExpected _ _ frame requests htransmitted hrequests =>
    obtain ⟨hf, -, hunicast, hdata, hpolicy, hqos⟩ := hkept.suits _ rfl
    have heq := Tracked.transmitted_eq htransmitted hunicast (fun _ => hpolicy)
      (fun hmgmt => absurd hmgmt hdata) hqos
    subst heq
    refine @FreeToProgress.unblocked q.frames _ (fun g hg => ?_) fun g hkey hblocked =>
      blocked_of_update (hkey frame hf) hblocked
    have hg : g ∈ (q.frames.pendingQueue ++ requests).flatMap Fragments.frames := hg
    rw [List.flatMap_append, List.mem_append] at hg
    rcases hg with hg | hg
    · exact hpending g hg
    · obtain ⟨request, hmem, hg⟩ := List.mem_flatMap.mp hg
      obtain ⟨haddba, hbelongs⟩ := hrequests request hmem
      subst haddba
      exact hrequest request _ rfl hbelongs g hg
  | managementTransmitted | blockAckReqTransmitted => cases hstep
  | dataAckReceived hdata hcounters hstatuses =>
    obtain ⟨hframes, -⟩ := Tracked.ackDataFrame_eq_ok hcounters
    obtain ⟨hf, -⟩ := hkept.suits _ rfl
    rw [hframes] at hstatuses
    unfold EdcaQueue.acknowledge EdcaQueue.report
    rw [hframes]
    exact @FreeToProgress.unblocked q.frames _ hpending fun g hkey hblocked =>
      blocked_of_processReceivedAck hstatuses (hkey _ hf) hblocked
  | managementAckReceived hmgmt hwindow hstatuses =>
    obtain ⟨hf, -⟩ := hkept.suits _ rfl
    exact @FreeToProgress.unblocked q.frames _ hpending fun g hkey hblocked =>
      blocked_of_processReceivedAck hstatuses (hkey _ hf) hblocked
  | blockAckReceived =>
    exact @FreeToProgress.unblocked q.frames _ hpending fun g _ hblocked =>
      blocked_of_processReceivedBlockAck hblocked
  | @rtsFailed _ _ protectedFrame _ retryLimitReached =>
    cases retryLimitReached <;> exact hsame
  | @dataFailed _ _ failedFrame retryLimitReached
  | @managementFailed _ _ failedFrame _ retryLimitReached hmgmt hwindow =>
    obtain ⟨hf, -⟩ := hkept.suits _ rfl
    have hfailed : (q.withFailedStatus failedFrame).frames.Unblocked :=
      @FreeToProgress.unblocked q.frames _ hpending fun g hkey hblocked =>
        blocked_of_update (hkey failedFrame hf) hblocked
    cases retryLimitReached <;> exact hfailed
  | @blockAckDataFailed _ _ failedFrame =>
    obtain ⟨hf, -⟩ := hkept.suits _ rfl
    exact @FreeToProgress.unblocked q.frames _ hpending fun g hkey hblocked =>
      blocked_of_update (hkey failedFrame hf) hblocked

end inet.ieee80211

namespace inet.ieee80211

open InProgressFrames QoSAckHandler EdcaQueue

namespace QoSRecoveryProcedure

variable (r : QoSRecoveryProcedure) (f : Ieee80211DataOrMgmtFrame)

theorem getRc_incrementCounter (counter : RetryCounter) :
    Returns (getRc f (incrementCounter f counter)) fun _ => True := by
  unfold getRc incrementCounter
  cases counter f.retryKey with
  | none | some count =>
    simp only [Function.update_self]
    exact .ok trivial

theorem getRetryCount_failed :
    Returns ((r.dataFrameTransmissionFailed f).getRetryCount f) fun _ => True := by
  have hisLong : (r.dataFrameTransmissionFailed f).isLong f = r.isLong f := by
    unfold dataFrameTransmissionFailed incrementStationLrc incrementStationSrc
    dsimp only
    split_ifs <;> rfl
  unfold getRetryCount
  rw [hisLong]
  unfold dataFrameTransmissionFailed
  split
  · exact getRc_incrementCounter f _
  · exact getRc_incrementCounter f _

theorem isRetryLimitReached_failed :
    Returns ((r.dataFrameTransmissionFailed f).isRetryLimitReached f) fun _ => True := by
  have hcount := r.getRetryCount_failed f
  unfold getRetryCount at hcount
  unfold isRetryLimitReached
  split
  · next hlong =>
    rw [if_pos hlong] at hcount
    exact hcount.bind fun _ _ => .pure trivial
  · next hshort =>
    rw [if_neg hshort] at hcount
    exact hcount.bind fun _ _ => .pure trivial

theorem isRtsFrameRetryLimitReached_failed :
    Returns ((r.rtsFrameTransmissionFailed f).isRtsFrameRetryLimitReached f) fun _ => True :=
  (getRc_incrementCounter f _).bind fun _ _ => .pure trivial

end QoSRecoveryProcedure

namespace Hcf

variable {p : HcfParameters} {s : Hcf} {ac : AccessCategory} {f : Ieee80211DataOrMgmtFrame}

open QoSRecoveryProcedure

theorem originatorProcessRtsProtectionFailed_returns (hdata : ¬f.isManagement) :
    Returns (s.originatorProcessRtsProtectionFailed ac f) fun _ => True := by
  unfold originatorProcessRtsProtectionFailed
  rw [if_neg hdata]
  exact (isRtsFrameRetryLimitReached_failed _ f).bind fun _ _ => .pure trivial

theorem checkRetryCount_returns {q : EdcaQueue}
    (h : Returns (q.dataRecovery.getRetryCount f) fun _ => True) :
    Returns (checkRetryCount p q f) fun _ => True := by
  unfold checkRetryCount
  split
  · exact h.bind fun _ _ => .pure trivial
  · exact .ok trivial

theorem processFailedStatus_returns {q : EdcaQueue}
    (h : q.frames.ackStatuses (key f) = .WAITING_FOR_NORMAL_ACK) :
    Returns (processFailedStatus q f) fun _ => True := by
  unfold processFailedStatus processFailedFrame
  rw [assert_bind h]
  exact .pure trivial

theorem originatorProcessFailedFrame_returns
    (hstatus : (s.queue ac).frames.ackStatuses (key f) = .WAITING_FOR_NORMAL_ACK)
    (hpolicy : ¬f.isManagement → (s.queue ac).ackPolicy f.id = .NORMAL_ACK) :
    Returns (s.originatorProcessFailedFrame p ac f) fun _ => True := by
  unfold originatorProcessFailedFrame
  split
  · next hmanagement =>
    obtain ⟨s₁, hwindows, hfailed⟩ := mgmtFrameTransmissionFailed_spec s ac f
    obtain ⟨edcaf, -, hq⟩ := hwindows.queues ac
    dsimp only
    rw [hfailed, setQueue_self]
    refine Returns.bind (P := fun _ => True) (processFailedStatus_returns ?_) fun q _ => ?_
    · rw [hq]
      exact hstatus
    · split <;> exact .pure trivial
  · next hdata =>
    rw [hpolicy hdata]
    refine (isRetryLimitReached_failed _ f).bind fun _ _ => ?_
    refine (checkRetryCount_returns (getRetryCount_failed _ f)).bind fun _ _ => ?_
    refine Returns.bind (P := fun _ => True) (processFailedStatus_returns hstatus) fun _ _ => ?_
    exact .pure trivial

theorem ackDataFrame_returns {q : EdcaQueue} (hbalanced : q.account.Balanced)
    (hf : f ∈ q.frames.inProgressFrames) (hdata : ¬f.isManagement) :
    Returns (ackDataFrame p q f) fun _ => True := by
  unfold ackDataFrame
  split
  · have hcheck : q.retry f.id → Returns (checkRetryCount p q f) fun _ => True := by
      intro hretry
      have hfailed := hbalanced.retried f hf hdata hretry
      obtain ⟨hshort, hlong⟩ := hbalanced.counted f hf hdata
      refine checkRetryCount_returns ?_
      unfold getRetryCount getRc
      change Returns (if q.account.isLong f then _ else _) _
      split
      · next hisLong =>
        rw [if_pos hisLong] at hfailed
        unfold counted at hlong
        rw [if_neg (by omega)] at hlong
        have hcounter : q.dataRecovery.longRetryCounter f.retryKey = _ := hlong
        rw [hcounter]
        exact .ok trivial
      · next hisShort =>
        rw [if_neg hisShort] at hfailed
        unfold counted at hshort
        rw [if_neg (by omega)] at hshort
        have hcounter : q.dataRecovery.shortRetryCounter f.retryKey = _ := hshort
        rw [hcounter]
        exact .ok trivial
    split
    · next hretry => exact (hcheck hretry).bind fun _ _ => .pure trivial
    · exact .pure trivial
  · exact .ok trivial

theorem processReceivedAck_returns {ackStatuses : AckStatuses}
    (h : ackStatuses (key f) = .WAITING_FOR_NORMAL_ACK) :
    Returns (processReceivedAck ackStatuses f) fun _ => True := by
  unfold processReceivedAck
  rw [if_neg (by simp [h])]
  exact .ok trivial

theorem originatorProcessReceivedAck_returns (hbalanced : (s.queue ac).account.Balanced)
    (hf : f ∈ (s.queue ac).frames.inProgressFrames)
    (hstatus : (s.queue ac).frames.ackStatuses (key f) = .WAITING_FOR_NORMAL_ACK)
    (hmanagement : f.isManagement → ¬p.dataAndMgmtRateControl) :
    Returns (s.originatorProcessReceivedAck p ac f) fun _ => True := by
  unfold originatorProcessReceivedAck
  split
  · next hmgmt =>
    rw [if_neg (hmanagement hmgmt)]
    obtain ⟨edcaf, -, hq⟩ := (ackMgmtFrame_rewindows s ac f).queues ac
    refine (processReceivedAck_returns (f := f) ?_).bind fun _ _ => .pure trivial
    rw [hq]
    exact hstatus
  · next hdata =>
    refine ((ackDataFrame_returns (p := p) hbalanced hf hdata).yields
      (Q := fun q => q.frames = (s.queue ac).frames) fun q h => ?_).bind fun q hq => ?_
    · exact (Tracked.ackDataFrame_eq_ok h).1
    · refine Returns.bind (P := fun s₁ => s₁ = s.setQueue ac q) (.pure rfl) fun s₁ h => ?_
      subst h
      refine (processReceivedAck_returns (f := f) ?_).bind fun _ _ => .pure trivial
      rw [setQueue_self, hq.2]
      exact hstatus

theorem originatorProcessTransmittedFrame_returns
    (hpolicy : ¬f.receiverAddress.isMulticast → f.type = .ST_DATA_WITH_QOS →
      ∃ ackExpected, (s.queue ac).ackPolicy f.id = policyOf ackExpected) :
    Returns (s.originatorProcessTransmittedFrame ac f) fun _ => True := by
  unfold originatorProcessTransmittedFrame
  split
  · exact .ok trivial
  · next hunicast =>
    have hstatuses : Returns (processTransmittedDataOrMgmtFrame (s.queue ac).frames.ackStatuses f
        ((s.queue ac).ackPolicy f.id)) fun _ => True := by
      unfold processTransmittedDataOrMgmtFrame
      split
      · next hqos =>
        obtain ⟨ackExpected, heq⟩ := hpolicy hunicast hqos
        rw [heq]
        cases ackExpected <;> exact .ok trivial
      · exact .ok trivial
    exact hstatuses.bind fun _ _ => .pure trivial

theorem processUpperFrame_returns {fragments : Fragments} (h : classifyFrame fragments.first = .ok ac) :
    Returns (s.processUpperFrame fragments) fun _ => True := by
  unfold processUpperFrame
  rw [h]
  exact .pure trivial

theorem handleInternalCollision_returns {owner : AccessCategory} (hfree : (s.queue ac).frames.Unblocked)
    (hframe : (s.queue ac).hasFrameToTransmit)
    (hdata : ∀ f, (s.queue ac).frames.ensured.eligibleFrame = some f → ¬f.isManagement) :
    Returns (s.handleInternalCollision owner ac) fun _ => True := by
  obtain ⟨f, heligible⟩ := eligibleFrame_ensured hframe
  unfold handleInternalCollision
  rw [hfree.getFrameToTransmit, heligible]
  change Returns (if f.isManagement then _ else _) _
  rw [if_neg (hdata f heligible)]
  refine (isRetryLimitReached_failed _ f).bind fun _ _ => ?_
  split <;> exact .pure trivial

end Hcf

end inet.ieee80211
