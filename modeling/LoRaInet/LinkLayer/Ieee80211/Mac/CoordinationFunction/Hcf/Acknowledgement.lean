import LoRaInet.LinkLayer.Ieee80211.Mac.CoordinationFunction.Hcf.Refinement

open omnetpp transition

namespace inet.ieee80211

open InProgressFrames QoSAckHandler EdcaQueue Hcf

/-- The starting sequence number of a request suits a frame that it may move. -/
def BuiltBlockAckReq.Covers (blockAckReq : BuiltBlockAckReq) (f : Ieee80211DataOrMgmtFrame) : Bool :=
  (blockAckReq.startingSequenceNumber ≤ f.sequenceNumber ↔
    f.receiverAddress = blockAckReq.receiverAddress ∧
      ((f.sequenceNumber - blockAckReq.startingSequenceNumber : Fin 4096) : ℕ) < 64) ∧
    (blockAckReq.startingSequenceNumber ≤ f.sequenceNumber → f.fragmentNumber < 16)

/-- The event does not lose track of a frame: an acknowledged frame shares its key with no other
frame in progress, a request covers just the outstanding frames of its TID that it is about, and
its BlockAck frame comes. -/
def KeepsTrack (q : EdcaQueue) (e : Event) : SequenceStep → Bool
  | .receiveAck f =>
    match e with
    | .lowerFrame .ack _ => ∀ g ∈ q.frames.inProgressFrames, key g = key f → g.id = f.id
    | _ => true
  | .transmitBlockAckReq blockAckReq =>
    match e with
    | .transmissionComplete _ _ => ∀ f ∈ q.frames.getOutstandingFrames,
        f.tid = blockAckReq.tidInfo → blockAckReq.Covers f
    | _ => true
  | .receiveBlockAck blockAckReq =>
    match e with
    | .lowerFrame (.blockAck transmitterAddress blockAck) _ =>
      transmitterAddress = blockAckReq.receiverAddress ∧ blockAck.tidInfo = blockAckReq.tidInfo ∧
        blockAck.startingSequenceNumber = (blockAckReq.startingSequenceNumber : ℕ)
    | e => !e.isReception
  | _ => true

namespace Tracked

variable {p : HcfParameters} {ac : AccessCategory} {e : Event} {q q' : EdcaQueue} {step step' : Option SequenceStep}

theorem ackDataFrame_eq_ok {frame : Ieee80211DataOrMgmtFrame} (h : ackDataFrame p q frame = .ok q') :
    q'.frames = q.frames ∧ q'.ackPolicy = q.ackPolicy ∧ q'.log = q.log ∧
      (¬p.dataAndMgmtRateControl ∧ q' = q ∨ p.dataAndMgmtRateControl ∧
        q' = { q with dataRecovery := q.dataRecovery.ackFrameReceived frame }) := by
  have hcases : ¬p.dataAndMgmtRateControl ∧ q' = q ∨ p.dataAndMgmtRateControl ∧
      q' = { q with dataRecovery := q.dataRecovery.ackFrameReceived frame } := by
    unfold ackDataFrame at h
    split at h
    · next hcontrol =>
      refine .inr ⟨hcontrol, ?_⟩
      split at h
      · obtain ⟨_, -, h⟩ := bind_eq_ok_iff.mp h
        exact (Except.ok.inj h).symm
      · exact (Except.ok.inj h).symm
    · next hcontrol => exact .inl ⟨hcontrol, (Except.ok.inj h).symm⟩
  refine ⟨?_, ?_, ?_, hcases⟩ <;> rcases hcases with ⟨-, rfl⟩ | ⟨-, rfl⟩ <;> rfl

variable {f : Ieee80211DataOrMgmtFrame}

/-- A status that answers the frame whose acknowledgement was waited for. -/
theorem answered (status : Status)
    (h : Tracked q.frames q.ackPolicy q.log (some (.receiveAck f))) (hlive : status.Live)
    (houtstanding : status ≠ .BLOCK_ACK_NOT_YET_REQUESTED) (hnormal : status ≠ .WAITING_FOR_NORMAL_ACK)
    (hblock : status ≠ .WAITING_FOR_BLOCK_ACK) :
    Tracked { q.frames with ackStatuses := Function.update q.frames.ackStatuses (key f) status }
      q.ackPolicy q.log none := by
  refine h.update (h.suits _ rfl).1 (fun id hid => ⟨fun hstatus => ?_, fun hstatus => ?_⟩) hlive
    (fun h => absurd h houtstanding) (fun h => absurd h hnormal) hblock nofun
  · obtain ⟨g, hg, hkey⟩ := h.normal id hstatus
    cases hg
    exact hid hkey.symm
  · obtain ⟨blockAckReq, hstep, -⟩ := h.block id hstatus
    cases hstep

variable {f : Ieee80211DataOrMgmtFrame}

theorem acknowledge {ackStatuses : AckStatuses}
    (h : Tracked q.frames q.ackPolicy q.log (some (.receiveAck f)))
    (hstatuses : processReceivedAck q.frames.ackStatuses f = .ok ackStatuses)
    (hkey : ∀ g ∈ q.frames.inProgressFrames, key g = key f → g.id = f.id) :
    Tracked (q.acknowledge ackStatuses f).frames q.ackPolicy (q.acknowledge ackStatuses f).log none := by
  have hupdate : ackStatuses = Function.update q.frames.ackStatuses (key f) .NORMAL_ACK_ARRIVED := by
    unfold processReceivedAck at hstatuses
    split at hstatuses
    · cases hstatuses
    · exact (Except.ok.inj hstatuses).symm
  subst hupdate
  obtain ⟨hf, -, -⟩ := h.suits _ rfl
  have hkept : ∀ {g}, g ∈ q.frames.inProgressFrames.filter (·.id ≠ f.id) →
      g ∈ q.frames.inProgressFrames ∧ g.id ≠ f.id := by
    intro g hg
    obtain ⟨hg, hne⟩ := List.mem_filter.mp hg
    exact ⟨hg, of_decide_eq_true hne⟩
  have hother : ∀ {id status},
      Function.update q.frames.ackStatuses (key f) .NORMAL_ACK_ARRIVED id = status →
      status ≠ .NORMAL_ACK_ARRIVED → id ≠ key f ∧ q.frames.ackStatuses id = status := by
    intro id status hid hne
    by_cases heq : id = key f
    · subst heq
      rw [Function.update_self] at hid
      exact absurd hid.symm hne
    · rw [Function.update_of_ne heq] at hid
      exact ⟨heq, hid⟩
  refine ⟨h.nodup.sublist (List.filter_sublist.map _), fun g hg => h.fresh g (hkept hg).1, fun g hg => ?_,
    List.pairwise_cons.mpr ⟨fun _ _ _ _ => ?_, h.final⟩, fun g hg => ?_, fun id hid => ?_,
    fun id hid => ?_, fun id hid => ?_, nofun⟩
  · rcases List.mem_cons.mp hg with heq | hg
    · obtain rfl := Report.acknowledged.inj heq
      exact ⟨h.fresh g hf, fun g' hg' => (hkept hg').2⟩
    · exact (h.retired g hg).imp_right fun hne g' hg' => hne g' (hkept hg').1
  · exact Report.noConfusion
  · obtain ⟨hg, hne⟩ := hkept hg
    have hstatus : (q.acknowledge (Function.update q.frames.ackStatuses (key f) .NORMAL_ACK_ARRIVED)
        f).frames.ackStatuses (key g) = q.frames.ackStatuses (key g) :=
      Function.update_of_ne (fun heq => hne (hkey g hg heq)) _ _
    rw [hstatus]
    exact h.live g hg
  · change Function.update _ _ _ id = _ at hid
    obtain ⟨hne, hid⟩ := hother hid nofun
    obtain ⟨g, hg, rfl, htype⟩ := h.outstanding id hid
    refine ⟨g, List.mem_filter.mpr ⟨hg, decide_eq_true fun heq => hne ?_⟩, rfl, htype⟩
    rw [h.eq_of_id hg hf heq]
  · change Function.update _ _ _ id = _ at hid
    obtain ⟨hne, hid⟩ := hother hid nofun
    obtain ⟨g, hg, hgid⟩ := h.normal id hid
    cases hg
    exact absurd hgid.symm hne
  · change Function.update _ _ _ id = _ at hid
    obtain ⟨-, hid⟩ := hother hid nofun
    obtain ⟨blockAckReq, hstep, -⟩ := h.block id hid
    cases hstep

/-- The rows of a BlockAck frame for the request are about the window of the request. -/
theorem bitmapRow_isSome {startingSequenceNumber sequenceNumber : Fin 4096}
    (h : ((sequenceNumber - startingSequenceNumber : Fin 4096) : ℕ) < 64) :
    (bitmapRow (startingSequenceNumber : ℕ) sequenceNumber).isSome := by
  unfold bitmapRow
  rw [List.find?_isSome]
  refine ⟨((sequenceNumber - startingSequenceNumber : Fin 4096) : ℕ), List.mem_range.mpr h, ?_⟩
  rw [decide_eq_true_eq, Fin.val_sub]
  have hs := sequenceNumber.isLt
  have ht := startingSequenceNumber.isLt
  rw [Int.tmod_eq_emod_of_nonneg (by positivity)]
  omega

variable {blockAckReq : BuiltBlockAckReq} {blockAck : Ieee80211BasicBlockAck}

theorem blockAckBit_isSome
    {id : Key} (hrequests : blockAckReq.Requests id) (htid : blockAck.tidInfo = blockAckReq.tidInfo)
    (hstart : blockAck.startingSequenceNumber = (blockAckReq.startingSequenceNumber : ℕ)) :
    (blockAckBit blockAckReq.receiverAddress blockAck id).isSome := by
  cases id with
  | qosData receiverAddress tid sequenceNumber fragmentNumber =>
    obtain ⟨rfl, rfl, hwindow, hfragment⟩ := hrequests
    unfold blockAckBit
    dsimp only
    rw [if_pos ⟨rfl, htid.symm, hfragment⟩, Option.isSome_map, hstart]
    exact bitmapRow_isSome hwindow
  | mgmtOrNonQoS => cases hrequests

theorem qos_of_blockAckBit {transmitterAddress : MACAddress}
    (h : (blockAckBit transmitterAddress blockAck (key f)).isSome) :
    f.type = .ST_DATA_WITH_QOS := by
  by_contra htype
  unfold key at h
  rw [if_neg htype] at h
  cases h

/-- The BlockAck frame for a request settles all frames that it was asked for. -/
theorem blockAcked (h : Tracked q.frames q.ackPolicy q.log (some (.receiveBlockAck blockAckReq)))
    (htid : blockAck.tidInfo = blockAckReq.tidInfo)
    (hstart : blockAck.startingSequenceNumber = (blockAckReq.startingSequenceNumber : ℕ)) :
    Tracked
      ({ q.frames with
        ackStatuses := processReceivedBlockAck q.frames.ackStatuses blockAckReq.receiverAddress
          blockAck }.dropFrames
        (ackedFrames q.frames.ackStatuses blockAckReq.receiverAddress blockAck)) q.ackPolicy
      ((q.frames.inProgressFrames.filter fun frame => frame.type = .ST_DATA_WITH_QOS &&
        ackedFrames q.frames.ackStatuses blockAckReq.receiverAddress blockAck (key frame)).map
          .acknowledged ++ q.log) none := by
  -- a frame is dropped just when its key is acknowledged
  have hmem : ∀ {g}, g ∈ q.frames.inProgressFrames.filter (fun frame =>
      !(frame.type = .ST_DATA_WITH_QOS &&
        ackedFrames q.frames.ackStatuses blockAckReq.receiverAddress blockAck (key frame))) ↔
      g ∈ q.frames.inProgressFrames ∧
        ¬(q.frames.ackStatuses (key g) = .WAITING_FOR_BLOCK_ACK ∧
          blockAckBit blockAckReq.receiverAddress blockAck (key g) = some true) := by
    intro g
    rw [List.mem_filter]
    refine and_congr_right fun _ => ?_
    have hqos : blockAckBit blockAckReq.receiverAddress blockAck (key g) = some true →
        g.type = .ST_DATA_WITH_QOS := fun hbit => qos_of_blockAckBit (by rw [hbit]; rfl)
    simp only [ackedFrames, Bool.not_eq_true', Bool.and_eq_false_iff, decide_eq_false_iff_not]
    constructor
    · rintro (htype | hacked) hand
      · exact htype (hqos hand.2)
      · exact hacked hand
    · exact fun hacked => .inr hacked
  have hstatus : ∀ {id status},
      processReceivedBlockAck q.frames.ackStatuses blockAckReq.receiverAddress blockAck id = status →
      status ≠ .BLOCK_ACK_ARRIVED_ACKED → status ≠ .BLOCK_ACK_ARRIVED_UNACKED → q.frames.ackStatuses id = status ∧ status ≠ .WAITING_FOR_BLOCK_ACK := by
    intro id status hid hacked hunacked
    unfold processReceivedBlockAck at hid
    split at hid
    · next hwaiting =>
      obtain ⟨req, hreq, hrequests⟩ := h.block id hwaiting
      cases hreq
      obtain ⟨bit, hbit⟩ := Option.isSome_iff_exists.mp (blockAckBit_isSome hrequests htid hstart)
      rw [hbit] at hid
      cases bit
      · exact absurd hid.symm hunacked
      · exact absurd hid.symm hacked
    · next hwaiting => exact ⟨hid, fun heq => hwaiting (hid.trans heq)⟩
  have hsub : (q.frames.inProgressFrames.filter (fun frame =>
      !(frame.type = .ST_DATA_WITH_QOS &&
        ackedFrames q.frames.ackStatuses blockAckReq.receiverAddress blockAck
          (key frame)))).Sublist q.frames.inProgressFrames := List.filter_sublist
  refine ⟨h.nodup.sublist (hsub.map _), fun g hg => h.fresh g (hsub.subset hg), fun g hg => ?_, ?_,
    fun g hg => ?_, fun id hid => ?_, fun id hid => ?_, fun id hid => ?_, nofun⟩
  · rcases List.mem_append.mp hg with hg | hg
    · obtain ⟨f, hf, heq⟩ := List.mem_map.mp hg
      obtain rfl := Report.acknowledged.inj heq
      obtain ⟨hf, hacked⟩ := List.mem_filter.mp hf
      refine ⟨h.fresh f hf, fun g' hg' hid => ?_⟩
      obtain rfl := h.eq_of_id (hsub.subset hg') hf hid
      have hkept := (List.mem_filter.mp hg').2
      rw [hacked] at hkept
      cases hkept
    · exact (h.retired g hg).imp_right fun hne g' hg' => hne g' (hsub.subset hg')
  · refine List.pairwise_append.mpr ⟨?_, h.final, ?_⟩
    · rw [List.pairwise_map]
      exact List.pairwise_of_forall fun _ _ _ _ heq => by cases heq
    · intro later hlater _ _ f _ heq
      subst heq
      obtain ⟨g, -, hg⟩ := List.mem_map.mp hlater
      cases hg
  · obtain ⟨hg, hkept⟩ := hmem.mp hg
    change (processReceivedBlockAck q.frames.ackStatuses blockAckReq.receiverAddress blockAck
      (key g)).Live
    unfold processReceivedBlockAck
    split
    · next hwaiting =>
      obtain ⟨req, hreq, hrequests⟩ := h.block _ hwaiting
      cases hreq
      obtain ⟨bit, hbit⟩ := Option.isSome_iff_exists.mp (blockAckBit_isSome hrequests htid hstart)
      cases bit
      · rw [hbit]
        exact ⟨nofun, nofun, nofun⟩
      · exact absurd ⟨hwaiting, hbit⟩ hkept
    · exact h.live g hg
  · change processReceivedBlockAck _ _ _ id = _ at hid
    obtain ⟨hid, -⟩ := hstatus hid nofun nofun
    obtain ⟨g, hg, rfl, htype⟩ := h.outstanding id hid
    refine ⟨g, hmem.mpr ⟨hg, fun hacked => ?_⟩, rfl, htype⟩
    rw [hid] at hacked
    cases hacked.1
  · change processReceivedBlockAck _ _ _ id = _ at hid
    obtain ⟨hid, -⟩ := hstatus hid nofun nofun
    obtain ⟨g, hg, -⟩ := h.normal id hid
    cases hg
  · change processReceivedBlockAck _ _ _ id = _ at hid
    exact absurd rfl (hstatus hid nofun nofun).2

theorem transmittedStatus {statuses ackStatuses : AckStatuses}
    {policy : AckPolicy} (h : processTransmittedDataOrMgmtFrame statuses f policy = .ok ackStatuses) :
    (f.type ≠ .ST_DATA_WITH_QOS ∨ policy = .NORMAL_ACK →
      ackStatuses = Function.update statuses (key f) .WAITING_FOR_NORMAL_ACK) ∧
    (f.type = .ST_DATA_WITH_QOS → policy = .BLOCK_ACK →
      ackStatuses = Function.update statuses (key f) .BLOCK_ACK_NOT_YET_REQUESTED) := by
  unfold processTransmittedDataOrMgmtFrame at h
  split at h
  · next htype =>
    cases policy <;> simp_all
  · next htype => simp_all

/-- An unicast frame that was transmitted waits for its acknowledgement, or for a request. -/
theorem transmitted_eq {ackExpected : Bool}
    (htransmitted : q.Transmitted f q') (hunicast : ¬f.receiverAddress.isMulticast)
    (hpolicy : ¬f.isManagement → q.ackPolicy f.id = policyOf ackExpected)
    (hmanagement : f.isManagement → ackExpected = true)
    (hqos : ackExpected = false → f.type = .ST_DATA_WITH_QOS) :
    q' = { q with
      frames.ackStatuses := Function.update q.frames.ackStatuses (key f)
        (if ackExpected then .WAITING_FOR_NORMAL_ACK else .BLOCK_ACK_NOT_YET_REQUESTED) } := by
  cases htransmitted with
  | multicast hmulticast => exact absurd hmulticast hunicast
  | unicast _ hstatuses =>
    have hack : ¬((!f.isManagement && decide (q.ackPolicy f.id = .NO_ACK)) = true) := by
      intro hnoAck
      simp only [Bool.and_eq_true, Bool.not_eq_true', decide_eq_true_eq] at hnoAck
      have hq := hpolicy (by simp [hnoAck.1])
      rw [hnoAck.2] at hq
      cases ackExpected <;> cases hq
    have hdata : f.type = .ST_DATA_WITH_QOS → ¬f.isManagement := by
      intro htype
      simp [Ieee80211DataOrMgmtFrame.isManagement, htype]
    obtain ⟨hnormal, hblock⟩ := transmittedStatus hstatuses
    rw [if_neg hack]
    cases ackExpected with
    | true =>
      have hwaiting := hnormal (by
        by_cases htype : f.type = .ST_DATA_WITH_QOS
        · exact .inr (hpolicy (hdata htype))
        · exact .inl htype)
      rw [hwaiting]
      rfl
    | false =>
      rw [hblock (hqos rfl) (hpolicy (hdata (hqos rfl)))]
      rfl

theorem transmitted {ackExpected : Bool}
    (h : Tracked q.frames q.ackPolicy q.log none) (htransmitted : q.Transmitted f q')
    (hf : f ∈ q.frames.inProgressFrames) (hunicast : ¬f.receiverAddress.isMulticast)
    (hpolicy : ¬f.isManagement → q.ackPolicy f.id = policyOf ackExpected)
    (hmanagement : f.isManagement → ackExpected = true)
    (hqos : ackExpected = false → f.type = .ST_DATA_WITH_QOS) :
    Tracked q'.frames q'.ackPolicy q'.log (if ackExpected then some (.receiveAck f) else none) := by
  rw [transmitted_eq htransmitted hunicast hpolicy hmanagement hqos]
  cases ackExpected with
  | true =>
    refine h.update hf (fun id _ => h.idle id) ⟨nofun, nofun, nofun⟩ nofun (fun _ => rfl) nofun ?_
    rintro _ ⟨⟩
    exact ⟨hf, Function.update_self _ _ _, hpolicy⟩
  | false =>
    exact h.update hf (fun id _ => h.idle id) ⟨nofun, nofun, nofun⟩ (fun _ => hqos rfl) nofun nofun nofun

theorem failed {frames : InProgressFrames} {report : Report}
    (h : Tracked frames q.ackPolicy q.log none) (hf : f ∈ frames.inProgressFrames)
    (hstatus : frames.ackStatuses (key f) ≠ .BLOCK_ACK_NOT_YET_REQUESTED)
    (hreport : report = .transmissionFailed f ∨ report = .rtsTransmissionFailed f) :
    Tracked frames q.ackPolicy (report :: q.log) none ∧
      Tracked (frames.dropFrame f) q.ackPolicy (.discarded f :: report :: q.log) none := by
  have hreported : Tracked frames q.ackPolicy (report :: q.log) none :=
    h.report report (by rcases hreport with rfl | rfl <;> nofun) (by rcases hreport with rfl | rfl <;> nofun)
  exact ⟨hreported, (hreported.dropFrame hf hstatus).report _ nofun nofun⟩

theorem processTransmittedBlockAckReq_cases (statuses : AckStatuses) (blockAckReq : BuiltBlockAckReq)
    (id : Key) :
    processTransmittedBlockAckReq statuses blockAckReq id = statuses id ∨
      statuses id = .BLOCK_ACK_NOT_YET_REQUESTED ∧
        processTransmittedBlockAckReq statuses blockAckReq id = .WAITING_FOR_BLOCK_ACK ∧
        ∃ receiverAddress sequenceNumber fragmentNumber,
          id = .qosData receiverAddress blockAckReq.tidInfo sequenceNumber fragmentNumber ∧
            blockAckReq.startingSequenceNumber ≤ sequenceNumber := by
  cases id with
  | qosData receiverAddress tid sequenceNumber fragmentNumber =>
    unfold processTransmittedBlockAckReq
    dsimp only
    split
    · next hmoved =>
      obtain ⟨rfl, hstatus, hle⟩ := hmoved
      exact .inr ⟨hstatus, rfl, receiverAddress, sequenceNumber, fragmentNumber, rfl, hle⟩
    · exact .inl rfl
  | mgmtOrNonQoS => exact .inl rfl

theorem blockAckRequested (h : Tracked q.frames q.ackPolicy q.log none)
    (hcovers : ∀ f ∈ q.frames.getOutstandingFrames, f.tid = blockAckReq.tidInfo → blockAckReq.Covers f) :
    Tracked { q.frames with
      ackStatuses := processTransmittedBlockAckReq q.frames.ackStatuses blockAckReq } q.ackPolicy q.log
      (some (.receiveBlockAck blockAckReq)) := by
  have hcases := processTransmittedBlockAckReq_cases q.frames.ackStatuses blockAckReq
  refine ⟨h.nodup, h.fresh, h.retired, h.final, fun f hf => ?_, fun id hid => ?_, fun id hid => ?_,
    fun id hid => ?_, fun st hst => ?_⟩
  · rcases hcases (key f) with heq | ⟨-, heq, -⟩
    · dsimp only
      rw [heq]
      exact h.live f hf
    · dsimp only
      rw [heq]
      exact ⟨nofun, nofun, nofun⟩
  · dsimp only at hid
    rcases hcases id with heq | ⟨hold, -⟩
    · exact h.outstanding id (heq.symm.trans hid)
    · exact h.outstanding id hold
  · dsimp only at hid
    rcases hcases id with heq | ⟨-, heq, -⟩
    · exact absurd (heq.symm.trans hid) (h.idle id).1
    · exact absurd (heq.symm.trans hid) nofun
  · dsimp only at hid
    rcases hcases id with heq | ⟨hold, -, receiverAddress, sequenceNumber, fragmentNumber, rfl, hle⟩
    · exact absurd (heq.symm.trans hid) (h.idle id).2
    · refine ⟨blockAckReq, rfl, ?_⟩
      obtain ⟨f, hf, hkey, htype⟩ := h.outstanding _ hold
      have hmem : f ∈ q.frames.getOutstandingFrames := by
        refine List.mem_filter.mpr ⟨hf, ?_⟩
        simp [isOutstandingFrame, htype, hkey, hold]
      unfold key at hkey
      rw [if_pos htype] at hkey
      obtain ⟨rfl, htid, rfl, rfl⟩ := Key.qosData.inj hkey
      obtain ⟨hiff, hfragment⟩ := of_decide_eq_true (hcovers f hmem htid)
      obtain ⟨hreceiver, hwindow⟩ := hiff.mp hle
      exact ⟨hreceiver, rfl, hwindow, hfragment hle⟩
  · cases hst
    trivial

theorem completes (h : Tracked q.frames q.ackPolicy q.log step)
    (hkeeps : ∀ st ∈ step, KeepsTrack q e st) (hcompletes : Completes p ac e q step q' step') :
    Tracked q'.frames q'.ackPolicy q'.log step' := by
  cases hcompletes with
  | granted => exact h
  | collided hcollides =>
    cases hcollides with
    | @data frames frame retryLimitReached contention hext heligible hdata hlimit
    | @management frames frame edcaf retryLimitReached contention hext heligible hmanagement hwindow =>
      have hfailed := (h.extend hext).failed (List.mem_of_find?_eq_some heligible)
        (status_of_eligible (List.find?_some heligible)) (.inl rfl)
      cases retryLimitReached
      · exact hfailed.1
      · exact hfailed.2
  | @multicastTransmitted _ _ _ _ frame htransmitted =>
    obtain ⟨hf, heligible, hmulticast⟩ := h.suits _ rfl
    cases htransmitted with
    | multicast _ => exact (h.finish nofun nofun).dropFrame hf (status_of_eligible heligible)
    | unicast hunicast _ => exact absurd hmulticast hunicast
  | @rtsTransmitted _ _ _ protectedFrame next =>
    have hsuits := h.suits _ rfl
    exact (h.finish nofun nofun).start hsuits
  | @dataTransmitted _ _ ackExpected _ _ frame requests htransmitted hrequests =>
    obtain ⟨hf, -, hunicast, hdata, hpolicy, hqos⟩ := h.suits _ rfl
    exact Tracked.withPending ((h.finish nofun nofun).transmitted htransmitted hf hunicast
      (fun _ => hpolicy) (fun hmanagement => absurd hmanagement hdata) hqos) _
  | managementTransmitted htransmitted =>
    obtain ⟨hf, -, hunicast, hmanagement⟩ := h.suits _ rfl
    have htracked := @transmitted _ _ _ true (h.finish nofun nofun) htransmitted hf hunicast
      (fun hdata => absurd hmanagement hdata) (fun _ => rfl) nofun
    exact htracked
  | @blockAckReqTransmitted _ _ _ blockAckReq =>
    have hcovers : ∀ f ∈ q.frames.getOutstandingFrames, f.tid = blockAckReq.tidInfo →
        blockAckReq.Covers f := of_decide_eq_true (hkeeps _ rfl)
    exact (h.finish nofun nofun).blockAckRequested hcovers
  | ctsReceived => exact h.finish nofun nofun
  | dataAckReceived hdata hcounters hstatuses =>
    obtain ⟨hframes, hpolicy, hlog, -⟩ := ackDataFrame_eq_ok hcounters
    rw [hframes] at hstatuses
    have hacked := h.acknowledge hstatuses (of_decide_eq_true (hkeeps _ rfl))
    unfold EdcaQueue.acknowledge EdcaQueue.report at hacked ⊢
    dsimp only at hacked ⊢
    rw [hframes, hpolicy, hlog]
    exact hacked
  | managementAckReceived hmanagement hwindow hstatuses =>
    exact h.acknowledge hstatuses (of_decide_eq_true (hkeeps _ rfl))
  | blockAckReceived =>
    obtain ⟨rfl, htid, hstart⟩ := of_decide_eq_true (hkeeps _ rfl)
    exact h.blockAcked htid hstart
  | blockAckLost he hlost =>
    have hkept := hkeeps _ rfl
    cases e with
    | lowerFrame frame remaining =>
      cases frame with
      | blockAck transmitterAddress blockAck => exact absurd rfl (hlost transmitterAddress blockAck remaining)
      | ack | cts | other => cases hkept
    | startRxTimeout | corruptedFrameReceived => cases hkept
    | upperFrame _ | pendingQueueChanged _ _ | agreementsChanged _ | channelGranted _ _
    | transmissionComplete _ _ => cases he
  | @rtsFailed _ _ protectedFrame next retryLimitReached hdata hlimit =>
    obtain ⟨heligible, -⟩ := h.suits _ rfl
    have hfailed := (h.finish nofun nofun).failed (List.mem_of_find?_eq_some heligible)
      (status_of_eligible (List.find?_some heligible)) (.inr rfl)
    cases retryLimitReached
    · exact hfailed.1
    · exact hfailed.2
  | @dataFailed _ _ failedFrame retryLimitReached hdata hlimit
  | @managementFailed _ _ failedFrame edcaf retryLimitReached hmanagement hwindow =>
    obtain ⟨hf, -, -⟩ := h.suits _ rfl
    have hanswered := h.answered .NORMAL_ACK_NOT_ARRIVED ⟨nofun, nofun, nofun⟩ nofun nofun nofun
    have hfailed := hanswered.failed hf (by dsimp only; rw [Function.update_self]; nofun) (.inl rfl)
    cases retryLimitReached
    · exact hfailed.1
    · exact hfailed.2
  | blockAckDataFailed hdata hpolicy =>
    exact h.answered .NORMAL_ACK_NOT_ARRIVED ⟨nofun, nofun, nofun⟩ nofun nofun nofun

theorem evolves (h : Tracked q.frames q.ackPolicy q.log step)
    (hkeeps : ∀ st ∈ step, KeepsTrack q e st) (hevolves : Evolves p ac e q step q' step') :
    Tracked q'.frames q'.ackPolicy q'.log step' := by
  cases hevolves with
  | adjusts hadjusts =>
    obtain ⟨pendingQueue, hbelongs, hwindow⟩ := hadjusts
    exact h.withPending pendingQueue
  | stays contention hcompletes =>
    have hcompleted := h.completes hkeeps hcompletes
    exact hcompleted
  | @continues q₁ _ _ contention contention' hcompletes hcontinues =>
    have hcompleted := h.completes hkeeps hcompletes
    have hcontinued := @Tracked.continues _ (q₁.contend contention) _ hcompleted hcontinues
    exact hcontinued

theorem initial (h : q.Initial) : Tracked q.frames q.ackPolicy q.log none := by
  refine ⟨?_, ?_, ?_, ?_, ?_, fun id hid => ?_, fun id hid => ?_, fun id hid => ?_, nofun⟩
  · rw [h.inProgressFrames]
    exact List.nodup_nil
  · rw [h.inProgressFrames]
    nofun
  · rw [h.log]
    nofun
  · rw [h.log]
    exact List.Pairwise.nil
  · rw [h.inProgressFrames]
    nofun
  all_goals
    rw [h.ackStatuses] at hid
    cases hid

end Tracked

/-- Why a frame is in progress no more. -/
inductive Leaves (e : Event) (step : Option SequenceStep) (q' : EdcaQueue)
    (f : Ieee80211DataOrMgmtFrame) : Prop where
  | acknowledged (remaining : Bool) (he : e = .lowerFrame .ack remaining)
      (hstep : step = some (.receiveAck f)) (hlog : .acknowledged f ∈ q'.log)
  | blockAcknowledged (blockAckReq : BuiltBlockAckReq) (blockAck : Ieee80211BasicBlockAck)
      (remaining : Bool) (he : e = .lowerFrame (.blockAck f.receiverAddress blockAck) remaining)
      (hstep : step = some (.receiveBlockAck blockAckReq))
      (hbit : blockAckBit f.receiverAddress blockAck (key f) = some true)
      (hlog : .acknowledged f ∈ q'.log)
  | discarded (hlog : .discarded f ∈ q'.log)
  | multicast (hmulticast : f.receiverAddress.isMulticast)
      (hstep : step = some (.transmitMulticast f))

namespace Leaves

variable {p : HcfParameters} {ac : AccessCategory} {e : Event} {q q' q'' : EdcaQueue} {step step' : Option SequenceStep}
  {f : Ieee80211DataOrMgmtFrame}

theorem mono (h : Leaves e step q' f) (hlog : ∀ r ∈ q'.log, r ∈ q''.log) : Leaves e step q'' f := by
  cases h with
  | acknowledged remaining he hstep hf => exact .acknowledged remaining he hstep (hlog _ hf)
  | blockAcknowledged blockAckReq blockAck remaining he hstep hbit hf =>
    exact .blockAcknowledged blockAckReq blockAck remaining he hstep hbit (hlog _ hf)
  | discarded hf => exact .discarded (hlog _ hf)
  | multicast hmulticast hstep => exact .multicast hmulticast hstep

theorem dropped {frames : InProgressFrames} {g : Ieee80211DataOrMgmtFrame} {ackPolicy : ℕ → AckPolicy}
    {log : List Report} (h : Tracked frames ackPolicy log step) (hg : g ∈ frames.inProgressFrames)
    (hf : f ∈ frames.inProgressFrames)
    (hleft : f ∉ (frames.dropFrame g).inProgressFrames) : f = g := by
  by_contra hne
  refine hleft (List.mem_filter.mpr ⟨hf, decide_eq_true fun hid => hne ?_⟩)
  exact h.eq_of_id hf hg hid

theorem qosKey {transmitterAddress : MACAddress} {blockAck : Ieee80211BasicBlockAck}
    (h : blockAckBit transmitterAddress blockAck (key f) = some true) :
    f.receiverAddress = transmitterAddress := by
  unfold key at h
  split at h
  · unfold blockAckBit at h
    dsimp only at h
    split at h
    · next hmatch => exact hmatch.1
    · cases h
  · cases h

theorem of_completes (h : Tracked q.frames q.ackPolicy q.log step)
    (hcompletes : Completes p ac e q step q' step') (hf : f ∈ q.frames.inProgressFrames)
    (hleft : f ∉ q'.frames.inProgressFrames) : Leaves e step q' f := by
  cases hcompletes with
  | granted | rtsTransmitted | blockAckReqTransmitted | ctsReceived | blockAckLost he hlost
  | blockAckDataFailed hdata hpolicy => exact absurd hf hleft
  | collided hcollides =>
    cases hcollides with
    | @data frames frame retryLimitReached contention hext heligible hdata hlimit
    | @management frames frame edcaf retryLimitReached contention hext heligible hmanagement hwindow =>
      have hf' := mem_of_extends hext hf
      cases retryLimitReached
      · exact absurd hf' hleft
      · obtain rfl := dropped (h.extend hext) (List.mem_of_find?_eq_some heligible) hf' hleft
        exact .discarded (.head _)
  | @multicastTransmitted _ _ _ _ frame htransmitted =>
    obtain ⟨hg, -, hmulticast⟩ := h.suits _ rfl
    cases htransmitted with
    | multicast _ =>
      obtain rfl := dropped h hg hf hleft
      exact .multicast hmulticast rfl
    | unicast hunicast _ => exact absurd hmulticast hunicast
  | @dataTransmitted _ _ ackExpected _ _ frame requests htransmitted hrequests =>
    obtain ⟨-, -, hunicast, hdata, hpolicy, hqos⟩ := h.suits _ rfl
    have heq := Tracked.transmitted_eq htransmitted hunicast (fun _ => hpolicy)
      (fun hmanagement => absurd hmanagement hdata) hqos
    subst heq
    exact absurd hf hleft
  | managementTransmitted htransmitted =>
    obtain ⟨-, -, hunicast, hmanagement⟩ := h.suits _ rfl
    have heq := Tracked.transmitted_eq htransmitted hunicast
      (fun hdata => absurd hmanagement hdata) (fun _ => rfl) nofun
    subst heq
    exact absurd hf hleft
  | dataAckReceived hdata hcounters hstatuses =>
    obtain ⟨hframes, -⟩ := Tracked.ackDataFrame_eq_ok hcounters
    obtain ⟨hg, -⟩ := h.suits _ rfl
    unfold EdcaQueue.acknowledge EdcaQueue.report at hleft
    dsimp only at hleft
    rw [hframes] at hleft
    obtain rfl := dropped h hg hf hleft
    exact .acknowledged _ rfl rfl (.head _)
  | managementAckReceived hmanagement hwindow hstatuses =>
    obtain ⟨hg, -⟩ := h.suits _ rfl
    obtain rfl := dropped h hg hf hleft
    exact .acknowledged _ rfl rfl (.head _)
  | @blockAckReceived remaining _ blockAckReq transmitterAddress blockAck =>
    have hacked : (f.type = .ST_DATA_WITH_QOS && ackedFrames q.frames.ackStatuses transmitterAddress
        blockAck (key f)) = true := by
      by_contra hnot
      exact hleft (List.mem_filter.mpr ⟨hf, by rw [Bool.not_eq_true] at hnot; rw [hnot]; rfl⟩)
    have hbit : blockAckBit transmitterAddress blockAck (key f) = some true := by
      simp only [ackedFrames, Bool.and_eq_true, decide_eq_true_eq] at hacked
      exact hacked.2.2
    obtain rfl := qosKey hbit
    refine .blockAcknowledged blockAckReq blockAck remaining rfl rfl hbit ?_
    exact List.mem_append_left _ (List.mem_map_of_mem (List.mem_filter.mpr ⟨hf, hacked⟩))
  | @rtsFailed _ _ protectedFrame next retryLimitReached hdata hlimit =>
    obtain ⟨heligible, -⟩ := h.suits _ rfl
    cases retryLimitReached
    · exact absurd hf hleft
    · obtain rfl := dropped h (List.mem_of_find?_eq_some heligible) hf hleft
      exact .discarded (.head _)
  | @dataFailed _ _ failedFrame retryLimitReached hdata hlimit =>
    obtain ⟨hg, -⟩ := h.suits _ rfl
    cases retryLimitReached
    · exact absurd hf hleft
    · obtain rfl := dropped h hg hf hleft
      exact .discarded (.head _)
  | @managementFailed _ _ failedFrame edcaf retryLimitReached hmanagement hwindow =>
    obtain ⟨hg, -⟩ := h.suits _ rfl
    cases retryLimitReached
    · exact absurd hf hleft
    · obtain rfl := dropped h hg hf hleft
      exact .discarded (.head _)

theorem of_continues (hcontinues : Continues q q' step) :
    (∀ f ∈ q.frames.inProgressFrames, f ∈ q'.frames.inProgressFrames) ∧ ∀ r ∈ q.log, r ∈ q'.log := by
  cases hcontinues with
  | transmit hext heligible hext' hstep =>
    exact ⟨fun f hf => mem_of_extends hext' (mem_of_extends hext hf), fun r => List.mem_cons_of_mem _⟩
  | rts hext heligible hunicast hmanagement hnext | blockAckReq blockAckReq hext | released hext =>
    exact ⟨fun f => mem_of_extends hext, fun _ => id⟩

theorem of_evolves (h : Tracked q.frames q.ackPolicy q.log step)
    (hevolves : Evolves p ac e q step q' step') (hf : f ∈ q.frames.inProgressFrames)
    (hleft : f ∉ q'.frames.inProgressFrames) : Leaves e step q' f := by
  cases hevolves with
  | adjusts hadjusts =>
    obtain ⟨pendingQueue, hbelongs, hwindow⟩ := hadjusts
    exact absurd hf hleft
  | @stays q₁ contention hcompletes hcompletes' =>
    have hleaves := of_completes h hcompletes' hf hleft
    exact hleaves.mono fun _ => id
  | @continues q₁ q₂ _ contention contention' hcompletes hcontinues =>
    obtain ⟨hkept, hlog⟩ := of_continues hcontinues
    have hleaves := of_completes h hcompletes hf fun hf' => hleft (hkept f hf')
    exact hleaves.mono hlog

end Leaves

end inet.ieee80211
