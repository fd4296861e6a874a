import LoRaInet.LinkLayer.Ieee80211.Mac.CoordinationFunction.Hcf.Continuation
import Mathlib.Data.List.Dedup

open omnetpp

namespace inet.ieee80211

open QoSAckHandler

namespace InProgressFrames

variable {q : InProgressFrames}

theorem eligibleFrame_of_hasEligibleFrameToTransmit (h : q.hasEligibleFrameToTransmit) :
    ∃ f, q.eligibleFrame = some f := by
  obtain ⟨f, hf, heligible⟩ := List.any_eq_true.mp h
  exact Option.isSome_iff_exists.mp (List.find?_isSome.mpr ⟨f, hf, heligible⟩)

/-- The first of the frames that wait can be transmitted as soon as it gets in progress. -/
theorem eligibleFrame_ensured (h : !q.pendingQueue.isEmpty || q.hasEligibleFrameToTransmit) :
    ∃ f, q.ensured.eligibleFrame = some f := by
  apply eligibleFrame_of_hasEligibleFrameToTransmit
  unfold ensured
  split
  · next heligible => exact heligible
  · next hnone =>
    unfold extracted
    split
    · next hempty => simp [hempty, hnone] at h
    · next fragments pendingQueue hpending =>
      obtain ⟨f, hf, hkey⟩ := @exists_numbered fragments.frames _ q.nextId (.head _)
      refine List.any_eq_true.mpr ⟨f, List.mem_append_right _ hf, ?_⟩
      have hnew : (({ q with pendingQueue := pendingQueue } : InProgressFrames).pushed
          fragments.frames).ackStatuses (key f) = .FRAME_NOT_YET_TRANSMITTED :=
        if_pos ⟨fragments.first, (.head _), hkey.symm⟩
      simp [isEligibleToTransmit, hnew]

end InProgressFrames

open InProgressFrames

namespace OriginatorQoSAckPolicy

variable {l : List Ieee80211DataOrMgmtFrame} {receiverAddress : MACAddress}

theorem mem_receivers : receiverAddress ∈ receivers l ↔ ∃ f ∈ l, f.receiverAddress = receiverAddress := by
  unfold receivers
  rw [List.mem_insertionSort, List.mem_dedup, List.mem_map]

theorem largestOutstandingFrames_mem {begin : MACAddress} (h : begin ∈ receivers l) :
    largestOutstandingFrames l begin ∈ receivers l := by
  have hfold : ∀ (candidates : List MACAddress) first, first ∈ receivers l →
      (∀ x ∈ candidates, x ∈ receivers l) → candidates.foldl (fun largest receiverAddress =>
        if (outstandingFramesOf l largest).length < (outstandingFramesOf l receiverAddress).length then
          receiverAddress
        else largest) first ∈ receivers l := by
    intro candidates
    induction candidates with
    | nil => exact fun first hfirst _ => hfirst
    | cons x candidates ih =>
      intro first hfirst hall
      rw [List.foldl_cons]
      refine ih _ ?_ fun y hy => hall y (List.mem_cons_of_mem x hy)
      split
      · exact hall x (.head _)
      · exact hfirst
  exact hfold _ _ h fun _ => id

theorem computeBlockAckReqParameters_of_needed {policy : OriginatorQoSAckPolicy}
    (h : policy.isBlockAckReqNeeded l) : ∃ blockAckReq, computeBlockAckReqParameters l = some blockAckReq := by
  obtain ⟨x, hx, -⟩ := List.any_eq_true.mp h
  unfold computeBlockAckReqParameters
  cases hreceivers : receivers l with
  | nil => simp [hreceivers] at hx
  | cons begin rest =>
    have hbegin : begin ∈ receivers l := by simp [hreceivers]
    obtain ⟨f, hf, haddress⟩ := mem_receivers.mp (largestOutstandingFrames_mem hbegin)
    have hmem : f ∈ outstandingFramesOf l (largestOutstandingFrames l begin) :=
      List.mem_filter.mpr ⟨hf, by simpa using haddress⟩
    cases hof : outstandingFramesOf l (largestOutstandingFrames l begin) with
    | nil => simp [hof] at hmem
    | cons first rest =>
      refine ⟨⟨largestOutstandingFrames l begin, first.tid, computeStartingSequenceNumber first rest⟩, ?_⟩
      dsimp only
      rw [hof]

end OriginatorQoSAckPolicy

namespace Hcf

variable {p : HcfParameters} {s : Hcf} {ac : AccessCategory}

theorem transmitFrame_returns {frame : Ieee80211DataOrMgmtFrame} {step : SequenceStep}
    (hfree : (s.queue ac).frames.Unblocked) :
    Returns (transmitFrame p s ac frame step) fun _ => True := by
  unfold transmitFrame
  exact hfree.getPendingFrameFor.bind fun _ _ => .pure trivial

theorem startElement_returns {sequence : TxOpSequence} (hfree : (s.queue ac).frames.Unblocked)
    (hframe : sequence ≠ .blockAckReqBlockAck → ∃ f, (s.queue ac).frames.ensured.eligibleFrame = some f ∧
      (sequence = .managementAck ↔ f.isManagement))
    (hrequest : sequence = .blockAckReqBlockAck → ∃ blockAckReq,
      OriginatorQoSAckPolicy.computeBlockAckReqParameters (s.queue ac).frames.getOutstandingFrames =
        some blockAckReq) : Returns (startElement p s ac sequence) fun _ => True := by
  have hensured : ∀ frame step, Returns (transmitFrame p
      (s.setQueue ac { s.queue ac with frames := (s.queue ac).frames.ensured }) ac frame step)
      fun _ => True := by
    intro frame step
    apply transmitFrame_returns
    rw [setQueue_self]
    exact hfree.extends (.ensured _)
  unfold startElement
  cases sequence with
  | blockAckReqBlockAck =>
    obtain ⟨blockAckReq, heq⟩ := hrequest rfl
    rw [heq]
    exact hfree.getPendingFrameFor.bind fun _ _ => .pure trivial
  | managementAck =>
    obtain ⟨f, heligible, hmanagement⟩ := hframe nofun
    rw [hfree.getFrameToTransmit, heligible]
    change Returns (if f.isManagement then _ else _) _
    rw [if_pos (hmanagement.mp rfl)]
    exact hensured f _
  | dataBlockAck | dataAck =>
    obtain ⟨f, heligible, hmanagement⟩ := hframe nofun
    rw [hfree.getFrameToTransmit, heligible]
    change Returns (if f.isManagement then _ else _) _
    rw [if_neg fun hmgmt => TxOpSequence.noConfusion (hmanagement.mpr hmgmt)]
    exact hensured f _

theorem computeAckPolicy_cases (p : HcfParameters) (s : Hcf) (frame : Ieee80211DataOrMgmtFrame) :
    computeAckPolicy p s frame = .NORMAL_ACK ∨ computeAckPolicy p s frame = .BLOCK_ACK := by
  unfold computeAckPolicy OriginatorQoSAckPolicy.computeAckPolicy
  split
  · exact .inl rfl
  · split_ifs
    · exact .inr rfl
    · exact .inl rfl
    · exact .inl rfl

theorem selectTxOpSequence_returns (f : Ieee80211DataOrMgmtFrame) :
    Returns (selectTxOpSequence p s ac (some f)) fun sequence =>
      if p.originatorAckPolicy.isBlockAckReqNeeded (s.queue ac).frames.getOutstandingFrames then
        sequence = .blockAckReqBlockAck
      else sequence ≠ .blockAckReqBlockAck ∧ (sequence = .managementAck ↔ f.isManagement) := by
  unfold selectTxOpSequence
  split
  · exact .ok rfl
  · dsimp only
    split
    · next hmanagement => exact .ok ⟨nofun, iff_of_true rfl hmanagement⟩
    · next hdata =>
      rcases computeAckPolicy_cases p s f with hpolicy | hpolicy
      · rw [hpolicy]
        exact .ok ⟨nofun, iff_of_false nofun hdata⟩
      · rw [hpolicy]
        exact .ok ⟨nofun, iff_of_false nofun hdata⟩

theorem startTxOp_returns (hfree : (s.queue ac).frames.Unblocked)
    (hframe : ∃ f, (s.queue ac).frames.ensured.eligibleFrame = some f) :
    Returns (startTxOp p s ac) fun _ => True := by
  obtain ⟨f, heligible⟩ := hframe
  unfold startTxOp
  rw [hfree.getFrameToTransmit, heligible]
  let s₁ := s.setQueue ac { s.queue ac with frames := (s.queue ac).frames.ensured }
  have hfree₁ : (s₁.queue ac).frames.Unblocked := by
    rw [setQueue_self]
    exact hfree.extends (.ensured _)
  have heligible₁ : (s₁.queue ac).frames.ensured.eligibleFrame = some f := by
    rw [setQueue_self]
    dsimp only
    rw [ensured_eq_self heligible]
    exact heligible
  change Returns (selectTxOpSequence p s₁ ac (some f) >>= _) _
  refine (selectTxOpSequence_returns f).bind fun sequence hsequence => ?_
  split at hsequence
  · next hneeded =>
    subst hsequence
    refine startElement_returns hfree₁ (fun hne => absurd rfl hne) fun _ => ?_
    exact OriginatorQoSAckPolicy.computeBlockAckReqParameters_of_needed hneeded
  · obtain ⟨hne, hmanagement⟩ := hsequence
    have helement : Returns (startElement p s₁ ac sequence) fun _ => True :=
      startElement_returns hfree₁ (fun _ => ⟨f, heligible₁, hmanagement⟩) fun heq => absurd heq hne
    cases sequence with
    | blockAckReqBlockAck => exact helement
    | _ =>
      dsimp only
      split
      · exact .pure trivial
      · exact helement

theorem repeatSequence_returns {remaining : Bool} (hfree : (s.queue ac).frames.Unblocked) :
    Returns (repeatSequence p s ac remaining) fun _ => True := by
  unfold repeatSequence
  rw [hfree.hasInProgressFrames]
  change Returns (if (s.queue ac).frames.ensured.hasEligibleFrameToTransmit then _ else _) _
  split
  · next heligible =>
    obtain ⟨f, hf⟩ := eligibleFrame_of_hasEligibleFrameToTransmit heligible
    rw [hf]
    dsimp only
    split
    · refine startTxOp_returns ?_ ⟨f, ?_⟩
      · rw [setQueue_self]
        exact hfree.extends (.ensured _)
      · rw [setQueue_self]
        dsimp only
        rw [ensured_eq_self hf]
        exact hf
    · exact .pure trivial
  · exact .pure trivial

theorem repeatMulticastSequence_returns (hfree : (s.queue ac).frames.Unblocked) :
    Returns (repeatMulticastSequence s ac) fun _ => True := by
  unfold repeatMulticastSequence
  rw [hfree.hasInProgressFrames]
  exact .pure trivial

theorem startFrameSequence_returns (hidle : s.step = none) (hfree : (s.queue ac).frames.Unblocked)
    (hframe : (s.queue ac).hasFrameToTransmit) : Returns (startFrameSequence p s ac) fun _ => True := by
  obtain ⟨f, heligible⟩ := eligibleFrame_ensured hframe
  unfold startFrameSequence
  rw [hidle, if_neg nofun, hfree.getFrameToTransmit, heligible]
  have hfree₁ : ((s.setQueue ac { s.queue ac with
      frames := (s.queue ac).frames.ensured }).queue ac).frames.Unblocked := by
    rw [setQueue_self]
    exact hfree.extends (.ensured _)
  change Returns (if f.receiverAddress.isMulticast then _ else _) _
  split
  · exact transmitFrame_returns hfree₁
  · refine startTxOp_returns hfree₁ ⟨f, ?_⟩
    rw [setQueue_self]
    rw [ensured_eq_self heligible]
    exact heligible

end Hcf

end inet.ieee80211
