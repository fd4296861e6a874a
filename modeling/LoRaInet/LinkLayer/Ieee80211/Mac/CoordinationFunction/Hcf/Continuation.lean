import LoRaInet.LinkLayer.Ieee80211.Mac.CoordinationFunction.Hcf
import LoRaInet.LinkLayer.Ieee80211.Mac.Queue.InProgressFrames.Extraction

open omnetpp

namespace inet.ieee80211

namespace InProgressFrames

variable {q : InProgressFrames} {f : Ieee80211DataOrMgmtFrame}

theorem hasEligibleFrameToTransmit_of_eligibleFrame (h : q.eligibleFrame = some f) :
    q.hasEligibleFrameToTransmit :=
  List.any_eq_true.mpr ⟨f, List.mem_of_find?_eq_some h, List.find?_some h⟩

theorem ensured_eq_self (h : q.eligibleFrame = some f) : q.ensured = q := by
  unfold ensured
  rw [if_pos (hasEligibleFrameToTransmit_of_eligibleFrame h)]

end InProgressFrames

open InProgressFrames

namespace EdcaQueue

def contend (q : EdcaQueue) (isContentionInProgress : Bool) : EdcaQueue :=
  { q with dataRecovery.cwCalculator.isContentionInProgress := isContentionInProgress }

/-- The queue after a frame with this acknowledgement policy has been handed over. -/
def started (q : EdcaQueue) (frames : InProgressFrames) (frame : Ieee80211DataOrMgmtFrame)
    (policy : AckPolicy) : EdcaQueue :=
  { q with
    frames := frames
    ackPolicy :=
      if frame.isManagement then q.ackPolicy
      else Function.update q.ackPolicy frame.id policy }.report (.transmitted frame)

end EdcaQueue

open Hcf

/-- The policy that goes with a sequence of a data frame. -/
def policyOf (ackExpected : Bool) : AckPolicy := if ackExpected then .NORMAL_ACK else .BLOCK_ACK

/-- The first step of a sequence that transmits the frame with this policy. -/
inductive Transmits (frame : Ieee80211DataOrMgmtFrame) (policy : AckPolicy) : SequenceStep → Prop where
  | multicast (hmulticast : frame.receiverAddress.isMulticast) : Transmits frame policy (.transmitMulticast frame)
  | data {ackExpected : Bool} (hunicast : ¬frame.receiverAddress.isMulticast)
      (hdata : ¬frame.isManagement) (hpolicy : policy = policyOf ackExpected)
      (hqos : ackExpected = false → frame.type = .ST_DATA_WITH_QOS) :
      Transmits frame policy (.transmitData frame ackExpected)
  | management (hunicast : ¬frame.receiverAddress.isMulticast) (hmanagement : frame.isManagement) :
      Transmits frame policy (.transmitManagement frame)

/-- What the owner of the channel may do next: get frames in progress, and then start an element of
a sequence or release the channel. -/
inductive Continues (q : EdcaQueue) : EdcaQueue → Option SequenceStep → Prop where
  | transmit {frames frames' : InProgressFrames} {frame : Ieee80211DataOrMgmtFrame}
      {policy : AckPolicy} {step : SequenceStep} (hext : Extends q.frames frames)
      (heligible : frames.eligibleFrame = some frame) (hext' : Extends frames frames')
      (hstep : Transmits frame policy step) : Continues q (q.started frames' frame policy) (some step)
  | rts {frames : InProgressFrames} {frame : Ieee80211DataOrMgmtFrame} {next : TxOpSequence}
      (hext : Extends q.frames frames) (heligible : frames.eligibleFrame = some frame)
      (hunicast : ¬frame.receiverAddress.isMulticast)
      (hmanagement : next = .managementAck ↔ frame.isManagement)
      (hnext : next ≠ .blockAckReqBlockAck) :
      Continues q { q with frames := frames } (some (.transmitRts frame next))
  | blockAckReq {frames : InProgressFrames} (blockAckReq : BuiltBlockAckReq)
      (hext : Extends q.frames frames) :
      Continues q { q with frames := frames } (some (.transmitBlockAckReq blockAckReq))
  | released {frames : InProgressFrames} (hext : Extends q.frames frames) :
      Continues q { q with frames := frames } none

theorem Continues.extend {q q' : EdcaQueue} {step : Option SequenceStep} {frames : InProgressFrames}
    (hext : Extends q.frames frames) (h : Continues { q with frames := frames } q' step) :
    Continues q q' step := by
  cases h with
  | transmit hext' heligible hext'' hstep => exact .transmit (hext.trans hext') heligible hext'' hstep
  | rts hext' heligible hunicast hmanagement hnext =>
    exact .rts (hext.trans hext') heligible hunicast hmanagement hnext
  | blockAckReq blockAckReq hext' => exact .blockAckReq blockAckReq (hext.trans hext')
  | released hext' => exact .released (hext.trans hext')

namespace Hcf

variable {p : HcfParameters} {s : Hcf} {ac : AccessCategory}

@[simp] theorem setQueue_self (s : Hcf) (ac : AccessCategory) (q : EdcaQueue) :
    (s.setQueue ac q).queue ac = q := Function.update_self _ _ _

@[simp] theorem setQueue_setQueue (s : Hcf) (ac : AccessCategory) (q q' : EdcaQueue) :
    (s.setQueue ac q).setQueue ac q' = s.setQueue ac q' := by
  unfold setQueue
  simp

theorem setQueue_of_ne {ac' : AccessCategory} (s : Hcf) (q : EdcaQueue) (h : ac' ≠ ac) :
    (s.setQueue ac q).queue ac' = s.queue ac' := Function.update_of_ne h _ _

/-- The owner of the channel goes on, all other queues stay. -/
structure Resumes (ac : AccessCategory) (s s' : Hcf) : Prop where
  continues : ∃ q contention, Continues (s.queue ac) q s'.step ∧ s'.queue ac = q.contend contention
  others : ∀ ac' ≠ ac, s'.queue ac' = s.queue ac'
  owner : s'.channelOwner = if s'.step.isSome then s.channelOwner else none

theorem Resumes.extend {s' : Hcf} {frames : InProgressFrames} (hext : Extends (s.queue ac).frames frames)
    (h : Resumes ac (s.setQueue ac { s.queue ac with frames := frames }) s') : Resumes ac s s' := by
  obtain ⟨⟨q, contention, hcontinues, hq⟩, hothers, howner⟩ := h
  rw [setQueue_self] at hcontinues
  refine ⟨⟨q, contention, hcontinues.extend hext, hq⟩, fun ac' hne => ?_, howner⟩
  rw [hothers ac' hne, setQueue_of_ne _ _ hne]

theorem contend_self (q : EdcaQueue) :
    q.contend q.dataRecovery.cwCalculator.isContentionInProgress = q := rfl

variable {step : SequenceStep}

theorem resumes_setStep {q : EdcaQueue}
    (h : Continues (s.queue ac) q (some step)) : Resumes ac s ((s.setQueue ac q).setStep step) := by
  refine ⟨⟨q, q.dataRecovery.cwCalculator.isContentionInProgress, h, ?_⟩, fun ac' hne => ?_, rfl⟩
  · exact (setQueue_self s ac q).trans (contend_self q).symm
  · exact setQueue_of_ne s q hne

theorem frameSequenceFinished_resumes (s : Hcf) (ac : AccessCategory) :
    Resumes ac s (s.frameSequenceFinished ac) := by
  have hreleased : Continues (s.queue ac) (s.queue ac) none := .released (.refl _)
  unfold frameSequenceFinished
  dsimp only
  split
  · refine ⟨⟨_, true, hreleased, ?_⟩, fun ac' hne => ?_, rfl⟩
    · exact setQueue_self _ ac _
    · exact setQueue_of_ne _ _ hne
  · exact ⟨⟨_, _, hreleased, (contend_self _).symm⟩, fun _ _ => rfl, rfl⟩

variable {frame : Ieee80211DataOrMgmtFrame}

theorem transmitFrame_yields (heligible : (s.queue ac).frames.eligibleFrame = some frame)
    (hstep : Transmits frame (computeAckPolicy p s frame) step) :
    Yields (transmitFrame p s ac frame step) (Resumes ac s) := by
  unfold transmitFrame
  refine getPendingFrameFor_yields.bind fun frames hext => .pure ?_
  exact resumes_setStep (.transmit (.refl _) heligible hext hstep)

/-- The sequence suits the frame that is transmitted next. -/
def Suits (p : HcfParameters) (s : Hcf) (ac : AccessCategory) (sequence : TxOpSequence) : Prop :=
  sequence ≠ .blockAckReqBlockAck → ∀ frame,
    (s.queue ac).frames.ensured.eligibleFrame = some frame → ¬frame.receiverAddress.isMulticast ∧
      (sequence = .dataAck → computeAckPolicy p s frame = .NORMAL_ACK) ∧
      (sequence = .dataBlockAck → computeAckPolicy p s frame = .BLOCK_ACK)

theorem qos_of_blockAck
    (h : computeAckPolicy p s frame = .BLOCK_ACK) : frame.type = .ST_DATA_WITH_QOS := by
  unfold computeAckPolicy OriginatorQoSAckPolicy.computeAckPolicy at h
  split at h
  · cases h
  · split at h
    · next heligible =>
      simp only [OriginatorQoSAckPolicy.isBlockAckPolicyEligibleFrame, Bool.and_eq_true,
        decide_eq_true_eq] at heligible
      exact heligible.2.1
    · cases h

theorem transmitFrame_ensured_yields
    (heligible : (s.queue ac).frames.ensured.eligibleFrame = some frame)
    (hstep : Transmits frame (computeAckPolicy p s frame) step) :
    Yields (transmitFrame p
      (s.setQueue ac { s.queue ac with frames := (s.queue ac).frames.ensured }) ac frame step)
      (Resumes ac s) := by
  refine Yields.mono (transmitFrame_yields ?_ hstep) fun _ h => h.extend (.ensured _)
  rw [setQueue_self]
  exact heligible

theorem startElement_yields {sequence : TxOpSequence} (hsuits : Suits p s ac sequence) :
    Yields (startElement p s ac sequence) (Resumes ac s) := by
  unfold startElement
  cases sequence with
  | blockAckReqBlockAck =>
    dsimp only
    split
    · exact .error _
    · refine getPendingFrameFor_yields.bind fun frames hext => .pure ?_
      exact resumes_setStep (.blockAckReq _ hext)
  | managementAck =>
    refine getFrameToTransmit_bind fun frame heligible => ?_
    cases frame with
    | none => exact .error _
    | some frame =>
      obtain ⟨hunicast, -, -⟩ := hsuits nofun frame heligible
      dsimp only
      split
      · next hmanagement =>
        exact transmitFrame_ensured_yields heligible (.management hunicast hmanagement)
      · exact .error _
  | dataBlockAck =>
    refine getFrameToTransmit_bind fun frame heligible => ?_
    cases frame with
    | none => exact .error _
    | some frame =>
      obtain ⟨hunicast, -, hpolicy⟩ := hsuits nofun frame heligible
      dsimp only
      split
      · exact .error _
      · next hdata =>
        refine transmitFrame_ensured_yields heligible ?_
        exact .data hunicast hdata (hpolicy rfl) fun _ => qos_of_blockAck (hpolicy rfl)
  | dataAck =>
    refine getFrameToTransmit_bind fun frame heligible => ?_
    cases frame with
    | none => exact .error _
    | some frame =>
      obtain ⟨hunicast, hpolicy, -⟩ := hsuits nofun frame heligible
      dsimp only
      split
      · exact .error _
      · next hdata =>
        refine transmitFrame_ensured_yields heligible ?_
        exact .data hunicast hdata (hpolicy rfl) nofun

theorem selectTxOpSequence_yields {frame : Option Ieee80211DataOrMgmtFrame} :
    Yields (selectTxOpSequence p s ac frame) fun sequence =>
      sequence = .blockAckReqBlockAck ∨ ∃ f, frame = some f ∧
        (sequence = .managementAck ↔ f.isManagement) ∧
        (sequence = .dataAck → computeAckPolicy p s f = .NORMAL_ACK) ∧
        (sequence = .dataBlockAck → computeAckPolicy p s f = .BLOCK_ACK) := by
  unfold selectTxOpSequence
  split
  · exact .ok (.inl rfl)
  · split
    · exact .error _
    · next f =>
      split
      · next hmanagement => exact .ok (.inr ⟨f, rfl, by simp [hmanagement], nofun, nofun⟩)
      · next hdata =>
        split
        · next hpolicy => exact .ok (.inr ⟨f, rfl, by simp [hdata], nofun, fun _ => hpolicy⟩)
        · next hpolicy => exact .ok (.inr ⟨f, rfl, by simp [hdata], fun _ => hpolicy, nofun⟩)
        · exact .error _

theorem startTxOp_yields (hunicast : ∀ frame, (s.queue ac).frames.ensured.eligibleFrame = some frame →
      ¬frame.receiverAddress.isMulticast) : Yields (startTxOp p s ac) (Resumes ac s) := by
  unfold startTxOp
  refine getFrameToTransmit_bind fun frame heligible => ?_
  refine selectTxOpSequence_yields.bind fun sequence hsequence => ?_
  have hext := Extends.ensured (s.queue ac).frames
  have hblockAckReq : sequence = .blockAckReqBlockAck → Yields (startElement p
      (s.setQueue ac { s.queue ac with frames := (s.queue ac).frames.ensured }) ac sequence)
      (Resumes ac s) := by
    intro heq
    refine Yields.mono (startElement_yields ?_) fun _ h => h.extend hext
    exact fun hne => absurd heq hne
  split
  · exact hblockAckReq rfl
  · rcases hsequence with heq | ⟨f, hf, -⟩
    · exact hblockAckReq heq
    · cases hf
  · next sequence f hne =>
    obtain ⟨hunicastFrame, hsuits⟩ : ¬f.receiverAddress.isMulticast ∧ _ :=
      ⟨hunicast f heligible, hsequence.resolve_left hne⟩
    obtain ⟨g, hg, hmanagement, hack, hblock⟩ := hsuits
    cases hg
    split
    · exact .pure (resumes_setStep (.rts hext heligible hunicastFrame hmanagement hne))
    · refine Yields.mono (startElement_yields fun _ frame hframe => ?_) fun _ h => h.extend hext
      rw [setQueue_self] at hframe
      dsimp only at hframe
      rw [ensured_eq_self heligible] at hframe
      obtain rfl := Option.some.inj (heligible.symm.trans hframe)
      exact ⟨hunicastFrame, hack, hblock⟩

/-- `startTxOp` after the queue was asked for a frame that is not for a group. -/
theorem repeatSequence_yields {remaining : Bool} :
    Yields (repeatSequence p s ac remaining) (Resumes ac s) := by
  unfold repeatSequence
  refine hasInProgressFrames_yields.bind fun r hr => ?_
  obtain ⟨hasFrameToTransmit, frames⟩ := r
  cases hr
  dsimp only
  have hext := Extends.ensured (s.queue ac).frames
  have hfinished : Resumes ac s
      ((s.setQueue ac { s.queue ac with frames := (s.queue ac).frames.ensured }).frameSequenceFinished ac) :=
    (frameSequenceFinished_resumes _ ac).extend hext
  split
  · split
    · exact .error _
    · next frame heligible =>
      split
      · next hunicast =>
        refine Yields.mono (startTxOp_yields fun f hf => ?_) fun _ h => h.extend hext
        rw [setQueue_self] at hf
        dsimp only at hf
        rw [ensured_eq_self heligible] at hf
        obtain rfl := Option.some.inj (heligible.symm.trans hf)
        simp only [Bool.and_eq_true, Bool.not_eq_true'] at hunicast
        simp [hunicast.1]
      · exact .pure hfinished
  · exact .pure hfinished

theorem repeatMulticastSequence_yields : Yields (repeatMulticastSequence s ac) (Resumes ac s) := by
  unfold repeatMulticastSequence
  refine hasInProgressFrames_yields.bind fun r hr => ?_
  obtain ⟨hasFrameToTransmit, frames⟩ := r
  cases hr
  exact .pure ((frameSequenceFinished_resumes _ ac).extend (.ensured _))

theorem startFrameSequence_yields :
    Yields (startFrameSequence p s ac) fun s' => s.step = none ∧ Resumes ac s s' := by
  unfold startFrameSequence
  split
  · exact .error _
  · next hstep =>
    have hidle : s.step = none := by simpa using hstep
    refine getFrameToTransmit_bind fun frame heligible => ?_
    cases frame with
    | none => exact .error _
    | some frame =>
      dsimp only
      split
      · next hmulticast =>
        exact (transmitFrame_ensured_yields heligible (.multicast hmulticast)).mono
          fun _ h => ⟨hidle, h⟩
      · next hunicast =>
        refine Yields.mono (startTxOp_yields fun f hf => ?_) fun _ h => ⟨hidle, h.extend (.ensured _)⟩
        rw [setQueue_self] at hf
        dsimp only at hf
        rw [ensured_eq_self heligible] at hf
        obtain rfl := Option.some.inj (heligible.symm.trans hf)
        exact hunicast

end Hcf

end inet.ieee80211
