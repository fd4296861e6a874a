import LoRaInet.LinkLayer.Ieee80211.Mac.Queue.InProgressFrames
import Mathlib.Logic.Relation

open omnetpp

namespace inet.ieee80211

namespace QoSAckHandler

/-- The frame cannot get in progress: another frame with its key is still waited for. -/
def Blocked (ackStatuses : AckStatuses) (frame : Ieee80211DataOrMgmtFrame) : Prop :=
  ackStatuses (key frame) = .WAITING_FOR_NORMAL_ACK ∨
    frame.type = .ST_DATA_WITH_QOS ∧ (ackStatuses (key frame) = .BLOCK_ACK_NOT_YET_REQUESTED ∨
      ackStatuses (key frame) = .WAITING_FOR_BLOCK_ACK)

variable {ackStatuses : AckStatuses} {frame : Ieee80211DataOrMgmtFrame}

@[simp] theorem key_id (frame : Ieee80211DataOrMgmtFrame) (id : ℕ) :
    key { frame with id := id } = key frame := rfl

theorem frameGotInProgress_eq_ok {ackStatuses' : AckStatuses} :
    frameGotInProgress ackStatuses frame = .ok ackStatuses' ↔ ¬Blocked ackStatuses frame ∧
        ackStatuses' = Function.update ackStatuses (key frame) .FRAME_NOT_YET_TRANSMITTED := by
  unfold frameGotInProgress Blocked
  by_cases hwaiting : ackStatuses (key frame) = .WAITING_FOR_NORMAL_ACK
  · simp [ASSERT, hwaiting, bind, Except.bind]
  · by_cases htype : frame.type = .ST_DATA_WITH_QOS
    · by_cases hblock : ackStatuses (key frame) ≠ .BLOCK_ACK_NOT_YET_REQUESTED ∧
          ackStatuses (key frame) ≠ .WAITING_FOR_BLOCK_ACK
      · rw [assert_bind hwaiting, if_pos htype, assert_bind hblock]
        simp [hwaiting, htype, hblock.1, hblock.2, pure, Except.pure, eq_comm]
      · rw [assert_bind hwaiting, if_pos htype, ASSERT, if_neg hblock]
        have hor := not_and_or.mp hblock
        simp only [not_not] at hor
        simp [bind, Except.bind, hwaiting, htype, hor]
    · rw [assert_bind hwaiting, if_neg htype]
      simp [hwaiting, htype, pure, Except.pure, eq_comm]

end QoSAckHandler

open QoSAckHandler

namespace InProgressFrames

/-- Frames that get in progress one after the other, as objects of their own. -/
def numbered (nextId : ℕ) : List Ieee80211DataOrMgmtFrame → List Ieee80211DataOrMgmtFrame
  | [] => []
  | frame :: frames => { frame with id := nextId } :: numbered (nextId + 1) frames

variable {frames : List Ieee80211DataOrMgmtFrame} {frame : Ieee80211DataOrMgmtFrame}

theorem mem_numbered : ∀ {nextId : ℕ}, frame ∈ numbered nextId frames →
      nextId ≤ frame.id ∧ frame.id < nextId + frames.length ∧
        ∃ f ∈ frames, frame = { f with id := frame.id } := by
  induction frames with
  | nil => intro nextId h; cases h
  | cons f frames ih =>
    intro nextId h
    rcases List.mem_cons.mp h with rfl | h
    · exact ⟨le_refl _, by simp, f, (.head _), rfl⟩
    · obtain ⟨hle, hlt, g, hg, heq⟩ := ih h
      refine ⟨by omega, by simp only [List.length_cons]; omega, g, List.mem_cons_of_mem f hg, heq⟩

theorem nodup_numbered (frames : List Ieee80211DataOrMgmtFrame) :
    ∀ nextId : ℕ, ((numbered nextId frames).map (·.id)).Nodup := by
  induction frames with
  | nil => exact fun _ => List.nodup_nil
  | cons f frames ih =>
    intro nextId
    refine List.nodup_cons.mpr ⟨fun hmem => ?_, ih (nextId + 1)⟩
    obtain ⟨g, hg, heq⟩ := List.mem_map.mp hmem
    have hle := (mem_numbered hg).1
    dsimp only at heq
    omega

variable {f : Ieee80211DataOrMgmtFrame}

theorem exists_numbered :
    ∀ {nextId : ℕ}, f ∈ frames → ∃ frame ∈ numbered nextId frames, key frame = key f := by
  induction frames with
  | nil => intro nextId h; cases h
  | cons g frames ih =>
    intro nextId h
    rcases List.mem_cons.mp h with rfl | h
    · exact ⟨_, (.head _), rfl⟩
    · obtain ⟨frame, hframe, hkey⟩ := @ih (nextId + 1) h
      exact ⟨frame, .tail _ hframe, hkey⟩

/-- The queue after some frames have got in progress. -/
def pushed (q : InProgressFrames) (frames : List Ieee80211DataOrMgmtFrame) : InProgressFrames :=
  { q with
    inProgressFrames := q.inProgressFrames ++ numbered q.nextId frames
    ackStatuses := fun id =>
      if ∃ frame ∈ frames, key frame = id then .FRAME_NOT_YET_TRANSMITTED else q.ackStatuses id
    nextId := q.nextId + frames.length }

variable {q q' : InProgressFrames}

theorem mem_pushed (h : f ∈ (q.pushed frames).inProgressFrames) : f ∈ q.inProgressFrames ∨
      q.nextId ≤ f.id ∧ f.id < q.nextId + frames.length ∧ ∃ g ∈ frames, f = { g with id := f.id } :=
  (List.mem_append.mp h).imp_right mem_numbered

theorem nodup_pushed (hnodup : (q.inProgressFrames.map (·.id)).Nodup)
    (hfresh : ∀ f ∈ q.inProgressFrames, f.id < q.nextId) (frames : List Ieee80211DataOrMgmtFrame) :
    ((q.pushed frames).inProgressFrames.map (·.id)).Nodup := by
  change ((q.inProgressFrames ++ numbered q.nextId frames).map (·.id)).Nodup
  rw [List.map_append]
  refine List.Nodup.append hnodup (nodup_numbered frames q.nextId) fun id hid hid' => ?_
  obtain ⟨f, hf, rfl⟩ := List.mem_map.mp hid
  obtain ⟨g, hg, heq⟩ := List.mem_map.mp hid'
  have hlt := hfresh f hf
  have hle := (mem_numbered hg).1
  omega

theorem fresh_pushed (hfresh : ∀ f ∈ q.inProgressFrames, f.id < q.nextId)
    (frames : List Ieee80211DataOrMgmtFrame) :
    ∀ f ∈ (q.pushed frames).inProgressFrames, f.id < (q.pushed frames).nextId := by
  intro f hf
  change f.id < q.nextId + frames.length
  rcases mem_pushed hf with hf | ⟨-, hlt, -⟩
  · exact Nat.lt_add_right _ (hfresh f hf)
  · exact hlt

theorem push_eq_ok :
    q.push frame = .ok q' ↔ ¬Blocked q.ackStatuses frame ∧ q' = q.pushed [frame] := by
  unfold push
  rw [bind_eq_ok_iff]
  have hpushed : q.pushed [frame] = { q with
        inProgressFrames := q.inProgressFrames ++ [{ frame with id := q.nextId }]
        ackStatuses := Function.update q.ackStatuses (key frame) .FRAME_NOT_YET_TRANSMITTED
        nextId := q.nextId + 1 } := by
    unfold pushed numbered numbered
    congr 1
    funext id
    by_cases hid : id = key frame
    · simp [hid]
    · simp [Function.update_of_ne hid, Ne.symm hid]
  constructor
  · rintro ⟨ackStatuses, hgot, heq⟩
    obtain ⟨hfree, rfl⟩ := frameGotInProgress_eq_ok.mp hgot
    refine ⟨hfree, ?_⟩
    rw [hpushed]
    exact (Except.ok.inj heq).symm
  · rintro ⟨hfree, rfl⟩
    exact ⟨_, frameGotInProgress_eq_ok.mpr ⟨hfree, rfl⟩, by rw [hpushed]; rfl⟩

theorem pushed_cons (frame : Ieee80211DataOrMgmtFrame) (frames : List Ieee80211DataOrMgmtFrame) :
    (q.pushed [frame]).pushed frames = q.pushed (frame :: frames) := by
  unfold pushed
  simp only [numbered, List.append_assoc, List.singleton_append, List.length_cons, List.length_nil]
  congr 1
  · funext id
    by_cases hlater : ∃ f ∈ frames, key f = id
    · simp [hlater]
    · by_cases hfirst : key frame = id
      · simp [hfirst]
      · simp [hlater, hfirst]
  · omega

theorem blocked_pushed {frame f : Ieee80211DataOrMgmtFrame} :
    Blocked (q.pushed [frame]).ackStatuses f ↔ Blocked q.ackStatuses f ∧ key f ≠ key frame := by
  unfold Blocked pushed
  by_cases hkey : key frame = key f
  · simp [hkey]
  · simp [hkey, Ne.symm hkey]

variable {frames : List Ieee80211DataOrMgmtFrame}

theorem foldlM_push_eq_ok : ∀ {q q' : InProgressFrames},
    frames.foldlM push q = .ok q' → q' = q.pushed frames := by
  induction frames with
  | nil =>
    intro q q' h
    rw [← Except.ok.inj h]
    simp [pushed, numbered]
  | cons frame frames ih =>
    intro q q' h
    rw [List.foldlM_cons, bind_eq_ok_iff] at h
    obtain ⟨q₁, hpush, hrest⟩ := h
    obtain ⟨-, rfl⟩ := push_eq_ok.mp hpush
    rw [ih hrest, pushed_cons]

theorem foldlM_push_of_free : ∀ {q : InProgressFrames},
    (∀ frame ∈ frames, ¬Blocked q.ackStatuses frame) →
      frames.foldlM push q = .ok (q.pushed frames) := by
  induction frames with
  | nil =>
    intro q _
    simp [pushed, numbered, pure, Except.pure]
  | cons frame frames ih =>
    intro q hfree
    have hfirst := hfree frame (.head _)
    rw [List.foldlM_cons, bind_eq_ok_iff]
    refine ⟨_, push_eq_ok.mpr ⟨hfirst, rfl⟩, ?_⟩
    rw [ih, pushed_cons]
    intro f hf hblocked
    exact hfree f (.tail _ hf) (blocked_pushed.mp hblocked).1

/-- The queue after its first frame has got in progress. -/
def extracted (q : InProgressFrames) : InProgressFrames :=
  match q.pendingQueue with
  | [] => q
  | fragments :: pendingQueue => { q with pendingQueue := pendingQueue }.pushed fragments.frames

/-- The queue after some of its frames have got in progress. -/
def Extends : InProgressFrames → InProgressFrames → Prop :=
  Relation.ReflTransGen fun q q' => q' = q.extracted

theorem Extends.refl (q : InProgressFrames) : Extends q q := Relation.ReflTransGen.refl

theorem Extends.extracted (q : InProgressFrames) : Extends q q.extracted := .single rfl

theorem Extends.invariant {P : InProgressFrames → Prop} (h : Extends q q')
    (hP : ∀ q, P q → P q.extracted) (hq : P q) : P q' := by
  induction h with
  | refl => exact hq
  | tail _ hstep ih =>
    rw [hstep]
    exact hP _ ih

theorem mem_of_extends (h : Extends q q') {f : Ieee80211DataOrMgmtFrame}
    (hf : f ∈ q.inProgressFrames) : f ∈ q'.inProgressFrames := by
  refine h.invariant (P := fun q => f ∈ q.inProgressFrames) (fun q hq => ?_) hf
  unfold InProgressFrames.extracted
  split
  · exact hq
  · exact List.mem_append_left _ hq

theorem eligible_of_extends (h : Extends q q') {f : Ieee80211DataOrMgmtFrame}
    (hf : isEligibleToTransmit q.ackStatuses f) : isEligibleToTransmit q'.ackStatuses f := by
  refine h.invariant (P := fun q => isEligibleToTransmit q.ackStatuses f) (fun q hq => ?_) hf
  unfold InProgressFrames.extracted
  split
  · exact hq
  · unfold pushed isEligibleToTransmit
    dsimp only
    split
    · simp
    · exact hq

theorem extractFramesToTransmit_yields :
    Yields q.extractFramesToTransmit fun q' => q' = q.extracted := by
  unfold extractFramesToTransmit extracted
  cases q.pendingQueue with
  | nil => exact .ok rfl
  | cons fragments pendingQueue => exact fun q' h => foldlM_push_eq_ok h

theorem ensureHasFrameToTransmit_yields : Yields q.ensureHasFrameToTransmit fun q' =>
      q' = if q.hasEligibleFrameToTransmit then q else q.extracted := by
  unfold ensureHasFrameToTransmit
  split
  · exact .ok rfl
  · exact extractFramesToTransmit_yields

/-- The queue for `getFrameToTransmit`. -/
def ensured (q : InProgressFrames) : InProgressFrames :=
  if q.hasEligibleFrameToTransmit then q else q.extracted

theorem Extends.ensured (q : InProgressFrames) : Extends q q.ensured := by
  unfold InProgressFrames.ensured
  split
  · exact .refl q
  · exact .extracted q

theorem getFrameToTransmit_bind {α : Type} {f : Option Ieee80211DataOrMgmtFrame × InProgressFrames → Except Fault α}
    {P : α → Prop} (h : ∀ frame, q.ensured.eligibleFrame = frame → Yields (f (frame, q.ensured)) P) :
    Yields (q.getFrameToTransmit >>= f) P := by
  rw [getFrameToTransmit, bind_assoc]
  exact ensureHasFrameToTransmit_yields.bind fun q' hq' => hq' ▸ h _ rfl

theorem hasInProgressFrames_yields : Yields q.hasInProgressFrames fun r =>
      r = (q.ensured.hasEligibleFrameToTransmit, q.ensured) := by
  unfold hasInProgressFrames
  refine ensureHasFrameToTransmit_yields.bind fun q' hq' => .pure ?_
  rw [hq']
  rfl

theorem getPendingFrameFor_yields : Yields q.getPendingFrameFor (Extends q) := by
  unfold getPendingFrameFor
  refine getFrameToTransmit_bind fun frame _ => ?_
  dsimp only
  split
  · exact .pure (.ensured q)
  · refine extractFramesToTransmit_yields.mono fun q' hq' => ?_
    exact (Extends.ensured q).tail hq'

/-- No frame that waits in the queue is kept from getting in progress. -/
def Unblocked (q : InProgressFrames) : Prop :=
  ∀ fragments ∈ q.pendingQueue, ∀ frame ∈ fragments.frames, ¬Blocked q.ackStatuses frame

theorem not_blocked_pushed
    (h : ¬Blocked q.ackStatuses f) : ¬Blocked (q.pushed frames).ackStatuses f := by
  unfold Blocked pushed
  dsimp only
  split
  · simp
  · exact h

theorem Unblocked.extracted (h : q.Unblocked) : q.extracted.Unblocked := by
  unfold InProgressFrames.extracted
  split
  · exact h
  · next fragments pendingQueue hpending =>
    intro fragments' hmem frame hframe
    refine not_blocked_pushed (h fragments' ?_ frame hframe)
    rw [hpending]
    exact .tail _ hmem

theorem Unblocked.extends (h : q.Unblocked) (hext : Extends q q') : q'.Unblocked :=
  hext.invariant (fun _ h => h.extracted) h

theorem Unblocked.extractFramesToTransmit (h : q.Unblocked) :
    q.extractFramesToTransmit = .ok q.extracted := by
  unfold InProgressFrames.extractFramesToTransmit InProgressFrames.extracted
  unfold Unblocked at h
  cases hpending : q.pendingQueue with
  | nil => rfl
  | cons fragments pendingQueue =>
    rw [hpending] at h
    exact foldlM_push_of_free (h fragments (.head _))

theorem Unblocked.ensureHasFrameToTransmit (h : q.Unblocked) :
    q.ensureHasFrameToTransmit = .ok q.ensured := by
  unfold InProgressFrames.ensureHasFrameToTransmit ensured
  split
  · rfl
  · exact h.extractFramesToTransmit

theorem Unblocked.getFrameToTransmit (h : q.Unblocked) :
    q.getFrameToTransmit = .ok (q.ensured.eligibleFrame, q.ensured) := by
  rw [InProgressFrames.getFrameToTransmit, h.ensureHasFrameToTransmit]
  rfl

theorem Unblocked.hasInProgressFrames (h : q.Unblocked) :
    q.hasInProgressFrames = .ok (q.ensured.hasEligibleFrameToTransmit, q.ensured) := by
  rw [InProgressFrames.hasInProgressFrames, h.ensureHasFrameToTransmit]
  rfl

theorem Unblocked.getPendingFrameFor (h : q.Unblocked) :
    Returns q.getPendingFrameFor (Extends q) := by
  have hensured := h.extends (.ensured q)
  obtain ⟨q', hq'⟩ : ∃ q', q.getPendingFrameFor = .ok q' := by
    rw [InProgressFrames.getPendingFrameFor, h.getFrameToTransmit]
    dsimp only [bind, Except.bind]
    split
    · exact ⟨_, rfl⟩
    · exact ⟨_, hensured.extractFramesToTransmit⟩
  exact ⟨q', hq', getPendingFrameFor_yields q' hq'⟩

end InProgressFrames

end inet.ieee80211
