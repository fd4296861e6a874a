import LoRaInet.LinkLayer.Ieee80211.Mac.CoordinationFunction.Hcf.Acknowledgement
import LoRaInet.LinkLayer.Ieee80211.Mac.CoordinationFunction.Hcf.RetryAccount

open omnetpp

namespace inet.ieee80211

open InProgressFrames QoSAckHandler EdcaQueue Hcf

/-- The frames of a queue are told apart by their `id`s and belong to its access category. -/
structure Kept (ac : AccessCategory) (frames : InProgressFrames) (ackPolicy : ℕ → AckPolicy)
    (step : Option SequenceStep) : Prop where
  nodup : (frames.inProgressFrames.map (·.id)).Nodup
  fresh : ∀ f ∈ frames.inProgressFrames, f.id < frames.nextId
  placed : ∀ f ∈ frames.inProgressFrames, classifyFrame f = .ok ac
  pending : ∀ fragments ∈ frames.pendingQueue, Belongs fragments ac
  suits : ∀ st ∈ step, st.Suits frames ackPolicy

namespace Kept

variable {p : HcfParameters} {ac : AccessCategory} {e : Event} {q q' : EdcaQueue}
  {frames frames' : InProgressFrames} {ackPolicy ackPolicy' : ℕ → AckPolicy}
  {step step' : Option SequenceStep} {f g : Ieee80211DataOrMgmtFrame}

theorem eq_of_id (h : Kept ac frames ackPolicy step) (hf : f ∈ frames.inProgressFrames)
    (hg : g ∈ frames.inProgressFrames) (hid : f.id = g.id) : f = g :=
  List.inj_on_of_nodup_map h.nodup hf hg hid

theorem shrink (h : Kept ac frames ackPolicy step)
    (hsub : frames'.inProgressFrames.Sublist frames.inProgressFrames)
    (hnextId : frames'.nextId = frames.nextId) (hpending : frames'.pendingQueue = frames.pendingQueue) :
    Kept ac frames' ackPolicy' none := by
  refine ⟨h.nodup.sublist (hsub.map _), fun f hf => ?_, fun f hf => h.placed f (hsub.subset hf), ?_,
    nofun⟩
  · rw [hnextId]
    exact h.fresh f (hsub.subset hf)
  · rw [hpending]
    exact h.pending

theorem start {st : SequenceStep} (h : Kept ac frames ackPolicy none) (hsuits : st.Suits frames ackPolicy') :
    Kept ac frames ackPolicy' (some st) := by
  refine ⟨h.nodup, h.fresh, h.placed, h.pending, fun st' hst' => ?_⟩
  cases hst'
  exact hsuits

theorem extracted (h : Kept ac frames ackPolicy none) : Kept ac frames.extracted ackPolicy none := by
  unfold InProgressFrames.extracted
  split
  · exact h
  · next fragments pendingQueue hpending =>
    have hbelongs := h.pending
    rw [hpending] at hbelongs
    refine ⟨nodup_pushed h.nodup h.fresh _, fresh_pushed h.fresh _, fun f hf => ?_,
      fun x hx => hbelongs x (.tail _ hx), nofun⟩
    rcases mem_pushed hf with hf | ⟨-, -, g, hg, heq⟩
    · exact h.placed f hf
    · rw [heq]
      exact hbelongs fragments (.head _) g hg

theorem extend (h : Kept ac frames ackPolicy none) (hext : Extends frames frames') :
    Kept ac frames' ackPolicy none :=
  hext.invariant (P := fun frames => Kept ac frames ackPolicy none) (fun _ hq => hq.extracted) h

theorem continues (h : Kept ac q.frames q.ackPolicy none) (hcontinues : Continues q q' step) :
    Kept ac q'.frames q'.ackPolicy step := by
  cases hcontinues with
  | transmit hext heligible hext' hstep =>
    exact ((h.extend hext).extend hext').start (hstep.suits heligible hext')
  | rts hext heligible hunicast hmanagement hnext =>
    exact (h.extend hext).start ⟨heligible, hunicast, hmanagement, hnext⟩
  | blockAckReq blockAckReq hext => exact (h.extend hext).start trivial
  | released hext => exact h.extend hext

theorem completes (h : Kept ac q.frames q.ackPolicy step) (hcompletes : Completes p ac e q step q' step') :
    Kept ac q'.frames q'.ackPolicy step' := by
  cases hcompletes with
  | granted => exact h
  | collided hcollides =>
    cases hcollides with
    | @data frames frame retryLimitReached contention hext heligible hdata hlimit
    | @management frames frame edcaf retryLimitReached contention hext heligible hmanagement hwindow =>
      cases retryLimitReached
      · exact h.extend hext
      · exact (h.extend hext).shrink List.filter_sublist rfl rfl
  | @multicastTransmitted _ _ _ _ frame htransmitted =>
    obtain ⟨hg, -, hmulticast⟩ := h.suits _ rfl
    cases htransmitted with
    | multicast _ => exact h.shrink List.filter_sublist rfl rfl
    | unicast hunicast _ => exact absurd hmulticast hunicast
  | rtsTransmitted =>
    have hsuits := h.suits _ rfl
    have hidle : Kept ac q.frames q.ackPolicy none := h.shrink (List.Sublist.refl _) rfl rfl
    exact hidle.start hsuits
  | @dataTransmitted _ _ ackExpected _ _ frame requests htransmitted hrequests =>
    obtain ⟨hf, -, hunicast, hdata, hpolicy, hqos⟩ := h.suits _ rfl
    have heq := Tracked.transmitted_eq htransmitted hunicast (fun _ => hpolicy)
      (fun hmanagement => absurd hmanagement hdata) hqos
    subst heq
    refine ⟨h.nodup, h.fresh, h.placed, fun fragments hmem => ?_, fun st hst => ?_⟩
    · rcases List.mem_append.mp hmem with hmem | hmem
      · exact h.pending fragments hmem
      · exact (hrequests fragments hmem).2
    · cases ackExpected with
      | true =>
        cases hst
        exact ⟨hf, Function.update_self _ _ _, fun _ => hpolicy⟩
      | false => cases hst
  | managementTransmitted htransmitted =>
    obtain ⟨hf, -, hunicast, hmanagement⟩ := h.suits _ rfl
    have heq := Tracked.transmitted_eq htransmitted hunicast
      (fun hdata => absurd hmanagement hdata) (fun _ => rfl) nofun
    subst heq
    refine ⟨h.nodup, h.fresh, h.placed, h.pending, fun st hst => ?_⟩
    cases hst
    exact ⟨hf, Function.update_self _ _ _, fun hdata => absurd hmanagement hdata⟩
  | blockAckReqTransmitted => exact ⟨h.nodup, h.fresh, h.placed, h.pending, fun st hst => by
      cases hst
      trivial⟩
  | ctsReceived | blockAckLost | blockAckDataFailed => exact h.shrink (List.Sublist.refl _) rfl rfl
  | dataAckReceived hdata hcounters hstatuses =>
    obtain ⟨hframes, -⟩ := Tracked.ackDataFrame_eq_ok hcounters
    unfold EdcaQueue.acknowledge EdcaQueue.report
    rw [hframes]
    exact h.shrink List.filter_sublist rfl rfl
  | managementAckReceived | blockAckReceived => exact h.shrink List.filter_sublist rfl rfl
  | @rtsFailed _ _ _ _ retryLimitReached | @dataFailed _ _ _ retryLimitReached =>
    cases retryLimitReached
    · exact h.shrink (List.Sublist.refl _) rfl rfl
    · exact h.shrink List.filter_sublist rfl rfl
  | managementFailed retryLimitReached =>
    cases retryLimitReached
    · exact h.shrink (List.Sublist.refl _) rfl rfl
    · exact h.shrink List.filter_sublist rfl rfl

theorem evolves (h : Kept ac q.frames q.ackPolicy step) (hevolves : Evolves p ac e q step q' step') :
    Kept ac q'.frames q'.ackPolicy step' := by
  cases hevolves with
  | adjusts hadjusts =>
    obtain ⟨pendingQueue, hbelongs, hwindow⟩ := hadjusts
    refine ⟨h.nodup, h.fresh, h.placed, fun fragments hmem => ?_, fun st hst => ?_⟩
    · exact (hbelongs fragments hmem).elim (h.pending fragments) id
    · have hsuits := h.suits st hst
      cases st <;> exact hsuits
  | stays contention hcompletes =>
    have hcompleted := h.completes hcompletes
    exact hcompleted
  | @continues q₁ _ _ contention contention' hcompletes hcontinues =>
    have hcompleted := h.completes hcompletes
    have hcontinued := @Kept.continues _ (q₁.contend contention) _ _ hcompleted hcontinues
    exact hcontinued

theorem initial (h : q.Initial) : Kept ac q.frames q.ackPolicy none := by
  refine ⟨?_, ?_, ?_, ?_, nofun⟩
  · rw [h.inProgressFrames]
    exact List.nodup_nil
  · rw [h.inProgressFrames]
    nofun
  · rw [h.inProgressFrames]
    nofun
  · rw [h.pendingQueue]
    nofun

end Kept

end inet.ieee80211
