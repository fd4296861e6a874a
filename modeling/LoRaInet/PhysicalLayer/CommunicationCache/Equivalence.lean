import LoRaInet.PhysicalLayer.CommunicationCache.MapCommunicationCache
import LoRaInet.PhysicalLayer.CommunicationCache.Stored
import LoRaInet.PhysicalLayer.CommunicationCache.VectorLawful

open omnetpp container transition

namespace inet.physicallayer

open CommunicationCacheBase

section Perform

variable {C P : Type} [CommunicationCacheBase C P] {view : CacheView C P}
  {Inv : Directory → C → Prop} {Safe : Directory → C → Call P → Prop}
  {history : List (Call P)} {c : C}

/-- The invariant of a cache that holds what was stored in it. -/
def Caches (view : CacheView C P) (Inv : Directory → C → Prop) (history : List (Call P)) (c : C) :
    Prop :=
  Inv (directory history) c ∧ Shows view (directory history) history c

namespace LawfulCache

variable {key : PointerKey}

section

variable (laws : LawfulCache view Inv Safe) (hcaches : Caches view Inv history c)
include laws hcaches

theorem get_spec (hkey : (directory history).HasKey key)
    (hkeeps : KeepsDecisions history (.get key)) : ∃ c',
      getPointer c key = .ok (c', stored history key) ∧ Caches view Inv (.get key :: history) c' := by
  obtain ⟨hinv, hshows⟩ := hcaches
  cases key with
  | frame t =>
    obtain ⟨c', hget, hkept, hagree, -⟩ := laws.transmissionCacheEntry_eq hinv hkey
    refine ⟨c', ?_, hkept, hshows.agree hagree (List.Subset.refl _) (List.Subset.refl _)
      (fun _ => rfl) (fun _ => rfl)⟩
    rw [getPointer, getCachedTransmissionFrame, hget, ← hshows.frame t hkey]
    rfl
  | reception field r t =>
    obtain ⟨c', hget, hkept, hagree⟩ := laws.getCached_spec hinv hkey.1 hkey.2 field
    refine ⟨c', ?_, hkept, hshows.agree hagree (List.Subset.refl _) (List.Subset.refl _)
      (fun _ => rfl) (fun _ => rfl)⟩
    rw [getPointer, getter_eq, hget, hshows.get r hkey.1 t hkey.2]
  | receptionDecision part r t =>
    obtain ⟨hpart, hr, ht⟩ := hkey
    obtain ⟨i, hi⟩ := SignalPart.exists_index hpart
    obtain ⟨c', hget, hkept, hsets⟩ := laws.getCachedReceptionDecision_spec hinv hr ht hi
    refine ⟨c', ?_, hkept, ?_⟩
    · rw [getPointer, hget, hshows.decision r hr t ht part hpart]
    · have hlater : (view.reception c r t).NoLaterDecision part := by
        intro later hlt
        have hlaterPart : later ≠ .NONE := by
          rintro rfl
          rw [hi] at hlt
          cases hlt
        rw [hshows.decision r hr t ht later hlaterPart]
        exact hkeeps later hlt
      refine hshows.setsReception hsets ?_ ?_ (fun _ => rfl) (fun _ => rfl)
        (fun _ _ _ => ⟨fun _ => rfl, fun _ => rfl⟩)
      · intro field
        have hfield := hshows.get r hr t ht field
        cases field <;> exact hfield
      · intro other hother
        rw [ReceptionCacheEntry.decision_resize hi hlater]
        exact hshows.decision r hr t ht other hother

theorem set_spec {v : Option P} (hkey : (directory history).HasKey key)
    (hnull : key.isInterval → v ≠ none)
    (hkeeps : KeepsDecisions history (.set key v)) : ∃ c',
      setPointer c key v = .ok c' ∧ Caches view Inv (.set key v :: history) c' := by
  obtain ⟨hinv, hshows⟩ := hcaches
  cases key with
  | frame t =>
    obtain ⟨c', hget, -, -, hput⟩ := laws.transmissionCacheEntry_eq hinv hkey
    obtain ⟨hkept, hsets⟩ := hput { view.transmission c t with frame := v }
    refine ⟨_, ?_, hkept, hshows.setsTransmission hsets ?_ ?_ (fun _ _ => rfl) ?_⟩
    · rw [setPointer, setCachedTransmissionFrame, hget]
      rfl
    · exact hshows.interferenceEndTime t hkey
    · rw [stored, if_pos rfl]
    · intro other hne
      exact stored_set_of_ne hne v
  | reception field r t =>
    obtain ⟨c', hset, hkept, hsets⟩ := laws.setter_spec hinv hkey.1 hkey.2 field v
      fun hfield => hnull (by rw [hfield]; rfl)
    exact ⟨c', hset, hkept, hshows.stores_reception hkey.1 hkey.2 hsets (Or.inl rfl)⟩
  | receptionDecision part r t =>
    obtain ⟨hpart, hr, ht⟩ := hkey
    obtain ⟨i, hi⟩ := SignalPart.exists_index hpart
    obtain ⟨c', hset, hkept, hsets⟩ := laws.setCachedReceptionDecision_spec hinv hr ht hi v
    exact ⟨c', hset, hkept, hshows.stores_decision hr ht hi hkeeps hsets (Or.inl rfl)⟩

theorem remove_spec (hkey : (directory history).HasKey key)
    (hkeeps : KeepsDecisions history (.remove key)) : ∃ c',
      removePointer c key = .ok c' ∧ Caches view Inv (.remove key :: history) c' := by
  obtain ⟨hinv, hshows⟩ := hcaches
  cases key with
  | frame t =>
    obtain ⟨c', hget, -, -, hput⟩ := laws.transmissionCacheEntry_eq hinv hkey
    obtain ⟨hkept, hsets⟩ := hput { view.transmission c t with frame := none }
    refine ⟨_, ?_, hkept, hshows.setsTransmission hsets ?_ ?_ (fun _ _ => rfl) ?_⟩
    · rw [removePointer, removeCachedTransmissionFrame, setCachedTransmissionFrame, hget]
      rfl
    · exact hshows.interferenceEndTime t hkey
    · rw [stored, if_pos rfl]
    · intro other hne
      exact stored_remove_of_ne hne
  | reception field r t =>
    obtain ⟨hkept, hsets⟩ := laws.removeCached_spec hinv hkey.1 hkey.2 field
    refine ⟨_, ?_, hkept, hshows.stores_reception hkey.1 hkey.2 hsets (Or.inr ⟨rfl, rfl⟩)⟩
    rw [removePointer, remover_eq]
  | receptionDecision part r t =>
    obtain ⟨hpart, hr, ht⟩ := hkey
    obtain ⟨i, hi⟩ := SignalPart.exists_index hpart
    obtain ⟨c', hset, hkept, hsets⟩ := laws.setCachedReceptionDecision_spec hinv hr ht hi none
    refine ⟨c', ?_, hkept, hshows.stores_decision hr ht hi hkeeps hsets (Or.inr ⟨rfl, rfl⟩)⟩
    rw [removePointer, laws.removeCachedReceptionDecision_eq hinv hr ht, hset]

theorem setCachedInterferenceEndTime_spec {t : Nat} {v : SimTime} {call : Call P}
    (ht : t ∈ (directory history).transmissions)
    (hcall : call = .setCachedInterferenceEndTime t v ∨
      call = .removeCachedInterferenceEndTime t ∧ v = -1) : ∃ c',
      setCachedInterferenceEndTime c t v = .ok c' ∧ Caches view Inv (call :: history) c' := by
  obtain ⟨hinv, hshows⟩ := hcaches
  obtain ⟨c', hget, -, -, hput⟩ := laws.transmissionCacheEntry_eq hinv ht
  obtain ⟨hkept, hsets⟩ := hput { view.transmission c t with interferenceEndTime := some v }
  have hdirectory : directory (call :: history) = directory history := by
    obtain rfl | ⟨rfl, -⟩ := hcall <;> rfl
  have htimes : ∀ other, storedInterferenceEndTime (call :: history) other =
      if t = other then some v else storedInterferenceEndTime history other := by
    intro other
    obtain rfl | ⟨rfl, rfl⟩ := hcall <;> rfl
  have hpointers : ∀ key, stored (call :: history) key = stored history key := by
    intro key
    obtain rfl | ⟨rfl, -⟩ := hcall <;> rfl
  refine ⟨putTransmissionCacheEntry c' t
    { view.transmission c t with interferenceEndTime := some v }, ?_, ?_⟩
  · rw [setCachedInterferenceEndTime, hget]
    rfl
  · unfold Caches
    rw [hdirectory]
    refine ⟨hkept, hshows.setsTransmission hsets ?_ ?_ ?_ (fun key _ => hpointers key)⟩
    · rw [htimes, if_pos rfl]
    · rw [hpointers]
      exact hshows.frame t ht
    · intro other hne
      rw [htimes, if_neg hne.symm]

theorem perform_spec
    (hwell : WellFormed history) {call : Call P} (hallowed : (directory history).Allows call)
    (hsafe : Safe (directory history) c call) (hkeeps : KeepsDecisions history call) : ∃ c',
      perform c call = .ok (c', call.expected history) ∧ Caches view Inv (call :: history) c' := by
  have halloc := hwell.allocated
  obtain ⟨hinv, hshows⟩ := hcaches
  cases call with
  | addRadio r =>
    obtain ⟨hkept, hagree, hnew⟩ := laws.addRadio hinv hallowed
    exact ⟨CommunicationCacheBase.addRadio c r, rfl, hkept, hshows.addRadio halloc hallowed hagree hnew⟩
  | removeRadio r =>
    obtain ⟨c', hremove, hkept, hagree⟩ := laws.removeRadio hinv hallowed hsafe
    refine ⟨c', ?_, hkept, hshows.agree hagree ?_ (List.Subset.refl _) (fun _ => rfl)
      (fun _ => rfl)⟩
    · rw [perform, hremove]
      rfl
    · exact List.filter_subset_self _
  | addTransmission t =>
    obtain ⟨hkept, hagree, hnew, hnews⟩ := laws.addTransmission hinv hallowed
    exact ⟨CommunicationCacheBase.addTransmission c t, rfl, hkept,
      hshows.addTransmission halloc hallowed hagree hnew hnews⟩
  | removeTransmission t =>
    obtain ⟨c', hremove, hkept, hagree⟩ := laws.removeTransmission hinv hallowed
    refine ⟨c', ?_, hkept, hshows.agree hagree (List.Subset.refl _) ?_ (fun _ => rfl)
      (fun _ => rfl)⟩
    · rw [perform, hremove]
      rfl
    · exact List.filter_subset_self _
  | removeNonInterferingTransmissions now =>
    obtain ⟨c', hremove, hkept, hagree⟩ := laws.removeNonInterferingTransmissions hinv hsafe
    refine ⟨c', ?_, hkept, hshows.agree hagree (List.Subset.refl _) (List.Subset.refl _)
      (fun _ => rfl) (fun _ => rfl)⟩
    rw [perform, hremove]
    rfl
  | getCachedInterferenceEndTime t =>
    obtain ⟨c', hget, hkept, hagree, -⟩ := laws.transmissionCacheEntry_eq hinv hallowed
    refine ⟨c', ?_, hkept, hshows.agree hagree (List.Subset.refl _) (List.Subset.refl _)
      (fun _ => rfl) (fun _ => rfl)⟩
    rw [perform, getCachedInterferenceEndTime, hget, Call.expected,
      ← hshows.interferenceEndTime t hallowed]
    rfl
  | setCachedInterferenceEndTime t v =>
    obtain ⟨c', hset, hkept⟩ :=
      laws.setCachedInterferenceEndTime_spec ⟨hinv, hshows⟩ hallowed (Or.inl rfl)
    refine ⟨c', ?_, hkept⟩
    rw [perform, hset]
    rfl
  | removeCachedInterferenceEndTime t =>
    obtain ⟨c', hset, hkept⟩ :=
      laws.setCachedInterferenceEndTime_spec ⟨hinv, hshows⟩ hallowed (Or.inr ⟨rfl, rfl⟩)
    refine ⟨c', ?_, hkept⟩
    rw [perform, removeCachedInterferenceEndTime, hset]
    rfl
  | get key =>
    obtain ⟨c', hget, hkept⟩ := laws.get_spec ⟨hinv, hshows⟩ hallowed hkeeps
    refine ⟨c', ?_, hkept⟩
    rw [perform, hget]
    rfl
  | set key v =>
    obtain ⟨c', hset, hkept⟩ := laws.set_spec ⟨hinv, hshows⟩ hallowed.1 hallowed.2 hkeeps
    refine ⟨c', ?_, hkept⟩
    rw [perform, hset]
    rfl
  | remove key =>
    obtain ⟨c', hremove, hkept⟩ := laws.remove_spec ⟨hinv, hshows⟩ hallowed hkeeps
    refine ⟨c', ?_, hkept⟩
    rw [perform, hremove]
    rfl

end

end LawfulCache

end Perform

end inet.physicallayer

open omnetpp transition

namespace inet.physicallayer.CommunicationCache

variable {P : Type}

/-- Both caches, on which the same calls are made. -/
abbrev State (P : Type) := VectorCommunicationCache P × MapCommunicationCache P

def initialState : State P := ({}, {})

/-- A step taken: the call, the caches before it and what they returned. -/
abbrev Label (P : Type) := Call P × State P × Output P × Output P

def calls (history : List (Label P)) : List (Call P) := history.map (·.1)

/-- Both caches hold what was stored. -/
def Invariant (history : List (Label P)) (s : State P) : Prop :=
  Caches VectorCommunicationCache.view VectorCommunicationCache.Invariant (calls history) s.1 ∧
    Caches MapCommunicationCache.view MapCommunicationCache.Invariant (calls history) s.2

theorem initialState_invariant : Invariant [] (initialState : State P) := by
  have hnone : ∀ t, t ∉ ({} : Directory).transmissions := fun t => List.not_mem_nil
  refine ⟨⟨VectorCommunicationCache.invariant_empty, ?_⟩,
    ⟨MapCommunicationCache.invariant_empty, ?_⟩⟩
  · exact ⟨fun t ht => absurd ht (hnone t), fun t ht => absurd ht (hnone t),
      fun _ _ t ht => absurd ht (hnone t), fun _ _ t ht => absurd ht (hnone t)⟩
  · exact ⟨fun t ht => absurd ht (hnone t), fun t ht => absurd ht (hnone t),
      fun _ _ t ht => absurd ht (hnone t), fun _ _ t ht => absurd ht (hnone t)⟩

section Runs

variable [DecidableEq P]

/-- A call on both caches; one that fails in either of them is not a step. -/
def step (s : State P) (call : Call P) : Option (State P × Output P × Output P) :=
  match CommunicationCacheBase.perform s.1 call, CommunicationCacheBase.perform s.2 call with
  | .ok (v, vectorOutput), .ok (m, mapOutput) => some ((v, m), vectorOutput, mapOutput)
  | _, _ => none

abbrev CacheRun : List (Label P) → State P → Prop :=
  Run (· = initialState) (StepOf (traced step))

/-- The call is safe for the vector cache, and drops no decision. -/
def MeetsCondition (history : List (Label P)) (label : Label P) : Prop :=
  VectorCommunicationCache.Safe (directory (calls history)) label.2.1.1 label.1 ∧
    KeepsDecisions (calls history) label.1

instance (history : List (Label P)) : DecidablePred (MeetsCondition history) := fun _ =>
  inferInstanceAs (Decidable (_ ∧ _))

theorem step_spec {history : List (Label P)} {s : State P} (hinv : Invariant history s)
    (hwell : WellFormed (calls history)) {call : Call P}
    (hallowed : (directory (calls history)).Allows call)
    (hsafe : VectorCommunicationCache.Safe (directory (calls history)) s.1 call)
    (hkeeps : KeepsDecisions (calls history) call) :
    ∃ s', step s call = some (s', call.expected (calls history), call.expected (calls history)) ∧
      ∀ label : Label P, label.1 = call → Invariant (label :: history) s' := by
  obtain ⟨v, hvector, hvectorKept⟩ := VectorCommunicationCache.lawful.perform_spec hinv.1 hwell
    hallowed hsafe hkeeps
  obtain ⟨m, hmap, hmapKept⟩ := MapCommunicationCache.lawful.perform_spec hinv.2 hwell
    hallowed trivial hkeeps
  refine ⟨(v, m), ?_, ?_⟩
  · unfold step
    rw [hvector, hmap]
  · rintro label rfl
    exact ⟨hvectorKept, hmapKept⟩

theorem invariant_of_run {history : List (Label P)} {s : State P} (hrun : CacheRun history s)
    (hwell : WellFormed (calls history)) (hcond : Always MeetsCondition history) :
    Invariant history s ∧ Always (fun earlier label =>
      label.2.2 = (label.1.expected (calls earlier), label.1.expected (calls earlier))) history := by
  induction hrun with
  | init hinit =>
    subst hinit
    exact ⟨initialState_invariant, trivial⟩
  | @step history s s' label hrun hstep ih =>
    obtain ⟨call, before, outputs⟩ := label
    obtain ⟨rfl, htaken⟩ := traced_eq_some.mp hstep
    obtain ⟨hinv, hearlier⟩ := ih hwell.1 hcond.1
    obtain ⟨next, hnext, hkept⟩ := step_spec hinv hwell.1 hwell.2 hcond.2.1 hcond.2.2
    obtain ⟨rfl, houtputs⟩ := Prod.mk.inj (Option.some.inj (htaken.symm.trans hnext))
    exact ⟨hkept _ rfl, hearlier, houtputs⟩

/-- In a run of allowed calls that all meet the condition, both caches return
what was last stored, and the next call that meets it fails in neither. -/
theorem caches_return_stored {history : List (Label P)} {s : State P} (hrun : CacheRun history s)
    (hwell : WellFormed (calls history)) (hcond : Always MeetsCondition history) :
    Always (fun earlier label =>
      label.2.2 = (label.1.expected (calls earlier), label.1.expected (calls earlier))) history ∧
    ∀ call, (directory (calls history)).Allows call →
      VectorCommunicationCache.Safe (directory (calls history)) s.1 call →
      KeepsDecisions (calls history) call → ∃ s',
        step s call = some (s', call.expected (calls history), call.expected (calls history)) := by
  obtain ⟨hinv, hearlier⟩ := invariant_of_run hrun hwell hcond
  refine ⟨hearlier, ?_⟩
  intro call hallowed hsafe hkeeps
  obtain ⟨s', hstep, -⟩ := step_spec hinv hwell hallowed hsafe hkeeps
  exact ⟨s', hstep⟩

/-- Two radios and two transmissions, the first of which goes. -/
theorem caches_return_stored_example : ∃ s history, (CacheRun (P := Nat) history s ∧
    history.head?.map (·.2.2) = some (.pointer (some 43), .pointer (some 43))) ∧
      Always (fun earlier label =>
        label.2.2 = (label.1.expected (calls earlier), label.1.expected (calls earlier))) history := by
  obtain ⟨s, history, hrun, hhead, hwell, hcond⟩ := exists_run_of_execute (traced (step (P := Nat)))
    initialState
    [.addRadio 3, .addRadio 5, .addTransmission 2, .setCachedInterferenceEndTime 2 10,
      .set (.reception .interval 5 2) (some 40), .set (.receptionDecision .WHOLE 5 2) (some 41),
      .addTransmission 4, .setCachedInterferenceEndTime 4 20,
      .set (.receptionDecision .WHOLE 5 4) (some 42), .set (.receptionDecision .DATA 5 4) (some 43),
      .removeRadio 3, .get (.reception .interval 5 2), .removeTransmission 2,
      .removeNonInterferingTransmissions 15, .getCachedInterferenceEndTime 4,
      .get (.receptionDecision .DATA 5 4)]
    (fun _ history =>
      history.head?.map (·.2.2) = some (.pointer (some 43), .pointer (some 43)) ∧
        WellFormed (calls history) ∧ Always MeetsCondition history)
    (by decide +kernel)
  exact ⟨s, history, ⟨hrun, hhead⟩, (caches_return_stored hrun hwell hcond).1⟩

/-- The decision for the data part is lost when the one for the whole signal is
asked for. -/
theorem getCachedReceptionDecision_drops : ∃ s history, CacheRun (P := Nat) history s ∧
    WellFormed (calls history) ∧
      stored (calls history) (.receptionDecision .DATA 0 0) = some 7 ∧
      history.head?.map (fun label => (label.1, label.2.2)) =
        some (.get (.receptionDecision .DATA 0 0), .pointer none, .pointer none) := by
  exact exists_run_of_execute (traced (step (P := Nat))) initialState
    [.addRadio 0, .addTransmission 0, .set (.receptionDecision .DATA 0 0) (some 7),
      .get (.receptionDecision .WHOLE 0 0), .get (.receptionDecision .DATA 0 0)]
    (fun _ history => WellFormed (calls history) ∧
      stored (calls history) (.receptionDecision .DATA 0 0) = some 7 ∧
      history.head?.map (fun label => (label.1, label.2.2)) =
        some (.get (.receptionDecision .DATA 0 0), .pointer none, .pointer none))
    (by decide +kernel)

end Runs

end inet.physicallayer.CommunicationCache
