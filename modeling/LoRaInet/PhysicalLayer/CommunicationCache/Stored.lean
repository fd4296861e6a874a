import LoRaInet.PhysicalLayer.CommunicationCache.Lawful
import LoRaInet.Transition.Run

open omnetpp container transition

namespace inet.physicallayer

open CommunicationCacheBase

/-- Every call was allowed when it was made. -/
abbrev WellFormed {P : Type} : List (Call P) → Prop :=
  Always fun history call => (directory history).Allows call

/-- The radio and the transmission of a key have been created. -/
def Directory.Created (d : Directory) : PointerKey → Prop
  | .frame transmission => transmission < d.nextTransmission
  | .reception _ receiver transmission =>
    receiver < d.nextRadio ∧ transmission < d.nextTransmission
  | .receptionDecision _ receiver transmission =>
    receiver < d.nextRadio ∧ transmission < d.nextTransmission

/-- What is alive has been created, and so has what something is stored for. -/
structure Allocated {P : Type} (d : Directory) (history : List (Call P)) : Prop where
  radios : ∀ r ∈ d.radios, r < d.nextRadio
  transmissions : ∀ t ∈ d.transmissions, t < d.nextTransmission
  pointers : ∀ key, ¬ d.Created key → stored history key = none
  times : ∀ t, d.nextTransmission ≤ t → storedInterferenceEndTime history t = none

section Allocated

variable {P : Type} {d d' : Directory} {history history' : List (Call P)} {key : PointerKey}

theorem Directory.HasKey.created (hkey : d.HasKey key) (hradios : ∀ r ∈ d.radios, r < d.nextRadio)
    (htransmissions : ∀ t ∈ d.transmissions, t < d.nextTransmission) : d.Created key := by
  cases key with
  | frame transmission => exact htransmissions _ hkey
  | reception field receiver transmission =>
    exact ⟨hradios _ hkey.1, htransmissions _ hkey.2⟩
  | receptionDecision part receiver transmission =>
    exact ⟨hradios _ hkey.2.1, htransmissions _ hkey.2.2⟩

theorem Directory.Created.mono (hkey : d.Created key) (hradio : d.nextRadio ≤ d'.nextRadio)
    (htransmission : d.nextTransmission ≤ d'.nextTransmission) : d'.Created key := by
  cases key with
  | frame transmission => exact hkey.trans_le htransmission
  | reception field receiver transmission | receptionDecision part receiver transmission =>
    exact ⟨hkey.1.trans_le hradio, hkey.2.trans_le htransmission⟩

/-- A call that stores nothing, and creates and removes what it does. -/
theorem Allocated.grows (h : Allocated d history) (hradio : d.nextRadio ≤ d'.nextRadio)
    (htransmission : d.nextTransmission ≤ d'.nextTransmission)
    (hradios : ∀ r ∈ d'.radios, r ∈ d.radios ∨ r < d'.nextRadio)
    (htransmissions : ∀ t ∈ d'.transmissions, t ∈ d.transmissions ∨ t < d'.nextTransmission)
    (hpointers : ∀ key, stored history' key = stored history key)
    (htimes : ∀ t, storedInterferenceEndTime history' t = storedInterferenceEndTime history t) :
    Allocated d' history' := by
  refine ⟨?_, ?_, ?_, ?_⟩
  · intro r hr
    obtain hr | hr := hradios r hr
    · exact (h.radios r hr).trans_le hradio
    · exact hr
  · intro t ht
    obtain ht | ht := htransmissions t ht
    · exact (h.transmissions t ht).trans_le htransmission
    · exact ht
  · intro key hkey
    rw [hpointers]
    exact h.pointers key fun hcreated => hkey (hcreated.mono hradio htransmission)
  · intro t ht
    rw [htimes]
    exact h.times t (htransmission.trans ht)

theorem Allocated.stores (h : Allocated d history) (hkey : d.HasKey key)
    (hpointers : ∀ other, other ≠ key → stored history' other = stored history other)
    (htimes : ∀ t, storedInterferenceEndTime history' t = storedInterferenceEndTime history t) :
    Allocated d history' := by
  refine ⟨h.radios, h.transmissions, ?_, ?_⟩
  · intro other hother
    have hne : other ≠ key := by
      rintro rfl
      exact hother (hkey.created h.radios h.transmissions)
    rw [hpointers other hne]
    exact h.pointers other hother
  · intro t ht
    rw [htimes]
    exact h.times t ht

theorem Allocated.setsTime (h : Allocated d history) {transmission : Nat}
    (htransmission : transmission ∈ d.transmissions)
    (hpointers : ∀ key, stored history' key = stored history key)
    (htimes : ∀ t, t ≠ transmission →
      storedInterferenceEndTime history' t = storedInterferenceEndTime history t) :
    Allocated d history' := by
  refine ⟨h.radios, h.transmissions, ?_, ?_⟩
  · intro key hkey
    rw [hpointers]
    exact h.pointers key hkey
  · intro t ht
    have hlt := h.transmissions transmission htransmission
    rw [htimes t (by omega)]
    exact h.times t ht

theorem stored_set_of_ne {key other : PointerKey} (hne : other ≠ key) (v : Option P) :
    stored (.set key v :: history) other = stored history other := by
  rw [stored, if_neg (Ne.symm hne)]

theorem stored_remove_of_ne {key other : PointerKey} (hne : other ≠ key) :
    stored (.remove key :: history) other = stored history other := by
  rw [stored, if_neg (Ne.symm hne)]

theorem WellFormed.allocated (h : WellFormed history) : Allocated (directory history) history := by
  induction history with
  | nil =>
    exact ⟨fun r hr => absurd hr List.not_mem_nil, fun t ht => absurd ht List.not_mem_nil,
      fun _ _ => rfl, fun _ _ => rfl⟩
  | cons call history ih =>
    obtain ⟨hhistory, hallowed⟩ := h
    have halloc := ih hhistory
    cases call with
    | addRadio radio =>
      have hle : (directory history).nextRadio ≤ radio := hallowed
      refine halloc.grows (Nat.le_succ_of_le hle) le_rfl ?_ (fun t ht => Or.inl ht)
        (fun _ => rfl) (fun _ => rfl)
      intro r hr
      obtain rfl | hr := List.mem_cons.mp hr
      · exact Or.inr (Nat.lt_succ_self _)
      · exact Or.inl hr
    | removeRadio radio =>
      exact halloc.grows le_rfl le_rfl (fun r hr => Or.inl (List.mem_filter.mp hr).1)
        (fun t ht => Or.inl ht) (fun _ => rfl) (fun _ => rfl)
    | addTransmission transmission =>
      have hle : (directory history).nextTransmission ≤ transmission := hallowed
      refine halloc.grows le_rfl (Nat.le_succ_of_le hle) (fun r hr => Or.inl hr) ?_
        (fun _ => rfl) (fun _ => rfl)
      intro t ht
      obtain rfl | ht := List.mem_cons.mp ht
      · exact Or.inr (Nat.lt_succ_self _)
      · exact Or.inl ht
    | removeTransmission transmission =>
      exact halloc.grows le_rfl le_rfl (fun r hr => Or.inl hr)
        (fun t ht => Or.inl (List.mem_filter.mp ht).1) (fun _ => rfl) (fun _ => rfl)
    | removeNonInterferingTransmissions now | getCachedInterferenceEndTime transmission =>
      exact ⟨halloc.radios, halloc.transmissions, halloc.pointers, halloc.times⟩
    | get key => exact ⟨halloc.radios, halloc.transmissions, halloc.pointers, halloc.times⟩
    | setCachedInterferenceEndTime transmission interferenceEndTime
    | removeCachedInterferenceEndTime transmission =>
      have hlive : transmission ∈ (directory history).transmissions := hallowed
      refine halloc.setsTime hlive (fun _ => rfl) ?_
      intro t hne
      rw [storedInterferenceEndTime, if_neg hne.symm]
    | set key v =>
      exact halloc.stores hallowed.1 (fun other hne => stored_set_of_ne hne v) (fun _ => rfl)
    | remove key =>
      exact halloc.stores hallowed (fun other hne => stored_remove_of_ne hne) (fun _ => rfl)

end Allocated

/-- The cache holds what was stored in it. -/
structure Shows {C P : Type} (view : CacheView C P) (d : Directory) (history : List (Call P))
    (c : C) : Prop where
  interferenceEndTime : ∀ t ∈ d.transmissions,
    (view.transmission c t).interferenceEndTime = storedInterferenceEndTime history t
  frame : ∀ t ∈ d.transmissions, (view.transmission c t).frame = stored history (.frame t)
  get : ∀ r ∈ d.radios, ∀ t ∈ d.transmissions, ∀ field,
    (view.reception c r t).get field = stored history (.reception field r t)
  decision : ∀ r ∈ d.radios, ∀ t ∈ d.transmissions, ∀ part, part ≠ .NONE →
    (view.reception c r t).decision part = stored history (.receptionDecision part r t)

section Shows

variable {C P : Type} {view : CacheView C P} {d d' : Directory} {history history' : List (Call P)}
  {c c' : C}

theorem Shows.agree (h : Shows view d history c) (hagree : view.Agree d' c c')
    (hradios : d'.radios ⊆ d.radios) (htransmissions : d'.transmissions ⊆ d.transmissions)
    (hpointers : ∀ key, stored history' key = stored history key)
    (htimes : ∀ t, storedInterferenceEndTime history' t = storedInterferenceEndTime history t) :
    Shows view d' history' c' := by
  refine ⟨?_, ?_, ?_, ?_⟩
  · intro t ht
    rw [hagree.transmission t ht, htimes]
    exact h.interferenceEndTime t (htransmissions ht)
  · intro t ht
    rw [hagree.transmission t ht, hpointers]
    exact h.frame t (htransmissions ht)
  · intro r hr t ht field
    rw [hagree.reception r hr t ht, hpointers]
    exact h.get r (hradios hr) t (htransmissions ht) field
  · intro r hr t ht part hpart
    rw [hagree.reception r hr t ht, hpointers]
    exact h.decision r (hradios hr) t (htransmissions ht) part hpart

/-- The entry of something new is empty, and nothing is stored for it. -/
theorem get_empty (field : ReceptionField) : ({} : ReceptionCacheEntry P).get field = none := by
  cases field <;> rfl

theorem decision_empty (part : SignalPart) : ({} : ReceptionCacheEntry P).decision part = none := by
  cases part <;> rfl

theorem Shows.addRadio {r : Nat} (h : Shows view d history c) (halloc : Allocated d history)
    (hr : d.nextRadio ≤ r) (hagree : view.Agree d c c')
    (hnew : ∀ t ∈ d.transmissions, view.reception c' r t = {}) :
    Shows view (d.addRadio r) (.addRadio r :: history) c' := by
  refine ⟨?_, ?_, ?_, ?_⟩
  · intro t ht
    rw [hagree.transmission t ht]
    exact h.interferenceEndTime t ht
  · intro t ht
    rw [hagree.transmission t ht]
    exact h.frame t ht
  · intro other hother t ht field
    obtain rfl | hother := List.mem_cons.mp hother
    · have hnone : stored history (.reception field other t) = none :=
        halloc.pointers _ fun hcreated => by have := hcreated.1; omega
      rw [hnew t ht, get_empty]
      exact hnone.symm
    · rw [hagree.reception other hother t ht]
      exact h.get other hother t ht field
  · intro other hother t ht part hpart
    obtain rfl | hother := List.mem_cons.mp hother
    · have hnone : stored history (.receptionDecision part other t) = none :=
        halloc.pointers _ fun hcreated => by have := hcreated.1; omega
      rw [hnew t ht, decision_empty]
      exact hnone.symm
    · rw [hagree.reception other hother t ht]
      exact h.decision other hother t ht part hpart

theorem Shows.addTransmission {t : Nat} (h : Shows view d history c) (halloc : Allocated d history)
    (ht : d.nextTransmission ≤ t) (hagree : view.Agree d c c')
    (hnew : view.transmission c' t = {}) (hnews : ∀ r ∈ d.radios, view.reception c' r t = {}) :
    Shows view (d.addTransmission t) (.addTransmission t :: history) c' := by
  refine ⟨?_, ?_, ?_, ?_⟩
  · intro other hother
    obtain rfl | hother := List.mem_cons.mp hother
    · rw [hnew]
      exact (halloc.times other ht).symm
    · rw [hagree.transmission other hother]
      exact h.interferenceEndTime other hother
  · intro other hother
    obtain rfl | hother := List.mem_cons.mp hother
    · have hnone : stored history (.frame other) = none :=
        halloc.pointers _ fun hcreated => by
          have hlt : other < d.nextTransmission := hcreated
          omega
      rw [hnew]
      exact hnone.symm
    · rw [hagree.transmission other hother]
      exact h.frame other hother
  · intro r hr other hother field
    obtain rfl | hother := List.mem_cons.mp hother
    · have hnone : stored history (.reception field r other) = none :=
        halloc.pointers _ fun hcreated => by have := hcreated.2; omega
      rw [hnews r hr, get_empty]
      exact hnone.symm
    · rw [hagree.reception r hr other hother]
      exact h.get r hr other hother field
  · intro r hr other hother part hpart
    obtain rfl | hother := List.mem_cons.mp hother
    · have hnone : stored history (.receptionDecision part r other) = none :=
        halloc.pointers _ fun hcreated => by have := hcreated.2; omega
      rw [hnews r hr, decision_empty]
      exact hnone.symm
    · rw [hagree.reception r hr other hother]
      exact h.decision r hr other hother part hpart

theorem Shows.setsTransmission {transmission : Nat} {entry : TransmissionCacheEntry P}
    (h : Shows view d history c) (hsets : view.SetsTransmission d c c' transmission entry)
    (htime : entry.interferenceEndTime = storedInterferenceEndTime history' transmission)
    (hframe : entry.frame = stored history' (.frame transmission))
    (htimes : ∀ t, t ≠ transmission →
      storedInterferenceEndTime history' t = storedInterferenceEndTime history t)
    (hpointers : ∀ key, key ≠ .frame transmission → stored history' key = stored history key) :
    Shows view d history' c' := by
  refine ⟨?_, ?_, ?_, ?_⟩
  · intro t ht
    rw [hsets.transmission t ht]
    by_cases hsame : t = transmission
    · rw [if_pos hsame, hsame, htime]
    · rw [if_neg hsame, htimes t hsame]
      exact h.interferenceEndTime t ht
  · intro t ht
    rw [hsets.transmission t ht]
    by_cases hsame : t = transmission
    · rw [if_pos hsame, hsame, hframe]
    · rw [if_neg hsame, hpointers _ (by simpa using hsame)]
      exact h.frame t ht
  · intro r hr t ht field
    rw [hsets.reception r hr t ht, hpointers _ (by simp)]
    exact h.get r hr t ht field
  · intro r hr t ht part hpart
    rw [hsets.reception r hr t ht, hpointers _ (by simp)]
    exact h.decision r hr t ht part hpart

theorem Shows.setsReception {receiver transmission : Nat} {entry : ReceptionCacheEntry P}
    (h : Shows view d history c) (hsets : view.SetsReception d c c' receiver transmission entry)
    (hfields : ∀ field, entry.get field = stored history' (.reception field receiver transmission))
    (hdecisions : ∀ part, part ≠ .NONE →
      entry.decision part = stored history' (.receptionDecision part receiver transmission))
    (htimes : ∀ t, storedInterferenceEndTime history' t = storedInterferenceEndTime history t)
    (hframes : ∀ t, stored history' (.frame t) = stored history (.frame t))
    (hothers : ∀ r t, ¬ (r = receiver ∧ t = transmission) →
      (∀ field, stored history' (.reception field r t) = stored history (.reception field r t)) ∧
      ∀ part, stored history' (.receptionDecision part r t) =
        stored history (.receptionDecision part r t)) : Shows view d history' c' := by
  refine ⟨?_, ?_, ?_, ?_⟩
  · intro t ht
    rw [hsets.transmission t ht, htimes]
    exact h.interferenceEndTime t ht
  · intro t ht
    rw [hsets.transmission t ht, hframes]
    exact h.frame t ht
  · intro r hr t ht field
    rw [hsets.reception r hr t ht]
    by_cases hsame : r = receiver ∧ t = transmission
    · rw [if_pos hsame, hsame.1, hsame.2]
      exact hfields field
    · rw [if_neg hsame, (hothers r t hsame).1]
      exact h.get r hr t ht field
  · intro r hr t ht part hpart
    rw [hsets.reception r hr t ht]
    by_cases hsame : r = receiver ∧ t = transmission
    · rw [if_pos hsame, hsame.1, hsame.2]
      exact hdecisions part hpart
    · rw [if_neg hsame, (hothers r t hsame).2]
      exact h.decision r hr t ht part hpart

theorem Shows.stores_reception {d : Directory} {c' : C} {field : ReceptionField} {r t : Nat}
    {v : Option P} {call : Call P} (h : Shows view d history c)
    (hr : r ∈ d.radios) (ht : t ∈ d.transmissions)
    (hsets : view.SetsReception d c c' r t ((view.reception c r t).put field v))
    (hcall : call = .set (.reception field r t) v ∨ call = .remove (.reception field r t) ∧ v = none) :
    Shows view d (call :: history) c' := by
  have hstored : ∀ key, stored (call :: history) key =
      if PointerKey.reception field r t = key then v else stored history key := by
    intro key
    obtain rfl | ⟨rfl, rfl⟩ := hcall <;> rfl
  have htimes : ∀ t, storedInterferenceEndTime (call :: history) t =
      storedInterferenceEndTime history t := by
    intro t
    obtain rfl | ⟨rfl, -⟩ := hcall <;> rfl
  refine h.setsReception hsets ?_ ?_ htimes ?_ ?_
  · intro other
    rw [hstored]
    by_cases hsame : field = other
    · subst hsame
      rw [if_pos rfl, ReceptionCacheEntry.get_put_self]
    · rw [if_neg (by simpa using hsame), ReceptionCacheEntry.get_put_of_ne _ v hsame]
      exact h.get r hr t ht other
  · intro part hpart
    rw [hstored, if_neg (by simp), ReceptionCacheEntry.decision_put]
    exact h.decision r hr t ht part hpart
  · intro other
    rw [hstored, if_neg (by simp)]
  · intro r' t' hne
    refine ⟨fun other => ?_, fun part => ?_⟩
    · rw [hstored, if_neg]
      intro heq
      injection heq with _ hr' ht'
      exact hne ⟨hr'.symm, ht'.symm⟩
    · rw [hstored, if_neg (by simp)]

theorem Shows.stores_decision {d : Directory} {c' : C} {part : SignalPart} {i r t : Nat}
    {v : Option P} {call : Call P} (h : Shows view d history c)
    (hr : r ∈ d.radios) (ht : t ∈ d.transmissions) (hpart : part.index = some i)
    (hkeeps : KeepsDecisions history (.set (.receptionDecision part r t) v))
    (hsets : view.SetsReception d c c' r t { view.reception c r t with
      receptionDecisions :=
        (resize (view.reception c r t).receptionDecisions (i + 1) none).set i v })
    (hcall : call = .set (.receptionDecision part r t) v ∨
      call = .remove (.receptionDecision part r t) ∧ v = none) :
    Shows view d (call :: history) c' := by
  have hstored : ∀ key, stored (call :: history) key =
      if PointerKey.receptionDecision part r t = key then v else stored history key := by
    intro key
    obtain rfl | ⟨rfl, rfl⟩ := hcall <;> rfl
  have htimes : ∀ t, storedInterferenceEndTime (call :: history) t =
      storedInterferenceEndTime history t := by
    intro t
    obtain rfl | ⟨rfl, -⟩ := hcall <;> rfl
  have hlater : (view.reception c r t).NoLaterDecision part := by
    intro later hlt
    have hlaterPart : later ≠ .NONE := by
      rintro rfl
      rw [hpart] at hlt
      cases hlt
    rw [h.decision r hr t ht later hlaterPart]
    exact hkeeps later hlt
  refine h.setsReception hsets ?_ ?_ htimes ?_ ?_
  · intro field
    rw [hstored, if_neg (by simp), ← h.get r hr t ht field]
    cases field <;> rfl
  · intro other hother
    rw [hstored, ReceptionCacheEntry.decision_set hpart hlater]
    by_cases hsame : other = part
    · rw [if_pos hsame, if_pos (by rw [hsame])]
    · rw [if_neg hsame, if_neg (by simpa using Ne.symm hsame)]
      exact h.decision r hr t ht other hother
  · intro other
    rw [hstored, if_neg (by simp)]
  · intro r' t' hne
    refine ⟨fun field => ?_, fun other => ?_⟩
    · rw [hstored, if_neg (by simp)]
    · rw [hstored, if_neg]
      intro heq
      injection heq with _ hr' ht'
      exact hne ⟨hr'.symm, ht'.symm⟩

end Shows

end inet.physicallayer
