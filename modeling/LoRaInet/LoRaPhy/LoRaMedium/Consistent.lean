import LoRaInet.LoRaPhy.LoRaMedium.Additions
import Mathlib.Data.List.TakeWhile
import Mathlib.Tactic.Linarith

open omnetpp transition

namespace inet.physicallayer.LoRaMedium

variable {par : Parameters}

/-- The medium after some additions, the first of which have been removed: those
had expired, and the cache is that of the others. -/
structure Consistent (par : Parameters) (s : LoRaMedium) (removed onAir : List Addition) :
    Prop where
  radios_nodup : s.radios.Nodup
  ids : (removed ++ onAir).map Addition.id = List.range s.transmissionCount
  transmissions : s.transmissions = onAir.map (·.transmission)
  radios : ∀ x ∈ removed ++ onAir, ∀ radio ∈ x.radios, radio ∈ s.radios
  expired : ∀ x ∈ removed, x.interferenceEndTime par ≤ s.fes.simTime
  describes : s.cache.Describes par s.radios s.transmissionCount onAir

theorem Consistent.initial {radios : List Nat} (hnodup : radios.Nodup) :
    Consistent par (initial radios) [] [] where
  radios_nodup := hnodup
  ids := by simp [LoRaMedium.initial]
  transmissions := by simp [LoRaMedium.initial]
  radios := by simp
  expired := by simp
  describes := .empty radios

variable {removed onAir : List Addition} {s : LoRaMedium}

/-- What was removed stays expired when the clock moves on. -/
theorem Consistent.withFes (h : Consistent par s removed onAir) (fes : FutureEventSet MediumTimer)
    (hle : s.fes.simTime ≤ fes.simTime) : Consistent par { s with fes } removed onAir where
  radios_nodup := h.radios_nodup
  ids := h.ids
  transmissions := h.transmissions
  radios := h.radios
  expired := fun x hx => le_trans (h.expired x hx) hle
  describes := h.describes

variable {s s' : LoRaMedium}

theorem scheduleRemoval_ok (hcall : s.scheduleRemoval = .ok s') :
    ∃ fes, s' = { s with fes } ∧ fes.simTime = s.fes.simTime := by
  unfold scheduleRemoval at hcall
  split at hcall
  · cases hcall
  · split at hcall
    · cases hcall
    · obtain ⟨fes, hschedule, hresult⟩ := bind_eq_ok_iff.mp hcall
      obtain ⟨-, rfl⟩ := FutureEventSet.scheduleAt_eq_ok.mp hschedule
      cases hresult
      exact ⟨_, rfl, rfl⟩

section

variable (h : Consistent par s removed onAir)
include h

theorem Consistent.scheduleRemoval (hcall : s.scheduleRemoval = .ok s') :
    Consistent par s' removed onAir := by
  obtain ⟨fes, rfl, hsimTime⟩ := scheduleRemoval_ok hcall
  exact h.withFes fes (le_of_eq hsimTime.symm)

theorem Consistent.addTransmission {transmission : LoRaTransmission}
    (hid : transmission.id = s.transmissionCount)
    (hcall : addTransmission par s transmission.transmitter transmission = .ok s') :
    Consistent par s' removed (onAir ++ [⟨transmission, s.radios⟩]) := by
  have hadded : Consistent par
      { s with
        transmissionCount := s.transmissionCount + 1
        transmissions := s.transmissions ++ [transmission]
        cache := (MediumCache.addReceivers par s.radios transmission.transmitter transmission
            (s.cache, transmission.endTime)).1.setCachedInterferenceEndTime transmission
          ((MediumCache.addReceivers par s.radios transmission.transmitter transmission
            (s.cache, transmission.endTime)).2 + par.maxTransmissionDuration) }
      removed (onAir ++ [⟨transmission, s.radios⟩]) :=
    { radios_nodup := h.radios_nodup
      ids := by
        rw [← List.append_assoc, List.map_append, h.ids, List.range_succ]
        simp [hid]
      transmissions := by simp [h.transmissions]
      radios := by
        intro x hx radio hradio
        rw [← List.append_assoc, List.mem_append, List.mem_singleton] at hx
        cases hx with
        | inl hold => exact h.radios x hold radio hradio
        | inr hnew => rwa [hnew] at hradio
      expired := h.expired
      describes := h.describes.addTransmission h.radios_nodup hid }
  unfold LoRaMedium.addTransmission at hcall
  dsimp only at hcall
  split at hcall
  · cases hcall
    exact hadded
  · exact hadded.scheduleRemoval hcall

/-- What has expired is read off the interference end time that was cached. -/
theorem Consistent.expired_iff {x : Addition} (hx : x ∈ onAir) :
    s.Expired x.transmission = true ↔ x.interferenceEndTime par ≤ s.fes.simTime := by
  have hcached : s.cache.interferenceEndTime x.transmission.id =
      some (x.interferenceEndTime par) := h.describes.interferenceEndTime x hx
  simp [Expired, hcached]

/-- A number of the additions on the medium, each of them expired, is removed. -/
theorem Consistent.removeNonInterferingTransmissions
    (hcall : s.removeNonInterferingTransmissions = .ok s') :
    ∃ count, Consistent par s' (removed ++ onAir.take count) (onAir.drop count) := by
  have hpruned : Consistent par
      { s with
        cache := (s.transmissions.take (s.transmissions.takeWhile s.Expired).length).foldl
          MediumCache.removeTransmission s.cache
        transmissions := s.transmissions.drop (s.transmissions.takeWhile s.Expired).length }
      (removed ++ onAir.take (s.transmissions.takeWhile s.Expired).length)
      (onAir.drop (s.transmissions.takeWhile s.Expired).length) := by
    generalize hcount : (s.transmissions.takeWhile s.Expired).length = count
    have hprefix : (onAir.take count).map (·.transmission) =
        s.transmissions.takeWhile s.Expired := by
      rw [List.map_take, ← h.transmissions, ← hcount]
      exact (List.prefix_iff_eq_take.mp (List.takeWhile_prefix _)).symm
    constructor
    case radios_nodup => exact h.radios_nodup
    case ids => rw [List.append_assoc, List.take_append_drop, h.ids]
    case transmissions => rw [h.transmissions, List.map_drop]
    case radios =>
      rw [List.append_assoc, List.take_append_drop]
      exact h.radios
    case expired =>
      intro x hx
      cases List.mem_append.mp hx with
      | inl hold => exact h.expired x hold
      | inr htaken =>
        have hmem : x.transmission ∈ s.transmissions.takeWhile s.Expired := by
          rw [← hprefix]
          exact List.mem_map_of_mem htaken
        exact (h.expired_iff (List.mem_of_mem_take htaken)).mp (List.mem_takeWhile_imp hmem)
    case describes =>
      rw [h.transmissions, ← List.map_take]
      apply MediumCache.Describes.removeTransmissions
      rw [List.take_append_drop]
      exact h.describes
  refine ⟨(s.transmissions.takeWhile s.Expired).length, ?_⟩
  unfold LoRaMedium.removeNonInterferingTransmissions at hcall
  dsimp only at hcall
  split at hcall
  · exact hpruned.scheduleRemoval hcall
  · cases hcall
    exact hpruned

theorem Consistent.addRadio {radio : Nat} (hradio : radio ∉ s.radios) :
    Consistent par (addRadio par s radio) removed onAir where
  radios_nodup := by
    rw [LoRaMedium.addRadio, List.nodup_append]
    refine ⟨h.radios_nodup, by simp, ?_⟩
    intro other hother new hnew heq
    rw [List.mem_singleton] at hnew
    exact hradio (hnew ▸ heq ▸ hother)
  ids := h.ids
  transmissions := h.transmissions
  radios := fun x hx other hother => List.mem_append_left _ (h.radios x hx other hother)
  expired := h.expired
  describes := by
    simp only [LoRaMedium.addRadio, h.transmissions]
    exact h.describes.addRadio radio

end

/-- What a step adds. -/
def addedBy : Label → List Addition
  | (.transmit t radio iAmGateway position frame, before, _) =>
    [⟨before.transmissionOf t radio iAmGateway position frame, before.radios⟩]
  | _ => []

/-- All that was added in a run, the first first. -/
def added : List Label → List Addition
  | [] => []
  | label :: history => added history ++ addedBy label

theorem Consistent.step {event : Event} {output : Unit} (h : Consistent par s removed onAir)
    (hstep : step par s event = some (s', output)) :
    ∃ removed' onAir', removed' ++ onAir' = removed ++ onAir ++ addedBy (event, s, ()) ∧
      Consistent par s' removed' onAir' := by
  cases event with
  | addRadio t radio =>
    simp only [LoRaMedium.step, Option.ite_none_right_eq_some, Option.some.injEq,
      Prod.mk.injEq] at hstep
    obtain ⟨⟨hnext, hradio⟩, rfl, -⟩ := hstep
    exact ⟨removed, onAir, by simp [addedBy], (h.withFes _ hnext.1).addRadio hradio⟩
  | transmit t radio iAmGateway position frame =>
    simp only [LoRaMedium.step, Option.ite_none_right_eq_some] at hstep
    obtain ⟨hnext, hstep⟩ := hstep
    split at hstep
    · next next hcall =>
      cases hstep
      have hclock := h.withFes (s.fes.advance t) hnext.1
      exact ⟨removed, _, by simp [addedBy], hclock.addTransmission rfl hcall⟩
    · cases hstep
  | selfMessage e =>
    simp only [LoRaMedium.step, Option.ite_none_right_eq_some] at hstep
    obtain ⟨⟨-, hnext⟩, hstep⟩ := hstep
    split at hstep
    · next next hcall =>
      cases hstep
      have hclock := h.withFes (s.fes.fire e) hnext.1
      obtain ⟨count, hpruned⟩ := hclock.removeNonInterferingTransmissions hcall
      exact ⟨_, _, by simp [addedBy], hpruned⟩
    · cases hstep

/-- In every run the additions are those removed and then those on the medium. -/
theorem consistent_of_run {history : List Label} (hrun : MediumRun par history s) :
    ∃ removed onAir, added history = removed ++ onAir ∧ Consistent par s removed onAir := by
  induction hrun with
  | init hinit =>
    obtain ⟨radios, hnodup, rfl⟩ := hinit
    exact ⟨[], [], rfl, .initial hnodup⟩
  | @step history s s' label hrun hstep ih =>
    obtain ⟨event, before, _⟩ := label
    obtain ⟨rfl, htaken⟩ := traced_eq_some.mp hstep
    obtain ⟨removed, onAir, hadded, hconsistent⟩ := ih
    obtain ⟨removed', onAir', heq, hconsistent'⟩ := hconsistent.step htaken
    exact ⟨removed', onAir', by rw [added, hadded, heq], hconsistent'⟩

end inet.physicallayer.LoRaMedium

namespace inet.physicallayer.LoRaMedium

variable {par : Parameters}

/-- A transmission that was added no later than `x` keeps `x` on the medium at
`t`: only a prefix of the transmissions is ever removed. -/
def HeldAt (par : Parameters) (additions : List Addition) (x : Addition) (t : SimTime) : Prop :=
  ∃ z ∈ additions, z.id ≤ x.id ∧ t < z.interferenceEndTime par
deriving Decidable

theorem Consistent.id_lt_of_removed {s : LoRaMedium} {removed onAir : List Addition}
    (h : Consistent par s removed onAir) {x z : Addition} (hx : x ∈ removed) (hz : z ∈ onAir) :
    x.id < z.id := by
  have hsorted : ((removed ++ onAir).map Addition.id).Pairwise (· < ·) := by
    rw [h.ids]
    exact List.pairwise_lt_range
  rw [List.map_append, List.pairwise_append] at hsorted
  exact hsorted.2.2 x.id (List.mem_map_of_mem hx) z.id (List.mem_map_of_mem hz)

theorem Consistent.mem_onAir_of_heldAt {s : LoRaMedium} {removed onAir : List Addition}
    (h : Consistent par s removed onAir) {x : Addition} (hx : x ∈ removed ++ onAir) {t : SimTime}
    (hnow : s.fes.simTime ≤ t) (hheld : HeldAt par (removed ++ onAir) x t) : x ∈ onAir := by
  obtain ⟨z, hz, hid, hlater⟩ := hheld
  apply (List.mem_append.mp hx).resolve_left
  intro hremoved
  cases List.mem_append.mp hz with
  | inl hzRemoved =>
    have hexpired := h.expired z hzRemoved
    exact absurd (hexpired.trans hnow) (not_le_of_gt hlater)
  | inr hzOnAir =>
    have hlt := h.id_lt_of_removed hremoved hzOnAir
    omega

/-- The intervals found are those of the transmissions on the medium that reach
the radio and overlap. -/
theorem Consistent.mem_computeInterferingTransmissions {s : LoRaMedium}
    {removed onAir : List Addition} (h : Consistent par s removed onAir) {x : Addition}
    (hx : x ∈ onAir) {radio : Nat} (hreaches : x.Reaches radio) {startTime endTime : SimTime}
    (hoverlap : overlap startTime endTime (x.arrivalAt par radio).startTime
      (x.arrivalAt par radio).endTime = true) :
    x.transmission ∈ s.cache.computeInterferingTransmissions radio startTime endTime := by
  have hinterval : x.intervalAt par radio = some ⟨(x.arrivalAt par radio).startTime,
      (x.arrivalAt par radio).endTime, x.transmission⟩ :=
    Addition.intervalAt_eq_some.mpr ⟨hreaches, rfl⟩
  rw [MediumCache.computeInterferingTransmissions, h.describes.receptionIntervals]
  apply List.mem_map.mpr
  refine ⟨⟨_, _, x.transmission⟩, List.mem_filter.mpr ⟨?_, hoverlap⟩, rfl⟩
  exact List.mem_filterMap.mpr ⟨x, hx, hinterval⟩

/-- While a reception lasts, what overlaps with it at its receiver is found, in
every run where something added no later is still to interfere after its end. -/
theorem interferer_found {history : List Label} {s : LoRaMedium} (hrun : MediumRun par history s)
    {x : Addition} (hx : x ∈ added history) {reception : LoRaReception}
    (hreaches : x.Reaches reception.receiver)
    (hoverlap : overlap reception.startTime reception.endTime
      (x.arrivalAt par reception.receiver).startTime
      (x.arrivalAt par reception.receiver).endTime = true)
    (hnow : s.fes.simTime ≤ reception.endTime)
    (hheld : HeldAt par (added history) x reception.endTime) :
    x.transmission ∈ s.transmissions ∧
      s.cache.arrival reception.receiver x.id = some (x.arrivalAt par reception.receiver) ∧
      x.transmission ∈ s.cache.computeInterferingTransmissions reception.receiver
        reception.startTime reception.endTime := by
  obtain ⟨removed, onAir, hadded, h⟩ := consistent_of_run hrun
  rw [hadded] at hx hheld
  have hradio := h.radios x hx reception.receiver hreaches.1
  have honAir := h.mem_onAir_of_heldAt hx hnow hheld
  refine ⟨?_, ?_, ?_⟩
  · rw [h.transmissions]
    exact List.mem_map_of_mem honAir
  · exact h.describes.arrival x honAir reception.receiver hradio hreaches.2
  · exact h.mem_computeInterferingTransmissions honAir hreaches hoverlap

/-- Transmissions arrive everywhere at once. -/
def withoutDelay : Parameters where
  computeArrival transmission _ := {
    startTime := transmission.startTime
    endTime := transmission.endTime
    preambleDuration := transmission.preambleDuration
    headerDuration := transmission.headerDuration
    dataDuration := transmission.dataDuration
    startPosition := transmission.startPosition
    endPosition := transmission.endPosition }

/-- With SF 7, a bandwidth of 125 kHz and CR 4 it lasts 78.08 ms. -/
def shortFrame : LoRaMacFrame := { LoRaSF := 7, LoRaBW := 125000, LoRaCR := 4 }

def firstAddition : Addition :=
  ⟨LoRaTransmitter.createTransmission false 0 1 {} shortFrame 0, [1, 2, 3]⟩

def secondAddition : Addition :=
  ⟨LoRaTransmitter.createTransmission false 1 2 {} shortFrame (70 / 1000), [1, 2, 3]⟩

/-- The reception of the second transmission at a third radio. -/
def secondReception : LoRaReception :=
  receptionAt 3 secondAddition.transmission (secondAddition.arrivalAt withoutDelay 3)

theorem interferer_found_second : ∃ s history,
    MediumRun { withoutDelay with maxTransmissionDuration := 1 / 10 } history s ∧
      firstAddition.transmission ∈ s.transmissions ∧
      s.cache.arrival 3 firstAddition.id = some (firstAddition.arrivalAt withoutDelay 3) ∧
      firstAddition.transmission ∈ s.cache.computeInterferingTransmissions 3
        secondReception.startTime secondReception.endTime := by
  obtain ⟨s, history, hrun, hadded, hnow⟩ := @exists_run_of_initial _ _ _
    (traced (step { withoutDelay with maxTransmissionDuration := 1 / 10 }))
    (fun s => ∃ radios, radios.Nodup ∧ s = initial radios) _ ⟨[1, 2, 3], by decide, rfl⟩
    [.transmit 0 1 false {} shortFrame, .transmit (70 / 1000) 2 false {} shortFrame]
    (fun s history => added history = [firstAddition, secondAddition] ∧
      s.fes.simTime ≤ secondReception.endTime) (by decide +kernel)
  have hfirst : firstAddition ∈ added history := by simp [hadded]
  exact ⟨s, history, hrun, @interferer_found _ _ _ hrun firstAddition hfirst secondReception
    (by decide +kernel) (by decide +kernel) hnow (by rw [hadded]; decide +kernel)⟩

/-- With the default limit the first transmission is removed after 88.08 ms,
while the reception of the second, which overlaps with it, goes on. -/
theorem interferer_removed : ∃ s history, MediumRun withoutDelay history s ∧
    firstAddition ∈ added history ∧ secondAddition ∈ added history ∧
    firstAddition.Reaches secondReception.receiver ∧
    overlap secondReception.startTime secondReception.endTime
      (firstAddition.arrivalAt withoutDelay 3).startTime
      (firstAddition.arrivalAt withoutDelay 3).endTime = true ∧
    s.fes.simTime ≤ secondReception.endTime ∧
    firstAddition.transmission ∉ s.transmissions ∧
    s.cache.arrival 3 firstAddition.id = none ∧
    firstAddition.transmission ∉ s.cache.computeInterferingTransmissions 3
      secondReception.startTime secondReception.endTime :=
  @exists_run_of_initial _ _ _ (traced (step withoutDelay))
    (fun s => ∃ radios, radios.Nodup ∧ s = initial radios) _ ⟨[1, 2, 3], by decide, rfl⟩
    [.transmit 0 1 false {} shortFrame,
      .transmit (70 / 1000) 2 false {} shortFrame,
      .selfMessage ⟨LoRaTransmitter.duration false shortFrame + 10 / 1000,
        .removeNonInterferingTransmissionsTimer⟩]
    _ (by decide +kernel)

end inet.physicallayer.LoRaMedium
