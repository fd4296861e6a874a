import LoRaInet.LoRaPhy.LoRaMedium.Consistent

open omnetpp transition

namespace inet.physicallayer.LoRaMedium

variable (par : Parameters) (reception : LoRaReception)

/-- The transmission is another one, and it interferes with the reception. -/
def TransmissionInterferes (transmission : LoRaTransmission) : Prop :=
  reception.transmission ≠ transmission ∧
    interferes par transmission (par.computeArrival transmission reception.receiver) reception =
      true
deriving Decidable

abbrev Interferes (x : Addition) : Prop :=
  TransmissionInterferes par reception x.transmission

/-- It was added with the receiver there, so that it is in the receiver's tree
of intervals, and the query returns it. -/
def Found (x : Addition) : Prop :=
  x.Reaches reception.receiver ∧ overlap reception.startTime reception.endTime
      (x.arrivalAt par reception.receiver).startTime
      (x.arrivalAt par reception.receiver).endTime = true
deriving Decidable

/-- `getReception` of a transmission. -/
def receptionOf (radio : Nat) (transmission : LoRaTransmission) : LoRaReception :=
  receptionAt radio transmission (par.computeArrival transmission radio)

/-- The transmissions whose receptions are returned, when these additions are on
the medium. -/
def interferersOn (onAir : List Addition) : List LoRaTransmission :=
  (onAir.filter fun x => Found par reception x ∧ Interferes par reception x).map (·.transmission)

theorem receptionOf_injective (radio : Nat) : Function.Injective (receptionOf par radio) :=
  fun _ _ heq => congrArg LoRaReception.transmission heq

section Consistent

variable {par : Parameters} {s : LoRaMedium} {removed onAir : List Addition}

section

variable (h : Consistent par s removed onAir)
include h

theorem Consistent.computeInterferingTransmissions_eq (reception : LoRaReception) :
    s.cache.computeInterferingTransmissions reception.receiver reception.startTime
        reception.endTime =
      (onAir.filter (Found par reception)).map (·.transmission) := by
  rw [MediumCache.computeInterferingTransmissions, h.describes.receptionIntervals]
  clear h
  induction onAir with
  | nil => rfl
  | cons x rest ih =>
    rw [List.filterMap_cons, List.filter_cons]
    by_cases hreaches : x.Reaches reception.receiver
    · have hfound : Found par reception x ↔ overlap reception.startTime reception.endTime
          (x.arrivalAt par reception.receiver).startTime
          (x.arrivalAt par reception.receiver).endTime = true := and_iff_right hreaches
      simp only [Addition.intervalAt, hreaches, ↓reduceIte, List.filter_cons, hfound,
        decide_eq_true_eq]
      split
      · rw [List.map_cons, List.map_cons, ih]
      · exact ih
    · have hfound : ¬Found par reception x := fun hfound => hreaches hfound.1
      simp only [Addition.intervalAt, hreaches, ↓reduceIte, hfound, decide_false,
        Bool.false_eq_true, ih]

/-- The loop finds a cached arrival for each transmission that was found. -/
theorem Consistent.interferingReceptions_eq (reception : LoRaReception) {found : List Addition}
    (hfound : ∀ x ∈ found, x ∈ onAir ∧ x.Reaches reception.receiver) :
    interferingReceptions par s.cache reception (found.map (·.transmission)) =
      .ok ((found.filter (Interferes par reception)).map
        fun x => receptionOf par reception.receiver x.transmission) := by
  induction found with
  | nil => rfl
  | cons x rest ih =>
    obtain ⟨honAir, hreaches⟩ := hfound x (.head _)
    have hrest := ih fun y hy => hfound y (List.mem_cons_of_mem x hy)
    have hradio := h.radios x (List.mem_append_right removed honAir) _ hreaches.1
    have harrival : s.cache.arrival reception.receiver x.transmission.id =
        some (x.arrivalAt par reception.receiver) :=
      h.describes.arrival x honAir _ hradio hreaches.2
    rw [List.map_cons, interferingReceptions, List.filter_cons]
    by_cases hother : reception.transmission ≠ x.transmission
    · have hiff : Interferes par reception x ↔ interferes par x.transmission
          (x.arrivalAt par reception.receiver) reception = true := and_iff_right hother
      simp only [hother, harrival, hrest, ne_eq, not_false_eq_true, ↓reduceIte, hiff,
        decide_eq_true_eq, bind, Except.bind]
      split
      · rw [List.map_cons, receptionOf, Addition.arrivalAt]
      · rfl
    · have hnot : ¬Interferes par reception x := fun hinterferes => hother hinterferes.1
      simp only [hother, hrest, ↓reduceIte, hnot, decide_false, Bool.false_eq_true]

/-- The list that is returned, from the additions that are on the medium. -/
theorem Consistent.computeInterferingReceptions_eq (reception : LoRaReception) :
    computeInterferingReceptions par s reception =
      .ok ((interferersOn par reception onAir).map (receptionOf par reception.receiver)) := by
  rw [computeInterferingReceptions, h.computeInterferingTransmissions_eq,
    h.interferingReceptions_eq]
  · rw [List.filter_filter, interferersOn, List.map_map]
    simp only [Bool.decide_and, Bool.and_comm, Function.comp_def]
  · intro x hx
    obtain ⟨honAir, hfound⟩ := List.mem_filter.mp hx
    exact ⟨honAir, (of_decide_eq_true hfound).1⟩

/-- Ids are not used twice, so that an addition is known by its transmission. -/
theorem Consistent.eq_of_transmission_eq {x y : Addition}
    (hx : x ∈ removed ++ onAir) (hy : y ∈ removed ++ onAir)
    (heq : x.transmission = y.transmission) : x = y := by
  have hnodup : ((removed ++ onAir).map Addition.id).Nodup := by
    rw [h.ids]
    exact List.nodup_range
  exact List.inj_on_of_nodup_map hnodup hx hy (congrArg LoRaTransmission.id heq)

theorem Consistent.mem_onAir_iff {x : Addition}
    (hx : x ∈ removed ++ onAir) : x ∈ onAir ↔ x.transmission ∈ s.transmissions := by
  rw [h.transmissions, List.mem_map]
  constructor
  · exact fun honAir => ⟨x, honAir, rfl⟩
  · rintro ⟨y, hy, heq⟩
    rwa [← h.eq_of_transmission_eq (List.mem_append_right removed hy) hx heq]

theorem Consistent.mem_interferersOn_iff
    {reception : LoRaReception} {x : Addition} (hx : x ∈ removed ++ onAir) :
    x.transmission ∈ interferersOn par reception onAir ↔
      x.transmission ∈ s.transmissions ∧ Found par reception x ∧ Interferes par reception x := by
  rw [interferersOn, List.mem_map, ← h.mem_onAir_iff hx]
  constructor
  · rintro ⟨y, hy, heq⟩
    obtain ⟨honAir, hfound⟩ := List.mem_filter.mp hy
    obtain rfl := h.eq_of_transmission_eq (List.mem_append_right removed honAir) hx heq
    exact ⟨honAir, of_decide_eq_true hfound⟩
  · rintro ⟨honAir, hfound⟩
    exact ⟨x, List.mem_filter.mpr ⟨honAir, decide_eq_true hfound⟩, rfl⟩

/-- Where each interferer is found, the transmissions alone say which are. -/
theorem Consistent.mem_interferersOn_of_eachFound {reception : LoRaReception}
    (hfound : ∀ x ∈ removed ++ onAir, Interferes par reception x →
      x.transmission ∈ s.transmissions ∧ Found par reception x) {transmission : LoRaTransmission} :
    transmission ∈ interferersOn par reception onAir ↔
      transmission ∈ (removed ++ onAir).map (·.transmission) ∧
        TransmissionInterferes par reception transmission := by
  constructor
  · intro hmem
    obtain ⟨x, hx, rfl⟩ := List.mem_map.mp hmem
    have hadded := List.mem_append_right removed (List.mem_of_mem_filter hx)
    exact ⟨List.mem_map_of_mem hadded, ((h.mem_interferersOn_iff hadded).mp hmem).2.2⟩
  · rintro ⟨hmem, hinterferes⟩
    obtain ⟨x, hx, rfl⟩ := List.mem_map.mp hmem
    obtain ⟨hon, hfoundx⟩ := hfound x hx hinterferes
    exact (h.mem_interferersOn_iff hx).mpr ⟨hon, hfoundx, hinterferes⟩

theorem Consistent.pairwise_interferersOn (reception : LoRaReception) :
    (interferersOn par reception onAir).Pairwise fun x y => x.id < y.id := by
  have hsorted : ((removed ++ onAir).map Addition.id).Pairwise (· < ·) := by
    rw [h.ids]
    exact List.pairwise_lt_range
  rw [List.map_append, List.pairwise_append] at hsorted
  rw [interferersOn, List.pairwise_map]
  exact (List.pairwise_map.mp hsorted.2.1).filter _

end

end Consistent

/-- Nothing that interferes with the reception was added before the receiver
was, or has been removed. -/
def EachFound (history : List Label) (s : LoRaMedium) (reception : LoRaReception) : Prop :=
  ∀ x ∈ added history, Interferes par reception x →
    x.transmission ∈ s.transmissions ∧ Found par reception x
deriving Decidable

/-- Two runs with the same transmissions, in which the receiver may have been
added at different times. -/
theorem interferingReceptions_same_iff {par : Parameters} {historyA historyB : List Label}
    {sA sB : LoRaMedium} (hrunA : MediumRun par historyA sA) (hrunB : MediumRun par historyB sB)
    (hsame : (added historyA).map (·.transmission) = (added historyB).map (·.transmission))
    (reception : LoRaReception) :
    ∃ receptionsA receptionsB,
      computeInterferingReceptions par sA reception = .ok receptionsA ∧
      computeInterferingReceptions par sB reception = .ok receptionsB ∧
      ((receptionsB = receptionsA ∧ ∀ x ∈ added historyB, Interferes par reception x →
          receptionOf par reception.receiver x.transmission ∈ receptionsB) ↔
        EachFound par historyA sA reception ∧ EachFound par historyB sB reception) := by
  obtain ⟨removedA, onAirA, haddedA, hA⟩ := consistent_of_run hrunA
  obtain ⟨removedB, onAirB, haddedB, hB⟩ := consistent_of_run hrunB
  refine ⟨_, _, hA.computeInterferingReceptions_eq reception,
    hB.computeInterferingReceptions_eq reception, ?_⟩
  rw [haddedA, haddedB] at hsame
  unfold EachFound
  rw [haddedA, haddedB, (List.map_injective_iff.mpr (receptionOf_injective par _)).eq_iff]
  simp only [List.mem_map_of_injective (receptionOf_injective par _)]
  constructor
  · rintro ⟨heq, hall⟩
    have hfoundB : ∀ x ∈ removedB ++ onAirB, Interferes par reception x →
        x.transmission ∈ sB.transmissions ∧ Found par reception x := by
      intro x hx hinterferes
      obtain ⟨hon, hfound, -⟩ := (hB.mem_interferersOn_iff hx).mp (hall x hx hinterferes)
      exact ⟨hon, hfound⟩
    refine ⟨?_, hfoundB⟩
    intro x hx hinterferes
    have hxB : x.transmission ∈ (removedB ++ onAirB).map (·.transmission) := by
      rw [← hsame]
      exact List.mem_map_of_mem hx
    have hmem : x.transmission ∈ interferersOn par reception onAirA := by
      rw [← heq]
      exact (hB.mem_interferersOn_of_eachFound hfoundB).mpr ⟨hxB, hinterferes⟩
    obtain ⟨hon, hfound, -⟩ := (hA.mem_interferersOn_iff hx).mp hmem
    exact ⟨hon, hfound⟩
  · rintro ⟨hfoundA, hfoundB⟩
    constructor
    · have hsortedA := hA.pairwise_interferersOn reception
      have hsortedB := hB.pairwise_interferersOn reception
      apply List.Perm.eq_of_pairwise _ hsortedB hsortedA
      · apply (List.perm_ext_iff_of_nodup (hsortedB.imp fun hlt heq => ?_)
          (hsortedA.imp fun hlt heq => ?_)).mpr
        · intro transmission
          rw [hA.mem_interferersOn_of_eachFound hfoundA, hB.mem_interferersOn_of_eachFound hfoundB,
            hsame]
        · exact absurd hlt (by rw [heq]; exact lt_irrefl _)
        · exact absurd hlt (by rw [heq]; exact lt_irrefl _)
      · intro a b _ _ hlt hgt
        exact absurd (hlt.trans hgt) (lt_irrefl _)
    · intro x hx hinterferes
      obtain ⟨hon, hfound⟩ := hfoundB x hx hinterferes
      exact (hB.mem_interferersOn_iff hx).mpr ⟨hon, hfound, hinterferes⟩

/-- The first radio again, and the second ten milliseconds later. -/
def overlappingTransmission : LoRaTransmission :=
  LoRaTransmitter.createTransmission false 1 1 {} shortFrame (110 / 1000)

def lastTransmission : LoRaTransmission :=
  LoRaTransmitter.createTransmission false 2 2 {} shortFrame (120 / 1000)

def lastReception : LoRaReception := receptionOf withoutDelay 3 lastTransmission

/-- The third radio is there from the start in one run, and is added after the
first transmission in the other. -/
theorem interferingReceptions_same_iff_last : ∃ sA historyA sB historyB receptions,
    MediumRun withoutDelay historyA sA ∧ MediumRun withoutDelay historyB sB ∧
      computeInterferingReceptions withoutDelay sA lastReception = .ok receptions ∧
      computeInterferingReceptions withoutDelay sB lastReception = .ok receptions ∧
      receptionOf withoutDelay 3 overlappingTransmission ∈ receptions := by
  obtain ⟨sA, historyA, hrunA, haddedA, hfoundA⟩ := @exists_run_of_initial _ _ _
    (traced (step withoutDelay)) (fun s => ∃ radios, radios.Nodup ∧ s = initial radios) _
    ⟨[1, 2, 3], by decide, rfl⟩
    [.transmit 0 1 false {} shortFrame,
      .selfMessage ⟨8808 / 100000, .removeNonInterferingTransmissionsTimer⟩,
      .transmit (110 / 1000) 1 false {} shortFrame, .transmit (120 / 1000) 2 false {} shortFrame]
    (fun s history => added history = [firstAddition, ⟨overlappingTransmission, [1, 2, 3]⟩,
      ⟨lastTransmission, [1, 2, 3]⟩] ∧ EachFound withoutDelay history s lastReception)
    (by decide +kernel)
  obtain ⟨sB, historyB, hrunB, haddedB, hfoundB⟩ := @exists_run_of_initial _ _ _
    (traced (step withoutDelay)) (fun s => ∃ radios, radios.Nodup ∧ s = initial radios) _
    ⟨[1, 2], by decide, rfl⟩
    [.transmit 0 1 false {} shortFrame,
      .selfMessage ⟨8808 / 100000, .removeNonInterferingTransmissionsTimer⟩,
      .addRadio (100 / 1000) 3,
      .transmit (110 / 1000) 1 false {} shortFrame, .transmit (120 / 1000) 2 false {} shortFrame]
    (fun s history => added history = [⟨firstAddition.transmission, [1, 2]⟩,
      ⟨overlappingTransmission, [1, 2, 3]⟩, ⟨lastTransmission, [1, 2, 3]⟩] ∧
      EachFound withoutDelay history s lastReception) (by decide +kernel)
  obtain ⟨receptionsA, receptionsB, hA, hB, hiff⟩ := interferingReceptions_same_iff hrunA hrunB
    (by rw [haddedA, haddedB]; rfl) lastReception
  obtain ⟨rfl, hall⟩ := hiff.mpr ⟨hfoundA, hfoundB⟩
  have hmem := hall ⟨overlappingTransmission, [1, 2, 3]⟩ (by simp [haddedB]) (by decide +kernel)
  exact ⟨sA, historyA, sB, historyB, receptionsB, hrunA, hrunB, hA, hB, hmem⟩

/-- It starts at 20 ms, before the first transmission ends. -/
def laterTransmission : LoRaTransmission :=
  LoRaTransmitter.createTransmission false 1 2 {} shortFrame (20 / 1000)

def laterReception : LoRaReception := receptionOf withoutDelay 3 laterTransmission

/-- The third radio is added while the first transmission is in progress; its
later reception misses the interference that it has in the other run. -/
theorem addRadio_misses_interferer : ∃ sA historyA sB historyB,
    MediumRun withoutDelay historyA sA ∧ MediumRun withoutDelay historyB sB ∧
      (added historyA).map (·.transmission) = (added historyB).map (·.transmission) ∧
      (∃ x ∈ added historyB, Interferes withoutDelay laterReception x) ∧
      computeInterferingReceptions withoutDelay sA laterReception =
        .ok [receptionOf withoutDelay 3 firstAddition.transmission] ∧
      computeInterferingReceptions withoutDelay sB laterReception = .ok [] := by
  obtain ⟨sA, historyA, hrunA, haddedA, hA⟩ := @exists_run_of_initial _ _ _
    (traced (step withoutDelay)) (fun s => ∃ radios, radios.Nodup ∧ s = initial radios) _
    ⟨[1, 2, 3], by decide, rfl⟩
    [.transmit 0 1 false {} shortFrame, .transmit (20 / 1000) 2 false {} shortFrame]
    (fun s history => (added history).map (·.transmission) =
        [firstAddition.transmission, laterTransmission] ∧
      computeInterferingReceptions withoutDelay s laterReception =
        .ok [receptionOf withoutDelay 3 firstAddition.transmission]) (by decide +kernel)
  obtain ⟨sB, historyB, hrunB, haddedB, hinterferes, hB⟩ := @exists_run_of_initial _ _ _
    (traced (step withoutDelay)) (fun s => ∃ radios, radios.Nodup ∧ s = initial radios) _
    ⟨[1, 2], by decide, rfl⟩
    [.transmit 0 1 false {} shortFrame, .addRadio (10 / 1000) 3,
      .transmit (20 / 1000) 2 false {} shortFrame]
    (fun s history => (added history).map (·.transmission) =
        [firstAddition.transmission, laterTransmission] ∧
      (∃ x ∈ added history, Interferes withoutDelay laterReception x) ∧
      computeInterferingReceptions withoutDelay s laterReception = .ok []) (by decide +kernel)
  exact ⟨sA, historyA, sB, historyB, hrunA, hrunB, haddedA.trans haddedB.symm, hinterferes, hA, hB⟩

end inet.physicallayer.LoRaMedium
