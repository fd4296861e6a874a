import LoRaInet.LoRaPhy.LoRaMedium

open omnetpp transition

namespace inet.physicallayer

/-- A transmission that was added, with the radios that the medium had then. -/
structure Addition where
  transmission : LoRaTransmission
  radios : List Nat
  deriving DecidableEq

namespace Addition

open LoRaMedium (Parameters)

def id (x : Addition) : Nat := x.transmission.id

def arrivalAt (par : Parameters) (x : Addition) (radio : Nat) : ArrivalAt :=
  par.computeArrival x.transmission radio

/-- The transmission is received at a radio that was there, its own apart. -/
def Reaches (x : Addition) (radio : Nat) : Prop :=
  radio ∈ x.radios ∧ radio ≠ x.transmission.transmitter
deriving Decidable

def intervalAt (par : Parameters) (radio : Nat) (x : Addition) : Option Interval :=
  if x.Reaches radio then
    some ⟨(x.arrivalAt par radio).startTime, (x.arrivalAt par radio).endTime, x.transmission⟩
  else none

/-- The end of the transmission, or of its last arrival where that is later. -/
def maxArrivalEndTime (par : Parameters) (x : Addition) : SimTime :=
  (x.radios.filter x.Reaches).foldl (fun t radio => max t (x.arrivalAt par radio).endTime)
    x.transmission.endTime

def interferenceEndTime (par : Parameters) (x : Addition) : SimTime :=
  x.maxArrivalEndTime par + par.maxTransmissionDuration

@[simp] theorem id_mk (transmission : LoRaTransmission) (radios : List Nat) :
    (⟨transmission, radios⟩ : Addition).id = transmission.id := rfl

theorem intervalAt_eq_some {par : Parameters} {radio : Nat} {x : Addition} {interval : Interval} :
    x.intervalAt par radio = some interval ↔ x.Reaches radio ∧
      interval = ⟨(x.arrivalAt par radio).startTime, (x.arrivalAt par radio).endTime,
        x.transmission⟩ := by
  unfold intervalAt
  split
  · next hreaches => simp [hreaches, eq_comm]
  · next hreaches => simp [hreaches]

end Addition

namespace MediumCache

variable {par : LoRaMedium.Parameters}

/-- What the cache holds when these are the transmissions on the medium, in the
order in which they were added, and `radios` the radios. -/
structure Describes (par : LoRaMedium.Parameters) (radios : List Nat) (transmissionCount : Nat)
    (c : MediumCache) (onAir : List Addition) : Prop where
  ids : (onAir.map Addition.id).Nodup
  id_lt : ∀ x ∈ onAir, x.id < transmissionCount
  interferenceEndTime : ∀ x ∈ onAir, c.interferenceEndTime x.id = some (x.interferenceEndTime par)
  arrival : ∀ x ∈ onAir, ∀ radio ∈ radios, radio ≠ x.transmission.transmitter →
    c.arrival radio x.id = some (x.arrivalAt par radio)
  interval : ∀ x ∈ onAir, ∀ radio, c.interval radio x.id = x.intervalAt par radio
  receptionIntervals : ∀ radio,
    c.receptionIntervals radio = onAir.filterMap (Addition.intervalAt par radio)
  fresh : ∀ radio id, transmissionCount ≤ id → c.interval radio id = none

theorem Describes.empty (radios : List Nat) : Describes par radios 0 {} [] where
  ids := by simp
  id_lt := by simp
  interferenceEndTime := by simp
  arrival := by simp
  interval := by simp
  receptionIntervals := by simp
  fresh := by simp

/-- The transmission that was added first is removed. -/
theorem Describes.removeTransmission {radios : List Nat} {transmissionCount : Nat}
    {c : MediumCache} {x : Addition} {rest : List Addition}
    (h : Describes par radios transmissionCount c (x :: rest)) :
    Describes par radios transmissionCount (c.removeTransmission x.transmission) rest := by
  obtain ⟨hx, hids⟩ := List.nodup_cons.mp h.ids
  have hother : ∀ y ∈ rest, y.id ≠ x.transmission.id := by
    intro y hy heq
    apply hx
    rw [show x.id = y.id from heq.symm]
    exact List.mem_map_of_mem hy
  have htail : ∀ y ∈ rest, y ∈ x :: rest := fun y hy => List.mem_cons_of_mem x hy
  constructor
  case ids => exact hids
  case id_lt => exact fun y hy => h.id_lt y (htail y hy)
  case interferenceEndTime =>
    intro y hy
    simp only [MediumCache.removeTransmission, hother y hy, ↓reduceIte]
    exact h.interferenceEndTime y (htail y hy)
  case arrival =>
    intro y hy radio hradio hne
    simp only [MediumCache.removeTransmission, hother y hy, ↓reduceIte]
    exact h.arrival y (htail y hy) radio hradio hne
  case interval =>
    intro y hy radio
    simp only [MediumCache.removeTransmission, hother y hy, ↓reduceIte]
    exact h.interval y (htail y hy) radio
  case receptionIntervals =>
    intro radio
    have hxInterval : c.interval radio x.transmission.id = x.intervalAt par radio :=
      h.interval x (by simp) radio
    simp only [MediumCache.removeTransmission, hxInterval, h.receptionIntervals radio,
      List.filterMap_cons]
    cases x.intervalAt par radio with
    | none => simp only
    | some interval => simp only [List.erase_cons_head]
  case fresh =>
    intro radio id hid
    simp only [MediumCache.removeTransmission, h.fresh radio id hid, ite_self]

theorem Describes.removeTransmissions {radios : List Nat} {transmissionCount : Nat}
    {c : MediumCache} {removed rest : List Addition}
    (h : Describes par radios transmissionCount c (removed ++ rest)) :
    Describes par radios transmissionCount
      ((removed.map (·.transmission)).foldl MediumCache.removeTransmission c) rest := by
  induction removed generalizing c with
  | nil => exact h
  | cons x removed ih => exact ih h.removeTransmission

section addReceiver

variable (par) (radios : List Nat) (transmitterRadio : Nat) (transmission : LoRaTransmission)
  (acc : MediumCache × SimTime)

/-- The loop of `addTransmission` over the radios. -/
abbrev addReceivers : MediumCache × SimTime :=
  radios.foldl (LoRaMedium.addReceiver par transmitterRadio transmission) acc

theorem addReceivers_interferenceEndTime :
    (addReceivers par radios transmitterRadio transmission acc).1.interferenceEndTime =
      acc.1.interferenceEndTime := by
  induction radios generalizing acc with
  | nil => rfl
  | cons receiver radios ih =>
    rw [addReceivers, List.foldl_cons, ih, LoRaMedium.addReceiver]
    split
    · simp only [setCachedInterval, setCachedArrival]
    · rfl

theorem addReceivers_caches (radio id : Nat) :
    (addReceivers par radios transmitterRadio transmission acc).1.arrival radio id =
      (if (radio ∈ radios ∧ radio ≠ transmitterRadio) ∧ id = transmission.id then
        some (par.computeArrival transmission radio)
      else acc.1.arrival radio id) ∧
    (addReceivers par radios transmitterRadio transmission acc).1.interval radio id =
      if (radio ∈ radios ∧ radio ≠ transmitterRadio) ∧ id = transmission.id then
        some ⟨(par.computeArrival transmission radio).startTime,
          (par.computeArrival transmission radio).endTime, transmission⟩
      else acc.1.interval radio id := by
  induction radios generalizing acc with
  | nil => simp
  | cons receiver radios ih =>
    rw [addReceivers, List.foldl_cons, (ih _).1, (ih _).2, LoRaMedium.addReceiver]
    by_cases hreceiver : receiver ≠ transmitterRadio
    · simp only [hreceiver, ne_eq, not_false_eq_true, ↓reduceIte, setCachedInterval,
        setCachedArrival, List.mem_cons]
      grind
    · simp only [hreceiver, ↓reduceIte, List.mem_cons]
      grind

/-- Each radio is met once, so that its tree gets one interval at most. -/
theorem addReceivers_receptionIntervals (hnodup : radios.Nodup) (radio : Nat) :
    (addReceivers par radios transmitterRadio transmission acc).1.receptionIntervals radio =
      acc.1.receptionIntervals radio ++ if radio ∈ radios ∧ radio ≠ transmitterRadio then
          [⟨(par.computeArrival transmission radio).startTime,
            (par.computeArrival transmission radio).endTime, transmission⟩]
        else [] := by
  induction radios generalizing acc with
  | nil => simp
  | cons receiver radios ih =>
    obtain ⟨hnotMem, hnodup⟩ := List.nodup_cons.mp hnodup
    rw [addReceivers, List.foldl_cons, ih _ hnodup, LoRaMedium.addReceiver]
    by_cases hreceiver : receiver ≠ transmitterRadio
    · simp only [hreceiver, ne_eq, not_false_eq_true, ↓reduceIte, setCachedInterval,
        setCachedArrival, List.mem_cons]
      by_cases hradio : radio = receiver
      · subst hradio
        simp [hnotMem, hreceiver]
      · simp [hradio]
    · simp only [hreceiver, ↓reduceIte, List.mem_cons]
      grind

theorem addReceivers_maxArrivalEndTime :
    (addReceivers par radios transmitterRadio transmission acc).2 =
      (radios.filter (· ≠ transmitterRadio)).foldl
        (fun t radio => max t (par.computeArrival transmission radio).endTime) acc.2 := by
  induction radios generalizing acc with
  | nil => rfl
  | cons receiver radios ih =>
    rw [addReceivers, List.foldl_cons, ih, LoRaMedium.addReceiver, List.filter_cons]
    by_cases hreceiver : receiver ≠ transmitterRadio
    · simp only [hreceiver, ne_eq, not_false_eq_true, ↓reduceIte, decide_true, List.foldl_cons]
      congr 1
      rw [max_def]
      grind
    · simp only [hreceiver, ↓reduceIte, decide_false, Bool.false_eq_true]

end addReceiver

/-- The cache after the loop over the radios and the interference end time. -/
theorem Describes.addTransmission {radios : List Nat} {transmissionCount : Nat} {c : MediumCache}
    {onAir : List Addition} (h : Describes par radios transmissionCount c onAir)
    (hnodup : radios.Nodup) {transmission : LoRaTransmission}
    (hid : transmission.id = transmissionCount) :
    Describes par radios (transmissionCount + 1)
      ((addReceivers par radios transmission.transmitter transmission
          (c, transmission.endTime)).1.setCachedInterferenceEndTime transmission
        ((addReceivers par radios transmission.transmitter transmission
          (c, transmission.endTime)).2 + par.maxTransmissionDuration))
      (onAir ++ [⟨transmission, radios⟩]) := by
  have hother : ∀ x ∈ onAir, x.id ≠ transmission.id := by
    intro x hx
    have hlt := h.id_lt x hx
    omega
  have hreaches : ∀ radio, (⟨transmission, radios⟩ : Addition).Reaches radio ↔
      radio ∈ radios ∧ radio ≠ transmission.transmitter := fun radio => Iff.rfl
  have hmem : ∀ x, x ∈ onAir ++ [⟨transmission, radios⟩] ↔
      x ∈ onAir ∨ x = ⟨transmission, radios⟩ := by simp
  constructor
  case ids =>
    rw [List.map_append, List.map_singleton, List.nodup_append]
    refine ⟨h.ids, by simp, ?_⟩
    intro id hmemId other hotherId heq
    obtain ⟨x, hx, rfl⟩ := List.mem_map.mp hmemId
    rw [List.mem_singleton] at hotherId
    exact hother x hx (heq.trans hotherId)
  case id_lt =>
    intro x hx
    cases (hmem x).mp hx with
    | inl hold =>
      have hlt := h.id_lt x hold
      omega
    | inr hnew =>
      rw [hnew, Addition.id_mk]
      omega
  case interferenceEndTime =>
    intro x hx
    simp only [setCachedInterferenceEndTime, addReceivers_interferenceEndTime]
    cases (hmem x).mp hx with
    | inl hold =>
      rw [if_neg (hother x hold)]
      exact h.interferenceEndTime x hold
    | inr hnew =>
      subst hnew
      rw [if_pos (Addition.id_mk _ _), addReceivers_maxArrivalEndTime,
        Addition.interferenceEndTime, Addition.maxArrivalEndTime]
      congr 3
      apply List.filter_congr
      intro radio hradio
      simp [hreaches, hradio]
  case arrival =>
    intro x hx radio hradio hne
    simp only [setCachedInterferenceEndTime, (addReceivers_caches _ _ _ _ _ _ _).1]
    cases (hmem x).mp hx with
    | inl hold =>
      rw [if_neg fun hnew => hother x hold hnew.2]
      exact h.arrival x hold radio hradio hne
    | inr hnew =>
      subst hnew
      rw [if_pos ⟨⟨hradio, hne⟩, rfl⟩, Addition.arrivalAt]
  case interval =>
    intro x hx radio
    simp only [setCachedInterferenceEndTime, (addReceivers_caches _ _ _ _ _ _ _).2]
    cases (hmem x).mp hx with
    | inl hold =>
      rw [if_neg fun hnew => hother x hold hnew.2]
      exact h.interval x hold radio
    | inr hnew =>
      subst hnew
      have hfresh : c.interval radio transmission.id = none := h.fresh radio _ (by omega)
      simp only [Addition.intervalAt, hreaches, Addition.arrivalAt, Addition.id_mk, and_true,
        hfresh]
  case receptionIntervals =>
    intro radio
    simp only [setCachedInterferenceEndTime]
    rw [addReceivers_receptionIntervals _ _ _ _ _ hnodup, h.receptionIntervals radio,
      List.filterMap_append]
    congr 1
    by_cases hmet : radio ∈ radios ∧ radio ≠ transmission.transmitter
    · simp [Addition.intervalAt, hreaches, hmet, Addition.arrivalAt]
    · simp [Addition.intervalAt, hreaches, hmet]
  case fresh =>
    intro radio id hle
    simp only [setCachedInterferenceEndTime, (addReceivers_caches _ _ _ _ _ _ _).2]
    rw [if_neg fun hnew => by omega]
    exact h.fresh radio id (by omega)

section addRadio

variable (par) (radio : Nat) (c : MediumCache)

/-- The loop of `addRadio` over the transmissions on the medium. -/
abbrev cacheArrivals (transmissions : List LoRaTransmission) : MediumCache :=
  transmissions.foldl (fun c transmission =>
    c.setCachedArrival radio transmission (par.computeArrival transmission radio)) c

/-- Only the arrivals at the radio change. -/
theorem cacheArrivals_frame (transmissions : List LoRaTransmission) :
    (cacheArrivals par radio c transmissions).interferenceEndTime = c.interferenceEndTime ∧
      (cacheArrivals par radio c transmissions).interval = c.interval ∧
      (cacheArrivals par radio c transmissions).receptionIntervals = c.receptionIntervals ∧
      ∀ other id, other ≠ radio →
        (cacheArrivals par radio c transmissions).arrival other id = c.arrival other id := by
  induction transmissions generalizing c with
  | nil => simp [cacheArrivals]
  | cons transmission transmissions ih =>
    obtain ⟨hend, hinterval, htree, harrival⟩ := ih (c.setCachedArrival radio transmission
      (par.computeArrival transmission radio))
    refine ⟨hend, hinterval, htree, fun other id hne => (harrival other id hne).trans ?_⟩
    simp [setCachedArrival, hne]

theorem cacheArrivals_arrival_of_notMem {id : Nat} (transmissions : List LoRaTransmission)
    (hid : id ∉ transmissions.map (·.id)) :
    (cacheArrivals par radio c transmissions).arrival radio id = c.arrival radio id := by
  induction transmissions generalizing c with
  | nil => rfl
  | cons transmission transmissions ih =>
    rw [List.map_cons, List.mem_cons, not_or] at hid
    rw [cacheArrivals, List.foldl_cons, ih _ hid.2]
    simp [setCachedArrival, hid.1]

theorem cacheArrivals_arrival (transmissions : List LoRaTransmission)
    (hids : (transmissions.map (·.id)).Nodup) {transmission : LoRaTransmission}
    (hmem : transmission ∈ transmissions) :
    (cacheArrivals par radio c transmissions).arrival radio transmission.id =
      some (par.computeArrival transmission radio) := by
  induction transmissions generalizing c with
  | nil => exact absurd hmem List.not_mem_nil
  | cons first transmissions ih =>
    obtain ⟨hfirst, hids⟩ := List.nodup_cons.mp hids
    rw [cacheArrivals, List.foldl_cons]
    cases List.mem_cons.mp hmem with
    | inl heq =>
      subst heq
      rw [cacheArrivals_arrival_of_notMem par radio _ transmissions hfirst]
      simp [setCachedArrival]
    | inr hmem => exact ih _ hids hmem

end addRadio

/-- The arrivals at the new radio are cached, and nothing else changes. -/
theorem Describes.addRadio {radios : List Nat} {transmissionCount : Nat} {c : MediumCache}
    {onAir : List Addition} (h : Describes par radios transmissionCount c onAir) (radio : Nat) :
    Describes par (radios ++ [radio]) transmissionCount
      (cacheArrivals par radio c (onAir.map (·.transmission))) onAir := by
  obtain ⟨hend, hinterval, htree, harrival⟩ :=
    cacheArrivals_frame par radio c (onAir.map (·.transmission))
  constructor
  case ids => exact h.ids
  case id_lt => exact h.id_lt
  case interferenceEndTime => exact fun x hx => by rw [hend, h.interferenceEndTime x hx]
  case arrival =>
    intro x hx other hother hne
    by_cases hradio : other = radio
    · subst hradio
      have hids : ((onAir.map (·.transmission)).map (·.id)).Nodup := by
        rw [List.map_map]
        exact h.ids
      exact cacheArrivals_arrival par other c _ hids (List.mem_map_of_mem hx)
    · rw [harrival other x.id hradio]
      rw [List.mem_append, List.mem_singleton] at hother
      exact h.arrival x hx other (hother.resolve_right hradio) hne
  case interval => exact fun x hx other => by rw [hinterval, h.interval x hx]
  case receptionIntervals => exact fun other => by rw [htree, h.receptionIntervals]
  case fresh => exact fun other id hle => by rw [hinterval, h.fresh other id hle]

end MediumCache

end inet.physicallayer
