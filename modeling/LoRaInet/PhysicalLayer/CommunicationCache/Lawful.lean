import LoRaInet.PhysicalLayer.CommunicationCache.Call

open omnetpp container

namespace inet.physicallayer

open CommunicationCacheBase

/-- The entries of a cache, whether they have been created or not. -/
structure CacheView (C P : Type) where
  transmission : C → Nat → TransmissionCacheEntry P
  reception : C → Nat → Nat → ReceptionCacheEntry P

namespace CacheView

variable {C P : Type}

/-- The two caches hold the same entries for all that is alive. -/
structure Agree (view : CacheView C P) (d : Directory) (c c' : C) : Prop where
  transmission : ∀ t ∈ d.transmissions, view.transmission c' t = view.transmission c t
  reception : ∀ r ∈ d.radios, ∀ t ∈ d.transmissions, view.reception c' r t = view.reception c r t

/-- The second cache differs in the entry of one transmission. -/
structure SetsTransmission (view : CacheView C P) (d : Directory) (c c' : C) (sent : Nat)
    (entry : TransmissionCacheEntry P) : Prop where
  transmission : ∀ t ∈ d.transmissions,
    view.transmission c' t = if t = sent then entry else view.transmission c t
  reception : ∀ r ∈ d.radios, ∀ t ∈ d.transmissions, view.reception c' r t = view.reception c r t

/-- The second cache differs in the entry of one reception. -/
structure SetsReception (view : CacheView C P) (d : Directory) (c c' : C)
    (receiver sent : Nat) (entry : ReceptionCacheEntry P) : Prop where
  transmission : ∀ t ∈ d.transmissions, view.transmission c' t = view.transmission c t
  reception : ∀ r ∈ d.radios, ∀ t ∈ d.transmissions, view.reception c' r t =
    if r = receiver ∧ t = sent then entry else view.reception c r t

variable {view : CacheView C P} {c₁ c₂ c₃ : C}

theorem Agree.trans {d : Directory}
    (h : view.Agree d c₁ c₂) (h' : view.Agree d c₂ c₃) : view.Agree d c₁ c₃ :=
  ⟨fun t ht => (h'.transmission t ht).trans (h.transmission t ht),
    fun r hr t ht => (h'.reception r hr t ht).trans (h.reception r hr t ht)⟩

theorem SetsTransmission.of_agree {d : Directory} {t : Nat}
    {entry : TransmissionCacheEntry P} (h : view.Agree d c₁ c₂)
    (h' : view.SetsTransmission d c₂ c₃ t entry) : view.SetsTransmission d c₁ c₃ t entry := by
  constructor
  · intro t' ht'
    rw [h'.transmission t' ht', h.transmission t' ht']
  · intro r hr t' ht'
    rw [h'.reception r hr t' ht', h.reception r hr t' ht']

theorem SetsReception.of_agree {d : Directory} {r t : Nat}
    {entry : ReceptionCacheEntry P} (h : view.Agree d c₁ c₂)
    (h' : view.SetsReception d c₂ c₃ r t entry) : view.SetsReception d c₁ c₃ r t entry := by
  constructor
  · intro t' ht'
    rw [h'.transmission t' ht', h.transmission t' ht']
  · intro r' hr' t' ht'
    rw [h'.reception r' hr' t' ht', h.reception r' hr' t' ht']

end CacheView

/-- What the base class relies on, as long as a cache satisfies its invariant
and what is alive is used in a way that is safe for it. -/
structure LawfulCache {C P : Type} [CommunicationCacheBase C P] (view : CacheView C P)
    (Inv : Directory → C → Prop) (Safe : Directory → C → Call P → Prop) : Prop where
  transmission {d : Directory} {c : C} {t : Nat} : Inv d c → t ∈ d.transmissions →
    ∃ c', getTransmissionCacheEntry c t = (c', some (view.transmission c t)) ∧ Inv d c' ∧
      view.Agree d c c' ∧ ∀ entry, Inv d (putTransmissionCacheEntry c' t entry) ∧
        view.SetsTransmission d c (putTransmissionCacheEntry c' t entry) t entry
  reception {d : Directory} {c : C} {r t : Nat} : Inv d c → r ∈ d.radios → t ∈ d.transmissions →
    ∃ c', getReceptionCacheEntry c r t = (c', some (view.reception c r t)) ∧ Inv d c' ∧
      view.Agree d c c' ∧ ∀ entry, entry.interval = none ∨
        entry.interval = (view.reception c r t).interval →
        Inv d (putReceptionCacheEntry c' r t entry) ∧
          view.SetsReception d c (putReceptionCacheEntry c' r t entry) r t entry
  interval {d : Directory} {c : C} {r t : Nat} (interval : P) : Inv d c → r ∈ d.radios →
    t ∈ d.transmissions → ∃ c', setCachedInterval c r t (some interval) = .ok c' ∧ Inv d c' ∧
      view.SetsReception d c c' r t ((view.reception c r t).put .interval (some interval))
  addRadio {d : Directory} {c : C} {r : Nat} : Inv d c → d.nextRadio ≤ r →
    Inv (d.addRadio r) (addRadio c r) ∧ view.Agree d c (addRadio c r) ∧
      ∀ t ∈ d.transmissions, view.reception (addRadio c r) r t = {}
  removeRadio {d : Directory} {c : C} {r : Nat} : Inv d c → r ∈ d.radios →
    Safe d c (.removeRadio r) → ∃ c', removeRadio c r = .ok c' ∧ Inv (d.removeRadio r) c' ∧
      view.Agree (d.removeRadio r) c c'
  addTransmission {d : Directory} {c : C} {t : Nat} : Inv d c → d.nextTransmission ≤ t →
    Inv (d.addTransmission t) (addTransmission c t) ∧ view.Agree d c (addTransmission c t) ∧
      view.transmission (addTransmission c t) t = {} ∧
      ∀ r ∈ d.radios, view.reception (addTransmission c t) r t = {}
  removeTransmission {d : Directory} {c : C} {t : Nat} : Inv d c → t ∈ d.transmissions →
    ∃ c', removeTransmission c t = .ok c' ∧ Inv (d.removeTransmission t) c' ∧
      view.Agree (d.removeTransmission t) c c'
  removeNonInterferingTransmissions {d : Directory} {c : C} {now : SimTime} : Inv d c →
    Safe d c (.removeNonInterferingTransmissions now) →
    ∃ c', removeNonInterferingTransmissions c now = .ok c' ∧ Inv d c' ∧ view.Agree d c c'

theorem SignalPart.index_injective {part other : SignalPart} (h : part.index = other.index) :
    part = other := by
  cases part <;> cases other <;> first | rfl | cases h

theorem SignalPart.exists_index {part : SignalPart} (hpart : part ≠ .NONE) :
    ∃ i, part.index = some i := by
  cases part with
  | NONE => exact absurd rfl hpart
  | WHOLE => exact ⟨0, rfl⟩
  | PREAMBLE => exact ⟨1, rfl⟩
  | HEADER => exact ⟨2, rfl⟩
  | DATA => exact ⟨3, rfl⟩

namespace ReceptionCacheEntry

variable {P : Type} {entry : ReceptionCacheEntry P} {part : SignalPart} {i : Nat}

/-- The decisions for later parts, if there are any. -/
def NoLaterDecision (entry : ReceptionCacheEntry P) (part : SignalPart) : Prop :=
  ∀ later : SignalPart, part.index < later.index → entry.decision later = none

theorem decision_eq (hpart : part.index = some i) :
    entry.decision part = entry.receptionDecisions[i]?.getD none := by
  rw [decision, hpart, Option.bind_some]

theorem decision_resize (hpart : part.index = some i) (hlater : entry.NoLaterDecision part)
    (other : SignalPart) :
    { entry with receptionDecisions := resize entry.receptionDecisions (i + 1) none }.decision
      other = entry.decision other := by
  cases hother : other.index with
  | none => simp only [decision, hother, Option.bind_none]
  | some j =>
    rw [decision_eq hother, getElem?_resize]
    by_cases hj : j < i + 1
    · rw [if_pos hj, Option.getD_some, decision_eq hother]
    · have hlt : part.index < other.index := by
        rw [hpart, hother, Option.some_lt_some]
        omega
      rw [if_neg hj, hlater other hlt]
      rfl

theorem decision_set (hpart : part.index = some i) (hlater : entry.NoLaterDecision part)
    (v : Option P) (other : SignalPart) :
    { entry with
      receptionDecisions := (resize entry.receptionDecisions (i + 1) none).set i v }.decision
        other = if other = part then v else entry.decision other := by
  have hlength := length_resize entry.receptionDecisions (i + 1) none
  by_cases hsame : other = part
  · rw [if_pos hsame, hsame, decision_eq hpart, List.getElem?_set_self (by omega)]
    rfl
  · rw [if_neg hsame, ← decision_resize hpart hlater other]
    cases hother : other.index with
    | none => simp only [decision, hother, Option.bind_none]
    | some j =>
      have hne : i ≠ j := by
        rintro rfl
        exact hsame (SignalPart.index_injective (hother.trans hpart.symm))
      rw [decision_eq hother, decision_eq hother, List.getElem?_set_ne hne]

end ReceptionCacheEntry

section Spec

variable {C P : Type} [CommunicationCacheBase C P] {view : CacheView C P}
  {Inv : Directory → C → Prop} {Safe : Directory → C → Call P → Prop} {d : Directory} {c : C}
  {r t : Nat}

namespace LawfulCache

section

variable (laws : LawfulCache view Inv Safe) (hinv : Inv d c)
include laws hinv

theorem transmissionCacheEntry_eq (ht : t ∈ d.transmissions) : ∃ c',
      transmissionCacheEntry c t = .ok (c', view.transmission c t) ∧ Inv d c' ∧
        view.Agree d c c' ∧ ∀ entry, Inv d (putTransmissionCacheEntry c' t entry) ∧
          view.SetsTransmission d c (putTransmissionCacheEntry c' t entry) t entry := by
  obtain ⟨c', hget, hkept, hagree, hput⟩ := laws.transmission hinv ht
  refine ⟨c', ?_, hkept, hagree, hput⟩
  rw [transmissionCacheEntry, hget]

theorem getCached_spec (hr : r ∈ d.radios)
    (ht : t ∈ d.transmissions) (field : ReceptionField) : ∃ c',
      getCached field c r t = (c', (view.reception c r t).get field) ∧ Inv d c' ∧
        view.Agree d c c' := by
  obtain ⟨c', hget, hkept, hagree, -⟩ := laws.reception hinv hr ht
  refine ⟨c', ?_, hkept, hagree⟩
  rw [getCached, hget]

theorem setter_spec (hr : r ∈ d.radios)
    (ht : t ∈ d.transmissions) (field : ReceptionField) (v : Option P)
    (hnull : field = .interval → v ≠ none) : ∃ c', setter field c r t v = .ok c' ∧ Inv d c' ∧
      view.SetsReception d c c' r t ((view.reception c r t).put field v) := by
  by_cases hinterval : field = .interval
  · obtain ⟨interval, rfl⟩ := Option.ne_none_iff_exists'.mp (hnull hinterval)
    subst hinterval
    exact laws.interval interval hinv hr ht
  · obtain ⟨c', hget, -, -, hput⟩ := laws.reception hinv hr ht
    have hsame := ReceptionCacheEntry.get_put_of_ne (view.reception c r t) v hinterval
    obtain ⟨hkept, hsets⟩ := hput ((view.reception c r t).put field v) (Or.inr hsame)
    refine ⟨_, ?_, hkept, hsets⟩
    rw [setter_eq hinterval, setCached, hget]

theorem removeCached_spec (hr : r ∈ d.radios) (ht : t ∈ d.transmissions) (field : ReceptionField) :
    Inv d (removeCached field c r t) ∧ view.SetsReception d c (removeCached field c r t) r t
      ((view.reception c r t).put field none) := by
  obtain ⟨c', hget, -, -, hput⟩ := laws.reception hinv hr ht
  rw [removeCached, hget]
  refine hput _ ?_
  by_cases hinterval : field = .interval
  · subst hinterval
    exact Or.inl (ReceptionCacheEntry.get_put_self _ .interval none)
  · exact Or.inr (ReceptionCacheEntry.get_put_of_ne _ none hinterval)

theorem getCachedReceptionDecision_spec
    (hr : r ∈ d.radios) (ht : t ∈ d.transmissions) {part : SignalPart} {i : Nat}
    (hpart : part.index = some i) : ∃ c',
      getCachedReceptionDecision c r t part = .ok (c', (view.reception c r t).decision part) ∧
        Inv d c' ∧ view.SetsReception d c c' r t { view.reception c r t with
          receptionDecisions := resize (view.reception c r t).receptionDecisions (i + 1) none } := by
  obtain ⟨c', hget, -, -, hput⟩ := laws.reception hinv hr ht
  obtain ⟨hkept, hsets⟩ := hput { view.reception c r t with
    receptionDecisions := resize (view.reception c r t).receptionDecisions (i + 1) none }
    (Or.inr rfl)
  refine ⟨_, ?_, hkept, hsets⟩
  have hread := getElem?_resize (view.reception c r t).receptionDecisions (i + 1) i none
  rw [if_pos (by omega)] at hread
  rw [ReceptionCacheEntry.decision_eq hpart, getCachedReceptionDecision, hget]
  simp only [resizeReceptionDecisions, hpart, bind, Except.bind, hread, Option.getD_some]

theorem setCachedReceptionDecision_spec
    (hr : r ∈ d.radios) (ht : t ∈ d.transmissions) {part : SignalPart} {i : Nat}
    (hpart : part.index = some i) (v : Option P) : ∃ c',
      setCachedReceptionDecision c r t part v = .ok c' ∧ Inv d c' ∧
        view.SetsReception d c c' r t { view.reception c r t with
          receptionDecisions :=
            (resize (view.reception c r t).receptionDecisions (i + 1) none).set i v } := by
  obtain ⟨c', hget, -, -, hput⟩ := laws.reception hinv hr ht
  obtain ⟨hkept, hsets⟩ := hput { view.reception c r t with
    receptionDecisions :=
      (resize (view.reception c r t).receptionDecisions (i + 1) none).set i v } (Or.inr rfl)
  refine ⟨_, ?_, hkept, hsets⟩
  rw [setCachedReceptionDecision, hget]
  simp only [resizeReceptionDecisions, hpart, bind, Except.bind]

theorem removeCachedReceptionDecision_eq
    (hr : r ∈ d.radios) (ht : t ∈ d.transmissions) (part : SignalPart) :
    removeCachedReceptionDecision c r t part = setCachedReceptionDecision c r t part none := by
  obtain ⟨c', hget, -⟩ := laws.reception hinv hr ht
  rw [removeCachedReceptionDecision, setCachedReceptionDecision, hget]

end

end LawfulCache

end Spec

end inet.physicallayer
