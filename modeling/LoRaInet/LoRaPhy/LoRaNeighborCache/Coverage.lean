import LoRaInet.LoRaPhy.LoRaNeighborCache
import Mathlib.Algebra.Order.Ring.Abs
import Mathlib.Tactic.Linarith
import Mathlib.Tactic.Positivity
import Mathlib.Tactic.Ring

open omnetpp transition

namespace inet.physicallayer

namespace RadiosOnMedium

variable (s : RadiosOnMedium)

/-- The radios whose entries are in the list of the neighbor cache. -/
def present : List IRadio := s.neighborCache.radios.map (·.radio)

def known : List Nat :=
  (s.neighborCache.radios ++ s.neighborCache.detached).map (·.radio.id)

/-- A radio is added once, and none moves faster than the maximum speed of the
medium; without one, none moves. -/
def Allowed : Event → Prop
  | .addRadio radio => radio.id ∉ s.known
  | .move t position => ∀ radio ∈ s.present,
    (position radio.id).sqrdist (s.position radio.id) ≤
      (((s.mediumLimitCache.maxSpeed.getD 0 : ℚ≥0) : ℚ) * (t - s.simTime)) ^ 2
  | _ => True

instance (s : RadiosOnMedium) : (e : Event) → Decidable (s.Allowed e)
  | .linkLayer2 | .removeRadio _ | .updateNeighborListsTimer => .isTrue trivial
  | .addRadio _ => inferInstanceAs (Decidable (_ ∉ _))
  | .move _ _ => inferInstanceAs (Decidable (∀ radio ∈ _, _))

/-- The maximum speed that the lists were last computed with. -/
def usedSpeed {O : Type} : List (Event × RadiosOnMedium × O) → Option ℚ≥0
  | [] => none
  | (.linkLayer2, s, _) :: _ => s.mediumLimitCache.maxSpeed
  | (.addRadio _, s, _) :: _ => s.neighborCache.maxSpeed
  | (.updateNeighborListsTimer, s, _) :: _ => s.neighborCache.maxSpeed
  | (.removeRadio _, _, _) :: history => usedSpeed history
  | (.move _ _, _, _) :: history => usedSpeed history

/-- How fast two radios may come closer to each other until the next refill;
without a refill, not at all. -/
def closingSpeed {O : Type} (history : List (Event × RadiosOnMedium × O)) (s : RadiosOnMedium) : ℚ :=
  if s.neighborCache.updateNeighborListsTimer.isSome then ((usedSpeed history).getD 0 : ℚ≥0) else 0

/-- Two radios come closer to each other by a distance at most: when they are within
`r` afterwards, they were within `r + d` before. -/
def CloserBy (d : ℚ) (a b a' b' : Coord) : Prop :=
  ∀ r, 0 ≤ r → a'.sqrdist b' ≤ r ^ 2 → a.sqrdist b ≤ (r + d) ^ 2

/-- The displacement of one radio against the other. -/
def DisplacedBy (d : ℚ) (a b a' b' : Coord) : Prop :=
  0 ≤ d ∧ ((a.x - b.x) - (a'.x - b'.x)) ^ 2 + ((a.y - b.y) - (a'.y - b'.y)) ^ 2 +
    ((a.z - b.z) - (a'.z - b'.z)) ^ 2 ≤ d ^ 2
deriving Decidable

/-- The lists are computed with a maximum speed when there are two radios; a radio
that is removed is in no list of another one; two radios do not come closer to each
other faster than the lists were computed for. -/
def Meets (close : ℚ → Coord → Coord → Coord → Coord → Prop) {O : Type}
    (history : List (Event × RadiosOnMedium × O)) (s : RadiosOnMedium) : Event → Prop
  | .linkLayer2 => s.present.length ≤ 1 ∨ s.mediumLimitCache.maxSpeed.isSome = true
  | .addRadio _ => s.initialized = true → s.present = [] ∨ s.neighborCache.maxSpeed.isSome = true
  | .updateNeighborListsTimer => s.present.length ≤ 1 ∨ s.neighborCache.maxSpeed.isSome = true
  | .removeRadio radio => s.initialized = true →
    ∀ e ∈ s.neighborCache.radios, e.radio ≠ radio → radio ∉ e.neighborVector
  | .move t position => s.initialized = true →
    ∀ radio ∈ s.present, ∀ radio' ∈ s.present, radio.id ≠ radio'.id →
      close (closingSpeed history s * (t - s.simTime)) (s.position radio.id)
        (s.position radio'.id) (position radio.id) (position radio'.id)

instance {O : Type} (history : List (Event × RadiosOnMedium × O)) (s : RadiosOnMedium) :
    (e : Event) → Decidable (Meets DisplacedBy history s e)
  | .linkLayer2 | .updateNeighborListsTimer => inferInstanceAs (Decidable (_ ∨ _))
  | .addRadio _ => inferInstanceAs (Decidable (_ → _ ∨ _))
  | .removeRadio _ => inferInstanceAs (Decidable (_ → ∀ e ∈ _, _))
  | .move _ _ => inferInstanceAs (Decidable (_ → ∀ radio ∈ _, ∀ radio' ∈ _, _ → DisplacedBy _ _ _ _ _))

/-- Each list holds radios that are present, and all of those within the range. -/
def Reaches : Prop := ∀ e ∈ s.neighborCache.radios,
  (∀ radio ∈ e.neighborVector, radio ∈ s.present ∧ radio.id ≠ e.radio.id) ∧
  ∀ radio ∈ s.present, radio.id ≠ e.radio.id →
    (s.position radio.id).sqrdist (s.position e.radio.id) ≤ (s.neighborCache.range : ℚ) ^ 2 →
    radio ∈ e.neighborVector
deriving Decidable

end RadiosOnMedium

/-- The distance of two places changes by at most the length of the displacement of
one against the other. -/
theorem RadiosOnMedium.DisplacedBy.closerBy {d : ℚ} {a b a' b' : Coord}
    (hdisplaced : DisplacedBy d a b a' b') : CloserBy d a b a' b' := by
  intro r hr hwithin
  obtain ⟨hd, h⟩ := hdisplaced
  unfold Coord.sqrdist at hwithin ⊢
  generalize hx : a'.x - b'.x = x at *
  generalize hy : a'.y - b'.y = y at *
  generalize hz : a'.z - b'.z = z at *
  generalize hu : (a.x - b.x) - x = u at *
  generalize hv : (a.y - b.y) - y = v at *
  generalize hw : (a.z - b.z) - z = w at *
  have hax : a.x - b.x = x + u := by linarith
  have hay : a.y - b.y = y + v := by linarith
  have haz : a.z - b.z = z + w := by linarith
  have hcauchy : (x * u + y * v + z * w) ^ 2 +
      ((x * v - y * u) ^ 2 + (x * w - z * u) ^ 2 + (y * w - z * v) ^ 2) =
        (x ^ 2 + y ^ 2 + z ^ 2) * (u ^ 2 + v ^ 2 + w ^ 2) := by
    ring
  have hproduct : (x ^ 2 + y ^ 2 + z ^ 2) * (u ^ 2 + v ^ 2 + w ^ 2) ≤ r ^ 2 * d ^ 2 :=
    mul_le_mul hwithin h (by positivity) (by positivity)
  have hsq : (x * u + y * v + z * w) ^ 2 ≤ (r * d) ^ 2 := by
    rw [mul_pow]
    have hrest : 0 ≤ (x * v - y * u) ^ 2 + (x * w - z * u) ^ 2 + (y * w - z * v) ^ 2 := by
      positivity
    linarith
  have hdot : x * u + y * v + z * w ≤ r * d :=
    le_of_sq_le_sq hsq (mul_nonneg hr hd)
  have hexpand : (x + u) ^ 2 + (y + v) ^ 2 + (z + w) ^ 2 =
      (x ^ 2 + y ^ 2 + z ^ 2) + 2 * (x * u + y * v + z * w) + (u ^ 2 + v ^ 2 + w ^ 2) := by
    ring
  have hbound : (r + d) ^ 2 = r ^ 2 + 2 * (r * d) + d ^ 2 := by ring
  rw [hax, hay, haz, hexpand, hbound]
  linarith

namespace LoRaNeighborCache

variable {c : LoRaNeighborCache} {position : Nat → Coord}

theorem mem_neighborVector {e : RadioEntry} {radio : IRadio} :
    radio ∈ (c.updateNeighborList position e).neighborVector ↔
      radio ∈ c.radios.map (·.radio) ∧ radio.id ≠ e.radio.id ∧
        inRadius c.radius (position radio.id) (position e.radio.id) = true := by
  simp [updateNeighborList]

theorem map_radio_updateNeighborLists :
    (c.updateNeighborLists position).radios.map (·.radio) = c.radios.map (·.radio) := by
  simp [updateNeighborLists, updateNeighborList, Function.comp_def]

theorem mem_updateNeighborLists {e : RadioEntry} (he : e ∈ (c.updateNeighborLists position).radios) :
    e.radio ∈ c.radios.map (·.radio) ∧ ∀ radio, radio ∈ e.neighborVector ↔
      radio ∈ c.radios.map (·.radio) ∧ radio.id ≠ e.radio.id ∧
        inRadius c.radius (position radio.id) (position e.radio.id) = true := by
  obtain ⟨e₀, he₀, rfl⟩ := List.mem_map.mp he
  exact ⟨List.mem_map.mpr ⟨e₀, he₀, rfl⟩, fun radio => mem_neighborVector⟩

theorem inRadius_of_le {maxSpeed : ℚ≥0} (hspeed : c.maxSpeed = some maxSpeed) {a b : Coord}
    (h : a.sqrdist b ≤ (c.range + maxSpeed * c.refillPeriod) ^ 2) :
    inRadius c.radius a b = true := by
  rw [radius, hspeed]
  apply decide_eq_true
  calc a.sqrdist b ≤ (c.range + maxSpeed * c.refillPeriod) ^ 2 := h
    _ = (maxSpeed * c.refillPeriod + c.range) * (maxSpeed * c.refillPeriod + c.range) := by ring

variable (simTime : SimTime) (condition : Bool)

@[simp] theorem schedule_radios : (c.schedule simTime condition).radios = c.radios := by
  unfold schedule
  split <;> rfl

@[simp] theorem schedule_detached : (c.schedule simTime condition).detached = c.detached := by
  unfold schedule
  split <;> rfl

@[simp] theorem schedule_range : (c.schedule simTime condition).range = c.range := by
  unfold schedule
  split <;> rfl

@[simp] theorem schedule_refillPeriod :
    (c.schedule simTime condition).refillPeriod = c.refillPeriod := by
  unfold schedule
  split <;> rfl

theorem timer_schedule {simTime : SimTime} {condition : Bool}
    (h : ∀ τ ∈ c.updateNeighborListsTimer, simTime ≤ τ ∧ τ ≤ simTime + c.refillPeriod) :
    ∀ τ ∈ (c.schedule simTime condition).updateNeighborListsTimer,
      simTime ≤ τ ∧ τ ≤ simTime + c.refillPeriod := by
  intro τ hτ
  unfold schedule at hτ
  split at hτ
  · cases hτ
    exact ⟨le_add_of_nonneg_right (NNRat.cast_nonneg _), le_refl _⟩
  · exact h τ hτ

end LoRaNeighborCache

namespace RadiosOnMedium

/-- The lists hold radios that are present, and with a margin beyond the range all of
those around. The margin is enough for a closing speed until the timer. -/
structure Covers (speed : ℚ≥0) (margin : ℚ) (s : RadiosOnMedium) : Prop where
  nonneg : 0 ≤ margin
  sound : ∀ e ∈ s.neighborCache.radios, ∀ radio ∈ e.neighborVector,
    radio ∈ s.present ∧ radio.id ≠ e.radio.id
  complete : ∀ e ∈ s.neighborCache.radios, ∀ radio ∈ s.present, radio.id ≠ e.radio.id →
    (s.position radio.id).sqrdist (s.position e.radio.id) ≤ (s.neighborCache.range + margin) ^ 2 →
    radio ∈ e.neighborVector
  timer : ∀ τ ∈ s.neighborCache.updateNeighborListsTimer,
    s.simTime ≤ τ ∧ τ ≤ s.simTime + s.neighborCache.refillPeriod ∧ speed * (τ - s.simTime) ≤ margin

variable {s s' : RadiosOnMedium} {speed : ℚ≥0} {margin : ℚ}

open LoRaNeighborCache

theorem covers_of_refill {c : LoRaNeighborCache}
    (hrefill : s.neighborCache.radios = (c.updateNeighborLists s.position).radios)
    (hrange : s.neighborCache.range = c.range)
    (hperiod : s.neighborCache.refillPeriod = c.refillPeriod)
    (hspeed : c.radios.length ≤ 1 ∨ c.maxSpeed.isSome = true)
    (htimer : ∀ τ ∈ s.neighborCache.updateNeighborListsTimer,
      s.simTime ≤ τ ∧ τ ≤ s.simTime + c.refillPeriod) :
    ∃ margin, s.Covers (c.maxSpeed.getD 0) margin := by
  refine ⟨(c.maxSpeed.getD 0 : ℚ≥0) * c.refillPeriod,
    mul_nonneg (NNRat.cast_nonneg _) (NNRat.cast_nonneg _), ?_, ?_, ?_⟩
  · intro e he radio hradio
    rw [hrefill] at he
    obtain ⟨hpresent, hne, -⟩ := ((mem_updateNeighborLists he).2 radio).mp hradio
    rw [present, hrefill, map_radio_updateNeighborLists]
    exact ⟨hpresent, hne⟩
  · intro e he radio hradio hne hwithin
    rw [hrefill] at he
    rw [present, hrefill, map_radio_updateNeighborLists] at hradio
    obtain ⟨hpresent, hlist⟩ := mem_updateNeighborLists he
    rw [hlist radio]
    rcases hspeed with hone | hsome
    · -- a single radio is not a neighbor of itself
      obtain ⟨e₁, he₁, rfl⟩ := List.mem_map.mp hradio
      obtain ⟨e₂, he₂, heq⟩ := List.mem_map.mp hpresent
      have hsame : e₁ = e₂ := by
        obtain ⟨i, hi, rfl⟩ := List.getElem_of_mem he₁
        obtain ⟨j, hj, rfl⟩ := List.getElem_of_mem he₂
        have hij : i = j := by omega
        subst hij
        rfl
      rw [hsame, ← heq] at hne
      exact absurd rfl hne
    · obtain ⟨maxSpeed, hmax⟩ := Option.isSome_iff_exists.mp hsome
      rw [hmax, Option.getD_some, hrange] at hwithin
      exact ⟨hradio, hne, inRadius_of_le hmax hwithin⟩
  · intro τ hτ
    obtain ⟨hle, hlate⟩ := htimer τ hτ
    refine ⟨hle, hperiod ▸ hlate, ?_⟩
    apply mul_le_mul_of_nonneg_left _ (NNRat.cast_nonneg _)
    linarith

variable {position : Nat → Coord}

theorem Covers.move (h : s.Covers speed margin) {t : SimTime}
    (hle : s.simTime ≤ t) (htimer : ∀ τ ∈ s.neighborCache.updateNeighborListsTimer, t ≤ τ)
    (hclose : ∀ radio ∈ s.present, ∀ radio' ∈ s.present, radio.id ≠ radio'.id →
      CloserBy ((if s.neighborCache.updateNeighborListsTimer.isSome then (speed : ℚ) else 0) *
        (t - s.simTime)) (s.position radio.id) (s.position radio'.id) (position radio.id)
        (position radio'.id)) :
    ∃ margin', { s with simTime := t, position }.Covers speed margin' := by
  set d : ℚ := (if s.neighborCache.updateNeighborListsTimer.isSome then (speed : ℚ) else 0) *
    (t - s.simTime) with hd
  have hleft : 0 ≤ margin - d ∧
      ∀ τ ∈ s.neighborCache.updateNeighborListsTimer, speed * (τ - t) ≤ margin - d := by
    cases hcase : s.neighborCache.updateNeighborListsTimer with
    | none =>
      rw [hcase] at hd
      simp only [Option.isSome_none, Bool.false_eq_true, if_false, zero_mul] at hd
      rw [hd, sub_zero]
      exact ⟨h.nonneg, fun τ hτ => by cases hτ⟩
    | some τ =>
      rw [hcase] at hd
      simp only [Option.isSome_some, if_true] at hd
      obtain ⟨-, -, hmargin⟩ := h.timer τ hcase
      have hrest : 0 ≤ speed * (τ - t) :=
        mul_nonneg (NNRat.cast_nonneg _) (sub_nonneg.mpr (htimer τ hcase))
      have hsplit : (speed : ℚ) * (τ - s.simTime) = speed * (τ - t) + d := by
        rw [hd]
        ring
      refine ⟨by linarith, fun τ' hτ' => ?_⟩
      cases hτ'
      linarith
  refine ⟨margin - d, hleft.1, h.sound, fun e he radio hradio hne hwithin => ?_, fun τ hτ => ?_⟩
  · apply h.complete e he radio hradio hne
    have hpresent : e.radio ∈ s.present := List.mem_map_of_mem he
    have hcloser := hclose radio hradio e.radio hpresent hne (s.neighborCache.range + (margin - d))
      (add_nonneg (NNRat.cast_nonneg _) hleft.1) hwithin
    have hsum : (s.neighborCache.range : ℚ) + (margin - d) + d = s.neighborCache.range + margin := by
      ring
    rwa [hsum] at hcloser
  · obtain ⟨-, hlate, -⟩ := h.timer τ hτ
    exact ⟨htimer τ hτ, by dsimp only; linarith, hleft.2 τ hτ⟩

variable {radio : IRadio}

theorem covers_addRadio (htimer : ∀ τ ∈ s.neighborCache.updateNeighborListsTimer,
      s.simTime ≤ τ ∧ τ ≤ s.simTime + s.neighborCache.refillPeriod)
    (hspeed : s.present = [] ∨ s.neighborCache.maxSpeed.isSome = true) :
    ∃ margin, (s.addRadio radio).Covers (s.neighborCache.maxSpeed.getD 0) margin := by
  apply covers_of_refill (c := { s.neighborCache with
    radios := s.neighborCache.radios ++ [{ radio, neighborVector := [] }] })
  · exact schedule_radios _ _
  · exact schedule_range _ _
  · exact schedule_refillPeriod _ _
  · refine hspeed.imp (fun hnil => ?_) id
    rw [List.map_eq_nil_iff.mp hnil]
    exact le_refl 1
  · exact timer_schedule htimer

/-- What is left when a radio is removed: the entries before and after its own. -/
theorem removeRadio_eq_some (h : s.removeRadio radio = .ok s') :
    ∃ before it after, it.radio = radio ∧ s.neighborCache.radios = before ++ it :: after ∧
      s'.neighborCache.radios = before ++ after ∧
      s'.neighborCache.detached = it :: s.neighborCache.detached ∧
      (∀ τ ∈ s'.neighborCache.updateNeighborListsTimer,
        τ ∈ s.neighborCache.updateNeighborListsTimer) ∧
      s'.neighborCache.range = s.neighborCache.range ∧
      s'.neighborCache.refillPeriod = s.neighborCache.refillPeriod ∧
      s'.simTime = s.simTime ∧ s'.position = s.position ∧ s'.initialized = s.initialized := by
  obtain ⟨c, hc, heq⟩ := bind_eq_ok_iff.mp h
  cases heq
  unfold LoRaNeighborCache.removeRadio at hc
  split at hc
  · cases hc
  · next it hfind =>
    cases hc
    obtain ⟨hit, before, after, hradios, hbefore⟩ := List.find?_eq_some_iff_append.mp hfind
    have hcopy : LoRaNeighborCache.removeRadioFromNeighborLists s.neighborCache.radios radio =
        s.neighborCache.radios := List.map_id' _
    refine ⟨before, it, after, of_decide_eq_true hit, hradios, ?_, rfl, fun τ hτ => ?_,
      rfl, rfl, rfl, rfl, rfl⟩
    · dsimp only
      rw [hcopy, hradios, List.eraseP_append_right _ (by simpa using hbefore)]
      simp [of_decide_eq_true hit]
    · dsimp only at hτ
      split at hτ
      · cases hτ
      · exact hτ

theorem Covers.removeRadio (h : s.Covers speed margin)
    (hnodup : s.known.Nodup) (hcall : s.removeRadio radio = .ok s')
    (hlists : ∀ e ∈ s.neighborCache.radios, e.radio ≠ radio → radio ∉ e.neighborVector) :
    s'.Covers speed margin := by
  obtain ⟨before, it, after, hit, hradios, hleft, -, htimer, hrange, hperiod, htime, hposition, -⟩ :=
    removeRadio_eq_some hcall
  have hsub : ∀ e ∈ s'.neighborCache.radios, e ∈ s.neighborCache.radios ∧ e.radio ≠ radio := by
    intro e he
    rw [hleft] at he
    have hids : ((before ++ it :: after).map (·.radio.id)).Nodup := by
      rw [known, hradios, List.map_append] at hnodup
      exact (List.nodup_append.mp hnodup).1
    have hne : e.radio.id ≠ it.radio.id := by
      rw [List.map_append, List.map_cons, List.nodup_middle, List.nodup_cons] at hids
      intro heq
      apply hids.1
      rw [← List.map_append, ← heq]
      exact List.mem_map_of_mem he
    refine ⟨?_, fun heq => hne (by rw [heq, hit])⟩
    rw [hradios]
    exact ((List.sublist_cons_self it after).append_left before).subset he
  have hstays : ∀ r ∈ s.present, r ≠ radio → r ∈ s'.present := by
    intro r hr hne
    rw [present, hradios, List.map_append, List.map_cons, hit] at hr
    rw [present, hleft, List.map_append]
    simpa [hne] using hr
  refine ⟨h.nonneg, fun e he r hr => ?_, fun e he r hr hne hwithin => ?_, fun τ hτ => ?_⟩
  · obtain ⟨he', hother⟩ := hsub e he
    obtain ⟨hpresent, hne⟩ := h.sound e he' r hr
    exact ⟨hstays r hpresent fun heq => hlists e he' hother (heq ▸ hr), hne⟩
  · obtain ⟨he', -⟩ := hsub e he
    obtain ⟨e₁, he₁, rfl⟩ := List.mem_map.mp hr
    rw [hposition, hrange] at hwithin
    exact h.complete e he' e₁.radio (List.mem_map_of_mem (hsub e₁ he₁).1) hne hwithin
  · rw [htime, hperiod]
    exact h.timer τ (htimer τ hτ)

theorem known_of_refill {c : LoRaNeighborCache}
    (hrefill : s.neighborCache.radios = (c.updateNeighborLists position).radios)
    (hdetached : s.neighborCache.detached = c.detached) :
    s.known = (c.radios ++ c.detached).map (·.radio.id) := by
  rw [known, hrefill, hdetached, List.map_append, List.map_append]
  simp [updateNeighborLists, updateNeighborList,
    Function.comp_def]

/-- Radios are added once; after initialization the lists cover what is around. -/
structure Invariant {O : Type} (history : List (Event × RadiosOnMedium × O))
    (s : RadiosOnMedium) : Prop where
  nodup : s.known.Nodup
  timer : s.initialized = false → s.neighborCache.updateNeighborListsTimer = none
  covers : s.initialized = true → ∃ margin, s.Covers ((usedSpeed history).getD 0) margin

variable {history : List (Event × RadiosOnMedium × Unit)} {refillPeriod range : ℚ≥0}

variable {parMaxSpeed : Option ℚ≥0} {position : Nat → Coord}

theorem invariant_new : Invariant ([] : List (Event × RadiosOnMedium × Unit))
      (new refillPeriod range parMaxSpeed position) where
  nodup := List.nodup_nil
  timer := fun _ => rfl
  covers := fun h => by cases h

theorem Invariant.linkLayer2 (h : Invariant history s) (hmeets : Meets CloserBy history s .linkLayer2)
    (hstep : step s .linkLayer2 = some (s', ())) :
    Invariant ((.linkLayer2, s, ()) :: history) s' := by
  rw [step] at hstep
  split at hstep
  · cases hstep
  · next hinit =>
    obtain rfl := (Prod.mk.inj (Option.some.inj hstep)).1
    have htimer := h.timer (Bool.eq_false_iff.mpr hinit)
    refine ⟨?_, fun hnot => ?_, fun _ => ?_⟩
    · have hknown := known_of_refill
        (s := { s with
          initialized := true
          neighborCache := s.neighborCache.initLinkLayer2 s.simTime s.position
            s.mediumLimitCache.maxSpeed })
        (c := { s.neighborCache with maxSpeed := s.mediumLimitCache.maxSpeed })
        (schedule_radios _ _) (schedule_detached _ _)
      rw [hknown]
      exact h.nodup
    · cases hnot
    · apply covers_of_refill (c := { s.neighborCache with maxSpeed := s.mediumLimitCache.maxSpeed })
      · exact schedule_radios _ _
      · exact schedule_range _ _
      · exact schedule_refillPeriod _ _
      · simpa [Meets, present] using hmeets
      · apply timer_schedule (c := updateNeighborLists
          { s.neighborCache with maxSpeed := s.mediumLimitCache.maxSpeed } s.position)
        intro τ hτ
        have hmem : τ ∈ s.neighborCache.updateNeighborListsTimer := hτ
        rw [htimer] at hmem
        cases hmem

theorem Invariant.addRadio (h : Invariant history s)
    (hallowed : s.Allowed (.addRadio radio)) (hmeets : Meets CloserBy history s (.addRadio radio)) :
    Invariant ((.addRadio radio, s, ()) :: history) (s.addRadio radio) := by
  refine ⟨?_, fun hinit => ?_, fun hinit => ?_⟩
  · have hknown := known_of_refill (s := s.addRadio radio)
      (c := { s.neighborCache with
        radios := s.neighborCache.radios ++ [{ radio, neighborVector := [] }] })
      (LoRaNeighborCache.schedule_radios _ _) (LoRaNeighborCache.schedule_detached _ _)
    rw [hknown, List.append_assoc, List.singleton_append, List.map_append, List.map_cons,
      List.nodup_middle, List.nodup_cons, ← List.map_append]
    exact ⟨hallowed, h.nodup⟩
  · have hnot : s.initialized = false := hinit
    rw [RadiosOnMedium.addRadio, LoRaNeighborCache.addRadio, hnot, Bool.and_false]
    exact h.timer hinit
  · apply covers_addRadio
    · intro τ hτ
      obtain ⟨margin, hcovers⟩ := h.covers hinit
      obtain ⟨hle, hlate, -⟩ := hcovers.timer τ hτ
      exact ⟨hle, hlate⟩
    · exact hmeets hinit

theorem Invariant.removeRadio (h : Invariant history s)
    (hmeets : Meets CloserBy history s (.removeRadio radio)) (hcall : s.removeRadio radio = .ok s') :
    Invariant ((.removeRadio radio, s, ()) :: history) s' := by
  obtain ⟨before, it, after, -, hradios, hleft, hdetached, htimer, -, -, -, -, hinit⟩ :=
    removeRadio_eq_some hcall
  refine ⟨?_, fun hnot => ?_, fun hdone => ?_⟩
  · have hnodup := h.nodup
    have hperm : (before ++ after ++ it :: s.neighborCache.detached).Perm
        (before ++ it :: after ++ s.neighborCache.detached) := by
      rw [List.append_assoc, List.append_assoc, List.cons_append]
      exact List.perm_middle.append_left before
    rw [known, hradios] at hnodup
    rw [known, hleft, hdetached]
    exact (hperm.map _).nodup_iff.mpr hnodup
  · have hnone := h.timer (hinit ▸ hnot)
    rw [Option.eq_none_iff_forall_not_mem]
    intro τ hτ
    have hmem := htimer τ hτ
    rw [hnone] at hmem
    cases hmem
  · rw [hinit] at hdone
    obtain ⟨margin, hcovers⟩ := h.covers hdone
    exact ⟨margin, hcovers.removeRadio h.nodup hcall (hmeets hdone)⟩

theorem Invariant.updateNeighborListsTimer (h : Invariant history s)
    (hmeets : Meets CloserBy history s .updateNeighborListsTimer)
    (hstep : step s .updateNeighborListsTimer = some (s', ())) :
    Invariant ((.updateNeighborListsTimer, s, ()) :: history) s' := by
  rw [step] at hstep
  split at hstep
  · next htimer =>
    obtain rfl := (Prod.mk.inj (Option.some.inj hstep)).1
    refine ⟨?_, fun hnot => ?_, fun _ => ?_⟩
    · have hknown := known_of_refill
        (s := { s with neighborCache := s.neighborCache.handleMessage s.simTime s.position })
        (c := s.neighborCache)
        (schedule_radios _ _) (schedule_detached _ _)
      rw [hknown]
      exact h.nodup
    · rw [h.timer hnot] at htimer
      cases htimer
    · apply covers_of_refill (c := s.neighborCache)
      · exact schedule_radios _ _
      · exact schedule_range _ _
      · exact schedule_refillPeriod _ _
      · simpa [Meets, present] using hmeets
      · intro τ hτ
        cases hτ
        exact ⟨le_add_of_nonneg_right (NNRat.cast_nonneg _), le_refl _⟩
  · cases hstep

theorem Invariant.move (h : Invariant history s) {t : SimTime}
    (hmeets : Meets CloserBy history s (.move t position))
    (hstep : step s (.move t position) = some (s', ())) :
    Invariant ((.move t position, s, ()) :: history) s' := by
  rw [step] at hstep
  split at hstep
  · next hnext =>
    obtain rfl := (Prod.mk.inj (Option.some.inj hstep)).1
    refine ⟨h.nodup, h.timer, fun hinit => ?_⟩
    obtain ⟨margin, hcovers⟩ := h.covers hinit
    exact hcovers.move hnext.1 hnext.2 (hmeets hinit)
  · cases hstep

theorem invariant_of_run
    (hrun : Run (· = new refillPeriod range parMaxSpeed position) (StepOf (traced step)) history s)
    (hallowed : Always (fun _ l => l.2.1.Allowed l.1) history)
    (hmeets : Always (fun earlier l => Meets CloserBy earlier l.2.1 l.1) history) : Invariant history s := by
  induction hrun with
  | init hinit => exact hinit ▸ invariant_new
  | @step history s s' l hrun hstep ih =>
    obtain ⟨e, before, _⟩ := l
    obtain ⟨rfl, htaken⟩ := traced_eq_some.mp hstep
    have h := ih hallowed.1 hmeets.1
    have hnow := hmeets.2
    cases e with
    | linkLayer2 => exact h.linkLayer2 hnow htaken
    | addRadio radio =>
      obtain rfl := (Prod.mk.inj (Option.some.inj htaken)).1
      exact h.addRadio hallowed.2 hnow
    | removeRadio radio =>
      obtain ⟨s'', hcall, heq⟩ := Option.map_eq_some_iff.mp htaken
      obtain rfl := (Prod.mk.inj heq).1
      exact h.removeRadio hnow (toOption_eq_some.mp hcall)
    | updateNeighborListsTimer => exact h.updateNeighborListsTimer hnow htaken
    | move t position => exact h.move hnow htaken

theorem Covers.reaches (h : s.Covers speed margin) : s.Reaches := by
  intro e he
  refine ⟨h.sound e he, fun radio hradio hne hwithin => h.complete e he radio hradio hne ?_⟩
  apply hwithin.trans
  have hrange : (0 : ℚ) ≤ s.neighborCache.range := NNRat.cast_nonneg _
  exact pow_le_pow_left₀ hrange (le_add_of_nonneg_right h.nonneg) 2

theorem sendToNeighbors_eq (hnodup : s.known.Nodup) {e : RadioEntry}
    (he : e ∈ s.neighborCache.radios) {range : ℚ} (hrange : range ≤ s.neighborCache.range) :
    s.neighborCache.sendToNeighbors e.radio range = .ok e.neighborVector := by
  have hfind : s.neighborCache.radioToEntry e.radio = some e := by
    obtain ⟨before, after, hradios⟩ := List.append_of_mem he
    rw [known, hradios, List.append_assoc, List.cons_append, List.map_append, List.map_cons,
      List.nodup_middle, List.nodup_cons] at hnodup
    rw [radioToEntry, hradios, List.append_assoc, List.cons_append,
      List.find?_eq_some_iff_append]
    refine ⟨decide_eq_true rfl, before, _, rfl, fun x hx => ?_⟩
    have hne : x.radio ≠ e.radio := by
      intro heq
      apply hnodup.1
      rw [← heq]
      exact List.mem_append_left _ (List.mem_map_of_mem hx)
    simpa using hne
  rw [sendToNeighbors, if_neg (not_lt.mpr hrange), hfind]

/-- In every run whose steps meet the conditions, a frame is sent to radios that are
present, and to all of those within the range. -/
theorem sendToNeighbors_reaches
    (hrun : Run (· = new refillPeriod range parMaxSpeed position) (StepOf (traced step)) history s)
    (hallowed : Always (fun _ l => l.2.1.Allowed l.1) history)
    (hmeets : Always (fun earlier l => Meets CloserBy earlier l.2.1 l.1) history)
    (hinit : s.initialized = true) :
    s.Reaches ∧ ∀ e ∈ s.neighborCache.radios, ∀ range ≤ (s.neighborCache.range : ℚ),
      s.neighborCache.sendToNeighbors e.radio range = .ok e.neighborVector := by
  have h := invariant_of_run hrun hallowed hmeets
  obtain ⟨margin, hcovers⟩ := h.covers hinit
  exact ⟨hcovers.reaches, fun e he range hrange => sendToNeighbors_eq h.nodup he hrange⟩

/-- Radios on a line, by their ids. -/
def line (xs : List ℚ) : Nat → Coord := fun id => { x := xs.getD id 0 }

/-- A radio that moves towards one at rest, and one that leaves again. -/
def passing : List Event :=
  [.addRadio ⟨0, some 0⟩, .addRadio ⟨1, some 10⟩, .addRadio ⟨2, some 10⟩, .linkLayer2,
    .move (1 / 2) (line [0, 25, 100]), .removeRadio ⟨2, some 10⟩, .move 1 (line [0, 20, 100]),
    .updateNeighborListsTimer, .move 2 (line [0, 10, 100])]

theorem Meets.closerBy {e : Event} (h : Meets DisplacedBy history s e) :
    Meets CloserBy history s e := by
  cases e with
  | move t position =>
    intro hinit radio hradio radio' hradio' hne
    exact (h hinit radio hradio radio' hradio' hne).closerBy
  | linkLayer2 | addRadio radio | removeRadio radio | updateNeighborListsTimer => exact h

theorem sendToNeighbors_reaches_passing : ∃ (s : RadiosOnMedium)
    (history : List (Event × RadiosOnMedium × Unit)),
    s.neighborCache.radios.map (·.neighborVector) = [[⟨1, some 10⟩], [⟨0, some 0⟩]] ∧ s.Reaches := by
  obtain ⟨s, history, hrun, hallowed, hmeets, hinit, hlists⟩ :=
    exists_run_of_execute (traced step) (new 1 10 none (line [0, 30, 100])) passing
      (fun s history => Always (fun _ l => l.2.1.Allowed l.1) history ∧
        Always (fun earlier l => Meets DisplacedBy earlier l.2.1 l.1) history ∧
        s.initialized = true ∧
        s.neighborCache.radios.map (·.neighborVector) = [[⟨1, some 10⟩], [⟨0, some 0⟩]])
      (by decide +kernel)
  exact ⟨s, history, hlists, (sendToNeighbors_reaches hrun hallowed
    (hmeets.mono fun _ _ h => h.closerBy) hinit).1⟩

/-- Three ways to fail: a radio that was removed stays in the list of another one;
two radios approach each other, each at the maximum speed; a radio that is added is
the first one that moves, and the lists are not refilled. -/
theorem removed_neighbor :
    (∃ r ∈ execute (traced step) (new 1 10 none (line [0, 5])) []
        [.addRadio ⟨0, some 0⟩, .addRadio ⟨1, some 0⟩, .linkLayer2, .removeRadio ⟨1, some 0⟩],
      Always (fun _ l => l.2.1.Allowed l.1) r.2 ∧ r.1.initialized = true ∧ ¬r.1.Reaches) ∧
    (∃ r ∈ execute (traced step) (new 1 10 none (line [0, 30])) []
        [.addRadio ⟨0, some 10⟩, .addRadio ⟨1, some 10⟩, .linkLayer2, .move 1 (line [10, 20])],
      Always (fun _ l => l.2.1.Allowed l.1) r.2 ∧ r.1.initialized = true ∧ ¬r.1.Reaches) ∧
    ∃ r ∈ execute (traced step) (new 1 10 none (line [0, 30])) []
        [.addRadio ⟨0, some 0⟩, .linkLayer2, .addRadio ⟨1, some 10⟩, .move 3 (line [0, 0])],
      Always (fun _ l => l.2.1.Allowed l.1) r.2 ∧ r.1.initialized = true ∧ ¬r.1.Reaches := by
  decide +kernel

end RadiosOnMedium

end inet.physicallayer
