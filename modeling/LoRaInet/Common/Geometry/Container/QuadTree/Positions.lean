import LoRaInet.Common.Geometry.Container.QuadTree.Insertion
import Mathlib.Data.Fintype.Basic
import Mathlib.Data.List.Flatten

open omnetpp transition

namespace inet

open physicallayer

namespace Boundary

variable {b : Boundary} {p : Coord} {i : Fin 4}

theorem isInRectangleRange_of_setBoundary (h : (b.setBoundary i).isInRectangleRange p = true) :
    b.isInRectangleRange p = true := by
  rw [isInRectangleRange_iff] at h ⊢
  unfold setBoundary at h
  dsimp only at h
  split at h
  all_goals
    obtain ⟨⟨hmaxX, hminX⟩, hmaxY, hminY⟩ := h
    dsimp only at hmaxX hminX hmaxY hminY
    exact ⟨⟨by linarith, by linarith⟩, by linarith, by linarith⟩

end Boundary

namespace QuadTree

open Boundary

variable {A : Type} {capacity : ℕ} {last : A → Option Coord} {b : Boundary}
  {quadrant : Quadrant A} {quadrants : Fin 4 → Quadrant A} {a point : A} {pos : Coord} {i : Fin 4}
  {way : List (Fin 4)}

theorem Sound.nodup_members (h : Sound capacity last b quadrant) : (members quadrant).Nodup := by
  induction quadrant generalizing b with
  | leaf vector => exact h.2.1
  | split quadrants ih =>
    rw [members, List.nodup_flatMap]
    refine ⟨fun i _ => ih i (h i).1, ?_⟩
    refine (List.nodup_finRange 4).imp fun {i j} hne a hi hj => hne ?_
    obtain ⟨p, hp, hfindI⟩ := (h i).2 a hi
    obtain ⟨q, hq, hfindJ⟩ := (h j).2 a hj
    obtain rfl := Option.mem_unique hp hq
    exact Option.some.inj (hfindI.symm.trans hfindJ)

theorem mem_members_of_pointsAt (h : a ∈ pointsAt quadrant way) : a ∈ members quadrant := by
  induction quadrant generalizing way with
  | leaf vector =>
    cases way with
    | nil => exact h
    | cons i way => cases h
  | split quadrants ih =>
    cases way with
    | nil => cases h
    | cons i way => exact mem_members_split.mpr ⟨i, ih i h⟩

/-- The leaf of a point is the one that is found for its recorded position. -/
theorem Sound.searchQuadrant_eq (h : Sound capacity last b quadrant) (ha : a ∈ pointsAt quadrant way)
    (hpos : last a = some pos) : searchQuadrant b quadrant pos = some way := by
  induction quadrant generalizing b way with
  | leaf vector =>
    cases way with
    | cons i way => cases ha
    | nil =>
      obtain ⟨p, hp, hin⟩ := h.2.2 a ha
      obtain rfl := Option.some.inj (hpos.symm.trans hp)
      exact if_pos hin
  | split quadrants ih =>
    cases way with
    | nil => cases ha
    | cons i way =>
      obtain ⟨p, hp, hfind⟩ := (h i).2 a (mem_members_of_pointsAt ha)
      obtain rfl := Option.some.inj (hpos.symm.trans hp)
      unfold searchQuadrant
      rw [hfind]
      dsimp only
      rw [ih i (h i).1 ha]
      rfl

theorem exists_pointsAt (h : a ∈ members quadrant) : ∃ way, a ∈ pointsAt quadrant way := by
  induction quadrant with
  | leaf vector => exact ⟨[], h⟩
  | split quadrants ih =>
    obtain ⟨i, ha⟩ := mem_members_split.mp h
    obtain ⟨way, hway⟩ := ih i ha
    exact ⟨i :: way, hway⟩

theorem exists_searchQuadrant (h : b.isInRectangleRange pos = true) :
    ∃ way, searchQuadrant b quadrant pos = some way := by
  induction quadrant generalizing b with
  | leaf vector => exact ⟨[], if_pos h⟩
  | split quadrants ih =>
    obtain ⟨i, hi⟩ := exists_findQuadrant h
    obtain ⟨way, hway⟩ := ih i (isInRectangleRange_of_findQuadrant hi)
    refine ⟨i :: way, ?_⟩
    unfold searchQuadrant
    rw [hi]
    dsimp only
    rw [hway]
    rfl

theorem points_eq_members (h : ¬ hasChild quadrant = true) : points quadrant = members quadrant := by
  cases quadrant with
  | leaf vector => rfl
  | split quadrants => exact absurd rfl h

theorem mem_members_tryToJoinChildQuadrants :
    a ∈ members (tryToJoinChildQuadrants capacity quadrants).1 ↔ a ∈ members (.split quadrants) := by
  unfold tryToJoinChildQuadrants
  split
  · exact Iff.rfl
  · next hleaves =>
    dsimp only
    split
    · rw [not_exists] at hleaves
      simp only [points_eq_members (hleaves _)]
      exact Iff.rfl
    · exact Iff.rfl

/-- Quadrants that are joined have their points in the rectangle around them. -/
theorem Sound.tryToJoinChildQuadrants (h : Sound capacity last b (.split quadrants)) :
    Sound capacity last b (tryToJoinChildQuadrants capacity quadrants).1 := by
  unfold QuadTree.tryToJoinChildQuadrants
  split
  · exact h
  · next hleaves =>
    dsimp only
    split
    · next hlength =>
      rw [not_exists] at hleaves
      simp only [points_eq_members (hleaves _)] at hlength ⊢
      refine ⟨hlength, h.nodup_members, fun a ha => ?_⟩
      obtain ⟨i, ha⟩ := mem_members_split.mp ha
      obtain ⟨pos, hpos, hfind⟩ := (h i).2 a ha
      exact ⟨pos, hpos, isInRectangleRange_of_setBoundary (isInRectangleRange_of_findQuadrant hfind)⟩
    · exact h

section EraseAt

variable [DecidableEq A]

open QuadTree

theorem Sound.eraseAt (h : Sound capacity last b quadrant) (hpoint : point ∈ pointsAt quadrant way) :
    Sound capacity (Function.update last point none) b (eraseAt capacity point quadrant way).1 ∧
      ∀ a, a ∈ members (eraseAt capacity point quadrant way).1 ↔
        a ≠ point ∧ a ∈ members quadrant := by
  have hother : ∀ a, a ≠ point → Function.update last point none a = last a :=
    fun a ha => Function.update_of_ne ha _ _
  induction quadrant generalizing b way with
  | leaf vector =>
    cases way with
    | cons i way => cases hpoint
    | nil =>
      obtain ⟨hlength, hnodup, hplaced⟩ := h
      have hmem : ∀ a, a ∈ vector.erase point ↔ a ≠ point ∧ a ∈ vector := fun a => hnodup.mem_erase_iff
      refine ⟨⟨?_, hnodup.erase point, fun a ha => ?_⟩, hmem⟩
      · exact (List.length_erase_le).trans hlength
      · obtain ⟨hne, ha⟩ := (hmem a).mp ha
        rw [hother a hne]
        exact hplaced a ha
  | split quadrants ih =>
    cases way with
    | nil => cases hpoint
    | cons i way =>
      obtain ⟨hsound, hmem⟩ := ih i (h i).1 hpoint
      have hin : point ∈ members (quadrants i) := mem_members_of_pointsAt hpoint
      -- the point is in no other quadrant
      have hout : ∀ j, j ≠ i → ∀ a ∈ members (quadrants j), a ≠ point := by
        rintro j hj a ha rfl
        obtain ⟨p, hp, hfindI⟩ := (h i).2 a hin
        obtain ⟨q, hq, hfindJ⟩ := (h j).2 a ha
        obtain rfl := Option.mem_unique hp hq
        exact hj (Option.some.inj (hfindJ.symm.trans hfindI))
      unfold eraseAt
      generalize eraseAt capacity point (quadrants i) way = result at *
      obtain ⟨quadrant, tryToJoin⟩ := result
      dsimp only at *
      have hsound' : Sound capacity (Function.update last point none) b
          (.split (Function.update quadrants i quadrant)) := by
        intro j
        by_cases hj : j = i
        · subst hj
          rw [Function.update_self]
          refine ⟨hsound, fun a ha => ?_⟩
          obtain ⟨hne, ha⟩ := (hmem a).mp ha
          rw [hother a hne]
          exact (h j).2 a ha
        · rw [Function.update_of_ne hj]
          refine ⟨(h j).1.congr fun a ha => hother a (hout j hj a ha), fun a ha => ?_⟩
          rw [hother a (hout j hj a ha)]
          exact (h j).2 a ha
      have hmem' : ∀ a, a ∈ members (.split (Function.update quadrants i quadrant)) ↔
          a ≠ point ∧ a ∈ members (.split quadrants) := by
        intro a
        simp only [mem_members_split]
        constructor
        · rintro ⟨j, ha⟩
          by_cases hj : j = i
          · subst hj
            rw [Function.update_self, hmem] at ha
            exact ⟨ha.1, j, ha.2⟩
          · rw [Function.update_of_ne hj] at ha
            exact ⟨hout j hj a ha, j, ha⟩
        · rintro ⟨hne, j, ha⟩
          refine ⟨j, ?_⟩
          by_cases hj : j = i
          · subst hj
            rw [Function.update_self, hmem]
            exact ⟨hne, ha⟩
          · rw [Function.update_of_ne hj]
            exact ha
      cases tryToJoin with
      | false => exact ⟨hsound', hmem'⟩
      | true =>
        refine ⟨hsound'.tryToJoinChildQuadrants, fun a => ?_⟩
        exact mem_members_tryToJoinChildQuadrants.trans (hmem' a)

end EraseAt

end QuadTree

end inet

namespace inet.QuadTree

open physicallayer Boundary

variable {A : Type} [DecidableEq A] {capacity depth : ℕ} {last : A → Option Coord} {b : Boundary}
  {quadrant : Quadrant A} {a point : A} {p pos : Coord} {range : ℚ} {way : List (Fin 4)}

section Queries

/-- What is at most the range away, when heights do not count. -/
def WithinRange (p : Coord) (range : ℚ) (pos : Coord) : Prop :=
  (p.x - pos.x) ^ 2 + (p.y - pos.y) ^ 2 ≤ range * range

theorem WithinRange.intersects (h : WithinRange p range pos) (hrange : 0 ≤ range)
    (hpos : b.isInRectangleRange pos = true) : b.doesIntersectWithQuadrant p range = true := by
  have hx : |p.x - pos.x| ≤ range := by
    refine abs_le_of_sq_le_sq ?_ hrange
    have hsq := sq_nonneg (p.y - pos.y)
    unfold WithinRange at h
    nlinarith
  have hy : |p.y - pos.y| ≤ range := by
    refine abs_le_of_sq_le_sq ?_ hrange
    have hsq := sq_nonneg (p.x - pos.x)
    unfold WithinRange at h
    nlinarith
  rw [abs_le] at hx hy
  rw [isInRectangleRange_iff] at hpos
  unfold doesIntersectWithQuadrant
  simp only [gt_iff_lt, Bool.not_eq_true', Bool.or_eq_false_iff, decide_eq_false_iff_not, not_lt]
  refine ⟨⟨⟨?_, ?_⟩, ?_⟩, ?_⟩ <;> linarith

theorem withinRange_of_sqrdist (h : p.sqrdist pos ≤ range * range) : WithinRange p range pos := by
  have hsq := sq_nonneg (p.z - pos.z)
  unfold Coord.sqrdist at h
  unfold WithinRange
  linarith

omit [DecidableEq A] in
theorem rangeQueryAt_sublist : (rangeQueryAt p range b quadrant).Sublist (members quadrant) := by
  induction quadrant generalizing b with
  | leaf vector =>
    unfold rangeQueryAt
    split
    · exact List.Sublist.refl _
    · exact List.nil_sublist _
  | split quadrants ih =>
    unfold rangeQueryAt members
    exact List.Sublist.flatMap_right _ fun i _ => ih i

omit [DecidableEq A] in
theorem mem_rangeQueryAt (h : Sound capacity last b quadrant) (ha : a ∈ members quadrant)
    (hpos : last a = some pos) (hwithin : WithinRange p range pos) (hrange : 0 ≤ range) :
    a ∈ rangeQueryAt p range b quadrant := by
  induction quadrant generalizing b with
  | leaf vector =>
    obtain ⟨pos', hpos', hin⟩ := h.2.2 a ha
    obtain rfl := Option.some.inj (hpos.symm.trans hpos')
    unfold rangeQueryAt
    rw [if_pos (hwithin.intersects hrange hin)]
    exact ha
  | split quadrants ih =>
    obtain ⟨i, ha⟩ := mem_members_split.mp ha
    unfold rangeQueryAt
    exact List.mem_flatMap.mpr ⟨i, List.mem_finRange i, ih i (h i).1 ha⟩

omit [DecidableEq A] in
/-- The strict query visits those of the other one that are near enough. -/
theorem strictRangeQueryAt_eq : strictRangeQueryAt last p range b quadrant =
    (rangeQueryAt p range b quadrant).filter
      fun elem => p.sqrdist ((last elem).getD {}) ≤ range * range := by
  induction quadrant generalizing b with
  | leaf vector =>
    unfold strictRangeQueryAt rangeQueryAt
    split
    · rfl
    · rfl
  | split quadrants ih =>
    unfold strictRangeQueryAt rangeQueryAt
    rw [List.filter_flatMap]
    exact List.flatMap_congr fun i _ => ih i

omit [DecidableEq A] in
theorem Sound.length_pointsAt (h : Sound capacity last b quadrant) :
    (pointsAt quadrant way).length ≤ capacity := by
  induction quadrant generalizing b way with
  | leaf vector =>
    cases way with
    | nil => exact h.1
    | cons i way => exact Nat.zero_le _
  | split quadrants ih =>
    cases way with
    | nil => exact Nat.zero_le _
    | cons i way => exact ih i (h i).1

end Queries

/-- The tree has each point at its position. -/
structure Settled (position : A → Option Coord) (t : QuadTree A) : Prop where
  capacity : 0 < t.quadrantCapacity
  sound : Sound t.quadrantCapacity t.lastPosition t.boundary t.root
  recorded : ∀ a, t.lastPosition a = position a
  present : ∀ a, a ∈ members t.root ↔ ∃ pos, position a = some pos

/-- Every point is in one leaf, the one for its recorded position, no leaf is too full, and queries are
answered by position. The strict query is, if no point in range is too high or too low. -/
structure Answers (position : A → Option Coord) (t : QuadTree A) : Prop where
  placed : ∀ a pos, position a = some pos → ∃! way, a ∈ pointsAt t.root way
  found : ∀ a way, a ∈ pointsAt t.root way → ∃ pos, t.lastPosition a = some pos ∧
    searchQuadrant t.boundary t.root pos = some way ∧ position a = some pos
  length_le : ∀ way, (pointsAt t.root way).length ≤ t.quadrantCapacity
  rangeQuery_nodup : ∀ p range, (t.rangeQuery p range).Nodup
  rangeQuery : ∀ p range, 0 ≤ range → ∀ a pos, position a = some pos → WithinRange p range pos →
    a ∈ t.rangeQuery p range
  strictRangeQuery_nodup : ∀ p range, (t.strictRangeQuery p range).Nodup
  strictRangeQuery : ∀ p range, 0 ≤ range →
    ((∀ a, a ∈ t.strictRangeQuery p range ↔ ∃ pos, position a = some pos ∧ WithinRange p range pos) ↔
      ∀ a pos, position a = some pos → WithinRange p range pos → p.sqrdist pos ≤ range * range)

section Settled

variable {t : QuadTree A} {position : A → Option Coord}

omit [DecidableEq A] in
theorem Settled.mem_strictRangeQuery (h : Settled position t) (hrange : 0 ≤ range) :
    a ∈ t.strictRangeQuery p range ↔ ∃ pos, position a = some pos ∧ p.sqrdist pos ≤ range * range := by
  unfold strictRangeQuery
  rw [strictRangeQueryAt_eq, List.mem_filter, h.recorded a, decide_eq_true_eq]
  constructor
  · rintro ⟨hquery, hdist⟩
    obtain ⟨pos, hpos⟩ := (h.present a).mp (rangeQueryAt_sublist.subset hquery)
    rw [hpos] at hdist
    exact ⟨pos, hpos, hdist⟩
  · rintro ⟨pos, hpos, hdist⟩
    have hmem := (h.present a).mpr ⟨pos, hpos⟩
    refine ⟨mem_rangeQueryAt h.sound hmem ((h.recorded a).trans hpos) (withinRange_of_sqrdist hdist)
      hrange, ?_⟩
    rw [hpos]
    exact hdist

omit [DecidableEq A] in
theorem Settled.answers (h : Settled position t) : Answers position t := by
  have hfound : ∀ a way, a ∈ pointsAt t.root way → ∃ pos, t.lastPosition a = some pos ∧
      searchQuadrant t.boundary t.root pos = some way ∧ position a = some pos := by
    intro a way ha
    obtain ⟨pos, hpos⟩ := (h.present a).mp (mem_members_of_pointsAt ha)
    have hlast := (h.recorded a).trans hpos
    exact ⟨pos, hlast, h.sound.searchQuadrant_eq ha hlast, hpos⟩
  refine ⟨fun a pos hpos => ?_, hfound, fun way => h.sound.length_pointsAt, fun p range => ?_,
    fun p range hrange a pos hpos hwithin => ?_, fun p range => ?_, fun p range hrange => ?_⟩
  · obtain ⟨way, hway⟩ := exists_pointsAt ((h.present a).mpr ⟨pos, hpos⟩)
    refine ⟨way, hway, fun way' hway' => ?_⟩
    have hlast := (h.recorded a).trans hpos
    exact Option.some.inj ((h.sound.searchQuadrant_eq hway' hlast).symm.trans
      (h.sound.searchQuadrant_eq hway hlast))
  · exact h.sound.nodup_members.sublist rangeQueryAt_sublist
  · exact mem_rangeQueryAt h.sound ((h.present a).mpr ⟨pos, hpos⟩) ((h.recorded a).trans hpos) hwithin
      hrange
  · unfold QuadTree.strictRangeQuery
    rw [strictRangeQueryAt_eq]
    exact (h.sound.nodup_members.sublist rangeQueryAt_sublist).filter _
  · constructor
    · intro hall a pos hpos hwithin
      obtain ⟨pos', hpos', hdist⟩ := (h.mem_strictRangeQuery hrange).mp ((hall a).mpr ⟨pos, hpos, hwithin⟩)
      obtain rfl := Option.some.inj (hpos.symm.trans hpos')
      exact hdist
    · intro hheight a
      rw [h.mem_strictRangeQuery hrange]
      constructor
      · rintro ⟨pos, hpos, hdist⟩
        exact ⟨pos, hpos, withinRange_of_sqrdist hdist⟩
      · rintro ⟨pos, hpos, hwithin⟩
        exact ⟨pos, hpos, hheight a pos hpos hwithin⟩

omit [DecidableEq A] in
theorem settled_new (hcapacity : 0 < capacity) :
    Settled (fun _ => none) (new b capacity : QuadTree A) := by
  refine ⟨hcapacity, ⟨Nat.zero_le _, List.nodup_nil, nofun⟩, fun _ => rfl, fun a => ?_⟩
  exact iff_of_false (List.not_mem_nil) nofun

/-- A point that is not in the tree is inserted, if `insert` may call itself often enough. -/
theorem Settled.insert (h : Settled position t) (hpos : t.boundary.isInRectangleRange pos = true)
    (hnew : position point = none) :
    (∀ depth, t.insert depth point pos = .error none ∨ ∃ t', t.insert depth point pos = .ok (t', true) ∧
      t'.boundary = t.boundary ∧ Settled (Function.update position point (some pos)) t') ∧
    ((∀ a, a ≠ point → ∀ p ∈ position a, ¬ SamePlace p pos) →
      ∃ depth, t.insert depth point pos ≠ .error none) := by
  have hout : point ∉ members t.root := by
    rw [h.present, hnew]
    exact nofun
  have hlast : t.lastPosition = position := funext h.recorded
  refine ⟨fun depth => ?_, fun hplace => ?_⟩
  · rcases h.sound.insertAt hpos h.capacity hout depth with hstopped | ⟨root, hok, hsound, hmem⟩
    · refine .inl ?_
      unfold QuadTree.insert
      rw [hstopped]
      rfl
    · refine .inr ⟨{ t with
        lastPosition := Function.update t.lastPosition point (some pos), root := root }, ?_, rfl,
        h.capacity, hsound, fun a => ?_, fun a => ?_⟩
      · unfold QuadTree.insert
        rw [hok]
        rfl
      · exact congrFun (congrArg (Function.update · point (some pos)) hlast) a
      · rw [hmem, h.present, Function.update_apply]
        by_cases ha : a = point
        · simp [ha]
        · simp [ha]
  · obtain ⟨depth, hdepth⟩ := h.sound.exists_depth hpos h.capacity hout fun a ha p hp => by
      rw [h.recorded a] at hp
      exact hplace a (fun heq => hout (heq ▸ ha)) p hp
    refine ⟨depth, fun hstopped => hdepth ?_⟩
    unfold QuadTree.insert at hstopped
    cases hresult : QuadTree.insertAt t.quadrantCapacity depth t.boundary t.root t.lastPosition point pos with
    | error fault =>
      rw [hresult] at hstopped
      obtain rfl : fault = none := Except.error.inj hstopped
      rfl
    | ok r =>
      rw [hresult] at hstopped
      cases hstopped

theorem remove_absent (h : Settled position t) (hpoint : position point = none) :
    t.remove point = .ok (t, false) := by
  unfold remove
  rw [h.recorded, hpoint]

theorem Settled.remove (h : Settled position t) (hpoint : position point = some pos)
    (hroot : hasChild t.root = true) :
    ∃ t', t.remove point = .ok (t', true) ∧ t'.boundary = t.boundary ∧
      Settled (Function.update position point none) t' := by
  obtain ⟨way, hway⟩ := exists_pointsAt ((h.present point).mpr ⟨pos, hpoint⟩)
  have hlast := (h.recorded point).trans hpoint
  obtain ⟨hsound, hmem⟩ := h.sound.eraseAt hway
  have hne : way ≠ [] := by
    rintro rfl
    generalize t.root = root at hway hroot
    cases root with
    | leaf vector => cases hroot
    | split quadrants => cases hway
  refine ⟨{ t with
    lastPosition := Function.update t.lastPosition point none
    root := (eraseAt t.quadrantCapacity point t.root way).1 }, ?_, rfl, h.capacity, hsound,
    fun a => ?_, fun a => ?_⟩
  · unfold QuadTree.remove
    rw [hlast]
    dsimp only
    rw [h.sound.searchQuadrant_eq hway hlast]
    dsimp only
    rw [if_pos hway, if_neg hne]
  · exact congrFun (congrArg (Function.update · point none) (funext h.recorded)) a
  · rw [hmem, h.present, Function.update_apply]
    by_cases ha : a = point
    · simp [ha]
    · simp [ha]

end Settled

section Run

variable {t : QuadTree A} {position : A → Option Coord} {e : Event A}

/-- The position of a point: that of its last insertion or move. -/
def positionAfter (position : A → Option Coord) : Event A → Bool → A → Option Coord
  | .insert point pos, true | .move point pos, true => Function.update position point (some pos)
  | .remove point, true => Function.update position point none
  | _, false => position

def positionOf : List ((ℕ × Event A) × (QuadTree A × Bool)) → A → Option Coord
  | [] => fun _ => none
  | (e, _, done) :: history => positionAfter (positionOf history) e.2 done

/-- A new position is inside the root, and no other point is there. -/
def Proper (t : QuadTree A) (position : A → Option Coord) : Event A → Prop
  | .insert point pos | .move point pos => t.boundary.isInRectangleRange pos = true ∧
    ∀ a, a ≠ point → ∀ p ∈ position a, ¬ SamePlace p pos
  | .remove _ => True

/-- Only new points are inserted, points are removed only while the root has quadrants, and a point that
is moved leaves its leaf or stays where it is. -/
def Kept (t : QuadTree A) (position : A → Option Coord) : Event A → Prop
  | .insert point _ => position point = none
  | .remove point => (position point).isSome = true → hasChild t.root = true
  | .move point pos => ∀ way ∈ searchQuadrant t.boundary t.root pos, point ∈ pointsAt t.root way →
    position point = some pos

instance [Fintype A] : DecidablePred (Proper t position)
  | .insert _ _ | .move _ _ => inferInstanceAs (Decidable (_ ∧ _))
  | .remove _ => .isTrue trivial

instance : DecidablePred (Kept t position)
  | .insert point _ => inferInstanceAs (Decidable (position point = none))
  | .remove _ => inferInstanceAs (Decidable (_ → _))
  | .move _ pos => inferInstanceAs (Decidable (∀ way ∈ searchQuadrant t.boundary t.root pos, _ → _))

/-- A call returns, and leaves each point at its position, or it is stopped too early. -/
theorem Settled.handle (h : Settled position t) (hproper : Proper t position e)
    (hkept : Kept t position e) :
    (∀ depth, t.handle depth e = .error none ∨ ∃ t' done, t.handle depth e = .ok (t', done) ∧
      t'.boundary = t.boundary ∧ Settled (positionAfter position e done) t') ∧
    ∃ depth, t.handle depth e ≠ .error none := by
  cases e with
  | insert point pos =>
    obtain ⟨hcases, hdepth⟩ := h.insert hproper.1 hkept
    refine ⟨fun depth => (hcases depth).imp_right ?_, hdepth hproper.2⟩
    rintro ⟨t', hok, hboundary, hsettled⟩
    exact ⟨t', true, hok, hboundary, hsettled⟩
  | remove point =>
    cases hpoint : position point with
    | none =>
      have hok : ∀ depth, t.handle depth (.remove point) = .ok (t, false) :=
        fun _ => remove_absent h hpoint
      exact ⟨fun depth => .inr ⟨t, false, hok depth, rfl, h⟩, 0, by rw [hok]; exact nofun⟩
    | some pos =>
      obtain ⟨t', hok, hboundary, hsettled⟩ := h.remove hpoint (hkept (by rw [hpoint]; rfl))
      have hok : ∀ depth, t.handle depth (.remove point) = .ok (t', true) := fun _ => hok
      exact ⟨fun depth => .inr ⟨t', true, hok depth, hboundary, hsettled⟩, 0, by rw [hok]; exact nofun⟩
  | move point pos =>
    obtain ⟨hpos, hplace⟩ := hproper
    obtain ⟨way, hway⟩ : ∃ way, searchQuadrant t.boundary t.root pos = some way :=
      exists_searchQuadrant hpos
    by_cases hsame : point ∈ pointsAt t.root way
    · have hok : ∀ depth, t.handle depth (.move point pos) = .ok (t, true) := by
        intro depth
        change move depth t point pos = _
        unfold move
        rw [hway]
        exact if_pos hsame
      refine ⟨fun depth => .inr ⟨t, true, hok depth, rfl, ?_⟩, 0, by rw [hok]; exact nofun⟩
      change Settled (Function.update position point (some pos)) t
      rw [← hkept way hway hsame, Function.update_eq_self]
      exact h
    · have hmove : ∀ depth, t.handle depth (.move point pos) =
          (t.remove point >>= fun r =>
            if r.2 then r.1.insert depth point pos else .ok (r.1, false)) := by
        intro depth
        change move depth t point pos = _
        unfold move
        rw [hway]
        exact if_neg hsame
      cases hpoint : position point with
      | none =>
        have hok : ∀ depth, t.handle depth (.move point pos) = .ok (t, false) := by
          intro depth
          rw [hmove, remove_absent h hpoint]
          rfl
        exact ⟨fun depth => .inr ⟨t, false, hok depth, rfl, h⟩, 0, by rw [hok]; exact nofun⟩
      | some old =>
        have hroot : hasChild t.root = true := by
          have hmem := (h.present point).mpr ⟨old, hpoint⟩
          generalize t.root = root at hway hsame hmem
          cases root with
          | split quadrants => rfl
          | leaf vector =>
            obtain rfl : way = [] := by
              unfold searchQuadrant at hway
              rw [if_pos hpos] at hway
              exact (Option.some.inj hway).symm
            exact absurd hmem hsame
        obtain ⟨removed, hremove, hboundary, hsettled⟩ := h.remove hpoint hroot
        have hinsert : ∀ depth, t.handle depth (.move point pos) = removed.insert depth point pos := by
          intro depth
          rw [hmove, hremove]
          rfl
        obtain ⟨hcases, hdepth⟩ := hsettled.insert (hboundary ▸ hpos) (Function.update_self _ _ _)
        refine ⟨fun depth => ?_, ?_⟩
        · rw [hinsert]
          refine (hcases depth).imp_right ?_
          rintro ⟨t', hok, hboundary', hsettled'⟩
          rw [Function.update_idem] at hsettled'
          exact ⟨t', true, hok, hboundary'.trans hboundary, hsettled'⟩
        · obtain ⟨depth, hdepth⟩ := hdepth fun a ha p hp => by
            rw [Function.update_of_ne ha] at hp
            exact hplace a ha p hp
          exact ⟨depth, by rw [hinsert]; exact hdepth⟩

/-- After calls that keep to it, queries are answered by position, and further such calls return. -/
theorem queries_by_position {history : List ((ℕ × Event A) × (QuadTree A × Bool))}
    (hcapacity : 0 < capacity) (hrun : Run (· = new b capacity) (StepOf (traced step)) history t)
    (hproper : Always (fun earlier l => Proper l.2.1 (positionOf earlier) l.1.2) history)
    (hkept : Always (fun earlier l => Kept l.2.1 (positionOf earlier) l.1.2) history) :
    Answers (positionOf history) t ∧ ∀ e, Proper t (positionOf history) e →
      Kept t (positionOf history) e → ∃ depth t' done, t.handle depth e = .ok (t', done) := by
  have hsettled : Settled (positionOf history) t := by
    induction hrun with
    | init hinit =>
      rw [hinit]
      exact settled_new hcapacity
    | @step history t t' l hrun hstep ih =>
      obtain ⟨e, before, done⟩ := l
      obtain ⟨rfl, hstep⟩ := traced_eq_some.mp hstep
      have h := ih hproper.1 hkept.1
      unfold QuadTree.step at hstep
      rcases (h.handle hproper.2 hkept.2).1 e.1 with hstopped | ⟨t₂, done₂, hok, -, hsettled⟩
      · rw [hstopped] at hstep
        cases hstep
      · rw [hok] at hstep
        cases hstep
        exact hsettled
  refine ⟨hsettled.answers, fun e hproper hkept => ?_⟩
  obtain ⟨hcases, depth, hdepth⟩ := hsettled.handle hproper hkept
  obtain ⟨t', done, hok, -⟩ := (hcases depth).resolve_left hdepth
  exact ⟨depth, t', done, hok⟩

def square : Boundary := ⟨{}, { x := 4, y := 4 }⟩

/-- The third point is on the borders of all quadrants. The first one goes to the quadrant of the
second one. -/
theorem queries_by_position_of_move : ∃ (history : List ((ℕ × Event (Fin 3)) × _)) (t : QuadTree (Fin 3)),
    Run (· = new square 1) (StepOf (traced step)) history t ∧ Answers (positionOf history) t ∧
      positionOf history 0 = some { x := 7 / 2, y := 3 } ∧ history.length = 5 := by
  obtain ⟨t, history, hrun, hproper, hkept, hposition, hlength⟩ := exists_run_of_execute (traced step)
    (new square 1 : QuadTree (Fin 3))
    [(5, .insert 0 { x := 1, y := 1 }), (5, .insert 1 { x := 3, y := 3 }),
      (5, .insert 2 { x := 2, y := 2 }), (5, .move 0 { x := 7 / 2, y := 3 }), (5, .remove 2)]
    (fun _ history => Always (fun earlier l => Proper l.2.1 (positionOf earlier) l.1.2) history ∧
      Always (fun earlier l => Kept l.2.1 (positionOf earlier) l.1.2) history ∧
      positionOf history 0 = some { x := 7 / 2, y := 3 } ∧ history.length = 5)
    (by decide +kernel)
  exact ⟨history, t, hrun, (queries_by_position one_pos hrun hproper hkept).1, hposition, hlength⟩

/-- A point that has moved inside its leaf is not found at its position, and it cannot be removed, since
the leaf is the root. -/
theorem not_queries_by_position :
    ∃ r ∈ execute (traced step) (new square 1 : QuadTree (Fin 2)) []
        [(1, .insert 0 { x := 1, y := 1 }), (1, .move 0 { x := 3, y := 3 })],
      Always (fun earlier l => Proper l.2.1 (positionOf earlier) l.1.2) r.2 ∧
      positionOf r.2 0 = some { x := 3, y := 3 } ∧
      r.1.strictRangeQuery { x := 3, y := 3 } 1 = [] ∧
      (r.1.remove 0).map (fun _ => ()) = .error (some .nullPointer) := by
  decide +kernel

end Run

end inet.QuadTree
