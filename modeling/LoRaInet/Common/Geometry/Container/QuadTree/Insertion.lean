import LoRaInet.Common.Geometry.Container.QuadTree
import Mathlib.Algebra.Order.Archimedean.Basic
import Mathlib.Data.Rat.Floor
import Mathlib.Tactic.Linarith

open omnetpp transition

namespace inet

open physicallayer

namespace Boundary

variable {b : Boundary} {p q : Coord} {i : Fin 4} {w : ℚ}

theorem isInRectangleRange_iff : b.isInRectangleRange p = true ↔
    (p.x ≤ b.boundaryMax.x ∧ b.boundaryMin.x ≤ p.x) ∧
      p.y ≤ b.boundaryMax.y ∧ b.boundaryMin.y ≤ p.y := by
  unfold isInRectangleRange
  simp only [Bool.and_eq_true, decide_eq_true_eq, ge_iff_le]
  tauto

theorem exists_setBoundary (h : b.isInRectangleRange p = true) :
    ∃ i, (b.setBoundary i).isInRectangleRange p = true := by
  simp only [isInRectangleRange_iff] at h ⊢
  obtain ⟨⟨hmaxX, hminX⟩, hmaxY, hminY⟩ := h
  rcases le_total p.x ((b.boundaryMax.x - b.boundaryMin.x) / 2 + b.boundaryMin.x) with hx | hx
  · rcases le_total p.y ((b.boundaryMax.y - b.boundaryMin.y) / 2 + b.boundaryMin.y) with hy | hy
    · exact ⟨2, ⟨hx, hminX⟩, hy, hminY⟩
    · exact ⟨0, ⟨hx, hminX⟩, hmaxY, hy⟩
  · rcases le_total p.y ((b.boundaryMax.y - b.boundaryMin.y) / 2 + b.boundaryMin.y) with hy | hy
    · exact ⟨3, ⟨hmaxX, hx⟩, hy, hminY⟩
    · exact ⟨1, ⟨hmaxX, hx⟩, hmaxY, hy⟩

theorem exists_findQuadrant (h : b.isInRectangleRange p = true) : ∃ i, b.findQuadrant p = some i := by
  obtain ⟨i, hi⟩ := exists_setBoundary h
  rw [← Option.isSome_iff_exists, findQuadrant, List.find?_isSome]
  exact ⟨i, List.mem_finRange i, hi⟩

theorem isInRectangleRange_of_findQuadrant (h : b.findQuadrant p = some i) :
    (b.setBoundary i).isInRectangleRange p = true := by
  unfold findQuadrant at h
  simpa using List.find?_some h

/-- Both sides of the rectangle are shorter than a length. -/
def Narrow (b : Boundary) (w : ℚ) : Prop :=
  b.boundaryMax.x - b.boundaryMin.x < w ∧ b.boundaryMax.y - b.boundaryMin.y < w

theorem Narrow.setBoundary (h : b.Narrow (2 * w)) : (b.setBoundary i).Narrow w := by
  obtain ⟨hx, hy⟩ := h
  unfold Narrow Boundary.setBoundary
  split <;> exact ⟨by linarith, by linarith⟩

/-- Two positions are at least a length apart. -/
def Apart (w : ℚ) (p q : Coord) : Prop := w ≤ |p.x - q.x| ∨ w ≤ |p.y - q.y|

theorem Narrow.not_apart (h : b.Narrow w) (hp : b.isInRectangleRange p = true)
    (hq : b.isInRectangleRange q = true) : ¬ Apart w p q := by
  rw [isInRectangleRange_iff] at hp hq
  obtain ⟨hx, hy⟩ := h
  rintro (hw | hw)
  · have hlt : |p.x - q.x| < w := abs_lt.mpr ⟨by linarith, by linarith⟩
    exact absurd hw (not_le.mpr hlt)
  · have hlt : |p.y - q.y| < w := abs_lt.mpr ⟨by linarith, by linarith⟩
    exact absurd hw (not_le.mpr hlt)

/-- Two positions that are the same in the plane. -/
def SamePlace (p q : Coord) : Prop := p.x = q.x ∧ p.y = q.y
deriving Decidable

theorem exists_apart (h : ¬ SamePlace p q) : ∃ w, 0 < w ∧ Apart w p q := by
  by_cases hx : p.x = q.x
  · have hy : p.y - q.y ≠ 0 := sub_ne_zero.mpr fun hy => h ⟨hx, hy⟩
    exact ⟨|p.y - q.y|, abs_pos.mpr hy, .inr le_rfl⟩
  · exact ⟨|p.x - q.x|, abs_pos.mpr (sub_ne_zero.mpr hx), .inl le_rfl⟩

theorem Apart.mono {v : ℚ} (h : Apart w p q) (hle : v ≤ w) : Apart v p q :=
  h.imp hle.trans hle.trans

/-- Finitely many positions are all at least some length apart from another one. -/
theorem exists_apart_all {ps : List Coord} (h : ∀ p ∈ ps, ¬ SamePlace p q) :
    ∃ w, 0 < w ∧ ∀ p ∈ ps, Apart w p q := by
  induction ps with
  | nil => exact ⟨1, one_pos, nofun⟩
  | cons p ps ih =>
    obtain ⟨hp, hps⟩ := List.forall_mem_cons.mp h
    obtain ⟨w, hw, hall⟩ := ih hps
    obtain ⟨v, hv, hapart⟩ := exists_apart hp
    refine ⟨min v w, lt_min hv hw, List.forall_mem_cons.mpr ⟨?_, fun p hp => ?_⟩⟩
    · exact hapart.mono (min_le_left _ _)
    · exact (hall p hp).mono (min_le_right _ _)

theorem exists_narrow (hw : 0 < w) : ∃ n : ℕ, b.Narrow (2 ^ n * w) := by
  obtain ⟨n, hn⟩ := pow_unbounded_of_one_lt
    (max (b.boundaryMax.x - b.boundaryMin.x) (b.boundaryMax.y - b.boundaryMin.y) / w) one_lt_two
  rw [div_lt_iff₀ hw, max_lt_iff] at hn
  exact ⟨n, hn⟩

end Boundary

namespace QuadTree

open Boundary

variable {A : Type} {capacity : ℕ} {last : A → Option Coord} {b : Boundary}
  {quadrant : Quadrant A} {quadrants : Fin 4 → Quadrant A} {a point : A} {pos : Coord} {i : Fin 4}

def members : Quadrant A → List A
  | .leaf points => points
  | .split quadrants => (List.finRange 4).flatMap fun i => members (quadrants i)

theorem mem_members_split : a ∈ members (.split quadrants) ↔ ∃ i, a ∈ members (quadrants i) := by
  simp [members]

/-- Every point is in the leaf for its recorded position, and no leaf has more points than it may. -/
def Sound (capacity : ℕ) (last : A → Option Coord) : Boundary → Quadrant A → Prop
  | b, .leaf points => points.length ≤ capacity ∧ points.Nodup ∧
    ∀ a ∈ points, ∃ pos ∈ last a, b.isInRectangleRange pos = true
  | b, .split quadrants => ∀ i, Sound capacity last (b.setBoundary i) (quadrants i) ∧
    ∀ a ∈ members (quadrants i), ∃ pos ∈ last a, b.findQuadrant pos = some i

theorem Sound.congr {last' : A → Option Coord} (h : Sound capacity last b quadrant)
    (hsame : ∀ a ∈ members quadrant, last' a = last a) : Sound capacity last' b quadrant := by
  induction quadrant generalizing b with
  | leaf points =>
    obtain ⟨hlength, hnodup, hplaced⟩ := h
    refine ⟨hlength, hnodup, fun a ha => ?_⟩
    rw [hsame a ha]
    exact hplaced a ha
  | split quadrants ih =>
    intro i
    obtain ⟨hsound, hplaced⟩ := h i
    have hsame' : ∀ a ∈ members (quadrants i), last' a = last a :=
      fun a ha => hsame a (mem_members_split.mpr ⟨i, ha⟩)
    refine ⟨ih i hsound hsame', fun a ha => ?_⟩
    rw [hsame' a ha]
    exact hplaced a ha

section Splitted

variable {vector : List A}

/-- The points of a leaf by quadrant. -/
def splitted (last : A → Option Coord) (b : Boundary) (vector : List A) (i : Fin 4) : Quadrant A :=
  .leaf (vector.filter fun a => (last a).bind b.findQuadrant = some i)

theorem update_splitted {front : List A} (h : (last a).bind b.findQuadrant = some i) :
    Function.update (splitted last b front) i
      (.leaf ((front.filter fun a => (last a).bind b.findQuadrant = some i) ++ [a])) =
        splitted last b (front ++ [a]) := by
  funext j
  unfold splitted
  rw [Function.update_apply, List.filter_append]
  split
  · next hj => simp [hj, h]
  · next hj => simp [h, Ne.symm hj]

theorem sound_splitted (h : Sound capacity last b (.leaf vector)) :
    Sound capacity last b (.split (splitted last b vector)) := by
  obtain ⟨hlength, hnodup, hplaced⟩ := h
  have hmem : ∀ i, ∀ a ∈ members (splitted last b vector i), a ∈ vector ∧
      ∃ pos ∈ last a, b.findQuadrant pos = some i := by
    intro i a ha
    obtain ⟨hvector, hbind⟩ := List.mem_filter.mp ha
    exact ⟨hvector, Option.bind_eq_some_iff.mp (of_decide_eq_true hbind)⟩
  refine fun i => ⟨⟨?_, hnodup.filter _, fun a ha => ?_⟩, fun a ha => (hmem i a ha).2⟩
  · exact (List.length_filter_le _ _).trans hlength
  · obtain ⟨-, pos, hpos, hfind⟩ := hmem i a ha
    exact ⟨pos, hpos, isInRectangleRange_of_findQuadrant hfind⟩

theorem mem_members_splitted (h : Sound capacity last b (.leaf vector)) :
    a ∈ members (.split (splitted last b vector)) ↔ a ∈ vector := by
  rw [mem_members_split]
  constructor
  · rintro ⟨i, ha⟩
    exact (List.mem_filter.mp ha).1
  · intro ha
    obtain ⟨pos, hpos, hin⟩ := h.2.2 a ha
    obtain ⟨i, hi⟩ := exists_findQuadrant hin
    refine ⟨i, List.mem_filter.mpr ⟨ha, decide_eq_true ?_⟩⟩
    exact Option.bind_eq_some_iff.mpr ⟨pos, hpos, hi⟩

end Splitted

section InsertAt

variable [DecidableEq A] {depth : ℕ} {vector : List A}

theorem insertAt_outside (h : b.isInRectangleRange pos = false) :
    insertAt capacity (depth + 1) b quadrant last point pos = .ok (last, quadrant, false) := by
  unfold insertAt
  rw [h]
  rfl

theorem insertAt_room (h : b.isInRectangleRange pos = true) (hroom : vector.length < capacity) :
    insertAt capacity (depth + 1) b (.leaf vector) last point pos =
      .ok (Function.update last point (some pos), .leaf (vector ++ [point]), true) := by
  rw [insertAt, h, if_neg (by simp)]
  exact if_pos hroom

theorem insertAt_split (h : b.isInRectangleRange pos = true) :
    insertAt capacity (depth + 1) b (.split quadrants) last point pos =
      insertIntoQuadrants (insertAt capacity depth) b point pos (List.finRange 4) last quadrants := by
  rw [insertAt, h, if_neg (by simp)]

theorem splitPoints_eq_ok (hlength : vector.length ≤ capacity)
    (hplaced : ∀ a ∈ vector, ∃ pos ∈ last a, b.isInRectangleRange pos = true) :
    splitPoints (insertAt capacity (depth + 1)) b vector last = .ok (last, splitted last b vector) := by
  have hfold : ∀ rest front : List A, vector = front ++ rest →
      rest.foldlM (splitPoint (insertAt capacity (depth + 1)) b) (last, splitted last b front) =
        .ok (last, splitted last b vector) := by
    intro rest
    induction rest with
    | nil =>
      rintro front rfl
      rw [List.append_nil]
      rfl
    | cons elem rest ih =>
      intro front heq
      obtain ⟨pos, hpos, hin⟩ := hplaced elem (by simp [heq])
      have hpos : last elem = some pos := hpos
      obtain ⟨i, hi⟩ := exists_findQuadrant hin
      have hbind : (last elem).bind b.findQuadrant = some i := by
        rw [hpos]
        exact hi
      have hwhich : whichQuadrant b pos = .ok i := by
        unfold whichQuadrant
        rw [hi]
      have hroom : (front.filter fun a => (last a).bind b.findQuadrant = some i).length < capacity := by
        have hle := front.length_filter_le fun a => decide ((last a).bind b.findQuadrant = some i)
        rw [heq, List.length_append, List.length_cons] at hlength
        omega
      have hstep : splitPoint (insertAt capacity (depth + 1)) b (last, splitted last b front) elem =
          .ok (last, splitted last b (front ++ [elem])) := by
        have hcall : insertAt capacity (depth + 1) (b.setBoundary i) (splitted last b front i) last elem
            pos = .ok (last, .leaf ((front.filter fun a => (last a).bind b.findQuadrant = some i) ++
              [elem]), true) := by
          unfold splitted
          rw [insertAt_room (isInRectangleRange_of_findQuadrant hi) hroom, ← hpos,
            Function.update_eq_self]
        unfold splitPoint
        dsimp only
        rw [hpos]
        dsimp only
        rw [hwhich]
        change (insertAt capacity (depth + 1) (b.setBoundary i) (splitted last b front i) last elem
          pos >>= _) = _
        rw [hcall, ← update_splitted hbind]
        rfl
      rw [List.foldlM_cons, hstep]
      exact ih (front ++ [elem]) (by simp [heq])
  have hstart : splitted last b [] = fun _ => .leaf [] := by
    funext i
    rfl
  unfold splitPoints
  rw [← hstart]
  exact hfold vector [] rfl

/-- The point goes to the first quadrant that contains its position. -/
theorem insertIntoQuadrants_eq (hfind : b.findQuadrant pos = some i)
    (hinserted : ∀ r, insertAt capacity (depth + 1) (b.setBoundary i) (quadrants i) last point pos =
      .ok r → r.2.2 = true) :
    insertIntoQuadrants (insertAt capacity (depth + 1)) b point pos (List.finRange 4) last quadrants =
      (insertAt capacity (depth + 1) (b.setBoundary i) (quadrants i) last point pos).map
        fun r => (r.1, .split (Function.update quadrants i r.2.1), true) := by
  have hloop : ∀ l : List (Fin 4),
      l.find? (fun i => (b.setBoundary i).isInRectangleRange pos) = some i →
      insertIntoQuadrants (insertAt capacity (depth + 1)) b point pos l last quadrants =
        (insertAt capacity (depth + 1) (b.setBoundary i) (quadrants i) last point pos).map
          fun r => (r.1, .split (Function.update quadrants i r.2.1), true) := by
    intro l hl
    induction l with
    | nil => cases hl
    | cons j rest ih =>
      rw [insertIntoQuadrants]
      cases hj : (b.setBoundary j).isInRectangleRange pos with
      | true =>
        simp only [List.find?_cons, hj] at hl
        obtain rfl := Option.some.inj hl
        cases hresult : insertAt capacity (depth + 1) (b.setBoundary j) (quadrants j) last point pos with
        | error fault => rfl
        | ok r =>
          obtain ⟨last', elem, inserted⟩ := r
          obtain rfl := hinserted _ hresult
          rfl
      | false =>
        simp only [List.find?_cons, hj] at hl
        rw [insertAt_outside hj]
        change insertIntoQuadrants _ _ _ _ rest last (Function.update quadrants j (quadrants j)) = _
        rw [Function.update_eq_self]
        exact ih hl
  exact hloop _ hfind

theorem insertAt_full (h : Sound capacity last b (.leaf vector)) (hpos : b.isInRectangleRange pos = true)
    (hcapacity : 0 < capacity) (hfull : ¬ vector.length < capacity) :
    insertAt capacity (depth + 1) b (.leaf vector) last point pos =
      insertAt capacity (depth + 1) b (.split (splitted last b vector)) last point pos := by
  rw [insertAt_split hpos, insertAt, hpos, if_neg (by simp)]
  rw [if_neg hfull]
  cases depth with
  | zero =>
    cases vector with
    | nil => exact absurd hcapacity hfull
    | cons elem rest =>
      obtain ⟨pos', hpos', hin⟩ := h.2.2 elem (.head _)
      obtain ⟨i, hi⟩ := exists_findQuadrant hin
      have hstopped : splitPoint (insertAt capacity 0) b (last, fun _ => .leaf []) elem =
          .error none := by
        have hlast : last elem = some pos' := hpos'
        unfold splitPoint whichQuadrant
        dsimp only
        rw [hlast]
        dsimp only
        rw [hi]
        rfl
      unfold splitPoints
      rw [List.foldlM_cons, hstopped]
      rfl
  | succ depth =>
    rw [splitPoints_eq_ok h.1 h.2.2]
    rfl

/-- What a call returns that has inserted a point. -/
def Inserts (capacity : ℕ) (last : A → Option Coord) (b : Boundary) (quadrant : Quadrant A) (point : A)
    (pos : Coord) (r : Except Stopped (Inserted A)) : Prop :=
  ∃ quadrant', r = .ok (Function.update last point (some pos), quadrant', true) ∧
    Sound capacity (Function.update last point (some pos)) b quadrant' ∧
    ∀ a, a ∈ members quadrant' ↔ a = point ∨ a ∈ members quadrant

theorem Inserts.split (h : Sound capacity last b (.split quadrants))
    (hnew : point ∉ members (.split quadrants)) (hfind : b.findQuadrant pos = some i)
    (hinserts : Inserts capacity last (b.setBoundary i) (quadrants i) point pos
      (insertAt capacity (depth + 1) (b.setBoundary i) (quadrants i) last point pos)) :
    Inserts capacity last b (.split quadrants) point pos
      (insertIntoQuadrants (insertAt capacity (depth + 1)) b point pos (List.finRange 4) last
        quadrants) := by
  obtain ⟨quadrant', hok, hsound, hmem⟩ := hinserts
  have hother : ∀ j, ∀ a ∈ members (quadrants j),
      Function.update last point (some pos) a = last a := by
    intro j a ha
    refine Function.update_of_ne ?_ _ _
    rintro rfl
    exact hnew (mem_members_split.mpr ⟨j, ha⟩)
  refine ⟨.split (Function.update quadrants i quadrant'), ?_, fun j => ?_, fun a => ?_⟩
  · rw [insertIntoQuadrants_eq hfind, hok]
    · rfl
    · intro r hr
      obtain rfl := Except.ok.inj (hok.symm.trans hr)
      rfl
  · by_cases hj : j = i
    · subst hj
      rw [Function.update_self]
      refine ⟨hsound, fun a ha => ?_⟩
      rcases (hmem a).mp ha with rfl | ha
      · exact ⟨pos, Function.update_self _ _ _, hfind⟩
      · rw [hother j a ha]
        exact (h j).2 a ha
    · rw [Function.update_of_ne hj]
      refine ⟨(h j).1.congr (hother j), fun a ha => ?_⟩
      rw [hother j a ha]
      exact (h j).2 a ha
  · simp only [mem_members_split]
    constructor
    · rintro ⟨j, ha⟩
      by_cases hj : j = i
      · subst hj
        rw [Function.update_self, hmem] at ha
        exact ha.imp_right fun ha => ⟨j, ha⟩
      · rw [Function.update_of_ne hj] at ha
        exact .inr ⟨j, ha⟩
    · rintro (rfl | ⟨j, ha⟩)
      · exact ⟨i, by rw [Function.update_self]; exact (hmem a).mpr (.inl rfl)⟩
      · by_cases hj : j = i
        · subst hj
          exact ⟨j, by rw [Function.update_self]; exact (hmem a).mpr (.inr ha)⟩
        · exact ⟨j, by rw [Function.update_of_ne hj]; exact ha⟩

/-- However often `insert` may call itself, it inserts the point or is stopped. -/
theorem Sound.insertAt (h : Sound capacity last b quadrant) (hpos : b.isInRectangleRange pos = true)
    (hcapacity : 0 < capacity) (hnew : point ∉ members quadrant) (depth : ℕ) :
    QuadTree.insertAt capacity depth b quadrant last point pos = .error none ∨
      Inserts capacity last b quadrant point pos
        (QuadTree.insertAt capacity depth b quadrant last point pos) := by
  induction depth generalizing b quadrant with
  | zero => exact .inl rfl
  | succ depth ih =>
    have hsplit : ∀ quadrants : Fin 4 → Quadrant A, Sound capacity last b (.split quadrants) →
        point ∉ members (.split quadrants) →
        QuadTree.insertAt capacity (depth + 1) b (.split quadrants) last point pos = .error none ∨
          Inserts capacity last b (.split quadrants) point pos
            (QuadTree.insertAt capacity (depth + 1) b (.split quadrants) last point pos) := by
      intro quadrants h hnew
      rw [insertAt_split hpos]
      obtain ⟨i, hi⟩ := exists_findQuadrant hpos
      have hnew' : point ∉ members (quadrants i) := fun hmem => hnew (mem_members_split.mpr ⟨i, hmem⟩)
      cases depth with
      | zero => exact .inl rfl
      | succ depth =>
        rcases ih (h i).1 (isInRectangleRange_of_findQuadrant hi) hnew' with hstopped | hinserts
        · refine .inl ?_
          rw [insertIntoQuadrants_eq hi, hstopped]
          · rfl
          · intro r hr
            rw [hstopped] at hr
            cases hr
        · exact .inr (hinserts.split h hnew hi)
    cases quadrant with
    | leaf vector =>
      by_cases hroom : vector.length < capacity
      · refine .inr ⟨.leaf (vector ++ [point]), insertAt_room hpos hroom, ?_, fun a => ?_⟩
        · obtain ⟨-, hnodup, hplaced⟩ := h
          refine ⟨by rw [List.length_append]; exact hroom, ?_, fun a ha => ?_⟩
          · exact List.nodup_append'.mpr ⟨hnodup, List.nodup_singleton point,
              List.disjoint_singleton.mpr hnew⟩
          · by_cases hpoint : a = point
            · subst hpoint
              exact ⟨pos, Function.update_self _ _ _, hpos⟩
            · rw [Function.update_of_ne hpoint]
              refine hplaced a ((List.mem_append.mp ha).resolve_right ?_)
              simpa using hpoint
        · simp [members, or_comm]
      · rw [insertAt_full h hpos hcapacity hroom]
        have hmem : ∀ a, a ∈ members (.split (splitted last b vector)) ↔ a ∈ vector :=
          fun a => mem_members_splitted h
        refine (hsplit _ (sound_splitted h) fun hpoint => hnew ((hmem point).mp hpoint)).imp_right ?_
        rintro ⟨quadrant', hok, hsound, hmem'⟩
        exact ⟨quadrant', hok, hsound, fun a => (hmem' a).trans (or_congr_right (hmem a))⟩
    | split quadrants => exact hsplit quadrants h hnew

theorem exists_insertAt_split (hpos : b.isInRectangleRange pos = true) (hfind : b.findQuadrant pos = some i)
    (h : insertAt capacity depth (b.setBoundary i) (quadrants i) last point pos ≠ .error none)
    (hinserts : ∀ r, insertAt capacity depth (b.setBoundary i) (quadrants i) last point pos = .ok r →
      r.2.2 = true) :
    insertAt capacity (depth + 1) b (.split quadrants) last point pos ≠ .error none := by
  rw [insertAt_split hpos]
  cases depth with
  | zero => exact absurd rfl h
  | succ depth =>
    rw [insertIntoQuadrants_eq hfind hinserts]
    cases hresult : insertAt capacity (depth + 1) (b.setBoundary i) (quadrants i) last point pos with
    | error fault =>
      rw [hresult] at h
      exact h
    | ok r => exact nofun

theorem Sound.inserted (h : Sound capacity last b quadrant) (hpos : b.isInRectangleRange pos = true)
    (hcapacity : 0 < capacity) (hnew : point ∉ members quadrant) {r : Inserted A}
    (hr : QuadTree.insertAt capacity depth b quadrant last point pos = .ok r) : r.2.2 = true := by
  rcases h.insertAt hpos hcapacity hnew depth with hstopped | ⟨quadrant', hok, -⟩
  · rw [hstopped] at hr
    cases hr
  · obtain rfl := Except.ok.inj (hok.symm.trans hr)
    rfl

/-- Splitting a leaf ends before its rectangle is too small for two of the positions. -/
theorem Sound.exists_depth_of_narrow {w : ℚ} (hcapacity : 0 < capacity) (n : ℕ)
    (h : Sound capacity last b (.leaf vector)) (hpos : b.isInRectangleRange pos = true)
    (hnew : point ∉ vector) (hnarrow : b.Narrow (2 ^ n * w))
    (hapart : ∀ a ∈ vector, ∀ p ∈ last a, Apart w p pos) :
    ∃ depth, QuadTree.insertAt capacity depth b (.leaf vector) last point pos ≠ .error none := by
  induction n generalizing b vector with
  | zero =>
    rw [pow_zero, one_mul] at hnarrow
    have hnil : vector = [] := by
      refine List.eq_nil_iff_forall_not_mem.mpr fun a ha => ?_
      obtain ⟨p, hp, hin⟩ := h.2.2 a ha
      exact hnarrow.not_apart hin hpos (hapart a ha p hp)
    subst hnil
    refine ⟨1, ?_⟩
    rw [insertAt_room hpos hcapacity]
    exact nofun
  | succ n ih =>
    by_cases hroom : vector.length < capacity
    · refine ⟨1, ?_⟩
      rw [insertAt_room hpos hroom]
      exact nofun
    · obtain ⟨i, hi⟩ := exists_findQuadrant hpos
      have hin := isInRectangleRange_of_findQuadrant hi
      have hsound := (sound_splitted h i).1
      have hsub : ∀ a ∈ members (splitted last b vector i), a ∈ vector :=
        fun a ha => (List.mem_filter.mp ha).1
      have hnew' : point ∉ members (splitted last b vector i) := fun hmem => hnew (hsub point hmem)
      rw [pow_succ', mul_assoc] at hnarrow
      obtain ⟨depth, hdepth⟩ := ih hsound hin hnew' hnarrow.setBoundary
        fun a ha => hapart a (hsub a ha)
      refine ⟨depth + 1, ?_⟩
      rw [insertAt_full h hpos hcapacity hroom]
      exact exists_insertAt_split hpos hi hdepth fun r => hsound.inserted hin hcapacity hnew'

theorem Sound.exists_depth (h : Sound capacity last b quadrant) (hpos : b.isInRectangleRange pos = true)
    (hcapacity : 0 < capacity) (hnew : point ∉ members quadrant)
    (hplace : ∀ a ∈ members quadrant, ∀ p ∈ last a, ¬ SamePlace p pos) :
    ∃ depth, QuadTree.insertAt capacity depth b quadrant last point pos ≠ .error none := by
  induction quadrant generalizing b with
  | leaf vector =>
    obtain ⟨w, hw, hapart⟩ := @exists_apart_all pos (vector.filterMap last) (by
      intro p hp
      obtain ⟨a, ha, hlast⟩ := List.mem_filterMap.mp hp
      exact hplace a ha p hlast)
    obtain ⟨n, hnarrow⟩ : ∃ n : ℕ, b.Narrow (2 ^ n * w) := exists_narrow hw
    exact h.exists_depth_of_narrow hcapacity n hpos hnew hnarrow
      fun a ha p hp => hapart p (List.mem_filterMap.mpr ⟨a, ha, hp⟩)
  | split quadrants ih =>
    obtain ⟨i, hi⟩ := exists_findQuadrant hpos
    have hin := isInRectangleRange_of_findQuadrant hi
    have hsub : ∀ a ∈ members (quadrants i), a ∈ members (.split quadrants) :=
      fun a ha => mem_members_split.mpr ⟨i, ha⟩
    have hnew' : point ∉ members (quadrants i) := fun hmem => hnew (hsub point hmem)
    obtain ⟨depth, hdepth⟩ := ih i (h i).1 hin hnew' fun a ha => hplace a (hsub a ha)
    exact ⟨depth + 1, exists_insertAt_split hpos hi hdepth fun r => (h i).1.inserted hin hcapacity hnew'⟩

end InsertAt

end QuadTree

end inet
