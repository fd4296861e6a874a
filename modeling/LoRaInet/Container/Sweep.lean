import LoRaInet.Container.OrderedMap
import Mathlib.Algebra.BigOperators.Group.List.Basic
import Mathlib.Algebra.Order.Group.Defs
import Mathlib.Data.Finset.Max
import Mathlib.Order.Interval.Set.Basic
import Mathlib.Tactic.Abel

namespace container

section Changes

variable {T K : Type} [LinearOrder T] [AddCommGroup K] (m : OrderedMap T K)

/-- A change at a time, added to the one that is there if there is one. -/
def OrderedMap.add (t : T) (x : K) : OrderedMap T K :=
  match m.lookup t with
  | some y => m.assign t (y + x)
  | none => m.assign t x

variable (changes : List (T × K))

/-- The sum of all changes up to a time. -/
def level (t : T) : K := ((changes.filter (·.1 ≤ t)).map (·.2)).sum

theorem level_cons (a : T × K) (changes : List (T × K)) (t : T) :
    level (a :: changes) t = (if a.1 ≤ t then a.2 else 0) + level changes t := by
  unfold level
  by_cases ha : a.1 ≤ t
  · simp [ha]
  · simp [ha]

theorem level_eq_zero {changes : List (T × K)} {t : T} (h : ∀ a ∈ changes, t < a.1) : level changes t = 0 := by
  have hnil : changes.filter (·.1 ≤ t) = [] := by
    apply List.filter_eq_nil_iff.mpr
    intro a ha
    simpa using h a ha
  rw [level, hnil]
  rfl

open OrderedMap

theorem level_put (k t : T) (x : K) {changes : List (T × K)} (h : Ascending Prod.fst changes) :
    level (put k x changes) t =
      level changes t + if k ≤ t then x - ((changes.find? (·.1 = k)).map (·.2)).getD 0 else 0 := by
  induction changes with
  | nil => simp [put, level_cons, add_comm]
  | cons a rest ih =>
    obtain ⟨hall, hrest⟩ := List.pairwise_cons.mp h
    unfold put
    split
    · next hlt =>
      have hnone : (a :: rest).find? (·.1 = k) = none := by
        apply List.find?_eq_none.mpr
        intro b hb
        rcases List.mem_cons.mp hb with rfl | hb
        · simpa using hlt.ne'
        · simpa using (hlt.trans (hall b hb)).ne'
      rw [level_cons, hnone, add_comm]
      simp
    · split
      · next heq =>
        rw [level_cons, level_cons, List.find?_cons_of_pos (by simpa using heq.symm), heq]
        split
        · simp only [Option.map_some, Option.getD_some]
          abel
        · abel
      · next hne =>
        rw [level_cons, level_cons, ih hrest, List.find?_cons_of_neg (by simpa using Ne.symm hne)]
        exact (add_assoc _ _ _).symm

theorem level_add (k t : T) (x : K) :
    level (m.add k x).entries t = level m.entries t + if k ≤ t then x else 0 := by
  unfold add
  cases hlookup : m.lookup k with
  | none =>
    unfold lookup at hlookup
    simp only [assign, level_put k t _ m.ascending, hlookup, Option.getD_none, sub_zero]
  | some y =>
    unfold lookup at hlookup
    simp only [assign, level_put k t _ m.ascending, hlookup, Option.getD_some, add_sub_cancel_left]

theorem level_eq_of_last {changes : List (T × K)} {s t : T} (h : ∃ a ∈ changes, s ≤ a.1 ∧ a.1 ≤ t) :
    ∃ a ∈ changes, s ≤ a.1 ∧ a.1 ≤ t ∧ level changes t = level changes a.1 := by
  obtain ⟨b, hb, hsb, hbt⟩ := h
  have hne : ((changes.filter (·.1 ≤ t)).map (·.1)).toFinset.Nonempty :=
    ⟨b.1, by simpa using ⟨⟨b.2, hb⟩, hbt⟩⟩
  obtain ⟨k, hk, hmax⟩ := Finset.exists_max_image _ id hne
  simp only [List.mem_toFinset, List.mem_map, List.mem_filter, decide_eq_true_eq, id] at hk hmax
  obtain ⟨a, ⟨ha, hat⟩, rfl⟩ := hk
  refine ⟨a, ha, hsb.trans (hmax b.1 ⟨b, ⟨hb, hbt⟩, rfl⟩), hat, ?_⟩
  unfold level
  congr 2
  apply List.filter_congr
  intro c hc
  rw [decide_eq_decide]
  exact ⟨fun hct => hmax c.1 ⟨c, ⟨hc, hct⟩, rfl⟩, fun hca => hca.trans hat⟩

theorem OrderedMap.lookup_add_isSome (k j : T) (x : K) :
    ((m.add k x).lookup j).isSome = true ↔ j = k ∨ (m.lookup j).isSome = true := by
  unfold add
  split
  · rw [lookup_assign]
    by_cases hj : j = k
    · simp [hj]
    · simp [hj]
  · rw [lookup_assign]
    by_cases hj : j = k
    · simp [hj]
    · simp [hj]

theorem OrderedMap.exists_entry {m : OrderedMap T K} {k : T} (h : (m.lookup k).isSome = true) :
    ∃ a ∈ m.entries, a.1 = k := by
  obtain ⟨x, hx⟩ := Option.isSome_iff_exists.mp h
  exact ⟨(k, x), mem_entries_iff.mpr hx, rfl⟩

/-- All changes of a list added. -/
def OrderedMap.addAll : OrderedMap T K :=
  changes.foldl (fun m change => m.add change.1 change.2) m

theorem level_addAll (t : T) :
    level (m.addAll changes).entries t = level m.entries t + level changes t := by
  induction changes generalizing m with
  | nil => simp [addAll, level]
  | cons a changes ih =>
    have hnext := ih (m.add a.1 a.2)
    rw [level_add] at hnext
    rw [level_cons, ← add_assoc]
    exact hnext

theorem OrderedMap.lookup_addAll {m : OrderedMap T K} {changes : List (T × K)} {a : T × K} (ha : a ∈ changes) :
    ((m.addAll changes).lookup a.1).isSome = true := by
  have hkeep : ∀ (changes : List (T × K)) (m : OrderedMap T K), (m.lookup a.1).isSome = true →
      ((m.addAll changes).lookup a.1).isSome = true := by
    intro changes
    induction changes with
    | nil => exact fun m h => h
    | cons b changes ih => exact fun m h => ih _ ((m.lookup_add_isSome b.1 a.1 b.2).mpr (.inr h))
  induction changes generalizing m with
  | nil => cases ha
  | cons b changes ih =>
    rcases List.mem_cons.mp ha with rfl | ha
    · exact hkeep changes _ ((m.lookup_add_isSome a.1 a.1 a.2).mpr (.inl rfl))
    · exact ih ha

end Changes

section Peak

variable {T K : Type} [LinearOrder T] [AddCommGroup K] [LinearOrder K]

/-- The largest sum that is reached at a change within the given times, or `largest`. -/
def peak (startTime endTime : T) : K → K → List (T × K) → K
  | _, largest, [] => largest
  | sum, largest, a :: changes =>
    let sum := sum + a.2
    peak startTime endTime sum (if sum > largest ∧ startTime ≤ a.1 ∧ a.1 ≤ endTime then sum else largest) changes

variable {s e : T} {changes : List (T × K)}

theorem peak_spec (h : Ascending Prod.fst changes) (sum largest : K) :
    largest ≤ peak s e sum largest changes ∧
      (∀ a ∈ changes, s ≤ a.1 → a.1 ≤ e → sum + level changes a.1 ≤ peak s e sum largest changes) ∧
      (peak s e sum largest changes = largest ∨
        ∃ a ∈ changes, s ≤ a.1 ∧ a.1 ≤ e ∧ peak s e sum largest changes = sum + level changes a.1) := by
  induction changes generalizing sum largest with
  | nil => exact ⟨le_rfl, nofun, .inl rfl⟩
  | cons b rest ih =>
    obtain ⟨hall, hrest⟩ := List.pairwise_cons.mp h
    have hhead : sum + level (b :: rest) b.1 = sum + b.2 := by
      rw [level_cons, if_pos le_rfl, level_eq_zero hall, add_zero]
    have htail : ∀ a ∈ rest, sum + level (b :: rest) a.1 = sum + b.2 + level rest a.1 := by
      intro a ha
      rw [level_cons, if_pos (hall a ha).le, add_assoc]
    unfold peak
    obtain ⟨hle, hbound, hreached⟩ :=
      ih hrest (sum + b.2) (if sum + b.2 > largest ∧ s ≤ b.1 ∧ b.1 ≤ e then sum + b.2 else largest)
    generalize peak s e (sum + b.2) _ rest = result at hle hbound hreached ⊢
    have hlargest : largest ≤ if sum + b.2 > largest ∧ s ≤ b.1 ∧ b.1 ≤ e then sum + b.2 else largest := by
      split
      · next hlt => exact hlt.1.le
      · exact le_rfl
    refine ⟨hlargest.trans hle, fun a ha hs he => ?_, ?_⟩
    · rcases List.mem_cons.mp ha with rfl | ha
      · rw [hhead]
        apply le_trans _ hle
        by_cases hlt : sum + a.2 > largest
        · rw [if_pos ⟨hlt, hs, he⟩]
        · rw [if_neg fun hcond => hlt hcond.1]
          exact not_lt.mp hlt
      · rw [htail a ha]
        exact hbound a ha hs he
    · rcases hreached with hreached | ⟨a, ha, hs, he, hreached⟩
      · split at hreached
        · next hcond => exact .inr ⟨b, (.head _), hcond.2.1, hcond.2.2, hreached.trans hhead.symm⟩
        · exact .inl hreached
      · exact .inr ⟨a, List.mem_cons_of_mem b ha, hs, he, hreached.trans (htail a ha).symm⟩

/-- The sweep finds the largest level in an interval that begins with a change. -/
theorem isGreatest_peak (h : Ascending Prod.fst changes) (hstart : ∃ a ∈ changes, a.1 = s) (hle : s ≤ e)
    (hnonneg : ∀ t, s ≤ t → t ≤ e → 0 ≤ level changes t) :
    IsGreatest (Set.image (level changes) (Set.Icc s e)) (peak s e 0 0 changes) := by
  obtain ⟨hzero, hbound, hreached⟩ := peak_spec h (0 : K) 0 (s := s) (e := e)
  obtain ⟨first, hfirst, rfl⟩ := hstart
  simp only [zero_add] at hbound hreached
  constructor
  · rcases hreached with hreached | ⟨a, ha, hs, he, hreached⟩
    · refine ⟨first.1, ⟨le_rfl, hle⟩, ?_⟩
      have hlast := hbound first hfirst le_rfl hle
      rw [hreached] at hlast ⊢
      exact le_antisymm hlast (hnonneg first.1 le_rfl hle)
    · exact ⟨a.1, ⟨hs, he⟩, hreached.symm⟩
  · rintro x ⟨t, ⟨hs, he⟩, rfl⟩
    obtain ⟨a, ha, hsa, hat, heq⟩ := level_eq_of_last ⟨first, hfirst, le_rfl, hs⟩
    rw [heq]
    exact hbound a ha hsa (hat.trans he)

end Peak

end container
