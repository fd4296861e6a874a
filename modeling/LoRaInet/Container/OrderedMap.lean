import Mathlib.Data.List.Sort

namespace container

section Threshold

variable {A : Type} {p : A → Bool} {l : List A}

theorem threshold_eq_filter (h : l.Pairwise fun a b => p b → p a) :
    l.takeWhile p = l.filter p ∧ l.dropWhile p = l.filter (fun a => !p a) := by
  induction h with
  | nil => exact ⟨rfl, rfl⟩
  | @cons a l hall _ ih =>
    cases ha : p a with
    | true => simp [ha, ih]
    | false =>
      have hnone : ∀ b ∈ l, p b = false := fun b hb => by simpa [ha] using hall b hb
      simp [ha, List.filter_congr (q := fun _ => false) hnone, List.filter_congr fun b hb => congrArg (!·) (hnone b hb)]

theorem rdropWhile_eq_filter (h : l.Pairwise fun a b => p a → p b) :
    (l.reverse.dropWhile p).reverse = l.filter (fun a => !p a) := by
  rw [(threshold_eq_filter (List.pairwise_reverse.mpr h)).2, List.filter_reverse, List.reverse_reverse]

end Threshold

section Keyed

variable {A K : Type} [LinearOrder K] (key : A → K)

/-- The keys go up. -/
def Ascending (l : List A) : Prop := l.Pairwise fun a b => key a < key b

variable {key} {l m : List A}

theorem Ascending.filter (h : Ascending key l) (p : A → Bool) : Ascending key (l.filter p) :=
  List.Pairwise.filter p h

theorem Ascending.ext (hl : Ascending key l) (hm : Ascending key m) (h : ∀ a, a ∈ l ↔ a ∈ m) :
    l = m := by
  have : Std.Antisymm fun a b : A => key a < key b := ⟨fun _ _ hab hba => absurd hab hba.asymm⟩
  have : Std.Irrefl fun a b : A => key a < key b := ⟨fun _ => lt_irrefl _⟩
  exact List.Pairwise.eq_of_mem_iff hl hm h

theorem Ascending.eq_of_key_eq (h : Ascending key l) {a b : A} (ha : a ∈ l) (hb : b ∈ l)
    (heq : key a = key b) : a = b := by
  have hnodup : (l.map key).Nodup := List.pairwise_map.mpr (h.imp fun hab => hab.ne)
  exact List.inj_on_of_nodup_map hnodup ha hb heq

theorem Ascending.pairwise_of_iff (h : Ascending key l) {p : A → Bool} {k : K}
    (hp : ∀ a ∈ l, p a = true ↔ key a ≤ k) : l.Pairwise fun a b => p b → p a := by
  apply List.Pairwise.imp_of_mem _ h
  intro a b ha hb hab hpb
  exact (hp a ha).mpr (hab.le.trans ((hp b hb).mp hpb))

theorem Ascending.split_map {B : Type} (h : Ascending key l) {f : A → B} {p : B → Bool} {k : K}
    (hp : ∀ a ∈ l, p (f a) = true ↔ key a ≤ k) :
    (l.map f).takeWhile p = (l.filter fun a => key a ≤ k).map f ∧
      (l.map f).dropWhile p = (l.filter fun a => k < key a).map f := by
  have hpair : l.Pairwise fun a b => (p ∘ f) b → (p ∘ f) a := h.pairwise_of_iff hp
  rw [List.takeWhile_map, List.dropWhile_map, (threshold_eq_filter hpair).1, (threshold_eq_filter hpair).2]
  refine ⟨congrArg _ (List.filter_congr fun a ha => ?_), congrArg _ (List.filter_congr fun a ha => ?_)⟩
  · rw [Bool.eq_iff_iff, decide_eq_true_eq]
    exact hp a ha
  · simp only [← not_le, decide_not, ← hp a ha, Bool.decide_eq_true]
    rfl

theorem Ascending.rdropWhile_map {B : Type} (h : Ascending key l) {f : A → B} {p : B → Bool} {k : K}
    (hp : ∀ a ∈ l, p (f a) = true ↔ k < key a) :
    ((l.map f).reverse.dropWhile p).reverse = (l.filter fun a => key a ≤ k).map f := by
  have hpair : l.Pairwise fun a b => p (f a) → p (f b) := by
    apply List.Pairwise.imp_of_mem _ h
    intro a b ha hb hab hpa
    exact (hp b hb).mpr (lt_trans ((hp a ha).mp hpa) hab)
  rw [rdropWhile_eq_filter (List.pairwise_map.mpr hpair), List.filter_map]
  refine congrArg _ (List.filter_congr fun a ha => ?_)
  simp only [← not_lt, decide_not, ← hp a ha, Bool.decide_eq_true]
  rfl

theorem Ascending.filter_le (h : Ascending key l) {j k : K} (hjk : j ≤ k) :
    l.filter (fun a => key a ≤ k) =
      l.filter (fun a => key a ≤ j) ++ l.filter (fun a => j < key a ∧ key a ≤ k) := by
  apply (h.filter _).ext
  · refine List.pairwise_append.mpr ⟨h.filter _, h.filter _, ?_⟩
    intro a ha b hb
    have hka : key a ≤ j := by simpa using (List.mem_filter.mp ha).2
    have hkb : j < key b ∧ key b ≤ k := by simpa using (List.mem_filter.mp hb).2
    exact lt_of_le_of_lt hka hkb.1
  · intro a
    simp only [List.mem_append, List.mem_filter, decide_eq_true_eq]
    constructor
    · rintro ⟨ha, hk⟩
      cases le_or_gt (key a) j with
      | inl hj => exact .inl ⟨ha, hj⟩
      | inr hj => exact .inr ⟨ha, hj, hk⟩
    · rintro (⟨ha, hj⟩ | ⟨ha, -, hk⟩)
      · exact ⟨ha, hj.trans hjk⟩
      · exact ⟨ha, hk⟩

theorem Ascending.filter_append (h : Ascending key l) (k : K) :
    l.filter (fun a => key a ≤ k) ++ l.filter (fun a => k < key a) = l := by
  have hpair : l.Pairwise fun a b => decide (key b ≤ k) = true → decide (key a ≤ k) = true :=
    h.pairwise_of_iff fun a _ => decide_eq_true_iff
  have hnot : ∀ a, (!decide (key a ≤ k)) = decide (k < key a) := fun a => by
    rw [← decide_not, decide_eq_decide, not_le]
  have hparts := List.takeWhile_append_dropWhile (p := fun a => decide (key a ≤ k)) (l := l)
  rw [(threshold_eq_filter hpair).1, (threshold_eq_filter hpair).2] at hparts
  simpa only [hnot] using hparts

theorem Ascending.exists_head_getLast (h : Ascending key l) {a : A} (ha : a ∈ l) :
    ∃ front back, l.head? = some front ∧ l.getLast? = some back ∧ front ∈ l ∧ back ∈ l ∧
      key front ≤ key back := by
  cases l with
  | nil => simp at ha
  | cons front rest =>
    obtain ⟨hfront, -⟩ := List.pairwise_cons.mp h
    cases hlast : rest.getLast? with
    | none =>
      refine ⟨front, front, rfl, ?_, (.head _), (.head _), le_refl _⟩
      rw [List.getLast?_cons, hlast]
      rfl
    | some back =>
      have hback := List.mem_of_getLast? hlast
      refine ⟨front, back, rfl, ?_, (.head _), List.mem_cons_of_mem front hback,
        (hfront back hback).le⟩
      rw [List.getLast?_cons, hlast]
      rfl

end Keyed

/-- `std::map` in the order of its keys. -/
structure OrderedMap (K V : Type) [LinearOrder K] where
  entries : List (K × V)
  ascending : Ascending Prod.fst entries

namespace OrderedMap

variable {K V : Type} [LinearOrder K]

def empty : OrderedMap K V := ⟨[], List.Pairwise.nil⟩

variable (m : OrderedMap K V)

/-- The value that `find` comes to. -/
def lookup (k : K) : Option V := (m.entries.find? (·.1 = k)).map (·.2)

/-- An entry put at its place, or in place of the one with its key. -/
def put (k : K) (v : V) : List (K × V) → List (K × V)
  | [] => [(k, v)]
  | e :: rest =>
    if k < e.1 then (k, v) :: e :: rest
    else if k = e.1 then (k, v) :: rest
    else e :: put k v rest

theorem mem_put {k : K} {v : V} {e : K × V} {l : List (K × V)} (h : e ∈ put k v l) :
    e = (k, v) ∨ e ∈ l := by
  induction l with
  | nil => exact .inl (List.mem_singleton.mp h)
  | cons a rest ih =>
    rw [put] at h
    split at h
    · exact (List.mem_cons.mp h).imp id id
    · split at h
      · exact (List.mem_cons.mp h).imp id (List.mem_cons_of_mem a)
      · rcases List.mem_cons.mp h with rfl | h
        · exact .inr (.head _)
        · exact (ih h).imp id (List.mem_cons_of_mem a)

theorem ascending_put (k : K) (v : V) {l : List (K × V)} (h : Ascending Prod.fst l) :
    Ascending Prod.fst (put k v l) := by
  induction l with
  | nil => exact List.pairwise_singleton _ _
  | cons a rest ih =>
    obtain ⟨hall, hrest⟩ := List.pairwise_cons.mp h
    rw [put]
    split
    · next hlt =>
      refine List.pairwise_cons.mpr ⟨fun e he => ?_, h⟩
      rcases List.mem_cons.mp he with rfl | he
      · exact hlt
      · exact hlt.trans (hall e he)
    · next hlt =>
      split
      · next heq =>
        refine List.pairwise_cons.mpr ⟨fun e he => ?_, hrest⟩
        exact heq ▸ hall e he
      · next hne =>
        refine List.pairwise_cons.mpr ⟨fun e he => ?_, ih hrest⟩
        rcases mem_put he with rfl | he
        · exact lt_of_le_of_ne (not_lt.mp hlt) (Ne.symm hne)
        · exact hall e he

/-- An assignment through `operator[]`. -/
def assign (k : K) (v : V) : OrderedMap K V :=
  ⟨put k v m.entries, ascending_put k v m.ascending⟩

def erase (k : K) : OrderedMap K V :=
  ⟨m.entries.filter (·.1 ≠ k), m.ascending.filter _⟩

theorem mem_entries_iff {m : OrderedMap K V} {k : K} {v : V} :
    (k, v) ∈ m.entries ↔ m.lookup k = some v := by
  rw [lookup, Option.map_eq_some_iff]
  constructor
  · intro hmem
    have hsome : (m.entries.find? (·.1 = k)).isSome = true :=
      List.find?_isSome.mpr ⟨(k, v), hmem, by simp⟩
    obtain ⟨e, he⟩ := Option.isSome_iff_exists.mp hsome
    have hkey : e.1 = k := by simpa using List.find?_some he
    refine ⟨e, he, ?_⟩
    rw [m.ascending.eq_of_key_eq (List.mem_of_find?_eq_some he) hmem hkey]
  · rintro ⟨e, he, rfl⟩
    have hkey : e.1 = k := by simpa using List.find?_some he
    rw [← hkey]
    exact List.mem_of_find?_eq_some he

@[simp] theorem lookup_empty (k : K) : (empty : OrderedMap K V).lookup k = none := rfl

theorem find?_put (k j : K) (v : V) (l : List (K × V)) (h : Ascending Prod.fst l) :
    (put k v l).find? (·.1 = j) = if j = k then some (k, v) else l.find? (·.1 = j) := by
  induction l with
  | nil =>
    rw [put, List.find?_cons]
    by_cases hj : j = k
    · simp [hj]
    · simp [hj, Ne.symm hj]
  | cons a rest ih =>
    obtain ⟨hall, hrest⟩ := List.pairwise_cons.mp h
    rw [put]
    split
    · next hlt =>
      rw [List.find?_cons]
      by_cases hj : j = k
      · simp [hj]
      · simp [hj, Ne.symm hj]
    · next hlt =>
      split
      · next heq =>
        rw [List.find?_cons, List.find?_cons, heq]
        by_cases hj : j = a.1
        · simp [hj]
        · simp [hj, Ne.symm hj]
      · next hne =>
        rw [List.find?_cons, List.find?_cons, ih hrest]
        by_cases hj : j = k
        · simp [hj, Ne.symm hne]
        · simp [hj]

@[simp] theorem lookup_assign (k j : K) (v : V) :
    (m.assign k v).lookup j = if j = k then some v else m.lookup j := by
  rw [lookup, assign, find?_put k j v _ m.ascending, lookup]
  split <;> rfl

theorem lookup_eq_none_iff {m : OrderedMap K V} {k : K} :
    m.lookup k = none ↔ ∀ v, (k, v) ∉ m.entries := by
  simp only [mem_entries_iff]
  exact Option.eq_none_iff_forall_ne_some

theorem entries_eq_nil_iff {m : OrderedMap K V} : m.entries = [] ↔ ∀ k, m.lookup k = none := by
  rw [List.eq_nil_iff_forall_not_mem]
  constructor
  · exact fun h k => lookup_eq_none_iff.mpr fun v => h (k, v)
  · exact fun h e => lookup_eq_none_iff.mp (h e.1) e.2

end OrderedMap

end container
