import Mathlib.Data.List.Nodup
import Mathlib.Logic.Function.Basic
import Mathlib.Order.Bounds.Basic

namespace graph

variable {V : Type} {edge : V → V → ℕ → Prop} {root : V}

/-- A walk from the root over edges with costs, with the sum of the costs. -/
inductive Walk (edge : V → V → ℕ → Prop) (root : V) : V → ℕ → Prop
  | root : Walk edge root root 0
  | step {u v : V} {c w : ℕ} : Walk edge root u c → edge u v w → Walk edge root v (c + w)

def Reachable (edge : V → V → ℕ → Prop) (root v : V) : Prop := ∃ c, Walk edge root v c

/-- The smallest cost of a walk. -/
def Distance (edge : V → V → ℕ → Prop) (root v : V) (d : ℕ) : Prop :=
  IsLeast {c | Walk edge root v c} d

theorem distance_root : Distance edge root root 0 := ⟨.root, fun _ _ => Nat.zero_le _⟩

/-- A search that grows a tree: what is on it, what may come next, and the best costs so far. -/
structure Search (V : Type) where
  tree : List V
  candidates : List V
  distance : V → ℕ

namespace Search

variable [DecidableEq V]

/-- An edge from a vertex of the tree to another vertex. -/
def join (u : V) (s : Search V) (e : V × ℕ) : Search V :=
  if e.1 ∈ s.tree then s
  else if e.1 ∈ s.candidates then
    if s.distance u + e.2 < s.distance e.1 then
      { s with distance := Function.update s.distance e.1 (s.distance u + e.2) }
    else s
  else
    { s with
      candidates := s.candidates ++ [e.1]
      distance := Function.update s.distance e.1 (s.distance u + e.2) }

def expand (edges : List (V × ℕ)) (u : V) (s : Search V) : Search V := edges.foldl (join u) s

/-- A candidate is put on the tree. -/
def settle (v : V) (s : Search V) : Search V :=
  { s with
    tree := s.tree ++ [v]
    candidates := s.candidates.erase v }

/-- The costs on the tree are distances, and those of the candidates belong to walks. -/
structure Valid (edge : V → V → ℕ → Prop) (root : V) (s : Search V) : Prop where
  root_mem : root ∈ s.tree
  tree_nodup : s.tree.Nodup
  candidates_nodup : s.candidates.Nodup
  disjoint : ∀ v ∈ s.candidates, v ∉ s.tree
  settled : ∀ v ∈ s.tree, Distance edge root v (s.distance v)
  reached : ∀ v ∈ s.candidates, Walk edge root v (s.distance v)

/-- The edge has been taken into account. -/
def Joined (s : Search V) (u : V) (e : V × ℕ) : Prop :=
  e.1 ∈ s.tree ∨ e.1 ∈ s.candidates ∧ s.distance e.1 ≤ s.distance u + e.2

def Expanded (edge : V → V → ℕ → Prop) (s : Search V) (u : V) : Prop :=
  ∀ v w, edge u v w → s.Joined u (v, w)

section Join

variable {s : Search V} {u v : V} {e : V × ℕ}

theorem join_cases (u : V) (s : Search V) (e : V × ℕ) : (e.1 ∈ s.tree ∧ join u s e = s) ∨
    (e.1 ∉ s.tree ∧ e.1 ∈ s.candidates ∧ s.distance e.1 ≤ s.distance u + e.2 ∧ join u s e = s) ∨
    (e.1 ∉ s.tree ∧ e.1 ∈ s.candidates ∧ s.distance u + e.2 < s.distance e.1 ∧
      join u s e = { s with distance := Function.update s.distance e.1 (s.distance u + e.2) }) ∨
    (e.1 ∉ s.tree ∧ e.1 ∉ s.candidates ∧ join u s e = { s with
        candidates := s.candidates ++ [e.1]
        distance := Function.update s.distance e.1 (s.distance u + e.2) }) := by
  by_cases htree : e.1 ∈ s.tree
  · exact .inl ⟨htree, if_pos htree⟩
  · by_cases hcandidate : e.1 ∈ s.candidates
    · by_cases hless : s.distance u + e.2 < s.distance e.1
      · refine .inr (.inr (.inl ⟨htree, hcandidate, hless, ?_⟩))
        rw [join, if_neg htree, if_pos hcandidate, if_pos hless]
      · refine .inr (.inl ⟨htree, hcandidate, Nat.le_of_not_lt hless, ?_⟩)
        rw [join, if_neg htree, if_pos hcandidate, if_neg hless]
    · refine .inr (.inr (.inr ⟨htree, hcandidate, ?_⟩))
      rw [join, if_neg htree, if_neg hcandidate]

theorem join_tree (u : V) (s : Search V) (e : V × ℕ) : (join u s e).tree = s.tree := by
  obtain ⟨-, heq⟩ | ⟨-, -, -, heq⟩ | ⟨-, -, -, heq⟩ | ⟨-, -, heq⟩ := join_cases u s e <;> rw [heq]

theorem join_distance (hv : v ∈ s.tree) : (join u s e).distance v = s.distance v := by
  obtain ⟨-, heq⟩ | ⟨-, -, -, heq⟩ | ⟨htree, -, -, heq⟩ | ⟨htree, -, heq⟩ := join_cases u s e
  · rw [heq]
  · rw [heq]
  · have hne : v ≠ e.1 := fun h => htree (h ▸ hv)
    rw [heq]
    exact Function.update_of_ne hne _ _
  · have hne : v ≠ e.1 := fun h => htree (h ▸ hv)
    rw [heq]
    exact Function.update_of_ne hne _ _

theorem join_candidate (hv : v ∈ s.candidates) :
    v ∈ (join u s e).candidates ∧ (join u s e).distance v ≤ s.distance v := by
  obtain ⟨-, heq⟩ | ⟨-, -, -, heq⟩ | ⟨-, -, hless, heq⟩ | ⟨-, hcandidate, heq⟩ := join_cases u s e
  · rw [heq]
    exact ⟨hv, le_rfl⟩
  · rw [heq]
    exact ⟨hv, le_rfl⟩
  · rw [heq]
    refine ⟨hv, ?_⟩
    change Function.update s.distance e.1 (s.distance u + e.2) v ≤ s.distance v
    by_cases hsame : v = e.1
    · subst hsame
      rw [Function.update_self]
      exact hless.le
    · rw [Function.update_of_ne hsame]
  · rw [heq]
    have hne : v ≠ e.1 := fun h => hcandidate (h ▸ hv)
    exact ⟨List.mem_append_left _ hv, le_of_eq (Function.update_of_ne hne _ _)⟩

theorem Joined.join {x : V} {d : V × ℕ} (h : s.Joined x d) (hx : x ∈ s.tree) (u : V) (e : V × ℕ) :
    (Search.join u s e).Joined x d := by
  obtain htree | ⟨hcandidate, hle⟩ := h
  · exact .inl ((join_tree u s e).symm ▸ htree)
  · obtain ⟨hstays, hcloser⟩ := join_candidate (u := u) (e := e) hcandidate
    refine .inr ⟨hstays, ?_⟩
    rw [join_distance hx]
    exact hcloser.trans hle

theorem joined_join (hu : u ∈ s.tree) (e : V × ℕ) : (join u s e).Joined u e := by
  rw [Joined, join_distance hu, join_tree]
  obtain ⟨htree, -⟩ | ⟨-, hcandidate, hle, heq⟩ | ⟨-, hcandidate, -, heq⟩ | ⟨-, -, heq⟩ :=
    join_cases u s e
  · exact .inl htree
  · rw [heq]
    exact .inr ⟨hcandidate, hle⟩
  · rw [heq]
    exact .inr ⟨hcandidate, (Function.update_self _ _ _).le⟩
  · rw [heq]
    exact .inr ⟨List.mem_append_right _ (List.mem_singleton.mpr rfl),
      (Function.update_self _ _ _).le⟩

theorem walk_update {f : V → ℕ} {x v : V} {d : ℕ} (hx : Walk edge root x d)
    (hv : v ≠ x → Walk edge root v (f v)) : Walk edge root v (Function.update f x d v) := by
  by_cases hsame : v = x
  · subst hsame
    rwa [Function.update_self]
  · rw [Function.update_of_ne hsame]
    exact hv hsame

theorem Valid.join (h : s.Valid edge root) (hu : u ∈ s.tree) (he : edge u e.1 e.2) :
    (Search.join u s e).Valid edge root := by
  have hwalk : Walk edge root e.1 (s.distance u + e.2) := .step (h.settled u hu).1 he
  have hsettled : ∀ v ∈ (Search.join u s e).tree,
      Distance edge root v ((Search.join u s e).distance v) := by
    intro v hv
    rw [join_tree] at hv
    rw [join_distance hv]
    exact h.settled v hv
  obtain ⟨-, heq⟩ | ⟨-, -, -, heq⟩ | ⟨htree, hcandidate, -, heq⟩ | ⟨htree, hcandidate, heq⟩ :=
    join_cases u s e
  · rwa [heq]
  · rwa [heq]
  · refine ⟨join_tree u s e ▸ h.root_mem, join_tree u s e ▸ h.tree_nodup, ?_, ?_, hsettled, ?_⟩
    · rw [heq]
      exact h.candidates_nodup
    · rw [heq]
      exact h.disjoint
    · rw [heq]
      intro v hv
      exact walk_update hwalk fun _ => h.reached v hv
  · refine ⟨join_tree u s e ▸ h.root_mem, join_tree u s e ▸ h.tree_nodup, ?_, ?_, hsettled, ?_⟩
    · rw [heq]
      refine h.candidates_nodup.append (List.nodup_singleton _) ?_
      intro v hv hsame
      obtain rfl := List.mem_singleton.mp hsame
      exact hcandidate hv
    · rw [heq]
      intro v hv
      obtain hv | hv := List.mem_append.mp hv
      · exact h.disjoint v hv
      · obtain rfl := List.mem_singleton.mp hv
        exact htree
    · rw [heq]
      intro v hv
      obtain hv | hv := List.mem_append.mp hv
      · exact walk_update hwalk fun _ => h.reached v hv
      · exact walk_update hwalk fun hne => absurd (List.mem_singleton.mp hv) hne

end Join

section Expand

variable {s : Search V} {u : V}

theorem foldl_join {edges : List (V × ℕ)} (h : s.Valid edge root) (hu : u ∈ s.tree)
    (hedges : ∀ e ∈ edges, edge u e.1 e.2) :
    (edges.foldl (join u) s).Valid edge root ∧ (edges.foldl (join u) s).tree = s.tree ∧
      (∀ v ∈ s.tree, (edges.foldl (join u) s).distance v = s.distance v) ∧
      (∀ e ∈ edges, (edges.foldl (join u) s).Joined u e) ∧
      ∀ x ∈ s.tree, ∀ d, s.Joined x d → (edges.foldl (join u) s).Joined x d := by
  induction edges generalizing s with
  | nil =>
    exact ⟨h, rfl, fun _ _ => rfl, List.forall_mem_nil _, fun _ _ _ hjoined => hjoined⟩
  | cons e edges ih =>
    have he := hedges e (.head _)
    have htree := join_tree u s e
    have hu' : u ∈ (join u s e).tree := htree ▸ hu
    obtain ⟨hvalid, hsame, hdistance, hedges', hkept⟩ :=
      ih (h.join hu he) hu' fun e' he' => hedges e' (List.mem_cons_of_mem e he')
    rw [htree] at hsame hdistance hkept
    refine ⟨hvalid, hsame, fun v hv => ?_, ?_, fun x hx d hd => ?_⟩
    · exact (hdistance v hv).trans (join_distance hv)
    · exact List.forall_mem_cons.mpr ⟨hkept u hu e (joined_join hu e), hedges'⟩
    · exact hkept x hx d (hd.join hx u e)

section

variable {edges : List (V × ℕ)} (h : s.Valid edge root) (hu : u ∈ s.tree)
  (hedges : ∀ v w, (v, w) ∈ edges ↔ edge u v w)

include h hu hedges

theorem Valid.expand : (s.expand edges u).Valid edge root :=
  (foldl_join h hu fun e he => (hedges e.1 e.2).mp he).1

theorem expand_tree : (s.expand edges u).tree = s.tree :=
  (foldl_join h hu fun e he => (hedges e.1 e.2).mp he).2.1

theorem expanded_expand : (s.expand edges u).Expanded edge u := by
  intro v w hedge
  exact (foldl_join h hu fun e he => (hedges e.1 e.2).mp he).2.2.2.1 (v, w) ((hedges v w).mpr hedge)

theorem Expanded.expand {x : V} (hexpanded : s.Expanded edge x) (hx : x ∈ s.tree) :
    (s.expand edges u).Expanded edge x := by
  intro v w hedge
  exact (foldl_join h hu fun e he => (hedges e.1 e.2).mp he).2.2.2.2 x hx (v, w)
    (hexpanded v w hedge)

end

end Expand

section Settle

variable {s : Search V} {v : V}

theorem exists_candidate_le (h : s.Valid edge root) (hexpanded : ∀ u ∈ s.tree, s.Expanded edge u)
    {c : ℕ} (hwalk : Walk edge root v c) (hv : v ∉ s.tree) :
    ∃ y ∈ s.candidates, s.distance y ≤ c := by
  induction hwalk with
  | root => exact absurd h.root_mem hv
  | @step u v c w hwalk he ih =>
    by_cases hu : u ∈ s.tree
    · obtain htree | ⟨hcandidate, hle⟩ := hexpanded u hu v w he
      · exact absurd htree hv
      · have hleast : s.distance u ≤ c := (h.settled u hu).2 hwalk
        exact ⟨v, hcandidate, hle.trans (Nat.add_le_add_right hleast w)⟩
    · obtain ⟨y, hy, hle⟩ := ih hu
      exact ⟨y, hy, hle.trans (Nat.le_add_right c w)⟩

theorem Valid.settle (h : s.Valid edge root) (hexpanded : ∀ u ∈ s.tree, s.Expanded edge u)
    (hv : v ∈ s.candidates) (hclosest : ∀ y ∈ s.candidates, s.distance v ≤ s.distance y) :
    (s.settle v).Valid edge root := by
  have hout : v ∉ s.tree := h.disjoint v hv
  have hmem : ∀ {y}, y ∈ s.candidates.erase v ↔ y ≠ v ∧ y ∈ s.candidates :=
    h.candidates_nodup.mem_erase_iff
  refine ⟨List.mem_append_left _ h.root_mem, ?_, h.candidates_nodup.erase v, ?_, ?_, ?_⟩
  · refine h.tree_nodup.append (List.nodup_singleton v) ?_
    intro y hy hsame
    obtain rfl := List.mem_singleton.mp hsame
    exact hout hy
  · intro y hy htree
    obtain ⟨hne, hy⟩ := hmem.mp hy
    obtain htree | hsame := List.mem_append.mp htree
    · exact h.disjoint y hy htree
    · exact hne (List.mem_singleton.mp hsame)
  · intro y hy
    obtain hy | hsame := List.mem_append.mp hy
    · exact h.settled y hy
    · obtain rfl := List.mem_singleton.mp hsame
      refine ⟨h.reached y hv, fun c hwalk => ?_⟩
      obtain ⟨z, hz, hle⟩ := exists_candidate_le h hexpanded hwalk hout
      exact (hclosest z hz).trans hle
  · intro y hy
    exact h.reached y (hmem.mp hy).2

theorem Expanded.settle {u : V} (hexpanded : s.Expanded edge u) (h : s.Valid edge root) :
    (s.settle v).Expanded edge u := by
  intro y w he
  obtain htree | ⟨hcandidate, hle⟩ := hexpanded y w he
  · exact .inl (List.mem_append_left _ htree)
  · by_cases hsame : y = v
    · exact .inl (List.mem_append_right _ (List.mem_singleton.mpr hsame))
    · exact .inr ⟨h.candidates_nodup.mem_erase_iff.mpr ⟨hsame, hcandidate⟩, hle⟩

theorem mem_tree_iff (h : s.Valid edge root) (hexpanded : ∀ u ∈ s.tree, s.Expanded edge u)
    (hnone : s.candidates = []) : v ∈ s.tree ↔ Reachable edge root v := by
  constructor
  · exact fun hv => ⟨_, (h.settled v hv).1⟩
  · rintro ⟨c, hwalk⟩
    by_contra hv
    obtain ⟨y, hy, -⟩ := exists_candidate_le h hexpanded hwalk hv
    rw [hnone] at hy
    cases hy

end Settle

end Search

end graph
