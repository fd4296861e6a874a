import LoRaInet.Graph.ShortestPath
import Mathlib.Combinatorics.SimpleGraph.Acyclic
import Mathlib.Data.Prod.Lex
import Mathlib.SetTheory.Cardinal.Finite

namespace graph

variable {V : Type} {parent : V → Option V} {rank : V → ℕ} {root : V}

/-- Every vertex is joined to its parent. -/
def parentGraph (parent : V → Option V) : SimpleGraph V where
  Adj u v := u ≠ v ∧ (parent u = some v ∨ parent v = some u)
  symm := ⟨fun _ _ h => ⟨h.1.symm, h.2.symm⟩⟩
  loopless := ⟨fun _ h => h.1 rfl⟩

/-- Only the root has no parent, and the rank falls along the parents. -/
structure Rooted (parent : V → Option V) (rank : V → ℕ) (root : V) : Prop where
  parent_root : parent root = none
  exists_parent : ∀ v, v ≠ root → ∃ u, parent v = some u
  rank_lt : ∀ u v, parent v = some u → rank u < rank v

theorem Rooted.ne_root (h : Rooted parent rank root) {u v : V} (hparent : parent v = some u) :
    v ≠ root := by
  rintro rfl
  rw [h.parent_root] at hparent
  cases hparent

theorem Rooted.adj_parent (h : Rooted parent rank root) {u v : V} (hparent : parent v = some u) :
    (parentGraph parent).Adj v u := by
  refine ⟨?_, .inl hparent⟩
  rintro rfl
  exact absurd (h.rank_lt v v hparent) (lt_irrefl _)

theorem Rooted.reachable_root (h : Rooted parent rank root) (v : V) :
    (parentGraph parent).Reachable v root := by
  induction hrank : rank v using Nat.strong_induction_on generalizing v with
  | _ r ih =>
    by_cases hroot : v = root
    · rw [hroot]
    · obtain ⟨u, hparent⟩ := h.exists_parent v hroot
      have hlt := h.rank_lt u v hparent
      have hstep := (h.adj_parent hparent).reachable
      exact hstep.trans (ih (rank u) (hrank ▸ hlt) u rfl)

theorem Rooted.connected (h : Rooted parent rank root) : (parentGraph parent).Connected where
  preconnected u v := (h.reachable_root u).trans (h.reachable_root v).symm
  nonempty := ⟨root⟩

/-- The edge of a vertex other than the root. -/
noncomputable def Rooted.edge (h : Rooted parent rank root) (v : {v // v ≠ root}) :
    (parentGraph parent).edgeSet :=
  ⟨s(v.1, (h.exists_parent v.1 v.2).choose), h.adj_parent (h.exists_parent v.1 v.2).choose_spec⟩

theorem Rooted.edge_bijective (h : Rooted parent rank root) : Function.Bijective h.edge := by
  constructor
  · intro u v heq
    have hu := (h.exists_parent u.1 u.2).choose_spec
    have hv := (h.exists_parent v.1 v.2).choose_spec
    rcases Sym2.eq_iff.mp (congrArg Subtype.val heq) with ⟨hsame, -⟩ | ⟨hleft, hright⟩
    · exact Subtype.ext hsame
    · -- each would be the parent of the other
      have hdown := h.rank_lt _ _ hu
      have hup := h.rank_lt _ _ hv
      rw [← hleft] at hup
      rw [hright] at hdown
      exact absurd hup hdown.asymm
  · rintro ⟨e, he⟩
    induction e using Sym2.ind with
    | _ u v =>
      rcases he.2 with hparent | hparent
      · refine ⟨⟨u, h.ne_root hparent⟩, Subtype.ext ?_⟩
        have hchosen := (h.exists_parent u (h.ne_root hparent)).choose_spec
        change s(u, _) = s(u, v)
        rw [Option.some.inj (hchosen.symm.trans hparent)]
      · refine ⟨⟨v, h.ne_root hparent⟩, Subtype.ext ?_⟩
        have hchosen := (h.exists_parent v (h.ne_root hparent)).choose_spec
        change s(v, _) = s(u, v)
        rw [Option.some.inj (hchosen.symm.trans hparent), Sym2.eq_swap]

theorem Rooted.isTree [Finite V] (h : Rooted parent rank root) : (parentGraph parent).IsTree := by
  classical
  have := Fintype.ofFinite V
  rw [SimpleGraph.isTree_iff_connected_and_card]
  refine ⟨h.connected, ?_⟩
  rw [← Nat.card_eq_of_bijective h.edge h.edge_bijective, Nat.card_eq_fintype_card,
    Nat.card_eq_fintype_card, Fintype.card_subtype_compl, Fintype.card_subtype_eq]
  have hpos : 0 < Fintype.card V := Fintype.card_pos_iff.mpr ⟨root⟩
  omega

end graph

namespace graph

/-- Links with a cost between nodes, each given by its two ends. -/
structure Links (V P : Type) where
  owner : P → V
  peer : P → P
  cost : P → ℕ
  peer_peer : ∀ p, peer (peer p) = p
  cost_peer : ∀ p, cost (peer p) = cost p
  cost_pos : ∀ p, 0 < cost p

namespace Links

variable {V P : Type} (net : Links V P)

/-- The node at the other end. -/
def far (p : P) : V := net.owner (net.peer p)

@[simp] theorem far_peer (p : P) : net.far (net.peer p) = net.owner p := by
  rw [far, net.peer_peer]

def edge (u v : V) (w : ℕ) : Prop := ∃ p, net.owner p = u ∧ net.far p = v ∧ net.cost p = w

theorem edge_to_end (p : P) : net.edge (net.far p) (net.owner p) (net.cost p) :=
  ⟨net.peer p, rfl, net.far_peer p, net.cost_peer p⟩

def Connected : Prop := ∀ u v, Reachable net.edge u v

/-- The nodes that the chosen links join; a link is chosen at either of its ends. -/
def linkGraph (chosen : P → Prop) : SimpleGraph V where
  Adj u v := u ≠ v ∧ ∃ p, net.owner p = u ∧ net.far p = v ∧ (chosen p ∨ chosen (net.peer p))
  symm := ⟨by
    rintro u v ⟨hne, p, hu, hv, hchosen⟩
    refine ⟨hne.symm, net.peer p, hv, (net.far_peer p).trans hu, ?_⟩
    rw [net.peer_peer]
    exact hchosen.symm⟩
  loopless := ⟨fun _ h => h.1 rfl⟩

/-- The chosen links form a tree over all nodes, without parallel links. -/
structure SpanningTree (chosen : P → Prop) : Prop where
  isTree : (net.linkGraph chosen).IsTree
  unique : ∀ p q, chosen p ∨ chosen (net.peer p) → chosen q ∨ chosen (net.peer q) →
    net.owner p = net.owner q → net.far p = net.far q → p = q

end Links

/-- What the nodes and the ends of the links hold in an election of a root. -/
structure Election (V P R : Type) where
  id : V → R
  elected : V → Prop
  root : V → R
  distance : V → ℕ
  upward : P → Prop
  designated : P → Prop

namespace Election

variable {V P R : Type} [LinearOrder R] {net : Links V P} {e : Election V P R}

/-- The claim of a node: its root, and how far it is. -/
def claim (e : Election V P R) (v : V) (extra : ℕ) : R ×ₗ ℕ := toLex (e.root v, e.distance v + extra)

/-- What holds node by node and link by link once no message changes anything. -/
structure Settled (net : Links V P) (e : Election V P R) : Prop where
  elected_root : ∀ v, e.elected v → e.root v = e.id v
  elected_distance : ∀ v, e.elected v → e.distance v = 0
  elected_designated : ∀ p, e.elected (net.owner p) → e.designated p
  root_lt : ∀ v, ¬ e.elected v → e.root v < e.id v
  exists_upward : ∀ v, ¬ e.elected v → ∃ p, net.owner p = v ∧ e.upward p
  upward_unique : ∀ p q, e.upward p → e.upward q → net.owner p = net.owner q → p = q
  upward_not_designated : ∀ p, e.upward p → ¬ e.designated p
  upward_claim : ∀ p, e.upward p → e.claim (net.owner p) 0 = e.claim (net.far p) (net.cost p)
  designated_iff : ∀ p, e.designated p ↔ ¬ e.designated (net.peer p)
  near : ∀ p, ¬ e.designated p → e.claim (net.far p) 0 ≤ e.claim (net.owner p) 0
  best : ∀ p, ¬ e.designated p → e.claim (net.owner p) 0 ≤ e.claim (net.far p) (net.cost p)

theorem claim_le_iff {u v : V} {m n : ℕ} : e.claim u m ≤ e.claim v n ↔
    e.root u < e.root v ∨ e.root u = e.root v ∧ e.distance u + m ≤ e.distance v + n :=
  Prod.Lex.toLex_le_toLex

theorem root_le_of_claim_le {u v : V} {m n : ℕ} (h : e.claim u m ≤ e.claim v n) :
    e.root u ≤ e.root v := by
  rcases claim_le_iff.mp h with hlt | ⟨heq, -⟩
  · exact hlt.le
  · exact heq.le

theorem distance_le_of_claim_le {u v : V} {m n : ℕ} (h : e.claim u m ≤ e.claim v n)
    (hroot : e.root u = e.root v) : e.distance u + m ≤ e.distance v + n := by
  rcases claim_le_iff.mp h with hlt | ⟨-, hle⟩
  · exact absurd hroot hlt.ne
  · exact hle

namespace Settled

section

variable (h : Settled net e)
include h

theorem upward_distance {p : P} (hp : e.upward p) :
    e.distance (net.owner p) = e.distance (net.far p) + net.cost p :=
  congrArg (fun c => (ofLex c).2) (h.upward_claim p hp)

theorem root_eq_of_not_designated {p : P} (hp : ¬ e.designated p) :
    e.root (net.owner p) = e.root (net.far p) :=
  le_antisymm (root_le_of_claim_le (h.best p hp)) (root_le_of_claim_le (h.near p hp))

theorem not_designated_or (p : P) : ¬ e.designated p ∨ ¬ e.designated (net.peer p) := by
  by_cases hp : e.designated p
  · exact .inr ((h.designated_iff p).mp hp)
  · exact .inl hp

theorem root_eq_of_end (p : P) : e.root (net.owner p) = e.root (net.far p) := by
  rcases h.not_designated_or p with hp | hp
  · exact h.root_eq_of_not_designated hp
  · have heq := h.root_eq_of_not_designated hp
    rw [net.far_peer] at heq
    exact heq.symm

theorem distance_le_of_end (p : P) :
    e.distance (net.far p) ≤ e.distance (net.owner p) + net.cost p := by
  rcases h.not_designated_or p with hp | hp
  · have hnear := distance_le_of_claim_le (h.near p hp) (h.root_eq_of_end p).symm
    omega
  · have hbest := h.best _ hp
    rw [net.far_peer, net.cost_peer] at hbest
    exact distance_le_of_claim_le hbest (h.root_eq_of_end p).symm

theorem root_eq (hnet : net.Connected) (u v : V) : e.root u = e.root v := by
  obtain ⟨c, hwalk⟩ := hnet u v
  induction hwalk with
  | root => rfl
  | step _ hedge ih =>
    obtain ⟨p, rfl, rfl, -⟩ := hedge
    exact ih.trans (h.root_eq_of_end p)

/-- The links upward lead to an elected node, over as much as the distance held. -/
theorem exists_walk (v : V) : ∃ r, e.elected r ∧ Walk net.edge r v (e.distance v) := by
  induction hdist : e.distance v using Nat.strong_induction_on generalizing v with
  | _ d ih =>
    by_cases hv : e.elected v
    · refine ⟨v, hv, ?_⟩
      rw [← hdist, h.elected_distance v hv]
      exact .root
    · obtain ⟨p, rfl, hup⟩ := h.exists_upward v hv
      have hstep := h.upward_distance hup
      have hpos := net.cost_pos p
      obtain ⟨r, hr, hwalk⟩ := ih (e.distance (net.far p)) (by omega) (net.far p) rfl
      refine ⟨r, hr, ?_⟩
      rw [← hdist, hstep]
      exact hwalk.step (net.edge_to_end p)

theorem distance_le_walk {r v : V} {c : ℕ} (hr : e.elected r)
    (hwalk : Walk net.edge r v c) : e.distance v ≤ c := by
  induction hwalk with
  | root => exact (h.elected_distance r hr).le
  | step _ hedge ih =>
    obtain ⟨p, rfl, rfl, rfl⟩ := hedge
    exact (h.distance_le_of_end p).trans (Nat.add_le_add_right ih _)

theorem elected_unique (hnet : net.Connected) (hid : Function.Injective e.id)
    {r r' : V} (hr : e.elected r) (hr' : e.elected r') : r = r' := by
  apply hid
  rw [← h.elected_root r hr, ← h.elected_root r' hr']
  exact h.root_eq hnet r r'

theorem distance_elected (hnet : net.Connected)
    (hid : Function.Injective e.id) {r : V} (hr : e.elected r) (v : V) :
    Distance net.edge r v (e.distance v) := by
  obtain ⟨r', hr', hwalk⟩ := h.exists_walk v
  rw [h.elected_unique hnet hid hr' hr] at hwalk
  exact ⟨hwalk, fun _ hother => h.distance_le_walk hr hother⟩

theorem id_le (hnet : net.Connected) {r : V} (hr : e.elected r) (v : V) : e.id r ≤ e.id v := by
  rw [← h.elected_root r hr, h.root_eq hnet r v]
  by_cases hv : e.elected v
  · exact (h.elected_root v hv).le
  · exact (h.root_lt v hv).le

end

section Tree

open Classical in
/-- The node above, over the link upward. -/
noncomputable def parent (net : Links V P) (e : Election V P R) (v : V) : Option V :=
  if h : ∃ p, net.owner p = v ∧ e.upward p then some (net.far h.choose) else none

theorem parent_owner (h : Settled net e) {p : P} (hp : e.upward p) :
    parent net e (net.owner p) = some (net.far p) := by
  have hex : ∃ q, net.owner q = net.owner p ∧ e.upward q := ⟨p, rfl, hp⟩
  rw [parent, dif_pos hex]
  obtain ⟨howner, hup⟩ := hex.choose_spec
  rw [h.upward_unique _ _ hup hp howner]

theorem exists_end_of_parent (h : Settled net e) {u v : V} (hparent : parent net e v = some u) :
    ∃ p, net.owner p = v ∧ net.far p = u ∧ e.upward p := by
  by_cases hex : ∃ p, net.owner p = v ∧ e.upward p
  · obtain ⟨p, rfl, hup⟩ := hex
    rw [h.parent_owner hup] at hparent
    exact ⟨p, rfl, Option.some.inj hparent, hup⟩
  · rw [parent, dif_neg hex] at hparent
    cases hparent

theorem not_upward_of_elected (h : Settled net e) {p : P} (hp : e.elected (net.owner p)) :
    ¬ e.upward p := fun hup => h.upward_not_designated p hup (h.elected_designated p hp)

theorem rooted (h : Settled net e) (hnet : net.Connected) (hid : Function.Injective e.id) {r : V}
    (hr : e.elected r) : Rooted (parent net e) e.distance r where
  parent_root := by
    refine dif_neg ?_
    rintro ⟨p, rfl, hup⟩
    exact h.not_upward_of_elected hr hup
  exists_parent v hv := by
    have hnot : ¬ e.elected v := fun helected => hv (h.elected_unique hnet hid helected hr)
    obtain ⟨p, rfl, hup⟩ := h.exists_upward v hnot
    exact ⟨_, h.parent_owner hup⟩
  rank_lt u v hparent := by
    obtain ⟨p, rfl, rfl, hup⟩ := h.exists_end_of_parent hparent
    have hstep := h.upward_distance hup
    have hpos := net.cost_pos p
    omega

theorem designated_peer (h : Settled net e) {p : P} (hp : e.upward p) :
    e.designated (net.peer p) := by
  by_contra hnot
  exact h.upward_not_designated p hp ((h.designated_iff p).mpr hnot)

theorem linkGraph_eq (h : Settled net e) :
    net.linkGraph (fun p => e.upward p ∧ e.designated (net.peer p)) =
      parentGraph (parent net e) := by
  ext u v
  constructor
  · rintro ⟨hne, p, rfl, rfl, hup | hup⟩
    · exact ⟨hne, .inl (h.parent_owner hup.1)⟩
    · have hparent := h.parent_owner hup.1
      rw [net.far_peer] at hparent
      exact ⟨hne, .inr hparent⟩
  · rintro ⟨hne, hparent | hparent⟩
    · obtain ⟨p, rfl, rfl, hup⟩ := h.exists_end_of_parent hparent
      exact ⟨hne, p, rfl, rfl, .inl ⟨hup, h.designated_peer hup⟩⟩
    · obtain ⟨p, rfl, rfl, hup⟩ := h.exists_end_of_parent hparent
      refine ⟨hne, net.peer p, rfl, net.far_peer p, .inr ?_⟩
      rw [net.peer_peer]
      exact ⟨hup, h.designated_peer hup⟩

theorem not_opposite (h : Settled net e) {p q : P} (hp : e.upward p) (hq : e.upward q)
    (howner : net.owner p = net.far q) (hfar : net.far p = net.owner q) : False := by
  have hdown := h.upward_distance hp
  have hup := h.upward_distance hq
  have hpos := net.cost_pos p
  rw [howner, hfar] at hdown
  omega

theorem spanningTree [Finite V] (h : Settled net e) (hnet : net.Connected)
    (hid : Function.Injective e.id) {r : V} (hr : e.elected r) :
    net.SpanningTree fun p => e.upward p ∧ e.designated (net.peer p) where
  isTree := by
    rw [h.linkGraph_eq]
    exact (h.rooted hnet hid hr).isTree
  unique p q hp hq howner hfar := by
    rcases hp with ⟨hp, -⟩ | ⟨hp, -⟩
    · rcases hq with ⟨hq, -⟩ | ⟨hq, -⟩
      · exact h.upward_unique p q hp hq howner
      · refine absurd ?_ (h.not_opposite hp hq · hfar)
        rw [net.far_peer]
        exact howner
    · rcases hq with ⟨hq, -⟩ | ⟨hq, -⟩
      · refine absurd ?_ (h.not_opposite hq hp · hfar.symm)
        rw [net.far_peer]
        exact howner.symm
      · have hpeer := h.upward_unique _ _ hp hq hfar
        rw [← net.peer_peer p, hpeer, net.peer_peer]

end Tree

end Settled

end Election

end graph
