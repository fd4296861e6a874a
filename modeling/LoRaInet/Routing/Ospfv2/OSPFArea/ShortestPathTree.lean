import LoRaInet.Graph.ShortestPath
import LoRaInet.Routing.Ospfv2.OSPFArea
import Mathlib.Data.List.Perm.Subperm

namespace inet.ospf

open graph

/-- A link to a vertex with its cost, as an LSA advertises it. -/
def OSPFLSA.Advertises : OSPFLSA → Vertex → ℕ → Prop
  | .router lsa, .router id, cost =>
    ∃ link ∈ lsa.links, (link.type = .pointToPoint ∨ link.type = .virtual) ∧ link.linkID = id ∧
      link.linkCost = cost
  | .router lsa, .network id, cost =>
    ∃ link ∈ lsa.links, link.type = .transit ∧ link.linkID = id ∧ link.linkCost = cost
  | .network lsa, .router id, cost => id ∈ lsa.attachedRouters ∧ cost = 0
  | .network _, .network _, _ => False

/-- A stub link to the prefix of a network. -/
def OSPFLSA.StubTo : OSPFLSA → OSPFLSA → Prop
  | .router lsa, .network toNetworkLSA =>
    ∃ link ∈ lsa.links, link.type = .stub ∧ link.linkID &&& BitVec.ofNat 32 link.linkData =
        toNetworkLSA.linkStateID &&& toNetworkLSA.networkMask
  | _, _ => False

/-- The part of the state that the distances depend on. -/
def SPFState.search (s : SPFState) : Search Vertex :=
  ⟨s.treeVertices, s.candidateVertices, s.distance⟩

namespace Area

variable (area : Area)

/-- A link of the database that both ends advertise, to an LSA that is not at its maximal age. -/
def MutualLink (u v : Vertex) (cost : ℕ) : Prop :=
  ∃ fromLSA toLSA, area.findLSA u = some fromLSA ∧ area.findLSA v = some toLSA ∧ toLSA.lsAge ≠ MAX_AGE ∧
    fromLSA.Advertises v cost ∧ ∃ back, toLSA.Advertises u back

/-- The same where a router may also advertise its end by a stub link. -/
def UsableLink (u v : Vertex) (cost : ℕ) : Prop :=
  ∃ fromLSA toLSA, area.findLSA u = some fromLSA ∧ area.findLSA v = some toLSA ∧ toLSA.lsAge ≠ MAX_AGE ∧
    fromLSA.Advertises v cost ∧ ((∃ back, toLSA.Advertises u back) ∨ toLSA.StubTo fromLSA)

section Database

variable {area} {id : IPv4Address}

theorem findRouterLSA_id {lsa : RouterLSA}
    (h : area.findRouterLSA id = some lsa) : lsa.linkStateID = id := by
  simpa using List.find?_some h

theorem findNetworkLSA_id {lsa : NetworkLSA}
    (h : area.findNetworkLSA id = some lsa) : lsa.linkStateID = id := by
  simpa using List.find?_some h

theorem findLSA_router {lsa : OSPFLSA} (h : area.findLSA (.router id) = some lsa) :
    ∃ router, lsa = .router router ∧ area.findRouterLSA id = some router ∧
      router.linkStateID = id := by
  obtain ⟨router, hfind, rfl⟩ := Option.map_eq_some_iff.mp h
  exact ⟨router, rfl, hfind, findRouterLSA_id hfind⟩

theorem findLSA_network {lsa : OSPFLSA} (h : area.findLSA (.network id) = some lsa) :
    ∃ network, lsa = .network network ∧ area.findNetworkLSA id = some network ∧
      network.linkStateID = id := by
  obtain ⟨network, hfind, rfl⟩ := Option.map_eq_some_iff.mp h
  exact ⟨network, rfl, hfind, findNetworkLSA_id hfind⟩

theorem hasLink_iff {u v : Vertex} {fromLSA toLSA : OSPFLSA} (hu : area.findLSA u = some fromLSA)
    (hv : area.findLSA v = some toLSA) :
    hasLink toLSA fromLSA = true ↔ (∃ back, toLSA.Advertises u back) ∨ toLSA.StubTo fromLSA := by
  cases u with
  | router id =>
    obtain ⟨fromRouter, rfl, -, hfrom⟩ := findLSA_router hu
    cases v with
    | router id' =>
      obtain ⟨toRouter, rfl, -, -⟩ := findLSA_router hv
      simp [hasLink, OSPFLSA.Advertises, OSPFLSA.StubTo, hfrom]
    | network id' =>
      obtain ⟨toNetwork, rfl, -, -⟩ := findLSA_network hv
      simp [hasLink, OSPFLSA.Advertises, OSPFLSA.StubTo, hfrom]
  | network id =>
    obtain ⟨fromNetwork, rfl, -, hfrom⟩ := findLSA_network hu
    cases v with
    | router id' =>
      obtain ⟨toRouter, rfl, -, -⟩ := findLSA_router hv
      simp only [hasLink, OSPFLSA.Advertises, OSPFLSA.StubTo, hfrom, List.any_eq_true,
        Bool.or_eq_true, Bool.and_eq_true, decide_eq_true_eq]
      constructor
      · rintro ⟨link, hmem, ⟨htype, hid⟩ | hstub⟩
        · exact .inl ⟨link.linkCost, link, hmem, htype, hid, rfl⟩
        · exact .inr ⟨link, hmem, hstub⟩
      · rintro (⟨-, link, hmem, htype, hid, -⟩ | ⟨link, hmem, hstub⟩)
        · exact ⟨link, hmem, .inl ⟨htype, hid⟩⟩
        · exact ⟨link, hmem, .inr hstub⟩
    | network id' =>
      obtain ⟨toNetwork, rfl, -, -⟩ := findLSA_network hv
      simp [hasLink, OSPFLSA.Advertises, OSPFLSA.StubTo]

end Database

section Neighbours

def linkTo (lsa : RouterLSA) (link : Link) : Option (Vertex × ℕ) :=
  match link.type with
  | .stub => none
  | .transit =>
    if area.canJoin (.router lsa) (.network link.linkID) then
      some (.network link.linkID, link.linkCost)
    else none
  | .pointToPoint | .virtual =>
    if area.canJoin (.router lsa) (.router link.linkID) then
      some (.router link.linkID, link.linkCost)
    else none

/-- The vertices that the loop over a vertex joins, with their costs. -/
def neighbours (u : Vertex) : List (Vertex × ℕ) :=
  match area.findLSA u with
  | none => []
  | some (.router lsa) => lsa.links.filterMap (area.linkTo lsa)
  | some (.network lsa) =>
    (lsa.attachedRouters.filter fun id => area.canJoin (.network lsa) (.router id)).map
      fun id => (.router id, 0)

variable {area}

theorem canJoin_iff {u v : Vertex} {fromLSA : OSPFLSA} (hu : area.findLSA u = some fromLSA) :
    area.canJoin fromLSA v = true ↔ ∃ toLSA, area.findLSA v = some toLSA ∧
      toLSA.lsAge ≠ MAX_AGE ∧ ((∃ back, toLSA.Advertises u back) ∨ toLSA.StubTo fromLSA) := by
  rw [canJoin]
  cases hv : area.findLSA v with
  | none => simp
  | some toLSA => simp [hasLink_iff hu hv]

theorem mem_linkTo {lsa : RouterLSA} {v : Vertex} {w : ℕ} :
    (∃ link ∈ lsa.links, area.linkTo lsa link = some (v, w)) ↔
      (OSPFLSA.router lsa).Advertises v w ∧ area.canJoin (.router lsa) v = true := by
  constructor
  · rintro ⟨link, hmem, hlink⟩
    rw [linkTo] at hlink
    split at hlink
    · cases hlink
    · next htype =>
      split_ifs at hlink with hjoin
      cases hlink
      exact ⟨⟨link, hmem, htype, rfl, rfl⟩, hjoin⟩
    · next htype =>
      split_ifs at hlink with hjoin
      cases hlink
      exact ⟨⟨link, hmem, .inl htype, rfl, rfl⟩, hjoin⟩
    · next htype =>
      split_ifs at hlink with hjoin
      cases hlink
      exact ⟨⟨link, hmem, .inr htype, rfl, rfl⟩, hjoin⟩
  · rintro ⟨hadvertises, hjoin⟩
    cases v with
    | router id =>
      obtain ⟨link, hmem, htype, rfl, rfl⟩ := hadvertises
      refine ⟨link, hmem, ?_⟩
      obtain htype | htype := htype
      · rw [linkTo, htype]
        exact if_pos hjoin
      · rw [linkTo, htype]
        exact if_pos hjoin
    | network id =>
      obtain ⟨link, hmem, htype, rfl, rfl⟩ := hadvertises
      refine ⟨link, hmem, ?_⟩
      rw [linkTo, htype]
      exact if_pos hjoin

theorem mem_neighbours {u v : Vertex} {w : ℕ} :
    (v, w) ∈ area.neighbours u ↔ area.UsableLink u v w := by
  rw [neighbours, UsableLink]
  cases hu : area.findLSA u with
  | none => simp
  | some fromLSA =>
    have hjoin := canJoin_iff (v := v) hu
    have hsame : (∃ lsa toLSA, some fromLSA = some lsa ∧ area.findLSA v = some toLSA ∧
        toLSA.lsAge ≠ MAX_AGE ∧ lsa.Advertises v w ∧
          ((∃ back, toLSA.Advertises u back) ∨ toLSA.StubTo lsa)) ↔
        fromLSA.Advertises v w ∧ area.canJoin fromLSA v = true := by
      rw [hjoin]
      constructor
      · rintro ⟨lsa, toLSA, hlsa, hv, hage, hadvertises, hback⟩
        cases hlsa
        exact ⟨hadvertises, toLSA, hv, hage, hback⟩
      · rintro ⟨hadvertises, toLSA, hv, hage, hback⟩
        exact ⟨fromLSA, toLSA, rfl, hv, hage, hadvertises, hback⟩
    rw [hsame]
    cases fromLSA with
    | router lsa =>
      rw [← mem_linkTo]
      exact List.mem_filterMap
    | network lsa =>
      simp only [List.mem_map, List.mem_filter, Prod.mk.injEq]
      cases v with
      | router id =>
        simp only [Vertex.router.injEq, OSPFLSA.Advertises]
        constructor
        · rintro ⟨_, ⟨hmem, hmay⟩, rfl, rfl⟩
          exact ⟨⟨hmem, rfl⟩, hmay⟩
        · rintro ⟨⟨hmem, rfl⟩, hmay⟩
          exact ⟨id, ⟨hmem, hmay⟩, rfl, rfl⟩
      | network id => simp [OSPFLSA.Advertises]

end Neighbours

section Search

variable {area}

theorem joinVertex_search (s : SPFState) (v : Vertex) (w : ℕ) :
    (joinVertex s v (s.distance s.justAddedVertex + w)).search =
        Search.join s.justAddedVertex s.search (v, w) ∧
      (joinVertex s v (s.distance s.justAddedVertex + w)).justAddedVertex = s.justAddedVertex ∧
      (joinVertex s v (s.distance s.justAddedVertex + w)).finished = s.finished := by
  obtain ⟨htree, heq⟩ | ⟨htree, hcandidate, hle, heq⟩ | ⟨htree, hcandidate, hless, heq⟩ |
    ⟨htree, hcandidate, heq⟩ := Search.join_cases s.justAddedVertex s.search (v, w)
  · rw [heq, joinVertex, if_pos (show v ∈ s.treeVertices from htree)]
    exact ⟨rfl, rfl, rfl⟩
  · have hnot : ¬s.distance s.justAddedVertex + w < s.distance v := Nat.not_lt_of_le hle
    rw [heq, joinVertex, if_neg (show v ∉ s.treeVertices from htree),
      if_pos (show v ∈ s.candidateVertices from hcandidate), if_neg hnot]
    exact ⟨rfl, rfl, rfl⟩
  · have hcloser : s.distance s.justAddedVertex + w < s.distance v := hless
    rw [heq, joinVertex, if_neg (show v ∉ s.treeVertices from htree),
      if_pos (show v ∈ s.candidateVertices from hcandidate), if_pos hcloser]
    exact ⟨rfl, rfl, rfl⟩
  · rw [heq, joinVertex, if_neg (show v ∉ s.treeVertices from htree),
      if_neg (show v ∉ s.candidateVertices from hcandidate)]
    exact ⟨rfl, rfl, rfl⟩

theorem processLink_search (lsa : RouterLSA) (s : SPFState) (link : Link) :
    (area.processLink lsa s link).search =
        (area.linkTo lsa link).elim s.search (Search.join s.justAddedVertex s.search) ∧
      (area.processLink lsa s link).justAddedVertex = s.justAddedVertex ∧
      (area.processLink lsa s link).finished = s.finished := by
  rw [processLink, linkTo]
  cases link.type with
  | stub => exact ⟨rfl, rfl, rfl⟩
  | pointToPoint | virtual | transit =>
    simp only
    split
    · exact joinVertex_search s _ link.linkCost
    · exact ⟨rfl, rfl, rfl⟩

theorem foldl_processLink (lsa : RouterLSA) (links : List Link) (s : SPFState) :
    (links.foldl (area.processLink lsa) s).search =
        s.search.expand (links.filterMap (area.linkTo lsa)) s.justAddedVertex ∧
      (links.foldl (area.processLink lsa) s).justAddedVertex = s.justAddedVertex ∧
      (links.foldl (area.processLink lsa) s).finished = s.finished := by
  induction links generalizing s with
  | nil => exact ⟨rfl, rfl, rfl⟩
  | cons link links ih =>
    obtain ⟨hsearch, hjust, hfinished⟩ := area.processLink_search lsa s link
    obtain ⟨ihsearch, ihjust, ihfinished⟩ := ih (area.processLink lsa s link)
    rw [List.foldl_cons]
    refine ⟨?_, ihjust.trans hjust, ihfinished.trans hfinished⟩
    rw [ihsearch, hsearch, hjust, List.filterMap_cons]
    cases area.linkTo lsa link with
    | none | some e => rfl

theorem foldl_processAttachedRouter (lsa : NetworkLSA) (routers : List IPv4Address) (s : SPFState) :
    (routers.foldl (area.processAttachedRouter lsa) s).search =
        s.search.expand ((routers.filter fun id => area.canJoin (.network lsa) (.router id)).map
          fun id => (.router id, 0)) s.justAddedVertex ∧
      (routers.foldl (area.processAttachedRouter lsa) s).justAddedVertex = s.justAddedVertex ∧
      (routers.foldl (area.processAttachedRouter lsa) s).finished = s.finished := by
  induction routers generalizing s with
  | nil => exact ⟨rfl, rfl, rfl⟩
  | cons id routers ih =>
    rw [List.foldl_cons, List.filter_cons, processAttachedRouter]
    split
    · obtain ⟨hsearch, hjust, hfinished⟩ := joinVertex_search s (.router id) 0
      obtain ⟨ihsearch, ihjust, ihfinished⟩ :=
        ih (joinVertex s (.router id) (s.distance s.justAddedVertex + 0))
      refine ⟨?_, ihjust.trans hjust, ihfinished.trans hfinished⟩
      rw [Nat.add_zero] at ihsearch hsearch hjust
      rw [ihsearch, hsearch, hjust]
      rfl
    · exact ih s

theorem processVertex_search (s : SPFState) : (area.processVertex s).search =
        s.search.expand (area.neighbours s.justAddedVertex) s.justAddedVertex ∧
      (area.processVertex s).justAddedVertex = s.justAddedVertex ∧
      (area.processVertex s).finished = s.finished := by
  rw [processVertex, neighbours]
  cases area.findLSA s.justAddedVertex with
  | none => exact ⟨rfl, rfl, rfl⟩
  | some lsa =>
    cases lsa with
    | router lsa => exact area.foldl_processLink lsa lsa.links _
    | network lsa => exact area.foldl_processAttachedRouter lsa lsa.attachedRouters s

end Search

/-- The closest vertex is none at the start, and is one of the candidates from the first on that
is closer than infinity. -/
theorem foldl_closer {s : SPFState} {candidates : List Vertex} {best : Vertex × ℕ}
    (hmem : ∀ v ∈ candidates, v ∈ s.candidateVertices)
    (hbest : best.2 < LS_INFINITY → best.1 ∈ s.candidateVertices ∧ s.distance best.1 = best.2) :
    let closest := candidates.foldl (closer s) best
    (closest.2 < LS_INFINITY → closest.1 ∈ s.candidateVertices ∧ s.distance closest.1 = closest.2) ∧
      closest.2 ≤ best.2 ∧ ∀ v ∈ candidates, closest.2 ≤ s.distance v := by
  induction candidates generalizing best with
  | nil => exact ⟨hbest, le_rfl, List.forall_mem_nil _⟩
  | cons v candidates ih =>
    have hv := hmem v (.head _)
    have hnext : ((closer s best v).2 < LS_INFINITY → (closer s best v).1 ∈ s.candidateVertices ∧
          s.distance (closer s best v).1 = (closer s best v).2) ∧
        (closer s best v).2 ≤ best.2 ∧ (closer s best v).2 ≤ s.distance v := by
      rw [closer]
      split_ifs with hless hequal
      · exact ⟨fun _ => ⟨hv, rfl⟩, hless.le, le_rfl⟩
      · exact ⟨fun _ => ⟨hv, hequal.1⟩, le_rfl, hequal.1.ge⟩
      · exact ⟨hbest, le_rfl, Nat.le_of_not_lt hless⟩
    obtain ⟨hvalid, hle, hlev⟩ := hnext
    obtain ⟨hclosest, hleast, hall⟩ :=
      ih (fun x hx => hmem x (List.mem_cons_of_mem v hx)) hvalid
    exact ⟨hclosest, hleast.trans hle, List.forall_mem_cons.mpr ⟨hleast.trans hlev, hall⟩⟩

theorem closestVertex_spec {s : SPFState} (first : Vertex)
    (hclose : ∃ v ∈ s.candidateVertices, s.distance v < LS_INFINITY) :
    closestVertex s first ∈ s.candidateVertices ∧
      ∀ v ∈ s.candidateVertices, s.distance (closestVertex s first) ≤ s.distance v := by
  obtain ⟨hvalid, -, hall⟩ := @foldl_closer s s.candidateVertices (first, LS_INFINITY)
    (fun _ hv => hv) fun h => absurd h (lt_irrefl _)
  obtain ⟨v, hv, hlt⟩ := hclose
  obtain ⟨hmem, hdistance⟩ := hvalid ((hall v hv).trans_lt hlt)
  rw [closestVertex]
  exact ⟨hmem, fun x hx => hdistance.trans_le (hall x hx)⟩

section Loop

variable {root : Vertex} {s : SPFState}

/-- Between two passes all of the tree but the vertex added last has been expanded. -/
structure Growing (root : Vertex) (s : SPFState) : Prop where
  valid : s.search.Valid area.UsableLink root
  last : s.justAddedVertex ∈ s.treeVertices
  expanded : ∀ u ∈ s.treeVertices, u ≠ s.justAddedVertex → s.search.Expanded area.UsableLink u

/-- After the last pass nothing is left to be joined. -/
structure Complete (root : Vertex) (s : SPFState) : Prop where
  valid : s.search.Valid area.UsableLink root
  expanded : ∀ u ∈ s.treeVertices, s.search.Expanded area.UsableLink u
  none : s.candidateVertices = []

variable {area}

theorem start_growing (root : Vertex) (distance : Vertex → ℕ) (parent : Vertex → Option Vertex)
    (transitCapability : Bool) :
    area.Growing root (start root distance parent transitCapability) := by
  refine ⟨⟨List.mem_singleton.mpr rfl, List.nodup_singleton root, List.nodup_nil,
    List.forall_mem_nil _, ?_, List.forall_mem_nil _⟩, List.mem_singleton.mpr rfl, ?_⟩
  · intro v hv
    obtain rfl := List.mem_singleton.mp hv
    have hzero : Function.update distance v 0 v = 0 := Function.update_self v 0 distance
    change Distance area.UsableLink v v (Function.update distance v 0 v)
    rw [hzero]
    exact distance_root
  · intro u hu hne
    exact absurd (List.mem_singleton.mp hu) hne

theorem processVertex_growing (h : area.Growing root s) :
    (area.processVertex s).search.Valid area.UsableLink root ∧
      (area.processVertex s).treeVertices = s.treeVertices ∧
      ∀ u ∈ s.treeVertices, (area.processVertex s).search.Expanded area.UsableLink u := by
  obtain ⟨hsearch, -, -⟩ := area.processVertex_search s
  have hedges : ∀ v w, (v, w) ∈ area.neighbours s.justAddedVertex ↔
      area.UsableLink s.justAddedVertex v w := fun _ _ => mem_neighbours
  have htree := Search.expand_tree h.valid h.last hedges
  rw [hsearch]
  refine ⟨h.valid.expand h.last hedges, ?_, fun u hu => ?_⟩
  · rw [← hsearch] at htree
    exact htree
  · by_cases hlast : u = s.justAddedVertex
    · rw [hlast]
      exact Search.expanded_expand h.valid h.last hedges
    · exact (h.expanded u hu hlast).expand h.valid h.last hedges hu

/-- All that a pass does once the vertex added last has been processed. -/
theorem pass_eq (area : Area) (s : SPFState) : ((area.processVertex s).candidateVertices = [] ∧
        area.pass s = { area.processVertex s with finished := true }) ∨
      ∃ first ∈ (area.processVertex s).candidateVertices, ∃ closest,
        closest = closestVertex (area.processVertex s) first ∧
        area.pass s = { area.processVertex s with
          treeVertices := (area.processVertex s).treeVertices ++ [closest]
          candidateVertices := (area.processVertex s).candidateVertices.erase closest
          justAddedVertex := closest } := by
  rw [pass]
  generalize area.processVertex s = t
  obtain ⟨treeVertices, candidateVertices, distance, parent, transitCapability, justAddedVertex,
    finished⟩ := t
  cases candidateVertices with
  | nil => exact .inl ⟨rfl, rfl⟩
  | cons first rest => exact .inr ⟨first, (.head _), _, rfl, rfl⟩

/-- A pass ends the loop with a complete tree, or adds a vertex to a growing one. -/
theorem pass_cases (hbound : ∀ v, Reachable area.UsableLink root v →
      ∃ c < LS_INFINITY, Walk area.UsableLink root v c) (h : area.Growing root s) :
    ((area.pass s).finished = true ∧ area.Complete root (area.pass s) ∧
        (area.pass s).justAddedVertex = s.justAddedVertex ∧
        (area.pass s).treeVertices = s.treeVertices) ∨
      ((area.pass s).finished = s.finished ∧ area.Growing root (area.pass s) ∧
        (area.pass s).treeVertices.length = s.treeVertices.length + 1) := by
  obtain ⟨hvalid, htree, hexpanded⟩ := processVertex_growing h
  obtain ⟨-, hjust, hfinished⟩ := area.processVertex_search s
  obtain ⟨hnone, hpass⟩ | ⟨first, hfirst, closest, hclosest, hpass⟩ := pass_eq area s
  · rw [hpass]
    refine .inl ⟨rfl, ⟨hvalid, ?_, hnone⟩, hjust, htree⟩
    intro u hu
    exact hexpanded u (htree ▸ hu)
  · have hall : ∀ u ∈ (area.processVertex s).search.tree,
        (area.processVertex s).search.Expanded area.UsableLink u :=
      fun u hu => hexpanded u (htree ▸ hu)
    have hclose : ∃ v ∈ (area.processVertex s).candidateVertices,
        (area.processVertex s).distance v < LS_INFINITY := by
      obtain ⟨c, hlt, hwalk⟩ := hbound first ⟨_, hvalid.reached first hfirst⟩
      obtain ⟨v, hv, hle⟩ := Search.exists_candidate_le hvalid hall hwalk
        (hvalid.disjoint first hfirst)
      exact ⟨v, hv, hle.trans_lt hlt⟩
    obtain ⟨hmem, hleast⟩ := closestVertex_spec first hclose
    rw [← hclosest] at hmem hleast
    rw [hpass]
    refine .inr ⟨hfinished, ⟨hvalid.settle hall hmem hleast,
      List.mem_append_right _ (List.mem_singleton.mpr rfl), ?_⟩, ?_⟩
    · intro u hu hne
      obtain hu | hsame := List.mem_append.mp hu
      · exact (hall u hu).settle hvalid
      · exact absurd (List.mem_singleton.mp hsame) hne
    · rw [← htree]
      exact List.length_append

theorem pass_growing (hbound : ∀ v, Reachable area.UsableLink root v →
      ∃ c < LS_INFINITY, Walk area.UsableLink root v c) (h : area.Growing root s) :
    area.Growing root (area.pass s) := by
  obtain ⟨-, hcomplete, hjust, htree⟩ | ⟨-, hgrowing, -⟩ := pass_cases hbound h
  · refine ⟨hcomplete.valid, ?_, fun u hu _ => hcomplete.expanded u hu⟩
    rw [hjust, htree]
    exact h.last
  · exact hgrowing

theorem tree_length_le (h : area.Growing root s) (hroot : (area.findLSA root).isSome) :
    s.treeVertices.length ≤ area.routerLSAs.length + area.networkLSAs.length := by
  have hdatabase : ∀ v c, Walk area.UsableLink root v c → (area.findLSA v).isSome := by
    intro v c hwalk
    cases hwalk with
    | root => exact hroot
    | step _ hedge =>
      obtain ⟨_, toLSA, -, hto, -⟩ := hedge
      rw [hto]
      rfl
  have hsubset : s.treeVertices ⊆ area.routerLSAs.map (fun lsa => .router lsa.linkStateID) ++
      area.networkLSAs.map (fun lsa => .network lsa.linkStateID) := by
    intro v hv
    obtain ⟨lsa, hlsa⟩ := Option.isSome_iff_exists.mp (hdatabase v _ (h.valid.settled v hv).1)
    cases v with
    | router id =>
      obtain ⟨router, -, hfind, hid⟩ := findLSA_router hlsa
      have hmem := List.mem_of_find?_eq_some hfind
      exact List.mem_append_left _ (List.mem_map.mpr ⟨router, hmem, by rw [hid]⟩)
    | network id =>
      obtain ⟨network, -, hfind, hid⟩ := findLSA_network hlsa
      have hmem := List.mem_of_find?_eq_some hfind
      exact List.mem_append_right _ (List.mem_map.mpr ⟨network, hmem, by rw [hid]⟩)
  have hle := (List.subperm_of_subset h.valid.tree_nodup hsubset).length_le
  rwa [List.length_append, List.length_map, List.length_map] at hle

/-- With a pass for each LSA that is not on the tree yet, and one more, the loop ends. -/
theorem loop_complete (hbound : ∀ v, Reachable area.UsableLink root v →
      ∃ c < LS_INFINITY, Walk area.UsableLink root v c)
    (hroot : (area.findLSA root).isSome) {fuel : ℕ} (h : area.Growing root s)
    (hfinished : s.finished = false)
    (hfuel : area.routerLSAs.length + area.networkLSAs.length + 1 ≤ fuel + s.treeVertices.length) :
    ∃ t, area.loop fuel s = some t ∧ area.Complete root t := by
  induction fuel generalizing s with
  | zero =>
    have hle := tree_length_le h hroot
    omega
  | succ fuel ih =>
    obtain ⟨hend, hcomplete, -⟩ | ⟨hsame, hgrowing, hlength⟩ := pass_cases hbound h
    · exact ⟨area.pass s, by rw [loop]; exact if_pos hend, hcomplete⟩
    · rw [hfinished] at hsame
      obtain ⟨t, hloop, hcomplete⟩ := ih hgrowing hsame (by omega)
      refine ⟨t, ?_, hcomplete⟩
      rw [loop]
      simp only [hsame, Bool.false_eq_true, if_false]
      exact hloop

theorem iterate_growing (hbound : ∀ v, Reachable area.UsableLink root v →
      ∃ c < LS_INFINITY, Walk area.UsableLink root v c) (h : area.Growing root s) (n : ℕ) :
    area.Growing root (area.pass^[n] s) := by
  induction n with
  | zero => exact h
  | succ n ih =>
    rw [Function.iterate_succ_apply']
    exact pass_growing hbound ih

end Loop

/-- The calculation ends with every vertex that can be reached over usable links on the tree, once,
and whenever a vertex is on the tree its distance is the smallest cost of a walk to it. -/
theorem shortestPathTree {area : Area} {root : Vertex} (hroot : (area.findLSA root).isSome)
    (hbound : ∀ v, Reachable area.UsableLink root v →
      ∃ c < LS_INFINITY, Walk area.UsableLink root v c)
    (distance : Vertex → ℕ) (parent : Vertex → Option Vertex) (transitCapability : Bool) :
    (∃ s, area.calculateShortestPathTree root distance parent transitCapability = some s ∧
      s.treeVertices.Nodup ∧
      (∀ v, v ∈ s.treeVertices ↔ Reachable area.UsableLink root v) ∧
      ∀ v ∈ s.treeVertices, Distance area.UsableLink root v (s.distance v)) ∧
    ∀ n, ∀ v ∈ (area.pass^[n] (start root distance parent transitCapability)).treeVertices,
      Distance area.UsableLink root v
        ((area.pass^[n] (start root distance parent transitCapability)).distance v) := by
  have hstart := @start_growing area root distance parent transitCapability
  obtain ⟨s, hloop, hcomplete⟩ := loop_complete hbound hroot hstart rfl le_rfl
  refine ⟨⟨s, hloop, hcomplete.valid.tree_nodup, fun v => ?_, hcomplete.valid.settled⟩, ?_⟩
  · exact Search.mem_tree_iff hcomplete.valid hcomplete.expanded hcomplete.none
  · intro n v hv
    exact (iterate_growing hbound hstart n).valid.settled v hv

/-- Two routers on a network, one of them with a stub link to it. -/
def stubArea : Area where
  routerLSAs :=
    [⟨0x01010101, 0, false, [⟨0x0A000001, 0x0A000001, .transit, 10⟩]⟩,
      ⟨0x02020202, 0, false, [⟨0x0A000000, 0xFFFFFF00, .stub, 5⟩]⟩]
  networkLSAs := [⟨0x0A000001, 0, 0xFFFFFF00, [0x01010101, 0x02020202]⟩]
  routers_nodup := by decide
  networks_nodup := by decide

theorem stubArea_walk : Walk stubArea.UsableLink (.router 0x01010101) (.network 0x0A000001) 10 ∧
      Walk stubArea.UsableLink (.router 0x01010101) (.router 0x02020202) 10 := by
  have hfirst : stubArea.UsableLink (.router 0x01010101) (.network 0x0A000001) 10 :=
    mem_neighbours.mp (by decide)
  have hsecond : stubArea.UsableLink (.network 0x0A000001) (.router 0x02020202) 0 :=
    mem_neighbours.mp (by decide)
  exact ⟨.step .root hfirst, .step (.step .root hfirst) hsecond⟩

theorem shortestPathTree_stubArea :
    (∃ s, stubArea.calculateShortestPathTree (.router 0x01010101) (fun _ => 0) (fun _ => none) false =
        some s ∧ s.treeVertices.Nodup ∧
      (∀ v, v ∈ s.treeVertices ↔ Reachable stubArea.UsableLink (.router 0x01010101) v) ∧
      ∀ v ∈ s.treeVertices,
        Distance stubArea.UsableLink (.router 0x01010101) v (s.distance v)) ∧
    ∀ n, ∀ v ∈ (stubArea.pass^[n] (start (.router 0x01010101) (fun _ => 0) (fun _ => none)
        false)).treeVertices,
      Distance stubArea.UsableLink (.router 0x01010101) v
        ((stubArea.pass^[n] (start (.router 0x01010101) (fun _ => 0) (fun _ => none)
          false)).distance v) := by
  refine shortestPathTree (by decide) ?_ (fun _ => 0) (fun _ => none) false
  obtain ⟨hnetwork, hrouter⟩ := stubArea_walk
  rintro v ⟨c, hwalk⟩
  cases hwalk with
  | root => exact ⟨0, by decide, .root⟩
  | step _ hedge =>
    obtain ⟨_, toLSA, -, hto, -⟩ := hedge
    cases v with
    | router id =>
      obtain ⟨router, -, hfind, rfl⟩ := findLSA_router hto
      have hmem := List.mem_of_find?_eq_some hfind
      simp only [stubArea, List.mem_cons, List.not_mem_nil, or_false] at hmem
      obtain rfl | rfl := hmem
      · exact ⟨0, by decide, .root⟩
      · exact ⟨10, by decide, hrouter⟩
    | network id =>
      obtain ⟨network, -, hfind, rfl⟩ := findLSA_network hto
      have hmem := List.mem_of_find?_eq_some hfind
      simp only [stubArea, List.mem_cons, List.not_mem_nil, or_false] at hmem
      subst hmem
      exact ⟨10, by decide, hnetwork⟩

/-- The router with the stub link comes on the tree, though it does not advertise a link to the
network. -/
theorem stubArea_not_mutual :
    (∃ s, stubArea.calculateShortestPathTree (.router 0x01010101) (fun _ => 0) (fun _ => none) false =
      some s ∧ .router 0x02020202 ∈ s.treeVertices) ∧
    ¬Reachable stubArea.MutualLink (.router 0x01010101) (.router 0x02020202) := by
  constructor
  · have hrun : (stubArea.calculateShortestPathTree (.router 0x01010101) (fun _ => 0)
        (fun _ => none) false).map (·.treeVertices) =
        some [.router 0x01010101, .network 0x0A000001, .router 0x02020202] := by
      decide +kernel
    obtain ⟨s, hs, htree⟩ := Option.map_eq_some_iff.mp hrun
    refine ⟨s, hs, ?_⟩
    rw [htree]
    decide
  · rintro ⟨c, hwalk⟩
    cases hwalk with
    | @step u _ _ _ _ hedge =>
      obtain ⟨_, toLSA, -, hto, -, -, back, hback⟩ := hedge
      have hlsa : stubArea.findLSA (.router 0x02020202) = some (.router ⟨0x02020202, 0, false,
        [⟨0x0A000000, 0xFFFFFF00, .stub, 5⟩]⟩) := by decide
      rw [hlsa] at hto
      cases hto
      cases u with
      | router id =>
        obtain ⟨link, hmem, htype, -⟩ := hback
        obtain rfl := List.mem_singleton.mp hmem
        obtain htype | htype := htype <;> cases htype
      | network id =>
        obtain ⟨link, hmem, htype, -⟩ := hback
        obtain rfl := List.mem_singleton.mp hmem
        cases htype

end Area

end inet.ospf
