import LoRaInet.Kernel.Assert
import Mathlib.Algebra.Order.Monoid.WithTop
import Mathlib.Algebra.Order.Ring.NNRat
import Mathlib.Data.Fintype.Card
import Mathlib.Data.List.Sort

open omnetpp

namespace inet

/-- Weights and distances, with infinity. -/
abbrev Weight := WithTop ℚ≥0

structure WeightedLink (N : Type) where
  srcNode : N
  weight : Weight
  enabled : Bool

/-- The nodes of a `Topology`, and their links as the shortest path algorithm reads them. -/
structure WeightedTopology (N : Type) where
  inLinks : N → List (WeightedLink N)
  weight : N → Weight
  enabled : N → Bool

namespace WeightedTopology

/-- An `outPath` is a link and the node it leads to. The nodes that were taken from the queue are
recorded. -/
structure State (N : Type) where
  dist : N → Weight
  outPath : N → Option (N × WeightedLink N)
  q : List N
  expanded : List N

variable {N : Type} [DecidableEq N] (g : WeightedTopology N) (target dest : N)

/-- The distance over a link to `dest`, from where it is `distance` to the target. -/
def newdist (distance : Weight) (link : WeightedLink N) : Weight :=
  if dest ≠ target then distance + link.weight + g.weight dest else distance + link.weight

/-- The queue without `src`; that `q.remove(src)` finds nothing is recorded as a fault. -/
def remove (st : State N) (src : N) : Except Fault (List N) :=
  if st.dist src = ⊤ then .ok st.q
  else if src ∈ st.q then .ok (st.q.filter (· ≠ src)) else .error .outOfRange

def updateSrc (st : State N) (link : WeightedLink N) (distance : Weight) : Except Fault (State N) := do
  let q ← remove st link.srcNode
  let dist := Function.update st.dist link.srcNode distance
  .ok { st with
    dist
    outPath := Function.update st.outPath link.srcNode (some (dest, link))
    q := q.orderedInsert (fun src v => dist v > dist src) link.srcNode }

def visitLink (st : State N) (link : WeightedLink N) : Except Fault (State N) :=
  if !link.enabled then .ok st
  else if !g.enabled link.srcNode then .ok st
  else do
    ASSERT (link.weight > 0) "linkWeight > 0.0"
    let distance := g.newdist target dest (st.dist dest) link
    if distance ≠ ⊤ ∧ st.dist link.srcNode > distance then updateSrc dest st link distance
    else .ok st

def round (st : State N) : Except Fault (State N) :=
  match st.q with
  | [] => .ok st
  | dest :: q => do
    ASSERT (g.weight dest ≥ 0) "dest->getWeight() >= 0.0"
    (g.inLinks dest).foldlM (g.visitLink target dest)
      { st with q, expanded := st.expanded ++ [dest] }

def rounds : ℕ → State N → Except Fault (State N)
  | 0, st => .ok st
  | n + 1, st => do
    let st ← g.round target st
    rounds n st

/-- `n` rounds of the loop; when the queue is empty they change nothing. -/
def calculateWeightedSingleShortestPathsTo (n : ℕ) : Except Fault (State N) :=
  g.rounds target n
    { dist := Function.update (fun _ => ⊤) target 0, outPath := fun _ => none, q := [target], expanded := [] }

/-- A path to the target over enabled links and nodes, with the sum of the weights of its links and
of the nodes between. -/
inductive Path : N → Weight → Prop
  | target : Path target 0
  | link {dest : N} {c : Weight} {link : WeightedLink N} : Path dest c → link ∈ g.inLinks dest →
      link.enabled = true → g.enabled link.srcNode = true →
      Path link.srcNode (g.newdist target dest c link)

/-- The path that `outPath` leads along, over nodes of `done`. -/
inductive Follows (outPath : N → Option (N × WeightedLink N)) (done : List N) : N → Weight → Prop
  | target : outPath target = none → Follows outPath done target 0
  | link {dest : N} {c : Weight} {link : WeightedLink N} :
      outPath link.srcNode = some (dest, link) → dest ∈ done → link ∈ g.inLinks dest →
      link.enabled = true → g.enabled link.srcNode = true → Follows outPath done dest c →
      Follows outPath done link.srcNode (g.newdist target dest c link)

variable {g target dest} {st st' : State N} {v : N} {c c' : Weight} {link : WeightedLink N}
  {outPath : N → Option (N × WeightedLink N)} {done done' : List N}

theorem newdist_mono (h : c ≤ c') : g.newdist target dest c link ≤ g.newdist target dest c' link := by
  unfold newdist
  split <;> gcongr

theorem le_newdist : c ≤ g.newdist target dest c link := by
  unfold newdist
  split
  · exact le_self_add.trans le_self_add
  · exact le_self_add

theorem Follows.path (h : g.Follows target outPath done v c) : g.Path target v c := by
  induction h with
  | target _ => exact .target
  | link _ _ hmem hlink hsrc _ ih => exact .link ih hmem hlink hsrc

theorem Follows.mono (h : g.Follows target outPath done v c) (hsub : done ⊆ done') :
    g.Follows target outPath done' v c := by
  induction h with
  | target h => exact .target h
  | link hout hdest hmem hlink hsrc _ ih => exact .link hout (hsub hdest) hmem hlink hsrc ih

theorem Follows.update (h : g.Follows target outPath done v c) {src : N} (hsrc : src ∉ done)
    (hv : v ≠ src) (value : Option (N × WeightedLink N)) :
    g.Follows target (Function.update outPath src value) done v c := by
  induction h with
  | target h => exact .target ((Function.update_of_ne hv _ _).trans h)
  | link hout hdest hmem hlink hnode _ ih =>
    have hne := fun heq : _ = src => hsrc (heq ▸ hdest)
    exact .link ((Function.update_of_ne hv _ _).trans hout) hdest hmem hlink hnode (ih hne)

/-- The link has been taken into account. -/
def Relaxed (g : WeightedTopology N) (target : N) (st : State N) (dest : N)
    (link : WeightedLink N) : Prop :=
  link.enabled = true → g.enabled link.srcNode = true →
    st.dist link.srcNode ≤ g.newdist target dest (st.dist dest) link

/-- The nodes that were taken from the queue have their final distance. -/
structure Inv (g : WeightedTopology N) (target : N) (st : State N) : Prop where
  q_nodup : st.q.Nodup
  sorted : st.q.Pairwise fun a b => st.dist a ≤ st.dist b
  expanded_nodup : st.expanded.Nodup
  fresh : ∀ v ∈ st.expanded, v ∉ st.q
  known : ∀ v, st.dist v ≠ ⊤ ↔ v ∈ st.expanded ∨ v ∈ st.q
  root : st.dist target = 0
  follows : ∀ v, st.dist v ≠ ⊤ → g.Follows target st.outPath st.expanded v (st.dist v)
  least : ∀ v ∈ st.expanded, ∀ c, g.Path target v c → st.dist v ≤ c

/-- Distances only become smaller, and not those of the nodes taken from the queue. -/
structure Kept (st st' : State N) : Prop where
  expanded : st'.expanded = st.expanded
  le : ∀ v, st'.dist v ≤ st.dist v
  eq : ∀ v ∈ st.expanded, st'.dist v = st.dist v

theorem Relaxed.kept (h : Relaxed g target st dest link) (hdest : dest ∈ st.expanded)
    (hkept : Kept st st') : Relaxed g target st' dest link := by
  intro hlink hsrc
  rw [hkept.eq dest hdest]
  exact (hkept.le _).trans (h hlink hsrc)

omit [DecidableEq N] in
theorem pairwise_orderedInsert {dist : N → Weight} {q : List N} (src : N)
    (h : q.Pairwise fun a b => dist a ≤ dist b) :
    (q.orderedInsert (fun src v => dist v > dist src) src).Pairwise fun a b => dist a ≤ dist b := by
  induction q with
  | nil => exact List.pairwise_singleton _ _
  | cons v q ih =>
    obtain ⟨hv, hq⟩ := List.pairwise_cons.mp h
    rw [List.orderedInsert]
    split
    · next hlt =>
      refine List.pairwise_cons.mpr ⟨fun u hu => ?_, h⟩
      obtain rfl | hu := List.mem_cons.mp hu
      · exact hlt.le
      · exact hlt.le.trans (hv u hu)
    · next hle =>
      refine List.pairwise_cons.mpr ⟨fun u hu => ?_, ih hq⟩
      obtain rfl | hu := (List.mem_orderedInsert _).mp hu
      · exact not_lt.mp hle
      · exact hv u hu

theorem Inv.remove (h : Inv g target st) {src : N} (hsrc : src ∉ st.expanded) :
    ∃ q, remove st src = .ok q ∧ q.Sublist st.q ∧ ∀ v, v ∈ q ↔ v ∈ st.q ∧ v ≠ src := by
  unfold WeightedTopology.remove
  split
  · next htop =>
    refine ⟨st.q, rfl, List.Sublist.refl _, fun v => iff_self_and.mpr ?_⟩
    rintro hv rfl
    exact (h.known v).mpr (.inr hv) htop
  · next hfinite =>
    rw [if_pos (((h.known src).mp hfinite).resolve_left hsrc)]
    exact ⟨_, rfl, List.filter_sublist, fun v => by simp⟩

theorem updateSrc_returns (h : Inv g target st) (hdest : dest ∈ st.expanded)
    (hmem : link ∈ g.inLinks dest) (hlink : link.enabled = true)
    (hnode : g.enabled link.srcNode = true)
    (hfinite : g.newdist target dest (st.dist dest) link ≠ ⊤)
    (hless : g.newdist target dest (st.dist dest) link < st.dist link.srcNode) :
    Returns (updateSrc dest st link (g.newdist target dest (st.dist dest) link)) fun st' =>
      Inv g target st' ∧ Kept st st' ∧ Relaxed g target st' dest link := by
  have hfollows := h.follows dest ((h.known dest).mpr (.inl hdest))
  have hout : link.srcNode ∉ st.expanded := fun hin =>
    hless.not_ge (h.least _ hin _ (.link hfollows.path hmem hlink hnode))
  have hne : dest ≠ link.srcNode := fun heq => hout (heq ▸ hdest)
  obtain ⟨q, hq, hsub, hiff⟩ := h.remove hout
  generalize hd : g.newdist target dest (st.dist dest) link = d at *
  have hself := Function.update_self link.srcNode d st.dist
  have hupdate : ∀ {v}, v ≠ link.srcNode → Function.update st.dist link.srcNode d v = st.dist v :=
    fun hv => Function.update_of_ne hv _ _
  have hle : ∀ v, Function.update st.dist link.srcNode d v ≤ st.dist v := fun v => by
    by_cases hv : v = link.srcNode
    · rw [hv, hself]
      exact hless.le
    · exact (hupdate hv).le
  have heq : ∀ v ∈ st.expanded, Function.update st.dist link.srcNode d v = st.dist v :=
    fun v hv => hupdate fun hsame => hout (hsame ▸ hv)
  rw [updateSrc, hq]
  refine .ok ⟨⟨?_, ?_, h.expanded_nodup, fun v hv hin => ?_, fun v => ?_, ?_, fun v hv => ?_,
    fun v hv c hpath => ?_⟩, ⟨rfl, hle, heq⟩, fun _ _ => ?_⟩
  · rw [(List.perm_orderedInsert _ _ _).nodup_iff]
    exact List.nodup_cons.mpr ⟨fun hin => ((hiff _).mp hin).2 rfl, h.q_nodup.sublist hsub⟩
  · refine pairwise_orderedInsert _ ((h.sorted.sublist hsub).imp_of_mem fun ha hb hab => ?_)
    exact (hupdate ((hiff _).mp ha).2).trans_le (hab.trans (hupdate ((hiff _).mp hb).2).ge)
  · obtain rfl | hin := (List.mem_orderedInsert _).mp hin
    · exact hout hv
    · exact h.fresh v hv ((hiff v).mp hin).1
  · rw [List.mem_orderedInsert, hiff]
    by_cases hv : v = link.srcNode
    · simp [hv, hfinite]
    · simp [hv, h.known v]
  · exact le_antisymm ((hle target).trans h.root.le) zero_le
  · by_cases hsame : v = link.srcNode
    · subst hsame
      have hstep := Follows.link (Function.update_self _ _ _) hdest hmem hlink hnode
        (hfollows.update hout hne (some (dest, link)))
      rwa [hd, ← hself] at hstep
    · dsimp only at hv ⊢
      rw [hupdate hsame] at hv ⊢
      exact (h.follows v hv).update hout hsame _
  · exact (heq v hv).trans_le (h.least v hv c hpath)
  · exact hself.trans_le (hd.symm.trans (congrArg (g.newdist target dest · link) (heq dest hdest).symm)).le

theorem visitLink_returns (h : Inv g target st) (hdest : dest ∈ st.expanded)
    (hmem : link ∈ g.inLinks dest) (hweight : 0 < link.weight) :
    Returns (g.visitLink target dest st link) fun st' =>
      Inv g target st' ∧ Kept st st' ∧ Relaxed g target st' dest link := by
  have hkept : Kept st st := ⟨rfl, fun _ => le_rfl, fun _ _ => rfl⟩
  unfold visitLink
  split
  · next hlink => exact .ok ⟨h, hkept, fun hon => by simp [hon] at hlink⟩
  split
  · next hnode => exact .ok ⟨h, hkept, fun _ hon => by simp [hon] at hnode⟩
  rw [assert_bind hweight]
  dsimp only
  split
  · next hlink hnode hless =>
    exact updateSrc_returns h hdest hmem (by simpa using hlink) (by simpa using hnode) hless.1 hless.2
  · next hkeep =>
    refine .ok ⟨h, hkept, fun _ _ => le_of_not_gt fun hless => hkeep ⟨?_, hless⟩⟩
    exact (hless.trans_le le_top).ne

variable (hweight : ∀ v, ∀ link ∈ g.inLinks v, 0 < link.weight)
include hweight

theorem links_return {links : List (WeightedLink N)} (hsub : links ⊆ g.inLinks dest) :
    ∀ {st : State N}, Inv g target st → dest ∈ st.expanded →
      Returns (links.foldlM (g.visitLink target dest) st) fun st' =>
        Inv g target st' ∧ Kept st st' ∧ ∀ link ∈ links, Relaxed g target st' dest link := by
  induction links with
  | nil => exact fun h _ => .pure ⟨h, ⟨rfl, fun _ => le_rfl, fun _ _ => rfl⟩, fun _ hin => by cases hin⟩
  | cons link links ih =>
    intro st h hdest
    rw [List.foldlM_cons]
    obtain ⟨hmem, hsub⟩ := List.cons_subset.mp hsub
    refine (visitLink_returns h hdest hmem (hweight dest link hmem)).bind ?_
    rintro next ⟨hinv, hkept, hrelaxed⟩
    have hin : dest ∈ next.expanded := hkept.expanded ▸ hdest
    refine (ih hsub hinv hin).mono ?_
    rintro st' ⟨hinv', hkept', hrelaxed'⟩
    refine ⟨hinv', ⟨hkept'.expanded.trans hkept.expanded, fun v => (hkept'.le v).trans (hkept.le v),
      fun v hv => (hkept'.eq v (hkept.expanded ▸ hv)).trans (hkept.eq v hv)⟩, fun other hother => ?_⟩
    obtain rfl | hother := List.mem_cons.mp hother
    · exact hrelaxed.kept hin hkept'
    · exact hrelaxed' other hother

omit hweight

/-- All links of the nodes that were taken from the queue have been taken into account. -/
def Settled (g : WeightedTopology N) (target : N) (st : State N) : Prop :=
  ∀ dest ∈ st.expanded, ∀ link ∈ g.inLinks dest, Relaxed g target st dest link

/-- A path from outside of the taken nodes passes a queued node that is not farther away. -/
theorem exists_queued_le (h : Inv g target st) (hsettled : Settled g target st)
    (hpath : g.Path target v c) (hv : v ∉ st.expanded) (hc : c ≠ ⊤) : ∃ u ∈ st.q, st.dist u ≤ c := by
  induction hpath with
  | target =>
    have hknown := (h.known target).mp (h.root ▸ WithTop.zero_ne_top)
    exact ⟨target, hknown.resolve_left hv, h.root.le⟩
  | @link dest c link hpath hmem hlink hnode ih =>
    by_cases hdest : dest ∈ st.expanded
    · have hle := (hsettled dest hdest link hmem hlink hnode).trans (newdist_mono (h.least dest hdest c hpath))
      have hknown := (h.known link.srcNode).mp (ne_top_of_le_ne_top hc hle)
      exact ⟨link.srcNode, hknown.resolve_left hv, hle⟩
    · obtain ⟨u, hu, hle⟩ := ih hdest (ne_top_of_le_ne_top hc le_newdist)
      exact ⟨u, hu, hle.trans le_newdist⟩

/-- The first node of the queue has its final distance. -/
theorem Inv.take {q : List N} (h : Inv g target st) (hsettled : Settled g target st)
    (hq : st.q = dest :: q) : Inv g target { st with q, expanded := st.expanded ++ [dest] } := by
  have hin : dest ∈ st.q := hq ▸ (.head _)
  have hfresh : dest ∉ st.expanded := fun hold => h.fresh dest hold hin
  obtain ⟨hout, hnodup⟩ := List.nodup_cons.mp (hq ▸ h.q_nodup)
  obtain ⟨hfirst, hsorted⟩ := List.pairwise_cons.mp (hq ▸ h.sorted)
  refine ⟨hnodup, hsorted, ?_, fun v hv hin => ?_, fun v => ?_, h.root, fun v hv => ?_, fun v hv c hpath => ?_⟩
  · exact List.nodup_append.mpr ⟨h.expanded_nodup, List.nodup_singleton _, by
      rintro _ hv _ hone rfl
      exact hfresh (List.mem_singleton.mp hone ▸ hv)⟩
  · obtain hv | rfl := List.mem_append.mp hv |>.imp_right List.mem_singleton.mp
    · exact h.fresh v hv (hq ▸ .tail _ hin)
    · exact hout hin
  · rw [h.known v, hq, List.mem_append, List.mem_cons, List.mem_singleton, or_assoc]
  · exact (h.follows v hv).mono (List.subset_append_left _ _)
  · obtain hv | rfl := List.mem_append.mp hv |>.imp_right List.mem_singleton.mp
    · exact h.least v hv c hpath
    · by_cases hc : c = ⊤
      · exact hc ▸ le_top
      · obtain ⟨u, hu, hle⟩ := exists_queued_le h hsettled hpath hfresh hc
        obtain rfl | hu := List.mem_cons.mp (hq ▸ hu)
        · exact hle
        · exact (hfirst u hu).trans hle

theorem rounds_of_nil (hq : st.q = []) (n : ℕ) : g.rounds target n st = .ok st := by
  induction n with
  | zero => rfl
  | succ n ih =>
    rw [rounds, round, hq]
    exact ih

theorem start_inv {dist : N → Weight} (hself : dist target = 0) (hother : ∀ v ≠ target, dist v = ⊤) :
    Inv g target { dist, outPath := fun _ => none, q := [target], expanded := [] } := by
  refine ⟨List.nodup_singleton _, List.pairwise_singleton _ _, List.nodup_nil, fun _ hv => (by cases hv),
    fun v => ?_, hself, fun v hv => ?_, fun _ hv => by cases hv⟩
  · by_cases hv : v = target
    · simp [hv, hself]
    · simp [hv, hother]
  · by_cases hv' : v = target
    · subst hv'
      dsimp only
      rw [hself]
      exact .target rfl
    · exact absurd (hother v hv') hv

include hweight

theorem rounds_return (n : ℕ) :
    ∀ {st : State N}, Inv g target st → Settled g target st →
      Returns (g.rounds target n st) fun st' => Inv g target st' ∧ Settled g target st' ∧
        (st'.q = [] ∨ st'.expanded.length = st.expanded.length + n) := by
  induction n with
  | zero => exact fun h hsettled => .ok ⟨h, hsettled, .inr rfl⟩
  | succ n ih =>
    intro st h hsettled
    cases hq : st.q with
    | nil => exact ⟨st, rounds_of_nil hq _, h, hsettled, .inl hq⟩
    | cons dest q =>
      have hlinks := links_return hweight (List.Subset.refl _) (h.take hsettled hq)
        (List.mem_append_right _ (.head _))
      rw [rounds, round, hq]
      dsimp only
      rw [assert_bind zero_le]
      refine hlinks.bind ?_
      rintro next ⟨hinv, hkept, hrelaxed⟩
      have hall : Settled g target next := by
        intro v hv link hmem
        obtain hv | hv := List.mem_append.mp (hkept.expanded ▸ hv)
        · refine Relaxed.kept ?_ (List.mem_append_left _ hv) hkept
          exact hsettled v hv link hmem
        · exact List.mem_singleton.mp hv ▸ hrelaxed link (List.mem_singleton.mp hv ▸ hmem)
      refine (ih hinv hall).mono ?_
      rintro st' ⟨hinv', hsettled', hend⟩
      refine ⟨hinv', hsettled', hend.imp_right fun hlength => ?_⟩
      rw [hlength, hkept.expanded, List.length_append, List.length_singleton]
      omega

omit hweight

/-- The distances are those of the shortest paths, and `outPath` leads along such paths. The loop ends after at most as
many rounds as there are nodes. -/
theorem distances_least [Fintype N] (hweight : ∀ v, ∀ link ∈ g.inLinks v, 0 < link.weight) {n : ℕ}
    (hn : Fintype.card N ≤ n) :
    Returns (g.calculateWeightedSingleShortestPathsTo target n) fun st =>
      st.q = [] ∧ st.expanded.Nodup ∧ ∀ v, IsLeast {c | c = ⊤ ∨ g.Path target v c} (st.dist v) ∧
        (st.dist v ≠ ⊤ → g.Follows target st.outPath st.expanded v (st.dist v)) := by
  have hstart := @start_inv N _ g target (Function.update (fun _ => ⊤) target 0)
    (Function.update_self _ _ _) fun _ hv => Function.update_of_ne hv _ _
  refine (rounds_return hweight n hstart fun _ hv => by cases hv).mono ?_
  rintro st ⟨h, hsettled, hend⟩
  have hempty : st.q = [] := by
    refine hend.elim id fun hlength => List.eq_nil_iff_forall_not_mem.mpr fun v hv => ?_
    have hsize := (List.nodup_cons.mpr ⟨fun hold => h.fresh v hold hv, h.expanded_nodup⟩).length_le_card
    rw [List.length_cons, hlength, List.length_nil] at hsize
    omega
  refine ⟨hempty, h.expanded_nodup, fun v => ⟨⟨?_, ?_⟩, h.follows v⟩⟩
  · exact or_iff_not_imp_left.mpr fun hv => (h.follows v hv).path
  · rintro c (rfl | hpath)
    · exact le_top
    · by_cases hv : v ∈ st.expanded
      · exact h.least v hv c hpath
      · refine le_of_not_gt fun hlt => ?_
        obtain ⟨u, hu, -⟩ := exists_queued_le h hsettled hpath hv (hlt.trans_le le_top).ne
        exact List.not_mem_nil (hempty ▸ hu)

/-- A node with one neighbor, that routes nothing. -/
def pair : WeightedTopology Bool := ⟨fun v => if v then [] else [⟨true, 3, true⟩], fun _ => ⊤, fun _ => true⟩

theorem distances_least_pair :
    Returns (pair.calculateWeightedSingleShortestPathsTo false 2) fun st =>
      st.q = [] ∧ st.expanded.Nodup ∧ ∀ v, IsLeast {c | c = ⊤ ∨ pair.Path false v c} (st.dist v) ∧
        (st.dist v ≠ ⊤ → pair.Follows false st.outPath st.expanded v (st.dist v)) :=
  distances_least (by simp [pair]) le_rfl

end WeightedTopology

end inet
