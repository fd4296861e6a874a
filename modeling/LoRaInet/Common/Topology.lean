import LoRaInet.Container.LowerBound
import LoRaInet.Kernel.Assert
import Mathlib.Order.Basic

open omnetpp container

namespace inet

namespace Topology

/-- The end of a link at which a node lists it. -/
inductive End where
  | source
  | dest
  deriving DecidableEq

def End.other : End → End
  | .source => .dest
  | .dest => .source

/-- The `outLinks` of a node are those it is the source of, its `inLinks` those it is the
destination of. Links and nodes are pointers. -/
structure Node where
  moduleId : BitVec 32
  links : End → List ℕ := fun _ => []

/-- `srcNode` and `destNode` of a link, with their gates. -/
structure Link where
  node : End → Option ℕ := fun _ => none
  gateId : End → ℤ := fun _ => -1

end Topology

/-- The nodes, and the objects that the pointers point to. -/
structure Topology where
  nodes : List ℕ := []
  node : ℕ → Option Topology.Node := fun _ => none
  link : ℕ → Option Topology.Link := fun _ => none

namespace Topology

variable {A : Type} (t : Topology) (n l : ℕ) (e : End)

def deref : Option A → Except Fault A
  | some a => .ok a
  | none => .error .nullPointer

def moduleId : BitVec 32 := ((t.node n).map (·.moduleId)).getD (-1)

def linksOf : List ℕ := (t.node n).elim [] (·.links e)

def nodeOf : Option ℕ := (t.link l).bind (·.node e)

def setLinks (links : List ℕ) : Topology :=
  { t with node := Function.update t.node n ((t.node n).map fun node =>
      { node with links := Function.update node.links e links }) }

def setLink (link : Option Link) : Topology :=
  { t with link := Function.update t.link l link }

/-- `unlinkFromSourceNode` and `unlinkFromDestNode`. -/
def unlinkFrom : Except Fault Topology := do
  let link ← deref (t.link l)
  let n ← deref (link.node e)
  let _ ← deref (t.node n)
  ASSERT (l ∈ t.linksOf n e) "it != links.end()"
  .ok (t.setLinks n e ((t.linksOf n e).erase l))

/-- One round of the loop over the links of a node, whose iterators do not survive that the vector
changes. -/
def deleteRound (links : List ℕ) (t : Topology) (l : ℕ) : Except Fault Topology := do
  let t ← t.unlinkFrom l e.other
  if t.linksOf n e = links then .ok (t.setLink l none) else .error .outOfRange

def deleteLinks : Except Fault Topology := do
  let t ← (t.linksOf n e).foldlM (deleteRound n e (t.linksOf n e)) t
  .ok (t.setLinks n e [])

def eraseNode : Topology :=
  { t with nodes := t.nodes.erase n, node := Function.update t.node n none }

def deleteNode : Except Fault Topology := do
  let t ← t.deleteLinks n .source
  let t ← t.deleteLinks n .dest
  ASSERT (n ∈ t.nodes) "it != nodes.end()"
  .ok (t.eraseNode n)

/-- The nodes without a module come last, as their id is the largest as an unsigned number. -/
def lessByModuleId (moduleId : BitVec 32) (n : ℕ) : Bool := (t.moduleId n).toNat < moduleId.toNat

def lowerBoundOf (moduleId : BitVec 32) : ℕ :=
  lowerBound (t.lessByModuleId moduleId) t.nodes 0 t.nodes.length

/-- The index that `addNode` returns. -/
def newIndex (moduleId : BitVec 32) : ℕ :=
  if moduleId = -1 then t.nodes.length else t.lowerBoundOf moduleId

def addNode (moduleId : BitVec 32) : Topology :=
  { t with
    nodes := t.nodes.take (t.newIndex moduleId) ++ n :: t.nodes.drop (t.newIndex moduleId)
    node := Function.update t.node n (some { moduleId }) }

def getNodeFor (moduleId : BitVec 32) : Option ℕ :=
  t.nodes[t.lowerBoundOf moduleId]?.filter fun n => t.moduleId n = moduleId

def unlink (e : End) (t : Topology) : Except Fault Topology :=
  if (t.nodeOf l e).isSome then t.unlinkFrom l e else .ok t

/-- Removed from the graph if it's already in. -/
def detach : Except Fault Topology := do
  let t ← t.unlink l .source
  t.unlink l .dest

def insert (link : Link) (source dest : ℕ) : Except Fault Topology := do
  let t := t.setLink l (some link)
  let _ ← deref (t.node source)
  let t := t.setLinks source .source (t.linksOf source .source ++ [l])
  let _ ← deref (t.node dest)
  .ok (t.setLinks dest .dest (t.linksOf dest .dest ++ [l]))

def ends (source dest : ℕ) : End → Option ℕ
  | .source => some source
  | .dest => some dest

def addLink (source dest : ℕ) : Except Fault Topology := do
  let link ← deref (t.link l)
  let t ← t.detach l
  t.insert l
    { node := ends source dest
      gateId := fun e => if link.node e = ends source dest e then link.gateId e else -1 } source dest

/-- `addLink` with gates, of which only the module and the id matter. -/
def addLinkOfGates (module gateId : End → BitVec 32) : Except Fault Topology := do
  let _ ← deref (t.link l)
  let t ← t.detach l
  match t.getNodeFor (module .source), t.getNodeFor (module .dest) with
  | some source, some dest =>
    t.insert l { node := ends source dest, gateId := fun e => (gateId e).toInt } source dest
  | none, _ => .error (.cRuntimeError "cTopology::addLink: module of source gate is not in the graph")
  | _, none =>
    .error (.cRuntimeError "cTopology::addLink: module of destination gate is not in the graph")

def deleteLink : Except Fault Topology := do
  let t ← t.unlinkFrom l .source
  let t ← t.unlinkFrom l .dest
  .ok (t.setLink l none)

variable {t t' : Topology} {n m l l' : ℕ} {e e' : End} {S S' : ℕ → Option ℕ}

/-- Only links have changed. -/
def Same (t t' : Topology) : Prop :=
  t'.nodes = t.nodes ∧ ∀ n, (t'.node n).map (·.moduleId) = (t.node n).map (·.moduleId)

theorem Same.trans {t'' : Topology} (h : Same t t') (h' : Same t' t'') : Same t t'' :=
  ⟨h'.1.trans h.1, fun n => (h'.2 n).trans (h.2 n)⟩

/-- The nodes of the graph are in the order of their module ids. -/
structure Ordered (t : Topology) : Prop where
  nodup : t.nodes.Nodup
  mem : ∀ n, n ∈ t.nodes ↔ (t.node n).isSome
  sorted : t.nodes.Pairwise fun a b => (t.moduleId a).toNat ≤ (t.moduleId b).toNat
  distinct : ∀ a ∈ t.nodes, ∀ b ∈ t.nodes, t.moduleId a = t.moduleId b → t.moduleId a ≠ -1 → a = b

theorem Ordered.same (h : Ordered t) (hsame : Same t t') : Ordered t' := by
  obtain ⟨hnodes, hnode⟩ := hsame
  have hid : ∀ n, t'.moduleId n = t.moduleId n := fun n => by rw [moduleId, hnode, moduleId]
  refine ⟨hnodes ▸ h.nodup, fun n => ?_, ?_, ?_⟩
  · have hsome := congrArg Option.isSome (hnode n)
    rw [Option.isSome_map, Option.isSome_map] at hsome
    rw [hnodes, hsome]
    exact h.mem n
  · simpa only [hnodes, hid] using h.sorted
  · simpa only [hnodes, hid] using h.distinct

/-- The links that the nodes list at an end are those whose end they are. -/
def Listed (t : Topology) (e : End) (S : ℕ → Option ℕ) : Prop :=
  ∀ n ∈ t.nodes, (t.linksOf n e).Nodup ∧ ∀ l, l ∈ t.linksOf n e ↔ S l = some n

theorem Listed.congr (h : Listed t e S) (hsame : Same t t')
    (hlinks : ∀ n, t'.linksOf n e = t.linksOf n e) : Listed t' e S := by
  intro n hn
  rw [hlinks]
  exact h n (hsame.1 ▸ hn)

theorem linksOf_setLinks (hn : (t.node n).isSome) (links : List ℕ) (m : ℕ) (e' : End) :
    (t.setLinks n e links).linksOf m e' = if m = n ∧ e' = e then links else t.linksOf m e' := by
  obtain ⟨node, hnode⟩ := Option.isSome_iff_exists.mp hn
  by_cases hm : m = n
  · subst hm
    simp [linksOf, setLinks, hnode, Function.update_apply]
  · simp [linksOf, setLinks, hm]

theorem same_setLinks (t : Topology) (n : ℕ) (e : End) (links : List ℕ) :
    Same t (t.setLinks n e links) := by
  refine ⟨rfl, fun m => ?_⟩
  by_cases hm : m = n
  · subst hm
    simp [setLinks, Function.comp_def]
  · simp [setLinks, hm]

/-- What changes when the links of one node are set at one end. -/
structure Relinked (t t' : Topology) (e : End) (S : ℕ → Option ℕ) : Prop where
  same : Same t t'
  link : t'.link = t.link
  others : ∀ n e', e' ≠ e → t'.linksOf n e' = t.linksOf n e'
  listed : Listed t' e S

theorem relinked_setLinks {links : List ℕ} (ht : Ordered t) (hn : n ∈ t.nodes)
    (hlisted : Listed t e S) (hnodup : links.Nodup) (hlinks : ∀ l, l ∈ links ↔ S' l = some n)
    (hothers : ∀ m, m ≠ n → ∀ l, S' l = some m ↔ S l = some m) :
    Relinked t (t.setLinks n e links) e S' := by
  have hlinksOf := linksOf_setLinks (e := e) ((ht.mem n).mp hn) links
  refine ⟨same_setLinks t n e links, rfl, fun m e' he => ?_, fun m hm => ?_⟩
  · rw [hlinksOf, if_neg fun h => he h.2]
  · rw [hlinksOf]
    by_cases hsame : m = n
    · subst hsame
      rw [if_pos ⟨rfl, rfl⟩]
      exact ⟨hnodup, hlinks⟩
    · rw [if_neg fun h => hsame h.1]
      exact ⟨(hlisted m hm).1, fun l => ((hlisted m hm).2 l).trans (hothers m hsame l).symm⟩

theorem update_eq_some_iff {v : Option ℕ} (hv : v ≠ some m) :
    Function.update S l v l' = some m ↔ l' ≠ l ∧ S l' = some m := by
  by_cases hl : l' = l
  · subst hl
    simp [hv]
  · simp [hl]

theorem unlinkFrom_returns (ht : Ordered t) (hn : n ∈ t.nodes) (hlisted : Listed t e S)
    (hS : S l = some n) (hnode : t.nodeOf l e = some n) :
    Returns (t.unlinkFrom l e) fun t' => Relinked t t' e (Function.update S l none) := by
  obtain ⟨link, hlink, hend⟩ := Option.bind_eq_some_iff.mp hnode
  obtain ⟨node, hsome⟩ := Option.isSome_iff_exists.mp ((ht.mem n).mp hn)
  obtain ⟨hnodup, hmem⟩ := hlisted n hn
  have heq : t.unlinkFrom l e = .ok (t.setLinks n e ((t.linksOf n e).erase l)) := by
    simp [unlinkFrom, deref, hlink, hend, hsome, ASSERT, (hmem l).mpr hS, bind, Except.bind]
  rw [heq]
  refine .ok (relinked_setLinks ht hn hlisted (hnodup.erase l) (fun k => ?_) fun m hm k => ?_)
  · rw [hnodup.mem_erase_iff, hmem, update_eq_some_iff (by simp)]
  · rw [update_eq_some_iff (by simp), and_iff_right_iff_imp]
    rintro hk rfl
    exact hm (Option.some.inj (hk.symm.trans hS))

/-- The graph is one: every link is listed once at both of its ends, or it is not in the graph. -/
structure Valid (t : Topology) : Prop where
  ordered : Ordered t
  listed : ∀ e, Listed t e (t.nodeOf · e)
  ends : ∀ l e n, t.nodeOf l e = some n → n ∈ t.nodes
  both : ∀ l e, (t.nodeOf l e).isSome → (t.nodeOf l e.other).isSome

theorem End.other_ne (e : End) : e.other ≠ e := by cases e <;> simp [other]

theorem nodeOf_setLink (link : Option Link) :
    (t.setLink l link).nodeOf l' e = if l' = l then link.bind (·.node e) else t.nodeOf l' e := by
  by_cases hl : l' = l
  · subst hl
    simp [nodeOf, setLink]
  · simp [nodeOf, setLink, hl]

theorem nodeOf_detached (l : ℕ) (e : End) :
    ((t.setLink l none).nodeOf · e) = Function.update (t.nodeOf · e) l none := by
  funext k
  rw [nodeOf_setLink, Function.update_apply]
  rfl

/-- The loop has deleted some of the links of the node, which still lists them. -/
structure Deleted (t : Topology) (n : ℕ) (e : End) (s : Topology) : Prop where
  same : Same t s
  kept : ∀ m, s.linksOf m e = t.linksOf m e
  listed : Listed s e.other (s.nodeOf · e.other)
  sub : ∀ l, (∀ e', s.nodeOf l e' = none) ∨ ∀ e', s.nodeOf l e' = t.nodeOf l e'
  others : ∀ l, t.nodeOf l e ≠ some n → ∀ e', s.nodeOf l e' = t.nodeOf l e'

theorem Deleted.eq_of_isSome {s : Topology} (h : Deleted t n e s) (hsome : (s.nodeOf l e').isSome)
    (e'' : End) : s.nodeOf l e'' = t.nodeOf l e'' := by
  obtain hnone | heq := h.sub l
  · simp [hnone] at hsome
  · exact heq e''

theorem Deleted.round (ht : Valid t) {s : Topology} (h : Deleted t n e s)
    (hl : s.nodeOf l e = some n) :
    Returns (deleteRound n e (t.linksOf n e) s l) fun s' => Deleted t n e s' ∧
      ∀ k, s'.nodeOf k e = if k = l then none else s.nodeOf k e := by
  have heq := h.eq_of_isSome (l := l) (by rw [hl]; rfl)
  obtain ⟨m, hm⟩ := Option.isSome_iff_exists.mp (ht.both l e (by rw [← heq, hl]; rfl))
  have hnode := (heq e.other).trans hm
  have hmem := ht.ends l e.other m hm
  refine (unlinkFrom_returns (ht.ordered.same h.same) (h.same.1 ▸ hmem) h.listed hnode hnode).bind
    fun s' hs' => ?_
  have hkept : ∀ k, s'.linksOf k e = t.linksOf k e := fun k =>
    (hs'.others k e e.other_ne.symm).trans (h.kept k)
  have hnodeOf : ∀ k e', (s'.setLink l none).nodeOf k e' = if k = l then none else s.nodeOf k e' := by
    intro k e'
    rw [nodeOf_setLink, nodeOf, nodeOf, hs'.link]
    rfl
  rw [if_pos (hkept n)]
  refine .ok ⟨⟨h.same.trans hs'.same, hkept, ?_, fun k => ?_, fun k hk e' => ?_⟩, (hnodeOf · e)⟩
  · rw [nodeOf_detached]
    simp only [nodeOf, hs'.link]
    exact hs'.listed
  · simp only [hnodeOf]
    by_cases hk : k = l
    · simp [hk]
    · simpa [hk] using h.sub k
  · have hne : k ≠ l := fun hkl => hk (hkl ▸ (heq e).symm.trans hl)
    rw [hnodeOf, if_neg hne]
    exact h.others k hk e'

theorem Deleted.loop (ht : Valid t) {s : Topology} {todo : List ℕ}
    (h : Deleted t n e s) (hnodup : todo.Nodup) (hall : ∀ l ∈ todo, s.nodeOf l e = some n) :
    Returns (todo.foldlM (deleteRound n e (t.linksOf n e)) s) fun s' => Deleted t n e s' ∧
      ∀ l, s'.nodeOf l e = some n → s.nodeOf l e = some n ∧ l ∉ todo := by
  induction todo generalizing s with
  | nil => exact .pure ⟨h, fun l hl => ⟨hl, List.not_mem_nil⟩⟩
  | cons l todo ih =>
    obtain ⟨hl, hnodup⟩ := List.nodup_cons.mp hnodup
    rw [List.foldlM_cons]
    refine (h.round ht (hall l (.head _))).bind fun s' ⟨hs', hnode⟩ => ?_
    refine (ih hs' hnodup fun k hk => ?_).mono fun s'' ⟨hs'', hdone⟩ => ⟨hs'', fun k hk => ?_⟩
    · rw [hnode, if_neg fun hkl : k = l => hl (hkl ▸ hk)]
      exact hall k (List.mem_cons_of_mem l hk)
    · obtain ⟨hk, htodo⟩ := hdone k hk
      rw [hnode] at hk
      split at hk
      · cases hk
      · next hne => exact ⟨hk, by simp [hne, htodo]⟩

/-- A detached link gets new ends, or is deleted. -/
theorem Detached.valid {t'' : Topology} (l : ℕ) (ends : End → Option ℕ) (ht : Valid t)
    (hsame : Same t t'') (hlisted : ∀ e, Listed t'' e (Function.update (t.nodeOf · e) l (ends e)))
    (hnodeOf : ∀ k e, t''.nodeOf k e = if k = l then ends e else t.nodeOf k e)
    (hends : ∀ e n, ends e = some n → n ∈ t.nodes)
    (hboth : ∀ e, (ends e).isSome → (ends e.other).isSome) : Valid t'' := by
  have hupdate : ∀ e, (t''.nodeOf · e) = Function.update (t.nodeOf · e) l (ends e) := fun e => by
    funext k
    rw [hnodeOf, Function.update_apply]
  refine ⟨ht.ordered.same hsame, fun e => hupdate e ▸ hlisted e, fun k e n hn => ?_, fun k e hk => ?_⟩
  · rw [hsame.1]
    rw [hnodeOf] at hn
    split at hn
    · exact hends e n hn
    · exact ht.ends k e n hn
  · rw [hnodeOf] at hk ⊢
    split
    · next hkl =>
      rw [if_pos hkl] at hk
      exact hboth e hk
    · next hkl =>
      rw [if_neg hkl] at hk
      exact ht.both k e hk

inductive Call where
  | addNode (node : ℕ) (moduleId : BitVec 32)
  | deleteNode (node : ℕ)
  | newLink (link : ℕ)
  | addLink (link source dest : ℕ)
  | addLinkOfGates (link : ℕ) (module gateId : End → BitVec 32)
  | deleteLink (link : ℕ)

/-- The pointers are those of objects, new nodes have new module ids or none, and what is linked is
in the graph. -/
def Allows (t : Topology) : Call → Prop
  | .addNode n id => t.node n = none ∧ (id = -1 ∨ ∀ m ∈ t.nodes, t.moduleId m ≠ id)
  | .deleteNode n => n ∈ t.nodes
  | .newLink l => t.link l = none
  | .addLink l source dest => (t.link l).isSome ∧ source ∈ t.nodes ∧ dest ∈ t.nodes
  | .addLinkOfGates l module _ => (t.link l).isSome ∧
    ∀ e, module e ≠ -1 ∧ ∃ n ∈ t.nodes, t.moduleId n = module e
  | .deleteLink l => (t.nodeOf l .source).isSome

def perform (t : Topology) : Call → Except Fault Topology
  | .addNode n id => .ok (t.addNode n id)
  | .deleteNode n => t.deleteNode n
  | .newLink l => .ok (t.setLink l (some {}))
  | .addLink l source dest => t.addLink l source dest
  | .addLinkOfGates l module gateId => t.addLinkOfGates l module gateId
  | .deleteLink l => t.deleteLink l

def AllowsAll (t : Topology) : List Call → Prop
  | [] => True
  | call :: calls => t.Allows call ∧ ∀ t', t.perform call = .ok t' → t'.AllowsAll calls

end Topology

end inet
