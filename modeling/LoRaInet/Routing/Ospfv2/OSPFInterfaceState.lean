import LoRaInet.NetworkLayer.IPv4.IPv4Route
import Mathlib.Data.List.MinMax
import Mathlib.Data.List.Nodup
import Mathlib.Data.Prod.Lex

namespace inet.ospf

abbrev RouterID := IPv4Address

def NULL_ROUTERID : RouterID := 0

structure DesignatedRouterID where
  routerID : RouterID
  ipInterfaceAddress : IPv4Address
  deriving DecidableEq

def NULL_DESIGNATEDROUTERID : DesignatedRouterID := ⟨NULL_ROUTERID, 0⟩

inductive NeighborStateType where
  | DOWN_STATE
  | ATTEMPT_STATE
  | INIT_STATE
  | TWOWAY_STATE
  | EXCHANGE_START_STATE
  | EXCHANGE_STATE
  | LOADING_STATE
  | FULL_STATE

/-- The values of the enumeration, by which states are compared. -/
def NeighborStateType.value : NeighborStateType → ℕ
  | .DOWN_STATE => 0
  | .ATTEMPT_STATE => 1
  | .INIT_STATE => 2
  | .TWOWAY_STATE => 4
  | .EXCHANGE_START_STATE => 8
  | .EXCHANGE_STATE => 16
  | .LOADING_STATE => 32
  | .FULL_STATE => 64

inductive NeighborEventType where
  | START
  | IS_ADJACENCY_OK

structure Neighbor where
  neighborID : RouterID
  neighborPriority : ℕ
  neighborIPAddress : IPv4Address
  state : NeighborStateType
  neighborsDesignatedRouter : DesignatedRouterID
  neighborsBackupDesignatedRouter : DesignatedRouterID

inductive OSPFInterfaceType where
  | UNKNOWN_TYPE
  | POINTTOPOINT
  | BROADCAST
  | NBMA
  | POINTTOMULTIPOINT
  | VIRTUAL
  deriving DecidableEq

inductive InterfaceStateType where
  | DOWN_STATE
  | LOOPBACK_STATE
  | WAITING_STATE
  | POINTTOPOINT_STATE
  | NOT_DESIGNATED_ROUTER_STATE
  | BACKUP_STATE
  | DESIGNATED_ROUTER_STATE
  deriving DecidableEq

structure Interface where
  /-- The ID of the router that the interface belongs to. -/
  routerID : RouterID
  interfaceType : OSPFInterfaceType
  state : InterfaceStateType
  address : IPv4Address
  routerPriority : ℕ
  neighboringRouters : List Neighbor
  designatedRouter : DesignatedRouterID
  backupDesignatedRouter : DesignatedRouterID

namespace InterfaceState

/-- The designated router and the backup. -/
structure Routers where
  designatedRouter : DesignatedRouterID
  backupDesignatedRouter : DesignatedRouterID
  deriving DecidableEq

section Election

/-- The highest router that a loop has seen, and the priority and the ID it was taken with. -/
structure Highest where
  router : DesignatedRouterID := NULL_DESIGNATEDROUTERID
  priority : ℕ := 0
  id : RouterID := NULL_ROUTERID

/-- The comparison that both loops make. -/
def Highest.below (highest : Highest) (priority : ℕ) (id : RouterID) : Prop :=
  priority > highest.priority ∨ priority = highest.priority ∧ id > highest.id
deriving Decidable

def Highest.raise (highest : Highest) (router : DesignatedRouterID) (priority : ℕ) (id : RouterID) : Highest :=
  if highest.below priority id then ⟨router, priority, id⟩ else highest

/-- The variables of the loop for the backup. -/
structure Backup where
  declared : Highest := {}
  backupDeclared : Bool := false
  highest : Highest := {}

def Backup.declare (backup : Backup) (router : DesignatedRouterID) (priority : ℕ) (id : RouterID) : Backup :=
  if backup.declared.below priority id then
    { backup with declared := ⟨router, priority, id⟩, backupDeclared := true }
  else backup

def Backup.visit (backup : Backup) (neighbor : Neighbor) : Backup :=
  if neighbor.state.value < NeighborStateType.TWOWAY_STATE.value then backup
  else if neighbor.neighborPriority = 0 then backup
  else if neighbor.neighborsDesignatedRouter.routerID ≠ neighbor.neighborID then
    let backup :=
      if neighbor.neighborsBackupDesignatedRouter.routerID = neighbor.neighborID then
        backup.declare neighbor.neighborsBackupDesignatedRouter neighbor.neighborPriority neighbor.neighborID
      else backup
    if ¬backup.backupDeclared then
      { backup with
        highest := backup.highest.raise ⟨neighbor.neighborID, neighbor.neighborIPAddress⟩
          neighbor.neighborPriority neighbor.neighborID }
    else backup
  else backup

variable (intf : Interface)

/-- The router itself is included. The highest neighbor is only taken in here. -/
def Backup.visitSelf (current : Routers) (backup : Backup) : Backup :=
  if intf.routerPriority > 0 then
    if current.designatedRouter.routerID ≠ intf.routerID then
      let backup :=
        if current.backupDesignatedRouter.routerID = intf.routerID then
          backup.declare ⟨intf.routerID, intf.address⟩ intf.routerPriority intf.routerID
        else backup
      if ¬backup.backupDeclared then
        if backup.highest.below intf.routerPriority intf.routerID then
          { backup with
            declared := ⟨⟨intf.routerID, intf.address⟩, intf.routerPriority, intf.routerID⟩
            backupDeclared := true }
        else { backup with declared := backup.highest, backupDeclared := true }
      else backup
    else backup
  else backup

/-- The variables of the loop for the designated router. -/
structure Designated where
  declared : Highest := {}
  designatedRouterDeclared : Bool := false

def Designated.declare (designated : Designated) (router : DesignatedRouterID) (priority : ℕ) (id : RouterID) :
    Designated :=
  if designated.declared.below priority id then ⟨⟨router, priority, id⟩, true⟩ else designated

def Designated.visit (designated : Designated) (neighbor : Neighbor) : Designated :=
  if neighbor.state.value < NeighborStateType.TWOWAY_STATE.value then designated
  else if neighbor.neighborPriority = 0 then designated
  else if neighbor.neighborsDesignatedRouter.routerID = neighbor.neighborID then
    designated.declare neighbor.neighborsDesignatedRouter neighbor.neighborPriority neighbor.neighborID
  else designated

def Designated.visitSelf (current : Routers) (designated : Designated) : Designated :=
  if intf.routerPriority > 0 then
    if current.designatedRouter.routerID = intf.routerID then
      designated.declare ⟨intf.routerID, intf.address⟩ intf.routerPriority intf.routerID
    else designated
  else designated

/-- One round of the loop. -/
def elect (current : Routers) : Routers :=
  let backup := (intf.neighboringRouters.foldl Backup.visit {}).visitSelf intf current
  let designated := (intf.neighboringRouters.foldl Designated.visit {}).visitSelf intf current
  { designatedRouter :=
      if designated.designatedRouterDeclared then designated.declared.router else backup.declared.router
    backupDesignatedRouter := backup.declared.router }

/-- The roles that the interface has before the election. -/
def currentRouters : Routers := ⟨intf.designatedRouter, intf.backupDesignatedRouter⟩

end Election

/-- The interface after the election, the states it was changed to and the events of its neighbors, in their order. -/
structure Outcome where
  intf : Interface
  changes : List InterfaceStateType
  events : List (RouterID × NeighborEventType)

section Procedure

/-- An eligible router on the network: how it is named, and how it names itself where it declares itself to have a role. -/
structure Candidate where
  id : RouterID
  priority : ℕ
  own : DesignatedRouterID
  whenDesignated : Option DesignatedRouterID
  whenBackup : Option DesignatedRouterID

/-- Routers are ordered by priority, then by ID. -/
def Candidate.key (candidate : Candidate) : ℕ ×ₗ ℕ := toLex (candidate.priority, candidate.id.toNat)

/-- The best router under one of its names. -/
def chosen (name : Candidate → DesignatedRouterID) (best : Option Candidate) : DesignatedRouterID :=
  best.elim NULL_DESIGNATEDROUTERID name

def asDesignated (candidate : Candidate) : DesignatedRouterID :=
  candidate.whenDesignated.getD NULL_DESIGNATEDROUTERID

def asBackup (candidate : Candidate) : DesignatedRouterID := candidate.whenBackup.getD NULL_DESIGNATEDROUTERID

def declaringDesignated (candidates : List Candidate) : List Candidate :=
  candidates.filter fun candidate => candidate.whenDesignated.isSome

/-- The routers that may become backup. -/
def notDesignated (candidates : List Candidate) : List Candidate :=
  candidates.filter fun candidate => candidate.whenDesignated.isNone

def declaringBackup (candidates : List Candidate) : List Candidate :=
  (notDesignated candidates).filter fun candidate => candidate.whenBackup.isSome

/-- The second step of the procedure of RFC 2328, section 9.4. -/
def newBackup (candidates : List Candidate) : DesignatedRouterID :=
  if declaringBackup candidates = [] then chosen Candidate.own ((notDesignated candidates).argmax Candidate.key)
  else chosen asBackup ((declaringBackup candidates).argmax Candidate.key)

/-- The second and the third step. -/
def pass (candidates : List Candidate) : Routers where
  designatedRouter :=
    if declaringDesignated candidates = [] then newBackup candidates
    else chosen asDesignated ((declaringDesignated candidates).argmax Candidate.key)
  backupDesignatedRouter := newBackup candidates

/-- A neighbor with which there is two-way communication, and which is eligible. -/
def Neighbor.candidate (neighbor : Neighbor) : Option Candidate :=
  if neighbor.state.value < NeighborStateType.TWOWAY_STATE.value ∨ neighbor.neighborPriority = 0 then none
  else some
    { id := neighbor.neighborID
      priority := neighbor.neighborPriority
      own := ⟨neighbor.neighborID, neighbor.neighborIPAddress⟩
      whenDesignated :=
        if neighbor.neighborsDesignatedRouter.routerID = neighbor.neighborID then
          some neighbor.neighborsDesignatedRouter else none
      whenBackup :=
        if neighbor.neighborsBackupDesignatedRouter.routerID = neighbor.neighborID then
          some neighbor.neighborsBackupDesignatedRouter else none }

variable (intf : Interface)

def neighborCandidates : List Candidate := intf.neighboringRouters.filterMap Neighbor.candidate

/-- The router itself, with the roles it has when the steps are made. -/
def selfCandidate (current : Routers) : Candidate where
  id := intf.routerID
  priority := intf.routerPriority
  own := ⟨intf.routerID, intf.address⟩
  whenDesignated :=
    if current.designatedRouter.routerID = intf.routerID then some ⟨intf.routerID, intf.address⟩ else none
  whenBackup :=
    if current.backupDesignatedRouter.routerID = intf.routerID then some ⟨intf.routerID, intf.address⟩ else none

/-- The list of routers that the procedure looks at. -/
def candidates (current : Routers) : List Candidate :=
  neighborCandidates intf ++ if 0 < intf.routerPriority then [selfCandidate intf current] else []

/-- The router itself has got or lost one of the roles. -/
def OwnRoleChanges (current next : Routers) : Prop :=
  ¬(current.designatedRouter.routerID = intf.routerID ↔ next.designatedRouter.routerID = intf.routerID) ∨
    ¬(current.backupDesignatedRouter.routerID = intf.routerID ↔ next.backupDesignatedRouter.routerID = intf.routerID)
deriving Decidable

/-- The first pass of the procedure. -/
def firstPass : Routers := pass (candidates intf (currentRouters intf))

end Procedure

section Refinement

variable {best : Option Candidate} {candidate : Candidate} {name : Candidate → DesignatedRouterID}
  {l : List Candidate}

/-- What a loop keeps of the best router. -/
def kept (name : Candidate → DesignatedRouterID) : Option Candidate → Highest
  | none => {}
  | some candidate => ⟨name candidate, candidate.priority, candidate.id⟩

theorem kept_router : (kept name best).router = chosen name best := by
  cases best <;> rfl

open Candidate

theorem key_lt_key {first second : Candidate} :
    first.key < second.key ↔ first.priority < second.priority ∨
      first.priority = second.priority ∧ first.id < second.id := by
  rw [key, key, Prod.Lex.toLex_lt_toLex]
  rfl

theorem kept_argmax_concat (name : Candidate → DesignatedRouterID) (l : List Candidate) (hpriority : 0 < candidate.priority) :
    kept name ((l ++ [candidate]).argmax key) =
      if (kept name (l.argmax key)).below candidate.priority candidate.id then
        ⟨name candidate, candidate.priority, candidate.id⟩
      else kept name (l.argmax key) := by
  rw [List.argmax_concat]
  cases l.argmax key with
  | none => exact (if_pos (.inl hpriority)).symm
  | some other =>
    have hbelow : (kept name (some other)).below candidate.priority candidate.id ↔ other.key < candidate.key := by
      rw [key_lt_key, Highest.below, kept]
      constructor
      · exact Or.imp_right fun h => ⟨h.1.symm, h.2⟩
      · exact Or.imp_right fun h => ⟨h.1.symm, h.2⟩
    by_cases hlt : other.key < candidate.key
    · rw [if_pos (hbelow.mpr hlt)]
      dsimp only
      rw [if_pos hlt]
      rfl
    · rw [if_neg (hbelow.not.mpr hlt)]
      dsimp only
      rw [if_neg hlt]

/-- The variables of the loop for the backup follow the candidates it has seen. -/
structure Backup.Follows (l : List Candidate) (backup : Backup) : Prop where
  declared : backup.declared = kept asBackup ((declaringBackup l).argmax Candidate.key)
  backupDeclared : backup.backupDeclared = true ↔ declaringBackup l ≠ []
  highest : declaringBackup l = [] → backup.highest = kept Candidate.own ((notDesignated l).argmax Candidate.key)

structure Designated.Follows (l : List Candidate) (designated : Designated) : Prop where
  declared : designated.declared = kept asDesignated ((declaringDesignated l).argmax Candidate.key)
  designatedRouterDeclared : designated.designatedRouterDeclared = true ↔ declaringDesignated l ≠ []

variable {backup : Backup}

theorem Backup.Follows.declare (h : backup.Follows l) (candidate : Candidate) (hpriority : 0 < candidate.priority)
    (hrole : candidate.whenDesignated = none) (hbackup : candidate.whenBackup.isSome = true) :
    (backup.declare (asBackup candidate) candidate.priority candidate.id).Follows (l ++ [candidate]) := by
  have hlist : declaringBackup (l ++ [candidate]) = declaringBackup l ++ [candidate] := by
    simp [declaringBackup, notDesignated, hrole, hbackup]
  have hnonempty : declaringBackup (l ++ [candidate]) ≠ [] := by
    rw [hlist]
    exact List.append_ne_nil_of_right_ne_nil _ (List.cons_ne_nil _ _)
  have hbest := kept_argmax_concat asBackup (declaringBackup l) hpriority
  rw [Backup.declare]
  split
  · next hbelow =>
    refine ⟨?_, iff_of_true rfl hnonempty, fun hempty => absurd hempty hnonempty⟩
    rw [hlist, hbest, ← h.declared, if_pos hbelow]
  · next hbelow =>
    refine ⟨?_, ?_, fun hempty => absurd hempty hnonempty⟩
    · rw [hlist, hbest, ← h.declared, if_neg hbelow]
    · refine iff_of_true (h.backupDeclared.mpr ?_) hnonempty
      intro hempty
      rw [h.declared, hempty] at hbelow
      exact hbelow (.inl hpriority)

theorem Designated.Follows.declare {designated : Designated} (h : designated.Follows l) (candidate : Candidate)
    (hpriority : 0 < candidate.priority) (hrole : candidate.whenDesignated.isSome = true) :
    (designated.declare (asDesignated candidate) candidate.priority candidate.id).Follows (l ++ [candidate]) := by
  have hlist : declaringDesignated (l ++ [candidate]) = declaringDesignated l ++ [candidate] := by
    simp [declaringDesignated, hrole]
  have hnonempty : declaringDesignated (l ++ [candidate]) ≠ [] := by
    rw [hlist]
    exact List.append_ne_nil_of_right_ne_nil _ (List.cons_ne_nil _ _)
  have hbest := kept_argmax_concat asDesignated (declaringDesignated l) hpriority
  rw [Designated.declare]
  split
  · next hbelow =>
    refine ⟨?_, iff_of_true rfl hnonempty⟩
    rw [hlist, hbest, ← h.declared, if_pos hbelow]
  · next hbelow =>
    constructor
    · rw [hlist, hbest, ← h.declared, if_neg hbelow]
    · refine iff_of_true (h.designatedRouterDeclared.mpr ?_) hnonempty
      intro hempty
      rw [h.declared, hempty] at hbelow
      exact hbelow (.inl hpriority)

theorem Designated.Follows.other {designated : Designated} (h : designated.Follows l)
    (hrole : candidate.whenDesignated = none) : designated.Follows (l ++ [candidate]) := by
  have hlist : declaringDesignated (l ++ [candidate]) = declaringDesignated l := by
    simp [declaringDesignated, hrole]
  exact ⟨by rw [hlist, h.declared], by rw [hlist, h.designatedRouterDeclared]⟩

/-- A router that declares itself designated is no candidate for the backup. -/
theorem Backup.Follows.designated (h : backup.Follows l)
    (hrole : candidate.whenDesignated.isSome = true) : backup.Follows (l ++ [candidate]) := by
  have hnone : candidate.whenDesignated.isNone = false := by
    cases hwhen : candidate.whenDesignated with
    | none =>
      rw [hwhen] at hrole
      cases hrole
    | some _ => rfl
  have heligible : notDesignated (l ++ [candidate]) = notDesignated l := by
    simp [notDesignated, hnone]
  have hlist : declaringBackup (l ++ [candidate]) = declaringBackup l := by
    rw [declaringBackup, heligible, declaringBackup]
  exact ⟨by rw [hlist, h.declared], by rw [hlist, h.backupDeclared],
    fun hempty => by rw [heligible, h.highest (by rwa [hlist] at hempty)]⟩

/-- A router that declares no role is only compared while no backup is declared. -/
theorem Backup.Follows.other (h : backup.Follows l) (candidate : Candidate) (hpriority : 0 < candidate.priority)
    (hrole : candidate.whenDesignated = none) (hbackup : candidate.whenBackup = none) :
    (if ¬backup.backupDeclared then
      { backup with highest := backup.highest.raise candidate.own candidate.priority candidate.id }
      else backup).Follows (l ++ [candidate]) := by
  have heligible : notDesignated (l ++ [candidate]) = notDesignated l ++ [candidate] := by
    simp [notDesignated, hrole]
  have hlist : declaringBackup (l ++ [candidate]) = declaringBackup l := by
    simp [declaringBackup, heligible, hbackup]
  split
  · next hdeclared =>
    refine ⟨by rw [hlist, h.declared], by rw [hlist]; exact h.backupDeclared, ?_⟩
    intro hempty
    rw [hlist] at hempty
    rw [heligible, kept_argmax_concat _ _ hpriority, ← h.highest hempty]
    rfl
  · next hdeclared =>
    refine ⟨by rw [hlist, h.declared], by rw [hlist]; exact h.backupDeclared, ?_⟩
    intro hempty
    rw [hlist] at hempty
    exact absurd (h.backupDeclared.not.mpr (not_not.mpr hempty)) hdeclared

theorem Backup.Follows.visit (h : backup.Follows l) (neighbor : Neighbor) :
    (backup.visit neighbor).Follows (l ++ (Neighbor.candidate neighbor).toList) := by
  rw [Backup.visit, Neighbor.candidate]
  by_cases hstate : neighbor.state.value < NeighborStateType.TWOWAY_STATE.value
  · rw [if_pos hstate, if_pos (.inl hstate), Option.toList_none, List.append_nil]
    exact h
  by_cases hzero : neighbor.neighborPriority = 0
  · rw [if_neg hstate, if_pos hzero, if_pos (.inr hzero), Option.toList_none, List.append_nil]
    exact h
  rw [if_neg hstate, if_neg hzero, if_neg (by tauto), Option.toList_some]
  have hpriority : 0 < neighbor.neighborPriority := Nat.pos_of_ne_zero hzero
  by_cases hrole : neighbor.neighborsDesignatedRouter.routerID = neighbor.neighborID
  · rw [if_neg (not_not.mpr hrole), if_pos hrole]
    exact h.designated rfl
  rw [if_pos hrole, if_neg hrole]
  by_cases hbackup : neighbor.neighborsBackupDesignatedRouter.routerID = neighbor.neighborID
  · rw [if_pos hbackup, if_pos hbackup]
    have hdeclare := h.declare ⟨neighbor.neighborID, neighbor.neighborPriority,
      ⟨neighbor.neighborID, neighbor.neighborIPAddress⟩, none, some neighbor.neighborsBackupDesignatedRouter⟩
      hpriority rfl rfl
    have hset : (backup.declare neighbor.neighborsBackupDesignatedRouter neighbor.neighborPriority
        neighbor.neighborID).backupDeclared = true :=
      hdeclare.backupDeclared.mpr (by simp [declaringBackup, notDesignated])
    rw [if_neg (not_not.mpr hset)]
    exact hdeclare
  · rw [if_neg hbackup, if_neg hbackup]
    exact h.other _ hpriority rfl rfl

theorem Designated.Follows.visit {designated : Designated} (h : designated.Follows l) (neighbor : Neighbor) :
    (designated.visit neighbor).Follows (l ++ (Neighbor.candidate neighbor).toList) := by
  rw [Designated.visit, Neighbor.candidate]
  by_cases hstate : neighbor.state.value < NeighborStateType.TWOWAY_STATE.value
  · rw [if_pos hstate, if_pos (.inl hstate), Option.toList_none, List.append_nil]
    exact h
  by_cases hzero : neighbor.neighborPriority = 0
  · rw [if_neg hstate, if_pos hzero, if_pos (.inr hzero), Option.toList_none, List.append_nil]
    exact h
  rw [if_neg hstate, if_neg hzero, if_neg (by tauto), Option.toList_some]
  by_cases hrole : neighbor.neighborsDesignatedRouter.routerID = neighbor.neighborID
  · rw [if_pos hrole, if_pos hrole]
    exact h.declare ⟨neighbor.neighborID, neighbor.neighborPriority, _,
      some neighbor.neighborsDesignatedRouter, _⟩ (Nat.pos_of_ne_zero hzero) rfl
  · rw [if_neg hrole, if_neg hrole]
    exact h.other rfl

/-- A backup is to be chosen among neighbors that declare no role, where the code has no place for it. -/
def Dropped (intf : Interface) (current : Routers) : Prop :=
  (intf.routerPriority = 0 ∨ current.designatedRouter.routerID = intf.routerID) ∧
    notDesignated (neighborCandidates intf) ≠ [] ∧ declaringBackup (neighborCandidates intf) = []
deriving Decidable

variable {intf : Interface} {current : Routers}

theorem Backup.Follows.declared_router (h : backup.Follows l) (hset : backup.backupDeclared = true) :
    backup.declared.router = newBackup l := by
  rw [h.declared, kept_router, newBackup, if_neg (h.backupDeclared.mp hset)]

/-- Where the fallback is not reached, nothing was to be chosen by it. -/
theorem Backup.Follows.router (h : backup.Follows (neighborCandidates intf))
    (hself : intf.routerPriority = 0 ∨ current.designatedRouter.routerID = intf.routerID)
    (hkept : ¬Dropped intf current) : backup.declared.router = newBackup (neighborCandidates intf) := by
  rw [h.declared, kept_router, newBackup]
  split
  · next hempty =>
    have hnone : notDesignated (neighborCandidates intf) = [] := by
      by_contra hsome
      exact hkept ⟨hself, hsome, hempty⟩
    rw [hempty, hnone]
    rfl
  · rfl

theorem Backup.Follows.visitSelf (h : backup.Follows (neighborCandidates intf))
    (hkept : ¬Dropped intf current) :
    (backup.visitSelf intf current).declared.router = newBackup (candidates intf current) := by
  rw [Backup.visitSelf, candidates]
  by_cases hpriority : 0 < intf.routerPriority
  · rw [if_pos hpriority, if_pos hpriority]
    by_cases hrole : current.designatedRouter.routerID = intf.routerID
    · rw [if_neg (not_not.mpr hrole), h.router (.inr hrole) hkept]
      have hself : (selfCandidate intf current).whenDesignated = some ⟨intf.routerID, intf.address⟩ := if_pos hrole
      have heligible : notDesignated (neighborCandidates intf ++ [selfCandidate intf current]) =
          notDesignated (neighborCandidates intf) := by
        simp [notDesignated, hself]
      rw [newBackup, newBackup, declaringBackup, declaringBackup, heligible]
    · have hself : (selfCandidate intf current).whenDesignated = none := if_neg hrole
      rw [if_pos hrole]
      by_cases hbackup : current.backupDesignatedRouter.routerID = intf.routerID
      · have hwhen : (selfCandidate intf current).whenBackup = some ⟨intf.routerID, intf.address⟩ := if_pos hbackup
        have hname : asBackup (selfCandidate intf current) = ⟨intf.routerID, intf.address⟩ := by
          rw [asBackup, hwhen]
          rfl
        have hdeclare := h.declare (selfCandidate intf current) hpriority hself (by rw [hwhen]; rfl)
        have hset := hdeclare.backupDeclared.mpr (by simp [declaringBackup, notDesignated, hself, hwhen])
        rw [hname] at hdeclare hset
        change (backup.declare ⟨intf.routerID, intf.address⟩ intf.routerPriority intf.routerID).backupDeclared = true
          at hset
        rw [if_pos hbackup, ← hdeclare.declared_router hset]
        rw [if_neg (not_not.mpr hset)]
        rfl
      · have hwhen : (selfCandidate intf current).whenBackup = none := if_neg hbackup
        have hother := h.other (selfCandidate intf current) hpriority hself hwhen
        rw [if_neg hbackup]
        by_cases hset : backup.backupDeclared = true
        · rw [if_neg (not_not.mpr hset)] at hother ⊢
          exact hother.declared_router hset
        · rw [if_pos hset] at hother ⊢
          have hempty : declaringBackup (neighborCandidates intf ++ [selfCandidate intf current]) = [] := by
            by_contra hsome
            exact hset (hother.backupDeclared.mpr hsome)
          rw [newBackup, if_pos hempty, ← kept_router, ← hother.highest hempty]
          change _ = (if backup.highest.below intf.routerPriority intf.routerID then
            (⟨⟨intf.routerID, intf.address⟩, intf.routerPriority, intf.routerID⟩ : Highest) else backup.highest).router
          by_cases hbelow : backup.highest.below intf.routerPriority intf.routerID
          · rw [if_pos hbelow, if_pos hbelow]
          · rw [if_neg hbelow, if_neg hbelow]
  · rw [if_neg hpriority, if_neg hpriority, List.append_nil]
    exact h.router (.inl (by omega)) hkept

theorem Designated.Follows.visitSelf {designated : Designated} (h : designated.Follows (neighborCandidates intf))
    (current : Routers) :
    (designated.visitSelf intf current).Follows (candidates intf current) := by
  rw [Designated.visitSelf, candidates]
  by_cases hpriority : 0 < intf.routerPriority
  · rw [if_pos hpriority, if_pos hpriority]
    by_cases hrole : current.designatedRouter.routerID = intf.routerID
    · have hself : (selfCandidate intf current).whenDesignated = some ⟨intf.routerID, intf.address⟩ := if_pos hrole
      have hname : asDesignated (selfCandidate intf current) = ⟨intf.routerID, intf.address⟩ := by
        rw [asDesignated, hself]
        rfl
      have hdeclare := h.declare (selfCandidate intf current) hpriority (by rw [hself]; rfl)
      rw [hname] at hdeclare
      rw [if_pos hrole]
      exact hdeclare
    · rw [if_neg hrole]
      exact h.other (if_neg hrole)
  · rw [if_neg hpriority, if_neg hpriority, List.append_nil]
    exact h

end Refinement

section Names

variable {intf : Interface} {current : Routers} {l : List Candidate}

end Names

section Rounds

variable {intf : Interface} {current next : Routers}

/-- In a pass of the procedure, the code reaches the place where it has no fallback. -/
def Reached (intf : Interface) : Prop :=
  Dropped intf (currentRouters intf) ∨
    OwnRoleChanges intf (currentRouters intf) (firstPass intf) ∧ Dropped intf (firstPass intf)
deriving Decidable

end Rounds

section Eligibility

variable {intf : Interface} {current : Routers} {router : DesignatedRouterID}

end Eligibility

section Views

variable {l l' : List Candidate}

end Views

/-- A router of the network, as the others see it, at the address that is its ID. -/
def seen (id : RouterID) (priority : ℕ) (roles : Routers) : Neighbor :=
  ⟨id, priority, id, .FULL_STATE, roles.designatedRouter, roles.backupDesignatedRouter⟩

end InterfaceState

end inet.ospf
