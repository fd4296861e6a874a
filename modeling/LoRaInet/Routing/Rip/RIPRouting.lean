import LoRaInet.Kernel.Assert

open omnetpp

namespace inet

def RIP_INFINITE_METRIC : ℕ := 16
def RIP_HEADER_SIZE : ℕ := 4
def RIP_RTE_SIZE : ℕ := 20

inductive RIPCommand where
  | RIP_REQUEST
  | RIP_RESPONSE

inductive RIP_AF where
  | RIP_AF_NONE
  | RIP_AF_INET

structure RIPEntry (A : Type) where
  addressFamilyId : RIP_AF
  routeTag : ℕ
  address : A
  prefixLength : ℕ
  nextHop : A
  metric : ℕ

structure RIPPacket (A : Type) where
  command : RIPCommand
  entry : List (RIPEntry A)
  byteLength : ℕ

inductive RouteType where
  | RIP_ROUTE_RTE
  | RIP_ROUTE_STATIC
  | RIP_ROUTE_DEFAULT
  | RIP_ROUTE_REDISTRIBUTE
  | RIP_ROUTE_INTERFACE
  deriving DecidableEq

structure RIPRoute (A I R : Type) where
  type : RouteType
  /-- The route of the host's routing table that goes with this one. -/
  route : Option R
  dest : A
  prefixLength : ℕ
  ie : Option I
  metric : ℕ
  tag : ℕ
  changed : Bool
  lastUpdateTime : SimTime

inductive RIPMode where
  | NO_RIP
  | NO_SPLIT_HORIZON
  | SPLIT_HORIZON
  | SPLIT_HORIZON_POISONED_REVERSE

structure RIPInterfaceEntry (I : Type) where
  ie : I
  mode : RIPMode

/-- The routes are kept by pointers, each of which is in the vector once: a route is known by its place. -/
structure RIPRouting (A I R : Type) where
  ripRoutes : List (RIPRoute A I R)
  rt : List R
  updateTimer : Option SimTime
  triggeredUpdateTimer : Option SimTime
  /-- How often the parameter of the delay has been read, which draws a new value. -/
  drawn : ℕ

namespace RIPRouting

variable {A I R : Type}

inductive Mode where
  | RIPv2
  | RIPng

/-- What does not change while the routing runs. -/
structure Parameters (A I : Type) where
  mode : Mode
  routeExpiryTime : SimTime
  routePurgeTime : SimTime
  triggeredUpdateDelay : ℕ → SimTime
  getMTU : I → ℤ
  getUnspecifiedAddress : A

/-- A call of `sendRoutes`: its arguments and its time. -/
structure Update (A I : Type) where
  address : A
  port : ℕ
  ripInterface : RIPInterfaceEntry I
  changedOnly : Bool
  now : SimTime

structure Datagram (A I : Type) where
  packet : RIPPacket A
  destAddr : A
  destPort : ℕ
  destInterface : I

def triggerUpdate (c : Parameters A I) (now : SimTime) (rip : RIPRouting A I R) : RIPRouting A I R :=
  if rip.triggeredUpdateTimer.isNone then
    let updateTime := now + c.triggeredUpdateDelay rip.drawn
    let suppressed := rip.updateTimer.any fun arrivalTime => decide (arrivalTime ≤ updateTime)
    { rip with
      drawn := rip.drawn + 1
      triggeredUpdateTimer := if suppressed then none else some updateTime }
  else rip

section Expiry

variable [DecidableEq R]

def deleteRoute (route : Option R) (rip : RIPRouting A I R) : RIPRouting A I R :=
  match route with
  | some route => { rip with rt := rip.rt.erase route }
  | none => rip

/-- The route at `index` is marked invalid. -/
def invalidateRoute (c : Parameters A I) (now : SimTime) (index : ℕ) (ripRoute : RIPRoute A I R)
    (rip : RIPRouting A I R) : RIPRouting A I R :=
  let rip := rip.deleteRoute ripRoute.route
  let ripRoute := { ripRoute with route := none, metric := RIP_INFINITE_METRIC, changed := true }
  triggerUpdate c now { rip with ripRoutes := rip.ripRoutes.set index ripRoute }

def purgeRoute (index : ℕ) (ripRoute : RIPRoute A I R) (rip : RIPRouting A I R) : RIPRouting A I R :=
  let rip := rip.deleteRoute ripRoute.route
  { rip with ripRoutes := rip.ripRoutes.eraseIdx index }

/-- The route is returned when it is valid. -/
def checkRouteIsExpired (c : Parameters A I) (now : SimTime) (index : ℕ) (route : RIPRoute A I R)
    (rip : RIPRouting A I R) : Option (RIPRoute A I R) × RIPRouting A I R :=
  if route.type = .RIP_ROUTE_RTE then
    if now ≥ route.lastUpdateTime + c.routeExpiryTime + c.routePurgeTime then (none, rip.purgeRoute index route)
    else if now ≥ route.lastUpdateTime + c.routeExpiryTime then (none, rip.invalidateRoute c now index route)
    else (some route, rip)
  else (some route, rip)

end Expiry

section SendRoutes

/-- The division of the language rounds towards zero. -/
def maxEntries (c : Parameters A I) (u : Update A I) : ℤ :=
  match c.mode with
  | .RIPv2 => 25
  | .RIPng => (c.getMTU u.ripInterface.ie - 40 - 8 - RIP_HEADER_SIZE).tdiv RIP_RTE_SIZE

/-- `setEntryArraySize` of a new packet. A negative size is converted to one that cannot be allocated. -/
def newEntries (c : Parameters A I) (u : Update A I) : Except Fault (List (RIPEntry A)) :=
  if maxEntries c u < 0 then .error (.cRuntimeError "std::bad_alloc")
  else .ok (List.replicate (maxEntries c u).toNat
    ⟨.RIP_AF_NONE, 0, c.getUnspecifiedAddress, 0, c.getUnspecifiedAddress, 0⟩)

/-- The loop of `sendRoutes`: the packet that is filled in, the number of its entries, and what has been sent. -/
structure Sending (A I R : Type) where
  rip : RIPRouting A I R
  packet : List (RIPEntry A)
  k : ℕ
  sent : List (Datagram A I)
  /-- The routes that the loop has been at. The code keeps no such list. -/
  visited : List (RIPRoute A I R)

def sendPacket (u : Update A I) (entry : List (RIPEntry A)) (s : Sending A I R) : Sending A I R :=
  let packet := ⟨.RIP_RESPONSE, entry, RIP_HEADER_SIZE + RIP_RTE_SIZE * entry.length⟩
  { s with sent := s.sent ++ [⟨packet, u.address, u.port, u.ripInterface.ie⟩] }

def entryOf (c : Parameters A I) (ripRoute : RIPRoute A I R) (metric : ℕ) : RIPEntry A where
  addressFamilyId := .RIP_AF_INET
  routeTag := ripRoute.tag
  address := ripRoute.dest
  prefixLength := ripRoute.prefixLength
  nextHop := c.getUnspecifiedAddress
  metric := metric

def fillEntry (c : Parameters A I) (u : Update A I) (entry : RIPEntry A) (s : Sending A I R) :
    Except Fault (Sending A I R) :=
  if s.k < s.packet.length then
    let s := { s with packet := s.packet.set s.k entry, k := s.k + 1 }
    if maxEntries c u ≤ s.k then do
      let packet ← newEntries c u
      .ok { sendPacket u s.packet s with packet, k := 0 }
    else .ok s
  else .error .outOfRange

/-- The metric to send, or nothing when the split horizon check omits the route. -/
def splitHorizon [DecidableEq I] (ripInterface : RIPInterfaceEntry I) (ripRoute : RIPRoute A I R) : Option ℕ :=
  if ripRoute.ie = some ripInterface.ie then
    match ripInterface.mode with
    | .SPLIT_HORIZON => none
    | .SPLIT_HORIZON_POISONED_REVERSE => some RIP_INFINITE_METRIC
    | _ => some ripRoute.metric
  else some ripRoute.metric

variable [DecidableEq I] [DecidableEq R]

/-- One round: the element at `index` is read from the vector as it is now. -/
def visit (c : Parameters A I) (u : Update A I) (index : ℕ) (s : Sending A I R) : Except Fault (Sending A I R) :=
  match s.rip.ripRoutes[index]? with
  | none => .error .outOfRange
  | some elem =>
    let checked := s.rip.checkRouteIsExpired c u.now index elem
    let s := { s with rip := checked.2, visited := s.visited ++ [elem] }
    match checked.1 with
    | none => .ok s
    | some ripRoute =>
      if u.changedOnly ∧ ¬ripRoute.changed then .ok s
      else
        match splitHorizon u.ripInterface ripRoute with
        | none => .ok s
        | some metric => fillEntry c u (entryOf c ripRoute metric) s

/-- The iterators of the loop: `count` places before the end that was read at its start. -/
def visits (c : Parameters A I) (u : Update A I) : ℕ → ℕ → Sending A I R → Except Fault (Sending A I R)
  | 0, _, s => .ok s
  | count + 1, index, s => visit c u index s >>= visits c u count (index + 1)

def sendRoutes (c : Parameters A I) (u : Update A I) (rip : RIPRouting A I R) : Except Fault (Sending A I R) := do
  let packet ← newEntries c u
  let s ← visits c u rip.ripRoutes.length 0 ⟨rip, packet, 0, [], []⟩
  .ok (if s.k > 0 then sendPacket u (s.packet.take s.k) s else s)

end SendRoutes

section Completeness

variable {c : Parameters A I} {u : Update A I}

/-- The route has timed out. -/
def Expired (c : Parameters A I) (u : Update A I) (route : RIPRoute A I R) : Prop :=
  route.type = .RIP_ROUTE_RTE ∧ u.now ≥ route.lastUpdateTime + c.routeExpiryTime
deriving Decidable

/-- The route is due to be removed. -/
def Purgeable (c : Parameters A I) (u : Update A I) (route : RIPRoute A I R) : Prop :=
  route.type = .RIP_ROUTE_RTE ∧ u.now ≥ route.lastUpdateTime + c.routeExpiryTime + c.routePurgeTime
deriving Decidable

/-- What becomes of a route that is visited. -/
def aged (c : Parameters A I) (u : Update A I) (route : RIPRoute A I R) : Option (RIPRoute A I R) :=
  if Purgeable c u route then none
  else if Expired c u route then
    some { route with route := none, metric := RIP_INFINITE_METRIC, changed := true }
  else some route

/-- The entry for a route of the table that passes the filters of the update. -/
def entryFor [DecidableEq I] (c : Parameters A I) (u : Update A I) (route : RIPRoute A I R) : Option (RIPEntry A) :=
  if u.changedOnly ∧ ¬route.changed then none
  else (splitHorizon u.ripInterface route).map (entryOf c route)

/-- The entry that is sent when a route is visited. -/
def entrySent [DecidableEq I] (c : Parameters A I) (u : Update A I) (route : RIPRoute A I R) : Option (RIPEntry A) :=
  if Purgeable c u route ∨ Expired c u route then none else entryFor c u route

variable {route : RIPRoute A I R}

theorem exists_aged (h : ¬Purgeable c u route) : ∃ route', aged c u route = some route' := by
  rw [aged, if_neg h]
  split <;> exact ⟨_, rfl⟩

/-- All entries that have been filled in. -/
def Sending.filled (s : Sending A I R) : List (RIPEntry A) :=
  s.sent.flatMap (fun datagram => datagram.packet.entry) ++ s.packet.take s.k

/-- The packet has its size and is not full, and those that were sent were. -/
structure Ready (size : ℕ) (s : Sending A I R) : Prop where
  length : s.packet.length = size
  room : s.k = 0 ∨ s.k < size
  sent : ∀ datagram ∈ s.sent, datagram.packet.entry.length = size ∧ 0 < size

section Filling

variable {size : ℕ} {s : Sending A I R} {entry : RIPEntry A}

theorem fillEntry_returns (hsize : maxEntries c u = size) (hpos : 0 < size) (hready : Ready size s) :
    Returns (fillEntry c u entry s) fun s' =>
      Ready size s' ∧ s'.filled = s.filled ++ [entry] ∧ s'.rip = s.rip ∧ s'.visited = s.visited := by
  obtain ⟨hlength, hroom, hsent⟩ := hready
  have hlt : s.k < s.packet.length := by omega
  have htake : (s.packet.set s.k entry).take (s.k + 1) = s.packet.take s.k ++ [entry] := by
    rw [List.take_add_one, List.take_set_of_le (Nat.le_refl _), List.getElem?_set_self hlt, Option.toList_some]
  rw [fillEntry, if_pos hlt]
  dsimp only
  split
  · next hfull =>
    have hwhole : (s.packet.set s.k entry).take (s.k + 1) = s.packet.set s.k entry := by
      apply List.take_of_length_le
      rw [List.length_set]
      omega
    have hnew : newEntries c u = .ok (List.replicate size
        ⟨.RIP_AF_NONE, 0, c.getUnspecifiedAddress, 0, c.getUnspecifiedAddress, 0⟩) := by
      rw [newEntries, if_neg (by omega), hsize, Int.toNat_natCast]
    rw [hnew]
    refine .ok ⟨⟨List.length_replicate, .inl rfl, ?_⟩, ?_, rfl, rfl⟩
    · intro datagram hmem
      rcases List.mem_append.mp hmem with hmem | hmem
      · exact hsent datagram hmem
      · rw [List.mem_singleton.mp hmem]
        exact ⟨by rw [List.length_set, hlength], hpos⟩
    · rw [Sending.filled, Sending.filled, List.append_assoc, ← htake, hwhole]
      simp [sendPacket]
  · next hfree =>
    refine .ok ⟨⟨by rw [List.length_set, hlength], .inr ?_, hsent⟩, ?_, rfl, rfl⟩
    · change ¬maxEntries c u ≤ ((s.k + 1 : ℕ) : ℤ) at hfree
      change s.k + 1 < size
      omega
    · rw [Sending.filled, Sending.filled, List.append_assoc, ← htake]

theorem rip_fillEntry : Yields (fillEntry c u entry s) fun s' => s'.rip = s.rip := by
  rw [fillEntry]
  refine .ite (.ite ?_ (.ok rfl)) (.error _)
  exact (Yields.trivial _).bind fun _ _ => .ok rfl

theorem fillEntry_of_empty (hready : Ready 0 s) : fillEntry c u entry s = .error .outOfRange := by
  have hlength := hready.length
  rw [fillEntry, if_neg (by omega)]

end Filling

section Rounds

variable {size : ℕ} {s : Sending A I R} {route : RIPRoute A I R} {done rest : List (RIPRoute A I R)}

theorem ripRoutes_triggerUpdate (now : SimTime) (rip : RIPRouting A I R) :
    (rip.triggerUpdate c now).ripRoutes = rip.ripRoutes := by
  rw [triggerUpdate]
  split <;> rfl

variable [DecidableEq R]

theorem ripRoutes_deleteRoute (route : Option R) (rip : RIPRouting A I R) :
    (rip.deleteRoute route).ripRoutes = rip.ripRoutes := by
  cases route <;> rfl

/-- A valid route is returned, and what becomes of the route is written where it was. -/
theorem checkRouteIsExpired_eq {rip : RIPRouting A I R} (h : rip.ripRoutes = done ++ route :: rest) :
    (rip.checkRouteIsExpired c u.now done.length route).1 =
        (if Purgeable c u route ∨ Expired c u route then none else some route) ∧
      (rip.checkRouteIsExpired c u.now done.length route).2.ripRoutes = done ++ (aged c u route).toList ++ rest := by
  rw [checkRouteIsExpired, aged]
  by_cases hpurge : Purgeable c u route
  · rw [if_pos hpurge.1, if_pos hpurge.2, if_pos (.inl hpurge), if_pos hpurge]
    refine ⟨rfl, ?_⟩
    rw [purgeRoute, ripRoutes_deleteRoute, h, List.eraseIdx_append_of_length_le (Nat.le_refl _), Nat.sub_self]
    simp
  · rw [if_neg hpurge]
    by_cases hexpired : Expired c u route
    · have hlater : ¬u.now ≥ route.lastUpdateTime + c.routeExpiryTime + c.routePurgeTime :=
        fun hnow => hpurge ⟨hexpired.1, hnow⟩
      rw [if_pos hexpired.1, if_neg hlater, if_pos hexpired.2, if_pos (.inr hexpired), if_pos hexpired]
      refine ⟨rfl, ?_⟩
      rw [invalidateRoute, ripRoutes_triggerUpdate, ripRoutes_deleteRoute, h]
      simp
    · rw [if_neg (by tauto : ¬(Purgeable c u route ∨ Expired c u route)), if_neg hexpired]
      have hvalid : ∀ x y : Option (RIPRoute A I R) × RIPRouting A I R, (if route.type = .RIP_ROUTE_RTE then
          if u.now ≥ route.lastUpdateTime + c.routeExpiryTime + c.routePurgeTime then x
          else if u.now ≥ route.lastUpdateTime + c.routeExpiryTime then y else (some route, rip)
          else (some route, rip)) = (some route, rip) := by
        intro x y
        by_cases htype : route.type = .RIP_ROUTE_RTE
        · rw [if_pos htype, if_neg fun hnow => hpurge ⟨htype, hnow⟩, if_neg fun hnow => hexpired ⟨htype, hnow⟩]
        · rw [if_neg htype]
      rw [hvalid]
      refine ⟨rfl, ?_⟩
      rw [h]
      simp

/-- Ageing never adds a route. -/
theorem length_checkRouteIsExpired (index : ℕ) (route : RIPRoute A I R) (rip : RIPRouting A I R) :
    (rip.checkRouteIsExpired c u.now index route).2.ripRoutes.length ≤ rip.ripRoutes.length := by
  rw [checkRouteIsExpired]
  split
  · split
    · rw [purgeRoute, ripRoutes_deleteRoute]
      exact List.length_eraseIdx_le _ _
    · split
      · rw [invalidateRoute, ripRoutes_triggerUpdate, ripRoutes_deleteRoute, List.length_set]
      · exact Nat.le_refl _
  · exact Nat.le_refl _

variable [DecidableEq I]

/-- A round with room in the packet, or with nothing to send. -/
theorem visit_returns (hsize : maxEntries c u = size) (hready : Ready size s)
    (h : s.rip.ripRoutes = done ++ route :: rest) (hroom : 0 < size ∨ entrySent c u route = none) :
    Returns (visit c u done.length s) fun s' =>
      Ready size s' ∧ s'.rip.ripRoutes = done ++ (aged c u route).toList ++ rest ∧
        s'.visited = s.visited ++ [route] ∧ s'.filled = s.filled ++ (entrySent c u route).toList := by
  obtain ⟨hfound, hroutes⟩ := checkRouteIsExpired_eq (c := c) (u := u) h
  have hread : s.rip.ripRoutes[done.length]? = some route := by
    rw [h, List.getElem?_append_right (Nat.le_refl _), Nat.sub_self]
    rfl
  have hkept : Ready size { s with
      rip := (s.rip.checkRouteIsExpired c u.now done.length route).2, visited := s.visited ++ [route] } :=
    ⟨hready.length, hready.room, hready.sent⟩
  rw [visit, hread]
  dsimp only
  rw [hfound]
  by_cases hskip : Purgeable c u route ∨ Expired c u route
  · rw [if_pos hskip, entrySent, if_pos hskip]
    exact .ok ⟨hkept, hroutes, rfl, (List.append_nil _).symm⟩
  · rw [entrySent, if_neg hskip] at hroom ⊢
    rw [if_neg hskip]
    dsimp only
    rw [entryFor] at hroom ⊢
    split
    · exact .ok ⟨hkept, hroutes, rfl, (List.append_nil _).symm⟩
    · next hchanged =>
      rw [if_neg hchanged] at hroom
      cases hmetric : splitHorizon u.ripInterface route with
      | none => exact .ok ⟨hkept, hroutes, rfl, (List.append_nil _).symm⟩
      | some metric =>
        rw [hmetric] at hroom
        have hpos : 0 < size := by
          rcases hroom with hpos | hnone
          · exact hpos
          · cases hnone
        refine (fillEntry_returns hsize hpos hkept).mono ?_
        rintro s' ⟨hready', hfilled, hrip, hvisited⟩
        refine ⟨hready', ?_, ?_, ?_⟩
        · rw [hrip]
          exact hroutes
        · rw [hvisited]
        · rw [hfilled]
          rfl

/-- Where packets have no room for entries, a route that is to be sent is an error. -/
theorem visit_of_empty (hready : Ready 0 s) (h : s.rip.ripRoutes = done ++ route :: rest)
    (hsent : entrySent c u route ≠ none) : visit c u done.length s = .error .outOfRange := by
  obtain ⟨hfound, hroutes⟩ := checkRouteIsExpired_eq (c := c) (u := u) h
  have hread : s.rip.ripRoutes[done.length]? = some route := by
    rw [h, List.getElem?_append_right (Nat.le_refl _), Nat.sub_self]
    rfl
  have hvalid : ¬(Purgeable c u route ∨ Expired c u route) := by
    intro hskip
    rw [entrySent, if_pos hskip] at hsent
    exact hsent rfl
  rw [entrySent, if_neg hvalid, entryFor] at hsent
  rw [visit, hread]
  dsimp only
  rw [hfound, if_neg hvalid]
  dsimp only
  split
  · next hchanged =>
    rw [if_pos hchanged] at hsent
    exact absurd rfl hsent
  · next hchanged =>
    rw [if_neg hchanged] at hsent
    cases hmetric : splitHorizon u.ripInterface route with
    | none =>
      rw [hmetric] at hsent
      exact absurd rfl hsent
    | some metric => exact fillEntry_of_empty ⟨hready.length, hready.room, hready.sent⟩

/-- The routes become what ageing makes of them, and nothing is passed over, when no route before the last is purged. -/
theorem visits_returns (hsize : maxEntries c u = size) (hready : Ready size s)
    (h : s.rip.ripRoutes = done ++ rest) (hkeep : ∀ route ∈ rest.dropLast, ¬Purgeable c u route)
    (hroom : 0 < size ∨ ∀ route ∈ rest, entrySent c u route = none) :
    Returns (visits c u rest.length done.length s) fun s' =>
      Ready size s' ∧ s'.rip.ripRoutes = done ++ rest.filterMap (aged c u) ∧
        s'.visited = s.visited ++ rest ∧ s'.filled = s.filled ++ rest.filterMap (entrySent c u) := by
  induction rest generalizing done s with
  | nil =>
    refine .ok ⟨hready, h, ?_, ?_⟩ <;> exact (List.append_nil _).symm
  | cons route rest ih =>
    have hfirst : 0 < size ∨ entrySent c u route = none :=
      hroom.imp_right fun hnone => hnone route (.head _)
    have hlater : 0 < size ∨ ∀ route ∈ rest, entrySent c u route = none :=
      hroom.imp_right fun hnone route hmem => hnone route (.tail _ hmem)
    refine (visit_returns hsize hready h hfirst).bind ?_
    rintro s' ⟨hready', hroutes, hvisited, hfilled⟩
    have hend (s'' : Sending A I R) (hvisited' : s''.visited = s'.visited ++ rest)
        (hfilled' : s''.filled = s'.filled ++ rest.filterMap (entrySent c u)) :
        s''.visited = s.visited ++ route :: rest ∧
          s''.filled = s.filled ++ (route :: rest).filterMap (entrySent c u) := by
      rw [hvisited', hfilled', hvisited, hfilled, List.append_assoc, List.append_assoc, List.filterMap_cons]
      refine ⟨rfl, ?_⟩
      cases entrySent c u route <;> rfl
    cases rest with
    | nil =>
      refine .ok ⟨hready', ?_, hend s' (List.append_nil _).symm (List.append_nil _).symm⟩
      rw [hroutes, List.filterMap_cons]
      cases aged c u route <;> simp
    | cons next rest =>
      have hstays : ¬Purgeable c u route := hkeep route (by rw [List.dropLast_cons_cons]; exact (.head _))
      obtain ⟨route', hroute'⟩ := exists_aged hstays
      rw [hroute', Option.toList_some] at hroutes
      have hlength : done.length + 1 = (done ++ [route']).length := by rw [List.length_append, List.length_singleton]
      rw [hlength]
      refine (ih hready' hroutes ?_ hlater).mono ?_
      · intro route hmem
        apply hkeep route
        rw [List.dropLast_cons_cons]
        exact .tail _ hmem
      · rintro s'' ⟨hready'', hroutes', hvisited', hfilled'⟩
        refine ⟨hready'', ?_, hend s'' hvisited' hfilled'⟩
        rw [hroutes', List.filterMap_cons_some hroute', List.append_assoc, List.singleton_append]

theorem length_visit (index : ℕ) :
    Yields (visit c u index s) fun s' => s'.rip.ripRoutes.length ≤ s.rip.ripRoutes.length := by
  rw [visit]
  split
  · exact .error _
  · next elem _ =>
    have hlength := length_checkRouteIsExpired (c := c) (u := u) index elem s.rip
    dsimp only
    split
    · exact .ok hlength
    · refine .ite (.ok hlength) ?_
      split
      · exact .ok hlength
      · exact rip_fillEntry.mono fun s' hrip => by rwa [hrip]

/-- The iterators pass the end of a vector that has become shorter. -/
theorem visits_of_shorter {count index : ℕ} (hpos : 0 < count) (h : s.rip.ripRoutes.length < index + count) :
    ∀ s', visits c u count index s ≠ .ok s' := by
  induction count generalizing index s with
  | zero => omega
  | succ count ih =>
    intro s' hrun
    obtain ⟨s₁, hvisit, hrest⟩ := bind_eq_ok_iff.mp hrun
    have hlength := length_visit index s₁ hvisit
    by_cases hcount : 0 < count
    · exact ih hcount (by omega) s' hrest
    · have hnone : s.rip.ripRoutes[index]? = none := List.getElem?_eq_none (by omega)
      rw [visit, hnone] at hvisit
      cases hvisit

/-- When the loop returns, no route before the last has been purged, and there was room for what it sent. -/
theorem of_visits (hsize : maxEntries c u = size) (hready : Ready size s) (h : s.rip.ripRoutes = done ++ rest)
    {s' : Sending A I R} (hrun : visits c u rest.length done.length s = .ok s') :
    (∀ route ∈ rest.dropLast, ¬Purgeable c u route) ∧ (0 < size ∨ ∀ route ∈ rest, entrySent c u route = none) := by
  induction rest generalizing done s with
  | nil => exact ⟨fun route hmem => (List.not_mem_nil hmem).elim, .inr fun route hmem => (List.not_mem_nil hmem).elim⟩
  | cons route rest ih =>
    have hfirst : 0 < size ∨ entrySent c u route = none := by
      by_contra hnone
      push Not at hnone
      obtain rfl : size = 0 := by omega
      rw [List.length_cons, visits, visit_of_empty hready h hnone.2] at hrun
      cases hrun
    obtain ⟨s₁, hvisit, hrest⟩ := bind_eq_ok_iff.mp hrun
    obtain ⟨_, heq, hready', hroutes, -⟩ := visit_returns hsize hready h hfirst
    rw [hvisit] at heq
    cases heq
    cases rest with
    | nil =>
      refine ⟨fun route hmem => (List.not_mem_nil hmem).elim, hfirst.imp_right ?_⟩
      intro hnone route hmem
      rwa [List.mem_singleton.mp hmem]
    | cons next rest =>
      have hstays : ¬Purgeable c u route := by
        intro hpurge
        rw [aged, if_pos hpurge, Option.toList_none, List.append_nil] at hroutes
        refine visits_of_shorter (Nat.succ_pos _) ?_ s' hrest
        rw [hroutes, List.length_append]
        exact Nat.add_lt_add_right (Nat.lt_succ_self _) _
      obtain ⟨route', hroute'⟩ := exists_aged hstays
      rw [hroute', Option.toList_some] at hroutes
      have hlength : done.length + 1 = (done ++ [route']).length := by rw [List.length_append, List.length_singleton]
      rw [hlength] at hrest
      obtain ⟨hkeep, hroom⟩ := ih hready' hroutes hrest
      rw [List.dropLast_cons_cons]
      exact ⟨List.forall_mem_cons.mpr ⟨hstays, hkeep⟩, by
        rcases hroom with hpos | hnone
        · exact .inl hpos
        · exact hfirst.imp_right fun hnone' => List.forall_mem_cons.mpr ⟨hnone', hnone⟩⟩

end Rounds

/-- What an update is to have done: every route was visited once, each route of the table that passes the filters has one entry, those
that timed out have the infinite metric, and no packet is empty or larger than allowed. -/
structure Complete [DecidableEq I] (c : Parameters A I) (u : Update A I) (rip : RIPRouting A I R)
    (s : Sending A I R) : Prop where
  visited : s.visited.Perm rip.ripRoutes
  entries : (s.sent.flatMap fun datagram => datagram.packet.entry).Perm (s.rip.ripRoutes.filterMap (entryFor c u))
  invalid : ∀ route ∈ s.rip.ripRoutes, Expired c u route → route.metric = RIP_INFINITE_METRIC
  sizes : ∀ datagram ∈ s.sent, 1 ≤ datagram.packet.entry.length ∧ datagram.packet.entry.length ≤ maxEntries c u

/-- The condition on the table: only the last route may be purged, a route that has timed out is one that the interface omits, and where
a packet has no room, there is nothing to send. -/
structure Unexpired [DecidableEq I] (c : Parameters A I) (u : Update A I) (rip : RIPRouting A I R) : Prop where
  kept : ∀ route ∈ rip.ripRoutes.dropLast, ¬Purgeable c u route
  omitted : ∀ route ∈ rip.ripRoutes, Expired c u route → ¬Purgeable c u route →
    route.ie = some u.ripInterface.ie ∧ u.ripInterface.mode = .SPLIT_HORIZON
  room : 0 < maxEntries c u ∨ maxEntries c u = 0 ∧ ∀ route ∈ rip.ripRoutes,
    Expired c u route ∨ Purgeable c u route ∨ entryFor c u route = none

theorem metric_of_aged {route route' : RIPRoute A I R} (h : aged c u route = some route')
    (hexpired : Expired c u route') : route'.metric = RIP_INFINITE_METRIC := by
  rw [aged] at h
  split at h
  · cases h
  · split at h
    · cases h
      rfl
    · next hvalid =>
      cases h
      exact absurd hexpired hvalid

/-- The last packet is sent as far as it is filled. -/
theorem sendPacket_last {size : ℕ} {s : Sending A I R} (hready : Ready size s) :
    ((if s.k > 0 then sendPacket u (s.packet.take s.k) s else s).sent.flatMap fun datagram => datagram.packet.entry) =
        s.filled ∧
      ∀ datagram ∈ (if s.k > 0 then sendPacket u (s.packet.take s.k) s else s).sent,
        1 ≤ datagram.packet.entry.length ∧ datagram.packet.entry.length ≤ size := by
  obtain ⟨hlength, hroom, hsent⟩ := hready
  have hfull : ∀ datagram ∈ s.sent, 1 ≤ datagram.packet.entry.length ∧ datagram.packet.entry.length ≤ size := by
    intro datagram hmem
    obtain ⟨heq, hpos⟩ := hsent datagram hmem
    omega
  by_cases hk : s.k > 0
  · rw [if_pos hk]
    refine ⟨by simp [sendPacket, Sending.filled], ?_⟩
    intro datagram hmem
    rcases List.mem_append.mp hmem with hmem | hmem
    · exact hfull datagram hmem
    · rw [List.mem_singleton.mp hmem]
      change 1 ≤ (s.packet.take s.k).length ∧ (s.packet.take s.k).length ≤ size
      rw [List.length_take]
      omega
  · have hnone : s.k = 0 := by omega
    rw [if_neg hk, Sending.filled, hnone, List.take_zero, List.append_nil]
    exact ⟨rfl, hfull⟩

variable [DecidableEq I]

theorem splitHorizon_eq_none_iff {ripInterface : RIPInterfaceEntry I} :
    splitHorizon ripInterface route = none ↔ route.ie = some ripInterface.ie ∧ ripInterface.mode = .SPLIT_HORIZON := by
  rw [splitHorizon]
  by_cases hie : route.ie = some ripInterface.ie
  · rw [if_pos hie]
    cases ripInterface.mode <;> simp [hie]
  · rw [if_neg hie]
    simp [hie]

/-- The entry for what ageing makes of a route is the one that is sent, unless the route has just timed out. -/
theorem entryFor_aged (route : RIPRoute A I R) :
    (aged c u route).bind (entryFor c u) = entrySent c u route ∨ entrySent c u route = none := by
  rw [aged, entrySent]
  by_cases hpurge : Purgeable c u route
  · exact .inr (if_pos (.inl hpurge))
  · by_cases hexpired : Expired c u route
    · exact .inr (if_pos (.inr hexpired))
    · rw [if_neg hpurge, if_neg hexpired, if_neg (by tauto : ¬(Purgeable c u route ∨ Expired c u route))]
      exact .inl rfl

theorem entrySent_eq_none_iff :
    entrySent c u route = none ↔ Expired c u route ∨ Purgeable c u route ∨ entryFor c u route = none := by
  rw [entrySent]
  split <;> tauto

theorem entryFor_aged_eq_iff (route : RIPRoute A I R) :
    (aged c u route).bind (entryFor c u) = entrySent c u route ↔
      (Expired c u route → ¬Purgeable c u route →
        route.ie = some u.ripInterface.ie ∧ u.ripInterface.mode = .SPLIT_HORIZON) := by
  rw [aged, entrySent]
  by_cases hpurge : Purgeable c u route
  · rw [if_pos hpurge, if_pos (.inl hpurge)]
    exact iff_of_true rfl fun _ hstays => absurd hpurge hstays
  · by_cases hexpired : Expired c u route
    · rw [if_neg hpurge, if_pos hexpired, if_pos (.inr hexpired), Option.bind_some, entryFor, if_neg (by simp),
        Option.map_eq_none_iff, splitHorizon_eq_none_iff]
      exact ⟨fun h _ _ => h, fun h => h hexpired hpurge⟩
    · rw [if_neg hpurge, if_neg hexpired, if_neg (by tauto : ¬(Purgeable c u route ∨ Expired c u route))]
      exact iff_of_true rfl fun h => absurd h hexpired

/-- Lists of results of one length where one function has a result wherever the other has: the functions agree. -/
theorem eq_of_length_filterMap_le {B C : Type} {f g : B → Option C} (hle : ∀ b, g b = f b ∨ f b = none) {l : List B}
    (h : (l.filterMap g).length ≤ (l.filterMap f).length) : ∀ b ∈ l, g b = f b := by
  have hlonger (l : List B) : (l.filterMap f).length ≤ (l.filterMap g).length := by
    induction l with
    | nil => exact Nat.le_refl _
    | cons b l ih =>
      rcases hle b with heq | hnone
      · rw [List.filterMap_cons, List.filterMap_cons, heq]
        cases f b with
        | none => exact ih
        | some _ => exact Nat.succ_le_succ ih
      · rw [List.filterMap_cons_none hnone]
        refine ih.trans ?_
        rw [List.filterMap_cons]
        cases g b with
        | none => exact Nat.le_refl _
        | some _ => exact Nat.le_succ _
  induction l with
  | nil => exact fun b hmem => (List.not_mem_nil hmem).elim
  | cons b l ih =>
    rw [List.forall_mem_cons]
    have hrest := hlonger l
    rcases hle b with heq | hnone
    · refine ⟨heq, ih ?_⟩
      rw [List.filterMap_cons, List.filterMap_cons, heq] at h
      cases hb : f b with
      | none =>
        rw [hb] at h
        exact h
      | some _ =>
        rw [hb] at h
        exact Nat.le_of_succ_le_succ h
    · rw [List.filterMap_cons_none hnone] at h
      cases hb : g b with
      | none =>
        rw [List.filterMap_cons_none hb] at h
        exact ⟨hnone.symm, ih h⟩
      | some _ =>
        rw [List.filterMap_cons_some hb, List.length_cons] at h
        omega

section Update

variable [DecidableEq R] {rip : RIPRouting A I R} {size : ℕ}

/-- What the loop has done when it returns. -/
theorem sendRoutes_returns (hsize : maxEntries c u = size)
    (hkeep : ∀ route ∈ rip.ripRoutes.dropLast, ¬Purgeable c u route)
    (hroom : 0 < size ∨ ∀ route ∈ rip.ripRoutes, entrySent c u route = none) :
    Returns (sendRoutes c u rip) fun s =>
      s.rip.ripRoutes = rip.ripRoutes.filterMap (aged c u) ∧ s.visited = rip.ripRoutes ∧
        (s.sent.flatMap fun datagram => datagram.packet.entry) = rip.ripRoutes.filterMap (entrySent c u) ∧
        ∀ datagram ∈ s.sent, 1 ≤ datagram.packet.entry.length ∧ datagram.packet.entry.length ≤ size := by
  have hnew : newEntries c u = .ok (List.replicate size
      ⟨.RIP_AF_NONE, 0, c.getUnspecifiedAddress, 0, c.getUnspecifiedAddress, 0⟩) := by
    rw [newEntries, if_neg (by omega), hsize, Int.toNat_natCast]
  rw [sendRoutes, hnew]
  have hstart : rip.ripRoutes = [] ++ rip.ripRoutes := rfl
  refine (visits_returns (s := ⟨rip, _, 0, [], []⟩) hsize ⟨List.length_replicate, .inl rfl, ?_⟩ hstart hkeep hroom).bind ?_
  · exact fun datagram hmem => (List.not_mem_nil hmem).elim
  · rintro s ⟨hready, hroutes, hvisited, hfilled⟩
    obtain ⟨hsent, hsizes⟩ := sendPacket_last (u := u) hready
    refine .ok ⟨?_, ?_, ?_, hsizes⟩
    · split <;> exact hroutes
    · split <;> exact hvisited
    · rw [hsent, hfilled]
      rfl

/-- When the call returns, the loop has not run past the end of the vector. -/
theorem of_sendRoutes {s : Sending A I R} (hrun : sendRoutes c u rip = .ok s) :
    ∃ size : ℕ, maxEntries c u = size ∧ (∀ route ∈ rip.ripRoutes.dropLast, ¬Purgeable c u route) ∧
      (0 < size ∨ ∀ route ∈ rip.ripRoutes, entrySent c u route = none) := by
  obtain ⟨packet, hnew, hrest⟩ := bind_eq_ok_iff.mp hrun
  obtain ⟨s', hvisits, -⟩ := bind_eq_ok_iff.mp hrest
  have hnonneg : 0 ≤ maxEntries c u := by
    by_contra hneg
    rw [newEntries, if_pos (by omega)] at hnew
    cases hnew
  obtain ⟨size, hsize⟩ := Int.eq_ofNat_of_zero_le hnonneg
  rw [newEntries, if_neg (by omega), hsize, Int.toNat_natCast] at hnew
  have hpacket := Except.ok.inj hnew
  have hready : Ready (R := R) size ⟨rip, packet, 0, [], []⟩ := by
    refine ⟨?_, .inl rfl, fun datagram hmem => (List.not_mem_nil hmem).elim⟩
    change packet.length = size
    rw [← hpacket, List.length_replicate]
  have hstart : rip.ripRoutes = [] ++ rip.ripRoutes := rfl
  exact ⟨size, hsize, of_visits hsize hready hstart hvisits⟩

/-- An update is complete exactly when no route but the last is purged, no route that has timed out passes the filters, and there is room
for what is sent. -/
theorem sendRoutes_complete_iff (c : Parameters A I) (u : Update A I) (rip : RIPRouting A I R) :
    (∃ s, sendRoutes c u rip = .ok s ∧ Complete c u rip s) ↔ Unexpired c u rip := by
  have hentries : (rip.ripRoutes.filterMap (aged c u)).filterMap (entryFor c u) =
      rip.ripRoutes.filterMap fun route => (aged c u route).bind (entryFor c u) := List.filterMap_filterMap
  constructor
  · rintro ⟨s, hrun, hcomplete⟩
    obtain ⟨size, hsize, hkeep, hroom⟩ := of_sendRoutes hrun
    obtain ⟨_, heq, hroutes, -, hsent, -⟩ := sendRoutes_returns hsize hkeep hroom
    rw [hrun] at heq
    cases heq
    have hlength := hcomplete.entries.length_eq
    rw [hsent, hroutes, hentries] at hlength
    have hagree := eq_of_length_filterMap_le entryFor_aged (Nat.le_of_eq hlength.symm)
    refine ⟨hkeep, fun route hmem => (entryFor_aged_eq_iff route).mp (hagree route hmem), ?_⟩
    rcases hroom with hpos | hnone
    · exact .inl (by omega)
    · by_cases hpos : 0 < size
      · exact .inl (by omega)
      · exact .inr ⟨by omega, fun route hmem => entrySent_eq_none_iff.mp (hnone route hmem)⟩
  · rintro ⟨hkeep, homitted, hroom⟩
    have hnonneg : 0 ≤ maxEntries c u := by omega
    obtain ⟨size, hsize⟩ := Int.eq_ofNat_of_zero_le hnonneg
    have hroom' : 0 < size ∨ ∀ route ∈ rip.ripRoutes, entrySent c u route = none := by
      rcases hroom with hpos | ⟨-, hnone⟩
      · exact .inl (by omega)
      · exact .inr fun route hmem => entrySent_eq_none_iff.mpr (hnone route hmem)
    obtain ⟨s, hrun, hroutes, hvisited, hsent, hsizes⟩ := sendRoutes_returns hsize hkeep hroom'
    refine ⟨s, hrun, ⟨?_, ?_, ?_, ?_⟩⟩
    · rw [hvisited]
    · rw [hsent, hroutes, hentries]
      apply List.Perm.of_eq
      apply List.filterMap_congr
      intro route hmem
      exact ((entryFor_aged_eq_iff route).mpr (homitted route hmem)).symm
    · intro route' hmem hexpired
      rw [hroutes] at hmem
      obtain ⟨route, -, haged⟩ := List.mem_filterMap.mp hmem
      exact metric_of_aged haged hexpired
    · intro datagram hmem
      obtain ⟨hpos, hle⟩ := hsizes datagram hmem
      exact ⟨hpos, by omega⟩

end Update

/-- RIPv2 with its default times. -/
def defaultParameters : Parameters ℕ ℕ where
  mode := .RIPv2
  routeExpiryTime := 180
  routePurgeTime := 120
  triggeredUpdateDelay := fun _ => 1
  getMTU := fun _ => 1500
  getUnspecifiedAddress := 0

/-- A regular update on the interface 0. -/
def regularUpdate (now : SimTime) : Update ℕ ℕ := ⟨224, 520, ⟨0, .SPLIT_HORIZON_POISONED_REVERSE⟩, false, now⟩

/-- A route that was learned on the interface 1 at the time 0. -/
def learnedRoute : RIPRouting ℕ ℕ ℕ where
  ripRoutes := [⟨.RIP_ROUTE_RTE, none, 10, 8, some 1, 2, 0, false, 0⟩]
  rt := []
  updateTimer := none
  triggeredUpdateTimer := none
  drawn := 0

/-- The route times out in the update, stays in the table, and is not sent. -/
theorem not_sendRoutes_complete :
    ¬∃ s, sendRoutes defaultParameters (regularUpdate 180) learnedRoute = .ok s ∧
      Complete defaultParameters (regularUpdate 180) learnedRoute s := by
  rintro ⟨s, hrun, hcomplete⟩
  have hlengths : (sendRoutes defaultParameters (regularUpdate 180) learnedRoute).map (fun s =>
      ((s.sent.flatMap fun datagram => datagram.packet.entry).length,
        (s.rip.ripRoutes.filterMap (entryFor defaultParameters (regularUpdate 180))).length)) = .ok (0, 1) := by
    decide +kernel
  rw [hrun] at hlengths
  obtain ⟨hsent, htable⟩ := Prod.mk.inj (Except.ok.inj hlengths)
  have hlength := hcomplete.entries.length_eq
  omega

end Completeness

end RIPRouting

end inet
