import LoRaInet.Container.Basic
import LoRaInet.NetworkLayer.IPv4.IPv4Route
import LoRaInet.NetworkLayer.IPv6.Fragmentation
import LoRaInet.Transition.Run
import Mathlib.Data.List.Sort

open omnetpp container transition

namespace inet

namespace IPv6Address

def UNSPECIFIED_ADDRESS : IPv6Address := ⟨0, 0, 0, 0⟩

/-- Fails unless the length is that of a prefix. -/
def constructMask (prefixLength : ℤ) : Option IPv6Address :=
  if 0 ≤ prefixLength ∧ prefixLength ≤ 128 then
    let n := prefixLength.toNat
    let ones : uint32 := 0xFFFFFFFF
    some <| if n = 0 then ⟨0, 0, 0, 0⟩ else if n ≤ 32 then ⟨ones <<< (32 - n), 0, 0, 0⟩
      else if n ≤ 64 then ⟨ones, ones <<< (64 - n), 0, 0⟩
      else if n ≤ 96 then ⟨ones, ones, ones <<< (96 - n), 0⟩
      else ⟨ones, ones, ones, ones <<< (128 - n)⟩
  else none

/-- `matches`, which is a word of Lean. -/
def matchesPrefix (a pre : IPv6Address) (prefixLength : ℤ) : Option Bool :=
  (constructMask prefixLength).map fun mask =>
    ((a.d0 ^^^ pre.d0) &&& mask.d0) ||| ((a.d1 ^^^ pre.d1) &&& mask.d1) |||
      ((a.d2 ^^^ pre.d2) &&& mask.d2) ||| ((a.d3 ^^^ pre.d3) &&& mask.d3) = 0

end IPv6Address

/-- A stored route is known by its identity. The interface is given by its id. -/
structure IPv6Route where
  id : ℕ
  destPrefix : IPv6Address
  prefixLength : ℤ
  sourceType : SourceType
  interfacePtr : Option ℤ := none
  nextHop : IPv6Address := .UNSPECIFIED_ADDRESS
  expiryTime : SimTime := 0
  metric : ℤ := 0
  adminDist : ℕ := 255
  deriving DecidableEq

structure DestCacheEntry where
  nextHopAddr : IPv6Address
  interfaceId : ℤ
  expiryTime : SimTime

/-- The routing table, with the ids of the interfaces and the identity of the next route. -/
structure IPv6RoutingTable where
  useAdminDist : Bool := false
  interfaces : List ℤ := []
  routeList : List IPv6Route := []
  destCache : Map IPv6Address DestCacheEntry := ∅
  nextRouteId : ℕ := 0

namespace IPv6Route

def dDirectlyConnected : ℕ := 0

/-- The length is kept in a `short`. -/
def toShort (length : ℤ) : ℤ := (BitVec.ofInt 16 length).toInt

/-- 0 is no expiry time. -/
def expired (r : IPv6Route) (now : SimTime) : Bool := now > r.expiryTime && r.expiryTime ≠ 0

inductive ChangeCode where
  | F_DESTINATION
  | F_PREFIX_LENGTH
  | F_NEXTHOP
  | F_IFACE
  | F_TYPE
  | F_ADMINDIST
  | F_METRIC
  | F_EXPIRYTIME
  deriving DecidableEq

/-- A call of one of the setters. -/
inductive Change where
  | setDestination (dest : IPv6Address)
  | setPrefixLength (prefixLength : ℤ)
  | setNextHop (nextHop : IPv6Address)
  | setInterface (interfacePtr : Option ℤ)
  | setSourceType (type : SourceType)
  | setAdminDist (adminDist : ℕ)
  | setMetric (metric : ℤ)
  | setExpiryTime (expiryTime : SimTime)

def Change.fieldCode : Change → ChangeCode
  | setDestination _ => .F_DESTINATION
  | setPrefixLength _ => .F_PREFIX_LENGTH
  | setNextHop _ => .F_NEXTHOP
  | setInterface _ => .F_IFACE
  | setSourceType _ => .F_TYPE
  | setAdminDist _ => .F_ADMINDIST
  | setMetric _ => .F_METRIC
  | setExpiryTime _ => .F_EXPIRYTIME

def Change.apply (r : IPv6Route) : Change → IPv6Route
  | setDestination dest => { r with destPrefix := dest }
  | setPrefixLength prefixLength => { r with prefixLength := toShort prefixLength }
  | setNextHop nextHop => { r with nextHop }
  | setInterface interfacePtr => { r with interfacePtr }
  | setSourceType type => { r with sourceType := type }
  | setAdminDist adminDist => { r with adminDist }
  | setMetric metric => { r with metric }
  | setExpiryTime expiryTime => { r with expiryTime }

/-- The setters compare the value with the field. -/
def Change.isNop (r : IPv6Route) : Change → Bool
  | setDestination dest => r.destPrefix = dest
  | setPrefixLength prefixLength => r.prefixLength = prefixLength
  | setNextHop nextHop => r.nextHop = nextHop
  | setInterface interfacePtr => r.interfacePtr = interfacePtr
  | setSourceType type => r.sourceType = type
  | setAdminDist adminDist => r.adminDist = adminDist
  | setMetric metric => r.metric = metric
  | setExpiryTime expiryTime => r.expiryTime = expiryTime

end IPv6Route

/-- Entries of routes that do not expire do not expire either. -/
def DestCacheEntry.expired (entry : DestCacheEntry) (now : SimTime) : Bool :=
  entry.expiryTime > 0 && now > entry.expiryTime

namespace IPv6RoutingTable

open IPv6Route

variable (s : IPv6RoutingTable)

def getInterfaceById (id : ℤ) : Option ℤ := if id ∈ s.interfaces then some id else none

/-- The next hop and the interface; -1 if the address is not in the cache. -/
def lookupDestCache (now : SimTime) (dest : IPv6Address) : IPv6RoutingTable × IPv6Address × ℤ :=
  match s.destCache.lookup dest with
  | none => (s, .UNSPECIFIED_ADDRESS, -1)
  | some entry =>
    if entry.expired now then ({ s with destCache := s.destCache.erase dest }, .UNSPECIFIED_ADDRESS, -1)
    else (s, entry.nextHopAddr, entry.interfaceId)

/-- The loop over the routes, with what it leaves of them. It does not return if a length is not that of
a prefix, nor from an expired route that is not a router advertisement, where it goes round forever. -/
def scan (now : SimTime) (dest : IPv6Address) : List IPv6Route → Option (Option IPv6Route × List IPv6Route)
  | [] => some (none, [])
  | r :: routes =>
    match dest.matchesPrefix r.destPrefix r.prefixLength with
    | none => none
    | some true =>
      if r.expired now then
        if r.sourceType = .ROUTER_ADVERTISEMENT then scan now dest routes else none
      else some (some r, r :: routes)
    | some false => (scan now dest routes).map fun (found, routes) => (found, r :: routes)

def doLongestPrefixMatch (now : SimTime) (dest : IPv6Address) :
    Option (IPv6RoutingTable × Option IPv6Route) :=
  (scan now dest s.routeList).map fun (found, routeList) => ({ s with routeList }, found)

def updateDestCache (dest nextHopAddr : IPv6Address) (interfaceId : ℤ)
    (expiryTime : SimTime) : IPv6RoutingTable :=
  { s with destCache := s.destCache.insert dest ⟨nextHopAddr, interfaceId, expiryTime⟩ }

def purgeDestCache : IPv6RoutingTable := { s with destCache := ∅ }

def purgeDestCacheEntriesToNeighbour (nextHopAddr : IPv6Address) (interfaceId : ℤ) :
    IPv6RoutingTable :=
  { s with destCache := Map.filter (fun _ entry =>
      !(entry.interfaceId = interfaceId && entry.nextHopAddr = nextHopAddr)) s.destCache }

def purgeDestCacheForInterfaceID (interfaceId : ℤ) : IPv6RoutingTable :=
  { s with destCache := Map.filter (fun _ entry => entry.interfaceId ≠ interfaceId) s.destCache }

/-- Routes with longer prefixes precede the others. -/
def routeLessThan (a b : IPv6Route) : Bool :=
  if a.prefixLength ≠ b.prefixLength then a.prefixLength > b.prefixLength
  else if s.useAdminDist && a.adminDist ≠ b.adminDist then a.adminDist < b.adminDist
  else a.metric < b.metric

/-- The route is put at the end, and the table is sorted by `stable_sort`. -/
def internalAddRoute (route : IPv6Route) : IPv6RoutingTable :=
  { s with routeList := (s.routeList ++ [route]).insertionSort fun a b => s.routeLessThan b a = false }

def internalRemoveRoute (id : ℕ) : IPv6RoutingTable :=
  { s with routeList := s.routeList.filter (·.id ≠ id) }

/-- A route that is added gets a new identity. -/
def addRoute (route : IPv6Route) : IPv6RoutingTable :=
  { (s.internalAddRoute { route with id := s.nextRouteId }).purgeDestCache with nextRouteId := s.nextRouteId + 1 }

/-- `removeRoute` and `deleteRoute`. -/
def removeRoute (id : ℕ) : IPv6RoutingTable := s.internalRemoveRoute id

def findPrefix (type : SourceType) (destPrefix : IPv6Address) (prefixLength : ℤ) :
    Option IPv6Route :=
  s.routeList.find? fun r => r.sourceType = type && r.destPrefix = destPrefix && r.prefixLength = prefixLength

def deleteOnLinkPrefix (destPrefix : IPv6Address) (prefixLength : ℤ) : IPv6RoutingTable :=
  match s.findPrefix .ROUTER_ADVERTISEMENT destPrefix prefixLength with
  | some r => s.internalRemoveRoute r.id
  | none => s

/-- The order of the table depends on these fields. -/
def routeChanged (entry : IPv6Route) (fieldCode : ChangeCode) : IPv6RoutingTable :=
  if fieldCode = .F_DESTINATION ∨ fieldCode = .F_PREFIX_LENGTH ∨ fieldCode = .F_METRIC then
    (s.internalRemoveRoute entry.id).internalAddRoute entry
  else s

/-- A setter is called on a stored route. -/
def change (id : ℕ) (c : Change) : IPv6RoutingTable :=
  match s.routeList.find? (·.id = id) with
  | none => s
  | some r =>
    if c.isNop r then s
    else
      routeChanged { s with routeList := s.routeList.map fun r => if r.id = id then c.apply r else r }
        (c.apply r) c.fieldCode

/-- `addOrUpdateOnLinkPrefix` and `addOrUpdateOwnAdvPrefix`, which differ in the type of the route. -/
def addOrUpdatePrefix (type : SourceType) (destPrefix : IPv6Address) (prefixLength : ℤ)
    (interfaceId : ℤ) (expiryTime : SimTime) : IPv6RoutingTable :=
  match s.findPrefix type destPrefix prefixLength with
  | none =>
    s.addRoute { id := s.nextRouteId, destPrefix, prefixLength := toShort prefixLength, sourceType := type,
                 interfacePtr := s.getInterfaceById interfaceId, expiryTime, metric := 0,
                 adminDist := dDirectlyConnected }
  | some r =>
    (s.change r.id (.setInterface (s.getInterfaceById interfaceId))).change r.id (.setExpiryTime expiryTime)

def addOrUpdateOnLinkPrefix := s.addOrUpdatePrefix .ROUTER_ADVERTISEMENT

def addOrUpdateOwnAdvPrefix := s.addOrUpdatePrefix .OWN_ADV_PREFIX

end IPv6RoutingTable

namespace IPv6

/-- The next hop and the interface of a datagram that can be sent. -/
def determineOutputInterface (rt : IPv6RoutingTable) (now : SimTime) (destAddress : IPv6Address) :
    Option (IPv6RoutingTable × Option (IPv6Address × ℤ)) :=
  let (rt, nextHop, interfaceId) := rt.lookupDestCache now destAddress
  if interfaceId = -1 then do
    let (rt, route) ← rt.doLongestPrefixMatch now destAddress
    match route with
    | none => some (rt, none)
    | some route =>
      let interfaceId := route.interfacePtr.getD (-1)
      let nextHop := if route.nextHop.isUnspecified then destAddress else route.nextHop
      some (rt.updateDestCache destAddress nextHop interfaceId route.expiryTime, some (nextHop, interfaceId))
  else some (rt, some (nextHop, interfaceId))

end IPv6

end inet
