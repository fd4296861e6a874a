import LoRaInet.Container.Basic
import LoRaInet.Kernel.Assert
import LoRaInet.NetworkLayer.IPv4.IPv4Route

open omnetpp container

namespace inet

/-- The IPv4 data of an interface. -/
structure IPv4InterfaceData where
  ipAddress : IPv4Address := .UNSPECIFIED_ADDRESS
  netmask : IPv4Address := 0xFFFFFFFF
  metric : ℤ := 0

namespace IPv4RoutingTable

/-- An interface in the interface table. -/
structure Interface where
  interfaceId : ℕ
  name : String
  isBroadcast : Bool := false
  ipv4Data : Option IPv4InterfaceData := none

/-- A route that is stored, known by its identity. -/
structure StoredRoute where
  id : ℕ
  route : IPv4Route
  isValid : Bool := true
  deriving DecidableEq

/-- The parameters; `netmaskRoutes` is the pattern of interface names. -/
structure Parameters where
  useAdminDist : Bool
  netmaskRoutes : String → Bool

/-- The routing table with the interface table that it looks at. -/
structure State where
  routes : List StoredRoute := []
  routingCache : Map IPv4Address (Option ℕ) := ∅
  localAddresses : List IPv4Address := []
  localBroadcastAddresses : List IPv4Address := []
  interfaces : List Interface := []
  nextRouteId : ℕ := 0
  nextInterfaceId : ℕ := 100

def State.setRoutes (s : State) (routes : List StoredRoute) : State := { s with routes := routes }

def State.setInterfaces (s : State) (interfaces : List Interface) : State :=
  { s with interfaces := interfaces }

def State.setLocalAddresses (addresses : List IPv4Address) (s : State) : State :=
  { s with localAddresses := addresses }

def State.setLocalBroadcastAddresses (addresses : List IPv4Address) (s : State) : State :=
  { s with localBroadcastAddresses := addresses }

variable (dest : IPv4Address)

def State.cacheAnswer (answer : Option ℕ) (s : State) : State :=
  { s with routingCache := s.routingCache.insert dest answer }

def invalidateCache (s : State) : State :=
  { s with routingCache := ∅, localAddresses := [], localBroadcastAddresses := [] }

section Routes

variable (par : Parameters)

/-- The best matching route should precede the other matching routes. -/
def routeLessThan (a b : IPv4Route) : Bool :=
  if a.netmask ≠ b.netmask then b.netmask < a.netmask
  else if a.dest ≠ b.dest then a.dest < b.dest
  else if par.useAdminDist ∧ a.adminDist ≠ b.adminDist then a.adminDist < b.adminDist
  else a.metric < b.metric

/-- A route is inserted where `upper_bound` of the sorted vector is. -/
def insert (entry : StoredRoute) (routes : List StoredRoute) : List StoredRoute :=
  routes.takeWhile (fun r => !routeLessThan par entry.route r.route) ++
    entry :: routes.dropWhile fun r => !routeLessThan par entry.route r.route

def matchesRoute (r : StoredRoute) : Bool :=
  dest.maskedAddrAreEqual r.route.dest r.route.netmask

/-- The first route that is valid and matches. -/
def bestRoute (routes : List StoredRoute) : Option StoredRoute :=
  routes.find? fun r => r.isValid && matchesRoute dest r

def findRoute (s : State) (id : ℕ) : Option StoredRoute := s.routes.find? fun r => r.id = id

/-- A cached answer is used unless its route is not valid any more. -/
def findBestMatchingRoute (s : State) : Except Fault (Option ℕ × State) :=
  let scan : Option ℕ × State :=
    let answer := (bestRoute dest s.routes).map (·.id)
    (answer, s.cacheAnswer dest answer)
  match s.routingCache.lookup dest with
  | none => .ok scan
  | some none => .ok (none, s)
  | some (some id) =>
    match findRoute s id with
    | none => .error .nullPointer
    | some r => .ok (if r.isValid then (some id, s) else scan)

/-- The default routes are the last ones. -/
def getDefaultRoute (routes : List StoredRoute) : Option StoredRoute :=
  (routes.reverse.takeWhile fun r => r.route.netmask.isUnspecified).find? (·.isValid)

def internalRemoveRoute (id : ℕ) (routes : List StoredRoute) : List StoredRoute :=
  routes.filter fun r => r.id ≠ id

/-- `removeRoute` and `deleteRoute`. -/
def removeRoute (id : ℕ) (s : State) : State :=
  if (findRoute s id).isSome then invalidateCache (s.setRoutes (internalRemoveRoute id s.routes))
  else s

def checkRoute (entry : IPv4Route) : Except Fault Unit :=
  if !entry.netmask.isValidNetmask then
    .error (.cRuntimeError s!"addRoute(): wrong netmask {entry.netmask.str} in route")
  else if entry.netmask ≠ 0 ∧ entry.dest &&& entry.netmask = 0 then
    .error (.cRuntimeError s!"addRoute(): all bits of destination address {entry.dest.str} is 0 inside non zero netmask {entry.netmask.str}")
  else if entry.dest &&& ~~~entry.netmask ≠ 0 then
    .error (.cRuntimeError s!"addRoute(): suspicious route: destination IP address {entry.dest.str} has bits set outside netmask {entry.netmask.str}")
  else if entry.interfacePtr = none then
    .error (.cRuntimeError "addRoute(): interface cannot be nullptr")
  else .ok ()

/-- A default route replaces the old one. -/
def internalAddRoute (entry : StoredRoute) (s : State) : Except Fault State := do
  checkRoute entry.route
  let s := if entry.route.netmask.isUnspecified then
      match getDefaultRoute s.routes with
      | some oldDefaultRoute => removeRoute oldDefaultRoute.id s
      | none => s
    else s
  return s.setRoutes (insert par entry s.routes)

/-- The route is stored under a new identity. -/
def addRoute (route : IPv4Route) (isValid : Bool) (s : State) : Except Fault State := do
  let s ← internalAddRoute par ⟨s.nextRouteId, route, isValid⟩ s
  return invalidateCache { s with nextRouteId := s.nextRouteId + 1 }

/-- The setters of a route. -/
inductive Change where
  | destination (dest : IPv4Address)
  | netmask (netmask : IPv4Address)
  | gateway (gateway : IPv4Address)
  | interface (interfacePtr : Option ℤ)
  | sourceType (sourceType : SourceType)
  | adminDist (adminDist : ℕ)
  | metric (metric : ℤ)

def Change.apply : Change → IPv4Route → IPv4Route
  | .destination value, r => { r with dest := value }
  | .netmask value, r => { r with netmask := value }
  | .gateway value, r => { r with gateway := value }
  | .interface value, r => { r with interfacePtr := value }
  | .sourceType value, r => { r with sourceType := value }
  | .adminDist value, r => { r with adminDist := value }
  | .metric value, r => { r with metric := value }

/-- The fields that the data structures depend on, as `routeChanged` has them. -/
def Change.isKey : Change → Bool
  | .destination _ => true
  | .netmask _ => true
  | .metric _ => true
  | _ => false

def StoredRoute.change (change : Change) (r : StoredRoute) : StoredRoute :=
  { r with route := change.apply r.route }

/-- The routes after a change in place. -/
def changeRoute (id : ℕ) (change : Change) (routes : List StoredRoute) : List StoredRoute :=
  routes.map fun r => if r.id = id then r.change change else r

/-- A setter of a stored route, with `routeChanged`. -/
def setField (id : ℕ) (change : Change) (s : State) : Except Fault State :=
  match findRoute s id with
  | none => .ok s
  | some entry =>
    if change.apply entry.route = entry.route then .ok s
    else if change.isKey then do
      let s ← internalAddRoute par (entry.change change)
        (s.setRoutes (internalRemoveRoute id s.routes))
      return invalidateCache s
    else .ok (s.setRoutes (changeRoute id change s.routes))

def StoredRoute.setValid (isValid : Bool) (r : StoredRoute) : StoredRoute :=
  { r with isValid := isValid }

/-- A route becomes valid or invalid by itself. -/
def setValid (id : ℕ) (isValid : Bool) (routes : List StoredRoute) : List StoredRoute :=
  routes.map fun r => if r.id = id then r.setValid isValid else r

/-- `changed` when a multicast route was deleted or updated. -/
def purge (changed : Bool) (s : State) : State :=
  let s' := s.setRoutes (s.routes.filter (·.isValid))
  if changed || s.routes.any (!·.isValid) then invalidateCache s' else s'

def usesInterface (interfaceId : ℕ) (r : StoredRoute) : Bool :=
  r.route.interfacePtr = some (interfaceId : ℤ)

def deleteInterfaceRoutes (interfaceId : ℕ) (changed : Bool) (s : State) : State :=
  let s' := s.setRoutes (s.routes.filter fun r => !usesInterface interfaceId r)
  if changed || s.routes.any (usesInterface interfaceId) then invalidateCache s' else s'

/-- The route to the network of an interface. -/
def netmaskRoute (interface : Interface) (data : IPv4InterfaceData) : IPv4Route where
  dest := data.ipAddress &&& data.netmask
  netmask := data.netmask
  gateway := .UNSPECIFIED_ADDRESS
  interfacePtr := some interface.interfaceId
  sourceType := .IFACENETMASK
  adminDist := 0
  metric := data.metric

def addNetmaskRoute (interface : Interface) (s : State) : State :=
  match interface.ipv4Data with
  | some data =>
    if par.netmaskRoutes interface.name && data.netmask ≠ 0xFFFFFFFF then
      { s with
        routes := insert par ⟨s.nextRouteId, netmaskRoute interface data, true⟩ s.routes
        nextRouteId := s.nextRouteId + 1 }
    else s
  | none => s

def updateNetmaskRoutes (s : State) : State :=
  let kept := s.setRoutes (s.routes.filter fun r => r.route.sourceType ≠ .IFACENETMASK)
  invalidateCache (s.interfaces.foldl (fun s interface => addNetmaskRoute par interface s) kept)

end Routes

def interfaceAddresses (interfaces : List Interface) : List IPv4Address :=
  interfaces.filterMap fun interface => interface.ipv4Data.map (·.ipAddress)

/-- The addresses are collected if that is not yet done. -/
def isLocalAddress (s : State) : Bool × State :=
  let localAddresses := if s.localAddresses = [] then interfaceAddresses s.interfaces
    else s.localAddresses
  (dest ∈ localAddresses, s.setLocalAddresses localAddresses)

/-- The data of a broadcast interface is read without a test. -/
def broadcastAddresses : List Interface → Except Fault (List IPv4Address)
  | [] => .ok []
  | interface :: interfaces =>
    if interface.isBroadcast then
      match interface.ipv4Data with
      | none => .error .nullPointer
      | some data => do
        let broadcastAddr := data.ipAddress.makeBroadcastAddress data.netmask
        let addresses ← broadcastAddresses interfaces
        return if broadcastAddr.isUnspecified then addresses else broadcastAddr :: addresses
    else broadcastAddresses interfaces

def collectBroadcastAddresses (s : State) : Except Fault (List IPv4Address) :=
  if s.localBroadcastAddresses = [] then broadcastAddresses s.interfaces
  else .ok s.localBroadcastAddresses

def isLocalBroadcastAddress (s : State) : Except Fault (Bool × State) := do
  let localBroadcastAddresses ← collectBroadcastAddresses s
  return (dest ∈ localBroadcastAddresses, s.setLocalBroadcastAddresses localBroadcastAddresses)

section Events

/-- The queries of other modules. -/
inductive Query where
  | findBestMatchingRoute (dest : IPv4Address)
  | isLocalAddress (dest : IPv4Address)
  | isLocalBroadcastAddress (dest : IPv4Address)

def answer (s : State) : Query → Except Fault State
  | .findBestMatchingRoute dest => (findBestMatchingRoute dest s).map (·.2)
  | .isLocalAddress dest => .ok (isLocalAddress dest s).2
  | .isLocalBroadcastAddress dest => (isLocalBroadcastAddress dest s).map (·.2)

/-- The calls on the routing table and on the interface table, with the notifications that
the latter sends. The listeners of a deletion may ask before the interface has left. -/
inductive Event where
  | query (query : Query)
  | addRoute (route : IPv4Route) (isValid : Bool)
  | removeRoute (id : ℕ)
  | purge (changed : Bool)
  | setField (id : ℕ) (change : Change)
  | setValid (id : ℕ) (isValid : Bool)
  | addInterface (name : String) (isBroadcast : Bool) (ipv4Data : Option IPv4InterfaceData)
  | deleteInterface (interfaceId : ℕ) (name : String) (changed : Bool) (queries : List Query)
  | interfaceChanged
  | setBroadcast (interfaceId : ℕ) (isBroadcast : Bool)
  | setIPv4Data (interfaceId : ℕ) (ipv4Data : IPv4InterfaceData)
  | setIPAddress (interfaceId : ℕ) (ipAddress : IPv4Address)
  | setNetmask (interfaceId : ℕ) (netmask : IPv4Address)
  | setMetric (interfaceId : ℕ) (metric : ℤ)

variable (interfaceId : ℕ)

def updateInterface (f : Interface → Interface) (s : State) : State :=
  s.setInterfaces (s.interfaces.map fun interface =>
    if interface.interfaceId = interfaceId then f interface else interface)

def Interface.setBroadcast (isBroadcast : Bool) (interface : Interface) : Interface :=
  { interface with isBroadcast := isBroadcast }

def Interface.setIPv4Data (ipv4Data : IPv4InterfaceData) (interface : Interface) : Interface :=
  { interface with ipv4Data := some ipv4Data }

def Interface.updateData (f : IPv4InterfaceData → IPv4InterfaceData) (interface : Interface) :
    Interface :=
  { interface with ipv4Data := interface.ipv4Data.map f }

/-- `deleteInterface` up to the moment at which the interface leaves the table. -/
def notifyDeleted (changed : Bool) (queries : List Query) (s : State) : Except Fault State :=
  queries.foldlM answer (deleteInterfaceRoutes interfaceId changed s)

def removeInterface (s : State) : State :=
  s.setInterfaces (s.interfaces.filter fun interface => interface.interfaceId ≠ interfaceId)

def deleteInterface (interfaceId : ℕ) (name : String) (changed : Bool) (queries : List Query)
    (s : State) : Except Fault State :=
  if s.interfaces.any (·.interfaceId = interfaceId) then
    (notifyDeleted interfaceId changed queries s).map (removeInterface interfaceId)
  else .error
    (.cRuntimeError s!"deleteInterface(): interface '{name}' not found in interface table")

/-- A setter that changes nothing notifies nobody. -/
def setBroadcast (interfaceId : ℕ) (isBroadcast : Bool) (s : State) : State :=
  if s.interfaces.any fun interface =>
      interface.interfaceId = interfaceId && interface.isBroadcast != isBroadcast then
    invalidateCache (updateInterface interfaceId (·.setBroadcast isBroadcast) s)
  else s

def addInterface (par : Parameters) (name : String) (isBroadcast : Bool)
    (ipv4Data : Option IPv4InterfaceData) (s : State) : Except Fault State :=
  if s.interfaces.any (·.name = name) then
    .error (.cRuntimeError s!"addInterface(): interface '{name}' already registered")
  else .ok (updateNetmaskRoutes par { s with
      interfaces := s.interfaces ++ [⟨s.nextInterfaceId, name, isBroadcast, ipv4Data⟩]
      nextInterfaceId := s.nextInterfaceId + 1 })

/-- `interfaceChanged` stands for the other fields of an interface. The setters of its IPv4
data notify always. -/
def handle (par : Parameters) (s : State) : Event → Except Fault State
  | .query query => answer s query
  | .addRoute route isValid => addRoute par route isValid s
  | .removeRoute id => .ok (removeRoute id s)
  | .purge changed => .ok (purge changed s)
  | .setField id change => setField par id change s
  | .setValid id isValid => .ok (s.setRoutes (setValid id isValid s.routes))
  | .addInterface name isBroadcast ipv4Data => addInterface par name isBroadcast ipv4Data s
  | .deleteInterface interfaceId name changed queries =>
    deleteInterface interfaceId name changed queries s
  | .interfaceChanged => .ok (invalidateCache s)
  | .setBroadcast interfaceId isBroadcast => .ok (setBroadcast interfaceId isBroadcast s)
  | .setIPv4Data interfaceId ipv4Data =>
    .ok (invalidateCache (updateInterface interfaceId (·.setIPv4Data ipv4Data) s))
  | .setIPAddress interfaceId ipAddress =>
    .ok (updateNetmaskRoutes par (updateInterface interfaceId
      (·.updateData fun data => { data with ipAddress := ipAddress }) s))
  | .setNetmask interfaceId netmask =>
    .ok (updateNetmaskRoutes par (updateInterface interfaceId
      (·.updateData fun data => { data with netmask := netmask }) s))
  | .setMetric interfaceId metric =>
    .ok (updateNetmaskRoutes par (updateInterface interfaceId
      (·.updateData fun data => { data with metric := metric }) s))

end Events

end IPv4RoutingTable

end inet
