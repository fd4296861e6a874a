import LoRaInet.Container.Basic
import LoRaInet.Kernel.Assert

open omnetpp container

namespace inet

variable {A : Type}

structure AODVRouteData where
  active : Bool
  validDestNum : Bool
  destSeqNum : ℕ
  lifeTime : SimTime

structure AODVRREQ (A : Type) where
  gratuitousRREPFlag : Bool
  unknownSeqNumFlag : Bool
  hopCount : ℕ
  rreqId : ℕ
  destAddr : A
  destSeqNum : ℕ
  originatorAddr : A
  originatorSeqNum : ℕ

structure AODVRREP (A : Type) where
  ackRequiredFlag : Bool
  hopCount : ℕ
  destAddr : A
  destSeqNum : ℕ
  originatorAddr : A
  originatorSeqNum : ℕ
  lifeTime : SimTime
  deriving DecidableEq

namespace AODVRouting

/-- A route in the routing table, known by its identity. Only the routes of this module have AODV data. -/
structure Route (A : Type) where
  id : ℕ
  destination : A
  nextHop : A
  metric : ℕ
  protocolData : Option AODVRouteData := none

structure Datagram (A : Type) where
  id : ℕ
  sourceAddress : A
  destinationAddress : A
  deriving DecidableEq

structure WaitForRREP (A : Type) where
  destAddr : A
  lastTTL : ℕ
  fromInvalidEntry : Bool
  arrivalTime : Option SimTime

structure Parameters where
  askGratuitousRREP : Bool
  activeRouteTimeout : SimTime
  helloInterval : SimTime
  allowedHelloLoss : ℕ
  netDiameter : ℕ
  nodeTraversalTime : SimTime
  netTraversalTime : SimTime
  deletePeriod : SimTime
  rreqRetries : ℕ
  rreqRatelimit : ℕ
  timeoutBuffer : ℕ
  ttlStart : ℕ
  ttlIncrement : ℕ
  ttlThreshold : ℕ

/-- The address type and the routing table of the node: which route the table finds for an address, and
where it puts a new one. -/
structure Environment (A : Type) where
  selfIPAddress : A
  isUnspecified : A → Bool
  isBroadcast : A → Bool
  isMulticast : A → Bool
  isLocalAddress : A → Bool
  findBestMatchingRoute : List (Route A) → A → Option (Route A)
  addRoute : Route A → List (Route A) → List (Route A)

/-- The state between start and shutdown; the key of a delayed packet is its destination. -/
structure State (A : Type) where
  now : SimTime := 0
  routes : List (Route A) := []
  nextRouteId : ℕ := 0
  rreqId : ℕ := 0
  sequenceNum : ℕ := 0
  rreqCount : ℕ := 0
  rebootTime : SimTime := 0
  waitForRREPTimers : Map A (WaitForRREP A) := ∅
  addressToRreqRetries : Map A ℕ := ∅
  expungeTimer : Option SimTime := none
  delayedPackets : List (Datagram A) := []

inductive Action (A : Type) where
  | reinjectQueuedDatagram (datagram : Datagram A)
  | dropQueuedDatagram (datagram : Datagram A)
  | sendRREQ (rreq : AODVRREQ A) (timeToLive : ℕ)
  | sendRREPACK (destAddr : A)
  | forwardRREP (rrep : AODVRREP A) (nextHop : A)

inductive HookResult where
  | ACCEPT
  | QUEUE
  deriving DecidableEq

section Routes

variable (s : State A)

/-- The earliest lifetime of the routes of this module. -/
def nextExpungeTime (routes : List (Route A)) : Option SimTime :=
  (routes.filterMap fun r => r.protocolData.map (·.lifeTime)).min?

def scheduleExpungeRoutes : Except Fault (State A) :=
  match nextExpungeTime s.routes with
  | none => .ok { s with expungeTimer := none }
  | some t =>
    if s.expungeTimer = some t then .ok s
    else if t < s.now then .error .scheduledToThePast
    else .ok { s with expungeTimer := some t }

def setRoute (route : Route A) : State A :=
  { s with routes := s.routes.map fun r => if r.id = route.id then route else r }

def updateRoutingTable (route : Route A) (nextHop : A) (hopCount : ℕ) (hasValidDestNum : Bool)
    (destSeqNum : ℕ) (isActive : Bool) (lifeTime : SimTime) : Except Fault (State A) :=
  scheduleExpungeRoutes <| setRoute s
    { route with nextHop, metric := hopCount,
                 protocolData := some ⟨isActive, hasValidDestNum, destSeqNum, lifeTime⟩ }

variable (env : Environment A)

def createRoute (destAddr nextHop : A) (hopCount : ℕ) (hasValidDestNum : Bool) (destSeqNum : ℕ)
    (isActive : Bool) (lifeTime : SimTime) : Except Fault (State A × Route A) := do
  let newRoute : Route A :=
    { id := s.nextRouteId, destination := destAddr, nextHop, metric := hopCount,
      protocolData := some ⟨isActive, hasValidDestNum, destSeqNum, lifeTime⟩ }
  let s ← scheduleExpungeRoutes
    { s with routes := env.addRoute newRoute s.routes, nextRouteId := s.nextRouteId + 1 }
  .ok (s, newRoute)

/-- The best route for an address with its AODV data, if it is one of this module. -/
def findRoute (addr : A) : Option (Route A × AODVRouteData) :=
  (env.findBestMatchingRoute s.routes addr).bind fun route => route.protocolData.map fun data => (route, data)

def updateValidRouteLifeTime (destAddr : A) (lifetime : SimTime) : State A :=
  match findRoute s env destAddr with
  | none => s
  | some (route, data) =>
    if data.active then
      setRoute s { route with protocolData := some { data with lifeTime := max data.lifeTime lifetime } }
    else s

end Routes

section Discovery

variable [DecidableEq A] (par : Parameters) (env : Environment A) (s : State A) (target : A)

def hasOngoingRouteDiscovery : Bool := (s.waitForRREPTimers.lookup target).isSome

def createRREQ (destAddr : A) : State A × AODVRREQ A :=
  let lastKnownRoute := findRoute s env destAddr
  let known := lastKnownRoute.filter (·.2.validDestNum)
  ({ s with sequenceNum := s.sequenceNum + 1, rreqId := s.rreqId + 1 },
    { gratuitousRREPFlag := par.askGratuitousRREP, unknownSeqNumFlag := known.isNone, hopCount := 0,
      rreqId := s.rreqId + 1, destAddr, destSeqNum := known.elim 0 (·.2.destSeqNum),
      originatorAddr := env.selfIPAddress, originatorSeqNum := s.sequenceNum + 1 })

/-- `sendAODVPacket` of a RREQ. -/
def sendAODVPacket (rreq : AODVRREQ A) (timeToLive : ℕ) : Except Fault (List (Action A)) := do
  ASSERT (timeToLive ≠ 0) "timeToLive != 0"
  .ok [.sendRREQ rreq timeToLive]

/-- The timer with its next TTL; 0 stands for a TTL that is not given. -/
def nextWaitForRREP (destAddr : A) (timeToLive : ℕ) : Except Fault (WaitForRREP A × ℕ) :=
  match s.waitForRREPTimers.lookup destAddr with
  | some rrepTimerMsg =>
    if timeToLive ≠ 0 then
      .ok ({ rrepTimerMsg with destAddr, lastTTL := timeToLive, fromInvalidEntry := true, arrivalTime := none },
        timeToLive)
    else do
      ASSERT (rrepTimerMsg.arrivalTime = none) "!rrepTimerMsg->isScheduled()"
      let timeToLive := if rrepTimerMsg.lastTTL + par.ttlIncrement < par.ttlThreshold then
          rrepTimerMsg.lastTTL + par.ttlIncrement
        else par.netDiameter
      .ok ({ rrepTimerMsg with destAddr, lastTTL := timeToLive }, timeToLive)
  | none =>
    .ok ({ destAddr, lastTTL := par.ttlStart, fromInvalidEntry := false, arrivalTime := none }, par.ttlStart)

def ringTraversalTime (timeToLive : ℕ) : SimTime :=
  2 * par.nodeTraversalTime * ((timeToLive : ℚ) + par.timeoutBuffer)

/-- No more than `rreqRatelimit` requests are sent in a second. -/
def sendRREQ (rreq : AODVRREQ A) (timeToLive : ℕ) : Except Fault (State A × List (Action A)) :=
  if s.rreqCount ≥ par.rreqRatelimit then .ok (s, [])
  else do
    let (rrepTimerMsg, timeToLive) ← nextWaitForRREP par s rreq.destAddr timeToLive
    let arrivalTime := s.now + ringTraversalTime par timeToLive
    if arrivalTime < s.now then .error .scheduledToThePast
    else do
      let actions ← sendAODVPacket rreq timeToLive
      .ok ({ s with waitForRREPTimers :=
                      s.waitForRREPTimers.insert rreq.destAddr { rrepTimerMsg with arrivalTime := some arrivalTime }
                    rreqCount := s.rreqCount + 1 },
        actions)

/-- A `timeToLive` of 0 is the default argument. -/
def startRouteDiscovery (timeToLive : ℕ) : Except Fault (State A × List (Action A)) := do
  ASSERT (hasOngoingRouteDiscovery s target = false) "!hasOngoingRouteDiscovery(target)"
  let (s, rreq) := createRREQ par env s target
  sendRREQ par { s with addressToRreqRetries := s.addressToRreqRetries.insert target 0 } rreq timeToLive

def delayDatagram (datagram : Datagram A) : State A := { s with delayedPackets := s.delayedPackets ++ [datagram] }

/-- The datagrams wait no more, and the timer is deleted. -/
def endRouteDiscovery : State A :=
  { s with delayedPackets := s.delayedPackets.filter (·.destinationAddress ≠ target)
           waitForRREPTimers := s.waitForRREPTimers.erase target }

def delayedFor : List (Datagram A) := s.delayedPackets.filter (·.destinationAddress = target)

def completeRouteDiscovery : Except Fault (State A × List (Action A)) := do
  ASSERT (hasOngoingRouteDiscovery s target) "hasOngoingRouteDiscovery(target)"
  .ok (endRouteDiscovery s target, (delayedFor s target).map .reinjectQueuedDatagram)

def cancelRouteDiscovery (destAddr : A) : Except Fault (State A × List (Action A)) := do
  ASSERT (hasOngoingRouteDiscovery s destAddr) "hasOngoingRouteDiscovery(destAddr)"
  .ok (endRouteDiscovery s destAddr, (delayedFor s destAddr).map .dropQueuedDatagram)

def handleWaitForRREP (rrepTimer : WaitForRREP A) : Except Fault (State A × List (Action A)) :=
  match s.addressToRreqRetries.lookup rrepTimer.destAddr with
  | none =>
    .error (.cRuntimeError
      "ASSERT: Condition 'addressToRreqRetries.find(destAddr) != addressToRreqRetries.end()' does not hold")
  | some retries =>
    if retries = par.rreqRetries then cancelRouteDiscovery s rrepTimer.destAddr
    else
      let (s, rreq) := createRREQ par env s rrepTimer.destAddr
      let s := if rrepTimer.lastTTL = par.netDiameter then
          { s with addressToRreqRetries := s.addressToRreqRetries.insert rrepTimer.destAddr (retries + 1) }
        else s
      sendRREQ par s rreq 0

/-- The route is active and says where to send datagrams. -/
def isUsable (route : Option (Route A)) : Bool :=
  route.any fun route => route.protocolData.any (·.active) && !env.isUnspecified route.nextHop

def ensureRouteForDatagram (datagram : Datagram A) :
    Except Fault (State A × HookResult × List (Action A)) :=
  let destAddr := datagram.destinationAddress
  if env.isBroadcast destAddr || env.isLocalAddress destAddr || env.isMulticast destAddr then
    .ok (s, .ACCEPT, [])
  else
    let route := env.findBestMatchingRoute s.routes destAddr
    if isUsable env route then
      let lifeTime := s.now + par.activeRouteTimeout
      let s := updateValidRouteLifeTime s env destAddr lifeTime
      .ok (updateValidRouteLifeTime s env (route.elim destAddr (·.nextHop)) lifeTime, .ACCEPT, [])
    else if env.isUnspecified datagram.sourceAddress || env.isLocalAddress datagram.sourceAddress then do
      let isInactive := route.any fun route => route.protocolData.any (!·.active)
      let s := delayDatagram s datagram
      if hasOngoingRouteDiscovery s destAddr then .ok (s, .QUEUE, [])
      else
        let (s, actions) ← startRouteDiscovery par env s destAddr
          (if isInactive then route.elim 0 (·.metric) + par.ttlIncrement else 0)
        .ok (s, .QUEUE, actions)
    else .ok (s, .ACCEPT, [])

end Discovery

section Replies

variable [DecidableEq A] (par : Parameters) (env : Environment A) (s : State A)

def handleHelloMessage (helloMessage : AODVRREP A) : Except Fault (State A) :=
  let helloOriginatorAddr := helloMessage.destAddr
  let newLifeTime := s.now + par.allowedHelloLoss * par.helloInterval
  match findRoute s env helloOriginatorAddr with
  | none => do
    let (s, _) ← createRoute s env helloOriginatorAddr helloOriginatorAddr 1 true helloMessage.destSeqNum true
      newLifeTime
    .ok s
  | some (route, data) =>
    updateRoutingTable s route helloOriginatorAddr 1 true helloMessage.destSeqNum true
      (max data.lifeTime newLifeTime)

variable (rrep : AODVRREP A) (sourceAddr : A)

/-- The first part of `handleRREP`: the previous hop is a neighbour. -/
def updatePreviousHopRoute : Except Fault (State A) :=
  let lifeTime := s.now + par.activeRouteTimeout
  match findRoute s env sourceAddr with
  | none => do
    let (s, _) ← createRoute s env sourceAddr sourceAddr 1 false rrep.originatorSeqNum true lifeTime
    .ok s
  | some (route, _) => updateRoutingTable s route sourceAddr 1 false rrep.originatorSeqNum true lifeTime

variable (newHopCount : ℕ)

/-- When the reply is better than what is known about its destination. -/
def isNews (route : Route A) (data : AODVRouteData) : Bool :=
  !data.validDestNum || rrep.destSeqNum > data.destSeqNum ||
    rrep.destSeqNum = data.destSeqNum && (!data.active || newHopCount < route.metric)

/-- The second part: the route to the destination, which may be a new one. -/
def updateForwardRoute : Except Fault (State A × Route A) :=
  let lifeTime := s.now + rrep.lifeTime
  match findRoute s env rrep.destAddr with
  | none => createRoute s env rrep.destAddr sourceAddr newHopCount true rrep.destSeqNum true lifeTime
  | some (route, data) =>
    if isNews rrep newHopCount route data then do
      let s ← updateRoutingTable s route sourceAddr newHopCount true rrep.destSeqNum true lifeTime
      .ok (s, route)
    else .ok (s, route)

/-- The last part: the reply goes on to the originator, or ends the discovery. -/
def forwardOrComplete (destRoute : Route A) : Except Fault (State A × List (Action A)) :=
  if env.selfIPAddress ≠ rrep.originatorAddr then
    match findRoute s env rrep.originatorAddr with
    | none => .ok (s, [])
    | some (route, data) =>
      let s := setRoute s { route with
        protocolData := some { data with lifeTime := max (s.now + par.activeRouteTimeout) data.lifeTime } }
      if s.now > s.rebootTime + par.deletePeriod ∨ s.rebootTime = 0 then
        let ack := if rrep.ackRequiredFlag then [Action.sendRREPACK sourceAddr] else []
        .ok (s, ack ++
          [.forwardRREP { rrep with hopCount := newHopCount, ackRequiredFlag := false } route.nextHop])
      else .ok (s, [])
  else if hasOngoingRouteDiscovery s rrep.destAddr then do
    let s ← updateRoutingTable s destRoute sourceAddr newHopCount true rrep.destSeqNum true
      (s.now + rrep.lifeTime)
    completeRouteDiscovery s rrep.destAddr
  else .ok (s, [])

def handleRREP : Except Fault (State A × List (Action A)) :=
  if env.isUnspecified rrep.originatorAddr then do
    let s ← handleHelloMessage par env s rrep
    .ok (s, [])
  else do
    let s ← updatePreviousHopRoute par env s rrep sourceAddr
    let (s, destRoute) ← updateForwardRoute env s rrep sourceAddr (rrep.hopCount + 1)
    forwardOrComplete par env s rrep sourceAddr (rrep.hopCount + 1) destRoute

/-- The loop of `expungeRoutes`. It goes on behind the next route when it has deleted one. -/
def expungeLoop : List (Route A) → List (Route A)
  | [] => []
  | route :: routes =>
    match route.protocolData with
    | none => route :: expungeLoop routes
    | some data =>
      if data.lifeTime ≤ s.now then
        if data.active then
          { route with protocolData := some { data with active := false, lifeTime := s.now + par.deletePeriod } } ::
            expungeLoop routes
        else if hasOngoingRouteDiscovery s route.destination then
          { route with protocolData := some { data with lifeTime := s.now + 2 * par.netTraversalTime } } ::
            expungeLoop routes
        else
          match routes with
          | [] => []
          | skipped :: routes => skipped :: expungeLoop routes
      else route :: expungeLoop routes

def expungeRoutes : Except Fault (State A) :=
  scheduleExpungeRoutes { s with routes := expungeLoop par s s.routes }

end Replies

section Step

variable [DecidableEq A] (par : Parameters) (env : Environment A)

inductive Event (A : Type) where
  | datagram (datagram : Datagram A)
  | rrep (rrep : AODVRREP A) (sourceAddr : A)
  | waitForRREP (target : A)
  | counterTimer
  | expungeTimer
  deriving DecidableEq

structure Output (A : Type) where
  queued : List (Datagram A) := []
  actions : List (Action A) := []

/-- The timers that fire are no longer scheduled. -/
def handle (s : State A) : Event A → Except Fault (State A × Output A)
  | .datagram datagram => do
    let (s, result, actions) ← ensureRouteForDatagram par env s datagram
    .ok (s, { queued := if result = .QUEUE then [datagram] else [], actions })
  | .rrep rrep sourceAddr => do
    let (s, actions) ← handleRREP par env s rrep sourceAddr
    .ok (s, { actions })
  | .waitForRREP target =>
    match s.waitForRREPTimers.lookup target with
    | none => .error .nullPointer
    | some rrepTimer => do
      let (s, actions) ← handleWaitForRREP par env
        { s with waitForRREPTimers := s.waitForRREPTimers.insert target { rrepTimer with arrivalTime := none } }
        rrepTimer
      .ok (s, { actions })
  | .counterTimer => .ok ({ s with rreqCount := 0 }, {})
  | .expungeTimer => do
    let s ← expungeRoutes par { s with expungeTimer := none }
    .ok (s, {})

/-- No timer is overdue at the time of the event, and a timer fires at its own time. -/
def isNext (s : State A) (t : SimTime) (e : Event A) : Bool :=
  s.now ≤ t && s.waitForRREPTimers.entries.all (fun w => w.2.arrivalTime.all (t ≤ ·)) &&
    s.expungeTimer.all (t ≤ ·) &&
    match e with
    | .waitForRREP target => (s.waitForRREPTimers.lookup target).any (·.arrivalTime = some t)
    | .expungeTimer => s.expungeTimer = some t
    | _ => true

def step (s : State A) (e : SimTime × Event A) : Option (State A × Output A) :=
  if isNext s e.1 e.2 then (handle par env { s with now := e.1 } e.2).toOption else none

end Step

end AODVRouting

end inet
