import LoRaInet.Addressing.Network
import LoRaInet.Kernel.Assert
import LoRaInet.NetworkLayer.IPv4.IPv4Route

open omnetpp addressing

namespace inet.IPv4NetworkConfigurator

/-- A route of the original table in the optimizer's format. -/
structure OriginalRouteInfo where
  color : ℕ
  destination : IPv4Address
  netmask : IPv4Address
  deriving DecidableEq

structure RouteInfo where
  color : ℕ
  enabled : Bool
  destination : IPv4Address
  netmask : IPv4Address
  originalRouteInfos : List OriginalRouteInfo
  deriving DecidableEq

def RouteInfo.matches (r : RouteInfo) (address : IPv4Address) : Bool :=
  r.enabled && decide (Matches r.destination r.netmask address)

def routeInfoLessThan (a b : RouteInfo) : Bool :=
  if a.netmask ≠ b.netmask then b.netmask < a.netmask else a.destination < b.destination

variable (routeInfos : List RouteInfo)

/-- The place of a new route in a sorted table. -/
def upperBound (routeInfo : RouteInfo) : ℕ :=
  (routeInfos.takeWhile fun r => !routeInfoLessThan routeInfo r).length

def addRouteInfo (routeInfo : RouteInfo) : List RouteInfo × ℕ :=
  let index := upperBound routeInfos routeInfo
  (routeInfos.insertIdx index routeInfo, index)

/-- The index of the first enabled route in the range that matches. -/
def findBestMatchingRouteInfo (destination : IPv4Address) (first last : ℕ) : Option ℕ :=
  (((routeInfos.take last).drop first).findIdx? fun r => r.matches destination).map (first + ·)

def colorAt (index : ℕ) : Option ℕ :=
  (routeInfos[index]?).map (·.color)

def routesHaveSameColor (route1 route2 : IPv4Route) : Bool :=
  route1.sourceType = route2.sourceType && route1.metric = route2.metric &&
    route1.gateway = route2.gateway && route1.interfacePtr = route2.interfacePtr

def routesCanBeSwapped (routeInfo1 routeInfo2 : RouteInfo) : Bool :=
  if routeInfo1.color = routeInfo2.color then true
  else
    let netmask := routeInfo1.netmask &&& routeInfo2.netmask
    routeInfo1.destination &&& netmask ≠ routeInfo2.destination &&& netmask

variable (i j : ℕ)

def routesCanBeNeighbors : Bool :=
  let first := min i j
  let last := max i j
  match routeInfos[first]? with
  | some beginRouteInfo =>
    ((routeInfos.take last).drop (first + 1)).all fun r => routesCanBeSwapped beginRouteInfo r
  | none => true

def interruptsOriginalRoute (first last : ℕ) (originalRouteInfo : OriginalRouteInfo) : Bool :=
  match findBestMatchingRouteInfo routeInfos originalRouteInfo.destination first last with
  | some index => colorAt routeInfos index ≠ some originalRouteInfo.color
  | none => false

def interruptsAnyOriginalRoute (first last : ℕ)
    (originalRouteInfos : List OriginalRouteInfo) : Bool :=
  first < last && originalRouteInfos.any fun o => interruptsOriginalRoute routeInfos first last o

def interruptsSubsequentOriginalRoutes (index : ℕ) : Bool :=
  (routeInfos.drop (index + 1)).any fun r =>
    interruptsAnyOriginalRoute routeInfos index (index + 1) r.originalRouteInfos

def checkOriginalRoutes (originalRouteInfos : List OriginalRouteInfo) : Except Fault Unit :=
  ASSERT (∀ o ∈ originalRouteInfos,
    (findBestMatchingRouteInfo routeInfos o.destination 0 routeInfos.length).bind
      (colorAt routeInfos) = some o.color) "false"

/-- The bits that are left, from the left. -/
def commonPrefixLoop (destination1 netmask1 destination2 netmask2 : IPv4Address) :
    ℕ → IPv4Address × IPv4Address → IPv4Address × IPv4Address
  | 0, out => out
  | bitIndex + 1, (destinationOut, netmaskOut) =>
    let mask := BitVec.twoPow 32 bitIndex
    if destination1 &&& mask = destination2 &&& mask ∧ netmask1 &&& mask ≠ 0 ∧
        netmask2 &&& mask ≠ 0 then
      commonPrefixLoop destination1 netmask1 destination2 netmask2 bitIndex
        (destinationOut ||| (destination1 &&& mask), netmaskOut ||| mask)
    else (destinationOut, netmaskOut)

/-- The destination and the netmask. -/
def findLongestCommonDestinationPrefix
    (destination1 netmask1 destination2 netmask2 : IPv4Address) : IPv4Address × IPv4Address :=
  commonPrefixLoop destination1 netmask1 destination2 netmask2 32 (0, 0)

def attach (originalRouteInfo : OriginalRouteInfo) (routeInfo : RouteInfo) : RouteInfo :=
  { routeInfo with originalRouteInfos := routeInfo.originalRouteInfos ++ [originalRouteInfo] }

def addOriginalRouteInfos (routeInfos : List RouteInfo) (first last : ℕ) :
    List OriginalRouteInfo → Except Fault (List RouteInfo)
  | [] => .ok routeInfos
  | originalRouteInfo :: originalRouteInfos => do
    let index := findBestMatchingRouteInfo routeInfos originalRouteInfo.destination first last
    ASSERT (index.bind (colorAt routeInfos) = some originalRouteInfo.color)
      "matchingRouteInfo && matchingRouteInfo->color == originalRouteInfo->color"
    addOriginalRouteInfos (routeInfos.modify (index.getD 0) (attach originalRouteInfo)) first last
      originalRouteInfos

def captures (merged : RouteInfo) (originalRouteInfo : OriginalRouteInfo) : Bool :=
  Matches merged.destination merged.netmask originalRouteInfo.destination

/-- The routes that follow the merged one, without the original routes it takes over,
and those. -/
def moveOriginalRouteInfos (merged : RouteInfo) :
    List RouteInfo → Except Fault (List RouteInfo × List OriginalRouteInfo)
  | [] => .ok ([], [])
  | following :: rest => do
    let moved := following.originalRouteInfos.filter (captures merged)
    ASSERT (∀ o ∈ moved, merged.color = o.color) "mergedRouteInfo->color == originalRouteInfo->color"
    let (rest, more) ← moveOriginalRouteInfos merged rest
    let kept := following.originalRouteInfos.filter fun o => !captures merged o
    return ({ following with originalRouteInfos := kept } :: rest, moved ++ more)

def setEnabled (enabled : Bool) (routeInfo : RouteInfo) : RouteInfo :=
  { routeInfo with enabled := enabled }

variable (routeInfoI routeInfoJ : RouteInfo)

/-- The route that covers both. -/
def mergedRoute : RouteInfo :=
  let (destination, netmask) := findLongestCommonDestinationPrefix routeInfoI.destination
    routeInfoI.netmask routeInfoJ.destination routeInfoJ.netmask
  { color := routeInfoI.color, enabled := true, destination := destination, netmask := netmask,
    originalRouteInfos := [] }

/-- The table in which the merged route takes the place of both, with its index. -/
def replaceRoutes : List RouteInfo × ℕ :=
  addRouteInfo ((routeInfos.modify i (setEnabled false)).modify j (setEnabled false))
    (mergedRoute routeInfoI routeInfoJ)

/-- Whether the merge was done, and the table after it. -/
def tryToMergeTwoRoutes : Except Fault (Bool × List RouteInfo) := do
  let merged := mergedRoute routeInfoI routeInfoJ
  let (routeInfos, m) := replaceRoutes routeInfos i j routeInfoI routeInfoJ
  ASSERT (m > i ∧ m > j) "m > i && m > j"
  if !interruptsAnyOriginalRoute routeInfos (j + 1) i routeInfoJ.originalRouteInfos &&
      !interruptsAnyOriginalRoute routeInfos (i + 1) m routeInfoJ.originalRouteInfos &&
      !interruptsAnyOriginalRoute routeInfos (i + 1) m routeInfoI.originalRouteInfos &&
      !interruptsSubsequentOriginalRoutes routeInfos m then
    let routeInfos ← addOriginalRouteInfos routeInfos (i + 1) (m + 1) routeInfoI.originalRouteInfos
    let routeInfos ← addOriginalRouteInfos routeInfos (j + 1) (m + 1) routeInfoJ.originalRouteInfos
    let (following, moved) ← moveOriginalRouteInfos merged (routeInfos.drop (m + 1))
    let capture (r : RouteInfo) : RouteInfo :=
      { r with originalRouteInfos := r.originalRouteInfos ++ moved }
    let routeInfos := (routeInfos.take (m + 1)).modify m capture ++ following
    return (true, (routeInfos.eraseIdx i).eraseIdx j)
  else
    let routeInfos := (routeInfos.modify i (setEnabled true)).modify j (setEnabled true)
    return (false, routeInfos.eraseIdx m)

/-- The indexes of the two loops, in their order. -/
def candidates (size : ℕ) : List (ℕ × ℕ) :=
  (List.range size).flatMap fun i => (List.range i).reverse.map fun j => (i, j)

def canBeMerged : Bool :=
  routeInfoI.color = routeInfoJ.color && routesCanBeNeighbors routeInfos i j

end inet.IPv4NetworkConfigurator
