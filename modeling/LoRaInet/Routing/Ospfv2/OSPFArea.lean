import LoRaInet.NetworkLayer.IPv4.IPv4Route
import Mathlib.Logic.Function.Basic

namespace inet.ospf

def MAX_AGE : ℕ := 3600

def LS_INFINITY : ℕ := 16777215

inductive LinkType where
  | pointToPoint
  | transit
  | stub
  | virtual
  deriving DecidableEq

structure Link where
  linkID : IPv4Address
  linkData : ℕ
  type : LinkType
  linkCost : ℕ
  deriving DecidableEq

structure RouterLSA where
  linkStateID : IPv4Address
  lsAge : ℕ
  V_VirtualLinkEndpoint : Bool
  links : List Link
  deriving DecidableEq

structure NetworkLSA where
  linkStateID : IPv4Address
  lsAge : ℕ
  networkMask : IPv4Address
  attachedRouters : List IPv4Address
  deriving DecidableEq

inductive OSPFLSA where
  | router (lsa : RouterLSA)
  | network (lsa : NetworkLSA)
  deriving DecidableEq

def OSPFLSA.lsAge : OSPFLSA → ℕ
  | .router lsa => lsa.lsAge
  | .network lsa => lsa.lsAge

/-- The database of an area. In each of its lists a link state ID occurs once. -/
structure Area where
  routerLSAs : List RouterLSA
  networkLSAs : List NetworkLSA
  routers_nodup : (routerLSAs.map (·.linkStateID)).Nodup
  networks_nodup : (networkLSAs.map (·.linkStateID)).Nodup

/-- An LSA of the database, by its type and its link state ID. -/
inductive Vertex where
  | router (linkStateID : IPv4Address)
  | network (linkStateID : IPv4Address)
  deriving DecidableEq

def Vertex.isRouter : Vertex → Bool
  | .router _ => true
  | .network _ => false

/-- Whether an LSA lists a link back to another one. A router also has one to a network by a
stub link with the prefix of the network. -/
def hasLink (fromLSA toLSA : OSPFLSA) : Bool :=
  match fromLSA, toLSA with
  | .router fromRouterLSA, .router toRouterLSA =>
    fromRouterLSA.links.any fun link =>
      (link.type = .pointToPoint || link.type = .virtual) && link.linkID = toRouterLSA.linkStateID
  | .router fromRouterLSA, .network toNetworkLSA =>
    fromRouterLSA.links.any fun link =>
      (link.type = .transit && link.linkID = toNetworkLSA.linkStateID) ||
        (link.type = .stub &&
          link.linkID &&& BitVec.ofNat 32 link.linkData =
            toNetworkLSA.linkStateID &&& toNetworkLSA.networkMask)
  | .network fromNetworkLSA, .router toRouterLSA =>
    fromNetworkLSA.attachedRouters.any (· = toRouterLSA.linkStateID)
  | .network _, .network _ => false

/-- What the loop carries, with the routing information of the LSAs. -/
structure SPFState where
  treeVertices : List Vertex
  candidateVertices : List Vertex
  distance : Vertex → ℕ
  parent : Vertex → Option Vertex
  transitCapability : Bool
  justAddedVertex : Vertex
  finished : Bool

namespace Area

variable (area : Area)

def findRouterLSA (linkStateID : IPv4Address) : Option RouterLSA :=
  area.routerLSAs.find? (·.linkStateID = linkStateID)

def findNetworkLSA (linkStateID : IPv4Address) : Option NetworkLSA :=
  area.networkLSAs.find? (·.linkStateID = linkStateID)

def findLSA : Vertex → Option OSPFLSA
  | .router linkStateID => (area.findRouterLSA linkStateID).map .router
  | .network linkStateID => (area.findNetworkLSA linkStateID).map .network

/-- A vertex that is in the database, not at its maximal age, and has a link back. -/
def canJoin (lsa : OSPFLSA) (joiningVertex : Vertex) : Bool :=
  match area.findLSA joiningVertex with
  | none => false
  | some joiningLSA => joiningLSA.lsAge ≠ MAX_AGE && hasLink joiningLSA lsa

variable (s : SPFState)

/-- A vertex that is not on the tree becomes a candidate, or a candidate gets closer. -/
def joinVertex (joiningVertex : Vertex) (linkStateCost : ℕ) : SPFState :=
  if joiningVertex ∈ s.treeVertices then s
  else if joiningVertex ∈ s.candidateVertices then
    if linkStateCost < s.distance joiningVertex then
      { s with distance := Function.update s.distance joiningVertex linkStateCost }
    else s
  else
    { s with
      distance := Function.update s.distance joiningVertex linkStateCost
      parent := Function.update s.parent joiningVertex (some s.justAddedVertex)
      candidateVertices := s.candidateVertices ++ [joiningVertex] }

def processLink (lsa : RouterLSA) (s : SPFState) (link : Link) : SPFState :=
  match link.type with
  | .stub => s
  | .transit =>
    if area.canJoin (.router lsa) (.network link.linkID) then
      joinVertex s (.network link.linkID) (s.distance s.justAddedVertex + link.linkCost)
    else s
  | .pointToPoint | .virtual =>
    if area.canJoin (.router lsa) (.router link.linkID) then
      joinVertex s (.router link.linkID) (s.distance s.justAddedVertex + link.linkCost)
    else s

/-- The cost from a network to a router is always 0. -/
def processAttachedRouter (lsa : NetworkLSA) (s : SPFState) (attachedRouter : IPv4Address) :
    SPFState :=
  if area.canJoin (.network lsa) (.router attachedRouter) then
    joinVertex s (.router attachedRouter) (s.distance s.justAddedVertex)
  else s

def processVertex : SPFState :=
  match area.findLSA s.justAddedVertex with
  | none => s
  | some (.router lsa) =>
    lsa.links.foldl (area.processLink lsa)
      { s with transitCapability := s.transitCapability || lsa.V_VirtualLinkEndpoint }
  | some (.network lsa) => lsa.attachedRouters.foldl (area.processAttachedRouter lsa) s

/-- The closest vertex so far with its distance. Of two at the same distance a network is
preferred to a router. -/
def closer (closest : Vertex × ℕ) (candidate : Vertex) : Vertex × ℕ :=
  let currentDistance := s.distance candidate
  if currentDistance < closest.2 then (candidate, currentDistance)
  else if currentDistance = closest.2 ∧ closest.1.isRouter ∧ !candidate.isRouter then
    (candidate, closest.2)
  else closest

def closestVertex (first : Vertex) : Vertex :=
  (s.candidateVertices.foldl (closer s) (first, LS_INFINITY)).1

/-- The body of the loop. -/
def pass : SPFState :=
  let s := area.processVertex s
  match s.candidateVertices with
  | [] => { s with finished := true }
  | first :: _ =>
    let closest := closestVertex s first
    { s with
      treeVertices := s.treeVertices ++ [closest]
      candidateVertices := s.candidateVertices.erase closest
      justAddedVertex := closest }

def loop : ℕ → SPFState → Option SPFState
  | 0, _ => none
  | fuel + 1, s =>
    let s := area.pass s
    if s.finished then some s else loop fuel s

/-- The state before the loop. The distances and parents of an earlier calculation are kept. -/
def start (spfTreeRoot : Vertex) (distance : Vertex → ℕ) (parent : Vertex → Option Vertex)
    (transitCapability : Bool) : SPFState :=
  { treeVertices := [spfTreeRoot]
    candidateVertices := []
    distance := Function.update distance spfTreeRoot 0
    parent := parent
    transitCapability := transitCapability
    justAddedVertex := spfTreeRoot
    finished := false }

/-- Every pass puts another LSA on the tree, but for the last one. -/
def calculateShortestPathTree (spfTreeRoot : Vertex) (distance : Vertex → ℕ)
    (parent : Vertex → Option Vertex) (transitCapability : Bool) : Option SPFState :=
  area.loop (area.routerLSAs.length + area.networkLSAs.length)
    (start spfTreeRoot distance parent transitCapability)

end Area

end inet.ospf
