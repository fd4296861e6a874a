import LoRaInet.LoRaPhy.LoRaNeighborCache

open omnetpp transition

namespace inet

open physicallayer

/-- The two opposite corners of a quadrant. -/
structure Boundary where
  boundaryMin : Coord
  boundaryMax : Coord

/-- A quadrant has points only if it is a leaf. -/
inductive Quadrant (A : Type) where
  | leaf (points : List A)
  | split (quadrants : Fin 4 → Quadrant A)

/-- The root, with the map that all quadrants share. -/
structure QuadTree (A : Type) where
  lastPosition : A → Option Coord
  quadrantCapacity : ℕ
  boundary : Boundary
  root : Quadrant A

namespace Boundary

variable (b : Boundary)

def isInRectangleRange (pointCoord : Coord) : Bool :=
  pointCoord.x ≤ b.boundaryMax.x && pointCoord.x ≥ b.boundaryMin.x &&
    pointCoord.y ≤ b.boundaryMax.y && pointCoord.y ≥ b.boundaryMin.y

/-- Four congruent rectangles. Each contains its borders. -/
def setBoundary (i : Fin 4) : Boundary :=
  let x := (b.boundaryMax.x - b.boundaryMin.x) / 2 + b.boundaryMin.x
  let y := (b.boundaryMax.y - b.boundaryMin.y) / 2 + b.boundaryMin.y
  match i with
  | 0 => ⟨{ x := b.boundaryMin.x, y := y }, { x := x, y := b.boundaryMax.y }⟩
  | 1 => ⟨{ x := x, y := y }, { x := b.boundaryMax.x, y := b.boundaryMax.y }⟩
  | 2 => ⟨{ x := b.boundaryMin.x, y := b.boundaryMin.y }, { x := x, y := y }⟩
  | 3 => ⟨{ x := x, y := b.boundaryMin.y }, { x := b.boundaryMax.x, y := y }⟩

/-- The first quadrant that contains a position. -/
def findQuadrant (pos : Coord) : Option (Fin 4) :=
  (List.finRange 4).find? fun i => (b.setBoundary i).isInRectangleRange pos

def doesIntersectWithQuadrant (pos : Coord) (range : ℚ) : Bool :=
  !(pos.x - range > b.boundaryMax.x || pos.x + range < b.boundaryMin.x ||
    pos.y - range > b.boundaryMax.y || pos.y + range < b.boundaryMin.y)

end Boundary

namespace QuadTree

/-- What stops a call: a fault, or `none` when it calls itself more often than is allowed. -/
abbrev Stopped := Option Fault

variable {A : Type} [DecidableEq A]

def hasChild : Quadrant A → Bool
  | .leaf _ => false
  | .split _ => true

/-- The vector of a quadrant. -/
def points : Quadrant A → List A
  | .leaf points => points
  | .split _ => []

def whichQuadrant (b : Boundary) (pos : Coord) : Except Stopped (Fin 4) :=
  match b.findQuadrant pos with
  | some i => .ok i
  | none => .error (some (.cRuntimeError
      "QuadTree failed to determine to which quadrant point belongs to"))

/-- What `insert` returns for a quadrant: the map, the quadrant and whether the point was inserted. -/
abbrev Inserted (A : Type) := (A → Option Coord) × Quadrant A × Bool

/-- A point of a quadrant that was a leaf is inserted into one of its new quadrants. -/
def splitPoint (insert : Boundary → Quadrant A → (A → Option Coord) → A → Coord → Except Stopped (Inserted A))
    (b : Boundary) (s : (A → Option Coord) × (Fin 4 → Quadrant A)) (elem : A) :
    Except Stopped ((A → Option Coord) × (Fin 4 → Quadrant A)) :=
  let (lastPosition, quadrants) := s
  match lastPosition elem with
  | none => .error (some (.cRuntimeError "Last position not found for object"))
  | some pos => do
    let quadrantNum ← whichQuadrant b pos
    let (lastPosition, quadrant, _) ←
      insert (b.setBoundary quadrantNum) (quadrants quadrantNum) lastPosition elem pos
    return (lastPosition, Function.update quadrants quadrantNum quadrant)

def splitPoints (insert : Boundary → Quadrant A → (A → Option Coord) → A → Coord → Except Stopped (Inserted A))
    (b : Boundary) (points : List A) (lastPosition : A → Option Coord) :
    Except Stopped ((A → Option Coord) × (Fin 4 → Quadrant A)) :=
  points.foldlM (splitPoint insert b) (lastPosition, fun _ => .leaf [])

/-- The loop over the quadrants that are left. -/
def insertIntoQuadrants (insert : Boundary → Quadrant A → (A → Option Coord) → A → Coord → Except Stopped (Inserted A))
    (b : Boundary) (point : A) (pos : Coord) :
    List (Fin 4) → (A → Option Coord) → (Fin 4 → Quadrant A) → Except Stopped (Inserted A)
  | [], _, _ => .error (some (.cRuntimeError "QuadTree insertion failed for object"))
  | i :: rest, lastPosition, quadrants => do
    let (lastPosition, elem, inserted) ← insert (b.setBoundary i) (quadrants i) lastPosition point pos
    let quadrants := Function.update quadrants i elem
    if inserted then return (lastPosition, .split quadrants, true)
    else insertIntoQuadrants insert b point pos rest lastPosition quadrants

/-- A quadrant calls `insert` of its own quadrants, at most as often in a row as the depth says. -/
def insertAt (quadrantCapacity : ℕ) :
    ℕ → Boundary → Quadrant A → (A → Option Coord) → A → Coord → Except Stopped (Inserted A)
  | 0, _, _, _, _, _ => .error none
  | depth + 1, b, quadrant, lastPosition, point, pos =>
    if !b.isInRectangleRange pos then .ok (lastPosition, quadrant, false)
    else
      match quadrant with
      | .leaf points =>
        if points.length < quadrantCapacity then
          .ok (Function.update lastPosition point (some pos), .leaf (points ++ [point]), true)
        else do
          let (lastPosition, quadrants) ←
            splitPoints (insertAt quadrantCapacity depth) b points lastPosition
          insertIntoQuadrants (insertAt quadrantCapacity depth) b point pos (List.finRange 4)
            lastPosition quadrants
      | .split quadrants =>
        insertIntoQuadrants (insertAt quadrantCapacity depth) b point pos (List.finRange 4)
          lastPosition quadrants

def insert (depth : ℕ) (t : QuadTree A) (point : A) (pos : Coord) :
    Except Stopped (QuadTree A × Bool) := do
  let (lastPosition, root, inserted) ←
    insertAt t.quadrantCapacity depth t.boundary t.root t.lastPosition point pos
  return ({ t with lastPosition := lastPosition, root := root }, inserted)

def rangeQueryAt (pos : Coord) (range : ℚ) : Boundary → Quadrant A → List A
  | b, .leaf points => if b.doesIntersectWithQuadrant pos range then points else []
  | b, .split quadrants =>
    (List.finRange 4).flatMap fun i => rangeQueryAt pos range (b.setBoundary i) (quadrants i)

variable (t : QuadTree A)

/-- The points that are visited, in this order. -/
def rangeQuery (pos : Coord) (range : ℚ) : List A :=
  rangeQueryAt pos range t.boundary t.root

/-- A point without an entry would get one at the origin. -/
def strictRangeQueryAt (lastPosition : A → Option Coord) (pos : Coord) (range : ℚ) :
    Boundary → Quadrant A → List A
  | b, .leaf points =>
    if b.doesIntersectWithQuadrant pos range then
      points.filter fun elem => pos.sqrdist ((lastPosition elem).getD {}) ≤ range * range
    else []
  | b, .split quadrants =>
    (List.finRange 4).flatMap fun i =>
      strictRangeQueryAt lastPosition pos range (b.setBoundary i) (quadrants i)

def strictRangeQuery (pos : Coord) (range : ℚ) : List A :=
  strictRangeQueryAt t.lastPosition pos range t.boundary t.root

/-- The way to the leaf that is found, as the numbers of the quadrants. -/
def searchQuadrant : Boundary → Quadrant A → Coord → Option (List (Fin 4))
  | b, .leaf _, lastPos => if b.isInRectangleRange lastPos then some [] else none
  | b, .split quadrants, lastPos =>
    match b.findQuadrant lastPos with
    | none => none
    | some i => (searchQuadrant (b.setBoundary i) (quadrants i) lastPos).map (i :: ·)

/-- The vector of the leaf at the end of the way. -/
def pointsAt : Quadrant A → List (Fin 4) → List A
  | .leaf points, [] => points
  | .split quadrants, i :: way => pointsAt (quadrants i) way
  | _, _ => []

/-- Returns the quadrant, and whether its parent tries to join as well. -/
def tryToJoinChildQuadrants (quadrantCapacity : ℕ) (quadrants : Fin 4 → Quadrant A) :
    Quadrant A × Bool :=
  if ∃ i, hasChild (quadrants i) = true then (.split quadrants, false)
  else
    let joined := (List.finRange 4).flatMap fun i => points (quadrants i)
    if joined.length ≤ quadrantCapacity then (.leaf joined, true) else (.split quadrants, false)

/-- A point is erased from the leaf at the end of the way, and on the way back quadrants are joined. -/
def eraseAt (quadrantCapacity : ℕ) (point : A) : Quadrant A → List (Fin 4) → Quadrant A × Bool
  | .leaf points, _ => (.leaf (points.erase point), true)
  | .split quadrants, [] => (.split quadrants, false)
  | .split quadrants, i :: way =>
    let (quadrant, tryToJoin) := eraseAt quadrantCapacity point (quadrants i) way
    let quadrants := Function.update quadrants i quadrant
    if tryToJoin then tryToJoinChildQuadrants quadrantCapacity quadrants
    else (.split quadrants, false)

/-- The leaf asks its parent to join, which the root does not have. -/
def remove (point : A) : Except Stopped (QuadTree A × Bool) :=
  match t.lastPosition point with
  | none => .ok (t, false)
  | some lastPos =>
    match searchQuadrant t.boundary t.root lastPos with
    | none => .error (some (.cRuntimeError "Quadrant not found for point"))
    | some way =>
      if point ∈ pointsAt t.root way then
        if way = [] then .error (some .nullPointer)
        else
          .ok ({ t with
            lastPosition := Function.update t.lastPosition point none
            root := (eraseAt t.quadrantCapacity point t.root way).1 }, true)
      else .error (some (.cRuntimeError "Point not found in its quadrant's vector"))

def move (depth : ℕ) (t : QuadTree A) (point : A) (newPos : Coord) :
    Except Stopped (QuadTree A × Bool) :=
  match searchQuadrant t.boundary t.root newPos with
  | none => .error (some (.cRuntimeError "Quadrant not found for point"))
  | some way =>
    if point ∈ pointsAt t.root way then .ok (t, true)
    else do
      let (t, removed) ← remove t point
      if removed then insert depth t point newPos else return (t, false)

def new (boundary : Boundary) (quadrantCapacity : ℕ) : QuadTree A where
  lastPosition := fun _ => none
  quadrantCapacity := quadrantCapacity
  boundary := boundary
  root := .leaf []

inductive Event (A : Type) where
  | insert (point : A) (pos : Coord)
  | remove (point : A)
  | move (point : A) (newPos : Coord)

def handle (depth : ℕ) (t : QuadTree A) : Event A → Except Stopped (QuadTree A × Bool)
  | .insert point pos => t.insert depth point pos
  | .remove point => t.remove point
  | .move point newPos => t.move depth point newPos

/-- A call that does not return is no step. -/
def step (e : ℕ × Event A) : Option (QuadTree A × Bool) :=
  (t.handle e.1 e.2).toOption

end QuadTree

end inet
