import TrafficMap.Geometry.Point

/-!
# Routes between devices

A connection runs straight when its ends are nearly level and otherwise with a vertical leg between
two horizontal ones. `Path.pointAt` places a point by arc length, so equal steps of the parameter
are equal distances along the route.
-/

namespace TrafficMap

/-- A route between two points. -/
inductive Path (α : Type) where
  /-- One direct segment. -/
  | straight (source target : Point α)
  /-- A horizontal, a vertical and a horizontal segment, with the corners between them. -/
  | elbow (source first second target : Point α)

namespace Path

variable {α : Type} [Scalar α]

/-- Ends that differ in height by less than this are joined by one segment. -/
def straightThreshold : α := 20.0

/-- Where the vertical leg stands, as a fraction of the horizontal distance. -/
def elbowFraction : α := 0.6

/-- The route from one point to another. -/
def route (source target : Point α) : Path α :=
  if Scalar.abs (target.y - source.y) < straightThreshold then straight source target
  else
    let middle := source.x + elbowFraction * (target.x - source.x)
    elbow source ⟨middle, source.y⟩ ⟨middle, target.y⟩ target

/-- The corners of a route, from its source to its target. -/
def points : Path α → List (Point α)
  | straight a b => [a, b]
  | elbow a b c d => [a, b, c, d]

/-- The point that a route starts at. -/
def source : Path α → Point α
  | straight a _ => a
  | elbow a _ _ _ => a

/-- The point that a route ends at. -/
def target : Path α → Point α
  | straight _ b => b
  | elbow _ _ _ d => d

/-- The segments of a route in order. -/
def segments (path : Path α) : List (Point α × Point α) :=
  path.points.zip path.points.tail

/-- The length of a route. -/
def length (path : Path α) : α :=
  Scalar.sum (path.segments.map fun s => s.1.distance s.2)

/-- A direction as a vector of length one, or zero where there is none. -/
abbrev Direction (α : Type) := α × α

/-- The direction of a segment, unless it is too short to have one. -/
def direction (a b : Point α) : Direction α :=
  let len := a.distance b
  if len > Scalar.epsilon then ((b.x - a.x) / len, (b.y - a.y) / len) else (0.0, 0.0)

/-- The point at a distance along a list of segments, with the direction of its segment; nothing
if the segments are too short. Segments without a length are passed over. -/
def walk (remaining : α) : List (Point α × Point α) → Option (Point α × Direction α)
  | [] => none
  | (a, b) :: rest =>
    let len := a.distance b
    if len ≤ Scalar.epsilon then walk remaining rest
    else if remaining ≤ len then some (a.lerp b (remaining / len), direction a b)
    else walk (remaining - len) rest

/-- The last segment of a route. -/
def lastSegment : Path α → Point α × Point α
  | straight a b => (a, b)
  | elbow _ _ c d => (c, d)

/-- The point at parameter `t` of a route with the direction of its segment. The parameter is moved
into `[0, 1]`; a route without a length stays at its source. -/
def locate (path : Path α) (t : α) : Point α × Direction α :=
  let total := path.length
  if total ≤ Scalar.epsilon then (path.source, (0.0, 0.0))
  else
    match walk (Scalar.clamp t 0.0 1.0 * total) path.segments with
    | some found => found
    | none => (path.target, direction path.lastSegment.1 path.lastSegment.2)

/-- The point at parameter `t` of a route. -/
def pointAt (path : Path α) (t : α) : Point α :=
  (path.locate t).1

/-- The point at parameter `t`, moved sideways off the route. -/
def pointAtOffset (path : Path α) (t lateral : α) : Point α :=
  let (p, (dx, dy)) := path.locate t
  { x := p.x - dy * lateral, y := p.y + dx * lateral }

end Path

end TrafficMap
