import TrafficMap.Number.Scalar

/-!
# Points and rectangles

The plane of the picture: `x` grows to the right and `y` downward.
-/

namespace TrafficMap

/-- A point of the plane. -/
structure Point (α : Type) where
  x : α
  y : α
  deriving Inhabited, Repr

namespace Point

variable {α : Type} [Scalar α]

/-- The distance between two points. -/
def distance (p q : Point α) : α :=
  Scalar.hypot (q.x - p.x) (q.y - p.y)

/-- The point at fraction `t` of the way from `p` to `q`. -/
def lerp (p q : Point α) (t : α) : Point α :=
  { x := p.x + (q.x - p.x) * t, y := p.y + (q.y - p.y) * t }

end Point

/-- A rectangle with its sides along the axes, given by its top left corner. -/
structure Rect (α : Type) where
  x : α
  y : α
  width : α
  height : α
  deriving Inhabited, Repr

namespace Rect

variable {α : Type} [Scalar α]

/-- The square with a given centre and side. -/
def centered (center : Point α) (side : α) : Rect α :=
  { x := center.x - side / 2.0, y := center.y - side / 2.0, width := side, height := side }

/-- The centre of a rectangle. -/
def center (r : Rect α) : Point α :=
  { x := r.x + r.width / 2.0, y := r.y + r.height / 2.0 }

/-- Whether a point lies in a rectangle or on its border. -/
def contains (r : Rect α) (p : Point α) : Bool :=
  decide (r.x ≤ p.x) && decide (p.x ≤ r.x + r.width) && decide (r.y ≤ p.y) &&
    decide (p.y ≤ r.y + r.height)

end Rect

end TrafficMap
