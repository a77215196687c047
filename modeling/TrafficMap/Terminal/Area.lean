/-!
# Areas of the screen

Rectangles of whole cells. `Regions.ofArea` divides the screen: a header and a status line of one
row each, and between them the canvas and, where the screen is wide enough, the details.
-/

namespace TrafficMap.Terminal

/-- A rectangle of cells, given by its top left cell. -/
structure Area where
  x : Nat
  y : Nat
  width : Nat
  height : Nat
  deriving DecidableEq, Repr

namespace Area

/-- The largest coordinate. -/
def limit : Nat := Nat.pow 2 16 - 1

/-- A rectangle that ends at the largest coordinate if it would reach beyond. -/
def ofParts (x y width height : Nat) : Area :=
  { x, y, width := min width (limit - x), height := min height (limit - y) }

/-- A rectangle without its border. -/
def inner (a : Area) : Area :=
  { x := a.x + min 1 a.width
    y := a.y + min 1 a.height
    width := a.width - 2
    height := a.height - 2 }

/-- A rectangle of at most the given size in the middle of another one. -/
def centered (a : Area) (width height : Nat) : Area :=
  let width := min width a.width
  let height := min height a.height
  { x := a.x + (a.width - width) / 2, y := a.y + (a.height - height) / 2, width, height }

end Area

/-- The parts of the screen. -/
structure Regions where
  header : Area
  /-- The canvas with its border. -/
  body : Area
  canvas : Area
  details : Option Area
  status : Area
  deriving DecidableEq, Repr

namespace Regions

/-- The width of the details. -/
def detailsWidth : Nat := 34

/-- The width from which on a screen shows the details. -/
def leastWidthForDetails : Nat := 90

/-- Divides a screen. Of few rows the body gets the first, the header the second and the status
line the third. -/
def ofArea (a : Area) : Regions :=
  let headerHeight := if 2 ≤ a.height then 1 else 0
  let statusHeight := if 3 ≤ a.height then 1 else 0
  let middleHeight := a.height - headerHeight - statusHeight
  let wide := decide (leastWidthForDetails ≤ a.width)
  let bodyWidth := if wide then a.width - detailsWidth else a.width
  let body : Area :=
    { x := a.x, y := a.y + headerHeight, width := bodyWidth, height := middleHeight }
  { header := { a with height := headerHeight }
    body
    canvas := body.inner
    details :=
      if wide then some { body with x := a.x + bodyWidth, width := detailsWidth } else none
    status := { a with y := a.y + headerHeight + middleHeight, height := statusHeight } }

end Regions

end TrafficMap.Terminal
