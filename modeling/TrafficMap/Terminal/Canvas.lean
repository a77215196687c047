import TrafficMap.Scene.Draw
import TrafficMap.Scene.Palette

/-!
# The canvas of a terminal

A canvas carries draw calls out on a grid of terminal cells. It keeps what they leave as a list of
marks, in coordinates that grow upward. A cell shows one opaque colour, so colours are blended over
the background when they are recorded. Texts are moved to whole cells; a text that would cover
another one in its row moves down, by up to three rows (`Canvas.freeRow`).
-/

namespace TrafficMap.Terminal

/-- What a draw call leaves on a canvas. -/
inductive Mark (α : Type) where
  | line (start finish : Point α) (color : Rgb)
  | dot (center : Point α) (color : Rgb)
  | ring (center : Point α) (radius : α) (color : Rgb)
  | text (anchor : Point α) (text : String) (color : Rgb) (bold : Bool)

/-- The cells that a text was placed on: the columns from `start` to before `finish` of a row. -/
structure LabelSpan where
  row : Int
  start : Int
  finish : Int
  deriving DecidableEq, Repr

namespace LabelSpan

/-- Whether a label has a cell in common with the columns from `start` to before `finish` of a
row. -/
def meets (label : LabelSpan) (row start finish : Int) : Bool :=
  decide (label.row = row) && decide (label.start < finish) && decide (start < label.finish)

end LabelSpan

/-- A grid of cells with what was drawn on it. -/
structure Canvas (α : Type) where
  cols : Nat
  rows : Nat
  background : Color α
  /-- The parts of the path that is under construction. -/
  paths : List (List (Point α)) := []
  marks : List (Mark α) := []
  labels : List LabelSpan := []

namespace Canvas

variable {α : Type} [Scalar α]

/-- The width of a cell in drawing units. -/
def cellWidth : α := 10.0

/-- The height of a cell in drawing units. -/
def cellHeight : α := 20.0

/-- The distance between the dots of a cell, which has two columns and four rows of them. -/
def dotSize : α := 5.0

/-- The number of lines that the widest stroke is drawn with. -/
def maxStrokeLines : Nat := 3

/-- The number of rows that a label moves down by at most. -/
def maxNudge : Nat := 3

/-- A canvas on which nothing was drawn. -/
def blank (cols rows : Nat) : Canvas α :=
  { cols, rows, background := Palette.background }

/-- The width of a canvas in drawing units. -/
def width (c : Canvas α) : α :=
  Scalar.ofNat c.cols * cellWidth

/-- The height of a canvas in drawing units. -/
def height (c : Canvas α) : α :=
  Scalar.ofNat c.rows * cellHeight

/-- A colour as it looks over the background. -/
def paint (c : Canvas α) (color : Color α) : Rgb :=
  (color.blendOver c.background).toRgb

/-- A point in coordinates that grow upward. -/
def flip (c : Canvas α) (p : Point α) : Point α :=
  { x := p.x, y := c.height - p.y }

/-- A line between two points. -/
def lineMark (c : Canvas α) (color : Rgb) (ends : Point α × Point α) : Mark α :=
  .line (c.flip ends.1) (c.flip ends.2) color

/-- Appends marks. -/
def record (c : Canvas α) (marks : List (Mark α)) : Canvas α :=
  { c with marks := c.marks ++ marks }

/-! ## Paths -/

/-- Continues the path to a point; without a path, one begins there. -/
def lineTo (c : Canvas α) (p : Point α) : Canvas α :=
  match c.paths.getLast? with
  | some last => { c with paths := c.paths.dropLast ++ [last ++ [p]] }
  | none => { c with paths := [[p]] }

/-- The number of parallel lines that stand for a stroke of some width. -/
def strokeLines (width : α) : Nat :=
  if !Scalar.isFinite width || decide (width ≤ 0.0) then 1
  else Min.min maxStrokeLines (Max.max 1 (Scalar.toNat64 (Scalar.round (width / dotSize))))

/-- Parallel lines around a segment, one dot apart; a segment without length has none. -/
def strokeSegment (lines : Nat) (segment : Point α × Point α) : List (Point α × Point α) :=
  let (a, b) := segment
  let length := a.distance b
  if length ≤ Scalar.epsilon then []
  else
    let nx := -(b.y - a.y) / length
    let ny := (b.x - a.x) / length
    let spread : α := Scalar.ofNat (lines - 1) / 2.0
    (List.range lines).map fun k =>
      let offset := (Scalar.ofNat k - spread) * dotSize
      (⟨a.x + nx * offset, a.y + ny * offset⟩, ⟨b.x + nx * offset, b.y + ny * offset⟩)

/-- Draws the path and forgets it. -/
def stroke (c : Canvas α) (style : StrokeStyle α) : Canvas α :=
  let segments := c.paths.flatMap fun path => path.zip path.tail
  let lines := segments.flatMap (strokeSegment (strokeLines style.width))
  { c.record (lines.map (c.lineMark (c.paint style.color))) with paths := [] }

/-! ## Shapes -/

/-- Draws a disc: a dot if it is small and a ring if not. -/
def disc (c : Canvas α) (center : Point α) (radius : α) (color : Color α) : Canvas α :=
  let center := c.flip center
  let color := c.paint color
  c.record [if radius ≤ dotSize then .dot center color else .ring center radius color]

/-- The heights `y`, `y + dotSize`, … up to `bottom`, or `none` if there are `fuel` of them or
more. -/
def scanRows (bottom : α) : Nat → α → Option (List α)
  | 0, _ => none
  | fuel + 1, y =>
    if y ≤ bottom then (scanRows bottom fuel (y + dotSize)).map (y :: ·) else some []

/-- A count that the heights across a rectangle stay below, unless they never end: each step gains
four fifths of a dot at least or, where numbers are too coarse for it, nothing. -/
def scanBound (height : α) : Nat :=
  (Scalar.truncate (height / 4.0)).toNat + 3

/-- The line across a rectangle with rounded corners at a height. -/
def scanLine (rect : Rect α) (radius y : α) : Point α × Point α :=
  let top := rect.y
  let bottom := rect.y + rect.height
  let dy :=
    if y < top + radius then top + radius - y
    else if bottom - radius < y then y - (bottom - radius)
    else 0.0
  let inset := radius - Scalar.sqrt (Scalar.max (radius * radius - dy * dy) 0.0)
  (⟨rect.x + inset, y⟩, ⟨rect.x + rect.width - inset, y⟩)

/-- The radius of the corners of a rectangle: at most half of its shorter side. -/
def cornerRadius (rect : Rect α) (radius : α) : α :=
  Scalar.clamp radius 0.0 (Scalar.max (Scalar.min rect.width rect.height) 0.0 / 2.0)

/-- Whether a rectangle can be filled. -/
def fillable (rect : Rect α) : Bool :=
  Scalar.isFinite rect.height && Scalar.isFinite rect.width && !decide (rect.height < 0.0)

/-- Fills a rectangle with rounded corners by lines one dot apart, or `none` where a step of one
dot does not lead on, so that the lines never end. -/
def roundedRect? (c : Canvas α) (rect : Rect α) (radius : α) (color : Color α) :
    Option (Canvas α) :=
  if fillable rect then
    let ys := scanRows (rect.y + rect.height) (scanBound rect.height) rect.y
    ys.map fun ys =>
      c.record (ys.map fun y =>
        c.lineMark (c.paint color) (scanLine rect (cornerRadius rect radius) y))
  else some c

/-! ## Texts -/

/-- The number of a row in 64 bits, where the first row follows the last one. -/
def wrapRow (row : Int) : Int :=
  row.bmod 18446744073709551616

/-- The first of up to `nudges + 1` rows from `row` on in which no label meets the columns from
`start` to before `finish`; the last of them if there is none. -/
def freeRow (labels : List LabelSpan) (start finish : Int) : Nat → Int → Int
  | 0, row => row
  | nudges + 1, row =>
    if labels.any (·.meets row start finish) then
      freeRow labels start finish nudges (wrapRow (row + 1))
    else row

/-- The point that the grid shows in a cell. -/
def cellAnchor (c : Canvas α) (col row : Int) : Point α :=
  let xStep := c.width / Scalar.ofNat (Max.max 1 (c.cols - 1))
  let yStep := c.height / Scalar.ofNat (Max.max 1 (c.rows - 1))
  { x := (Scalar.ofInt col + 0.5) * xStep, y := c.height - (Scalar.ofInt row + 0.5) * yStep }

/-- The largest number of a column. -/
def lastColumn : Int := 9223372036854775807

/-- Where a text begins. -/
def leftEdge (align : TextAlign) (x width : α) : α :=
  match align with
  | .left => x
  | .center => x - width / 2.0
  | .right => x - width

/-- Writes a text on the cells from a column on, in a row or below it. -/
def placeText (c : Canvas α) (text : String) (col row : Int) (color : Rgb) (bold : Bool) :
    Canvas α :=
  let finish := Min.min lastColumn (col + text.length)
  let row := freeRow c.labels col finish maxNudge row
  { c.record [.text (c.cellAnchor col row) text color bold] with
    labels := c.labels ++ [{ row, start := col, finish }] }

/-- Writes a text at a point; without characters or without a finite point there is none. -/
def writeText (c : Canvas α) (text : String) (p : Point α) (style : TextStyle α) : Canvas α :=
  if text.isEmpty || !(Scalar.isFinite p.x && Scalar.isFinite p.y) then c
  else
    let left := leftEdge style.align p.x (Scalar.ofNat text.length * cellWidth)
    let col := Scalar.toInt64 (Scalar.round (left / cellWidth))
    let row := Scalar.toInt64 (Scalar.floor (p.y / cellHeight))
    c.placeText text col row (c.paint style.color) style.bold

/-- How the rows of an icon look. -/
def iconStyle : TextStyle α :=
  { color := Palette.label, size := cellHeight, align := .left, bold := false }

/-- Writes the rows of an icon, centred in a rectangle. -/
def image (c : Canvas α) (icon : Icon) (rect : Rect α) : Canvas α :=
  let center := rect.center
  let left := center.x - Scalar.ofNat icon.width * cellWidth / 2.0
  let first := center.y - Scalar.ofNat (icon.height - 1) * cellHeight / 2.0
  icon.rows.zipIdx.foldl (fun c (row, i) =>
    c.writeText row ⟨left, first + Scalar.ofNat i * cellHeight⟩ iconStyle) c

/-! ## Draw calls -/

/-- Carries a draw call out, or `none` where that never ends. -/
def draw? (c : Canvas α) : DrawCall α → Option (Canvas α)
  | .clear color =>
    some { c with background := color.withAlpha 1.0, paths := [], marks := [], labels := [] }
  | .beginPath => some { c with paths := [] }
  | .moveTo p => some { c with paths := c.paths ++ [[p]] }
  | .lineTo p => some (c.lineTo p)
  | .stroke style => some (c.stroke style)
  | .circle center radius color => some (c.disc center radius color)
  | .rect rect color => c.roundedRect? rect 0.0 color
  | .roundedRect rect radius color => c.roundedRect? rect radius color
  | .image icon rect => some (c.image icon rect)
  | .text text p style => some (c.writeText text p style)

/-- Carries draw calls out one after the other. -/
def drawAll? (c : Canvas α) (calls : List (DrawCall α)) : Option (Canvas α) :=
  calls.foldlM draw? c

end Canvas

end TrafficMap.Terminal
