import TrafficMap.Terminal.Area
import TrafficMap.Terminal.Paragraph

/-!
# Frames

A frame is the text of a screen, cell by cell. Boxes and paragraphs are drawn into areas of it; what
lies outside of the frame is not drawn.
-/

namespace TrafficMap.Terminal

/-- The rows of a screen, each a list of cells. -/
structure Frame where
  rows : List (List String)

namespace Frame

/-- A frame of blanks. -/
def blank (width height : Nat) : Frame :=
  { rows := List.replicate height (List.replicate width " ") }

/-- Writes a text into a cell. -/
def put (f : Frame) (x y : Nat) (text : String) : Frame :=
  { rows := f.rows.modify y fun row => row.set x text }

/-- Writes the same text into every cell of an area. -/
def fill (f : Frame) (a : Area) (text : String) : Frame :=
  (List.range a.height).foldl (fun f i =>
    (List.range a.width).foldl (fun f j => f.put (a.x + j) (a.y + i) text) f) f

/-- Writes glyphs from a cell on. -/
def write (f : Frame) (x y : Nat) : List Glyph → Frame
  | [] => f
  | g :: rest =>
    if g.width = 0 then f.write x y rest
    else (f.put x y g.text).write (x + g.width) y rest

/-- Writes rows into an area, from its first row on, as far as there is room. -/
def writeRows (f : Frame) (a : Area) (centered : Bool) (rows : List (List Glyph)) : Frame :=
  (rows.take a.height).zipIdx.foldl (fun f (row, i) =>
    let indent := if centered then a.width / 2 - Paragraph.width row / 2 else 0
    f.write (a.x + indent) (a.y + i) row) f

/-- Shows lines in an area, each cut to one row. -/
def lines (f : Frame) (a : Area) (centered : Bool) (lines : List Line) : Frame :=
  f.writeRows a centered (lines.map fun l => Paragraph.cut a.width 0 (Line.glyphs l))

/-- Shows lines in the middle of an area, wrapped where they are too long. -/
def wrapped (f : Frame) (a : Area) (lines : List Line) : Frame :=
  if a.width = 0 then f
  else f.writeRows a true (lines.flatMap fun l => Paragraph.wrap a.width (Line.glyphs l))

/-- Draws a box with round corners and a title along the border of an area. -/
def box (f : Frame) (a : Area) (title : String) : Frame :=
  if a.width = 0 || a.height = 0 then f
  else
    let right := a.x + a.width - 1
    let bottom := a.y + a.height - 1
    let side : Area := { a with width := 1 }
    let edge : Area := { a with height := 1 }
    let f := ((f.fill side "│").fill { side with x := right } "│")
    let f := ((f.fill edge "─").fill { edge with y := bottom } "─")
    let f := ((f.put right bottom "╯").put right a.y "╮")
    let f := ((f.put a.x bottom "╰").put a.x a.y "╭")
    let head : Area := { x := a.x + 1, y := a.y, width := a.width - 2, height := 1 }
    f.lines head false [[{ text := title }]]

/-- The rows as texts. -/
def texts (f : Frame) : List String :=
  f.rows.map String.join

end Frame

end TrafficMap.Terminal
