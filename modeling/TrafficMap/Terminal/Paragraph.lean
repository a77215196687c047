import TrafficMap.Terminal.Style
import TrafficMap.Text.Cells
import TrafficMap.Text.Words

/-!
# Paragraphs

A line of styled text is shown as glyphs, each of which takes some cells. A line that is too long is
cut (`Paragraph.cut`) or wrapped at its blanks (`Paragraph.wrap`).
-/

namespace TrafficMap.Terminal

/-- What a cell, or two, or none, show. -/
structure Glyph where
  text : String
  width : Nat
  /-- Whether a line can be broken here. -/
  blank : Bool
  deriving DecidableEq, Repr

namespace Glyph

/-- The blank that lines are not broken at. -/
def hardBlank : Char := Char.ofNat 0xa0

/-- A place where lines can be broken though nothing is shown. -/
def softBreak : Char := Char.ofNat 0x200b

/-- The glyph of characters that share cells. -/
def ofCluster (cs : List Char) : Glyph :=
  { text := String.ofList cs
    width := Text.clusterWidth cs
    blank := cs == [softBreak] || (cs.all Text.isBlank && cs != [hardBlank]) }

/-- The glyphs of a text; control characters are not shown. -/
def ofText (text : String) : List Glyph :=
  ((Text.clusters text.toList).filter fun cs => !cs.any Text.isControl).map ofCluster

end Glyph

/-- The glyphs of a line. -/
def Line.glyphs (line : Line) : List Glyph :=
  line.flatMap fun span => Glyph.ofText span.text

namespace Paragraph

/-- The number of cells that glyphs take. -/
def width (glyphs : List Glyph) : Nat :=
  glyphs.foldl (fun n g => n + g.width) 0

/-- The glyphs at the start of a line that fit into some cells; a glyph that is too wide for a whole
row is left out. -/
def cut (limit : Nat) : Nat → List Glyph → List Glyph
  | _, [] => []
  | used, g :: rest =>
    if limit < g.width then cut limit used rest
    else if limit < used + g.width then []
    else g :: cut limit (used + g.width) rest

/-- The state of wrapping: the rows that are complete, the row that is being filled, and the blanks
and the word after it. -/
structure Wrapping where
  rows : List (List Glyph) := []
  row : List Glyph := []
  blanks : List Glyph := []
  word : List Glyph := []
  /-- Whether the glyph before belonged to a word. -/
  inWord : Bool := false

/-- The blanks that are left when a row with some free cells takes as many as it has room for. -/
def blanksAfter : Nat → List Glyph → List Glyph
  | _, [] => []
  | room, g :: rest => if room < g.width then g :: rest else blanksAfter (room - g.width) rest

/-- Moves the word to the row. The blanks before it stay only if they do not start the row. -/
def Wrapping.placeWord (s : Wrapping) : Wrapping :=
  { s with
    row := (if s.row.isEmpty then [] else s.row ++ s.blanks) ++ s.word
    blanks := []
    word := [] }

/-- Completes the row; the blanks that it has room for vanish. -/
def Wrapping.breakRow (limit : Nat) (s : Wrapping) : Wrapping :=
  { s with
    rows := s.rows ++ [s.row]
    row := []
    blanks := blanksAfter (limit - width s.row) s.blanks }

/-- Adds a glyph to the blanks or to the word. -/
def Wrapping.hold (g : Glyph) (s : Wrapping) : Wrapping :=
  if g.blank then { s with blanks := s.blanks ++ [g], inWord := false }
  else { s with word := s.word ++ [g], inWord := true }

/-- Takes a glyph. A word is placed when a blank follows it or when it would not fit on a row of its
own; a row is broken when it is full or when its blanks and its word leave no room for the glyph. -/
def Wrapping.step (limit : Nat) (s : Wrapping) (g : Glyph) : Wrapping :=
  if limit < g.width then s
  else
    let wordEnds := s.inWord && g.blank
    let overflows := s.row.isEmpty &&
      (decide (limit < width s.word + g.width) || decide (limit < width s.blanks + g.width))
    let s := if wordEnds || overflows then s.placeWord else s
    let full := decide (limit ≤ width s.row)
    let noRoom := decide (0 < g.width) &&
      decide (limit ≤ width s.row + width s.blanks + width s.word)
    if full || noRoom then
      let s := s.breakRow limit
      if g.blank && s.blanks.isEmpty then s else s.hold g
    else s.hold g

/-- Completes the last row. -/
def Wrapping.finish (s : Wrapping) : List (List Glyph) :=
  let onlyBlanks := s.row.isEmpty && s.word.isEmpty && !s.blanks.isEmpty
  let rows := if onlyBlanks then s.rows ++ [[]] else s.rows
  let last := (if s.row.isEmpty then [] else s.row ++ s.blanks) ++ s.word
  let rows := if last.isEmpty then rows else rows ++ [last]
  if rows.isEmpty then [[]] else rows

/-- Divides a line into rows of at most `limit` cells, at blanks where it has some. -/
def wrap (limit : Nat) (glyphs : List Glyph) : List (List Glyph) :=
  (glyphs.foldl (Wrapping.step limit) {}).finish

end Paragraph

end TrafficMap.Terminal
