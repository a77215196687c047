import TrafficMap.Scene.Color

/-!
# Styled text

A line on the terminal is a list of spans, each with a colour and a weight. The styles are those of
everything around the canvas.
-/

namespace TrafficMap.Terminal

/-- How a span looks; without a colour it has the terminal's own. -/
structure Style where
  color : Option Rgb := none
  bold : Bool := false
  deriving DecidableEq, Repr

/-- A piece of text in one style. -/
structure Span where
  text : String
  style : Style := {}
  deriving DecidableEq, Repr

/-- A line of text. -/
abbrev Line := List Span

namespace Style

/-- Titles, and the keys in hints. -/
def title : Style := { color := some ⟨0x38, 0xbd, 0xf8⟩, bold := true }

/-- Field names, hints and separators. -/
def dim : Style := { color := some ⟨0x94, 0xa3, 0xb8⟩ }

/-- Values. -/
def value : Style := { color := some ⟨0xf8, 0xfa, 0xfc⟩ }

/-- What needs attention. -/
def warning : Style := { color := some ⟨0xff, 0xa5, 0x02⟩ }

/-- What is well, and download rates. -/
def success : Style := { color := some ⟨0x2e, 0xd5, 0x73⟩ }

/-- What has failed. -/
def failure : Style := { color := some ⟨0xff, 0x47, 0x57⟩ }

/-- Upload rates. -/
def upload : Style := { color := some ⟨0x1e, 0x90, 0xff⟩ }

end Style

end TrafficMap.Terminal
