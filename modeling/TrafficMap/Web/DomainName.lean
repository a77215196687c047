import TrafficMap.Text.Uppercase
import TrafficMap.Text.Words
import TrafficMap.Web.Punycode

/-!
# Domain names

A domain name is a list of labels that is written in one form: in lower case, with full-width
characters as ordinary ones, without invisible characters, and in ASCII. `DomainName.ofText?` finds
this form.
-/

namespace TrafficMap.Web.DomainName

/-! ## Characters -/

/-- Whether a number lies in one of some intervals. -/
def inside (intervals : List (Nat × Nat)) (n : Nat) : Bool :=
  intervals.any fun (first, last) => first ≤ n && n ≤ last

/-- The characters that are left out: they only say how others are joined or shown. -/
def dropped : List (Nat × Nat) :=
  [(0xAD, 0xAD), (0x34F, 0x34F), (0x180B, 0x180D), (0x180F, 0x180F), (0x200B, 0x200B),
    (0x2060, 0x2060), (0x2064, 0x2064), (0xFE00, 0xFE0F), (0xFEFF, 0xFEFF), (0xE0100, 0xE01EF)]

/-- The characters beyond ASCII that have no place in a name. -/
def refused : List (Nat × Nat) :=
  [(0x80, 0x9F), (0x200C, 0x200F), (0x2028, 0x202E), (0x2061, 0x2063), (0x2065, 0x206F),
    (0xE000, 0xF8FF), (0xFDD0, 0xFDEF), (0xFFF9, 0xFFFF), (0x40000, 0x10FFFF)]

/-- Letters whose upper case has another lower case. -/
def variants : List Nat :=
  [0xB5, 0x1C5, 0x1C8, 0x1CB, 0x1F2, 0x345, 0x3C2, 0x1C88]

/-- The lower case of a letter that has an upper case of one character. -/
def lower (c : Char) : Char :=
  if c.toNat < 128 then c.toLower
  else
    let found := Text.Uppercase.ranges.find? fun (first, last, step, offset) =>
      let n : Int := (c.toNat : Int) - offset
      decide ((first : Int) ≤ n) && decide (n ≤ (last : Int)) &&
        (n - first) % (step : Int) == 0 && !variants.contains first
    match found with
    | some (_, _, _, offset) => Char.ofNat ((c.toNat : Int) - offset).toNat
    | none => c

/-- The characters that stand for a character in a name. -/
def written (c : Char) : List Char :=
  let n := c.toNat
  if inside dropped n then []
  else if 0xFF01 ≤ n && n ≤ 0xFF5E then [lower (Char.ofNat (n - 0xFEE0))]
  else if n = 0x3002 || n = 0xFF61 then ['.']
  else if 128 ≤ n && Text.isBlank c then [' ']
  else [lower c]

/-! ## Labels -/

/-- How a label in Punycode begins. -/
def marker : List Char := ['x', 'n', '-', '-']

/-- Whether a character stands for itself and is not refused. -/
def isSettled (c : Char) : Bool :=
  !inside refused c.toNat && decide (written c = [c])

/-- A label in ASCII. One that is already in Punycode must stand for one that needs it. -/
def label? (cs : List Char) : Option (List Char) :=
  if cs.any fun c => 128 ≤ c.toNat then
    if cs.all isSettled then some (marker ++ Punycode.encode cs) else none
  else if marker.isPrefixOf cs then
    match Punycode.decode? (cs.drop marker.length) with
    | some decoded =>
      if decoded.any (fun c => 128 ≤ c.toNat) && decoded.all isSettled then some cs else none
    | none => none
  else some cs

/-! ## Names -/

/-- Whether a character of ASCII has no place in a name. -/
def isForbidden (c : Char) : Bool :=
  decide (c ≤ ' ') || c = Char.ofNat 0x7f ||
    ['%', '#', '/', ':', '<', '>', '?', '@', '[', '\\', ']', '^', '|'].contains c

/-- A text as a domain name. -/
def ofText? (text : List Char) : Option (List Char) :=
  match (Text.pieces (· = '.') (text.flatMap written)).mapM label? with
  | none => none
  | some labels =>
    let name := Text.join ['.'] labels
    if name.any isForbidden then none else some name

end TrafficMap.Web.DomainName
