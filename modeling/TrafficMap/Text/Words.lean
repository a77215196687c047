/-!
# Blanks, pieces and words

Text is cut at the characters that satisfy a test: `pieces` keeps every piece, empty ones
included, and `runs` keeps the non-empty ones. Blank characters are those with the Unicode
property `White_Space`.
-/

namespace TrafficMap.Text

/-- The characters with the Unicode property `White_Space`. -/
def isBlank (c : Char) : Bool :=
  let n := c.toNat
  (9 ≤ n && n ≤ 13) || n = 0x20 || n = 0x85 || n = 0xA0 || n = 0x1680 ||
    (0x2000 ≤ n && n ≤ 0x200A) || n = 0x2028 || n = 0x2029 || n = 0x202F || n = 0x205F || n = 0x3000

/-- Drops the last characters that satisfy a test. -/
def dropEnd (p : Char → Bool) (cs : List Char) : List Char :=
  cs.foldr (fun c rest => if rest.isEmpty && p c then [] else c :: rest) []

/-- Drops the blanks at both ends. -/
def trim (cs : List Char) : List Char :=
  dropEnd isBlank (cs.dropWhile isBlank)

/-- Whether a text holds nothing but blanks. -/
def isBlankText (cs : List Char) : Bool :=
  cs.all isBlank

/-- Cuts a text at every character that satisfies a test. -/
def pieces (p : Char → Bool) : List Char → List (List Char)
  | [] => [[]]
  | c :: cs =>
    if p c then [] :: pieces p cs
    else
      match pieces p cs with
      | [] => [[c]]
      | w :: ws => (c :: w) :: ws

/-- The longest runs of characters that fail a test, in order. -/
def runs (p : Char → Bool) (cs : List Char) : List (List Char) :=
  (pieces p cs).filter (fun w => !w.isEmpty)

/-- The runs of characters that are not blank. -/
def words (cs : List Char) : List (List Char) :=
  runs isBlank cs

/-- Joins texts with a separator between neighbours. -/
def join (separator : List Char) : List (List Char) → List Char
  | [] => []
  | [w] => w
  | w :: ws => w ++ separator ++ join separator ws

/-- Whether a text occurs inside another one. -/
def occursIn (w : List Char) : List Char → Bool
  | [] => w.isEmpty
  | c :: cs => w.isPrefixOf (c :: cs) || occursIn w cs

/-- Lower case for the letters `A` to `Z`; every other character stays. -/
def asciiLower (cs : List Char) : List Char :=
  cs.map Char.toLower

/-- Letters and digits of ASCII. -/
def isAsciiAlphanumeric (c : Char) : Bool :=
  c.isAlphanum

/-- The bytes of a text in UTF-8. -/
def bytes (s : String) : List UInt8 :=
  s.toUTF8.toList

end TrafficMap.Text
