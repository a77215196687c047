import TrafficMap.Json.Phrase

/-!
# Quoted texts

TOML quotes a text in four ways. Basic strings have escapes, literal strings have none, and either
kind may be long: it then stands between three quotation marks and may hold line ends.
`Quoted.read?` reads all four. `Quoted.write` takes the first way that shows the text without
escapes, and a basic string when there is none.
-/

namespace TrafficMap.Toml

/-- The characters that may stand in a line of text: the tab, and all that are no control
characters. -/
def isTextChar (c : Char) : Bool :=
  c = '\t' || (32 ≤ c.toNat && c.toNat != 127)

/-- Blanks within a line. -/
def isLineBlank (c : Char) : Bool :=
  c = ' ' || c = '\t'

/-- Drops a line end from the front. -/
def lineEnd? : List Char → Option (List Char)
  | '\n' :: r => some r
  | '\r' :: '\n' :: r => some r
  | _ => none

/-- A text without the line end before it. -/
def afterLineEnd (cs : List Char) : List Char :=
  (lineEnd? cs).getD cs

namespace Quoted

open Json.Phrase (isHex hexNumber)

/-! ## Reading -/

/-- The character that a single character after a backslash stands for. -/
def escape? (c : Char) : Option Char :=
  if c = 'b' then some '\x08'
  else if c = 't' then some '\t'
  else if c = 'n' then some '\n'
  else if c = 'f' then some '\x0c'
  else if c = 'r' then some '\r'
  else if c = '"' || c = '\\' then some c
  else none

/-- The character with the number that some hexadecimal digits denote. -/
def numbered? (digits : List Char) : Option Char :=
  let n := hexNumber digits
  if digits.all isHex && decide n.isValidChar then some (Char.ofNat n) else none

/-- Reads the inside of a basic string up to its closing quotation mark. -/
def basic? : List Char → Option (List Char × List Char)
  | [] => none
  | '"' :: r => some ([], r)
  | '\\' :: 'u' :: a :: b :: c :: d :: r => do
    let x ← numbered? [a, b, c, d]
    let (s, r) ← basic? r
    pure (x :: s, r)
  | '\\' :: 'U' :: a :: b :: c :: d :: e :: f :: g :: h :: r => do
    let x ← numbered? [a, b, c, d, e, f, g, h]
    let (s, r) ← basic? r
    pure (x :: s, r)
  | '\\' :: c :: r => do
    let x ← escape? c
    let (s, r) ← basic? r
    pure (x :: s, r)
  | c :: r =>
    if c != '\\' && isTextChar c then (basic? r).map fun (s, r) => (c :: s, r) else none

/-- Whether a text begins with a line end, blanks apart. -/
def endsLine (cs : List Char) : Bool :=
  (lineEnd? (cs.dropWhile isLineBlank)).isSome

/-- Reads the inside of a long basic string up to its closing quotation marks, of which up to two
more belong to the text. A backslash at the end of a line drops all blanks and line ends after it;
`skipping` says that they are being dropped. -/
def longBasic? : Bool → List Char → Option (List Char × List Char)
  | _, [] => none
  | _, '"' :: '"' :: '"' :: '"' :: '"' :: r => some (['"', '"'], r)
  | _, '"' :: '"' :: '"' :: '"' :: r => some (['"'], r)
  | _, '"' :: '"' :: '"' :: r => some ([], r)
  | _, '\\' :: 'u' :: a :: b :: c :: d :: r => do
    let x ← numbered? [a, b, c, d]
    let (s, r) ← longBasic? false r
    pure (x :: s, r)
  | _, '\\' :: 'U' :: a :: b :: c :: d :: e :: f :: g :: h :: r => do
    let x ← numbered? [a, b, c, d, e, f, g, h]
    let (s, r) ← longBasic? false r
    pure (x :: s, r)
  | skipping, '\r' :: '\n' :: r =>
    if skipping then longBasic? true r
    else (longBasic? false r).map fun (s, r) => ('\n' :: s, r)
  | skipping, '\n' :: r =>
    if skipping then longBasic? true r
    else (longBasic? false r).map fun (s, r) => ('\n' :: s, r)
  | _, '\\' :: c :: r =>
    if endsLine (c :: r) then
      if c = '\r' then longBasic? true r.tail else longBasic? true r
    else do
      let x ← escape? c
      let (s, r) ← longBasic? false r
      pure (x :: s, r)
  | skipping, c :: r =>
    if skipping && isLineBlank c then longBasic? true r
    else if c != '\\' && isTextChar c then
      (longBasic? false r).map fun (s, r) => (c :: s, r)
    else none
termination_by _ cs => cs.length
decreasing_by all_goals simp only [List.length_cons, List.length_tail]; omega

/-- Reads the inside of a literal string up to its closing quotation mark. -/
def literal? : List Char → Option (List Char × List Char)
  | [] => none
  | '\'' :: r => some ([], r)
  | c :: r => if isTextChar c then (literal? r).map fun (s, r) => (c :: s, r) else none

/-- Reads the inside of a long literal string up to its closing quotation marks, of which up to two
more belong to the text. -/
def longLiteral? : List Char → Option (List Char × List Char)
  | [] => none
  | '\'' :: '\'' :: '\'' :: '\'' :: '\'' :: r => some (['\'', '\''], r)
  | '\'' :: '\'' :: '\'' :: '\'' :: r => some (['\''], r)
  | '\'' :: '\'' :: '\'' :: r => some ([], r)
  | '\r' :: '\n' :: r => (longLiteral? r).map fun (s, r) => ('\n' :: s, r)
  | c :: r =>
    if c = '\n' || isTextChar c then (longLiteral? r).map fun (s, r) => (c :: s, r) else none

/-- Reads a quoted text at the front. -/
def read? : List Char → Option (List Char × List Char)
  | '"' :: '"' :: '"' :: r => longBasic? false (afterLineEnd r)
  | '"' :: r => basic? r
  | '\'' :: '\'' :: '\'' :: r => longLiteral? (afterLineEnd r)
  | '\'' :: r => literal? r
  | _ => none

/-! ## Writing -/

/-- The ways of quoting a text. -/
inductive Style where
  | basic
  | literal
  | longBasic
  | longLiteral
  deriving DecidableEq, Repr

/-- The length of the longest run of a character, after a run of `run` of them. -/
def longestRunFrom (mark : Char) (run : Nat) : List Char → Nat
  | [] => run
  | c :: cs =>
    if c = mark then longestRunFrom mark (run + 1) cs else max run (longestRunFrom mark 0 cs)

/-- The length of the longest run of a character. -/
def longestRun (mark : Char) (cs : List Char) : Nat :=
  longestRunFrom mark 0 cs

/-- Whether a character can only be shown as an escape. -/
def needsEscape (c : Char) : Bool :=
  c != '\n' && !isTextChar c

/-- The way in which a text is written. -/
def Style.ofText (cs : List Char) : Style :=
  let escapes := cs.any needsEscape
  let backslash := cs.contains '\\'
  let lines := cs.contains '\n'
  let doubles := longestRun '"' cs
  let singles := longestRun '\'' cs
  if !escapes && !backslash && !lines && doubles = 0 then .basic
  else if !escapes && !lines && singles = 0 then .literal
  else if !escapes && !backslash && doubles ≤ 2 then .longBasic
  else if !escapes && singles ≤ 2 then .longLiteral
  else if lines then .longBasic
  else .basic

/-- A character as an escape. -/
def escape (c : Char) : List Char :=
  if c = '\x08' then ['\\', 'b']
  else if c = '\t' then ['\\', 't']
  else if c = '\n' then ['\\', 'n']
  else if c = '\x0c' then ['\\', 'f']
  else if c = '\r' then ['\\', 'r']
  else if c = '"' || c = '\\' then ['\\', c]
  else ['\\', 'u', '0', '0'] ++ (Json.Value.hexPair c.toNat).map Char.toUpper

/-- The inside of a basic string. A long one keeps its line ends, and up to two quotation marks in
a row; `run` of them have just been written. -/
def escaped (long : Bool) (run : Nat) : List Char → List Char
  | [] => []
  | c :: cs =>
    if c = '"' && long && run < 2 then c :: escaped long (run + 1) cs
    else if (c = '\n' && long) || (c != '"' && c != '\\' && c != '\t' && isTextChar c) then
      c :: escaped long 0 cs
    else escape c ++ escaped long 0 cs

/-- The line end after the opening marks of a long string that has several lines. -/
def opening (cs : List Char) : List Char :=
  if cs.contains '\n' then ['\n'] else []

/-- A text in a given way of quoting. -/
def Style.write (style : Style) (cs : List Char) : List Char :=
  match style with
  | .basic => ['"'] ++ escaped false 0 cs ++ ['"']
  | .literal => ['\''] ++ cs ++ ['\'']
  | .longBasic => ['"', '"', '"'] ++ opening cs ++ escaped true 0 cs ++ ['"', '"', '"']
  | .longLiteral => ['\'', '\'', '\''] ++ opening cs ++ cs ++ ['\'', '\'', '\'']

/-- A text in quotation marks. -/
def write (cs : List Char) : List Char :=
  (Style.ofText cs).write cs

end Quoted

end TrafficMap.Toml
