import TrafficMap.Toml.Plain
import TrafficMap.Toml.Table

/-!
# Documents

A TOML document is a list of lines: headers, and keys with their values. `Document.lines?` reads
the lines, and `Document.read?` also puts them into tables and gives the whole as one object.
-/

namespace TrafficMap.Toml

open Json (Value)

/-- The most parts of a dotted key, and the deepest nesting of arrays and tables in one value. -/
def depthLimit : Nat := 79

/-! ## Blanks and comments -/

/-- A text without the blanks before it. -/
def skipBlanks (cs : List Char) : List Char :=
  cs.dropWhile isLineBlank

/-- Drops the rest of a line that holds nothing but blanks and a comment. -/
def finishLine? (cs : List Char) : Option (List Char) :=
  let rest := match skipBlanks cs with
    | '#' :: r => r.dropWhile isTextChar
    | r => r
  if rest.isEmpty then some [] else lineEnd? rest

/-- Drops blanks, line ends and comments; `comment` says that a comment has begun. -/
def skipLines : Bool → List Char → List Char
  | _, [] => []
  | _, '\r' :: '\n' :: r => skipLines false r
  | _, '\n' :: r => skipLines false r
  | true, c :: r => if isTextChar c then skipLines true r else c :: r
  | false, c :: r =>
    if isLineBlank c then skipLines false r
    else if c = '#' then skipLines true r
    else c :: r

/-! ## Keys -/

/-- The characters of a key without quotation marks. -/
def isKeyChar (c : Char) : Bool :=
  c.isAlphanum || c = '_' || c = '-'

/-- Splits off one part of a key. -/
def keyPart? (cs : List Char) : Option (String × List Char) :=
  match cs with
  | '"' :: r => (Quoted.basic? r).map fun (s, r) => (String.ofList s, r)
  | '\'' :: r => (Quoted.literal? r).map fun (s, r) => (String.ofList s, r)
  | _ =>
    let name := cs.takeWhile isKeyChar
    if name.isEmpty then none else some (String.ofList name, cs.dropWhile isKeyChar)

/-- Splits off a key of at most the given count of parts: the path before its last part, that part,
and the text from the first character that is no blank. -/
def key? : Nat → List Char → Option (List String × String × List Char)
  | 0, _ => none
  | parts + 1, cs => do
    let (part, r) ← keyPart? (skipBlanks cs)
    match skipBlanks r with
    | '.' :: r =>
      let (path, last, r) ← key? parts r
      pure (part :: path, last, r)
    | r => pure ([], part, r)

/-! ## Values -/

/-- A table within a value. -/
def inlineTable? (lines : List (List String × String × Value)) : Option Value :=
  (Entries.insertAll? [] lines).map fun t => .object (Node.membersOf t)

mutual

/-- Splits off a value that may hold `depth` levels of arrays and tables. Every call takes a
character off the text or passes one on, so fuel of twice the length of the text is enough. -/
def value? (fuel depth : Nat) (cs : List Char) : Option (Value × List Char) :=
  match fuel with
  | 0 => none
  | fuel + 1 =>
    match cs with
    | '"' :: _ => (Quoted.read? cs).map fun (s, r) => (.string (String.ofList s), r)
    | '\'' :: _ => (Quoted.read? cs).map fun (s, r) => (.string (String.ofList s), r)
    | '[' :: r =>
      if depth = 0 then none
      else (items? fuel (depth - 1) r).map fun (items, r) => (.array items, r)
    | '\x7b' :: r =>
      if depth = 0 then none
      else
        match skipBlanks r with
        | '\x7d' :: r => some (.object [], r)
        | r => do
          let (lines, r) ← pairs? fuel (depth - 1) r
          let table ← inlineTable? lines
          pure (table, r)
    | r => Plain.read? r

/-- Splits off the items of an array and its closing bracket. -/
def items? (fuel depth : Nat) (cs : List Char) : Option (List Value × List Char) :=
  match fuel with
  | 0 => none
  | fuel + 1 =>
    match skipLines false cs with
    | ']' :: r => some ([], r)
    | r => do
      let (item, r) ← value? fuel depth r
      match skipLines false r with
      | ',' :: r =>
        let (items, r) ← items? fuel depth r
        pure (item :: items, r)
      | ']' :: r => pure ([item], r)
      | _ => none

/-- Splits off the keys and values of a table within a value, and its closing brace. -/
def pairs? (fuel depth : Nat) (cs : List Char) :
    Option (List (List String × String × Value) × List Char) :=
  match fuel with
  | 0 => none
  | fuel + 1 => do
    let (path, key, r) ← key? depthLimit cs
    match r with
    | '=' :: r =>
      let (v, r) ← value? fuel depth (skipBlanks r)
      match skipBlanks r with
      | ',' :: r =>
        let (pairs, r) ← pairs? fuel depth r
        pure ((path, key, v) :: pairs, r)
      | '\x7d' :: r => pure ([(path, key, v)], r)
      | _ => none
    | _ => none

end

/-! ## Lines -/

/-- A line that says something. -/
inductive Line where
  | header (shared : Bool) (path : List String) (key : String)
  | entry (path : List String) (key : String) (v : Value)

namespace Document

/-- Splits off a header, from behind its opening bracket. -/
def header? (cs : List Char) : Option (Line × List Char) :=
  match cs with
  | '[' :: r => do
    match ← key? depthLimit r with
    | (path, key, ']' :: ']' :: r) => pure (.header true path key, ← finishLine? r)
    | _ => none
  | _ => do
    match ← key? depthLimit cs with
    | (path, key, ']' :: r) => pure (.header false path key, ← finishLine? r)
    | _ => none

/-- Splits off a key with its value. -/
def entry? (cs : List Char) : Option (Line × List Char) := do
  match ← key? depthLimit cs with
  | (path, key, '=' :: r) =>
    let (v, r) ← value? (2 * r.length + 2) depthLimit (skipBlanks r)
    pure (.entry path key v, ← finishLine? r)
  | _ => none

/-- Reads the lines of a text. Every step takes a character off the text, so fuel of its length and
one more is enough. -/
def linesFrom? : Nat → List Char → Option (List Line)
  | 0, _ => none
  | fuel + 1, cs =>
    match skipLines false cs with
    | [] => some []
    | '[' :: r => do
      let (line, r) ← header? r
      pure (line :: (← linesFrom? fuel r))
    | r => do
      let (line, r) ← entry? r
      pure (line :: (← linesFrom? fuel r))

/-- Reads the lines of a text; a byte order mark before them is dropped. -/
def lines? (text : String) : Option (List Line) :=
  let cs := match text.toList with
    | '\ufeff' :: r => r
    | r => r
  linesFrom? (cs.length + 1) cs

/-- A header with the keys and values below it. -/
structure Section where
  shared : Bool
  path : List String
  key : String
  lines : List (List String × String × Value)

/-- The keys and values before the first header, and the sections. -/
def sections : List Line → List (List String × String × Value) × List Section
  | [] => ([], [])
  | .entry path key v :: rest =>
    let (lines, others) := sections rest
    ((path, key, v) :: lines, others)
  | .header shared path key :: rest =>
    let (lines, others) := sections rest
    ([], { shared, path, key, lines } :: others)

/-- The table that lines describe. -/
def table? (lines : List Line) : Option Entries := do
  let (first, rest) := sections lines
  let root ← Entries.insertAll? [] first
  rest.foldlM (fun t s => t.place? s.shared s.path s.key s.lines) root

/-- Reads a text as an object. -/
def read? (text : String) : Option Value := do
  let table ← table? (← lines? text)
  pure (.object (Node.membersOf table))

end Document

end TrafficMap.Toml
