import TrafficMap.Json.Value

/-!
# JSON text

`Phrase.read?` accepts the texts that follow the grammar of JSON and keeps strings and numbers as
they were written; `Phrase.value?` then gives them a meaning. The second step is stricter: it
refuses numbers beyond the range of floats, characters written as half a surrogate pair, and
nesting deeper than `depthLimit`. Keeping the steps apart lets a reader skip a part of a text that
it does not know without asking for a meaning.
-/

namespace TrafficMap.Json

/-- Text that follows the grammar of JSON. Numbers and the insides of strings are as written. -/
inductive Phrase where
  | null
  | bool (b : Bool)
  | number (text : List Char)
  | string (text : List Char)
  | array (items : List Phrase)
  | object (members : List (List Char × Phrase))

namespace Phrase

/-- The deepest nesting of arrays and objects to which a meaning is given. -/
def depthLimit : Nat := 127

/-- The characters that may stand between the parts of a JSON text. -/
def isSpace (c : Char) : Bool :=
  c = ' ' || c = '\n' || c = '\t' || c = '\r'

/-- A text without the space before it. -/
def skipSpace (cs : List Char) : List Char :=
  cs.dropWhile isSpace

/-- Drops a fixed text from the front. -/
def expect? : List Char → List Char → Option (List Char)
  | [], cs => some cs
  | x :: xs, c :: cs => if x = c then expect? xs cs else none
  | _ :: _, [] => none

/-! ## Numbers -/

/-- Splits off the digits at the front; there has to be one. -/
def digits? (cs : List Char) : Option (List Char × List Char) :=
  let ds := cs.takeWhile Char.isDigit
  if ds.isEmpty then none else some (ds, cs.dropWhile Char.isDigit)

/-- Splits off the whole part of a number, which starts with zero only if it is zero. -/
def whole? (cs : List Char) : Option (List Char × List Char) :=
  (digits? cs).bind fun (ds, r) =>
    if 1 < ds.length && ds.head? = some '0' then none else some (ds, r)

/-- Splits off a fraction, if the text goes on with one. -/
def fraction? : List Char → Option (List Char × List Char)
  | '.' :: r => (digits? r).map fun (ds, r) => ('.' :: ds, r)
  | r => some ([], r)

/-- Splits off an exponent, if the text goes on with one. -/
def exponent? : List Char → Option (List Char × List Char)
  | c :: r =>
    if c = 'e' || c = 'E' then
      let (sign, r) := match r with
        | '+' :: r => (['+'], r)
        | '-' :: r => (['-'], r)
        | r => ([], r)
      (digits? r).map fun (ds, r) => (c :: sign ++ ds, r)
    else some ([], c :: r)
  | [] => some ([], [])

/-- Splits off a number. -/
def number? (cs : List Char) : Option (List Char × List Char) := do
  let (sign, cs) := match cs with
    | '-' :: r => (['-'], r)
    | r => ([], r)
  let (w, cs) ← whole? cs
  let (f, cs) ← fraction? cs
  let (e, cs) ← exponent? cs
  pure (sign ++ w ++ f ++ e, cs)

/-! ## Strings -/

/-- The digits of hexadecimal notation. -/
def isHex (c : Char) : Bool :=
  c.isDigit || ('a' ≤ c && c ≤ 'f') || ('A' ≤ c && c ≤ 'F')

/-- Splits off the inside of a string up to its closing quotation mark, escapes as written. -/
def inside? : List Char → Option (List Char × List Char)
  | [] => none
  | '"' :: r => some ([], r)
  | '\\' :: 'u' :: a :: b :: c :: d :: r =>
    if [a, b, c, d].all isHex then
      (inside? r).map fun (s, r) => ('\\' :: 'u' :: a :: b :: c :: d :: s, r)
    else none
  | '\\' :: x :: r =>
    if ['"', '\\', '/', 'b', 'f', 'n', 'r', 't'].contains x then
      (inside? r).map fun (s, r) => ('\\' :: x :: s, r)
    else none
  | c :: r =>
    if c = '\\' || c.toNat < 32 then none
    else (inside? r).map fun (s, r) => (c :: s, r)

/-! ## Values -/

mutual

/-- Splits off a value; every call takes a character off the text or passes one on, so fuel of
twice the length of the text is enough. -/
def read (fuel : Nat) (cs : List Char) : Option (Phrase × List Char) :=
  match fuel with
  | 0 => none
  | fuel + 1 =>
    match skipSpace cs with
    | 'n' :: r => (expect? ['u', 'l', 'l'] r).map fun r => (null, r)
    | 't' :: r => (expect? ['r', 'u', 'e'] r).map fun r => (bool true, r)
    | 'f' :: r => (expect? ['a', 'l', 's', 'e'] r).map fun r => (bool false, r)
    | '"' :: r => (inside? r).map fun (s, r) => (string s, r)
    | '[' :: r =>
      match skipSpace r with
      | ']' :: r => some (array [], r)
      | r => (readItems fuel r).map fun (items, r) => (array items, r)
    | '\x7b' :: r =>
      match skipSpace r with
      | '\x7d' :: r => some (object [], r)
      | r => (readMembers fuel r).map fun (members, r) => (object members, r)
    | r => (number? r).map fun (n, r) => (number n, r)

/-- Splits off the items of an array and its closing bracket. -/
def readItems (fuel : Nat) (cs : List Char) : Option (List Phrase × List Char) :=
  match fuel with
  | 0 => none
  | fuel + 1 =>
    (read fuel cs).bind fun (item, r) =>
      match skipSpace r with
      | ',' :: r => (readItems fuel r).map fun (items, r) => (item :: items, r)
      | ']' :: r => some ([item], r)
      | _ => none

/-- Splits off the members of an object and its closing brace. -/
def readMembers (fuel : Nat) (cs : List Char) : Option (List (List Char × Phrase) × List Char) :=
  match fuel with
  | 0 => none
  | fuel + 1 =>
    match skipSpace cs with
    | '"' :: r =>
      (inside? r).bind fun (key, r) =>
        match skipSpace r with
        | ':' :: r =>
          (read fuel r).bind fun (item, r) =>
            match skipSpace r with
            | ',' :: r => (readMembers fuel r).map fun (ms, r) => ((key, item) :: ms, r)
            | '\x7d' :: r => some ([(key, item)], r)
            | _ => none
        | _ => none
    | _ => none

end

/-- Reads a text that holds one value and nothing else. -/
def read? (cs : List Char) : Option Phrase :=
  match read (2 * cs.length + 2) cs with
  | some (s, r) => if (skipSpace r).isEmpty then some s else none
  | none => none

/-! ## Meaning -/

/-- The value of a hexadecimal digit. -/
def hexDigit (c : Char) : Nat :=
  if c.isDigit then c.toNat - '0'.toNat else c.toLower.toNat - 'a'.toNat + 10

/-- The number that hexadecimal digits denote. -/
def hexNumber (cs : List Char) : Nat :=
  cs.foldl (fun n c => 16 * n + hexDigit c) 0

/-- The character that a letter after a backslash stands for. -/
def unescaped (c : Char) : Char :=
  if c = 'b' then '\x08'
  else if c = 'f' then '\x0c'
  else if c = 'n' then '\n'
  else if c = 'r' then '\r'
  else if c = 't' then '\t'
  else c

/-- Decodes the inside of a string. Two escapes that form a surrogate pair are one character;
half a pair has no meaning. -/
def unescape? : List Char → Option (List Char)
  | [] => some []
  | '\\' :: 'u' :: a :: b :: c :: d :: '\\' :: 'u' :: e :: f :: g :: h :: r =>
    let high := hexNumber [a, b, c, d]
    let low := hexNumber [e, f, g, h]
    if 0xD800 ≤ high && high < 0xDC00 then
      if 0xDC00 ≤ low && low < 0xE000 then
        (unescape? r).map
          (Char.ofNat (0x10000 + (high - 0xD800) * 0x400 + (low - 0xDC00)) :: ·)
      else none
    else if 0xDC00 ≤ high && high < 0xE000 then none
    else (unescape? ('\\' :: 'u' :: e :: f :: g :: h :: r)).map (Char.ofNat high :: ·)
  | '\\' :: 'u' :: a :: b :: c :: d :: r =>
    let n := hexNumber [a, b, c, d]
    if 0xD800 ≤ n && n < 0xE000 then none else (unescape? r).map (Char.ofNat n :: ·)
  | '\\' :: x :: r => (unescape? r).map (unescaped x :: ·)
  | c :: r => (unescape? r).map (c :: ·)

/-- The number that a JSON number denotes. Whole numbers of at most 64 bits are exact; a negative
zero, and any number with a fraction or an exponent, is a float. -/
def numberValue? (cs : List Char) : Option Number :=
  (Decimal.read? cs).bind fun w =>
    let isWhole := cs.all fun c => c.isDigit || c = '-'
    if isWhole && !w.negative && decide (w.mantissa < Nat.pow 2 64) then some (.natural w.mantissa)
    else if isWhole && w.negative && w.mantissa != 0 && decide (w.mantissa ≤ Nat.pow 2 63) then
      some (.negative w.mantissa)
    else
      let x : Float := w.value
      if x.isFinite then some (.float x) else none

mutual

/-- The meaning of a text that may hold `depth` more levels of arrays and objects. The last of
several members with one key counts. -/
def value? (depth : Nat) : Phrase → Option Value
  | null => some .null
  | bool b => some (.bool b)
  | number text => (numberValue? text).map .number
  | string text => (unescape? text).map fun s => .string (String.ofList s)
  | array items => if depth = 0 then none else (items? (depth - 1) items).map .array
  | object members => if depth = 0 then none else (members? (depth - 1) members).map .object

/-- The meanings of the items of an array. -/
def items? (depth : Nat) : List Phrase → Option (List Value)
  | [] => some []
  | s :: ss => do pure ((← value? depth s) :: (← items? depth ss))

/-- The meanings of the members of an object. -/
def members? (depth : Nat) : List (List Char × Phrase) → Option (List (String × Value))
  | [] => some []
  | (key, s) :: ms => do
    let k ← unescape? key
    let v ← value? depth s
    let rest ← members? depth ms
    let name := String.ofList k
    pure (if rest.any (fun m => m.1 = name) then rest else (name, v) :: rest)

end

end Phrase

/-- Reads a text as a value. -/
def Value.read? (text : String) : Option Value :=
  (Phrase.read? text.toList).bind (Phrase.value? Phrase.depthLimit)

end TrafficMap.Json
