import TrafficMap.Text.Words
import TrafficMap.Toml.Quoted

/-!
# Guessed values

An environment variable holds text, but a setting may be a number or a truth value, so the text is
read as the value that it looks like: a truth value, a number, a text in quotation marks, a list in
brackets, or keys and values in braces. Anything else is a text without the blanks around it, and
what begins like a value but goes on differently is a text as it stands.
-/

namespace TrafficMap.Guess

open Json (Value)

/-- The blanks that are skipped between the parts of a value. -/
def isBlank (c : Char) : Bool :=
  c = ' ' || c = '\t' || c = '\n' || c = '\r' || c = '\x0c'

/-- A text without the blanks before it. -/
def skipBlanks (cs : List Char) : List Char :=
  cs.dropWhile isBlank

/-- The characters at which a text without quotation marks ends. -/
def isMark (c : Char) : Bool :=
  c = ',' || c = '\x7b' || c = '\x7d' || c = '[' || c = ']'

/-- The characters of a key without quotation marks. -/
def isKeyChar (c : Char) : Bool :=
  c.isAlphanum || c = '_' || c = '-'

/-- A run of digits as a number. -/
def digits? (cs : List Char) : Option Nat :=
  if !cs.isEmpty && cs.all Char.isDigit then some (Decimal.ofDigits cs) else none

/-- Reads a whole number of 64 bits, with or without a sign. -/
def whole? (cs : List Char) : Option Value :=
  match cs with
  | '-' :: r =>
    (digits? r).bind fun n => if n ≤ Nat.pow 2 63 then some (.ofInt (-(n : Int))) else none
  | '+' :: r => (digits? r).bind fun n => if n < Nat.pow 2 64 then some (.ofNat n) else none
  | r => (digits? r).bind fun n => if n < Nat.pow 2 64 then some (.ofNat n) else none

/-- Reads a number with a decimal point. -/
def float? (cs : List Char) : Option Value :=
  if cs.contains '.' then (Decimal.read? cs).map fun w => .number (.float w.value) else none

/-- The value of a text without quotation marks. -/
def plain (cs : List Char) : Value :=
  (float? cs).getD ((whole? cs).getD (.string (String.ofList cs)))

/-- Splits off a key. -/
def key? (cs : List Char) : Option (String × List Char) :=
  match cs with
  | '"' :: r => (Toml.Quoted.basic? r).map fun (s, r) => (String.ofList s, r)
  | _ =>
    let name := cs.takeWhile isKeyChar
    if name.isEmpty then none else some (String.ofList name, cs.dropWhile isKeyChar)

mutual

/-- Splits off a value and the blanks around it. Every call takes a character off the text or
passes one on, so fuel of twice the length of the text is enough. -/
def value? (fuel : Nat) (cs : List Char) : Option (Value × List Char) :=
  match fuel with
  | 0 => none
  | fuel + 1 =>
    match skipBlanks cs with
    | 't' :: 'r' :: 'u' :: 'e' :: r => some (.bool true, skipBlanks r)
    | 'f' :: 'a' :: 'l' :: 's' :: 'e' :: r => some (.bool false, skipBlanks r)
    | '"' :: r => (Toml.Quoted.basic? r).map fun (s, r) => (.string (String.ofList s), skipBlanks r)
    | '\'' :: c :: '\'' :: r => some (.string (String.singleton c), skipBlanks r)
    | '\'' :: _ => none
    | '[' :: r => (items? fuel r).map fun (items, r) => (.array items, skipBlanks r)
    | '\x7b' :: r => (pairs? fuel r).map fun (members, r) => (.object members, skipBlanks r)
    | r =>
      let text := r.takeWhile fun c => !isMark c
      some (plain (Text.trim text), r.dropWhile fun c => !isMark c)

/-- Splits off the items of a list and its closing bracket. -/
def items? (fuel : Nat) (cs : List Char) : Option (List Value × List Char) :=
  match fuel with
  | 0 => none
  | fuel + 1 =>
    match cs with
    | ']' :: r => some ([], r)
    | r => do
      let (item, r) ← value? fuel r
      match r with
      | ',' :: r =>
        let (items, r) ← items? fuel r
        pure (item :: items, r)
      | ']' :: r => pure ([item], r)
      | _ => none

/-- Splits off keys and values and their closing brace. The last value of a key counts. -/
def pairs? (fuel : Nat) (cs : List Char) : Option (List (String × Value) × List Char) :=
  match fuel with
  | 0 => none
  | fuel + 1 =>
    match cs with
    | '\x7d' :: r => some ([], r)
    | r => do
      let (key, r) ← key? (skipBlanks r)
      match skipBlanks r with
      | '=' :: r =>
        let (v, r) ← value? fuel r
        match r with
        | ',' :: r =>
          let (pairs, r) ← pairs? fuel r
          pure (if pairs.any (fun m => m.1 = key) then pairs else (key, v) :: pairs, r)
        | '\x7d' :: r => pure ([(key, v)], r)
        | _ => none
      | _ => none

end

/-- The value that a text looks like. -/
def value (text : String) : Value :=
  match value? (2 * text.length + 2) text.toList with
  | some (v, []) => v
  | _ => .string text

end TrafficMap.Guess
