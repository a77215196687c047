import TrafficMap.Text.Words
import TrafficMap.Toml.Quoted

/-!
# Values without quotation marks

Truth values, whole numbers, floats, dates and times are written as one run of characters, apart
from a date and a time that one blank divides. `Plain.read?` gives the value of such a run.
-/

namespace TrafficMap.Toml.Plain

open Json (Value)
open Json.Phrase (isHex hexNumber)

/-- The characters of a value without quotation marks. -/
def isPlainChar (c : Char) : Bool :=
  c.isAlphanum || c = '+' || c = '-' || c = '_' || c = '.' || c = ':'

/-- A text without the sign before it. -/
def unsigned (cs : List Char) : List Char :=
  match cs with
  | '+' :: r => r
  | '-' :: r => r
  | r => r

/-- Drops single underscores between the characters that satisfy a test; there has to be such a
character on either side of each. -/
def joined? (p : Char → Bool) (cs : List Char) : Option (List Char) :=
  let groups := Text.pieces (· = '_') cs
  if groups.all fun g => !g.isEmpty && g.all p then some groups.flatten else none

/-- The digits of a decimal number, which has no leading zero. -/
def decimal? (cs : List Char) : Option (List Char) :=
  (joined? Char.isDigit cs).bind fun ds =>
    if 1 < ds.length && ds.head? = some '0' then none else some ds

/-! ## Numbers -/

/-- The number that the digits of a base denote. -/
def numeral (base : Nat) (cs : List Char) : Nat :=
  cs.foldl (fun n c => base * n + Json.Phrase.hexDigit c) 0

/-- A whole number of 64 bits with a sign. -/
def whole? (negative : Bool) (n : Nat) : Option Value :=
  if negative then
    if n ≤ Nat.pow 2 63 then some (.ofInt (-(n : Int))) else none
  else if n < Nat.pow 2 63 then some (.ofNat n) else none

/-- Reads a whole number: decimal, or without a sign in base sixteen, eight or two. -/
def integer? (cs : List Char) : Option Value :=
  match cs with
  | '0' :: 'x' :: r => (joined? isHex r).bind fun ds => whole? false (numeral 16 ds)
  | '0' :: 'o' :: r =>
    (joined? (fun c => '0' ≤ c && c ≤ '7') r).bind fun ds => whole? false (numeral 8 ds)
  | '0' :: 'b' :: r =>
    (joined? (fun c => c = '0' || c = '1') r).bind fun ds => whole? false (numeral 2 ds)
  | _ => (decimal? (unsigned cs)).bind fun ds => whole? (cs.head? = some '-') (numeral 10 ds)

/-- The part of a number before a mark, and the part from the mark on. -/
def cutBefore (p : Char → Bool) (cs : List Char) : List Char × List Char :=
  (cs.takeWhile fun c => !p c, cs.dropWhile fun c => !p c)

/-- Whether a character begins an exponent. -/
def isExponentMark (c : Char) : Bool :=
  c = 'e' || c = 'E'

/-- Whether a text is nothing or an exponent. -/
def isExponent (cs : List Char) : Bool :=
  match cs with
  | [] => true
  | _ :: r => (joined? Char.isDigit (unsigned r)).isSome

/-- Whether a text is a fraction with or without an exponent, or an exponent. -/
def isTail (cs : List Char) : Bool :=
  match cs with
  | '.' :: r =>
    let (digits, exponent) := cutBefore isExponentMark r
    (joined? Char.isDigit digits).isSome && isExponent exponent
  | [] => false
  | r => isExponent r

/-- Reads a float in decimal notation. One above the range of floats is refused, one below it is
negative infinity. -/
def decimalFloat? (cs : List Char) : Option Value :=
  let (digits, tail) := cutBefore (fun c => c = '.' || isExponentMark c) (unsigned cs)
  if (decimal? digits).isSome && isTail tail then
    (Decimal.read? (cs.filter (· != '_'))).bind fun w =>
      let x : Float := w.value
      if x.isInf && !w.negative then none else some (.number (.float x))
  else none

/-- Reads a float that is written as a word. -/
def wordFloat? (cs : List Char) : Option Value :=
  let infinity : Float := 1.0 / 0.0
  if unsigned cs = ['i', 'n', 'f'] then
    some (.number (.float (if cs.head? = some '-' then -infinity else infinity)))
  else if unsigned cs = ['n', 'a', 'n'] then some (.number (.float (0.0 / 0.0)))
  else none

/-! ## Dates and times -/

/-- The number that some digits denote, if it lies in a range. -/
def inRange? (lo hi : Nat) (cs : List Char) : Option Nat :=
  let n := Decimal.ofDigits cs
  if cs.all Char.isDigit && lo ≤ n && n ≤ hi then some n else none

/-- The days of a month. -/
def daysOf (year month : Nat) : Nat :=
  if month = 2 then
    if year % 4 = 0 && (year % 100 != 0 || year % 400 = 0) then 29 else 28
  else if [4, 6, 9, 11].contains month then 30
  else 31

/-- Whether a text is a day of the calendar. -/
def isDate (cs : List Char) : Bool :=
  match cs with
  | [a, b, c, d, '-', e, f, '-', g, h] =>
    match inRange? 0 9999 [a, b, c, d], inRange? 1 12 [e, f] with
    | some year, some month => (inRange? 1 (daysOf year month) [g, h]).isSome
    | _, _ => false
  | _ => false

/-- Splits off a time of the day. -/
def clock? (cs : List Char) : Option (List Char) :=
  match cs with
  | a :: b :: ':' :: c :: d :: ':' :: e :: f :: r =>
    if (inRange? 0 23 [a, b]).isSome && (inRange? 0 59 [c, d]).isSome &&
        (inRange? 0 60 [e, f]).isSome then
      match r with
      | '.' :: r =>
        if (r.takeWhile Char.isDigit).isEmpty then none else some (r.dropWhile Char.isDigit)
      | r => some r
    else none
  | _ => none

/-- Whether a text is nothing or the distance of a place from the zero meridian. -/
def isOffset (cs : List Char) : Bool :=
  match cs with
  | [] => true
  | ['Z'] => true
  | ['z'] => true
  | [sign, a, b, ':', c, d] =>
    (sign = '+' || sign = '-') && (inRange? 0 23 [a, b]).isSome && (inRange? 0 59 [c, d]).isSome
  | _ => false

/-- Whether a text is a time of the day at some place. -/
def isPlacedTime (cs : List Char) : Bool :=
  (clock? cs).any isOffset

/-- A date or a time, whose parts are kept as they are written. -/
def moment (cs : List Char) : Value :=
  .object [("moment", .string (String.ofList cs))]

/-- Reads a date, a time, or both with one of the letters T and t between them. -/
def moment? (cs : List Char) : Option Value :=
  let date := cs.take 10
  let rest := cs.drop 10
  let timed := match rest with
    | [] => true
    | c :: r => (c = 'T' || c = 't') && isPlacedTime r
  if (isDate date && timed) || clock? cs = some [] then some (moment cs) else none

/-! ## Values -/

/-- The value of a run of characters. -/
def value? (cs : List Char) : Option Value :=
  if cs = ['t', 'r', 'u', 'e'] then some (.bool true)
  else if cs = ['f', 'a', 'l', 's', 'e'] then some (.bool false)
  else (moment? cs).or ((integer? cs).or ((decimalFloat? cs).or (wordFloat? cs)))

/-- Splits off the run of characters that may be a value, with the time after a date and a blank. -/
def run (cs : List Char) : List Char × List Char :=
  let first := cs.takeWhile isPlainChar
  let rest := cs.dropWhile isPlainChar
  match rest with
  | ' ' :: d :: r =>
    if isDate first && d.isDigit then
      (first ++ 'T' :: (d :: r).takeWhile isPlainChar, (d :: r).dropWhile isPlainChar)
    else (first, rest)
  | _ => (first, rest)

/-- Splits off a value without quotation marks. -/
def read? (cs : List Char) : Option (Value × List Char) :=
  let (text, rest) := run cs
  (value? text).map fun v => (v, rest)

end TrafficMap.Toml.Plain
