import TrafficMap.Number.Binary64

/-!
# Decimal text

Numbers are written in three ways: with a fixed count of decimal places (`Decimal.fixed`), in
scientific notation with a fixed count of places (`Decimal.scientific`), and with the fewest
digits that read back as the same binary number (`Decimal.shortest`). `Decimal.read?` reads
decimal text as an exact mantissa and power of ten.
-/

namespace TrafficMap.Decimal

/-- A natural number in base ten, with leading zeros up to a least width. -/
def padded (width n : Nat) : List Char :=
  let digits := Nat.toDigits 10 n
  List.replicate (width - digits.length) '0' ++ digits

/-- `n / 10 ^ places` in positional notation. -/
def point (places n : Nat) : List Char :=
  if places = 0 then Nat.toDigits 10 n
  else Nat.toDigits 10 (n / Nat.pow 10 places) ++ '.' :: padded places (n % Nat.pow 10 places)

/-- A number with exactly `places` decimal places, a half going to the even digit. -/
def fixed {α : Type} [Scalar α] (places : Nat) (x : α) : String :=
  if Scalar.isNaN x then "NaN"
  else
    let sign := if Scalar.isNegative x then "-" else ""
    if Scalar.isFinite x then
      sign ++ String.ofList (point places (Scalar.scaled places x).natAbs)
    else sign ++ "inf"

/-! ## The digits of a binary number -/

/-- `⌊num / den · 10 ^ -k⌋` and whether anything is left over, for a decimal exponent `k`. -/
def onGrid (num den : Nat) (k : Int) : Nat × Nat :=
  if 0 ≤ k then (num, den * Nat.pow 10 k.toNat) else (num * Nat.pow 10 (-k).toNat, den)

/-- A positive finite binary number as a quotient of natural numbers. -/
def quotient (p : Binary64.Parts) : Nat × Nat :=
  if 0 ≤ p.exponent then (p.mantissa * Nat.pow 2 p.exponent.toNat, 1)
  else (p.mantissa, Nat.pow 2 (-p.exponent).toNat)

/-- The power of ten of the leading digit of `num / den`. -/
def leading (num den : Nat) : Int :=
  let guess : Int := (Nat.toDigits 10 num).length - (Nat.toDigits 10 den).length
  let (n, d) := onGrid num den guess
  if d ≤ n then guess else guess - 1

/-- A positive number in the form `d.ddd · 10 ^ e`, with `places` digits after the point and a half
going to the even digit: the digits without the point, and the exponent. -/
def significant (places num den : Nat) : Nat × Int :=
  let e := leading num den
  let (n, d) := onGrid num den (e - places)
  let m := Binary64.divEven n d
  if m = Nat.pow 10 (places + 1) then (Nat.pow 10 places, e + 1) else (m, e)

/-- A float in scientific notation with exactly `places` decimal places. Both zeros are written
without a sign. -/
def scientific (places : Nat) (x : Float) : String :=
  if x.isNaN then "NaN"
  else
    let p := Binary64.parts x
    let sign := if p.negative && x != 0.0 then "-" else ""
    if x.isInf then sign ++ "inf"
    else
      let (num, den) := quotient p
      let (m, e) := if num = 0 then (0, 0) else significant places num den
      sign ++ String.ofList (point places m) ++ "e" ++ toString e

/-- The decimals `m · 10 ^ k` that lie between the midpoints to the neighbours of a binary number
read back as that number; the midpoints themselves do when its mantissa is even. -/
def readsBack (p : Binary64.Parts) (m : Nat) (k : Int) : Bool :=
  -- in quarters of the last place of the binary number
  let below := if p.mantissa = Nat.pow 2 52 && decide (-1074 < p.exponent) then 1 else 2
  let low := 4 * p.mantissa - below
  let high := 4 * p.mantissa + 2
  let e := p.exponent - 2
  let n := m * Nat.pow 10 k.toNat * Nat.pow 2 (-e).toNat
  let d := Nat.pow 10 (-k).toNat * Nat.pow 2 e.toNat
  if p.mantissa % 2 = 0 then decide (low * d ≤ n) && decide (n ≤ high * d)
  else decide (low * d < n) && decide (n < high * d)

/-- The shortest digits of a positive number: the first count of digits, from `count` on, for which
a neighbour on the decimal grid reads back, the nearer neighbour first. -/
def shortestFrom (p : Binary64.Parts) (num den : Nat) (e : Int) : Nat → Nat → Nat × Int
  | _, 0 => (0, 0)
  | count, fuel + 1 =>
    let k := e - count
    let (n, d) := onGrid num den k
    let near := Binary64.divEven n d
    let other := if near * d ≤ n then near + 1 else near - 1
    if readsBack p near k then (near, k)
    else if readsBack p other k then (other, k)
    else shortestFrom p num den e (count + 1) fuel

/-- `m · 10 ^ k` in positional notation. -/
def positional (m : Nat) (k : Int) : List Char :=
  if 0 ≤ k then Nat.toDigits 10 (m * Nat.pow 10 k.toNat) else point (-k).toNat m

/-- Removes the factors of ten of a mantissa into its exponent. -/
def reduced (m : Nat) (k : Int) : Nat → Nat × Int
  | 0 => (m, k)
  | fuel + 1 => if m % 10 = 0 && m != 0 then reduced (m / 10) (k + 1) fuel else (m, k)

/-- The fewest digits that read back as the same float, as a mantissa and a power of ten. -/
def shortestDigits (x : Float) : Nat × Int :=
  let p := Binary64.parts x
  let (num, den) := quotient p
  if num = 0 then (0, 0)
  else
    let (m, k) := shortestFrom p num den (leading num den) 0 18
    reduced m k 20

/-- The fewest digits that read back as the same float, in positional notation. -/
def shortest (x : Float) : String :=
  if x.isNaN then "NaN"
  else
    let sign := if (Binary64.parts x).negative then "-" else ""
    if x.isInf then sign ++ "inf"
    else
      let (m, k) := shortestDigits x
      sign ++ String.ofList (positional m k)

/-! ## Reading -/

/-- A decimal as it was written: sign, digits, power of ten. -/
structure Written where
  negative : Bool
  mantissa : Nat
  exponent : Int

/-- The number that a run of digits denotes. -/
def ofDigits (cs : List Char) : Nat :=
  cs.foldl (fun n c => 10 * n + (c.toNat - '0'.toNat)) 0

/-- Reads a signed exponent that ends the text. -/
def readExponent? (cs : List Char) : Option Int :=
  let (negative, digits) := match cs with
    | '-' :: r => (true, r)
    | '+' :: r => (false, r)
    | r => (false, r)
  if digits.isEmpty || !digits.all Char.isDigit then none
  else some (Binary64.signed negative (ofDigits digits))

/-- Reads an unsigned decimal: digits with at most one point among or around them, at least one
digit, then an optional exponent. -/
def readUnsigned? (negative : Bool) (cs : List Char) : Option Written :=
  let whole := cs.takeWhile Char.isDigit
  let rest := cs.dropWhile Char.isDigit
  let (fraction, tail) := match rest with
    | '.' :: r => (r.takeWhile Char.isDigit, r.dropWhile Char.isDigit)
    | r => ([], r)
  if whole.isEmpty && fraction.isEmpty then none
  else
    let exponent? := match tail with
      | [] => some 0
      | c :: r => if c = 'e' || c = 'E' then readExponent? r else none
    exponent?.map fun e =>
      { negative, mantissa := ofDigits (whole ++ fraction), exponent := e - fraction.length }

/-- Reads a decimal with an optional sign. -/
def read? : List Char → Option Written
  | '-' :: r => readUnsigned? true r
  | '+' :: r => readUnsigned? false r
  | r => readUnsigned? false r

/-- The number nearest to a written decimal. -/
def Written.value {α : Type} [Scalar α] (w : Written) : α :=
  let x : α := Scalar.ofDecimal w.mantissa w.exponent
  if w.negative then -x else x

end TrafficMap.Decimal
