/-!
# The numbers that a picture is computed in

Positions, speeds and loads are computed over any type with the operations collected in `Scalar`,
so that one definition serves both the running program, over binary floating point, and exact
reasoning, over a field of numbers. `Scalar.max`, `Scalar.min` and `Scalar.clamp` state how
comparisons treat a value that is not a number.
-/

namespace TrafficMap

/-- The arithmetic of the picture: field operations, decidable comparisons, the tests for values
that are not finite numbers, and exact conversions to and from integers and decimals. -/
class Scalar (α : Type) extends Add α, Sub α, Mul α, Div α, Neg α, LT α, LE α, OfScientific α where
  decLt : DecidableRel (fun a b : α => a < b)
  decLe : DecidableRel (fun a b : α => a ≤ b)
  /-- The number nearest to a natural number. -/
  ofNat : Nat → α
  /-- The number nearest to `m · 10 ^ e`. -/
  ofDecimal : Nat → Int → α
  isFinite : α → Bool
  isNaN : α → Bool
  /-- Whether the number carries a minus sign; a zero may carry one. -/
  isNegative : α → Bool
  sqrt : α → α
  log10 : α → α
  /-- The length of the diagonal of a rectangle with the two given sides. -/
  hypot : α → α → α
  floor : α → α
  /-- The nearest integer, a half going away from zero. -/
  round : α → α
  /-- The integer part, read only at finite numbers. -/
  truncate : α → Int
  /-- The integer nearest to `x · 10 ^ p`, a half going to the even one, read only at finite
  numbers. -/
  scaled : Nat → α → Int

namespace Scalar

variable {α : Type} [Scalar α]

instance (a b : α) : Decidable (a < b) := decLt a b

instance (a b : α) : Decidable (a ≤ b) := decLe a b

/-- The larger of two numbers; a number wins over a value that is none. -/
def max (a b : α) : α :=
  if isNaN a then b else if isNaN b then a else if a < b then b else a

/-- The smaller of two numbers; a number wins over a value that is none. -/
def min (a b : α) : α :=
  if isNaN a then b else if isNaN b then a else if b < a then b else a

/-- Moves a number into `[lo, hi]` and leaves a value that is no number as it is. -/
def clamp (x lo hi : α) : α :=
  let y := if x < lo then lo else x
  if hi < y then hi else y

/-- The distance of a number from zero. -/
def abs (x : α) : α :=
  if isNegative x then -x else x

/-- Two numbers are the same when neither exceeds the other. -/
def same (a b : α) : Bool :=
  decide (a ≤ b) && decide (b ≤ a)

/-- The integer part, moved into `[lo, hi]`; a value that is no number gives zero. -/
def toIntClamped (lo hi : Int) (x : α) : Int :=
  if isNaN x then 0
  else if isFinite x then Min.min hi (Max.max lo (truncate x))
  else if isNegative x then lo
  else hi

/-- The integer part of a number as a natural number of at most 64 bits. -/
def toNat64 (x : α) : Nat :=
  (toIntClamped 0 18446744073709551615 x).toNat

/-- The integer part of a number as a signed integer of 64 bits. -/
def toInt64 (x : α) : Int :=
  toIntClamped (-9223372036854775808) 9223372036854775807 x

/-- The number nearest to an integer. -/
def ofInt (i : Int) : α :=
  if i < 0 then -(ofNat i.natAbs) else ofNat i.natAbs

/-- The distance from one to the next larger binary64 number. -/
def epsilon : α :=
  1.0 / ofNat (Nat.pow 2 52)

/-- The sum of a list, added up from the left starting at zero. -/
def sum (xs : List α) : α :=
  xs.foldl (· + ·) 0.0

end Scalar

end TrafficMap
