import TrafficMap.Number.Scalar

/-!
# Binary floating point

A finite `Float` is `± m · 2 ^ e`; `Binary64.parts` reads the three parts off its bits. Decimal
rounding, truncation and the diagonal are computed from the parts in exact integer arithmetic and
rounded once. The instance at the end makes `Float` the arithmetic of the running program.
-/

namespace TrafficMap.Binary64

/-- A finite binary number `± mantissa · 2 ^ exponent`. -/
structure Parts where
  negative : Bool
  mantissa : Nat
  exponent : Int

/-- The parts of a finite float. -/
def parts (x : Float) : Parts :=
  let bits := x.toBits.toNat
  let fraction : Nat := bits % Nat.pow 2 52
  let stored : Nat := bits / Nat.pow 2 52 % Nat.pow 2 11
  { negative := bits / Nat.pow 2 63 == 1
    mantissa := if stored = 0 then fraction else fraction + Nat.pow 2 52
    exponent := if stored = 0 then -1074 else (stored : Int) - 1075 }

/-- The quotient of two natural numbers to the nearest one, a half going to the even one. -/
def divEven (n d : Nat) : Nat :=
  let q := n / d
  let r := n % d
  if 2 * r < d then q else if d < 2 * r then q + 1 else q + q % 2

/-- A magnitude with the sign that goes before it. -/
def signed (negative : Bool) (n : Nat) : Int :=
  if negative then -(n : Int) else n

/-- The integer part of a finite float. -/
def truncate (x : Float) : Int :=
  let p := parts x
  let n := if p.exponent < 0 then p.mantissa / Nat.pow 2 p.exponent.natAbs
    else p.mantissa * Nat.pow 2 p.exponent.natAbs
  signed p.negative n

/-- The integer nearest to `x · 10 ^ places`, a half going to the even one. -/
def scaled (places : Nat) (x : Float) : Int :=
  let p := parts x
  let n := p.mantissa * Nat.pow 10 places
  let unit := Nat.pow 2 p.exponent.natAbs
  signed p.negative (if p.exponent < 0 then divEven n unit else n * unit)

/-- The float nearest to `m · 10 ^ e`; magnitudes far outside the range are settled without
computing the power. -/
def ofDecimal (m : Nat) (e : Int) : Float :=
  let digits : Int := (Nat.toDigits 10 m).length
  if m = 0 then 0.0
  else if e + digits > 400 then 1.0 / 0.0
  else if e + digits < -400 then 0.0
  else Float.ofScientific m (e < 0) e.natAbs

/-- The integer part of the square root. -/
def root (n : Nat) : Nat :=
  if h : n < 2 then n
  else
    let r := 2 * root (n / 4)
    if (r + 1) * (r + 1) ≤ n then r + 1 else r
termination_by n
decreasing_by omega

/-- The float nearest to the square root of `n · 4 ^ e`, for a positive `n`: the first 62 bits of
the root, the last of them set when anything was left out, are rounded once. -/
def rootScaled (n : Nat) (e : Int) : Float :=
  let wide := n * Nat.pow 4 64
  let r := root wide
  let excess := r.log2 - 61
  let top := r / Nat.pow 2 excess
  let exact := top * Nat.pow 2 excess
  let mantissa := if exact * exact = wide then top else 2 * (top / 2) + 1
  (Float.ofNat mantissa).scaleB (e - 64 + excess)

/-- The length of the diagonal of a rectangle, rounded once. An infinite side makes an infinite
diagonal, whatever the other one is. -/
def hypot (x y : Float) : Float :=
  let a := x.abs
  let b := y.abs
  if a.isInf || b.isInf then 1.0 / 0.0
  else if a.isNaN || b.isNaN then 0.0 / 0.0
  else if a == 0.0 then b
  else if b == 0.0 then a
  else
    let p := parts a
    let q := parts b
    if 120 < (p.exponent - q.exponent).natAbs then (if a < b then b else a)
    else
      let e := Min.min p.exponent q.exponent
      let m := p.mantissa * Nat.pow 2 (p.exponent - e).toNat
      let n := q.mantissa * Nat.pow 2 (q.exponent - e).toNat
      rootScaled (m * m + n * n) e

instance : Scalar Float where
  decLt := fun a b => inferInstanceAs (Decidable (a < b))
  decLe := fun a b => inferInstanceAs (Decidable (a ≤ b))
  ofNat := Float.ofNat
  ofDecimal := ofDecimal
  isFinite := Float.isFinite
  isNaN := Float.isNaN
  isNegative := fun x => x.toBits >>> 63 == 1
  sqrt := Float.sqrt
  log10 := Float.log10
  hypot := hypot
  floor := Float.floor
  round := Float.round
  truncate := truncate
  scaled := scaled

end TrafficMap.Binary64
