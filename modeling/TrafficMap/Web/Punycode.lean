/-!
# Punycode

A text in ASCII for any label of a domain name: the ASCII characters of the label, then the
positions and differences of the code points of the others as integers of variable length.
-/

namespace TrafficMap.Web.Punycode

/-- The digit of a value below 36: the letters, then the decimal digits. -/
def digit (n : Nat) : Char :=
  if n < 26 then Char.ofNat ('a'.toNat + n) else Char.ofNat ('0'.toNat + (n - 26))

/-- The bias that a scaled difference leads to, when the bias would be `k` for a small one. -/
def biasFrom (delta k : Nat) : Nat :=
  if 455 < delta then biasFrom (delta / 35) (k + 36) else k + 36 * delta / (delta + 38)
termination_by delta
decreasing_by exact Nat.div_lt_self (by omega) (by omega)

/-- The next bias after a difference was written. The first difference is scaled down more, since it
spans all of ASCII. -/
def adapt (delta points : Nat) (first : Bool) : Nat :=
  let delta := if first then delta / 700 else delta / 2
  biasFrom (delta + delta / points) 0

/-- The threshold of the digit at a position. -/
def threshold (k bias : Nat) : Nat :=
  max 1 (min 26 (k - bias))

/-- Every digit can end an integer, since no threshold is zero. -/
theorem one_le_threshold (k bias : Nat) : 1 ≤ threshold k bias :=
  Nat.le_max_left ..

/-- An integer of variable length, from the digit at position `k` on. -/
def integer (bias k q : Nat) : List Char :=
  let t := threshold k bias
  if q < t then [digit q]
  else digit (t + (q - t) % (36 - t)) :: integer bias (k + 36) ((q - t) / (36 - t))
termination_by q
decreasing_by
  have positive := one_le_threshold k bias
  have smaller : (q - threshold k bias) / (36 - threshold k bias) ≤ q - threshold k bias :=
    Nat.div_le_self ..
  omega

/-- The state of the encoder: the difference that is due, the bias, how many characters are written,
and what was written. -/
structure Encoding where
  delta : Nat
  bias : Nat
  handled : Nat
  output : List Char

/-- Writes the occurrences of the code point `n`. -/
def writePoint (n basic : Nat) (s : Encoding) (c : Char) : Encoding :=
  if c.toNat < n then { s with delta := s.delta + 1 }
  else if c.toNat = n then
    { delta := 0
      bias := adapt s.delta (s.handled + 1) (s.handled = basic)
      handled := s.handled + 1
      output := s.output ++ integer s.bias 36 s.delta }
  else s

/-- Writes the code points from `n` on, in order. -/
def writePoints (label : List Char) (basic : Nat) : Nat → List Nat → Encoding → Encoding
  | _, [], s => s
  | n, m :: points, s =>
    let s := { s with delta := s.delta + (m - n) * (s.handled + 1) }
    let s := label.foldl (writePoint m basic) s
    writePoints label basic (m + 1) points { s with delta := s.delta + 1 }

/-- Adds a number to a sorted list unless it is there. -/
def insertPoint (n : Nat) : List Nat → List Nat
  | [] => [n]
  | m :: ms => if n = m then m :: ms else if n < m then n :: m :: ms else m :: insertPoint n ms

/-- A label in Punycode. -/
def encode (label : List Char) : List Char :=
  let basic := label.filter fun c => c.toNat < 128
  let points := (label.filter fun c => 128 ≤ c.toNat).foldr (fun c ms => insertPoint c.toNat ms) []
  let start := if basic.isEmpty then [] else basic ++ ['-']
  (writePoints label basic.length 128 points
    { delta := 0, bias := 72, handled := basic.length, output := start }).output

/-- The value of a digit. -/
def value? (c : Char) : Option Nat :=
  let c := c.toLower
  if 'a' ≤ c && c ≤ 'z' then some (c.toNat - 'a'.toNat)
  else if c.isDigit then some (c.toNat - '0'.toNat + 26)
  else none

/-- Reads an integer of variable length and gives what follows it. -/
def readInteger? (bias k weight total : Nat) : List Char → Option (Nat × List Char)
  | [] => none
  | c :: rest =>
    match value? c with
    | none => none
    | some d =>
      let total := total + d * weight
      let t := threshold k bias
      if Nat.pow 2 32 ≤ total then none
      else if d < t then some (total, rest)
      else readInteger? bias (k + 36) (weight * (36 - t)) total rest

/-- Reads the integers of a label and puts their characters into place: `n` is the code point that
was written last and `i` the place after it. -/
def readPoints? (n i bias : Nat) (label : List Char) : Nat → List Char → Option (List Char)
  | _, [] => some label
  | 0, _ :: _ => none
  | fuel + 1, c :: cs =>
    match readInteger? bias 36 1 0 (c :: cs) with
    | none => none
    | some (delta, rest) =>
      let length := label.length + 1
      let n := n + (i + delta) / length
      let place := (i + delta) % length
      if n.isValidChar then
        readPoints? n (place + 1) (adapt delta length (i = 0))
          (label.take place ++ Char.ofNat n :: label.drop place) fuel rest
      else none

/-- The label that a text in Punycode stands for. -/
def decode? (cs : List Char) : Option (List Char) :=
  let digits := (cs.reverse.takeWhile (· ≠ '-')).reverse
  let basic := (cs.take (cs.length - digits.length)).dropLast
  readPoints? 128 0 72 basic digits.length digits

end TrafficMap.Web.Punycode
