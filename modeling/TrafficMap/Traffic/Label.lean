import TrafficMap.Number.Decimal
import TrafficMap.Text.Words

/-!
# Labels for rates, sizes and percentages

A rate is shown in bits per second with decimal units (`Label.rate`) and read back in Kbps
(`Label.kbps`), so a label is the only record of a device's current speed. Sizes are shown with
binary units, percentages with one decimal place.
-/

namespace TrafficMap.Label

open Text (pieces words isBlank)

variable {α : Type} [Scalar α]

/-- The largest value of an unsigned 64-bit counter. -/
def counterMax : Nat :=
  Nat.pow 2 64 - 1

/-- The bits of a number of bytes; a count that does not fit stays at the largest one. -/
def bitsOf (bytesPerSecond : UInt64) : Nat :=
  min (8 * bytesPerSecond.toNat) counterMax

/-- The decimal units of a rate, largest first, with their size in bits per second. -/
def rateUnits : List (String × Nat) :=
  [("Gbps", 1000000000), ("Mbps", 1000000), ("Kbps", 1000)]

variable (α) in
/-- A rate in bits per second: in the largest unit that it reaches with one decimal place, or as a
plain number of bits. -/
def rate (bytesPerSecond : UInt64) : String :=
  let bits := bitsOf bytesPerSecond
  match rateUnits.find? (fun u => u.2 ≤ bits) with
  | some (unit, size) =>
    Decimal.fixed 1 ((Scalar.ofNat bits : α) / Scalar.ofNat size) ++ " " ++ unit
  | none => toString bits ++ " bps"

/-- The size in Kbps of a unit, written in lower case. -/
def unitScale? : List Char → Option α
  | ['b', 'p', 's'] => some 0.001
  | ['k', 'b', 'p', 's'] => some 1.0
  | ['m', 'b', 'p', 's'] => some 1000.0
  | ['g', 'b', 'p', 's'] => some 1000000.0
  | _ => none

/-- Reads a label as Kbps. What stands before the first digit is skipped; a text that does not go
on with a number and a unit, and a value that is not finite and positive, read as zero. -/
def kbps (label : String) : α :=
  match words (label.toList.dropWhile (fun c => !c.isDigit)) with
  | number :: unit :: _ =>
    match Decimal.read? number, unitScale? (α := α) (Text.asciiLower unit) with
    | some w, some scale =>
      let value := w.value * scale
      if Scalar.isFinite value && decide (value > 0.0) then value else 0.0
    | _, _ => 0.0
  | _ => 0.0

/-- The binary units of a size; each is 1024 times the one before. -/
def sizeUnits : List String :=
  ["B", "KB", "MB", "GB", "TB"]

/-- The unit of a size: the name and the size of the first unit from the given one on in which the
number falls below 1024, or of the last unit. -/
def sizeUnit (bytes : Nat) (divisor : Nat) : List String → String × Nat
  | [] => ("", divisor)
  | [unit] => (unit, divisor)
  | unit :: next :: rest =>
    if 1024 ≤ bytes / divisor then sizeUnit bytes (divisor * 1024) (next :: rest)
    else (unit, divisor)

/-- Drops the zeros that end a decimal fraction, and then the point if nothing follows it. -/
def withoutTrailingZeros (cs : List Char) : List Char :=
  if cs.contains '.' then Text.dropEnd (· = '.') (Text.dropEnd (· = '0') cs) else cs

variable (α) in
/-- A number of bytes in the largest binary unit that it reaches, with at most two decimal
places. -/
def size (bytes : UInt64) : String :=
  if bytes = 0 then "0 B"
  else
    let (unit, divisor) := sizeUnit bytes.toNat 1 sizeUnits
    let value : α := Scalar.ofNat bytes.toNat / Scalar.ofNat divisor
    String.ofList (withoutTrailingZeros (Decimal.fixed 2 value).toList) ++ " " ++ unit

/-- A percentage with one decimal place, moved into the range from 0 to 100. -/
def percent (x : α) : String :=
  Decimal.fixed 1 (Scalar.clamp x 0.0 100.0) ++ "%"

end TrafficMap.Label
