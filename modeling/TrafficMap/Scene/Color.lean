import TrafficMap.Number.Scalar

/-!
# Colours

A colour has three channels of eight bits and an opacity. `Color.blendOver` lays one colour over
another. `Rgb` is a colour without an opacity, as a terminal shows it.
-/

namespace TrafficMap

/-- A colour that a terminal can show. -/
structure Rgb where
  red : UInt8
  green : UInt8
  blue : UInt8
  deriving DecidableEq, Repr

namespace Rgb

/-- Two digits in base sixteen. -/
def hexByte (b : UInt8) : List Char :=
  [Nat.digitChar (b.toNat / 16), Nat.digitChar (b.toNat % 16)]

/-- The channels in hexadecimal notation. -/
def hex (c : Rgb) : String :=
  String.ofList ('#' :: hexByte c.red ++ hexByte c.green ++ hexByte c.blue)

end Rgb

/-- A colour with its opacity. -/
structure Color (α : Type) where
  red : UInt8
  green : UInt8
  blue : UInt8
  alpha : α
  deriving Repr

namespace Color

variable {α : Type} [Scalar α]

/-- An opaque colour. -/
def rgb (red green blue : UInt8) : Color α :=
  { red, green, blue, alpha := 1.0 }

/-- A colour with another opacity, moved into the range from 0 to 1; what is not finite counts
as 0. -/
def withAlpha (c : Color α) (a : α) : Color α :=
  { c with alpha := if Scalar.isFinite a then Scalar.clamp a 0.0 1.0 else 0.0 }

/-- The mean of two channel values, weighted by an opacity. -/
def mixed (alpha : α) (front back : UInt8) : α :=
  Scalar.ofNat front.toNat * alpha + Scalar.ofNat back.toNat * (1.0 - alpha)

/-- The mean of two channel values as a channel value. -/
def mixChannel (alpha : α) (front back : UInt8) : UInt8 :=
  UInt8.ofNat (Scalar.toIntClamped 0 255
    (Scalar.clamp (Scalar.round (mixed alpha front back)) 0.0 255.0)).toNat

/-- A colour laid over an opaque one. -/
def blendOver (front back : Color α) : Color α :=
  rgb (mixChannel front.alpha front.red back.red) (mixChannel front.alpha front.green back.green)
    (mixChannel front.alpha front.blue back.blue)

/-- The channels of a colour. -/
def toRgb (c : Color α) : Rgb :=
  { red := c.red, green := c.green, blue := c.blue }

/-- The channels of a colour in hexadecimal notation. -/
def hex (c : Color α) : String :=
  c.toRgb.hex

end Color

end TrafficMap
