import TrafficMap.Text.Words

/-!
# Percent escapes

The characters that may not stand in a part of a URL are written as the bytes of their UTF-8 form,
each a percent sign with two hexadecimal digits. Which characters these are depends on the part.
-/

namespace TrafficMap.Web.Percent

/-- A byte as an escape. -/
def escape (b : UInt8) : List Char :=
  ['%', (Nat.digitChar (b.toNat / 16)).toUpper, (Nat.digitChar (b.toNat % 16)).toUpper]

/-- Escapes the characters of a class. -/
def encode (escaped : Char → Bool) (cs : List Char) : List Char :=
  cs.flatMap fun c => if escaped c then (String.utf8EncodeChar c).flatMap escape else [c]

/-- Control characters and everything beyond ASCII. -/
def isControl (c : Char) : Bool :=
  decide (c < ' ') || decide ('~' < c)

/-- What is escaped in a fragment. -/
def inFragment (c : Char) : Bool :=
  isControl c || [' ', '"', '<', '>', Char.ofNat 0x60].contains c

/-- What is escaped in a path. -/
def inPath (c : Char) : Bool :=
  inFragment c || ['#', '?', Char.ofNat 0x7b, Char.ofNat 0x7d].contains c

/-- What is escaped in a user name or a password. -/
def inUserInfo (c : Char) : Bool :=
  inPath c || ['/', ':', ';', '=', '@', '[', '\\', ']', '^', '|'].contains c

/-- What is escaped in a query. -/
def inQuery (c : Char) : Bool :=
  isControl c || [' ', '"', '#', '<', '>'].contains c

/-- What is escaped in a query of a scheme that has servers. -/
def inSpecialQuery (c : Char) : Bool :=
  inQuery c || c = '\''

/-- The value of a hexadecimal digit. -/
def hexValue? (c : Char) : Option Nat :=
  if c.isDigit then some (c.toNat - '0'.toNat)
  else if 'a' ≤ c && c ≤ 'f' then some (c.toNat - 'a'.toNat + 10)
  else if 'A' ≤ c && c ≤ 'F' then some (c.toNat - 'A'.toNat + 10)
  else none

/-- The bytes that a text with escapes stands for; what is no escape stands for itself. -/
def decode : List Char → List UInt8
  | [] => []
  | '%' :: a :: b :: rest =>
    match hexValue? a, hexValue? b with
    | some x, some y => UInt8.ofNat (16 * x + y) :: decode rest
    | _, _ => '%'.toUInt8 :: decode (a :: b :: rest)
  | c :: rest => String.utf8EncodeChar c ++ decode rest

end TrafficMap.Web.Percent
