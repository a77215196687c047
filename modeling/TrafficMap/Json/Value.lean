import TrafficMap.Number.Decimal

/-!
# JSON values

A JSON value, with whole numbers of 64 bits kept apart from all others. `Value.render` writes a
value as text.
-/

namespace TrafficMap.Json

/-- A JSON number: a whole number of at most 64 bits, the negative of a positive one, or a float. -/
inductive Number where
  | natural (n : Nat)
  | negative (n : Nat)
  | float (x : Float)

/-- A JSON value; the keys of an object are distinct. -/
inductive Value where
  | null
  | bool (b : Bool)
  | number (n : Number)
  | string (s : String)
  | array (items : List Value)
  | object (members : List (String × Value))

instance : Inhabited Value := ⟨.null⟩

/-- The float nearest to a number. -/
def Number.toFloat : Number → Float
  | natural n => Float.ofNat n
  | negative n => -Float.ofNat n
  | float x => x

namespace Value

/-- The value of a member of an object. -/
def member? (key : String) : Value → Option Value
  | object members => members.lookup key
  | _ => none

/-- A natural number as a value. -/
def ofNat (n : Nat) : Value :=
  number (.natural n)

/-- An integer as a value. -/
def ofInt (n : Int) : Value :=
  if n < 0 then number (.negative n.natAbs) else number (.natural n.natAbs)

/-- An optional value; nothing is null. -/
def ofOption {α : Type} (f : α → Value) : Option α → Value
  | none => null
  | some a => f a

/-- Two hexadecimal digits of a byte. -/
def hexPair (n : Nat) : List Char :=
  [Nat.digitChar (n / 16 % 16), Nat.digitChar (n % 16)]

/-- A character inside a quoted text. -/
def escaped (c : Char) : List Char :=
  if c = '"' then ['\\', '"']
  else if c = '\\' then ['\\', '\\']
  else if c.toNat < 32 then ['\\', 'u', '0', '0'] ++ hexPair c.toNat
  else [c]

/-- A text in quotation marks. -/
def quoted (s : String) : String :=
  String.ofList ('"' :: s.toList.flatMap escaped ++ ['"'])

/-- A number as text. -/
def numberText : Number → String
  | .natural n => toString n
  | .negative n => "-" ++ toString n
  | .float x => Decimal.scientific 16 x

mutual

/-- A value as text without blanks. -/
def render : Value → String
  | null => "null"
  | bool b => if b then "true" else "false"
  | number n => numberText n
  | string s => quoted s
  | array items => "[" ++ ",".intercalate (renderItems items) ++ "]"
  | object members => "\x7b" ++ ",".intercalate (renderMembers members) ++ "\x7d"

/-- The texts of the items of an array. -/
def renderItems : List Value → List String
  | [] => []
  | v :: vs => render v :: renderItems vs

/-- The texts of the members of an object. -/
def renderMembers : List (String × Value) → List String
  | [] => []
  | (k, v) :: ms => (quoted k ++ ":" ++ render v) :: renderMembers ms

end

end Value

end TrafficMap.Json
