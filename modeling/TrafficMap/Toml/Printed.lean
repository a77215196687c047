import TrafficMap.Toml.Quoted

/-!
# Printed sections

`Printed.document?` writes an object of sections as TOML: a header for every section, a line for
every member that is not null, and an empty line between sections. Whole numbers of more than 63
bits cannot be written.
-/

namespace TrafficMap.Toml.Printed

open Json (Value)

/-- A float as TOML text: the fewest digits that read back, with a decimal point. -/
def float (x : Float) : String :=
  if x.isNaN then "nan"
  else if x.isInf then Decimal.shortest x
  else
    let digits := Decimal.shortest x
    if digits.contains '.' then digits else digits ++ ".0"

/-- A whole number as TOML text. -/
def natural? (n : Nat) : Option String :=
  if n < Nat.pow 2 63 then some (toString n) else none

/-- A value that is no table and no array as TOML text. -/
def scalar? : Value → Option String
  | .bool b => some (if b then "true" else "false")
  | .number (.natural n) => natural? n
  | .number (.negative n) => some ("-" ++ toString n)
  | .number (.float x) => some (float x)
  | .string s => some (String.ofList (Quoted.write s.toList))
  | _ => none

/-- The line of a member; null has none. -/
def line? (key : String) : Value → Option String
  | .null => some ""
  | v => (scalar? v).map fun text => key ++ " = " ++ text ++ "\n"

/-- The lines of a section. -/
def lines? (members : List (String × Value)) : Option String :=
  (members.mapM fun (k, v) => line? k v).map String.join

/-- A section with its header. -/
def section? (name : String) : Value → Option String
  | .object members => (lines? members).map fun body => "[" ++ name ++ "]\n" ++ body
  | _ => none

/-- Sections with an empty line between them. -/
def document? : Value → Option String
  | .object sections =>
    (sections.mapM fun (k, v) => section? k v).map fun texts => "\n".intercalate texts
  | _ => none

end TrafficMap.Toml.Printed
