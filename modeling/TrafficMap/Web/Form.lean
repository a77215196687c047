import TrafficMap.Web.Percent

/-!
# Forms

The fields of a form as text: names and values with everything but letters, digits and a few marks
escaped, and blanks written as plus signs.
-/

namespace TrafficMap.Web.Form

/-- What is escaped in a field. -/
def isEscaped (c : Char) : Bool :=
  !(c.isAlphanum || ['*', '-', '.', '_', ' '].contains c)

/-- A name or a value as it is sent. -/
def field (text : String) : String :=
  String.ofList ((Percent.encode isEscaped text.toList).map fun c => if c = ' ' then '+' else c)

/-- Fields as they are sent. -/
def encode (fields : List (String × String)) : String :=
  "&".intercalate (fields.map fun (name, value) => field name ++ "=" ++ field value)

end TrafficMap.Web.Form
