import TrafficMap.Json.Members
import TrafficMap.Json.Value

/-!
# Layers

Settings come in layers, each of them an object of objects. `overlay` lays one layer on another:
objects are merged member by member, and any other value replaces what is below it.
-/

namespace TrafficMap.Layers

open Json (Value)

mutual

/-- Lays a value on the one below it, given first. -/
def overlay (below : Value) : Value → Value
  | .object members =>
    match below with
    | .object under => .object (overlayMembers under members)
    | _ => .object members
  | v => v

/-- Lays the members of an object one after another on those below them. -/
def overlayMembers (under : List (String × Value)) :
    List (String × Value) → List (String × Value)
  | [] => under
  | (key, v) :: rest =>
    let v := match under.lookup key with
      | some w => overlay w v
      | none => v
    overlayMembers (Members.put key v under) rest

end

/-- The object that has a value at the end of a path of keys and holds nothing else. -/
def nest (v : Value) : List String → Value
  | [] => v
  | key :: path => .object [(key, nest v path)]

end TrafficMap.Layers
