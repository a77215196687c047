import TrafficMap.Settings.Guess
import TrafficMap.Settings.Layers

/-!
# The environment layer

An environment variable gives a setting when its name begins with `Environment.lead`; the rest of
the name leads to the setting, with two underscores between a section and a key. Letters of either
case are the same.
-/

namespace TrafficMap.Environment

open Json (Value)

/-- What the names of the variables begin with, in lower case. -/
def lead : List Char := "flowscope_".toList

/-- Cuts a name at every point and at every two underscores. -/
def parts : List Char → List (List Char)
  | [] => [[]]
  | '_' :: '_' :: cs => [] :: parts cs
  | '.' :: cs => [] :: parts cs
  | c :: cs =>
    match parts cs with
    | [] => [[c]]
    | w :: ws => (c :: w) :: ws

/-- The path of keys that a variable's name leads to. -/
def path? (name : String) : Option (List String) :=
  let cs := Text.asciiLower (Text.trim name.toList)
  if lead.isPrefixOf cs then
    let keys := parts (Text.trim (cs.drop lead.length))
    if keys.any List.isEmpty then none else some (keys.map String.ofList)
  else none

/-- The layer of one variable. -/
def layer? (name text : String) : Option Value :=
  (path? name).map (Layers.nest (Guess.value text))

/-- The layer of the environment; of two variables with one path the later counts. -/
def layer (environment : List (String × String)) : Value :=
  (environment.filterMap fun (name, text) => layer? name text).foldl Layers.overlay (.object [])

end TrafficMap.Environment
