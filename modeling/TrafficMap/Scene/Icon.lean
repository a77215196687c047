import TrafficMap.Appliance.Failure
import TrafficMap.Device.Kind

/-!
# Icons

An icon is a few rows of characters. Icons load in the background, one for every kind of device;
the first result for a kind is final.
-/

namespace TrafficMap

/-- A picture made of characters, from top to bottom. -/
structure Icon where
  rows : List String
  deriving DecidableEq, Repr

namespace Icon

/-- The rows of a text without the blanks that end them. -/
def rowsOf (text : List Char) : List (List Char) :=
  (Text.pieces (· = '\n') text).map (Text.dropEnd Text.isBlank)

/-- Drops the empty rows at the end. -/
def dropEmptyEnd (rows : List (List Char)) : List (List Char) :=
  rows.foldr (fun row rest => if rest.isEmpty && row.isEmpty then [] else row :: rest) []

/-- Reads an icon; a text without a visible character is none. -/
def parse (text : String) : Option Icon :=
  let rows := dropEmptyEnd (rowsOf text.toList)
  if rows.isEmpty then none else some { rows := rows.map String.ofList }

/-- The number of characters of the widest row. -/
def width (icon : Icon) : Nat :=
  icon.rows.foldl (fun w row => Max.max w row.length) 0

/-- The number of rows. -/
def height (icon : Icon) : Nat :=
  icon.rows.length

end Icon

/-- What is known about the icon of a kind. -/
inductive IconState where
  | pending
  | loaded (icon : Icon)
  | failed
  deriving DecidableEq, Repr

/-- The icons of all kinds; a kind that is not listed is pending. -/
structure IconSet where
  states : List (DeviceKind × IconState) := []
  deriving DecidableEq, Repr

namespace IconSet

/-- The icons when there is nothing to load them from. -/
def disabled : IconSet :=
  { states := DeviceKind.all.map fun k => (k, .failed) }

/-- What is known about the icon of a kind. -/
def state (set : IconSet) (kind : DeviceKind) : IconState :=
  (set.states.lookup kind).getD .pending

/-- The icon of a kind, once it is loaded. -/
def get? (set : IconSet) (kind : DeviceKind) : Option Icon :=
  match set.state kind with
  | .loaded icon => some icon
  | _ => none

/-- Records a result for a kind unless there is one. -/
def apply (set : IconSet) (kind : DeviceKind) (result : Except Failure Icon) : IconSet :=
  match set.state kind with
  | .pending =>
    let state := match result with
      | .ok icon => IconState.loaded icon
      | .error _ => .failed
    { states := (kind, state) :: set.states }
  | _ => set

end IconSet

/-- A directory and a name as a path. -/
def joinPath (dir name : String) : String :=
  if dir.isEmpty then name
  else if dir.toList.getLast? = some '/' then dir ++ name
  else dir ++ "/" ++ name

namespace Icon

/-- Where the icon of a kind is kept. -/
def path (dir : String) (kind : DeviceKind) : String :=
  joinPath dir (kind.key ++ ".txt")

/-- The icon at a path whose content was read, or could not be read for a reason. -/
def ofFile (path : String) (content : Except String String) : Except Failure Icon :=
  match content with
  | .error reason => .error (.icon path reason)
  | .ok text =>
    match parse text with
    | some icon => .ok icon
    | none => .error (.icon path "no glyphs")

/-- The icons of all kinds in a directory, given how its files read. -/
def loadAll (dir : String) (read : String → Except String String) :
    List (DeviceKind × Except Failure Icon) :=
  DeviceKind.all.map fun kind => (kind, ofFile (path dir kind) (read (path dir kind)))

end Icon

end TrafficMap
