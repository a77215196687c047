import TrafficMap.Settings.Environment
import TrafficMap.Settings.Fields
import TrafficMap.Toml.Document

/-!
# Loading settings

Settings come from a file and from environment variables. What neither of them sets has its
default, and a variable counts more than the file.
-/

namespace TrafficMap.Settings

open Json (Value)

/-- An array without the items behind the first `count`. -/
def cutItems (count : Nat) : Value → Value
  | .array items => .array (items.take count)
  | v => v

/-- The sections without what a list has behind its last field. -/
def cutSections : Value → Value
  | .object members => .object (members.map fun (k, v) =>
      (k, if k = "appliance" then cutItems ApplianceSettings.names.length v
        else if k = "display" then cutItems DisplaySettings.names.length v
        else v))
  | v => v

/-- The layer of a file; a file that is not there sets nothing. -/
def fileLayer? (file : Option String) : Option Value :=
  match file with
  | none => some (.object [])
  | some text => Toml.Document.read? text

/-- The layers on top of the defaults: the file, then the environment. -/
def merged (file environment : Value) : Value :=
  Layers.overlay (Layers.overlay ({} : Settings).toValue file) environment

/-- Reads the settings from a file and the environment. -/
def extract? (file : Option String) (environment : List (String × String)) : Option Settings :=
  (fileLayer? file).bind fun layer =>
    ofValue? (cutSections (merged layer (Environment.layer environment)))

/-- Loads the settings and checks them. -/
def load (file : Option String) (environment : List (String × String)) :
    Except SettingsError Settings :=
  match extract? file environment with
  | none => .error .unreadable
  | some s => s.validate.map fun _ => s

end TrafficMap.Settings
