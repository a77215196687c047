import TrafficMap.Settings.Fields
import TrafficMap.Toml.Printed

/-!
# Printed settings

Settings are printed as the file that would set them, except for the password, which is masked.
-/

namespace TrafficMap.Settings

/-- What is printed in place of a password. -/
def mask : String := "********"

/-- Settings with the password masked, if there is one. -/
def masked (s : Settings) : Settings :=
  { s with appliance := { s.appliance with password := s.appliance.password.map fun _ => mask } }

/-- Settings as the text of a file. -/
def shown (s : Settings) : Except SettingsError String :=
  match Toml.Printed.document? s.masked.toValue with
  | some text => .ok text
  | none => .error .unprintable

end TrafficMap.Settings
