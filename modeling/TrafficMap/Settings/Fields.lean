import TrafficMap.Appliance.Decode
import TrafficMap.Settings.Basic

/-!
# Settings as values

`Settings.toValue` shows settings as a value, with null for what is not set, and `Settings.ofValue?`
reads such a value. Unlike what the appliance reports, settings are read strictly: a field may be
absent, but one of the wrong type is an error. A record is read from an object, or from an array
that lists its fields in order and leaves out only fields with a default from some field on.
-/

namespace TrafficMap

open Json (Value)

namespace Decode

/-- A field that takes its default only when it is absent. -/
def required {α : Type} (decode : Value → Option α) (default : α) (v : Option Value) : Option α :=
  match v with
  | none => some default
  | some v => decode v

/-- A text that may be absent or null. -/
def optional (v : Option Value) : Option (Option String) :=
  required (nullable text) none v

end Decode

/-- The fields of a record of which the first `least` have to be listed in an array. -/
def Fields.listed? (names : List String) (least : Nat) : Value → Option Fields
  | .array items => if items.length < least then none else ofItems? names items
  | v => ofValue? names v

namespace ApplianceSettings

/-- The names of the fields. -/
def names : List String :=
  ["url", "username", "password", "password_env", "insecure", "timeout_secs"]

/-- Reads the settings from their fields. -/
def ofFields? (f : Fields) : Option ApplianceSettings := do
  pure
    { url := ← Decode.required Decode.text ({} : ApplianceSettings).url (f "url")
      username := ← Decode.optional (f "username")
      password := ← Decode.optional (f "password")
      passwordVariable := ← Decode.optional (f "password_env")
      insecure := ← Decode.required Decode.truth ({} : ApplianceSettings).insecure (f "insecure")
      timeoutSeconds :=
        ← Decode.required Decode.word64 ({} : ApplianceSettings).timeoutSeconds (f "timeout_secs") }

/-- Reads the settings from a value. -/
def ofValue? (v : Value) : Option ApplianceSettings :=
  (Fields.listed? names 4 v).bind ofFields?

/-- The settings as a value. -/
def toValue (s : ApplianceSettings) : Value :=
  .object
    [("url", .string s.url), ("username", .ofOption .string s.username),
      ("password", .ofOption .string s.password),
      ("password_env", .ofOption .string s.passwordVariable), ("insecure", .bool s.insecure),
      ("timeout_secs", .ofNat s.timeoutSeconds.toNat)]

end ApplianceSettings

namespace DisplaySettings

/-- The names of the fields. -/
def names : List String :=
  ["refresh_interval_secs", "animation_speed", "icon_dir", "identity_lookup"]

/-- Reads the settings from their fields. -/
def ofFields? (f : Fields) : Option DisplaySettings := do
  pure
    { refreshSeconds :=
        ← Decode.required Decode.word64 ({} : DisplaySettings).refreshSeconds
          (f "refresh_interval_secs")
      speed := ← Decode.required Decode.float ({} : DisplaySettings).speed (f "animation_speed")
      iconDir := ← Decode.optional (f "icon_dir")
      identityLookup :=
        ← Decode.required Decode.truth ({} : DisplaySettings).identityLookup (f "identity_lookup") }

/-- Reads the settings from a value. -/
def ofValue? (v : Value) : Option DisplaySettings :=
  (Fields.listed? names 3 v).bind ofFields?

/-- The settings as a value. -/
def toValue (s : DisplaySettings) : Value :=
  .object
    [("refresh_interval_secs", .ofNat s.refreshSeconds.toNat),
      ("animation_speed", .number (.float s.speed)), ("icon_dir", .ofOption .string s.iconDir),
      ("identity_lookup", .bool s.identityLookup)]

end DisplaySettings

namespace Settings

/-- The names of the sections. -/
def names : List String := ["appliance", "display"]

/-- Reads settings from their sections. -/
def ofFields? (f : Fields) : Option Settings := do
  pure
    { appliance := ← Decode.required ApplianceSettings.ofValue? {} (f "appliance")
      display := ← Decode.required DisplaySettings.ofValue? {} (f "display") }

/-- Reads settings from a value. -/
def ofValue? (v : Value) : Option Settings :=
  (Fields.ofValue? names v).bind ofFields?

/-- Settings as a value. -/
def toValue (s : Settings) : Value :=
  .object [("appliance", s.appliance.toValue), ("display", s.display.toValue)]

end Settings

end TrafficMap
