import TrafficMap.Settings.Load
import TrafficMap.Settings.Shown
import TrafficMap.View.Basic

/-!
# Views of settings
-/

namespace TrafficMap.View

open Json (Value)

/-- The name of a way for settings to be wrong. -/
def settingsErrorName : SettingsError → String
  | .noPassword _ => "NoPassword"
  | .unprintable => "Serialization"
  | .unreadable => "Unreadable"
  | _ => "Validation"

/-- Errors of a whole value are shown without their text. -/
instance : View SettingsError where
  view
    | .unprintable => .object [("error", view (settingsErrorName .unprintable))]
    | .unreadable => .object [("error", view (settingsErrorName .unreadable))]
    | e => .object [("error", view (settingsErrorName e)), ("message", view e.message)]

/-- A result, or why there is none. -/
def outcome {β : Type} (f : β → Value) : Except SettingsError β → Value
  | .ok b => f b
  | .error e => view e

instance : View ApplianceSettings where
  view s := s.toValue

instance : View DisplaySettings where
  view s := .object
    [("refresh_interval_secs", view s.refreshSeconds), ("animation_speed", view s.speed),
      ("icon_dir", view s.iconDir), ("identity_lookup", view s.identityLookup)]

instance : View Transport where
  view t := .object
    [("timeout_secs", view t.timeoutSeconds),
      ("accept_invalid_certs", view t.acceptInvalidCertificates)]

/-- Settings and what follows from them in an environment. -/
def settings (s : Settings) (environment : List (String × String)) : Value :=
  let options := s.engineOptions
  .object
    [("appliance", view s.appliance), ("display", view s.display),
      ("validate", outcome (fun _ => .string "ok") s.validate),
      ("base_url", outcome (fun url => .string url.text) s.baseUrl),
      ("transport", view s.transport),
      ("engine", .object
        [("refresh_secs", view (options.refreshMillis / 1000)), ("speed", view options.speed),
          ("icon_dir", view options.iconDir), ("identity_lookup", view options.identityLookup)]),
      ("credentials", outcome view (s.credentials environment)),
      ("toml", outcome view s.shown)]

end TrafficMap.View
