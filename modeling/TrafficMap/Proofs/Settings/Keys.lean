import Mathlib
import TrafficMap.Proofs.Settings.Overlay
import TrafficMap.Settings.Load

/-!
# Keys of the settings

Every setting has a key: a section, a name in it, and a type (`Key`). Settings are nothing but what their keys stand
for (`Key.ext`), and they are read from a value key by key, as long as its sections are tables
(`ofValue?_eq_some_iff`): a key that is not there has its default, and one that is there has to have the right type.
-/

namespace TrafficMap.Settings

open Json (Value)
open Layers (IsTable setting?)

/-- The keys of settings of a type. -/
inductive Key : Type → Type
  | url : Key String
  | username : Key (Option String)
  | password : Key (Option String)
  | passwordVariable : Key (Option String)
  | insecure : Key Bool
  | timeoutSeconds : Key UInt64
  | refreshSeconds : Key UInt64
  | speed : Key Float
  | iconDir : Key (Option String)
  | identityLookup : Key Bool

namespace Key

variable {α : Type}

/-- The section of a key and its name there. -/
def path : Key α → String × String
  | url => ("appliance", "url")
  | username => ("appliance", "username")
  | password => ("appliance", "password")
  | passwordVariable => ("appliance", "password_env")
  | insecure => ("appliance", "insecure")
  | timeoutSeconds => ("appliance", "timeout_secs")
  | refreshSeconds => ("display", "refresh_interval_secs")
  | speed => ("display", "animation_speed")
  | iconDir => ("display", "icon_dir")
  | identityLookup => ("display", "identity_lookup")

/-- What a key stands for in settings. -/
def get : Key α → Settings → α
  | url, s => s.appliance.url
  | username, s => s.appliance.username
  | password, s => s.appliance.password
  | passwordVariable, s => s.appliance.passwordVariable
  | insecure, s => s.appliance.insecure
  | timeoutSeconds, s => s.appliance.timeoutSeconds
  | refreshSeconds, s => s.display.refreshSeconds
  | speed, s => s.display.speed
  | iconDir, s => s.display.iconDir
  | identityLookup, s => s.display.identityLookup

/-- Reads a value as one of the type that a key has. -/
def decode : Key α → Value → Option α
  | url => Decode.text
  | username => Decode.nullable Decode.text
  | password => Decode.nullable Decode.text
  | passwordVariable => Decode.nullable Decode.text
  | insecure => Decode.truth
  | timeoutSeconds => Decode.word64
  | refreshSeconds => Decode.word64
  | speed => Decode.float
  | iconDir => Decode.nullable Decode.text
  | identityLookup => Decode.truth

/-- What a key stands for where nothing is said about it. -/
def default (k : Key α) : α :=
  k.get {}

/-- What holds of all keys, one by one. -/
theorem forall_iff {p : ∀ {α : Type}, Key α → Prop} :
    (∀ {α : Type} (k : Key α), p k) ↔
      (p url ∧ p username ∧ p password ∧ p passwordVariable ∧ p insecure ∧ p timeoutSeconds) ∧
        p refreshSeconds ∧ p speed ∧ p iconDir ∧ p identityLookup := by
  constructor
  · intro h
    exact ⟨⟨h _, h _, h _, h _, h _, h _⟩, h _, h _, h _, h _⟩
  · rintro ⟨⟨_, _, _, _, _, _⟩, _, _, _, _⟩ α k
    cases k <;> assumption

/-- Settings are nothing but what their keys stand for. -/
theorem ext {s s' : Settings} (h : ∀ {α : Type} (k : Key α), k.get s = k.get s') : s = s' := by
  obtain ⟨⟨_, _, _, _, _, _⟩, _, _, _, _⟩ := s
  obtain ⟨⟨_, _, _, _, _, _⟩, _, _, _, _⟩ := s'
  obtain ⟨⟨rfl, rfl, rfl, rfl, rfl, rfl⟩, rfl, rfl, rfl, rfl⟩ := forall_iff.mp h
  rfl

/-- No table has the type of a key. -/
theorem not_isTable_of_decode (k : Key α) {v : Value} {a : α} (h : k.decode v = some a) : ¬IsTable v := by
  rintro ⟨members, rfl⟩
  cases k <;> cases h

end Key

/-! ## Reading from fields -/

open Decode (required)

section

variable {f : Fields}

/-- The settings of the appliance are read field by field. -/
theorem ofFields?_appliance_eq_some_iff {a : ApplianceSettings} :
    ApplianceSettings.ofFields? f = some a ↔
      required Decode.text ({} : ApplianceSettings).url (f "url") = some a.url ∧
        Decode.optional (f "username") = some a.username ∧ Decode.optional (f "password") = some a.password ∧
        Decode.optional (f "password_env") = some a.passwordVariable ∧
        required Decode.truth ({} : ApplianceSettings).insecure (f "insecure") = some a.insecure ∧
        required Decode.word64 ({} : ApplianceSettings).timeoutSeconds (f "timeout_secs")
          = some a.timeoutSeconds := by
  obtain ⟨_, _, _, _, _, _⟩ := a
  simp [ApplianceSettings.ofFields?, Option.bind_eq_some_iff, -Bool.exists_bool]

/-- The settings of the display are read field by field. -/
theorem ofFields?_display_eq_some_iff {d : DisplaySettings} :
    DisplaySettings.ofFields? f = some d ↔
      required Decode.word64 ({} : DisplaySettings).refreshSeconds (f "refresh_interval_secs")
          = some d.refreshSeconds ∧
        required Decode.float ({} : DisplaySettings).speed (f "animation_speed") = some d.speed ∧
        Decode.optional (f "icon_dir") = some d.iconDir ∧
        required Decode.truth ({} : DisplaySettings).identityLookup (f "identity_lookup")
          = some d.identityLookup := by
  obtain ⟨_, _, _, _⟩ := d
  simp [DisplaySettings.ofFields?, Option.bind_eq_some_iff, -Bool.exists_bool]

/-- Settings are read section by section. -/
theorem ofFields?_eq_some_iff {s : Settings} :
    ofFields? f = some s ↔
      required ApplianceSettings.ofValue? {} (f "appliance") = some s.appliance ∧
        required DisplaySettings.ofValue? {} (f "display") = some s.display := by
  obtain ⟨_, _⟩ := s
  simp [ofFields?, Option.bind_eq_some_iff]

end

/-! ## Reading from sections -/

/-- A table whose sections are tables. -/
structure Sectioned (v : Value) : Prop where
  table : IsTable v
  sections : ∀ name ∈ names, ∀ w, v.member? name = some w → IsTable w

theorem Key.path_fst_mem {α : Type} (k : Key α) : k.path.1 ∈ names := by
  cases k <;> simp [path, names]

section

variable {v : Value}

/-- Nothing is cut from a table. -/
theorem cutItems_of_isTable {count : ℕ} (h : IsTable v) : cutItems count v = v := by
  obtain ⟨members, rfl⟩ := h
  rfl

/-- Only lists are cut, so sections that are tables stay as they are. -/
theorem member?_cutSections (h : Sectioned v) {name : String} (hname : name ∈ names) :
    (cutSections v).member? name = v.member? name := by
  obtain ⟨⟨members, rfl⟩, hsections⟩ := h
  have hcut : (cutSections (.object members)).member? name = _ :=
    Members.lookup_map (fun key w => if key = "appliance" then cutItems ApplianceSettings.names.length w
      else if key = "display" then cutItems DisplaySettings.names.length w else w) name members
  rw [hcut]
  cases hlookup : members.lookup name with
  | none => exact hlookup.symm
  | some w =>
    have htable := hsections name hname w hlookup
    rw [Option.map_some, cutItems_of_isTable htable, cutItems_of_isTable htable, ite_self, ite_self]
    exact hlookup.symm

/-- A section that is a table, or is missing, is read by its members. -/
theorem required_appliance {o : Option Value} (h : ∀ w, o = some w → IsTable w) :
    required ApplianceSettings.ofValue? {} o
      = ApplianceSettings.ofFields? fun name => o.bind (Value.member? name) := by
  cases o with
  | none => rfl
  | some w =>
    obtain ⟨members, rfl⟩ := h w rfl
    rfl

/-- The same of the section for the display. -/
theorem required_display {o : Option Value} (h : ∀ w, o = some w → IsTable w) :
    required DisplaySettings.ofValue? {} o
      = DisplaySettings.ofFields? fun name => o.bind (Value.member? name) := by
  cases o with
  | none => rfl
  | some w =>
    obtain ⟨members, rfl⟩ := h w rfl
    rfl

/-- Settings are read key by key. -/
theorem ofValue?_eq_some_iff (h : Sectioned v) {s : Settings} :
    ofValue? (cutSections v) = some s ↔
      ∀ {α : Type} (k : Key α), required k.decode k.default (setting? k.path v) = some (k.get s) := by
  have hfields : ofValue? (cutSections v) = ofFields? fun name => (cutSections v).member? name := by
    obtain ⟨members, rfl⟩ := h.table
    rfl
  have happliance : "appliance" ∈ names := by simp [names]
  have hdisplay : "display" ∈ names := by simp [names]
  rw [hfields, ofFields?_eq_some_iff, member?_cutSections h happliance, member?_cutSections h hdisplay,
    required_appliance (h.sections _ happliance), required_display (h.sections _ hdisplay),
    ofFields?_appliance_eq_some_iff, ofFields?_display_eq_some_iff, Key.forall_iff]
  rfl

end

end TrafficMap.Settings
