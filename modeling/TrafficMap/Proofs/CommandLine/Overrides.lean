import Mathlib
import TrafficMap.CommandLine.Run

/-!
# Flags over settings

A flag replaces what the file and the environment say, but it does not hide it: settings are checked
before the flags are laid on them and once more afterwards. So a command runs with its settings
exactly when they can be used without the flags and with them (`loadSettings_eq_ok_iff`). A value
under a flag has no influence as long as it can be used itself; otherwise it is what the command
fails for (`loadSettings_of_cover`), although the flag would have replaced it.
-/

namespace TrafficMap

namespace Settings

/-! ## What can be used -/

/-- Settings that the program can run with. -/
structure Usable (s : Settings) : Prop where
  url : ∃ url, Web.Url.parse? s.appliance.url = .ok url ∧
    (url.scheme = "http" ∨ url.scheme = "https")
  refreshSeconds : s.display.refreshSeconds ≠ 0
  speed : s.display.speed.isFinite = true ∧ 0.0 < s.display.speed
  timeoutSeconds : s.appliance.timeoutSeconds ≠ 0

/-- What is wrong with settings: one of these. -/
inductive Rejected (s : Settings) : SettingsError → Prop where
  | url {e : SettingsError} (hurl : s.baseUrl = .error e) : Rejected s e
  | refreshSeconds (hrefresh : s.display.refreshSeconds = 0) : Rejected s .zeroRefresh
  | speed (hspeed : ¬(s.display.speed.isFinite = true ∧ 0.0 < s.display.speed)) :
      Rejected s (.speedNotPositive s.display.speed)
  | timeoutSeconds (htimeout : s.appliance.timeoutSeconds = 0) : Rejected s .zeroTimeout

variable {s : Settings}

/-- The address of the appliance is a web address. -/
theorem exists_baseUrl_iff :
    (∃ url, s.baseUrl = .ok url) ↔
      ∃ url, Web.Url.parse? s.appliance.url = .ok url ∧
        (url.scheme = "http" ∨ url.scheme = "https") := by
  unfold baseUrl
  cases Web.Url.parse? s.appliance.url with
  | error e => simp
  | ok url => by_cases hscheme : url.scheme = "http" ∨ url.scheme = "https" <;> simp [hscheme]

/-- An address that is none is reported as such. -/
theorem field_of_baseUrl {e : SettingsError} (h : s.baseUrl = .error e) :
    ∃ reason, e.field? = some ("appliance.url", reason) := by
  unfold baseUrl at h
  split at h
  · cases h
    exact ⟨_, rfl⟩
  · split at h
    · cases h
    · cases h
      exact ⟨_, rfl⟩

/-- What the checks find, in their order. -/
theorem validate_eq (s : Settings) :
    s.validate = s.baseUrl.bind fun _ =>
      if s.display.refreshSeconds = 0 then .error .zeroRefresh
      else if s.display.speed.isFinite = true ∧ 0.0 < s.display.speed then
        if s.appliance.timeoutSeconds = 0 then .error .zeroTimeout else .ok ()
      else .error (.speedNotPositive s.display.speed) := by
  unfold validate
  cases s.baseUrl with
  | error e => rfl
  | ok url =>
    by_cases hrefresh : s.display.refreshSeconds = 0 <;>
      by_cases hspeed : s.display.speed.isFinite = true ∧ 0.0 < s.display.speed <;>
      by_cases htimeout : s.appliance.timeoutSeconds = 0 <;>
      simp [hrefresh, hspeed, htimeout, bind, Except.bind, throw, throwThe, MonadExceptOf.throw,
        pure, Except.pure]

/-- Settings pass the checks and can be used, or something is wrong with them. -/
theorem usable_or_rejected (s : Settings) :
    (s.validate = .ok () ∧ s.Usable) ∨ ∃ e, s.validate = .error e ∧ s.Rejected e := by
  rw [validate_eq]
  cases hurl : s.baseUrl with
  | error e => exact Or.inr ⟨e, rfl, .url hurl⟩
  | ok url =>
    simp only [Except.bind]
    split
    · next hrefresh => exact Or.inr ⟨_, rfl, .refreshSeconds hrefresh⟩
    · next hrefresh =>
      split
      · next hspeed =>
        split
        · next htimeout => exact Or.inr ⟨_, rfl, .timeoutSeconds htimeout⟩
        · next htimeout =>
          exact Or.inl ⟨rfl, exists_baseUrl_iff.1 ⟨url, hurl⟩, hrefresh, hspeed, htimeout⟩
      · next hspeed => exact Or.inr ⟨_, rfl, .speed hspeed⟩

/-- Settings with which something is wrong cannot be used. -/
theorem Rejected.not_usable {e : SettingsError} (h : s.Rejected e) : ¬s.Usable := by
  intro husable
  cases h with
  | url hurl =>
    obtain ⟨url, hok⟩ := exists_baseUrl_iff.2 husable.url
    cases hurl.symm.trans hok
  | refreshSeconds hrefresh => exact husable.refreshSeconds hrefresh
  | speed hspeed => exact hspeed husable.speed
  | timeoutSeconds htimeout => exact husable.timeoutSeconds htimeout

theorem validate_eq_ok_iff : s.validate = .ok () ↔ s.Usable := by
  rcases s.usable_or_rejected with ⟨hok, husable⟩ | ⟨e, herror, hrejected⟩
  · simp [hok, husable]
  · simp [herror, hrejected.not_usable]

end Settings

namespace CommandLine

variable {w w' : Surroundings} {flags : Flags} {s s' : Settings}

/-! ## What flags cover -/

/-- The settings that flags replace, by name. -/
inductive Flags.Replaces (flags : Flags) : String → Prop where
  | url (h : flags.url ≠ none) : flags.Replaces "appliance.url"
  | refreshSeconds (h : flags.refreshSeconds ≠ none) :
      flags.Replaces "display.refresh_interval_secs"
  | speed (h : flags.speed ≠ none) : flags.Replaces "display.animation_speed"
  | iconDir (h : flags.iconDir ≠ none) : flags.Replaces "display.icon_dir"
  | identityLookup (h : flags.noLookup = true) : flags.Replaces "display.identity_lookup"

/-- Settings that differ in nothing but what the flags replace. -/
structure Flags.Cover (flags : Flags) (s s' : Settings) : Prop where
  appliance : { s.appliance with url := s'.appliance.url } = s'.appliance
  url : flags.url = none → s.appliance.url = s'.appliance.url
  refreshSeconds : flags.refreshSeconds = none →
    s.display.refreshSeconds = s'.display.refreshSeconds
  speed : flags.speed = none → s.display.speed = s'.display.speed
  iconDir : flags.iconDir = none → s.display.iconDir = s'.display.iconDir
  identityLookup : flags.noLookup = false →
    s.display.identityLookup = s'.display.identityLookup

/-- Two values are the same under an optional one when they are the same or it is there. -/
theorem getD_eq_getD_iff {α : Type} {o : Option α} {a b : α} :
    o.getD a = o.getD b ↔ (o = none → a = b) := by
  cases o <;> simp

theorem or_eq_or_iff {α : Type} {o a b : Option α} : o.or a = o.or b ↔ (o = none → a = b) := by
  cases o <;> simp

theorem and_not_eq_and_not_iff {a b c : Bool} : (a && !c) = (b && !c) ↔ (c = false → a = b) := by
  cases c <;> simp

/-- Settings differ only in what the flags replace exactly when they are the same under them. -/
theorem Flags.cover_iff : flags.Cover s s' ↔ flags.apply s = flags.apply s' := by
  obtain ⟨⟨_, _, _, _, _, _⟩, _, _, _, _⟩ := s
  obtain ⟨⟨_, _, _, _, _, _⟩, _, _, _, _⟩ := s'
  simp only [Flags.apply, Settings.mk.injEq, ApplianceSettings.mk.injEq, DisplaySettings.mk.injEq,
    getD_eq_getD_iff, or_eq_or_iff, and_not_eq_and_not_iff]
  constructor
  · rintro ⟨happliance, hurl, hrefresh, hspeed, hicons, hlookup⟩
    simp only [ApplianceSettings.mk.injEq, true_and] at happliance
    exact ⟨⟨hurl, happliance⟩, hrefresh, hspeed, hicons, hlookup⟩
  · rintro ⟨⟨hurl, happliance⟩, hrefresh, hspeed, hicons, hlookup⟩
    refine ⟨?_, hurl, hrefresh, hspeed, hicons, hlookup⟩
    simp only [ApplianceSettings.mk.injEq, true_and]
    exact happliance

/-- What is wrong with settings that differ from usable ones in nothing but what the flags replace
is a value that they replace. -/
theorem Flags.Cover.rejected {e : SettingsError} (h : flags.Cover s s') (husable : s.Usable)
    (hrejected : s'.Rejected e) :
    ∃ name reason, e.field? = some (name, reason) ∧ flags.Replaces name := by
  cases hrejected with
  | url hurl =>
    obtain ⟨reason, hfield⟩ := Settings.field_of_baseUrl hurl
    refine ⟨_, reason, hfield, .url fun hnone => ?_⟩
    obtain ⟨url, hok⟩ := Settings.exists_baseUrl_iff.2 (h.url hnone ▸ husable.url)
    cases hurl.symm.trans hok
  | refreshSeconds hrefresh =>
    refine ⟨_, _, rfl, .refreshSeconds fun hnone => ?_⟩
    exact husable.refreshSeconds ((h.refreshSeconds hnone).trans hrefresh)
  | speed hspeed =>
    refine ⟨_, _, rfl, .speed fun hnone => ?_⟩
    exact hspeed (h.speed hnone ▸ husable.speed)
  | timeoutSeconds htimeout =>
    -- no flag replaces the time that a request may take
    have hsame := congrArg ApplianceSettings.timeoutSeconds h.appliance
    exact absurd (hsame.trans htimeout) husable.timeoutSeconds

/-! ## Loading -/

/-- The settings that the file and the environment of a command give, unless they cannot be read or
the file is named and not there. -/
def Surroundings.settings? (w : Surroundings) (flags : Flags) : Option Settings :=
  match w.files (flags.settingsPath w.environment) with
  | .text content => Settings.extract? (some content) w.environment
  | .unreadable => none
  | .directory => Settings.extract? none w.environment
  | .missing => if flags.config.isSome then none else Settings.extract? none w.environment

/-- The settings that were found are checked, and then those under the flags. -/
theorem loadSettings_of_settings? (h : w.settings? flags = some s) :
    loadSettings w flags =
      ((s.validate.bind fun _ => (flags.apply s).validate).mapError CommandError.settings).map
        fun _ => flags.apply s := by
  have hload (file : Option String) (hfile : Settings.extract? file w.environment = some s) :
      Settings.load file w.environment = s.validate.map fun _ => s := by
    rw [Settings.load, hfile]
  have hfound :
      (flags.config.isSome && w.files (flags.settingsPath w.environment) = .missing) = false ∧
        loadFile (w.files (flags.settingsPath w.environment)) w.environment =
          s.validate.map fun _ => s := by
    unfold Surroundings.settings? at h
    split at h
    · next content hstate => simp [hstate, loadFile, hload _ h]
    · cases h
    · next hstate => simp [hstate, loadFile, hload _ h]
    · next hstate =>
      split at h
      · cases h
      · next hunnamed => simp [hstate, loadFile, hload _ h, hunnamed]
  simp only [loadSettings, hfound]
  cases s.validate with
  | error e => rfl
  | ok _ =>
    simp only [Except.map, Except.bind]
    cases (flags.apply s).validate <;> rfl

/-- A command runs with its settings exactly when they can be used and those under the flags can be
used, and these are what it runs with. -/
theorem loadSettings_eq_ok_iff (h : w.settings? flags = some s) {t : Settings} :
    loadSettings w flags = .ok t ↔ s.Usable ∧ (flags.apply s).Usable ∧ t = flags.apply s := by
  rw [loadSettings_of_settings? h, ← Settings.validate_eq_ok_iff, ← Settings.validate_eq_ok_iff]
  cases s.validate with
  | error e => simp [Except.bind, Except.mapError, Except.map]
  | ok _ =>
    cases (flags.apply s).validate with
    | error e => simp [Except.bind, Except.mapError, Except.map]
    | ok _ => simp [Except.bind, Except.mapError, Except.map, eq_comm]

/-- A command runs with its settings exactly when they can be used and those under the flags can be
used, and these are what it runs with. Of two commands whose settings differ in nothing but what the
flags replace, the one with usable settings ends like the other one, or that one fails for a value
that the flags would have replaced. -/
theorem loadSettings_of_cover (h : w.settings? flags = some s) (h' : w'.settings? flags = some s')
    (hcover : flags.Cover s s') :
    (∀ t, loadSettings w flags = .ok t ↔
        s.Usable ∧ (flags.apply s).Usable ∧ t = flags.apply s) ∧
      (s.Usable → s'.Usable → loadSettings w' flags = loadSettings w flags) ∧
      (s.Usable → ¬s'.Usable → ∃ e, loadSettings w' flags = .error (.settings e) ∧
        ∃ name reason, e.field? = some (name, reason) ∧ flags.Replaces name) := by
  refine ⟨fun t => loadSettings_eq_ok_iff h, fun husable husable' => ?_,
    fun husable hunusable => ?_⟩
  · rw [loadSettings_of_settings? h, loadSettings_of_settings? h', ← Flags.cover_iff.1 hcover,
      Settings.validate_eq_ok_iff.2 husable, Settings.validate_eq_ok_iff.2 husable']
  · rcases s'.usable_or_rejected with ⟨-, husable'⟩ | ⟨e, herror, hrejected⟩
    · exact absurd husable' hunusable
    · refine ⟨e, ?_, hcover.rejected husable hrejected⟩
      rw [loadSettings_of_settings? h', herror]
      rfl

/-- The environment names an address that is not reached by HTTP, or one that is, and a flag names
another one. -/
theorem loadSettings_of_cover_address :
    let flags : Flags := { url := some "https://flag" }
    let w (url : String) : Surroundings :=
      { files := fun _ => .missing, environment := [("FLOWSCOPE_APPLIANCE__URL", url)] }
    let s (url : String) : Settings := { appliance := { url } }
    (w "http://a").settings? flags = some (s "http://a") ∧
      (w "ftp://a").settings? flags = some (s "ftp://a") ∧
      flags.Cover (s "http://a") (s "ftp://a") ∧
      loadSettings (w "http://a") flags = .ok (s "https://flag") ∧
      ∃ e, loadSettings (w "ftp://a") flags = .error (.settings e) ∧
        ∃ name reason, e.field? = some (name, reason) ∧ flags.Replaces name := by
  intro flags w s
  have hweb : (w "http://a").settings? flags = some (s "http://a") := by decide +kernel
  have hother : (w "ftp://a").settings? flags = some (s "ftp://a") := by decide +kernel
  have hcover : flags.Cover (s "http://a") (s "ftp://a") := Flags.cover_iff.2 rfl
  obtain ⟨hruns, -, hfails⟩ := loadSettings_of_cover hweb hother hcover
  have husable : (s "http://a").Usable := Settings.validate_eq_ok_iff.1 (by decide +kernel)
  have hunder : (s "https://flag").Usable := Settings.validate_eq_ok_iff.1 (by decide +kernel)
  have hrejected : (s "ftp://a").validate = .error (.unsupportedScheme "ftp") := by
    decide +kernel
  refine ⟨hweb, hother, hcover, (hruns _).2 ⟨husable, hunder, rfl⟩, hfails husable ?_⟩
  rw [← Settings.validate_eq_ok_iff, hrejected]
  nofun

/-- The file asks for no refreshes at all, or for some every nine seconds, and a flag for some every
five seconds. -/
theorem loadSettings_of_covered_zero :
    let flags : Flags := { config := some "f.toml", refreshSeconds := some 5 }
    let w (seconds : String) : Surroundings :=
      { files := fun path =>
          if path = "f.toml" then .text ("[display]\nrefresh_interval_secs = " ++ seconds ++ "\n")
          else .missing
        environment := [] }
    let s (seconds : UInt64) : Settings := { display := { refreshSeconds := seconds } }
    (w "0").settings? flags = some (s 0) ∧ (w "9").settings? flags = some (s 9) ∧
      flags.Cover (s 9) (s 0) ∧ (flags.apply (s 0)).Usable ∧
      ¬((∃ t, loadSettings (w "0") flags = .ok t) ↔ (flags.apply (s 0)).Usable) ∧
      loadSettings (w "0") flags ≠ loadSettings (w "9") flags := by
  intro flags w s
  have hzero : (w "0").settings? flags = some (s 0) := by decide +kernel
  have hnine : (w "9").settings? flags = some (s 9) := by decide +kernel
  have hunder : (flags.apply (s 0)).Usable :=
    Settings.validate_eq_ok_iff.1 (by decide +kernel)
  have hfails : ¬∃ t, loadSettings (w "0") flags = .ok t := by
    rintro ⟨t, hruns⟩
    exact ((loadSettings_eq_ok_iff hzero).1 hruns).1.refreshSeconds rfl
  have hruns : loadSettings (w "9") flags = .ok (flags.apply (s 9)) :=
    (loadSettings_eq_ok_iff hnine).2
      ⟨Settings.validate_eq_ok_iff.1 (by decide +kernel), hunder, rfl⟩
  refine ⟨hzero, hnine, Flags.cover_iff.2 rfl, hunder, fun hclaim => hfails (hclaim.2 hunder), ?_⟩
  exact fun hsame => hfails ⟨_, hsame.trans hruns⟩

end CommandLine

end TrafficMap
