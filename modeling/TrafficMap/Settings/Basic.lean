import TrafficMap.Engine
import TrafficMap.Web.Url

/-!
# Settings

How to reach the appliance, and how to show what it reports. `Settings.validate` refuses what the
program cannot run with, and `Settings.credentials` finds the login.
-/

namespace TrafficMap

/-- How to reach the appliance. -/
structure ApplianceSettings where
  /-- Where its pages are. -/
  url : String := "http://127.0.0.1:8090"
  /-- Who logs in, if it asks for a login. -/
  username : Option String := none
  /-- The password as plain text. -/
  password : Option String := none
  /-- The environment variable that holds the password. -/
  passwordVariable : Option String := none
  /-- Whether certificates that nobody vouches for are accepted. -/
  insecure : Bool := true
  /-- How long a request may take, in seconds. -/
  timeoutSeconds : UInt64 := 10
  deriving DecidableEq, Repr

/-- How to show what the appliance reports. -/
structure DisplaySettings where
  /-- The time between refreshes, in seconds. -/
  refreshSeconds : UInt64 := 5
  /-- The speed of the animation. -/
  speed : Float := 1.0
  /-- Where the icons are, if there are any. -/
  iconDir : Option String := none
  /-- Whether the appliance is asked for the names of clients. -/
  identityLookup : Bool := true
  deriving DecidableEq, Repr

/-- What the program is told before it starts. -/
structure Settings where
  appliance : ApplianceSettings := {}
  display : DisplaySettings := {}
  deriving DecidableEq, Repr

/-- How requests are made. -/
structure Transport where
  timeoutSeconds : UInt64
  acceptInvalidCertificates : Bool
  deriving DecidableEq, Repr

/-- What can be wrong with settings. -/
inductive SettingsError where
  /-- The address of the appliance is no URL. -/
  | invalidUrl (error : Web.UrlError) (text : String)
  /-- The appliance is not reached by HTTP. -/
  | unsupportedScheme (scheme : String)
  | zeroRefresh
  | speedNotPositive (speed : Float)
  | zeroTimeout
  /-- There is a name to log in with, but no password. -/
  | noPassword (username : String)
  /-- A whole number is too large to be printed. -/
  | unprintable
  /-- The file is not well-formed, or a value has the wrong type. -/
  | unreadable
  deriving DecidableEq

namespace SettingsError

/-- The setting that is out of range, and why; none for the other errors. -/
def field? : SettingsError → Option (String × String)
  | invalidUrl error text => some ("appliance.url", error.message ++ ": " ++ text)
  | unsupportedScheme scheme => some ("appliance.url", "unsupported scheme '" ++ scheme ++ "'")
  | zeroRefresh => some ("display.refresh_interval_secs", "must be greater than zero")
  | speedNotPositive speed =>
    some ("display.animation_speed", "must be positive, got " ++ Decimal.shortest speed)
  | zeroTimeout => some ("appliance.timeout_secs", "must be greater than zero")
  | _ => none

/-- What is wrong, for the user. -/
def message (e : SettingsError) : String :=
  match e.field?, e with
  | some (field, reason), _ => "invalid " ++ field ++ ": " ++ reason
  | none, noPassword username =>
    "username '" ++ username ++ "' is configured but no password was found"
  | none, unprintable => "failed to serialize config: out-of-range value for u64 type"
  | none, _ => "config loading failed"

end SettingsError

namespace Settings

/-- The address of the appliance, which has to be a web address. -/
def baseUrl (s : Settings) : Except SettingsError Web.Url :=
  match Web.Url.parse? s.appliance.url with
  | .error e => .error (.invalidUrl e s.appliance.url)
  | .ok url =>
    if url.scheme = "http" || url.scheme = "https" then .ok url
    else .error (.unsupportedScheme url.scheme)

/-- Refuses settings that the program cannot run with. -/
def validate (s : Settings) : Except SettingsError Unit := do
  let _ ← s.baseUrl
  if s.display.refreshSeconds = 0 then throw .zeroRefresh
  if !(s.display.speed.isFinite && 0.0 < s.display.speed) then
    throw (.speedNotPositive s.display.speed)
  if s.appliance.timeoutSeconds = 0 then throw .zeroTimeout

/-- How requests are made. -/
def transport (s : Settings) : Transport :=
  { timeoutSeconds := s.appliance.timeoutSeconds
    acceptInvalidCertificates := s.appliance.insecure }

/-- What the picture is started with. -/
def engineOptions (s : Settings) : EngineOptions Float :=
  { refreshMillis := 1000 * s.display.refreshSeconds.toNat
    speed := s.display.speed
    iconDir := s.display.iconDir
    identityLookup := s.display.identityLookup }

/-- The password: from the environment variable that is named for it, if that is set, and else the
one in plain text. -/
def password (s : Settings) (environment : List (String × String)) : Option String :=
  (s.appliance.passwordVariable.bind fun name => environment.lookup name).or s.appliance.password

/-- The name and the password to log in with, if there is a name. -/
def credentials (s : Settings) (environment : List (String × String)) :
    Except SettingsError (Option (String × String)) :=
  match s.appliance.username with
  | none => .ok none
  | some username =>
    match s.password environment with
    | some password => .ok (some (username, password))
    | none => .error (.noPassword username)

end Settings

end TrafficMap
