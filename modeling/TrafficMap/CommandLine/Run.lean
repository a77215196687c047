import TrafficMap.Appliance.Client
import TrafficMap.CommandLine.Flags
import TrafficMap.Settings.Load
import TrafficMap.Settings.Shown

/-!
# Running a command

`run` turns the arguments of the command line, the files and the environment into a `Plan`: to
print something and end, to fail, or to start the picture. `Plan.ending` says how a plan ends with a
given server for the appliance when there is no terminal to draw on.
-/

namespace TrafficMap.CommandLine

/-- What is found at a path. -/
inductive FileState where
  | missing
  | directory
  /-- A file that holds no text. -/
  | unreadable
  | text (content : String)
  deriving DecidableEq, Repr

/-- Where a command runs. -/
structure Surroundings where
  /-- What is found at a path. -/
  files : String → FileState
  environment : List (String × String)

/-- Why a command fails. -/
inductive CommandError where
  | missingFile (path : String)
  | settings (e : SettingsError)
  | loginFailed
  | noTerminal

/-- Why a command fails, for the user. -/
def CommandError.message : CommandError → String
  | missingFile path => "config file not found: " ++ path
  | settings e => e.message
  | loginFailed => "login to the appliance failed"
  | noTerminal => "no terminal to draw on"

/-! ## Settings -/

/-- The path of the user's own settings. -/
def userPath (environment : List (String × String)) : String :=
  let home := (environment.lookup "HOME").getD "." ++ "/.config"
  let base := match environment.lookup "XDG_CONFIG_HOME" with
    | some folder => if folder.toList.head? = some '/' then folder else home
    | none => home
  base ++ "/flowscope/config.toml"

/-- The path of the file that settings are read from. -/
def Flags.settingsPath (flags : Flags) (environment : List (String × String)) : String :=
  flags.config.getD (userPath environment)

/-- Loads the settings of a file; what is no file sets nothing. -/
def loadFile (state : FileState) (environment : List (String × String)) :
    Except SettingsError Settings :=
  match state with
  | .text content => Settings.load (some content) environment
  | .unreadable => .error .unreadable
  | _ => Settings.load none environment

/-- Loads the settings that a command runs with, checks them, lays the flags on them, and checks
them again. A file that is named has to be there. -/
def loadSettings (w : Surroundings) (flags : Flags) : Except CommandError Settings :=
  let path := flags.settingsPath w.environment
  let state := w.files path
  if flags.config.isSome && state = .missing then .error (.missingFile path)
  else
    match loadFile state w.environment with
    | .error e => .error (.settings e)
    | .ok s =>
      let s := flags.apply s
      match s.validate with
      | .error e => .error (.settings e)
      | .ok () => .ok s

/-! ## Plans -/

/-- What a command does. -/
inductive Plan where
  | print (text : String)
  /-- The arguments are wrong. -/
  | usage
  | fail (e : CommandError)
  /-- Log in, if there is a login, and show the picture. -/
  | start (s : Settings) (base : Web.Url) (credentials : Option (String × String))

/-- The name and the version of the program. -/
def versionText : String := "flowscope 0.1.0\n"

/-- The lines that explain the flags. -/
def helpText : String := "\n".intercalate
  ["Live traffic topology for a dispatch proxy appliance",
    "",
    "Usage: flowscope [OPTIONS]",
    "",
    "Options:",
    "  -u, --url <URL>                    Appliance web UI URL (e.g., http://192.168.1.1:8090)",
    "  -c, --config <CONFIG>              Config file (defaults to the platform config directory)",
    "      --refresh-secs <REFRESH_SECS>  Seconds between data refreshes",
    "      --speed <SPEED>                Initial animation speed multiplier (0.25 to 4)",
    "      --icons <ICONS>                Directory of device icons (`<kind>.txt`)",
    "      --no-lookup                    Do not ask the appliance to name client devices",
    "      --print-config                 Print the effective configuration and exit",
    "      --log-file <LOG_FILE>          Log file path [default: /tmp/flowscope.log]",
    "  -v, --verbose...                   Increase log verbosity (-v info, -vv debug, -vvv trace)",
    "  -h, --help                         Print help",
    "  -V, --version                      Print version",
    ""]

/-- What is done with settings that were loaded. -/
def planWith (environment : List (String × String)) (flags : Flags) (s : Settings) : Plan :=
  if flags.printConfig then
    match s.shown with
    | .ok text => .print text
    | .error e => .fail (.settings e)
  else
    match s.baseUrl, s.credentials environment with
    | .error e, _ => .fail (.settings e)
    | .ok _, .error e => .fail (.settings e)
    | .ok base, .ok credentials => .start s base credentials

/-- What a command with some arguments does. -/
def run (w : Surroundings) (arguments : List String) : Plan :=
  match Flags.read arguments with
  | .error .usage => .usage
  | .error .help => .print helpText
  | .error .version => .print versionText
  | .ok flags =>
    match loadSettings w flags with
    | .error e => .fail e
    | .ok s => planWith w.environment flags s

/-! ## Endings -/

/-- How a command ends. -/
structure Ending where
  /-- Zero for success. -/
  status : UInt32
  /-- What is printed. -/
  printed : String
  /-- What is reported when the command fails. -/
  report : Option String
  deriving DecidableEq, Repr

/-- The ending of a command that fails. -/
def Ending.ofError (e : CommandError) : Ending :=
  { status := 1, printed := "", report := some e.message }

/-- How a plan ends with a server for the appliance when there is no terminal. -/
def Plan.ending {σ : Type} (server : Web.Server σ) (session : Web.Session σ) : Plan → Ending
  | .print text => { status := 0, printed := text, report := none }
  | .usage => { status := 2, printed := "", report := none }
  | .fail e => .ofError e
  | .start _ _ none => .ofError .noTerminal
  | .start _ base (some (username, password)) =>
    let client : Client := { base }
    match (client.login server session username password).2 with
    | .error _ => .ofError .loginFailed
    | .ok () => .ofError .noTerminal

end TrafficMap.CommandLine
