import TrafficMap.Settings.Basic

/-!
# Flags

The flags of the command line. `Flags.read` takes the arguments from left to right and stops at the
first one that is wrong or that asks for the help or the version. A parameter takes its value from
its own argument or from the next one, which must not look like a flag; it may be given once.
`Flags.apply` lays the flags on settings.
-/

namespace TrafficMap.CommandLine

/-- What the arguments ask for. -/
structure Flags where
  url : Option String := none
  /-- The file that settings are read from. -/
  config : Option String := none
  refreshSeconds : Option UInt64 := none
  speed : Option Float := none
  iconDir : Option String := none
  noLookup : Bool := false
  /-- Print the settings and do nothing else. -/
  printConfig : Bool := false
  logFile : Option String := none
  verbosity : Nat := 0

/-- The flags that take a value. -/
inductive Parameter where
  | url
  | config
  | refreshSeconds
  | speed
  | iconDir
  | logFile
  deriving DecidableEq, Repr

/-- The flags that take no value. -/
inductive Switch where
  | noLookup
  | printConfig
  | verbose
  | help
  | version
  deriving DecidableEq, Repr

/-- A flag that has a name. -/
inductive Flag where
  | parameter (p : Parameter)
  | switch (s : Switch)
  deriving DecidableEq, Repr

/-- The names that follow two dashes. -/
def longNames : List (String × Flag) :=
  [("url", .parameter .url), ("config", .parameter .config),
    ("refresh-secs", .parameter .refreshSeconds), ("speed", .parameter .speed),
    ("icons", .parameter .iconDir), ("no-lookup", .switch .noLookup),
    ("print-config", .switch .printConfig), ("log-file", .parameter .logFile),
    ("verbose", .switch .verbose), ("help", .switch .help), ("version", .switch .version)]

/-- The letters that follow one dash. -/
def shortNames : List (Char × Flag) :=
  [('u', .parameter .url), ('c', .parameter .config), ('v', .switch .verbose), ('h', .switch .help),
    ('V', .switch .version)]

/-- Why the arguments give no flags. -/
inductive Interruption where
  /-- They are wrong. -/
  | usage
  | help
  | version
  deriving DecidableEq, Repr

/-! ## Values -/

/-- Reads a whole number of 64 bits. -/
def whole? (text : String) : Option UInt64 :=
  let digits := match text.toList with
    | '+' :: r => r
    | r => r
  let n := Decimal.ofDigits digits
  if !digits.isEmpty && digits.all Char.isDigit && n < Nat.pow 2 64 then some (UInt64.ofNat n)
  else none

/-- Reads a float, which may be infinite or none. -/
def float? (text : String) : Option Float :=
  let (negative, word) := match text.toList.map Char.toLower with
    | '-' :: r => (true, r)
    | '+' :: r => (false, r)
    | r => (false, r)
  if word = ['i', 'n', 'f'] || word = ['i', 'n', 'f', 'i', 'n', 'i', 't', 'y'] then
    some (if negative then -1.0 / 0.0 else 1.0 / 0.0)
  else if word = ['n', 'a', 'n'] then some (0.0 / 0.0)
  else (Decimal.read? text.toList).map fun w => w.value

/-- The path that a text names; the empty text names none. -/
def path? (text : String) : Option String :=
  if text.isEmpty then none else some text

/-- Fills a place that is still empty with a value that could be read. -/
def fill {α : Type} (place value : Option α) : Except Interruption (Option α) :=
  match place, value with
  | none, some a => .ok (some a)
  | _, _ => .error .usage

namespace Flags

/-- Gives a parameter its value. -/
def set (p : Parameter) (text : String) (flags : Flags) : Except Interruption Flags :=
  match p with
  | .url => (fill flags.url (some text)).map fun v => { flags with url := v }
  | .config => (fill flags.config (path? text)).map fun v => { flags with config := v }
  | .refreshSeconds =>
    (fill flags.refreshSeconds (whole? text)).map fun v => { flags with refreshSeconds := v }
  | .speed => (fill flags.speed (float? text)).map fun v => { flags with speed := v }
  | .iconDir => (fill flags.iconDir (path? text)).map fun v => { flags with iconDir := v }
  | .logFile => (fill flags.logFile (path? text)).map fun v => { flags with logFile := v }

/-- Turns a switch on. Only the verbosity may be asked for more than once. -/
def turnOn (s : Switch) (flags : Flags) : Except Interruption Flags :=
  match s with
  | .noLookup => if flags.noLookup then .error .usage else .ok { flags with noLookup := true }
  | .printConfig =>
    if flags.printConfig then .error .usage else .ok { flags with printConfig := true }
  | .verbose => .ok { flags with verbosity := flags.verbosity + 1 }
  | .help => .error .help
  | .version => .error .version

/-! ## Arguments -/

/-- Reads an argument from behind its two dashes, and gives the parameter that waits for a value. -/
def readLong (cs : List Char) (flags : Flags) : Except Interruption (Option Parameter × Flags) :=
  let name := String.ofList (cs.takeWhile (· ≠ '='))
  let value := (cs.dropWhile (· ≠ '=')).tail?
  match longNames.lookup name, value with
  | some (.parameter p), some text => (flags.set p (String.ofList text)).map fun f => (none, f)
  | some (.parameter p), none => .ok (some p, flags)
  | some (.switch s), none => (flags.turnOn s).map fun f => (none, f)
  | _, _ => .error .usage

/-- Reads an argument from behind its one dash: switches one after another, then at most one
parameter, whose value is the rest of the argument if there is any. -/
def readShort : List Char → Flags → Except Interruption (Option Parameter × Flags)
  | [], flags => .ok (none, flags)
  | c :: cs, flags =>
    match shortNames.lookup c with
    | some (.switch s) => (flags.turnOn s).bind (readShort cs)
    | some (.parameter p) =>
      match cs with
      | [] => .ok (some p, flags)
      | '=' :: text => (flags.set p (String.ofList text)).map fun f => (none, f)
      | text => (flags.set p (String.ofList text)).map fun f => (none, f)
    | none => .error .usage

/-- Reads the arguments, of which the first may be the value that a parameter waits for. -/
def readFrom (waiting : Option Parameter) (flags : Flags) :
    List String → Except Interruption Flags
  | [] => if waiting.isSome then .error .usage else .ok flags
  | argument :: rest =>
    match waiting, argument.toList with
    | none, ['-', '-'] => if rest.isEmpty then .ok flags else .error .usage
    | none, '-' :: '-' :: cs =>
      (flags.readLong cs).bind fun (waiting, flags) => readFrom waiting flags rest
    | none, '-' :: c :: cs =>
      (flags.readShort (c :: cs)).bind fun (waiting, flags) => readFrom waiting flags rest
    | none, _ => .error .usage
    | some _, '-' :: _ :: _ => .error .usage
    | some p, _ => (flags.set p argument).bind fun flags => readFrom none flags rest

/-- Reads the arguments of the command line. -/
def read (arguments : List String) : Except Interruption Flags :=
  readFrom none {} arguments

/-- Lays the flags on settings: what is given replaces what was set. -/
def apply (flags : Flags) (s : Settings) : Settings :=
  { appliance := { s.appliance with url := flags.url.getD s.appliance.url }
    display :=
      { refreshSeconds := flags.refreshSeconds.getD s.display.refreshSeconds
        speed := flags.speed.getD s.display.speed
        iconDir := flags.iconDir.or s.display.iconDir
        identityLookup := s.display.identityLookup && !flags.noLookup } }

end Flags

end TrafficMap.CommandLine
