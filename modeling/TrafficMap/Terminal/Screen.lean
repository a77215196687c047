import TrafficMap.Terminal.Area
import TrafficMap.Terminal.Canvas
import TrafficMap.Terminal.Details
import TrafficMap.Terminal.Frame
import TrafficMap.Terminal.StatusLine

/-!
# The screen

The screen shows the engine's picture, the details of the selected device and the status line, and
turns keys into actions. The selection is kept by the key of the device, so it survives a refresh
that keeps the device.
-/

namespace TrafficMap.Terminal

/-- A key. -/
inductive Key where
  | char (c : Char)
  | tab
  | backTab
  | escape
  | enter
  | up
  deriving DecidableEq, Repr

/-- The keys that are held down with another one. -/
structure Modifiers where
  shift : Bool := false
  control : Bool := false
  alt : Bool := false
  deriving DecidableEq, Repr

/-- What can happen to the screen. -/
inductive Action where
  | refreshNow
  | togglePause
  | speedUp
  | speedDown
  | selectNext
  | selectPrevious
  | clearSelection
  | refreshed (outcome : Outcome)
  | iconLoaded (kind : DeviceKind) (result : Except Failure Icon)

/-- The action that a key stands for. Tab counts only by itself. -/
def Action.ofKey? (key : Key) (modifiers : Modifiers) : Option Action :=
  match key with
  | .char 'r' => some .refreshNow
  | .char 'p' => some .togglePause
  | .char '+' => some .speedUp
  | .char '=' => some .speedUp
  | .char '-' => some .speedDown
  | .tab => if modifiers = {} then some .selectNext else none
  | .backTab => some .selectPrevious
  | .escape => some .clearSelection
  | _ => none

/-- The state of the screen. -/
structure Screen where
  engine : Engine Float
  /-- The key of the selected device. -/
  selected : Option String := none
  /-- Whether refreshing is paused. -/
  paused : Bool := false
  /-- The time between refreshes, in milliseconds. -/
  refreshMillis : Nat

namespace Screen

/-- The factor between two speeds of the animation. -/
def speedStep : Float := 2.0

/-- The colour of the frame around the selected device. -/
def selectionColor : Color Float := .rgb 0x38 0xbd 0xf8

/-- The selected device, if the picture has it. -/
def selectedDevice (s : Screen) : Option (Device Float) :=
  s.selected.bind s.engine.topology.device?

/-- The place after a place in a list of `n`, cyclically; the first one after none. -/
def nextIndex (n : Nat) : Option Nat → Nat
  | none => 0
  | some i => (i + 1) % n

/-- The place before a place in a list of `n`, cyclically; the last one before none. -/
def previousIndex (n : Nat) : Option Nat → Nat
  | none => n - 1
  | some i => (i + n - 1) % n

/-- Moves the selection along the list of devices; without devices nothing is selected. -/
def moveSelection (move : Nat → Option Nat → Nat) (s : Screen) : Screen :=
  let devices := s.engine.topology.devices
  if devices.isEmpty then { s with selected := none }
  else
    let current := s.selected.bind s.engine.topology.index?
    { s with selected := (devices[move devices.length current]?).map (·.id) }

/-- Multiplies the speed of the animation. -/
def changeSpeed (factor : Float) (s : Screen) : Screen :=
  { s with engine := s.engine.setSpeed (s.engine.speed * factor) }

/-- Applies a refresh outcome at a time; a rebuilt picture without the selected device ends the
selection. -/
def applyOutcome (now : Nat) (outcome : Outcome) (s : Screen) : Screen :=
  let (applied, engine) := s.engine.apply now outcome
  let s := { s with engine }
  if applied = .rebuilt && s.selectedDevice.isNone then { s with selected := none } else s

/-- Carries an action out at a time. -/
def update (now : Nat) (s : Screen) : Action → Screen
  | .speedUp => s.changeSpeed speedStep
  | .speedDown => s.changeSpeed (1.0 / speedStep)
  | .selectNext => s.moveSelection nextIndex
  | .selectPrevious => s.moveSelection previousIndex
  | .clearSelection => { s with selected := none }
  | .refreshed outcome => s.applyOutcome now outcome
  | .iconLoaded kind result => { s with engine := s.engine.applyIcon kind result }
  | .refreshNow => s
  | .togglePause => s

/-- Lays the picture out for the canvas of a screen of some size. -/
def fit (area : Area) (s : Screen) : Screen :=
  let region := (Regions.ofArea area).canvas
  let canvas : Canvas Float := .blank region.width region.height
  { s with engine := (s.engine.resize canvas.width canvas.height).2 }

/-- Moves the particles on by a time in nanoseconds. -/
def tick (nanos : Nat) (s : Screen) : Screen :=
  { s with engine := s.engine.advance nanos }

/-! ## Drawing -/

/-- The calls that draw the picture and mark the selected device. -/
def calls (s : Screen) : List (DrawCall Float) :=
  s.engine.render ++
    match s.selectedDevice with
    | some d => Scene.highlight d selectionColor
    | none => []

/-- What to try when the picture cannot be loaded. -/
def advice : Failure → String
  | .authenticationFailed _ => "Check appliance.username and the password in the config file."
  | .unreachable _ => "Is the appliance web UI running and reachable at the configured URL?"
  | .timeout => "Is the appliance web UI running and reachable at the configured URL?"
  | .status _ _ => "The appliance answered, but not with data this dashboard understands."
  | .malformedResponse _ => "The appliance answered, but not with data this dashboard understands."
  | .configuration _ => "Fix the configuration and restart."
  | .icon _ _ => ""

/-- When the picture is loaded again. -/
def retryText (s : Screen) : String :=
  if s.paused then "auto-refresh paused"
  else "retrying every " ++ toString (s.refreshMillis / 1000) ++ "s"

/-- The lines that explain a failure. -/
def failureLines (s : Screen) (error : Failure) : List Line :=
  [[],
    [{ text := error.message, style := .value }],
    [],
    [{ text := advice error, style := .dim }],
    [],
    [{ text := s.retryText, style := .dim }],
    [{ text := "r", style := .title }, { text := " retry now  ", style := .dim },
      { text := "q", style := .title }, { text := " quit", style := .dim }]]

/-- The line in the middle of a canvas without a picture. -/
def waitingLine : Line :=
  [{ text := "waiting for the first snapshot…", style := .dim }]

/-- Draws the body of the screen: the failure if there never was a picture, else the canvas. Its
cells, which hold dots and labels, are all shown as one dot. -/
def drawBody (s : Screen) (regions : Regions) (f : Frame) : Frame :=
  let f := f.box regions.body " Topology "
  match s.engine.errorView with
  | some error =>
    let popup := regions.canvas.centered 72 11
    let f := (f.fill popup " ").box popup " Cannot load topology "
    f.wrapped popup.inner (s.failureLines error)
  | none =>
    if s.engine.topology.isEmpty then
      f.lines (regions.canvas.centered regions.canvas.width 1) true [waitingLine]
    else f.fill regions.canvas "·"

/-- The lines of the details. -/
def detailLines (s : Screen) : List Line :=
  match s.selectedDevice with
  | some d => Details.lines d
  | none => Details.placeholder

/-- Draws the details. -/
def drawDetails (s : Screen) (area : Area) (f : Frame) : Frame :=
  (f.box area " Details ").lines area.inner false s.detailLines

/-- The text of a screen of some size at a time. -/
def frame (s : Screen) (now width height : Nat) : Frame :=
  let regions := Regions.ofArea (.ofParts 0 0 width height)
  let f := (Frame.blank width height).lines regions.header false
    [headerLine s.engine.topology.summary]
  let f := s.drawBody regions f
  let f := match regions.details with
    | some area => s.drawDetails area f
    | none => f
  f.lines regions.status false
    [statusLine now s.engine.status s.paused s.refreshMillis s.engine.speed]

end Screen

end TrafficMap.Terminal
