import TrafficMap.Refresh.Outcome
import TrafficMap.Scene.Render
import TrafficMap.Topology.Build

/-!
# The engine

The engine holds everything that a frame shows: the topology of the last snapshot, its particles
and the icons. Refresh outcomes are applied to it in the order of their generations; a failed one
leaves the picture as it was.
-/

namespace TrafficMap

/-- What became of a refresh outcome. -/
inductive Applied where
  /-- The topology was rebuilt from a new snapshot. -/
  | rebuilt
  /-- The refresh had failed, and the picture stays. -/
  | failed
  /-- The outcome was not newer than one that was applied before. -/
  | discarded
  deriving DecidableEq, Repr

/-- How fresh the picture is. Times are milliseconds on the clock of the program. -/
inductive LoadStatus where
  | loading
  | live (updated : Nat)
  | stale (updated : Nat) (error : Failure)
  | failed (error : Failure)
  deriving DecidableEq, Repr

/-- How the engine is set up. -/
structure EngineOptions (α : Type) where
  /-- The time between refreshes, in milliseconds. -/
  refreshMillis : Nat
  /-- The speed of the animation. -/
  speed : α
  /-- Where the icons are, if there are any. -/
  iconDir : Option String
  /-- Whether the appliance is asked for the names of clients. -/
  identityLookup : Bool

/-- A refresh every five seconds at normal speed, without icons. -/
def EngineOptions.standard {α : Type} [Scalar α] : EngineOptions α :=
  { refreshMillis := 5000, speed := 1.0, iconDir := none, identityLookup := true }

/-- The state of the picture. -/
structure Engine (α : Type) where
  layout : Layout α
  topology : Topology α := {}
  /-- How often the topology was replaced. -/
  revision : Nat := 0
  field : ParticleField α
  snapshot : Option Snapshot := none
  icons : IconSet
  iconDir : Option String
  speed : α
  /-- The generation of the last outcome that was applied. -/
  generation : UInt64 := 0
  lastSuccess : Option Nat := none
  lastError : Option Failure := none

namespace Engine

variable {α : Type} [Scalar α]

/-- The slowest animation. -/
def minSpeed : α := 0.25

/-- The fastest animation. -/
def maxSpeed : α := 4.0

/-- A multiplier moved into the supported range; one that is not finite counts as 1. -/
def clampSpeed (speed : α) : α :=
  if Scalar.isFinite speed then Scalar.clamp speed minSpeed maxSpeed else 1.0

/-- The engine for a surface, before the first refresh. -/
def start (width height : α) (speed : α) (iconDir : Option String) (field : ParticleField α) :
    Engine α :=
  { layout := .ofSize width height
    field
    icons := if iconDir.isSome then {} else .disabled
    iconDir
    speed := clampSpeed speed }

/-- Builds the topology again from the snapshot, if there is one. -/
def rebuild (e : Engine α) : Engine α :=
  match e.snapshot with
  | none => e
  | some s =>
    let topology := Topology.build s.config s.stats s.identities e.layout
    { e with topology, revision := e.revision + 1, field := e.field.populate topology }

/-- Exchanges the particles, which fill the topology anew. -/
def withParticles (e : Engine α) (field : ParticleField α) : Engine α :=
  { e with field := field.populate e.topology }

/-- Applies a refresh outcome at a time. -/
def apply (e : Engine α) (now : Nat) (outcome : Outcome) : Applied × Engine α :=
  if outcome.generation ≤ e.generation then (.discarded, e)
  else
    let e := { e with generation := outcome.generation }
    match outcome.result with
    | .ok snapshot =>
      let e := rebuild { e with snapshot := some snapshot }
      (.rebuilt, { e with lastSuccess := some now, lastError := none })
    | .error error => (.failed, { e with lastError := some error })

/-- The largest generation. -/
def lastGeneration : UInt64 :=
  .ofNat (Nat.pow 2 64 - 1)

/-- Drops the picture and accepts no outcome any more. -/
def teardown (e : Engine α) : Engine α :=
  { e with
    generation := lastGeneration
    snapshot := none
    topology := {}
    revision := e.revision + 1
    field := e.field.clear }

/-- Lays the picture out for a surface of another size; tells whether the size is another one. -/
def resize (e : Engine α) (width height : α) : Bool × Engine α :=
  let layout := Layout.ofSize width height
  if layout.same e.layout then (false, e) else (true, rebuild { e with layout })

/-- Moves the particles on by a time in nanoseconds. -/
def advance (e : Engine α) (nanos : Nat) : Engine α :=
  { e with field := e.field.advance nanos e.speed }

/-- The calls that draw a frame. -/
def render (e : Engine α) : List (DrawCall α) :=
  Scene.render e.topology e.field.particles e.icons

/-- Records the result of loading the icon of a kind. -/
def applyIcon (e : Engine α) (kind : DeviceKind) (result : Except Failure Icon) : Engine α :=
  { e with icons := e.icons.apply kind result }

/-- Sets the animation speed. -/
def setSpeed (e : Engine α) (speed : α) : Engine α :=
  { e with speed := clampSpeed speed }

/-- The failure to show instead of a picture: only while nothing was ever loaded. -/
def errorView (e : Engine α) : Option Failure :=
  if e.lastSuccess.isSome then none else e.lastError

/-- How fresh the picture is. -/
def status (e : Engine α) : LoadStatus :=
  match e.lastSuccess, e.lastError with
  | none, none => .loading
  | none, some error => .failed error
  | some updated, none => .live updated
  | some updated, some error => .stale updated error

end Engine

end TrafficMap
