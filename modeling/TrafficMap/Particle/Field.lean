import TrafficMap.Particle.Generator
import TrafficMap.Particle.Profile

/-!
# Particles

Every enabled connection carries a fixed number of particles that run from its source to its target
and start again with a new speed. `ParticleField.populate` fills the connections of a topology,
`ParticleField.advance` moves the particles on.
-/

namespace TrafficMap

/-- A mark that rides along a connection. -/
structure Particle (α : Type) where
  /-- The position of its connection in the topology. -/
  connection : Nat
  /-- How far along the route it is, from 0 to 1 without 1. -/
  progress : α
  /-- Its distance from the route, to either side. -/
  lateral : α
  /-- Its progress in one frame. -/
  speed : α
  size : α
  opacity : α
  /-- The band that a new speed is drawn from. -/
  baseSpeed : α
  jitter : α

/-- The particles of a topology, with the generator that their random parts come from. -/
structure ParticleField (α : Type) where
  particles : List (Particle α) := []
  generator : Generator

namespace ParticleField

variable {α : Type} [Scalar α]

/-- The largest distance of a particle from its route. -/
def lateralSpread : α := 2.0

/-- The nanoseconds of the frame that speeds refer to. -/
def frameNanos : Nat := 16666667

/-- A number of nanoseconds in seconds. -/
def seconds (nanos : Nat) : α :=
  Scalar.ofNat (nanos / 1000000000) + Scalar.ofNat (nanos % 1000000000) / 1000000000.0

/-- The field without particles whose random parts come from a seed. -/
def ofSeed (seed : UInt64) : ParticleField α :=
  { generator := Generator.ofSeed seed }

/-- Draws a speed from a band. -/
def drawSpeed (g : Generator) (base jitter : α) : α × Generator :=
  g.range base (base + Scalar.max jitter 0.0)

/-- Draws a particle of a connection. -/
def draw (connection : Nat) (profile : FlowProfile α) (g : Generator) : Particle α × Generator :=
  let (progress, g) := g.range 0.0 1.0
  let (lateral, g) := g.range (-lateralSpread) lateralSpread
  let (speed, g) := drawSpeed g profile.baseSpeed profile.jitter
  ({ connection, progress, lateral, speed, size := profile.size, opacity := profile.opacity
     baseSpeed := profile.baseSpeed, jitter := profile.jitter }, g)

/-- Draws a number of particles of a connection. -/
def drawMany (connection : Nat) (profile : FlowProfile α) :
    Nat → Generator → List (Particle α) × Generator
  | 0, g => ([], g)
  | n + 1, g =>
    let (p, g) := draw connection profile g
    let (ps, g) := drawMany connection profile n g
    (p :: ps, g)

/-- Draws the particles of connections numbered from `index` on; a disabled one has none. -/
def drawAll (index : Nat) : List (Connection α) → Generator → List (Particle α) × Generator
  | [], g => ([], g)
  | c :: cs, g =>
    let profile := FlowProfile.ofLoad c.load
    let (ps, g) := drawMany index profile (if c.enabled then profile.count else 0) g
    let (qs, g) := drawAll (index + 1) cs g
    (ps ++ qs, g)

/-- Replaces all particles by new ones for a topology. -/
def populate (field : ParticleField α) (topology : Topology α) : ParticleField α :=
  let (particles, generator) := drawAll 0 topology.connections field.generator
  { particles, generator }

/-- Moves a particle on; one that reaches the end starts again with a new speed. -/
def moveOne (step : α) (p : Particle α) (g : Generator) : Particle α × Generator :=
  let progress := p.progress + p.speed * step
  if progress ≥ 1.0 || !Scalar.isFinite progress then
    let (speed, g) := drawSpeed g p.baseSpeed p.jitter
    ({ p with progress := 0.0, speed }, g)
  else ({ p with progress }, g)

/-- Moves particles on in order. -/
def moveAll (step : α) : List (Particle α) → Generator → List (Particle α) × Generator
  | [], g => ([], g)
  | p :: ps, g =>
    let (p, g) := moveOne step p g
    let (ps, g) := moveAll step ps g
    (p :: ps, g)

/-- The number of frames that a particle moves in a time at a speed. -/
def stepOf (nanos : Nat) (multiplier : α) : α :=
  seconds nanos / seconds frameNanos * Scalar.max multiplier 0.0

/-- Moves all particles on by a time, unless the step is not finite and positive. -/
def advance (field : ParticleField α) (nanos : Nat) (multiplier : α) : ParticleField α :=
  let step := stepOf nanos multiplier
  if Scalar.isFinite step && decide (step > 0.0) then
    let (particles, generator) := moveAll step field.particles field.generator
    { particles, generator }
  else field

/-- Removes all particles. -/
def clear (field : ParticleField α) : ParticleField α :=
  { field with particles := [] }

end ParticleField

end TrafficMap
