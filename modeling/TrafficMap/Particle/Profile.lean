import TrafficMap.Topology.Load

/-!
# How load shows in particles

The particles of a busy connection are more, faster, larger and brighter than those of an idle one.
-/

namespace TrafficMap

/-- What all particles of a connection have in common. -/
structure FlowProfile (α : Type) where
  count : Nat
  /-- The least progress in one frame. -/
  baseSpeed : α
  /-- The width of the band above the least progress. -/
  jitter : α
  size : α
  opacity : α

namespace FlowProfile

variable {α : Type} [Scalar α]

/-- The width of the band of speeds. -/
def speedJitter : α := 0.002

/-- A ratio moved into the range from 0 to 1; what is not finite counts as 0. -/
def unitRatio (ratio : α) : α :=
  if Scalar.isFinite ratio then Scalar.clamp ratio 0.0 1.0 else 0.0

/-- How many particles a connection has: two when idle, six when busiest. -/
def particleCount (ratio : α) : Nat :=
  Max.max (Scalar.toNat64 (Scalar.round (2.0 + unitRatio ratio * 4.0))) 1

/-- The profile of a connection with a usage ratio. -/
def ofRatio (ratio : α) : FlowProfile α :=
  let r := usageRatio ratio 1.0
  { count := particleCount r
    baseSpeed := 0.003 + 0.007 * r
    jitter := speedJitter
    size := 2.0 + 1.5 * r
    opacity := 0.5 + 0.5 * r }

/-- The profile of a connection with a load. -/
def ofLoad (load : LinkLoad α) : FlowProfile α :=
  ofRatio load.ratio

end FlowProfile

end TrafficMap
