import TrafficMap.Topology.Basic
import TrafficMap.Traffic.Label

/-!
# Loads of connections

The load of a connection is read off the labels of the device that it leads to, and compared with
the busiest connection of the same topology.
-/

namespace TrafficMap

variable {α : Type} [Scalar α]

/-- How a throughput compares to the largest one, from 0 to 1; the largest one counts as at least
one Kbps, and what is not finite counts as idle. -/
def usageRatio (current busiest : α) : α :=
  let ratio := current / Scalar.max busiest 1.0
  if Scalar.isFinite ratio then Scalar.clamp ratio 0.0 1.0 else 0.0

/-- A connection to be weighed: the positions of its ends, and whether it is enabled. -/
structure Link where
  source : Nat
  target : Nat
  enabled : Bool
  deriving DecidableEq, Repr

/-- The throughput of a device in both directions together, read off its labels. -/
def Device.throughput (d : Device α) : α :=
  Label.kbps d.download + Label.kbps d.upload

/-- The throughput of the device at a position. -/
def Link.throughput (devices : List (Device α)) (link : Link) : α :=
  match devices[link.target]? with
  | some d => d.throughput
  | none => 0.0

/-- The connections with their loads. -/
def weighLinks (devices : List (Device α)) (links : List Link) : List (Connection α) :=
  let busiest := (links.map (Link.throughput devices)).foldl Scalar.max 0.0
  links.map fun link =>
    let current := link.throughput devices
    { source := link.source, target := link.target, enabled := link.enabled
      load := { current, busiest, ratio := usageRatio current busiest } }

end TrafficMap
