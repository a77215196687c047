import TrafficMap.Device.Kind
import TrafficMap.Geometry.Path

/-!
# The topology

The devices of the network and the connections between them, as one refresh found them. The ends
of a connection are positions in the list of devices.
-/

namespace TrafficMap

/-- What the details panel shows of a device beyond its labels. -/
structure DeviceFacts where
  connections : UInt64 := 0
  activeConnections : UInt64 := 0
  /-- The percentage of successful dispatches of a load balancer. -/
  successRate : Option Float := none
  interface : Option String := none
  contentionRatio : Option UInt32 := none
  /-- The address of the load balancer that a client is bound to. -/
  assignedBalancer : Option String := none
  /-- The bytes received and sent since the appliance started. -/
  transferred : Option (UInt64 × UInt64) := none
  deriving Inhabited

/-- A device with its place in the picture. -/
structure Device (α : Type) where
  /-- A key that is unique in the topology. -/
  id : String
  kind : DeviceKind
  name : String
  subtitle : String
  /-- The label of the download rate. -/
  download : String
  /-- The label of the upload rate. -/
  upload : String
  /-- The centre of the device. -/
  position : Point α
  layer : Layer
  /-- The side of the square that the device covers. -/
  size : α
  enabled : Bool
  facts : DeviceFacts

/-- The load of a connection. -/
structure LinkLoad (α : Type) where
  /-- The throughput in both directions together, in Kbps. -/
  current : α
  /-- The throughput of the busiest connection, in Kbps. -/
  busiest : α
  /-- How the current throughput compares to the busiest one, from 0 to 1. -/
  ratio : α

/-- A connection between two devices, given by their positions in the list of devices. -/
structure Connection (α : Type) where
  source : Nat
  target : Nat
  enabled : Bool
  load : LinkLoad α

/-- Figures of the whole appliance. -/
structure TopologySummary where
  /-- The bytes per second in both directions together. -/
  totalBytesPerSecond : UInt64 := 0
  activeConnections : UInt64 := 0
  balancers : Nat := 0
  clients : Nat := 0
  deriving DecidableEq, Inhabited

/-- The devices, the connections between them and the figures of one refresh. -/
structure Topology (α : Type) where
  devices : List (Device α) := []
  connections : List (Connection α) := []
  summary : TopologySummary := {}

namespace Topology

variable {α : Type}

/-- Whether there is nothing to show. -/
def isEmpty (t : Topology α) : Bool :=
  t.devices.isEmpty

/-- The two devices that a connection joins. -/
def endpoints (t : Topology α) (c : Connection α) : Option (Device α × Device α) := do
  pure (← t.devices[c.source]?, ← t.devices[c.target]?)

theorem endpoints_eq_some_iff {t : Topology α} {c : Connection α} {a b : Device α} :
    t.endpoints c = some (a, b) ↔
      t.devices[c.source]? = some a ∧ t.devices[c.target]? = some b := by
  unfold endpoints
  cases t.devices[c.source]? <;> cases t.devices[c.target]? <;> simp

/-- The device with a key. -/
def device? (t : Topology α) (id : String) : Option (Device α) :=
  t.devices.find? fun d => d.id = id

/-- The place of the device with a key in the list of devices. -/
def index? (t : Topology α) (id : String) : Option Nat :=
  t.devices.findIdx? fun d => d.id = id

/-- The route of a connection. -/
def route? [Scalar α] (t : Topology α) (c : Connection α) : Option (Path α) :=
  (t.endpoints c).map fun (a, b) => Path.route a.position b.position

end Topology

end TrafficMap
