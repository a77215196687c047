/-!
# What the appliance reports

The values that the appliance's status pages carry. Every field has a default, because the
appliance leaves fields out; `ListenSettings` also says what an absent or empty field stands for.
-/

namespace TrafficMap

/-- One configured load balancer, an outbound uplink. -/
structure BalancerConfig where
  id : Option UInt32 := none
  address : String := ""
  interface : String := ""
  contentionRatio : UInt32 := 0
  enabled : Bool := false
  deriving DecidableEq, Inhabited

/-- Where the appliance accepts clients. -/
structure ListenSettings where
  host? : Option String := none
  port? : Option UInt16 := none
  deriving DecidableEq, Inhabited

namespace ListenSettings

/-- The listening host; an absent or empty one is the loopback address. -/
def host (s : ListenSettings) : String :=
  match s.host? with
  | some h => if h.isEmpty then "127.0.0.1" else h
  | none => "127.0.0.1"

/-- The listening port; an absent one or zero is 8080. -/
def port (s : ListenSettings) : UInt16 :=
  match s.port? with
  | some p => if p = 0 then 8080 else p
  | none => 8080

/-- Host and port. -/
def address (s : ListenSettings) : String :=
  s.host ++ ":" ++ toString s.port.toNat

end ListenSettings

/-- The configuration of the appliance. -/
structure Configuration where
  balancers : List BalancerConfig := []
  settings : ListenSettings := {}
  deriving DecidableEq, Inhabited

/-- Traffic counters of the whole appliance. -/
structure TrafficTotals where
  bytesInPerSecond : UInt64 := 0
  bytesOutPerSecond : UInt64 := 0
  activeConnections : UInt64 := 0
  totalBytesIn : UInt64 := 0
  totalBytesOut : UInt64 := 0
  deriving DecidableEq, Inhabited

/-- Counters of one load balancer. -/
structure BalancerStats where
  address : String := ""
  bytesInPerSecond : UInt64 := 0
  bytesOutPerSecond : UInt64 := 0
  totalConnections : UInt64 := 0
  successRate : Float := 0.0
  deriving Inhabited

/-- Counters of one client address with current traffic. -/
structure SourceStats where
  sourceIp : String := ""
  bytesInPerSecond : UInt64 := 0
  bytesOutPerSecond : UInt64 := 0
  totalConnections : UInt64 := 0
  activeConnections : UInt64 := 0
  assignedBalancer : String := ""
  deriving DecidableEq, Inhabited

/-- The traffic statistics of the appliance. -/
structure Statistics where
  traffic : TrafficTotals := {}
  balancers : List BalancerStats := []
  sources : List SourceStats := []
  deriving Inhabited

/-- The answer to a question for the name of an address. -/
structure HostnameAnswer where
  hostname : Option String := none
  deriving DecidableEq, Inhabited

/-- The answer to a question for the fingerprint of an address. -/
structure DeviceInfo where
  name : Option String := none
  deviceType : Option String := none
  userAgent : Option String := none
  vendor : Option String := none
  os : Option String := none
  deriving DecidableEq, Inhabited

end TrafficMap
