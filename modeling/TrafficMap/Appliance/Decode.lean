import TrafficMap.Appliance.Report
import TrafficMap.Json.Phrase

/-!
# Reading what the appliance reports

The appliance leaves fields out and sends values of the wrong type, so every field is decoded on
its own and takes its default when that fails, and a list keeps the items that can be decoded. A
record is read from an object, or from an array that lists its fields in order.
-/

namespace TrafficMap

open Json (Value Phrase Number)

/-- The fields of a record by name; a field that is absent gives nothing. -/
abbrev Fields := String → Option Value

/-- The fields in an array that lists them in order, if it is not longer than the list of names. -/
def Fields.ofItems? (names : List String) (items : List Value) : Option Fields :=
  if items.length ≤ names.length then some fun name => (names.zip items).lookup name else none

/-- The fields of a record with the given field names that a value holds. -/
def Fields.ofValue? (names : List String) : Value → Option Fields
  | .object members => some fun name => members.lookup name
  | .array items => ofItems? names items
  | _ => none

/-- The members of an object whose keys are among the names; no two of them may share a key. The
rest of the text needs no meaning beyond its grammar. -/
def Fields.knownMembers? (names : List String) :
    List (List Char × Phrase) → Option (List (String × Value))
  | [] => some []
  | (key, phrase) :: ms => do
    let k ← Phrase.unescape? key
    let name := String.ofList k
    let rest ← knownMembers? names ms
    if names.contains name then
      let v ← phrase.value? (Phrase.depthLimit - 1)
      if rest.any (fun m => m.1 = name) then none else pure ((name, v) :: rest)
    else pure rest

/-- The fields of a record with the given field names that a text holds. -/
def Fields.ofText? (names : List String) (text : String) : Option Fields :=
  match Phrase.read? text.toList with
  | some (.object members) => (knownMembers? names members).map fun ms name => ms.lookup name
  | some (.array items) => (Phrase.items? (Phrase.depthLimit - 1) items).bind (ofItems? names)
  | _ => none

namespace Decode

/-- A text. -/
def text : Value → Option String
  | .string s => some s
  | _ => none

/-- A truth value. -/
def truth : Value → Option Bool
  | .bool b => some b
  | _ => none

/-- A whole number below a bound. -/
def below (bound : Nat) : Value → Option Nat
  | .number (.natural n) => if n < bound then some n else none
  | _ => none

/-- A number of 64 bits. -/
def word64 (v : Value) : Option UInt64 :=
  (below (Nat.pow 2 64) v).map UInt64.ofNat

/-- A number of 32 bits. -/
def word32 (v : Value) : Option UInt32 :=
  (below (Nat.pow 2 32) v).map UInt32.ofNat

/-- A number of 16 bits. -/
def word16 (v : Value) : Option UInt16 :=
  (below (Nat.pow 2 16) v).map UInt16.ofNat

/-- Any number. -/
def float : Value → Option Float
  | .number n => some n.toFloat
  | _ => none

/-- Null, or a value of the given form. -/
def nullable {α : Type} (decode : Value → Option α) : Value → Option (Option α)
  | .null => some none
  | v => (decode v).map some

/-- A field that takes its default when it is absent or cannot be decoded. -/
def field {α : Type} (decode : Value → Option α) (default : α) (v : Option Value) : α :=
  (v.bind decode).getD default

/-- The items of an array that can be decoded, in order; any other value has none. -/
def list {α : Type} (decode : Value → Option α) : Option Value → List α
  | some (.array items) => items.filterMap decode
  | _ => []

/-- An optional text. -/
def optionalText (v : Option Value) : Option String :=
  field (nullable text) none v

end Decode

namespace BalancerConfig

/-- The field names of a configured load balancer. -/
def names : List String := ["id", "address", "interface", "contention_ratio", "enabled"]

/-- Decodes a configured load balancer from its fields. -/
def ofFields (f : Fields) : BalancerConfig :=
  { id := Decode.field (Decode.nullable Decode.word32) none (f "id")
    address := Decode.field Decode.text "" (f "address")
    interface := Decode.field Decode.text "" (f "interface")
    contentionRatio := Decode.field Decode.word32 0 (f "contention_ratio")
    enabled := Decode.field Decode.truth false (f "enabled") }

/-- Decodes a configured load balancer. -/
def ofValue? (v : Value) : Option BalancerConfig :=
  (Fields.ofValue? names v).map ofFields

end BalancerConfig

namespace ListenSettings

/-- The field names of the listener settings. -/
def names : List String := ["listen_host", "listen_port"]

/-- Decodes listener settings from their fields. -/
def ofFields (f : Fields) : ListenSettings :=
  { host? := Decode.optionalText (f "listen_host")
    port? := Decode.field (Decode.nullable Decode.word16) none (f "listen_port") }

/-- Decodes listener settings. -/
def ofValue? (v : Value) : Option ListenSettings :=
  (Fields.ofValue? names v).map ofFields

end ListenSettings

namespace Configuration

/-- The field names of the configuration. -/
def names : List String := ["load_balancers", "settings"]

/-- Decodes a configuration from its fields. -/
def ofFields (f : Fields) : Configuration :=
  { balancers := Decode.list BalancerConfig.ofValue? (f "load_balancers")
    settings := Decode.field ListenSettings.ofValue? {} (f "settings") }

/-- Decodes a configuration. -/
def ofValue? (v : Value) : Option Configuration :=
  (Fields.ofValue? names v).map ofFields

/-- Decodes a configuration from text. -/
def ofText? (text : String) : Option Configuration :=
  (Fields.ofText? names text).map ofFields

end Configuration

namespace TrafficTotals

/-- The field names of the traffic counters. -/
def names : List String :=
  ["bytes_in_per_second", "bytes_out_per_second", "active_connections", "total_bytes_in",
    "total_bytes_out"]

/-- Decodes traffic counters from their fields. -/
def ofFields (f : Fields) : TrafficTotals :=
  { bytesInPerSecond := Decode.field Decode.word64 0 (f "bytes_in_per_second")
    bytesOutPerSecond := Decode.field Decode.word64 0 (f "bytes_out_per_second")
    activeConnections := Decode.field Decode.word64 0 (f "active_connections")
    totalBytesIn := Decode.field Decode.word64 0 (f "total_bytes_in")
    totalBytesOut := Decode.field Decode.word64 0 (f "total_bytes_out") }

/-- Decodes traffic counters. -/
def ofValue? (v : Value) : Option TrafficTotals :=
  (Fields.ofValue? names v).map ofFields

end TrafficTotals

namespace BalancerStats

/-- The field names of the counters of a load balancer. -/
def names : List String :=
  ["address", "bytes_in_per_second", "bytes_out_per_second", "total_connections", "success_rate"]

/-- Decodes the counters of a load balancer from their fields. -/
def ofFields (f : Fields) : BalancerStats :=
  { address := Decode.field Decode.text "" (f "address")
    bytesInPerSecond := Decode.field Decode.word64 0 (f "bytes_in_per_second")
    bytesOutPerSecond := Decode.field Decode.word64 0 (f "bytes_out_per_second")
    totalConnections := Decode.field Decode.word64 0 (f "total_connections")
    successRate := Decode.field Decode.float 0.0 (f "success_rate") }

/-- Decodes the counters of a load balancer. -/
def ofValue? (v : Value) : Option BalancerStats :=
  (Fields.ofValue? names v).map ofFields

end BalancerStats

namespace SourceStats

/-- The field names of the counters of a client. -/
def names : List String :=
  ["source_ip", "bytes_in_per_second", "bytes_out_per_second", "total_connections",
    "active_connections", "assigned_lb"]

/-- Decodes the counters of a client from their fields. -/
def ofFields (f : Fields) : SourceStats :=
  { sourceIp := Decode.field Decode.text "" (f "source_ip")
    bytesInPerSecond := Decode.field Decode.word64 0 (f "bytes_in_per_second")
    bytesOutPerSecond := Decode.field Decode.word64 0 (f "bytes_out_per_second")
    totalConnections := Decode.field Decode.word64 0 (f "total_connections")
    activeConnections := Decode.field Decode.word64 0 (f "active_connections")
    assignedBalancer := Decode.field Decode.text "" (f "assigned_lb") }

/-- Decodes the counters of a client. -/
def ofValue? (v : Value) : Option SourceStats :=
  (Fields.ofValue? names v).map ofFields

end SourceStats

namespace Statistics

/-- The field names of the statistics. -/
def names : List String := ["traffic_stats", "load_balancers", "active_sources"]

/-- Decodes statistics from their fields. -/
def ofFields (f : Fields) : Statistics :=
  { traffic := Decode.field TrafficTotals.ofValue? {} (f "traffic_stats")
    balancers := Decode.list BalancerStats.ofValue? (f "load_balancers")
    sources := Decode.list SourceStats.ofValue? (f "active_sources") }

/-- Decodes statistics. -/
def ofValue? (v : Value) : Option Statistics :=
  (Fields.ofValue? names v).map ofFields

/-- Decodes statistics from text. -/
def ofText? (text : String) : Option Statistics :=
  (Fields.ofText? names text).map ofFields

end Statistics

namespace HostnameAnswer

/-- The field names of an answer with a host name. -/
def names : List String := ["hostname"]

/-- Decodes an answer with a host name from its fields. -/
def ofFields (f : Fields) : HostnameAnswer :=
  { hostname := Decode.optionalText (f "hostname") }

/-- Decodes an answer with a host name. -/
def ofValue? (v : Value) : Option HostnameAnswer :=
  (Fields.ofValue? names v).map ofFields

/-- Decodes an answer with a host name from text. -/
def ofText? (text : String) : Option HostnameAnswer :=
  (Fields.ofText? names text).map ofFields

end HostnameAnswer

namespace DeviceInfo

/-- The field names of a fingerprint. -/
def names : List String := ["name", "type", "user_agent", "vendor", "os"]

/-- Decodes a fingerprint from its fields. -/
def ofFields (f : Fields) : DeviceInfo :=
  { name := Decode.optionalText (f "name")
    deviceType := Decode.optionalText (f "type")
    userAgent := Decode.optionalText (f "user_agent")
    vendor := Decode.optionalText (f "vendor")
    os := Decode.optionalText (f "os") }

/-- Decodes a fingerprint. -/
def ofValue? (v : Value) : Option DeviceInfo :=
  (Fields.ofValue? names v).map ofFields

/-- Decodes a fingerprint from text. -/
def ofText? (text : String) : Option DeviceInfo :=
  (Fields.ofText? names text).map ofFields

end DeviceInfo

end TrafficMap
