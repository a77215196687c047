import TrafficMap.Refresh.Outcome
import TrafficMap.View.Basic

/-!
# Views of what the appliance reports
-/

namespace TrafficMap.View

instance : View IdentitySource where
  view
    | .hostname => .string "hostname"
    | .deviceInfo => .string "device-info"
    | .fallback => .string "fallback"

instance : View ClientKind := ⟨fun k => .string k.key⟩

instance : View DeviceKind := ⟨fun k => .string k.key⟩

instance : View Identity where
  view i := .object [("name", view i.name), ("kind", view i.kind), ("source", view i.source)]

instance : View BalancerConfig where
  view b := .object
    [("id", view b.id), ("address", view b.address), ("interface", view b.interface),
      ("contention_ratio", view b.contentionRatio), ("enabled", view b.enabled)]

instance : View Configuration where
  view c := .object
    [("load_balancers", view c.balancers),
      ("settings", .object
        [("listen_host", view c.settings.host?), ("listen_port", view c.settings.port?)]),
      ("effective", .object
        [("host", view c.settings.host), ("port", view c.settings.port),
          ("address", view c.settings.address)])]

instance : View TrafficTotals where
  view t := .object
    [("bytes_in_per_second", view t.bytesInPerSecond),
      ("bytes_out_per_second", view t.bytesOutPerSecond),
      ("active_connections", view t.activeConnections),
      ("total_bytes_in", view t.totalBytesIn), ("total_bytes_out", view t.totalBytesOut)]

instance : View BalancerStats where
  view b := .object
    [("address", view b.address), ("bytes_in_per_second", view b.bytesInPerSecond),
      ("bytes_out_per_second", view b.bytesOutPerSecond),
      ("total_connections", view b.totalConnections), ("success_rate", view b.successRate)]

instance : View SourceStats where
  view s := .object
    [("source_ip", view s.sourceIp), ("bytes_in_per_second", view s.bytesInPerSecond),
      ("bytes_out_per_second", view s.bytesOutPerSecond),
      ("total_connections", view s.totalConnections),
      ("active_connections", view s.activeConnections), ("assigned_lb", view s.assignedBalancer)]

instance : View Statistics where
  view s := .object
    [("traffic_stats", view s.traffic), ("load_balancers", view s.balancers),
      ("active_sources", view s.sources)]

instance : View HostnameAnswer where
  view h := .object [("hostname", view h.hostname)]

instance : View DeviceInfo where
  view i := .object
    [("name", view i.name), ("type", view i.deviceType), ("user_agent", view i.userAgent),
      ("vendor", view i.vendor), ("os", view i.os)]

instance : View Snapshot where
  view s := .object
    [("config", view s.config), ("stats", view s.stats),
      ("identities", .object (s.identities.map fun (ip, i) => (ip, view i)))]

/-- The name of a way to fail. -/
def failureName : Failure → String
  | .unreachable _ => "Unreachable"
  | .authenticationFailed _ => "AuthenticationFailed"
  | .timeout => "Timeout"
  | .status _ _ => "Status"
  | .malformedResponse _ => "MalformedResponse"
  | .icon _ _ => "Icon"
  | .configuration _ => "Config"

instance : View Failure where
  view f := .object
    [("error", .string (failureName f)), ("message", view f.message),
      ("transient", view f.isTransient)]

/-- The name of a way for a request to fail. -/
def requestErrorName : RequestError → String
  | .authentication _ => "Authentication"
  | .transport _ _ => "Transport"
  | .invalidUrl _ => "InvalidUrl"
  | .tls _ => "Tls"
  | .status _ _ => "Status"
  | .malformed _ _ => "Deserialization"

instance : View RequestError where
  view e := .object
    [("error", .string (requestErrorName e)), ("message", view e.message),
      ("auth_expired", view e.isAuthExpired), ("transient", view e.isTransient),
      ("not_found", view e.isNotFound), ("core", view (Failure.ofRequest e))]

instance {ε β : Type} [View ε] [View β] : View (Except ε β) where
  view
    | .ok b => view b
    | .error e => view e

instance : View Outcome where
  view o := .object [("gen", view o.generation.toNat), ("result", view o.result)]

end TrafficMap.View
