import TrafficMap.Engine
import TrafficMap.View.Report

/-!
# Views of the topology and its picture
-/

namespace TrafficMap.View

instance : View Layer := ⟨fun l => view l.index⟩

instance : View (Point Float) := ⟨fun p => view [p.x, p.y]⟩

instance : View (Rect Float) := ⟨fun r => view [r.x, r.y, r.width, r.height]⟩

instance : View Rgb := ⟨fun c => view c.hex⟩

instance : View (Color Float) := ⟨fun c => view (c.hex, c.alpha)⟩

instance : View DeviceFacts where
  view f := .object
    [("connections", view f.connections), ("active_connections", view f.activeConnections),
      ("success_rate", view f.successRate), ("interface", view f.interface),
      ("contention_ratio", view f.contentionRatio), ("assigned_lb", view f.assignedBalancer),
      ("transferred", view f.transferred)]

instance : View (Device Float) where
  view d := .object
    [("id", view d.id), ("kind", view d.kind), ("name", view d.name),
      ("subtitle", view d.subtitle), ("download", view d.download), ("upload", view d.upload),
      ("position", view d.position), ("layer", view d.layer), ("size", view d.size),
      ("enabled", view d.enabled), ("metadata", view d.facts)]

instance : View (Connection Float) where
  view c := .object
    [("from", view c.source), ("to", view c.target), ("enabled", view c.enabled),
      ("load", view [c.load.current, c.load.busiest, c.load.ratio])]

instance : View TopologySummary where
  view s := .object
    [("total_bytes_per_sec", view s.totalBytesPerSecond),
      ("active_connections", view s.activeConnections), ("load_balancers", view s.balancers),
      ("clients", view s.clients)]

/-- The members of the view of a topology. -/
def topologyMembers (t : Topology Float) : List (String × Json.Value) :=
  [("devices", view t.devices), ("connections", view t.connections), ("summary", view t.summary),
    ("empty", view t.isEmpty)]

instance : View (Topology Float) := ⟨fun t => .object (topologyMembers t)⟩

instance : View (StrokeStyle Float) where
  view s := .object [("color", view s.color), ("width", view s.width)]

instance : View (Particle Float) where
  view p := .array
    [view p.connection, view p.progress, view p.lateral, view p.speed, view p.size, view p.opacity]

instance : View (FlowProfile Float) where
  view p := .object
    [("count", view p.count), ("base_speed", view p.baseSpeed), ("jitter", view p.jitter),
      ("size", view p.size), ("opacity", view p.opacity)]

instance : View Icon where
  view i := .object [("rows", view i.rows), ("width", view i.width), ("height", view i.height)]

instance : View IconState where
  view
    | .pending => .string "pending"
    | .failed => .string "failed"
    | .loaded icon => view icon

instance : View IconSet where
  view s := .array (DeviceKind.all.map fun k =>
    .array [view k, view (s.state k), view (s.get? k).isSome])

instance : View TextAlign where
  view
    | .left => .string "left"
    | .center => .string "center"
    | .right => .string "right"

instance : View (DrawCall Float) where
  view call := .array <| match call with
    | .clear c => [.string "clear", view c]
    | .beginPath => [.string "begin"]
    | .moveTo p => [.string "move", view p.x, view p.y]
    | .lineTo p => [.string "line", view p.x, view p.y]
    | .stroke s => [.string "stroke", view s.color, view s.width]
    | .circle p r c => [.string "circle", view p.x, view p.y, view r, view c]
    | .rect r c => [.string "rect", view r, view c]
    | .roundedRect r radius c => [.string "rrect", view r, view radius, view c]
    | .image icon r => [.string "image", view icon.rows, view r]
    | .text t p s => [.string "text", view t, view p.x, view p.y, view s.color, view s.size,
        view s.align, view s.bold]

instance : View Applied where
  view
    | .rebuilt => .string "rebuilt"
    | .failed => .string "failed"
    | .discarded => .string "discarded"

instance : View LoadStatus where
  view
    | .loading => .object [("status", .string "loading")]
    | .live updated => .object [("status", .string "live"), ("updated_ms", view updated)]
    | .stale updated error => .object
        [("status", .string "stale"), ("updated_ms", view updated), ("error", view error)]
    | .failed error => .object [("status", .string "failed"), ("error", view error)]

end TrafficMap.View
