import TrafficMap.Particle.Field
import TrafficMap.Scene.Draw
import TrafficMap.Scene.Palette
import TrafficMap.Topology.Basic

/-!
# The picture of a topology

`Scene.render` draws one frame: the background, the connections, the particles on them, and the
devices with their labels.
-/

namespace TrafficMap.Scene

variable {α : Type} [Scalar α]

/-- The width of the thinnest connection. -/
def minThickness : α := 2.0

/-- What the busiest connection is wider than the thinnest. -/
def thicknessRange : α := 6.0

/-- The size of the glow around a particle, compared to the particle. -/
def glowScale : α := 2.2

/-- The opacity of the glow around a particle, compared to the particle. -/
def glowOpacity : α := 0.25

/-- The size of names. -/
def nameSize : α := 12.0

/-- The size of rates. -/
def speedSize : α := 10.0

/-- How a connection looks: the width grows with the order of magnitude of the busiest throughput
and with the usage, the opacity with the usage alone. -/
def connectionStyle (c : Connection α) : StrokeStyle α :=
  if c.enabled then
    let scale := Scalar.clamp
      (Scalar.log10 (Scalar.max c.load.busiest 0.0 + 1.0) / 6.0) 0.0 1.0
    let ratio := Scalar.clamp c.load.ratio 0.0 1.0
    { color := (Palette.usage ratio).withAlpha (0.6 + 0.4 * ratio)
      width := minThickness + thicknessRange * scale * (0.5 + 0.5 * ratio) }
  else
    { color := Palette.disabled.withAlpha Palette.disabledOpacity, width := minThickness }

/-- The calls that draw a connected line. -/
def polyline : List (Point α) → StrokeStyle α → List (DrawCall α)
  | [], _ => []
  | p :: ps, style => .beginPath :: .moveTo p :: ps.map .lineTo ++ [.stroke style]

/-- The calls that draw a connection. -/
def connectionCalls (t : Topology α) (c : Connection α) : List (DrawCall α) :=
  match t.route? c with
  | some path => polyline path.points (connectionStyle c)
  | none => []

/-- The calls that draw a particle: its glow, then the particle. -/
def particleCalls (t : Topology α) (p : Particle α) : List (DrawCall α) :=
  match t.connections[p.connection]? with
  | none => []
  | some c =>
    match t.route? c with
    | none => []
    | some path =>
      if c.enabled then
        let center := path.pointAtOffset p.progress p.lateral
        let color := Palette.usage c.load.ratio
        [.circle center (p.size * glowScale) (color.withAlpha (p.opacity * glowOpacity)),
          .circle center p.size (color.withAlpha p.opacity)]
      else []

/-- The style of a label under a device. -/
def labelStyle (color : Color α) (size : α) (bold : Bool) : TextStyle α :=
  { color, size, align := .center, bold }

/-- The calls that draw a device: its icon or the shape that stands for it, and its labels. -/
def deviceCalls (icons : IconSet) (d : Device α) : List (DrawCall α) :=
  let rect := Rect.centered d.position d.size
  let shape := match icons.get? d.kind with
    | some icon => DrawCall.image icon rect
    | none =>
      .roundedRect rect (d.size * 0.2)
        ((Palette.device d.kind).withAlpha (if d.enabled then 1.0 else 0.4))
  let x := d.position.x
  let below := d.position.y + d.size / 2.0
  [shape,
    .text d.name ⟨x, below + nameSize + 2.0⟩ (labelStyle Palette.label nameSize true),
    .text ("↓ " ++ d.download) ⟨x, below + nameSize + speedSize + 6.0⟩
      (labelStyle Palette.download speedSize false),
    .text ("↑ " ++ d.upload) ⟨x, below + nameSize + 2.0 * speedSize + 10.0⟩
      (labelStyle Palette.upload speedSize false)]

/-- The calls that draw one frame. -/
def render (t : Topology α) (particles : List (Particle α)) (icons : IconSet) :
    List (DrawCall α) :=
  .clear Palette.background ::
    (t.connections.flatMap (connectionCalls t) ++ particles.flatMap (particleCalls t) ++
      t.devices.flatMap (deviceCalls icons))

/-- The calls that draw a frame around a device and its subtitle above it. -/
def highlight (d : Device α) (color : Color α) : List (DrawCall α) :=
  let pad : α := 4.0
  let r := Rect.centered d.position (d.size + 2.0 * pad)
  let corners : List (Point α) :=
    [⟨r.x, r.y⟩, ⟨r.x + r.width, r.y⟩, ⟨r.x + r.width, r.y + r.height⟩, ⟨r.x, r.y + r.height⟩,
      ⟨r.x, r.y⟩]
  polyline corners { color, width := 1.0 } ++
    [.text d.subtitle ⟨d.position.x, r.y - 4.0⟩ (labelStyle Palette.subtitle speedSize false)]

end TrafficMap.Scene
