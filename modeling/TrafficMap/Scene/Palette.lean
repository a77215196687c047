import TrafficMap.Device.Kind
import TrafficMap.Scene.Color

/-!
# The colours of the picture
-/

namespace TrafficMap.Palette

variable {α : Type} [Scalar α]

/-- The colour behind everything. -/
def background : Color α := .rgb 0x0f 0x17 0x2a

/-- The colour of a disabled connection. -/
def disabled : Color α := .rgb 0x44 0x44 0x44

/-- The opacity of a disabled connection. -/
def disabledOpacity : α := 0.3

/-- The colour of low usage. -/
def lowUsage : Color α := .rgb 0x2e 0xd5 0x73

/-- The colour of medium usage. -/
def mediumUsage : Color α := .rgb 0xff 0xa5 0x02

/-- The colour of high usage. -/
def highUsage : Color α := .rgb 0xff 0x47 0x57

/-- The colour of names. -/
def label : Color α := .rgb 0xf8 0xfa 0xfc

/-- The colour of subtitles. -/
def subtitle : Color α := .rgb 0x94 0xa3 0xb8

/-- The colour of download rates. -/
def download : Color α := .rgb 0x2e 0xd5 0x73

/-- The colour of upload rates. -/
def upload : Color α := .rgb 0x1e 0x90 0xff

/-- The colour of a usage ratio. -/
def usage (ratio : α) : Color α :=
  if ratio ≥ 0.66 then highUsage else if ratio ≥ 0.33 then mediumUsage else lowUsage

/-- The colour of the shape that stands for a device without an icon. -/
def device : DeviceKind → Color α
  | .isp => .rgb 0x53 0x52 0xed
  | .loadBalancer => .rgb 0x1e 0x90 0xff
  | .gateway => .rgb 0xff 0x6b 0x81
  | .client .desktop => .rgb 0x70 0xa1 0xff
  | .client .laptop => .rgb 0x7b 0xed 0x9f
  | .client .phone => .rgb 0xec 0xcc 0x68
  | .client .tablet => .rgb 0xff 0x7f 0x50
  | .client .tv => .rgb 0xa2 0x9b 0xfe
  | .client .console => .rgb 0xfd 0x79 0xa8
  | .client .iot => .rgb 0x00 0xce 0xc9

end TrafficMap.Palette
