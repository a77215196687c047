import TrafficMap.Text.Words

/-!
# Kinds of devices

What a device is decides its layer, its footprint, its colour and its icon. `DeviceKind.key` is the
name of a kind in files and identifiers.
-/

namespace TrafficMap

/-- The category of a client device. -/
inductive ClientKind where
  | desktop | laptop | phone | tablet | tv | console | iot
  deriving DecidableEq, Repr

namespace ClientKind

/-- All client kinds, in the order in which icons are loaded. -/
def all : List ClientKind :=
  [desktop, laptop, phone, tablet, tv, console, iot]

/-- The name of a client kind. -/
def key : ClientKind → String
  | desktop => "desktop"
  | laptop => "laptop"
  | phone => "phone"
  | tablet => "tablet"
  | tv => "tv"
  | console => "console"
  | iot => "iot"

/-- The client kind with a name, whatever the case of its ASCII letters. -/
def ofKey? (text : List Char) : Option ClientKind :=
  all.find? (fun k => k.key.toList = Text.asciiLower text)

end ClientKind

/-- The horizontal rank of a device. -/
inductive Layer where
  | isp | loadBalancer | gateway | client
  deriving DecidableEq, Repr

namespace Layer

/-- All layers, left to right. -/
def all : List Layer :=
  [isp, loadBalancer, gateway, client]

/-- The position of a layer, counted from the left. -/
def index : Layer → Nat
  | isp => 0
  | loadBalancer => 1
  | gateway => 2
  | client => 3

end Layer

/-- The role of a device in the topology. -/
inductive DeviceKind where
  | isp | loadBalancer | gateway
  | client (kind : ClientKind)
  deriving DecidableEq, Repr

namespace DeviceKind

/-- The name of a kind in files and identifiers. -/
def key : DeviceKind → String
  | isp => "isp"
  | loadBalancer => "load-balancer"
  | gateway => "gateway"
  | client kind => kind.key

/-- The layer that devices of a kind stand in. -/
def layer : DeviceKind → Layer
  | isp => .isp
  | loadBalancer => .loadBalancer
  | gateway => .gateway
  | client _ => .client

/-- Every kind that can appear on the screen. -/
def all : List DeviceKind :=
  [isp, loadBalancer, gateway] ++ ClientKind.all.map client

/-- The kind with a name. -/
def ofKey? (text : String) : Option DeviceKind :=
  all.find? (fun k => k.key = text)

end DeviceKind

end TrafficMap
