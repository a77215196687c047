import TrafficMap.Device.Kind
import TrafficMap.Geometry.Point

/-!
# Placement in layers

Every layer is a column at a fixed fraction of the width. A single device stands at mid-height;
several are spread evenly around it with a bounded gap.
-/

namespace TrafficMap

/-- The size of the surface that devices are placed on. -/
structure Layout (α : Type) where
  width : α
  height : α
  deriving Repr

namespace Layout

variable {α : Type} [Scalar α]

/-- The room above and below a column that stays free. -/
def verticalMargin : α := 200.0

/-- The largest gap between load balancers. -/
def balancerSpacing : α := 100.0

/-- The largest gap between clients. -/
def clientSpacing : α := 80.0

/-- The column of a layer as a fraction of the width. -/
def columnFraction : Layer → α
  | .isp => 0.12
  | .loadBalancer => 0.38
  | .gateway => 0.62
  | .client => 0.88

/-- A side of the surface; a negative one, or one that is no finite number, counts as zero. -/
def side (v : α) : α :=
  if Scalar.isFinite v then Scalar.max v 0.0 else 0.0

/-- The layout of a surface of the given size. -/
def ofSize (width height : α) : Layout α :=
  { width := side width, height := side height }

/-- Whether two layouts have the same size. -/
def same (a b : Layout α) : Bool :=
  Scalar.same a.width b.width && Scalar.same a.height b.height

/-- The horizontal centre of a layer. -/
def layerX (l : Layout α) (layer : Layer) : α :=
  columnFraction layer * l.width

/-- The place of the only device of a layer. -/
def anchor (l : Layout α) (layer : Layer) : Point α :=
  { x := l.layerX layer, y := l.height / 2.0 }

/-- The gap between the devices of a column, at most `cap`. -/
def spacing (l : Layout α) (count : Nat) (cap : α) : α :=
  let gaps : α := Scalar.ofNat (Max.max (count - 1) 1)
  Scalar.min (Scalar.max ((l.height - verticalMargin) / gaps) 0.0) cap

/-- The places of the devices of a layer from top to bottom, symmetric about mid-height. -/
def column (l : Layout α) (layer : Layer) (count : Nat) (cap : α) : List (Point α) :=
  let gap := l.spacing count cap
  let top := l.height / 2.0 - gap * Scalar.ofNat (count - 1) / 2.0
  (List.range count).map fun i => { x := l.layerX layer, y := top + gap * Scalar.ofNat i }

/-- The place of one of the `count` devices of a layer, counted from the top. -/
def place (l : Layout α) (layer : Layer) (count : Nat) (cap : α) (i : Nat) : Point α :=
  let gap := l.spacing count cap
  { x := l.layerX layer
    y := l.height / 2.0 - gap * Scalar.ofNat (count - 1) / 2.0 + gap * Scalar.ofNat i }

theorem column_eq_map_place (l : Layout α) (layer : Layer) (count : Nat) (cap : α) :
    l.column layer count cap = (List.range count).map (l.place layer count cap) :=
  rfl

end Layout

end TrafficMap
