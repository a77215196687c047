import TrafficMap.Geometry.Point
import TrafficMap.Scene.Color
import TrafficMap.Scene.Icon

/-!
# Drawing

A picture is a list of draw calls. A surface is whatever the calls are carried out on.
-/

namespace TrafficMap

/-- How a text lies at its anchor. -/
inductive TextAlign where
  | left | center | right
  deriving DecidableEq, Repr

/-- How a text looks. -/
structure TextStyle (α : Type) where
  color : Color α
  size : α
  align : TextAlign
  bold : Bool

/-- How a path looks. -/
structure StrokeStyle (α : Type) where
  color : Color α
  width : α

/-- One step of drawing. A path is built from `beginPath` on and drawn by `stroke`. -/
inductive DrawCall (α : Type) where
  | clear (color : Color α)
  | beginPath
  | moveTo (p : Point α)
  | lineTo (p : Point α)
  | stroke (style : StrokeStyle α)
  | circle (center : Point α) (radius : α) (color : Color α)
  | rect (rect : Rect α) (color : Color α)
  | roundedRect (rect : Rect α) (radius : α) (color : Color α)
  | image (icon : Icon) (rect : Rect α)
  | text (text : String) (anchor : Point α) (style : TextStyle α)

end TrafficMap
