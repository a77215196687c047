import TrafficMap.Json.Value

/-!
# JSON views

The view of a value shows it to tools as JSON. Floats are shown as text, with twelve digits, since
JSON numbers cannot hold those that are not finite.
-/

namespace TrafficMap

/-- Values that can be shown as JSON. -/
class View (β : Type) where
  view : β → Json.Value

export View (view)

namespace View

/-- The decimal places of a float after its first digit. -/
def floatPlaces : Nat := 11

instance : View Json.Value := ⟨id⟩

instance : View String := ⟨.string⟩

instance : View Bool := ⟨.bool⟩

instance : View Nat := ⟨.ofNat⟩

instance : View Int := ⟨.ofInt⟩

instance : View UInt16 := ⟨fun n => .ofNat n.toNat⟩

instance : View UInt32 := ⟨fun n => .ofNat n.toNat⟩

instance : View UInt64 := ⟨fun n => .ofNat n.toNat⟩

instance : View Float := ⟨fun x => .string (Decimal.scientific floatPlaces x)⟩

instance {β : Type} [View β] : View (Option β) := ⟨.ofOption view⟩

instance {β : Type} [View β] : View (List β) := ⟨fun xs => .array (xs.map view)⟩

instance {β γ : Type} [View β] [View γ] : View (β × γ) :=
  ⟨fun (b, c) => .array [view b, view c]⟩

end View

end TrafficMap
