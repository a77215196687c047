import TrafficMap.Terminal.Screen
import TrafficMap.View.Picture

/-!
# Views of what a terminal shows
-/

namespace TrafficMap.View

open Terminal

instance : View (Mark Float) where
  view mark := .array <| match mark with
    | .line a b color => [.string "line", view a, view b, view color]
    | .dot p color => [.string "dot", view p, view color]
    | .ring p radius color => [.string "ring", view p, view radius, view color]
    | .text p t color bold => [.string "text", view p, view t, view color, view bold]

instance : View LabelSpan := ⟨fun l => view [l.row, l.start, l.finish]⟩

instance : View (Canvas Float) where
  view c := .object
    [("size", view (c.width, c.height)), ("background", view c.background.toRgb),
      ("subpaths", view c.paths), ("labels", view c.labels), ("ops", view c.marks)]

instance : View Style := ⟨fun s => view (s.color, s.bold)⟩

instance : View Span := ⟨fun s => view (s.text, s.style)⟩

instance : View Area := ⟨fun a => view [a.x, a.y, a.width, a.height]⟩

instance : View Regions where
  view r := .object
    [("header", view r.header), ("body", view r.body), ("canvas", view r.canvas),
      ("details", view r.details), ("status", view r.status)]

instance : View Action where
  view
    | .refreshNow => .string "RefreshNow"
    | .togglePause => .string "TogglePause"
    | .speedUp => .string "SpeedUp"
    | .speedDown => .string "SpeedDown"
    | .selectNext => .string "SelectNext"
    | .selectPrevious => .string "SelectPrev"
    | .clearSelection => .string "ClearSelection"
    | .refreshed outcome => .array [.string "Refreshed", view outcome]
    | .iconLoaded kind result => .array [.string "IconLoaded", view kind, view result]

end TrafficMap.View
