import Mathlib
import TrafficMap.Proofs.Canvas.Fill
import TrafficMap.Proofs.Canvas.Labels
import TrafficMap.Proofs.Engine.Run

/-!
# Frames on a used canvas

A frame begins by clearing the canvas, which leaves nothing of what was drawn there but its size, and that
one never changes. So a frame comes out the same on all canvases of one size, whatever their histories are
(`same_frame_of_render`): the background that colours are blended over, a path that was not drawn, and the
rows that labels keep are all new. Whether drawing the frame ends at all is up to the engine too, namely to
the shapes that stand for devices without an icon (`ends_render_iff`).
-/

namespace TrafficMap

open Terminal.Canvas (FillEnds)

/-- Whether a call can be carried out in finitely many steps. -/
def DrawCall.Ends : DrawCall Float → Prop
  | .rect area _ => FillEnds area
  | .roundedRect area _ _ => FillEnds area
  | _ => True

namespace Scene

/-! ## The shapes in a frame -/

variable {t : Topology Float} {icons : IconSet}

theorem ends_polyline (points : List (Point Float)) (style : StrokeStyle Float) :
    ∀ call ∈ polyline points style, call.Ends := by
  cases points with
  | nil => simp [polyline]
  | cons p ps =>
    simp only [polyline, List.forall_mem_append, List.forall_mem_cons, List.forall_mem_map]
    exact ⟨⟨trivial, trivial, fun _ _ => trivial⟩, trivial, nofun⟩

/-- The calls that draw a connection end. -/
theorem ends_connectionCalls (c : Connection Float) : ∀ call ∈ connectionCalls t c, call.Ends := by
  unfold connectionCalls
  cases t.route? c with
  | none => simp
  | some path => exact ends_polyline _ _

/-- The calls that draw a particle end. -/
theorem ends_particleCalls (p : Particle Float) : ∀ call ∈ particleCalls t p, call.Ends := by
  unfold particleCalls
  split
  · simp
  · split
    · simp
    · split_ifs <;> simp [DrawCall.Ends]

/-- Of the calls for a device, the shape that stands for a missing icon decides. -/
theorem ends_deviceCalls_iff (d : Device Float) :
    (∀ call ∈ deviceCalls icons d, call.Ends) ↔
      (icons.get? d.kind = none → FillEnds (Rect.centered d.position d.size)) := by
  unfold deviceCalls
  cases icons.get? d.kind <;> simp [DrawCall.Ends]

/-- A frame ends if the boxes of the devices without an icon do. -/
theorem ends_render_iff (particles : List (Particle Float)) :
    (∀ call ∈ render t particles icons, call.Ends) ↔
      ∀ d ∈ t.devices, icons.get? d.kind = none → FillEnds (Rect.centered d.position d.size) := by
  have hclear : (DrawCall.clear (Palette.background : Color Float)).Ends := trivial
  simp only [render, List.forall_mem_cons, List.forall_mem_append, List.forall_mem_flatMap, hclear,
    ends_deviceCalls_iff, true_and]
  exact ⟨And.right, fun h => ⟨⟨fun c _ => ends_connectionCalls c, fun p _ => ends_particleCalls p⟩, h⟩⟩

end Scene

namespace Terminal.Canvas

/-! ## Draw calls that end -/

/-- A call can be carried out if it ends. -/
theorem isSome_draw_iff (c : Canvas Float) (call : DrawCall Float) : (c.draw? call).isSome ↔ call.Ends := by
  cases call with
  | rect rect color => exact isSome_roundedRect_iff c rect 0.0 color
  | roundedRect rect radius color => exact isSome_roundedRect_iff c rect radius color
  | _ => exact iff_of_true rfl trivial

/-- Whether drawing ends is up to the calls, not to the canvas. -/
theorem isSome_drawAll_iff (c : Canvas Float) (calls : List (DrawCall Float)) :
    (c.drawAll? calls).isSome ↔ ∀ call ∈ calls, call.Ends := by
  induction calls generalizing c with
  | nil => simp [drawAll?]
  | cons call calls ih =>
    have hrun : c.drawAll? (call :: calls) = (c.draw? call).bind (·.drawAll? calls) := rfl
    rw [hrun, List.forall_mem_cons, ← isSome_draw_iff c call]
    cases c.draw? call with
    | none => simp
    | some c' => simp [ih c']

/-! ## Cleared canvases -/

section

variable {α : Type} [Scalar α] {c c' : Canvas α}

/-- Clearing leaves the size of a canvas and nothing else. -/
theorem draw_clear_congr (hcols : c.cols = c'.cols) (hrows : c.rows = c'.rows) (color : Color α) :
    c.draw? (.clear color) = c'.draw? (.clear color) := by
  simp only [draw?, hcols, hrows]

/-- What begins with clearing comes out the same on canvases of one size. -/
theorem drawAll_clear_congr (hcols : c.cols = c'.cols) (hrows : c.rows = c'.rows) (color : Color α)
    (calls : List (DrawCall α)) :
    c.drawAll? (.clear color :: calls) = c'.drawAll? (.clear color :: calls) := by
  simp only [drawAll?, List.foldlM_cons, draw_clear_congr hcols hrows]

end

/-- On two canvases of one size, with any histories, a frame of an engine leaves the same marks, labels, paths and
background. It is drawn to its end on both of them if and only if the shape of every device without an icon
can be filled. -/
theorem same_frame_of_render {cols rows : ℕ} {history history' : List (DrawCall Float)} {c c' : Canvas Float}
    (h : (blank cols rows).drawAll? history = some c) (h' : (blank cols rows).drawAll? history' = some c')
    (e : Engine Float) :
    c.drawAll? e.render = c'.drawAll? e.render ∧
      ((c.drawAll? e.render).isSome ↔
        ∀ d ∈ e.topology.devices, e.icons.get? d.kind = none →
          FillEnds (Rect.centered d.position d.size)) := by
  have hgains := gains_drawAll? h
  have hgains' := gains_drawAll? h'
  constructor
  · exact drawAll_clear_congr (hgains.cols.trans hgains'.cols.symm) (hgains.rows.trans hgains'.rows.symm) _ _
  · exact (isSome_drawAll_iff c e.render).trans (Scene.ends_render_iff _)

/-- A canvas with a path that was not drawn, and one with another background, before a frame with two devices. -/
theorem same_frame_of_render_used :
    let unfinished : Canvas Float := { blank 10 10 with paths := [[⟨0.0, 0.0⟩, ⟨10.0, 10.0⟩]] }
    let colored : Canvas Float := { blank 10 10 with background := (Color.rgb 255 0 0).withAlpha 1.0 }
    let engine : Engine Float := Engine.fresh 400.0 300.0 .standard (.ofSeed 7)
    let e := { engine with topology := Topology.build {} {} [] (.ofSize 400.0 300.0) }
    (blank 10 10).drawAll? [.moveTo ⟨0.0, 0.0⟩, .lineTo ⟨10.0, 10.0⟩] = some unfinished ∧
      (blank 10 10).drawAll? [.clear (.rgb 255 0 0)] = some colored ∧
      unfinished.drawAll? e.render = colored.drawAll? e.render := by
  intro unfinished colored engine e
  have hunfinished : (blank 10 10).drawAll? [.moveTo ⟨0.0, 0.0⟩, .lineTo ⟨10.0, 10.0⟩] = some unfinished :=
    rfl
  have hcolored : (blank 10 10).drawAll? [.clear (.rgb 255 0 0)] = some colored := rfl
  exact ⟨hunfinished, hcolored, (same_frame_of_render hunfinished hcolored e).1⟩

end Terminal.Canvas

end TrafficMap
