import Mathlib
import TrafficMap.Proofs.Engine.Picture
import TrafficMap.Proofs.Topology.Layers

/-!
# What a frame shows

A frame is one call after the other, and drawing leaves out what it cannot place: a connection without
both ends, a particle on no connection or on a disabled one. `Scene.Frame` says what the calls are when
nothing is left out: the background, a stroked path for every connection, two circles for every particle,
and a figure with three texts for every device. In the states that an engine reaches all ends exist and
all particles ride on enabled connections, so every frame is of this kind (`frame_of_run`).
-/

namespace TrafficMap

variable {α : Type} [Scalar α]

/-! ## Routes -/

namespace Path

/-- The corners of a route between its ends. -/
def corners : Path α → List (Point α)
  | straight _ _ => []
  | elbow _ b c _ => [b, c]

/-- A route has its ends and corners. -/
theorem points_route (p q : Point α) :
    (route p q).points = p :: (route p q).corners ++ [q] := by
  unfold route
  dsimp only
  split <;> rfl

end Path

namespace Scene

/-! ## The calls for one thing -/

/-- A connection as it is drawn: a path from the place of its source, through the corners of the route,
to the place of its target. -/
inductive StrokesConnection (t : Topology α) (c : Connection α) : List (DrawCall α) → Prop where
  | mk {a b : Device α} {corners : List (Point α)} (hends : t.endpoints c = some (a, b))
      (hroute : (Path.route a.position b.position).points
        = a.position :: corners ++ [b.position]) :
      StrokesConnection t c (.beginPath :: .moveTo a.position :: corners.map .lineTo ++
        [.lineTo b.position, .stroke (connectionStyle c)])

/-- A particle as it is drawn: its glow, then itself, around the point that its progress and its
distance to the side give on the route of its connection. -/
inductive DotsParticle (t : Topology α) (p : Particle α) : List (DrawCall α) → Prop where
  | mk {c : Connection α} {a b : Device α} {center : Point α}
      (hc : t.connections[p.connection]? = some c) (henabled : c.enabled = true)
      (hends : t.endpoints c = some (a, b))
      (hcenter : center
        = (Path.route a.position b.position).pointAtOffset p.progress p.lateral) :
      DotsParticle t p
        [.circle center (p.size * glowScale)
            ((Palette.usage c.load.ratio).withAlpha (p.opacity * glowOpacity)),
          .circle center p.size ((Palette.usage c.load.ratio).withAlpha p.opacity)]

/-- A device as it is drawn: its icon once that is loaded and a rounded rectangle until then, with its
name and its rates. -/
inductive FiguresDevice (icons : IconSet) (d : Device α) : List (DrawCall α) → Prop where
  | icon {icon : Icon} {p q r : Point α} {name download upload : TextStyle α}
      (hloaded : icons.state d.kind = .loaded icon) :
      FiguresDevice icons d
        [.image icon (Rect.centered d.position d.size), .text d.name p name,
          .text ("↓ " ++ d.download) q download, .text ("↑ " ++ d.upload) r upload]
  | shape {radius : α} {color : Color α} {p q r : Point α} {name download upload : TextStyle α}
      (hloaded : ∀ icon, icons.state d.kind ≠ .loaded icon) :
      FiguresDevice icons d
        [.roundedRect (Rect.centered d.position d.size) radius color, .text d.name p name,
          .text ("↓ " ++ d.download) q download, .text ("↑ " ++ d.upload) r upload]

/-- The calls of a frame that leaves nothing out. -/
def Frame (t : Topology α) (particles : List (Particle α)) (icons : IconSet)
    (calls : List (DrawCall α)) : Prop :=
  ∃ lines dots figures : List (List (DrawCall α)),
    calls = .clear Palette.background :: (lines.flatten ++ dots.flatten ++ figures.flatten) ∧
      List.Forall₂ (StrokesConnection t) t.connections lines ∧
      List.Forall₂ (DotsParticle t) particles dots ∧
      List.Forall₂ (FiguresDevice icons) t.devices figures

/-- The route of a connection lies between its ends. -/
theorem route?_of_endpoints {t : Topology α} {c : Connection α} {a b : Device α}
    (h : t.endpoints c = some (a, b)) : t.route? c = some (Path.route a.position b.position) := by
  rw [Topology.route?, h]
  rfl

/-- A connection with ends is drawn along its route. -/
theorem connectionCalls_of_endpoints {t : Topology α} {c : Connection α} {a b : Device α}
    (h : t.endpoints c = some (a, b)) :
    connectionCalls t c
      = polyline (Path.route a.position b.position).points (connectionStyle c) := by
  rw [connectionCalls, route?_of_endpoints h]

/-- A connection with ends is stroked. -/
theorem strokesConnection {t : Topology α} {c : Connection α} {a b : Device α}
    (h : t.endpoints c = some (a, b)) : StrokesConnection t c (connectionCalls t c) := by
  have hroute := Path.points_route a.position b.position
  have hcalls : connectionCalls t c = .beginPath :: .moveTo a.position ::
      (Path.route a.position b.position).corners.map .lineTo ++
        [.lineTo b.position, .stroke (connectionStyle c)] := by
    rw [connectionCalls_of_endpoints h, hroute, List.cons_append, polyline, List.map_append]
    simp only [List.map_cons, List.map_nil, List.cons_append, List.append_assoc, List.nil_append]
  rw [hcalls]
  exact .mk h hroute

/-- A particle of an enabled connection is two circles on its route. -/
theorem particleCalls_eq {t : Topology α} {p : Particle α} {c : Connection α} {a b : Device α}
    (hc : t.connections[p.connection]? = some c) (henabled : c.enabled = true)
    (hends : t.endpoints c = some (a, b)) :
    particleCalls t p
      = [.circle ((Path.route a.position b.position).pointAtOffset p.progress p.lateral)
            (p.size * glowScale) ((Palette.usage c.load.ratio).withAlpha (p.opacity * glowOpacity)),
          .circle ((Path.route a.position b.position).pointAtOffset p.progress p.lateral) p.size
            ((Palette.usage c.load.ratio).withAlpha p.opacity)] := by
  simp only [particleCalls, hc, route?_of_endpoints hends, henabled, if_true]

/-- A device is drawn with its figure. -/
theorem figuresDevice (icons : IconSet) (d : Device α) :
    FiguresDevice icons d (deviceCalls icons d) := by
  unfold deviceCalls IconSet.get?
  cases hstate : icons.state d.kind with
  | loaded icon => exact .icon hstate
  | pending => exact .shape fun icon h => nomatch hstate.symm.trans h
  | failed => exact .shape fun icon h => nomatch hstate.symm.trans h

/-- A frame leaves nothing out where all ends exist and all particles ride on enabled connections. -/
theorem frame_render {t : Topology α} {particles : List (Particle α)}
    (hends : ∀ c ∈ t.connections, ∃ a b, t.endpoints c = some (a, b))
    (hride : ∀ p ∈ particles, ∃ c, t.connections[p.connection]? = some c ∧ c.enabled = true)
    (icons : IconSet) : Frame t particles icons (render t particles icons) := by
  refine ⟨t.connections.map (connectionCalls t), particles.map (particleCalls t),
    t.devices.map (deviceCalls icons), ?_, ?_, ?_, ?_⟩
  · rw [render, List.flatMap_def, List.flatMap_def, List.flatMap_def]
  · rw [List.forall₂_map_right_iff, List.forall₂_same]
    intro c hc
    obtain ⟨a, b, h⟩ := hends c hc
    exact strokesConnection h
  · rw [List.forall₂_map_right_iff, List.forall₂_same]
    intro p hp
    obtain ⟨c, hc, henabled⟩ := hride p hp
    obtain ⟨a, b, h⟩ := hends c (List.mem_of_getElem? hc)
    rw [particleCalls_eq hc henabled h]
    exact .mk hc henabled h rfl
  · rw [List.forall₂_map_right_iff, List.forall₂_same]
    exact fun d _ => figuresDevice icons d

end Scene

/-! ## The frames of an engine -/

namespace Engine

/-- Both ends of every connection of a coherent engine exist. -/
theorem Coherent.exists_endpoints {e : Engine α} (h : e.Coherent) {c : Connection α}
    (hc : c ∈ e.topology.connections) : ∃ a b, e.topology.endpoints c = some (a, b) := by
  rcases h.topology_cases with htopology | ⟨s, htopology⟩
  · rw [htopology] at hc
    cases hc
  · rw [htopology] at hc ⊢
    obtain ⟨a, b, hends, -⟩ :=
      Topology.next_layer_of_mem s.config s.stats s.identities e.layout hc
    exact ⟨a, b, hends⟩

/-- A coherent engine leaves nothing out. -/
theorem Coherent.frame {e : Engine α} (h : e.Coherent) :
    Scene.Frame e.topology e.field.particles e.icons e.render :=
  Scene.frame_render (fun _ hc => h.exists_endpoints hc) (fun _ hp => h.enabled_of_mem hp) e.icons

/-- In every state that a fresh engine reaches, a frame shows the background, then every connection,
every particle and every device of its topology in order, and leaves none of them out. -/
theorem frame_of_run (width height : α) (options : EngineOptions α) (generator : Generator)
    (calls : List (Call α)) :
    let e := (fresh width height options generator).run calls
    Scene.Frame e.topology e.field.particles e.icons e.render := by
  intro e
  have h : e.Coherent := (coherent_fresh width height options generator).run calls
  exact h.frame

end Engine

end TrafficMap
