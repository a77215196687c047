import Mathlib
import TrafficMap.Proofs.Engine.Frame
import TrafficMap.Proofs.Particle.Bands
import TrafficMap.Proofs.Topology.Plane

/-!
# Particles are drawn on their connections

Read back from the calls of a frame, the lines that were stroked are the routes of the connections in
their order, and the circles come in pairs, one pair for every particle (`Scene.Frame.strokedLines`,
`Scene.Frame.forall₂_circleCenters`). In exact arithmetic an engine keeps a surface with sides that are
numbers, so all places are points of the plane, and particles that ride in the bands of its topology
(`Engine.Located`); so every circle has its centre near the line of its own connection, after every run
(`circles_of_run`).
-/

namespace TrafficMap

namespace Scene

/-! ## What a frame shows, read back from its calls -/

section

variable {α : Type}

/-- The lines that calls stroke, by their corners, given those of the path that was begun before. -/
def strokedLines (corners : List (Point α)) : List (DrawCall α) → List (List (Point α))
  | [] => []
  | .beginPath :: calls => strokedLines [] calls
  | .moveTo p :: calls => strokedLines (corners ++ [p]) calls
  | .lineTo p :: calls => strokedLines (corners ++ [p]) calls
  | .stroke _ :: calls => corners :: strokedLines corners calls
  | _ :: calls => strokedLines corners calls

/-- The centre of a call that draws a circle. -/
def circleCenter? : DrawCall α → Option (Point α)
  | .circle center _ _ => some center
  | _ => none

/-- The centres of the circles that calls draw. -/
def circleCenters (calls : List (DrawCall α)) : List (Point α) :=
  calls.filterMap circleCenter?

/-- The circles of two parts of a frame, one after the other. -/
theorem circleCenters_append (calls rest : List (DrawCall α)) :
    circleCenters (calls ++ rest) = circleCenters calls ++ circleCenters rest :=
  List.filterMap_append

theorem circleCenters_lineTo (ps : List (Point α)) :
    circleCenters (ps.map .lineTo) = [] := by
  induction ps with
  | nil => rfl
  | cons p ps ih => exact ih

/-- Points are added to the line that is drawn next. -/
theorem strokedLines_lineTo (corners ps : List (Point α)) (calls : List (DrawCall α)) :
    strokedLines corners (ps.map .lineTo ++ calls) = strokedLines (corners ++ ps) calls := by
  induction ps generalizing corners with
  | nil =>
    rw [List.append_nil]
    rfl
  | cons p ps ih =>
    rw [List.map_cons, List.cons_append, strokedLines, ih, List.append_assoc]
    rfl

variable [Scalar α]

/-- The corners of the route of a connection. -/
def routeCorners (t : Topology α) (c : Connection α) : List (Point α) :=
  ((t.route? c).map Path.points).getD []

variable {t : Topology α}

/-- The line of a connection is the route between its ends. -/
theorem routeCorners_of_endpoints {c : Connection α} {a b : Device α}
    (h : t.endpoints c = some (a, b)) :
    routeCorners t c = (Path.route a.position b.position).points := by
  rw [routeCorners, route?_of_endpoints h]
  rfl

/-- A connection strokes its route. -/
theorem StrokesConnection.strokedLines {c : Connection α} {calls : List (DrawCall α)}
    (h : StrokesConnection t c calls) (corners : List (Point α)) (rest : List (DrawCall α)) :
    strokedLines corners (calls ++ rest)
      = routeCorners t c :: strokedLines (routeCorners t c) rest := by
  obtain ⟨hends, hroute⟩ := h
  rw [routeCorners_of_endpoints hends, hroute]
  simp only [List.cons_append, List.append_assoc, Scene.strokedLines, strokedLines_lineTo,
    List.nil_append]

/-- Of each connection one line is stroked. -/
theorem strokedLines_connections {cs : List (Connection α)} {lines : List (List (DrawCall α))}
    (h : List.Forall₂ (StrokesConnection t) cs lines) (corners : List (Point α))
    (rest : List (DrawCall α)) :
    ∃ last, strokedLines corners (lines.flatten ++ rest)
      = cs.map (routeCorners t) ++ strokedLines last rest := by
  -- a path that was stroked is still there when the next one is begun
  induction h generalizing corners with
  | nil => exact ⟨corners, rfl⟩
  | @cons c calls cs lines hc _ ih =>
    obtain ⟨last, hlast⟩ := ih (routeCorners t c)
    refine ⟨last, ?_⟩
    rw [List.flatten_cons, List.append_assoc, hc.strokedLines, hlast]
    rfl

/-- Particles and devices stroke no line. -/
theorem strokedLines_particles {ps : List (Particle α)} {dots : List (List (DrawCall α))}
    (h : List.Forall₂ (DotsParticle t) ps dots) (corners : List (Point α))
    (rest : List (DrawCall α)) :
    strokedLines corners (dots.flatten ++ rest) = strokedLines corners rest := by
  induction h with
  | nil => rfl
  | cons hp _ ih =>
    -- both calls of the particle are circles
    obtain ⟨-, -, -, -⟩ := hp
    exact ih

/-- No line is stroked for a device. -/
theorem strokedLines_devices {icons : IconSet} {ds : List (Device α)}
    {figures : List (List (DrawCall α))} (h : List.Forall₂ (FiguresDevice icons) ds figures)
    (corners : List (Point α)) : strokedLines corners figures.flatten = [] := by
  induction h with
  | nil => rfl
  | cons hd _ ih =>
    cases hd with
    | icon => exact ih
    | shape => exact ih

/-- The lines of a frame are the routes of the connections in order. -/
theorem Frame.strokedLines {ps : List (Particle α)} {icons : IconSet} {calls : List (DrawCall α)}
    (h : Frame t ps icons calls) :
    Scene.strokedLines [] calls = t.connections.map (routeCorners t) := by
  obtain ⟨lines, dots, figures, rfl, hlines, hdots, hfigures⟩ := h
  obtain ⟨last, hlast⟩ := strokedLines_connections hlines [] (dots.flatten ++ figures.flatten)
  rw [strokedLines_particles hdots, strokedLines_devices hfigures, List.append_nil] at hlast
  rw [← hlast, ← List.append_assoc]
  rfl

/-- The circles of a frame are two for every particle, around the point where it is on the route of its
connection. -/
theorem forall₂_circleCenters {R : Particle α → Point α → Prop} {ps : List (Particle α)}
    {dots : List (List (DrawCall α))} (h : List.Forall₂ (DotsParticle t) ps dots)
    (hR : ∀ p ∈ ps, ∀ c a b, t.connections[p.connection]? = some c → t.endpoints c = some (a, b) →
      R p ((Path.route a.position b.position).pointAtOffset p.progress p.lateral)) :
    List.Forall₂ R (ps.flatMap fun p => [p, p]) (circleCenters dots.flatten) := by
  induction h with
  | nil => exact .nil
  | cons hp _ ih =>
    have htail := ih fun q hq => hR q (List.mem_cons_of_mem _ hq)
    obtain ⟨hc, henabled, hends, rfl⟩ := hp
    have hcenter := hR _ List.mem_cons_self _ _ _ hc hends
    exact .cons hcenter (.cons hcenter htail)

/-- No circle is drawn for a connection. -/
theorem StrokesConnection.circleCenters {c : Connection α} {calls : List (DrawCall α)}
    (h : StrokesConnection t c calls) : circleCenters calls = [] := by
  obtain @⟨a, b, corners, hends, hroute⟩ := h
  have hmoves : Scene.circleCenters (.beginPath :: .moveTo a.position :: corners.map .lineTo) = [] :=
    circleCenters_lineTo corners
  rw [circleCenters_append, hmoves]
  rfl

/-- Nor are circles drawn for all of them. -/
theorem circleCenters_connections {cs : List (Connection α)} {lines : List (List (DrawCall α))}
    (h : List.Forall₂ (StrokesConnection t) cs lines) : circleCenters lines.flatten = [] := by
  induction h with
  | nil => rfl
  | cons hc _ ih =>
    rw [List.flatten_cons, circleCenters_append, hc.circleCenters, ih, List.append_nil]

/-- No circle is drawn for a device. -/
theorem circleCenters_devices {icons : IconSet} {ds : List (Device α)}
    {figures : List (List (DrawCall α))} (h : List.Forall₂ (FiguresDevice icons) ds figures) :
    circleCenters figures.flatten = [] := by
  induction h with
  | nil => rfl
  | cons hd _ ih =>
    cases hd with
    | icon => exact ih
    | shape => exact ih

/-- The circles of a frame belong to the particles in order, two to each. -/
theorem Frame.forall₂_circleCenters {R : Particle α → Point α → Prop} {ps : List (Particle α)}
    {icons : IconSet} {calls : List (DrawCall α)} (h : Frame t ps icons calls)
    (hR : ∀ p ∈ ps, ∀ c a b, t.connections[p.connection]? = some c → t.endpoints c = some (a, b) →
      R p ((Path.route a.position b.position).pointAtOffset p.progress p.lateral)) :
    List.Forall₂ R (ps.flatMap fun p => [p, p]) (circleCenters calls) := by
  obtain ⟨lines, dots, figures, rfl, hlines, hdots, hfigures⟩ := h
  have hcenters : circleCenters (.clear Palette.background ::
      (lines.flatten ++ dots.flatten ++ figures.flatten)) = circleCenters dots.flatten :=
    calc circleCenters (.clear Palette.background ::
          (lines.flatten ++ dots.flatten ++ figures.flatten))
        = circleCenters (lines.flatten ++ dots.flatten ++ figures.flatten) := rfl
      _ = circleCenters dots.flatten := by
          rw [circleCenters_append, circleCenters_append, circleCenters_connections hlines,
            circleCenters_devices hfigures, List.nil_append, List.append_nil]
  rw [hcenters]
  exact Scene.forall₂_circleCenters hdots hR

end

end Scene

/-! ## Circles in a run of an engine -/

open Exact

namespace Engine

/-- An engine with a surface in the plane and particles that ride on its topology. -/
structure Located (e : Engine Exact) : Prop where
  layout : e.layout.Proper
  rides : e.field.Rides e.topology

/-- A fresh engine has no particles that could be somewhere else. -/
theorem located_fresh (width height : Exact) (options : EngineOptions Exact) (generator : Generator) :
    (fresh width height options generator).Located :=
  ⟨Layout.proper_ofSize width height, fun _ hp => absurd hp List.not_mem_nil⟩

namespace Located

variable {e : Engine Exact}

/-- Particles are put on the connections that were built. -/
theorem rebuild (h : e.Located) : e.rebuild.Located := by
  unfold Engine.rebuild
  split
  · exact h
  · exact ⟨h.layout, ParticleField.rides_populate _ _⟩

theorem apply (h : e.Located) (now : Nat) (outcome : Outcome) : (e.apply now outcome).2.Located := by
  by_cases hnew : e.generation < outcome.generation
  · cases hresult : outcome.result with
    | ok snapshot =>
      rw [apply_of_ok e now hnew hresult]
      have hbuilt := rebuild (e := { e with
        generation := outcome.generation, snapshot := some snapshot }) ⟨h.layout, h.rides⟩
      exact ⟨hbuilt.layout, hbuilt.rides⟩
    | error failure =>
      rw [apply_of_error e now hnew hresult]
      exact ⟨h.layout, h.rides⟩
  · rw [apply_of_le e now (UInt64.not_lt.1 hnew)]
    exact h

theorem resize (h : e.Located) (width height : Exact) : (e.resize width height).2.Located := by
  unfold Engine.resize
  dsimp only
  split_ifs
  · exact h
  · exact rebuild ⟨Layout.proper_ofSize width height, h.rides⟩

/-- Every call keeps the particles on the topology. -/
theorem next (h : e.Located) (call : Call Exact) : (e.next call).Located := by
  cases call with
  | apply now outcome => exact h.apply now outcome
  | resize width height => exact h.resize width height
  | advance nanos => exact ⟨h.layout, h.rides.advance nanos e.speed⟩
  | setSpeed speed => exact ⟨h.layout, h.rides⟩
  | applyIcon kind result => exact ⟨h.layout, h.rides⟩
  | withParticles field => exact ⟨h.layout, ParticleField.rides_populate _ _⟩
  | teardown => exact ⟨h.layout, ParticleField.rides_clear _ _⟩
  | render => exact h

/-- Particles are where they belong after every run. -/
theorem run (h : e.Located) (calls : List (Call Exact)) : (e.run calls).Located :=
  run_keeps (fun _ call he => he.next call) h calls

end Located

/-- All devices of a coherent engine on a surface in the plane stand in it. -/
theorem Coherent.proper_position {e : Engine Exact} (h : e.Coherent) (hlayout : e.layout.Proper)
    {d : Device Exact} (hd : d ∈ e.topology.devices) : d.position.Proper := by
  rcases h.topology_cases with htopology | ⟨s, htopology⟩
  · rw [htopology] at hd
    cases hd
  · rw [htopology] at hd
    exact Topology.proper_position s.config s.stats s.identities hlayout hd

end Engine

/-- Whether a circle belongs to a particle: its centre is near a point of the line that was stroked for
the connection of the particle, which is the route between the ends of that connection. -/
def Topology.Hugs (t : Topology Exact) (lines : List (List (Point Exact))) (p : Particle Exact)
    (center : Point Exact) : Prop :=
  ∃ c a b line q, t.connections[p.connection]? = some c ∧ t.endpoints c = some (a, b) ∧
    lines[p.connection]? = some line ∧ line = (Path.route a.position b.position).points ∧
    q.OnLine line ∧ center.distance q ≤ ParticleField.lateralSpread

namespace Engine

/-- In every state that a fresh engine reaches, a frame draws two circles for every particle in order,
with their centre within the lateral spread of a point on the line that the same frame strokes for the
connection of the particle. -/
theorem circles_of_run (width height : Exact) (options : EngineOptions Exact) (generator : Generator)
    (calls : List (Call Exact)) :
    let e := (fresh width height options generator).run calls
    List.Forall₂ (e.topology.Hugs (Scene.strokedLines [] e.render))
      (e.field.particles.flatMap fun p => [p, p]) (Scene.circleCenters e.render) := by
  intro e
  have hcoherent : e.Coherent := (coherent_fresh width height options generator).run calls
  have hlocated : e.Located := (located_fresh width height options generator).run calls
  have hframe := hcoherent.frame
  apply hframe.forall₂_circleCenters
  intro p hp c a b hc hends
  obtain ⟨_, -, -, hband⟩ := hlocated.rides p hp
  obtain ⟨x, hx, -⟩ := hband.exists_progress
  obtain ⟨l, hl, hlateral⟩ := hband.exists_lateral
  -- the line is the route of the connection
  have hline : (Scene.strokedLines [] e.render)[p.connection]?
      = some (Path.route a.position b.position).points := by
    rw [hframe.strokedLines, List.getElem?_map, hc, Option.map_some,
      Scene.routeCorners_of_endpoints hends]
  -- its corners are in the plane, so the point where the particle is lies on it
  obtain ⟨ha, hb⟩ := Topology.endpoints_eq_some_iff.mp hends
  have hproper := Path.proper_route
    (hcoherent.proper_position hlocated.layout (List.mem_of_getElem? ha))
    (hcoherent.proper_position hlocated.layout (List.mem_of_getElem? hb))
  obtain ⟨q, hon, hnear⟩ := Path.exists_near hproper x hlateral
  rw [← hx, ← hl, ← two_eq] at hnear
  exact ⟨c, a, b, _, q, hc, hends, hline, rfl, hon, hnear⟩

end Engine

end TrafficMap
