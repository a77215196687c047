import Mathlib
import TrafficMap.Proofs.Engine.Picture
import TrafficMap.Proofs.Topology.Placement

/-!
# Resizing an engine

A resize lays the same report out on another surface. It leaves the snapshot alone
(`snapshot_resizes`), so after any number of resizes the picture is the one before but for the places
of the devices, and these are the places on the last surface (`layout_resize`). A surface that
compares as the same one is not laid out again, so they may differ from those in the sign of a zero.
-/

namespace TrafficMap.Engine

variable {α : Type}

/-- A resize to every one of the sizes, in order. -/
def resizes (sizes : List (α × α)) : List (Call α) :=
  sizes.map fun size => .resize size.1 size.2

variable [Scalar α]

theorem run_append (e : Engine α) (before after : List (Call α)) :
    e.run (before ++ after) = (e.run before).run after :=
  List.foldl_append

/-- Resizes keep the snapshot. -/
theorem snapshot_resizes (e : Engine α) (sizes : List (α × α)) :
    (e.run (resizes sizes)).snapshot = e.snapshot := by
  induction sizes generalizing e with
  | nil => rfl
  | cons size sizes ih =>
    rw [resizes, List.map_cons, run_cons]
    exact (ih _).trans (congrArg Memory.snapshot (e.memory_resize size.1 size.2))

/-- Two coherent engines with one snapshot show the same topology but for the places of the devices,
which are related if they are so in every report. -/
theorem Coherent.redrawn {R : Point α → Point α → Prop} {e e' : Engine α} (he : e.Coherent)
    (he' : e'.Coherent) (hsnapshot : e'.snapshot = e.snapshot)
    (hbuild : ∀ config stats identities,
      Topology.Redrawn R (Topology.build config stats identities e.layout)
        (Topology.build config stats identities e'.layout)) :
    Topology.Redrawn R e.topology e'.topology := by
  rw [he.topology, he'.topology, pictured, pictured, hsnapshot]
  cases e.snapshot with
  | none => exact ⟨.nil, rfl, rfl⟩
  | some s => exact hbuild s.config s.stats s.identities

/-- The particles of a coherent engine ride on connections that the topology tells. -/
theorem Coherent.map_connection {e e' : Engine α} (he : e.Coherent) (he' : e'.Coherent)
    (h : e'.topology.connections = e.topology.connections) :
    e'.field.particles.map (·.connection) = e.field.particles.map (·.connection) := by
  rw [he.particles, he'.particles, Topology.carried, Topology.carried, h]

/-- A resize leaves the layout of the surface, or one that compares as the same. -/
theorem layout_resize (e : Engine Float) (width height : Float) :
    (e.resize width height).2.layout.Agree (Layout.ofSize width height) := by
  unfold resize
  dsimp only
  split
  · next hsame =>
    obtain ⟨hwidth, hheight⟩ := Bool.and_eq_true_iff.mp hsame
    exact ⟨(Binary64.agree_of_same hwidth).symm, (Binary64.agree_of_same hheight).symm⟩
  · obtain ⟨topology, revision, field, hbuilt⟩ :=
      rebuild_eq { e with layout := Layout.ofSize width height }
    rw [hbuilt]
    exact ⟨.refl _, .refl _⟩

/-- In any two layouts a report is the same topology but for the places of the devices. So resizes
of an engine, in any state that a fresh one reaches, leave the keys of the devices, the connections
with their usage ratios, and the number of particles on every connection as they are; and in the end
the devices stand where the last resize alone would have put them, up to the sign of a zero. -/
theorem redrawn_of_resizes (width height : Float) (options : EngineOptions Float)
    (generator : Generator) (calls : List (Call Float)) (sizes : List (Float × Float))
    (size : Float × Float) :
    let e := (fresh width height options generator).run calls
    let resized := e.run (resizes sizes)
    (∀ config stats identities, ∀ layout layout' : Layout Float,
      Topology.Redrawn (fun _ _ => True) (Topology.build config stats identities layout)
        (Topology.build config stats identities layout')) ∧
      Topology.Redrawn (fun _ _ => True) e.topology resized.topology ∧
      resized.topology.devices.map (·.id) = e.topology.devices.map (·.id) ∧
      resized.topology.connections = e.topology.connections ∧
      resized.field.particles.map (·.connection) = e.field.particles.map (·.connection) ∧
      Topology.Redrawn Point.Agree (e.run (resizes [size])).topology
        (e.run (resizes (sizes ++ [size]))).topology := by
  intro e resized
  have he : e.Coherent := (coherent_fresh width height options generator).run calls
  have hresized : resized.Coherent := he.run (resizes sizes)
  have hredrawn : Topology.Redrawn (fun _ _ => True) e.topology resized.topology :=
    he.redrawn hresized (snapshot_resizes e sizes) fun config stats identities =>
      Topology.redrawn_build_any config stats identities _ _
  refine ⟨Topology.redrawn_build_any, hredrawn, hredrawn.map_id, hredrawn.connections,
    he.map_connection hresized hredrawn.connections, ?_⟩
  have hlast : e.run (resizes (sizes ++ [size])) = (resized.resize size.1 size.2).2 := by
    rw [resizes, List.map_append, run_append]
    rfl
  rw [hlast]
  refine (he.run _).redrawn (hresized.resize ..) ?_ fun config stats identities => ?_
  · rw [snapshot_resizes]
    exact (congrArg Memory.snapshot (resized.memory_resize _ _)).trans (snapshot_resizes e sizes)
  · apply Topology.redrawn_build_of_agree
    -- both engines were given the last size at the end
    have halone := e.layout_resize size.1 size.2
    have hend := resized.layout_resize size.1 size.2
    exact ⟨halone.1.trans hend.1.symm, halone.2.trans hend.2.symm⟩

end TrafficMap.Engine
