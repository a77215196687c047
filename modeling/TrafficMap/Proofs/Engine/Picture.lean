import Mathlib
import TrafficMap.Proofs.Engine.Run
import TrafficMap.Proofs.Particle.Population

/-!
# The picture belongs to the snapshot

Topology, layout, snapshot and particles are separate fields of an engine, and most calls touch
some of them. They stay `Coherent`: the topology is the one that the snapshot calls for in the
present layout, and every enabled connection of it carries the particles that its load calls for.
A call keeps this (`Coherent.next`), so it holds after every run (`picture_of_run`).
-/

namespace TrafficMap.Engine

variable {α : Type} [Scalar α]

/-- The topology that the snapshot of an engine calls for in its layout. Without a snapshot there is
nothing to show. -/
def pictured (e : Engine α) : Topology α :=
  match e.snapshot with
  | some s => Topology.build s.config s.stats s.identities e.layout
  | none => {}

/-- An engine that shows what its snapshot calls for. -/
structure Coherent (e : Engine α) : Prop where
  topology : e.topology = e.pictured
  particles : e.field.particles.map (·.connection)
    = e.topology.carried fun load => (FlowProfile.ofLoad load).count

theorem coherent_fresh (width height : α) (options : EngineOptions α) (generator : Generator) :
    (fresh width height options generator).Coherent :=
  ⟨rfl, rfl⟩

/-- Building again makes an engine with a snapshot coherent, whatever it showed before; without a
snapshot it leaves the engine as it is. -/
theorem coherent_rebuild (e : Engine α) (h : e.snapshot = none → e.Coherent) :
    e.rebuild.Coherent := by
  unfold rebuild
  split
  · next hnone => exact h hnone
  · next s hsome =>
    refine ⟨?_, ParticleField.populate_connection _ _⟩
    simp only [pictured, hsome]

namespace Coherent

/-- An outcome keeps what is shown true to the snapshot. -/
theorem apply {e : Engine α} (h : e.Coherent) (now : Nat) (outcome : Outcome) :
    (e.apply now outcome).2.Coherent := by
  by_cases hnew : outcome.generation ≤ e.generation
  · rw [apply_of_le e now hnew]
    exact h
  · cases hresult : outcome.result with
    | ok snapshot =>
      rw [apply_of_ok e now (UInt64.not_le.1 hnew) hresult]
      have hbuilt := coherent_rebuild
        { e with generation := outcome.generation, snapshot := some snapshot }
        (fun hnone => nomatch hnone)
      -- the engine that was built differs from the result in times and failures only
      exact ⟨hbuilt.topology, hbuilt.particles⟩
    | error failure =>
      rw [apply_of_error e now (UInt64.not_le.1 hnew) hresult]
      exact ⟨h.topology, h.particles⟩

/-- So does a resize. -/
theorem resize {e : Engine α} (h : e.Coherent) (width height : α) :
    (e.resize width height).2.Coherent := by
  rcases e.resize_eq width height with hsame | ⟨layout, hbuilt⟩
  · rw [hsame]
    exact h
  · rw [hbuilt]
    apply coherent_rebuild
    intro hnone
    -- without a snapshot nothing is shown, in this layout and in every other one
    have hsnapshot : e.snapshot = none := hnone
    refine ⟨?_, h.particles⟩
    simp only [h.topology, pictured, hsnapshot]

/-- After a teardown there is nothing to be true to. -/
theorem teardown (e : Engine α) : e.teardown.Coherent :=
  ⟨rfl, rfl⟩

theorem withParticles {e : Engine α} (h : e.Coherent) (field : ParticleField α) :
    (e.withParticles field).Coherent :=
  ⟨h.topology, ParticleField.populate_connection _ _⟩

theorem advance {e : Engine α} (h : e.Coherent) (nanos : Nat) : (e.advance nanos).Coherent :=
  ⟨h.topology, (ParticleField.advance_connection _ _ _).trans h.particles⟩

/-- Every call keeps an engine coherent. -/
theorem next {e : Engine α} (h : e.Coherent) (call : Call α) : (e.next call).Coherent := by
  cases call with
  | apply now outcome => exact h.apply now outcome
  | resize width height => exact h.resize width height
  | advance nanos => exact h.advance nanos
  | setSpeed speed => exact ⟨h.topology, h.particles⟩
  | applyIcon kind result => exact ⟨h.topology, h.particles⟩
  | withParticles field => exact h.withParticles field
  | teardown => exact Coherent.teardown e
  | render => exact h

/-- Every run keeps an engine coherent. -/
theorem run {e : Engine α} (h : e.Coherent) (calls : List (Call α)) : (e.run calls).Coherent :=
  run_keeps (fun _ call he => he.next call) h calls

/-- A coherent engine shows nothing, or a report in its layout. -/
theorem topology_cases {e : Engine α} (h : e.Coherent) :
    e.topology = {} ∨
      ∃ s : Snapshot, e.topology = Topology.build s.config s.stats s.identities e.layout := by
  rw [h.topology, pictured]
  cases e.snapshot with
  | none => exact Or.inl rfl
  | some s => exact Or.inr ⟨s, rfl⟩

/-- The particles of a coherent engine ride on enabled connections of its topology. -/
theorem enabled_of_mem {e : Engine α} (h : e.Coherent) {p : Particle α}
    (hp : p ∈ e.field.particles) :
    ∃ c, e.topology.connections[p.connection]? = some c ∧ c.enabled = true := by
  have hcarried : p.connection ∈ e.field.particles.map (·.connection) := List.mem_map_of_mem hp
  -- the positions of the particles are those that the topology calls for
  rw [h.particles] at hcarried
  exact Topology.exists_of_mem_carried hcarried

end Coherent

/-- After every run of a fresh engine the topology is the one that the snapshot calls for in the
present layout, every enabled connection carries as many particles as its usage ratio calls for, in
the order of the connections, and no other connection carries any. -/
theorem picture_of_run (width height : Float) (options : EngineOptions Float)
    (generator : Generator) (calls : List (Call Float)) :
    let e := (fresh width height options generator).run calls
    e.topology = e.pictured ∧
      e.field.particles.map (·.connection)
        = e.topology.carried (fun load => FlowProfile.particleCount load.ratio) ∧
      ∀ p ∈ e.field.particles,
        ∃ c, e.topology.connections[p.connection]? = some c ∧ c.enabled = true := by
  intro e
  have h : e.Coherent := (coherent_fresh width height options generator).run calls
  have hcount : (fun load : LinkLoad Float => (FlowProfile.ofLoad load).count)
      = fun load => FlowProfile.particleCount load.ratio :=
    funext FlowProfile.count_ofLoad
  refine ⟨h.topology, ?_, fun p hp => h.enabled_of_mem hp⟩
  rw [h.particles, hcount]

end TrafficMap.Engine
