import Mathlib
import TrafficMap.Proofs.Engine.Picture

/-!
# A teardown is for good

A teardown drops the snapshot and sets the generation to the largest one that there is. No outcome is
newer than that (`le_lastGeneration`), so the engine never holds a snapshot again
(`Memory.Closed.step`); and an engine that shows what its snapshot calls for shows nothing without
one (`Coherent.eq_empty`). Together they say what every run after a teardown finds: an engine that is
empty and discards every outcome (`empty_of_teardown`).
-/

namespace TrafficMap.Engine

variable {α : Type}

/-- No generation comes after the largest one. -/
theorem le_lastGeneration (generation : UInt64) : generation ≤ lastGeneration :=
  UInt64.le_iff_toNat_le.2 (Nat.le_of_lt_succ generation.toNat_lt)

/-- What an engine remembers after a teardown: nothing to show, and a generation that no outcome
exceeds. -/
structure Memory.Closed (m : Memory) : Prop where
  generation : m.generation = lastGeneration
  snapshot : m.snapshot = none

/-- No outcome is newer than a closed memory. -/
theorem Memory.Closed.not_newer {m : Memory} (h : m.Closed) (outcome : Outcome) :
    ¬m.generation < outcome.generation := by
  rw [h.generation]
  exact UInt64.not_lt.2 (le_lastGeneration _)

/-- No call opens a closed memory again. -/
theorem Memory.Closed.step {m m' : Memory} {call : Call α} {receipt : Option Receipt}
    (h : m.Closed) (hstep : Memory.Step m call receipt m') : m'.Closed := by
  cases hstep with
  | success now outcome snapshot hnew hresult => exact absurd hnew (h.not_newer outcome)
  | failure now outcome failure hnew hresult => exact absurd hnew (h.not_newer outcome)
  | teardown => exact ⟨rfl, rfl⟩
  | quiet => exact h

variable [Scalar α]

/-- A coherent engine without a snapshot shows nothing. -/
theorem Coherent.eq_empty {e : Engine α} (h : e.Coherent) (hnone : e.snapshot = none) :
    e.topology = {} ∧ e.field.particles = [] := by
  have htopology : e.topology = {} := by
    rw [h.topology, pictured, hnone]
  refine ⟨htopology, ?_⟩
  have hcarried := h.particles
  rw [htopology] at hcarried
  -- an empty topology has no connection that could carry a particle
  exact List.map_eq_nil_iff.mp hcarried

/-- Every run after a teardown keeps the memory closed. -/
theorem closed_of_teardown (e : Engine α) (calls : List (Call α)) :
    (e.teardown.run calls).memory.Closed :=
  run_keeps (P := fun e => e.memory.Closed) (fun e call h => h.step (e.memory_step call))
    ⟨rfl, rfl⟩ calls

/-- After a teardown, whatever is called later, there are no devices, no connections and no particles,
no snapshot is held, and every outcome is discarded. -/
theorem empty_of_teardown (e : Engine α) (calls : List (Call α)) :
    (e.teardown.run calls).topology.devices = [] ∧
      (e.teardown.run calls).topology.connections = [] ∧
      (e.teardown.run calls).field.particles = [] ∧
      (e.teardown.run calls).snapshot = none ∧
      ∀ before now outcome after, calls = before ++ .apply now outcome :: after →
        ((e.teardown.run before).apply now outcome).1 = .discarded := by
  have hnone := (closed_of_teardown e calls).snapshot
  obtain ⟨htopology, hparticles⟩ := ((Coherent.teardown e).run calls).eq_empty hnone
  refine ⟨?_, ?_, hparticles, hnone, ?_⟩
  · rw [htopology]
  · rw [htopology]
  · intro before now outcome after _
    have hold := (closed_of_teardown e before).not_newer outcome
    rw [apply_of_le _ now (UInt64.not_lt.1 hold)]

/-- A loaded engine is torn down; neither the latest outcome that there can be, nor another size, nor
new particles bring the picture back. -/
theorem empty_of_teardown_late :
    let e : Engine Float := (fresh 1200.0 700.0 .standard (.ofSeed 1)).run [.apply 0 ⟨1, .ok {}⟩]
    let calls : List (Call Float) :=
      [.apply 10 ⟨lastGeneration, .ok {}⟩, .resize 600.0 400.0, .withParticles (.ofSeed 2),
        .advance 16666667, .teardown, .apply 20 ⟨2, .error .timeout⟩]
    (e.teardown.run calls).topology.devices = [] ∧
      (e.teardown.run calls).field.particles = [] ∧
      (e.teardown.apply 10 ⟨lastGeneration, .ok {}⟩).1 = .discarded := by
  intro e calls
  obtain ⟨hdevices, -, hparticles, -, hdiscarded⟩ := empty_of_teardown e calls
  exact ⟨hdevices, hparticles, hdiscarded [] 10 _ _ rfl⟩

end TrafficMap.Engine
