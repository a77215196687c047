import Mathlib
import TrafficMap.Particle.Field
import TrafficMap.Proofs.Number.Division

/-!
# Which connections carry particles

`Topology.carried` lists, for every particle that a topology should have, the position of its
connection. Filling a topology puts exactly these particles on it (`populate_connection`) and
moving them on keeps each where it is (`advance_connection`). Over floats the number of particles
of a connection is that of its usage ratio as it stands (`count_ofLoad`).
-/

namespace TrafficMap

/-! ## The number of particles of a connection -/

namespace FlowProfile

/-- A ratio that was moved into the range from 0 to 1 stays where it is. -/
theorem unitRatio_unitRatio (ratio : Float) : unitRatio (unitRatio ratio) = unitRatio ratio := by
  have hzero : unitRatio (0.0 : Float) = 0.0 := rfl
  have hone : unitRatio (1.0 : Float) = 1.0 := rfl
  by_cases hfinite : Scalar.isFinite ratio = true
  · have hclamp : unitRatio ratio = Scalar.clamp ratio 0.0 1.0 := by
      rw [unitRatio, if_pos hfinite]
    by_cases hlow : ratio < 0.0
    · have hratio : unitRatio ratio = 0.0 := by
        rw [hclamp, Scalar.clamp, if_pos hlow]
        rfl
      rw [hratio, hzero]
    · by_cases hhigh : 1.0 < ratio
      · have hratio : unitRatio ratio = 1.0 := by
          rw [hclamp, Scalar.clamp, if_neg hlow]
          exact if_pos hhigh
        rw [hratio, hone]
      · have hratio : unitRatio ratio = ratio := by
          rw [hclamp, Scalar.clamp, if_neg hlow]
          exact if_neg hhigh
        rw [hratio, hratio]
  · have hratio : unitRatio ratio = 0.0 := by rw [unitRatio, if_neg hfinite]
    rw [hratio, hzero]

/-- Compared with one, a ratio is moved into the range from 0 to 1 and not rounded. -/
theorem usageRatio_one (ratio : Float) : usageRatio ratio 1.0 = unitRatio ratio := by
  have hmax : Scalar.max (1.0 : Float) 1.0 = 1.0 := rfl
  have hdiv : ratio / 1.0 = ratio := Binary64.div_one ratio
  simp only [usageRatio, hmax]
  -- the quotient is opened to its float division, which is where rounding could come in
  show (if Scalar.isFinite (ratio / 1.0) = true then Scalar.clamp (ratio / 1.0) 0.0 1.0 else 0.0)
    = unitRatio ratio
  rw [hdiv, unitRatio]

/-- A connection has as many particles as its usage ratio calls for. -/
theorem count_ofLoad (load : LinkLoad Float) : (ofLoad load).count = particleCount load.ratio := by
  simp only [ofLoad, ofRatio, usageRatio_one, particleCount, unitRatio_unitRatio]

end FlowProfile

variable {α : Type}

/-! ## The particles that a topology should have -/

namespace Topology

/-- For every particle of a topology, connection by connection, the position of its connection: an
enabled connection has as many as its load calls for, a disabled one has none. -/
def carried (count : LinkLoad α → Nat) (t : Topology α) : List Nat :=
  t.connections.zipIdx.flatMap fun (c, i) => List.replicate (if c.enabled then count c.load else 0) i

/-- Only enabled connections of the topology carry particles. -/
theorem exists_of_mem_carried {count : LinkLoad α → Nat} {t : Topology α} {i : Nat}
    (h : i ∈ t.carried count) : ∃ c, t.connections[i]? = some c ∧ c.enabled = true := by
  rw [carried, List.mem_flatMap] at h
  obtain ⟨⟨c, j⟩, hc, hi⟩ := h
  rw [List.mem_replicate] at hi
  obtain ⟨hcount, rfl⟩ := hi
  refine ⟨c, List.mem_zipIdx_iff_getElem?.mp hc, ?_⟩
  by_contra hdisabled
  exact hcount (if_neg hdisabled)

end Topology

/-! ## The particles that it has -/

namespace ParticleField

variable [Scalar α]

/-- All particles that are drawn for a connection belong to it. -/
theorem drawMany_connection (connection : Nat) (profile : FlowProfile α) (n : Nat) (g : Generator) :
    (drawMany connection profile n g).1.map (·.connection) = List.replicate n connection := by
  induction n generalizing g with
  | zero => rfl
  | succ n ih =>
    have hfirst : (draw connection profile g).1.connection = connection := rfl
    simp only [drawMany, List.map_cons, List.replicate_succ, hfirst, ih]

/-- Particles are drawn for the enabled connections, in order. -/
theorem drawAll_connection (index : Nat) (cs : List (Connection α)) (g : Generator) :
    (drawAll index cs g).1.map (·.connection)
      = (cs.zipIdx index).flatMap fun (c, i) =>
          List.replicate (if c.enabled then (FlowProfile.ofLoad c.load).count else 0) i := by
  -- the generator goes on from connection to connection, and so does the position
  induction cs generalizing index g with
  | nil => rfl
  | cons c cs ih =>
    simp only [drawAll, List.map_append, drawMany_connection, ih, List.zipIdx_cons,
      List.flatMap_cons]

/-- Filling a topology puts the particles on it that its loads call for. -/
theorem populate_connection (field : ParticleField α) (t : Topology α) :
    (field.populate t).particles.map (·.connection)
      = t.carried fun load => (FlowProfile.ofLoad load).count :=
  drawAll_connection 0 t.connections field.generator

theorem moveOne_connection (step : α) (p : Particle α) (g : Generator) :
    (moveOne step p g).1.connection = p.connection := by
  unfold moveOne
  dsimp only
  split <;> rfl

/-- Particles stay on their connections when they move. -/
theorem moveAll_connection (step : α) (ps : List (Particle α)) (g : Generator) :
    (moveAll step ps g).1.map (·.connection) = ps.map (·.connection) := by
  induction ps generalizing g with
  | nil => rfl
  | cons p ps ih => simp only [moveAll, List.map_cons, moveOne_connection, ih]

/-- Moving on keeps every particle on its connection. -/
theorem advance_connection (field : ParticleField α) (nanos : Nat) (multiplier : α) :
    (field.advance nanos multiplier).particles.map (·.connection)
      = field.particles.map (·.connection) := by
  unfold advance
  dsimp only
  split
  · exact moveAll_connection _ _ _
  · rfl

end ParticleField

end TrafficMap
