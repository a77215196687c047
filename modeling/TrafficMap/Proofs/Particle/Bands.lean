import Mathlib
import TrafficMap.Proofs.Number.Exact
import TrafficMap.Proofs.Particle.Population

/-!
# Where particles stay

A particle has a progress from 0 to 1 without 1, a bounded distance from its route, and a speed from the
band of its connection (`Particle.InBand`). In exact arithmetic new particles are drawn that way, and one
step keeps them so (`moveOne_eq`, `InBand.move`), however long it is: what reaches the end of its route
starts again. `bands_of_changes` is the result for every sequence of changes of a field, with what a step
leaves as it was.
-/

namespace TrafficMap

open Exact

/-! ## The band of a connection -/

/-- Whatever the throughputs are, their ratio is a number from 0 to 1. -/
theorem exists_usageRatio (current busiest : Exact) :
    ∃ r, usageRatio current busiest = number r ∧ 0 ≤ r ∧ r ≤ 1 := by
  unfold usageRatio
  dsimp only
  split_ifs with h
  · obtain ⟨x, hx⟩ := isFinite_iff.mp h
    rw [hx, zero_eq, one_eq, clamp_number]
    exact ⟨_, rfl, le_min (le_max_right x 0) zero_le_one, min_le_right _ 1⟩
  · exact ⟨0, zero_eq, le_rfl, zero_le_one⟩

/-- The band of speeds of a connection, whatever its load is. -/
theorem FlowProfile.exists_band (load : LinkLoad Exact) :
    ∃ b j, 0 < b ∧ 0 ≤ j ∧ (ofLoad load).baseSpeed = number b ∧ (ofLoad load).jitter = number j := by
  obtain ⟨r, hr, hlow, -⟩ := exists_usageRatio load.ratio 1.0
  have hbase : (ofLoad load).baseSpeed = number (0.003 + 0.007 * r) := by
    rw [ofLoad, ofRatio, hr]
    simp only [ofScientific_eq, number_mul, number_add]
  refine ⟨0.003 + 0.007 * r, 0.002, by positivity, by norm_num, hbase, ?_⟩
  simp only [ofLoad, ofRatio, speedJitter, ofScientific_eq]

/-! ## Drawing from a range -/

namespace Generator

/-- A word as a fraction is less than one. -/
theorem exists_fraction (w : UInt64) : ∃ f, (fraction w : Exact) = number f ∧ 0 ≤ f ∧ f < 1 := by
  have hpower : ((Nat.pow 2 52 : ℕ) : ℝ) = 2 ^ 52 := by
    norm_num
  have hw : (w >>> 12).toNat < 2 ^ 52 := by
    have hbits := w.toNat_lt
    have hshift : (w >>> 12).toNat = w.toNat / 2 ^ 12 := by
      rw [UInt64.toNat_shiftRight, Nat.shiftRight_eq_div_pow]
      rfl
    omega
  have hw' : ((w >>> 12).toNat : ℝ) < 2 ^ 52 := by
    exact_mod_cast hw
  refine ⟨(w >>> 12).toNat / 2 ^ 52, ?_, by positivity, (div_lt_one (by positivity)).mpr hw'⟩
  rw [fraction, ofNat_eq, ofNat_eq, hpower, number_div _ (by positivity)]

/-- What is drawn from a range lies in it, and below its upper bound unless the range is one point. -/
theorem exists_range (g : Generator) {lo hi : ℝ} (h : lo ≤ hi) :
    ∃ r, (g.range (number lo) (number hi)).1 = number r ∧ lo ≤ r ∧ r ≤ hi ∧ (lo < hi → r < hi) := by
  obtain ⟨f, hf, hlow, hhigh⟩ := exists_fraction g.next.1
  have hvalue : (g.range (number lo) (number hi)).1 = number (f * (hi - lo) + lo) := by
    simp only [range, hf, number_sub, number_mul, number_add]
  have hwidth : 0 ≤ hi - lo := sub_nonneg.mpr h
  refine ⟨_, hvalue, ?_, ?_, fun hlt => ?_⟩
  · linarith [mul_nonneg hlow hwidth]
  · linarith [mul_le_mul_of_nonneg_right hhigh.le hwidth]
  · linarith [mul_lt_mul_of_pos_right hhigh (sub_pos.mpr hlt)]

end Generator

/-! ## One particle -/

namespace Particle

/-- Where a particle of a connection with a profile stays. -/
structure InBand (profile : FlowProfile Exact) (p : Particle Exact) : Prop where
  progress_nonneg : 0.0 ≤ p.progress
  progress_lt_one : p.progress < 1.0
  lateral_le : Scalar.abs p.lateral ≤ ParticleField.lateralSpread
  base_le_speed : profile.baseSpeed ≤ p.speed
  speed_le : p.speed ≤ profile.baseSpeed + profile.jitter
  baseSpeed_eq : p.baseSpeed = profile.baseSpeed
  jitter_eq : p.jitter = profile.jitter

/-- How far along its route a step takes a particle, be it past the end. -/
def reach {α : Type} [Scalar α] (step : α) (p : Particle α) : α :=
  p.progress + p.speed * step

/-- How a particle moves by a step: it goes on at its speed, or starts again with another one once it
reached the end. -/
inductive Moves (step : Exact) (p : Particle Exact) : Particle Exact → Prop where
  | on (h : p.reach step < 1.0) : Moves step p { p with progress := p.reach step }
  | again (speed : Exact) (h : 1.0 ≤ p.reach step) :
      Moves step p { p with progress := 0.0, speed }

variable {p : Particle Exact} {load : LinkLoad Exact}

/-- The progress of a particle is a number from zero up to one, which it does not reach. -/
theorem InBand.exists_progress {profile : FlowProfile Exact} (h : p.InBand profile) :
    ∃ x, p.progress = number x ∧ 0 ≤ x ∧ x < 1 := by
  have hlow := h.progress_nonneg
  have hhigh := h.progress_lt_one
  rw [zero_eq] at hlow
  rw [one_eq] at hhigh
  obtain ⟨x, hx, hx0, -⟩ := exists_number hlow (le_number_of_lt hhigh)
  rw [hx] at hhigh
  exact ⟨x, hx, hx0, hhigh⟩

/-- A particle is at most two units off its line. -/
theorem InBand.exists_lateral {profile : FlowProfile Exact} (h : p.InBand profile) :
    ∃ l, p.lateral = number l ∧ |l| ≤ 2 := by
  have hlateral := h.lateral_le
  rw [ParticleField.lateralSpread, two_eq] at hlateral
  exact exists_number_of_abs_le hlateral

/-- A particle moves forward. -/
theorem InBand.exists_speed (h : p.InBand (FlowProfile.ofLoad load)) :
    ∃ v, p.speed = number v ∧ 0 < v := by
  obtain ⟨b, j, hb, -, hbase, hjitter⟩ := FlowProfile.exists_band load
  have hlow := h.base_le_speed
  have hhigh := h.speed_le
  rw [hbase] at hlow hhigh
  rw [hjitter, number_add] at hhigh
  obtain ⟨v, hv, hbv, -⟩ := exists_number hlow hhigh
  exact ⟨v, hv, hb.trans_le hbv⟩

/-- A particle moves forward by a step. -/
theorem InBand.exists_reach (h : p.InBand (FlowProfile.ofLoad load)) {s : ℝ} (hs : 0 ≤ s) :
    ∃ x, p.reach (number s) = number x ∧ 0 ≤ x := by
  obtain ⟨x, hx, hlow, -⟩ := h.exists_progress
  obtain ⟨v, hv, hpos⟩ := h.exists_speed
  refine ⟨x + v * s, ?_, by positivity⟩
  rw [reach, hx, hv, number_mul, number_add]

end Particle

namespace Generator

/-- The generator after one word. -/
def skip (g : Generator) : Generator :=
  g.next.2

end Generator

namespace ParticleField

/-- What is drawn as a speed lies in the band. -/
theorem exists_drawSpeed (g : Generator) (b : ℝ) {j : ℝ} (hj : 0 ≤ j) :
    ∃ v, (drawSpeed g (number b) (number j)).1 = number v ∧ b ≤ v ∧ v ≤ b + j := by
  obtain ⟨v, hv, hlow, hhigh, -⟩ := g.exists_range (show b ≤ b + j by linarith)
  refine ⟨v, ?_, hlow, hhigh⟩
  rw [drawSpeed, zero_eq, max_number, max_eq_left hj, number_add]
  exact hv

/-- The speed of a drawn particle lies in its band. -/
theorem drawSpeed_band (g : Generator) (load : LinkLoad Exact) :
    let profile := FlowProfile.ofLoad load
    let speed := (drawSpeed g profile.baseSpeed profile.jitter).1
    profile.baseSpeed ≤ speed ∧ speed ≤ profile.baseSpeed + profile.jitter := by
  intro profile speed
  obtain ⟨b, j, -, hj, hbase, hjitter⟩ := FlowProfile.exists_band load
  obtain ⟨v, hv, hlow, hhigh⟩ := exists_drawSpeed g b hj
  have hspeed : speed = number v := by
    simp only [speed, profile, hbase, hjitter, hv]
  rw [hspeed, hbase, hjitter, number_add]
  exact ⟨hlow, hhigh⟩

/-- A new particle is in the band of its connection. -/
theorem draw_inBand (connection : Nat) (load : LinkLoad Exact) (g : Generator) :
    (draw connection (FlowProfile.ofLoad load) g).1.InBand (FlowProfile.ofLoad load) := by
  obtain ⟨x, hx, hxlow, -, hxhigh⟩ := g.exists_range (zero_le_one' ℝ)
  obtain ⟨l, hl, hllow, hlhigh, -⟩ := g.skip.exists_range (show (-2 : ℝ) ≤ 2 by norm_num)
  have hprogress : (draw connection (FlowProfile.ofLoad load) g).1.progress = number x := by
    rw [← hx, ← zero_eq, ← one_eq]
    rfl
  have hlateral : (draw connection (FlowProfile.ofLoad load) g).1.lateral = number l := by
    rw [← hl, ← neg_number, ← two_eq]
    rfl
  obtain ⟨hslow, hshigh⟩ := drawSpeed_band g.skip.skip load
  refine ⟨?_, ?_, ?_, hslow, hshigh, rfl, rfl⟩
  · rw [hprogress, zero_eq]
    exact hxlow
  · rw [hprogress, one_eq]
    exact hxhigh one_pos
  · rw [hlateral, abs_number, lateralSpread, two_eq]
    exact abs_le.mpr ⟨hllow, hlhigh⟩

variable {p : Particle Exact} {load : LinkLoad Exact}

/-- A particle in its band has a finite progress after a step, so it starts again at the end of its
route and nowhere else. -/
theorem moveOne_eq (h : p.InBand (FlowProfile.ofLoad load)) {s : ℝ} (hs : 0 ≤ s) (g : Generator) :
    moveOne (number s) p g =
      if 1.0 ≤ p.reach (number s) then
        ({ p with progress := 0.0, speed := (drawSpeed g p.baseSpeed p.jitter).1 }, g.skip)
      else ({ p with progress := p.reach (number s) }, g) := by
  obtain ⟨x, hx, -⟩ := h.exists_reach hs
  have hreach : p.progress + p.speed * number s = number x := hx
  simp only [moveOne, hreach, hx, isFinite_number, Bool.not_true, Bool.or_false, decide_eq_true_eq]
  rfl

theorem moveOne_moves (h : p.InBand (FlowProfile.ofLoad load)) {s : ℝ} (hs : 0 ≤ s)
    (g : Generator) : p.Moves (number s) (moveOne (number s) p g).1 := by
  obtain ⟨x, hx, -⟩ := h.exists_reach hs
  rw [moveOne_eq h hs]
  split_ifs with hend
  · exact .again _ hend
  · refine .on ?_
    rw [hx, one_eq, number_le, not_le] at hend
    rw [hx, one_eq]
    exact hend

/-- A step leaves a particle in its band. -/
theorem moveOne_inBand (h : p.InBand (FlowProfile.ofLoad load)) {s : ℝ} (hs : 0 ≤ s)
    (g : Generator) : (moveOne (number s) p g).1.InBand (FlowProfile.ofLoad load) := by
  obtain ⟨x, hx, hlow⟩ := h.exists_reach hs
  rw [moveOne_eq h hs]
  split_ifs with hend
  · -- the speed is drawn from the band that the particle carries, which is that of its connection
    obtain ⟨hslow, hshigh⟩ := drawSpeed_band g load
    rw [← h.baseSpeed_eq, ← h.jitter_eq] at hslow hshigh
    refine { h with progress_nonneg := ?_, progress_lt_one := ?_, base_le_speed := ?_, speed_le := ?_ }
    · rw [zero_eq, number_le]
    · rw [zero_eq, one_eq, number_lt]
      exact one_pos
    · rw [← h.baseSpeed_eq]
      exact hslow
    · rw [← h.baseSpeed_eq, ← h.jitter_eq]
      exact hshigh
  · rw [hx, one_eq, number_le, not_le] at hend
    refine { h with progress_nonneg := ?_, progress_lt_one := ?_ }
    · rw [hx, zero_eq]
      exact hlow
    · rw [hx, one_eq]
      exact hend

/-! ## All particles -/

theorem of_mem_moveAll {α : Type} [Scalar α] {step : α} {ps : List (Particle α)} {g : Generator}
    {q : Particle α} (h : q ∈ (moveAll step ps g).1) : ∃ p ∈ ps, ∃ g, q = (moveOne step p g).1 := by
  induction ps generalizing g with
  | nil => cases h
  | cons p ps ih =>
    rcases List.mem_cons.mp h with rfl | h
    · exact ⟨p, List.mem_cons_self, g, rfl⟩
    · obtain ⟨p', hp', hq⟩ := ih h
      exact ⟨p', List.mem_cons_of_mem p hp', hq⟩

/-- A step moves every particle, and keeps their order. -/
theorem moveAll_moves {ps : List (Particle Exact)}
    (h : ∀ p ∈ ps, ∃ load, p.InBand (FlowProfile.ofLoad load)) {s : ℝ} (hs : 0 ≤ s)
    (g : Generator) :
    List.Forall₂ (Particle.Moves (number s)) ps (moveAll (number s) ps g).1 := by
  induction ps generalizing g with
  | nil => exact .nil
  | cons p ps ih =>
    obtain ⟨load, hp⟩ := h p List.mem_cons_self
    exact .cons (moveOne_moves hp hs g) (ih (fun q hq => h q (List.mem_cons_of_mem p hq)) _)

/-- A step draws one word for every particle that reaches its end, and no other. -/
theorem moveAll_generator {ps : List (Particle Exact)}
    (h : ∀ p ∈ ps, ∃ load, p.InBand (FlowProfile.ofLoad load)) {s : ℝ} (hs : 0 ≤ s)
    (g : Generator) :
    (moveAll (number s) ps g).2
      = Generator.skip^[ps.countP fun p => 1.0 ≤ p.reach (number s)] g := by
  -- the generator goes on from particle to particle, with or without a word taken from it
  induction ps generalizing g with
  | nil => rfl
  | cons p ps ih =>
    obtain ⟨load, hp⟩ := h p List.mem_cons_self
    have htail := ih fun q hq => h q (List.mem_cons_of_mem p hq)
    rw [moveAll, List.countP_cons]
    dsimp only
    rw [htail, moveOne_eq hp hs]
    by_cases hend : 1.0 ≤ p.reach (number s)
    · rw [if_pos hend, if_pos (decide_eq_true hend), Function.iterate_succ_apply]
    · rw [if_neg hend, if_neg (by simpa using hend), Nat.add_zero]

/-- All particles are in the bands of connections of a topology. -/
def Rides (t : Topology Exact) (field : ParticleField Exact) : Prop :=
  ∀ p ∈ field.particles, ∃ c, t.connections[p.connection]? = some c ∧ c.enabled = true ∧
    p.InBand (FlowProfile.ofLoad c.load)

/-- Every particle that is drawn for a connection belongs to it and lies in its band. -/
theorem of_mem_drawMany {connection : Nat} {n : Nat} {g : Generator}
    (h : p ∈ (drawMany connection (FlowProfile.ofLoad load) n g).1) :
    p.connection = connection ∧ p.InBand (FlowProfile.ofLoad load) := by
  induction n generalizing g with
  | zero => cases h
  | succ n ih =>
    rcases List.mem_cons.mp h with rfl | h
    · exact ⟨rfl, draw_inBand connection load g⟩
    · exact ih h

/-- Every particle that is drawn belongs to an enabled connection and lies in its band. -/
theorem of_mem_drawAll {index : Nat} {cs : List (Connection Exact)} {g : Generator}
    (h : p ∈ (drawAll index cs g).1) :
    ∃ i c, p.connection = index + i ∧ cs[i]? = some c ∧ c.enabled = true ∧
      p.InBand (FlowProfile.ofLoad c.load) := by
  induction cs generalizing index g with
  | nil => cases h
  | cons c cs ih =>
    rcases List.mem_append.mp h with hhead | htail
    · obtain ⟨hindex, hband⟩ := of_mem_drawMany hhead
      refine ⟨0, c, hindex, rfl, ?_, hband⟩
      -- a disabled connection has no particles to be a member of
      by_contra hdisabled
      rw [if_neg hdisabled] at hhead
      cases hhead
    · obtain ⟨i, d, hindex, hd, henabled, hband⟩ := ih htail
      refine ⟨i + 1, d, ?_, hd, henabled, hband⟩
      omega

/-- A populated field rides the topology that it is for. -/
theorem rides_populate (field : ParticleField Exact) (t : Topology Exact) :
    (field.populate t).Rides t := by
  intro p hp
  obtain ⟨i, c, hindex, hc, henabled, hband⟩ := of_mem_drawAll hp
  rw [Nat.zero_add] at hindex
  exact ⟨c, hindex ▸ hc, henabled, hband⟩

theorem rides_clear (field : ParticleField Exact) (t : Topology Exact) : field.clear.Rides t :=
  fun _ hp => absurd hp List.not_mem_nil

/-- A field moves by a positive step that is a number, and stays as it is by any other one. -/
theorem advance_eq {α : Type} [Scalar α] (field : ParticleField α) (nanos : Nat) (multiplier : α) :
    field.advance nanos multiplier =
      if Scalar.isFinite (stepOf nanos multiplier) = true ∧ 0.0 < stepOf nanos multiplier then
        { particles := (moveAll (stepOf nanos multiplier) field.particles field.generator).1
          generator := (moveAll (stepOf nanos multiplier) field.particles field.generator).2 }
      else field := by
  simp only [advance, Bool.and_eq_true, decide_eq_true_eq]

namespace Rides

variable {t : Topology Exact} {field : ParticleField Exact}

theorem exists_load (h : field.Rides t) :
    ∀ p ∈ field.particles, ∃ load, p.InBand (FlowProfile.ofLoad load) := by
  intro p hp
  obtain ⟨c, -, -, hband⟩ := h p hp
  exact ⟨c.load, hband⟩

/-- Moving on leaves all particles in their bands. -/
theorem advance (h : field.Rides t) (nanos : Nat) (multiplier : Exact) :
    (field.advance nanos multiplier).Rides t := by
  rw [advance_eq]
  split_ifs with hstep
  · obtain ⟨s, hs, hpositive⟩ := exists_positive hstep
    rw [hs]
    intro q hq
    obtain ⟨p, hp, g, rfl⟩ := of_mem_moveAll hq
    obtain ⟨c, hc, henabled, hband⟩ := h p hp
    rw [← moveOne_connection (number s) p g] at hc
    exact ⟨c, hc, henabled, moveOne_inBand hband hpositive.le g⟩
  · exact h

end Rides

/-! ## Every sequence of changes -/

/-- What is done to a field. -/
inductive Change (α : Type) where
  | populate (t : Topology α)
  | advance (nanos : Nat) (multiplier : α)
  | clear

section

variable {α : Type} [Scalar α]

/-- The field after a change. -/
def apply (field : ParticleField α) : Change α → ParticleField α
  | .populate t => field.populate t
  | .advance nanos multiplier => field.advance nanos multiplier
  | .clear => field.clear

/-- The field after changes. -/
def run (field : ParticleField α) (changes : List (Change α)) : ParticleField α :=
  changes.foldl apply field

/-- The topology that a field was last filled for, given the one before a change. -/
def Change.filled (t : Topology α) : Change α → Topology α
  | .populate t' => t'
  | .advance _ _ => t
  | .clear => t

end

theorem Rides.apply {t : Topology Exact} {field : ParticleField Exact} (h : field.Rides t)
    (change : Change Exact) : (field.apply change).Rides (change.filled t) := by
  cases change with
  | populate t' => exact rides_populate field t'
  | advance nanos multiplier => exact h.advance nanos multiplier
  | clear => exact rides_clear field t

/-- A field rides the topology that it was filled for last. -/
theorem Rides.run {t : Topology Exact} {field : ParticleField Exact} (h : field.Rides t)
    (changes : List (Change Exact)) :
    (field.run changes).Rides (changes.foldl Change.filled t) := by
  induction changes generalizing field t with
  | nil => exact h
  | cons change changes ih => exact ih (h.apply change)

/-- Whatever is done to a field that starts without particles, its particles stay in the bands of the
connections they were drawn for. Moving it on by any time at any speed leaves it untouched unless the step
is finite and positive; such a step moves the particles one by one, and draws a word for each that starts
again. -/
theorem bands_of_changes (generator : Generator) (changes : List (Change Exact)) :
    let field := run { generator } changes
    field.Rides (changes.foldl Change.filled {}) ∧
      ∀ (nanos : Nat) (multiplier : Exact),
        let step := stepOf nanos multiplier
        let moved := field.advance nanos multiplier
        if Scalar.isFinite step = true ∧ 0.0 < step then
          List.Forall₂ (Particle.Moves step) field.particles moved.particles ∧
            moved.generator
              = Generator.skip^[field.particles.countP fun p => 1.0 ≤ p.reach step] field.generator
        else moved = field := by
  intro field
  have hrides : field.Rides (changes.foldl Change.filled {}) :=
    Rides.run (fun _ hp => absurd hp List.not_mem_nil) changes
  refine ⟨hrides, ?_⟩
  intro nanos multiplier step moved
  have hmoved : moved = _ := advance_eq field nanos multiplier
  rw [hmoved]
  split_ifs with hstep
  · obtain ⟨s, hs, hpositive⟩ := exists_positive hstep
    have hloads := hrides.exists_load
    simp only [step, hs]
    exact ⟨moveAll_moves hloads hpositive.le _, moveAll_generator hloads hpositive.le _⟩
  · rfl

end ParticleField

end TrafficMap
