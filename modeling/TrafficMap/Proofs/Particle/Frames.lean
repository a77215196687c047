import Mathlib
import TrafficMap.Proofs.Particle.Bands
import TrafficMap.Proofs.Particle.Profile

/-!
# Time cut into frames

How far a particle gets between two ends of its route depends on the time that passes and not on the
frames that the time is cut into. In exact arithmetic the steps of several frames add up
(`stepOf_number`), a particle that stays on its route goes on at its speed whatever the other particles
do (`Rides.getElem?_advance`), and no part of the time takes it past the end when the whole does not.
`progress_of_frames` is the result for every list of frames.
-/

namespace TrafficMap

open Exact

namespace Particle

/-- A particle further along its route, at the same speed. -/
def further {α : Type} [Scalar α] (step : α) (p : Particle α) : Particle α :=
  { p with progress := p.reach step }

variable {p : Particle Exact} {load : LinkLoad Exact}

/-- Where a particle gets grows in proportion to the step. -/
theorem InBand.reach_eq (h : p.InBand (FlowProfile.ofLoad load)) :
    ∃ x v, 0 < v ∧ p.progress = number x ∧ p.speed = number v ∧
      ∀ s, p.reach (number s) = number (x + v * s) := by
  obtain ⟨x, hx, -⟩ := h.exists_progress
  obtain ⟨v, hv, hpositive⟩ := h.exists_speed
  refine ⟨x, v, hpositive, hx, hv, fun s => ?_⟩
  rw [reach, hx, hv, number_mul, number_add]

theorem InBand.further_zero (h : p.InBand (FlowProfile.ofLoad load)) : p.further (number 0) = p := by
  obtain ⟨x, v, -, hx, -, hreach⟩ := h.reach_eq
  have hstill : p.reach (number 0) = p.progress := by
    rw [hreach, hx, mul_zero, add_zero]
  rw [further, hstill]

/-- Two steps take a particle as far as their sum does. -/
theorem InBand.reach_further (h : p.InBand (FlowProfile.ofLoad load)) (s s' : ℝ) :
    (p.further (number s)).reach (number s') = p.reach (number (s + s')) := by
  obtain ⟨x, v, -, -, hv, hreach⟩ := h.reach_eq
  have hfurther : (p.further (number s)).reach (number s') = p.reach (number s) + p.speed * number s' :=
    rfl
  rw [hfurther, hreach, hreach, hv, number_mul, number_add]
  congr 1
  ring

/-- A particle that a step leaves on its route is left there by every shorter step. -/
theorem InBand.reach_lt (h : p.InBand (FlowProfile.ofLoad load)) {s s' : ℝ} (hs : s ≤ s')
    (hreach : p.reach (number s') < 1.0) : p.reach (number s) < 1.0 := by
  obtain ⟨x, v, hpositive, -, -, heq⟩ := h.reach_eq
  rw [heq, one_eq, number_lt] at hreach ⊢
  have hshorter : v * s ≤ v * s' := mul_le_mul_of_nonneg_left hs hpositive.le
  linarith

end Particle

/-- The smallest word draws the start of a range. -/
theorem Generator.fraction_zero : (Generator.fraction 0 : Exact) = number 0 := by
  have hshift : ((0 : UInt64) >>> 12).toNat = 0 := by decide
  rw [fraction, hshift, ofNat_eq, ofNat_eq, number_div _ (by norm_num), Nat.cast_zero, zero_div]

namespace ParticleField

/-! ## Times in frames -/

/-- Whole seconds and the rest make up the time that they were split from. -/
theorem seconds_eq (nanos : Nat) : (seconds nanos : Exact) = number (nanos / 1000000000) := by
  have hsplit : ((nanos / 1000000000 : ℕ) : ℝ) * 1000000000 + (nanos % 1000000000 : ℕ) = nanos := by
    exact_mod_cast Nat.div_add_mod' nanos 1000000000
  have hunit : (1000000000.0 : Exact) = number 1000000000 := by
    rw [ofScientific_eq]
    norm_num
  rw [seconds, hunit, ofNat_eq, ofNat_eq, number_div _ (by norm_num), number_add, ← hsplit]
  congr 1
  field_simp

/-- The frames in a time, at a speed of the animation. -/
theorem stepOf_number (nanos : Nat) {m : ℝ} (hm : 0 ≤ m) :
    stepOf nanos (number m) = number (nanos / frameNanos * m) := by
  have hframe : ((frameNanos : ℕ) : ℝ) / 1000000000 ≠ 0 := by
    rw [frameNanos]
    norm_num
  rw [stepOf, seconds_eq, seconds_eq, number_div _ hframe, zero_eq, max_number, max_eq_left hm,
    number_mul, div_div_div_cancel_right₀ (by norm_num)]

/-! ## One frame -/

theorem exists_getElem?_of_forall₂ {β γ : Type} {R : β → γ → Prop} {xs : List β} {ys : List γ}
    (h : List.Forall₂ R xs ys) {i : Nat} {x : β} (hx : xs[i]? = some x) :
    ∃ y, ys[i]? = some y ∧ R x y := by
  induction h generalizing i with
  | nil => cases hx
  | cons hhead _ ih =>
    cases i with
    | zero =>
      obtain rfl := Option.some.inj hx
      exact ⟨_, rfl, hhead⟩
    | succ i => exact ih hx

variable {t : Topology Exact} {field : ParticleField Exact} {i : Nat} {p : Particle Exact} {m : ℝ}

/-- A particle that a time leaves on its route goes on at its speed, whatever the others do. -/
theorem Rides.getElem?_advance (h : field.Rides t) (hp : field.particles[i]? = some p) (hm : 0 ≤ m)
    (nanos : Nat) (hreach : p.reach (stepOf nanos (number m)) < 1.0) :
    (field.advance nanos (number m)).particles[i]? =
      some (p.further (stepOf nanos (number m))) := by
  obtain ⟨load, hband⟩ := h.exists_load p (List.mem_of_getElem? hp)
  have hstep := stepOf_number nanos hm
  have hnonneg : 0 ≤ (nanos : ℝ) / frameNanos * m := by positivity
  rw [hstep] at hreach ⊢
  rw [advance_eq, hstep]
  split_ifs with hmoves
  · obtain ⟨q, hq, hmoved⟩ :=
      exists_getElem?_of_forall₂ (moveAll_moves h.exists_load hnonneg field.generator) hp
    cases hmoved with
    | on _ => exact hq
    | again speed hend =>
      -- the end of the route is out of reach
      obtain ⟨x, v, -, -, -, heq⟩ := hband.reach_eq
      rw [heq, one_eq, number_lt] at hreach
      rw [heq, one_eq, number_le] at hend
      exact absurd hend (not_le.mpr hreach)
  · -- a step that is not positive is none at all
    have hzero : (nanos : ℝ) / frameNanos * m = 0 := by
      refine le_antisymm (not_lt.mp fun hpositive => hmoves ⟨isFinite_number _, ?_⟩) hnonneg
      rw [zero_eq]
      exact hpositive
    rw [hzero, hband.further_zero]
    exact hp

/-! ## Many frames -/

/-- The field after frames of the given times. -/
def advanceAll {α : Type} [Scalar α] (field : ParticleField α) (frames : List Nat) (multiplier : α) :
    ParticleField α :=
  frames.foldl (fun field nanos => field.advance nanos multiplier) field

/-- A particle that some frames leave on its route gets as far as it does in one frame of their total
time. -/
theorem Rides.getElem?_advanceAll (h : field.Rides t) (hp : field.particles[i]? = some p)
    (hm : 0 ≤ m) (frames : List Nat) (hreach : p.reach (stepOf frames.sum (number m)) < 1.0) :
    (field.advanceAll frames (number m)).particles[i]? =
      some (p.further (stepOf frames.sum (number m))) := by
  -- the frames that are left take the particle on from where the first one brings it
  induction frames generalizing field p with
  | nil =>
    obtain ⟨load, hband⟩ := h.exists_load p (List.mem_of_getElem? hp)
    have hnone : stepOf ([] : List Nat).sum (number m) = number 0 := by
      rw [stepOf_number _ hm, List.sum_nil, Nat.cast_zero, zero_div, zero_mul]
    rw [hnone, hband.further_zero]
    exact hp
  | cons nanos frames ih =>
    obtain ⟨load, hband⟩ := h.exists_load p (List.mem_of_getElem? hp)
    have htotal : stepOf (nanos :: frames).sum (number m)
        = number (nanos / frameNanos * m + frames.sum / frameNanos * m) := by
      rw [stepOf_number _ hm, List.sum_cons, Nat.cast_add, add_div, add_mul]
    have hshorter : (nanos : ℝ) / frameNanos * m
        ≤ nanos / frameNanos * m + frames.sum / frameNanos * m :=
      le_add_of_nonneg_right (by positivity)
    have hfirst : p.reach (stepOf nanos (number m)) < 1.0 := by
      rw [htotal] at hreach
      rw [stepOf_number _ hm]
      exact hband.reach_lt hshorter hreach
    have hsplit : (p.further (stepOf nanos (number m))).reach (stepOf frames.sum (number m))
        = p.reach (stepOf (nanos :: frames).sum (number m)) := by
      rw [htotal, stepOf_number _ hm, stepOf_number _ hm, hband.reach_further]
    have hrest := ih (h.advance nanos (number m)) (h.getElem?_advance hp hm nanos hfirst)
      (hsplit ▸ hreach)
    rw [Particle.further, hsplit] at hrest
    exact hrest

/-- After any changes, a particle that a total time leaves on its route goes on at its speed, and is in
the same place whether the time passes in many frames or in a single one. -/
theorem progress_of_frames (generator : Generator) (changes : List (Change Exact))
    {multiplier : Exact} (hfinite : Scalar.isFinite multiplier = true) (hnonneg : 0.0 ≤ multiplier)
    (frames : List Nat) {i : Nat} {p : Particle Exact} :
    let field := run { generator } changes
    let total := seconds frames.sum / seconds frameNanos * multiplier
    field.particles[i]? = some p → p.progress + p.speed * total < 1.0 →
      let after := { p with progress := p.progress + p.speed * total }
      (field.advanceAll frames multiplier).particles[i]? = some after ∧
        (field.advance frames.sum multiplier).particles[i]? = some after := by
  intro field total hp hreach after
  obtain ⟨m, rfl⟩ := isFinite_iff.mp hfinite
  have hm : 0 ≤ m := by
    rw [zero_eq] at hnonneg
    exact hnonneg
  have hrides : field.Rides (changes.foldl Change.filled {}) :=
    Rides.run (fun _ hp => absurd hp List.not_mem_nil) changes
  have htotal : total = stepOf frames.sum (number m) := by
    simp only [total, stepOf, zero_eq, max_number, max_eq_left hm]
  have hafter : after = p.further (stepOf frames.sum (number m)) := by
    simp only [after, htotal]
    rfl
  rw [htotal] at hreach
  rw [hafter]
  exact ⟨hrides.getElem?_advanceAll hp hm frames hreach,
    hrides.getElem?_advance hp hm frames.sum hreach⟩

/-- A particle that starts at the source of its connection, moved on for three frames of time: cut into one
frame and the rest, and at once. -/
theorem progress_of_frames_split :
    let generator : Generator := { key := [], block := 0, pending := List.replicate 6 0 }
    let connection : Connection Exact := ⟨0, 1, true, ⟨0.0, 0.0, 0.0⟩⟩
    let field := run { generator } [.populate { connections := [connection] }]
    let total : Exact := seconds [16666667, 33333334].sum / seconds frameNanos * 1.0
    ∃ p : Particle Exact,
      Scalar.isFinite (1.0 : Exact) = true ∧ (0.0 : Exact) ≤ 1.0 ∧
      field.particles[0]? = some p ∧ p.progress + p.speed * total < 1.0 ∧
      (field.advanceAll [16666667, 33333334] 1.0).particles[0]?
        = some { p with progress := p.progress + p.speed * total } ∧
      (field.advance 50000001 1.0).particles[0]?
        = some { p with progress := p.progress + p.speed * total } := by
  intro generator connection field total
  let profile := FlowProfile.ofLoad connection.load
  let p := (draw 0 profile generator).1
  have hp : field.particles[0]? = some p := by
    obtain ⟨n, hn⟩ := Nat.exists_eq_add_one.mpr
      (show 0 < profile.count from lt_max_of_lt_right one_pos)
    have hparticles : field.particles = (drawMany 0 profile profile.count generator).1 ++ [] := rfl
    rw [hparticles, hn]
    rfl
  have hfinite : Scalar.isFinite (1.0 : Exact) = true := rfl
  have hnonneg : (0.0 : Exact) ≤ 1.0 := by
    rw [zero_eq, one_eq]
    exact zero_le_one' ℝ
  have hreach : p.progress + p.speed * total < 1.0 := by
    have hprogress : p.progress = number 0 := by
      have hdrawn : p.progress = Generator.fraction 0 * (1.0 - 0.0) + 0.0 := rfl
      rw [hdrawn, Generator.fraction_zero, zero_eq, one_eq, number_sub, number_mul, number_add]
      norm_num
    have hspeed : p.speed = number 0.003 := by
      have hdrawn : p.speed
          = Generator.fraction 0 * (profile.baseSpeed + Scalar.max profile.jitter 0.0 - profile.baseSpeed)
            + profile.baseSpeed := rfl
      have hprofile : profile = FlowProfile.ofRatio (number 0) := by
        rw [← zero_eq]
        rfl
      rw [hdrawn, Generator.fraction_zero, hprofile, FlowProfile.ofRatio_number le_rfl zero_le_one,
        zero_eq]
      simp only [max_number, number_add, number_sub, number_mul]
      norm_num
    have htotal : total = stepOf 50000001 (number 1) := by
      simp only [total, stepOf, zero_eq, one_eq, max_number, max_eq_left (zero_le_one' ℝ)]
      rfl
    rw [hprogress, hspeed, htotal, stepOf_number _ zero_le_one, number_mul, number_add, one_eq,
      number_lt, frameNanos]
    norm_num
  obtain ⟨hframes, honce⟩ := progress_of_frames generator
    [.populate { connections := [connection] }] hfinite hnonneg [16666667, 33333334] hp hreach
  exact ⟨p, hfinite, hnonneg, hp, hreach, hframes, honce⟩

end ParticleField

end TrafficMap
