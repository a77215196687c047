import Mathlib
import TrafficMap.Particle.Profile
import TrafficMap.Proofs.Number.Exact

/-!
# Profiles in exact arithmetic

At a usage ratio from 0 to 1 everything that the particles of a connection have in common is a number that
grows with the ratio: `FlowProfile.ofRatio_number` gives it in full. The rounding of the particle count is
the only step that is not a straight line.
-/

namespace TrafficMap

open Exact

/-- A throughput compared with the largest one, which counts as at least one Kbps. -/
theorem usageRatio_number (current busiest : ℝ) :
    usageRatio (number current) (number busiest)
      = number (min (max (current / max busiest 1) 0) 1) := by
  have hbusiest : max busiest 1 ≠ 0 := (one_pos.trans_le (le_max_right busiest 1)).ne'
  simp only [usageRatio, zero_eq, one_eq, max_number, number_div _ hbusiest, isFinite_number, if_true,
    clamp_number]

namespace FlowProfile

variable {r : ℝ}

/-- A ratio from 0 to 1 is its own ratio. -/
theorem usageRatio_of_unit (hlow : 0 ≤ r) (hhigh : r ≤ 1) : usageRatio (number r) 1.0 = number r := by
  rw [one_eq, usageRatio_number, max_self, div_one, max_eq_left hlow, min_eq_left hhigh]

/-- The count of particles is rounded, a half going up. -/
theorem particleCount_number (hlow : 0 ≤ r) (hhigh : r ≤ 1) :
    particleCount (number r) = ⌊2 + r * 4 + 1 / 2⌋₊ := by
  have hratio : unitRatio (number r) = number r := by
    rw [unitRatio, if_pos (isFinite_number r), zero_eq, one_eq, clamp_number, max_eq_left hlow,
      min_eq_left hhigh]
  have hfour : (4.0 : Exact) = number 4 := by
    rw [ofScientific_eq]
    norm_num
  have hround : Scalar.round (number (2 + r * 4)) = number (⌊2 + r * 4 + 1 / 2⌋ : ℤ) := by
    rw [← roundAway_of_nonneg (by positivity)]
    rfl
  have hfloor_low : 2 ≤ ⌊2 + r * 4 + 1 / 2⌋ := Int.le_floor.mpr (by push_cast; linarith)
  have hfloor_high : ⌊2 + r * 4 + 1 / 2⌋ < 7 := Int.floor_lt.mpr (by push_cast; linarith)
  generalize hn : ⌊2 + r * 4 + 1 / 2⌋ = n at hround hfloor_low hfloor_high
  have hnumber : Scalar.toNat64 (number (n : ℤ)) = n.toNat := by
    rw [Scalar.toNat64, toIntClamped_intCast (by omega) (by omega)]
  rw [particleCount, hratio, hfour, two_eq, number_mul, number_add, hround, hnumber,
    ← Int.floor_toNat, hn]
  omega

/-- The profile at a usage ratio from 0 to 1. -/
theorem ofRatio_number (hlow : 0 ≤ r) (hhigh : r ≤ 1) :
    ofRatio (number r) =
      { count := ⌊2 + r * 4 + 1 / 2⌋₊
        baseSpeed := number (0.003 + 0.007 * r)
        jitter := number 0.002
        size := number (2.0 + 1.5 * r)
        opacity := number (0.5 + 0.5 * r) } := by
  rw [ofRatio, usageRatio_of_unit hlow hhigh]
  simp only [particleCount_number hlow hhigh, speedJitter, ofScientific_eq, number_mul, number_add]

end FlowProfile

end TrafficMap
