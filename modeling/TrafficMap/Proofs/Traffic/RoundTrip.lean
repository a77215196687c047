import Mathlib
import TrafficMap.Proofs.Number.Zero
import TrafficMap.Proofs.Traffic.Rates

/-!
# Labels there and back

A rate is written with at most one decimal place, so reading its label gives the rate up to half of the last
digit (`abs_shownKbps_sub_le`). That loses neither the difference between some bits and none
(`shownKbps_eq_zero_iff`) nor the order of rates. A label may stand behind any text without digits, and every
text reads as some number (`kbps_cases`). `readings_of_labels` puts these together.
-/

namespace TrafficMap.Label

open Exact
open Text (asciiLower)

/-! ## Any text -/

section

variable {α : Type} [Scalar α]

/-- Decoration without digits is skipped. -/
theorem kbps_append {decoration : String} (h : ∀ c ∈ decoration.toList, c.isDigit = false)
    (label : String) : kbps (decoration ++ label) = (kbps label : α) := by
  have hskip : ∀ c ∈ decoration.toList, (!c.isDigit) = true := fun c hc => by rw [h c hc]; rfl
  rw [kbps, kbps, String.toList_append, List.dropWhile_append_of_pos hskip]

/-- A text reads as zero, or as a finite number above zero. -/
theorem kbps_cases (text : String) :
    (kbps text : α) = 0.0 ∨ Scalar.isFinite (kbps text : α) = true ∧ 0.0 < (kbps text : α) := by
  unfold kbps
  split
  · split
    · dsimp only
      split_ifs with hvalue
      · right
        simpa using hvalue
      · exact Or.inl rfl
    · exact Or.inl rfl
  · exact Or.inl rfl

end

theorem exists_kbps (text : String) : ∃ r, (kbps text : Exact) = number r ∧ 0 ≤ r := by
  rcases kbps_cases (α := Exact) text with hzero | hpositive
  · exact ⟨0, hzero.trans zero_eq, le_rfl⟩
  · obtain ⟨r, hr, hpos⟩ := exists_positive hpositive
    exact ⟨r, hr, hpos.le⟩

theorem kbps_nonneg (text : String) :
    Scalar.isFinite (kbps text : Float) = true ∧ 0.0 ≤ (kbps text : Float) := by
  rcases kbps_cases (α := Float) text with hzero | ⟨hfinite, hpositive⟩
  · rw [hzero]
    exact ⟨rfl, by decide⟩
  · exact ⟨hfinite, Binary64.le_of_lt hpositive⟩

/-! ## What a label keeps of a rate -/

/-- The label shows the rate up to half of its last digit. -/
theorem abs_shownKbps_sub_le (bits : ℕ) :
    |shownKbps bits - bits / 1000| ≤ if bits < 1000 then 0 else 0.05 * ((unitSize bits : ℝ) / 1000) := by
  have hunit : (0 : ℝ) < unitSize bits := by exact_mod_cast unitSize_pos bits
  split_ifs with hsmall
  · -- in units of a bit nothing is rounded
    have hone : unitSize bits = 1 := by
      rw [unitSize_eq]
      split_ifs <;> omega
    have hwhole : roundEven (bits / unitSize bits * 10) = (bits * 10 : ℕ) := by
      rw [hone, Nat.cast_one, div_one]
      exact_mod_cast roundEven_natCast (bits * 10)
    have hexact : shownKbps bits = bits / 1000 := by
      rw [shownKbps_eq, hwhole, hone]
      push_cast
      ring
    rw [hexact, sub_self, abs_zero]
  · have hhalf := abs_roundEven_units_sub_le hunit bits 1
    have hsplit : shownKbps bits - bits / 1000
        = ((roundEven (bits / unitSize bits * 10 ^ 1) : ℝ) / 10 ^ 1 * unitSize bits - bits) / 1000 := by
      rw [shownKbps_eq, pow_one]
      ring
    rw [hsplit, abs_div, abs_of_pos (by norm_num : (0 : ℝ) < 1000)]
    calc _ ≤ 1 / 2 / 10 ^ 1 * (unitSize bits : ℝ) / 1000 := by gcongr
      _ = 0.05 * (unitSize bits / 1000) := by ring

/-- Only no bits at all are shown as zero. -/
theorem shownKbps_eq_zero_iff (bits : ℕ) : shownKbps bits = 0 ↔ bits = 0 := by
  constructor
  · intro hzero
    by_contra hbits
    have hreached : unitSize bits ≤ bits := by
      rw [unitSize_eq]
      split_ifs <;> omega
    -- at least one unit is shown, whatever the unit is
    have hunit : (0 : ℝ) < unitSize bits := by exact_mod_cast unitSize_pos bits
    have hshown := le_shownKbps hreached
    rw [hzero] at hshown
    linarith
  · rintro rfl
    have hround : roundEven (0 : ℝ) = 0 := by simpa using roundEven_natCast 0
    simp [shownKbps_eq, hround]

theorem bitsOf_eq_zero_iff (v : UInt64) : bitsOf v = 0 ↔ v = 0 := by
  have hmax : counterMax = 2 ^ 64 - 1 := rfl
  rw [bitsOf, hmax, ← UInt64.toNat_inj, UInt64.toNat_zero]
  omega

/-- The label of a rate reads as the rate up to half of the last digit that it shows: exactly below a
thousand bits, which have no places, and up to a twentieth of its unit from there on. It reads as zero for
no bytes only, and a faster rate never reads as a slower one. Text without digits before a label makes no
difference, and whatever a text holds, it reads as a finite number that is not negative. -/
theorem readings_of_labels :
    (∀ v : UInt64, ∃ (places n : ℕ) (unit : List Char) (scale r : ℝ),
        (rate Exact v).toList = Decimal.point places n ++ ' ' :: unit ∧
        places = (if bitsOf v < 1000 then 0 else 1) ∧
        unitScale? (asciiLower unit) = some (number scale) ∧
        kbps (rate Exact v) = number r ∧
        |r - bitsOf v / 1000| ≤ (if bitsOf v < 1000 then 0 else 0.05 * scale) ∧
        (r = 0 ↔ v = 0)) ∧
      (∀ v w : UInt64, v ≤ w → (kbps (rate Exact v) : Exact) ≤ kbps (rate Exact w)) ∧
      (∀ decoration label : String, (∀ c ∈ decoration.toList, c.isDigit = false) →
        kbps (decoration ++ label) = (kbps label : Exact)) ∧
      (∀ text : String, ∃ r, (kbps text : Exact) = number r ∧ 0 ≤ r) ∧
      ∀ text : String, Scalar.isFinite (kbps text : Float) = true ∧ 0.0 ≤ (kbps text : Float) := by
  refine ⟨fun v => ?_, fun v w h => ?_, fun decoration label h => kbps_append h label, exists_kbps,
    kbps_nonneg⟩
  · obtain ⟨places, n, unit, hlabel, -, -, hscale, hplaces, -⟩ := exists_label v
    exact ⟨places, n, unit, unitSize (bitsOf v) / 1000, shownKbps (bitsOf v), hlabel, hplaces, hscale,
      kbps_rate v, abs_shownKbps_sub_le _, (shownKbps_eq_zero_iff _).trans (bitsOf_eq_zero_iff v)⟩
  · rw [kbps_rate, kbps_rate, number_le]
    exact shownKbps_mono (bitsOf_mono h)

end TrafficMap.Label
