import Mathlib
import TrafficMap.Proofs.Number.Written
import TrafficMap.Proofs.Text.Words
import TrafficMap.Traffic.Label

/-!
# Rates read off labels

The label of a rate is a number and a unit, and the rate that is computed with is the one that the label
shows. In exact arithmetic that is the number of bits in units of the label, rounded to a tenth
(`kbps_rate`). A larger unit begins where the rounded numbers of the smaller one end, so a faster rate
never reads as a slower one (`shownKbps_mono`).
-/

namespace TrafficMap

open Exact

namespace Label

open Text (words isBlank isBlank_of_isDigit asciiLower)

/-! ## Reading a label -/

/-- A decimal with fixed places begins with a digit and has no blanks. -/
theorem exists_point (places n : Nat) :
    ∃ c cs, Decimal.point places n = c :: cs ∧ c.isDigit = true ∧
      ∀ d ∈ c :: cs, isBlank d = false := by
  have hdigits (m : Nat) : ∀ c ∈ Nat.toDigits 10 m, c.isDigit = true :=
    fun c hc => Nat.isDigit_of_mem_toDigits (by decide) (by decide) hc
  have hwhole : ∃ m rest, Decimal.point places n = Nat.toDigits 10 m ++ rest ∧
      ∀ d ∈ rest, isBlank d = false := by
    unfold Decimal.point
    split_ifs
    · exact ⟨n, [], (List.append_nil _).symm, fun d hd => absurd hd List.not_mem_nil⟩
    · refine ⟨_, _, rfl, fun d hd => ?_⟩
      rcases List.mem_cons.mp hd with rfl | hd
      · rfl
      · exact isBlank_of_isDigit (Decimal.isDigit_of_mem_padded hd)
  obtain ⟨m, rest, hpoint, hrest⟩ := hwhole
  obtain ⟨c, cs, hcs⟩ := List.exists_cons_of_ne_nil (Nat.toDigits_ne_nil (n := m) (b := 10))
  refine ⟨c, cs ++ rest, by rw [hpoint, hcs, List.cons_append], ?_, fun d hd => ?_⟩
  · exact hdigits m c (hcs ▸ List.mem_cons_self)
  · rw [← List.cons_append, ← hcs, List.mem_append] at hd
    rcases hd with hd | hd
    · exact isBlank_of_isDigit (hdigits m d hd)
    · exact hrest d hd

/-- A label that consists of a decimal and a unit reads as their product. -/
theorem kbps_of_toList {label : String} {places n : Nat} {unit : List Char} {scale : ℝ}
    (hlabel : label.toList = Decimal.point places n ++ ' ' :: unit) (hne : unit ≠ [])
    (hunit : ∀ c ∈ unit, isBlank c = false)
    (hscale : unitScale? (asciiLower unit) = some (number scale)) (hpositive : 0 < scale) :
    kbps label = number (n / 10 ^ places * scale) := by
  have hwords : words (label.toList.dropWhile fun c => !c.isDigit)
      = [Decimal.point places n, unit] := by
    obtain ⟨c, cs, hpoint, hdigit, hblank⟩ := exists_point places n
    rw [hlabel, hpoint, List.cons_append, List.dropWhile_cons_of_neg (by simp [hdigit]),
      ← List.cons_append, words, Text.runs_append_cons rfl,
      Text.runs_of_forall (List.cons_ne_nil c cs) hblank, Text.runs_of_forall hne hunit]
    rfl
  have hvalue : 0 ≤ (n : ℝ) / 10 ^ places * scale := by positivity
  simp only [kbps, hwords, Decimal.read?_point, hscale, Decimal.value_written, number_mul,
    isFinite_number, Bool.true_and, decide_eq_true_eq]
  split_ifs with h
  · rfl
  · rw [zero_eq] at h ⊢
    rw [le_antisymm (not_lt.mp h) hvalue]

/-! ## What a label shows -/

/-- The size in bits per second of the unit in which a number of bits is shown. -/
def unitSize (bits : ℕ) : ℕ :=
  ((rateUnits.find? fun u => u.2 ≤ bits).map (·.2)).getD 1

theorem unitSize_eq (bits : ℕ) :
    unitSize bits = if 1000000000 ≤ bits then 1000000000 else if 1000000 ≤ bits then 1000000
      else if 1000 ≤ bits then 1000 else 1 := by
  unfold unitSize rateUnits
  split_ifs <;> simp [*]

theorem unitSize_pos (bits : ℕ) : 0 < unitSize bits := by
  rw [unitSize_eq]
  split_ifs <;> norm_num

/-- What the label of a number of bits shows, in Kbps: a number of units, rounded to a tenth. -/
noncomputable def shownKbps (bits : ℕ) : ℝ :=
  roundEven (bits / unitSize bits * (10 : ℕ)) / (10 : ℕ) * (unitSize bits / (1000 : ℕ))

theorem shownKbps_eq (bits : ℕ) :
    shownKbps bits = roundEven (bits / unitSize bits * 10) / 10 * (unitSize bits / 1000) := by
  simp only [shownKbps, Nat.cast_ofNat]

/-- The units are written without blanks, and read back with their sizes. -/
theorem of_mem_rateUnits {u : String × ℕ} (h : u ∈ rateUnits) :
    1000 ≤ u.2 ∧ u.1.toList ≠ [] ∧ (∀ c ∈ u.1.toList, isBlank c = false) ∧
      unitScale? (asciiLower u.1.toList) = some (number (u.2 / 1000)) := by
  simp only [rateUnits, List.mem_cons, List.not_mem_nil, or_false] at h
  rcases h with rfl | rfl | rfl
  · have hscale : unitScale? (asciiLower "Gbps".toList) = some (1000000.0 : Exact) := rfl
    refine ⟨by decide, by decide, by simp [isBlank], ?_⟩
    rw [hscale, ofScientific_eq]
    norm_num
  · have hscale : unitScale? (asciiLower "Mbps".toList) = some (1000.0 : Exact) := rfl
    refine ⟨by decide, by decide, by simp [isBlank], ?_⟩
    rw [hscale, ofScientific_eq]
    norm_num
  · have hscale : unitScale? (asciiLower "Kbps".toList) = some (1.0 : Exact) := rfl
    refine ⟨by decide, by decide, by simp [isBlank], ?_⟩
    rw [hscale, ofScientific_eq]
    norm_num

/-- The label of a rate is a decimal and a unit. Below a thousand bits it has no places, and one from there
on. -/
theorem exists_label (bytesPerSecond : UInt64) :
    ∃ (places n : ℕ) (unit : List Char),
      (rate Exact bytesPerSecond).toList = Decimal.point places n ++ ' ' :: unit ∧
      unit ≠ [] ∧ (∀ c ∈ unit, isBlank c = false) ∧
      unitScale? (asciiLower unit) = some (number (unitSize (bitsOf bytesPerSecond) / 1000)) ∧
      places = (if bitsOf bytesPerSecond < 1000 then 0 else 1) ∧
      (n : ℝ) / 10 ^ places
        = roundEven (bitsOf bytesPerSecond / unitSize (bitsOf bytesPerSecond) * 10) / 10 := by
  unfold rate unitSize
  dsimp only
  generalize bitsOf bytesPerSecond = bits
  cases hfind : rateUnits.find? fun u => u.2 ≤ bits with
  | none =>
    have hsmall : bits < 1000 := by
      have hnone := List.find?_eq_none.mp hfind ("Kbps", 1000) (by decide)
      simpa using hnone
    -- a plain number of bits has no places to be rounded to
    have hwhole : roundEven (bits / (1 : ℕ) * 10) = bits * 10 := by
      rw [Nat.cast_one, div_one]
      exact_mod_cast roundEven_intCast (bits * 10)
    have hscale : unitScale? (asciiLower "bps".toList) = some (number (1 / 1000)) := by
      have hunit : unitScale? (asciiLower "bps".toList) = some (0.001 : Exact) := rfl
      rw [hunit, ofScientific_eq]
      norm_num
    refine ⟨0, bits, "bps".toList, ?_, by decide, by simp [isBlank], ?_, (if_pos hsmall).symm, ?_⟩
    · rw [String.toList_append, Nat.toString_eq_repr, Nat.toList_repr]
      rfl
    · rw [hscale]
      simp
    · simp only [Option.map_none, Option.getD_none, hwhole]
      push_cast
      ring
  | some u =>
    obtain ⟨unit, size⟩ := u
    have hreached : size ≤ bits := by simpa using List.find?_some hfind
    obtain ⟨hsize, hne, hblank, hscale⟩ := of_mem_rateUnits (List.mem_of_find?_eq_some hfind)
    dsimp only at hsize
    have hsize' : (size : ℝ) ≠ 0 := by exact_mod_cast (by omega : size ≠ 0)
    have hnumber : 0 ≤ (bits : ℝ) / size := by positivity
    obtain ⟨n, hn⟩ : ∃ n : ℕ, roundEven (bits / size * 10) = n :=
      Int.eq_ofNat_of_zero_le (roundEven_nonneg (by positivity))
    refine ⟨1, n, unit.toList, ?_, hne, hblank, hscale, (if_neg (by omega)).symm, ?_⟩
    · show (Decimal.fixed 1 ((Scalar.ofNat bits : Exact) / Scalar.ofNat size) ++ " " ++ unit).toList = _
      rw [ofNat_eq, ofNat_eq, number_div _ hsize', String.toList_append, String.toList_append,
        Decimal.toList_fixed 1 hnumber, pow_one, hn]
      simp
    · simp [hn]

/-- The label of a rate reads as what it shows. -/
theorem kbps_rate (bytesPerSecond : UInt64) :
    kbps (rate Exact bytesPerSecond) = number (shownKbps (bitsOf bytesPerSecond)) := by
  obtain ⟨places, n, unit, hlabel, hne, hblank, hscale, -, hvalue⟩ := exists_label bytesPerSecond
  have hunit : (0 : ℝ) < unitSize (bitsOf bytesPerSecond) := by
    exact_mod_cast unitSize_pos (bitsOf bytesPerSecond)
  rw [kbps_of_toList hlabel hne hblank hscale (by positivity), hvalue, shownKbps_eq]

/-! ## Faster and slower rates -/

theorem bitsOf_mono {v w : UInt64} (h : v ≤ w) : bitsOf v ≤ bitsOf w := by
  have hbytes : v.toNat ≤ w.toNat := h
  unfold bitsOf
  omega

/-- A label shows at most one of the next larger units. -/
theorem shownKbps_le {bits : ℕ} (h : bits ≤ 1000 * unitSize bits) :
    shownKbps bits ≤ unitSize bits := by
  have hunit : (0 : ℝ) < unitSize bits := by exact_mod_cast unitSize_pos bits
  have hbits : (bits : ℝ) ≤ 1000 * unitSize bits := by exact_mod_cast h
  have hunits : (bits : ℝ) / unitSize bits * 10 ≤ (10000 : ℤ) := by
    have hquotient : (bits : ℝ) / unitSize bits ≤ 1000 := (div_le_iff₀ hunit).mpr hbits
    push_cast
    linarith
  have hround : (roundEven (bits / unitSize bits * 10) : ℝ) ≤ 10000 := by
    exact_mod_cast (roundEven_mono hunits).trans_eq (roundEven_intCast 10000)
  calc shownKbps bits ≤ 10000 / 10 * (unitSize bits / 1000) := by
        rw [shownKbps_eq]
        gcongr
    _ = unitSize bits := by ring

/-- A label shows at least one of its own units. -/
theorem le_shownKbps {bits : ℕ} (h : unitSize bits ≤ bits) :
    (unitSize bits : ℝ) / 1000 ≤ shownKbps bits := by
  have hunit : (0 : ℝ) < unitSize bits := by exact_mod_cast unitSize_pos bits
  have hbits : (unitSize bits : ℝ) ≤ bits := by exact_mod_cast h
  have hunits : ((10 : ℤ) : ℝ) ≤ bits / unitSize bits * 10 := by
    have hquotient : 1 ≤ (bits : ℝ) / unitSize bits := (one_le_div hunit).mpr hbits
    push_cast
    linarith
  have hround : (10 : ℝ) ≤ roundEven (bits / unitSize bits * 10) := by
    exact_mod_cast (roundEven_intCast 10).symm.trans_le (roundEven_mono hunits)
  calc (unitSize bits : ℝ) / 1000 = 10 / 10 * (unitSize bits / 1000) := by ring
    _ ≤ shownKbps bits := by
        rw [shownKbps_eq]
        gcongr

/-- Of two numbers of bits the larger one is shown in the same unit, or in one that begins where the
other ends. -/
theorem unitSize_cases {a b : ℕ} (h : a ≤ b) :
    unitSize a = unitSize b ∨
      a ≤ 1000 * unitSize a ∧ 1000 * unitSize a ≤ unitSize b ∧ unitSize b ≤ b := by
  rw [unitSize_eq, unitSize_eq]
  split_ifs <;> omega

theorem shownKbps_mono {a b : ℕ} (h : a ≤ b) : shownKbps a ≤ shownKbps b := by
  rcases unitSize_cases h with hsame | ⟨ha, hunits, hb⟩
  · have hab : (a : ℝ) / unitSize b * 10 ≤ b / unitSize b * 10 := by gcongr
    have hround : (roundEven (a / unitSize b * 10) : ℝ) ≤ roundEven (b / unitSize b * 10) := by
      exact_mod_cast roundEven_mono hab
    rw [shownKbps_eq, shownKbps_eq, hsame]
    gcongr
  · have hunits' : (unitSize a : ℝ) ≤ unitSize b / 1000 := by
      rw [le_div_iff₀ (by norm_num), mul_comm]
      exact_mod_cast hunits
    calc shownKbps a ≤ unitSize a := shownKbps_le ha
      _ ≤ unitSize b / 1000 := hunits'
      _ ≤ shownKbps b := le_shownKbps hb

end Label

end TrafficMap
