import Mathlib
import TrafficMap.Proofs.Number.Sum
import TrafficMap.Terminal.Canvas

/-!
# When filling a rectangle ends

A rectangle is filled by lines at the heights `y`, `y + 5`, … down to its bottom. In binary floating point
that goes on for ever where a step of five is lost in rounding. From `2 ^ 56` on a step leads nowhere, and
the same holds below `-2 ^ 56`; between these bounds each step gains four at least. So the loop ends just
where it stays between the two (`scans_iff`), and the count of steps that the canvas allows is enough for
it (`isSome_scanRows_scanBound`). A rectangle of finite size may thus be one that is never filled, because
of where it lies.
-/

namespace TrafficMap.Binary64

open Float.Model.UnpackedFloat (Sign.apply)

/-- A number with 53 bits is a whole number of units if it is large enough. -/
theorem Representable.exists_eq_intCast {r : ℝ} (h : Representable r) {i : ℕ}
    (hlarge : (2 ^ (i + 52) : ℤ) ≤ |r|) : ∃ k : ℤ, r = (k * 2 ^ i : ℤ) := by
  obtain ⟨k, rfl⟩ := h.exists_eq_mul (j := i) (by exact_mod_cast hlarge)
  exact ⟨k, by push_cast; rw [zpow_natCast]⟩

/-! ## Steps of five -/

section

variable {v : ℝ} (hv : Representable v)

include hv

theorem rounded_add_five_bounds : v ≤ rounded (v + 5) ∧ rounded (v + 5) ≤ v + 10 := by
  have hnear := abs_rounded_sub_le hv (v + 5)
  rw [sub_add_cancel_left, abs_neg, abs_of_pos (by norm_num : (0 : ℝ) < 5), abs_le] at hnear
  constructor <;> linarith

/-- Beyond two to the power 56 a step of five leads nowhere. -/
theorem rounded_add_five_of_large (h : v < -2 ^ 56 ∨ 2 ^ 56 ≤ v) : rounded (v + 5) = v := by
  obtain ⟨hlow, hhigh⟩ := rounded_add_five_bounds hv
  obtain ⟨a, ha⟩ := hv.exists_eq_intCast (i := 4) (by
    norm_num
    rcases h with h | h
    · linarith [neg_abs_le v]
    · linarith [le_abs_self v])
  generalize hw : rounded (v + 5) = w at hlow hhigh ⊢
  have hgrid : ((2 ^ 56 : ℤ) : ℝ) ≤ |w| := by
    rcases h with h | h
    · -- the next multiple of sixteen below the bound is at least sixteen away from it
      have hnext : v ≤ -2 ^ 56 - 16 := by
        rw [ha] at h ⊢
        norm_cast at h ⊢
        omega
      norm_num
      linarith [neg_abs_le w]
    · norm_num
      linarith [le_abs_self w]
  obtain ⟨b, rfl⟩ := (hw ▸ representable_rounded (v + 5)).exists_eq_intCast (i := 4) hgrid
  rw [ha] at hlow hhigh ⊢
  norm_cast at hlow hhigh ⊢
  omega

/-- A step of five that starts below two to the power 56 does not lead beyond. -/
theorem add_five_le (hlt : v < 2 ^ 56) : v + 5 ≤ 2 ^ 56 := by
  by_contra hgt
  obtain ⟨a, rfl⟩ := hv.exists_eq_intCast (i := 3) (by
    norm_num
    linarith [le_abs_self v])
  norm_cast at hlt hgt
  omega

theorem rounded_add_five_le (hle : v ≤ 2 ^ 56) : rounded (v + 5) ≤ 2 ^ 56 := by
  rcases hle.lt_or_eq with hlt | rfl
  · have hlimit : Representable (2 ^ 56) := .zpow 56
    rw [← hlimit.rounded_eq]
    exact rounded_mono (add_five_le hv hlt)
  · exact (rounded_add_five_of_large hv (Or.inr le_rfl)).le

/-- A start and an end on the same grid are four apart, if the error is at most one unit of it. -/
theorem add_four_le_of_grid {i : ℕ} (hi : i = 1 ∨ i = 2) (hlow : (2 ^ (i + 53) : ℤ) ≤ |v + 5|)
    (hhigh : |v + 5| ≤ 2 ^ ((i : ℤ) + 54)) : v + 4 ≤ rounded (v + 5) := by
  have herror := abs_rounded_sub_le_zpow hhigh
  rw [add_sub_cancel_right, zpow_natCast] at herror
  have hunit : (2 : ℝ) ^ i ≤ 4 := by rcases hi with rfl | rfl <;> norm_num
  have hsize : ((2 ^ (i + 52) : ℤ) : ℝ) + 5 ≤ (2 ^ (i + 53) : ℤ) := by
    rcases hi with rfl | rfl <;> norm_num
  have hstart := abs_sub_abs_le_abs_sub (v + 5) v
  rw [add_sub_cancel_left, abs_of_pos (by norm_num : (0 : ℝ) < 5)] at hstart
  have hend := abs_sub_abs_le_abs_sub (v + 5) (rounded (v + 5))
  rw [abs_sub_comm] at hend
  obtain ⟨a, ha⟩ := hv.exists_eq_intCast (i := i) (by linarith)
  obtain ⟨b, hb⟩ := (representable_rounded (v + 5)).exists_eq_intCast (i := i) (by linarith)
  obtain ⟨hleft, -⟩ := abs_le.mp herror
  rw [hb] at hleft ⊢
  rw [ha] at hleft ⊢
  rcases hi with rfl | rfl <;> norm_cast at hleft ⊢ <;> omega

/-- Between these bounds a step of five gains four at least. -/
theorem add_four_le_rounded (hlow : -2 ^ 56 ≤ v) (hlt : v < 2 ^ 56) : v + 4 ≤ rounded (v + 5) := by
  have hrange : |v + 5| ≤ 2 ^ (56 : ℤ) := by
    have hhigh := add_five_le hv hlt
    rw [abs_le]
    norm_num at hhigh hlow ⊢
    constructor <;> linarith
  rcases le_or_gt |v + 5| (2 ^ (54 : ℤ)) with hsmall | hlarge
  · -- the error is at most one
    obtain ⟨hleft, -⟩ := abs_le.mp (abs_rounded_sub_le_zpow hsmall)
    norm_num at hleft
    linarith
  · rcases le_or_gt |v + 5| (2 ^ (55 : ℤ)) with hsmall | hlarge'
    · exact add_four_le_of_grid hv (Or.inl rfl) (by exact_mod_cast hlarge.le) (by exact_mod_cast hsmall)
    · exact add_four_le_of_grid hv (Or.inr rfl) (by exact_mod_cast hlarge'.le) (by exact_mod_cast hrange)

end

/-! ## Floats in steps of five -/

/-- Two to the power 56, from where on a step of five leads nowhere. -/
def stepLimit : Float := 72057594037927936.0

theorem exact_four : exact 4.0 = .number 4 := by
  have hparts : (4.0 : Float).toModel.unpack = .finite .positive (2 ^ 52) (-50) (by decide) := rfl
  rw [exact, hparts, partsValue, Sign.apply]
  norm_num

theorem exact_five : exact 5.0 = .number 5 := by
  have hparts : (5.0 : Float).toModel.unpack = .finite .positive (5 * 2 ^ 50) (-50) (by decide) := rfl
  rw [exact, hparts, partsValue, Sign.apply]
  norm_num

theorem exact_stepLimit : exact stepLimit = .number (2 ^ 56) := by
  have hparts : stepLimit.toModel.unpack = .finite .positive (2 ^ 52) 4 (by decide) := rfl
  rw [exact, hparts, partsValue, Sign.apply]
  norm_num

theorem exact_neg_stepLimit : exact (-stepLimit) = .number (-2 ^ 56) := by
  have hparts : (-stepLimit).toModel.unpack = .finite .negative (2 ^ 52) 4 (by decide) := rfl
  rw [exact, hparts, partsValue, Sign.apply]
  norm_num

section

variable {y : Float} {v : ℝ} (hy : exact y = .number v)

include hy

theorem exact_add_five : exact (y + 5.0) = .number (rounded (v + 5)) := by
  obtain ⟨hv, hlt⟩ := representable_of_exact hy
  obtain ⟨hlow, hhigh⟩ := rounded_add_five_bounds hv
  rw [exact_add, hy, exact_five, Exact.number_add, nearestValue_of_lt]
  by_cases hlarge : v < -2 ^ 56 ∨ 2 ^ 56 ≤ v
  · rwa [rounded_add_five_of_large hv hlarge]
  · obtain ⟨hleast, hmost⟩ := not_or.mp hlarge
    have hhuge : (2 : ℝ) ^ 57 ≤ 2 ^ 1024 := pow_le_pow_right₀ one_le_two (by norm_num)
    generalize (2 : ℝ) ^ 1024 = limit at hhuge ⊢
    rw [abs_lt]
    constructor <;> linarith

/-- A step of five from beyond the limits changes no value. -/
theorem exact_add_five_of_large (h : v < -2 ^ 56 ∨ 2 ^ 56 ≤ v) : exact (y + 5.0) = .number v := by
  rw [exact_add_five hy, rounded_add_five_of_large (representable_of_exact hy).1 h]

end

end TrafficMap.Binary64

namespace TrafficMap.Terminal.Canvas

open Binary64

/-! ## The loop -/

section

variable {α : Type} [Scalar α] {bottom : α}

/-- The runs of the loop over the heights of a rectangle that end, with the heights that were drawn. -/
inductive Scans (bottom : α) : α → List α → Prop
  | done {y : α} (h : ¬ y ≤ bottom) : Scans bottom y []
  | step {y : α} {ys : List α} (h : y ≤ bottom) (rest : Scans bottom (y + dotSize) ys) :
    Scans bottom y (y :: ys)

/-- The heights that are found are those of a run that is short enough. -/
theorem scanRows_eq_some_iff {fuel : ℕ} {y : α} {ys : List α} :
    scanRows bottom fuel y = some ys ↔ Scans bottom y ys ∧ ys.length < fuel := by
  induction fuel generalizing y ys with
  | zero => simp [scanRows]
  | succ fuel ih =>
    rw [scanRows]
    split_ifs with hle
    · rw [Option.map_eq_some_iff]
      constructor
      · rintro ⟨zs, hzs, rfl⟩
        obtain ⟨hrest, hlt⟩ := ih.mp hzs
        exact ⟨.step hle hrest, Nat.succ_lt_succ hlt⟩
      · rintro ⟨_ | ⟨_, hrest⟩, hlt⟩
        · exact absurd hle ‹_›
        · exact ⟨_, ih.mpr ⟨hrest, Nat.lt_of_succ_lt_succ hlt⟩, rfl⟩
    · constructor
      · rintro ⟨⟩
        exact ⟨.done hle, Nat.succ_pos _⟩
      · rintro ⟨_ | ⟨hle', -⟩, -⟩
        · rfl
        · exact absurd hle' hle

theorem Scans.unique {y : α} {ys zs : List α} (hys : Scans bottom y ys) (hzs : Scans bottom y zs) :
    ys = zs := by
  induction hys generalizing zs with
  | done hnot =>
    rcases hzs with _ | ⟨hle, -⟩
    · rfl
    · exact absurd hle hnot
  | step hle _ ih =>
    rcases hzs with hnot | ⟨-, hrest⟩
    · exact absurd hle hnot
    · rw [ih hrest]

/-- A loop does not end if what lets it go on holds after each step again. -/
theorem not_scans {p : α → Prop} (hstep : ∀ y, p y → y ≤ bottom ∧ p (y + dotSize)) {y : α} (hy : p y)
    (ys : List α) : ¬ Scans bottom y ys := by
  intro h
  induction h with
  | done hnot => exact hnot (hstep _ hy).1
  | step _ _ ih => exact ih (hstep _ hy).2

end

/-! ## When the loop ends -/

section

variable {bottom y : Float} {v b : ℝ}

/-- Between the limits each step gains four, so the loop ends after as many steps as fit. -/
theorem isSome_scanRows {n : ℕ} (hy : exact y = .number v) (hb : exact bottom = .number b)
    (hlow : -2 ^ 56 ≤ v) (hhigh : b < 2 ^ 56) (hn : b - v < 4 * n) :
    (scanRows bottom (n + 1) y).isSome := by
  have hle_iff {y : Float} {v : ℝ} (hy : exact y = .number v) : y ≤ bottom ↔ v ≤ b := by
    rw [← exact_le, hy, hb, Exact.number_le]
  induction n generalizing y v with
  | zero =>
    rw [Nat.cast_zero, mul_zero, sub_neg] at hn
    rw [scanRows, if_neg ((hle_iff hy).not.mpr hn.not_ge)]
    rfl
  | succ n ih =>
    rw [scanRows]
    split_ifs with hle
    · have hv := (hle_iff hy).mp hle
      have hgain := add_four_le_rounded (representable_of_exact hy).1 hlow (hv.trans_lt hhigh)
      push_cast at hn
      rw [Option.isSome_map]
      exact ih (exact_add_five hy) (by linarith) (by linarith)
    · rfl

/-- A step from beyond the limits, or from an infinity, is lost. -/
theorem exact_add_dot_of_lt (hnan : Scalar.isNaN y = false) (h : ¬ -stepLimit ≤ y) :
    exact (y + dotSize) = exact y := by
  have hdot : exact (y + dotSize) = nearestValue (exact y + exact 5.0) := exact_add y 5.0
  rw [← isNaN_exact] at hnan
  rw [← exact_le, exact_neg_stepLimit] at h
  cases hy : exact y with
  | undefined =>
    rw [hy] at hnan
    cases hnan
  | infinite negative => rw [hdot, hy, exact_five]; rfl
  | number v =>
    rw [hy, Exact.number_le, not_le] at h
    exact exact_add_five_of_large hy (Or.inl h)

/-- A step does not lead beyond the upper limit. -/
theorem add_dot_le (hbottom : stepLimit ≤ bottom) (hle : y ≤ bottom) : y + dotSize ≤ bottom := by
  have hdot : exact (y + dotSize) = nearestValue (exact y + exact 5.0) := exact_add y 5.0
  rw [← exact_le, exact_stepLimit] at hbottom
  rw [← exact_le] at hle ⊢
  cases hy : exact y with
  | undefined =>
    rw [hy] at hle
    cases hle
  | infinite negative =>
    rw [hy] at hle
    rw [hdot, hy, exact_five]
    exact hle
  | number v =>
    have hv := (representable_of_exact hy).1
    rcases le_or_gt (2 ^ 56) v with hlarge | hsmall
    · have hstep : exact (y + dotSize) = .number v := exact_add_five_of_large hy (Or.inr hlarge)
      rwa [hstep, ← hy]
    · have hstep : exact (y + dotSize) = .number (rounded (v + 5)) := exact_add_five hy
      rw [hstep]
      exact Exact.le_trans (rounded_add_five_le hv hsmall.le) hbottom

/-- Floats between the limits are numbers. -/
theorem exists_values (hle : y ≤ bottom) (hlow : -stepLimit ≤ y) (hhigh : bottom < stepLimit) :
    ∃ v b, exact y = .number v ∧ exact bottom = .number b ∧ -2 ^ 56 ≤ v ∧ b < 2 ^ 56 := by
  rw [← exact_le, exact_neg_stepLimit] at hlow
  rw [← exact_lt, exact_stepLimit] at hhigh
  rw [← exact_le] at hle
  have hmost := Exact.le_number_of_lt hhigh
  obtain ⟨v, hv, hvlow, -⟩ := Exact.exists_number hlow (Exact.le_trans hle hmost)
  obtain ⟨b, hb, -, -⟩ := Exact.exists_number (Exact.le_trans hlow hle) hmost
  rw [hb] at hhigh
  exact ⟨v, b, hv, hb, hvlow, hhigh⟩

/-- From a height that is not below the bottom, the loop ends if and only if it stays between the limits. -/
theorem scans_iff (hle : y ≤ bottom) :
    (∃ ys, Scans bottom y ys) ↔ -stepLimit ≤ y ∧ bottom < stepLimit := by
  obtain ⟨hy, hbottom, -⟩ := le_iff_not_lt.mp hle
  constructor
  · rintro ⟨ys, hys⟩
    by_contra hout
    rcases not_and_or.mp hout with hlow | hhigh
    · -- the height keeps its value
      refine not_scans (p := fun z => exact z = exact y) (fun z hz => ⟨?_, ?_⟩) rfl ys hys
      · rwa [← exact_le, hz, exact_le]
      · rw [exact_add_dot_of_lt (by rwa [← isNaN_exact, hz, isNaN_exact])
          (by rwa [← exact_le, hz, exact_le]), hz]
    · -- the height stays below the limit, and the bottom is not
      have hlimit : stepLimit ≤ bottom := le_iff_not_lt.mpr ⟨rfl, hbottom, hhigh⟩
      exact not_scans (p := fun z => z ≤ bottom) (fun z hz => ⟨hz, add_dot_le hlimit hz⟩) hle ys hys
  · rintro ⟨hlow, hhigh⟩
    obtain ⟨v, b, hv, hb, hvlow, hbhigh⟩ := exists_values hle hlow hhigh
    obtain ⟨n, hn⟩ := exists_nat_gt ((b - v) / 4)
    have hsome := isSome_scanRows hv hb hvlow hbhigh (n := n) (by linarith)
    obtain ⟨ys, hys⟩ := Option.isSome_iff_exists.mp hsome
    exact ⟨ys, (scanRows_eq_some_iff.mp hys).1⟩

/-! ## The count of steps -/

/-- The count that the canvas allows exceeds a quarter of the height. -/
theorem lt_four_mul_truncate {height : Float} {h : ℝ} (hh : exact height = .number h) (hlt : h < 2 ^ 58) :
    h < 4 * ((Scalar.truncate (height / 4.0)).toNat + 1 : ℕ) := by
  rcases lt_or_ge h 4 with hsmall | hlarge
  · have hcount : (1 : ℝ) ≤ ((Scalar.truncate (height / 4.0)).toNat + 1 : ℕ) := by
      exact_mod_cast Nat.succ_pos _
    linarith
  · have hquarter : Representable (h / 4) := by
      obtain ⟨n, e, hn, hvalue⟩ := (representable_of_exact hh).1
      refine ⟨n, e - 2, hn, ?_⟩
      rw [hvalue, zpow_sub₀ two_ne_zero]
      norm_num
      ring
    have hrange : 1 ≤ h / 4 ∧ h / 4 ≤ 2 ^ 64 := by constructor <;> linarith
    have hdenotes := (denotes_of_exact hh (by linarith)).div (denotes_of_exact exact_four (by norm_num))
      (inRange_of_bounds hrange.1 hrange.2)
    rw [← rounded_of_pos (by linarith), hquarter.rounded_eq] at hdenotes
    rw [hdenotes.truncate, Int.floor_toNat]
    have hlt' := Nat.lt_floor_add_one (h / 4)
    push_cast at hlt' ⊢
    linarith

end

/-- The bottom of a rectangle that lies between the limits is off by four at most. -/
theorem bottom_le {rect : Rect Float} {v b h : ℝ} (hv : exact rect.y = .number v)
    (hh : exact rect.height = .number h) (hb : exact (rect.y + rect.height) = .number b) (hnonneg : 0 ≤ h)
    (hlow : -2 ^ 56 ≤ v) (hhigh : b < 2 ^ 56) : v + h < 2 ^ 56 ∧ b ≤ v + h + 4 := by
  have hround : rounded (v + h) = b := by
    rw [exact_add, hv, hh, Exact.number_add] at hb
    exact rounded_of_nearestValue hb
  have hlt : v + h < 2 ^ 56 := by
    by_contra hge
    have hlimit : Representable (2 ^ 56) := .zpow 56
    have hmono := rounded_mono (not_lt.mp hge)
    rw [hlimit.rounded_eq, hround] at hmono
    linarith
  have hrange : |v + h| ≤ 2 ^ (56 : ℤ) := by
    rw [abs_le]
    constructor <;> norm_num <;> linarith
  obtain ⟨-, herror⟩ := abs_le.mp (abs_rounded_sub_le_zpow hrange)
  norm_num [hround] at herror
  exact ⟨hlt, by linarith⟩

section

variable {rect : Rect Float} (hfill : fillable rect = true)

include hfill

/-- The height of a rectangle that can be filled is a number that is not negative. -/
theorem exists_height : ∃ h, exact rect.height = .number h ∧ 0 ≤ h := by
  rw [fillable, Bool.and_eq_true, Bool.and_eq_true, Bool.not_eq_true', decide_eq_false_iff_not] at hfill
  obtain ⟨⟨hfinite, -⟩, hnegative⟩ := hfill
  obtain ⟨h, hh⟩ := isFinite_iff.mp hfinite
  have hzero : exact 0.0 = .number 0 := rfl
  rw [← exact_lt, hh, hzero, Exact.number_lt, not_lt] at hnegative
  exact ⟨h, hh, hnegative⟩

/-- The heights across a rectangle are found if the loop over them ends. -/
theorem isSome_scanRows_scanBound :
    (scanRows (rect.y + rect.height) (scanBound rect.height) rect.y).isSome
      ↔ ∃ ys, Scans (rect.y + rect.height) rect.y ys := by
  constructor
  · intro hsome
    obtain ⟨ys, hys⟩ := Option.isSome_iff_exists.mp hsome
    exact ⟨ys, (scanRows_eq_some_iff.mp hys).1⟩
  · intro hends
    by_cases hle : rect.y ≤ rect.y + rect.height
    · obtain ⟨hlow, hhigh⟩ := (scans_iff hle).mp hends
      obtain ⟨v, b, hv, hb, hvlow, hbhigh⟩ := exists_values hle hlow hhigh
      obtain ⟨h, hh, hnonneg⟩ := exists_height hfill
      obtain ⟨hlt, hbottom⟩ := bottom_le hv hh hb hnonneg hvlow hbhigh
      have hcount := lt_four_mul_truncate hh (by linarith)
      refine isSome_scanRows hv hb hvlow hbhigh (n := (Scalar.truncate (rect.height / 4.0)).toNat + 2) ?_
      push_cast at hcount ⊢
      linarith
    · rw [scanBound, scanRows, if_neg hle]
      rfl

end

/-! ## Filling a rectangle -/

/-- The rectangles that are filled by finitely many lines: those that are left out because of their size, those
at no height, and those that lie between the limits. -/
def FillEnds (rect : Rect Float) : Prop :=
  fillable rect = false ∨ Scalar.isNaN rect.y = true ∨
    -stepLimit ≤ rect.y ∧ rect.y + rect.height < stepLimit

theorem exists_scans_iff {rect : Rect Float} (hfill : fillable rect = true) :
    (∃ ys, Scans (rect.y + rect.height) rect.y ys) ↔ FillEnds rect := by
  rw [FillEnds, hfill]
  cases hnan : Scalar.isNaN rect.y with
  | true =>
    have hle : ¬ rect.y ≤ rect.y + rect.height := fun hle => by
      rw [(le_iff_not_lt.mp hle).1] at hnan
      cases hnan
    simp only [true_or, or_true, iff_true]
    exact ⟨[], .done hle⟩
  | false =>
    obtain ⟨h, hh, hnonneg⟩ := exists_height hfill
    simp only [Bool.true_eq_false, Bool.false_eq_true, false_or]
    exact scans_iff (le_add_of_nonneg hnan hh hnonneg)

section

variable (c : Canvas Float) (rect : Rect Float) (radius : Float) (color : Color Float)

/-- Whether filling ends does not depend on the canvas, the radius or the colour. -/
theorem isSome_roundedRect_iff : (c.roundedRect? rect radius color).isSome ↔ FillEnds rect := by
  rw [roundedRect?]
  split_ifs with hfill
  · rw [Option.isSome_map, isSome_scanRows_scanBound hfill, exists_scans_iff hfill]
  · simp only [FillEnds, Bool.not_eq_true _ ▸ hfill, Option.isSome_some, true_or]

/-- Filling records the lines of the loop if that one ends. -/
theorem roundedRect_eq_some_iff (c' : Canvas Float) :
    c.roundedRect? rect radius color = some c' ↔
      fillable rect = false ∧ c' = c ∨
        fillable rect = true ∧ ∃ ys, Scans (rect.y + rect.height) rect.y ys ∧
          c' = c.record (ys.map fun y =>
            c.lineMark (c.paint color) (scanLine rect (cornerRadius rect radius) y)) := by
  rw [roundedRect?]
  split_ifs with hfill
  · simp only [hfill, Bool.true_eq_false, false_and, false_or, true_and, Option.map_eq_some_iff]
    constructor
    · rintro ⟨ys, hys, rfl⟩
      exact ⟨ys, (scanRows_eq_some_iff.mp hys).1, rfl⟩
    · rintro ⟨ys, hys, rfl⟩
      obtain ⟨zs, hzs⟩ := Option.isSome_iff_exists.mp ((isSome_scanRows_scanBound hfill).mpr ⟨ys, hys⟩)
      obtain rfl := (scanRows_eq_some_iff.mp hzs).1.unique hys
      exact ⟨zs, hzs, rfl⟩
  · simp only [hfill, Bool.false_eq_true, false_and, or_false, true_and, Option.some_inj, eq_comm]

end

/-- Filling a rectangle ends, with the lines of its loop, if and only if the loop does; and that is so if and only
if the rectangle lies between the limits of its steps, is at no height at all, or is left out because of its
size. -/
theorem ends_of_roundedRect (c : Canvas Float) (rect : Rect Float) (radius : Float) (color : Color Float) :
    (∀ c', c.roundedRect? rect radius color = some c' ↔
      fillable rect = false ∧ c' = c ∨
        fillable rect = true ∧ ∃ ys, Scans (rect.y + rect.height) rect.y ys ∧
          c' = c.record (ys.map fun y =>
            c.lineMark (c.paint color) (scanLine rect (cornerRadius rect radius) y))) ∧
      ((c.roundedRect? rect radius color).isSome ↔
        fillable rect = false ∨ Scalar.isNaN rect.y = true ∨
          -stepLimit ≤ rect.y ∧ rect.y + rect.height < stepLimit) :=
  ⟨roundedRect_eq_some_iff c rect radius color, isSome_roundedRect_iff c rect radius color⟩

/-- A rectangle without height, far below the canvas, is never done, although its bottom is its top. -/
theorem not_ends_far_below :
    (blank 10 10 : Canvas Float).roundedRect? ⟨0.0, 1e17, 10.0, 0.0⟩ 2.0 (.rgb 255 255 255) = none ∧
      ∀ ys, ¬ Scans ((1e17 : Float) + 0.0) 1e17 ys := by
  have hfill : fillable (⟨0.0, 1e17, 10.0, 0.0⟩ : Rect Float) = true := by decide
  have hends : ¬ FillEnds ⟨0.0, 1e17, 10.0, 0.0⟩ := by
    rw [FillEnds]
    decide
  refine ⟨?_, fun ys hys => hends ((exists_scans_iff hfill).mp ⟨ys, hys⟩)⟩
  rw [← Option.not_isSome_iff_eq_none, isSome_roundedRect_iff]
  exact hends

end TrafficMap.Terminal.Canvas
