import Mathlib
import TrafficMap.Proofs.Canvas.Fill
import TrafficMap.Proofs.Number.Exact

/-!
# Rounded corners

A rectangle with rounded corners is filled by rows one dot apart. Read exactly, a row reaches from side to side
except for what the corners take off its ends (`inset`). That depends on the distance to the nearer of top and
bottom alone: it is nothing from the radius on and never more than the radius, and the radius is at most half of
either side. So a row is as long as the one that lies as far from the opposite edge, and its ends do not cross
(`rows_of_roundedRect`).
-/

namespace TrafficMap.Terminal.Canvas

open Exact

/-! ## What a corner takes off -/

/-- What a corner takes off either end of a row, for a distance from the nearer of top and bottom: the row begins
on a circle that touches the sides. -/
noncomputable def inset (radius distance : ℝ) : ℝ :=
  radius - √(radius ^ 2 - max (radius - distance) 0 ^ 2)

section

variable {r e : ℝ}

/-- Away from the corners a row is not shortened. -/
theorem inset_of_le (hr : 0 ≤ r) (h : r ≤ e) : inset r e = 0 := by
  rw [inset, max_eq_right (sub_nonpos.mpr h), zero_pow two_ne_zero, sub_zero, Real.sqrt_sq hr, sub_self]

/-- A row is shortened by the radius at most. -/
theorem inset_le : inset r e ≤ r :=
  sub_le_self r (Real.sqrt_nonneg _)

theorem inset_nonneg (hr : 0 ≤ r) : 0 ≤ inset r e := by
  have hroot : √(r ^ 2 - max (r - e) 0 ^ 2) ≤ √(r ^ 2) :=
    Real.sqrt_le_sqrt (sub_le_self _ (sq_nonneg _))
  rw [Real.sqrt_sq hr] at hroot
  exact sub_nonneg.mpr hroot

/-- The circle does not end before the edge. -/
theorem sq_max_sub_le (hr : 0 ≤ r) (he : 0 ≤ e) : 0 ≤ r ^ 2 - max (r - e) 0 ^ 2 := by
  have hmax : max (r - e) 0 ≤ r := max_le (sub_le_self r he) hr
  exact sub_nonneg.mpr (pow_le_pow_left₀ (le_max_right _ _) hmax 2)

end

/-! ## The radius -/

section

variable (x y : ℝ) {w h : ℝ} (hw : 0 ≤ w) (hh : 0 ≤ h)

/-- The radius of the corners, for the one that is asked for. -/
noncomputable def fitted (w h radius : ℝ) : ℝ :=
  min (max radius 0) (min w h / (2 : ℕ))

/-- A radius is moved into the range from zero to half of the shorter side. -/
theorem fitted_eq (w h radius : ℝ) : fitted w h radius = min (max radius 0) (min w h / 2) := by
  rw [fitted, Nat.cast_ofNat]

include hw hh

theorem fitted_nonneg (radius : ℝ) : 0 ≤ fitted w h radius := by
  rw [fitted_eq]
  exact le_min (le_max_right _ _) (by positivity)

omit hw hh in
/-- Two fitted corners have room beside each other. -/
theorem two_mul_fitted_le (radius : ℝ) : 2 * fitted w h radius ≤ w ∧ 2 * fitted w h radius ≤ h := by
  have hhalf : fitted w h radius ≤ min w h / 2 := (fitted_eq w h radius).trans_le (min_le_right _ _)
  constructor
  · linarith [min_le_left w h]
  · linarith [min_le_right w h]

/-- The radius of the corners is the fitted one. -/
theorem cornerRadius_number (radius : ℝ) :
    cornerRadius ⟨number x, number y, number w, number h⟩ (number radius) = number (fitted w h radius) := by
  have hside : max (min w h) 0 = min w h := max_eq_left (le_min hw hh)
  simp only [cornerRadius, min_number, zero_eq, two_eq, max_number, hside, number_div _ two_ne_zero,
    clamp_number, fitted_eq]

/-! ## A row -/

/-- The row at a distance from the top. -/
noncomputable def row (x y w h r d : ℝ) : Point Exact × Point Exact :=
  (⟨number (x + inset r (min d (h - d))), number (y + d)⟩,
    ⟨number (x + w - inset r (min d (h - d))), number (y + d)⟩)

omit hw hh in
/-- A line of the fill is a row of the rectangle. -/
theorem scanLine_number {r d : ℝ} (hr : 0 ≤ r) (hfits : 2 * r ≤ h) (hd : 0 ≤ d) (hdh : d ≤ h) :
    scanLine ⟨number x, number y, number w, number h⟩ (number r) (number (y + d)) = row x y w h r d := by
  -- the distance that the row lies outside of the part without corners
  have hdepth : (if y + d < y + r then y + r - (y + d)
      else if y + h - r < y + d then y + d - (y + h - r) else 0) = max (r - min d (h - d)) 0 := by
    split_ifs with htop hbottom
    · rw [min_eq_left (by linarith), max_eq_left (by linarith)]
      ring
    · rw [min_eq_right (by linarith), max_eq_left (by linarith)]
      ring
    · rw [max_eq_right (sub_nonpos.mpr (le_min (by linarith) (by linarith)))]
  have hroot := sq_max_sub_le hr (le_min hd (sub_nonneg.mpr hdh))
  have hsqrt : Scalar.sqrt (number (r ^ 2 - max (r - min d (h - d)) 0 ^ 2))
      = number √(r ^ 2 - max (r - min d (h - d)) 0 ^ 2) := if_neg hroot.not_gt
  simp only [scanLine, number_add, number_sub, number_lt, zero_eq, ← apply_ite number, hdepth, number_mul,
    ← sq, max_number, max_eq_left hroot, hsqrt]
  rfl

end

/-! ## The rows -/

section

variable {b v : ℝ}

/-- The heights across a rectangle are one dot apart, as many as fit. -/
theorem scans_number {n : ℕ} (hfit : ∀ k < n, v + 5 * k ≤ b) (hend : b < v + 5 * n) :
    Scans (number b) (number v) ((List.range n).map fun k : ℕ => number (v + 5 * k)) := by
  have hdot : (dotSize : Exact) = number 5 := by
    rw [dotSize, ofScientific_eq]
    norm_num
  induction n generalizing v with
  | zero =>
    rw [Nat.cast_zero, mul_zero, add_zero] at hend
    exact .done (by rw [number_le]; exact hend.not_ge)
  | succ n ih =>
    rw [List.range_succ_eq_map, List.map_cons, List.map_map, Nat.cast_zero, mul_zero, add_zero]
    refine .step ?_ ?_
    · have hfirst := hfit 0 n.succ_pos
      rwa [Nat.cast_zero, mul_zero, add_zero] at hfirst
    · rw [hdot, number_add]
      -- the heights from the second one on
      have hnext (k : ℕ) : v + 5 * (k + 1 : ℕ) = v + 5 + 5 * k := by
        push_cast
        ring
      have hrest := ih (v := v + 5) (fun k hk => hnext k ▸ hfit (k + 1) (Nat.succ_lt_succ hk)) (hnext n ▸ hend)
      simpa only [Function.comp_def, Nat.succ_eq_add_one, hnext] using hrest

end

/-- The rows across a rectangle are found, however high it is. -/
theorem scanRows_number (y : ℝ) {h : ℝ} (hh : 0 ≤ h) :
    scanRows (number (y + h)) (scanBound (number h)) (number y)
      = some ((List.range (⌊h / 5⌋₊ + 1)).map fun k : ℕ => number (y + 5 * k)) := by
  have hcount : scanBound (number h) = ⌊h / 4⌋₊ + 3 := by
    have hquarter : number h / (4.0 : Exact) = number (h / 4) := by
      rw [ofScientific_eq, number_div _ (by norm_num)]
      norm_num
    have hfloor : Scalar.truncate (number (h / 4)) = ⌊h / 4⌋ := if_neg (by linarith)
    rw [scanBound, hquarter, hfloor, Int.floor_toNat]
  have hfits : (⌊h / 5⌋₊ : ℝ) ≤ h / 5 := Nat.floor_le (by positivity)
  rw [scanRows_eq_some_iff, hcount, List.length_map, List.length_range]
  constructor
  · apply scans_number
    · intro k hk
      have hle : (k : ℝ) ≤ ⌊h / 5⌋₊ := by exact_mod_cast Nat.le_of_lt_succ hk
      linarith
    · have hnext := Nat.lt_floor_add_one (h / 5)
      push_cast
      linarith
  · have hmono : ⌊h / 5⌋₊ ≤ ⌊h / 4⌋₊ := Nat.floor_mono (by linarith)
    omega

/-- A rectangle is filled by a row at its top and one after every dot down to its bottom. A row does not leave the
rectangle, its ends do not cross, and they are as far from the left as from the right side. It goes from side to side
where both edges are at least one radius of the corners away, and it is as long as the row that lies as far
from the opposite edge. -/
theorem rows_of_roundedRect (c : Canvas Exact) (x y : ℝ) {w h : ℝ} (hw : 0 ≤ w) (hh : 0 ≤ h) (radius : ℝ)
    (color : Color Exact) :
    ∃ left right : ℝ → ℝ,
      c.roundedRect? ⟨number x, number y, number w, number h⟩ (number radius) color
          = some (c.record ((List.range (⌊h / 5⌋₊ + 1)).map fun k : ℕ => c.lineMark (c.paint color)
              (⟨number (left (5 * k)), number (y + 5 * k)⟩, ⟨number (right (5 * k)), number (y + 5 * k)⟩))) ∧
        (∀ k : ℕ, k < ⌊h / 5⌋₊ + 1 ↔ y + 5 * k ≤ y + h) ∧
        ∀ d, 0 ≤ d → d ≤ h →
          x ≤ left d ∧ left d ≤ right d ∧ right d ≤ x + w ∧ left d - x = x + w - right d ∧
          (min (max radius 0) (min w h / 2) ≤ d → min (max radius 0) (min w h / 2) ≤ h - d →
            left d = x ∧ right d = x + w) ∧
          right (h - d) - left (h - d) = right d - left d := by
  have hr := fitted_nonneg hw hh radius
  obtain ⟨hwide, hhigh⟩ := two_mul_fitted_le (w := w) (h := h) radius
  have hrows (k : ℕ) : k < ⌊h / 5⌋₊ + 1 ↔ y + 5 * k ≤ y + h := by
    rw [Nat.lt_succ_iff, Nat.le_floor_iff (by positivity), le_div_iff₀ (by norm_num), mul_comm, add_le_add_iff_left]
  refine ⟨fun d => x + inset (fitted w h radius) (min d (h - d)),
    fun d => x + w - inset (fitted w h radius) (min d (h - d)), ?_, hrows, fun d hd hdh => ?_⟩
  · have hfill : fillable (⟨number x, number y, number w, number h⟩ : Rect Exact) = true := by
      rw [fillable, zero_eq]
      simp [hh]
    rw [roundedRect?, if_pos hfill]
    simp only [number_add, scanRows_number y hh, Option.map_some, List.map_map, cornerRadius_number x y hw hh]
    congr 2
    apply List.map_congr_left
    intro k hk
    have hheight := (hrows k).mp (List.mem_range.mp hk)
    exact congrArg _ (scanLine_number x y hr hhigh (by positivity) (by linarith))
  · have hlow := inset_nonneg (e := min d (h - d)) hr
    have hmost := inset_le (r := fitted w h radius) (e := min d (h - d))
    refine ⟨by linarith, by linarith, by linarith, by ring, fun htop hbottom => ?_, ?_⟩
    · rw [← fitted_eq] at htop hbottom
      have hnone : inset (fitted w h radius) (min d (h - d)) = 0 := inset_of_le hr (le_min htop hbottom)
      simp only [hnone, add_zero, sub_zero, and_self]
    · simp only [sub_sub_cancel, min_comm]

/-- A flat rectangle whose corners are asked to be rounder than half of its height. -/
theorem rows_of_roundedRect_flat :
    (0 : ℝ) ≤ 20 ∧ (0 : ℝ) ≤ 10 ∧ ∃ left right : ℝ → ℝ,
      (blank 10 10 : Canvas Exact).roundedRect? ⟨number 0, number 3, number 20, number 10⟩ (number 7)
            (.rgb 255 255 255)
          = some ((blank 10 10).record ([0, 5, 10].map fun d : ℝ => (blank 10 10 : Canvas Exact).lineMark
              ((blank 10 10 : Canvas Exact).paint (.rgb 255 255 255))
              (⟨number (left d), number (3 + d)⟩, ⟨number (right d), number (3 + d)⟩))) ∧
        left 5 = 0 ∧ right 5 = 20 ∧ right 10 - left 10 = right 0 - left 0 := by
  have hw : (0 : ℝ) ≤ 20 := by norm_num
  have hh : (0 : ℝ) ≤ 10 := by norm_num
  obtain ⟨left, right, hfill, -, hends⟩ :=
    rows_of_roundedRect (blank 10 10) 0 3 hw hh 7 (.rgb 255 255 255)
  have hcount : List.range (⌊(10 : ℝ) / 5⌋₊ + 1) = [0, 1, 2] := by
    norm_num
    rfl
  obtain ⟨-, -, -, -, hfull, -⟩ := hends 5 (by norm_num) (by norm_num)
  obtain ⟨hleft, hright⟩ := hfull (by norm_num) (by norm_num)
  obtain ⟨-, -, -, -, -, hmirror⟩ := hends 0 (by norm_num) (by norm_num)
  refine ⟨hw, hh, left, right, ?_, hleft, by linarith, by simpa using hmirror⟩
  rw [hfill, hcount]
  norm_num

end TrafficMap.Terminal.Canvas
