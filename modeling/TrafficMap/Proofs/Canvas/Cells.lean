import Mathlib
import TrafficMap.Terminal.Canvas
import TrafficMap.Proofs.Number.Exact

/-!
# The cells of anchors

A text is recorded at the anchor of its first cell, and the widget that shows the canvas turns the anchor back
into a cell (`Canvas.Shows`): it drops what lies outside the bounds, and scales what lies inside by one less than
the number of cells. The anchor is scaled the same way and then moved by half a step, which takes the anchors of
the last column and of the last row over the bounds: a step there is wider than the cell. All other cells are
shown where they are (`cell_of_anchor`).
-/

namespace TrafficMap.Terminal.Canvas

section

variable {α : Type} [Scalar α]

/-- Whether a point lies within the bounds that the widget shows. -/
def InBounds (c : Canvas α) (p : Point α) : Prop :=
  0.0 ≤ p.x ∧ p.x ≤ c.width ∧ 0.0 ≤ p.y ∧ p.y ≤ c.height

end

/-- How a widget shows texts on a canvas: `cell?` is the column and the row that the first character of a text is
printed in, `none` where it is not shown. -/
structure Shows (c : Canvas Exact) (cell? : Point Exact → Option (ℤ × ℤ)) : Prop where
  outside : ∀ p, ¬c.InBounds p → cell? p = none
  inside : ∀ x y width height : ℝ, c.width = .number width → c.height = .number height →
    c.InBounds ⟨.number x, .number y⟩ →
      cell? ⟨.number x, .number y⟩
        = some (⌊x * (c.cols - 1) / width⌋, ⌊(height - y) * (c.rows - 1) / height⌋)

/-! ## One direction -/

section

variable {n : ℕ} (hn : 0 < n) {size : ℝ} (hsize : 0 < size) (k : ℤ)

/-- The anchor of a cell in one direction, for `n` cells of a size. -/
noncomputable def anchor (n : ℕ) (size : ℝ) (k : ℤ) : ℝ :=
  (k + 1 / (2 : ℕ)) * (n * size / (max 1 (n - 1) : ℕ))

/-- The anchor of a cell, counted in steps of the grid. -/
theorem anchor_eq : anchor n size k = (k + 1 / 2) * (n * size / (max 1 (n - 1) : ℕ)) := by
  rw [anchor, Nat.cast_ofNat]

include hn hsize

/-- The anchor of a cell lies within the bounds, unless the cell is the last one of several. -/
theorem anchor_mem_iff :
    (0 ≤ anchor n size k ∧ anchor n size k ≤ n * size) ↔ 0 ≤ k ∧ k < (max 1 (n - 1) : ℕ) := by
  have hlength : (0 : ℝ) < n * size := mul_pos (by exact_mod_cast hn) hsize
  have hsteps : (0 : ℝ) < (max 1 (n - 1) : ℕ) := by positivity
  have hsplit : anchor n size k = n * size * ((k + 1 / 2) / (max 1 (n - 1) : ℕ)) := by
    rw [anchor_eq]
    ring
  have hlow : 0 ≤ anchor n size k ↔ 0 ≤ k := by
    rw [hsplit, mul_nonneg_iff_of_pos_left hlength, le_div_iff₀ hsteps, zero_mul]
    constructor
    · intro h
      have hk : (-1 : ℝ) < k := by linarith
      exact_mod_cast hk
    · intro h
      have hk : (0 : ℝ) ≤ k := by exact_mod_cast h
      linarith
  have hhigh : anchor n size k ≤ n * size ↔ k < (max 1 (n - 1) : ℕ) := by
    rw [hsplit, mul_le_iff_le_one_right hlength, div_le_one₀ hsteps]
    generalize max 1 (n - 1) = steps
    -- between whole numbers a half makes no difference
    constructor
    · intro h
      have hk : (k : ℝ) < steps := by linarith
      exact_mod_cast hk
    · intro h
      have hk : (k + 1 : ℝ) ≤ steps := by exact_mod_cast h
      linarith
  rw [hlow, hhigh]

/-- An anchor within the bounds is scaled back into its cell. -/
theorem floor_anchor (hk : 0 ≤ k ∧ k < (max 1 (n - 1) : ℕ)) :
    ⌊anchor n size k * (n - 1) / (n * size)⌋ = k := by
  have hn' : (n : ℝ) ≠ 0 := by exact_mod_cast hn.ne'
  obtain rfl | hseveral : n = 1 ∨ 2 ≤ n := by omega
  · -- the only cell
    obtain rfl : k = 0 := by omega
    simp
  · have hsteps : ((max 1 (n - 1) : ℕ) : ℝ) = n - 1 := by
      rw [max_eq_right (by omega), Nat.cast_sub hn, Nat.cast_one]
    have hpos : (0 : ℝ) < n - 1 := by
      rw [← hsteps]
      positivity
    have hscaled : anchor n size k * (n - 1) / (n * size) = k + 1 / 2 := by
      rw [anchor_eq, hsteps]
      field_simp
    rw [hscaled, Int.floor_eq_iff]
    constructor <;> linarith

end

/-! ## The anchor of a cell -/

open Exact

theorem width_eq (c : Canvas Exact) : c.width = number (c.cols * 10) := by
  rw [width, cellWidth, ofNat_eq, ofScientific_eq, number_mul]
  norm_num

theorem height_eq (c : Canvas Exact) : c.height = number (c.rows * 20) := by
  rw [height, cellHeight, ofNat_eq, ofScientific_eq, number_mul]
  norm_num

/-- The anchor of a cell, in coordinates. -/
theorem cellAnchor_eq (c : Canvas Exact) (col row : ℤ) :
    c.cellAnchor col row
      = ⟨number (anchor c.cols 10 col), number (c.rows * 20 - anchor c.rows 20 row)⟩ := by
  have hhalf : (0.5 : Exact) = number (1 / 2) := by
    rw [ofScientific_eq]
    norm_num
  have hne (n : ℕ) : ((max 1 n : ℕ) : ℝ) ≠ 0 := by positivity
  simp only [cellAnchor, width_eq, height_eq, ofNat_eq, ofInt_eq, hhalf, number_add, number_div _ (hne _),
    number_mul, number_sub, anchor_eq]

/-- The bounds of a canvas, in coordinates. -/
theorem inBounds_iff (c : Canvas Exact) (x y : ℝ) :
    c.InBounds ⟨number x, number y⟩ ↔ (0 ≤ x ∧ x ≤ c.cols * 10) ∧ 0 ≤ y ∧ y ≤ c.rows * 20 := by
  rw [InBounds, width_eq, height_eq, zero_eq]
  simp only [number_le, and_assoc]

/-- On a canvas of any size, the anchor of a cell lies within the bounds exactly for the cells on it that are in
neither the last of several columns nor the last of several rows. Their texts are shown just there, and a text that
begins in any other cell is not shown. -/
theorem cell_of_anchor {c : Canvas Exact} (hcols : 0 < c.cols) (hrows : 0 < c.rows)
    {cell? : Point Exact → Option (ℤ × ℤ)} (hshows : c.Shows cell?) (col row : ℤ) :
    (c.InBounds (c.cellAnchor col row) ↔
        (0 ≤ col ∧ col < (max 1 (c.cols - 1) : ℕ)) ∧ 0 ≤ row ∧ row < (max 1 (c.rows - 1) : ℕ)) ∧
      (c.InBounds (c.cellAnchor col row) → cell? (c.cellAnchor col row) = some (col, row)) ∧
      (¬c.InBounds (c.cellAnchor col row) → cell? (c.cellAnchor col row) = none) := by
  have hbounds : c.InBounds (c.cellAnchor col row) ↔
      (0 ≤ col ∧ col < (max 1 (c.cols - 1) : ℕ)) ∧ 0 ≤ row ∧ row < (max 1 (c.rows - 1) : ℕ) := by
    rw [cellAnchor_eq, inBounds_iff, anchor_mem_iff hcols (by norm_num),
      ← anchor_mem_iff hrows (by norm_num : (0 : ℝ) < 20), sub_nonneg, sub_le_self_iff]
    tauto
  refine ⟨hbounds, fun hinside => ?_, hshows.outside _⟩
  obtain ⟨hcol, hrow⟩ := hbounds.mp hinside
  rw [cellAnchor_eq] at hinside ⊢
  rw [hshows.inside _ _ _ _ c.width_eq c.height_eq hinside, sub_sub_cancel,
    floor_anchor hcols (by norm_num) col hcol, floor_anchor hrows (by norm_num) row hrow]

/-! ## The widget -/

open Classical in
/-- The cell in which the widget shows a point. -/
noncomputable def widgetCell (c : Canvas Exact) : Point Exact → Option (ℤ × ℤ)
  | ⟨.number x, .number y⟩ =>
    if c.InBounds ⟨number x, number y⟩ then
      match c.width, c.height with
      | .number w, .number h => some (⌊x * (c.cols - 1) / w⌋, ⌊(h - y) * (c.rows - 1) / h⌋)
      | _, _ => none
    else none
  | _ => none

theorem shows_widgetCell (c : Canvas Exact) : c.Shows c.widgetCell where
  outside p hp := by
    obtain ⟨_ | _ | _, _ | _ | _⟩ := p
    · exact if_neg hp
    all_goals rfl
  inside x y w h hw hh hp := by
    simp only [widgetCell, if_pos hp, hw, hh]

/-- The cell in front of the last column and above the last row of a terminal of 80 columns and 24 rows. -/
theorem cell_of_anchor_corner :
    (blank 80 24 : Canvas Exact).Shows (widgetCell (blank 80 24)) ∧
      widgetCell (blank 80 24) ((blank 80 24).cellAnchor 78 22) = some (78, 22) := by
  have hshows := shows_widgetCell (blank 80 24)
  obtain ⟨hbounds, hinside, -⟩ :=
    cell_of_anchor (c := blank 80 24) (show 0 < 80 by decide) (show 0 < 24 by decide) hshows 78 22
  exact ⟨hshows, hinside (hbounds.mpr ⟨by decide, by decide⟩)⟩

/-- The anchor of the last cell of a canvas of two columns and two rows lies outside the bounds, so that whatever
shows the canvas does not show a text that begins there. -/
theorem hidden_of_last_cell :
    ¬(blank 2 2 : Canvas Exact).InBounds ((blank 2 2).cellAnchor 1 1) ∧
      ∀ cell?, (blank 2 2 : Canvas Exact).Shows cell? → cell? ((blank 2 2).cellAnchor 1 1) ≠ some (1, 1) := by
  have hout : ¬(blank 2 2 : Canvas Exact).InBounds ((blank 2 2).cellAnchor 1 1) := by
    rw [cellAnchor_eq, inBounds_iff]
    norm_num [blank, anchor]
  refine ⟨hout, fun cell? hshows hcell => ?_⟩
  rw [hshows.outside _ hout] at hcell
  cases hcell

end TrafficMap.Terminal.Canvas
