import Mathlib
import TrafficMap.Proofs.Geometry.Located
import TrafficMap.Proofs.Topology.Layers

/-!
# Devices stand in the plane

The sides of a surface are finite whatever sizes were asked for (`Layout.proper_ofSize`). In exact
arithmetic they are numbers then, and so are the coordinates of every place that devices are given
(`Topology.proper_position`): the only divisors are two and the number of gaps, which is positive.
-/

namespace TrafficMap

open Exact

namespace Layout

/-- A surface with sides that are numbers. -/
def Proper (l : Layout Exact) : Prop :=
  ∃ w h : ℝ, l = ⟨number w, number h⟩

/-- A side is a number that is not negative. -/
theorem exists_side (v : Exact) : ∃ r, side v = number r ∧ 0 ≤ r := by
  unfold side
  split_ifs with h
  · obtain ⟨r, rfl⟩ := isFinite_iff.mp h
    rw [zero_eq, max_number]
    exact ⟨_, rfl, le_max_right r 0⟩
  · exact ⟨0, zero_eq, le_rfl⟩

theorem exists_ofSize (width height : Exact) :
    ∃ w h, ofSize width height = ⟨number w, number h⟩ ∧ 0 ≤ w ∧ 0 ≤ h := by
  obtain ⟨w, hw, hnonneg⟩ := exists_side width
  obtain ⟨h, hh, hnonneg'⟩ := exists_side height
  refine ⟨w, h, ?_, hnonneg, hnonneg'⟩
  rw [ofSize, hw, hh]

/-- A surface has such sides whatever it was asked for. -/
theorem proper_ofSize (width height : Exact) : (ofSize width height).Proper := by
  obtain ⟨w, h, hsize, -⟩ := exists_ofSize width height
  exact ⟨w, h, hsize⟩

/-- Every layer has its column between the sides of the surface. -/
theorem exists_fraction (layer : Layer) :
    ∃ f : ℝ, (columnFraction layer : Exact) = number f ∧ 0 < f ∧ f < 1 := by
  cases layer <;> refine ⟨_, ofScientific_eq .., ?_⟩ <;> norm_num

theorem layerX_eq (w h : ℝ) {layer : Layer} {f : ℝ} (hf : (columnFraction layer : Exact) = number f) :
    (⟨number w, number h⟩ : Layout Exact).layerX layer = number (f * w) := by
  rw [layerX, hf, number_mul]

/-- A column counts as having a gap even if it has a single device. -/
theorem gaps_pos (count : ℕ) : (0 : ℝ) < (Max.max (count - 1) 1 : ℕ) := by
  have hpos : 0 < Max.max (count - 1) 1 := by omega
  exact_mod_cast hpos

/-- The gap of a column is bounded, and all gaps together leave the margins free. -/
theorem spacing_eq (w h : ℝ) (count : ℕ) (cap : Exact) :
    (⟨number w, number h⟩ : Layout Exact).spacing count cap
      = Scalar.min (number (max ((h - 200) / (Max.max (count - 1) 1 : ℕ)) 0)) cap := by
  have hmargin : (verticalMargin : Exact) = number 200 := by
    rw [verticalMargin, ofScientific_eq]
    norm_num
  rw [spacing, hmargin, ofNat_eq, number_sub, number_div _ (gaps_pos count).ne', zero_eq, max_number]

/-- A column is centred: half of its gaps are above mid-height. -/
theorem place_eq (w h : ℝ) {layer : Layer} {count : ℕ} {cap : Exact} {f gap : ℝ}
    (hf : (columnFraction layer : Exact) = number f)
    (hgap : (⟨number w, number h⟩ : Layout Exact).spacing count cap = number gap) (i : ℕ) :
    (⟨number w, number h⟩ : Layout Exact).place layer count cap i
      = ⟨number (f * w), number (h / 2 - gap * (count - 1 : ℕ) / 2 + gap * i)⟩ := by
  simp only [place, layerX_eq w h hf, hgap, ofNat_eq, two_eq, number_mul, number_div _ two_ne_zero,
    number_sub, number_add]

namespace Proper

variable {l : Layout Exact}

theorem anchor (hl : l.Proper) (layer : Layer) : (l.anchor layer).Proper := by
  obtain ⟨w, h, rfl⟩ := hl
  obtain ⟨f, hf, -⟩ := exists_fraction layer
  refine ⟨f * w, h / 2, ?_⟩
  rw [Layout.anchor, layerX_eq w h hf, two_eq, number_div _ two_ne_zero]

theorem place (hl : l.Proper) (layer : Layer) (count : Nat) (cap : ℝ) (i : Nat) :
    (l.place layer count (number cap) i).Proper := by
  obtain ⟨w, h, rfl⟩ := hl
  obtain ⟨f, hf, -⟩ := exists_fraction layer
  rw [place_eq w h hf ((spacing_eq w h count (number cap)).trans (min_number _ _))]
  exact ⟨_, _, rfl⟩

end Proper

end Layout

/-- All devices of a built topology stand in the plane. -/
theorem Topology.proper_position (config : Configuration) (stats : Statistics)
    (identities : IdentityMap) {layout : Layout Exact} (hl : layout.Proper) {d : Device Exact}
    (hd : d ∈ (build config stats identities layout).devices) : d.position.Proper := by
  rw [devices_build, List.mem_append, List.mem_cons, List.mem_cons] at hd
  rcases hd with (rfl | hd) | (rfl | hd)
  · exact hl.anchor .isp
  · obtain ⟨i, hi, rfl⟩ := List.mem_mapIdx.mp hd
    exact hl.place _ _ _ i
  · exact hl.anchor .gateway
  · obtain ⟨i, hi, rfl⟩ := List.mem_mapIdx.mp hd
    exact hl.place _ _ _ i

end TrafficMap
