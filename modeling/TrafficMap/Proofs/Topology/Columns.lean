import Mathlib
import TrafficMap.Proofs.Topology.Plane

/-!
# Columns

The devices of a layer stand above each other, with one gap between neighbours that shrinks as the devices become
more. `Layout.Stacked` says what that means: the gap keeps its bound, the middle is at mid-height, and the devices
stay clear of the margins on a surface that is high enough for these. Every column is stacked, since all gaps
together fit between the margins (`Layout.exists_gap`). On a surface that is high enough the gap is positive, so no
two devices of a topology stand at one place (`Topology.stacked_of_build`).
-/

namespace TrafficMap

open Exact

namespace Layout

/-- Places of a layer above each other: neighbours are the same gap apart, which is at most `cap`, the first and
the last are as far from mid-height, and none lies beyond the surface or, if it is high enough, in its margins. -/
structure Stacked (l : Layout Exact) (layer : Layer) (cap : Exact) (places : List (Point Exact)) :
    Prop where
  aligned : ∀ p ∈ places, p.x = l.layerX layer
  even : ∃ gap, 0.0 ≤ gap ∧ gap ≤ cap ∧ places.IsChain fun p q => q.y - p.y = gap
  centred : ∀ first ∈ places.head?, ∀ last ∈ places.getLast?, first.y + last.y = l.height
  within : ∀ p ∈ places, 0.0 ≤ p.y ∧ p.y ≤ l.height
  clear : 200.0 ≤ l.height → ∀ p ∈ places, 100.0 ≤ p.y ∧ p.y ≤ l.height - 100.0

/-- A point between the sides of a surface. -/
structure Holds (l : Layout Exact) (p : Point Exact) : Prop where
  left : 0.0 < p.x
  right : p.x < l.width
  top : 0.0 < p.y
  bottom : p.y < l.height

/-- A point in the column of a layer that is as near to mid-height as the margins ask for. -/
structure Near (l : Layout Exact) (layer : Layer) (p : Point Exact) : Prop where
  aligned : p.x = l.layerX layer
  near : ∃ h y, l.height = number h ∧ p.y = number y ∧ |2 * y - h| ≤ max (h - 200) 0

/-- A point near the middle of a layer stays off the edge. -/
theorem Near.exists_y {w h : ℝ} {layer : Layer} {p : Point Exact}
    (hp : Near ⟨number w, number h⟩ layer p) :
    ∃ y, p.y = number y ∧ |2 * y - h| ≤ max (h - 200) 0 := by
  obtain ⟨-, h', y, hheight, hy, hnear⟩ := hp
  obtain rfl : h = h' := number.inj hheight
  exact ⟨y, hy, hnear⟩

/-! ## The gap -/

/-- All gaps together fit between the margins. -/
theorem room_mul_le (h : ℝ) (count : ℕ) :
    max ((h - 200) / (Max.max (count - 1) 1 : ℕ)) 0 * (count - 1 : ℕ) ≤ max (h - 200) 0 := by
  have hpos := gaps_pos count
  have hle : ((count - 1 : ℕ) : ℝ) ≤ (Max.max (count - 1) 1 : ℕ) := by
    exact_mod_cast le_max_left _ _
  calc max ((h - 200) / (Max.max (count - 1) 1 : ℕ)) 0 * (count - 1 : ℕ)
      ≤ max ((h - 200) / (Max.max (count - 1) 1 : ℕ)) 0 * (Max.max (count - 1) 1 : ℕ) :=
        mul_le_mul_of_nonneg_left hle (le_max_right _ _)
    _ = max (h - 200) 0 := by
        rw [max_mul_of_nonneg _ _ hpos.le, div_mul_cancel₀ _ hpos.ne', zero_mul]

/-- On a high surface there is room between two devices. -/
theorem room_pos {h : ℝ} (hhigh : 200 < h) (count : ℕ) :
    0 < max ((h - 200) / (Max.max (count - 1) 1 : ℕ)) 0 :=
  lt_max_of_lt_left (div_pos (sub_pos.mpr hhigh) (gaps_pos count))

/-- The gap keeps its bound and leaves the margins free; it vanishes only where there is no room. -/
theorem exists_gap (w h : ℝ) (count : ℕ) {cap : Exact} (hcap : 0.0 ≤ cap) :
    ∃ gap : ℝ, (⟨number w, number h⟩ : Layout Exact).spacing count cap = number gap ∧ 0 ≤ gap ∧
      number gap ≤ cap ∧ gap * (count - 1 : ℕ) ≤ max (h - 200) 0 ∧
      (200 < h → 0.0 < cap → 0 < gap) := by
  have hroom := room_mul_le h count
  rw [zero_eq] at hcap ⊢
  rw [spacing_eq]
  cases cap with
  | number c =>
    refine ⟨_, min_number _ _, le_min (le_max_right _ _) hcap, ?_, ?_, ?_⟩
    · rw [number_le]
      exact min_le_right _ _
    · exact (mul_le_mul_of_nonneg_right (min_le_left _ _) (Nat.cast_nonneg _)).trans hroom
    · intro hhigh hc
      exact lt_min (room_pos hhigh count) hc
  | infinite negative =>
    obtain rfl : negative = false := hcap
    exact ⟨_, min_infinite _, le_max_right _ _, rfl, hroom, fun hhigh _ => room_pos hhigh count⟩
  | undefined => cases hcap

/-! ## Places -/

/-- A place of a column is no farther from mid-height than half of all gaps. -/
theorem abs_place_sub_le {h gap : ℝ} {count i : ℕ} (hgap : 0 ≤ gap) (hi : i < count) :
    |2 * (h / 2 - gap * (count - 1 : ℕ) / 2 + gap * i) - h| ≤ gap * (count - 1 : ℕ) := by
  have hle : (i : ℝ) ≤ (count - 1 : ℕ) := by
    have : i ≤ count - 1 := by omega
    exact_mod_cast this
  have hupper : gap * i ≤ gap * (count - 1 : ℕ) := mul_le_mul_of_nonneg_left hle hgap
  have hlower : 0 ≤ gap * i := mul_nonneg hgap (Nat.cast_nonneg i)
  rw [abs_le]
  constructor <;> linarith

/-- The points of a column are near the middle of its layer. -/
theorem near_of_mem_column {w h : ℝ} {layer : Layer} {count : ℕ} {cap : Exact} (hcap : 0.0 ≤ cap)
    {p : Point Exact} (hp : p ∈ (⟨number w, number h⟩ : Layout Exact).column layer count cap) :
    Near ⟨number w, number h⟩ layer p := by
  obtain ⟨f, hf, -⟩ := exists_fraction layer
  obtain ⟨gap, hspacing, hgap, -, hall, -⟩ := exists_gap w h count hcap
  rw [column_eq_map_place] at hp
  obtain ⟨i, hi, rfl⟩ := List.mem_map.mp hp
  refine ⟨rfl, h, ?_⟩
  rw [place_eq w h hf hspacing]
  exact ⟨_, rfl, rfl, (abs_place_sub_le hgap (List.mem_range.mp hi)).trans hall⟩

theorem near_anchor (w h : ℝ) (layer : Layer) :
    Near ⟨number w, number h⟩ layer (anchor ⟨number w, number h⟩ layer) := by
  refine ⟨rfl, h, h / 2, rfl, ?_, ?_⟩
  · rw [anchor, two_eq, number_div _ two_ne_zero]
  · rw [mul_div_cancel₀ _ two_ne_zero, sub_self, abs_zero]
    exact le_max_right _ _

/-- A column is stacked. -/
theorem stacked_column (width height : Exact) (layer : Layer) (count : ℕ) {cap : Exact}
    (hcap : 0.0 ≤ cap) :
    (ofSize width height).Stacked layer cap ((ofSize width height).column layer count cap) := by
  obtain ⟨w, h, hsize, -, hnonneg⟩ := exists_ofSize width height
  obtain ⟨f, hf, -⟩ := exists_fraction layer
  obtain ⟨gap, hspacing, hgap, hbound, -, -⟩ := exists_gap w h count hcap
  have hplace := place_eq w h hf hspacing
  rw [hsize]
  refine ⟨?_, ⟨number gap, ?_, hbound, ?_⟩, ?_, ?_, ?_⟩
  · intro p hp
    exact (near_of_mem_column hcap hp).1
  · rw [zero_eq]
    exact hgap
  · rw [column_eq_map_place, List.isChain_map, List.isChain_range]
    intro i _
    rw [hplace, hplace, number_sub, number.injEq]
    push_cast
    ring
  · intro first hfirst last hlast
    cases count with
    | zero => cases hfirst
    | succ k =>
      rw [column_eq_map_place, List.head?_map, List.head?_range] at hfirst
      rw [column_eq_map_place, List.getLast?_map, List.getLast?_range] at hlast
      obtain rfl := Option.some.inj hfirst
      obtain rfl := Option.some.inj hlast
      rw [hplace, hplace, number_add, number.injEq]
      push_cast
      ring
  · intro p hp
    obtain ⟨y, hy, hnear⟩ := (near_of_mem_column hcap hp).exists_y
    rw [abs_le] at hnear
    rw [hy, zero_eq, number_le, number_le]
    rcases max_choice (h - 200) 0 with hmax | hmax <;> rw [hmax] at hnear <;> constructor <;> linarith
  · intro hhigh p hp
    obtain ⟨y, hy, hnear⟩ := (near_of_mem_column hcap hp).exists_y
    rw [abs_le] at hnear
    simp only [hy, ofScientific_eq, number_le, number_sub] at hhigh ⊢
    norm_num at hhigh ⊢
    rw [max_eq_left (by linarith)] at hnear
    constructor <;> linarith

/-! ## Places that differ -/

theorem columnFraction_injective : Function.Injective (columnFraction : Layer → Exact) := by
  intro layer layer' h
  cases layer <;> cases layer' <;> first
    | rfl
    | simp only [columnFraction, ofScientific_eq, number.injEq] at h
      norm_num at h

/-- On a surface that has a width the layers have columns of their own. -/
theorem layerX_injective {w : ℝ} (h : ℝ) (hw : 0 < w) :
    Function.Injective (layerX (⟨number w, number h⟩ : Layout Exact)) := by
  intro layer layer' hx
  obtain ⟨f, hf, -⟩ := exists_fraction layer
  obtain ⟨f', hf', -⟩ := exists_fraction layer'
  rw [layerX_eq w h hf, layerX_eq w h hf', number.injEq] at hx
  apply columnFraction_injective
  rw [hf, hf', mul_right_cancel₀ hw.ne' hx]

/-- On a surface that is higher than its margins the places of a column differ. -/
theorem nodup_column (w : ℝ) {h : ℝ} {cap : Exact} (hhigh : 200 < h) (hcap : 0.0 < cap)
    (layer : Layer) (count : ℕ) :
    ((⟨number w, number h⟩ : Layout Exact).column layer count cap).Nodup := by
  obtain ⟨f, hf, -⟩ := exists_fraction layer
  obtain ⟨gap, hspacing, -, -, -, hpositive⟩ := exists_gap w h count (Exact.zero_le_of_lt hcap)
  have hgap : 0 < gap := hpositive hhigh hcap
  rw [column_eq_map_place]
  refine List.Nodup.map ?_ List.nodup_range
  intro i j hij
  rw [place_eq w h hf hspacing, place_eq w h hf hspacing] at hij
  simp only [Point.mk.injEq, number.injEq, add_right_inj, true_and] at hij
  exact_mod_cast mul_left_cancel₀ hgap.ne' hij

namespace Near

variable {w h : ℝ} {layer layer' : Layer} {p q : Point Exact}

/-- A point near the middle of a layer lies on the surface. -/
theorem holds (hp : Near ⟨number w, number h⟩ layer p) (hw : 0 < w) (hhigh : 200 < h) :
    Holds ⟨number w, number h⟩ p := by
  have hx := hp.aligned
  obtain ⟨y, hy, hnear⟩ := hp.exists_y
  obtain ⟨f, hf, hpos, hlt⟩ := exists_fraction layer
  rw [layerX_eq w h hf] at hx
  rw [max_eq_left (by linarith), abs_le] at hnear
  refine ⟨?_, ?_, ?_, ?_⟩
  · rw [hx, zero_eq]
    exact mul_pos hpos hw
  · rw [hx]
    exact mul_lt_of_lt_one_left hw hlt
  · rw [hy, zero_eq, number_lt]
    linarith
  · rw [hy]
    show y < h
    linarith

/-- Points of different layers are different. -/
theorem ne (hp : Near ⟨number w, number h⟩ layer p) (hq : Near ⟨number w, number h⟩ layer' q)
    (hw : 0 < w) (hne : layer ≠ layer') : p ≠ q := by
  rintro rfl
  exact hne (layerX_injective h hw (hp.aligned.symm.trans hq.aligned))

end Near

end Layout

/-! ## The places of a topology -/

namespace Topology

/-- The devices of a topology stand in the columns of their layers. -/
theorem map_position_build {α : Type} [Scalar α] (config : Configuration) (stats : Statistics)
    (identities : IdentityMap) (layout : Layout α) :
    (build config stats identities layout).devices.map (·.position)
      = layout.anchor .isp ::
          layout.column .loadBalancer (firstOfEach (·.address) config.balancers).length
            Layout.balancerSpacing ++
        layout.anchor .gateway ::
          layout.column .client (firstOfEach (·.sourceIp) stats.sources).length
            Layout.clientSpacing := by
  have hplaces {β : Type} (items : List β) (f : ℕ → Point α) :
      (items.mapIdx fun i _ => f i) = (List.range items.length).map f := by
    apply List.ext_getElem
    · simp
    · intro i _ _
      simp
  rw [devices_build, List.map_append, List.map_cons, List.map_cons, balancerDevices, clientDevices,
    map_mapIdx, map_mapIdx, Layout.column_eq_map_place, Layout.column_eq_map_place, ← hplaces,
    ← hplaces]
  rfl

theorem balancerSpacing_pos : (0.0 : Exact) < Layout.balancerSpacing := by
  rw [Layout.balancerSpacing, zero_eq, ofScientific_eq, number_lt]
  norm_num

theorem clientSpacing_pos : (0.0 : Exact) < Layout.clientSpacing := by
  rw [Layout.clientSpacing, zero_eq, ofScientific_eq, number_lt]
  norm_num

section

variable {w h : ℝ} (config : Configuration) (stats : Statistics) (identities : IdentityMap)

/-- Every device is in the column of some layer. -/
theorem near_position {d : Device Exact}
    (hd : d ∈ (build config stats identities ⟨number w, number h⟩).devices) :
    ∃ layer, Layout.Near ⟨number w, number h⟩ layer d.position := by
  have hposition := List.mem_map_of_mem (f := (·.position)) hd
  rw [map_position_build, List.mem_append, List.mem_cons, List.mem_cons] at hposition
  rcases hposition with (hp | hp) | (hp | hp)
  · rw [hp]
    exact ⟨.isp, Layout.near_anchor w h .isp⟩
  · exact ⟨.loadBalancer, Layout.near_of_mem_column (Exact.zero_le_of_lt balancerSpacing_pos) hp⟩
  · rw [hp]
    exact ⟨.gateway, Layout.near_anchor w h .gateway⟩
  · exact ⟨.client, Layout.near_of_mem_column (Exact.zero_le_of_lt clientSpacing_pos) hp⟩

/-- On a surface that has a width and is higher than its margins all devices stand at places of their own. -/
theorem nodup_position (hw : 0 < w) (hhigh : 200 < h) :
    ((build config stats identities ⟨number w, number h⟩).devices.map (·.position)).Nodup := by
  have hisp := Layout.near_anchor w h .isp
  have hgateway := Layout.near_anchor w h .gateway
  have hbalancers {n : ℕ} {p : Point Exact} (hp : p ∈ Layout.column _ .loadBalancer n _) :=
    Layout.near_of_mem_column (w := w) (h := h) (Exact.zero_le_of_lt balancerSpacing_pos) hp
  have hclients {n : ℕ} {p : Point Exact} (hp : p ∈ Layout.column _ .client n _) :=
    Layout.near_of_mem_column (w := w) (h := h) (Exact.zero_le_of_lt clientSpacing_pos) hp
  rw [map_position_build, List.nodup_append]
  -- columns have an x of their own, so it remains to tell the places of one column apart
  refine ⟨List.nodup_cons.mpr ⟨fun hp => ?_, Layout.nodup_column w hhigh balancerSpacing_pos _ _⟩,
    List.nodup_cons.mpr ⟨fun hp => ?_, Layout.nodup_column w hhigh clientSpacing_pos _ _⟩, ?_⟩
  · exact hisp.ne (hbalancers hp) hw (by decide) rfl
  · exact hgateway.ne (hclients hp) hw (by decide) rfl
  · intro p hp q hq
    rcases List.mem_cons.mp hp with rfl | hp <;> rcases List.mem_cons.mp hq with rfl | hq
    · exact hisp.ne hgateway hw (by decide)
    · exact hisp.ne (hclients hq) hw (by decide)
    · exact (hbalancers hp).ne hgateway hw (by decide)
    · exact (hbalancers hp).ne (hclients hq) hw (by decide)

end

/-- Whatever size was asked for, a column has as many places as it should, and they are stacked: a constant gap that
keeps its bound, centred, within the surface and clear of the margins where these fit. On a surface that has a width
and is higher than its margins, whatever the report, all devices stand within the surface, no two at one place. -/
theorem stacked_of_build (width height : Exact) :
    let l := Layout.ofSize width height
    (∀ layer count cap, 0.0 ≤ cap →
      (l.column layer count cap).length = count ∧ l.Stacked layer cap (l.column layer count cap)) ∧
    (0.0 < l.width → 200.0 < l.height → ∀ config stats identities,
      let t := build config stats identities l
      (∀ d ∈ t.devices, l.Holds d.position) ∧ (t.devices.map (·.position)).Nodup) := by
  intro l
  refine ⟨fun layer count cap hcap => ⟨?_, Layout.stacked_column width height layer count hcap⟩,
    fun hw hhigh config stats identities => ?_⟩
  · rw [Layout.column_eq_map_place, List.length_map, List.length_range]
  · obtain ⟨w, h, hsize, -⟩ := Layout.exists_ofSize width height
    have hl : l = ⟨number w, number h⟩ := hsize
    rw [hl] at hw hhigh ⊢
    rw [zero_eq, number_lt] at hw
    rw [ofScientific_eq, number_lt] at hhigh
    norm_num at hhigh
    refine ⟨fun d hd => ?_, nodup_position config stats identities hw hhigh⟩
    obtain ⟨layer, hnear⟩ := near_position config stats identities hd
    exact hnear.holds hw hhigh

/-- Two clients on a surface of 1000 by 600: there is room for more than the largest gap between clients, so they
stand as far apart as that. -/
theorem stacked_of_build_two :
    let l := Layout.ofSize (number 1000) (number 600)
    let stats : Statistics := { sources := [{ sourceIp := "10.0.0.7" }, { sourceIp := "10.0.0.8" }] }
    let t := build {} stats [] l
    (0.0 : Exact) ≤ Layout.clientSpacing ∧ 0.0 < l.width ∧ 200.0 < l.height ∧
      l.column .client 2 Layout.clientSpacing
        = [⟨number 880, number 260⟩, ⟨number 880, number 340⟩] ∧
      l.Stacked .client Layout.clientSpacing (l.column .client 2 Layout.clientSpacing) ∧
      (∀ d ∈ t.devices, l.Holds d.position) ∧ (t.devices.map (·.position)).Nodup := by
  intro l stats t
  have hl : l = ⟨number 1000, number 600⟩ := by
    simp only [l, Layout.ofSize, Layout.side, isFinite_iff.mpr ⟨_, rfl⟩, zero_eq, max_number, if_true]
    norm_num
  have hcap := Exact.zero_le_of_lt clientSpacing_pos
  have hwidth : 0.0 < l.width := by
    rw [hl, zero_eq, number_lt]
    norm_num
  have hheight : 200.0 < l.height := by
    rw [hl, ofScientific_eq, number_lt]
    norm_num
  obtain ⟨hstacked, hplaced⟩ := stacked_of_build (number 1000) (number 600)
  refine ⟨hcap, hwidth, hheight, ?_, (hstacked .client 2 _ hcap).2,
    hplaced hwidth hheight {} stats []⟩
  have hspacing : l.spacing 2 Layout.clientSpacing = number 80 := by
    rw [hl, Layout.spacing_eq, Layout.clientSpacing, ofScientific_eq, min_number]
    norm_num
  have hfraction : (Layout.columnFraction .client : Exact) = number 0.88 := by
    rw [Layout.columnFraction, ofScientific_eq]
  rw [hl] at hspacing ⊢
  rw [Layout.column_eq_map_place]
  simp only [List.range_succ, List.range_zero, List.nil_append, List.cons_append, List.map_cons, List.map_nil,
    Layout.place_eq _ _ hfraction hspacing]
  norm_num

end Topology

end TrafficMap
