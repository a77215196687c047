import Mathlib
import TrafficMap.Scene.Color
import TrafficMap.Proofs.Number.Exact

/-!
# Colours laid over others

Where a colour is laid over another, a channel is the mean of the two channels, weighted by the opacity and rounded.
Read exactly, the mean moves from the one channel to the other as the opacity grows. Both ends are whole numbers and
rounding keeps the order, so what is shown moves the same way and stays between the two
(`channels_of_blendOver`).
-/

namespace TrafficMap.Color

open Exact

/-! ## The opacity -/

/-- The opacity that a colour gets, for the one that is asked for. -/
noncomputable def opacity : Exact → ℝ
  | number x => min (max x 0) 1
  | _ => 0

/-- The alpha of a colour is an opacity. -/
theorem alpha_withAlpha (c : Color Exact) (a : Exact) : (c.withAlpha a).alpha = number (opacity a) := by
  cases a with
  | number x => rw [withAlpha, if_pos (isFinite_number x), zero_eq, one_eq, clamp_number, opacity]
  | infinite negative => exact zero_eq
  | undefined => exact zero_eq

theorem opacity_nonneg (a : Exact) : 0 ≤ opacity a := by
  cases a with
  | number x => exact le_min (le_max_right x 0) zero_le_one
  | infinite negative => exact le_rfl
  | undefined => exact le_rfl

theorem opacity_le_one (a : Exact) : opacity a ≤ 1 := by
  cases a with
  | number x => exact min_le_right _ 1
  | infinite negative => exact zero_le_one
  | undefined => exact zero_le_one

/-- An alpha that is not finite, or at most zero, is fully transparent. -/
theorem opacity_eq_zero {a : Exact} (h : Scalar.isFinite a = false ∨ a ≤ 0.0) : opacity a = 0 := by
  cases a with
  | number x =>
    rcases h with hfinite | h
    · cases hfinite
    · rw [zero_eq, number_le] at h
      rw [opacity, max_eq_right h, min_eq_left zero_le_one]
  | infinite negative => rfl
  | undefined => rfl

/-- From one on an alpha is fully opaque. -/
theorem opacity_eq_one {a : Exact} (hfinite : Scalar.isFinite a = true) (h : 1.0 ≤ a) : opacity a = 1 := by
  obtain ⟨x, rfl⟩ := isFinite_iff.mp hfinite
  rw [one_eq, number_le] at h
  exact min_eq_right (h.trans (le_max_left x 0))

/-- A larger alpha is not less opaque. -/
theorem opacity_mono {x y : ℝ} (h : x ≤ y) : opacity (number x) ≤ opacity (number y) :=
  min_le_min_right 1 (max_le_max_right 0 h)

/-! ## The mean of two channels -/

/-- The mean of two channel values, weighted by an opacity. -/
def mean (t : ℝ) (front back : UInt8) : ℝ :=
  front.toNat * t + back.toNat * (1 - t)

/-- Two channels are mixed to their weighted mean. -/
theorem mixed_number (t : ℝ) (front back : UInt8) :
    mixed (number t) front back = number (mean t front back) := by
  rw [mixed, one_eq]
  rfl

theorem mean_zero (front back : UInt8) : mean 0 front back = back.toNat := by
  rw [mean, mul_zero, sub_zero, mul_one, zero_add]

/-- The two channels change places when the opacity is counted from its other end. -/
theorem mean_swap (t : ℝ) (front back : UInt8) : mean (1 - t) back front = mean t front back := by
  unfold mean
  ring

section

variable {t u : ℝ} {front back : UInt8}

/-- A mean moves towards the front as the weight of the front grows. -/
theorem mean_mono (h : back ≤ front) (htu : t ≤ u) : mean t front back ≤ mean u front back := by
  have hle : (back.toNat : ℝ) ≤ front.toNat := by exact_mod_cast h
  have hrise : 0 ≤ (u - t) * (front.toNat - back.toNat : ℝ) :=
    mul_nonneg (sub_nonneg.mpr htu) (sub_nonneg.mpr hle)
  unfold mean
  linarith

/-- A mean is in the range of a channel. -/
theorem mean_bounds (ht : 0 ≤ t) (ht' : t ≤ 1) (front back : UInt8) :
    0 ≤ mean t front back ∧ mean t front back ≤ 255 := by
  have hmost (c : UInt8) : (c.toNat : ℝ) ≤ 255 := by exact_mod_cast Nat.le_of_lt_succ c.toNat_lt
  have hrest : 0 ≤ 1 - t := sub_nonneg.mpr ht'
  constructor
  · unfold mean
    positivity
  · calc
      mean t front back ≤ 255 * t + 255 * (1 - t) :=
        add_le_add (mul_le_mul_of_nonneg_right (hmost front) ht) (mul_le_mul_of_nonneg_right (hmost back) hrest)
      _ = 255 := by ring

/-! ## The channel that is shown -/

/-- The rounded mean is shown: moving it into the range of a channel changes nothing. -/
theorem toNat_mixChannel (ht : 0 ≤ t) (ht' : t ≤ 1) (front back : UInt8) :
    ((mixChannel (number t) front back).toNat : ℤ) = roundAway (mean t front back) := by
  obtain ⟨hnonneg, hmost⟩ := mean_bounds ht ht' front back
  obtain ⟨hlow, hhigh⟩ : 0 ≤ roundAway (mean t front back) ∧ roundAway (mean t front back) ≤ 255 :=
    roundAway_bounds (by exact_mod_cast hnonneg) (by exact_mod_cast hmost)
  have hround : Scalar.round (number (mean t front back)) = number (roundAway (mean t front back)) := rfl
  rw [mixChannel, mixed_number, hround]
  generalize roundAway (mean t front back) = n at hlow hhigh ⊢
  have hclamp : Scalar.clamp (number n) 0.0 255.0 = number n := by
    have hlargest : (255.0 : Exact) = number 255 := by
      rw [ofScientific_eq]
      norm_num
    rw [zero_eq, hlargest, clamp_number, max_eq_left (by exact_mod_cast hlow),
      min_eq_left (by exact_mod_cast hhigh)]
  rw [hclamp, toIntClamped_intCast hlow hhigh, UInt8.toNat_ofNat']
  omega

/-- Without weight the front is not seen. -/
theorem mixChannel_zero (front back : UInt8) : mixChannel (number 0) front back = back := by
  have hmean := toNat_mixChannel le_rfl zero_le_one front back
  rw [mean_zero, roundAway_natCast] at hmean
  exact UInt8.toNat_inj.mp (Nat.cast_inj.mp hmean)

/-- Front and back change places with their weights. -/
theorem mixChannel_swap (t : ℝ) (front back : UInt8) :
    mixChannel (number (1 - t)) back front = mixChannel (number t) front back := by
  rw [mixChannel, mixChannel, mixed_number, mixed_number, mean_swap]

/-- With full weight the back is not seen. -/
theorem mixChannel_one (front back : UInt8) : mixChannel (number 1) front back = front := by
  rw [← mixChannel_swap, sub_self, mixChannel_zero]

/-- Over a darker channel the opacity makes it lighter. -/
theorem mixChannel_mono (ht : 0 ≤ t) (htu : t ≤ u) (hu : u ≤ 1) (h : back ≤ front) :
    mixChannel (number t) front back ≤ mixChannel (number u) front back := by
  have hround := roundAway_mono (mean_mono h htu)
  rw [← toNat_mixChannel ht (htu.trans hu), ← toNat_mixChannel (ht.trans htu) hu] at hround
  exact UInt8.le_iff_toNat_le.mpr (Nat.cast_le.mp hround)

/-- Over a lighter channel the opacity makes it darker: the same with the two in each other's place. -/
theorem mixChannel_anti (ht : 0 ≤ t) (htu : t ≤ u) (hu : u ≤ 1) (h : front ≤ back) :
    mixChannel (number u) front back ≤ mixChannel (number t) front back := by
  rw [← mixChannel_swap t, ← mixChannel_swap u]
  exact mixChannel_mono (sub_nonneg.mpr hu) (sub_le_sub_left htu 1) (sub_le_self 1 ht) h

/-- Every opacity is between none and the full one, at which the two channels themselves are shown. -/
theorem mixChannel_between (ht : 0 ≤ t) (ht' : t ≤ 1) (front back : UInt8) :
    back ≤ mixChannel (number t) front back ∧ mixChannel (number t) front back ≤ front ∨
      front ≤ mixChannel (number t) front back ∧ mixChannel (number t) front back ≤ back := by
  rcases UInt8.le_total back front with h | h
  · have hlow := mixChannel_mono le_rfl ht ht' h
    have hhigh := mixChannel_mono ht ht' le_rfl h
    rw [mixChannel_zero] at hlow
    rw [mixChannel_one] at hhigh
    exact .inl ⟨hlow, hhigh⟩
  · have hlow := mixChannel_anti ht ht' le_rfl h
    have hhigh := mixChannel_anti le_rfl ht ht' h
    rw [mixChannel_one] at hlow
    rw [mixChannel_zero] at hhigh
    exact .inr ⟨hlow, hhigh⟩

end

/-! ## Colours -/

/-- What a channel becomes where its colour is laid over another, for every opacity that is asked for: the mean of
the two channels, and what is shown for it. -/
structure Blends (front back : UInt8) (value : Exact → Exact) (shown : Exact → UInt8) : Prop where
  /-- The mean is in the range of a channel without being moved there, and so is the whole number nearest to it, which
  is shown. -/
  inRange : ∀ a, ∃ v : ℝ, value a = number v ∧ 0 ≤ v ∧ v ≤ 255 ∧ Scalar.round (value a) = number (shown a).toNat
  between : ∀ a, back ≤ shown a ∧ shown a ≤ front ∨ front ≤ shown a ∧ shown a ≤ back
  /-- A growing opacity never leads back towards the other colour. -/
  monotone : ∀ x y : ℝ, x ≤ y →
    (back ≤ front → shown (number x) ≤ shown (number y)) ∧ (front ≤ back → shown (number y) ≤ shown (number x))

/-- A channel is blended as it should be. -/
theorem blends_mixChannel (front back : UInt8) :
    Blends front back (fun a => mixed (number (opacity a)) front back)
      (fun a => mixChannel (number (opacity a)) front back) where
  inRange a := by
    obtain ⟨hnonneg, hmost⟩ := mean_bounds (opacity_nonneg a) (opacity_le_one a) front back
    refine ⟨mean (opacity a) front back, mixed_number _ _ _, hnonneg, hmost, ?_⟩
    rw [mixed_number, ← Int.cast_natCast, toNat_mixChannel (opacity_nonneg a) (opacity_le_one a)]
    rfl
  between a := mixChannel_between (opacity_nonneg a) (opacity_le_one a) front back
  monotone x y h :=
    ⟨mixChannel_mono (opacity_nonneg _) (opacity_mono h) (opacity_le_one _),
      mixChannel_anti (opacity_nonneg _) (opacity_mono h) (opacity_le_one _)⟩

/-- A transparent colour leaves the one behind it. -/
theorem blendOver_of_alpha_zero {front : Color Exact} (h : front.alpha = number 0) (back : Color Exact) :
    front.blendOver back = rgb back.red back.green back.blue := by
  rw [blendOver, h, mixChannel_zero, mixChannel_zero, mixChannel_zero]

/-- An opaque colour hides the one behind it. -/
theorem blendOver_of_alpha_one {front : Color Exact} (h : front.alpha = number 1) (back : Color Exact) :
    front.blendOver back = rgb front.red front.green front.blue := by
  rw [blendOver, h, mixChannel_one, mixChannel_one, mixChannel_one]

/-- A colour is laid over another at an opacity that may be any value. On each channel the mean is in range before it
is moved there, what is shown is between the two channels, and it moves from the one below to the one above as the
opacity grows. The colour below is left where the opacity is not finite or not positive, and the colour above covers it
from a finite opacity of 1 on. -/
theorem channels_of_blendOver (front back : Color Exact) :
    (∀ channel ∈ [Rgb.red, Rgb.green, Rgb.blue],
      Blends (channel front.toRgb) (channel back.toRgb)
        (fun a => mixed (front.withAlpha a).alpha (channel front.toRgb) (channel back.toRgb))
        (fun a => channel ((front.withAlpha a).blendOver back).toRgb)) ∧
      (∀ a, Scalar.isFinite a = false ∨ a ≤ 0.0 →
        (front.withAlpha a).blendOver back = rgb back.red back.green back.blue) ∧
      ∀ a, Scalar.isFinite a = true → 1.0 ≤ a →
        (front.withAlpha a).blendOver back = rgb front.red front.green front.blue := by
  refine ⟨fun channel hchannel => ?_, fun a ha => ?_, fun a hfinite ha => ?_⟩
  · have hblends := blends_mixChannel (channel front.toRgb) (channel back.toRgb)
    simp only [← alpha_withAlpha front] at hblends
    -- the three channels are mixed in the same way
    simp only [List.mem_cons, List.not_mem_nil, or_false] at hchannel
    rcases hchannel with rfl | rfl | rfl <;> exact hblends
  · exact blendOver_of_alpha_zero (by rw [alpha_withAlpha, opacity_eq_zero ha]) back
  · exact blendOver_of_alpha_one (by rw [alpha_withAlpha, opacity_eq_one hfinite ha]) back

/-- A colour over one that is darker in red and lighter in green. -/
theorem channels_of_blendOver_faint :
    Rgb.red ∈ [Rgb.red, Rgb.green, Rgb.blue] ∧ Rgb.green ∈ [Rgb.red, Rgb.green, Rgb.blue] ∧ (0.25 : ℝ) ≤ 0.5 ∧
      (((rgb 255 0 128 : Color Exact).withAlpha (number 0.25)).blendOver (rgb 0 255 127)).red
        ≤ (((rgb 255 0 128 : Color Exact).withAlpha (number 0.5)).blendOver (rgb 0 255 127)).red ∧
      (((rgb 255 0 128 : Color Exact).withAlpha (number 0.5)).blendOver (rgb 0 255 127)).green
        ≤ (((rgb 255 0 128 : Color Exact).withAlpha (number 0.25)).blendOver (rgb 0 255 127)).green ∧
      ((rgb 255 0 128 : Color Exact).withAlpha undefined).blendOver (rgb 0 255 127) = rgb 0 255 127 ∧
      ((rgb 255 0 128 : Color Exact).withAlpha (number 2)).blendOver (rgb 0 255 127) = rgb 255 0 128 := by
  obtain ⟨hchannels, hback, hfront⟩ := channels_of_blendOver (rgb 255 0 128) (rgb 0 255 127)
  have hred : Rgb.red ∈ [Rgb.red, Rgb.green, Rgb.blue] := by simp
  have hgreen : Rgb.green ∈ [Rgb.red, Rgb.green, Rgb.blue] := by simp
  have hle : (0.25 : ℝ) ≤ 0.5 := by norm_num
  have htwo : (1.0 : Exact) ≤ number 2 := by
    rw [one_eq, number_le]
    norm_num
  exact ⟨hred, hgreen, hle, ((hchannels _ hred).monotone _ _ hle).1 (by decide),
    ((hchannels _ hgreen).monotone _ _ hle).2 (by decide), hback _ (.inl rfl), hfront _ rfl htwo⟩

end TrafficMap.Color
