import Mathlib
import TrafficMap.Proofs.Number.Values

/-!
# Sums of floats

The value of a sum of floats is the exact sum of their values, rounded to 53 bits (`exact_add`); a sum
that is rounded to two to the power 1024 or more is infinite. Rounding moves a number to the nearest one
of those with 53 bits (`abs_rounded_sub_le`), it keeps the order (`rounded_mono`), and it leaves the
numbers with 53 bits where they are, such as the values of all floats.
-/

namespace TrafficMap.Binary64

open Float.Model Float.Model.UnpackedFloat
open Exact (roundEven roundEven_natCast abs_roundEven_sub_le abs_roundEven_sub_le_abs)

/-! ## Numbers with 53 bits -/

/-- A number with at most 53 bits. -/
structure Representable (r : ℝ) : Prop where
  exists_mul : ∃ n e : ℤ, |n| < 2 ^ 53 ∧ r = n * 2 ^ e

namespace Representable

theorem neg {r : ℝ} (h : Representable r) : Representable (-r) := by
  obtain ⟨n, e, hn, rfl⟩ := h
  exact ⟨-n, e, by rwa [abs_neg], by push_cast; ring⟩

theorem zero : Representable 0 :=
  ⟨0, 0, by norm_num, by norm_num⟩

theorem zpow (e : ℤ) : Representable (2 ^ e) :=
  ⟨1, e, by norm_num, by norm_num⟩

/-- A number with 53 bits is a multiple of a power of two if it is large enough. -/
theorem exists_eq_mul {r : ℝ} (h : Representable r) {j : ℤ} (hlarge : 2 ^ (j + 52) ≤ |r|) :
    ∃ k : ℤ, r = k * 2 ^ j := by
  obtain ⟨n, e, hn, rfl⟩ := h
  have hn' : |(n : ℝ)| < 2 ^ (53 : ℤ) := by exact_mod_cast hn
  have hlt : (2 : ℝ) ^ (j + 52) < 2 ^ (53 + e) := by
    rw [abs_mul, abs_of_pos (by positivity : (0 : ℝ) < 2 ^ e)] at hlarge
    rw [zpow_add₀ two_ne_zero 53]
    exact hlarge.trans_lt (by gcongr)
  have hexponent := (zpow_lt_zpow_iff_right₀ one_lt_two).mp hlt
  obtain ⟨i, rfl⟩ : ∃ i : ℕ, e = i + j := ⟨(e - j).toNat, by omega⟩
  refine ⟨n * 2 ^ i, ?_⟩
  rw [zpow_add₀ two_ne_zero, zpow_natCast]
  push_cast
  ring

end Representable

/-! ## Rounding positive numbers -/

/-- No multiple of the last bit is nearer. -/
theorem abs_nearest_sub_le_of_mul (x : ℝ) (n : ℤ) : |nearest x - x| ≤ |n * lastBit x - x| := by
  have hbit := lastBit_pos x
  have hunits (r : ℝ) : |r * lastBit x - x| = |r - x / lastBit x| * lastBit x := by
    rw [← abs_of_pos hbit, ← abs_mul, abs_of_pos hbit, sub_mul, div_mul_cancel₀ _ hbit.ne']
  rw [nearest, hunits, hunits]
  exact mul_le_mul_of_nonneg_right (abs_roundEven_sub_le_abs _ _) hbit.le

section

variable {x : ℝ} (hx : 0 < x)

include hx

/-- The nearest number has 53 bits. -/
theorem representable_nearest : Representable (nearest x) := by
  obtain ⟨hlow, hhigh⟩ := roundEven_mantissa_bounds hx
  rcases hhigh.lt_or_eq with hlt | heq
  · refine ⟨roundEven (x / lastBit x), Int.log 2 x - 52, by rw [abs_lt]; omega, ?_⟩
    rw [nearest, ← lastBit_eq]
  · rw [nearest, heq, lastBit_eq]
    refine ⟨2 ^ 52, Int.log 2 x - 52 + 1, by norm_num, ?_⟩
    rw [zpow_add_one₀ two_ne_zero]
    push_cast
    ring

/-- No number with 53 bits is nearer. -/
theorem abs_nearest_sub_le {g : ℝ} (hg : Representable g) : |nearest x - x| ≤ |g - x| := by
  -- a number that is not above the leading bit is no nearer than that one
  have hleading : (2 : ℝ) ^ Int.log 2 x = (2 ^ 52 : ℤ) * lastBit x := by
    rw [lastBit_eq, zpow_sub₀ two_ne_zero]
    push_cast
    field_simp
    norm_num
  rcases le_total ((2 : ℝ) ^ Int.log 2 x) |g| with hlarge | hsmall
  · obtain ⟨k, rfl⟩ := hg.exists_eq_mul (j := Int.log 2 x - 52) (by rwa [sub_add_cancel])
    rw [← lastBit_eq]
    exact abs_nearest_sub_le_of_mul x k
  · have hlow := Int.zpow_log_le_self one_lt_two hx
    rw [Nat.cast_ofNat] at hlow
    calc |nearest x - x| ≤ |(2 ^ 52 : ℤ) * lastBit x - x| := abs_nearest_sub_le_of_mul x _
      _ = x - 2 ^ Int.log 2 x := by
          rw [← hleading, abs_sub_comm, abs_of_nonneg (sub_nonneg.mpr hlow)]
      _ ≤ x - g := by linarith [le_abs_self g]
      _ ≤ |g - x| := by
          rw [abs_sub_comm]
          exact le_abs_self _

/-- A number below a power of two is moved by half of the last bit there at most. -/
theorem abs_nearest_sub_le_zpow {j : ℤ} (hlt : x < 2 ^ j) : |nearest x - x| ≤ 2 ^ (j - 54) := by
  have hbit := lastBit_pos x
  have hlog : Int.log 2 x < j := by
    rw [← Int.lt_zpow_iff_log_lt one_lt_two hx]
    exact_mod_cast hlt
  have hunits : nearest x - x = (roundEven (x / lastBit x) - x / lastBit x) * lastBit x := by
    rw [nearest, sub_mul, div_mul_cancel₀ _ hbit.ne']
  rw [hunits, abs_mul, abs_of_pos hbit]
  calc |(roundEven (x / lastBit x) : ℝ) - x / lastBit x| * lastBit x ≤ 1 / 2 * lastBit x := by
        gcongr
        exact abs_roundEven_sub_le _
    _ = 2 ^ (Int.log 2 x - 53) := by
        rw [lastBit_eq, show Int.log 2 x - 52 = Int.log 2 x - 53 + 1 by ring, zpow_add_one₀ two_ne_zero]
        ring
    _ ≤ 2 ^ (j - 54) := zpow_le_zpow_right₀ one_le_two (by omega)

end

/-! ## Rounding -/

/-- The number with 53 bits that is nearest to a number, a half going to the even one. -/
noncomputable def rounded (r : ℝ) : ℝ :=
  if r < 0 then -nearest (-r) else nearest r

theorem rounded_zero : rounded 0 = 0 := by
  rw [rounded, if_neg (lt_irrefl 0), nearest, zero_div, ← Nat.cast_zero, roundEven_natCast]
  norm_num

theorem rounded_of_pos {r : ℝ} (h : 0 < r) : rounded r = nearest r :=
  if_neg h.not_gt

/-- Rounding treats both signs alike. -/
theorem rounded_neg (r : ℝ) : rounded (-r) = -rounded r := by
  rcases lt_trichotomy r 0 with h | rfl | h
  · rw [rounded_of_pos (neg_pos.mpr h), rounded, if_pos h, neg_neg]
  · rw [neg_zero, rounded_zero, neg_zero]
  · rw [rounded, if_pos (neg_neg_of_pos h), neg_neg, rounded_of_pos h]

/-- What holds on both sides of zero follows from the positive side. -/
theorem sign_cases {p : ℝ → Prop} (hzero : p 0) (hneg : ∀ r, p r → p (-r)) (hpos : ∀ r, 0 < r → p r)
    (r : ℝ) : p r := by
  rcases lt_trichotomy r 0 with h | rfl | h
  · rw [← neg_neg r]
    exact hneg _ (hpos _ (neg_pos.mpr h))
  · exact hzero
  · exact hpos r h

/-- What is rounded can be represented. -/
theorem representable_rounded (r : ℝ) : Representable (rounded r) := by
  refine sign_cases (p := fun r => Representable (rounded r)) ?_ (fun r h => ?_) (fun r h => ?_) r
  · rw [rounded_zero]
    exact .zero
  · rw [rounded_neg]
    exact h.neg
  · rw [rounded_of_pos h]
    exact representable_nearest h

/-- No number with 53 bits is nearer to a number than the one that it is rounded to. -/
theorem abs_rounded_sub_le {g : ℝ} (hg : Representable g) (r : ℝ) : |rounded r - r| ≤ |g - r| := by
  refine sign_cases (p := fun r => ∀ g, Representable g → |rounded r - r| ≤ |g - r|) (fun g _ => ?_)
    (fun r h g hg => ?_) (fun r h g hg => ?_) r g hg
  · rw [rounded_zero, sub_zero, abs_zero]
    exact abs_nonneg _
  · rw [rounded_neg, ← neg_sub', abs_neg, ← abs_neg (g - -r), neg_sub', neg_neg]
    exact h _ hg.neg
  · rw [rounded_of_pos h]
    exact abs_nearest_sub_le h hg

/-- A number with 53 bits needs no rounding. -/
theorem Representable.rounded_eq {r : ℝ} (h : Representable r) : rounded r = r := by
  have hle := abs_rounded_sub_le h r
  rw [sub_self, abs_zero] at hle
  exact sub_eq_zero.mp (abs_eq_zero.mp (le_antisymm hle (abs_nonneg _)))

/-- A number up to a power of two is moved by half of the last bit below that one at most. -/
theorem abs_rounded_sub_le_zpow {r : ℝ} {j : ℤ} (hle : |r| ≤ 2 ^ j) : |rounded r - r| ≤ 2 ^ (j - 54) := by
  rcases hle.lt_or_eq with hlt | heq
  · refine sign_cases (p := fun r => |r| < 2 ^ j → |rounded r - r| ≤ 2 ^ (j - 54)) (fun _ => ?_)
      (fun r h hlt => ?_) (fun r h hlt => ?_) r hlt
    · rw [rounded_zero, sub_zero, abs_zero]
      positivity
    · rw [rounded_neg, ← neg_sub', abs_neg]
      exact h (by rwa [abs_neg] at hlt)
    · rw [rounded_of_pos h]
      exact abs_nearest_sub_le_zpow h ((le_abs_self r).trans_lt hlt)
  · -- the power itself has a single bit
    have hr : Representable r := by
      rcases eq_or_eq_neg_of_abs_eq heq with rfl | rfl
      · exact .zpow j
      · exact (Representable.zpow j).neg
    rw [hr.rounded_eq, sub_self, abs_zero]
    positivity

theorem rounded_nonneg {r : ℝ} (h : 0 ≤ r) : 0 ≤ rounded r := by
  rw [rounded, if_neg h.not_gt, nearest]
  have hbit := lastBit_pos r
  have hround : 0 ≤ roundEven (r / lastBit r) := Exact.roundEven_nonneg (by positivity)
  have hround' : (0 : ℝ) ≤ roundEven (r / lastBit r) := by exact_mod_cast hround
  positivity

/-- Rounding keeps the order. -/
theorem rounded_mono {r t : ℝ} (h : r ≤ t) : rounded r ≤ rounded t := by
  rcases lt_or_ge t 0 with ht | ht
  · rw [rounded, rounded, if_pos ht, if_pos (h.trans_lt ht)]
    exact neg_le_neg (nearest_mono (neg_pos.mpr ht) (neg_le_neg h))
  · rcases lt_or_ge 0 r with hr | hr
    · rw [rounded_of_pos hr, rounded_of_pos (hr.trans_le h)]
      exact nearest_mono hr h
    · have hneg := rounded_nonneg (neg_nonneg.mpr hr)
      rw [rounded_neg] at hneg
      linarith [rounded_nonneg ht]

/-! ## Rounding the parts of floats -/

/-- A number with at most 53 bits, written in whole units. -/
theorem nearest_of_lt {m : ℕ} (hm : 0 < m) (hlt : m < 2 ^ 53) (e : ℤ) :
    nearest (m * 2 ^ e) = m * 2 ^ e := by
  have hr : Representable (m * 2 ^ e) := ⟨m, e, by rw [abs_lt]; omega, by norm_cast⟩
  rw [← rounded_of_pos (by positivity), hr.rounded_eq]

/-- A mantissa of at most 53 bits fits once it is moved to the left as far as it goes. -/
theorem fits_of_shiftLeft {q d : ℕ} (hq : 0 < q) (hlt : q < 2 ^ 53) {e : ℤ}
    (hd : (d : ℤ) = e - max (-1074) (e + q.log2 - 52)) : Fits (q * 2 ^ d) (e - d) := by
  have hlog : q.log2 < 53 := (Nat.log2_lt hq.ne').mpr hlt
  have hhigh : q * 2 ^ d < 2 ^ 53 :=
    calc q * 2 ^ d < 2 ^ (q.log2 + 1) * 2 ^ d := Nat.mul_lt_mul_of_pos_right Nat.lt_log2_self (by positivity)
      _ = 2 ^ (q.log2 + 1 + d) := (pow_add ..).symm
      _ ≤ 2 ^ 53 := Nat.pow_le_pow_right two_pos (by omega)
  have hfull (hmost : -1074 < e - d) : 2 ^ 52 ≤ q * 2 ^ d :=
    calc 2 ^ 52 ≤ 2 ^ (q.log2 + d) := Nat.pow_le_pow_right two_pos (by omega)
      _ = 2 ^ q.log2 * 2 ^ d := pow_add ..
      _ ≤ q * 2 ^ d := Nat.mul_le_mul_right _ (Nat.log2_self_le hq.ne')
  exact ⟨by omega, hhigh, by omega⟩

/-- The parts of a number are rounded to the nearest one that fits, without a largest exponent. -/
theorem round_eq_finite (s : Sign) {q : ℕ} (hq : 0 < q) {e : ℤ} (he : -1074 ≤ e) :
    ∃ m f hm, UnpackedFloat.round .binary64 s q e = .finite s m f hm ∧ Fits m f ∧
      nearest (q * 2 ^ e) = m * 2 ^ f := by
  have htotal : Format.binary64.targetExponent (totalExponent q e) = max (-1074) (e + q.log2 - 52) := by
    simp only [Format.targetExponent, totalExponent, Format.mantissaBits, Format.minExponent]
    norm_num
    omega
  simp only [UnpackedFloat.round, decreaseExponent, htotal, Nat.shiftLeft_eq]
  rcases lt_or_ge q (2 ^ 53) with hlt | hge
  · -- nothing is lost
    have hlog : q.log2 < 53 := (Nat.log2_lt hq.ne').mpr hlt
    obtain ⟨d, hd⟩ : ∃ d, d = (e - max (-1074) (e + q.log2 - 52)).toNat := ⟨_, rfl⟩
    have hfits : Fits (q * 2 ^ d) (e - d) := fits_of_shiftLeft hq hlt (by omega)
    rw [← hd]
    have hm : 0 < q * 2 ^ d := by positivity
    refine ⟨_, _, hm, roundWithAccuracy_eq hfits hm (shiftToTargetExponent_self hfits hm), hfits, ?_⟩
    rw [nearest_of_lt hq hlt, zpow_sub₀ two_ne_zero, zpow_natCast]
    push_cast
    field_simp
  · obtain ⟨k, hk⟩ : ∃ k, q.log2 = 52 + k :=
      Nat.exists_eq_add_of_le ((Nat.le_log2 hq.ne').mpr (by omega))
    have hlog := log_mul_zpow hk le_rfl (lt_add_one (q : ℝ)) e
    have hstay : (e - max (-1074) (e + q.log2 - 52)).toNat = 0 := by omega
    obtain ⟨m, f, hm, hround, hlow, hhigh, hleast, -, hvalue⟩ :=
      roundWithAccuracy_eq_finite s (q := q) (a := .exact) (x := q) (e := e) rfl (by omega) (by positivity)
        (by omega)
    rw [hstay, pow_zero, mul_one, Nat.cast_zero, sub_zero]
    exact ⟨m, f, hm, hround, ⟨hleast, hhigh, Or.inl hlow⟩, hvalue⟩

/-- The value of the float that an exact value is rounded to. -/
noncomputable def nearestValue : Exact → Exact
  | .number r => if |rounded r| < ((2 : ℕ) : ℝ) ^ 1024 then .number (rounded r) else .infinite (decide (r < 0))
  | v => v

/-- A number that does not overflow is rounded to the nearest one. -/
theorem nearestValue_of_lt {r : ℝ} (h : |rounded r| < 2 ^ 1024) :
    nearestValue (.number r) = .number (rounded r) := by
  rw [nearestValue, Nat.cast_ofNat, if_pos h]

theorem rounded_of_nearestValue {r t : ℝ} (h : nearestValue (.number r) = .number t) : rounded r = t := by
  rw [nearestValue] at h
  split_ifs at h
  exact Exact.number.inj h

theorem nearestValue_zero : nearestValue (.number 0) = .number 0 := by
  rw [nearestValue_of_lt, rounded_zero]
  rw [rounded_zero, abs_zero]
  positivity

/-- The rounding of the machine is the nearest value. -/
theorem value_pack_round (s : Sign) {q : ℕ} (hq : 0 < q) {e : ℤ} (he : -1074 ≤ e) :
    partsValue (Float.Model.pack (UnpackedFloat.round .binary64 s q e)).unpack
      = nearestValue (.number (s.apply q * 2 ^ e)) := by
  obtain ⟨m, f, hm, hround, hfits, hvalue⟩ := round_eq_finite s hq he
  have hpos : (0 : ℝ) < q * 2 ^ e := by positivity
  have hnegative : decide ((s.apply q : ℝ) * 2 ^ e < 0) = (s == .negative) := by
    cases s with
    | negative => simp [Sign.apply, hpos]
    | positive => exact decide_eq_false (not_lt.mpr hpos.le)
  have hrounded : rounded (s.apply q * 2 ^ e) = s.apply m * 2 ^ f := by
    cases s <;> simp only [Sign.apply, Int.cast_neg, Int.cast_natCast, neg_mul, rounded_neg,
      rounded_of_pos hpos, hvalue]
  have habs : |(s.apply m : ℝ) * 2 ^ f| = m * 2 ^ f := by
    cases s <;> simp [Sign.apply, abs_mul]
  rw [hround, nearestValue, hrounded, habs, hnegative, Nat.cast_ofNat]
  split_ifs with hlt
  · rw [unpack_pack_of_le hm hfits ((magnitude_lt_limit_iff hfits).mp hlt), partsValue_finite]
  · rw [unpack_pack_of_lt hm (not_le.mp fun hle => hlt ((magnitude_lt_limit_iff hfits).mpr hle)),
      partsValue]

/-- So is what is normalized. -/
theorem value_pack_normalize (n : ℤ) {e : ℤ} (he : -1074 ≤ e) :
    partsValue (Float.Model.pack (UnpackedFloat.normalize .binary64 n e .positive)).unpack
      = nearestValue (.number (n * 2 ^ e)) := by
  unfold UnpackedFloat.normalize
  rcases lt_trichotomy n 0 with hn | rfl | hn
  · rw [Int.compare_eq_lt.mpr hn]
    dsimp only
    rw [value_pack_round _ (by omega) he]
    simp only [Sign.apply]
    rw [Int.toNat_of_nonneg (by omega), neg_neg]
  · have hzero : Stored (.zero .positive) := trivial
    rw [Int.compare_eq_eq.mpr rfl, hzero.unpack_pack, Int.cast_zero, zero_mul, nearestValue_zero, partsValue]
  · rw [Int.compare_eq_gt.mpr hn]
    dsimp only
    rw [value_pack_round _ (by omega) he]
    simp only [Sign.apply]
    rw [Int.toNat_of_nonneg (by omega)]

/-- A mantissa that is moved to the left stands for the same number. -/
theorem apply_shiftLeft_mul_zpow (s : Sign) (m : ℕ) {e g : ℤ} (h : g ≤ e) :
    (s.apply (m <<< (e - g).toNat : ℕ) : ℝ) * 2 ^ g = s.apply m * 2 ^ e := by
  obtain ⟨k, rfl⟩ : ∃ k : ℕ, e = g + k := ⟨(e - g).toNat, by omega⟩
  rw [add_sub_cancel_left, Int.toNat_natCast, Nat.shiftLeft_eq, zpow_add₀ two_ne_zero, zpow_natCast]
  cases s <;> simp only [Sign.apply] <;> push_cast <;> ring

/-! ## Sums -/

/-- A number that a bit pattern can hold has 53 bits and is below the limit. -/
theorem Stored.representable {a : UnpackedFloat} (h : Stored a) {v : ℝ} (hv : partsValue a = .number v) :
    Representable v ∧ |v| < 2 ^ 1024 := by
  rcases parts_of_value hv with rfl | ⟨s, m, e, hm, rfl, rfl⟩
  · exact ⟨.zero, by norm_num⟩
  · obtain ⟨hfits, hle⟩ := h
    have hlt := (magnitude_lt_limit_iff hfits).mpr hle
    obtain ⟨-, hsmall, -⟩ := hfits
    refine ⟨⟨s.apply m, e, ?_, rfl⟩, ?_⟩
    · cases s <;> simp only [Sign.apply, abs_neg, Nat.abs_cast] <;> exact_mod_cast hsmall
    · cases s <;> simpa [Sign.apply, abs_mul] using hlt

/-- A number that is stored is not rounded again. -/
theorem Stored.nearestValue_eq {a : UnpackedFloat} (h : Stored a) :
    nearestValue (partsValue a) = partsValue a := by
  cases ha : partsValue a with
  | number v =>
    obtain ⟨hv, hlt⟩ := h.representable ha
    rw [nearestValue_of_lt (by rwa [hv.rounded_eq]), hv.rounded_eq]
  | infinite negative => rfl
  | undefined => rfl

/-- A sum that is one of the two addends, or none, needs no rounding. -/
theorem value_of_add_eq {a b c : UnpackedFloat} (hadd : UnpackedFloat.add .binary64 a b = c)
    (hsum : partsValue a + partsValue b = partsValue c) (hc : Stored c) :
    partsValue (Float.Model.pack (UnpackedFloat.add .binary64 a b)).unpack
      = nearestValue (partsValue a + partsValue b) := by
  rw [hadd, hsum, hc.unpack_pack, hc.nearestValue_eq]

/-- The sum of two stored numbers is the nearest value to the exact sum. -/
theorem value_pack_add {a b : UnpackedFloat} (ha : Stored a) (hb : Stored b) :
    partsValue (Float.Model.pack (UnpackedFloat.add .binary64 a b)).unpack
      = nearestValue (partsValue a + partsValue b) := by
  cases a with
  | notANumber => exact value_of_add_eq (c := .notANumber) rfl rfl trivial
  | infinity s =>
    cases b with
    | notANumber => exact value_of_add_eq (c := .notANumber) rfl rfl trivial
    | infinity t => cases s <;> cases t <;> exact value_of_add_eq rfl rfl trivial
    | zero t => exact value_of_add_eq rfl rfl ha
    | finite t n f hn => exact value_of_add_eq rfl rfl ha
  | zero s =>
    cases b with
    | notANumber => exact value_of_add_eq (c := .notANumber) rfl rfl trivial
    | infinity t => exact value_of_add_eq rfl rfl hb
    | zero t => cases s <;> cases t <;> exact value_of_add_eq rfl (congrArg Exact.number (add_zero 0)) trivial
    | finite t n f hn => exact value_of_add_eq rfl (congrArg Exact.number (zero_add _)) hb
  | finite s m e hm =>
    cases b with
    | notANumber => exact value_of_add_eq (c := .notANumber) rfl rfl trivial
    | infinity t => exact value_of_add_eq rfl rfl hb
    | zero t => exact value_of_add_eq rfl (congrArg Exact.number (add_zero _)) ha
    | finite t n f hn =>
      -- the mantissas are added at the smaller exponent
      obtain ⟨⟨he, -, -⟩, -⟩ := ha
      obtain ⟨⟨hf, -, -⟩, -⟩ := hb
      simp only [UnpackedFloat.add, decreaseExponent]
      rw [value_pack_normalize _ (by omega), Int.cast_add, add_mul,
        apply_shiftLeft_mul_zpow s m (min_le_left e f), apply_shiftLeft_mul_zpow t n (min_le_right e f),
        partsValue_finite, partsValue_finite, Exact.number_add]

/-- The value of a sum of floats is the exact sum, rounded. -/
theorem exact_add (x y : Float) : exact (x + y) = nearestValue (exact x + exact y) :=
  value_pack_add (stored_unpack _) (stored_unpack _)

/-- The value of a number can be represented. -/
theorem representable_of_exact {x : Float} {v : ℝ} (h : exact x = .number v) :
    Representable v ∧ |v| < 2 ^ 1024 :=
  (stored_unpack _).representable h

/-- Adding a number that is not negative does not lead below a float. -/
theorem le_add_of_nonneg {x y : Float} {r : ℝ} (hx : Scalar.isNaN x = false) (hy : exact y = .number r)
    (hr : 0 ≤ r) : x ≤ x + y := by
  rw [← exact_le, exact_add, hy]
  rw [← isNaN_exact] at hx
  cases hv : exact x with
  | undefined =>
    rw [hv] at hx
    cases hx
  | infinite negative =>
    have hrefl : negative = true ∨ negative = false := by cases negative <;> simp
    exact hrefl
  | number v =>
    obtain ⟨hbits, hlt⟩ := representable_of_exact hv
    have hmono := rounded_mono (le_add_of_nonneg_right hr : v ≤ v + r)
    rw [hbits.rounded_eq] at hmono
    rw [Exact.number_add, nearestValue, Nat.cast_ofNat]
    split_ifs with hfits
    · exact hmono
    · -- a sum that is not stored lies above zero, since the float itself is stored
      have hpos : ¬ v + r < 0 := by
        intro hneg
        have hround := rounded_nonneg (neg_nonneg.mpr hneg.le)
        rw [rounded_neg] at hround
        refine hfits (lt_of_le_of_lt ?_ hlt)
        rw [abs_of_nonpos (by linarith), abs_of_nonpos (by linarith)]
        linarith
      exact decide_eq_false hpos

end TrafficMap.Binary64
