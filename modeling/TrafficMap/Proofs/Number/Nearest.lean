import Mathlib
import TrafficMap.Proofs.Number.Division
import TrafficMap.Proofs.Number.Exact

/-!
# Rounding to 53 bits

The result of a float operation is the exact one rounded to 53 bits. For positive numbers that are neither
tiny nor huge, `nearest` is that rounding, and it keeps the order of numbers (`nearest_mono`). A mantissa is
shifted to its 53 bits in steps, and two residual bits keep what rounding needs to know of the number behind
it (`Truncates`), so the parts of a float are rounded to the nearest number (`roundWithAccuracy_eq_nearest`).
-/

namespace TrafficMap.Binary64

open Float.Model Float.Model.UnpackedFloat
open Exact (roundEven roundEven_mono roundEven_intCast roundEven_natCast)

/-! ## The nearest number with 53 bits -/

/-- The value of the last of the 53 bits of a number. -/
noncomputable def lastBit (x : ℝ) : ℝ :=
  ((2 : ℕ) : ℝ) ^ (Int.log 2 x - 52)

/-- The number with 53 bits that is nearest to a positive number, a half going to the even one. -/
noncomputable def nearest (x : ℝ) : ℝ :=
  roundEven (x / lastBit x) * lastBit x

/-- The last bit of a number in its binary place. -/
theorem lastBit_eq (x : ℝ) : lastBit x = 2 ^ (Int.log 2 x - 52) := by
  rw [lastBit, Nat.cast_ofNat]

theorem lastBit_pos (x : ℝ) : 0 < lastBit x := by
  rw [lastBit_eq]
  positivity

/-- In units of its last bit a number has 53 bits before the point. -/
theorem mantissa_bounds {x : ℝ} (hx : 0 < x) :
    ((2 ^ 52 : ℤ) : ℝ) ≤ x / lastBit x ∧ x / lastBit x < ((2 ^ 53 : ℤ) : ℝ) := by
  have hlow := Int.zpow_log_le_self one_lt_two hx
  have hhigh := Int.lt_zpow_succ_log_self one_lt_two x
  rw [Nat.cast_ofNat] at hlow hhigh
  have hunits (k : ℕ) : ((2 ^ k : ℤ) : ℝ) * lastBit x = 2 ^ (Int.log 2 x + (k - 52)) := by
    rw [lastBit_eq, add_sub_left_comm, zpow_add₀ two_ne_zero, zpow_natCast]
    push_cast
    rfl
  rw [le_div_iff₀ (lastBit_pos x), div_lt_iff₀ (lastBit_pos x), hunits, hunits]
  norm_num
  exact ⟨hlow, hhigh⟩

/-- The rounded mantissa has 53 bits, or is the next power of two. -/
theorem roundEven_mantissa_bounds {x : ℝ} (hx : 0 < x) :
    2 ^ 52 ≤ roundEven (x / lastBit x) ∧ roundEven (x / lastBit x) ≤ 2 ^ 53 := by
  obtain ⟨hlow, hhigh⟩ := mantissa_bounds hx
  constructor
  · simpa only [roundEven_intCast] using roundEven_mono hlow
  · simpa only [roundEven_intCast] using roundEven_mono hhigh.le

/-- Rounding to the nearest number keeps the order. -/
theorem nearest_mono {x y : ℝ} (hx : 0 < x) (h : x ≤ y) : nearest x ≤ nearest y := by
  have hlog : Int.log 2 x ≤ Int.log 2 y := Int.log_mono_right hx h
  rcases hlog.eq_or_lt with hlog | hlog
  · -- both are rounded to the same bit
    have hbit : lastBit x = lastBit y := by rw [lastBit_eq, lastBit_eq, hlog]
    have hmantissa : (roundEven (x / lastBit y) : ℝ) ≤ roundEven (y / lastBit y) := by
      have hpos := lastBit_pos y
      exact_mod_cast roundEven_mono (by gcongr)
    rw [nearest, nearest, hbit]
    exact mul_le_mul_of_nonneg_right hmantissa (lastBit_pos y).le
  · -- a power of two lies between the two, and rounding does not cross it
    have hlow : (2 : ℝ) ^ 52 ≤ roundEven (y / lastBit y) := by
      exact_mod_cast (roundEven_mantissa_bounds (hx.trans_le h)).1
    have hhigh : (roundEven (x / lastBit x) : ℝ) ≤ 2 ^ 53 := by
      exact_mod_cast (roundEven_mantissa_bounds hx).2
    calc nearest x ≤ 2 ^ 53 * lastBit x := mul_le_mul_of_nonneg_right hhigh (lastBit_pos x).le
      _ = 2 ^ (Int.log 2 x + 1) := by
          rw [lastBit_eq, ← zpow_natCast, ← zpow_add₀ two_ne_zero]
          congr 1
          push_cast
          ring
      _ ≤ 2 ^ Int.log 2 y := zpow_le_zpow_right₀ one_le_two hlog
      _ = 2 ^ 52 * lastBit y := by
          rw [lastBit_eq, ← zpow_natCast, ← zpow_add₀ two_ne_zero]
          congr 1
          push_cast
          ring
      _ ≤ nearest y := mul_le_mul_of_nonneg_right hlow (lastBit_pos y).le

/-- A number with 53 bits needs no rounding. -/
theorem nearest_eq {m : ℕ} (hlow : 2 ^ 52 ≤ m) (hhigh : m < 2 ^ 53) (e : ℤ) :
    nearest (m * 2 ^ e) = m * 2 ^ e := by
  have hlow' : (2 : ℝ) ^ (52 : ℤ) ≤ m := by exact_mod_cast hlow
  have hhigh' : (m : ℝ) < 2 ^ (53 : ℤ) := by exact_mod_cast hhigh
  have hpos : (0 : ℝ) < m * 2 ^ e := by
    have hm : (0 : ℝ) < m := lt_of_lt_of_le (by positivity) hlow'
    positivity
  have hlog : Int.log 2 ((m : ℝ) * 2 ^ e) = 52 + e := by
    apply le_antisymm
    · rw [← Int.lt_add_one_iff, ← Int.lt_zpow_iff_log_lt one_lt_two hpos, Nat.cast_ofNat,
        show (52 + e + 1 : ℤ) = 53 + e by ring, zpow_add₀ two_ne_zero]
      gcongr
    · rw [← Int.zpow_le_iff_le_log one_lt_two hpos, Nat.cast_ofNat, zpow_add₀ two_ne_zero]
      gcongr
  have hbit : lastBit ((m : ℝ) * 2 ^ e) = 2 ^ e := by
    rw [lastBit_eq, hlog]
    congr 1
    ring
  rw [nearest, hbit, mul_div_cancel_right₀ _ (by positivity), roundEven_natCast]
  norm_cast

/-- Rounding does not leave the range between two powers of two. -/
theorem nearest_bounds {r : ℝ} (hlow : 1 ≤ r) (hhigh : r ≤ 2 ^ 64) :
    1 ≤ nearest r ∧ nearest r ≤ 2 ^ 64 := by
  have hone : nearest 1 = 1 := by
    have h := nearest_eq (m := 2 ^ 52) le_rfl (by norm_num) (-52)
    norm_num at h
    exact h
  have hlimit : nearest (2 ^ 64) = 2 ^ 64 := by
    have h := nearest_eq (m := 2 ^ 52) le_rfl (by norm_num) 12
    norm_num at h ⊢
    exact h
  have hmono := nearest_mono one_pos hlow
  have hmono' := nearest_mono (one_pos.trans_le hlow) hhigh
  rw [hone] at hmono
  rw [hlimit] at hmono'
  exact ⟨hmono, hmono'⟩

/-! ## Mantissas with residual bits -/

/-- The residual bits of a mantissa tell where a number lies between the mantissa and the next one. -/
def Truncates (em : ExtendedMantissa) (x : ℝ) : Prop :=
  match em.roundBit, em.stickyBit with
  | false, false => x = em.mantissa
  | false, true => (em.mantissa : ℝ) < x ∧ x < em.mantissa + 1 / (2 : ℕ)
  | true, false => x = em.mantissa + 1 / (2 : ℕ)
  | true, true => (em.mantissa : ℝ) + 1 / (2 : ℕ) < x ∧ x < em.mantissa + 1

/-- The residual bits are kept beside the mantissa. -/
theorem mantissa_ofMantissaAndAccuracy (q : ℕ) (a : Accuracy) :
    (ExtendedMantissa.ofMantissaAndAccuracy q a).mantissa = q := by
  rcases a with _ | ⟨_ | _ | _⟩ <;> rfl

namespace Truncates

variable {em : ExtendedMantissa} {x : ℝ}

theorem floor_eq (h : Truncates em x) : ⌊x⌋ = (em.mantissa : ℤ) := by
  obtain ⟨m, r, s⟩ := em
  rw [Int.floor_eq_iff]
  cases r <;> cases s <;> simp only [Truncates, Nat.cast_ofNat] at h <;> push_cast <;> constructor <;> linarith

/-- The residual bits are all that rounding needs. -/
theorem roundedMantissa_eq (h : Truncates em x) : (em.roundedMantissa : ℤ) = roundEven x := by
  have hfloor := h.floor_eq
  have hfract : Int.fract x = x - em.mantissa := by
    rw [Int.fract, hfloor]
    norm_cast
  rw [roundEven, hfract, hfloor]
  obtain ⟨m, r, s⟩ := em
  cases r <;> cases s <;> simp only [Truncates, Nat.cast_ofNat] at h <;>
    simp only [ExtendedMantissa.roundedMantissa, ExtendedMantissa.accuracy, Accuracy.roundToNearestEven]
  · rw [if_pos (by linarith)]
  · rw [if_pos (by linarith)]
  · rw [if_neg (by linarith), if_neg (by linarith)]
    push_cast
    rfl
  · rw [if_neg (by linarith), if_pos (by linarith)]
    push_cast
    rfl

theorem shiftRightOne (h : Truncates em x) : Truncates em.shiftRightOne (x / 2) := by
  obtain ⟨m, r, s⟩ := em
  -- the last bit of the mantissa becomes the round bit, and that one joins the sticky bit
  have hhalf : (m : ℝ) = 2 * (m / 2 : ℕ) + (m % 2 : ℕ) := by
    exact_mod_cast (Nat.div_add_mod m 2).symm
  rcases Nat.mod_two_eq_zero_or_one m with hparity | hparity <;> rw [hparity] at hhalf <;>
    cases r <;> cases s <;>
      simp_all [Truncates, ExtendedMantissa.shiftRightOne] <;> (try constructor) <;> linarith

/-- Residual bits stand for the shifted number. -/
theorem shiftRight (h : Truncates em x) (k : ℕ) : Truncates (em >>> k) (x / 2 ^ k) := by
  induction k with
  | zero => simpa [HShiftRight.hShiftRight, Nat.repeat] using h
  | succ k ih =>
    rw [pow_succ, ← div_div]
    exact ih.shiftRightOne

end Truncates

/-- The whole part of a quotient, with the accuracy that its remainder gives. -/
theorem truncates_quotient (n : ℕ) {d : ℕ} (hd : 0 < d) :
    Truncates (.ofMantissaAndAccuracy (n / d) (accuracyOfFraction (n % d) d)) (n / d : ℝ) := by
  have hd' : (0 : ℝ) < d := by exact_mod_cast hd
  have hsplit : (n : ℝ) / d = (n / d : ℕ) + (n % d : ℕ) / d := by
    rw [div_eq_iff hd'.ne', add_mul, div_mul_cancel₀ _ hd'.ne']
    exact_mod_cast (Nat.div_add_mod' n d).symm
  have hone : ((n % d : ℕ) : ℝ) / d < 1 := by
    rw [div_lt_one hd']
    exact_mod_cast Nat.mod_lt n hd
  have hlt : ((n % d : ℕ) : ℝ) / d < 1 / 2 ↔ 2 * (n % d) < d := by
    rw [div_lt_div_iff₀ hd' two_pos, mul_comm, one_mul]
    norm_cast
  have hgt : 1 / 2 < ((n % d : ℕ) : ℝ) / d ↔ d < 2 * (n % d) := by
    rw [div_lt_div_iff₀ two_pos hd', mul_comm ((n % d : ℕ) : ℝ), one_mul]
    norm_cast
  rw [hsplit, accuracyOfFraction]
  split_ifs with hzero
  · simp [Truncates, ExtendedMantissa.ofMantissaAndAccuracy, hzero]
  · have hpos : (0 : ℝ) < (n % d : ℕ) / d := div_pos (by exact_mod_cast Nat.pos_of_ne_zero hzero) hd'
    rcases lt_trichotomy (2 * (n % d)) d with hhalf | hhalf | hhalf
    · rw [Nat.compare_eq_lt.mpr hhalf]
      exact ⟨lt_add_of_pos_right _ hpos, (add_lt_add_iff_left _).mpr (hlt.mpr hhalf)⟩
    · have hequal : ((n % d : ℕ) : ℝ) / d = 1 / 2 :=
        le_antisymm (not_lt.mp (hgt.not.mpr hhalf.not_gt)) (not_lt.mp (hlt.not.mpr hhalf.not_lt))
      rw [Nat.compare_eq_eq.mpr hhalf, hequal]
      rfl
    · rw [Nat.compare_eq_gt.mpr hhalf]
      exact ⟨(add_lt_add_iff_left _).mpr (hgt.mpr hhalf), (add_lt_add_iff_left _).mpr hone⟩

/-! ## Rounding the parts of a float -/

/-- A mantissa of 53 bits with an exponent that a float can store beside it. -/
structure Full (m : ℕ) (e : ℤ) : Prop where
  le_mantissa : 2 ^ 52 ≤ m
  mantissa_lt : m < 2 ^ 53
  le_exponent : -1074 ≤ e
  exponent_le : e ≤ 971

/-- A positive number that is neither so small nor so large that a float for it has fewer bits. -/
structure InRange (r : ℝ) : Prop where
  pos : 0 < r
  le_log : -1000 ≤ Int.log 2 r
  log_le : Int.log 2 r ≤ 1000

/-- Numbers from one to two to the power of sixty-four are in range. -/
theorem inRange_of_bounds {r : ℝ} (hlow : 1 ≤ r) (hhigh : r ≤ 2 ^ 64) : InRange r := by
  have hpos : 0 < r := one_pos.trans_le hlow
  have hlog : 0 ≤ Int.log 2 r := by
    rw [← Int.zpow_le_iff_le_log one_lt_two hpos]
    simpa using hlow
  have hlog' : Int.log 2 r < 65 := by
    rw [← Int.lt_zpow_iff_log_lt one_lt_two hpos]
    exact hhigh.trans_lt (by norm_num)
  exact ⟨hpos, by omega, by omega⟩

section

variable {q k : ℕ} {x : ℝ} (hq : q.log2 = 52 + k) (hqx : q ≤ x) (hxq : x < q + 1) (e : ℤ)

include hq hqx hxq

/-- The leading bit of a number is that of its whole part. -/
theorem log_mul_zpow : Int.log 2 (x * 2 ^ e) = 52 + k + e := by
  have hq0 : q ≠ 0 := by
    rintro rfl
    rw [Nat.log2_zero] at hq
    omega
  have hlow : (2 : ℝ) ^ (52 + k) ≤ x := le_trans (by exact_mod_cast hq ▸ Nat.log2_self_le hq0) hqx
  have hhigh : x < 2 ^ (52 + k + 1) := hxq.trans_le (by exact_mod_cast hq ▸ Nat.lt_log2_self)
  have hpos : 0 < x * 2 ^ e := by
    have hx : 0 < x := lt_of_lt_of_le (by positivity) hlow
    positivity
  apply le_antisymm
  · rw [← Int.lt_add_one_iff, ← Int.lt_zpow_iff_log_lt one_lt_two hpos, Nat.cast_ofNat,
      add_right_comm, zpow_add₀ two_ne_zero]
    gcongr
    exact_mod_cast hhigh
  · rw [← Int.zpow_le_iff_le_log one_lt_two hpos, Nat.cast_ofNat, zpow_add₀ two_ne_zero]
    gcongr
    exact_mod_cast hlow

theorem lastBit_mul_zpow : lastBit (x * 2 ^ e) = 2 ^ (e + k) := by
  rw [lastBit_eq, log_mul_zpow hq hqx hxq]
  congr 1
  ring

end

/-- A mantissa of 53 bits or more loses those behind the first 53. -/
theorem shiftToTargetExponent_eq {q k : ℕ} (hq : q.log2 = 52 + k) {e : ℤ} (he : -1074 ≤ e + k)
    (a : Accuracy) :
    shiftToTargetExponent .binary64 q e a
      = (ExtendedMantissa.ofMantissaAndAccuracy q a >>> k, e + k) := by
  have htarget : Format.binary64.targetExponent (totalExponent q e) = e + k := by
    simp only [Format.targetExponent, totalExponent, Format.mantissaBits, Format.minExponent]
    norm_num
    omega
  rw [shiftToTargetExponent, htarget, shiftToExponent, add_sub_cancel_left, Int.toNat_natCast]

/-- A mantissa of 53 bits or more is rounded to the nearest number, however large that is. -/
theorem roundWithAccuracy_eq_finite (s : Sign) {q : ℕ} {a : Accuracy} {x : ℝ} {e : ℤ}
    (h : Truncates (.ofMantissaAndAccuracy q a) x) (hq : 2 ^ 52 ≤ q) (hpos : 0 < x * 2 ^ e)
    (hsmall : -1022 ≤ Int.log 2 (x * 2 ^ e)) :
    ∃ m f hm, roundWithAccuracy .binary64 s q e a = .finite s m f hm ∧ 2 ^ 52 ≤ m ∧ m < 2 ^ 53 ∧
      -1074 ≤ f ∧ f ≤ Int.log 2 (x * 2 ^ e) - 51 ∧ nearest (x * 2 ^ e) = m * 2 ^ f := by
  have hfloor : ⌊x⌋ = (q : ℤ) := by rw [h.floor_eq, mantissa_ofMantissaAndAccuracy]
  obtain ⟨hqx, hxq⟩ := Int.floor_eq_iff.mp hfloor
  obtain ⟨k, hk⟩ : ∃ k, q.log2 = 52 + k :=
    Nat.exists_eq_add_of_le ((Nat.le_log2 (by omega)).mpr hq)
  have hlog := log_mul_zpow hk hqx hxq e
  rw [hlog] at hsmall ⊢
  have hbit := lastBit_mul_zpow hk hqx hxq e
  have hshift := shiftToTargetExponent_eq hk (by omega : -1074 ≤ e + k) a
  have hunits : x * 2 ^ e / lastBit (x * 2 ^ e) = x / 2 ^ k := by
    rw [hbit, zpow_add₀ two_ne_zero, zpow_natCast]
    field_simp
  obtain ⟨hlow, hhigh⟩ := roundEven_mantissa_bounds hpos
  -- in units of the last bit, the residual bits round the mantissa as the number behind it is rounded
  rw [nearest]
  rw [hunits, ← (h.shiftRight k).roundedMantissa_eq] at hlow hhigh ⊢
  rw [hbit]
  generalize hround : (ExtendedMantissa.ofMantissaAndAccuracy q a >>> k).roundedMantissa = m
    at hlow hhigh ⊢
  have hlow' : 2 ^ 52 ≤ m := by exact_mod_cast hlow
  have hhigh' : m ≤ 2 ^ 53 := by exact_mod_cast hhigh
  rcases hhigh'.lt_or_eq with hm | rfl
  · have hfits : Fits m (e + k) := ⟨by omega, hm, Or.inl hlow'⟩
    have hsecond := shiftToTargetExponent_self hfits (by omega)
    rw [← hround] at hsecond
    refine ⟨m, e + k, by omega, roundWithAccuracy_of_shifts _ hshift ?_, hlow', hm, by omega, by omega,
      by norm_cast⟩
    rw [hsecond, hround]
  · -- the mantissa was rounded up to the next power of two
    have hfits : Fits (2 ^ 52) (e + k + 1) := ⟨by omega, by norm_num, Or.inl le_rfl⟩
    have hsecond := shiftToTargetExponent_double hfits (by norm_num)
    rw [add_sub_cancel_right, ← pow_succ', ← hround] at hsecond
    refine ⟨2 ^ 52, e + k + 1, by norm_num, roundWithAccuracy_of_shifts _ hshift hsecond, le_rfl,
      by norm_num, by omega, by omega, ?_⟩
    rw [zpow_add₀ two_ne_zero (e + k) 1]
    push_cast
    ring

/-- Where the nearest number is neither tiny nor huge, a float stores it. -/
theorem roundWithAccuracy_eq_nearest {q : ℕ} {a : Accuracy} {x : ℝ} {e : ℤ}
    (h : Truncates (.ofMantissaAndAccuracy q a) x) (hq : 2 ^ 52 ≤ q) (hrange : InRange (x * 2 ^ e)) :
    ∃ m f hm, roundWithAccuracy .binary64 .positive q e a = .finite .positive m f hm ∧ Full m f ∧
      nearest (x * 2 ^ e) = m * 2 ^ f := by
  obtain ⟨hpos, hsmall, hlarge⟩ := hrange
  obtain ⟨m, f, hm, hround, hlow, hhigh, hleast, hmost, hvalue⟩ :=
    roundWithAccuracy_eq_finite .positive h hq hpos (by omega)
  exact ⟨m, f, hm, hround, ⟨hlow, hhigh, hleast, by omega⟩, hvalue⟩

end TrafficMap.Binary64
