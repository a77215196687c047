import Mathlib
import TrafficMap.Number.Decimal
import TrafficMap.Proofs.Number.Nearest

/-!
# Floats and the numbers behind them

A float `Denotes` the real number of its mantissa and exponent. Products and quotients of floats, and natural
numbers converted to them, denote the exact results rounded to 53 bits. The decimal places that are written
are those of the number that is denoted, so the places of a quotient grow with the number that is divided
(`scaled_quotient_mono`).
-/

namespace TrafficMap.Binary64

open Float.Model Float.Model.UnpackedFloat
open Exact (roundEven roundEven_mono roundEven_natCast)

/-! ## Packed numbers -/

section

variable {s : Sign} {m b : ℕ} (hm : 0 < m) (h : Full m (b - 1075))

include h

/-- The fields in which a number with a full mantissa is packed. -/
theorem pack_finite : UnpackedFloat.pack .binary64 (.finite s m (b - 1075) hm)
    = packComponents .binary64 s (BitVec.ofNat 11 b) (BitVec.ofNat 52 m) := by
  obtain ⟨hlow, hhigh, hsmall, hlarge⟩ := h
  have hlog : m.log2 = 52 := (Nat.log2_eq_iff hm.ne').mpr ⟨hlow, hhigh⟩
  have hexponent : ((b : ℤ) - 1075 + Format.binary64.exponentBias + (52 : ℕ)).toNat = b := by
    have hbias : Format.binary64.exponentBias = 1023 := rfl
    omega
  have hbits : 52 + 1 = Format.binary64.mantissaBits := rfl
  simp only [UnpackedFloat.pack, hlog, hexponent]
  rw [if_neg (by omega), if_pos hbits]

/-- The values of these fields: the exponent is neither the least nor the largest one. -/
theorem toNat_fields : (BitVec.ofNat 11 b).toNat = b ∧ 0 < b ∧ b < 2047 ∧
    (BitVec.ofNat 52 m).toNat = m - 2 ^ 52 := by
  obtain ⟨hlow, hhigh, hsmall, hlarge⟩ := h
  simp only [BitVec.toNat_ofNat]
  omega

theorem unpack_pack_biased : (Float.Model.pack (.finite s m (b - 1075) hm)).unpack
    = .finite s m (b - 1075) hm := by
  obtain ⟨hexponent, hfirst, hlast, hmantissa⟩ := toNat_fields h
  have hlast' : BitVec.ofNat 11 b ≠ -1#_ := by
    rw [← BitVec.toNat_inj.ne, hexponent]
    simp
    omega
  have hfirst' : BitVec.ofNat 11 b ≠ 0#_ := by
    rw [← BitVec.toNat_inj.ne, hexponent]
    simp
    omega
  simp only [Float.Model.unpack, Float.Model.pack, pack_finite hm h, UnpackedFloat.unpack,
    unpackMantissa_packComponents, unpackExponent_packComponents, unpackSign_packComponents]
  rw [if_neg hlast', if_neg hfirst', UnpackedFloat.finite.injEq]
  refine ⟨Sign.ofBitVec_toBitVec s, ?_, ?_⟩
  · rw [toNat_implicit, hmantissa, Nat.add_sub_cancel' h.le_mantissa]
  · rw [hexponent]
    rfl

end

/-- The exponent of a full mantissa as it is stored. -/
theorem Full.exists_biased {m : ℕ} {e : ℤ} (h : Full m e) : ∃ b : ℕ, e = b - 1075 :=
  ⟨(e + 1075).toNat, by have := h.le_exponent; omega⟩

theorem unpack_pack {m : ℕ} {e : ℤ} (h : Full m e) (s : Sign) (hm : 0 < m) :
    (Float.Model.pack (.finite s m e hm)).unpack = .finite s m e hm := by
  obtain ⟨b, rfl⟩ := h.exists_biased
  exact unpack_pack_biased hm h

section

variable {x : Float} {m : ℕ} {e : ℤ} {hm : 0 < m} (hx : x.toModel.unpack = .finite .positive m e hm)
  (h : Full m e)

include hx h

/-- The bit pattern of a positive float. -/
theorem toNat_toBits : x.toBits.toNat = (e + 1075).toNat * 2 ^ 52 + (m - 2 ^ 52) := by
  obtain ⟨b, rfl⟩ := h.exists_biased
  obtain ⟨hexponent, -, -, hmantissa⟩ := toNat_fields h
  have hmodel : x.toModel = .pack (.finite .positive m (b - 1075) hm) := by
    rw [← hx, Binary64.pack_unpack]
  have hbits : x.toBits.toNat
      = (packComponents .binary64 .positive (BitVec.ofNat 11 b) (BitVec.ofNat 52 m)).toNat := by
    have htoBits : x.toBits = x.toModel.toBits := rfl
    rw [htoBits, hmodel, ← pack_finite hm h]
    rfl
  have hsign : (Sign.positive.toBitVec ++ BitVec.ofNat 11 b).toNat = b := by
    rw [BitVec.toNat_append, hexponent]
    exact Nat.zero_or b
  rw [hbits, packComponents, BitVec.toNat_append, ← Nat.shiftLeft_add_eq_or_of_lt (BitVec.isLt _), hsign,
    hmantissa, Int.sub_add_cancel, Int.toNat_natCast, Nat.shiftLeft_eq]

/-- The parts that are read off the bits are those that were packed. -/
theorem parts_eq : parts x = ⟨false, m, e⟩ := by
  have hbits := toNat_toBits hx h
  obtain ⟨b, rfl⟩ := h.exists_biased
  obtain ⟨hlow, hhigh, hsmall, hlarge⟩ := h
  rw [Int.sub_add_cancel, Int.toNat_natCast] at hbits
  have hfraction : x.toBits.toNat % 2 ^ 52 = m - 2 ^ 52 := by omega
  have hstored : x.toBits.toNat / 2 ^ 52 % 2 ^ 11 = b := by omega
  have hsign : (x.toBits.toNat / 2 ^ 63 == 1) = false := by
    rw [beq_eq_false_iff_ne]
    omega
  unfold parts
  simp only [Nat.pow_eq, hfraction, hstored, hsign]
  rw [if_neg (by omega), if_neg (by omega), Nat.sub_add_cancel hlow]

theorem isNegative_eq : Scalar.isNegative x = false := by
  have hbits := toNat_toBits hx h
  obtain ⟨hlow, hhigh, hsmall, hlarge⟩ := h
  have hnegative : Scalar.isNegative x = (x.toBits >>> 63 == 1) := rfl
  have hshift : (x.toBits >>> 63).toNat = 0 := by
    have hplace : (63 : UInt64).toNat % 64 = 63 := rfl
    rw [UInt64.toNat_shiftRight, hplace, Nat.shiftRight_eq_div_pow]
    omega
  rw [hnegative, beq_eq_false_iff_ne]
  intro hone
  rw [hone] at hshift
  cases hshift

end

/-! ## Floats that denote numbers -/

/-- A positive float with a full mantissa stands for a real number. -/
inductive Denotes (x : Float) : ℝ → Prop
  | intro (m : ℕ) (e : ℤ) (hm : 0 < m) (unpack : x.toModel.unpack = .finite .positive m e hm)
      (full : Full m e) : Denotes x (m * 2 ^ e)

/-- A float whose parts were rounded denotes the nearest number. -/
theorem denotes_of_round {x : Float} {q : ℕ} {a : Accuracy} {r : ℝ} {e : ℤ}
    (hx : x.toModel = .pack (roundWithAccuracy .binary64 .positive q e a))
    (h : Truncates (.ofMantissaAndAccuracy q a) r) (hq : 2 ^ 52 ≤ q) (hrange : InRange (r * 2 ^ e)) :
    Denotes x (nearest (r * 2 ^ e)) := by
  obtain ⟨m, f, hm, hround, hfull, hvalue⟩ := roundWithAccuracy_eq_nearest h hq hrange
  rw [hvalue]
  exact ⟨m, f, hm, by rw [hx, hround, unpack_pack hfull], hfull⟩

theorem denotes_one : Denotes 1.0 1 := by
  have hvalue : (1 : ℝ) = (2 ^ 52 : ℕ) * 2 ^ (-52 : ℤ) := by norm_num
  rw [hvalue]
  exact ⟨2 ^ 52, -52, by decide, rfl, ⟨le_rfl, by norm_num, by norm_num, by norm_num⟩⟩

section

variable {m n : ℕ} {e f : ℤ} (h : Full m e) (h' : Full n f)

include h h'

/-- The exponents of a quotient that is not tiny. -/
theorem exponent_of_inRange (hrange : InRange ((m : ℝ) * 2 ^ e / (n * 2 ^ f))) : -1000 ≤ e - f := by
  obtain ⟨hlow, hhigh, -, -⟩ := h
  obtain ⟨hlow', hhigh', -, -⟩ := h'
  have hn : (0 : ℝ) < n := by exact_mod_cast (by omega : 0 < n)
  have hmn : (m : ℝ) < 2 * n := by exact_mod_cast (by omega : m < 2 * n)
  have hunits : (2 : ℝ) ^ (e - f + 1) * (n * 2 ^ f) = 2 * n * 2 ^ e := by
    rw [zpow_add₀ two_ne_zero, zpow_sub₀ two_ne_zero]
    field_simp
  have hlog : Int.log 2 ((m : ℝ) * 2 ^ e / (n * 2 ^ f)) < e - f + 1 := by
    rw [← Int.lt_zpow_iff_log_lt one_lt_two hrange.pos, Nat.cast_ofNat, div_lt_iff₀ (by positivity),
      hunits]
    gcongr
  have hsmall := hrange.le_log
  omega

/-- The quotient of two full mantissas is taken with 53 more bits. -/
theorem divCore_eq (hexponent : -1000 ≤ e - f) :
    divCore .binary64 m e n f
      = (m * 2 ^ 53 / n, e - f - 53, accuracyOfFraction (m * 2 ^ 53 % n) n) := by
  obtain ⟨hlow, hhigh, -, -⟩ := h
  obtain ⟨hlow', hhigh', -, -⟩ := h'
  have hlog : m.log2 = 52 := (Nat.log2_eq_iff (by omega)).mpr ⟨hlow, hhigh⟩
  have hlog' : n.log2 = 52 := (Nat.log2_eq_iff (by omega)).mpr ⟨hlow', hhigh'⟩
  have htarget : min (e - f) (Format.binary64.targetExponent (totalExponent m e - totalExponent n f))
      = e - f - 53 := by
    simp only [Format.targetExponent, totalExponent, Format.mantissaBits, Format.minExponent, hlog, hlog']
    norm_num
    omega
  rw [divCore, htarget, show (e - f - (e - f - 53)).toNat = 53 by omega, Nat.shiftLeft_eq]

end

namespace Denotes

variable {x y : Float} {a b : ℝ}

theorem pos (h : Denotes x a) : 0 < a := by
  obtain ⟨m, e, hm, -, -⟩ := h
  positivity

theorem nearest_eq (h : Denotes x a) : nearest a = a := by
  obtain ⟨m, e, -, -, hfull⟩ := h
  exact Binary64.nearest_eq hfull.le_mantissa hfull.mantissa_lt e

/-- A product is the exact product rounded. -/
theorem mul (hx : Denotes x a) (hy : Denotes y b) (hrange : InRange (a * b)) :
    Denotes (x * y) (nearest (a * b)) := by
  obtain ⟨m, e, hm, hmx, hfull⟩ := hx
  obtain ⟨n, f, hn, hny, -⟩ := hy
  have hproduct : (m : ℝ) * 2 ^ e * (n * 2 ^ f) = (m * n : ℕ) * 2 ^ (e + f) := by
    rw [zpow_add₀ two_ne_zero]
    push_cast
    ring
  have hmodel : (x * y).toModel
      = .pack (UnpackedFloat.mul .binary64 x.toModel.unpack y.toModel.unpack) := rfl
  rw [hmx, hny] at hmodel
  rw [hproduct] at hrange ⊢
  exact denotes_of_round hmodel rfl (hfull.le_mantissa.trans (Nat.le_mul_of_pos_right m hn)) hrange

/-- A quotient is the exact quotient rounded. -/
theorem div (hx : Denotes x a) (hy : Denotes y b) (hrange : InRange (a / b)) :
    Denotes (x / y) (nearest (a / b)) := by
  obtain ⟨m, e, hm, hmx, hfull⟩ := hx
  obtain ⟨n, f, hn, hny, hfull'⟩ := hy
  have hn' : (n : ℝ) ≠ 0 := by exact_mod_cast hn.ne'
  have hquotient : (m : ℝ) * 2 ^ e / (n * 2 ^ f) = (m * 2 ^ 53 : ℕ) / n * 2 ^ (e - f - 53) := by
    rw [zpow_sub₀ two_ne_zero, zpow_sub₀ two_ne_zero]
    push_cast
    field_simp
    norm_num
  have hcore := divCore_eq hfull hfull' (exponent_of_inRange hfull hfull' hrange)
  have hmodel : (x / y).toModel
      = .pack (UnpackedFloat.div .binary64 x.toModel.unpack y.toModel.unpack) := rfl
  rw [hmx, hny] at hmodel
  simp only [UnpackedFloat.div, hcore] at hmodel
  rw [hquotient] at hrange ⊢
  refine denotes_of_round hmodel (truncates_quotient _ hn) ?_ hrange
  rw [Nat.le_div_iff_mul_le hn]
  calc 2 ^ 52 * n ≤ 2 ^ 52 * 2 ^ 53 := Nat.mul_le_mul_left _ hfull'.mantissa_lt.le
    _ ≤ m * 2 ^ 53 := Nat.mul_le_mul_right _ hfull.le_mantissa

end Denotes

/-! ## Natural numbers -/

/-- Rounding a natural number that was shifted to the left. -/
theorem denotes_of_shifted {x : Float} {n k : ℕ} (hrange : InRange n) (hfull : 2 ^ 52 ≤ n * 2 ^ k)
    (hx : x.toModel = .pack (roundWithAccuracy .binary64 .positive (n * 2 ^ k) (-k) .exact)) :
    Denotes x (nearest n) := by
  have hvalue : (n : ℝ) = (n * 2 ^ k : ℕ) * 2 ^ (-k : ℤ) := by
    rw [zpow_neg, zpow_natCast]
    push_cast
    field_simp
  rw [hvalue] at hrange ⊢
  exact denotes_of_round hx rfl hfull hrange

theorem denotes_of_ofNat {x : Float} {n : ℕ} (hn : 0 < n) (hrange : InRange n)
    (hx : x.toModel = .pack (UnpackedFloat.ofNat .binary64 n)) : Denotes x (nearest n) := by
  have htarget : Format.binary64.targetExponent (totalExponent n 0) = n.log2 - 52 := by
    simp only [Format.targetExponent, totalExponent, Format.mantissaBits, Format.minExponent]
    norm_num
    omega
  obtain ⟨k, hk⟩ : ∃ k, k = (0 - ((n.log2 : ℤ) - 52)).toNat := ⟨_, rfl⟩
  have hround : UnpackedFloat.ofNat .binary64 n
      = roundWithAccuracy .binary64 .positive (n * 2 ^ k) (-k) .exact := by
    unfold UnpackedFloat.ofNat UnpackedFloat.ofInt UnpackedFloat.normalize
    rw [Int.compare_eq_gt.mpr (by omega)]
    simp only [Int.toNat_natCast, UnpackedFloat.round, decreaseExponent, htarget, ← hk, Nat.shiftLeft_eq]
    rw [zero_sub]
  have hfull : 2 ^ 52 ≤ n * 2 ^ k :=
    calc 2 ^ 52 ≤ 2 ^ (n.log2 + k) := Nat.pow_le_pow_right two_pos (by omega)
      _ = 2 ^ n.log2 * 2 ^ k := pow_add ..
      _ ≤ n * 2 ^ k := Nat.mul_le_mul_right _ (Nat.log2_self_le hn.ne')
  exact denotes_of_shifted hrange hfull (hx.trans (congrArg Float.Model.pack hround))

/-- A number that fits is converted without rounding, and then multiplied by one. -/
theorem ofNat_of_lt {n : ℕ} (h : n < 2 ^ 53) : Float.ofNat n = n.toUInt64.toFloat * 1.0 := by
  have hfloat : Float.ofNat n = Float.ofScientific n false 0 := rfl
  rw [hfloat, Float.ofScientific, dif_pos ⟨h, by omega⟩]
  rfl

/-- A larger number is multiplied by one with 53 more bits. -/
theorem toModel_ofNat {n : ℕ} (h : 2 ^ 53 ≤ n) (hlt : n < 2 ^ 64) :
    (Float.ofNat n).toModel
      = .pack (roundWithAccuracy .binary64 .positive (n * 2 ^ 53) (-(53 : ℕ)) .exact) := by
  have hfloat : Float.ofNat n = Float.ofScientific n false 0 := rfl
  have hmodel : (Float.ofNat n).toModel = .pack (UnpackedFloat.ofScientific .binary64 n 0) := by
    rw [hfloat, Float.ofScientific, dif_neg (by omega)]
    rfl
  have hbits : Format.binary64.exponentBits = 11 := rfl
  have hwidth : Format.binary64.mantissaBits = 53 := rfl
  rw [hmodel]
  unfold UnpackedFloat.ofScientific
  rw [dif_neg (by omega), if_neg (by norm_num), if_neg (by rw [hbits]; omega), if_pos le_rfl]
  simp only [UnpackedFloat.mul, hwidth, Nat.shiftLeft_eq, Int.toNat_zero, pow_zero, mul_one]
  rfl

/-- A natural number is converted to the nearest float. -/
theorem denotes_ofNat {n : ℕ} (hn : 0 < n) (hlt : n < 2 ^ 64) : Denotes (Float.ofNat n) (nearest n) := by
  have hlow : (1 : ℝ) ≤ n := by exact_mod_cast hn
  have hhigh : (n : ℝ) ≤ 2 ^ 64 := by exact_mod_cast hlt.le
  have hrange := inRange_of_bounds hlow hhigh
  rcases lt_or_ge n (2 ^ 53) with hsmall | hlarge
  · have hconvert : Denotes n.toUInt64.toFloat (nearest n) := by
      refine denotes_of_ofNat hn hrange ?_
      have hmodel : n.toUInt64.toFloat.toModel
          = .pack (UnpackedFloat.ofNat .binary64 n.toUInt64.toNat) := rfl
      rw [hmodel, Nat.toUInt64_eq, UInt64.toNat_ofNat_of_lt' hlt]
    obtain ⟨hlow', hhigh'⟩ := nearest_bounds hlow hhigh
    -- a nearest number is not rounded once more
    have hone := hconvert.mul denotes_one (by rw [mul_one]; exact inRange_of_bounds hlow' hhigh')
    rwa [mul_one, hconvert.nearest_eq, ← ofNat_of_lt hsmall] at hone
  · exact denotes_of_shifted hrange (by omega) (toModel_ofNat hlarge hlt)

/-! ## Whole parts -/

namespace Denotes

variable {x : Float} {r : ℝ}

theorem isNaN_eq (h : Denotes x r) : Scalar.isNaN x = false := by
  obtain ⟨m, e, hm, hx, -⟩ := h
  have hparts : Scalar.isNaN x = x.toModel.unpack.isNaN := rfl
  rw [hparts, hx]
  rfl

theorem isFinite_eq (h : Denotes x r) : Scalar.isFinite x = true := by
  obtain ⟨m, e, hm, hx, -⟩ := h
  have hparts : Scalar.isFinite x = x.toModel.unpack.isFinite := rfl
  rw [hparts, hx]
  rfl

/-- The whole part of a float is that of the number that it denotes. -/
theorem truncate (h : Denotes x r) : Scalar.truncate x = ⌊r⌋ := by
  obtain ⟨m, e, hm, hx, hfull⟩ := h
  have htruncate : Scalar.truncate x = Binary64.truncate x := rfl
  rw [htruncate, Binary64.truncate, parts_eq hx hfull]
  simp only [signed, Bool.false_eq_true, if_false, Nat.pow_eq]
  split_ifs with hneg
  · obtain ⟨k, rfl⟩ : ∃ k : ℕ, e = -k := ⟨e.natAbs, by omega⟩
    have hvalue : (m : ℝ) * 2 ^ (-k : ℤ) = m / (2 ^ k : ℕ) := by
      rw [zpow_neg, zpow_natCast]
      push_cast
      rfl
    rw [hvalue, Int.natAbs_neg, Int.natAbs_natCast, (truncates_quotient m (by positivity)).floor_eq,
      mantissa_ofMantissaAndAccuracy]
  · obtain ⟨k, rfl⟩ : ∃ k : ℕ, e = k := ⟨e.natAbs, by omega⟩
    have hvalue : (m : ℝ) * 2 ^ (k : ℤ) = (m * 2 ^ k : ℕ) := by
      rw [zpow_natCast]
      push_cast
      rfl
    rw [hvalue, Int.natAbs_natCast, Int.floor_natCast]

end Denotes

/-! ## Decimal places -/

/-- A quotient of natural numbers is rounded to the nearest one, a half going to the even one. -/
theorem divEven_eq (n : ℕ) {d : ℕ} (hd : 0 < d) : (divEven n d : ℤ) = roundEven (n / d) := by
  rw [← (truncates_quotient n hd).roundedMantissa_eq, divEven, accuracyOfFraction]
  by_cases hzero : n % d = 0
  · rw [if_pos hzero, if_pos (by omega)]
    rfl
  · rw [if_neg hzero]
    rcases lt_trichotomy (2 * (n % d)) d with hhalf | hhalf | hhalf
    · rw [if_pos hhalf, Nat.compare_eq_lt.mpr hhalf]
      rfl
    · rw [if_neg (by omega), if_neg (by omega), Nat.compare_eq_eq.mpr hhalf]
      rfl
    · rw [if_neg (by omega), if_pos hhalf, Nat.compare_eq_gt.mpr hhalf]
      rfl

namespace Denotes

variable {x : Float} {r : ℝ} (h : Denotes x r) (places : ℕ)

include h

/-- The decimal places of a float are those of the number that it denotes, rounded. -/
theorem scaled : Scalar.scaled places x = roundEven (r * 10 ^ places) := by
  obtain ⟨m, e, hm, hx, hfull⟩ := h
  have hscaled : Scalar.scaled places x = Binary64.scaled places x := rfl
  rw [hscaled, Binary64.scaled, parts_eq hx hfull]
  simp only [signed, Bool.false_eq_true, if_false]
  obtain ⟨k, rfl | rfl⟩ := e.eq_nat_or_neg
  · have hvalue : (m : ℝ) * 2 ^ (k : ℤ) * 10 ^ places = (m * 10 ^ places * 2 ^ k : ℕ) := by
      rw [zpow_natCast]
      push_cast
      ring
    rw [if_neg (by omega), Int.natAbs_natCast, hvalue, roundEven_natCast]
    rfl
  · have hvalue : (m : ℝ) * 2 ^ (-k : ℤ) * 10 ^ places = (m * 10 ^ places : ℕ) / (2 ^ k : ℕ) := by
      rw [zpow_neg, zpow_natCast]
      push_cast
      ring
    rw [hvalue, ← divEven_eq _ (by positivity), Int.natAbs_neg, Int.natAbs_natCast]
    split_ifs with hneg
    · rfl
    · obtain rfl : k = 0 := by omega
      simp [divEven, Nat.mod_one]

theorem toList_fixed :
    (Decimal.fixed places x).toList = Decimal.point places (Scalar.scaled places x).natAbs := by
  have hnan := h.isNaN_eq
  have hfinite := h.isFinite_eq
  obtain ⟨m, e, hm, hx, hfull⟩ := h
  simp only [Decimal.fixed, hnan, hfinite, isNegative_eq hx hfull, Bool.false_eq_true, if_false, if_true,
    String.empty_append, String.toList_ofList]

end Denotes

section

variable {size n : ℕ} (hsize : 0 < size) (hn : size ≤ n)

include hsize hn

/-- The quotient of two numbers, each rounded when it is converted. -/
theorem nearest_div_bounds (hlt : n < 2 ^ 64) :
    1 ≤ nearest n / nearest size ∧ nearest n / nearest size ≤ 2 ^ 64 := by
  have hsize' : (1 : ℝ) ≤ size := by exact_mod_cast hsize
  have hn' : (size : ℝ) ≤ n := by exact_mod_cast hn
  have hhigh : (n : ℝ) ≤ 2 ^ 64 := by exact_mod_cast hlt.le
  obtain ⟨hone, -⟩ := nearest_bounds hsize' (hn'.trans hhigh)
  obtain ⟨-, hlimit⟩ := nearest_bounds (hsize'.trans hn') hhigh
  have hmono := nearest_mono (one_pos.trans_le hsize') hn'
  constructor
  · rwa [le_div_iff₀ (one_pos.trans_le hone), one_mul]
  · exact (div_le_self ((zero_le_one.trans hone).trans hmono) hone).trans hlimit

theorem denotes_quotient (hlt : n < 2 ^ 64) :
    Denotes (Float.ofNat n / Float.ofNat size) (nearest (nearest n / nearest size)) := by
  obtain ⟨hlow, hhigh⟩ := nearest_div_bounds hsize hn hlt
  exact (denotes_ofNat (hsize.trans_le hn) hlt).div (denotes_ofNat hsize (hn.trans_lt hlt))
    (inRange_of_bounds hlow hhigh)

/-- The decimal places of a quotient grow with the number that is divided. -/
theorem scaled_quotient_mono {n' : ℕ} (h : n ≤ n') (hlt : n' < 2 ^ 64) (places : ℕ) :
    Scalar.scaled places (Float.ofNat n / Float.ofNat size)
      ≤ Scalar.scaled places (Float.ofNat n' / Float.ofNat size) := by
  have hlt' := h.trans_lt hlt
  have hpos : (0 : ℝ) < n := by exact_mod_cast hsize.trans_le hn
  have hpos' := (denotes_ofNat hsize (hn.trans_lt hlt')).pos
  obtain ⟨hone, -⟩ := nearest_div_bounds hsize hn hlt'
  have hmono : nearest n ≤ nearest n' := nearest_mono hpos (by exact_mod_cast h)
  have hquotient := nearest_mono (one_pos.trans_le hone) (div_le_div_of_nonneg_right hmono hpos'.le)
  rw [(denotes_quotient hsize hn hlt').scaled, (denotes_quotient hsize (hn.trans h) hlt).scaled]
  exact roundEven_mono (by gcongr)

end

end TrafficMap.Binary64
