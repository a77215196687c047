import Mathlib
import TrafficMap.Proofs.Number.Largest
import TrafficMap.Proofs.Number.Rounding

/-!
# The exact values of floats

Every float has an exact value (`exact`): a real number, an infinity, or none; both zeros have the value
zero. Packing keeps all parts that a bit pattern can hold (`Stored`), down to the numbers whose mantissa is
not full, and it makes an infinity of a number with a larger exponent. Floats compare as their values do
(`exact_lt`, `exact_le`): a mantissa is full unless the exponent is the least one, so the exponents decide
before the mantissas do.
-/

namespace TrafficMap.Binary64

open Float.Model Float.Model.UnpackedFloat

/-! ## Values -/

/-- The value of the parts of a float. -/
noncomputable def partsValue : UnpackedFloat → Exact
  | .notANumber => .undefined
  | .infinity s => .infinite (s == .negative)
  | .zero _ => .number 0
  | .finite s m e _ => .number (s.apply m * ((2 : ℕ) : ℝ) ^ e)

theorem partsValue_finite (s : Sign) (m : ℕ) (e : ℤ) (hm : 0 < m) :
    partsValue (.finite s m e hm) = .number (s.apply m * 2 ^ e) := by
  rw [partsValue, Nat.cast_ofNat]

/-- A value is zero or that of a sign, a mantissa and an exponent. -/
theorem parts_of_value {a : UnpackedFloat} {v : ℝ} (h : partsValue a = .number v) :
    v = 0 ∨ ∃ s m e hm, a = .finite s m e hm ∧ v = s.apply m * 2 ^ e := by
  cases a with
  | notANumber => cases h
  | infinity s => cases h
  | zero s => exact Or.inl (Exact.number.inj h).symm
  | finite s m e hm =>
    rw [partsValue_finite] at h
    exact Or.inr ⟨s, m, e, hm, rfl, (Exact.number.inj h).symm⟩

/-- The value of a float. -/
noncomputable def exact (x : Float) : Exact :=
  partsValue x.toModel.unpack

@[simp] theorem isFinite_exact (x : Float) : Scalar.isFinite (exact x) = Scalar.isFinite x := by
  have hparts : Scalar.isFinite x = x.toModel.unpack.isFinite := rfl
  rw [hparts, exact]
  cases x.toModel.unpack <;> rfl

@[simp] theorem isNaN_exact (x : Float) : Scalar.isNaN (exact x) = Scalar.isNaN x := by
  have hparts : Scalar.isNaN x = x.toModel.unpack.isNaN := rfl
  rw [hparts, exact]
  cases x.toModel.unpack <;> rfl

/-- A float is finite when its value is a number. -/
theorem isFinite_iff {x : Float} : Scalar.isFinite x = true ↔ ∃ v, exact x = .number v := by
  rw [← isFinite_exact, Exact.isFinite_iff]

/-! ## Packing -/

theorem unpack_pack_infinity (s : Sign) : (Float.Model.pack (.infinity s)).unpack = .infinity s := by
  simp only [Float.Model.unpack, Float.Model.pack]
  cases s <;> rfl

section

variable {s : Sign} {m : ℕ} {e : ℤ} (hm : 0 < m)

/-- The parts of a number below the normal ones are kept. -/
theorem unpack_pack_subnormal (hlt : m < 2 ^ 52) :
    (Float.Model.pack (.finite s m (-1074) hm)).unpack = .finite s m (-1074) hm := by
  have hlog : m.log2 < 52 := (Nat.log2_lt hm.ne').mpr hlt
  have hbits : m.log2 + 1 ≠ Format.binary64.mantissaBits := by
    have hwidth : Format.binary64.mantissaBits = 53 := rfl
    omega
  have hmantissa : (BitVec.ofNat 52 m).toNat = m := by
    rw [BitVec.toNat_ofNat, Nat.mod_eq_of_lt hlt]
  have hnonzero : BitVec.ofNat 52 m ≠ 0#_ := by
    rw [← BitVec.toNat_inj.ne, hmantissa]
    exact hm.ne'
  have hpack : UnpackedFloat.pack .binary64 (.finite s m (-1074) hm)
      = packComponents .binary64 s 0#11 (BitVec.ofNat 52 m) := by
    simp only [UnpackedFloat.pack]
    rw [if_neg (by decide), if_neg hbits]
  simp only [Float.Model.unpack, Float.Model.pack, hpack, UnpackedFloat.unpack,
    unpackMantissa_packComponents, unpackExponent_packComponents, unpackSign_packComponents]
  rw [if_neg (by decide), if_pos trivial, dif_neg hnonzero, UnpackedFloat.finite.injEq]
  exact ⟨Sign.ofBitVec_toBitVec s, hmantissa, rfl⟩

/-- Packing keeps the parts of a number with an exponent that is not too large. -/
theorem unpack_pack_of_le (h : Fits m e) (hle : e ≤ 971) :
    (Float.Model.pack (.finite s m e hm)).unpack = .finite s m e hm := by
  obtain ⟨he, hlt, hfull⟩ := h
  by_cases hnormal : 2 ^ 52 ≤ m
  · exact unpack_pack ⟨hnormal, hlt, he, hle⟩ s hm
  · obtain rfl := hfull.resolve_left hnormal
    exact unpack_pack_subnormal hm (not_le.mp hnormal)

/-- Packing makes an infinity of a number with a larger exponent. -/
theorem unpack_pack_of_lt (hlt : 971 < e) :
    (Float.Model.pack (.finite s m e hm)).unpack = .infinity s := by
  have hpack : UnpackedFloat.pack .binary64 (.finite s m e hm)
      = UnpackedFloat.pack .binary64 (.infinity s) := by
    have hbias : Format.binary64.exponentBias = 1023 := rfl
    simp only [UnpackedFloat.pack]
    rw [if_pos (by omega)]
  rw [← unpack_pack_infinity]
  simp only [Float.Model.unpack, Float.Model.pack, hpack]

end

/-- No number has an exponent above the largest one. -/
theorem exponent_le_of_unpack {x : Float.Model} {s : Sign} {m : ℕ} {e : ℤ} {hm : 0 < m}
    (hx : x.unpack = .finite s m e hm) : e ≤ 971 := by
  by_contra hlt
  have hinfinite := unpack_pack_of_lt (s := s) hm (not_le.mp hlt)
  rw [← hx, pack_unpack, hx] at hinfinite
  cases hinfinite

/-- Parts that a bit pattern can hold: the mantissa of a number fits its exponent, and that one is not too
large. -/
def Stored : UnpackedFloat → Prop
  | .finite _ m e _ => Fits m e ∧ e ≤ 971
  | _ => True

/-- Whatever is unpacked was stored. -/
theorem stored_unpack (x : Float.Model) : Stored x.unpack := by
  cases hx : x.unpack with
  | finite s m e hm => exact ⟨fits_of_unpack hx, exponent_le_of_unpack hx⟩
  | _ => trivial

/-- Packing keeps such parts. -/
theorem Stored.unpack_pack {a : UnpackedFloat} (h : Stored a) : (Float.Model.pack a).unpack = a := by
  cases a with
  | finite s m e hm =>
    obtain ⟨hfits, hle⟩ := h
    exact unpack_pack_of_le hm hfits hle
  | notANumber =>
    simp only [Float.Model.unpack, Float.Model.pack]
    rfl
  | infinity s => exact unpack_pack_infinity s
  | zero s =>
    simp only [Float.Model.unpack, Float.Model.pack]
    cases s <;> rfl

/-! ## Order -/

section

variable {m n : ℕ} {e f : ℤ} (h : Fits m e) (h' : Fits n f)

include h h'

/-- A smaller exponent makes a smaller number. -/
theorem magnitude_lt_of_exponent (hlt : e < f) : (m : ℝ) * 2 ^ e < n * 2 ^ f := by
  obtain ⟨he, hm, -⟩ := h
  obtain ⟨-, -, hfull⟩ := h'
  have hm' : (m : ℝ) < 2 ^ (53 : ℤ) := by exact_mod_cast hm
  have hn : (2 : ℝ) ^ (52 : ℤ) ≤ n := by exact_mod_cast hfull.resolve_right (by omega)
  calc (m : ℝ) * 2 ^ e < 2 ^ (53 : ℤ) * 2 ^ e := by gcongr
    _ = 2 ^ (53 + e) := (zpow_add₀ two_ne_zero ..).symm
    _ ≤ 2 ^ (52 + f) := zpow_le_zpow_right₀ one_le_two (by omega)
    _ = 2 ^ (52 : ℤ) * 2 ^ f := zpow_add₀ two_ne_zero ..
    _ ≤ n * 2 ^ f := by gcongr

/-- The exponents of two numbers decide which is smaller, and the mantissas do if those are the same. -/
theorem magnitude_lt_iff : (m : ℝ) * 2 ^ e < n * 2 ^ f ↔ e < f ∨ e = f ∧ m < n := by
  rcases lt_trichotomy e f with hlt | rfl | hgt
  · simp only [hlt, magnitude_lt_of_exponent h h' hlt, true_or]
  · rw [mul_lt_mul_iff_left₀ (by positivity), Nat.cast_lt]
    omega
  · have hgreater := magnitude_lt_of_exponent h' h hgt
    constructor
    · intro hlt
      linarith
    · omega

end

/-- The ranks of parts are in the order of their values. -/
theorem partsRank_lt_iff {a b : UnpackedFloat} (ha : Stored a) (hb : Stored b) :
    ⊥ < partsRank a ∧ partsRank a < partsRank b ↔ partsValue a < partsValue b := by
  have hlt (x y : Exact) : x < y ↔ Exact.lt x y := Iff.rfl
  have hpos (m : ℕ) (e : ℤ) (hm : 0 < m) : (0 : ℝ) < m * 2 ^ e := by positivity
  rw [hlt]
  rcases a with ⟨_ | _⟩ | _ | _ | ⟨_ | _, m, e, hm⟩ <;>
    rcases b with ⟨_ | _⟩ | _ | _ | ⟨_ | _, n, f, hn⟩ <;>
      simp [partsRank, partsValue, key_lt_key, bot_lt_key, Exact.lt, Sign.apply]
  case finite.negative.finite.negative =>
    -- of two negative numbers the larger magnitude makes the smaller one
    rw [magnitude_lt_iff hb.1 ha.1, eq_comm]
  case finite.positive.finite.positive =>
    exact (magnitude_lt_iff ha.1 hb.1).symm
  case finite.negative.finite.positive =>
    exact (neg_neg_of_pos (hpos m e hm)).trans (hpos n f hn)
  case finite.positive.finite.negative =>
    exact (neg_nonpos.mpr (hpos n f hn).le).trans (hpos m e hm).le
  all_goals positivity

/-- Floats are in the order of their values. -/
theorem exact_lt {x y : Float} : exact x < exact y ↔ x < y := by
  rw [lt_iff, rank, rank, partsRank_lt_iff (stored_unpack _) (stored_unpack _), exact, exact]

/-- Numbers are in order if their ranks are. -/
theorem le_iff_rank {x y : Float} : x ≤ y ↔ ⊥ < rank x ∧ rank x ≤ rank y := by
  obtain ⟨hlt, heq⟩ := compare_eq_some_iff x.toModel.unpack y.toModel.unpack
  rw [le_iff, UnpackedFloat.le, le_iff_lt_or_eq, and_or_left, rank, rank, ← hlt, ← heq]
  rcases UnpackedFloat.compare x.toModel.unpack y.toModel.unpack with _ | ⟨_ | _ | _⟩ <;> simp

theorem le_iff_not_lt {x y : Float} :
    x ≤ y ↔ Scalar.isNaN x = false ∧ Scalar.isNaN y = false ∧ ¬ y < x := by
  rw [← Bool.not_eq_true, ← Bool.not_eq_true, isNaN_iff, isNaN_iff, not_not, not_not, lt_iff, le_iff_rank]
  constructor
  · rintro ⟨hx, hle⟩
    exact ⟨hx, hx.trans_le hle, fun hlt => hlt.2.not_ge hle⟩
  · rintro ⟨hx, hy, hlt⟩
    exact ⟨hx, not_lt.mp fun h => hlt ⟨hy, h⟩⟩

/-- The exact values of numbers have the same order. -/
theorem exact_le {x y : Float} : exact x ≤ exact y ↔ x ≤ y := by
  rw [Exact.le_iff_not_lt, isNaN_exact, isNaN_exact, exact_lt, le_iff_not_lt]

/-- Below the limit of two to the power 1024 are the numbers whose exponent is not too large. -/
theorem magnitude_lt_limit_iff {m : ℕ} {e : ℤ} (h : Fits m e) : (m : ℝ) * 2 ^ e < 2 ^ 1024 ↔ e ≤ 971 := by
  have hlimit : Fits (2 ^ 52) 972 := ⟨by norm_num, by norm_num, Or.inl le_rfl⟩
  have hvalue : (2 : ℝ) ^ 1024 = (2 ^ 52 : ℕ) * 2 ^ (972 : ℤ) := by
    rw [Nat.cast_pow, Nat.cast_ofNat, ← zpow_natCast, ← zpow_natCast, ← zpow_add₀ two_ne_zero]
    norm_num
  obtain ⟨he, hlt, hfull⟩ := id h
  rw [hvalue, magnitude_lt_iff h hlimit]
  omega

/-- A positive number that is not tiny is denoted by every float with that value. -/
theorem denotes_of_exact {x : Float} {r : ℝ} (h : exact x = .number r) (hr : 1 ≤ r) : Denotes x r := by
  rcases parts_of_value h with rfl | ⟨s, m, e, hm, hx, rfl⟩
  · norm_num at hr
  · have hstored := stored_unpack x.toModel
    rw [hx] at hstored
    obtain ⟨⟨he, hlt, hfull⟩, hle⟩ := hstored
    cases s with
    | negative =>
      have hneg : (0 : ℝ) < m * 2 ^ e := by positivity
      simp only [Sign.apply, Int.cast_neg, Int.cast_natCast] at hr
      linarith
    | positive =>
      refine .intro m e hm hx ⟨hfull.resolve_right ?_, hlt, he, hle⟩
      rintro rfl
      -- at the least exponent the number would be below one
      have hone : Fits (2 ^ 52) (-52) := ⟨by norm_num, by norm_num, Or.inl le_rfl⟩
      have hunit : ((2 ^ 52 : ℕ) : ℝ) * 2 ^ (-52 : ℤ) = 1 := by norm_num
      have hsmall := magnitude_lt_of_exponent ⟨he, hlt, hfull⟩ hone (by norm_num)
      rw [hunit] at hsmall
      exact hsmall.not_ge hr

end TrafficMap.Binary64
