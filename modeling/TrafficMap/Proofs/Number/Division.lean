import Mathlib
import TrafficMap.Number.Binary64

/-!
# Division by one

Dividing a float by one gives the float itself, bit for bit. A quotient is computed on the parts of
the two numbers and packed again, so there are two things to show:

* packing the parts of a bit pattern gives the pattern back (`pack_unpack`);
* dividing the mantissa by that of one gives the mantissa again or its double, and rounding takes
  both back to where they were (`div_unpack_one`).
-/

namespace TrafficMap.Binary64

open Float.Model Float.Model.UnpackedFloat

/-- Packing the parts of a number gives the number. -/
theorem pack_unpack (x : Float.Model) : Float.Model.pack x.unpack = x := by
  have hbits := UnpackedFloat.pack_unpack_of_valid x.valid
  simp only [Float.Model.pack, Float.Model.unpack, hbits]

/-! ## Numbers that need no rounding -/

/-- A mantissa and an exponent as a bit pattern stores them: the mantissa is full unless the
exponent is the least one. -/
def Fits (m : Nat) (e : Int) : Prop :=
  -1074 ≤ e ∧ m < 2 ^ 53 ∧ (2 ^ 52 ≤ m ∨ e = -1074)

/-- The mantissa of a normal number is the stored one with the leading bit in front. -/
theorem toNat_implicit (v : BitVec 52) : (1#1 ++ v).toNat = 2 ^ 52 + v.toNat := by
  rw [BitVec.toNat_append, ← Nat.shiftLeft_add_eq_or_of_lt v.isLt]
  rfl

theorem fits_of_unpack {x : Float.Model} {s : Sign} {m : Nat} {e : Int} {hm : 0 < m}
    (hx : x.unpack = .finite s m e hm) : Fits m e := by
  have hv : (@unpackMantissa .binary64 x.toBits.toBitVec).toNat < 2 ^ 52 := BitVec.isLt _
  unfold Float.Model.unpack UnpackedFloat.unpack at hx
  simp only at hx
  split_ifs at hx with hspecial hmantissa hzero hmantissa
  · -- subnormal
    cases hx
    rw [hzero]
    exact ⟨by decide, by omega, Or.inr rfl⟩
  · -- normal
    cases hx
    have he : (@unpackExponent .binary64 x.toBits.toBitVec).toNat ≠ 0 := by
      intro h
      exact hzero (BitVec.eq_of_toNat_eq h)
    rw [toNat_implicit]
    simp only [Format.exponentBias]
    refine ⟨?_, by omega, Or.inl (by omega)⟩
    norm_num
    omega

theorem targetExponent_eq {m : Nat} {e : Int} (h : Fits m e) (hm : 0 < m) :
    Format.binary64.targetExponent (totalExponent m e) = e := by
  obtain ⟨he, hlt, hfull⟩ := h
  have hlog : m.log2 < 53 := (Nat.log2_lt (by omega)).mpr hlt
  have hlog' : 2 ^ 52 ≤ m → 52 ≤ m.log2 := (Nat.le_log2 (by omega)).mpr
  simp only [Format.targetExponent, totalExponent, Format.mantissaBits, Format.minExponent]
  norm_num
  omega

/-- A number that fits is not shifted. -/
theorem shiftToTargetExponent_self {m : Nat} {e : Int} (h : Fits m e) (hm : 0 < m) :
    shiftToTargetExponent .binary64 m e .exact = (⟨m, false, false⟩, e) := by
  rw [shiftToTargetExponent, targetExponent_eq h hm, shiftToExponent, Int.sub_self]
  simp [ExtendedMantissa.ofMantissaAndAccuracy, HShiftRight.hShiftRight, Nat.repeat]

/-- A number that fits, written with twice its mantissa, is shifted back without a remainder. -/
theorem shiftToTargetExponent_double {m : Nat} {e : Int} (h : Fits m e) (hm : 0 < m) :
    shiftToTargetExponent .binary64 (2 * m) (e - 1) .exact = (⟨m, false, false⟩, e) := by
  have htotal : totalExponent (2 * m) (e - 1) = totalExponent m e := by
    simp only [totalExponent, Nat.log2_two_mul (by omega : m ≠ 0)]
    push_cast
    ring
  rw [shiftToTargetExponent, htotal, targetExponent_eq h hm, shiftToExponent,
    show (e - (e - 1)).toNat = 1 by omega]
  simp [ExtendedMantissa.ofMantissaAndAccuracy, HShiftRight.hShiftRight, Nat.repeat,
    ExtendedMantissa.shiftRightOne]

/-- Rounding shifts twice: to the exponent that fits, and once more if the rounded mantissa got too
long. -/
theorem roundWithAccuracy_of_shifts {s : Sign} {n m : Nat} {a : Accuracy} {em : ExtendedMantissa}
    {e f g : Int} (hm : 0 < m) (hfirst : shiftToTargetExponent .binary64 n f a = (em, g))
    (hsecond : shiftToTargetExponent .binary64 em.roundedMantissa g .exact = (⟨m, false, false⟩, e)) :
    roundWithAccuracy .binary64 s n f a = .finite s m e hm := by
  rw [roundWithAccuracy, hfirst]
  simp only [hsecond]
  rw [dif_neg (by omega)]

/-- Rounding ends at a number that fits if its first shift does. -/
theorem roundWithAccuracy_eq {s : Sign} {m n : Nat} {e f : Int} (h : Fits m e) (hm : 0 < m)
    (hshift : shiftToTargetExponent .binary64 n f .exact = (⟨m, false, false⟩, e)) :
    roundWithAccuracy .binary64 s n f .exact = .finite s m e hm :=
  roundWithAccuracy_of_shifts hm hshift (shiftToTargetExponent_self h hm)

/-! ## The quotient -/

/-- The parts of one. -/
theorem unpack_one : (1.0 : Float).toModel.unpack = .finite .positive (2 ^ 52) (-52) (by decide) :=
  rfl

/-- Division by the mantissa of one leaves no remainder. The quotient has one bit more than the
mantissa where the exponent leaves room for it. -/
theorem divCore_one {m : Nat} {e : Int} (h : Fits m e) (hm : 0 < m) :
    divCore .binary64 m e (2 ^ 52) (-52) = (2 * m, e - 1, .exact) ∨
      divCore .binary64 m e (2 ^ 52) (-52) = (m, e, .exact) := by
  obtain ⟨he, hlt, hfull⟩ := h
  have hlog : m.log2 < 53 := (Nat.log2_lt (by omega)).mpr hlt
  have hlog' : 2 ^ 52 ≤ m → 52 ≤ m.log2 := (Nat.le_log2 (by omega)).mpr
  have hone : totalExponent (2 ^ 52) (-52) = 1 := by
    simp only [totalExponent, Nat.log2_two_pow]
    norm_num
  have hshift : ∀ k, (m <<< (k + 52)) / 2 ^ 52 = m * 2 ^ k ∧ (m <<< (k + 52)) % 2 ^ 52 = 0 := by
    intro k
    rw [Nat.shiftLeft_eq, Nat.pow_add, ← Nat.mul_assoc]
    exact ⟨Nat.mul_div_cancel _ (by decide), Nat.mul_mod_left _ _⟩
  -- at the least exponent the quotient cannot have a bit more than the mantissa
  by_cases hleast : e = -1074
  · right
    have htarget :
        min (e - -52) (Format.binary64.targetExponent (totalExponent m e - 1)) = e := by
      simp only [Format.targetExponent, totalExponent, Format.mantissaBits, Format.minExponent]
      norm_num
      omega
    rw [divCore, hone, htarget, show (e - -52 - e).toNat = 0 + 52 by omega]
    simp only [hshift, accuracyOfFraction, if_true, Nat.pow_zero, Nat.mul_one]
  · left
    have htarget :
        min (e - -52) (Format.binary64.targetExponent (totalExponent m e - 1)) = e - 1 := by
      simp only [Format.targetExponent, totalExponent, Format.mantissaBits, Format.minExponent]
      norm_num
      omega
    rw [divCore, hone, htarget, show (e - -52 - (e - 1)).toNat = 1 + 52 by omega]
    simp only [hshift, accuracyOfFraction, if_true, Nat.pow_one, Nat.mul_comm m 2]

/-- The parts of a number do not change when they are divided by those of one. -/
theorem div_unpack_one (x : Float.Model) :
    UnpackedFloat.div .binary64 x.unpack (1.0 : Float).toModel.unpack = x.unpack := by
  rw [unpack_one]
  cases hx : x.unpack with
  | notANumber => rfl
  | infinity s => cases s <;> rfl
  | zero s => cases s <;> rfl
  | finite s m e hm =>
    have hfits := fits_of_unpack hx
    have hsign : s / .positive = s := by cases s <;> rfl
    simp only [UnpackedFloat.div, hsign]
    rcases divCore_one hfits hm with hcore | hcore
    · rw [hcore]
      exact roundWithAccuracy_eq hfits hm (shiftToTargetExponent_double hfits hm)
    · rw [hcore]
      exact roundWithAccuracy_eq hfits hm (shiftToTargetExponent_self hfits hm)

/-- A float divided by one is the float itself. -/
theorem div_one (x : Float) : x / 1.0 = x := by
  have hmodel : (x / 1.0).toModel = Float.Model.pack
      (UnpackedFloat.div .binary64 x.toModel.unpack (1.0 : Float).toModel.unpack) := rfl
  calc x / 1.0 = .ofModel (x / 1.0).toModel := rfl
    _ = .ofModel (Float.Model.pack x.toModel.unpack) := by rw [hmodel, div_unpack_one]
    _ = x := by rw [pack_unpack]

end TrafficMap.Binary64
