import Mathlib
import TrafficMap.Number.Binary64

/-!
# The two zeros

A float zero carries a sign, and a comparison does not see it. Two floats `Agree` when they are the
same or compare as equal, so they differ in nothing but the sign of a zero. An operation keeps
agreement once it does so at the two zeros (`Agree.map`); adding a number to them, or subtracting one
from them, makes the same float of both, or the two zeros again.
-/

namespace TrafficMap.Binary64

open Float.Model Float.Model.UnpackedFloat

/-- Two floats that are the same, or that compare as equal. -/
def Agree (x y : Float) : Prop :=
  x = y ∨ (x == y) = true

/-! ## Zeros -/

/-- Floats that agree and are not the same are the two zeros. -/
theorem agree_iff {x y : Float} :
    Agree x y ↔ x = y ∨ (x = 0.0 ∧ y = -0.0) ∨ (x = -0.0 ∧ y = 0.0) := by
  constructor
  · rintro (h | h)
    · exact Or.inl h
    · exact (Float.beq_iff_ne_nan_and_eq.mp h).2.2
  · rintro (h | ⟨rfl, rfl⟩ | ⟨rfl, rfl⟩)
    · exact Or.inl h
    · exact Or.inr rfl
    · exact Or.inr rfl

namespace Agree

variable {x y z : Float}

@[refl] theorem refl (x : Float) : Agree x x :=
  Or.inl rfl

@[symm] theorem symm (h : Agree x y) : Agree y x := by
  rcases agree_iff.mp h with rfl | ⟨rfl, rfl⟩ | ⟨rfl, rfl⟩
  · exact .refl _
  · exact Or.inr rfl
  · exact Or.inr rfl

theorem trans (hxy : Agree x y) (hyz : Agree y z) : Agree x z := by
  rcases hxy with rfl | hxy
  · exact hyz
  · rcases hyz with rfl | hyz
    · exact Or.inr hxy
    · exact Or.inr (PartialEquivBEq.trans hxy hyz)

/-- An operation keeps agreement if it does so at the two zeros. -/
theorem map (h : Agree x y) (op : Float → Float) (hop : Agree (op 0.0) (op (-0.0))) :
    Agree (op x) (op y) := by
  rcases agree_iff.mp h with rfl | ⟨rfl, rfl⟩ | ⟨rfl, rfl⟩
  · exact .refl _
  · exact hop
  · exact hop.symm

/-- What does not tell the two zeros apart is the same for floats that agree. -/
theorem map_eq {β : Type} (h : Agree x y) (f : Float → β) (hf : f 0.0 = f (-0.0)) :
    f x = f y := by
  rcases agree_iff.mp h with rfl | ⟨rfl, rfl⟩ | ⟨rfl, rfl⟩
  · rfl
  · exact hf
  · exact hf.symm

end Agree

/-! ## Comparisons -/

/-- The comparison of the parts of two numbers the other way round. -/
theorem compare_swap (a b : UnpackedFloat) :
    UnpackedFloat.compare b a = (UnpackedFloat.compare a b).map Ordering.swap := by
  have hsigns (s t : Sign) : compare t s = (compare s t).swap := by
    cases s <;> cases t <;> rfl
  have hnumbers (m n : Nat) (e f : Int) :
      (compare f e).then (compare n m) = ((compare e f).then (compare m n)).swap := by
    rw [Ordering.swap_then, Int.compare_swap, Nat.compare_swap]
  cases a with
  | notANumber => cases b <;> rfl
  | infinity s =>
    cases b with
    | infinity t => exact congrArg some (hsigns s t)
    | _ => cases s <;> rfl
  | zero s =>
    cases b with
    | infinity t => cases t <;> rfl
    | finite t => cases t <;> rfl
    | _ => rfl
  | finite s m e hm =>
    cases b with
    | finite t n f hn =>
      cases s <;> cases t
      · -- two negative numbers compare the other way round
        exact congrArg (fun o => some o.swap) (hnumbers m n e f)
      · rfl
      · rfl
      · exact congrArg some (hnumbers m n e f)
    | infinity t => cases t <;> rfl
    | _ => cases s <;> rfl

/-- The order of numbers is that of their parts. -/
theorem le_iff {x y : Float} : x ≤ y ↔ x.toModel.unpack.le y.toModel.unpack = true := by
  have hmodel : x ≤ y ↔ decide (x.toModel ≤ y.toModel) = true := Iff.rfl
  rw [hmodel, decide_eq_true_iff]
  rfl

/-- One number is less than another if the comparison of their parts says so. -/
theorem lt_iff_compare {x y : Float} :
    x < y ↔ x.toModel.unpack.compare y.toModel.unpack = some .lt := by
  have hmodel : x < y ↔ decide (x.toModel < y.toModel) = true := Iff.rfl
  have hcompare : x.toModel < y.toModel
      ↔ (x.toModel.unpack.compare y.toModel.unpack == some .lt) = true := Iff.rfl
  rw [hmodel, decide_eq_true_iff, hcompare, beq_iff_eq]

theorem le_of_lt {x y : Float} (h : x < y) : x ≤ y := by
  rw [le_iff, UnpackedFloat.le, lt_iff_compare.mp h]
  rfl

/-- Floats agree when neither exceeds the other. -/
theorem agree_of_same {x y : Float} (h : Scalar.same x y = true) : Agree x y := by
  obtain ⟨hxy, hyx⟩ : x ≤ y ∧ y ≤ x := by simpa [Scalar.same] using h
  rw [le_iff, UnpackedFloat.le] at hxy hyx
  rw [compare_swap] at hyx
  right
  have hbeq : (x == y) = (x.toModel.unpack.compare y.toModel.unpack == some .eq) := rfl
  rw [hbeq]
  -- an order that is not greater either way is none but equality
  cases hcompare : x.toModel.unpack.compare y.toModel.unpack with
  | none =>
    rw [hcompare] at hxy
    cases hxy
  | some order =>
    rw [hcompare] at hxy hyx
    cases order
    · cases hyx
    · rfl
    · cases hxy

/-! ## Sums and differences -/

/-- Adding a number to the two zeros. -/
theorem agree_zero_add (u : Float) : Agree (0.0 + u) (-0.0 + u) := by
  have hpositive : (0.0 : Float) + u
      = .ofModel (.pack (UnpackedFloat.add .binary64 (.zero .positive) u.toModel.unpack)) := rfl
  have hnegative : (-0.0 : Float) + u
      = .ofModel (.pack (UnpackedFloat.add .binary64 (.zero .negative) u.toModel.unpack)) := rfl
  rw [hpositive, hnegative]
  cases u.toModel.unpack with
  | zero s => cases s <;> exact Or.inr rfl
  | _ => exact .refl _

/-- Subtracting a number from the two zeros. -/
theorem agree_zero_sub (u : Float) : Agree (0.0 - u) (-0.0 - u) := by
  have hpositive : (0.0 : Float) - u
      = .ofModel (.pack (UnpackedFloat.sub .binary64 (.zero .positive) u.toModel.unpack)) := rfl
  have hnegative : (-0.0 : Float) - u
      = .ofModel (.pack (UnpackedFloat.sub .binary64 (.zero .negative) u.toModel.unpack)) := rfl
  rw [hpositive, hnegative]
  cases u.toModel.unpack with
  | zero s => cases s <;> exact Or.inr rfl
  | _ => exact .refl _

end TrafficMap.Binary64
