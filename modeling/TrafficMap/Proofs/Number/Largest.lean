import Mathlib
import TrafficMap.Proofs.Number.Zero

/-!
# The largest of a list of floats

Floats that are numbers come in a linear order in which only the two zeros share a place. `rank` tells
the place of a float; what is no number stands below all of them, so the larger of two floats is the one
with the larger rank (`rank_max`). The largest of a list, looked for from zero on, is therefore the same
in whatever order the list comes, down to the sign of a zero (`foldl_max_perm`).
-/

namespace TrafficMap.Binary64

open Float.Model Float.Model.UnpackedFloat

/-! ## Ranks -/

/-- The rank of a number: its class, then the exponent, then the mantissa. -/
def key (c e m : ℤ) : WithBot (ℤ ×ₗ ℤ ×ₗ ℤ) :=
  ↑(toLex (c, toLex (e, m)) : ℤ ×ₗ ℤ ×ₗ ℤ)

/-- Keys are ordered by their parts, the first one first. -/
theorem key_lt_key {c e m c' e' m' : ℤ} :
    key c e m < key c' e' m' ↔ c < c' ∨ c = c' ∧ (e < e' ∨ e = e' ∧ m < m') := by
  rw [key, key, WithBot.coe_lt_coe, Prod.Lex.toLex_lt_toLex, Prod.Lex.toLex_lt_toLex]

/-- A key has its parts. -/
theorem key_inj {c e m c' e' m' : ℤ} : key c e m = key c' e' m' ↔ c = c' ∧ e = e' ∧ m = m' := by
  rw [key, key, WithBot.coe_inj, toLex_inj, Prod.mk.injEq, toLex_inj, Prod.mk.injEq]

theorem bot_lt_key {c e m : ℤ} : ⊥ < key c e m :=
  WithBot.bot_lt_coe _

/-- The rank of the parts of a float. A smaller magnitude makes a negative number larger. -/
def partsRank : UnpackedFloat → WithBot (ℤ ×ₗ ℤ ×ₗ ℤ)
  | .notANumber => ⊥
  | .infinity .negative => key (-2) 0 0
  | .finite .negative m e _ => key (-1) (-e) (-m)
  | .zero _ => key 0 0 0
  | .finite .positive m e _ => key 1 e m
  | .infinity .positive => key 2 0 0

/-- What is no number ranks below all numbers, and nothing else does. -/
theorem bot_lt_partsRank_iff (a : UnpackedFloat) : ⊥ < partsRank a ↔ a ≠ .notANumber := by
  rcases a with ⟨_ | _⟩ | _ | _ | ⟨_ | _⟩ <;> simp [partsRank, bot_lt_key]

/-- The parts of two numbers compare as their ranks do. -/
theorem compare_eq_some_iff (a b : UnpackedFloat) :
    (a.compare b = some .lt ↔ ⊥ < partsRank a ∧ partsRank a < partsRank b) ∧
      (a.compare b = some .eq ↔ ⊥ < partsRank a ∧ partsRank a = partsRank b) := by
  have hsigns : compare Sign.negative Sign.positive = .lt ∧ compare Sign.positive Sign.negative = .gt ∧
      ∀ s : Sign, compare s s = .eq := ⟨rfl, rfl, fun s => by cases s <;> rfl⟩
  rw [bot_lt_partsRank_iff]
  rcases a with ⟨_ | _⟩ | _ | ⟨_ | _⟩ | ⟨_ | _, m, e, hm⟩ <;>
    rcases b with ⟨_ | _⟩ | _ | ⟨_ | _⟩ | ⟨_ | _, n, f, hn⟩ <;>
      simp [UnpackedFloat.compare, partsRank, key_lt_key, key_inj, hsigns, bot_lt_key.ne, bot_lt_key.ne',
        Ordering.then_eq_lt, Ordering.then_eq_gt, compare_lt_iff_lt, compare_gt_iff_gt,
        Ordering.then_eq_eq]

/-- The rank of a float. -/
def rank (x : Float) : WithBot (ℤ ×ₗ ℤ ×ₗ ℤ) :=
  partsRank x.toModel.unpack

theorem isNaN_iff {x : Float} : Scalar.isNaN x = true ↔ ¬ ⊥ < rank x := by
  have hnan : Scalar.isNaN x = true ↔ x.toModel.unpack = .notANumber := UnpackedFloat.isNaN_iff
  rw [hnan, rank, bot_lt_partsRank_iff, not_not]

/-- Numbers are ordered by their ranks. -/
theorem lt_iff {x y : Float} : x < y ↔ ⊥ < rank x ∧ rank x < rank y :=
  lt_iff_compare.trans (compare_eq_some_iff ..).1

/-- Numbers of one rank compare as equal. -/
theorem agree_of_rank {x y : Float} (hx : ⊥ < rank x) (h : rank x = rank y) : Agree x y := by
  have hbeq : (x == y) = (x.toModel.unpack.compare y.toModel.unpack == some .eq) := rfl
  right
  rw [hbeq, beq_iff_eq]
  exact (compare_eq_some_iff ..).2.mpr ⟨hx, h⟩

/-- The larger of two floats has the larger rank. -/
theorem rank_max (x y : Float) : rank (Scalar.max x y) = max (rank x) (rank y) := by
  unfold Scalar.max
  split_ifs with hx hy hlt
  · rw [isNaN_iff, not_bot_lt_iff] at hx
    rw [hx, bot_sup_eq]
  · rw [isNaN_iff, not_bot_lt_iff] at hy
    rw [hy, sup_bot_eq]
  · rw [max_eq_right (lt_iff.mp hlt).2.le]
  · rw [isNaN_iff, not_not] at hx
    rw [max_eq_left (not_lt.mp fun hrank => hlt (lt_iff.mpr ⟨hx, hrank⟩))]

/-! ## The largest of a list -/

/-- The largest number of a list has the largest rank. -/
theorem rank_foldl_max (xs : List Float) (x : Float) :
    rank (xs.foldl Scalar.max x) = (xs.map rank).foldl max (rank x) := by
  induction xs generalizing x with
  | nil => rfl
  | cons y xs ih => rw [List.foldl_cons, ih, rank_max, List.map_cons, List.foldl_cons]

/-- What is larger than a number is positive if the number is positive or zero. -/
theorem foldl_max_nonneg (xs : List Float) {x : Float} (hx : x = 0.0 ∨ 0.0 < x) :
    xs.foldl Scalar.max x = 0.0 ∨ 0.0 < xs.foldl Scalar.max x := by
  have hzero : ⊥ < rank 0.0 := bot_lt_key
  induction xs generalizing x with
  | nil => exact hx
  | cons y xs ih =>
    apply ih
    have hnumber : ⊥ < rank x := by
      rcases hx with rfl | hx
      · exact hzero
      · exact hzero.trans (lt_iff.mp hx).2
    -- the larger one is the one before, or exceeds it
    unfold Scalar.max
    rw [if_neg (isNaN_iff.not.mpr (not_not.mpr hnumber))]
    split_ifs with hy hlt
    · exact hx
    · right
      rcases hx with rfl | hx
      · exact hlt
      · exact lt_iff.mpr ⟨hzero, (lt_iff.mp hx).2.trans (lt_iff.mp hlt).2⟩
    · exact hx

/-- The largest of a list, and of zero, does not depend on the order of the list. -/
theorem foldl_max_perm {xs ys : List Float} (h : xs.Perm ys) :
    xs.foldl Scalar.max 0.0 = ys.foldl Scalar.max 0.0 := by
  have hrank : rank (xs.foldl Scalar.max 0.0) = rank (ys.foldl Scalar.max 0.0) := by
    rw [rank_foldl_max, rank_foldl_max]
    exact (h.map rank).foldl_eq _
  have hzero : ⊥ < rank 0.0 := bot_lt_key
  rcases foldl_max_nonneg xs (Or.inl rfl) with hxs | hxs <;>
    rcases foldl_max_nonneg ys (Or.inl rfl) with hys | hys
  · rw [hxs, hys]
  · have hlt := (lt_iff.mp hys).2
    rw [← hrank, hxs] at hlt
    exact absurd hlt (lt_irrefl _)
  · have hlt := (lt_iff.mp hxs).2
    rw [hrank, hys] at hlt
    exact absurd hlt (lt_irrefl _)
  · -- positive floats of one rank are the same, since zeros are not positive
    rcases agree_iff.mp (agree_of_rank (hzero.trans (lt_iff.mp hxs).2) hrank) with h | ⟨h, -⟩ | ⟨h, -⟩
    · exact h
    · rw [h] at hxs
      exact absurd hxs (by decide)
    · rw [h] at hxs
      exact absurd hxs (by decide)

end TrafficMap.Binary64
