import Mathlib
import TrafficMap.Number.Decimal
import TrafficMap.Proofs.Number.Exact

/-!
# Decimals read back

A decimal with fixed places is a run of digits with a point among them. Reading it takes the digits
together again and counts the places (`read?_point`). In exact arithmetic the digits are those of the
number that was written, rounded to its last place (`toList_fixed`), and the places divide them by a power
of ten (`value_written`).
-/

namespace TrafficMap.Decimal

open Exact

/-! ## Digits -/

/-- A padded number is made of digits. -/
theorem isDigit_of_mem_padded {width n : Nat} {c : Char} (h : c ∈ padded width n) :
    c.isDigit = true := by
  rcases List.mem_append.mp h with hzero | hdigit
  · obtain rfl := List.eq_of_mem_replicate hzero
    rfl
  · exact Nat.isDigit_of_mem_toDigits (by decide) (by decide) hdigit

/-- A number that fits is padded to the width. -/
theorem length_padded {width n : Nat} (hwidth : 0 < width) (hn : n < 10 ^ width) :
    (padded width n).length = width := by
  have hlength : (Nat.toDigits 10 n).length ≤ width :=
    (Nat.length_toDigits_le_iff (by decide) hwidth).mpr hn
  simp only [padded, List.length_append, List.length_replicate]
  omega

/-- The digits of a number stand for it. -/
theorem ofDigits_toDigits (n : Nat) : ofDigits (Nat.toDigits 10 n) = n :=
  Nat.ofDigitChars_ten_toDigits

/-- Digits that are followed by others count for as many powers of ten. -/
theorem ofDigits_append (cs ds : List Char) :
    ofDigits (cs ++ ds) = 10 ^ ds.length * ofDigits cs + ofDigits ds :=
  (Nat.ofDigitChars_append 0).trans Nat.ofDigitChars_eq_ofDigitChars_zero

/-- Zeros in front change nothing. -/
theorem ofDigits_padded (width n : Nat) : ofDigits (padded width n) = n := by
  have hzeros (k : Nat) : ofDigits (List.replicate k '0') = 0 :=
    Nat.ofDigitChars_replicate_zero
  rw [padded, ofDigits_append, hzeros, ofDigits_toDigits, Nat.mul_zero, Nat.zero_add]

/-! ## Reading -/

section

variable {whole fraction : List Char} (hwhole : ∀ c ∈ whole, c.isDigit = true) (hne : whole ≠ [])

include hwhole hne

/-- A text that begins with a digit has no sign. -/
theorem read?_append (rest : List Char) :
    read? (whole ++ rest) = readUnsigned? false (whole ++ rest) := by
  obtain ⟨c, cs, rfl⟩ := List.exists_cons_of_ne_nil hne
  have hc : c.isDigit = true := hwhole c List.mem_cons_self
  have hminus : c ≠ '-' := by
    rintro rfl
    cases hc
  have hplus : c ≠ '+' := by
    rintro rfl
    cases hc
  unfold read?
  split
  · next h => exact absurd (List.cons.inj h).1 hminus
  · next h => exact absurd (List.cons.inj h).1 hplus
  · rfl

/-- Digits are read as a whole number. -/
theorem read?_whole : read? whole = some ⟨false, ofDigits whole, 0⟩ := by
  have hread := read?_append hwhole hne []
  rw [List.append_nil] at hread
  rw [hread, readUnsigned?, List.takeWhile_eq_self_iff.mpr hwhole, List.dropWhile_eq_nil_iff.mpr hwhole]
  simp [hne]

/-- Digits on both sides of a point are read as a decimal number. -/
theorem read?_fraction (hfraction : ∀ c ∈ fraction, c.isDigit = true) :
    read? (whole ++ '.' :: fraction)
      = some ⟨false, ofDigits (whole ++ fraction), -fraction.length⟩ := by
  have htake : (whole ++ '.' :: fraction).takeWhile Char.isDigit = whole := by
    rw [List.takeWhile_append_of_pos hwhole]
    simp
  have hdrop : (whole ++ '.' :: fraction).dropWhile Char.isDigit = '.' :: fraction := by
    rw [List.dropWhile_append_of_pos hwhole]
    simp
  rw [read?_append hwhole hne, readUnsigned?, htake, hdrop]
  simp [List.takeWhile_eq_self_iff.mpr hfraction, List.dropWhile_eq_nil_iff.mpr hfraction, hne]

end

/-- A decimal with fixed places is read as its digits and the number of its places. -/
theorem read?_point (places n : Nat) : read? (point places n) = some ⟨false, n, -places⟩ := by
  have hdigits (m : Nat) : ∀ c ∈ Nat.toDigits 10 m, c.isDigit = true :=
    fun c hc => Nat.isDigit_of_mem_toDigits (by decide) (by decide) hc
  by_cases hplaces : places = 0
  · rw [hplaces, point, if_pos rfl, read?_whole (hdigits n) Nat.toDigits_ne_nil, ofDigits_toDigits]
    rfl
  · have hsmall : n % 10 ^ places < 10 ^ places := Nat.mod_lt _ (by positivity)
    have hlength : (padded places (n % 10 ^ places)).length = places :=
      length_padded (Nat.pos_of_ne_zero hplaces) hsmall
    have hpoint : point places n
        = Nat.toDigits 10 (n / 10 ^ places) ++ '.' :: padded places (n % 10 ^ places) :=
      if_neg hplaces
    rw [hpoint, read?_fraction (hdigits _) Nat.toDigits_ne_nil fun c => isDigit_of_mem_padded,
      ofDigits_append, ofDigits_padded, ofDigits_toDigits, hlength, Nat.div_add_mod]

/-! ## Writing -/

/-- A number that is not negative is written rounded to its last place. -/
theorem toList_fixed (places : Nat) {x : ℝ} (hx : 0 ≤ x) :
    (fixed places (number x)).toList = point places (roundEven (x * 10 ^ places)).natAbs := by
  have hsign : Scalar.isNegative (number x) = false := decide_eq_false (not_lt.mpr hx)
  have hscaled : Scalar.scaled places (number x) = roundEven (x * 10 ^ places) := rfl
  simp only [fixed, isNaN_number, isFinite_number, hsign, hscaled, Bool.false_eq_true, if_false,
    if_true, String.empty_append, String.toList_ofList]

/-- The value of digits with some of them behind the point. -/
theorem value_written (places n : Nat) :
    (⟨false, n, -places⟩ : Written).value = number (n / 10 ^ places) := by
  have hvalue : (⟨false, n, -places⟩ : Written).value = number (n * 10 ^ (-(places : ℤ))) := rfl
  rw [hvalue, zpow_neg, zpow_natCast, div_eq_mul_inv]

/-- A text that reads as a number. -/
def Reads (text : List Char) (r : ℝ) : Prop :=
  ∃ w, read? text = some w ∧ w.value = number r

/-- A number written with a point is read back. -/
theorem reads_point (places n : Nat) : Reads (point places n) (n / 10 ^ places) :=
  ⟨_, read?_point places n, value_written places n⟩

end TrafficMap.Decimal
