import Mathlib
import TrafficMap.Proofs.Number.Written
import TrafficMap.Proofs.Text.Words
import TrafficMap.Traffic.Label

/-!
# Sizes

A number of bytes is written in the largest of the binary units that it reaches (`sizeUnit_eq`), with two
decimal places from which the zeros at the end are dropped (`Trims`). What is left has the same value and keeps
every digit before the point. `size_of_bytes` puts the two together; the search for the unit is done there in
words of 64 bits too, where it neither divides by zero nor overflows (`sizeUnit?_eq`).
-/

namespace TrafficMap

open Exact

namespace Label

open Decimal (point Reads)
open Text (dropEnd dropEnd_append_of_forall dropEnd_append_self)

/-! ## Decimals without needless digits -/

/-- The digits before the point and those behind it, and no point if there are none. -/
def decimalText (whole fraction : List Char) : List Char :=
  if fraction = [] then whole else whole ++ '.' :: fraction

/-- The last digits that are zeros, and the ones before them. -/
theorem exists_append_zeros (ds : List Char) :
    ∃ fraction k, ds = fraction ++ List.replicate k '0' ∧ fraction.getLast? ≠ some '0' := by
  refine ⟨ds.rdropWhile (· = '0'), (ds.rtakeWhile (· = '0')).length, ?_, fun h => ?_⟩
  · have hzeros : ds.rtakeWhile (· = '0') = List.replicate (ds.rtakeWhile (· = '0')).length '0' :=
      List.eq_replicate_length.mpr fun c hc => by simpa using List.mem_rtakeWhile_imp hc
    rw [← hzeros, List.rdropWhile_append_rtakeWhile]
  · obtain ⟨hne, hlast⟩ := List.mem_getLast?_eq_getLast h
    have hnonzero := List.rdropWhile_last_not (· = '0') ds hne
    rw [← hlast] at hnonzero
    exact hnonzero rfl

/-- A decimal with fixed places falls into digits before the point, digits behind it that do not end in
a zero, and the zeros that are left. -/
structure Trims (text : List Char) (places : ℕ) (whole fraction : List Char) : Prop where
  text_eq : text = whole ++ '.' :: (fraction ++ List.replicate (places - fraction.length) '0')
  whole_ne_nil : whole ≠ []
  isDigit_whole : ∀ c ∈ whole, c.isDigit = true
  isDigit_fraction : ∀ c ∈ fraction, c.isDigit = true
  length_le : fraction.length ≤ places
  getLast?_ne : fraction.getLast? ≠ some '0'

namespace Trims

variable {text whole fraction : List Char} {places : ℕ}

/-- What is dropped are those zeros, and the point if nothing is left behind it. -/
theorem withoutTrailingZeros_eq (h : Trims text places whole fraction) :
    withoutTrailingZeros text = decimalText whole fraction := by
  have hpoint {cs : List Char} (hcs : ∀ c ∈ cs, c.isDigit = true) :
      ∀ c ∈ cs, decide (c = '.') = false := by
    intro c hc
    rw [decide_eq_false_iff_not]
    rintro rfl
    cases hcs _ hc
  have hzeros : dropEnd (· = '0') text = whole ++ '.' :: fraction := by
    rw [h.text_eq, ← List.cons_append, ← List.append_assoc, dropEnd_append_of_forall (by simp)]
    rcases List.eq_nil_or_concat fraction with hnil | ⟨cs, c, hconcat⟩
    · rw [hnil]
      exact dropEnd_append_self (by simp) (by simp) whole
    · have hc : c ≠ '0' := by simpa [hconcat] using h.getLast?_ne
      have hdrop : dropEnd (· = '0') (whole ++ '.' :: cs ++ [c]) = whole ++ '.' :: cs ++ [c] :=
        dropEnd_append_self (by simp) (by simp [hc]) (whole ++ '.' :: cs)
      rw [hconcat]
      simpa using hdrop
  rw [withoutTrailingZeros, if_pos (by simp [h.text_eq]), hzeros, decimalText]
  split_ifs with hnil
  · rw [hnil, dropEnd_append_of_forall (by simp)]
    exact dropEnd_append_self h.whole_ne_nil (hpoint h.isDigit_whole) []
  · have hdrop := dropEnd_append_self hnil (hpoint h.isDigit_fraction) (whole ++ ['.'])
    simpa using hdrop

/-- The digits that are left denote the number without a power of ten. -/
theorem ofDigits_eq {n : ℕ} (h : Trims (point places n) places whole fraction) :
    n = 10 ^ (places - fraction.length) * Decimal.ofDigits (whole ++ fraction) := by
  have hdigits : ∀ c ∈ fraction ++ List.replicate (places - fraction.length) '0', c.isDigit = true := by
    intro c hc
    rcases List.mem_append.mp hc with hc | hc
    · exact h.isDigit_fraction c hc
    · obtain rfl := List.eq_of_mem_replicate hc
      rfl
  have hread := Decimal.read?_fraction h.isDigit_whole h.whole_ne_nil hdigits
  rw [← h.text_eq, Decimal.read?_point] at hread
  have hall : n = Decimal.ofDigits
      (whole ++ (fraction ++ List.replicate (places - fraction.length) '0')) := by
    injection hread with hread
    injection hread
  have hzeros (k : ℕ) : Decimal.ofDigits (List.replicate k '0') = 0 := Nat.ofDigitChars_replicate_zero
  rw [← List.append_assoc, Decimal.ofDigits_append, hzeros, List.length_replicate] at hall
  exact hall

/-- What is left reads as the same number. -/
theorem reads {n : ℕ} (h : Trims (point places n) places whole fraction) :
    Reads (decimalText whole fraction) (n / 10 ^ places) := by
  have hvalue : (n : ℝ) / 10 ^ places
      = Decimal.ofDigits (whole ++ fraction) / 10 ^ fraction.length := by
    have hpower : (10 : ℝ) ^ places = 10 ^ (places - fraction.length) * 10 ^ fraction.length := by
      rw [← pow_add, Nat.sub_add_cancel h.length_le]
    have hdigits : (n : ℝ)
        = 10 ^ (places - fraction.length) * Decimal.ofDigits (whole ++ fraction) := by
      exact_mod_cast h.ofDigits_eq
    rw [hdigits, hpower, mul_div_mul_left _ _ (by positivity)]
  rw [hvalue, decimalText]
  split_ifs with hnil
  · rw [hnil, List.append_nil]
    exact ⟨_, Decimal.read?_whole h.isDigit_whole h.whole_ne_nil, Decimal.value_written 0 _⟩
  · exact ⟨_, Decimal.read?_fraction h.isDigit_whole h.whole_ne_nil h.isDigit_fraction,
      Decimal.value_written _ _⟩

end Trims

/-- A decimal with some places can be taken apart like that. -/
theorem exists_trims {places : ℕ} (hplaces : 0 < places) (n : ℕ) :
    ∃ whole fraction, Trims (point places n) places whole fraction := by
  obtain ⟨fraction, k, hpadded, hlast⟩ := exists_append_zeros (Decimal.padded places (n % 10 ^ places))
  have hlength : fraction.length + k = places := by
    have hwidth := Decimal.length_padded hplaces (Nat.mod_lt n (by positivity : 0 < 10 ^ places))
    rwa [hpadded, List.length_append, List.length_replicate] at hwidth
  refine ⟨Nat.toDigits 10 (n / 10 ^ places), fraction, ?_, Nat.toDigits_ne_nil, ?_, ?_, by omega, hlast⟩
  · rw [show places - fraction.length = k by omega, ← hpadded]
    exact if_neg hplaces.ne'
  · exact fun c hc => Nat.isDigit_of_mem_toDigits (by decide) (by decide) hc
  · exact fun c hc => Decimal.isDigit_of_mem_padded (hpadded ▸ List.mem_append_left _ hc)

/-! ## The unit of a size -/

/-- The unit where the search ends: the first one in which the number falls below 1024, or the last. -/
theorem sizeUnit_spec (bytes : ℕ) (unit : String) (units : List String) {divisor : ℕ}
    (hpos : 0 < divisor) :
    ∃ j ≤ units.length, (unit :: units)[j]? = some (sizeUnit bytes divisor (unit :: units)).1 ∧
      (sizeUnit bytes divisor (unit :: units)).2 = divisor * 1024 ^ j ∧
      (j = 0 ∨ divisor * 1024 ^ j ≤ bytes) ∧ (j = units.length ∨ bytes < divisor * 1024 ^ (j + 1)) := by
  induction units generalizing unit divisor with
  | nil => exact ⟨0, le_rfl, rfl, (mul_one _).symm, Or.inl rfl, Or.inl rfl⟩
  | cons next units ih =>
    rw [sizeUnit]
    split_ifs with hlarge
    · have hreached : divisor * 1024 ≤ bytes := by
        rw [mul_comm]
        exact (Nat.le_div_iff_mul_le hpos).mp hlarge
      -- the search goes on with a unit that the number has reached
      obtain ⟨j, hj, hunit, hsize, hlow, hhigh⟩ := ih next (Nat.mul_pos hpos (by decide : 0 < 1024))
      have hpower (i : ℕ) : divisor * 1024 * 1024 ^ i = divisor * 1024 ^ (i + 1) := by
        rw [pow_succ', mul_assoc]
      rw [hpower] at hsize hlow
      rw [hpower] at hhigh
      refine ⟨j + 1, Nat.succ_le_succ hj, hunit, hsize, Or.inr ?_, hhigh.imp_left (congrArg (· + 1))⟩
      rcases hlow with rfl | hlow
      · simpa using hreached
      · exact hlow
    · refine ⟨0, Nat.zero_le _, rfl, (mul_one _).symm, Or.inl rfl, Or.inr ?_⟩
      rw [not_le, Nat.div_lt_iff_lt_mul hpos, mul_comm] at hlarge
      simpa using hlarge

/-- The place of the unit of a size: the largest power of 1024 that it reaches. -/
def sizeRank (bytes : ℕ) : ℕ :=
  Nat.findGreatest (fun k => 1024 ^ k ≤ bytes) 4

theorem sizeRank_bounds {bytes : ℕ} (hpos : 0 < bytes) :
    1024 ^ sizeRank bytes ≤ bytes ∧
      (sizeRank bytes = 4 ∨ sizeRank bytes < 4 ∧ bytes < 1024 ^ (sizeRank bytes + 1)) := by
  obtain ⟨hle, hreached, hnext⟩ := Nat.findGreatest_eq_iff.mp
    (rfl : Nat.findGreatest (fun k => 1024 ^ k ≤ bytes) 4 = sizeRank bytes)
  constructor
  · by_cases hzero : sizeRank bytes = 0
    · rw [hzero, pow_zero]
      exact hpos
    · exact hreached hzero
  · rcases hle.eq_or_lt with hlast | hlt
    · exact Or.inl hlast
    · exact Or.inr ⟨hlt, not_le.mp (hnext (Nat.lt_succ_self _) hlt)⟩

/-- The unit of a size. -/
theorem sizeUnit_eq (bytes : ℕ) :
    sizeUnits[sizeRank bytes]? = some (sizeUnit bytes 1 sizeUnits).1 ∧
      (sizeUnit bytes 1 sizeUnits).2 = 1024 ^ sizeRank bytes := by
  obtain ⟨j, hj, hunit, hsize, hlow, hhigh⟩ :=
    sizeUnit_spec bytes "B" ["KB", "MB", "GB", "TB"] one_pos
  have hrank : sizeRank bytes = j := by
    rw [sizeRank, Nat.findGreatest_eq_iff]
    refine ⟨hj, fun hne => ?_, fun i hji hi => ?_⟩
    · simpa using hlow.resolve_left hne
    · have hnext : bytes < 1024 ^ (j + 1) := by simpa using hhigh.resolve_left (hji.trans_le hi).ne
      exact not_le.mpr (hnext.trans_le (Nat.pow_le_pow_right (by decide) hji))
  rw [hrank]
  exact ⟨hunit, hsize.trans (one_mul _)⟩

/-! ## The search in words of 64 bits -/

/-- A quotient of words, unless it is one by zero. -/
def quotient? (a b : UInt64) : Option UInt64 :=
  if b = 0 then none else some (a / b)

/-- A product of words, unless it does not fit. -/
def product? (a b : UInt64) : Option UInt64 :=
  if a.toNat * b.toNat < 2 ^ 64 then some (a * b) else none

/-- The unit of a size, searched in words of 64 bits. -/
def sizeUnit? (bytes divisor : UInt64) : List String → Option (String × UInt64)
  | [] => some ("", divisor)
  | [unit] => some (unit, divisor)
  | unit :: next :: rest => do
    if 1024 ≤ (← quotient? bytes divisor) then
      sizeUnit? bytes (← product? divisor 1024) (next :: rest)
    else
      return (unit, divisor)

/-- The search neither divides by zero nor leaves the range of words. -/
theorem sizeUnit?_eq (bytes divisor : UInt64) (hpos : 0 < divisor.toNat) (units : List String) :
    sizeUnit? bytes divisor units = some ((sizeUnit bytes.toNat divisor.toNat units).1,
      UInt64.ofNat (sizeUnit bytes.toNat divisor.toNat units).2) := by
  induction units generalizing divisor with
  | nil => simp [sizeUnit?, sizeUnit]
  | cons unit units ih =>
    cases units with
    | nil => simp [sizeUnit?, sizeUnit]
    | cons next units =>
      have hne : divisor ≠ 0 := by
        rintro rfl
        exact absurd hpos (lt_irrefl 0)
      have hquotient : (1024 ≤ bytes / divisor) ↔ 1024 ≤ bytes.toNat / divisor.toNat := by
        rw [UInt64.le_iff_toNat_le, UInt64.toNat_div]
        rfl
      rw [sizeUnit?, sizeUnit, quotient?, if_neg hne]
      simp only [Option.bind_eq_bind, Option.bind_some, hquotient]
      split_ifs with hlarge
      · -- the next divisor is at most the number, which is a word
        have hfits : divisor.toNat * 1024 < 2 ^ 64 := by
          have hreached := (Nat.le_div_iff_mul_le hpos).mp hlarge
          have hword := bytes.toNat_lt
          omega
        have hproduct : (divisor * 1024).toNat = divisor.toNat * 1024 := by
          rw [UInt64.toNat_mul]
          exact Nat.mod_eq_of_lt hfits
        have hproduct? : product? divisor 1024 = some (divisor * 1024) := if_pos hfits
        rw [hproduct?, Option.bind_some, ih _ (by omega), hproduct]
      · simp

/-! ## Sizes -/

section

variable {α : Type} [Scalar α] {bytes : UInt64}

/-- A size is written as its quotient by the unit, without the zeros at the end. -/
theorem toList_size {text : List Char} (hne : bytes ≠ 0)
    (htext : (Decimal.fixed 2 ((Scalar.ofNat bytes.toNat : α)
      / Scalar.ofNat (1024 ^ sizeRank bytes.toNat))).toList = text) :
    (size α bytes).toList
      = withoutTrailingZeros text ++ ' ' :: (sizeUnit bytes.toNat 1 sizeUnits).1.toList := by
  obtain ⟨-, hdivisor⟩ := sizeUnit_eq bytes.toNat
  rw [← hdivisor] at htext
  rw [size, if_neg hne]
  dsimp only
  rw [htext]
  simp

end

/-- A number of bytes is written in the unit of the largest power of 1024 that it reaches, up to the fourth.
The search for that unit succeeds in words of 64 bits as well. The digits before the point stay as they are,
those behind it are at most two and do not end in a zero, and with a point there are some; read back and
multiplied by the unit, the number is off by at most half of a hundredth of the unit. -/
theorem size_of_bytes (bytes : UInt64) :
    ∃ (k : ℕ) (unit : String) (whole fraction : List Char) (r : ℝ),
      k = Nat.findGreatest (fun j => 1024 ^ j ≤ bytes.toNat) 4 ∧
      sizeUnits[k]? = some unit ∧
      sizeUnit bytes.toNat 1 sizeUnits = (unit, 1024 ^ k) ∧
      sizeUnit? bytes 1 sizeUnits = some (unit, UInt64.ofNat (1024 ^ k)) ∧
      (size Exact bytes).toList = decimalText whole fraction ++ ' ' :: unit.toList ∧
      Trims (Decimal.fixed 2 (number (bytes.toNat / 1024 ^ k))).toList 2 whole fraction ∧
      Reads (decimalText whole fraction) r ∧
      |r * 1024 ^ k - bytes.toNat| ≤ 0.005 * 1024 ^ k := by
  obtain ⟨hunit, hdivisor⟩ := sizeUnit_eq bytes.toNat
  set k := sizeRank bytes.toNat with hk
  have hunits : (0 : ℝ) ≤ bytes.toNat / 1024 ^ k := by positivity
  obtain ⟨n, hn⟩ : ∃ n : ℕ, roundEven (bytes.toNat / 1024 ^ k * 10 ^ 2) = n :=
    Int.eq_ofNat_of_zero_le (roundEven_nonneg (by positivity))
  have hfixed : (Decimal.fixed 2 (number (bytes.toNat / 1024 ^ k))).toList = point 2 n := by
    rw [Decimal.toList_fixed 2 hunits, hn]
    rfl
  have hwords : sizeUnit? bytes 1 sizeUnits
      = some ((sizeUnit bytes.toNat 1 sizeUnits).1, UInt64.ofNat (1024 ^ k)) := by
    rw [← hdivisor]
    exact sizeUnit?_eq bytes 1 one_pos sizeUnits
  obtain ⟨whole, fraction, htrims⟩ := exists_trims two_pos n
  have hlabel : (size Exact bytes).toList
      = withoutTrailingZeros (point 2 n) ++ ' ' :: (sizeUnit bytes.toNat 1 sizeUnits).1.toList := by
    by_cases hzero : bytes = 0
    · -- no bytes are not divided at all, but written the same way
      subst hzero
      have hnone : n = 0 := by
        have hround : (n : ℤ) = roundEven ((0 : ℤ) : ℝ) := by simpa using hn.symm
        rw [roundEven_intCast] at hround
        exact_mod_cast hround
      rw [hnone]
      rfl
    · refine toList_size hzero ?_
      rw [ofNat_eq, ofNat_eq, number_div _ (by positivity), ← hfixed]
      push_cast
      rfl
  have herror : |(n : ℝ) / 10 ^ 2 * 1024 ^ k - bytes.toNat| ≤ 0.005 * 1024 ^ k := by
    have hhalf := abs_roundEven_units_sub_le (by positivity : (0 : ℝ) < 1024 ^ k) bytes.toNat 2
    rw [hn, Int.cast_natCast] at hhalf
    exact hhalf.trans_eq (by ring)
  exact ⟨k, (sizeUnit bytes.toNat 1 sizeUnits).1, whole, fraction, n / 10 ^ 2, hk, hunit,
    Prod.ext rfl hdivisor, hwords, by rw [hlabel, htrims.withoutTrailingZeros_eq], hfixed ▸ htrims,
    htrims.reads, herror⟩

end Label

end TrafficMap
