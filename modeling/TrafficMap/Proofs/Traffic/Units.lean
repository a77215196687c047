import Mathlib
import TrafficMap.Proofs.Number.Rounding
import TrafficMap.Proofs.Traffic.Rates
import TrafficMap.Proofs.Traffic.Sizes

/-!
# Units of labels

The unit of a label is the largest one that the number itself reaches, and the number of units is rounded only
then. The last numbers before the next unit are therefore rounded up to a thousand, or 1024, of the smaller one
(`thousand_of_carry`); all others are shown below that. Where the border lies is a matter of the floats that
labels are computed with. What they show grows with the number (`shownUnits_mono`), so it is enough to compute
it on both sides of a border (`Border.bounds`). `units_of_labels` has the result for all counters.
-/

namespace TrafficMap.Label

open Binary64
open Decimal (Reads point reads_point)
open Exact (roundEven roundEven_mono roundEven_natCast)

/-- A label that consists of a number and a unit. -/
def Shows (label : String) (r : ℝ) (unit : String) : Prop :=
  ∃ text, label.toList = text ++ ' ' :: unit.toList ∧ Reads text r

/-! ## Shown numbers of units -/

/-- The decimal places of a number of units, as one number. -/
def shownUnits (places size n : ℕ) : ℕ :=
  (Scalar.scaled places ((Scalar.ofNat n : Float) / Scalar.ofNat size)).natAbs

section

variable {size n : ℕ} (hsize : 0 < size) (hn : size ≤ n)

include hsize hn

/-- A quotient in writing shows its rounded units. -/
theorem toList_fixed_quotient (hlt : n < 2 ^ 64) (places : ℕ) :
    (Decimal.fixed places ((Scalar.ofNat n : Float) / Scalar.ofNat size)).toList
      = point places (shownUnits places size n) :=
  (denotes_quotient hsize hn hlt).toList_fixed places

/-- At least one unit is shown as at least one. -/
theorem le_scaled_quotient (hlt : n < 2 ^ 64) (places : ℕ) :
    (10 ^ places : ℕ) ≤ Scalar.scaled places ((Scalar.ofNat n : Float) / Scalar.ofNat size) := by
  obtain ⟨hlow, hhigh⟩ := nearest_div_bounds hsize hn hlt
  obtain ⟨hone, -⟩ := nearest_bounds hlow hhigh
  have hplaces : ((10 ^ places : ℕ) : ℝ) ≤ nearest (nearest n / nearest size) * 10 ^ places := by
    push_cast
    exact le_mul_of_one_le_left (by positivity) hone
  have hround := roundEven_mono hplaces
  rw [roundEven_natCast] at hround
  exact hround.trans_eq ((denotes_quotient hsize hn hlt).scaled places).symm

/-- At least one unit is shown. -/
theorem le_shownUnits (hlt : n < 2 ^ 64) (places : ℕ) : 10 ^ places ≤ shownUnits places size n := by
  have hscaled := le_scaled_quotient hsize hn hlt places
  unfold shownUnits
  omega

/-- More is not shown as less. -/
theorem shownUnits_mono {n' : ℕ} (h : n ≤ n') (hlt : n' < 2 ^ 64) (places : ℕ) :
    shownUnits places size n ≤ shownUnits places size n' := by
  have hscaled : 0 ≤ Scalar.scaled places ((Scalar.ofNat n : Float) / Scalar.ofNat size) :=
    (Int.natCast_nonneg _).trans (le_scaled_quotient hsize hn (h.trans_lt hlt) places)
  have hmono : Scalar.scaled places ((Scalar.ofNat n : Float) / Scalar.ofNat size)
      ≤ Scalar.scaled places ((Scalar.ofNat n' : Float) / Scalar.ofNat size) :=
    scaled_quotient_mono hsize hn h hlt places
  unfold shownUnits
  omega

end

/-- Numbers of at most `top` are shown below a limit up to a border, and from there on as the limit. -/
structure Border (places size border top limit : ℕ) : Prop where
  size_pos : 0 < size
  size_lt : size < border
  border_le : border ≤ top + 1
  top_lt : top < 2 ^ 64
  below : shownUnits places size (border - 1) < limit * 10 ^ places
  reached : limit * 10 ^ places ≤ shownUnits places size border
  top_le : shownUnits places size top ≤ limit * 10 ^ places

/-- From one unit on the limit is reached at the border and not passed before the top. -/
theorem Border.bounds {places size border top limit n : ℕ} (h : Border places size border top limit)
    (hlow : size ≤ n) (hhigh : n ≤ top) :
    (shownUnits places size n : ℝ) / 10 ^ places ≤ limit ∧
      ((shownUnits places size n : ℝ) / 10 ^ places < limit ↔ n < border) := by
  obtain ⟨hsize, hborder, hborder', htop, hbelow, hreached, hlimit⟩ := h
  have hlt := hhigh.trans_lt htop
  have hunits : (0 : ℝ) < 10 ^ places := by positivity
  have hle : shownUnits places size n ≤ limit * 10 ^ places :=
    (shownUnits_mono hsize hlow hhigh htop places).trans hlimit
  have hiff : shownUnits places size n < limit * 10 ^ places ↔ n < border := by
    -- both sides of the border are computed, and order carries that to all numbers beyond them
    constructor
    · intro hshown
      by_contra hn
      have hmono := shownUnits_mono hsize hborder.le (not_lt.mp hn) hlt places
      omega
    · intro hn
      exact (shownUnits_mono hsize hlow (by omega) (by omega) places).trans_lt hbelow
  rw [div_le_iff₀ hunits, div_lt_iff₀ hunits, ← hiff]
  exact ⟨by exact_mod_cast hle, by exact_mod_cast Iff.rfl⟩

theorem one_le_units {places shown : ℕ} (h : 10 ^ places ≤ shown) :
    (1 : ℝ) ≤ shown / 10 ^ places := by
  rw [one_le_div (by positivity)]
  exact_mod_cast h

/-! ## Rates -/

/-- A label stays below a thousand of its unit up to a twentieth of the unit before the next one. -/
theorem border_rates {size : ℕ} (h : size = 1000 ∨ size = 1000000) :
    Border 1 size ((19999 * size + 19) / 20) (1000 * size - 1) 1000 := by
  rcases h with rfl | rfl <;> constructor <;> decide +kernel

/-- The unit of a rate is the largest one that it reaches. -/
theorem find?_rateUnits (bits : ℕ) :
    (rateUnits.find? (fun u => u.2 ≤ bits) = none ∧ bits < 1000) ∨
      ∃ unit size, rateUnits.find? (fun u => u.2 ≤ bits) = some (unit, size) ∧
        (unit = "Gbps" ∨ (size = 1000 ∨ size = 1000000) ∧ bits < 1000 * size) := by
  by_cases hgiga : 1000000000 ≤ bits
  · exact Or.inr ⟨"Gbps", 1000000000, by simp [rateUnits, hgiga], Or.inl rfl⟩
  by_cases hmega : 1000000 ≤ bits
  · exact Or.inr ⟨"Mbps", 1000000, by simp [rateUnits, hgiga, hmega],
      Or.inr ⟨Or.inr rfl, by omega⟩⟩
  by_cases hkilo : 1000 ≤ bits
  · exact Or.inr ⟨"Kbps", 1000, by simp [rateUnits, hgiga, hmega, hkilo],
      Or.inr ⟨Or.inl rfl, by omega⟩⟩
  · exact Or.inl ⟨by simp [rateUnits, hgiga, hmega, hkilo], by omega⟩

section

variable {bytesPerSecond : UInt64}

theorem bitsOf_lt : bitsOf bytesPerSecond < 2 ^ 64 := by
  have hmax : counterMax = 2 ^ 64 - 1 := rfl
  rw [bitsOf, hmax]
  omega

/-- A rate is shown in the unit that was found. -/
theorem shows_rate {unit : String} {size : ℕ}
    (h : rateUnits.find? (fun u => u.2 ≤ bitsOf bytesPerSecond) = some (unit, size)) :
    Shows (rate Float bytesPerSecond) (shownUnits 1 size (bitsOf bytesPerSecond) / 10 ^ 1) unit := by
  have hreached : size ≤ bitsOf bytesPerSecond := by simpa using List.find?_some h
  obtain ⟨hsize, -⟩ := of_mem_rateUnits (List.mem_of_find?_eq_some h)
  dsimp only at hsize
  refine ⟨_, ?_, reads_point 1 _⟩
  rw [rate, h]
  dsimp only
  rw [String.toList_append, String.toList_append, toList_fixed_quotient (by omega) hreached bitsOf_lt]
  simp

/-- A rate below all units is shown in bits. -/
theorem shows_bits (h : rateUnits.find? (fun u => u.2 ≤ bitsOf bytesPerSecond) = none) :
    Shows (rate Float bytesPerSecond) (bitsOf bytesPerSecond) "bps" := by
  refine ⟨point 0 (bitsOf bytesPerSecond), ?_, by simpa using reads_point 0 (bitsOf bytesPerSecond)⟩
  rw [rate, h]
  dsimp only
  rw [String.toList_append, Nat.toString_eq_repr, Nat.toList_repr]
  rfl

end

/-! ## Sizes -/

/-- A size stays below 1024 of its unit up to half of a hundredth of the unit before the next one. -/
theorem border_sizes {k : ℕ} (h : k < 4) :
    Border 2 (1024 ^ k) ((204799 * 1024 ^ k + 199) / 200) (1024 ^ (k + 1) - 1) 1024 := by
  interval_cases k <;> constructor <;> decide +kernel

/-- A size is shown in the unit of its rank. -/
theorem shows_size {bytes : UInt64} (hne : bytes ≠ 0) :
    Shows (size Float bytes)
      (shownUnits 2 (1024 ^ sizeRank bytes.toNat) bytes.toNat / 10 ^ 2)
      (sizeUnit bytes.toNat 1 sizeUnits).1 := by
  have hpos : 0 < bytes.toNat := Nat.pos_of_ne_zero fun h => hne (UInt64.toNat_inj.mp h)
  obtain ⟨hreached, -⟩ := sizeRank_bounds hpos
  obtain ⟨whole, fraction, htrims⟩ :=
    exists_trims two_pos (shownUnits 2 (1024 ^ sizeRank bytes.toNat) bytes.toNat)
  refine ⟨decimalText whole fraction, ?_, htrims.reads⟩
  rw [toList_size hne (toList_fixed_quotient (by positivity) hreached bytes.toNat_lt 2),
    htrims.withoutTrailingZeros_eq]

theorem shows_zero : Shows (size Float 0) 0 "B" := by
  have hread := reads_point 0 0
  rw [Nat.cast_zero, zero_div] at hread
  exact ⟨point 0 0, rfl, hread⟩

/-! ## Both kinds of labels -/

/-- A counter as a rate and as a size. The unit is the largest one that the number itself reaches, and at least
one unit is shown as at least one. In another unit than the last, a rate is shown as at most a thousand, and
below that exactly if it is less than 999.95 units; a size is shown as at most 1024, and below that exactly if
it is less than 1023.995 units. -/
theorem units_of_labels (counter : UInt64) :
    (∃ (unit : String) (size : ℕ) (r : ℝ),
        (unit, size) ∈ rateUnits ++ [("bps", 1)] ∧ Shows (rate Float counter) r unit ∧
        (unit = "bps" ∨ size ≤ bitsOf counter ∧ 1 ≤ r) ∧
        (unit = "Gbps" ∨ bitsOf counter < 1000 * size ∧ r ≤ 1000 ∧
          (r < 1000 ↔ 20 * bitsOf counter < 19999 * size))) ∧
      ∃ (unit : String) (k : ℕ) (r : ℝ),
        sizeUnits[k]? = some unit ∧ Shows (size Float counter) r unit ∧
        (unit = "B" ∨ 1024 ^ k ≤ counter.toNat ∧ 1 ≤ r) ∧
        (unit = "TB" ∨ counter.toNat < 1024 ^ (k + 1) ∧ r ≤ 1024 ∧
          (r < 1024 ↔ 200 * counter.toNat < 204799 * 1024 ^ k)) := by
  constructor
  · rcases find?_rateUnits (bitsOf counter) with ⟨hnone, hsmall⟩ | ⟨unit, size, hfind, hnext⟩
    · -- bits are shown one by one, without rounding
      have hbits : (bitsOf counter : ℝ) < 1000 := by exact_mod_cast hsmall
      exact ⟨"bps", 1, bitsOf counter, by simp, shows_bits hnone, Or.inl rfl,
        Or.inr ⟨by omega, hbits.le, iff_of_true hbits (by omega)⟩⟩
    · have hreached : size ≤ bitsOf counter := by simpa using List.find?_some hfind
      have hmem := List.mem_of_find?_eq_some hfind
      have hthousand : 1000 ≤ size := (of_mem_rateUnits hmem).1
      have hone := le_shownUnits (by omega) hreached bitsOf_lt 1
      refine ⟨unit, size, _, List.mem_append_left _ hmem, shows_rate hfind,
        Or.inr ⟨hreached, one_le_units hone⟩, hnext.imp_right fun ⟨hunit, hlt⟩ => ?_⟩
      obtain ⟨hle, hiff⟩ := (border_rates hunit).bounds hreached (by omega)
      rw [Nat.cast_ofNat] at hle hiff
      exact ⟨hlt, hle, hiff.trans (by omega)⟩
  · by_cases hzero : counter = 0
    · subst hzero
      exact ⟨"B", 0, 0, rfl, shows_zero, Or.inl rfl, Or.inr ⟨by decide, by norm_num, by norm_num⟩⟩
    · have hpos : 0 < counter.toNat := Nat.pos_of_ne_zero fun h => hzero (UInt64.toNat_inj.mp h)
      obtain ⟨hunit, -⟩ := sizeUnit_eq counter.toNat
      obtain ⟨hreached, hnext⟩ := sizeRank_bounds hpos
      have hone := le_shownUnits (by positivity) hreached counter.toNat_lt 2
      refine ⟨_, _, _, hunit, shows_size hzero, Or.inr ⟨hreached, one_le_units hone⟩, ?_⟩
      rcases hnext with hlast | ⟨hrank, hlt⟩
      · left
        rw [hlast] at hunit
        exact (Option.some.inj hunit).symm
      · right
        obtain ⟨hle, hiff⟩ := (border_sizes hrank).bounds hreached (by omega)
        rw [Nat.cast_ofNat] at hle hiff
        exact ⟨hlt, hle, hiff.trans (by omega)⟩

/-- The last numbers before the next unit are rounded up to it, and shown in the smaller unit nevertheless. -/
theorem thousand_of_carry : rate Float 124999 = "1000.0 Kbps" ∧ size Float 1048575 = "1024 KB" :=
  ⟨rfl, rfl⟩

end TrafficMap.Label
