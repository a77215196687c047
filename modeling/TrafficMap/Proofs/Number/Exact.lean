import Mathlib
import TrafficMap.Number.Scalar

/-!
# Exact arithmetic

`Exact` is the arithmetic of floats without rounding: finite values are real numbers, and the infinities
and what is no number behave as they do among floats. There is one zero, without a sign, and no finite
operation overflows. With it the definitions of the picture can be read exactly; the lemmas below turn
their operations at numbers into operations on reals.
-/

namespace TrafficMap

/-- A value of exact arithmetic. -/
inductive Exact where
  | number (value : ℝ)
  | infinite (negative : Bool)
  /-- What is no number, such as the quotient of two zeros. -/
  | undefined

namespace Exact

/-! ## Operations -/

noncomputable section

def neg : Exact → Exact
  | number x => number (-x)
  | infinite negative => infinite !negative
  | undefined => undefined

/-- Infinities of opposite signs have no sum. -/
def add : Exact → Exact → Exact
  | number x, number y => number (x + y)
  | infinite m, number _ => infinite m
  | number _, infinite n => infinite n
  | infinite m, infinite n => if m = n then infinite m else undefined
  | _, _ => undefined

/-- An infinity and zero have no product. -/
def mul : Exact → Exact → Exact
  | number x, number y => number (x * y)
  | infinite m, number y => if y = 0 then undefined else infinite (m ^^ decide (y < 0))
  | number x, infinite n => if x = 0 then undefined else infinite (decide (x < 0) ^^ n)
  | infinite m, infinite n => infinite (m ^^ n)
  | _, _ => undefined

/-- A number other than zero divided by zero is infinite. -/
def div : Exact → Exact → Exact
  | number x, number y =>
    if y = 0 then if x = 0 then undefined else infinite (decide (x < 0)) else number (x / y)
  | infinite m, number y => infinite (m ^^ decide (y < 0))
  | number _, infinite _ => number 0
  | _, _ => undefined

def lt : Exact → Exact → Prop
  | number x, number y => x < y
  | infinite m, number _ => m = true
  | number _, infinite n => n = false
  | infinite m, infinite n => m = true ∧ n = false
  | _, _ => False

def le : Exact → Exact → Prop
  | number x, number y => x ≤ y
  | infinite m, number _ => m = true
  | number _, infinite n => n = false
  | infinite m, infinite n => m = true ∨ n = false
  | _, _ => False

def isFinite : Exact → Bool
  | number _ => true
  | _ => false

def isNaN : Exact → Bool
  | undefined => true
  | _ => false

def isNegative : Exact → Bool
  | number x => decide (x < 0)
  | infinite negative => negative
  | undefined => false

def sqrt : Exact → Exact
  | number x => if x < 0 then undefined else number √x
  | infinite negative => if negative then undefined else infinite false
  | undefined => undefined

def log10 : Exact → Exact
  | number x =>
    if x < 0 then undefined else if x = 0 then infinite true else number (Real.logb 10 x)
  | infinite negative => if negative then undefined else infinite false
  | undefined => undefined

/-- An infinite side makes an infinite diagonal, whatever the other one is. -/
def hypot : Exact → Exact → Exact
  | number x, number y => number √(x ^ 2 + y ^ 2)
  | infinite _, _ => infinite false
  | _, infinite _ => infinite false
  | _, _ => undefined

/-- Applies a function to a finite value and leaves the others as they are. -/
def map (f : ℝ → ℝ) : Exact → Exact
  | number x => number (f x)
  | x => x

/-- The nearest integer, a half going away from zero. -/
def roundAway (x : ℝ) : ℤ :=
  if x < 0 then -⌊-x + 1 / 2⌋ else ⌊x + 1 / 2⌋

/-- The nearest integer, a half going to the even one. -/
def roundEven (x : ℝ) : ℤ :=
  if Int.fract x < 1 / 2 then ⌊x⌋ else if 1 / 2 < Int.fract x then ⌊x⌋ + 1 else ⌊x⌋ + ⌊x⌋ % 2

def truncate : Exact → ℤ
  | number x => if x < 0 then ⌈x⌉ else ⌊x⌋
  | _ => 0

def scaled (places : ℕ) : Exact → ℤ
  | number x => roundEven (x * 10 ^ places)
  | _ => 0

instance : Scalar Exact where
  add := add
  sub x y := add x (neg y)
  mul := mul
  div := div
  neg := neg
  lt := lt
  le := le
  ofScientific m s e := number (OfScientific.ofScientific m s e)
  decLt := Classical.decRel _
  decLe := Classical.decRel _
  ofNat n := number n
  ofDecimal m e := number (m * 10 ^ e)
  isFinite := isFinite
  isNaN := isNaN
  isNegative := isNegative
  sqrt := sqrt
  log10 := log10
  hypot := hypot
  floor := map fun x => ⌊x⌋
  round := map fun x => roundAway x
  truncate := truncate
  scaled := scaled

end

/-! ## Operations at numbers -/

section

variable (x y : ℝ)

/-- The sum of numbers is exact. -/
@[simp] theorem number_add : number x + number y = number (x + y) := rfl

/-- The difference of numbers is exact. -/
@[simp] theorem number_sub : number x - number y = number (x - y) :=
  congrArg number (sub_eq_add_neg x y).symm

/-- The product of numbers is exact. -/
@[simp] theorem number_mul : number x * number y = number (x * y) := rfl

@[simp] theorem neg_number : -number x = number (-x) := rfl

/-- The quotient of numbers is exact, apart from division by zero. -/
theorem number_div {y : ℝ} (hy : y ≠ 0) : number x / number y = number (x / y) :=
  if_neg hy

@[simp] theorem number_lt : number x < number y ↔ x < y := Iff.rfl

@[simp] theorem number_le : number x ≤ number y ↔ x ≤ y := Iff.rfl

@[simp] theorem isFinite_number : Scalar.isFinite (number x) = true := rfl

@[simp] theorem isNaN_number : Scalar.isNaN (number x) = false := rfl

@[simp] theorem hypot_number : Scalar.hypot (number x) (number y) = number √(x ^ 2 + y ^ 2) := rfl

@[simp] theorem ofNat_eq (n : ℕ) : (Scalar.ofNat n : Exact) = number n := rfl

/-- A decimal literal denotes its number exactly. -/
@[simp] theorem ofScientific_eq (m : ℕ) (s : Bool) (e : ℕ) :
    (OfScientific.ofScientific m s e : Exact) = number (OfScientific.ofScientific m s e) := rfl

/-- A whole number is taken over exactly. -/
@[simp] theorem ofInt_eq (i : ℤ) : (Scalar.ofInt i : Exact) = number i := by
  rw [Scalar.ofInt]
  split_ifs with h
  · rw [ofNat_eq, neg_number, Nat.cast_natAbs, abs_of_neg h]
    push_cast
    rw [neg_neg]
  · rw [ofNat_eq, Nat.cast_natAbs, abs_of_nonneg (not_lt.mp h)]

theorem zero_eq : (0.0 : Exact) = number 0 := by
  rw [ofScientific_eq]
  norm_num

theorem one_eq : (1.0 : Exact) = number 1 := by
  rw [ofScientific_eq]
  norm_num

theorem two_eq : (2.0 : Exact) = number 2 := by
  rw [ofScientific_eq]
  norm_num

/-- The larger one of two numbers. -/
@[simp] theorem max_number : Scalar.max (number x) (number y) = number (max x y) := by
  simp only [Scalar.max, isNaN_number, number_lt, Bool.false_eq_true, if_false]
  split_ifs with h
  · rw [max_eq_right h.le]
  · rw [max_eq_left (not_lt.mp h)]

/-- The smaller one of two numbers. -/
@[simp] theorem min_number : Scalar.min (number x) (number y) = number (min x y) := by
  simp only [Scalar.min, isNaN_number, number_lt, Bool.false_eq_true, if_false]
  split_ifs with h
  · rw [min_eq_right h.le]
  · rw [min_eq_left (not_lt.mp h)]

/-- Every number is smaller than infinity. -/
theorem min_infinite : Scalar.min (number x) (infinite false) = number x := by
  have hnan : Scalar.isNaN (infinite false) = false := rfl
  have hnot : ¬(infinite false < number x) := Bool.false_ne_true
  simp only [Scalar.min, isNaN_number, hnan, Bool.false_eq_true, if_false, if_neg hnot]

/-- A number moved into a range. -/
@[simp] theorem clamp_number (lo hi : ℝ) :
    Scalar.clamp (number x) (number lo) (number hi) = number (min (max x lo) hi) := by
  have hlow : (if number x < number lo then number lo else number x) = number (max x lo) := by
    simp only [number_lt]
    split_ifs with h
    · rw [max_eq_right h.le]
    · rw [max_eq_left (not_lt.mp h)]
  unfold Scalar.clamp
  dsimp only
  rw [hlow]
  simp only [number_lt]
  split_ifs with h
  · rw [min_eq_right h.le]
  · rw [min_eq_left (not_lt.mp h)]

/-- An infinity is moved to the end that it lies beyond. -/
theorem clamp_infinite (negative : Bool) {lo hi : ℝ} (h : lo ≤ hi) :
    Scalar.clamp (infinite negative) (number lo) (number hi)
      = number (if negative then lo else hi) := by
  have hlow : infinite negative < number lo ↔ negative = true := Iff.rfl
  unfold Scalar.clamp
  cases negative with
  | true => simp only [hlow, if_true, number_lt, if_neg (not_lt.mpr h)]
  | false =>
    have hhigh : number hi < infinite false := rfl
    simp only [hlow, Bool.false_eq_true, if_false, if_pos hhigh]

@[simp] theorem abs_number : Scalar.abs (number x) = number |x| := by
  have hnegative : Scalar.isNegative (number x) = decide (x < 0) := rfl
  simp only [Scalar.abs, hnegative, decide_eq_true_eq]
  split_ifs with h
  · rw [neg_number, abs_of_neg h]
  · rw [abs_of_nonneg (not_lt.mp h)]

/-- The smallest step above one, as a number. -/
theorem epsilon_eq : (Scalar.epsilon : Exact) = number (1 / 2 ^ 52) := by
  have hpower : ((Nat.pow 2 52 : ℕ) : ℝ) = 2 ^ 52 := by
    norm_num
  rw [Scalar.epsilon, ofNat_eq, hpower, ofScientific_eq, number_div _ (by positivity)]
  norm_num

end

/-! ## Rounding to integers -/

/-- Rounding goes to one of the two integers around a number. -/
theorem roundEven_bounds (x : ℝ) : ⌊x⌋ ≤ roundEven x ∧ roundEven x ≤ ⌊x⌋ + 1 := by
  unfold roundEven
  split_ifs <;> omega

/-- Rounding to the nearest whole number keeps the order. -/
theorem roundEven_mono {x y : ℝ} (h : x ≤ y) : roundEven x ≤ roundEven y := by
  obtain ⟨hxlow, hxhigh⟩ := roundEven_bounds x
  obtain ⟨hylow, hyhigh⟩ := roundEven_bounds y
  rcases (Int.floor_mono h).lt_or_eq with hfloor | hfloor
  · -- an integer lies between the two numbers
    omega
  · have hfract : Int.fract x ≤ Int.fract y := by
      rw [Int.fract, Int.fract, hfloor]
      linarith
    by_cases hdown : Int.fract x < 1 / 2
    · have hround : roundEven x = ⌊x⌋ := if_pos hdown
      omega
    · by_cases hup : 1 / 2 < Int.fract y
      · have hround : roundEven y = ⌊y⌋ + 1 := by
          rw [roundEven, if_neg (not_lt.mpr hup.le), if_pos hup]
        omega
      · -- both are the same half
        have hsame : x = y := by
          rw [← Int.floor_add_fract x, ← Int.floor_add_fract y, hfloor]
          linarith
        rw [hsame]

/-- Whole numbers are rounded to themselves. -/
@[simp] theorem roundEven_intCast (n : ℤ) : roundEven (n : ℝ) = n := by
  simp [roundEven]

@[simp] theorem roundEven_natCast (n : ℕ) : roundEven (n : ℝ) = n := by
  exact_mod_cast roundEven_intCast n

/-- Rounding moves a number by at most a half. -/
theorem abs_roundEven_sub_le (x : ℝ) : |(roundEven x : ℝ) - x| ≤ 1 / 2 := by
  have hsplit := Int.floor_add_fract x
  have hlow := Int.fract_nonneg x
  have hhigh := Int.fract_lt_one x
  rw [abs_le]
  unfold roundEven
  split_ifs with hdown hup
  · constructor <;> linarith
  · push_cast
    constructor <;> linarith
  · -- a half goes to the even side, whichever that is
    rcases Int.emod_two_eq_zero_or_one ⌊x⌋ with hparity | hparity <;> rw [hparity] <;> push_cast <;>
      constructor <;> linarith

/-- No integer is nearer to a number than the one that it is rounded to. -/
theorem abs_roundEven_sub_le_abs (x : ℝ) (n : ℤ) : |(roundEven x : ℝ) - x| ≤ |n - x| := by
  rcases eq_or_ne n (roundEven x) with rfl | hne
  · exact le_rfl
  · -- the other integers are at least one away from it
    have hhalf := abs_roundEven_sub_le x
    have hstep : (1 : ℝ) ≤ |(n : ℝ) - roundEven x| := by
      exact_mod_cast Int.one_le_abs (sub_ne_zero.mpr hne)
    have htriangle := abs_sub_le (n : ℝ) x (roundEven x)
    rw [abs_sub_comm x] at htriangle
    linarith

/-- A number of units that is rounded to decimal places is off by at most half of the last one. -/
theorem abs_roundEven_units_sub_le {unit : ℝ} (hunit : 0 < unit) (x : ℝ) (places : ℕ) :
    |(roundEven (x / unit * 10 ^ places) : ℝ) / 10 ^ places * unit - x| ≤ 1 / 2 / 10 ^ places * unit := by
  have hsplit : (roundEven (x / unit * 10 ^ places) : ℝ) / 10 ^ places * unit - x
      = (roundEven (x / unit * 10 ^ places) - x / unit * 10 ^ places) / 10 ^ places * unit := by
    field_simp
  rw [hsplit, abs_mul, abs_div, abs_of_pos hunit, abs_of_pos (by positivity : (0 : ℝ) < 10 ^ places)]
  gcongr
  exact abs_roundEven_sub_le _

theorem roundEven_nonneg {x : ℝ} (h : 0 ≤ x) : 0 ≤ roundEven x := by
  have hzero : roundEven ((0 : ℤ) : ℝ) = 0 := roundEven_intCast 0
  rw [← hzero, Int.cast_zero]
  exact roundEven_mono h

/-- A half is rounded up where numbers are not negative. -/
theorem roundAway_of_nonneg {x : ℝ} (h : 0 ≤ x) : roundAway x = ⌊x + 1 / 2⌋ :=
  if_neg (not_lt.mpr h)

/-- Rounding halves away from zero keeps the order. -/
theorem roundAway_mono {x y : ℝ} (h : x ≤ y) : roundAway x ≤ roundAway y := by
  unfold roundAway
  split_ifs with hx hy hy
  · exact neg_le_neg (Int.floor_mono (by linarith))
  · have hbelow : 0 ≤ ⌊-x + 1 / 2⌋ := Int.floor_nonneg.mpr (by linarith)
    have habove : 0 ≤ ⌊y + 1 / 2⌋ := Int.floor_nonneg.mpr (by linarith)
    omega
  · linarith
  · exact Int.floor_mono (by linarith)

/-- Whole numbers are rounded to themselves. -/
@[simp] theorem roundAway_intCast (n : ℤ) : roundAway (n : ℝ) = n := by
  have hfloor (m : ℤ) : ⌊(m : ℝ) + 1 / 2⌋ = m := by
    rw [Int.floor_intCast_add]
    norm_num
  rw [roundAway, hfloor, ← Int.cast_neg, hfloor, neg_neg, ite_self]

@[simp] theorem roundAway_natCast (n : ℕ) : roundAway (n : ℝ) = n := by
  exact_mod_cast roundAway_intCast n

/-- A number between two integers is rounded to one between them. -/
theorem roundAway_bounds {m n : ℤ} {x : ℝ} (hlow : m ≤ x) (hhigh : x ≤ n) :
    m ≤ roundAway x ∧ roundAway x ≤ n := by
  rw [← roundAway_intCast m, ← roundAway_intCast n]
  exact ⟨roundAway_mono hlow, roundAway_mono hhigh⟩

/-- An integer within the bounds is its own integer part. -/
theorem toIntClamped_intCast {lo hi n : ℤ} (hlow : lo ≤ n) (hhigh : n ≤ hi) :
    Scalar.toIntClamped lo hi (number n) = n := by
  have htruncate : Scalar.truncate (number (n : ℝ)) = n := by
    show (if (n : ℝ) < 0 then ⌈(n : ℝ)⌉ else ⌊(n : ℝ)⌋) = n
    rw [Int.ceil_intCast, Int.floor_intCast, ite_self]
  rw [Scalar.toIntClamped, if_neg (by simp), if_pos (isFinite_number _), htruncate, max_eq_right hlow,
    min_eq_right hhigh]

/-! ## Which values are numbers -/

/-- A value is finite when it is a number. -/
theorem isFinite_iff {x : Exact} : Scalar.isFinite x = true ↔ ∃ r, x = number r := by
  cases x with
  | number r => exact ⟨fun _ => ⟨r, rfl⟩, fun _ => rfl⟩
  | infinite m => exact ⟨nofun, nofun⟩
  | undefined => exact ⟨nofun, nofun⟩

/-- A value between two numbers is a number. -/
theorem exists_number {lo hi : ℝ} {x : Exact} (hlo : number lo ≤ x) (hhi : x ≤ number hi) :
    ∃ r, x = number r ∧ lo ≤ r ∧ r ≤ hi := by
  cases x with
  | number r => exact ⟨r, rfl, hlo, hhi⟩
  | infinite negative =>
    have hpositive : negative = false := hlo
    have hnegative : negative = true := hhi
    rw [hpositive] at hnegative
    cases hnegative
  | undefined => cases hlo

/-- Of two values that are not undefined, one does not exceed the other unless that one is smaller. -/
theorem le_iff_not_lt {x y : Exact} :
    x ≤ y ↔ Scalar.isNaN x = false ∧ Scalar.isNaN y = false ∧ ¬ y < x := by
  have hle : x ≤ y ↔ le x y := Iff.rfl
  have hlt : y < x ↔ lt y x := Iff.rfl
  have hnan (z : Exact) : Scalar.isNaN z = isNaN z := rfl
  rw [hle, hlt, hnan, hnan]
  rcases x with _ | ⟨_ | _⟩ | _ <;> rcases y with _ | ⟨_ | _⟩ | _ <;> simp [le, lt, isNaN]

/-- The order is transitive, also where a side is no number. -/
theorem le_trans {x y z : Exact} (hxy : x ≤ y) (hyz : y ≤ z) : x ≤ z := by
  have hle (x y : Exact) : x ≤ y ↔ le x y := Iff.rfl
  rw [hle] at hxy hyz ⊢
  rcases x with x | ⟨_ | _⟩ | _ <;> rcases y with y | ⟨_ | _⟩ | _ <;> rcases z with z | ⟨_ | _⟩ | _ <;>
    simp only [le, Bool.false_eq_true, reduceCtorEq, or_self, or_true, or_false] at hxy hyz ⊢
  exact hxy.trans hyz

theorem le_number_of_lt {x : Exact} {r : ℝ} (h : x < number r) : x ≤ number r := by
  cases x with
  | number y => exact (show y < r from h).le
  | infinite negative => exact h
  | undefined => cases h

theorem zero_le_of_lt {x : Exact} (h : 0.0 < x) : 0.0 ≤ x := by
  rw [zero_eq] at h ⊢
  cases x with
  | number y => exact (show 0 < y from h).le
  | infinite negative => exact h
  | undefined => cases h

/-- What a number bounds is a number. -/
theorem exists_number_of_abs_le {x : Exact} {r : ℝ} (h : Scalar.abs x ≤ number r) :
    ∃ y, x = number y ∧ |y| ≤ r := by
  cases x with
  | number y =>
    rw [abs_number] at h
    exact ⟨y, rfl, h⟩
  | infinite negative => cases negative <;> cases h
  | undefined => cases h

/-- A finite and positive value is a positive number. -/
theorem exists_positive {x : Exact} (h : Scalar.isFinite x = true ∧ 0.0 < x) :
    ∃ r, x = number r ∧ 0 < r := by
  obtain ⟨hfinite, hpositive⟩ := h
  obtain ⟨r, rfl⟩ := isFinite_iff.mp hfinite
  rw [zero_eq] at hpositive
  exact ⟨r, rfl, hpositive⟩

/-- Numbers are added up as reals are. -/
theorem sum_number (rs : List ℝ) : Scalar.sum (rs.map number) = number rs.sum := by
  rw [Scalar.sum, zero_eq]
  -- what was added up so far is carried along
  suffices hfold : ∀ start : ℝ,
      (rs.map number).foldl (· + ·) (number start) = number (start + rs.sum) by
    rw [hfold, zero_add]
  induction rs with
  | nil =>
    intro start
    rw [List.sum_nil, add_zero]
    rfl
  | cons r rs ih =>
    intro start
    rw [List.map_cons, List.foldl_cons, number_add, ih, List.sum_cons, add_assoc]

/-- A sum of numbers that are not negative is another one. -/
theorem exists_sum {xs : List Exact} (h : ∀ x ∈ xs, ∃ r, x = number r ∧ 0 ≤ r) :
    ∃ s, Scalar.sum xs = number s ∧ 0 ≤ s := by
  have hnumbers : ∃ rs : List ℝ, xs = rs.map number ∧ ∀ r ∈ rs, 0 ≤ r := by
    induction xs with
    | nil => exact ⟨[], rfl, by simp⟩
    | cons x xs ih =>
      obtain ⟨r, rfl, hr⟩ := h x List.mem_cons_self
      obtain ⟨rs, rfl, hrs⟩ := ih fun y hy => h y (List.mem_cons_of_mem _ hy)
      exact ⟨r :: rs, rfl, List.forall_mem_cons.mpr ⟨hr, hrs⟩⟩
  obtain ⟨rs, rfl, hrs⟩ := hnumbers
  exact ⟨rs.sum, sum_number rs, List.sum_nonneg hrs⟩

/-- The largest of numbers, looked for from zero on, is one of them or zero. -/
theorem exists_foldl_max {xs : List Exact} (h : ∀ x ∈ xs, ∃ r, x = number r) :
    ∃ m, xs.foldl Scalar.max 0.0 = number m ∧ number m ∈ number 0 :: xs ∧
      ∀ r, number r ∈ number 0 :: xs → r ≤ m := by
  rw [zero_eq]
  -- the largest one so far is carried along
  suffices hfold : ∀ start : ℝ, ∃ m, xs.foldl Scalar.max (number start) = number m ∧
      number m ∈ number start :: xs ∧ ∀ r, number r ∈ number start :: xs → r ≤ m from hfold 0
  induction xs with
  | nil =>
    refine fun start => ⟨start, rfl, List.mem_cons_self, fun r hr => ?_⟩
    obtain hr := List.mem_singleton.mp hr
    injection hr with hr
    exact hr.le
  | cons x xs ih =>
    intro start
    obtain ⟨y, rfl⟩ := h x List.mem_cons_self
    obtain ⟨m, hm, hmem, hle⟩ := ih (fun z hz => h z (List.mem_cons_of_mem _ hz)) (max start y)
    have hlargest : max start y ≤ m := hle _ List.mem_cons_self
    refine ⟨m, by rw [List.foldl_cons, max_number, hm], ?_, fun r hr => ?_⟩
    · rcases List.mem_cons.mp hmem with hmem | hmem
      · rcases max_choice start y with hmax | hmax <;> rw [hmem, hmax] <;> simp
      · exact List.mem_cons_of_mem _ (List.mem_cons_of_mem _ hmem)
    · simp only [List.mem_cons, number.injEq] at hr
      rcases hr with rfl | rfl | hr
      · exact (le_max_left r y).trans hlargest
      · exact (le_max_right start r).trans hlargest
      · exact hle r (List.mem_cons_of_mem _ hr)

end Exact

end TrafficMap
