import Mathlib
import TrafficMap.Identity.Fallback
import TrafficMap.Proofs.Text.Words

/-!
# Addresses

A text is read as an IPv4 address exactly if it is its dotted form: four octets in decimal, without leading zeros, and
dots between them (`ipv4?_eq_some_iff`). The seed of an address is made of its last two octets, blanks around it aside
(`IsAddress.seed_eq`).
-/

namespace TrafficMap.Identity

open Text (trim isBlank pieces)

/-! ## Octets -/

/-- A decimal digit is the character of its own value. -/
theorem digitChar_of_isDigit {c : Char} (h : c.isDigit = true) :
    c.toNat - '0'.toNat < 10 ∧ Nat.digitChar (c.toNat - '0'.toNat) = c := by
  obtain ⟨hlow, hhigh⟩ := Char.isDigit_iff_toNat.mp h
  have hsmall : c.toNat - '0'.toNat < 10 := by
    have hzero : '0'.toNat = 48 := rfl
    have hnine : '9'.toNat = 57 := rfl
    omega
  refine ⟨hsmall, Char.toNat_inj.mp ?_⟩
  rw [Nat.toNat_digitChar_of_lt_ten hsmall]
  exact Nat.add_sub_of_le hlow

/-- Digits are those of the number that they stand for, unless there is a zero in front of others. -/
theorem toDigits_ofDigitChars {cs : List Char} (hdigits : ∀ c ∈ cs, c.isDigit = true) (hne : cs ≠ [])
    (hzero : cs.head? = some '0' → cs.length = 1) : Nat.toDigits 10 (Nat.ofDigitChars 10 cs 0) = cs := by
  induction cs using List.reverseRecOn with
  | nil => exact absurd rfl hne
  | append_singleton ds c ih =>
    obtain ⟨hsmall, hc⟩ := digitChar_of_isDigit (hdigits c (by simp))
    have hvalue : Nat.ofDigitChars 10 (ds ++ [c]) 0
        = 10 * Nat.ofDigitChars 10 ds 0 + (c.toNat - '0'.toNat) := by
      rw [Nat.ofDigitChars_append, Nat.ofDigitChars_cons, Nat.ofDigitChars_nil]
    have hlast : Nat.toDigits 10 (c.toNat - '0'.toNat) = [c] := by
      rw [Nat.toDigits_of_lt_base hsmall, hc]
    cases ds with
    | nil => rwa [hvalue, Nat.ofDigitChars_nil, Nat.mul_zero, Nat.zero_add]
    | cons d ds =>
      have hd : d ≠ '0' := by
        rintro rfl
        have hlength := hzero rfl
        simp at hlength
      have hfront : Nat.toDigits 10 (Nat.ofDigitChars 10 (d :: ds) 0) = d :: ds :=
        ih (fun e he => hdigits e (List.mem_append_left _ he)) (List.cons_ne_nil d ds)
          fun h => absurd (Option.some.inj h) hd
      -- only zero is written with a zero at its beginning
      have hpositive : 0 < Nat.ofDigitChars 10 (d :: ds) 0 := by
        by_contra hnot
        rw [Nat.eq_zero_of_not_pos hnot, Nat.toDigits_zero] at hfront
        exact hd (List.cons.inj hfront).1.symm
      rw [hvalue, ← Nat.toDigits_append_toDigits (by decide) hpositive hsmall, hfront, hlast]

theorem octet?_toDigits : ∀ n ≤ 255, octet? (Nat.toDigits 10 n) = some n := by
  decide +kernel

/-- An octet is read from the decimal digits of a number up to 255 and from nothing else. -/
theorem octet?_eq_some_iff {cs : List Char} {n : Nat} :
    octet? cs = some n ↔ n ≤ 255 ∧ cs = Nat.toDigits 10 n := by
  constructor
  · intro h
    dsimp only [octet?] at h
    split_ifs at h with hform hzero hlarge
    simp only [Bool.or_eq_true, List.isEmpty_iff, decide_eq_true_eq, Bool.not_eq_true', Bool.eq_false_iff,
      List.all_eq_true, not_or, not_not] at hform
    simp only [Bool.and_eq_true, decide_eq_true_eq, not_and] at hzero
    obtain ⟨⟨hne, -⟩, hdigits⟩ := hform
    obtain rfl := Option.some.inj h
    refine ⟨Nat.le_of_not_lt hlarge, (toDigits_ofDigitChars hdigits hne fun hhead => ?_).symm⟩
    have hpositive := List.length_pos_of_ne_nil hne
    by_contra hlength
    exact hzero (by omega) hhead
  · rintro ⟨hn, rfl⟩
    exact octet?_toDigits n hn

/-! ## Dotted addresses -/

/-- Four octets in decimal with dots between them. -/
def dotted (a b c d : Nat) : String :=
  s!"{a}.{b}.{c}.{d}"

/-- An address in writing is its four numbers with points between them. -/
theorem toList_dotted (a b c d : Nat) :
    (dotted a b c d).toList = ['.'].intercalate ([a, b, c, d].map (Nat.toDigits 10)) := by
  have hdot : (toString ".").toList = ['.'] := rfl
  simp [dotted, List.intercalate_cons_cons, hdot]

/-- The pieces between the places of one character are those of the library. -/
theorem pieces_eq_splitOn (c : Char) (cs : List Char) : pieces (· = c) cs = cs.splitOn c := by
  rw [Text.pieces_eq_splitOnP, List.splitOn]
  rfl

/-- An address is read from what it looks like in writing and from nothing else. -/
theorem ipv4?_eq_some_iff {cs : List Char} {a b c d : Nat} :
    ipv4? cs = some (a, b, c, d) ↔
      (a ≤ 255 ∧ b ≤ 255 ∧ c ≤ 255 ∧ d ≤ 255) ∧ cs = (dotted a b c d).toList := by
  rw [toList_dotted]
  constructor
  · intro h
    unfold ipv4? at h
    split at h
    · next w x y z hpieces =>
      simp only [Option.bind_eq_bind, Option.bind_eq_some_iff, Option.pure_def, Option.some.injEq,
        Prod.mk.injEq, octet?_eq_some_iff] at h
      obtain ⟨a, ⟨ha, rfl⟩, b, ⟨hb, rfl⟩, c, ⟨hc, rfl⟩, d, ⟨hd, rfl⟩, rfl, rfl, rfl, rfl⟩ := h
      -- the pieces joined again are the text
      have hjoined : ['.'].intercalate (cs.splitOn '.') = cs := List.intercalate_splitOn '.'
      rw [← pieces_eq_splitOn, hpieces] at hjoined
      exact ⟨⟨ha, hb, hc, hd⟩, hjoined.symm⟩
    · cases h
  · rintro ⟨⟨ha, hb, hc, hd⟩, rfl⟩
    have hpieces : pieces (· = '.') (['.'].intercalate ([a, b, c, d].map (Nat.toDigits 10)))
        = [Nat.toDigits 10 a, Nat.toDigits 10 b, Nat.toDigits 10 c, Nat.toDigits 10 d] := by
      rw [pieces_eq_splitOn]
      refine List.splitOn_intercalate '.' ?_ (by simp)
      intro w hw hdot
      obtain ⟨n, -, rfl⟩ := List.mem_map.mp hw
      cases Nat.isDigit_of_mem_toDigits (by decide) (by decide) hdot
    rw [ipv4?, hpieces]
    dsimp only
    rw [octet?_toDigits a ha, octet?_toDigits b hb, octet?_toDigits c hc, octet?_toDigits d hd]
    rfl

/-! ## Addresses with blanks around them -/

/-- A text is the IPv4 address of four octets, blanks around it aside. -/
def IsAddress (ip : String) (a b c d : Nat) : Prop :=
  ipv4? (trim ip.toList) = some (a, b, c, d)

instance (ip : String) (a b c d : Nat) : Decidable (IsAddress ip a b c d) :=
  inferInstanceAs (Decidable (_ = _))

/-- An address in writing has no blanks. -/
theorem isBlank_of_mem_dotted {a b c d : Nat} {x : Char} (hx : x ∈ (dotted a b c d).toList) :
    isBlank x = false := by
  rw [toList_dotted, ← Text.join_eq_intercalate] at hx
  obtain hdot | ⟨w, hw, hxw⟩ := Text.mem_of_mem_join hx
  · obtain rfl := List.mem_singleton.mp hdot
    rfl
  · obtain ⟨n, -, rfl⟩ := List.mem_map.mp hw
    exact Text.isBlank_of_isDigit (Nat.isDigit_of_mem_toDigits (by decide) (by decide) hxw)

/-- A text that is read as an address is that address. -/
theorem isAddress_of_ipv4? {ip : String} {a b c d : Nat} (h : ipv4? ip.toList = some (a, b, c, d)) :
    IsAddress ip a b c d := by
  have htrim : trim ip.toList = ip.toList := by
    rw [(ipv4?_eq_some_iff.mp h).2]
    exact Text.trim_of_forall fun x => isBlank_of_mem_dotted
  rwa [IsAddress, htrim]

/-- Four octets make an address. -/
theorem isAddress_dotted {a b c d : Nat} (ha : a ≤ 255) (hb : b ≤ 255) (hc : c ≤ 255) (hd : d ≤ 255) :
    IsAddress (dotted a b c d) a b c d :=
  isAddress_of_ipv4? (ipv4?_eq_some_iff.mpr ⟨⟨ha, hb, hc, hd⟩, rfl⟩)

section

variable {ip : String} {a b c d : Nat} (h : IsAddress ip a b c d)

include h

theorem IsAddress.last_le : d ≤ 255 :=
  (ipv4?_eq_some_iff.mp h).1.2.2.2

/-- The seed of an address is the number that its last two octets make. -/
theorem IsAddress.seed_eq : seed ip = c * 256 + d := by
  rw [seed, show ipv4? (trim ip.toList) = some (a, b, c, d) from h]

end

end TrafficMap.Identity
