import Mathlib
import TrafficMap.Proofs.Settings.Spelling
import TrafficMap.Proofs.Text.Words

/-!
# Typed texts

A text that somebody types is guessed to be what it looks like (`Foreign`): a truth value, a number, a quoted text, a
list or a table. One that looks like none of these is a text, and it stays as it was typed (`value_of_not_foreign`).
-/

namespace TrafficMap.Guess

open Json (Value)

/-! ## Numbers -/

/-- The texts of numbers. -/
inductive Numeral : List Char → Value → Prop
  | whole {cs : List Char} {n : ℕ} (h : digits? cs = some n) (hn : n < 2 ^ 64) : Numeral cs (.ofNat n)
  | plus {cs : List Char} {n : ℕ} (h : digits? cs = some n) (hn : n < 2 ^ 64) : Numeral ('+' :: cs) (.ofNat n)
  | minus {cs : List Char} {n : ℕ} (h : digits? cs = some n) (hn : n ≤ 2 ^ 63) :
      Numeral ('-' :: cs) (.ofInt (-(n : ℤ)))
  | point {cs : List Char} {w : Decimal.Written} (hpoint : '.' ∈ cs) (h : Decimal.read? cs = some w) :
      Numeral cs (.number (.float w.value))

/-- The characters of numbers. -/
def isNumeric (c : Char) : Bool :=
  c.isDigit || ['+', '-', '.', 'e', 'E'].contains c

/-- A number is read from one or more digits, and it is their value. -/
theorem digits?_eq_some_iff {cs : List Char} {n : ℕ} :
    digits? cs = some n ↔ (cs ≠ [] ∧ ∀ c ∈ cs, c.isDigit) ∧ Decimal.ofDigits cs = n := by
  simp [digits?]

theorem isNumeric_of_isDigit {c : Char} (h : c.isDigit) : isNumeric c := by
  rw [isNumeric, h, Bool.true_or]

theorem isNumeric_of_readExponent? {cs : List Char} {e : ℤ} (h : Decimal.readExponent? cs = some e) :
    ∀ c ∈ cs, isNumeric c := by
  unfold Decimal.readExponent? at h
  split at h
  next negative digits hsign =>
  split_ifs at h with hdigits
  simp only [Bool.or_eq_true, not_or, Bool.not_eq_true, Bool.not_eq_false', List.all_eq_true] at hdigits
  have hnumeric : ∀ c ∈ digits, isNumeric c := fun c hc => isNumeric_of_isDigit (hdigits.2 c hc)
  split at hsign <;> cases hsign
  · exact List.forall_mem_cons.mpr ⟨rfl, hnumeric⟩
  · exact List.forall_mem_cons.mpr ⟨rfl, hnumeric⟩
  · exact hnumeric

theorem isNumeric_of_exponent {tail : List Char} {e : ℤ}
    (h : (match tail with
      | [] => some 0
      | c :: r => if c = 'e' || c = 'E' then Decimal.readExponent? r else none) = some e) :
    ∀ c ∈ tail, isNumeric c := by
  split at h
  · exact nofun
  · next c r =>
    split_ifs at h with hmark
    refine List.forall_mem_cons.mpr ⟨?_, isNumeric_of_readExponent? h⟩
    rw [Bool.or_eq_true, decide_eq_true_eq, decide_eq_true_eq] at hmark
    obtain hmark | hmark := hmark <;> rw [hmark] <;> rfl

/-- A decimal number without a sign is made of numeric characters. -/
theorem isNumeric_of_readUnsigned? {negative : Bool} {cs : List Char} {w : Decimal.Written}
    (h : Decimal.readUnsigned? negative cs = some w) : ∀ c ∈ cs, isNumeric c := by
  have hrun (ds : List Char) : ∀ c ∈ ds.takeWhile Char.isDigit, isNumeric c := fun c hc =>
    isNumeric_of_isDigit (List.mem_takeWhile_imp hc)
  have hbehind : ∀ c ∈ cs.dropWhile Char.isDigit, isNumeric c := by
    unfold Decimal.readUnsigned? at h
    dsimp only at h
    split at h
    · next r hdrop =>
      split_ifs at h
      obtain ⟨e, hexponent, -⟩ := Option.map_eq_some_iff.mp h
      rw [hdrop, ← List.takeWhile_append_dropWhile (p := Char.isDigit) (l := r)]
      exact List.forall_mem_cons.mpr
        ⟨rfl, List.forall_mem_append.mpr ⟨hrun r, isNumeric_of_exponent hexponent⟩⟩
    · split_ifs at h
      obtain ⟨e, hexponent, -⟩ := Option.map_eq_some_iff.mp h
      exact isNumeric_of_exponent hexponent
  rw [← List.takeWhile_append_dropWhile (p := Char.isDigit) (l := cs)]
  exact List.forall_mem_append.mpr ⟨hrun cs, hbehind⟩

/-- A decimal number is made of numeric characters. -/
theorem isNumeric_of_read? {cs : List Char} {w : Decimal.Written} (h : Decimal.read? cs = some w) :
    ∀ c ∈ cs, isNumeric c := by
  unfold Decimal.read? at h
  split at h
  · exact List.forall_mem_cons.mpr ⟨rfl, isNumeric_of_readUnsigned? h⟩
  · exact List.forall_mem_cons.mpr ⟨rfl, isNumeric_of_readUnsigned? h⟩
  · exact isNumeric_of_readUnsigned? h

/-- Every numeral is made of numeric characters. -/
theorem Numeral.isNumeric {cs : List Char} {v : Value} (h : Numeral cs v) : ∀ c ∈ cs, isNumeric c := by
  cases h with
  | whole h => exact fun c hc => isNumeric_of_isDigit ((digits?_eq_some_iff.mp h).1.2 c hc)
  | plus h =>
    exact List.forall_mem_cons.mpr ⟨rfl, fun c hc => isNumeric_of_isDigit ((digits?_eq_some_iff.mp h).1.2 c hc)⟩
  | minus h =>
    exact List.forall_mem_cons.mpr ⟨rfl, fun c hc => isNumeric_of_isDigit ((digits?_eq_some_iff.mp h).1.2 c hc)⟩
  | point hpoint h => exact isNumeric_of_read? h

/-- What is read as a whole number is a numeral. -/
theorem numeral_of_whole? {cs : List Char} {v : Value} (h : whole? cs = some v) : Numeral cs v := by
  unfold whole? at h
  split at h <;> obtain ⟨n, hn, h⟩ := Option.bind_eq_some_iff.mp h <;> split_ifs at h with hle <;> cases h
  · exact .minus hn hle
  · exact .plus hn hle
  · exact .whole hn hle

/-- What is read as a decimal number is a numeral. -/
theorem numeral_of_float? {cs : List Char} {v : Value} (h : float? cs = some v) : Numeral cs v := by
  unfold float? at h
  split_ifs at h with hpoint
  obtain ⟨w, hw, rfl⟩ := Option.map_eq_some_iff.mp h
  exact .point (List.contains_iff_mem.mp hpoint) hw

/-- A text without quotation marks is a number or itself. -/
theorem numeral_plain (cs : List Char) : Numeral cs (plain cs) ∨ plain cs = .string (String.ofList cs) := by
  rw [plain]
  cases hfloat : float? cs with
  | some v => exact .inl (numeral_of_float? hfloat)
  | none =>
    cases hwhole : whole? cs with
    | some v => exact .inl (numeral_of_whole? hwhole)
    | none => exact .inr rfl

/-- A text without a point that is a whole number stands for that number. -/
theorem plain_of_whole? {cs : List Char} {v : Value} (hpoint : '.' ∉ cs) (h : whole? cs = some v) :
    plain cs = v := by
  have hfloat : float? cs = none := if_neg (mt List.contains_iff_mem.mp hpoint)
  rw [plain, hfloat, h]
  rfl

theorem not_mem_of_digits? {cs : List Char} {n : ℕ} (h : digits? cs = some n) {c : Char} (hc : c.isDigit = false) :
    c ∉ cs := by
  intro hmem
  rw [(digits?_eq_some_iff.mp h).1.2 c hmem] at hc
  cases hc

/-- A numeral stands for its number. -/
theorem plain_of_numeral {cs : List Char} {v : Value} (h : Numeral cs v) : plain cs = v := by
  cases h with
  | @whole _ n h hn =>
    have hwhole : whole? cs = some (.ofNat n) := by
      unfold whole?
      split
      · exact absurd List.mem_cons_self (not_mem_of_digits? h rfl)
      · exact absurd List.mem_cons_self (not_mem_of_digits? h rfl)
      · rw [h, Option.bind_some, Nat.pow_eq, if_pos hn]
    exact plain_of_whole? (not_mem_of_digits? h rfl) hwhole
  | @plus cs n h hn =>
    have hwhole : whole? ('+' :: cs) = some (.ofNat n) := by
      rw [whole?, h, Option.bind_some, Nat.pow_eq, if_pos hn]
    exact plain_of_whole? (by simpa using not_mem_of_digits? h rfl) hwhole
  | @minus cs n h hn =>
    have hwhole : whole? ('-' :: cs) = some (.ofInt (-(n : ℤ))) := by
      rw [whole?, h, Option.bind_some, Nat.pow_eq, if_pos hn]
    exact plain_of_whole? (by simpa using not_mem_of_digits? h rfl) hwhole
  | point hpoint h =>
    rw [plain, float?, if_pos (List.contains_iff_mem.mpr hpoint), h]
    rfl

/-- No numeric character is a mark of the grammar. -/
theorem isMark_of_isNumeric {c : Char} (h : isNumeric c) : isMark c = false := by
  rw [← Bool.not_eq_true]
  intro hmark
  simp only [isMark, Bool.or_eq_true, decide_eq_true_eq] at hmark
  obtain (((rfl | rfl) | rfl) | rfl) | rfl := hmark <;> cases h

theorem isBlank_of_isNumeric {c : Char} (h : isNumeric c) : Text.isBlank c = false := by
  obtain hdigit | hmark := Bool.or_eq_true_iff.mp h
  · exact Text.isBlank_of_isDigit hdigit
  · simp only [List.contains_iff_mem, List.mem_cons, List.not_mem_nil, or_false] at hmark
    obtain rfl | rfl | rfl | rfl | rfl := hmark <;> rfl

/-! ## Typed texts -/

/-- A text that somebody types: printable characters of ASCII, without spaces at its ends. -/
structure Typed (cs : List Char) : Prop where
  nonempty : cs ≠ []
  printable : ∀ c ∈ cs, 0x20 ≤ c.toNat ∧ c.toNat ≤ 0x7e
  start : cs.head? ≠ some ' '
  ending : cs.getLast? ≠ some ' '

section

variable {c : Char} {cs : List Char}

/-- The only blank that is printable is the space. -/
theorem eq_space_of_isBlank (hc : 0x20 ≤ c.toNat ∧ c.toNat ≤ 0x7e) (h : Text.isBlank c) : c = ' ' := by
  simp only [Text.isBlank, Bool.or_eq_true, Bool.and_eq_true, decide_eq_true_eq] at h
  have hcode : c.toNat = ' '.toNat := by
    have : ' '.toNat = 0x20 := rfl
    omega
  exact Char.toNat_inj.mp hcode

theorem text_isBlank_of_isBlank (h : isBlank c) : Text.isBlank c := by
  simp only [isBlank, Bool.or_eq_true, decide_eq_true_eq] at h
  obtain (((rfl | rfl) | rfl) | rfl) | rfl := h <;> rfl

/-- A typed text does not begin with a blank. -/
theorem Typed.not_isBlank_head (h : Typed cs) (hc : c ∈ cs.head?) : Text.isBlank c = false := by
  rw [← Bool.not_eq_true]
  intro hblank
  have hspace := eq_space_of_isBlank (h.printable c (List.mem_of_mem_head? hc)) hblank
  exact h.start (hspace ▸ hc)

/-- A typed text does not end with a blank. -/
theorem Typed.not_isBlank_last (h : Typed cs) (hc : c ∈ cs.getLast?) : Text.isBlank c = false := by
  rw [← Bool.not_eq_true]
  intro hblank
  have hspace := eq_space_of_isBlank (h.printable c (List.mem_of_mem_getLast? hc)) hblank
  exact h.ending (hspace ▸ hc)

theorem dropWhile_of_head {p : Char → Bool} (h : ∀ c ∈ cs.head?, p c = false) : cs.dropWhile p = cs := by
  cases cs with
  | nil => rfl
  | cons c cs => rw [List.dropWhile_cons, h c rfl, if_neg Bool.false_ne_true]

/-- A typed text has no blanks to trim. -/
theorem Typed.trim (h : Typed cs) : Text.trim cs = cs := by
  rw [Text.trim, dropWhile_of_head fun c => h.not_isBlank_head, Text.dropEnd_eq_rdropWhile,
    List.rdropWhile_eq_self_iff]
  intro hne
  rw [h.not_isBlank_last (List.getLast?_eq_some_getLast hne)]
  exact Bool.false_ne_true

theorem skipBlanks_of_head (h : ∀ c ∈ cs.head?, Text.isBlank c = false) : skipBlanks cs = cs :=
  dropWhile_of_head fun c hc => Bool.eq_false_of_not_eq_true fun hblank =>
    Bool.false_ne_true ((h c hc).symm.trans (text_isBlank_of_isBlank hblank))

/-- A typed text has no blanks to skip. -/
theorem Typed.skipBlanks (h : Typed cs) : skipBlanks cs = cs :=
  skipBlanks_of_head fun _ => h.not_isBlank_head

/-- A typed text has no blanks at its end. -/
theorem Typed.eq_nil_of_suffix (h : Typed cs) {r : List Char} (hr : r <:+ cs) (hblank : Guess.skipBlanks r = []) :
    r = [] := by
  by_contra hne
  have hlast : r.getLast hne ∈ cs.getLast? := by
    have hcs : cs ≠ [] := h.nonempty
    rw [List.getLast?_eq_some_getLast hcs, hr.getLast hne]
    rfl
  have hnot := h.not_isBlank_last hlast
  rw [text_isBlank_of_isBlank (List.dropWhile_eq_nil_iff.mp hblank _ (List.getLast_mem hne))] at hnot
  cases hnot

/-! ## Texts that look like something else -/

/-- The texts that look like something else than a text, and what they are taken for. -/
inductive Foreign : List Char → Value → Prop
  | truth : Foreign ['t', 'r', 'u', 'e'] (.bool true)
  | falsity : Foreign ['f', 'a', 'l', 's', 'e'] (.bool false)
  | number {cs : List Char} {v : Value} (h : Numeral cs v) : Foreign cs v
  | quoted {r s : List Char} (h : Toml.Quoted.basic? r = some (s, [])) :
      Foreign ('"' :: r) (.string (String.ofList s))
  | character (c : Char) : Foreign ['\'', c, '\''] (.string (String.singleton c))
  | list {r : List Char} {v : Value} (h : Spells .items r v []) : Foreign ('[' :: r) v
  | table {r : List Char} {v : Value} (h : Spells .members r v []) : Foreign ('\x7b' :: r) v

/-- A text of numeric characters begins with no word and no mark. -/
theorem bare_of_isNumeric (h : ∀ c ∈ cs, isNumeric c) : Bare cs where
  truth hfront := by cases h 't' (hfront.subset (by simp))
  falsity hfront := by cases h 'f' (hfront.subset (by simp))
  mark c hc hhead := by
    have hnumeric := h c (List.mem_of_mem_head? hhead)
    simp only [List.mem_cons, List.not_mem_nil, or_false] at hc
    obtain rfl | rfl | rfl | rfl := hc <;> cases hnumeric

/-- A text without marks that begins like no other value is spelled without quotation marks. -/
theorem Bare.spells (h : Bare cs) (hskip : skipBlanks cs = cs) (hmark : ∀ c ∈ cs, isMark c = false)
    (htrim : Text.trim cs = cs) : Spells .value cs (plain cs) [] := by
  have hnot : ∀ c ∈ cs, (!isMark c) = true := fun c hc => by rw [hmark c hc]; rfl
  have hspells := Spells.plain (show Bare (skipBlanks cs) from hskip.symm ▸ h)
  rwa [hskip, List.takeWhile_eq_self_iff.mpr hnot, List.dropWhile_eq_nil_iff.mpr hnot, htrim] at hspells

/-- A numeral spells its number. -/
theorem spells_of_numeral {v : Value} (h : Numeral cs v) : Spells .value cs v [] := by
  have hnumeric := h.isNumeric
  have hspells := (bare_of_isNumeric hnumeric).spells
    (skipBlanks_of_head fun c hc => isBlank_of_isNumeric (hnumeric c (List.mem_of_mem_head? hc)))
    (fun c hc => isMark_of_isNumeric (hnumeric c hc))
    (Text.trim_of_forall fun c hc => isBlank_of_isNumeric (hnumeric c hc))
  rwa [plain_of_numeral h] at hspells

/-- What stands for another value than its own text spells that value. -/
theorem Foreign.spells {v : Value} (h : Foreign cs v) : Spells .value cs v [] := by
  cases h with
  | truth => exact .truth (r := []) rfl
  | falsity => exact .falsity (r := []) rfl
  | number h => exact spells_of_numeral h
  | quoted h => exact .quoted rfl h
  | character c => exact .character (r := []) rfl
  | list h => exact .list rfl h
  | table h => exact .table rfl h

/-- A typed text spells a foreign value or itself. -/
theorem Typed.foreign_of_spells (htyped : Typed cs) {v : Value} (h : Spells .value cs v []) :
    Foreign cs v ∨ v = .string (String.ofList cs) := by
  have hskip := htyped.skipBlanks
  -- behind the value there are only blanks, and a typed text does not end in blanks
  generalize hrest : ([] : List Char) = rest at h
  cases h with
  | @truth _ r h =>
    rw [hskip] at h
    have hr := htyped.eq_nil_of_suffix ⟨['t', 'r', 'u', 'e'], h.symm⟩ hrest.symm
    rw [h, hr]
    exact .inl .truth
  | @falsity _ r h =>
    rw [hskip] at h
    have hr := htyped.eq_nil_of_suffix ⟨['f', 'a', 'l', 's', 'e'], h.symm⟩ hrest.symm
    rw [h, hr]
    exact .inl .falsity
  | @quoted _ r s rest h hs =>
    rw [hskip] at h
    have hsuffix := (suffix_of_basic? hs).1.trans (List.suffix_cons '"' r)
    rw [htyped.eq_nil_of_suffix (h ▸ hsuffix) hrest.symm] at hs
    rw [h]
    exact .inl (.quoted hs)
  | @character _ r c h =>
    rw [hskip] at h
    have hr := htyped.eq_nil_of_suffix ⟨['\'', c, '\''], h.symm⟩ hrest.symm
    rw [h, hr]
    exact .inl (.character c)
  | @list _ r rest v h hv =>
    rw [hskip] at h
    have hsuffix := hv.suffix.trans (List.suffix_cons '[' r)
    rw [htyped.eq_nil_of_suffix (h ▸ hsuffix) hrest.symm] at hv
    rw [h]
    exact .inl (.list hv)
  | @table _ r rest v h hv =>
    rw [hskip] at h
    have hsuffix := hv.suffix.trans (List.suffix_cons '\x7b' r)
    rw [htyped.eq_nil_of_suffix (h ▸ hsuffix) hrest.symm] at hv
    rw [h]
    exact .inl (.table hv)
  | plain h =>
    rw [hskip] at hrest ⊢
    rw [List.takeWhile_eq_self_iff.mpr (List.dropWhile_eq_nil_iff.mp hrest.symm), htyped.trim]
    exact (numeral_plain cs).imp_left .number

/-- A typed text is guessed to be what it looks like. -/
theorem value_of_foreign {text : String} {v : Value} (h : Foreign text.toList v) : value text = v :=
  value_of_spells h.spells

/-- A typed text that looks like nothing else is a text. -/
theorem value_of_not_foreign {text : String} (htyped : Typed text.toList) (h : ∀ v, ¬Foreign text.toList v) :
    value text = .string text := by
  by_cases hspells : ∃ v, Spells .value text.toList v []
  · obtain ⟨v, hv⟩ := hspells
    obtain hforeign | rfl := htyped.foreign_of_spells hv
    · exact absurd hforeign (h v)
    · rw [value_of_spells hv, String.ofList_toList]
  · exact value_of_not_spells (not_exists.mp hspells)

theorem exists_number_of_numeral {v : Value} (h : Numeral cs v) : ∃ n, v = .number n := by
  cases h with
  | whole => exact ⟨_, rfl⟩
  | plus => exact ⟨_, rfl⟩
  | minus =>
    rw [Value.ofInt]
    split_ifs <;> exact ⟨_, rfl⟩
  | point => exact ⟨_, rfl⟩

/-- No text stands for nothing. -/
theorem Foreign.ne_null {v : Value} (h : Foreign cs v) : v ≠ .null := by
  cases h with
  | number h =>
    obtain ⟨n, rfl⟩ := exists_number_of_numeral h
    exact nofun
  | list h => cases h <;> exact nofun
  | table h => cases h <;> exact nofun
  | _ => exact nofun

/-- What is taken for another text loses its quotation marks. -/
theorem ne_of_foreign_string {t : String} (h : Foreign cs (.string t)) : t.toList ≠ cs := by
  generalize hv : Value.string t = v at h
  cases h with
  | truth => cases hv
  | falsity => cases hv
  | number h =>
    obtain ⟨n, rfl⟩ := exists_number_of_numeral h
    cases hv
  | @quoted r s h =>
    cases hv
    intro hsame
    have hlength := congrArg List.length hsame
    have hquoted := (suffix_of_basic? h).2
    rw [String.toList_ofList, List.length_cons] at hlength
    omega
  | character c =>
    cases hv
    rw [String.toList_singleton]
    simp
  | list h => cases h <;> cases hv
  | table h => cases h <;> cases hv

end

end TrafficMap.Guess
