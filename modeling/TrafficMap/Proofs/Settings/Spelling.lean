import Mathlib
import TrafficMap.Proofs.Json.DistinctKeys
import TrafficMap.Settings.Guess

/-!
# How guessed values are spelled

A grammar of the texts that are guessed to be values (`Spells`), with what is left of a text behind the value. The
reader finds what the grammar says and nothing else (`value?_eq_some_iff`), and its fuel never runs out on the way.
No key occurs twice in a value that is spelled (`distinctKeys_value`).
-/

namespace TrafficMap.Guess

open Json (Value)

/-! ## The grammar -/

/-- A text at whose front there is none of the values that are marked by their first characters. -/
structure Bare (cs : List Char) : Prop where
  truth : ¬['t', 'r', 'u', 'e'] <+: cs
  falsity : ¬['f', 'a', 'l', 's', 'e'] <+: cs
  mark : ∀ c ∈ ['"', '\'', '[', '\x7b'], cs.head? ≠ some c

/-- The parts that a text consists of: values, and what follows the opening mark of a list or a table. -/
inductive Part where
  | value
  | items
  | members

/-- What a text spells at its front, and the text behind it. -/
inductive Spells : Part → List Char → Value → List Char → Prop
  | truth {cs r : List Char} (h : skipBlanks cs = 't' :: 'r' :: 'u' :: 'e' :: r) :
      Spells .value cs (.bool true) (skipBlanks r)
  | falsity {cs r : List Char} (h : skipBlanks cs = 'f' :: 'a' :: 'l' :: 's' :: 'e' :: r) :
      Spells .value cs (.bool false) (skipBlanks r)
  | quoted {cs r s rest : List Char} (h : skipBlanks cs = '"' :: r) (hs : Toml.Quoted.basic? r = some (s, rest)) :
      Spells .value cs (.string (String.ofList s)) (skipBlanks rest)
  | character {cs r : List Char} {c : Char} (h : skipBlanks cs = '\'' :: c :: '\'' :: r) :
      Spells .value cs (.string (String.singleton c)) (skipBlanks r)
  | list {cs r rest : List Char} {v : Value} (h : skipBlanks cs = '[' :: r) (hv : Spells .items r v rest) :
      Spells .value cs v (skipBlanks rest)
  | table {cs r rest : List Char} {v : Value} (h : skipBlanks cs = '\x7b' :: r) (hv : Spells .members r v rest) :
      Spells .value cs v (skipBlanks rest)
  | plain {cs : List Char} (h : Bare (skipBlanks cs)) :
      Spells .value cs (plain (Text.trim ((skipBlanks cs).takeWhile fun c => !isMark c)))
        ((skipBlanks cs).dropWhile fun c => !isMark c)
  | noItem {r : List Char} : Spells .items (']' :: r) (.array []) r
  | lastItem {cs r : List Char} {v : Value} (h : cs.head? ≠ some ']') (hv : Spells .value cs v (']' :: r)) :
      Spells .items cs (.array [v]) r
  | item {cs r rest : List Char} {v : Value} {vs : List Value} (h : cs.head? ≠ some ']')
      (hv : Spells .value cs v (',' :: r)) (hvs : Spells .items r (.array vs) rest) :
      Spells .items cs (.array (v :: vs)) rest
  | noMember {r : List Char} : Spells .members ('\x7d' :: r) (.object []) r
  | lastMember {cs after r rest : List Char} {key : String} {v : Value} (h : cs.head? ≠ some '\x7d')
      (hkey : key? (skipBlanks cs) = some (key, after)) (heq : skipBlanks after = '=' :: r)
      (hv : Spells .value r v ('\x7d' :: rest)) : Spells .members cs (.object [(key, v)]) rest
  | member {cs after r rest rest' : List Char} {key : String} {v : Value} {ms : List (String × Value)}
      (h : cs.head? ≠ some '\x7d') (hkey : key? (skipBlanks cs) = some (key, after))
      (heq : skipBlanks after = '=' :: r) (hv : Spells .value r v (',' :: rest))
      (hms : Spells .members rest (.object ms) rest') :
      Spells .members cs (.object (if ms.any (·.1 = key) then ms else (key, v) :: ms)) rest'

/-! ## The reader finds what is spelled -/

/-- What the reader splits off within some number of steps is spelled there. -/
structure Sound (fuel : ℕ) : Prop where
  value : ∀ {cs v r}, value? fuel cs = some (v, r) → Spells .value cs v r
  items : ∀ {cs vs r}, items? fuel cs = some (vs, r) → Spells .items cs (.array vs) r
  members : ∀ {cs ms r}, pairs? fuel cs = some (ms, r) → Spells .members cs (.object ms) r

theorem head?_ne_of_forall {cs : List Char} {c : Char} (h : ∀ r, cs = c :: r → False) : cs.head? ≠ some c := by
  intro hhead
  obtain ⟨r, hr⟩ := List.head?_eq_some_iff.mp hhead
  exact h r hr

/-- A value that is read is spelled, if what is read within fewer steps is. -/
theorem Sound.value_succ {fuel : ℕ} (hs : Sound fuel) {cs r : List Char} {v : Value}
    (h : value? (fuel + 1) cs = some (v, r)) : Spells .value cs v r := by
  unfold value? at h
  split at h
  · next hcs =>
    cases h
    exact .truth hcs
  · next hcs =>
    cases h
    exact .falsity hcs
  · next hcs =>
    obtain ⟨⟨s, rest⟩, hquoted, hpair⟩ := Option.map_eq_some_iff.mp h
    cases hpair
    exact .quoted hcs hquoted
  · next hcs =>
    cases h
    exact .character hcs
  · cases h
  · next hcs =>
    obtain ⟨⟨items, rest⟩, hitems, hpair⟩ := Option.map_eq_some_iff.mp h
    cases hpair
    exact .list hcs (hs.items hitems)
  · next hcs =>
    obtain ⟨⟨members, rest⟩, hmembers, hpair⟩ := Option.map_eq_some_iff.mp h
    cases hpair
    exact .table hcs (hs.members hmembers)
  · next htruth hfalsity hquote hchar hapostrophe hlist htable =>
    cases h
    refine .plain ⟨?_, ?_, ?_⟩
    · rintro ⟨r, hr⟩
      exact htruth r hr.symm
    · rintro ⟨r, hr⟩
      exact hfalsity r hr.symm
    · intro c hc
      simp only [List.mem_cons, List.not_mem_nil, or_false] at hc
      rcases hc with rfl | rfl | rfl | rfl
      · exact head?_ne_of_forall hquote
      · exact head?_ne_of_forall hapostrophe
      · exact head?_ne_of_forall hlist
      · exact head?_ne_of_forall htable

/-- The same of the items of a list. -/
theorem Sound.items_succ {fuel : ℕ} (hs : Sound fuel) {cs r : List Char} {vs : List Value}
    (h : items? (fuel + 1) cs = some (vs, r)) : Spells .items cs (.array vs) r := by
  unfold items? at h
  split at h
  · cases h
    exact .noItem
  · next hclose =>
    obtain ⟨⟨v, rest⟩, hv, h⟩ := Option.bind_eq_some_iff.mp h
    dsimp only at h
    split at h
    · obtain ⟨⟨vs', rest'⟩, hvs, hpair⟩ := Option.bind_eq_some_iff.mp h
      cases hpair
      exact .item (head?_ne_of_forall hclose) (hs.value hv) (hs.items hvs)
    · cases h
      exact .lastItem (head?_ne_of_forall hclose) (hs.value hv)
    · cases h

/-- The same of the members of a table. -/
theorem Sound.members_succ {fuel : ℕ} (hs : Sound fuel) {cs r : List Char} {ms : List (String × Value)}
    (h : pairs? (fuel + 1) cs = some (ms, r)) : Spells .members cs (.object ms) r := by
  unfold pairs? at h
  split at h
  · cases h
    exact .noMember
  · next hclose =>
    obtain ⟨⟨key, after⟩, hkey, h⟩ := Option.bind_eq_some_iff.mp h
    dsimp only at h
    split at h
    · next heq =>
      obtain ⟨⟨v, rest⟩, hv, h⟩ := Option.bind_eq_some_iff.mp h
      dsimp only at h
      split at h
      · obtain ⟨⟨ms', rest'⟩, hms, hpair⟩ := Option.bind_eq_some_iff.mp h
        cases hpair
        exact .member (head?_ne_of_forall hclose) hkey heq (hs.value hv) (hs.members hms)
      · cases h
        exact .lastMember (head?_ne_of_forall hclose) hkey heq (hs.value hv)
      · cases h
    · cases h

/-- Whatever is read is spelled by the text. -/
theorem sound (fuel : ℕ) : Sound fuel := by
  induction fuel with
  | zero => exact ⟨nofun, nofun, nofun⟩
  | succ fuel hs => exact ⟨hs.value_succ, hs.items_succ, hs.members_succ⟩

/-! ## What is left of a text -/

/-- What is left behind blanks is an end of the text. -/
theorem skipBlanks_suffix (cs : List Char) : skipBlanks cs <:+ cs :=
  List.dropWhile_suffix _

/-- What is left behind a mark that comes after blanks. -/
theorem suffix_of_skipBlanks_eq (before : List Char) {cs r : List Char} (h : skipBlanks cs = before ++ r) : r <:+ cs :=
  (List.suffix_append before r).trans (h ▸ skipBlanks_suffix cs)

theorem length_of_skipBlanks_eq (before : List Char) {cs r : List Char} (h : skipBlanks cs = before ++ r) :
    before.length + r.length ≤ cs.length := by
  rw [← List.length_append, ← h]
  exact (skipBlanks_suffix cs).length_le

/-- What an escape stands for comes before the rest of a quoted text. -/
theorem eq_cons_of_escaped {x? : Option Char} {rest? : Option (List Char × List Char)} {s r : List Char}
    (h : (do let x ← x?; let (s, r) ← rest?; pure (x :: s, r)) = some (s, r)) :
    ∃ x s', s = x :: s' ∧ rest? = some (s', r) := by
  obtain ⟨x, -, h⟩ := Option.bind_eq_some_iff.mp h
  obtain ⟨⟨s', r'⟩, hs, hpair⟩ := Option.bind_eq_some_iff.mp h
  cases hpair
  exact ⟨x, s', rfl, hs⟩

/-- Nothing is added to a text by quoting it, and the closing mark is taken off. -/
theorem suffix_of_basic? {cs s r : List Char} (h : Toml.Quoted.basic? cs = some (s, r)) :
    r <:+ cs ∧ s.length + r.length < cs.length := by
  fun_induction Toml.Quoted.basic? cs generalizing s r with
  | case1 => cases h
  | case2 rest =>
    cases h
    exact ⟨List.suffix_cons _ _, by simp⟩
  | case3 a b c d rest ih =>
    obtain ⟨x, s', rfl, hs⟩ := eq_cons_of_escaped h
    obtain ⟨hsuffix, hlength⟩ := ih hs
    refine ⟨hsuffix.trans (List.suffix_append ['\\', 'u', a, b, c, d] rest), ?_⟩
    simp only [List.length_cons]
    omega
  | case4 a b c d e f g i rest ih =>
    obtain ⟨x, s', rfl, hs⟩ := eq_cons_of_escaped h
    obtain ⟨hsuffix, hlength⟩ := ih hs
    refine ⟨hsuffix.trans (List.suffix_append ['\\', 'U', a, b, c, d, e, f, g, i] rest), ?_⟩
    simp only [List.length_cons]
    omega
  | case5 c rest _ _ ih =>
    obtain ⟨x, s', rfl, hs⟩ := eq_cons_of_escaped h
    obtain ⟨hsuffix, hlength⟩ := ih hs
    refine ⟨hsuffix.trans (List.suffix_append ['\\', c] rest), ?_⟩
    simp only [List.length_cons]
    omega
  | case6 c rest _ _ _ _ _ ih =>
    obtain ⟨⟨s', r'⟩, hs, hpair⟩ := Option.map_eq_some_iff.mp h
    cases hpair
    obtain ⟨hsuffix, hlength⟩ := ih hs
    refine ⟨hsuffix.trans (List.suffix_cons c rest), ?_⟩
    simp only [List.length_cons]
    omega
  | case7 => cases h

/-- What is left behind a key is an end of the text. -/
theorem suffix_of_key? {cs r : List Char} {key : String} (h : key? cs = some (key, r)) : r <:+ cs := by
  unfold key? at h
  split at h
  · obtain ⟨⟨s, r'⟩, hs, hpair⟩ := Option.map_eq_some_iff.mp h
    cases hpair
    exact (suffix_of_basic? hs).1.trans (List.suffix_cons _ _)
  · dsimp only at h
    split_ifs at h
    cases h
    exact List.dropWhile_suffix _

/-- What is left for the value of a member behind its key. -/
theorem suffix_of_member {cs after r : List Char} {key : String} (hkey : key? (skipBlanks cs) = some (key, after))
    (h : skipBlanks after = '=' :: r) : r <:+ cs ∧ r.length + 1 ≤ cs.length := by
  have hafter : after <:+ cs := (suffix_of_key? hkey).trans (skipBlanks_suffix cs)
  refine ⟨(suffix_of_skipBlanks_eq ['='] h).trans hafter, ?_⟩
  have hlength := length_of_skipBlanks_eq ['='] h
  have hle := hafter.length_le
  rw [List.length_singleton] at hlength
  omega

/-- What is left behind a part is an end of the text. -/
theorem Spells.suffix {part : Part} {cs r : List Char} {v : Value} (h : Spells part cs v r) : r <:+ cs := by
  induction h with
  | @truth cs r h =>
    exact (skipBlanks_suffix r).trans (suffix_of_skipBlanks_eq ['t', 'r', 'u', 'e'] h)
  | @falsity cs r h =>
    exact (skipBlanks_suffix r).trans (suffix_of_skipBlanks_eq ['f', 'a', 'l', 's', 'e'] h)
  | @quoted cs r s rest h hs =>
    have hrest := (skipBlanks_suffix rest).trans (suffix_of_basic? hs).1
    exact hrest.trans (suffix_of_skipBlanks_eq ['"'] h)
  | @character cs r c h =>
    exact (skipBlanks_suffix r).trans (suffix_of_skipBlanks_eq ['\'', c, '\''] h)
  | @list cs r rest v h hv ih =>
    exact ((skipBlanks_suffix rest).trans ih).trans (suffix_of_skipBlanks_eq ['['] h)
  | @table cs r rest v h hv ih =>
    exact ((skipBlanks_suffix rest).trans ih).trans (suffix_of_skipBlanks_eq ['\x7b'] h)
  | @plain cs h => exact (List.dropWhile_suffix _).trans (skipBlanks_suffix cs)
  | noItem => exact List.suffix_cons _ _
  | lastItem h hv ih => exact (List.suffix_cons _ _).trans ih
  | item h hv hvs ih ih' => exact ih'.trans ((List.suffix_cons _ _).trans ih)
  | noMember => exact List.suffix_cons _ _
  | lastMember h hkey heq hv ih =>
    exact ((List.suffix_cons _ _).trans ih).trans (suffix_of_member hkey heq).1
  | member h hkey heq hv hms ih ih' =>
    exact (ih'.trans ((List.suffix_cons _ _).trans ih)).trans (suffix_of_member hkey heq).1

/-! ## What is spelled is found -/

/-- The reader's answer on a part of a text. -/
def read? (fuel : ℕ) (cs : List Char) : Part → Option (Value × List Char)
  | .value => value? fuel cs
  | .items => (items? fuel cs).map fun (vs, r) => (.array vs, r)
  | .members => (pairs? fuel cs).map fun (ms, r) => (.object ms, r)

/-- The fuel that is enough for a part of a text. -/
def fuelFor (cs : List Char) : Part → ℕ
  | .value => 2 * cs.length + 1
  | .items => 2 * cs.length + 2
  | .members => 2 * cs.length + 2

theorem exists_eq_succ {part : Part} {cs : List Char} {fuel : ℕ} (h : fuelFor cs part ≤ fuel) :
    ∃ n, fuel = n + 1 := by
  refine Nat.exists_eq_succ_of_ne_zero ?_
  rintro rfl
  cases part <;> simp [fuelFor] at h

/-- A bare text is read up to the first mark. -/
theorem value?_of_bare {cs : List Char} (h : Bare (skipBlanks cs)) (fuel : ℕ) :
    value? (fuel + 1) cs = some (plain (Text.trim ((skipBlanks cs).takeWhile fun c => !isMark c)),
      (skipBlanks cs).dropWhile fun c => !isMark c) := by
  obtain ⟨htruth, hfalsity, hmark⟩ := h
  rw [value?]
  split
  · next r hcs => exact absurd ⟨r, hcs.symm⟩ htruth
  · next r hcs => exact absurd ⟨r, hcs.symm⟩ hfalsity
  · next hcs => exact absurd (List.head?_eq_some_iff.mpr ⟨_, hcs⟩) (hmark _ (by simp))
  · next hcs => exact absurd (List.head?_eq_some_iff.mpr ⟨_, hcs⟩) (hmark _ (by simp))
  · next hcs => exact absurd (List.head?_eq_some_iff.mpr ⟨_, hcs⟩) (hmark _ (by simp))
  · next hcs => exact absurd (List.head?_eq_some_iff.mpr ⟨_, hcs⟩) (hmark _ (by simp))
  · next hcs => exact absurd (List.head?_eq_some_iff.mpr ⟨_, hcs⟩) (hmark _ (by simp))
  · rfl

/-- The items of a list that does not end at once: a value, and the others behind a comma. -/
theorem items?_succ {cs : List Char} (h : cs.head? ≠ some ']') (fuel : ℕ) :
    items? (fuel + 1) cs = (value? fuel cs).bind fun (v, r) =>
      match r with
      | ',' :: r => (items? fuel r).bind fun (vs, r) => some (v :: vs, r)
      | ']' :: r => some ([v], r)
      | _ => none := by
  rw [items?]
  · rfl
  · intro r hr
    exact h (List.head?_eq_some_iff.mpr ⟨r, hr⟩)

/-- The members of a table that does not end at once: a key and a value, and the others behind a
comma. -/
theorem pairs?_succ {cs after r : List Char} {key : String} (h : cs.head? ≠ some '\x7d')
    (hkey : key? (skipBlanks cs) = some (key, after)) (heq : skipBlanks after = '=' :: r) (fuel : ℕ) :
    pairs? (fuel + 1) cs = (value? fuel r).bind fun (v, r) =>
      match r with
      | ',' :: r =>
        (pairs? fuel r).bind fun (ms, r) => some (if ms.any (·.1 = key) then ms else (key, v) :: ms, r)
      | '\x7d' :: r => some ([(key, v)], r)
      | _ => none := by
  rw [pairs?, hkey, Option.bind_eq_bind, Option.bind_some]
  · dsimp only
    rw [heq]
    rfl
  · intro r hr
    exact h (List.head?_eq_some_iff.mpr ⟨r, hr⟩)

/-- The reader finds what is spelled. -/
theorem Spells.read? {part : Part} {cs r : List Char} {v : Value} (h : Spells part cs v r) {fuel : ℕ}
    (hfuel : fuelFor cs part ≤ fuel) : read? fuel cs part = some (v, r) := by
  induction h generalizing fuel with
  | truth h =>
    obtain ⟨fuel, rfl⟩ := exists_eq_succ hfuel
    rw [Guess.read?, value?, h]
    rfl
  | falsity h =>
    obtain ⟨fuel, rfl⟩ := exists_eq_succ hfuel
    rw [Guess.read?, value?, h]
    rfl
  | quoted h hs =>
    obtain ⟨fuel, rfl⟩ := exists_eq_succ hfuel
    rw [Guess.read?, value?, h]
    exact Option.map_eq_some_iff.mpr ⟨_, hs, rfl⟩
  | character h =>
    obtain ⟨fuel, rfl⟩ := exists_eq_succ hfuel
    rw [Guess.read?, value?, h]
    rfl
  | @list cs r rest v h hv ih =>
    -- two steps lead to the next item, and the mark that is taken off pays for both
    obtain ⟨fuel, rfl⟩ := exists_eq_succ hfuel
    have hlength := length_of_skipBlanks_eq ['['] h
    have hrest : fuelFor r .items ≤ fuel := by
      simp only [fuelFor, List.length_singleton] at *
      omega
    obtain ⟨items, hitems, hpair⟩ := Option.map_eq_some_iff.mp (ih hrest)
    cases hpair
    rw [Guess.read?, value?, h]
    exact Option.map_eq_some_iff.mpr ⟨_, hitems, rfl⟩
  | @table cs r rest v h hv ih =>
    obtain ⟨fuel, rfl⟩ := exists_eq_succ hfuel
    have hlength := length_of_skipBlanks_eq ['\x7b'] h
    have hrest : fuelFor r .members ≤ fuel := by
      simp only [fuelFor, List.length_singleton] at *
      omega
    obtain ⟨members, hmembers, hpair⟩ := Option.map_eq_some_iff.mp (ih hrest)
    cases hpair
    rw [Guess.read?, value?, h]
    exact Option.map_eq_some_iff.mpr ⟨_, hmembers, rfl⟩
  | plain h =>
    obtain ⟨fuel, rfl⟩ := exists_eq_succ hfuel
    exact value?_of_bare h fuel
  | noItem =>
    obtain ⟨fuel, rfl⟩ := exists_eq_succ hfuel
    rw [Guess.read?, items?]
    rfl
  | @lastItem cs r v h hv ih =>
    obtain ⟨fuel, rfl⟩ := exists_eq_succ hfuel
    have hvalue : value? fuel cs = some (v, ']' :: r) := ih (Nat.le_of_succ_le_succ hfuel)
    rw [Guess.read?, items?_succ h, hvalue]
    rfl
  | @item cs r rest v vs h hv hvs ih ih' =>
    obtain ⟨fuel, rfl⟩ := exists_eq_succ hfuel
    have hvalue : value? fuel cs = some (v, ',' :: r) := ih (Nat.le_of_succ_le_succ hfuel)
    have hlength := hv.suffix.length_le
    have hrest : fuelFor r .items ≤ fuel := by
      simp only [fuelFor, List.length_cons] at *
      omega
    obtain ⟨items, hitems, hpair⟩ := Option.map_eq_some_iff.mp (ih' hrest)
    cases hpair
    rw [Guess.read?, items?_succ h, hvalue]
    simp [hitems]
  | noMember =>
    obtain ⟨fuel, rfl⟩ := exists_eq_succ hfuel
    rw [Guess.read?, pairs?]
    rfl
  | @lastMember cs after r rest key v h hkey heq hv ih =>
    obtain ⟨fuel, rfl⟩ := exists_eq_succ hfuel
    have hr : fuelFor r .value ≤ fuel := by
      have hmember := (suffix_of_member hkey heq).2
      simp only [fuelFor] at *
      omega
    have hvalue : value? fuel r = some (v, '\x7d' :: rest) := ih hr
    rw [Guess.read?, pairs?_succ h hkey heq, hvalue]
    rfl
  | @member cs after r rest rest' key v ms h hkey heq hv hms ih ih' =>
    obtain ⟨fuel, rfl⟩ := exists_eq_succ hfuel
    have hlength := hv.suffix.length_le
    have hmember := (suffix_of_member hkey heq).2
    have hr : fuelFor r .value ≤ fuel := by
      simp only [fuelFor] at *
      omega
    have hvalue : value? fuel r = some (v, ',' :: rest) := ih hr
    have hrest : fuelFor rest .members ≤ fuel := by
      simp only [fuelFor, List.length_cons] at *
      omega
    obtain ⟨members, hmembers, hpair⟩ := Option.map_eq_some_iff.mp (ih' hrest)
    cases hpair
    rw [Guess.read?, pairs?_succ h hkey heq, hvalue]
    simp [hmembers]

/-! ## Guessed values -/

/-- With fuel for every character a value is read exactly where one is spelled. -/
theorem value?_eq_some_iff {fuel : ℕ} {cs r : List Char} {v : Value} (hfuel : 2 * cs.length + 1 ≤ fuel) :
    value? fuel cs = some (v, r) ↔ Spells .value cs v r :=
  ⟨(sound fuel).value, fun h => h.read? hfuel⟩

/-- A text is guessed to be the value that the whole of it spells. -/
theorem value_of_spells {text : String} {v : Value} (h : Spells .value text.toList v []) : value text = v := by
  have hfuel : 2 * text.toList.length + 1 ≤ 2 * text.length + 2 := by
    rw [String.length_toList]
    omega
  rw [value, (value?_eq_some_iff hfuel).mpr h]

/-- A text that spells no value is guessed to be a text. -/
theorem value_of_not_spells {text : String} (h : ∀ v, ¬Spells .value text.toList v []) :
    value text = .string text := by
  rw [value]
  split
  · next v hv => exact absurd ((sound _).value hv) (h v)
  · rfl

/-! ## Distinct keys -/

theorem distinctKeys_whole? {cs : List Char} {v : Value} (h : whole? cs = some v) : v.DistinctKeys := by
  unfold whole? at h
  split at h <;> obtain ⟨n, -, h⟩ := Option.bind_eq_some_iff.mp h <;> split_ifs at h <;> cases h
  · exact Value.distinctKeys_ofInt _
  · exact .number _
  · exact .number _

/-- A text without quotation marks stands for a value without keys. -/
theorem distinctKeys_plain (cs : List Char) : (plain cs).DistinctKeys := by
  rw [plain]
  cases hfloat : float? cs with
  | some v =>
    rw [float?] at hfloat
    split_ifs at hfloat
    obtain ⟨w, -, rfl⟩ := Option.map_eq_some_iff.mp hfloat
    exact .number _
  | none =>
    cases hwhole : whole? cs with
    | some v => exact distinctKeys_whole? hwhole
    | none => exact .string _

/-- Whatever is spelled has distinct keys. -/
theorem Spells.distinctKeys {part : Part} {cs r : List Char} {v : Value} (h : Spells part cs v r) :
    v.DistinctKeys := by
  induction h with
  | truth => exact .bool true
  | falsity => exact .bool false
  | quoted => exact .string _
  | character => exact .string _
  | list h hv ih => exact ih
  | table h hv ih => exact ih
  | plain => exact distinctKeys_plain _
  | noItem => exact .array nofun
  | lastItem h hv ih => exact .array (List.forall_mem_singleton.mpr ih)
  | item h hv hvs ih ih' =>
    obtain _ | _ | _ | _ | hvs | _ := ih'
    exact .array (List.forall_mem_cons.mpr ⟨ih, hvs⟩)
  | noMember => exact .object List.nodup_nil nofun
  | lastMember h hkey heq hv ih =>
    exact .object (List.nodup_singleton _) (List.forall_mem_singleton.mpr ih)
  | @member cs after r rest rest' key v ms h hkey heq hv hms ih ih' =>
    split_ifs with hany
    · exact ih'
    · obtain ⟨hkeys, hvalues⟩ := Value.distinctKeys_object_iff.mp ih'
      have hnew : key ∉ ms.map (·.1) := by
        simpa using hany
      exact .object (List.nodup_cons.mpr ⟨hnew, hkeys⟩) (List.forall_mem_cons.mpr ⟨ih, hvalues⟩)

/-- No key occurs twice in a guessed value. -/
theorem distinctKeys_value (text : String) : (value text).DistinctKeys := by
  by_cases h : ∃ v, Spells .value text.toList v []
  · obtain ⟨v, hv⟩ := h
    rw [value_of_spells hv]
    exact hv.distinctKeys
  · rw [value_of_not_spells (not_exists.mp h)]
    exact .string text

end TrafficMap.Guess
