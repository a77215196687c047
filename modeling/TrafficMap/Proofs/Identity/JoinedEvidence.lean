import Mathlib
import TrafficMap.Identity.Evidence
import TrafficMap.Proofs.Text.Words

/-!
# Kinds in joined texts

Two texts are joined with a space between them. No token reaches across it, and of the keywords only the one with a
space in it can (`found_append_iff`), if one of its words ends the first text and the other one begins the second
(`Straddles`). Rows of the table count from the first to the last, so the kind in the joined text is the earlier one
of the kinds in its parts (`kind_of_joined`).
-/

namespace TrafficMap

/-! ## Occurrences across a join -/

namespace Text

/-- The search for a word finds it exactly where it is an infix. -/
theorem occursIn_iff_infix {w cs : List Char} : occursIn w cs = true ↔ w <:+: cs := by
  induction cs with
  | nil => rw [occursIn, List.isEmpty_iff, List.infix_nil]
  | cons c cs ih => rw [occursIn, Bool.or_eq_true, List.isPrefixOf_iff_prefix, ih, List.infix_cons_iff]

/-- What occurs in a text with a certain character lies in front of it or behind it, or holds it. -/
theorem infix_append_cons_iff {c : Char} {w cs ds : List Char} :
    w <:+: cs ++ c :: ds ↔
      w <:+: cs ∨ w <:+: ds ∨ ∃ u v, w = u ++ c :: v ∧ u <:+ cs ∧ v <+: ds := by
  rw [List.infix_append_iff, List.infix_cons_iff]
  constructor
  · rintro (hfront | (hbegin | hback) | ⟨u, v, rfl, hu, hv⟩)
    · exact .inl hfront
    · obtain rfl | ⟨v, rfl, hv⟩ := List.prefix_cons_iff.mp hbegin
      · exact .inl List.nil_infix
      · exact .inr (.inr ⟨[], v, rfl, List.nil_suffix, hv⟩)
    · exact .inr (.inl hback)
    · obtain rfl | ⟨v', rfl, hv'⟩ := List.prefix_cons_iff.mp hv
      · rw [List.append_nil]
        exact .inl hu.isInfix
      · exact .inr (.inr ⟨u, v', rfl, hu, hv'⟩)
  · rintro (hfront | hback | ⟨u, v, rfl, hu, hv⟩)
    · exact .inl hfront
    · exact .inr (.inl (.inr hback))
    · exact .inr (.inr ⟨u, c :: v, rfl, hu, List.cons_prefix_cons.mpr ⟨rfl, hv⟩⟩)

theorem toUpper_of_not_ascii {c : Char} (h : ¬c.toNat < 128) : c.toUpper = c := by
  refine dif_neg fun hletter => h ?_
  have hlast : c.val.toNat ≤ 122 := hletter.2
  exact Nat.lt_of_le_of_lt hlast (by decide)

theorem toLower_of_not_ascii {c : Char} (h : ¬c.toNat < 128) : c.toLower = c := by
  refine dif_neg fun hletter => h ?_
  have hlast : c.val.toNat ≤ 90 := hletter.2
  exact Nat.lt_of_le_of_lt hlast (by decide)

/-- Whether a letter was raised before does not matter for lowering it. -/
theorem toLower_toUpper (c : Char) : c.toUpper.toLower = c.toLower := by
  by_cases hc : c.toNat < 128
  · exact forall_ascii (P := fun c => c.toUpper.toLower = c.toLower) (by decide +kernel) hc
  · rw [toUpper_of_not_ascii hc]

theorem toLower_toLower (c : Char) : c.toLower.toLower = c.toLower := by
  by_cases hc : c.toNat < 128
  · exact forall_ascii (P := fun c => c.toLower.toLower = c.toLower) (by decide +kernel) hc
  · rw [toLower_of_not_ascii hc, toLower_of_not_ascii hc]

/-- A text differs from another one in nothing but the case of letters of ASCII. -/
def SameLetters (cs ds : List Char) : Prop :=
  List.Forall₂ (fun c d => d = c ∨ d = c.toUpper ∨ d = c.toLower) cs ds

instance (cs ds : List Char) : Decidable (SameLetters cs ds) :=
  inferInstanceAs (Decidable (List.Forall₂ _ cs ds))

/-- Texts that differ in the case of ASCII letters alone are the same in lower case. -/
theorem SameLetters.asciiLower_eq {cs ds : List Char} (h : SameLetters cs ds) :
    asciiLower ds = asciiLower cs := by
  induction h with
  | nil => rfl
  | @cons c d cs ds hcd _ ih =>
    have hlower : d.toLower = c.toLower := by
      obtain rfl | rfl | rfl := hcd
      · rfl
      · exact toLower_toUpper c
      · exact toLower_toLower c
    rw [asciiLower, asciiLower, List.map_cons, List.map_cons, hlower]
    exact congrArg _ ih

end Text

namespace Keyword

open Text (asciiLower occursIn)

/-! ## Keywords across a join -/

section

variable {text other word : List Char}

/-- No token holds a space, so none reaches across the join. -/
theorem tokens_append (text other : List Char) :
    tokens (text ++ ' ' :: other) = tokens text ++ tokens other :=
  Text.runs_append_cons rfl text other

/-- A word is found as a token, or inside of the text if it is long enough. -/
theorem found_iff : found text word = true ↔
    word ∈ tokens text ∨ insideLength ≤ word.length ∧ word <:+: text := by
  rw [found, Bool.or_eq_true, Bool.and_eq_true, decide_eq_true_eq, List.contains_iff_mem, Text.occursIn_iff_infix]

/-- In a joined text a word is found where it was found in one of both, or it reaches across the
space. -/
theorem found_append_iff : found (text ++ ' ' :: other) word = true ↔
    found text word = true ∨ found other word = true ∨
      insideLength ≤ word.length ∧ ∃ u v, word = u ++ ' ' :: v ∧ u <:+ text ∧ v <+: other := by
  rw [found_iff, found_iff, found_iff, tokens_append, List.mem_append, Text.infix_append_cons_iff]
  tauto

end

/-! ## Rows across a join -/

/-- The one keyword of two words, with the first at the end of a text and the second at the beginning of another. -/
def Straddles (text other : List Char) : Prop :=
  "galaxy".toList <:+ asciiLower text ∧ "tab".toList <+: asciiLower other

instance (text other : List Char) : Decidable (Straddles text other) :=
  inferInstanceAs (Decidable (_ ∧ _))

/-- Whether one of the words of a row is found in a text in lower case. -/
def hits (text : List Char) (row : ClientKind × List String) : Bool :=
  row.2.any fun word => found text word.toList

/-- One keyword of the table has a space in it. -/
theorem words_of_mem_table : ∀ row ∈ table, ∀ word ∈ row.2,
    ' ' ∉ word.toList ∨ row.1 = .tablet ∧ word = "galaxy tab" := by
  decide +kernel

theorem galaxy_tab_of_mem_table : ∀ row ∈ table, row.1 = .tablet → "galaxy tab" ∈ row.2 := by
  decide +kernel

/-- A row of the table is hit in a joined text if one of both hits it, or for tablets if the texts
straddle the keyword. -/
theorem hits_append {text other : List Char} {row : ClientKind × List String} (hrow : row ∈ table) :
    hits (asciiLower (text ++ ' ' :: other)) row = true ↔
      hits (asciiLower text) row = true ∨ hits (asciiLower other) row = true ∨
        row.1 = .tablet ∧ Straddles text other := by
  have hlower : asciiLower (text ++ ' ' :: other) = asciiLower text ++ ' ' :: asciiLower other :=
    List.map_append
  rw [hlower]
  simp only [hits, List.any_eq_true, found_append_iff]
  constructor
  · rintro ⟨word, hword, hfound | hfound | ⟨-, u, v, huv, hu, hv⟩⟩
    · exact .inl ⟨word, hword, hfound⟩
    · exact .inr (.inl ⟨word, hword, hfound⟩)
    · -- what reaches across the join holds a space, as the keyword of two words alone does
      obtain hspace | ⟨htablet, rfl⟩ := words_of_mem_table row hrow word hword
      · rw [huv] at hspace
        simp at hspace
      · have hsplit : "galaxy".toList ++ ' ' :: "tab".toList = u ++ ' ' :: v := huv
        obtain ⟨rfl, -, rfl⟩ := (List.append_cons_inj_of_notMem (by decide) (by decide)).mp hsplit
        exact .inr (.inr ⟨htablet, hu, hv⟩)
  · rintro (⟨word, hword, hfound⟩ | ⟨word, hword, hfound⟩ | ⟨htablet, hgalaxy, htab⟩)
    · exact ⟨word, hword, .inl hfound⟩
    · exact ⟨word, hword, .inr (.inl hfound)⟩
    · exact ⟨_, galaxy_tab_of_mem_table row hrow htablet, .inr (.inr ⟨by decide, _, _, rfl, hgalaxy, htab⟩)⟩

/-! ## Places in the table -/

/-- The place of a kind in the table; no kind at all comes behind the last row. -/
def place (kind : Option ClientKind) : Nat :=
  table.findIdx fun row => some row.1 = kind

/-- The one of two kinds that comes first in the table. -/
def earlier (kind other : Option ClientKind) : Option ClientKind :=
  if place kind ≤ place other then kind else other

/-- The place of the earlier one of two kinds is the smaller one of their places. -/
theorem place_earlier (kind other : Option ClientKind) :
    place (earlier kind other) = min (place kind) (place other) := by
  unfold earlier
  split <;> omega

/-- A kind is known by its place. -/
theorem place_injective : Function.Injective place := by
  -- the row at the place of a kind has that kind, and behind the last row there is none
  have hback : Function.LeftInverse (fun n => table[n]?.map (·.1)) place := by
    rintro (_ | kind)
    · rfl
    · cases kind <;> rfl
  exact hback.injective

/-- The kind that a text shows has the first row that is hit. -/
theorem place_kind? (text : List Char) : place (kind? text) = table.findIdx (hits (asciiLower text)) := by
  have hplace : ∀ n ≤ table.length, place (table[n]?.map (·.1)) = n := by decide
  have hkind : kind? text = table[table.findIdx (hits (asciiLower text))]?.map (·.1) := by
    rw [← List.find?_eq_getElem?_findIdx]
    rfl
  rw [hkind, hplace _ List.findIdx_le_length]

theorem findIdx_congr {α : Type} {p q : α → Bool} {xs : List α} (h : ∀ x ∈ xs, p x = q x) :
    xs.findIdx p = xs.findIdx q := by
  induction xs with
  | nil => rfl
  | cons x xs ih =>
    obtain ⟨hx, hxs⟩ := List.forall_mem_cons.mp h
    rw [List.findIdx_cons, List.findIdx_cons, hx, ih hxs]

/-- The first member that passes one of two tests is the first one that passes either. -/
theorem findIdx_or {α : Type} (p q : α → Bool) (xs : List α) :
    xs.findIdx (fun x => p x || q x) = min (xs.findIdx p) (xs.findIdx q) := by
  induction xs with
  | nil => rfl
  | cons x xs ih =>
    rw [List.findIdx_cons, List.findIdx_cons, List.findIdx_cons, ih]
    cases p x <;> cases q x <;> simp

theorem earlier_eq_none_iff {kind other : Option ClientKind} :
    earlier kind other = none ↔ kind = none ∧ other = none := by
  have hlast (k : Option ClientKind) : place k ≤ place none := List.findIdx_le_length
  have hkind := hlast kind
  have hother := hlast other
  rw [← place_injective.eq_iff, ← place_injective.eq_iff (a := kind), ← place_injective.eq_iff (a := other),
    place_earlier]
  omega

/-- The kind of the keyword of two words, if it reaches from one text to the other. -/
def straddling (text other : List Char) : Option ClientKind :=
  if Straddles text other then some .tablet else none

/-- The kind of a straddled keyword has the place of the first row for it. -/
theorem place_straddling (text other : List Char) :
    place (straddling text other)
      = table.findIdx fun row => decide (row.1 = .tablet ∧ Straddles text other) := by
  unfold straddling
  by_cases h : Straddles text other
  · rw [if_pos h]
    simp only [h, and_true]
    rfl
  · rw [if_neg h]
    simp only [h, and_false]
    rfl

/-- The kind in a joined text is the earliest of those in both and of the one that they straddle. -/
theorem kind?_append (text other : List Char) :
    kind? (text ++ ' ' :: other) = earlier (earlier (kind? text) (kind? other)) (straddling text other) := by
  have hrows : ∀ row ∈ table, hits (asciiLower (text ++ ' ' :: other)) row
      = ((hits (asciiLower text) row || hits (asciiLower other) row) ||
          decide (row.1 = .tablet ∧ Straddles text other)) := by
    intro row hrow
    rw [Bool.eq_iff_iff, hits_append hrow, Bool.or_eq_true, Bool.or_eq_true, decide_eq_true_eq, or_assoc]
  -- kinds are compared by their places, and the first row with one of three tests is the first of three rows
  apply place_injective
  rw [place_earlier, place_earlier, place_kind?, place_kind?, place_kind?, place_straddling, ← findIdx_or,
    ← findIdx_or, findIdx_congr hrows]

/-- What a text and another one show when a space is between them is the earlier one of what they show by themselves,
and of a tablet if the keyword of two words reaches from one to the other. The case of ASCII letters makes no
difference. -/
theorem kind_of_joined (text other : List Char) :
    kind? (text ++ ' ' :: other)
      = earlier (earlier (kind? text) (kind? other)) (straddling text other) ∧
    (kind? (text ++ ' ' :: other) = none ↔
      kind? text = none ∧ kind? other = none ∧ ¬Straddles text other) ∧
    ∀ text', Text.SameLetters text text' → kind? text' = kind? text := by
  refine ⟨kind?_append text other, ?_, fun text' hsame => ?_⟩
  · rw [kind?_append, earlier_eq_none_iff, earlier_eq_none_iff, and_assoc]
    simp [straddling]
  · rw [kind?, hsame.asciiLower_eq, kind?]

/-- A phone and a television make a tablet where the two words meet, and a television the other way round. -/
theorem kind_of_joined_galaxy_tab :
    let phone := "pixel galaxy".toList
    let television := "tab S9, tv".toList
    Straddles phone television ∧
      kind? phone = some .phone ∧ kind? television = some .tv ∧
      kind? (phone ++ ' ' :: television) = some .tablet ∧
      kind? (television ++ ' ' :: phone) = some .tv ∧
      Text.SameLetters phone "pIXEl Galaxy".toList ∧
      kind? "pIXEl Galaxy".toList = some .phone := by
  intro phone television
  have hphone : kind? phone = some .phone := by decide +kernel
  have htelevision : kind? television = some .tv := by decide +kernel
  have hstraddles : Straddles phone television := by decide +kernel
  have hsame : Text.SameLetters phone "pIXEl Galaxy".toList := by decide +kernel
  obtain ⟨hjoined, -, hcase⟩ := kind_of_joined phone television
  obtain ⟨hturned, -, -⟩ := kind_of_joined television phone
  rw [hphone, htelevision] at hjoined hturned
  exact ⟨hstraddles, hphone, htelevision, hjoined.trans (by decide +kernel), hturned.trans (by decide +kernel),
    hsame, (hcase _ hsame).trans hphone⟩

end Keyword

end TrafficMap
