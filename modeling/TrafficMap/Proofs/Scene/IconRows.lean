import Mathlib
import TrafficMap.Proofs.Text.Words
import TrafficMap.Scene.Icon

/-!
# The rows of an icon

An icon is read from a text by cutting the text at its line feeds. `Text.lines` says what the lines of a
text are, with either ending, and `Icon.Shows` what an icon makes of them: a row for every line, from the
first one on, without the blanks that end it, as long as something that is not blank is left to come. There
is an icon exactly for the texts that are not blank, it shows its text, and neither writing it out again nor
appending blanks to the text changes it (`rows_of_text`).
-/

namespace TrafficMap

namespace Text

/-! ## Lines -/

/-- The lines of a text. A line feed ends a line, together with a carriage return right before it; what
comes after the last line feed is a line unless it is empty. -/
def lines : List Char → List (List Char)
  | [] => []
  | '\n' :: cs => [] :: lines cs
  | '\r' :: '\n' :: cs => [] :: lines cs
  | c :: cs =>
    match lines cs with
    | [] => [[c]]
    | l :: ls => (c :: l) :: ls

/-- What is dropped at the end may be dropped before. -/
theorem dropEnd_cons_dropEnd {p : Char → Bool} (c : Char) (cs : List Char) :
    dropEnd p (c :: dropEnd p cs) = dropEnd p (c :: cs) := by
  have htwice : dropEnd p (dropEnd p cs) = dropEnd p cs := by
    rw [dropEnd_eq_rdropWhile, dropEnd_eq_rdropWhile, List.rdropWhile_idempotent]
  rw [dropEnd_cons, dropEnd_cons, htwice]

/-- Nothing is left if all of it is dropped. -/
theorem dropEnd_eq_nil_iff {p : Char → Bool} {cs : List Char} :
    dropEnd p cs = [] ↔ ∀ c ∈ cs, p c = true := by
  rw [dropEnd_eq_rdropWhile, List.rdropWhile_eq_nil_iff]

/-- Only blanks are dropped at the end of a text. -/
theorem exists_eq_dropEnd_append (cs : List Char) :
    ∃ blanks, isBlankText blanks = true ∧ cs = dropEnd isBlank cs ++ blanks := by
  refine ⟨cs.rtakeWhile isBlank, ?_, ?_⟩
  · rw [isBlankText, List.all_eq_true]
    exact fun c hc => List.mem_rtakeWhile_imp hc
  · rw [dropEnd_eq_rdropWhile, List.rdropWhile_append_rtakeWhile]

/-- Nothing else is left at the end. -/
theorem isBlank_of_mem_getLast? {cs : List Char} {c : Char} (hc : c ∈ (dropEnd isBlank cs).getLast?) :
    isBlank c = false := by
  rw [dropEnd_eq_rdropWhile] at hc
  obtain ⟨hne, rfl⟩ := List.mem_getLast?_eq_getLast hc
  exact Bool.eq_false_iff.mpr (List.rdropWhile_last_not isBlank cs hne)

end Text

namespace Icon

open Text

/-! ## Rows of a text -/

theorem rowsOf_lineFeed (cs : List Char) : rowsOf ('\n' :: cs) = [] :: rowsOf cs :=
  rfl

/-- Every text has a row. -/
theorem rowsOf_ne_nil (cs : List Char) : rowsOf cs ≠ [] := by
  rw [rowsOf, pieces_eq_splitOnP, Ne, List.map_eq_nil_iff]
  exact List.splitOnP_ne_nil _ cs

/-- A character that ends no line joins the first row. -/
theorem rowsOf_cons {c : Char} (hc : c ≠ '\n') (cs : List Char) :
    rowsOf (c :: cs) = (rowsOf cs).modifyHead fun row => dropEnd isBlank (c :: row) := by
  rw [rowsOf, rowsOf, pieces, if_neg (by simpa using hc)]
  cases hpieces : pieces (· = '\n') cs with
  | nil => exact absurd (List.map_eq_nil_iff.mpr hpieces) (rowsOf_ne_nil cs)
  | cons w ws => rw [List.map_cons, List.map_cons, List.modifyHead_cons, dropEnd_cons_dropEnd]

/-- A row is a stretch of the text between line feeds without the blanks that end it. -/
theorem of_mem_rowsOf {cs row : List Char} (hrow : row ∈ rowsOf cs) :
    (∀ c ∈ row, c ≠ '\n') ∧ dropEnd isBlank row = row := by
  obtain ⟨piece, hpiece, rfl⟩ := List.mem_map.mp hrow
  constructor
  · intro c hc
    rw [dropEnd_eq_rdropWhile] at hc
    -- a piece lies within the text without its line feeds
    have hmem : c ∈ (pieces (· = '\n') cs).flatten :=
      List.mem_flatten.mpr ⟨piece, hpiece, (List.rdropWhile_prefix _ _).subset hc⟩
    rw [flatten_pieces, List.mem_filter] at hmem
    simpa using hmem.2
  · rw [dropEnd_eq_rdropWhile, dropEnd_eq_rdropWhile, List.rdropWhile_idempotent]

/-- All rows are empty exactly if the text is blank; a line feed is a blank as well. -/
theorem rowsOf_blank_iff {cs : List Char} :
    (∀ row ∈ rowsOf cs, row.isEmpty = true) ↔ isBlankText cs = true := by
  have hflatten : (∀ row ∈ rowsOf cs, row.isEmpty = true)
      ↔ ∀ c ∈ (pieces (· = '\n') cs).flatten, isBlank c = true := by
    simp only [rowsOf, List.forall_mem_map, List.isEmpty_iff, dropEnd_eq_nil_iff, List.forall_mem_flatten]
  have hfeed : isBlank '\n' = true := rfl
  rw [hflatten, flatten_pieces, isBlankText, List.all_eq_true]
  constructor
  · intro h c hc
    by_cases heq : c = '\n'
    · rw [heq, hfeed]
    · exact h c (List.mem_filter.mpr ⟨hc, by simpa using heq⟩)
  · exact fun h c hc => h c (List.mem_of_mem_filter hc)

/-- Blanks that are appended to a text leave its rows and add empty ones. -/
theorem exists_rowsOf_append {blanks : List Char} (h : isBlankText blanks = true) (cs : List Char) :
    ∃ ends, (∀ row ∈ ends, row.isEmpty = true) ∧ rowsOf (cs ++ blanks) = rowsOf cs ++ ends := by
  induction cs with
  | nil =>
    have hempty := rowsOf_blank_iff.mpr h
    -- the first row of blanks is the one row of the empty text
    obtain ⟨row, ends, hrows⟩ := List.exists_cons_of_ne_nil (rowsOf_ne_nil blanks)
    rw [hrows, List.forall_mem_cons] at hempty
    refine ⟨ends, hempty.2, ?_⟩
    rw [List.nil_append, hrows, List.isEmpty_iff.mp hempty.1]
    rfl
  | cons c cs ih =>
    obtain ⟨ends, hends, hrows⟩ := ih
    refine ⟨ends, hends, ?_⟩
    by_cases hc : c = '\n'
    · rw [hc, List.cons_append, rowsOf_lineFeed, hrows, rowsOf_lineFeed, List.cons_append]
    · rw [List.cons_append, rowsOf_cons hc, hrows, rowsOf_cons hc]
      obtain ⟨row, rows, hcons⟩ := List.exists_cons_of_ne_nil (rowsOf_ne_nil cs)
      rw [hcons, List.cons_append, List.modifyHead_cons, List.modifyHead_cons, List.cons_append]

/-- The rows of a text are those of its lines, with an empty one if nothing comes after the last
line feed. -/
theorem rowsOf_lines (cs : List Char) :
    ∃ ends, (∀ row ∈ ends, row.isEmpty = true) ∧
      rowsOf cs = (lines cs).map (dropEnd isBlank) ++ ends := by
  fun_induction lines cs with
  | case1 => exact ⟨[[]], by simp, rfl⟩
  | case2 cs ih =>
    obtain ⟨ends, hends, hrows⟩ := ih
    exact ⟨ends, hends, by rw [rowsOf_lineFeed, hrows]; rfl⟩
  | case3 cs ih =>
    obtain ⟨ends, hends, hrows⟩ := ih
    refine ⟨ends, hends, ?_⟩
    rw [rowsOf_cons (by decide), rowsOf_lineFeed, hrows]
    rfl
  | case4 c cs hfeed hreturn hlines ih =>
    -- what was read after the character is empty, so it makes the one row alone
    obtain ⟨ends, hends, hrows⟩ := ih
    rw [hlines, List.map_nil, List.nil_append] at hrows
    obtain ⟨row, rows, rfl⟩ := List.exists_cons_of_ne_nil (hrows ▸ rowsOf_ne_nil cs)
    obtain ⟨hrow, hrest⟩ := List.forall_mem_cons.mp hends
    refine ⟨rows, hrest, ?_⟩
    rw [rowsOf_cons hfeed, hrows, List.modifyHead_cons, List.isEmpty_iff.mp hrow]
    rfl
  | case5 c cs hfeed hreturn l ls hlines ih =>
    obtain ⟨ends, hends, hrows⟩ := ih
    refine ⟨ends, hends, ?_⟩
    rw [hlines, List.map_cons, List.cons_append] at hrows
    rw [rowsOf_cons hfeed, hrows, List.modifyHead_cons, dropEnd_cons_dropEnd]
    rfl

/-! ## Reading -/

theorem dropEmptyEnd_eq_rdropWhile (rows : List (List Char)) :
    dropEmptyEnd rows = rows.rdropWhile List.isEmpty :=
  foldr_eq_rdropWhile List.isEmpty rows

/-- Empty rows at the end may as well not be there. -/
theorem dropEmptyEnd_append {ends : List (List Char)} (h : ∀ row ∈ ends, row.isEmpty = true)
    (rows : List (List Char)) : dropEmptyEnd (rows ++ ends) = dropEmptyEnd rows := by
  rw [dropEmptyEnd_eq_rdropWhile, dropEmptyEnd_eq_rdropWhile, rdropWhile_append_of_forall h]

/-- The rows of an icon as lists of characters. -/
def glyphs (icon : Icon) : List (List Char) :=
  icon.rows.map String.toList

/-- The glyphs of an icon are the rows that it is made of. -/
theorem glyphs_ofList (rows : List (List Char)) : glyphs ⟨rows.map String.ofList⟩ = rows := by
  simp [glyphs]

/-- An icon is known by its glyphs. -/
theorem glyphs_injective : Function.Injective glyphs := by
  rintro ⟨rows⟩ ⟨rows'⟩ h
  exact congrArg Icon.mk (List.map_injective_iff.mpr (fun _ _ => String.toList_inj.mp) h)

/-- An icon is read from a text when its rows are those of the text up to the last one that is not
empty. -/
theorem parse_eq_some_iff {text : String} {icon : Icon} :
    parse text = some icon ↔ icon.glyphs = dropEmptyEnd (rowsOf text.toList) ∧ icon.glyphs ≠ [] := by
  unfold parse
  dsimp only
  split_ifs with hempty
  · rw [List.isEmpty_iff] at hempty
    constructor
    · exact nofun
    · rintro ⟨hglyphs, hne⟩
      exact absurd (hglyphs.trans hempty) hne
  · rw [List.isEmpty_iff] at hempty
    rw [Option.some.injEq, ← glyphs_injective.eq_iff, glyphs_ofList]
    constructor
    · rintro hglyphs
      exact ⟨hglyphs.symm, hglyphs ▸ hempty⟩
    · exact fun h => h.1.symm

/-- A text is an icon if something of it can be seen. -/
theorem parse_isSome_iff {text : String} :
    (parse text).isSome = true ↔ ∃ c ∈ text.toList, isBlank c = false := by
  have hblank : dropEmptyEnd (rowsOf text.toList) = [] ↔ isBlankText text.toList = true := by
    rw [dropEmptyEnd_eq_rdropWhile, List.rdropWhile_eq_nil_iff, rowsOf_blank_iff]
  have hsome : (parse text).isSome = true ↔ dropEmptyEnd (rowsOf text.toList) ≠ [] := by
    rw [Option.isSome_iff_exists]
    constructor
    · rintro ⟨icon, hicon⟩
      obtain ⟨hglyphs, hne⟩ := parse_eq_some_iff.mp hicon
      exact hglyphs ▸ hne
    · exact fun hne => ⟨_, parse_eq_some_iff.mpr ⟨glyphs_ofList _, (glyphs_ofList _).symm ▸ hne⟩⟩
  rw [hsome, Ne, hblank, isBlankText, List.all_eq_true]
  push Not
  simp only [Bool.not_eq_true]

/-! ## Showing a text -/

/-- What an icon makes of a text. -/
structure Shows (icon : Icon) (text : String) : Prop where
  /-- No row ends in a blank. -/
  ends : ∀ row ∈ icon.rows, ∀ c ∈ row.toList.getLast?, isBlank c = false
  /-- The last row is not empty. -/
  last : ∃ row ∈ icon.rows.getLast?, row ≠ ""
  /-- The rows are the lines from the first one on, each without the blanks at its end, and the lines that
  follow are blank. -/
  lines : ∃ kept rest, Text.lines text.toList = kept ++ rest ∧
    List.Forall₂ (fun row line => ∃ blanks, isBlankText blanks = true ∧ line = row.toList ++ blanks)
      icon.rows kept ∧
    ∀ line ∈ rest, isBlankText line = true

section

variable {text : String} {icon : Icon}

/-- The rows of an icon are rows of the text. -/
theorem mem_rowsOf_of_parse (h : parse text = some icon) {row : String} (hrow : row ∈ icon.rows) :
    row.toList ∈ rowsOf text.toList := by
  have hmem : row.toList ∈ icon.glyphs := List.mem_map_of_mem hrow
  rw [(parse_eq_some_iff.mp h).1, dropEmptyEnd_eq_rdropWhile] at hmem
  exact (List.rdropWhile_prefix _ _).subset hmem

/-- An icon does not end with an empty row. -/
theorem dropEmptyEnd_glyphs (h : parse text = some icon) : dropEmptyEnd icon.glyphs = icon.glyphs := by
  rw [(parse_eq_some_iff.mp h).1, dropEmptyEnd_eq_rdropWhile, dropEmptyEnd_eq_rdropWhile,
    List.rdropWhile_idempotent]

theorem exists_last_of_parse (h : parse text = some icon) : ∃ row ∈ icon.rows.getLast?, row ≠ "" := by
  have hne : icon.glyphs ≠ [] := (parse_eq_some_iff.mp h).2
  have hrows : icon.rows ≠ [] := fun hnil => hne (List.map_eq_nil_iff.mpr hnil)
  have hlast := dropEmptyEnd_glyphs h
  rw [dropEmptyEnd_eq_rdropWhile, List.rdropWhile_eq_self_iff] at hlast
  refine ⟨icon.rows.getLast hrows, List.getLast_mem_getLast? hrows, fun hempty => hlast hne ?_⟩
  have hglyphs : icon.glyphs.getLast hne = (icon.rows.getLast hrows).toList := List.getLast_map _
  rw [hglyphs, hempty]
  rfl

/-- An icon is the lines of its text without blanks at their ends, up to the last one that is not
empty. -/
theorem lines_of_parse (h : parse text = some icon) :
    icon.glyphs = dropEmptyEnd ((Text.lines text.toList).map (dropEnd isBlank)) := by
  obtain ⟨ends, hends, hrows⟩ := rowsOf_lines text.toList
  rw [(parse_eq_some_iff.mp h).1, hrows, dropEmptyEnd_append hends]

/-- An icon shows its text. -/
theorem shows_of_parse (h : parse text = some icon) : icon.Shows text where
  ends row hrow c hc := by
    rw [← (of_mem_rowsOf (mem_rowsOf_of_parse h hrow)).2] at hc
    exact isBlank_of_mem_getLast? hc
  last := exists_last_of_parse h
  lines := by
    -- what `dropEmptyEnd` dropped are the rows of the lines that follow
    have hsplit : (Text.lines text.toList).map (dropEnd isBlank)
        = icon.glyphs ++ ((Text.lines text.toList).map (dropEnd isBlank)).rtakeWhile List.isEmpty := by
      rw [lines_of_parse h, dropEmptyEnd_eq_rdropWhile, List.rdropWhile_append_rtakeWhile]
    obtain ⟨kept, rest, hlines, hkept, hrest⟩ := List.map_eq_append_iff.mp hsplit
    refine ⟨kept, rest, hlines, ?_, fun line hline => ?_⟩
    · have hglyphs : List.Forall₂
          (fun row line => ∃ blanks, isBlankText blanks = true ∧ line = row ++ blanks) icon.glyphs kept := by
        rw [← hkept, List.forall₂_map_left_iff, List.forall₂_same]
        exact fun line _ => exists_eq_dropEnd_append line
      exact List.forall₂_map_left_iff.mp hglyphs
    · have hempty : (dropEnd isBlank line).isEmpty = true :=
        List.mem_rtakeWhile_imp (hrest ▸ List.mem_map_of_mem hline)
      rw [isBlankText, List.all_eq_true]
      exact dropEnd_eq_nil_iff.mp (List.isEmpty_iff.mp hempty)

/-- Rows without line feeds and without blanks at their ends are the rows of what they are joined to. -/
theorem rowsOf_intercalate {rows : List (List Char)} (hne : rows ≠ [])
    (h : ∀ row ∈ rows, (∀ c ∈ row, c ≠ '\n') ∧ dropEnd isBlank row = row) :
    rowsOf (['\n'].intercalate rows) = rows := by
  have hpieces : pieces (· = '\n') (['\n'].intercalate rows) = rows := by
    rw [pieces_eq_splitOnP]
    exact List.splitOn_intercalate '\n' (fun row hrow hmem => (h row hrow).1 _ hmem rfl) hne
  rw [rowsOf, hpieces, List.map_congr_left fun row hrow => (h row hrow).2, List.map_id']

/-- The rows of an icon, one below the other, are an icon of the same rows. -/
theorem parse_intercalate (h : parse text = some icon) :
    parse ("\n".intercalate icon.rows) = some icon := by
  have hne : icon.glyphs ≠ [] := (parse_eq_some_iff.mp h).2
  have hrows : rowsOf ("\n".intercalate icon.rows).toList = icon.glyphs := by
    rw [String.toList_intercalate]
    refine rowsOf_intercalate hne fun row hrow => ?_
    obtain ⟨row, hmem, rfl⟩ := List.mem_map.mp hrow
    exact of_mem_rowsOf (mem_rowsOf_of_parse h hmem)
  rw [parse_eq_some_iff, hrows, dropEmptyEnd_glyphs h]
  exact ⟨rfl, hne⟩

end

/-- Blanks behind a text change nothing. -/
theorem parse_append {blanks : String} (h : isBlankText blanks.toList = true) (text : String) :
    parse (text ++ blanks) = parse text := by
  obtain ⟨ends, hends, hrows⟩ := exists_rowsOf_append h text.toList
  rw [parse, parse, String.toList_append, hrows, dropEmptyEnd_append hends]

/-- A text is an icon exactly if something in it is not blank. The icon then shows the text line by line,
written out it is read as the same icon, and blanks that are appended to a text, blank lines among them,
change nothing. -/
theorem rows_of_text (text : String) :
    ((parse text).isSome = true ↔ ∃ c ∈ text.toList, isBlank c = false) ∧
      (∀ icon, parse text = some icon →
        icon.Shows text ∧ parse ("\n".intercalate icon.rows) = some icon) ∧
      ∀ blanks : String, isBlankText blanks.toList = true → parse (text ++ blanks) = parse text :=
  ⟨parse_isSome_iff, fun _ h => ⟨shows_of_parse h, parse_intercalate h⟩,
    fun _ h => parse_append h text⟩

example : parse "\n /\\ \r\n\n[__]\t\n \n" = some ⟨["", " /\\", "", "[__]"]⟩ := by
  decide +kernel

end Icon

end TrafficMap
