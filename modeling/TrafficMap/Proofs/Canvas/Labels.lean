import Mathlib
import TrafficMap.Terminal.Canvas

/-!
# Where labels come to stand

A text asks for the cells from a column on, in a row (`Wanted`), and so does every row of an icon. It takes them in
the first of four rows in which none of them is covered by an earlier label, and in the last of the four if there
is no such row (`Wanted.Takes`). The loop that looks for a row tries only three and takes the fourth untried, which
is right for either reason (`takes_freeRow`). What the calls of a frame ask for settles one label after the other
(`Settles`), next to the other things that they draw, and every text is written where its label stands
(`labels_of_calls`).

Rows are numbered in 64 bits. The four rows are the one that is asked for and the three below it
(`Wanted.rowAt_of_le`); only where these do not exist, at the very end of the numbers, they go on with the first row.
-/

namespace TrafficMap

/-- Whether a call writes a text or an icon. -/
def DrawCall.IsWriting {α : Type} : DrawCall α → Prop
  | .text .. | .image .. => True
  | _ => False

namespace Terminal

namespace Canvas

/-! ## The numbers of rows -/

/-- The smallest number of a row. -/
def firstRow : Int := -9223372036854775808

/-- The largest number of a row. -/
def lastRow : Int := 9223372036854775807

/-- Every row has a number in 64 bits. -/
theorem wrapRow_bounds (row : Int) : firstRow ≤ wrapRow row ∧ wrapRow row ≤ lastRow :=
  ⟨Int.le_bmod (by decide), Int.bmod_le (by decide)⟩

/-- A number in 64 bits stays as it is. -/
theorem wrapRow_of_le {row : Int} (hlow : firstRow ≤ row) (hhigh : row ≤ lastRow) : wrapRow row = row :=
  Int.bmod_eq_of_le hlow (Int.lt_add_one_of_le hhigh)

/-- Counting on does not depend on when the number is taken in 64 bits. -/
theorem wrapRow_add (row k : Int) : wrapRow (wrapRow row + k) = wrapRow (row + k) :=
  Int.bmod_add_bmod

end Canvas

namespace LabelSpan

/-- Whether a label stands in a cell. -/
def Covers (l : LabelSpan) (row col : Int) : Prop :=
  l.row = row ∧ l.start ≤ col ∧ col < l.finish

/-- Whether two labels have a cell in common. -/
def Overlaps (l l' : LabelSpan) : Prop :=
  ∃ row col, l.Covers row col ∧ l'.Covers row col

/-- A label stands in a row that there is. It ends at the last column at most, and only one that begins there holds
no cell. -/
structure Proper (l : LabelSpan) : Prop where
  first_le : Canvas.firstRow ≤ l.row
  row_le : l.row ≤ Canvas.lastRow
  finish_le : l.finish ≤ Canvas.lastColumn
  start_lt : l.start < l.finish ∨ l.start = Canvas.lastColumn

end LabelSpan

/-- A label where nothing is in its way: a text that begins in a cell. -/
structure Wanted where
  text : String
  row : Int
  start : Int
  text_ne : text ≠ ""
  first_le : Canvas.firstRow ≤ row
  row_le : row ≤ Canvas.lastRow
  start_le : start ≤ Canvas.lastColumn

namespace Wanted

/-- The column before which the label ends. -/
def finish (w : Wanted) : Int :=
  Min.min Canvas.lastColumn (w.start + w.text.length)

/-- The label in a row. -/
def spanAt (w : Wanted) (row : Int) : LabelSpan :=
  { row, start := w.start, finish := w.finish }

/-- The row some rows below the one that the label asks for. -/
def rowAt (w : Wanted) (k : ℕ) : Int :=
  Canvas.wrapRow (w.row + k)

/-- Whether no label stands in the cells of a row that the label needs. -/
def FreeAt (w : Wanted) (labels : List LabelSpan) (row : Int) : Prop :=
  ∀ l ∈ labels, ∀ col, w.start ≤ col → col < w.finish → ¬l.Covers row col

/-- The row that the label takes beside earlier ones: the first of four that is free, or the last one if none of
them is. -/
def Takes (w : Wanted) (earlier : List LabelSpan) (row : Int) : Prop :=
  (∃ k : ℕ, k ≤ 3 ∧ row = w.rowAt k ∧ w.FreeAt earlier (w.rowAt k) ∧
      ∀ j : ℕ, j < k → ¬w.FreeAt earlier (w.rowAt j)) ∨
    (row = w.rowAt 3 ∧ ∀ k : ℕ, k ≤ 3 → ¬w.FreeAt earlier (w.rowAt k))

/-- Rows are counted as usual up to the last one. -/
theorem rowAt_of_le (w : Wanted) {k : ℕ} (h : w.row + k ≤ Canvas.lastRow) : w.rowAt k = w.row + k := by
  have hfirst := w.first_le
  exact Canvas.wrapRow_of_le (by omega) h

theorem length_pos (w : Wanted) : 0 < w.text.length := by
  rw [← String.length_toList, List.length_pos_iff]
  exact fun h => w.text_ne (String.toList_eq_nil_iff.mp h)

/-- A label holds a cell unless it begins in the last column. -/
theorem start_lt_finish_iff (w : Wanted) : w.start < w.finish ↔ w.start < Canvas.lastColumn := by
  have hlength := w.length_pos
  rw [finish]
  omega

/-- A label ends behind its first column, or it begins in the last one. -/
theorem finish_bounds (w : Wanted) :
    w.finish ≤ Canvas.lastColumn ∧ (w.start < w.finish ∨ w.start = Canvas.lastColumn) := by
  have hcells := w.start_lt_finish_iff
  have hstart := w.start_le
  exact ⟨min_le_left _ _, by omega⟩

/-- Among proper labels the comparison of the ends finds the common cells. -/
theorem meets_iff (w : Wanted) {l : LabelSpan} (hl : l.Proper) (row : Int) :
    l.meets row w.start w.finish = true ↔
      ∃ col, w.start ≤ col ∧ col < w.finish ∧ l.Covers row col := by
  obtain ⟨hfinish, hproper⟩ := w.finish_bounds
  obtain ⟨-, -, hlfinish, hlproper⟩ := hl
  simp only [LabelSpan.meets, LabelSpan.Covers, Bool.and_eq_true, decide_eq_true_eq]
  constructor
  · rintro ⟨⟨hrow, hbefore⟩, hafter⟩
    -- the later one of the two first columns
    exact ⟨Max.max l.start w.start, by omega⟩
  · rintro ⟨col, hcol⟩
    omega

/-- Among proper labels a row is free if none of them meets the columns. -/
theorem freeAt_iff (w : Wanted) {labels : List LabelSpan} (h : ∀ l ∈ labels, l.Proper) (row : Int) :
    w.FreeAt labels row ↔ labels.any (·.meets row w.start w.finish) = false := by
  rw [List.any_eq_false]
  refine forall₂_congr fun l hl => ?_
  rw [w.meets_iff (h l hl)]
  push Not
  rfl

section

variable {w : Wanted} {earlier : List LabelSpan} {row : Int}

/-- The row that is taken is one of the four. -/
theorem Takes.exists_rowAt (h : w.Takes earlier row) : ∃ k : ℕ, k ≤ 3 ∧ row = w.rowAt k := by
  rcases h with ⟨k, hk, hrow, -⟩ | ⟨hrow, -⟩
  · exact ⟨k, hk, hrow⟩
  · exact ⟨3, le_rfl, hrow⟩

/-- A label that takes a row is a proper one. -/
theorem Takes.proper_spanAt (h : w.Takes earlier row) : (w.spanAt row).Proper := by
  obtain ⟨k, -, rfl⟩ := h.exists_rowAt
  obtain ⟨hfirst, hlast⟩ := Canvas.wrapRow_bounds (w.row + k)
  exact ⟨hfirst, hlast, w.finish_bounds.1, w.finish_bounds.2⟩

/-- Where there are four rows, the one that is taken is the first one of those from the wanted row on that is free,
or the fourth one. -/
theorem Takes.of_le (h : w.Takes earlier row) (hrows : w.row + 3 ≤ Canvas.lastRow) :
    ∃ k : ℕ, k ≤ 3 ∧ row = w.row + k ∧ (k < 3 → w.FreeAt earlier row) ∧
      ∀ j : ℕ, j < k → ¬w.FreeAt earlier (w.row + j) := by
  have hcount : ∀ k : ℕ, k ≤ 3 → w.rowAt k = w.row + k := fun k hk => w.rowAt_of_le (by omega)
  rcases h with ⟨k, hk, rfl, hfree, hbefore⟩ | ⟨rfl, hnone⟩
  · refine ⟨k, hk, hcount k hk, fun _ => hfree, fun j hj => ?_⟩
    rw [← hcount j (by omega)]
    exact hbefore j hj
  · refine ⟨3, le_rfl, hcount 3 le_rfl, fun hlt => absurd hlt (lt_irrefl 3), fun j hj => ?_⟩
    rw [← hcount j (by omega)]
    exact hnone j (by omega)

/-- Where there are four rows, a label moves down by three at most. -/
theorem Takes.bounds (h : w.Takes earlier row) (hrows : w.row + 3 ≤ Canvas.lastRow) :
    w.row ≤ row ∧ row ≤ w.row + 3 := by
  obtain ⟨k, hk, hrow, -⟩ := h.of_le hrows
  omega

/-- A row in front of the last one is free. -/
theorem Takes.freeAt_of_lt (h : w.Takes earlier row) (hrows : w.row + 3 ≤ Canvas.lastRow)
    (hlt : row < w.row + 3) : w.FreeAt earlier row := by
  obtain ⟨k, -, hrow, hfree, -⟩ := h.of_le hrows
  exact hfree (by omega)

/-- The rows in front of the one that is taken are not free. -/
theorem Takes.not_freeAt_of_lt (h : w.Takes earlier row) (hrows : w.row + 3 ≤ Canvas.lastRow) {row' : Int}
    (hlow : w.row ≤ row') (hlt : row' < row) : ¬w.FreeAt earlier row' := by
  obtain ⟨k, -, hrow, -, hbefore⟩ := h.of_le hrows
  obtain ⟨j, rfl⟩ := Int.le.dest hlow
  exact hbefore j (by omega)

/-- A label that takes a row in which it overlaps an earlier one found none of the four rows free. -/
theorem Takes.not_freeAt (h : w.Takes earlier row) {l : LabelSpan} (hl : l ∈ earlier)
    (hoverlap : l.Overlaps (w.spanAt row)) (k : ℕ) (hk : k ≤ 3) : ¬w.FreeAt earlier (w.rowAt k) := by
  rcases h with ⟨k', -, hrow, hfree, -⟩ | ⟨-, hnone⟩
  · obtain ⟨_, col, hcovers, rfl, hstart, hfinish⟩ := hoverlap
    exact absurd (hrow ▸ hcovers) (hfree l hl col hstart hfinish)
  · exact hnone k hk

end

end Wanted

/-- Labels that come to stand one after the other, beside those that are there. -/
inductive Settles (there : List LabelSpan) : List Wanted → List LabelSpan → Prop where
  | nil : Settles there [] there
  | snoc {ws : List Wanted} {ls : List LabelSpan} {w : Wanted} {row : Int} (h : Settles there ws ls)
      (hrow : w.Takes ls row) : Settles there (ws ++ [w]) (ls ++ [w.spanAt row])

namespace Settles

variable {there ls : List LabelSpan} {ws : List Wanted}

/-- Labels that come to stand are proper. -/
theorem proper (h : Settles there ws ls) (hthere : ∀ l ∈ there, l.Proper) : ∀ l ∈ ls, l.Proper := by
  induction h with
  | nil => exact hthere
  | snoc _ hrow ih =>
    rw [List.forall_mem_append, List.forall_mem_singleton]
    exact ⟨ih, hrow.proper_spanAt⟩

/-- Every label comes to stand behind the others, and one does for each that is wanted. -/
theorem exists_append (h : Settles there ws ls) :
    ∃ spans, ls = there ++ spans ∧ spans.length = ws.length := by
  induction h with
  | nil => exact ⟨[], (List.append_nil there).symm, rfl⟩
  | @snoc ws ls w row _ _ ih =>
    obtain ⟨spans, rfl, hlength⟩ := ih
    refine ⟨spans ++ [w.spanAt row], List.append_assoc .., ?_⟩
    rw [List.length_append, List.length_append, hlength]
    rfl

/-- What two parts ask for comes to stand one after the other. -/
theorem trans {ls' : List LabelSpan} {ws' : List Wanted} (h : Settles there ws ls)
    (h' : Settles ls ws' ls') : Settles there (ws ++ ws') ls' := by
  induction h' with
  | nil => rwa [List.append_nil]
  | snoc _ hrow ih =>
    rw [← List.append_assoc]
    exact .snoc ih hrow

/-- Each label takes its row beside those in front of it. -/
theorem takes_of_eq_append (h : Settles [] ws ls) {before after : List LabelSpan} {l : LabelSpan}
    (hsplit : ls = before ++ l :: after) :
    ∃ w, ws[before.length]? = some w ∧ l = w.spanAt l.row ∧ w.Takes before l.row := by
  induction h generalizing after with
  | nil => simp at hsplit
  | @snoc ws ls w row h hrow ih =>
    obtain ⟨spans, hspans, hlength⟩ := h.exists_append
    rw [List.nil_append] at hspans
    rw [← hspans] at hlength
    rcases List.eq_nil_or_concat after with rfl | ⟨after, last, rfl⟩
    · -- the last label
      obtain ⟨rfl, hl⟩ := List.append_inj' hsplit rfl
      obtain rfl := (List.cons.inj hl).1
      exact ⟨w, by rw [hlength, List.getElem?_concat_length], rfl, hrow⟩
    · have hfront : ls ++ [w.spanAt row] = (before ++ l :: after) ++ [last] := by simpa using hsplit
      obtain ⟨hls, -⟩ := List.append_inj' hfront rfl
      obtain ⟨w', hw', hspan, htakes⟩ := ih hls
      have hlt : before.length < ws.length := (List.getElem?_eq_some_iff.mp hw').1
      exact ⟨w', by rw [List.getElem?_append_left hlt, hw'], hspan, htakes⟩

end Settles

namespace Canvas

/-! ## One label -/

/-- The first row without a common cell, or the last one that can be had. -/
theorem freeRow_spec (labels : List LabelSpan) (start finish : Int) (nudges : ℕ) (row : Int) :
    ∃ k : ℕ, k ≤ nudges ∧ freeRow labels start finish nudges (wrapRow row) = wrapRow (row + k) ∧
      (k < nudges → labels.any (·.meets (wrapRow (row + k)) start finish) = false) ∧
      ∀ j : ℕ, j < k → labels.any (·.meets (wrapRow (row + j)) start finish) = true := by
  induction nudges generalizing row with
  | zero => exact ⟨0, le_rfl, by simp [freeRow], nofun, nofun⟩
  | succ nudges ih =>
    rw [freeRow]
    split_ifs with htaken
    · -- the search goes on in the next row
      obtain ⟨k, hk, hrow, hfree, hbefore⟩ := ih (row + 1)
      have hnext (j : ℕ) : row + 1 + (j : Int) = row + (j + 1 : ℕ) := by omega
      refine ⟨k + 1, by omega, by rw [wrapRow_add, hrow, hnext], fun hlt => ?_, fun j hj => ?_⟩
      · rw [← hnext]
        exact hfree (by omega)
      · cases j with
        | zero => simpa using htaken
        | succ j => rw [← hnext]; exact hbefore j (by omega)
    · exact ⟨0, by omega, by simp, fun _ => by simpa using htaken, nofun⟩

/-- The row that is found is the one to take, tried or not. -/
theorem takes_freeRow (w : Wanted) {labels : List LabelSpan} (h : ∀ l ∈ labels, l.Proper) :
    w.Takes labels (freeRow labels w.start w.finish maxNudge w.row) := by
  obtain ⟨k, hk, hrow, hfree, hbefore⟩ := freeRow_spec labels w.start w.finish maxNudge w.row
  rw [wrapRow_of_le w.first_le w.row_le] at hrow
  have hthree : maxNudge = 3 := rfl
  have hearlier : ∀ j : ℕ, j < k → ¬w.FreeAt labels (w.rowAt j) := by
    intro j hj
    rw [w.freeAt_iff h, Wanted.rowAt, hbefore j hj]
    exact nofun
  by_cases hlast : w.FreeAt labels (w.rowAt k)
  · exact .inl ⟨k, hk, hrow, hlast, hearlier⟩
  · -- a row that was tried is free, so this is the fourth one
    have hk3 : k = 3 := by
      by_contra hne
      exact hlast ((w.freeAt_iff h _).mpr (hfree (by omega)))
    subst hk3
    refine .inr ⟨hrow, fun j hj => ?_⟩
    rcases hj.lt_or_eq with hlt | rfl
    · exact hearlier j hlt
    · exact hlast

end Canvas

/-! ## What a call asks for -/

variable {α : Type}

/-- The place and the characters of what a text leaves. -/
def Mark.written? : Mark α → Option (Point α × String)
  | .text anchor characters _ _ => some (anchor, characters)
  | _ => none

namespace Canvas

/-- The texts on a canvas with their places, in the order in which they were written. -/
def written (c : Canvas α) : List (Point α × String) :=
  c.marks.filterMap Mark.written?

theorem written_record (c : Canvas α) (marks : List (Mark α)) :
    (c.record marks).written = c.written ++ marks.filterMap Mark.written? :=
  List.filterMap_append

variable [Scalar α]

/-- A number that was cut off fits into 64 bits. -/
theorem toInt64_bounds (x : α) : firstRow ≤ Scalar.toInt64 x ∧ Scalar.toInt64 x ≤ lastRow := by
  unfold Scalar.toInt64 Scalar.toIntClamped firstRow lastRow
  split_ifs <;> omega

/-- What a text asks for; without characters or without a finite point it asks for nothing. -/
def wantedText (text : String) (p : Point α) (style : TextStyle α) : Option Wanted :=
  if h : text.isEmpty || !(Scalar.isFinite p.x && Scalar.isFinite p.y) then none
  else some
    { text
      row := Scalar.toInt64 (Scalar.floor (p.y / cellHeight))
      start := Scalar.toInt64 (Scalar.round
        (leftEdge style.align p.x (Scalar.ofNat text.length * cellWidth) / cellWidth))
      text_ne := by
        rintro rfl
        exact h rfl
      first_le := (toInt64_bounds _).1
      row_le := (toInt64_bounds _).2
      start_le := (toInt64_bounds _).2 }

/-- Where a row of an icon is written that is centred in a rectangle. -/
def rowAnchor (icon : Icon) (rect : Rect α) (i : Nat) : Point α :=
  { x := rect.center.x - Scalar.ofNat icon.width * cellWidth / 2.0
    y := rect.center.y - Scalar.ofNat (icon.height - 1) * cellHeight / 2.0 + Scalar.ofNat i * cellHeight }

/-- What the rows of an icon ask for. -/
def wantedImage (icon : Icon) (rect : Rect α) : List Wanted :=
  icon.rows.zipIdx.filterMap fun r => wantedText r.1 (rowAnchor icon rect r.2) iconStyle

/-- What a call asks for. -/
def wanted : DrawCall α → List Wanted
  | .text text p style => (wantedText text p style).toList
  | .image icon rect => wantedImage icon rect
  | _ => []

/-- What is asked for with one more call; clearing the canvas makes all of it void. -/
def request (ws : List Wanted) : DrawCall α → List Wanted
  | .clear _ => []
  | call => ws ++ wanted call

/-- What the calls since the last one that clears the canvas ask for. -/
def requested (calls : List (DrawCall α)) : List Wanted :=
  calls.foldl request []

/-! ## The labels that a call leaves -/

/-- A canvas after labels came to stand on it, each with its text at its first cell. -/
structure Gains (c : Canvas α) (ws : List Wanted) (c' : Canvas α) : Prop where
  cols : c'.cols = c.cols
  rows : c'.rows = c.rows
  settles : Settles c.labels ws c'.labels
  written : c'.written = c.written ++
    List.zipWith (fun w l => (c.cellAnchor l.start l.row, w.text)) ws (c'.labels.drop c.labels.length)

theorem cellAnchor_congr {c c' : Canvas α} (hcols : c'.cols = c.cols) (hrows : c'.rows = c.rows) :
    c'.cellAnchor = c.cellAnchor := by
  funext col row
  simp only [cellAnchor, width, height, hcols, hrows]

namespace Gains

variable {c c' c'' : Canvas α} {ws ws' : List Wanted}

theorem proper (h : c.Gains ws c') (hproper : ∀ l ∈ c.labels, l.Proper) : ∀ l ∈ c'.labels, l.Proper :=
  h.settles.proper hproper

theorem trans (h : c.Gains ws c') (h' : c'.Gains ws' c'') : c.Gains (ws ++ ws') c'' where
  cols := h'.cols.trans h.cols
  rows := h'.rows.trans h.rows
  settles := h.settles.trans h'.settles
  written := by
    obtain ⟨spans, hspans, hlength⟩ := h.settles.exists_append
    obtain ⟨spans', hspans', -⟩ := h'.settles.exists_append
    rw [h'.written, h.written, cellAnchor_congr h.cols h.rows, hspans', List.drop_left, hspans,
      List.drop_left, List.append_assoc, List.append_assoc, List.drop_left,
      List.zipWith_append hlength.symm]

theorem withPaths (h : c.Gains ws c') (paths : List (List (Point α))) :
    c.Gains ws { c' with paths } :=
  ⟨h.cols, h.rows, h.settles, h.written⟩

theorem same (hcols : c'.cols = c.cols) (hrows : c'.rows = c.rows) (hlabels : c'.labels = c.labels)
    (hwritten : c'.written = c.written) : c.Gains [] c' where
  cols := hcols
  rows := hrows
  settles := hlabels ▸ .nil
  written := by rw [hwritten, List.zipWith_nil_left, List.append_nil]

end Gains

variable {c c' : Canvas α}

theorem gains_placeText (hproper : ∀ l ∈ c.labels, l.Proper) (w : Wanted) (color : Rgb) (bold : Bool) :
    c.Gains [w] (c.placeText w.text w.start w.row color bold) where
  cols := rfl
  rows := rfl
  settles := .snoc .nil (takes_freeRow w hproper)
  written := by
    have hlabels : (c.placeText w.text w.start w.row color bold).labels
        = c.labels ++ [w.spanAt (freeRow c.labels w.start w.finish maxNudge w.row)] := rfl
    rw [hlabels, List.drop_left]
    exact written_record c _

/-- A text leaves the label that it asks for. -/
theorem gains_writeText (hproper : ∀ l ∈ c.labels, l.Proper) (text : String) (p : Point α)
    (style : TextStyle α) : c.Gains (wantedText text p style).toList (c.writeText text p style) := by
  unfold wantedText writeText
  split_ifs with h
  · exact .same rfl rfl rfl rfl
  · exact gains_placeText hproper _ _ _

/-- Marks that are no texts leave the labels alone. -/
theorem gains_record {marks : List (Mark α)} (h : ∀ mark ∈ marks, mark.written? = none) :
    c.Gains [] (c.record marks) := by
  refine .same rfl rfl rfl ?_
  rw [written_record, List.filterMap_eq_nil_iff.mpr h, List.append_nil]

/-- An icon leaves the labels that its rows ask for. -/
theorem gains_image (hproper : ∀ l ∈ c.labels, l.Proper) (icon : Icon) (rect : Rect α) :
    c.Gains (wantedImage icon rect) (c.image icon rect) := by
  -- row by row, whichever rows there are
  suffices hrows : ∀ rows : List (String × Nat), c.Gains
      (rows.filterMap fun r => wantedText r.1 (rowAnchor icon rect r.2) iconStyle)
      (rows.foldl (fun c r => c.writeText r.1 (rowAnchor icon rect r.2) iconStyle) c) from
    hrows icon.rows.zipIdx
  intro rows
  induction rows generalizing c with
  | nil => exact .same rfl rfl rfl rfl
  | cons r rows ih =>
    have hfirst := gains_writeText hproper r.1 (rowAnchor icon rect r.2) iconStyle
    have hrest := ih (hfirst.proper hproper)
    have hsplit : (r :: rows).filterMap (fun r => wantedText r.1 (rowAnchor icon rect r.2) iconStyle)
        = (wantedText r.1 (rowAnchor icon rect r.2) iconStyle).toList ++
          rows.filterMap fun r => wantedText r.1 (rowAnchor icon rect r.2) iconStyle := by
      rw [List.filterMap_cons]
      cases wantedText r.1 (rowAnchor icon rect r.2) iconStyle <;> rfl
    rw [hsplit]
    exact hfirst.trans hrest

theorem gains_roundedRect? {rect : Rect α} {radius : α} {color : Color α}
    (h : c.roundedRect? rect radius color = some c') : c.Gains [] c' := by
  unfold roundedRect? at h
  split_ifs at h with hfillable
  · obtain ⟨ys, -, rfl⟩ := Option.map_eq_some_iff.mp h
    exact gains_record (List.forall_mem_map.mpr fun _ _ => rfl)
  · obtain rfl := Option.some.inj h
    exact .same rfl rfl rfl rfl

/-- Every call but the one that clears the canvas leaves the labels that it asks for. -/
theorem gains_draw? (hproper : ∀ l ∈ c.labels, l.Proper) {call : DrawCall α}
    (hcall : ∀ color, call ≠ .clear color) (h : c.draw? call = some c') : c.Gains (wanted call) c' := by
  cases call with
  | clear color => exact absurd rfl (hcall color)
  | rect rect color => exact gains_roundedRect? h
  | roundedRect rect radius color => exact gains_roundedRect? h
  | beginPath =>
    obtain rfl := Option.some.inj h
    exact .same rfl rfl rfl rfl
  | moveTo p =>
    obtain rfl := Option.some.inj h
    exact .same rfl rfl rfl rfl
  | lineTo p =>
    obtain rfl := Option.some.inj h
    unfold lineTo
    split <;> exact .same rfl rfl rfl rfl
  | stroke style =>
    obtain rfl := Option.some.inj h
    exact (gains_record (List.forall_mem_map.mpr fun _ _ => rfl)).withPaths []
  | circle center radius color =>
    obtain rfl := Option.some.inj h
    refine gains_record (List.forall_mem_singleton.mpr ?_)
    split <;> rfl
  | image icon rect =>
    obtain rfl := Option.some.inj h
    exact gains_image hproper icon rect
  | text text p style =>
    obtain rfl := Option.some.inj h
    exact gains_writeText hproper text p style

/-! ## The labels of a frame -/

section

variable {cols rows : Nat}

/-- One more call leaves what it asks for behind what was asked for before. -/
theorem gains_request {ws : List Wanted} (hgains : (blank cols rows).Gains ws c) {call : DrawCall α}
    (h : c.draw? call = some c') : (blank cols rows).Gains (request ws call) c' := by
  have hproper : ∀ l ∈ c.labels, l.Proper := hgains.proper nofun
  cases call with
  | clear color =>
    obtain rfl := Option.some.inj h
    exact .same hgains.cols hgains.rows rfl rfl
  | _ => exact hgains.trans (gains_draw? hproper nofun h)

/-- What is drawn on a blank canvas leaves the labels that the calls since it was last cleared ask for. -/
theorem gains_drawAll? {calls : List (DrawCall α)} (h : (blank cols rows).drawAll? calls = some c) :
    (blank cols rows).Gains (requested calls) c := by
  -- the calls so far and what they ask for are carried along
  suffices hrun : ∀ (ws : List Wanted) (c₀ : Canvas α), (blank cols rows).Gains ws c₀ →
      c₀.drawAll? calls = some c → (blank cols rows).Gains (calls.foldl request ws) c from
    hrun [] _ (.same rfl rfl rfl rfl) h
  clear h
  induction calls with
  | nil =>
    intro ws c₀ hgains h
    obtain rfl := Option.some.inj h
    exact hgains
  | cons call calls ih =>
    intro ws c₀ hgains h
    obtain ⟨c₁, hcall, hrest⟩ := Option.bind_eq_some_iff.mp h
    exact ih _ c₁ (gains_request hgains hcall) hrest

end

/-- Texts and images can always be drawn. -/
theorem exists_drawAll? (c : Canvas α) {calls : List (DrawCall α)} (h : ∀ call ∈ calls, call.IsWriting) :
    ∃ c', c.drawAll? calls = some c' := by
  induction calls generalizing c with
  | nil => exact ⟨c, rfl⟩
  | cons call calls ih =>
    have hcalls : ∀ c₁ : Canvas α, ∃ c', c₁.drawAll? calls = some c' :=
      fun c₁ => ih c₁ fun call hcall => h call (List.mem_cons_of_mem _ hcall)
    have hcall : call.IsWriting := h call List.mem_cons_self
    cases call with
    | text text p style => exact hcalls (c.writeText text p style)
    | image icon rect => exact hcalls (c.image icon rect)
    | _ => cases hcall

/-- Texts and images can always be drawn. Whatever else was drawn with them, the labels of a canvas are those that the
calls since it was last cleared ask for, one for each and in their order. Each takes the first of four rows, from
the one on that it asks for, in which it meets no label in front of it, and the fourth if there is none; so it
overlaps one of them only if all four were taken. All labels stand in rows that 64 bits can number, and as far as
they can, the four rows are one below the other. The texts are written in the same order, each at the first cell of
its label. -/
theorem labels_of_calls (cols rows : Nat) (calls : List (DrawCall α)) :
    ((∀ call ∈ calls, call.IsWriting) → ∃ c, (blank cols rows).drawAll? calls = some c) ∧
    ∀ c, (blank cols rows).drawAll? calls = some c →
      c.labels.length = (requested calls).length ∧ (∀ l ∈ c.labels, l.Proper) ∧
      (∀ before l after, c.labels = before ++ l :: after →
        ∃ w : Wanted, (requested calls)[before.length]? = some w ∧ l = w.spanAt l.row ∧
          w.Takes before l.row ∧
          ((∃ l' ∈ before, l'.Overlaps l) → ∀ k : ℕ, k ≤ 3 → ¬w.FreeAt before (w.rowAt k)) ∧
          ∀ k : ℕ, w.row + k ≤ lastRow → w.rowAt k = w.row + k) ∧
      c.written = List.zipWith (fun w l => (c.cellAnchor l.start l.row, w.text)) (requested calls)
        c.labels := by
  refine ⟨exists_drawAll? _, fun c h => ?_⟩
  have hgains := gains_drawAll? h
  have hsettles : Settles [] (requested calls) c.labels := hgains.settles
  refine ⟨?_, hgains.proper nofun, fun before l after hsplit => ?_, ?_⟩
  · obtain ⟨spans, hspans, hlength⟩ := hsettles.exists_append
    rw [hspans, List.nil_append, hlength]
  · obtain ⟨w, hw, hspan, htakes⟩ := hsettles.takes_of_eq_append hsplit
    refine ⟨w, hw, hspan, htakes, ?_, fun k => w.rowAt_of_le⟩
    rintro ⟨l', hl', hoverlap⟩
    rw [hspan] at hoverlap
    exact htakes.not_freeAt hl' hoverlap
  · rw [hgains.written, cellAnchor_congr hgains.cols hgains.rows]
    rfl

end Canvas

end Terminal

end TrafficMap
