import Mathlib
import TrafficMap.Proofs.Canvas.Labels
import TrafficMap.Proofs.Number.Exact

/-!
# The rows of an icon on a canvas

The rows of an icon are labels like any other: each comes to stand by itself, and one that meets a label moves down
alone. All begin in the same column, so a row that an earlier row of the icon kept from its place cannot pass that
row. What can put two rows in the wrong order is a label that was there before the icon, behind the end of the
later row, where only the longer earlier row reaches (`exists_holdsBack`). Nothing else does (`order_of_image`),
but such a label is enough (`reversed_of_labels`). All this is about rows of cells with three more below them, which
64 bits can number.
-/

namespace TrafficMap.Terminal

/-- Whether a label keeps `l` from the row of `m` and leaves `m` alone: it begins behind the end of `m` and before
the end of `l`. -/
structure LabelSpan.HoldsBack (k l m : LabelSpan) : Prop where
  row : k.row = m.row
  behind : m.finish ≤ k.start
  before : k.start < l.finish

/-- A label that does not come to stand below an earlier one that began in the same column, in a higher row, passed
it where a label was in the way of that one alone. -/
theorem exists_holdsBack {v w : Wanted} {earlier ls : List LabelSpan} {r s : Int}
    (hstart : v.start = w.start) (hrow : v.row < w.row) (hrows : w.row + 3 ≤ Canvas.lastRow)
    (hsub : earlier ⊆ ls) (hv : v.Takes earlier r) (hmem : v.spanAt r ∈ ls) (hw : w.Takes ls s) (hle : s ≤ r) :
    ∃ k ∈ earlier, w.start < k.start ∧ k.HoldsBack (v.spanAt r) (w.spanAt s) := by
  have hvrows : v.row + 3 ≤ Canvas.lastRow := by omega
  obtain ⟨hvlow, hvhigh⟩ := hv.bounds hvrows
  obtain ⟨hwlow, hwhigh⟩ := hw.bounds hrows
  have hfree : w.FreeAt ls s := hw.freeAt_of_lt hrows (by omega)
  -- the first label had to move, so both hold cells
  have hvcells : v.start < v.finish := by
    have hmoved := hv.not_freeAt_of_lt hvrows le_rfl (by omega)
    simp only [Wanted.FreeAt, not_forall] at hmoved
    obtain ⟨l, -, col, hlow, hhigh, -⟩ := hmoved
    omega
  have hwcells : w.start < w.finish := by
    rw [Wanted.start_lt_finish_iff] at hvcells ⊢
    omega
  have hne : s ≠ r := by
    rintro rfl
    exact hfree _ hmem w.start le_rfl hwcells ⟨rfl, hstart.le, hstart ▸ hvcells⟩
  -- what kept the first label from the row where the second one stands is not in the way of that one
  have htaken : ¬v.FreeAt earlier s := hv.not_freeAt_of_lt hvrows (by omega) (by omega)
  simp only [Wanted.FreeAt, not_forall, not_not] at htaken
  obtain ⟨k, hk, col, hlow, hhigh, hkrow, hkstart, hkfinish⟩ := htaken
  have hbehind : w.finish ≤ k.start := by
    by_contra hnot
    exact hfree k (hsub hk) (Max.max k.start w.start) (by omega) (by omega)
      ⟨hkrow, by omega, by omega⟩
  exact ⟨k, hk, by omega, hkrow, hbehind, by simp only [Wanted.spanAt]; omega⟩

/-- Of labels that begin in one column a later one comes to stand below an earlier one, or a label that was there
before all of them holds the earlier one back. -/
theorem lt_or_holdsBack {v w : Wanted} {there spans earlier : List LabelSpan} {r s : Int}
    (hcol : ∀ l ∈ spans, l.start = w.start) (hrow : v.row < w.row) (hrows : w.row + 3 ≤ Canvas.lastRow)
    (hsub : earlier ⊆ there ++ spans) (hv : v.Takes earlier r) (hmem : v.spanAt r ∈ spans)
    (hw : w.Takes (there ++ spans) s) :
    r < s ∨ ∃ k ∈ there, k.HoldsBack (v.spanAt r) (w.spanAt s) := by
  rcases lt_or_ge r s with hbelow | hpassed
  · exact .inl hbelow
  · obtain ⟨k, hk, hafter, hholds⟩ :=
      exists_holdsBack (hcol _ hmem) hrow hrows hsub hv (List.mem_append_right _ hmem) hw hpassed
    rcases List.mem_append.mp (hsub hk) with hthere | hspans
    · exact .inr ⟨k, hthere, hholds⟩
    · -- the others begin in the same column, so they are in the way of both
      exact absurd (hcol k hspans) hafter.ne'

/-- Labels that begin in one column come to stand in order, as far as they ask for rows in order, unless one that
was there before holds one of them back. -/
theorem Settles.pairwise {there ls : List LabelSpan} {ws : List Wanted} {col : Int} (h : Settles there ws ls)
    (hcol : ∀ w ∈ ws, w.start = col) :
    ∃ spans, ls = there ++ spans ∧ spans.length = ws.length ∧
      (∀ p ∈ ws.zip spans, p.2 = p.1.spanAt p.2.row ∧ ∃ earlier, earlier ⊆ ls ∧ p.1.Takes earlier p.2.row) ∧
      (ws.zip spans).Pairwise fun p q => p.1.row < q.1.row → q.1.row + 3 ≤ Canvas.lastRow →
        p.2.row < q.2.row ∨ ∃ k ∈ there, k.HoldsBack p.2 q.2 := by
  induction h with
  | nil => exact ⟨[], (List.append_nil there).symm, rfl, List.forall_mem_nil _, .nil⟩
  | @snoc ws ls w row _ hrow ih =>
    rw [List.forall_mem_append, List.forall_mem_singleton] at hcol
    obtain ⟨hws, hw⟩ := hcol
    obtain ⟨spans, rfl, hlength, hplaced, hpairs⟩ := ih hws
    refine ⟨spans ++ [w.spanAt row], List.append_assoc .., by simp [hlength], ?_, ?_⟩
    · rw [List.zip_append hlength.symm, List.forall_mem_append]
      constructor
      · intro p hp
        obtain ⟨hspan, earlier, hsub, htakes⟩ := hplaced p hp
        exact ⟨hspan, earlier, List.subset_append_of_subset_left _ hsub, htakes⟩
      · exact List.forall_mem_singleton.mpr ⟨rfl, _, List.subset_append_left _ _, hrow⟩
    · -- only the pairs of the last label with those in front of it are new
      have hstart : ∀ l ∈ spans, l.start = w.start := by
        intro l hl
        rw [← List.map_snd_zip hlength.le] at hl
        obtain ⟨p, hp, rfl⟩ := List.mem_map.mp hl
        rw [(hplaced p hp).1, hw]
        exact hws p.1 (List.of_mem_zip hp).1
      rw [List.zip_append hlength.symm, List.pairwise_append]
      refine ⟨hpairs, List.pairwise_singleton _ _, fun p hp q hq hlt hrows => ?_⟩
      obtain rfl := List.mem_singleton.mp hq
      obtain ⟨hspan, earlier, hsub, htakes⟩ := hplaced p hp
      have hmem : p.1.spanAt p.2.row ∈ spans := hspan ▸ (List.of_mem_zip hp).2
      rw [hspan]
      exact lt_or_holdsBack hstart hlt hrows hsub htakes hmem hrow

namespace Canvas

section

variable {α : Type} [Scalar α]

/-- A text asks for the row that its point lies in, from the column on that its left edge is nearest to. -/
theorem place_of_wantedText {text : String} {p : Point α} {style : TextStyle α} {w : Wanted}
    (h : wantedText text p style = some w) :
    w.row = Scalar.toInt64 (Scalar.floor (p.y / cellHeight)) ∧
      w.start = Scalar.toInt64 (Scalar.round
        (leftEdge style.align p.x (Scalar.ofNat text.length * cellWidth) / cellWidth)) := by
  unfold wantedText at h
  split_ifs at h
  obtain rfl := Option.some.inj h
  exact ⟨rfl, rfl⟩

/-- A text leaves one label, in the first free row. -/
theorem labels_writeText {text : String} {p : Point α} {style : TextStyle α} {w : Wanted}
    (h : wantedText text p style = some w) (c : Canvas α) :
    (c.writeText text p style).labels
      = c.labels ++ [w.spanAt (freeRow c.labels w.start w.finish maxNudge w.row)] := by
  unfold wantedText at h
  unfold writeText
  split_ifs at h ⊢
  obtain rfl := Option.some.inj h
  rfl

/-- All rows of an icon ask for the same column. -/
theorem start_of_mem_wantedImage {icon : Icon} {rect : Rect α} {w : Wanted} (hw : w ∈ wantedImage icon rect) :
    w.start = Scalar.toInt64 (Scalar.round ((rowAnchor icon rect 0).x / cellWidth)) := by
  obtain ⟨r, -, hr⟩ := List.mem_filterMap.mp hw
  exact (place_of_wantedText hr).2

/-- A text at a finite point asks for its characters, if it has any. -/
theorem text_wantedText (text : String) {p : Point α}
    (h : Scalar.isFinite p.x = true ∧ Scalar.isFinite p.y = true) (style : TextStyle α) :
    (wantedText text p style).map (·.text) = Option.guard (· ≠ "") text := by
  by_cases hempty : text = "" <;> simp [wantedText, Option.guard, h, hempty]

/-- Every row of an icon that has characters asks for a label, in order, where all of them have a place. -/
theorem texts_wantedImage {icon : Icon} {rect : Rect α}
    (h : ∀ i < icon.height, Scalar.isFinite (rowAnchor icon rect i).x = true ∧
      Scalar.isFinite (rowAnchor icon rect i).y = true) :
    (wantedImage icon rect).map (·.text) = icon.rows.filter (· ≠ "") := by
  have hrow : ∀ r ∈ icon.rows.zipIdx,
      (wantedText r.1 (rowAnchor icon rect r.2) iconStyle).map (·.text) = Option.guard (· ≠ "") r.1 :=
    fun r hr => text_wantedText r.1 (h r.2 (List.snd_lt_of_mem_zipIdx hr)) iconStyle
  rw [wantedImage, List.map_filterMap, List.filterMap_congr hrow]
  calc icon.rows.zipIdx.filterMap (fun r => Option.guard (· ≠ "") r.1)
      = (icon.rows.zipIdx.map Prod.fst).filterMap (Option.guard (· ≠ "")) := by
        rw [List.filterMap_map]
        rfl
    _ = icon.rows.filter (· ≠ "") := by rw [List.zipIdx_map_fst, List.filterMap_eq_filter]

end

/-! ## Rows in exact arithmetic -/

section

open Exact

/-- A whole number in 64 bits is cut off nowhere. -/
theorem toInt64_number {n : ℤ} (hlow : firstRow ≤ n) (hhigh : n ≤ lastRow) :
    Scalar.toInt64 (number n) = n :=
  toIntClamped_intCast hlow hhigh

theorem div_cellWidth (x : ℝ) : number x / cellWidth = number (x / 10) := by
  rw [cellWidth, ofScientific_eq, number_div _ (by norm_num)]
  norm_num

theorem div_cellHeight (y : ℝ) : number y / cellHeight = number (y / 20) := by
  rw [cellHeight, ofScientific_eq, number_div _ (by norm_num)]
  norm_num

theorem toInt64_floor {y : ℝ} (hlow : firstRow ≤ ⌊y⌋) (hhigh : ⌊y⌋ ≤ lastRow) :
    Scalar.toInt64 (Scalar.floor (number y)) = ⌊y⌋ :=
  toInt64_number hlow hhigh

/-- Where the rows of an icon are written, in coordinates. -/
theorem rowAnchor_number (icon : Icon) (x y width height : ℝ) (i : ℕ) :
    rowAnchor icon ⟨number x, number y, number width, number height⟩ i
      = ⟨number (x + width / 2 - icon.width * 10 / 2),
          number (y + height / 2 - (icon.height - 1 : ℕ) * 20 / 2 + i * 20)⟩ := by
  have htwo : (2.0 : Exact) = number 2 := two_eq
  simp only [rowAnchor, Rect.center, cellWidth, cellHeight, htwo, ofNat_eq, ofScientific_eq, number_mul,
    number_div _ two_ne_zero, number_add, number_sub]
  norm_num

/-- The rows of an icon that lies among the rows of cells ask for one row of cells after the other. -/
theorem pairwise_row_wantedImage {icon : Icon} {x y width height : ℝ} {top : ℤ}
    (htop : ⌊(y + height / 2 - (icon.height - 1 : ℕ) * 20 / 2) / 20⌋ = top)
    (hlow : firstRow ≤ top) (hhigh : top + icon.height ≤ lastRow) :
    (wantedImage icon ⟨number x, number y, number width, number height⟩).Pairwise (·.row < ·.row) := by
  -- what a row asks for is counted from the first one
  have hrow : ∀ r ∈ icon.rows.zipIdx, ∀ w,
      wantedText r.1 (rowAnchor icon ⟨number x, number y, number width, number height⟩ r.2) iconStyle
        = some w → w.row = top + r.2 := by
    intro r hr w hw
    have hr : r.2 < icon.height := List.snd_lt_of_mem_zipIdx hr
    have hfloor : ⌊(y + height / 2 - (icon.height - 1 : ℕ) * 20 / 2 + r.2 * 20) / 20⌋ = top + r.2 := by
      rw [add_div, mul_div_cancel_right₀ _ (by norm_num), Int.floor_add_natCast, htop]
    rw [(place_of_wantedText hw).1, rowAnchor_number, div_cellHeight, toInt64_floor, hfloor] <;> omega
  have hsorted : icon.rows.zipIdx.Pairwise fun r r' => r.2 < r'.2 := by
    rw [← List.pairwise_map, List.zipIdx_map_snd]
    exact List.pairwise_lt_range'
  rw [wantedImage, List.pairwise_filterMap]
  refine hsorted.imp_of_mem fun {r r'} hr hr' hlt w hw w' hw' => ?_
  rw [hrow r hr w hw, hrow r' hr' w' hw']
  omega

/-- A text asks for the row that its point lies in, from the cell on whose left side is nearest. -/
theorem wantedText_number (w : Wanted) {x y : ℝ} (hstart : roundAway (x / 10) = w.start)
    (hrow : ⌊y / 20⌋ = w.row) (hleft : -9223372036854775808 ≤ w.start) :
    wantedText w.text ⟨number x, number y⟩ iconStyle = some w := by
  have hcol : Scalar.toInt64 (Scalar.round (number (x / 10))) = w.start := by
    rw [← hstart]
    exact toInt64_number (hstart ▸ hleft) (hstart ▸ w.start_le)
  unfold wantedText
  rw [dif_neg (by simp [w.text_ne])]
  simp only [iconStyle, leftEdge, div_cellWidth, div_cellHeight, hcol, toInt64_floor (hrow ▸ w.first_le)
    (hrow ▸ w.row_le), hrow]

end

/-! ## The order of the rows -/

/-- On a canvas on which anything was drawn, an icon leaves one label for every row that has characters, in order,
each in one of the four rows from the one on that it asks for, which lie one below the other if 64 bits can number
them. Where they can, and the later one of two rows of the icon asks for a lower row of cells, as they all do without
rounding (`pairwise_row_wantedImage`), it comes to stand below the earlier one, unless a label from before the icon
stands behind the later one, in its row, and kept the longer earlier one from there. -/
theorem order_of_image {α : Type} [Scalar α] {cols rows : Nat} {calls : List (DrawCall α)} {c : Canvas α}
    (h : (blank cols rows).drawAll? calls = some c) (icon : Icon) (rect : Rect α) :
    ∃ spans, (c.image icon rect).labels = c.labels ++ spans ∧
      spans.length = (wantedImage icon rect).length ∧
      ((∀ i < icon.height, Scalar.isFinite (rowAnchor icon rect i).x = true ∧
          Scalar.isFinite (rowAnchor icon rect i).y = true) →
        (wantedImage icon rect).map (·.text) = icon.rows.filter (· ≠ "")) ∧
      (∀ p ∈ (wantedImage icon rect).zip spans,
        p.2 = p.1.spanAt p.2.row ∧ (∃ k : ℕ, k ≤ 3 ∧ p.2.row = p.1.rowAt k) ∧
          (p.1.row + 3 ≤ lastRow → p.1.row ≤ p.2.row ∧ p.2.row ≤ p.1.row + 3)) ∧
      ((wantedImage icon rect).zip spans).Pairwise fun p q => p.1.row < q.1.row →
        q.1.row + 3 ≤ lastRow → p.2.row < q.2.row ∨ ∃ k ∈ c.labels, k.HoldsBack p.2 q.2 := by
  have hproper : ∀ l ∈ c.labels, l.Proper := (gains_drawAll? h).proper nofun
  obtain ⟨spans, hlabels, hlength, hplaced, hpairs⟩ :=
    (gains_image hproper icon rect).settles.pairwise fun w hw => start_of_mem_wantedImage hw
  refine ⟨spans, hlabels, hlength, texts_wantedImage, fun p hp => ?_, hpairs⟩
  obtain ⟨hspan, earlier, -, htakes⟩ := hplaced p hp
  exact ⟨hspan, htakes.exists_rowAt, htakes.bounds⟩

/-! ## Two labels that change the order of an icon -/

section

open Exact

/-- Two short labels in neighbouring rows. -/
noncomputable def shortLabels : List (DrawCall Exact) :=
  [.text "a" ⟨number 110, number 90⟩ iconStyle, .text "b" ⟨number 110, number 110⟩ iconStyle]

/-- A long row over a short one. -/
def pan : Icon :=
  { rows := ["====", "o"] }

/-- A square whose centre lies beside the two labels. -/
noncomputable def square : Rect Exact :=
  { x := number 80, y := number 80, width := number 40, height := number 40 }

def longRow : Wanted :=
  { text := "====", row := 4, start := 8, text_ne := by decide, first_le := by decide, row_le := by decide
    start_le := by decide }

def shortRow : Wanted :=
  { text := "o", row := 5, start := 8, text_ne := by decide, first_le := by decide, row_le := by decide
    start_le := by decide }

theorem rowAnchor_pan (i : ℕ) : rowAnchor pan square i = ⟨number 80, number (90 + i * 20)⟩ := by
  have hwidth : pan.width = 4 := by decide
  have hheight : pan.height = 2 := rfl
  rw [square, rowAnchor_number, hwidth, hheight]
  norm_num

theorem wantedText_longRow : wantedText "====" (rowAnchor pan square 0) iconStyle = some longRow := by
  rw [rowAnchor_pan]
  exact wantedText_number longRow (by norm_num [roundAway, longRow]) (by norm_num [longRow]) (by decide)

theorem wantedText_shortRow : wantedText "o" (rowAnchor pan square 1) iconStyle = some shortRow := by
  rw [rowAnchor_pan]
  exact wantedText_number shortRow (by norm_num [roundAway, shortRow]) (by norm_num [shortRow]) (by decide)

/-- Both rows of the pan ask for a label. -/
theorem wantedImage_pan : wantedImage pan square = [longRow, shortRow] := by
  show [("====", 0), ("o", 1)].filterMap _ = _
  simp only [List.filterMap_cons, wantedText_longRow, wantedText_shortRow, List.filterMap_nil]

/-- The short labels come to stand where they are written. -/
theorem labels_shortLabels {c : Canvas Exact} (h : (blank 40 20).drawAll? shortLabels = some c) :
    c.labels = [⟨4, 11, 12⟩, ⟨5, 11, 12⟩] := by
  have ha := wantedText_number ⟨"a", 4, 11, by decide, by decide, by decide, by decide⟩ (x := 110) (y := 90)
    (by norm_num [roundAway]) (by norm_num) (by decide)
  have hb := wantedText_number ⟨"b", 5, 11, by decide, by decide, by decide, by decide⟩ (x := 110) (y := 110)
    (by norm_num [roundAway]) (by norm_num) (by decide)
  obtain rfl := Option.some.inj h
  rw [labels_writeText hb, labels_writeText ha]
  decide

/-- The long row passes the short one: both labels are in its way. -/
theorem labels_image_pan {c : Canvas Exact} (h : (blank 40 20).drawAll? shortLabels = some c) :
    (c.image pan square).labels = c.labels ++ [⟨6, 8, 12⟩, ⟨5, 8, 9⟩] := by
  have himage : c.image pan square = (c.writeText "====" (rowAnchor pan square 0) iconStyle).writeText "o"
      (rowAnchor pan square 1) iconStyle := rfl
  rw [himage, labels_writeText wantedText_shortRow, labels_writeText wantedText_longRow, labels_shortLabels h]
  decide

/-- Two labels in neighbouring rows, right of an icon, are in the way of its long first row and not of its short
second one. The first row comes to stand below them and the second one stays above it. -/
theorem reversed_of_labels :
    ∃ c, (blank 40 20).drawAll? shortLabels = some c ∧
      (c.image pan square).labels = c.labels ++ [⟨6, 8, 12⟩, ⟨5, 8, 9⟩] ∧
      ¬((c.image pan square).labels.drop c.labels.length).Pairwise (·.row < ·.row) := by
  obtain ⟨c, hc⟩ : ∃ c, (blank 40 20).drawAll? shortLabels = some c := ⟨_, rfl⟩
  have hlabels := labels_image_pan hc
  refine ⟨c, hc, hlabels, ?_⟩
  rw [hlabels, List.drop_left]
  decide

/-- One of the two labels holds the long row back. -/
theorem order_of_image_pan :
    ∃ c, (blank 40 20).drawAll? shortLabels = some c ∧ ∃ k ∈ c.labels, k.HoldsBack ⟨6, 8, 12⟩ ⟨5, 8, 9⟩ := by
  obtain ⟨c, hc⟩ : ∃ c, (blank 40 20).drawAll? shortLabels = some c := ⟨_, rfl⟩
  obtain ⟨spans, hlabels, -, -, -, hpairs⟩ := order_of_image hc pan square
  obtain rfl := List.append_cancel_left (hlabels.symm.trans (labels_image_pan hc))
  -- the long row asks for the higher row of cells
  have htop : ⌊((80 : ℝ) + 40 / 2 - (pan.height - 1 : ℕ) * 20 / 2) / 20⌋ = 4 := by
    norm_num [pan, Icon.height]
  have hrows : (wantedImage pan square).Pairwise (·.row < ·.row) :=
    pairwise_row_wantedImage htop (by decide) (by decide)
  rw [wantedImage_pan] at hpairs hrows
  have hpair := List.rel_of_pairwise_cons hpairs List.mem_cons_self
  have hlower := List.rel_of_pairwise_cons hrows List.mem_cons_self
  exact ⟨c, hc, (hpair hlower (by decide)).resolve_left (by decide)⟩

end

end Canvas

end TrafficMap.Terminal
