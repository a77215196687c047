import Mathlib
import TrafficMap.Text.Uppercase
import TrafficMap.Text.Words

/-!
# Words and blanks

Pieces of a text are those of the list library (`pieces_eq_splitOnP`), and the runs between its cuts hold the
characters that are no cuts, in order (`flatten_runs`); they are the longest such runs (`runs_eq_iff`). Words without
cuts are found again in the text that they are joined to (`runs_join`). Trimming twice is trimming once (`trim_trim`),
and nothing remains of a text exactly if it was blank (`trim_eq_nil_iff`). A character in upper case is as blank as
before (`isBlankText_uppercase`).
-/

namespace TrafficMap.Text

/-! ## Pieces and runs -/

section

variable {p q : Char → Bool}

/-- The pieces of a text are those that the library splits it into. -/
theorem pieces_eq_splitOnP (p : Char → Bool) (cs : List Char) : pieces p cs = cs.splitOnP p := by
  induction cs with
  | nil => rfl
  | cons c cs ih =>
    rw [pieces, ih, List.splitOnP_cons_eq_if_modifyHead]
    cases hpieces : cs.splitOnP p with
    | nil => exact absurd hpieces (List.splitOnP_ne_nil p cs)
    | cons w ws => rfl

/-- Splitting loses the separators and nothing else. -/
theorem flatten_pieces (p : Char → Bool) (cs : List Char) :
    (pieces p cs).flatten = cs.filter fun c => !p c := by
  induction cs with
  | nil => rfl
  | cons c cs ih =>
    rw [pieces, List.filter_cons, ← ih]
    cases hc : p c with
    | true => rfl
    | false => cases pieces p cs <;> rfl

/-- A text falls into runs at every cut by itself. -/
theorem runs_append_cons {c : Char} (hc : p c = true) (cs ds : List Char) :
    runs p (cs ++ c :: ds) = runs p cs ++ runs p ds := by
  simp only [runs, pieces_eq_splitOnP]
  rw [List.splitOnP_append_cons cs ds hc, List.filter_append]

/-- A text without cuts is one run. -/
theorem runs_of_forall {w : List Char} (hne : w ≠ []) (h : ∀ c ∈ w, p c = false) :
    runs p w = [w] := by
  rw [runs, pieces_eq_splitOnP, List.splitOnP_eq_singleton h]
  simp [hne]

/-- The same of runs. -/
theorem flatten_runs (p : Char → Bool) (cs : List Char) :
    (runs p cs).flatten = cs.filter fun c => !p c := by
  rw [runs, List.flatten_filter_not_isEmpty, flatten_pieces]

/-- Only texts of separators have no runs. -/
theorem runs_eq_nil_iff {cs : List Char} : runs p cs = [] ↔ ∀ c ∈ cs, p c = true := by
  -- no run is empty, so there are none if they hold no characters
  have hflatten : (runs p cs).flatten = [] ↔ runs p cs = [] := by
    rw [List.flatten_eq_nil_iff]
    constructor
    · intro hnil
      rw [List.eq_nil_iff_forall_not_mem]
      intro w hw
      have hne := List.of_mem_filter hw
      rw [hnil w hw] at hne
      cases hne
    · rintro hnil w hw
      rw [hnil] at hw
      cases hw
  rw [← hflatten, flatten_runs, List.filter_eq_nil_iff]
  simp only [Bool.not_eq_true, Bool.not_eq_false']

/-- Runs depend on the test only through the characters of the text. -/
theorem runs_congr {cs : List Char} (h : ∀ c ∈ cs, p c = q c) : runs p cs = runs q cs := by
  have hpieces : pieces p cs = pieces q cs := by
    induction cs with
    | nil => rfl
    | cons c cs ih =>
      rw [pieces, pieces, h c List.mem_cons_self, ih fun d hd => h d (List.mem_cons_of_mem c hd)]
  rw [runs, hpieces, runs]

/-- A run is not empty, and it holds characters of the text that are no cuts. -/
theorem forall_of_mem_runs {cs w : List Char} (hw : w ∈ runs p cs) :
    w ≠ [] ∧ ∀ c ∈ w, c ∈ cs ∧ p c = false := by
  constructor
  · rintro rfl
    cases List.of_mem_filter hw
  · intro c hc
    have hmem : c ∈ (runs p cs).flatten := List.mem_flatten.mpr ⟨w, hw, hc⟩
    rw [flatten_runs, List.mem_filter, Bool.not_eq_true'] at hmem
    exact hmem

/-- A gap in front adds no run. -/
theorem runs_append_of_forall {gap : List Char} (hgap : ∀ c ∈ gap, p c = true) (cs : List Char) :
    runs p (gap ++ cs) = runs p cs := by
  induction gap with
  | nil => rfl
  | cons c gap ih =>
    have hcons := runs_append_cons (hgap c List.mem_cons_self) [] (gap ++ cs)
    rw [List.nil_append] at hcons
    rw [List.cons_append, hcons, ih fun d hd => hgap d (List.mem_cons_of_mem c hd)]
    rfl

/-! ## Maximal runs -/

/-- The longest runs of characters that fail a test, in order: in front of the first one and behind every one there
are cuts only, and behind every one but the last there is at least one cut. -/
inductive MaximalRuns (p : Char → Bool) : List Char → List (List Char) → Prop where
  | nil {gap : List Char} (hgap : ∀ c ∈ gap, p c = true) : MaximalRuns p gap []
  | cons {gap w rest : List Char} {ws : List (List Char)} (hgap : ∀ c ∈ gap, p c = true)
      (hne : w ≠ []) (hw : ∀ c ∈ w, p c = false) (hend : ∀ c ∈ rest.head?, p c = true)
      (hrest : MaximalRuns p rest ws) : MaximalRuns p (gap ++ (w ++ rest)) (w :: ws)

/-- Maximal runs are the ones that are found. -/
theorem MaximalRuns.runs_eq {cs : List Char} {ws : List (List Char)} (h : MaximalRuns p cs ws) :
    runs p cs = ws := by
  induction h with
  | nil hgap => exact runs_eq_nil_iff.mpr hgap
  | @cons gap w rest ws hgap hne hw hend hrest ih =>
    rw [runs_append_of_forall hgap]
    cases rest with
    | nil => rw [List.append_nil, runs_of_forall hne hw, ← ih]; rfl
    | cons c rest =>
      have hc : p c = true := hend c rfl
      have hskip : runs p ([c] ++ rest) = runs p rest := runs_append_of_forall (by simpa using hc) rest
      rw [runs_append_cons hc, runs_of_forall hne hw, ← ih, ← hskip]
      rfl

/-- Every text has maximal runs. -/
theorem exists_maximalRuns (p : Char → Bool) (cs : List Char) : ∃ ws, MaximalRuns p cs ws := by
  induction cs with
  | nil => exact ⟨[], .nil nofun⟩
  | cons c cs ih =>
    obtain ⟨ws, hws⟩ := ih
    cases hc : p c with
    | true =>
      -- a cut joins the ones in front of the first run
      cases hws with
      | nil hgap => exact ⟨[], .nil (List.forall_mem_cons.mpr ⟨hc, hgap⟩)⟩
      | cons hgap hne hw hend hrest =>
        exact ⟨_, .cons (List.forall_mem_cons.mpr ⟨hc, hgap⟩) hne hw hend hrest⟩
    | false =>
      -- another character begins a run, or joins the one right behind it
      have hbegin (w rest : List Char) (vs : List (List Char)) (hw : ∀ d ∈ w, p d = false)
          (hend : ∀ d ∈ rest.head?, p d = true) (hrest : MaximalRuns p rest vs) :
          MaximalRuns p (c :: (w ++ rest)) ((c :: w) :: vs) :=
        @MaximalRuns.cons p [] (c :: w) rest vs nofun (List.cons_ne_nil c w)
          (List.forall_mem_cons.mpr ⟨hc, hw⟩) hend hrest
      cases hws with
      | nil hgap =>
        exact ⟨[[c]], hbegin [] cs [] nofun (fun d hd => hgap d (List.mem_of_mem_head? hd)) (.nil hgap)⟩
      | @cons gap w rest ws hgap hne hw hend hrest =>
        cases gap with
        | nil => exact ⟨(c :: w) :: ws, hbegin w rest ws hw hend hrest⟩
        | cons d gap =>
          have hd : ∀ e ∈ (d :: gap ++ (w ++ rest)).head?, p e = true := by
            simpa using hgap d List.mem_cons_self
          exact ⟨[c] :: w :: ws, hbegin [] (d :: gap ++ (w ++ rest)) (w :: ws) nofun hd
            (.cons hgap hne hw hend hrest)⟩

/-- The runs of a text are its maximal ones. -/
theorem runs_eq_iff {cs : List Char} {ws : List (List Char)} :
    runs p cs = ws ↔ MaximalRuns p cs ws := by
  constructor
  · rintro rfl
    obtain ⟨ws, hws⟩ := exists_maximalRuns p cs
    rwa [hws.runs_eq]
  · exact MaximalRuns.runs_eq

end

/-! ## Ends -/

section

variable {p : Char → Bool}

theorem dropEnd_cons (c : Char) (cs : List Char) :
    dropEnd p (c :: cs) = if (dropEnd p cs).isEmpty && p c then [] else c :: dropEnd p cs :=
  rfl

/-- Dropping the last members by a fold is what the list library does from the other end. -/
theorem foldr_eq_rdropWhile {β : Type} (q : β → Bool) (xs : List β) :
    xs.foldr (fun x rest => if rest.isEmpty && q x then [] else x :: rest) [] = xs.rdropWhile q := by
  induction xs with
  | nil => rfl
  | cons x xs ih =>
    rw [List.foldr_cons, ih, List.rdropWhile, List.rdropWhile, List.reverse_cons, List.dropWhile_append]
    cases hdrop : xs.reverse.dropWhile q <;> cases hx : q x <;> simp [hx]

theorem rdropWhile_append_of_forall {β : Type} {q : β → Bool} {ys : List β} (h : ∀ x ∈ ys, q x = true)
    (xs : List β) : (xs ++ ys).rdropWhile q = xs.rdropWhile q := by
  rw [List.rdropWhile, List.reverse_append, List.dropWhile_append_of_pos (by simpa using h)]
  rfl

/-- Dropping at the end is that of the library. -/
theorem dropEnd_eq_rdropWhile (cs : List Char) : dropEnd p cs = cs.rdropWhile p :=
  foldr_eq_rdropWhile p cs

/-- What is dropped at the end may as well not be there. -/
theorem dropEnd_append_of_forall {ds : List Char} (h : ∀ c ∈ ds, p c = true) (cs : List Char) :
    dropEnd p (cs ++ ds) = dropEnd p cs := by
  rw [dropEnd_eq_rdropWhile, dropEnd_eq_rdropWhile, rdropWhile_append_of_forall h]

/-- What remains of the end of a text keeps everything in front of it. -/
theorem dropEnd_append_of_ne_nil {ds : List Char} (h : dropEnd p ds ≠ []) (cs : List Char) :
    dropEnd p (cs ++ ds) = cs ++ dropEnd p ds := by
  induction cs with
  | nil => rfl
  | cons c cs ih =>
    rw [List.cons_append, dropEnd_cons, ih]
    simp [h]

/-- A text that ends in other characters loses nothing. -/
theorem dropEnd_append_self {ds : List Char} (hne : ds ≠ []) (h : ∀ c ∈ ds, p c = false)
    (cs : List Char) : dropEnd p (cs ++ ds) = cs ++ ds := by
  rw [dropEnd_eq_rdropWhile, List.rdropWhile_eq_self_iff]
  intro hl
  rw [List.getLast_append_of_ne_nil hl hne, h _ (List.getLast_mem hne)]
  exact Bool.false_ne_true

end

/-! ## Blank texts -/

/-- A joined text is blank if both parts are. -/
theorem isBlankText_append (cs ds : List Char) :
    isBlankText (cs ++ ds) = (isBlankText cs && isBlankText ds) :=
  List.all_append

/-- Nothing is left of a blank text, and something of any other. -/
theorem trim_eq_nil_iff {cs : List Char} : trim cs = [] ↔ isBlankText cs = true := by
  have hsplit := isBlankText_append (cs.takeWhile isBlank) (cs.dropWhile isBlank)
  have hfront : isBlankText (cs.takeWhile isBlank) = true := List.all_takeWhile
  rw [List.takeWhile_append_dropWhile, hfront, Bool.true_and] at hsplit
  rw [trim, dropEnd_eq_rdropWhile, List.rdropWhile_eq_nil_iff, hsplit, isBlankText, List.all_eq_true]

/-- Trimming twice is trimming once. -/
theorem trim_trim (cs : List Char) : trim (trim cs) = trim cs := by
  have hfront : (trim cs).dropWhile isBlank = trim cs := by
    rw [List.dropWhile_eq_self_iff]
    intro hpos
    -- what is dropped at the end leaves the first character as it is
    have hbegins : trim cs <+: cs.dropWhile isBlank := by
      rw [trim, dropEnd_eq_rdropWhile]
      exact List.rdropWhile_prefix _ _
    rw [hbegins.getElem hpos]
    exact List.dropWhile_eq_self_iff.mp (List.dropWhile_idempotent isBlank cs) _
  rw [trim, hfront, trim, dropEnd_eq_rdropWhile, dropEnd_eq_rdropWhile, List.rdropWhile_idempotent]

theorem join_cons_cons (separator w w' : List Char) (ws : List (List Char)) :
    join separator (w :: w' :: ws) = w ++ separator ++ join separator (w' :: ws) :=
  rfl

/-- A text joined by spaces is blank if all parts are. -/
theorem isBlankText_join (ws : List (List Char)) :
    isBlankText (join [' '] ws) = ws.all isBlankText := by
  induction ws with
  | nil => rfl
  | cons w ws ih =>
    cases ws with
    | nil => exact (Bool.and_true _).symm
    | cons w' ws =>
      have hblank : isBlankText [' '] = true := rfl
      rw [join_cons_cons, isBlankText_append, isBlankText_append, hblank, Bool.and_true, ih,
        List.all_cons (l := w' :: ws)]

theorem isBlank_of_isDigit {c : Char} (h : c.isDigit = true) : isBlank c = false := by
  obtain ⟨hlow, hhigh⟩ := Char.isDigit_iff_toNat.mp h
  have hzero : '0'.toNat = 48 := rfl
  have hnine : '9'.toNat = 57 := rfl
  simp only [isBlank, Bool.or_eq_false_iff, Bool.and_eq_false_iff, decide_eq_false_iff_not]
  omega

/-! ## Joined words -/

section

variable {separator : List Char} {ws : List (List Char)}

theorem exists_join_cons (separator w : List Char) (ws : List (List Char)) :
    ∃ rest, join separator (w :: ws) = w ++ rest := by
  cases ws with
  | nil => exact ⟨[], (List.append_nil w).symm⟩
  | cons w' ws => exact ⟨separator ++ join separator (w' :: ws), List.append_assoc _ _ _⟩

/-- A character of a joined text comes from a part or from a separator. -/
theorem mem_of_mem_join {c : Char} (hc : c ∈ join separator ws) : c ∈ separator ∨ ∃ w ∈ ws, c ∈ w := by
  induction ws with
  | nil => cases hc
  | cons w ws ih =>
    cases ws with
    | nil => exact .inr ⟨w, List.mem_cons_self, hc⟩
    | cons w' ws =>
      rw [join_cons_cons, List.mem_append, List.mem_append] at hc
      obtain (hw | hseparator) | hrest := hc
      · exact .inr ⟨w, List.mem_cons_self, hw⟩
      · exact .inl hseparator
      · refine (ih hrest).imp_right ?_
        rintro ⟨v, hv, hcv⟩
        exact ⟨v, List.mem_cons_of_mem w hv, hcv⟩

/-- Joining is that of the library. -/
theorem join_eq_intercalate (separator : List Char) (ws : List (List Char)) :
    join separator ws = separator.intercalate ws := by
  induction ws with
  | nil => rfl
  | cons w ws ih =>
    cases ws with
    | nil => exact List.intercalate_singleton.symm
    | cons w' ws => rw [List.intercalate_cons_cons, ← ih, join_cons_cons]

/-- Words without cuts are the runs of the text in which one cut stands between neighbours. -/
theorem runs_join {p : Char → Bool} {c : Char} (hc : p c = true) (hne : ∀ w ∈ ws, w ≠ [])
    (hcuts : ∀ w ∈ ws, ∀ d ∈ w, p d = false) : runs p (join [c] ws) = ws := by
  induction ws with
  | nil => rfl
  | cons w ws ih =>
    have hfirst : runs p w = [w] :=
      runs_of_forall (hne w List.mem_cons_self) (hcuts w List.mem_cons_self)
    cases ws with
    | nil => exact hfirst
    | cons w' ws =>
      have hrest := ih (fun v hv => hne v (List.mem_cons_of_mem w hv))
        (fun v hv => hcuts v (List.mem_cons_of_mem w hv))
      rw [join_cons_cons, List.append_assoc, List.singleton_append, runs_append_cons hc, hfirst, hrest,
        List.singleton_append]

/-- Nothing is dropped from a joined text whose parts have nothing to drop. -/
theorem dropEnd_join {p : Char → Bool} (hne : ∀ w ∈ ws, w ≠ []) (hkept : ∀ w ∈ ws, ∀ c ∈ w, p c = false) :
    dropEnd p (join separator ws) = join separator ws := by
  induction ws with
  | nil => rfl
  | cons w ws ih =>
    cases ws with
    | nil => exact dropEnd_append_self (hne w List.mem_cons_self) (hkept w List.mem_cons_self) []
    | cons w' ws =>
      have hrest := ih (fun v hv => hne v (List.mem_cons_of_mem w hv))
        (fun v hv => hkept v (List.mem_cons_of_mem w hv))
      have hremains : dropEnd p (join separator (w' :: ws)) ≠ [] := by
        obtain ⟨rest, hcons⟩ := exists_join_cons separator w' ws
        rw [hrest, hcons]
        exact List.append_ne_nil_of_left_ne_nil (hne w' (by simp)) rest
      rw [join_cons_cons, dropEnd_append_of_ne_nil hremains, hrest]

/-- Words without blanks leave no blanks at the ends of the text that they are joined to. -/
theorem trim_join (hne : ∀ w ∈ ws, w ≠ []) (hword : ∀ w ∈ ws, ∀ c ∈ w, isBlank c = false) :
    trim (join separator ws) = join separator ws := by
  have hfront : (join separator ws).dropWhile isBlank = join separator ws := by
    cases ws with
    | nil => rfl
    | cons w ws =>
      obtain ⟨c, cs, rfl⟩ := List.exists_cons_of_ne_nil (hne w List.mem_cons_self)
      obtain ⟨rest, hrest⟩ := exists_join_cons separator (c :: cs) ws
      have hc : isBlank c = false := hword _ List.mem_cons_self c List.mem_cons_self
      rw [hrest, List.cons_append, List.dropWhile_cons_of_neg (by simp [hc])]
  rw [trim, hfront, dropEnd_join hne hword]

/-- A text without blanks has nothing to trim. -/
theorem trim_of_forall {cs : List Char} (h : ∀ c ∈ cs, isBlank c = false) : trim cs = cs := by
  cases cs with
  | nil => rfl
  | cons c cs =>
    show trim (join [] [c :: cs]) = join [] [c :: cs]
    exact trim_join (by simp) (by simpa using h)

end

/-! ## Upper case -/

/-- First and last code point of a run of blanks. -/
def blankRanges : List (Nat × Nat) :=
  [(9, 13), (0x20, 0x20), (0x85, 0x85), (0xA0, 0xA0), (0x1680, 0x1680), (0x2000, 0x200A), (0x2028, 0x2029),
    (0x202F, 0x202F), (0x205F, 0x205F), (0x3000, 0x3000)]

/-- The blanks are the characters of certain ranges. -/
theorem isBlank_iff_exists_range {c : Char} :
    isBlank c = true ↔ ∃ r ∈ blankRanges, r.1 ≤ c.toNat ∧ c.toNat ≤ r.2 := by
  simp only [isBlank, blankRanges, List.mem_cons, List.not_mem_nil, or_false, exists_eq_or_imp,
    exists_eq_left, Bool.or_eq_true, Bool.and_eq_true, decide_eq_true_eq]
  omega

theorem pos_of_mem_blankRanges : ∀ r ∈ blankRanges, 0 < r.1 := by
  decide

/-- A number that is no code point stands for a character that is not blank. -/
theorem exists_range_of_ofNat {n : Nat} (h : isBlank (Char.ofNat n) = true) :
    ∃ r ∈ blankRanges, r.1 ≤ n ∧ n ≤ r.2 := by
  obtain ⟨r, hr, hlow, hhigh⟩ := isBlank_iff_exists_range.mp h
  rw [Char.toNat_ofNat] at hlow hhigh
  split_ifs at hlow hhigh
  · exact ⟨r, hr, hlow, hhigh⟩
  · exact absurd hlow (pos_of_mem_blankRanges r hr).not_ge

/-- No letter of the table is a blank, nor is its upper case. -/
theorem ranges_apart : ∀ row ∈ Uppercase.ranges, ∀ r ∈ blankRanges,
    (row.2.1 < r.1 ∨ r.2 < row.1) ∧
      ((row.2.1 : Int) + row.2.2.2 < r.1 ∨ (r.2 : Int) < row.1 + row.2.2.2) := by
  decide +kernel

/-- No range of letters with a capital holds a blank, before or after raising. -/
theorem isBlank_of_mem_ranges {row : Nat × Nat × Nat × Int} (hrow : row ∈ Uppercase.ranges) {n : Nat}
    (hfirst : row.1 ≤ n) (hlast : n ≤ row.2.1) :
    isBlank (Char.ofNat n) = false ∧ isBlank (Char.ofNat (n + row.2.2.2).toNat) = false := by
  constructor <;> rw [Bool.eq_false_iff] <;> intro hblank <;>
    obtain ⟨r, hr, hlow, hhigh⟩ := exists_range_of_ofNat hblank
  · have hletter := (ranges_apart row hrow r hr).1
    omega
  · have hupper := (ranges_apart row hrow r hr).2
    have hpos := pos_of_mem_blankRanges r hr
    omega

/-- What a single character is raised to is blank only if the character is. -/
theorem isBlankText_expansions : ∀ e ∈ Uppercase.expansions,
    isBlankText (e.2.map Char.ofNat) = isBlank (Char.ofNat e.1) := by
  decide +kernel

/-- What holds of all characters of ASCII can be looked up. -/
theorem forall_ascii {P : Char → Prop} (h : ∀ n < 128, P (Char.ofNat n)) {c : Char} (hc : c.toNat < 128) :
    P c := by
  have hP := h c.toNat hc
  rwa [Char.ofNat_toNat] at hP

theorem isBlank_toUpper {c : Char} (h : c.toNat < 128) : isBlank c.toUpper = isBlank c :=
  forall_ascii (P := fun c => isBlank c.toUpper = isBlank c) (by decide +kernel) h

theorem toUpper_toUpper {c : Char} (h : c.toNat < 128) : c.toUpper.toUpper = c.toUpper :=
  forall_ascii (P := fun c => c.toUpper.toUpper = c.toUpper) (by decide +kernel) h

/-- Raising a character keeps whether it is blank. -/
theorem isBlankText_uppercase (c : Char) : isBlankText (uppercase c) = isBlank c := by
  have hsingle (d : Char) : isBlankText [d] = isBlank d := Bool.and_true _
  unfold uppercase
  -- the character is of ASCII, or becomes several, or belongs to a run of letters, or stays as it is
  split
  · next hascii => rw [hsingle, isBlank_toUpper hascii]
  · split
    · next e he =>
      have hcode : e.1 = c.toNat := by simpa using List.find?_some he
      rw [isBlankText_expansions e (List.mem_of_find?_eq_some he), hcode, Char.ofNat_toNat]
    · split
      · next first last step distance hrow =>
        have hletter := List.find?_some hrow
        simp only [Bool.and_eq_true, decide_eq_true_eq] at hletter
        obtain ⟨⟨hfirst, hlast⟩, -⟩ := hletter
        obtain ⟨hc, hupper⟩ := isBlank_of_mem_ranges (List.mem_of_find?_eq_some hrow) hfirst hlast
        rw [Char.ofNat_toNat] at hc
        rw [hsingle, hupper, hc]
      · exact hsingle c

end TrafficMap.Text
