import Mathlib
import TrafficMap.Proofs.Identity.HostNames
import TrafficMap.Proofs.Text.Words

/-!
# Normal names

A host name is cut at its first dot, and the words of what stands in front of it, capitalized, make the name of a
device. Words that cannot be cut again and are capitalized already make a normal name: it is left as it is
(`normalizeHostname_join`). Every name that an ASCII host name without blanks leads to is normal, and the words in it
are those between the dashes and underscores of the label (`words_of_plain_hostname`).
-/

namespace TrafficMap.Identity

open Text (trim isBlank runs MaximalRuns)

/-! ## Labels -/

/-- What stands behind the first dot does not matter. -/
theorem takeWhile_append_dot (cs ds : List Char) :
    (cs ++ '.' :: ds).takeWhile (· ≠ '.') = cs.takeWhile (· ≠ '.') := by
  have hdot : ('.' :: ds).takeWhile (· ≠ '.') = [] := rfl
  rw [List.takeWhile_append, hdot, List.append_nil]
  split
  · next hall => exact ((List.takeWhile_prefix _).eq_of_length hall).symm
  · rfl

/-- What stands behind a dot never counts, be it blank or not. -/
theorem hostLabel_append_dot {cs : List Char} (h : ∀ c ∈ cs, isBlank c = false) (ds : List Char) :
    hostLabel (cs ++ '.' :: ds) = cs.takeWhile (· ≠ '.') := by
  have hfront : (cs ++ '.' :: ds).dropWhile isBlank = cs ++ '.' :: ds := by
    cases cs with
    | nil => rfl
    | cons c cs =>
      rw [List.cons_append, List.dropWhile_cons_of_neg]
      rw [h c List.mem_cons_self]
      exact Bool.false_ne_true
  have hback : Text.dropEnd isBlank ('.' :: ds) = '.' :: Text.dropEnd isBlank ds := by
    have hdot : isBlank '.' = false := rfl
    rw [Text.dropEnd_cons, hdot, Bool.and_false, if_neg Bool.false_ne_true]
  have hkept : Text.dropEnd isBlank ('.' :: ds) ≠ [] := by
    rw [hback]
    exact List.cons_ne_nil _ _
  rw [hostLabel, trim, hfront, Text.dropEnd_append_of_ne_nil hkept, hback, takeWhile_append_dot]

/-! ## Normal words -/

/-- A character of ASCII at which no host name is cut or trimmed. -/
structure IsWordChar (c : Char) : Prop where
  ascii : c.toNat < 128
  isBlank_eq : isBlank c = false
  isSeparator_eq : isSeparator c = false
  ne_dot : c ≠ '.'

instance (c : Char) : Decidable (IsWordChar c) :=
  decidable_of_iff (c.toNat < 128 ∧ isBlank c = false ∧ isSeparator c = false ∧ c ≠ '.')
    ⟨fun h => ⟨h.1, h.2.1, h.2.2.1, h.2.2.2⟩, fun h => ⟨h.ascii, h.isBlank_eq, h.isSeparator_eq, h.ne_dot⟩⟩

theorem IsWordChar.toUpper {c : Char} (h : IsWordChar c) : IsWordChar c.toUpper :=
  Text.forall_ascii (P := fun c => IsWordChar c → IsWordChar c.toUpper) (by decide +kernel) h.ascii h

/-- A word that normalizing leaves as it is. -/
structure IsNormalWord (w : List Char) : Prop where
  ne_nil : w ≠ []
  chars : ∀ c ∈ w, IsWordChar c
  upper : w.modifyHead Char.toUpper = w

/-- An ASCII word is capitalized by raising its first letter. -/
theorem capitalize_eq_modifyHead {w : List Char} (h : ∀ c ∈ w, c.toNat < 128) :
    capitalize w = w.modifyHead Char.toUpper := by
  cases w with
  | nil => rfl
  | cons c cs =>
    rw [capitalize, Text.uppercase, if_pos (h c List.mem_cons_self)]
    rfl

/-- A word with a raised first letter is a normal one. -/
theorem isNormalWord_modifyHead {w : List Char} (hne : w ≠ []) (h : ∀ c ∈ w, IsWordChar c) :
    IsNormalWord (w.modifyHead Char.toUpper) := by
  obtain ⟨c, cs, rfl⟩ := List.exists_cons_of_ne_nil hne
  obtain ⟨hc, hcs⟩ := List.forall_mem_cons.mp h
  refine ⟨List.cons_ne_nil _ _, List.forall_mem_cons.mpr ⟨hc.toUpper, hcs⟩, ?_⟩
  rw [List.modifyHead_cons, List.modifyHead_cons, Text.toUpper_toUpper hc.ascii]

/-! ## Normal names -/

/-- A host name is normalized by its words alone. -/
theorem normalizeHostname_congr {hostname other : List Char}
    (h : hostnameWords hostname = hostnameWords other) :
    normalizeHostname hostname = normalizeHostname other := by
  rw [normalizeHostname, h, normalizeHostname]

theorem normalizeHostname_of_ne_nil {hostname : List Char} (h : hostnameWords hostname ≠ []) :
    normalizeHostname hostname = some (Text.join [' '] ((hostnameWords hostname).map capitalize)) := by
  unfold normalizeHostname
  split
  · next hnil => exact absurd hnil h
  · rfl

/-- Normal words, one space between neighbours, make a normal name. -/
theorem normalizeHostname_join {ws : List (List Char)} (hne : ws ≠ []) (h : ∀ w ∈ ws, IsNormalWord w) :
    normalizeHostname (Text.join [' '] ws) = some (Text.join [' '] ws) := by
  have htrim : trim (Text.join [' '] ws) = Text.join [' '] ws :=
    Text.trim_join (fun w hw => (h w hw).ne_nil) fun w hw c hc => ((h w hw).chars c hc).isBlank_eq
  have hdot : (Text.join [' '] ws).takeWhile (· ≠ '.') = Text.join [' '] ws := by
    rw [List.takeWhile_eq_self_iff]
    intro c hc
    obtain hblank | ⟨w, hw, hcw⟩ := Text.mem_of_mem_join hc
    · obtain rfl := List.mem_singleton.mp hblank
      rfl
    · exact decide_eq_true ((h w hw).chars c hcw).ne_dot
  -- the spaces between the words are separators, so the words are found again
  have hwords : hostnameWords (Text.join [' '] ws) = ws := by
    rw [hostnameWords, htrim, hdot]
    exact Text.runs_join rfl (fun w hw => (h w hw).ne_nil)
      fun w hw c hc => ((h w hw).chars c hc).isSeparator_eq
  have hupper : ∀ w ∈ ws, capitalize w = w := by
    intro w hw
    rw [capitalize_eq_modifyHead fun c hc => ((h w hw).chars c hc).ascii, (h w hw).upper]
  rw [normalizeHostname_of_ne_nil (by rw [hwords]; exact hne), hwords, List.map_congr_left hupper,
    List.map_id']

/-! ## Host names in ASCII -/

/-- A host name of ASCII characters without blanks. -/
def IsPlain (hostname : List Char) : Prop :=
  ∀ c ∈ hostname, c.toNat < 128 ∧ isBlank c = false

instance (hostname : List Char) : Decidable (IsPlain hostname) :=
  decidable_of_iff (hostname.all (fun c => c.toNat < 128 && !isBlank c) = true) (by simp [IsPlain])

section

variable {hostname : List Char} (hplain : IsPlain hostname)

include hplain

/-- The label of a plain host name ends at the first dot. -/
theorem hostLabel_of_plain : hostLabel hostname = hostname.takeWhile (· ≠ '.') := by
  rw [hostLabel, Text.trim_of_forall fun c hc => (hplain c hc).2]

/-- Blanks aside, a host name is cut at its dashes and underscores. -/
theorem hostnameWords_of_plain :
    hostnameWords hostname = runs (fun c => c = '-' || c = '_') (hostname.takeWhile (· ≠ '.')) := by
  rw [hostnameWords_eq, hostLabel_of_plain hplain]
  refine Text.runs_congr fun c hc => ?_
  -- a space would be a separator too
  have hspace : c ≠ ' ' := by
    rintro rfl
    cases (hplain _ (List.takeWhile_subset _ hc)).2
  simp [isSeparator, hspace]

/-- The words of a plain host name are made of word characters. -/
theorem isWordChar_of_mem_words {w : List Char} (hw : w ∈ hostnameWords hostname) :
    w ≠ [] ∧ ∀ c ∈ w, IsWordChar c := by
  rw [hostnameWords_eq, hostLabel_of_plain hplain] at hw
  obtain ⟨hne, hchars⟩ := Text.forall_of_mem_runs hw
  refine ⟨hne, fun c hc => ?_⟩
  obtain ⟨hlabel, hcut⟩ := hchars c hc
  obtain ⟨hascii, hblank⟩ := hplain c (List.takeWhile_subset _ hlabel)
  have hdot := List.mem_takeWhile_imp (p := (· ≠ '.')) hlabel
  exact ⟨hascii, hblank, hcut, of_decide_eq_true hdot⟩

/-- A plain host name with words is normalized to these, each with its first letter raised. -/
theorem normalizeHostname_eq_some_iff_of_plain {name : List Char} :
    normalizeHostname hostname = some name ↔ hostnameWords hostname ≠ [] ∧
      name = Text.join [' '] ((hostnameWords hostname).map (List.modifyHead Char.toUpper)) := by
  have hupper : (hostnameWords hostname).map capitalize
      = (hostnameWords hostname).map (List.modifyHead Char.toUpper) :=
    List.map_congr_left fun w hw =>
      capitalize_eq_modifyHead fun c hc => ((isWordChar_of_mem_words hplain hw).2 c hc).ascii
  by_cases hne : hostnameWords hostname = []
  · simp [normalizeHostname, hne]
  · rw [normalizeHostname_of_ne_nil hne, hupper, Option.some_inj, eq_comm]
    exact (and_iff_right hne).symm

/-- The name that a host name is normalized to is normal. -/
theorem normalizeHostname_of_eq_some {name : List Char} (h : normalizeHostname hostname = some name) :
    normalizeHostname name = some name := by
  obtain ⟨hne, rfl⟩ := (normalizeHostname_eq_some_iff_of_plain hplain).mp h
  refine normalizeHostname_join (by simpa using hne) fun w hw => ?_
  obtain ⟨v, hv, rfl⟩ := List.mem_map.mp hw
  obtain ⟨hvne, hchars⟩ := isWordChar_of_mem_words hplain hv
  exact isNormalWord_modifyHead hvne hchars

end

/-- What an ASCII host name without blanks is normalized to depends on its first label only, whatever stands behind
the dot. It is nothing exactly if the label has dashes and underscores only. Otherwise it is the runs of other
characters, each with its first one in upper case, with one space between neighbours, and normalizing it again leaves
it as it is. -/
theorem words_of_plain_hostname {hostname : List Char} (hplain : IsPlain hostname) :
    let label := hostname.takeWhile (· ≠ '.')
    (∀ other, IsPlain other → other.takeWhile (· ≠ '.') = label →
      normalizeHostname other = normalizeHostname hostname) ∧
    (∀ suffix, normalizeHostname (hostname ++ '.' :: suffix) = normalizeHostname hostname) ∧
    (normalizeHostname hostname = none ↔ ∀ c ∈ label, c = '-' ∨ c = '_') ∧
    (∀ name, normalizeHostname hostname = some name ↔
      ∃ ws, ws ≠ [] ∧ MaximalRuns (fun c => c = '-' || c = '_') label ws ∧
        name = [' '].intercalate (ws.map (List.modifyHead Char.toUpper))) ∧
    ∀ name, normalizeHostname hostname = some name → normalizeHostname name = some name := by
  intro label
  have hwords : hostnameWords hostname = runs (fun c => c = '-' || c = '_') label :=
    hostnameWords_of_plain hplain
  refine ⟨fun other hother hsame => ?_, fun suffix => ?_, ?_, fun name => ?_, fun name hname =>
    normalizeHostname_of_eq_some hplain hname⟩
  · apply normalizeHostname_congr
    rw [hwords, hostnameWords_of_plain hother, hsame]
  · apply normalizeHostname_congr
    rw [hostnameWords_eq, hostLabel_append_dot (fun c hc => (hplain c hc).2), hostnameWords_eq,
      hostLabel_of_plain hplain]
  · rw [normalizeHostname_eq_none_iff, ← Text.runs_eq_nil_iff, ← hostnameWords_eq, hwords, Text.runs_eq_nil_iff]
    simp
  · rw [normalizeHostname_eq_some_iff_of_plain hplain, hwords, Text.join_eq_intercalate]
    constructor
    · rintro ⟨hne, hname⟩
      exact ⟨_, hne, Text.runs_eq_iff.mp rfl, hname⟩
    · rintro ⟨ws, hne, hruns, hname⟩
      rw [Text.runs_eq_iff.mpr hruns]
      exact ⟨hne, hname⟩

/-- A label of two words and a number, two underscores in front of the number. -/
theorem words_of_plain_hostname_printer :
    let hostname := "office-printer__2.example.com".toList
    let name := "Office Printer 2".toList
    IsPlain hostname ∧
      MaximalRuns (fun c => c = '-' || c = '_') "office-printer__2".toList
        ["office".toList, "printer".toList, "2".toList] ∧
      normalizeHostname hostname = some name ∧
      normalizeHostname (hostname ++ ". \t".toList) = some name ∧
      normalizeHostname name = some name := by
  intro hostname name
  have hplain : IsPlain hostname := by decide +kernel
  have hruns : MaximalRuns (fun c => c = '-' || c = '_') "office-printer__2".toList
      ["office".toList, "printer".toList, "2".toList] := Text.runs_eq_iff.mp (by decide +kernel)
  obtain ⟨-, hsuffix, -, hsome, hagain⟩ := words_of_plain_hostname hplain
  have hname : normalizeHostname hostname = some name :=
    (hsome name).mpr ⟨_, List.cons_ne_nil _ _, hruns, by decide +kernel⟩
  exact ⟨hplain, hruns, hname, (hsuffix _).trans hname, hagain name hname⟩

end TrafficMap.Identity
