import Mathlib
import TrafficMap.Proofs.CommandLine.Overrides

/-!
# Printing the settings of a command

A command can be asked for the settings that it would run with. They are printed when TOML has a form for each of
them, and it has one for all of them but whole numbers of 64 bits (`Settings.exists_shown_iff`). The checks before
that let such numbers pass, so a command may fail to print settings that it can run with. The password is masked
before anything is printed: what it is cannot be told from what the command does (`print_of_loadSettings`).
-/

namespace TrafficMap

open Json (Value)

namespace Toml.Printed

/-! ## What can be written -/

/-- Some results are all there when each of them is. -/
theorem isSome_mapM_iff {α β : Type} {f : α → Option β} {xs : List α} :
    (xs.mapM f).isSome ↔ ∀ x ∈ xs, (f x).isSome := by
  induction xs with
  | nil => simp
  | cons x xs ih =>
    rw [List.forall_mem_cons, ← ih, List.mapM_cons]
    cases f x with
    | none => simp
    | some y => cases xs.mapM f <;> simp

/-- The values that a member of a section can have. -/
def Writable : Value → Prop
  | .number (.natural n) => n < 2 ^ 63
  | .array _ => False
  | .object _ => False
  | _ => True

section

variable {n : ℕ} {b : Bool} {text : String} {x : Float}

/-- A whole number can be written if it fits into 63 bits. -/
@[simp] theorem writable_ofNat : Writable (.ofNat n) ↔ n < 2 ^ 63 := Iff.rfl

@[simp] theorem writable_bool : Writable (.bool b) := trivial

@[simp] theorem writable_string : Writable (.string text) := trivial

@[simp] theorem writable_float : Writable (.number (.float x)) := trivial

/-- A text can be written, and so can none. -/
@[simp] theorem writable_ofOption {text : Option String} : Writable (.ofOption .string text) := by
  cases text <;> exact trivial

end

/-- A member has a line unless its value is a table, an array or a number that is too large. -/
theorem isSome_line?_iff (key : String) (v : Value) : (line? key v).isSome ↔ Writable v := by
  cases v with
  | number n =>
    cases n with
    | natural n =>
      have hbound : Nat.pow 2 63 = 2 ^ 63 := rfl
      simp only [line?, scalar?, natural?, hbound, Writable, Option.isSome_map]
      by_cases h : n < 2 ^ 63
      · simp only [h, if_true, Option.isSome_some]
      · simp only [h, if_false, Option.isSome_none, Bool.false_eq_true]
    | negative n => simp [line?, scalar?, Writable]
    | float x => simp [line?, scalar?, Writable]
  | _ => simp [line?, scalar?, Writable]

/-- A section can be written if all its members can. -/
theorem isSome_section?_iff (name : String) (members : List (String × Value)) :
    (section? name (.object members)).isSome ↔ ∀ m ∈ members, Writable m.2 := by
  rw [section?, Option.isSome_map, lines?, Option.isSome_map, isSome_mapM_iff]
  simp only [isSome_line?_iff]

/-- A document can be written if all its sections can. -/
theorem isSome_document?_iff (sections : List (String × Value)) :
    (document? (.object sections)).isSome ↔ ∀ m ∈ sections, (section? m.1 m.2).isSome := by
  rw [document?, Option.isSome_map, isSome_mapM_iff]

end Toml.Printed

namespace Settings

variable {s s' : Settings}

/-! ## When settings can be printed -/

open Toml.Printed in
/-- Settings can be written if both of their whole numbers can. -/
theorem isSome_document?_masked_iff :
    (document? s.masked.toValue).isSome ↔
      s.display.refreshSeconds.toNat < 2 ^ 63 ∧ s.appliance.timeoutSeconds.toNat < 2 ^ 63 := by
  simp only [toValue, ApplianceSettings.toValue, DisplaySettings.toValue, masked, isSome_document?_iff,
    isSome_section?_iff, List.forall_mem_cons, List.not_mem_nil, false_imp_iff, implies_true, writable_ofNat,
    writable_bool, writable_string, writable_float, writable_ofOption, and_true, true_and]
  exact and_comm

/-- Settings that cannot be written are not shown. -/
theorem shown_eq_error (h : ¬(s.display.refreshSeconds.toNat < 2 ^ 63 ∧ s.appliance.timeoutSeconds.toNat < 2 ^ 63)) :
    s.shown = .error .unprintable := by
  rw [← isSome_document?_masked_iff, Option.not_isSome_iff_eq_none] at h
  rw [shown, h]

/-- Settings can be printed when no whole number among them needs 64 bits. -/
theorem exists_shown_iff :
    (∃ text, s.shown = .ok text) ↔
      s.display.refreshSeconds.toNat < 2 ^ 63 ∧ s.appliance.timeoutSeconds.toNat < 2 ^ 63 := by
  constructor
  · rintro ⟨text, hshown⟩
    by_contra hlarge
    rw [shown_eq_error hlarge] at hshown
    cases hshown
  · intro hsmall
    obtain ⟨text, hprinted⟩ := Option.isSome_iff_exists.mp (isSome_document?_masked_iff.mpr hsmall)
    exact ⟨text, by rw [shown, hprinted]⟩

/-! ## The password -/

/-- Settings with a given password. -/
def withPassword (s : Settings) (password : String) : Settings :=
  { s with appliance := { s.appliance with password := some password } }

/-- Settings that have a password each and differ in nothing but what it is. -/
inductive DifferInPassword : Settings → Settings → Prop
  | intro (s : Settings) (password password' : String) :
    DifferInPassword (s.withPassword password) (s.withPassword password')

namespace DifferInPassword

variable (h : DifferInPassword s s')

include h

/-- The password does not matter for what is shown. -/
theorem shown_eq : s'.shown = s.shown := by
  cases h
  rfl

/-- The password does not matter for whether settings are valid. -/
theorem validate_eq : s'.validate = s.validate := by
  cases h
  rfl

/-- Flags say nothing about the password. -/
theorem apply (flags : CommandLine.Flags) : DifferInPassword (flags.apply s) (flags.apply s') := by
  obtain ⟨s, password, password'⟩ := h
  exact .intro (flags.apply s) password password'

end DifferInPassword

end Settings

namespace CommandLine

variable {w w' : Surroundings} {arguments : List String} {flags : Flags} {s s' : Settings}

/-! ## A command that prints -/

section

variable (hread : Flags.read arguments = .ok flags) (hprint : flags.printConfig = true)

include hread hprint

/-- The command prints the settings that were loaded, or fails where they cannot be shown. -/
theorem run_of_loadSettings (hload : loadSettings w flags = .ok s) :
    run w arguments = match s.shown with
      | .ok text => .print text
      | .error e => .fail (.settings e) := by
  cases hshown : s.shown <;> simp only [run, hread, hload, planWith, hprint, if_true, hshown]

omit hprint in
/-- The command fails where no settings were loaded. -/
theorem run_of_error {e : CommandError} (hload : loadSettings w flags = .error e) :
    run w arguments = .fail e := by
  simp only [run, hread, hload]

/-- What is printed, and whether anything is, does not depend on the password. -/
theorem run_of_differInPassword (h : w.settings? flags = some s) (h' : w'.settings? flags = some s')
    (hdiffer : s.DifferInPassword s') : run w' arguments = run w arguments := by
  have hload := loadSettings_of_settings? h
  have hload' := loadSettings_of_settings? h'
  rw [hdiffer.validate_eq, (hdiffer.apply flags).validate_eq] at hload'
  generalize (s.validate.bind fun _ => (flags.apply s).validate).mapError CommandError.settings = checked
    at hload hload'
  cases checked with
  | error e => rw [run_of_error hread hload, run_of_error hread hload']
  | ok _ =>
    rw [run_of_loadSettings hread hprint hload, run_of_loadSettings hread hprint hload',
      (hdiffer.apply flags).shown_eq]

end

/-- A command that is asked for the settings it would run with prints them when no whole number among them needs 64
bits, and fails otherwise. Settings that differ in nothing but what the password is are printed alike, and a command
that finds such settings does the same. -/
theorem print_of_loadSettings (hread : Flags.read arguments = .ok flags) (hprint : flags.printConfig = true)
    (hload : loadSettings w flags = .ok s) :
    ((∃ text, s.shown = .ok text ∧ run w arguments = .print text) ↔
        s.display.refreshSeconds.toNat < 2 ^ 63 ∧ s.appliance.timeoutSeconds.toNat < 2 ^ 63) ∧
      (¬(s.display.refreshSeconds.toNat < 2 ^ 63 ∧ s.appliance.timeoutSeconds.toNat < 2 ^ 63) →
        run w arguments = .fail (.settings .unprintable)) ∧
      (∀ s', s.DifferInPassword s' → s'.shown = s.shown) ∧
      ∀ w' found found', w.settings? flags = some found → w'.settings? flags = some found' →
        found.DifferInPassword found' → run w' arguments = run w arguments := by
  have hrun := run_of_loadSettings hread hprint hload
  refine ⟨?_, fun hlarge => ?_, fun s' hdiffer => hdiffer.shown_eq,
    fun w' found found' h h' hdiffer => run_of_differInPassword hread hprint h h' hdiffer⟩
  · rw [← Settings.exists_shown_iff]
    constructor
    · rintro ⟨text, hshown, -⟩
      exact ⟨text, hshown⟩
    · rintro ⟨text, hshown⟩
      exact ⟨text, hshown, by rw [hrun, hshown]⟩
  · rw [hrun, Settings.shown_eq_error hlarge]

/-- A command prints the same text for two passwords. -/
theorem print_of_loadSettings_password :
    let flags : Flags := { printConfig := true }
    let w (password : String) : Surroundings :=
      { files := fun _ => .missing, environment := [("FLOWSCOPE_APPLIANCE__PASSWORD", password)] }
    let s (password : String) : Settings := { appliance := { password := some password } }
    Flags.read ["--print-config"] = .ok flags ∧ flags.printConfig = true ∧
      loadSettings (w "secret") flags = .ok (s "secret") ∧
      (∃ text, (s "secret").shown = .ok text ∧ run (w "secret") ["--print-config"] = .print text) ∧
      run (w "swordfish") ["--print-config"] = run (w "secret") ["--print-config"] := by
  intro flags w s
  have hread : Flags.read ["--print-config"] = .ok flags := rfl
  have hsecret : (w "secret").settings? flags = some (s "secret") := by decide +kernel
  have hswordfish : (w "swordfish").settings? flags = some (s "swordfish") := by decide +kernel
  have husable : (s "secret").Usable := Settings.validate_eq_ok_iff.mp (by decide +kernel)
  have hload : loadSettings (w "secret") flags = .ok (s "secret") :=
    (loadSettings_eq_ok_iff hsecret).mpr ⟨husable, husable, rfl⟩
  obtain ⟨hprints, -, -, hsame⟩ := print_of_loadSettings hread rfl hload
  exact ⟨hread, rfl, hload, hprints.mpr (by decide),
    hsame _ _ _ hsecret hswordfish (.intro {} "secret" "swordfish")⟩

/-- A flag asks for a refresh every `2 ^ 63` seconds. The command would run with that, but cannot print it. -/
theorem not_printed_of_loadSettings :
    let flags : Flags := { refreshSeconds := some 9223372036854775808, printConfig := true }
    let arguments := ["--print-config", "--refresh-secs", "9223372036854775808"]
    let w : Surroundings := { files := fun _ => .missing, environment := [] }
    let s : Settings := { display := { refreshSeconds := 9223372036854775808 } }
    Flags.read arguments = .ok flags ∧ loadSettings w flags = .ok s ∧ (¬∃ text, s.shown = .ok text) ∧
      run w arguments = .fail (.settings .unprintable) := by
  intro flags arguments w s
  have hread : Flags.read arguments = .ok flags := rfl
  have hfound : w.settings? flags = some {} := by decide +kernel
  have hload : loadSettings w flags = .ok s :=
    (loadSettings_eq_ok_iff hfound).mpr
      ⟨Settings.validate_eq_ok_iff.mp (by decide +kernel), Settings.validate_eq_ok_iff.mp (by decide +kernel), rfl⟩
  have hlarge : ¬(s.display.refreshSeconds.toNat < 2 ^ 63 ∧ s.appliance.timeoutSeconds.toNat < 2 ^ 63) := by
    decide
  refine ⟨hread, hload, fun hshown => hlarge (Settings.exists_shown_iff.mp hshown), ?_⟩
  rw [run_of_loadSettings hread rfl hload, Settings.shown_eq_error hlarge]

end CommandLine

end TrafficMap
