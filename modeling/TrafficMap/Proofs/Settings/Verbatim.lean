import Mathlib
import TrafficMap.Proofs.CommandLine.Overrides
import TrafficMap.Proofs.Settings.Sources
import TrafficMap.Proofs.Settings.Typed

/-!
# Texts that are loaded as they stand

A name or a password that comes from a variable is loaded as it was typed if and only if it looks like nothing else
than a text. A quoted text loses its quotation marks, and with anything else the settings cannot be read.
-/

namespace TrafficMap.Settings

open Json (Value)
open Layers (setting? overlay nest onto)
open Guess (Typed Foreign)

/-! ## The only variable -/

section

variable {k : Key (Option String)} {text : String} {before after : List (String × String)}

/-- Variables that lead to no key say nothing. -/
theorem filterMap_layer?_of_path? {environment : List (String × String)}
    (h : ∀ v ∈ environment, Environment.path? v.1 = none) :
    (environment.filterMap fun v => Environment.layer? v.1 v.2) = [] := by
  rw [List.filterMap_eq_nil_iff]
  intro v hv
  rw [Environment.layer?, h v hv]
  rfl

theorem layer_of_only (k : Key (Option String)) (text : String)
    (hothers : ∀ v ∈ before ++ after, Environment.path? v.1 = none) :
    Environment.layer (before ++ (k.variableName, text) :: after)
      = overlay (.object []) (nest (Guess.value text) [k.path.1, k.path.2]) := by
  obtain ⟨hbefore, hafter⟩ := List.forall_mem_append.mp hothers
  have hlayer : Environment.layer? k.variableName text = some (nest (Guess.value text) [k.path.1, k.path.2]) := by
    rw [Environment.layer?, k.path?_variableName]
    rfl
  rw [Environment.layer]
  generalize nest (Guess.value text) [k.path.1, k.path.2] = layer at hlayer ⊢
  have hlayers : (before ++ (k.variableName, text) :: after).filterMap (fun v => Environment.layer? v.1 v.2)
      = [layer] := by
    rw [List.filterMap_append, filterMap_layer?_of_path? hbefore, List.nil_append, List.filterMap_cons, hlayer]
    exact congrArg (layer :: ·) (filterMap_layer?_of_path? hafter)
  exact congrArg (List.foldl overlay (.object [])) hlayers

/-- The value of the only variable is what its key is read from. -/
theorem setting?_of_only (text : String) (hk : k = .username ∨ k = .password)
    (hothers : ∀ v ∈ before ++ after, Environment.path? v.1 = none) :
    Sectioned (merged (.object []) (Environment.layer (before ++ (k.variableName, text) :: after))) ∧
      setting? k.path (merged (.object []) (Environment.layer (before ++ (k.variableName, text) :: after)))
        = some (Guess.value text) := by
  have hnest := sectioned_nest (Guess.value text) k.path.1 k.path.2
  have hnestKeys := distinctKeys_nest (Guess.distinctKeys_value text) [k.path.1, k.path.2]
  have hempty := wellTyped_nil.toSectioned
  have hemptyKeys : (Value.object []).DistinctKeys := .object List.nodup_nil nofun
  have hdefault := wellTyped_default.toSectioned
  have hbelow : Sectioned (overlay ({} : Settings).toValue (.object [])) := hdefault.overlay hempty hemptyKeys
  have hlayer := hempty.overlay hnest hnestKeys
  have hlayerKeys := Layers.distinctKeys_overlay hemptyKeys hnestKeys
  have hsection := k.path_fst_mem
  rw [merged, layer_of_only k text hothers]
  refine ⟨hbelow.overlay hlayer hlayerKeys, ?_⟩
  rw [Layers.setting?_overlay hbelow.table hlayer.table hlayerKeys (hbelow.sections _ hsection)
      (hlayer.sections _ hsection),
    Layers.setting?_overlay hempty.table hnest.table hnestKeys (hempty.sections _ hsection)
      (hnest.sections _ hsection),
    Key.setting?_nest, if_pos rfl, Layers.setting?_overlay hdefault.table hempty.table hemptyKeys
      (hdefault.sections _ hsection) (hempty.sections _ hsection)]
  -- nothing is below the variable but the null of a key that is not set
  obtain rfl | rfl := hk <;> exact congrArg some (Layers.overlay_on_not_isTable (by decide))

/-! ## Loading -/

/-- Settings that can be used stay so when only the name or the password changes. -/
theorem usable_of_agreeExcept {s s' : Settings} (hk : k = .username ∨ k = .password) (h : AgreeExcept k s s')
    (hs : s.Usable) : s'.Usable := by
  have hsame {β : Type} (k' : Key β) (husername : k'.path ≠ Key.username.path)
      (hpassword : k'.path ≠ Key.password.path) : k'.get s' = k'.get s := by
    refine h k' ?_
    obtain rfl | rfl := hk
    · exact husername
    · exact hpassword
  have hurl : s'.appliance.url = s.appliance.url := hsame .url (by decide) (by decide)
  have htimeout : s'.appliance.timeoutSeconds = s.appliance.timeoutSeconds :=
    hsame .timeoutSeconds (by decide) (by decide)
  have hrefresh : s'.display.refreshSeconds = s.display.refreshSeconds :=
    hsame .refreshSeconds (by decide) (by decide)
  have hspeed : s'.display.speed = s.display.speed := hsame .speed (by decide) (by decide)
  exact ⟨hurl ▸ hs.url, hrefresh ▸ hs.refreshSeconds, hspeed ▸ hs.speed, htimeout ▸ hs.timeoutSeconds⟩

theorem inEnvironment_of_path? {α : Type} (k : Key α) {environment : List (String × String)}
    (h : ∀ v ∈ environment, Environment.path? v.1 = none) : k.inEnvironment environment = none := by
  rw [Key.inEnvironment, List.findSome?_eq_none_iff]
  intro v hv
  rw [Environment.layer?, h v (List.mem_reverse.mp hv)]
  rfl

/-- A text that is guessed to be a text is loaded. -/
theorem load_of_value_string (hk : k = .username ∨ k = .password)
    (hothers : ∀ v ∈ before ++ after, Environment.path? v.1 = none) {t : String}
    (hvalue : Guess.value text = .string t) :
    ∃ s, load none (before ++ (k.variableName, text) :: after) = .ok s ∧ k.get s = some t ∧
      AgreeExcept k {} s := by
  have hdecode : k.decode (Guess.value text) = some (some t) := by
    rw [hvalue]
    obtain rfl | rfl := hk <;> rfl
  have hnone : WellTypedVariables (before ++ after) := by
    intro v hv layer hlayer
    rw [Environment.layer?, hothers v hv] at hlayer
    cases hlayer
  have hload : extract? none (before ++ (k.variableName, text) :: after) = some _ :=
    extract?_of_wellTyped rfl wellTyped_nil (hnone.insert k (Option.isSome_of_eq_some hdecode))
  have hget : k.get (layered (.object []) (before ++ (k.variableName, text) :: after)) = some t := by
    rw [layered, Key.get_ofKeys, inEnvironment_variableName k hdecode,
      inEnvironment_of_path? k (List.forall_mem_append.mp hothers).2]
    rfl
  have hagree : AgreeExcept k {} (layered (.object []) (before ++ (k.variableName, text) :: after)) := by
    intro β k' hne
    rw [layered, Key.get_ofKeys, inEnvironment_of_path_ne hne, inEnvironment_of_path? k' hothers]
    rfl
  have husable := usable_of_agreeExcept hk hagree (validate_eq_ok_iff.mp (by decide +kernel))
  refine ⟨_, ?_, hget, hagree⟩
  rw [load, hload]
  dsimp only
  rw [validate_eq_ok_iff.mpr husable]
  rfl

/-- With any other value the settings cannot be read. -/
theorem load_of_value_ne_string (hk : k = .username ∨ k = .password)
    (hothers : ∀ v ∈ before ++ after, Environment.path? v.1 = none) (hnull : Guess.value text ≠ .null)
    (hstring : ∀ t, Guess.value text ≠ .string t) :
    load none (before ++ (k.variableName, text) :: after) = .error .unreadable := by
  obtain ⟨hsectioned, hsetting⟩ := setting?_of_only text hk hothers
  have hdecode : k.decode (Guess.value text) = none := by
    revert hnull hstring
    obtain rfl | rfl := hk <;> cases Guess.value text <;> intro hnull hstring <;>
      first | rfl | exact absurd rfl hnull | exact absurd rfl (hstring _)
  have hextract : extract? none (before ++ (k.variableName, text) :: after) = none := by
    rw [Option.eq_none_iff_forall_ne_some]
    intro s hs
    have hread := (ofValue?_eq_some_iff hsectioned).mp hs k
    rw [hsetting, Decode.required, hdecode] at hread
    cases hread
  rw [load, hextract]

end

/-- A name or a password that comes from a variable, with everything else as it is by default: it is loaded as it
was typed if and only if it looks like nothing else than a text. One in quotation marks loses them, and with
anything else the settings cannot be read. -/
theorem load_of_typed {k : Key (Option String)} (hk : k = .username ∨ k = .password) {text : String}
    (htyped : Typed text.toList) {before after : List (String × String)}
    (hothers : ∀ v ∈ before ++ after, Environment.path? v.1 = none) :
    ((∃ s, load none (before ++ (k.variableName, text) :: after) = .ok s ∧ k.get s = some text) ↔
        ¬∃ v, Foreign text.toList v) ∧
      ((¬∃ v, Foreign text.toList v) → ∃ s,
        load none (before ++ (k.variableName, text) :: after) = .ok s ∧
          k.get s = some text ∧ AgreeExcept k {} s) ∧
      (∀ t, Foreign text.toList (.string t) → ∃ s,
        load none (before ++ (k.variableName, text) :: after) = .ok s ∧
          k.get s = some t ∧ t ≠ text ∧ AgreeExcept k {} s) ∧
      ∀ v, Foreign text.toList v → (∀ t, v ≠ .string t) →
        load none (before ++ (k.variableName, text) :: after) = .error .unreadable := by
  have hplain (h : ¬∃ v, Foreign text.toList v) :=
    load_of_value_string hk hothers (Guess.value_of_not_foreign htyped (not_exists.mp h))
  have hquoted (t : String) (h : Foreign text.toList (.string t)) :=
    load_of_value_string hk hothers (Guess.value_of_foreign h)
  have hother (v : Value) (h : Foreign text.toList v) (hstring : ∀ t, v ≠ .string t) :
      load none (before ++ (k.variableName, text) :: after) = .error .unreadable := by
    have hvalue := Guess.value_of_foreign h
    exact load_of_value_ne_string hk hothers (hvalue ▸ h.ne_null) (hvalue ▸ hstring)
  have hne (t : String) (h : Foreign text.toList (.string t)) : t ≠ text := fun hsame =>
    Guess.ne_of_foreign_string h (congrArg String.toList hsame)
  refine ⟨⟨?_, fun h => ?_⟩, hplain, fun t h => ?_, hother⟩
  · rintro ⟨s, hs, hget⟩ ⟨v, hv⟩
    by_cases hstring : ∃ t, v = .string t
    · obtain ⟨t, rfl⟩ := hstring
      obtain ⟨s', hs', hget', -⟩ := hquoted t hv
      rw [hs] at hs'
      cases hs'
      exact hne t hv (Option.some.inj (hget'.symm.trans hget))
    · rw [hother v hv (not_exists.mp hstring)] at hs
      cases hs
  · obtain ⟨s, hs, hget, -⟩ := hplain h
    exact ⟨s, hs, hget⟩
  · obtain ⟨s, hs, hget, hagree⟩ := hquoted t h
    exact ⟨s, hs, hget, hne t h, hagree⟩

/-- A name with a space and brackets in it, among variables of other programs. -/
theorem load_of_typed_brackets :
    let text := "a [b] 1.5"
    let environment := [("HOME", "/root"), ("FLOWSCOPE_APPLIANCE__USERNAME", text), ("TERM", "xterm")]
    Typed text.toList ∧ (∀ v ∈ [("HOME", "/root"), ("TERM", "xterm")], Environment.path? v.1 = none) ∧
      (¬∃ v, Foreign text.toList v) ∧ ∃ s, load none environment = .ok s ∧ s.appliance.username = some text := by
  intro text environment
  have htyped : Typed text.toList := ⟨by simp [text], by simp [text], by simp [text], by simp [text]⟩
  have hothers : ∀ v ∈ [("HOME", "/root")] ++ [("TERM", "xterm")], Environment.path? v.1 = none := by
    decide +kernel
  have hnot : ¬∃ v, Foreign text.toList v := by
    rintro ⟨v, h⟩
    rw [show text.toList = ['a', ' ', '[', 'b', ']', ' ', '1', '.', '5'] by simp [text]] at h
    -- it begins like no other value, and it is no number
    cases h with
    | number h => cases h.isNumeric 'b' (by simp)
  exact ⟨htyped, hothers, hnot, (load_of_typed (.inl rfl) htyped hothers).1.mpr hnot⟩

/-- A password of digits is taken for a number, and the settings cannot be read. -/
theorem not_loaded_digits :
    let text := "12345"
    let environment := [("FLOWSCOPE_APPLIANCE__PASSWORD", text)]
    Typed text.toList ∧ load none environment = .error .unreadable ∧
      ¬∃ s, load none environment = .ok s ∧ s.appliance.password = some text := by
  intro text environment
  have hload : load none environment = .error .unreadable := by decide +kernel
  refine ⟨⟨by simp [text], by simp [text], by simp [text], by simp [text]⟩, hload, ?_⟩
  rintro ⟨s, hs, -⟩
  rw [hload] at hs
  cases hs

end TrafficMap.Settings
