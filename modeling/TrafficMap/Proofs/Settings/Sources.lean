import Mathlib
import TrafficMap.Proofs.Settings.Keys
import TrafficMap.Proofs.Settings.Spelling
import TrafficMap.Proofs.Toml.Tables

/-!
# Where settings come from

A key of the settings is set by environment variables, by the file, or not at all, and its value is that of the last
variable that sets it, else the one in the file, else its default. So each key goes its own way: setting one of them
in some layer changes no other.
-/

namespace TrafficMap.Settings

open Json (Value)
open Layers (IsTable setting? overlay nest)

/-- A layer in which every key that is set has the type that it should have. -/
structure WellTyped (v : Value) : Prop extends Sectioned v where
  typed : ∀ {α : Type} (k : Key α) (w : Value), setting? k.path v = some w → (k.decode w).isSome

/-- What it takes for a value to be well typed, part by part. -/
theorem wellTyped_iff {v : Value} :
    WellTyped v ↔ IsTable v ∧ (∀ name ∈ names, ∀ w ∈ v.member? name, IsTable w) ∧
      ∀ {α : Type} (k : Key α), ∀ w ∈ setting? k.path v, (k.decode w).isSome :=
  ⟨fun h => ⟨h.table, h.sections, h.typed⟩, fun ⟨htable, hsections, htyped⟩ => ⟨⟨htable, hsections⟩, htyped⟩⟩

instance (v : Value) : Decidable (WellTyped v) :=
  decidable_of_iff _ (wellTyped_iff.trans (and_congr_right' (and_congr_right' Key.forall_iff))).symm

namespace Key

variable {α β : Type}

/-- The environment variable of a key. -/
def variableName : Key α → String
  | url => "FLOWSCOPE_APPLIANCE__URL"
  | username => "FLOWSCOPE_APPLIANCE__USERNAME"
  | password => "FLOWSCOPE_APPLIANCE__PASSWORD"
  | passwordVariable => "FLOWSCOPE_APPLIANCE__PASSWORD_ENV"
  | insecure => "FLOWSCOPE_APPLIANCE__INSECURE"
  | timeoutSeconds => "FLOWSCOPE_APPLIANCE__TIMEOUT_SECS"
  | refreshSeconds => "FLOWSCOPE_DISPLAY__REFRESH_INTERVAL_SECS"
  | speed => "FLOWSCOPE_DISPLAY__ANIMATION_SPEED"
  | iconDir => "FLOWSCOPE_DISPLAY__ICON_DIR"
  | identityLookup => "FLOWSCOPE_DISPLAY__IDENTITY_LOOKUP"

/-- What a layer sets a key to. -/
def inLayer (k : Key α) (layer : Value) : Option α :=
  (setting? k.path layer).bind k.decode

/-- What the environment sets a key to: what the last variable does that sets it at all. -/
def inEnvironment (k : Key α) (environment : List (String × String)) : Option α :=
  environment.reverse.findSome? fun v => (Environment.layer? v.1 v.2).bind k.inLayer

/-- The variable of a key leads to the key. -/
theorem path?_variableName (k : Key α) : Environment.path? k.variableName = some [k.path.1, k.path.2] := by
  cases k <;> decide +kernel

/-- Keys with the same path read the same values. -/
theorem isSome_decode_of_path_eq {k : Key α} {k' : Key β} (h : k.path = k'.path) (v : Value) :
    (k.decode v).isSome = (k'.decode v).isSome := by
  cases k <;> cases k' <;> first | rfl | simp [path] at h

/-! ## One layer -/

variable {below v : Value}

/-- A value that is nested along a path stands at that path alone. -/
theorem setting?_nest (path other : String × String) (v : Value) :
    setting? path (nest v [other.1, other.2]) = if path = other then some v else none := by
  obtain ⟨section₁, name₁⟩ := path
  obtain ⟨section₂, name₂⟩ := other
  by_cases hsection : section₁ = section₂ <;> by_cases hname : name₁ = name₂ <;>
    simp [setting?, nest, Value.member?, List.lookup_cons, hsection, hname, beq_eq_false_iff_ne.mpr]

/-- A layer laid on another sets what either sets, and where both do the upper one counts. -/
theorem setting?_overlay (k : Key α) (hbelow : Sectioned below) (hv : WellTyped v) (hkeys : v.DistinctKeys) :
    setting? k.path (overlay below v) = (setting? k.path v).or (setting? k.path below) := by
  rw [Layers.setting?_overlay hbelow.table hv.table hkeys (hbelow.sections _ k.path_fst_mem)
    (hv.sections _ k.path_fst_mem)]
  cases hupper : setting? k.path v with
  | none => rfl
  | some w =>
    -- what has the type of a key is no table, so it replaces what is below
    obtain ⟨a, ha⟩ := Option.isSome_iff_exists.mp (hv.typed k w hupper)
    rw [Option.map_some, Layers.onto_of_not_isTable (k.not_isTable_of_decode ha)]

/-- A key has its value from the upper layer, or else from the lower one. -/
theorem inLayer_overlay (k : Key α) (hbelow : Sectioned below) (hv : WellTyped v) (hkeys : v.DistinctKeys) :
    k.inLayer (overlay below v) = (k.inLayer v).or (k.inLayer below) := by
  rw [inLayer, inLayer, inLayer, k.setting?_overlay hbelow hv hkeys]
  cases hupper : setting? k.path v with
  | none => rfl
  | some w =>
    obtain ⟨a, ha⟩ := Option.isSome_iff_exists.mp (hv.typed k w hupper)
    rw [Option.some_or, Option.bind_some, ha, Option.some_or]

end Key

/-! ## Layers on layers -/

section

variable {below v : Value}

/-- Layers whose sections are tables keep this when they are laid over each other. -/
theorem Sectioned.overlay (hbelow : Sectioned below) (hv : Sectioned v) (hkeys : v.DistinctKeys) :
    Sectioned (overlay below v) where
  table := hbelow.table.overlay hv.table
  sections name hname w hw := by
    rw [Layers.member?_overlay hbelow.table hv.table hkeys] at hw
    cases hupper : v.member? name with
    | none =>
      rw [hupper] at hw
      exact hbelow.sections name hname w hw
    | some upper =>
      rw [hupper, Option.map_some, Option.some_or] at hw
      cases hw
      have htable := hv.sections name hname upper hupper
      cases hlower : below.member? name with
      | none => exact htable
      | some lower => exact (hbelow.sections name hname lower hlower).overlay htable

/-- Well-typed layers over each other are well typed. -/
theorem WellTyped.overlay (hbelow : WellTyped below) (hv : WellTyped v) (hkeys : v.DistinctKeys) :
    WellTyped (overlay below v) where
  toSectioned := hbelow.toSectioned.overlay hv.toSectioned hkeys
  typed k w hw := by
    rw [k.setting?_overlay hbelow.toSectioned hv hkeys, Option.or_eq_some_iff] at hw
    obtain hupper | ⟨-, hlower⟩ := hw
    · exact hv.typed k w hupper
    · exact hbelow.typed k w hlower

end

/-- Layers that are merged one after another set what any of them sets, and the last one that does counts. -/
theorem inLayer_foldl {layers : List Value} {below : Value} (hbelow : WellTyped below)
    (h : ∀ v ∈ layers, WellTyped v ∧ v.DistinctKeys) :
    WellTyped (layers.foldl overlay below) ∧ ∀ {α : Type} (k : Key α),
      k.inLayer (layers.foldl overlay below) = (layers.reverse.findSome? k.inLayer).or (k.inLayer below) := by
  induction layers generalizing below with
  | nil => exact ⟨hbelow, fun _ => rfl⟩
  | cons v layers ih =>
    obtain ⟨⟨hv, hkeys⟩, hlayers⟩ := List.forall_mem_cons.mp h
    obtain ⟨htyped, hset⟩ := ih (hbelow.overlay hv hkeys) hlayers
    refine ⟨htyped, fun k => ?_⟩
    rw [List.foldl_cons, hset, k.inLayer_overlay hbelow.toSectioned hv hkeys, List.reverse_cons,
      List.findSome?_append, List.findSome?_singleton, Option.or_assoc]

/-- Layers with distinct keys keep them distinct when they are laid over each other. -/
theorem distinctKeys_foldl {layers : List Value} {below : Value} (hbelow : below.DistinctKeys)
    (h : ∀ v ∈ layers, v.DistinctKeys) : (layers.foldl overlay below).DistinctKeys := by
  induction layers generalizing below with
  | nil => exact hbelow
  | cons v layers ih =>
    obtain ⟨hv, hlayers⟩ := List.forall_mem_cons.mp h
    exact ih (Layers.distinctKeys_overlay hbelow hv) hlayers

/-! ## The environment -/

/-- An environment whose variables set keys to values of the types that they should have. -/
def WellTypedVariables (environment : List (String × String)) : Prop :=
  ∀ v ∈ environment, ∀ layer, Environment.layer? v.1 v.2 = some layer → WellTyped layer

instance (environment : List (String × String)) : Decidable (WellTypedVariables environment) :=
  inferInstanceAs (Decidable (∀ v ∈ environment, ∀ layer ∈ Environment.layer? v.1 v.2, WellTyped layer))

/-- A value with distinct keys keeps them when it is nested. -/
theorem distinctKeys_nest {v : Value} (h : v.DistinctKeys) (path : List String) : (nest v path).DistinctKeys := by
  induction path with
  | nil => exact h
  | cons key path ih => exact .object (List.nodup_singleton key) (List.forall_mem_singleton.mpr ih)

/-- The layer of one variable has distinct keys. -/
theorem distinctKeys_of_layer? {name text : String} {layer : Value}
    (h : Environment.layer? name text = some layer) : layer.DistinctKeys := by
  obtain ⟨path, -, rfl⟩ := Option.map_eq_some_iff.mp h
  exact distinctKeys_nest (Guess.distinctKeys_value text) path

theorem wellTyped_nil : WellTyped (.object []) where
  table := ⟨[], rfl⟩
  sections := nofun
  typed := nofun

section

variable {environment : List (String × String)}

/-- The layer of an environment has distinct keys. -/
theorem distinctKeys_environment (environment : List (String × String)) :
    (Environment.layer environment).DistinctKeys := by
  refine distinctKeys_foldl (.object List.nodup_nil nofun) fun layer hlayer => ?_
  obtain ⟨v, -, hv⟩ := List.mem_filterMap.mp hlayer
  exact distinctKeys_of_layer? hv

/-- The layer of a well-typed environment is well typed, and a key has there what its variables say.
-/
theorem inLayer_environment (h : WellTypedVariables environment) :
    WellTyped (Environment.layer environment) ∧ ∀ {α : Type} (k : Key α),
      k.inLayer (Environment.layer environment) = k.inEnvironment environment := by
  have hlayers : ∀ layer ∈ environment.filterMap fun v => Environment.layer? v.1 v.2,
      WellTyped layer ∧ layer.DistinctKeys := by
    intro layer hlayer
    obtain ⟨v, hmem, hv⟩ := List.mem_filterMap.mp hlayer
    exact ⟨h v hmem layer hv, distinctKeys_of_layer? hv⟩
  obtain ⟨htyped, hset⟩ := inLayer_foldl wellTyped_nil hlayers
  refine ⟨htyped, fun k => (hset k).trans ?_⟩
  have hnil : k.inLayer (.object []) = none := rfl
  rw [hnil, Option.or_none, Key.inEnvironment, ← List.filterMap_reverse, ← List.head?_filterMap,
    List.filterMap_filterMap, List.head?_filterMap]

/-- The variable of a key sets it, and no other. -/
theorem inLayer_variableName {α β : Type} (k : Key α) (k' : Key β) (text : String) :
    (Environment.layer? k.variableName text).bind k'.inLayer
      = if k'.path = k.path then k'.decode (Guess.value text) else none := by
  rw [Environment.layer?, k.path?_variableName, Option.map_some, Option.bind_some, Key.inLayer, Key.setting?_nest]
  split_ifs <;> rfl

/-- Of the variables for one key the last one counts. -/
theorem inEnvironment_variableName {α : Type} (k : Key α) {text : String} {a : α}
    (h : k.decode (Guess.value text) = some a) (before after : List (String × String)) :
    k.inEnvironment (before ++ (k.variableName, text) :: after) = (k.inEnvironment after).or (some a) := by
  rw [Key.inEnvironment, List.reverse_append, List.reverse_cons, List.append_assoc, List.findSome?_append,
    List.singleton_append, List.findSome?_cons_of_isSome, inLayer_variableName, if_pos rfl, h]
  · rfl
  · rw [inLayer_variableName, if_pos rfl, h]
    rfl

/-- The variable of a key says nothing about other keys. -/
theorem inEnvironment_of_path_ne {α β : Type} {k : Key α} {k' : Key β} (h : k'.path ≠ k.path) (text : String)
    (before after : List (String × String)) :
    k'.inEnvironment (before ++ (k.variableName, text) :: after) = k'.inEnvironment (before ++ after) := by
  rw [Key.inEnvironment, Key.inEnvironment, List.reverse_append, List.reverse_cons, List.append_assoc,
    List.findSome?_append, List.singleton_append, List.findSome?_cons_of_isNone, List.reverse_append,
    List.findSome?_append]
  rw [inLayer_variableName, if_neg h]
  rfl

theorem sectioned_nest (v : Value) (section' name : String) : Sectioned (nest v [section', name]) where
  table := ⟨_, rfl⟩
  sections key _ w hw := by
    rw [nest, nest, nest, Value.member?, List.lookup_cons] at hw
    split at hw <;> cases hw
    exact ⟨_, rfl⟩

/-- The layer of a variable with a readable text is well typed. -/
theorem wellTyped_variableName {α : Type} (k : Key α) {text : String}
    (h : (k.decode (Guess.value text)).isSome) {layer : Value}
    (hlayer : Environment.layer? k.variableName text = some layer) : WellTyped layer := by
  rw [Environment.layer?, k.path?_variableName] at hlayer
  cases hlayer
  refine ⟨sectioned_nest _ _ _, fun k' w hw => ?_⟩
  rw [Key.setting?_nest] at hw
  split_ifs at hw with hpath
  cases hw
  rw [Key.isSome_decode_of_path_eq hpath]
  exact h

end

/-! ## Defaults -/

/-- In the settings by default every key has its default. -/
theorem inLayer_default {α : Type} (k : Key α) : k.inLayer ({} : Settings).toValue = some k.default := by
  cases k <;> rfl

theorem wellTyped_default : WellTyped ({} : Settings).toValue where
  table := ⟨_, rfl⟩
  sections := by
    intro name hname w hw
    simp only [names, List.mem_cons, List.not_mem_nil, or_false] at hname
    rcases hname with rfl | rfl <;> cases hw <;> exact ⟨_, rfl⟩
  typed := by
    intro α k w hw
    have h := inLayer_default k
    rw [Key.inLayer, hw, Option.bind_some] at h
    exact Option.isSome_of_eq_some h

/-! ## Loading -/

/-- The settings whose keys stand for given values. -/
def ofKeys (f : ∀ {α : Type}, Key α → α) : Settings where
  appliance :=
    { url := f .url
      username := f .username
      password := f .password
      passwordVariable := f .passwordVariable
      insecure := f .insecure
      timeoutSeconds := f .timeoutSeconds }
  display :=
    { refreshSeconds := f .refreshSeconds
      speed := f .speed
      iconDir := f .iconDir
      identityLookup := f .identityLookup }

/-- Settings that are made key by key have what they are made of. -/
theorem Key.get_ofKeys {α : Type} (f : ∀ {α : Type}, Key α → α) (k : Key α) : k.get (ofKeys f) = f k := by
  cases k <;> rfl

/-- The layer of a file has distinct keys. -/
theorem distinctKeys_of_fileLayer? {file : Option String} {layer : Value} (h : fileLayer? file = some layer) :
    layer.DistinctKeys := by
  cases file with
  | none =>
    cases h
    exact .object List.nodup_nil nofun
  | some text => exact Toml.Document.distinctKeys_of_read? h

/-- A layer is read key by key, and what it does not set has its default. -/
theorem ofValue?_of_wellTyped {v : Value} (h : WellTyped v) :
    ofValue? (cutSections v) = some (ofKeys fun k => (k.inLayer v).getD k.default) := by
  refine (ofValue?_eq_some_iff h.toSectioned).mpr fun k => ?_
  rw [Key.get_ofKeys, Key.inLayer]
  cases hsetting : setting? k.path v with
  | none => rfl
  | some w =>
    obtain ⟨a, ha⟩ := Option.isSome_iff_exists.mp (h.typed k w hsetting)
    rw [Option.bind_some, ha]
    exact ha

/-- The settings in which every key is what the environment sets it to, else the file, else its default. -/
def layered (layer : Value) (environment : List (String × String)) : Settings :=
  ofKeys fun k => ((k.inEnvironment environment).or (k.inLayer layer)).getD k.default

/-- From well-typed sources settings are made, layer over layer. -/
theorem extract?_of_wellTyped {file : Option String} {layer : Value} {environment : List (String × String)}
    (hfile : fileLayer? file = some layer) (hlayer : WellTyped layer)
    (henvironment : WellTypedVariables environment) :
    extract? file environment = some (layered layer environment) := by
  obtain ⟨htyped, hset⟩ := inLayer_environment henvironment
  have hkeys := distinctKeys_of_fileLayer? hfile
  have hbelow := wellTyped_default.overlay hlayer hkeys
  have hmerged : WellTyped (merged layer (Environment.layer environment)) :=
    hbelow.overlay htyped (distinctKeys_environment environment)
  have hinLayer {α : Type} (k : Key α) : k.inLayer (merged layer (Environment.layer environment))
      = ((k.inEnvironment environment).or (k.inLayer layer)).or (some k.default) := by
    rw [merged, k.inLayer_overlay hbelow.toSectioned htyped (distinctKeys_environment environment), hset,
      k.inLayer_overlay wellTyped_default.toSectioned hlayer hkeys, inLayer_default, Option.or_assoc]
  rw [extract?, hfile, Option.bind_some, ofValue?_of_wellTyped hmerged]
  refine congrArg some (Key.ext fun k => ?_)
  rw [layered, Key.get_ofKeys, Key.get_ofKeys, hinLayer]
  cases (k.inEnvironment environment).or (k.inLayer layer) <;> rfl

/-- Settings that differ in one key at most. -/
def AgreeExcept {α : Type} (k : Key α) (s s' : Settings) : Prop :=
  ∀ {β : Type} (k' : Key β), k'.path ≠ k.path → k'.get s' = k'.get s

/-- A variable with a readable text can be added anywhere. -/
theorem WellTypedVariables.insert {before after : List (String × String)}
    (h : WellTypedVariables (before ++ after)) {α : Type} (k : Key α) {text : String}
    (htext : (k.decode (Guess.value text)).isSome) :
    WellTypedVariables (before ++ (k.variableName, text) :: after) := by
  intro v hv
  obtain hbefore | hhere | hafter := (List.mem_append.mp hv).imp_right List.mem_cons.mp
  · exact h v (List.mem_append_left after hbefore)
  · rw [hhere]
    exact fun _ => wellTyped_variableName k htext
  · exact h v (List.mem_append_right before hafter)

/-- Settings that are well typed are loaded, and checked after that. Every key is what the last variable that sets it
says, else the file, else its default. A variable that is added changes the key that it is named for and no other,
and so does a file that differs in one key. -/
theorem keys_of_load {file : Option String} {layer : Value} {environment : List (String × String)}
    (hfile : fileLayer? file = some layer) (hlayer : WellTyped layer)
    (henvironment : WellTypedVariables environment) :
    ∃ s, extract? file environment = some s ∧ (load file environment = s.validate.map fun _ => s) ∧
      (∀ {α : Type} (k : Key α),
        k.get s = ((k.inEnvironment environment).or (k.inLayer layer)).getD k.default) ∧
      (∀ {α : Type} (k : Key α) {a : α} {text : String} {before after : List (String × String)},
        environment = before ++ after → k.decode (Guess.value text) = some a →
          ∃ s', extract? file (before ++ (k.variableName, text) :: after) = some s' ∧
            k.get s' = (k.inEnvironment after).getD a ∧ AgreeExcept k s s') ∧
      ∀ {α : Type} (k : Key α) {file' : Option String} {layer' : Value},
        fileLayer? file' = some layer' → WellTyped layer' →
          (∀ {β : Type} (k' : Key β), k'.path ≠ k.path → setting? k'.path layer' = setting? k'.path layer) →
            ∃ s', extract? file' environment = some s' ∧
              k.get s' = ((k.inEnvironment environment).or (k.inLayer layer')).getD k.default ∧
                AgreeExcept k s s' := by
  refine ⟨layered layer environment, extract?_of_wellTyped hfile hlayer henvironment, ?_, fun k => ?_, ?_, ?_⟩
  · rw [load, extract?_of_wellTyped hfile hlayer henvironment]
  · exact Key.get_ofKeys _ k
  · rintro α k a text before after rfl htext
    refine ⟨_, extract?_of_wellTyped hfile hlayer (henvironment.insert k (Option.isSome_of_eq_some htext)),
      ?_, fun k' hne => ?_⟩
    · rw [layered, Key.get_ofKeys, inEnvironment_variableName k htext, Option.or_assoc, Option.some_or]
      cases k.inEnvironment after <;> rfl
    · rw [layered, layered, Key.get_ofKeys, Key.get_ofKeys, inEnvironment_of_path_ne hne]
  · intro α k file' layer' hfile' hlayer' hsame
    refine ⟨_, extract?_of_wellTyped hfile' hlayer' henvironment, Key.get_ofKeys _ k, fun k' hne => ?_⟩
    rw [layered, layered, Key.get_ofKeys, Key.get_ofKeys, Key.inLayer, Key.inLayer, hsame k' hne]

/-- A file and a variable that set keys of one section, one of them both. -/
theorem keys_of_load_section :
    let file := "[appliance]\nurl = \"http://fw\"\ntimeout_secs = 30\n"
    let environment := [("HOME", "/root"), ("FLOWSCOPE_APPLIANCE__TIMEOUT_SECS", "20")]
    ∃ layer s, fileLayer? (some file) = some layer ∧ WellTyped layer ∧ WellTypedVariables environment ∧
      extract? (some file) environment = some s ∧ s.appliance.url = "http://fw" ∧
        s.appliance.timeoutSeconds = 20 ∧ s.appliance.password = none := by
  intro file environment
  let layer := (fileLayer? (some file)).getD .null
  have hread : fileLayer? (some file) = some layer := by
    obtain ⟨v, hv⟩ := Option.isSome_iff_exists.mp (by decide +kernel : (fileLayer? (some file)).isSome)
    simp only [layer, hv, Option.getD_some]
  have htyped : WellTyped layer := by decide +kernel
  have hvariables : WellTypedVariables environment := by decide +kernel
  obtain ⟨s, hs, -, hkeys, -⟩ := keys_of_load hread htyped hvariables
  refine ⟨layer, s, hread, htyped, hvariables, hs, ?_, ?_, ?_⟩
  · exact (hkeys .url).trans (by decide +kernel)
  · exact (hkeys .timeoutSeconds).trans (by decide +kernel)
  · exact (hkeys .password).trans (by decide +kernel)

end TrafficMap.Settings
