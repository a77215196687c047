import Mathlib
import TrafficMap.Proofs.Json.DistinctKeys
import TrafficMap.Settings.Layers

/-!
# Layers on layers

Laying one table on another goes member by member (`member?_overlay`). For the members of sections (`setting?`) it
means that the upper layer counts where it says something, unless tables are merged there as well
(`setting?_overlay`); what it does not mention stays as it is below.
-/

namespace TrafficMap.Layers

open Json (Value)
open Members (put lookup_put nodup_put forall_put mem_of_lookup)

/-- Whether a value is a table. -/
def IsTable (v : Value) : Prop :=
  ∃ members, v = .object members

instance (v : Value) : Decidable (IsTable v) :=
  match v with
  | .object members => isTrue ⟨members, rfl⟩
  | .null | .bool _ | .number _ | .string _ | .array _ => isFalse nofun

/-- A value over what is below it, if there is anything. -/
def onto (below : Option Value) (v : Value) : Value :=
  below.elim v fun w => overlay w v

/-- The value of a key in a section. -/
def setting? (path : String × String) (v : Value) : Option Value :=
  (v.member? path.1).bind (Value.member? path.2)

section

variable {below v w : Value}

/-- A value that is no table takes the place of what is below. -/
theorem overlay_of_not_isTable (h : ¬IsTable v) : overlay below v = v := by
  cases v with
  | object members => exact absurd ⟨members, rfl⟩ h
  | _ => simp only [overlay]

/-- A value takes the place of one that is no table. -/
theorem overlay_on_not_isTable (h : ¬IsTable below) : overlay below v = v := by
  cases v with
  | object members =>
    cases below with
    | object under => exact absurd ⟨under, rfl⟩ h
    | _ => simp only [overlay]
  | _ => simp only [overlay]

/-- The same where there may be nothing below. -/
theorem onto_of_not_isTable {below : Option Value} (h : ¬IsTable v) : onto below v = v := by
  cases below with
  | none => rfl
  | some w => exact overlay_of_not_isTable h

/-- Two tables are laid over each other member by member. -/
theorem overlay_object (under members : List (String × Value)) :
    overlay (.object under) (.object members) = .object (overlayMembers under members) := by
  rw [overlay]

/-- The first member goes onto the one below it before the others follow. -/
theorem overlayMembers_cons (under rest : List (String × Value)) (key : String) (v : Value) :
    overlayMembers under ((key, v) :: rest) = overlayMembers (put key (onto (under.lookup key) v) under) rest := by
  rw [overlayMembers]
  cases under.lookup key <;> rfl

/-- A table over a table is a table. -/
theorem IsTable.overlay (hbelow : IsTable below) (hv : IsTable v) : IsTable (overlay below v) := by
  obtain ⟨under, rfl⟩ := hbelow
  obtain ⟨members, rfl⟩ := hv
  exact ⟨_, overlay_object under members⟩

/-! ## Distinct keys -/

/-- The members of a value with distinct keys have distinct keys. -/
theorem distinctKeys_member? {key : String} (hv : v.DistinctKeys) (h : v.member? key = some w) : w.DistinctKeys := by
  cases hv with
  | object hkeys hmembers => exact hmembers _ (mem_of_lookup h)
  | _ => cases h

theorem distinctKeys_overlayMembers {under members : List (String × Value)}
    (h : ∀ m ∈ members, m.2.DistinctKeys ∧ ∀ below : Value, below.DistinctKeys → (overlay below m.2).DistinctKeys)
    (hunder : (Value.object under).DistinctKeys) : (Value.object (overlayMembers under members)).DistinctKeys := by
  induction members generalizing under with
  | nil =>
    rw [overlayMembers]
    exact hunder
  | cons m members ih =>
    obtain ⟨key, v⟩ := m
    obtain ⟨⟨hv, hoverlay⟩, hrest⟩ := List.forall_mem_cons.mp h
    obtain ⟨hkeys, hvalues⟩ := Value.distinctKeys_object_iff.mp hunder
    have honto : (onto (under.lookup key) v).DistinctKeys := by
      cases hlookup : under.lookup key with
      | none => exact hv
      | some w => exact hoverlay w (hvalues _ (mem_of_lookup hlookup))
    rw [overlayMembers_cons]
    exact ih hrest (.object (nodup_put hkeys) (forall_put honto hvalues))

/-- Layers in which no key occurs twice are merged into one of that kind. -/
theorem distinctKeys_overlay (hbelow : below.DistinctKeys) (hv : v.DistinctKeys) :
    (overlay below v).DistinctKeys := by
  induction hv generalizing below with
  | object hkeys h ih =>
    by_cases htable : IsTable below
    · obtain ⟨under, rfl⟩ := htable
      rw [overlay_object]
      exact distinctKeys_overlayMembers (fun m hm => ⟨h m hm, fun _ => ih m hm⟩) hbelow
    · rw [overlay_on_not_isTable htable]
      exact .object hkeys h
  | array h =>
    rw [overlay_of_not_isTable (by rintro ⟨_, ⟨⟩⟩)]
    exact .array h
  | _ =>
    rw [overlay_of_not_isTable (by rintro ⟨_, ⟨⟩⟩)]
    constructor

end

/-! ## Members -/

/-- A key is found in the upper members, laid onto the lower ones, or else in the lower ones. -/
theorem lookup_overlayMembers {under members : List (String × Value)} (h : (members.map (·.1)).Nodup)
    (key : String) :
    (overlayMembers under members).lookup key
      = ((members.lookup key).map (onto (under.lookup key))).or (under.lookup key) := by
  induction members generalizing under with
  | nil =>
    rw [overlayMembers]
    rfl
  | cons m members ih =>
    obtain ⟨k, v⟩ := m
    obtain ⟨hnew, hrest⟩ := List.nodup_cons.mp h
    rw [overlayMembers_cons, ih hrest, lookup_put, List.lookup_cons]
    by_cases hkey : key = k
    · subst hkey
      have hnone : members.lookup key = none := by
        rw [List.lookup_eq_none_iff]
        intro m hm
        exact bne_iff_ne.mpr fun hsame => hnew (List.mem_map.mpr ⟨m, hm, hsame.symm⟩)
      rw [hnone, beq_self_eq_true, if_pos rfl]
      rfl
    · rw [beq_eq_false_iff_ne.mpr hkey, if_neg hkey]

section

variable {below v : Value} (hbelow : IsTable below) (hv : IsTable v) (hkeys : v.DistinctKeys)

include hbelow hv hkeys

/-- A member of two values is that of the upper one, laid onto that of the lower one, or else that
of the lower one. -/
theorem member?_overlay (key : String) :
    (overlay below v).member? key
      = ((v.member? key).map (onto (below.member? key))).or (below.member? key) := by
  obtain ⟨under, rfl⟩ := hbelow
  obtain ⟨members, rfl⟩ := hv
  rw [overlay_object]
  exact lookup_overlayMembers (Value.distinctKeys_object_iff.mp hkeys).1 key

/-- Where the sections are tables, a key of the upper layer is laid on that of the lower one. -/
theorem setting?_overlay {path : String × String} (hbelow' : ∀ w, below.member? path.1 = some w → IsTable w)
    (hv' : ∀ w, v.member? path.1 = some w → IsTable w) :
    setting? path (overlay below v)
      = ((setting? path v).map (onto (setting? path below))).or (setting? path below) := by
  rw [setting?, setting?, setting?, member?_overlay hbelow hv hkeys]
  cases hupper : v.member? path.1 with
  | none => rfl
  | some upper =>
    cases hlower : below.member? path.1 with
    | none =>
      cases hvalue : upper.member? path.2 <;> simp [onto, hvalue]
    | some lower =>
      exact member?_overlay (hbelow' lower hlower) (hv' upper hupper) (distinctKeys_member? hkeys hupper) path.2

end

end TrafficMap.Layers
