import Mathlib
import TrafficMap.Json.Members
import TrafficMap.Json.Value

/-!
# Distinct keys

The members of an object are a list, and what a key stands for is looked up from the front. That is the whole
meaning of the list only if no key occurs twice, there and in all objects below (`Value.DistinctKeys`).
-/

namespace TrafficMap

open Json (Value)

namespace Members

variable {β : Type} {key : String} {b : β} {ms : List (String × β)}

/-- Putting a name adds it to the names if it is new. -/
theorem map_fst_put :
    (put key b ms).map (·.1) = if key ∈ ms.map (·.1) then ms.map (·.1) else ms.map (·.1) ++ [key] := by
  induction ms with
  | nil => rfl
  | cons m ms ih =>
    obtain ⟨k, c⟩ := m
    by_cases h : k = key
    · simp [put, h]
    · rw [put, if_neg h, List.map_cons, ih, List.map_cons, apply_ite (k :: ·)]
      simp only [List.mem_cons, or_iff_right (Ne.symm h), List.cons_append]

/-- Keys stay distinct where a member is put. -/
theorem nodup_put (h : (ms.map (·.1)).Nodup) : ((put key b ms).map (·.1)).Nodup := by
  rw [map_fst_put]
  split_ifs with hkey
  · exact h
  · exact List.nodup_append.mpr ⟨h, List.nodup_singleton key, fun k hk k' hk' hsame =>
      hkey (List.mem_singleton.mp hk' ▸ hsame ▸ hk)⟩

/-- A property of all members is kept where one that has it is put. -/
theorem forall_put {p : β → Prop} (hb : p b) (h : ∀ m ∈ ms, p m.2) : ∀ m ∈ put key b ms, p m.2 := by
  induction ms with
  | nil => simpa [put] using hb
  | cons m ms ih =>
    obtain ⟨k, c⟩ := m
    obtain ⟨hc, hms⟩ := List.forall_mem_cons.mp h
    rw [put]
    split_ifs
    · exact List.forall_mem_cons.mpr ⟨hb, hms⟩
    · exact List.forall_mem_cons.mpr ⟨hc, ih hms⟩

/-- What a look-up finds is a member. -/
theorem mem_of_lookup (h : ms.lookup key = some b) : (key, b) ∈ ms := by
  obtain ⟨before, after, rfl, -⟩ := List.lookup_eq_some_iff.mp h
  simp

/-- A member is looked up before or after all of them are changed. -/
theorem lookup_map {γ : Type} (f : String → β → γ) (key : String) (ms : List (String × β)) :
    (ms.map fun m => (m.1, f m.1 m.2)).lookup key = (ms.lookup key).map (f key) := by
  induction ms with
  | nil => rfl
  | cons m ms ih =>
    obtain ⟨k, c⟩ := m
    rw [List.map_cons, List.lookup_cons, List.lookup_cons, ih]
    by_cases h : key = k
    · subst h
      simp
    · rw [beq_eq_false_iff_ne.mpr h]

end Members

namespace Json.Value

/-- No object in a value has a key twice. -/
inductive DistinctKeys : Value → Prop
  | null : DistinctKeys .null
  | bool (b : Bool) : DistinctKeys (.bool b)
  | number (n : Number) : DistinctKeys (.number n)
  | string (s : String) : DistinctKeys (.string s)
  | array {items : List Value} (h : ∀ v ∈ items, DistinctKeys v) : DistinctKeys (.array items)
  | object {members : List (String × Value)} (hkeys : (members.map (·.1)).Nodup)
    (h : ∀ m ∈ members, DistinctKeys m.2) : DistinctKeys (.object members)

/-- An object has distinct keys if its own are distinct and its members have distinct keys. -/
theorem distinctKeys_object_iff {members : List (String × Value)} :
    (object members).DistinctKeys ↔ (members.map (·.1)).Nodup ∧ ∀ m ∈ members, m.2.DistinctKeys := by
  constructor
  · rintro (_ | _ | _ | _ | _ | ⟨hkeys, h⟩)
    exact ⟨hkeys, h⟩
  · rintro ⟨hkeys, h⟩
    exact .object hkeys h

theorem distinctKeys_ofInt (n : ℤ) : (ofInt n).DistinctKeys := by
  unfold ofInt
  split_ifs <;> exact .number _

end Json.Value

end TrafficMap
