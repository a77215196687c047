import Mathlib
import TrafficMap.Proofs.Engine.Run
import TrafficMap.Scene.Icon

/-!
# The first result for a kind is final

Results of loading icons come in any order, and more than once for a kind. `IconSet.applyAll` records them one
after the other. Of all of them the first one for a kind decides what is known about it
(`state_applyAll`), so the other kinds and the order among the kinds make no difference, and what is once
known stays (`states_of_results`). A set without icons to load knows of a failure for every kind, and an engine
that was set up without a directory of icons keeps such a set (`icons_run`).
-/

namespace TrafficMap

/-- What a result makes of a pending icon. -/
def IconState.ofResult : Except Failure Icon → IconState
  | .ok icon => .loaded icon
  | .error _ => .failed

theorem IconState.ofResult_ne_pending (result : Except Failure Icon) : ofResult result ≠ .pending := by
  cases result <;> exact nofun

namespace IconSet

/-- The icons after results in order. -/
def applyAll (set : IconSet) (results : List (DeviceKind × Except Failure Icon)) : IconSet :=
  results.foldl (fun set r => set.apply r.1 r.2) set

/-- The first result for a kind. -/
def firstFor (kind : DeviceKind) (results : List (DeviceKind × Except Failure Icon)) :
    Option (Except Failure Icon) :=
  (results.find? (·.1 = kind)).map (·.2)

/-! ## One result -/

/-- A result for a kind that is known changes nothing. -/
theorem apply_of_known {set : IconSet} {kind : DeviceKind} (h : set.state kind ≠ .pending)
    (result : Except Failure Icon) : set.apply kind result = set := by
  unfold apply
  split
  · next hpending => exact absurd hpending h
  · rfl

/-- The first result for a kind decides. -/
theorem state_apply_of_pending {set : IconSet} {kind : DeviceKind} (h : set.state kind = .pending)
    (result : Except Failure Icon) : (set.apply kind result).state kind = .ofResult result := by
  unfold apply
  rw [h]
  cases result <;> simp [state, IconState.ofResult]

/-- A result for a kind leaves the others alone. -/
theorem state_apply_of_ne {set : IconSet} {kind kind' : DeviceKind} (h : kind' ≠ kind)
    (result : Except Failure Icon) : (set.apply kind result).state kind' = set.state kind' := by
  by_cases hpending : set.state kind = .pending
  · have hne : (kind' == kind) = false := by simpa using h
    unfold apply
    rw [hpending]
    simp only [state, List.lookup_cons, hne]
  · rw [apply_of_known hpending]

/-! ## All results -/

theorem applyAll_append (set : IconSet) (before after : List (DeviceKind × Except Failure Icon)) :
    set.applyAll (before ++ after) = (set.applyAll before).applyAll after :=
  List.foldl_append

/-- What is known about a kind stays. -/
theorem state_applyAll_of_known {set : IconSet} {kind : DeviceKind} (h : set.state kind ≠ .pending)
    (results : List (DeviceKind × Except Failure Icon)) :
    (set.applyAll results).state kind = set.state kind := by
  induction results generalizing set with
  | nil => rfl
  | cons r results ih =>
    have hstep : (set.apply r.1 r.2).state kind = set.state kind := by
      by_cases hkind : kind = r.1
      · rw [apply_of_known (hkind ▸ h)]
      · exact state_apply_of_ne hkind r.2
    rw [applyAll, List.foldl_cons, ← hstep]
    exact ih (hstep.symm ▸ h)

/-- The first result for a pending kind decides. -/
theorem state_applyAll {set : IconSet} {kind : DeviceKind} (h : set.state kind = .pending)
    (results : List (DeviceKind × Except Failure Icon)) :
    (set.applyAll results).state kind = ((firstFor kind results).map .ofResult).getD .pending := by
  induction results generalizing set with
  | nil => exact h
  | cons r results ih =>
    rw [applyAll, List.foldl_cons]
    by_cases hkind : kind = r.1
    · -- the first result for the kind; those behind it find the kind known
      subst hkind
      have hfirst : (set.apply r.1 r.2).state r.1 = .ofResult r.2 := state_apply_of_pending h r.2
      have hfound : firstFor r.1 (r :: results) = some r.2 := by
        simp [firstFor]
      rw [hfound, Option.map_some, Option.getD_some, ← hfirst]
      exact state_applyAll_of_known (hfirst ▸ IconState.ofResult_ne_pending r.2) results
    · -- a result for another kind: the kind is still pending behind it
      have hskip : firstFor kind (r :: results) = firstFor kind results := by
        simp [firstFor, Ne.symm hkind]
      rw [hskip]
      exact ih ((state_apply_of_ne hkind r.2).trans h)

/-- Only the results for a kind count for it. -/
theorem firstFor_filter (kind : DeviceKind) (results : List (DeviceKind × Except Failure Icon)) :
    firstFor kind (results.filter (·.1 = kind)) = firstFor kind results := by
  rw [firstFor, List.find?_filter]
  simp [firstFor]

theorem state_fresh (kind : DeviceKind) : ({} : IconSet).state kind = .pending :=
  rfl

/-! ## Without icons -/

theorem state_disabled (kind : DeviceKind) : disabled.state kind = .failed := by
  cases kind with
  | client kind => cases kind <;> rfl
  | _ => rfl

/-- A disabled set never has an icon. -/
theorem get?_disabled_applyAll (results : List (DeviceKind × Except Failure Icon)) (kind : DeviceKind) :
    (disabled.applyAll results).get? kind = none := by
  have hknown : disabled.state kind ≠ .pending := by
    rw [state_disabled]
    exact nofun
  rw [get?, state_applyAll_of_known hknown, state_disabled]

end IconSet

namespace Engine

variable {α : Type}

/-- The result that a call brings for the icon of a kind. -/
def Call.iconResult? : Call α → Option (DeviceKind × Except Failure Icon)
  | .applyIcon kind result => some (kind, result)
  | _ => none

variable [Scalar α]

theorem icons_rebuild (e : Engine α) : e.rebuild.icons = e.icons := by
  obtain ⟨topology, revision, field, h⟩ := e.rebuild_eq
  rw [h]

/-- An outcome leaves the icons. -/
theorem icons_apply (e : Engine α) (now : Nat) (outcome : Outcome) :
    (e.apply now outcome).2.icons = e.icons := by
  by_cases hnew : e.generation < outcome.generation
  · cases hresult : outcome.result with
    | ok snapshot =>
      rw [apply_of_ok e now hnew hresult]
      exact icons_rebuild _
    | error failure => rw [apply_of_error e now hnew hresult]
  · rw [apply_of_le e now (UInt64.not_lt.1 hnew)]

/-- A resize leaves the icons. -/
theorem icons_resize (e : Engine α) (width height : α) :
    (e.resize width height).2.icons = e.icons := by
  rcases e.resize_eq width height with h | ⟨layout, h⟩
  · rw [h]
  · rw [h, icons_rebuild]

/-- A call changes the icons by the result that it brings, if it brings one. -/
theorem icons_next (e : Engine α) (call : Call α) :
    (e.next call).icons = e.icons.applyAll call.iconResult?.toList := by
  cases call with
  | apply now outcome => exact e.icons_apply now outcome
  | resize width height => exact e.icons_resize width height
  | _ => rfl

/-- The icons of an engine are those that the results of its calls make. -/
theorem icons_run (e : Engine α) (calls : List (Call α)) :
    (e.run calls).icons = e.icons.applyAll (calls.filterMap Call.iconResult?) := by
  induction calls generalizing e with
  | nil => rfl
  | cons call calls ih =>
    rw [run_cons, ih, icons_next, ← IconSet.applyAll_append]
    cases hresult : call.iconResult? <;> simp [hresult]

/-- An engine that was set up without a directory never has an icon. -/
theorem get?_icons_run {width height : α} {options : EngineOptions α} (h : options.iconDir = none)
    (generator : Generator) (calls : List (Call α)) (kind : DeviceKind) :
    ((fresh width height options generator).run calls).icons.get? kind = none := by
  have hicons : (fresh width height options generator).icons = .disabled := by
    rw [fresh, start, h]
    rfl
  rw [icons_run, hicons]
  exact IconSet.get?_disabled_applyAll _ kind

end Engine

namespace IconSet

/-- After any results, in any order and with any repeats, the first one for a kind says what is known about
it, and it is pending if there was none. That stays, whatever comes later, and sequences that bring the same
results in the same order for every kind make the same icons. Where there is nothing to load icons from, and
so in an engine without a directory of icons, no results make an icon. -/
theorem states_of_results {α : Type} [Scalar α]
    (results : List (DeviceKind × Except Failure Icon)) :
    (∀ kind, (applyAll {} results).state kind =
      match results.find? (·.1 = kind) with
      | none => .pending
      | some (_, .ok icon) => .loaded icon
      | some (_, .error _) => .failed) ∧
    (∀ kind later, (applyAll {} results).state kind ≠ .pending →
      (applyAll {} (results ++ later)).state kind = (applyAll {} results).state kind) ∧
    (∀ results', (∀ kind, results'.filter (·.1 = kind) = results.filter (·.1 = kind)) →
      (applyAll {} results').state = (applyAll {} results).state) ∧
    (∀ kind, (applyAll disabled results).get? kind = none) ∧
    ∀ (width height : α) (options : EngineOptions α) (generator : Generator)
      (calls : List (Engine.Call α)), options.iconDir = none →
      ∀ kind, ((Engine.fresh width height options generator).run calls).icons.get? kind = none := by
  refine ⟨fun kind => ?_, fun kind later hknown => ?_, fun results' hsame => ?_,
    get?_disabled_applyAll results, ?_⟩
  · rw [state_applyAll (state_fresh kind), firstFor]
    rcases hfirst : results.find? (·.1 = kind) with _ | ⟨_, _ | _⟩ <;> rw [hfirst] <;> rfl
  · rw [applyAll_append, state_applyAll_of_known hknown]
  · funext kind
    rw [state_applyAll (state_fresh kind), state_applyAll (state_fresh kind), ← firstFor_filter,
      hsame, firstFor_filter]
  · exact fun _ _ _ generator calls h kind => Engine.get?_icons_run h generator calls kind

end IconSet

end TrafficMap
