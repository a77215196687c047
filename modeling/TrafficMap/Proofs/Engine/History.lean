import Mathlib
import TrafficMap.Proofs.Engine.Run

/-!
# What an engine shows of its history

The outcomes that a run accepts (`Engine.accepted`) decide everything that the run leaves in the
memory of the engine:

* as long as it is not torn down, it accepts exactly the outcomes that are newer than all accepted
  before, and holds the snapshot of the latest success (`accepted_of_run`);
* torn down or not, its status is a function of the accepted outcomes (`status_of_run`).

Both follow from a law that ties the memory to the history and that every step of the memory keeps.
-/

namespace TrafficMap

namespace Receipt

/-- The snapshot of a success. -/
def snapshot? (r : Receipt) : Option Snapshot :=
  match r.outcome.result with
  | .ok snapshot => some snapshot
  | .error _ => none

/-- The time of a success. -/
def successTime? (r : Receipt) : Option Nat :=
  match r.outcome.result with
  | .ok _ => some r.time
  | .error _ => none

/-- Why a refresh failed. -/
def failure? (r : Receipt) : Option Failure :=
  match r.outcome.result with
  | .ok _ => none
  | .error failure => some failure

/-- The latest of what a history tells. -/
def latest? {β : Type} (f : Receipt → Option β) (history : List Receipt) : Option β :=
  (history.filterMap f).getLast?

theorem latest?_concat {β : Type} (f : Receipt → Option β) (history : List Receipt) (r : Receipt) :
    latest? f (history ++ [r]) = (f r).or (latest? f history) := by
  unfold latest?
  rw [List.filterMap_append, List.getLast?_append]
  cases hr : f r <;> simp [hr]

theorem latest?_eq_none_iff {β : Type} {f : Receipt → Option β} {history : List Receipt} :
    latest? f history = none ↔ ∀ r ∈ history, f r = none := by
  unfold latest?
  rw [List.getLast?_eq_none_iff, List.filterMap_eq_nil_iff]

end Receipt

/-- The status that a history of accepted outcomes calls for: it is live if the latest one is a
success; if that is a failure, it is stale since the latest success, or failed without one. -/
def LoadStatus.ofHistory (history : List Receipt) : LoadStatus :=
  match history.getLast? with
  | none => .loading
  | some latest =>
    match latest.outcome.result, Receipt.latest? Receipt.successTime? history with
    | .ok _, _ => .live latest.time
    | .error failure, some updated => .stale updated failure
    | .error failure, none => .failed failure

namespace Engine

open Receipt (latest?)

variable {α : Type} [Scalar α]

/-! ## Accepted generations -/

/-- An engine that was not torn down and its history: the generation is the newest of the history,
and the snapshot that of the latest success. -/
structure Memory.Follows (m : Memory) (history : List Receipt) : Prop where
  newest : m.generation ∈ 0 :: history.map (·.outcome.generation)
  increasing : (0 :: history.map (·.outcome.generation)).Pairwise (· < ·)
  bound : ∀ generation ∈ 0 :: history.map (·.outcome.generation), generation ≤ m.generation
  snapshot : m.snapshot = latest? Receipt.snapshot? history

namespace Memory.Follows

/-- An outcome newer than the memory is newer than the history, and the other way round. -/
theorem lt_iff {m : Memory} {history : List Receipt} (h : m.Follows history) (n : UInt64) :
    m.generation < n ↔ ∀ generation ∈ 0 :: history.map (·.outcome.generation), generation < n := by
  constructor
  · intro hnew generation hgeneration
    exact UInt64.lt_of_le_of_lt (h.bound generation hgeneration) hnew
  · intro hall
    exact hall m.generation h.newest

/-- The generations after a newer outcome. -/
theorem concat {m : Memory} {history : List Receipt} (h : m.Follows history) {r : Receipt}
    (hnew : m.generation < r.outcome.generation) {snapshot : Option Snapshot}
    (hsnapshot : snapshot = (r.snapshot?).or m.snapshot) (time : Option Nat)
    (failure : Option Failure) :
    Follows ⟨r.outcome.generation, snapshot, time, failure⟩ (history ++ [r]) := by
  have hgenerations : 0 :: (history ++ [r]).map (·.outcome.generation)
      = (0 :: history.map (·.outcome.generation)) ++ [r.outcome.generation] := by
    rw [List.map_append, List.cons_append]
    rfl
  -- newer than the memory is newer than everything before: this is where the bound is used
  have hlt := (h.lt_iff _).mp hnew
  refine ⟨?_, ?_, ?_, ?_⟩
  · rw [hgenerations]
    exact List.mem_append_right _ (List.mem_singleton_self _)
  · rw [hgenerations, List.pairwise_append]
    refine ⟨h.increasing, List.pairwise_singleton .., ?_⟩
    intro generation hgeneration n hn
    rw [List.mem_singleton.mp hn]
    exact hlt generation hgeneration
  · rw [hgenerations]
    intro generation hgeneration
    rcases List.mem_append.mp hgeneration with hold | hlast
    · exact UInt64.le_of_lt (hlt generation hold)
    · exact List.mem_singleton.mp hlast ▸ UInt64.le_refl _
  · rw [hsnapshot, h.snapshot, Receipt.latest?_concat]

omit [Scalar α] in
/-- A step that is no teardown keeps memory and history together. -/
theorem step {m m' : Memory} {call : Call α} {receipt : Option Receipt} {history : List Receipt}
    (h : m.Follows history) (hcall : call ≠ .teardown) (hstep : Memory.Step m call receipt m') :
    m'.Follows (history ++ receipt.toList) := by
  cases hstep with
  | success now outcome snapshot hnew hresult =>
    have hsnapshot : Receipt.snapshot? ⟨now, outcome⟩ = some snapshot := by
      rw [Receipt.snapshot?, hresult]
    exact h.concat hnew (by rw [hsnapshot, Option.some_or]) _ _
  | failure now outcome failure hnew hresult =>
    have hsnapshot : Receipt.snapshot? ⟨now, outcome⟩ = none := by
      rw [Receipt.snapshot?, hresult]
    exact h.concat hnew (by rw [hsnapshot, Option.none_or]) _ _
  | teardown => exact absurd rfl hcall
  | quiet =>
    rw [Option.toList_none, List.append_nil]
    exact h

end Memory.Follows

theorem follows_run (width height : α) (options : EngineOptions α) (generator : Generator)
    (calls : List (Call α)) (hcalls : Call.teardown ∉ calls) :
    ((fresh width height options generator).run calls).memory.Follows
      ((fresh width height options generator).accepted calls) := by
  have hfresh : (fresh width height options generator).memory.Follows [] :=
    ⟨List.mem_singleton.mpr rfl, List.pairwise_singleton .., by simp [memory, fresh, start], rfl⟩
  exact run_induction (P := fun e history => e.memory.Follows history) (Q := (· ≠ .teardown))
    (fun e history call hcall h => h.step hcall (e.memory_step call)) _ [] calls
    (fun call hcall => by rintro rfl; exact hcalls hcall) hfresh

/-- A fresh engine that is not torn down accepts exactly the outcomes that are newer than every one
it accepted before and than zero, so their generations increase; at the end it holds the snapshot
of the latest success among them. -/
theorem accepted_of_run (width height : α) (options : EngineOptions α) (generator : Generator)
    (calls : List (Call α)) (hcalls : Call.teardown ∉ calls) :
    let e := fresh width height options generator
    (∀ before now outcome after, calls = before ++ .apply now outcome :: after →
      (((e.run before).apply now outcome).1 = .rebuilt ∨
          ((e.run before).apply now outcome).1 = .failed ↔
        ∀ generation ∈ 0 :: (e.accepted before).map (·.outcome.generation),
          generation < outcome.generation)) ∧
      (0 :: (e.accepted calls).map (·.outcome.generation)).Pairwise (· < ·) ∧
      (e.run calls).snapshot = latest? Receipt.snapshot? (e.accepted calls) := by
  intro e
  have hrun := follows_run width height options generator calls hcalls
  refine ⟨?_, hrun.increasing, hrun.snapshot⟩
  intro before now outcome after hsplit
  -- a part of a run without a teardown has none, so the law holds where the outcome arrives
  have hbefore : Call.teardown ∉ before := by
    intro hmem
    exact hcalls (hsplit ▸ List.mem_append_left _ hmem)
  rw [applied_iff]
  exact (follows_run width height options generator before hbefore).lt_iff _

/-- Late, repeated and failed outcomes around a resize: those numbered 3 and 5 are accepted, once. -/
theorem accepted_of_run_interleaved :
    let e : Engine Float := fresh 1200.0 700.0 .standard (.ofSeed 1)
    let calls : List (Call Float) :=
      [.apply 0 ⟨3, .ok {}⟩, .resize 600.0 400.0, .apply 10 ⟨2, .ok {}⟩,
        .apply 20 ⟨5, .error .timeout⟩, .apply 30 ⟨5, .ok {}⟩]
    Call.teardown ∉ calls ∧
      (e.accepted calls).map (·.outcome.generation) = [3, 5] ∧
      (0 :: (e.accepted calls).map (·.outcome.generation)).Pairwise (· < ·) ∧
      (e.run calls).snapshot = latest? Receipt.snapshot? (e.accepted calls) := by
  intro e calls
  have hcalls : Call.teardown ∉ calls := by simp [calls]
  obtain ⟨-, hincreasing, hsnapshot⟩ :=
    accepted_of_run 1200.0 700.0 .standard (.ofSeed 1) calls hcalls
  exact ⟨hcalls, by decide +kernel, hincreasing, hsnapshot⟩

/-! ## The status -/

/-- An engine and its history: it keeps the time of the latest success, and the failure of the
latest outcome if that is one. -/
structure Memory.Recalls (m : Memory) (history : List Receipt) : Prop where
  success : m.lastSuccess = latest? Receipt.successTime? history
  error : m.lastError = history.getLast?.bind Receipt.failure?

omit [Scalar α] in
/-- Every step keeps memory and history together, a teardown too. -/
theorem Memory.Recalls.step {m m' : Memory} {call : Call α} {receipt : Option Receipt}
    {history : List Receipt} (h : m.Recalls history) (hstep : Memory.Step m call receipt m') :
    m'.Recalls (history ++ receipt.toList) := by
  cases hstep with
  | success now outcome snapshot hnew hresult =>
    rw [Option.toList_some]
    refine ⟨?_, ?_⟩
    · rw [Receipt.latest?_concat]
      simp [Receipt.successTime?, hresult]
    · simp [Receipt.failure?, hresult]
  | failure now outcome failure hnew hresult =>
    rw [Option.toList_some]
    refine ⟨?_, ?_⟩
    · rw [Receipt.latest?_concat, h.success]
      simp [Receipt.successTime?, hresult]
    · simp [Receipt.failure?, hresult]
  | teardown =>
    rw [Option.toList_none, List.append_nil]
    exact ⟨h.success, h.error⟩
  | quiet =>
    rw [Option.toList_none, List.append_nil]
    exact h

theorem recalls_run (width height : α) (options : EngineOptions α) (generator : Generator)
    (calls : List (Call α)) :
    ((fresh width height options generator).run calls).memory.Recalls
      ((fresh width height options generator).accepted calls) :=
  run_induction (P := fun e history => e.memory.Recalls history) (Q := fun _ => True)
    (fun e _ call _ h => h.step (e.memory_step call)) _ [] calls (fun _ _ => trivial) ⟨rfl, rfl⟩

omit [Scalar α] in
/-- The status of an engine that recalls a history is the one that the history calls for. -/
theorem status_of_recalls {e : Engine α} {history : List Receipt} (h : e.memory.Recalls history) :
    e.status = LoadStatus.ofHistory history := by
  have hsuccess : e.lastSuccess = latest? Receipt.successTime? history := h.success
  have herror : e.lastError = history.getLast?.bind Receipt.failure? := h.error
  unfold status LoadStatus.ofHistory
  rw [hsuccess, herror]
  -- only the end of the history decides, so it is taken apart there
  rcases List.eq_nil_or_concat' history with rfl | ⟨earlier, latest, rfl⟩
  · rfl
  · rw [List.getLast?_concat]
    cases hresult : latest.outcome.result with
    | ok snapshot =>
      have htime : latest.successTime? = some latest.time := by
        rw [Receipt.successTime?, hresult]
      rw [Receipt.latest?_concat, htime]
      simp [Receipt.failure?, hresult]
    | error failure =>
      have hfailure : latest.failure? = some failure := by
        rw [Receipt.failure?, hresult]
      cases hupdated : latest? Receipt.successTime? (earlier ++ [latest]) <;>
        simp [hfailure, hresult]

omit [Scalar α] in
/-- There is a failure to show instead of a picture exactly when the status is failed. -/
theorem errorView_eq_some_iff (e : Engine α) (failure : Failure) :
    e.errorView = some failure ↔ e.status = .failed failure := by
  unfold errorView status
  cases e.lastSuccess <;> cases e.lastError <;> simp

/-- The status after a run of a fresh engine is the one that the accepted outcomes call for. A
failure takes the place of the picture exactly when the status is failed, and never again once a
success was accepted. -/
theorem status_of_run (width height : α) (options : EngineOptions α) (generator : Generator)
    (calls : List (Call α)) :
    let e := fresh width height options generator
    (e.run calls).status = LoadStatus.ofHistory (e.accepted calls) ∧
      (∀ failure, (e.run calls).errorView = some failure ↔
        LoadStatus.ofHistory (e.accepted calls) = .failed failure) ∧
      ∀ before after, calls = before ++ after →
        (∃ r ∈ e.accepted before, r.successTime?.isSome) → (e.run calls).errorView = none := by
  intro e
  have hrun := recalls_run width height options generator calls
  have hstatus := status_of_recalls hrun
  refine ⟨hstatus, ?_, ?_⟩
  · intro failure
    rw [errorView_eq_some_iff, hstatus]
  · rintro before after rfl ⟨r, hr, hsome⟩
    -- an accepted success stays in the history, so there is a latest one for good
    have hlatest : latest? Receipt.successTime? (e.accepted (before ++ after)) ≠ none := by
      intro hnone
      rw [Receipt.latest?_eq_none_iff] at hnone
      have := hnone r (by rw [accepted_append]; exact List.mem_append_left _ hr)
      simp [this] at hsome
    have hsuccess : (e.run (before ++ after)).lastSuccess ≠ none := by
      rw [show (e.run (before ++ after)).lastSuccess = _ from hrun.success]
      exact hlatest
    rw [errorView, if_pos (Option.isSome_iff_ne_none.mpr hsuccess)]

end Engine

end TrafficMap
