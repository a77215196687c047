import Mathlib
import TrafficMap.Engine

/-!
# Runs of the engine

A host talks to an engine in calls. `Engine.run` makes a list of calls one after the other,
`Engine.replies` collects what they answer, and `Engine.accepted` collects the outcomes that were
answered as rebuilt or as failed.

Of everything that an engine holds, only an outcome and a teardown touch what it remembers of
outcomes (`Engine.memory`), and a run of other calls goes on alike from two engines that differ in
nothing but the generation and the last failure. So a law of runs needs to look at outcomes and
teardowns only; `run_induction` turns what a call keeps into what a run keeps.
-/

namespace TrafficMap

/-- An outcome that an engine accepted, with the time at which it was applied. -/
structure Receipt where
  time : Nat
  outcome : Outcome

namespace Engine

variable {α : Type}

/-- A call that a host makes to an engine. -/
inductive Call (α : Type) where
  | apply (now : Nat) (outcome : Outcome)
  | resize (width height : α)
  | advance (nanos : Nat)
  | setSpeed (speed : α)
  | applyIcon (kind : DeviceKind) (result : Except Failure Icon)
  | withParticles (field : ParticleField α)
  | teardown
  | render

/-- What a call answers. -/
inductive Reply (α : Type) where
  | applied (what : Applied)
  | resized (changed : Bool)
  | speed (value : α)
  | frame (calls : List (DrawCall α))
  | done

/-- Whether a call brings an outcome. -/
def Call.isApply : Call α → Bool
  | .apply .. => true
  | _ => false

variable [Scalar α]

/-- The engine that a host sets up: without particles, and with a generator in any state. -/
def fresh (width height : α) (options : EngineOptions α) (generator : Generator) : Engine α :=
  start width height options.speed options.iconDir { generator }

/-- The engine after a call. -/
def next (e : Engine α) : Call α → Engine α
  | .apply now outcome => (e.apply now outcome).2
  | .resize width height => (e.resize width height).2
  | .advance nanos => e.advance nanos
  | .setSpeed speed => e.setSpeed speed
  | .applyIcon kind result => e.applyIcon kind result
  | .withParticles field => e.withParticles field
  | .teardown => e.teardown
  | .render => e

/-- The answer to a call. -/
def reply (e : Engine α) : Call α → Reply α
  | .apply now outcome => .applied (e.apply now outcome).1
  | .resize width height => .resized (e.resize width height).1
  | .setSpeed speed => .speed (e.setSpeed speed).speed
  | .render => .frame e.render
  | _ => .done

/-- The engine after a list of calls. -/
def run (e : Engine α) (calls : List (Call α)) : Engine α :=
  calls.foldl next e

/-- The answers to a list of calls. -/
def replies (e : Engine α) : List (Call α) → List (Reply α)
  | [] => []
  | call :: calls => e.reply call :: (e.next call).replies calls

/-- The outcome that a call makes the engine accept, if there is one. -/
def receipt? (e : Engine α) : Call α → Option Receipt
  | .apply now outcome =>
    match (e.apply now outcome).1 with
    | .rebuilt | .failed => some ⟨now, outcome⟩
    | .discarded => none
  | _ => none

/-- The outcomes that a list of calls makes the engine accept, in order. -/
def accepted (e : Engine α) : List (Call α) → List Receipt
  | [] => []
  | call :: calls => (e.receipt? call).toList ++ (e.next call).accepted calls

/-! ## Runs in parts -/

@[simp] theorem run_nil (e : Engine α) : e.run [] = e := rfl

@[simp] theorem run_cons (e : Engine α) (call : Call α) (calls : List (Call α)) :
    e.run (call :: calls) = (e.next call).run calls := rfl

/-- What is accepted in two parts of a run, one after the other. -/
theorem accepted_append (e : Engine α) (before after : List (Call α)) :
    e.accepted (before ++ after) = e.accepted before ++ (e.run before).accepted after := by
  induction before generalizing e with
  | nil => rfl
  | cons call before ih =>
    simp only [List.cons_append, accepted, run_cons, ih, List.append_assoc]

/-! ## What one call does -/

/-- An outcome that is not newer is discarded. -/
theorem apply_of_le (e : Engine α) (now : Nat) {outcome : Outcome}
    (h : outcome.generation ≤ e.generation) : e.apply now outcome = (.discarded, e) :=
  if_pos h

/-- A newer snapshot is taken over, and the picture is built from it. -/
theorem apply_of_ok (e : Engine α) (now : Nat) {outcome : Outcome} {snapshot : Snapshot}
    (h : e.generation < outcome.generation) (hresult : outcome.result = .ok snapshot) :
    e.apply now outcome = (.rebuilt,
      { rebuild { e with generation := outcome.generation, snapshot := some snapshot } with
        lastSuccess := some now, lastError := none }) := by
  unfold apply
  rw [if_neg (UInt64.not_le.2 h), hresult]

/-- A newer failure is recorded. -/
theorem apply_of_error (e : Engine α) (now : Nat) {outcome : Outcome} {failure : Failure}
    (h : e.generation < outcome.generation) (hresult : outcome.result = .error failure) :
    e.apply now outcome = (.failed,
      { e with generation := outcome.generation, lastError := some failure }) := by
  unfold apply
  rw [if_neg (UInt64.not_le.2 h), hresult]

/-- Building again touches nothing but the topology, its revision and the particles. -/
theorem rebuild_eq (e : Engine α) :
    ∃ topology revision field, e.rebuild = { e with topology, revision, field } := by
  unfold rebuild
  split
  · exact ⟨e.topology, e.revision, e.field, rfl⟩
  · exact ⟨_, _, _, rfl⟩

/-- A newer outcome leaves its generation behind. -/
theorem generation_apply (e : Engine α) (now : Nat) {outcome : Outcome}
    (h : e.generation < outcome.generation) :
    (e.apply now outcome).2.generation = outcome.generation := by
  cases hresult : outcome.result with
  | ok snapshot =>
    rw [apply_of_ok e now h hresult]
    obtain ⟨topology, revision, field, hbuilt⟩ :=
      rebuild_eq { e with generation := outcome.generation, snapshot := some snapshot }
    rw [hbuilt]
  | error failure => rw [apply_of_error e now h hresult]

/-- The generation is the largest one of the outcomes so far. -/
theorem toNat_generation_apply (e : Engine α) (now : Nat) (outcome : Outcome) :
    (e.apply now outcome).2.generation.toNat = max e.generation.toNat outcome.generation.toNat := by
  by_cases hnew : e.generation < outcome.generation
  · rw [generation_apply e now hnew, max_eq_right (UInt64.le_iff_toNat_le.1 (UInt64.le_of_lt hnew))]
  · have hle := UInt64.not_lt.1 hnew
    rw [apply_of_le e now hle, max_eq_left (UInt64.le_iff_toNat_le.1 hle)]

/-- A resize builds again for another layout, or does nothing. -/
theorem resize_eq (e : Engine α) (width height : α) :
    (e.resize width height).2 = e ∨
      ∃ layout, (e.resize width height).2 = rebuild { e with layout } := by
  unfold resize
  dsimp only
  split
  · exact Or.inl rfl
  · exact Or.inr ⟨_, rfl⟩

/-! ## What an engine remembers of outcomes -/

/-- What an engine holds of the outcomes that it accepted. -/
structure Memory where
  generation : UInt64
  snapshot : Option Snapshot
  lastSuccess : Option Nat
  lastError : Option Failure

/-- What a call makes of the memory, and which outcome the engine accepts by it. -/
inductive Memory.Step : Memory → Call α → Option Receipt → Memory → Prop where
  /-- A newer outcome is a success. -/
  | success {m : Memory} (now : Nat) (outcome : Outcome) (snapshot : Snapshot)
      (hnew : m.generation < outcome.generation) (hresult : outcome.result = .ok snapshot) :
      Step m (.apply now outcome) (some ⟨now, outcome⟩)
        { generation := outcome.generation, snapshot := some snapshot, lastSuccess := some now
          lastError := none }
  /-- A newer outcome is a failure. -/
  | failure {m : Memory} (now : Nat) (outcome : Outcome) (failure : Failure)
      (hnew : m.generation < outcome.generation) (hresult : outcome.result = .error failure) :
      Step m (.apply now outcome) (some ⟨now, outcome⟩)
        { m with generation := outcome.generation, lastError := some failure }
  /-- The snapshot is dropped, and what came before it is not forgotten. -/
  | teardown {m : Memory} :
      Step m .teardown none { m with generation := lastGeneration, snapshot := none }
  /-- An outcome that is not newer, or a call of another kind. -/
  | quiet {m : Memory} {call : Call α} (hcall : call ≠ .teardown) : Step m call none m

/-- What the engine remembers of outcomes. -/
def memory (e : Engine α) : Memory :=
  { generation := e.generation, snapshot := e.snapshot, lastSuccess := e.lastSuccess
    lastError := e.lastError }

theorem memory_rebuild (e : Engine α) : e.rebuild.memory = e.memory := by
  obtain ⟨topology, revision, field, h⟩ := e.rebuild_eq
  rw [h]
  rfl

theorem memory_resize (e : Engine α) (width height : α) :
    (e.resize width height).2.memory = e.memory := by
  rcases e.resize_eq width height with h | ⟨layout, h⟩
  · rw [h]
  · rw [h, memory_rebuild]
    rfl

/-- What every call does to the memory of an engine. -/
theorem memory_step (e : Engine α) (call : Call α) :
    Memory.Step e.memory call (e.receipt? call) (e.next call).memory := by
  cases call with
  | apply now outcome =>
    simp only [receipt?, next]
    by_cases hnew : e.generation < outcome.generation
    · cases hresult : outcome.result with
      | ok snapshot =>
        rw [apply_of_ok e now hnew hresult]
        -- the times are set after building again, so the lemma on the memory does not apply
        obtain ⟨topology, revision, field, hbuilt⟩ :=
          rebuild_eq { e with generation := outcome.generation, snapshot := some snapshot }
        rw [hbuilt]
        exact .success now outcome snapshot hnew hresult
      | error failure =>
        rw [apply_of_error e now hnew hresult]
        exact .failure now outcome failure hnew hresult
    · rw [apply_of_le e now (UInt64.not_lt.1 hnew)]
      exact .quiet (by simp)
  | resize width height =>
    simp only [receipt?, next, memory_resize]
    exact .quiet (by simp)
  | teardown => exact .teardown
  | _ => exact .quiet (by simp)

/-- An outcome is accepted exactly when it is newer than what the engine remembers. -/
theorem applied_iff (e : Engine α) (now : Nat) (outcome : Outcome) :
    (e.apply now outcome).1 = .rebuilt ∨ (e.apply now outcome).1 = .failed ↔
      e.generation < outcome.generation := by
  by_cases hnew : e.generation < outcome.generation
  · cases hresult : outcome.result with
    | ok snapshot => simp [apply_of_ok e now hnew hresult, hnew]
    | error failure => simp [apply_of_error e now hnew hresult, hnew]
  · simp [apply_of_le e now (UInt64.not_lt.1 hnew), hnew]

/-- An outcome is not discarded exactly when it is newer. -/
theorem ne_discarded_iff (e : Engine α) (now : Nat) (outcome : Outcome) :
    (e.apply now outcome).1 ≠ .discarded ↔ e.generation < outcome.generation := by
  rw [← applied_iff e now]
  cases (e.apply now outcome).1 <;> simp

/-! ## From calls to runs -/

/-- A law of an engine and its accepted outcomes that every call of a kind keeps holds after every
run of such calls. -/
theorem run_induction {P : Engine α → List Receipt → Prop} {Q : Call α → Prop}
    (hstep : ∀ e history call, Q call → P e history →
      P (e.next call) (history ++ (e.receipt? call).toList))
    (e : Engine α) (history : List Receipt) (calls : List (Call α))
    (hcalls : ∀ call ∈ calls, Q call) (h : P e history) :
    P (e.run calls) (history ++ e.accepted calls) := by
  induction calls generalizing e history with
  | nil =>
    rw [run_nil, accepted, List.append_nil]
    exact h
  | cons call calls ih =>
    -- what the first call makes the engine accept moves over to the history
    rw [run_cons, accepted, ← List.append_assoc]
    have hcall := hcalls call (List.mem_cons_self ..)
    exact ih (e.next call) _ (fun c hc => hcalls c (List.mem_cons_of_mem _ hc))
      (hstep e history call hcall h)

/-- A law of an engine that every call keeps holds after every run. -/
theorem run_keeps {P : Engine α → Prop} (hstep : ∀ e call, P e → P (e.next call)) {e : Engine α}
    (h : P e) (calls : List (Call α)) : P (e.run calls) :=
  run_induction (P := fun e _ => P e) (Q := fun _ => True) (fun e _ call _ he => hstep e call he) e []
    calls (fun _ _ => trivial) h

end Engine

end TrafficMap
