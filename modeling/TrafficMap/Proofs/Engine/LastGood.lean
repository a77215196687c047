import Mathlib
import TrafficMap.Proofs.Engine.Run

/-!
# The last good picture stays

A failed refresh, and one that comes too late, leave the picture as it is. This is more than that
the next frame is the same: `SamePicture` says that two engines differ at most in what they know of
the last outcome, and as long as no further outcome arrives, two such engines answer every call
alike and stay so (`SamePicture.run`, `SamePicture.replies`). `last_good_picture` puts this together
with what an outcome does to an engine.
-/

namespace TrafficMap.Engine

variable {α : Type}

/-- Two engines that show the same and go on alike: they differ at most in the generation and in the
failure of the last outcome. -/
structure SamePicture (e e' : Engine α) : Prop where
  topology : e'.topology = e.topology
  revision : e'.revision = e.revision
  particles : e'.field.particles = e.field.particles
  generator : e'.field.generator = e.field.generator
  snapshot : e'.snapshot = e.snapshot
  layout : e'.layout = e.layout
  icons : e'.icons = e.icons
  iconDir : e'.iconDir = e.iconDir
  speed : e'.speed = e.speed
  lastSuccess : e'.lastSuccess = e.lastSuccess

theorem samePicture_with (e : Engine α) (generation : UInt64) (lastError : Option Failure) :
    SamePicture e { e with generation, lastError } :=
  ⟨rfl, rfl, rfl, rfl, rfl, rfl, rfl, rfl, rfl, rfl⟩

/-- Engines that show the same differ in two parts. -/
theorem SamePicture.exists_eq {e e' : Engine α} (h : SamePicture e e') :
    ∃ generation lastError, e' = { e with generation, lastError } := by
  have hfield : e'.field = e.field := by
    rw [show e'.field = ⟨e'.field.particles, e'.field.generator⟩ from rfl, h.particles, h.generator]
  refine ⟨e'.generation, e'.lastError, ?_⟩
  rw [← h.topology, ← h.revision, ← hfield, ← h.snapshot, ← h.layout, ← h.icons, ← h.iconDir,
    ← h.speed, ← h.lastSuccess]

variable [Scalar α]

/-- Building again neither reads nor changes what the engine knows of the last outcome. -/
theorem rebuild_with (e : Engine α) (generation : UInt64) (lastError : Option Failure) :
    rebuild { e with generation, lastError } = { e.rebuild with generation, lastError } := by
  unfold rebuild
  dsimp only
  split <;> rfl

/-- A resize tells and does the same whatever the engine knows of the last outcome. -/
theorem resize_with (e : Engine α) (width height : α) (generation : UInt64)
    (lastError : Option Failure) :
    resize { e with generation, lastError } width height
      = ((e.resize width height).1, { (e.resize width height).2 with generation, lastError }) := by
  unfold resize
  dsimp only
  split
  · rfl
  · rw [rebuild_with { e with layout := Layout.ofSize width height }]

namespace SamePicture

/-- Two engines with the same picture have it after every call that brings no outcome. -/
theorem next {e e' : Engine α} (h : SamePicture e e') (call : Call α)
    (hcall : call.isApply = false) : SamePicture (e.next call) (e'.next call) := by
  obtain ⟨generation, lastError, rfl⟩ := h.exists_eq
  cases call with
  | apply now outcome => exact absurd hcall (by simp [Call.isApply])
  | resize width height =>
    simp only [Engine.next, resize_with]
    exact samePicture_with _ _ _
  | advance nanos => exact samePicture_with (e.advance nanos) _ _
  | setSpeed speed => exact samePicture_with (e.setSpeed speed) _ _
  | applyIcon kind result => exact samePicture_with (e.applyIcon kind result) _ _
  | withParticles field => exact samePicture_with (e.withParticles field) _ _
  | teardown => exact samePicture_with e.teardown _ _
  | render => exact samePicture_with e _ _

/-- Two engines with the same picture answer every call that brings no outcome alike. -/
theorem reply {e e' : Engine α} (h : SamePicture e e') (call : Call α)
    (hcall : call.isApply = false) : e'.reply call = e.reply call := by
  obtain ⟨generation, lastError, rfl⟩ := h.exists_eq
  cases call with
  | apply now outcome => exact absurd hcall (by simp [Call.isApply])
  | resize width height => simp only [Engine.reply, resize_with]
  | _ => rfl

/-- Engines that show the same still do so after any calls without an outcome. -/
theorem run {e e' : Engine α} (h : SamePicture e e') (calls : List (Call α))
    (hcalls : ∀ call ∈ calls, call.isApply = false) : SamePicture (e.run calls) (e'.run calls) := by
  -- both engines change, so the induction is over all pairs with the same picture
  induction calls generalizing e e' with
  | nil => exact h
  | cons call calls ih =>
    have hcall := hcalls call (List.mem_cons_self ..)
    exact ih (h.next call hcall) fun c hc => hcalls c (List.mem_cons_of_mem _ hc)

/-- And they give the same replies. -/
theorem replies {e e' : Engine α} (h : SamePicture e e') (calls : List (Call α))
    (hcalls : ∀ call ∈ calls, call.isApply = false) : e'.replies calls = e.replies calls := by
  induction calls generalizing e e' with
  | nil => rfl
  | cons call calls ih =>
    have hcall := hcalls call (List.mem_cons_self ..)
    rw [Engine.replies, Engine.replies, h.reply call hcall,
      ih (h.next call hcall) fun c hc => hcalls c (List.mem_cons_of_mem _ hc)]

end SamePicture

/-- A failed outcome, or one that is not newer than the last, leaves the picture as it is: one that
is not newer changes nothing at all, a newer failure only the generation and the last failure. As
long as no further outcome arrives, all particles and all frames are those of an engine that never
saw it. -/
theorem last_good_picture (e : Engine α) (now : Nat) (outcome : Outcome)
    (h : outcome.generation ≤ e.generation ∨ ∃ failure, outcome.result = .error failure) :
    (outcome.generation ≤ e.generation → e.apply now outcome = (.discarded, e)) ∧
      (∀ failure, e.generation < outcome.generation → outcome.result = .error failure →
        e.apply now outcome = (.failed,
          { e with generation := outcome.generation, lastError := some failure })) ∧
      SamePicture e (e.apply now outcome).2 ∧
      ∀ calls : List (Call α), (∀ call ∈ calls, call.isApply = false) →
        ((e.apply now outcome).2.run calls).field = (e.run calls).field ∧
          (e.apply now outcome).2.replies calls = e.replies calls := by
  have hsame : SamePicture e (e.apply now outcome).2 := by
    by_cases hnew : e.generation < outcome.generation
    · obtain ⟨failure, hresult⟩ := h.resolve_left (UInt64.not_le.2 hnew)
      rw [apply_of_error e now hnew hresult]
      exact samePicture_with _ _ _
    · rw [apply_of_le e now (UInt64.not_lt.1 hnew)]
      exact samePicture_with e e.generation e.lastError
  refine ⟨apply_of_le e now, fun failure hnew => apply_of_error e now hnew, hsame, ?_⟩
  intro calls hcalls
  refine ⟨?_, hsame.replies calls hcalls⟩
  -- at the end the engines still differ in two parts only, and particles are neither
  obtain ⟨generation, lastError, hrun⟩ := (hsame.run calls hcalls).exists_eq
  rw [hrun]

/-- A timeout after a good refresh. -/
theorem last_good_picture_timeout :
    let e : Engine Float := (fresh 1200.0 700.0 .standard (.ofSeed 1)).run [.apply 0 ⟨1, .ok {}⟩]
    let timeout : Outcome := ⟨2, .error .timeout⟩
    e.apply 5000 timeout = (.failed, { e with generation := 2, lastError := some .timeout }) ∧
      SamePicture e (e.apply 5000 timeout).2 ∧
      (e.apply 5000 timeout).2.replies [.advance 16666667, .resize 600.0 400.0, .render]
        = e.replies [.advance 16666667, .resize 600.0 400.0, .render] := by
  intro e timeout
  have hnew : e.generation < timeout.generation := by decide
  obtain ⟨-, hfailed, hsame, hcalls⟩ :=
    last_good_picture e 5000 timeout (Or.inr ⟨.timeout, rfl⟩)
  refine ⟨hfailed .timeout hnew rfl, hsame, (hcalls _ ?_).2⟩
  simp [Call.isApply]

end TrafficMap.Engine
