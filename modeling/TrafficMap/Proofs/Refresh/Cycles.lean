import Mathlib
import TrafficMap.Proofs.Refresh.History

/-!
# One cycle at a time

A cycle of the refresh loop begins, fetches and posts, and its number is one more than that of the
cycle before. `stages` reads these three stages off a log, in the order in which they happened; they
are those of the cycles 1, 2, 3 and so on, one cycle after the other, with nothing left out but the
end (`Logged.inOrder`). So no two cycles overlap, and results are posted in the order of their
numbers. What was posted is what was taken from the queue and what is still in it
(`Logged.taken_append_queue`).
-/

namespace TrafficMap.RefreshLoop

variable {σ ρ : Type} {source : RefreshSource σ ρ} {period capacity : Nat} {s₀ s s' : σ}
  {l l' : RefreshLoop ρ} {log : List Entry} {event : RefreshEvent}

/-! ## Stages -/

/-- How far a cycle has got. -/
inductive Stage where
  | begun
  | fetched
  | posted
  deriving DecidableEq

/-- The stage that an entry of a log is about, with the number of the cycle. -/
def Entry.stage? : Entry → Option (Stage × Nat)
  | made (.started number _ _) => some (.begun, number)
  | made (.fetched number) => some (.fetched, number)
  | made (.posted number) => some (.posted, number)
  | _ => none

/-- The stages on record, in order. -/
def stages (log : List Entry) : List (Stage × Nat) :=
  log.filterMap Entry.stage?

/-- The stages of one cycle. -/
def cycle (number : Nat) : List (Stage × Nat) :=
  [(.begun, number), (.fetched, number), (.posted, number)]

/-- The stages of the first cycles, one cycle after the other. -/
def cycles (count : Nat) : List (Stage × Nat) :=
  (List.range' 1 count).flatMap cycle

theorem cycles_succ (count : Nat) : cycles (count + 1) = cycles count ++ cycle (count + 1) := by
  simp [cycles, List.range'_1_concat, Nat.add_comm]

/-- The stages that the current cycle of a loop still has before it. -/
def owed (l : RefreshLoop ρ) : List (Stage × Nat) :=
  match l.phase with
  | .fetching .. => [(.fetched, l.fetches), (.posted, l.fetches)]
  | .posting .. => [(.posted, l.fetches)]
  | _ => []

theorem owed_of_isFree (h : l.isFree = true) : owed l = [] := by
  rcases isFree_iff.1 h with hphase | ⟨woken, hphase⟩ <;> rw [owed, hphase]

/-- A request owes no stage. -/
theorem owed_request : owed l.request = owed l := by
  unfold request
  split <;> simp [owed, *]

@[simp]
theorem stages_concat (log : List Entry) (entry : Entry) :
    stages (log ++ [entry]) = stages log ++ entry.stage?.toList := by
  cases h : entry.stage? <;> simp [stages, h]

/-- The stages on record and those that the current cycle still has before it are those of the
cycles so far. A loop that has stopped leaves some out at the end. -/
structure InOrder (log : List Entry) (l : RefreshLoop ρ) : Prop where
  kept : stages log <+: cycles l.fetches
  complete : l.isRunning = true → stages log ++ owed l = cycles l.fetches

/-- A loop that runs keeps the order when all stages are accounted for. -/
theorem InOrder.of_complete (h : stages log ++ owed l = cycles l.fetches) : InOrder log l where
  kept := h ▸ List.prefix_append _ _
  complete _ := h

/-- What happens outside leaves the stages alone. -/
theorem InOrder.outside {entry : Entry} (h : InOrder log l) (hentry : entry.stage? = none)
    (hfetches : l'.fetches = l.fetches) (howed : owed l' = owed l)
    (hrunning : l'.isRunning = l.isRunning) : InOrder (log ++ [entry]) l' := by
  constructor
  · simpa [hentry, hfetches] using h.kept
  · simpa [hentry, hfetches, howed, hrunning] using h.complete

/-- A step makes the next stage of the current cycle or begins the next cycle, or it stops the
loop. -/
theorem InOrder.step (h : InOrder log l) (hstep : Step source s l event s' l') :
    InOrder (log ++ [.made event]) l' := by
  have hsofar := h.complete hstep.isRunning
  -- a loop that stops adds nothing
  have hstops (hevent : event = .stopped) (hfetches : l'.fetches = l.fetches)
      (hstopped : l'.isRunning = false) : InOrder (log ++ [.made event]) l' := by
    constructor
    · simpa [hevent, Entry.stage?, hfetches] using h.kept
    · simp [hstopped]
  cases hstep with
  | cancelWait => exact hstops rfl rfl rfl
  | cancelFetch => exact hstops rfl rfl rfl
  | refused => exact hstops rfl rfl rfl
  | request hfree =>
    rw [owed_of_isFree hfree] at hsofar
    apply InOrder.of_complete
    simp [Entry.stage?, owed, cycles_succ, cycle, ← hsofar]
  | tick hfree =>
    rw [owed_of_isFree hfree] at hsofar
    apply InOrder.of_complete
    simp [Entry.stage?, owed, cycles_succ, cycle, ← hsofar]
  | skip hfree =>
    rw [owed_of_isFree hfree] at hsofar
    apply InOrder.of_complete
    simp [Entry.stage?, owed, ← hsofar]
  | wait hphase =>
    apply InOrder.of_complete
    simp [Entry.stage?, owed, ← hsofar, hphase]
  | fetched hphase =>
    apply InOrder.of_complete
    simp [Entry.stage?, owed, ← hsofar, hphase]
  | post hphase =>
    apply InOrder.of_complete
    simp [Entry.stage?, owed, ← hsofar, hphase]

/-- The stages of every history are in order. -/
theorem Logged.inOrder (h : Logged source s₀ (.ofPeriod period capacity) log s l) :
    InOrder log l := by
  induction h with
  | start =>
    apply InOrder.of_complete
    by_cases hperiod : period = 0 <;>
      simp [stages, owed, cycles, ofPeriod, hperiod]
  | add _ hentry ih =>
    cases hentry with
    | step hstep => exact ih.step (step_cases hstep)
    | request => exact ih.outside rfl (by rw [request_eq]) owed_request isRunning_request
    | _ => exact ih.outside rfl rfl rfl rfl

/-! ## Results -/

/-- The number of the result that was posted. -/
def Entry.posted? : Entry → Option Nat
  | made (.posted number) => some number
  | _ => none

/-- The numbers of the results that were taken. -/
def Entry.taken : Entry → List Nat
  | took numbers => numbers
  | _ => []

/-- The numbers of the results that were posted, in order. -/
def posted (log : List Entry) : List Nat :=
  log.filterMap Entry.posted?

/-- The numbers of the results that were taken from the queue, in order. -/
def taken (log : List Entry) : List Nat :=
  log.flatMap Entry.taken

@[simp]
theorem posted_concat (log : List Entry) (entry : Entry) :
    posted (log ++ [entry]) = posted log ++ entry.posted?.toList := by
  cases h : entry.posted? <;> simp [posted, h]

@[simp]
theorem taken_concat (log : List Entry) (entry : Entry) :
    taken (log ++ [entry]) = taken log ++ entry.taken := by
  simp [taken]

/-- The number of a cycle at its last stage. -/
def Stage.last? : Stage × Nat → Option Nat
  | (.posted, number) => some number
  | _ => none

/-- What was posted are the last stages of the cycles. -/
theorem posted_eq_filterMap_stages (log : List Entry) :
    posted log = (stages log).filterMap Stage.last? := by
  rw [posted, stages, List.filterMap_filterMap]
  refine List.filterMap_congr fun entry _ => ?_
  cases entry with
  | made event => cases event <;> rfl
  | _ => rfl

/-- Every cycle so far ends with its number. -/
theorem filterMap_cycles (count : Nat) :
    (cycles count).filterMap Stage.last? = List.range' 1 count := by
  rw [cycles, List.filterMap_flatMap]
  exact List.flatMap_singleton' _

/-- Results are posted in the order of their numbers. -/
theorem Logged.posted_eq (h : Logged source s₀ (.ofPeriod period capacity) log s l) :
    posted log = List.range' 1 (posted log).length := by
  have hposted := h.inOrder.kept.filterMap Stage.last?
  rw [filterMap_cycles, ← posted_eq_filterMap_stages] at hposted
  exact eq_range'_of_prefix hposted

/-- A step that posts a result puts it at the end of the queue. -/
theorem Step.queue (h : Step source s l event s' l') :
    l'.queue.map (·.1) = l.queue.map (·.1) ++ (Entry.made event).posted?.toList := by
  cases h <;> simp [Entry.posted?]

/-- What was posted was taken from the queue or is still in it, as long as anyone takes results. -/
theorem Logged.taken_append_queue (h : Logged source s₀ (.ofPeriod period capacity) log s l)
    (hreceiving : l.receiving = true) : taken log ++ l.queue.map (·.1) = posted log := by
  induction h with
  | start => rfl
  | add _ hentry ih =>
    cases hentry with
    | step hstep =>
      obtain ⟨-, -, -, -, hsame⟩ := (step_cases hstep).frame
      simp [(step_cases hstep).queue, Entry.taken, ← ih (hsame ▸ hreceiving)]
    | request =>
      rw [request_eq] at hreceiving ⊢
      simp [Entry.taken, Entry.posted?, ← ih hreceiving]
    | take count => simp [Entry.taken, Entry.posted?, ← ih hreceiving]
    | close => cases hreceiving
    | _ =>
      simp [Entry.taken, Entry.posted?, ← ih hreceiving, RefreshLoop.setPaused, RefreshLoop.cancel]

/-! ## Pauses -/

/-- A cycle that begins while the loop is paused was asked for: there were more requests than cycles
that were asked for before it. -/
theorem Logged.manual_of_paused {before after : List Entry} {number due : Nat} {manual : Bool}
    (h : Logged source s₀ (.ofPeriod period capacity)
      (before ++ .made (.started number manual due) :: after) s l)
    (hpaused : pausedBy before = true) :
    manual = true ∧ before.countP Entry.isManual < before.count .requested := by
  obtain ⟨s₁, l₁, s₂, l₂, hbefore, hstep, -⟩ := h.at_made
  cases hstep with
  | request _ _ hasked =>
    have hserved := hbefore.pending_le
    rw [pending_of_asked hasked, pending_ofPeriod] at hserved
    exact ⟨rfl, by omega⟩
  | tick _ _ _ _ hrunning =>
    rw [hbefore.told.paused_eq, hpaused] at hrunning
    cases hrunning

/-- Whatever happens to a loop and when: its cycles follow each other, each of them beginning after
the result of the one before was posted; results are posted with the numbers 1, 2, 3 and so on, and
go through the queue in this order; and a cycle that begins while the loop is paused was asked for,
with a request of its own. -/
theorem cycles_of_logged (h : Logged source s₀ (.ofPeriod period capacity) log s l) :
    stages log <+: cycles l.fetches ∧
      posted log = List.range' 1 (posted log).length ∧
      (.closed ∉ log → taken log ++ l.queue.map (·.1) = posted log) ∧
      ∀ before after number manual due,
        log = before ++ .made (.started number manual due) :: after → pausedBy before = true →
          manual = true ∧ before.countP Entry.isManual < before.count .requested := by
  refine ⟨h.inOrder.kept, h.posted_eq, fun hopen => ?_, ?_⟩
  · refine h.taken_append_queue ?_
    rw [← Bool.not_eq_false, h.told.receiving_iff]
    exact hopen
  · rintro before after number manual due rfl hpaused
    exact h.manual_of_paused hpaused

/-- The first cycle takes three periods, in which a refresh is asked for and the loop is paused. The
second one waits for room in the queue. A tick comes while the loop is still paused, and then the
loop is cancelled. -/
theorem cycles_of_logged_paused :
    let source : RefreshSource Unit Unit := { fetch := fun _ _ => ((), 30, ()) }
    let log : List Entry :=
      [.made (.started 1 false 0), .waited 30, .requested, .made (.fetched 1), .made (.posted 1),
        .setPaused true, .made (.started 2 true 10), .waited 30, .made (.fetched 2), .took [1],
        .made (.posted 2), .made .waited, .waited 10, .made (.skipped 70), .cancelled,
        .made .stopped]
    ∃ l, Logged source () (.ofPeriod 10 1) log () l ∧ stages log <+: cycles 2 ∧
      posted log = List.range' 1 (posted log).length ∧ [1] ++ l.queue.map (·.1) = [1, 2] ∧
      pausedBy (log.take 6) = true ∧
      (log.take 6).countP Entry.isManual < (log.take 6).count .requested := by
  intro source log
  have hfirst : Logged source () (.ofPeriod 10 1) (log.take 5) ()
      { period := 10, capacity := 1, now := 30, due := 10, fetches := 1, requested := true
        queue := [(1, ())] } :=
    .add (.add (.add (.add (.add .start (.step rfl)) (.wait 30)) .request) (.step rfl)) (.step rfl)
  have hsecond : Logged source () (.ofPeriod 10 1) (log.take 9) ()
      { period := 10, capacity := 1, now := 60, due := 10, fetches := 2, paused := true
        queue := [(1, ())], phase := .posting true () } :=
    .add (.add (.add (.add hfirst (.setPaused true)) (.step rfl)) (.wait 30)) (.step rfl)
  have htick : Logged source () (.ofPeriod 10 1) (log.take 14) ()
      { period := 10, capacity := 1, now := 70, due := 80, fetches := 2, paused := true
        queue := [(2, ())] } :=
    .add (.add (.add (.add (.add hsecond (.take 1)) (.step rfl)) (.step rfl)) (.wait 10))
      (.step rfl)
  have h : Logged source () (.ofPeriod 10 1) log ()
      { period := 10, capacity := 1, now := 70, due := 80, fetches := 2, paused := true
        cancelled := true, queue := [(2, ())], phase := .stopped } :=
    .add (.add htick .cancel) (.step rfl)
  obtain ⟨hstages, hposted, hqueue, hpaused⟩ := cycles_of_logged h
  exact ⟨_, h, hstages, hposted, hqueue (by decide), rfl,
    (hpaused (log.take 6) (log.drop 7) 2 true 10 rfl rfl).2⟩

end TrafficMap.RefreshLoop
