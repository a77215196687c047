import Mathlib
import TrafficMap.Proofs.Refresh.Step

/-!
# Histories of the loop

Between two steps of the refresh loop anything may happen to it from outside, at any time and in any
order. `RefreshLoop.Logged` relates the log of all that happened to the loop that it left behind.
The log alone tells how late it is (`Logged.clock`) and whether the loop is paused (`Logged.told`),
and there are never more requests at work than were made (`Logged.pending_le`). A history that is
cut in two is two histories (`Logged.of_append`).
-/

namespace TrafficMap.RefreshLoop

variable {σ ρ : Type}

/-! ## Logs -/

/-- What can happen to a loop. -/
inductive Entry where
  /-- The loop makes a step. -/
  | made (event : RefreshEvent)
  | waited (millis : Nat)
  /-- A refresh is asked for. -/
  | requested
  | setPaused (paused : Bool)
  | cancelled
  /-- Results are taken from the queue; their numbers. -/
  | took (numbers : List Nat)
  /-- The receiver of the results goes away. -/
  | closed
  deriving DecidableEq

/-- Something happens to a loop and its source. -/
inductive Happens (source : RefreshSource σ ρ) (s : σ) (l : RefreshLoop ρ) :
    Entry → σ → RefreshLoop ρ → Prop where
  | step {s' : σ} {l' : RefreshLoop ρ} {event : RefreshEvent}
      (hstep : l.step source s = some (event, s', l')) : Happens source s l (.made event) s' l'
  | wait (millis : Nat) : Happens source s l (.waited millis) s { l with now := l.now + millis }
  | request : Happens source s l .requested s l.request
  | setPaused (paused : Bool) : Happens source s l (.setPaused paused) s (l.setPaused paused)
  | cancel : Happens source s l .cancelled s l.cancel
  | take (count : Nat) :
      Happens source s l (.took ((l.queue.take count).map (·.1))) s
        { l with queue := l.queue.drop count }
  | close : Happens source s l .closed s l.close

/-- All that happened to a loop between two states, in order. -/
inductive Logged (source : RefreshSource σ ρ) (s₀ : σ) (l₀ : RefreshLoop ρ) :
    List Entry → σ → RefreshLoop ρ → Prop where
  | start : Logged source s₀ l₀ [] s₀ l₀
  | add {log : List Entry} {entry : Entry} {s s' : σ} {l l' : RefreshLoop ρ}
      (h : Logged source s₀ l₀ log s l) (hentry : Happens source s l entry s' l') :
      Logged source s₀ l₀ (log ++ [entry]) s' l'

/-! ## What a log tells -/

namespace Entry

/-- The time that goes by. -/
def millis : Entry → Nat
  | waited millis => millis
  | _ => 0

/-- What the pause is set to. -/
def paused? : Entry → Option Bool
  | setPaused paused => some paused
  | _ => none

/-- Whether the loop makes a step. -/
def isStep : Entry → Bool
  | made _ => true
  | _ => false

/-- Whether a fetch begins. -/
def isStart : Entry → Bool
  | made (.started ..) => true
  | _ => false

/-- Whether a fetch begins that was asked for. -/
def isManual : Entry → Bool
  | made (.started _ manual _) => manual
  | _ => false

end Entry

/-- The time that went by. -/
def elapsed (log : List Entry) : Nat :=
  (log.map Entry.millis).sum

/-- Whether a loop with a log is paused: as it was told last, and not if it never was. -/
def pausedBy (log : List Entry) : Bool :=
  (log.filterMap Entry.paused?).getLast?.getD false

/-- The end of a log, after the last fetch that began. -/
def sinceStart (log : List Entry) : List Entry :=
  log.rtakeWhile (!·.isStart)

@[simp]
theorem elapsed_append (log log' : List Entry) :
    elapsed (log ++ log') = elapsed log + elapsed log' := by
  simp [elapsed]

@[simp]
theorem elapsed_cons (entry : Entry) (log : List Entry) :
    elapsed (entry :: log) = entry.millis + elapsed log := by
  simp [elapsed]

@[simp]
theorem elapsed_nil : elapsed [] = 0 := rfl

@[simp]
theorem pausedBy_concat (log : List Entry) (entry : Entry) :
    pausedBy (log ++ [entry]) = entry.paused?.getD (pausedBy log) := by
  cases h : entry.paused? <;> simp [pausedBy, h]

@[simp]
theorem sinceStart_concat (log : List Entry) (entry : Entry) :
    sinceStart (log ++ [entry]) = if entry.isStart then [] else sinceStart log ++ [entry] := by
  cases h : entry.isStart <;> simp [sinceStart, h]

/-- No fetch began, and everything happened since. -/
theorem sinceStart_of_countP {log : List Entry} (h : log.countP Entry.isStart = 0) :
    sinceStart log = log := by
  rw [sinceStart, List.rtakeWhile_eq_self_iff]
  simpa [List.countP_eq_zero] using h

/-- A loop is as its log tells. -/
structure Told (period : Nat) (log : List Entry) (l : RefreshLoop ρ) : Prop where
  paused_eq : l.paused = pausedBy log
  cancelled_iff : l.cancelled = true ↔ .cancelled ∈ log
  receiving_iff : l.receiving = false ↔ .closed ∈ log
  /-- A loop stops for a reason, or it never ran. -/
  stopped : l.isRunning = false →
    (period = 0 ∧ log.countP Entry.isStep = 0) ∨ .cancelled ∈ log ∨ .closed ∈ log

variable {source : RefreshSource σ ρ} {period capacity : Nat} {s₀ s s' : σ}
  {l₀ l l' : RefreshLoop ρ} {log before after : List Entry} {entry : Entry} {event : RefreshEvent}

/-! ## Cutting histories -/

/-- What happened last happened to a loop with the log before it. -/
theorem Logged.of_concat (h : Logged source s₀ l₀ (log ++ [entry]) s' l') :
    ∃ s l, Logged source s₀ l₀ log s l ∧ Happens source s l entry s' l' := by
  generalize hlog : log ++ [entry] = log' at h
  cases h with
  | start => simp at hlog
  | add h hentry =>
    obtain ⟨rfl, hlast⟩ := List.append_inj' hlog rfl
    cases hlast
    exact ⟨_, _, h, hentry⟩

/-- A history is cut in two. -/
theorem Logged.of_append (h : Logged source s₀ l₀ (before ++ after) s l) :
    ∃ s₁ l₁, Logged source s₀ l₀ before s₁ l₁ ∧ Logged source s₁ l₁ after s l := by
  induction after using List.reverseRecOn generalizing s l with
  | nil => exact ⟨s, l, List.append_nil before ▸ h, .start⟩
  | append_singleton after entry ih =>
    rw [← List.append_assoc] at h
    obtain ⟨s₂, l₂, hsofar, hentry⟩ := h.of_concat
    obtain ⟨s₁, l₁, hbefore, hafter⟩ := ih hsofar
    exact ⟨s₁, l₁, hbefore, hafter.add hentry⟩

/-- A history is cut at a step. -/
theorem Logged.at_made (h : Logged source s₀ l₀ (before ++ .made event :: after) s l) :
    ∃ s₁ l₁ s₂ l₂, Logged source s₀ l₀ before s₁ l₁ ∧ Step source s₁ l₁ event s₂ l₂ ∧
      Logged source s₂ l₂ after s l := by
  rw [List.append_cons] at h
  obtain ⟨s₂, l₂, hsofar, hafter⟩ := h.of_append
  obtain ⟨s₁, l₁, hbefore, hmade⟩ := hsofar.of_concat
  cases hmade with
  | step hstep => exact ⟨s₁, l₁, s₂, l₂, hbefore, step_cases hstep, hafter⟩

/-! ## The loop that a history leaves behind -/

/-- What a step leaves as it is. -/
theorem Step.frame (h : Step source s l event s' l') :
    l'.period = l.period ∧ l'.now = l.now ∧ l'.paused = l.paused ∧ l'.cancelled = l.cancelled ∧
      l'.receiving = l.receiving := by
  cases h <;> exact ⟨rfl, rfl, rfl, rfl, rfl⟩

/-- A step stops the loop only when it was told to stop or nobody takes results any more. -/
theorem Step.stopped (h : Step source s l event s' l') (hstopped : l'.isRunning = false) :
    l.cancelled = true ∨ l.receiving = false := by
  cases h with
  | cancelWait _ hcancelled => exact Or.inl hcancelled
  | cancelFetch _ hcancelled => exact Or.inl hcancelled
  | refused _ hreceiving => exact Or.inr hreceiving
  | _ => cases hstopped

/-- A loop that has stopped does not run again. -/
theorem Happens.isRunning (h : Happens source s l entry s' l') (hrunning : l'.isRunning = true) :
    l.isRunning = true := by
  cases h with
  | step hstep => exact (step_cases hstep).isRunning
  | request => exact isRunning_request ▸ hrunning
  | _ => exact hrunning

theorem Logged.isRunning (h : Logged source s₀ l₀ log s l) (hrunning : l.isRunning = true) :
    l₀.isRunning = true := by
  induction h with
  | start => exact hrunning
  | add _ hentry ih => exact ih (hentry.isRunning hrunning)

/-- The period stays, and the clock goes on by the time that goes by. -/
theorem Happens.clock (h : Happens source s l entry s' l') :
    l'.period = l.period ∧ l'.now = l.now + entry.millis := by
  cases h with
  | step hstep =>
    obtain ⟨hperiod, hnow, -⟩ := (step_cases hstep).frame
    exact ⟨hperiod, hnow⟩
  | request =>
    rw [request_eq]
    exact ⟨rfl, rfl⟩
  | _ => exact ⟨rfl, rfl⟩

theorem Logged.clock (h : Logged source s₀ l₀ log s l) :
    l.period = l₀.period ∧ l.now = l₀.now + elapsed log := by
  induction h with
  | start => exact ⟨rfl, rfl⟩
  | add _ hentry ih =>
    obtain ⟨hperiod, hnow⟩ := hentry.clock
    exact ⟨hperiod.trans ih.1, by simp [hnow, ih.2, Nat.add_assoc]⟩

/-- A step of the loop is on record. -/
theorem Told.step (htold : Told period log l) (h : Step source s l event s' l') :
    Told period (log ++ [.made event]) l' := by
  obtain ⟨-, -, hpaused, hcancelled, hreceiving⟩ := h.frame
  constructor
  · simp [hpaused, htold.paused_eq, Entry.paused?]
  · simp [hcancelled, htold.cancelled_iff]
  · simp [hreceiving, htold.receiving_iff]
  · intro hstopped
    refine Or.inr ((h.stopped hstopped).imp ?_ ?_)
    · exact fun hcancelled => List.mem_append_left _ (htold.cancelled_iff.1 hcancelled)
    · exact fun hclosed => List.mem_append_left _ (htold.receiving_iff.1 hclosed)

/-- A loop is as its log tells. -/
theorem Logged.told (h : Logged source s₀ (.ofPeriod period capacity) log s l) :
    Told period log l := by
  induction h with
  | start =>
    constructor <;> simp [ofPeriod, pausedBy, RefreshLoop.isRunning]
    by_cases h : period = 0 <;> simp [h]
  | add _ hentry ih =>
    cases hentry with
    | step hstep => exact ih.step (step_cases hstep)
    | request =>
      obtain ⟨hpaused, hcancelled, hreceiving, hstopped⟩ := ih
      rw [← isRunning_request] at hstopped
      rw [request_eq] at hstopped ⊢
      constructor <;> simp_all [Entry.paused?, Entry.isStep]
    | _ =>
      obtain ⟨hpaused, hcancelled, hreceiving, hstopped⟩ := ih
      constructor <;>
        simp_all [Entry.paused?, Entry.isStep, RefreshLoop.isRunning, RefreshLoop.setPaused,
          RefreshLoop.cancel, RefreshLoop.close]

/-- Every fetch that begins is numbered. -/
theorem Happens.fetches_eq (h : Happens source s l entry s' l') :
    l'.fetches = l.fetches + [entry].countP Entry.isStart := by
  cases h with
  | step hstep => cases step_cases hstep <;> rfl
  | request =>
    rw [request_eq]
    rfl
  | _ => rfl

theorem Logged.fetches_eq (h : Logged source s₀ l₀ log s l) :
    l.fetches = l₀.fetches + log.countP Entry.isStart := by
  induction h with
  | start => rfl
  | add _ hentry ih =>
    rw [List.countP_append, ← Nat.add_assoc, ← ih]
    exact hentry.fetches_eq

/-! ## Pending requests -/

/-- Only a fetch is asked for. -/
theorem Entry.isStart_of_isManual (h : entry.isManual = true) : entry.isStart = true := by
  unfold isManual at h
  split at h
  · rfl
  · cases h

/-- Whether a request woke the loop, which did not begin to fetch yet. -/
def woken (l : RefreshLoop ρ) : Bool :=
  match l.phase with
  | .waiting woken => woken
  | _ => false

/-- The number of requests that the loop has still to serve. -/
def pending (l : RefreshLoop ρ) : Nat :=
  l.requested.toNat + l.woken.toNat

theorem pending_of_not_asked (h : l.asked = false) : l.pending = l.requested.toNat := by
  unfold asked at h
  unfold pending woken
  cases hphase : l.phase <;> simp_all

theorem pending_of_asked (h : l.asked = true) : l.pending = l.answered.requested.toNat + 1 := by
  unfold asked at h
  unfold pending woken answered
  cases hphase : l.phase <;> simp_all

theorem pending_ofPeriod : (ofPeriod period capacity : RefreshLoop ρ).pending = 0 := by
  unfold ofPeriod pending woken
  split <;> simp_all

/-- A loop that was asked for a refresh has it to serve, and at most one more than before. -/
theorem pending_request : 0 < l.request.pending ∧ l.request.pending ≤ l.pending + 1 := by
  unfold request
  split
  · next hphase => simp [pending, woken, hphase]
  · have hkept := l.requested.toNat_le
    simp [pending, woken]
    omega

/-- A step serves a request if the fetch that it begins was asked for. Nothing else takes a request
away but the end of the loop. -/
theorem Step.pending (h : Step source s l event s' l') :
    l'.pending + [.made event].countP Entry.isManual ≤ l.pending ∧
      (l'.isRunning = true →
        l'.pending + [.made event].countP Entry.isManual = l.pending) := by
  cases h with
  | request _ _ hasked =>
    rw [pending_of_asked hasked]
    exact ⟨Nat.le_refl _, fun _ => rfl⟩
  | skip _ _ hasked =>
    rw [pending_of_not_asked hasked]
    exact ⟨Nat.le_refl _, fun _ => rfl⟩
  | tick _ _ hasked =>
    rw [pending_of_not_asked hasked]
    exact ⟨Nat.le_refl _, fun _ => rfl⟩
  | _ => simp [RefreshLoop.pending, woken, Entry.isManual, RefreshLoop.isRunning, *]

/-- There are no more requests to serve than there were and than are made. -/
theorem Happens.pending_le (h : Happens source s l entry s' l') :
    l'.pending + [entry].countP Entry.isManual ≤ l.pending + [entry].count .requested := by
  cases h with
  | step hstep => exact (step_cases hstep).pending.1
  | request => exact pending_request.2
  | _ => exact Nat.le_refl _

/-- The fetches that were asked for and the requests that are pending are no more than the requests
that were made and those that were pending before. -/
theorem Logged.pending_le (h : Logged source s₀ l₀ log s l) :
    log.countP Entry.isManual + l.pending ≤ l₀.pending + log.count .requested := by
  induction h with
  | start => simp
  | add _ hentry ih =>
    have hlast := hentry.pending_le
    rw [List.countP_append, List.count_append]
    omega

/-- A request is pending when one was made since the last fetch began. -/
theorem Logged.pending_pos (h : Logged source s₀ l₀ log s l) (hrunning : l.isRunning = true)
    (hrequested : .requested ∈ sinceStart log) : 0 < l.pending := by
  induction h with
  | start => simp [sinceStart] at hrequested
  | add _ hentry ih =>
    cases hentry with
    | request => exact pending_request.1
    | step hstep =>
      have hstep := step_cases hstep
      rw [sinceStart_concat] at hrequested
      split at hrequested
      · cases hrequested
      · -- a step that begins no fetch serves nothing
        next hstart =>
        have hpending := ih hstep.isRunning (by simpa using hrequested)
        rw [← hstep.pending.2 hrunning] at hpending
        simpa [mt Entry.isStart_of_isManual hstart] using hpending
    | _ => exact ih hrunning (by simpa [Entry.isStart] using hrequested)

end TrafficMap.RefreshLoop
