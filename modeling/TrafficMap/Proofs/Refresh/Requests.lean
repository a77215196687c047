import Mathlib
import TrafficMap.Proofs.Refresh.History

/-!
# Requests are neither lost nor multiplied

While a request is pending, the refresh loop ends the cycle that runs and begins one that was asked
for, and does nothing else (`RefreshLoop.Step.of_pending`). Requests that are made during a cycle
are served together by the next one (`RefreshLoop.Logged.together`), and after a cycle that was
asked for the clock has to wait for a full period (`RefreshLoop.Logged.period_le`).
-/

namespace TrafficMap.RefreshLoop

variable {σ ρ : Type} {source : RefreshSource σ ρ} {period capacity : Nat} {s₀ s s' : σ}
  {l₀ l l' : RefreshLoop ρ} {log before after : List Entry} {entry : Entry} {event : RefreshEvent}

/-! ## Pending requests -/

/-- A loop does not wait for a request while one is kept. -/
def IsAlert (l : RefreshLoop ρ) : Prop :=
  l.phase = .waiting false → l.requested = false

theorem isAlert_ofPeriod : (ofPeriod period capacity : RefreshLoop ρ).IsAlert := by
  intro hphase
  rfl

/-- An alert loop that is not busy knows of the request that it has to serve. -/
theorem IsAlert.asked (halert : l.IsAlert) (hfree : l.isFree = true) (hpending : 0 < l.pending) :
    l.asked = true := by
  rw [← Bool.not_eq_false]
  intro hasked
  rw [pending_of_not_asked hasked] at hpending
  rcases isFree_iff.1 hfree with hphase | ⟨woken, hphase⟩
  · rw [RefreshLoop.asked, hphase] at hasked
    simp [hasked] at hpending
  · rw [RefreshLoop.asked, hphase] at hasked
    simp [halert (hasked ▸ hphase)] at hpending

/-- A loop looks for a request before it waits for one. -/
theorem Step.isAlert (h : Step source s l event s' l') : l'.IsAlert := by
  cases h with
  | wait hphase _ hasked =>
    rw [RefreshLoop.asked, hphase] at hasked
    exact fun _ => hasked
  | _ => exact fun hphase => nomatch hphase

theorem Happens.isAlert (h : Happens source s l entry s' l') (halert : l.IsAlert) : l'.IsAlert := by
  cases h with
  | step hstep => exact (step_cases hstep).isAlert
  | request =>
    unfold RefreshLoop.request
    split
    · -- it is woken
      exact fun hphase => nomatch hphase
    · next hphase => exact fun hwaiting => absurd hwaiting hphase
  | _ => exact halert

theorem Logged.isAlert (h : Logged source s₀ l₀ log s l) (halert : l₀.IsAlert) : l.IsAlert := by
  induction h with
  | start => exact halert
  | add _ hentry ih => exact hentry.isAlert ih

/-- The number of steps to the end of the cycle that runs. -/
def stepsLeft (l : RefreshLoop ρ) : Nat :=
  match l.phase with
  | .fetching .. => 2
  | .posting .. => 1
  | _ => 0

theorem stepsLeft_le (l : RefreshLoop ρ) : l.stepsLeft ≤ 2 := by
  unfold stepsLeft
  split <;> decide

/-- Whether the loop has to wait for the end of a fetch or for room in the queue. -/
def isHeld (l : RefreshLoop ρ) : Prop :=
  match l.phase with
  | .fetching _ finish _ => l.now < finish
  | .posting .. => l.capacity ≤ l.queue.length
  | _ => False

/-- With a request to serve the loop begins the cycle that was asked for, or goes on with the one
that runs, or stops. -/
theorem Step.of_pending (h : Step source s l event s' l') (halert : l.IsAlert)
    (hpending : 0 < l.pending) :
    event = .started (l.fetches + 1) true l.due ∨
      (l'.fetches = l.fetches ∧ l'.pending = l.pending ∧ 1 + l'.stepsLeft = l.stepsLeft) ∨
      l'.isRunning = false := by
  cases h with
  | cancelWait => exact Or.inr (Or.inr rfl)
  | cancelFetch => exact Or.inr (Or.inr rfl)
  | refused => exact Or.inr (Or.inr rfl)
  | request => exact Or.inl rfl
  -- a tick is looked at only when nothing was asked for
  | skip hfree _ hasked => cases (halert.asked hfree hpending).symm.trans hasked
  | tick hfree _ hasked => cases (halert.asked hfree hpending).symm.trans hasked
  | wait hphase _ hasked =>
    cases (halert.asked (isFree_iff.2 (Or.inl hphase)) hpending).symm.trans hasked
  | fetched hphase =>
    exact Or.inr (Or.inl (by simp [RefreshLoop.pending, woken, stepsLeft, hphase]))
  | post hphase =>
    exact Or.inr (Or.inl (by simp [RefreshLoop.pending, woken, stepsLeft, hphase]))

/-- A loop with a request to serve makes a step unless it has to wait for the cycle that runs. -/
theorem isHeld_of_pending (halert : l.IsAlert) (hpending : 0 < l.pending)
    (hrunning : l.isRunning = true) (h : l.step source s = none) : l.isHeld := by
  unfold step at h
  cases hphase : l.phase with
  | idle => simp [hphase] at h
  | waiting woken =>
    simp only [hphase] at h
    have hasked := halert.asked (isFree_iff.2 (Or.inr ⟨woken, hphase⟩)) hpending
    cases hasked.symm.trans (choose_eq_none_iff.1 h).2.1
  | fetching manual finish result =>
    simp only [hphase] at h
    simp only [isHeld, hphase]
    grind
  | posting manual result =>
    simp only [hphase] at h
    simp only [isHeld, hphase]
    grind
  | stopped => simp [isRunning, hphase] at hrunning

theorem stepsLeft_request : l.request.stepsLeft = l.stepsLeft := by
  unfold request
  split <;> simp [stepsLeft, *]

/-- With a request to serve the next cycle is begun because it was asked for, or it is one step
nearer, and the request is still there. -/
theorem Happens.of_pending (h : Happens source s l entry s' l') (halert : l.IsAlert)
    (hpending : 0 < l.pending) (hrunning : l'.isRunning = true) :
    (∃ due, entry = .made (.started (l.fetches + 1) true due)) ∨
      (l'.fetches = l.fetches ∧ 0 < l'.pending ∧
        [entry].countP Entry.isStep + l'.stepsLeft = l.stepsLeft) := by
  cases h with
  | step hstep =>
    have hstep := step_cases hstep
    rcases hstep.of_pending halert hpending with rfl | ⟨hfetches, hkept, hnearer⟩ | hstopped
    · exact Or.inl ⟨l.due, rfl⟩
    · exact Or.inr ⟨hfetches, hkept ▸ hpending, hnearer⟩
    · cases hrunning.symm.trans hstopped
  | request =>
    rw [stepsLeft_request]
    exact Or.inr ⟨by rw [request_eq], pending_request.1, Nat.zero_add _⟩
  | _ => exact Or.inr ⟨rfl, hpending, Nat.zero_add _⟩

/-- With a request to serve the next cycle was begun because it was asked for, or the loop is on the
way there. -/
theorem Logged.of_pending (h : Logged source s₀ l₀ log s l) (halert : l₀.IsAlert)
    (hpending : 0 < l₀.pending) (hrunning : l.isRunning = true) :
    (∃ due, .made (.started (l₀.fetches + 1) true due) ∈ log) ∨
      (l.fetches = l₀.fetches ∧ 0 < l.pending ∧
        log.countP Entry.isStep + l.stepsLeft = l₀.stepsLeft) := by
  induction h with
  | start => exact Or.inr ⟨rfl, hpending, by simp⟩
  | add h hentry ih =>
    rcases ih (hentry.isRunning hrunning) with ⟨due, hserved⟩ | ⟨hfetches, hkept, hsteps⟩
    · exact Or.inl ⟨due, List.mem_append_left _ hserved⟩
    · rcases hentry.of_pending (h.isAlert halert) hkept hrunning with
        ⟨due, rfl⟩ | ⟨hfetches', hkept', hsteps'⟩
      · exact Or.inl ⟨due, by simp [hfetches]⟩
      · refine Or.inr ⟨hfetches'.trans hfetches, hkept', ?_⟩
        rw [List.countP_append]
        omega

/-- A cycle that begins with a request to serve was asked for. -/
theorem Step.manual_of_pending {number due : Nat} {manual : Bool}
    (h : Step source s l (.started number manual due) s' l') (halert : l.IsAlert)
    (hpending : 0 < l.pending) : manual = true := by
  cases h with
  | request => rfl
  | tick hfree _ hasked => cases (halert.asked hfree hpending).symm.trans hasked

/-- A cycle begins because it was asked for only with a request to serve. -/
theorem Step.pending_of_manual {number due : Nat}
    (h : Step source s l (.started number true due) s' l') : 0 < l.pending := by
  cases h with
  | request _ _ hasked =>
    rw [pending_of_asked hasked]
    exact Nat.succ_pos _

/-! ## Requests during a cycle -/

theorem pending_le_one (hphase : l.phase = .idle) : l.pending ≤ 1 := by
  simp [pending, woken, hphase, Bool.toNat_le]

/-- A loop that is about to look for something to do is so until it makes a step. -/
theorem Logged.idle (h : Logged source s₀ l₀ log s l) (hphase : l₀.phase = .idle)
    (hsteps : log.countP Entry.isStep = 0) : l.phase = .idle := by
  induction h with
  | start => exact hphase
  | add _ hentry ih =>
    rw [List.countP_append, Nat.add_eq_zero_iff] at hsteps
    cases hentry with
    | step => simp [Entry.isStep] at hsteps
    | request =>
      have hsofar := ih hsteps.1
      rw [RefreshLoop.request, hsofar]
    | _ => exact ih hsteps.1

/-- A cycle has the next number. -/
theorem Step.number_eq {number due : Nat} {manual : Bool}
    (h : Step source s l (.started number manual due) s' l') :
    number = l.fetches + 1 ∧ l'.fetches = number := by
  cases h <;> exact ⟨rfl, rfl⟩

/-- A request to serve makes the loop begin the next cycle at once, and then there is none any
more. -/
theorem Logged.next_of_pending {due : Nat} {manual : Bool} (h : Logged source s₀ l₀ log s l)
    (hphase : l₀.phase = .idle) (hpending : 0 < l₀.pending)
    (hstep : Step source s l (.started (l₀.fetches + 1) manual due) s' l') :
    manual = true ∧ log.countP Entry.isStep = 0 ∧ l'.pending = 0 := by
  have halert₀ : l₀.IsAlert := by
    intro hwaiting
    cases hphase.symm.trans hwaiting
  have hnumber := hstep.number_eq.1
  rcases h.of_pending halert₀ hpending hstep.isRunning with ⟨due', hserved⟩ | ⟨-, hkept, hsteps⟩
  · -- another cycle would have had the number
    have hstarted : 0 < log.countP Entry.isStart := List.countP_pos_iff.2 ⟨_, hserved, rfl⟩
    have hfetches := h.fetches_eq
    omega
  · obtain rfl := hstep.manual_of_pending (h.isAlert halert₀) hkept
    have hnone : l₀.stepsLeft = 0 := by rw [stepsLeft, hphase]
    have hsteps : log.countP Entry.isStep = 0 := by omega
    -- the loop is still about to look, so all that it has is the one request that it takes up
    have hone := pending_le_one (h.idle hphase hsteps)
    have hserved : l'.pending + 1 ≤ l.pending := hstep.pending.1
    exact ⟨rfl, hsteps, by omega⟩

/-- Without a request to serve, the next cycle is begun because it was asked for if a request is
made until then. -/
theorem Logged.next_iff {due : Nat} {manual : Bool} (h : Logged source s₀ l₀ log s l)
    (halert : l₀.IsAlert) (hpending : l₀.pending = 0)
    (hstep : Step source s l (.started (l₀.fetches + 1) manual due) s' l') :
    manual = true ↔ .requested ∈ log := by
  constructor
  · rintro rfl
    have hserved := hstep.pending_of_manual
    have hmade := h.pending_le
    exact List.count_pos_iff.1 (by omega)
  · intro hrequested
    -- no other cycle began, so the request was made since the last one did
    have hnumber := hstep.number_eq.1
    have hfetches := h.fetches_eq
    rw [← sinceStart_of_countP (by omega : log.countP Entry.isStart = 0)] at hrequested
    exact hstep.manual_of_pending (h.isAlert halert) (h.pending_pos hstep.isRunning hrequested)

/-- With its result posted a cycle ends, and the requests stay. -/
theorem Step.posted {number : Nat} (h : Step source s l (.posted number) s' l') :
    l.fetches = number ∧ l'.fetches = number ∧ l'.phase = .idle ∧
      l'.pending = l.pending := by
  have hpending := h.pending.2
  cases h
  exact ⟨rfl, rfl, rfl, hpending rfl⟩

/-- Requests that are made during a cycle are served together by the next one, which begins at once.
The one after it is begun because it was asked for if there are further requests. -/
theorem Logged.together {quiet : List Entry} {number due : Nat} {manual : Bool}
    (h : Logged source s₀ l₀
      (before ++ .made (.posted number) ::
        (quiet ++ .made (.started (number + 1) manual due) :: after)) s l)
    (hrequested : .requested ∈ sinceStart before) :
    manual = true ∧ quiet.countP Entry.isStep = 0 ∧
      ∀ later rest manual' due',
        after = later ++ .made (.started (number + 2) manual' due') :: rest →
        (manual' = true ↔ .requested ∈ later) := by
  obtain ⟨s₁, l₁, s₂, l₂, hbefore, hposted, hsince⟩ := h.at_made
  obtain ⟨s₃, l₃, s₄, l₄, hquiet, hstarted, hafter⟩ := hsince.at_made
  have hpending := hbefore.pending_pos hposted.isRunning hrequested
  obtain ⟨-, rfl, hphase, hkept⟩ := hposted.posted
  obtain ⟨hmanual, hsteps, hserved⟩ := hquiet.next_of_pending hphase (hkept ▸ hpending) hstarted
  refine ⟨hmanual, hsteps, ?_⟩
  rintro later rest manual' due' rfl
  obtain ⟨s₅, l₅, s₆, l₆, hlater, hstarted', -⟩ := hafter.at_made
  have hnumber : l₄.fetches + 1 = l₂.fetches + 2 := by rw [hstarted.number_eq.2]
  rw [← hnumber] at hstarted'
  exact hlater.next_iff hstarted.isAlert hserved hstarted'

/-! ## Rest after a cycle that was asked for -/

/-- Whether the cycle that runs was asked for. -/
def manual? (l : RefreshLoop ρ) : Option Bool :=
  match l.phase with
  | .fetching manual _ _ => some manual
  | .posting manual _ => some manual
  | _ => none

theorem manual?_request : l.request.manual? = l.manual? := by
  unfold request
  split <;> simp [manual?, *]

/-- A cycle remains what it was begun as. -/
theorem Step.manual?_eq (h : Step source s l event s' l')
    (hstart : (Entry.made event).isStart = false) :
    l'.manual? = l.manual? ∨ l'.manual? = none := by
  cases h with
  | fetched hphase => exact Or.inl (by rw [manual?, manual?, hphase])
  | request => cases hstart
  | tick => cases hstart
  | _ => exact Or.inr rfl

theorem Happens.manual?_eq (h : Happens source s l entry s' l') (hstart : entry.isStart = false) :
    l'.manual? = l.manual? ∨ l'.manual? = none := by
  cases h with
  | step hstep => exact (step_cases hstep).manual?_eq hstart
  | request => exact Or.inl manual?_request
  | _ => exact Or.inl rfl

theorem Logged.manual?_eq (h : Logged source s₀ l₀ log s l)
    (hstart : log.countP Entry.isStart = 0) : l.manual? = l₀.manual? ∨ l.manual? = none := by
  induction h with
  | start => exact Or.inl rfl
  | add _ hentry ih =>
    rw [List.countP_append, Nat.add_eq_zero_iff] at hstart
    rcases hentry.manual?_eq (by simpa using hstart.2) with hsame | hnone
    · rw [hsame]
      exact ih hstart.1
    · exact Or.inr hnone

/-- A tick is not due before the one that it follows. -/
theorem le_nextDue (period due now : Nat) : due ≤ nextDue period due now := by
  have hlate := Nat.mod_le (now - due) period
  unfold nextDue
  split <;> omega

/-- The next tick is not due before a time that is at most a period away, if it was not before. -/
theorem Happens.le_due {time : Nat} (h : Happens source s l entry s' l')
    (hperiod : time ≤ l.now + l.period) (hdue : time ≤ l.due) :
    time ≤ l'.now + l'.period ∧ time ≤ l'.due := by
  cases h with
  | step hstep =>
    cases step_cases hstep with
    | skip => exact ⟨hperiod, hdue.trans (le_nextDue ..)⟩
    | tick => exact ⟨hperiod, hdue.trans (le_nextDue ..)⟩
    | post =>
      -- the clock may start anew, and the first tick is then a period away
      refine ⟨hperiod, ?_⟩
      dsimp only
      split <;> omega
    | _ => exact ⟨hperiod, hdue⟩
  | wait =>
    refine ⟨?_, hdue⟩
    dsimp only
    omega
  | request =>
    rw [request_eq]
    exact ⟨hperiod, hdue⟩
  | _ => exact ⟨hperiod, hdue⟩

theorem Logged.le_due {time : Nat} (h : Logged source s₀ l₀ log s l)
    (hperiod : time ≤ l₀.now + l₀.period) (hdue : time ≤ l₀.due) :
    time ≤ l.now + l.period ∧ time ≤ l.due := by
  induction h with
  | start => exact ⟨hperiod, hdue⟩
  | add _ hentry ih => exact hentry.le_due ih.1 ih.2

/-- The clock starts anew when the result of a cycle that was asked for is posted. -/
theorem Step.due_of_posted {number : Nat} (h : Step source s l (.posted number) s' l')
    (hmanual : l.manual? = some true ∨ l.manual? = none) : l'.due = l'.now + l'.period := by
  cases h with
  | post hphase =>
    rw [manual?, hphase] at hmanual
    obtain rfl : _ = true := by simpa using hmanual
    rfl

/-- After a cycle that was asked for the clock waits for a full period. -/
theorem Logged.period_le {middle : List Entry} {number number' due due' : Nat}
    (h : Logged source s₀ l₀
      (before ++ .made (.posted number) ::
        (middle ++ .made (.started number' false due') :: after)) s l)
    (hmanual : .made (.started number true due) ∈ before) : l₀.period ≤ elapsed middle := by
  obtain ⟨s₁, l₁, s₂, l₂, hbefore, hposted, hsince⟩ := h.at_made
  obtain ⟨s₃, l₃, s₄, l₄, hmiddle, hticked, -⟩ := hsince.at_made
  have hperiod : l₂.period = l₀.period := hposted.frame.1.trans hbefore.clock.1
  -- the cycle whose result is posted is the one that was asked for
  obtain ⟨first, during, rfl⟩ := List.append_of_mem hmanual
  obtain ⟨s₅, l₅, s₆, l₆, -, hstarted, hduring⟩ := hbefore.at_made
  have hnone : during.countP Entry.isStart = 0 := by
    have hfetches := hduring.fetches_eq
    rw [hposted.posted.1, hstarted.number_eq.2] at hfetches
    omega
  have hasked : l₆.manual? = some true := by cases hstarted; rfl
  have hdue := hposted.due_of_posted (hasked ▸ hduring.manual?_eq hnone)
  have hrest := (hmiddle.le_due (Nat.le_refl _) hdue.ge).2
  obtain ⟨hsame, hnow⟩ := hmiddle.clock
  cases hticked with
  | tick _ _ _ htick => omega

/-! ## Runs -/

/-- How the requests on record were served. -/
structure HonoursRequests (period : Nat) (log : List Entry) : Prop where
  /-- The cycle that begins next after a request was asked for. -/
  next : ∀ before after number manual due,
    log = before ++ .made (.started number manual due) :: after →
    .requested ∈ sinceStart before → manual = true
  /-- It begins with the third step of the loop at the latest, unless the loop is told to stop or
  nobody takes results any more. -/
  prompt : ∀ before after, log = before ++ after → .requested ∈ sinceStart before →
    .cancelled ∉ log → .closed ∉ log → 3 ≤ after.countP Entry.isStep →
    ∃ due, .made (.started (before.countP Entry.isStart + 1) true due) ∈ after
  /-- Requests that are made during a cycle are served together by the next one, which begins
  without another step before it. The cycle after that one is asked for by further requests only. -/
  together : ∀ before quiet after number manual due,
    log = before ++ .made (.posted number) ::
      (quiet ++ .made (.started (number + 1) manual due) :: after) →
    .requested ∈ sinceStart before →
    manual = true ∧ quiet.countP Entry.isStep = 0 ∧
      ∀ later rest manual' due',
        after = later ++ .made (.started (number + 2) manual' due') :: rest →
        (manual' = true ↔ .requested ∈ later)
  /-- There are no more cycles that were asked for than requests. -/
  count_le : log.countP Entry.isManual ≤ log.count .requested
  /-- No tick begins a cycle sooner than a period after the result of one that was asked for was
  posted. -/
  rest : ∀ before middle after number number' due due',
    log = before ++ .made (.posted number) ::
      (middle ++ .made (.started number' false due') :: after) →
    .made (.started number true due) ∈ before → period ≤ elapsed middle

/-- Whatever happens to a loop and when, it honours the requests that are made. While a request is
pending no tick begins a cycle, and a loop that was not told to stop makes a step as soon as the
fetch that runs has ended and there is room for its result. -/
theorem requests_of_logged (h : Logged source s₀ (.ofPeriod period capacity) log s l) :
    HonoursRequests period log ∧
      (0 < l.pending →
        (∀ number manual due s' l',
          l.step source s = some (.started number manual due, s', l') → manual = true) ∧
        (l.step source s = none →
          period = 0 ∨ .cancelled ∈ log ∨ .closed ∈ log ∨ l.isHeld)) := by
  have halert {log : List Entry} {s : σ} {l : RefreshLoop ρ}
      (h : Logged source s₀ (.ofPeriod period capacity) log s l) : l.IsAlert :=
    h.isAlert isAlert_ofPeriod
  refine ⟨⟨?next, ?prompt, ?together, ?count_le, ?rest⟩, fun hpending => ⟨?_, ?_⟩⟩
  case next =>
    rintro before after number manual due rfl hrequested
    obtain ⟨s₁, l₁, s₂, l₂, hbefore, hstep, -⟩ := h.at_made
    exact hstep.manual_of_pending (halert hbefore) (hbefore.pending_pos hstep.isRunning hrequested)
  case prompt =>
    rintro before after rfl hrequested hcancelled hclosed hsteps
    have hrunning : l.isRunning = true := by
      rw [← Bool.not_eq_false]
      intro hstopped
      rcases h.told.stopped hstopped with ⟨-, hnone⟩ | hstop | hstop
      · rw [List.countP_append] at hnone
        omega
      · exact hcancelled hstop
      · exact hclosed hstop
    obtain ⟨s₁, l₁, hbefore, hafter⟩ := h.of_append
    have hpending := hbefore.pending_pos (hafter.isRunning hrunning) hrequested
    rcases hafter.of_pending (halert hbefore) hpending hrunning with
      ⟨due, hserved⟩ | ⟨-, -, hnearer⟩
    · rw [hbefore.fetches_eq] at hserved
      exact ⟨due, by simpa [ofPeriod] using hserved⟩
    · have hleft := l₁.stepsLeft_le
      omega
  case together =>
    rintro before quiet after number manual due rfl hrequested
    exact h.together hrequested
  case count_le =>
    have hcount := h.pending_le
    rw [pending_ofPeriod] at hcount
    omega
  case rest =>
    rintro before middle after number number' due due' rfl hmanual
    exact h.period_le hmanual
  · intro number manual due s' l' hstep
    exact (step_cases hstep).manual_of_pending (halert h) hpending
  · intro hstep
    cases hrunning : l.isRunning with
    | true => exact Or.inr (Or.inr (Or.inr (isHeld_of_pending (halert h) hpending hrunning hstep)))
    | false => exact (h.told.stopped hrunning).imp And.left (Or.imp_right Or.inl)

/-- A refresh is asked for twice during the first cycle. The second cycle serves both requests, and
the third one begins a period after the result of the second one was posted. -/
theorem requests_of_logged_twice :
    let source : RefreshSource Unit Unit := { fetch := fun _ _ => ((), 30, ()) }
    let log : List Entry :=
      [.made (.started 1 false 0), .requested, .requested, .waited 30, .made (.fetched 1),
        .made (.posted 1), .made (.started 2 true 100), .waited 30, .made (.fetched 2),
        .made (.posted 2), .made .waited, .waited 100, .made (.started 3 false 160)]
    ∃ l, Logged source () (.ofPeriod 100 2) log () l ∧ HonoursRequests 100 log ∧
      log.countP Entry.isManual = 1 ∧ log.count .requested = 2 ∧
      (false = true ↔ .requested ∈ (log.take 12).drop 7) ∧
      100 ≤ elapsed ((log.take 12).drop 10) := by
  intro source log
  have hfirst : Logged source () (.ofPeriod 100 2) (log.take 6) ()
      { period := 100, capacity := 2, now := 30, due := 100, fetches := 1, requested := true
        queue := [(1, ())] } :=
    .add (.add (.add (.add (.add (.add .start (.step rfl)) .request) .request) (.wait 30))
      (.step rfl)) (.step rfl)
  have hsecond : Logged source () (.ofPeriod 100 2) (log.take 10) ()
      { period := 100, capacity := 2, now := 60, due := 160, fetches := 2
        queue := [(1, ()), (2, ())] } :=
    .add (.add (.add (.add hfirst (.step rfl)) (.wait 30)) (.step rfl)) (.step rfl)
  have h : Logged source () (.ofPeriod 100 2) log ()
      { period := 100, capacity := 2, now := 160, due := 260, fetches := 3
        queue := [(1, ()), (2, ())], phase := .fetching false 190 () } :=
    .add (.add (.add hsecond (.step rfl)) (.wait 100)) (.step rfl)
  obtain ⟨hhonours, -⟩ := requests_of_logged h
  obtain ⟨-, -, honce⟩ :=
    hhonours.together (log.take 5) [] (log.drop 7) 1 true 100 rfl (by decide)
  exact ⟨_, h, hhonours, by decide, by decide, honce ((log.take 12).drop 7) [] false 160 rfl,
    hhonours.rest (log.take 9) ((log.take 12).drop 10) [] 2 3 100 160 rfl (by decide)⟩

end TrafficMap.RefreshLoop
