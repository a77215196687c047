import Mathlib
import TrafficMap.Proofs.Refresh.Requests

/-!
# Ticks that fall due during a cycle

The clock gives the refresh loop a tick now and then, and a tick that falls due while a cycle runs
has to wait. `RefreshLoop.Prompt` are the histories of a loop that makes every step as soon as it
can, so that nothing but a cycle makes it late. A tick begins a cycle at the time at which it is due
exactly if no cycle was running then (`Prompt.runningAt`); otherwise it begins one at the moment in
which the last result is posted (`Prompt.posted_of_late`). It is not dropped: only the ticks after it
are that fell due by then (`lt_nextDue`).
-/

namespace TrafficMap.RefreshLoop

variable {σ ρ : Type} {source : RefreshSource σ ρ} {period capacity : Nat} {s₀ s s' : σ}
  {l₀ l l' : RefreshLoop ρ} {log before after : List Entry} {entry : Entry} {event : RefreshEvent}

/-! ## Prompt histories -/

/-- Time goes by only while the loop has nothing to do, and not past the time at which it wakes. -/
def Entry.IsPunctual (source : RefreshSource σ ρ) (s : σ) (l : RefreshLoop ρ) : Entry → Prop
  | waited millis => l.step source s = none ∧ ∀ time, l.wake? = some time → l.now + millis ≤ time
  | _ => True

/-- All that happened to a loop that makes every step as soon as it can. -/
inductive Prompt (source : RefreshSource σ ρ) (s₀ : σ) (l₀ : RefreshLoop ρ) :
    List Entry → σ → RefreshLoop ρ → Prop where
  | start : Prompt source s₀ l₀ [] s₀ l₀
  | add {log : List Entry} {entry : Entry} {s s' : σ} {l l' : RefreshLoop ρ}
      (h : Prompt source s₀ l₀ log s l) (hentry : Happens source s l entry s' l')
      (hpunctual : entry.IsPunctual source s l) : Prompt source s₀ l₀ (log ++ [entry]) s' l'

theorem Prompt.logged (h : Prompt source s₀ l₀ log s l) : Logged source s₀ l₀ log s l := by
  induction h with
  | start => exact .start
  | add _ hentry _ ih => exact ih.add hentry

theorem Prompt.made (h : Prompt source s₀ l₀ log s l)
    (hstep : l.step source s = some (event, s', l')) :
    Prompt source s₀ l₀ (log ++ [.made event]) s' l' :=
  h.add (.step hstep) trivial

theorem Prompt.waited (millis : Nat) (h : Prompt source s₀ l₀ log s l)
    (hnone : l.step source s = none) (hwake : ∀ time, l.wake? = some time → l.now + millis ≤ time) :
    Prompt source s₀ l₀ (log ++ [.waited millis]) s { l with now := l.now + millis } :=
  h.add (.wait millis) ⟨hnone, hwake⟩

/-- A prompt history is prompt up to any step. -/
theorem Prompt.at_made (h : Prompt source s₀ l₀ (before ++ .made event :: after) s l) :
    ∃ s₁ l₁ s₂ l₂, Prompt source s₀ l₀ before s₁ l₁ ∧ Step source s₁ l₁ event s₂ l₂ ∧
      Logged source s₂ l₂ after s l := by
  generalize hlog : before ++ .made event :: after = log at h
  induction h generalizing after with
  | start => simp at hlog
  | add h hentry _ ih =>
    rcases List.eq_nil_or_concat' after with rfl | ⟨rest, last, rfl⟩
    · obtain ⟨rfl, hlast⟩ := List.append_inj' hlog rfl
      cases hlast
      cases hentry with
      | step hstep => exact ⟨_, _, _, _, h, step_cases hstep, .start⟩
    · rw [← List.cons_append, ← List.append_assoc] at hlog
      obtain ⟨hrest, hlast⟩ := List.append_inj' hlog rfl
      obtain rfl : last = _ := by simpa using hlast
      obtain ⟨s₁, l₁, s₂, l₂, hbefore, hstep, hafter⟩ := ih hrest
      exact ⟨s₁, l₁, s₂, l₂, hbefore, hstep, hafter.add hentry⟩

/-! ## Cycles that run -/

/-- Whether a cycle on record was running at a time: it had begun by then, and later it still had not
done more than to end its fetch. -/
def RunningAt (log : List Entry) (time : Nat) : Prop :=
  ∃ before during after number manual due,
    log = before ++ .made (.started number manual due) :: during ++ after ∧
      (∀ event, .made event ∈ during → event = .fetched number) ∧
      elapsed before ≤ time ∧ time < elapsed before + elapsed during

theorem RunningAt.lt {time : Nat} (h : RunningAt log time) : time < elapsed log := by
  obtain ⟨before, during, after, number, manual, due, rfl, -, -, hlt⟩ := h
  simp [Entry.millis]
  omega

theorem RunningAt.append {time : Nat} (h : RunningAt log time) (later : List Entry) :
    RunningAt (log ++ later) time := by
  obtain ⟨before, during, after, number, manual, due, rfl, hduring, hle, hlt⟩ := h
  exact ⟨before, during, after ++ later, number, manual, due, by simp, hduring, hle, hlt⟩

/-- The beginning of the cycle that runs is on record, and no step since but the end of its fetch. -/
theorem Logged.exists_started (h : Logged source s₀ (.ofPeriod period capacity) log s l)
    (hbusy : l.inFlight ≠ []) :
    ∃ before during manual due,
      log = before ++ .made (.started l.fetches manual due) :: during ∧
        ∀ event, .made event ∈ during → event = .fetched l.fetches := by
  induction h with
  | start =>
    by_cases hperiod : period = 0 <;> simp [ofPeriod, inFlight, hperiod] at hbusy
  | @add log entry s s' l l' h hentry ih =>
    -- the same cycle goes on
    have hgoes (hsame : l'.fetches = l.fetches) (hbefore : l.inFlight ≠ [])
        (hentry : ∀ event, .made event = entry → event = .fetched l.fetches) :
        ∃ before during manual due,
          log ++ [entry] = before ++ .made (.started l'.fetches manual due) :: during ∧
            ∀ event, .made event ∈ during → event = .fetched l'.fetches := by
      obtain ⟨before, during, manual, due, rfl, hduring⟩ := ih hbefore
      rw [hsame]
      refine ⟨before, during ++ [entry], manual, due, by simp, fun event hevent => ?_⟩
      rcases List.mem_append.1 hevent with hold | hlast
      · exact hduring event hold
      · exact hentry event (List.mem_singleton.1 hlast)
    cases hentry with
    | step hstep =>
      cases step_cases hstep with
      | request => exact ⟨log, [], true, l.due, rfl, by simp⟩
      | tick => exact ⟨log, [], false, l.due, rfl, by simp⟩
      | fetched hphase => exact hgoes rfl (by simp [inFlight, hphase]) (by simp)
      | _ => exact absurd rfl hbusy
    | request =>
      rw [inFlight_request] at hbusy
      exact hgoes (by rw [request_eq]) hbusy (by simp)
    | _ => exact hgoes rfl hbusy (by simp)

/-! ## Lateness -/

/-- A loop that is not busy does not let time go by after a tick is due. -/
theorem le_due_of_isPunctual {millis : Nat} (hfree : l.isFree = true)
    (h : (Entry.waited millis).IsPunctual source s l) : l.now + millis ≤ l.due := by
  obtain ⟨hnone, hwake⟩ := h
  rcases isFree_iff.1 hfree with hphase | ⟨woken, hphase⟩
  · simp [step, hphase] at hnone
  · exact hwake l.due (by rw [wake?, hphase])

/-- A loop that has not stopped is busy with a cycle or is not busy. -/
theorem inFlight_ne_nil (hrunning : l.isRunning = true) (hbusy : l.isFree = false) :
    l.inFlight ≠ [] := by
  unfold isRunning at hrunning
  unfold isFree at hbusy
  unfold inFlight
  cases hphase : l.phase <;> simp_all

/-- A tick that was due and is still waiting after a step was waiting before it. -/
theorem Step.due_le {time : Nat} (h : Step source s l event s' l') (hdue : l'.due ≤ time)
    (hnow : time < l'.now) : l.due ≤ time := by
  cases h with
  | skip => exact (le_nextDue ..).trans hdue
  | tick => exact (le_nextDue ..).trans hdue
  | post =>
    dsimp only at hdue hnow
    split at hdue
    · -- the clock starts anew, so no tick is waiting
      omega
    · exact hdue
  | _ => exact hdue

/-- While a tick waits, a cycle is running. -/
theorem Prompt.runningAt {time : Nat} (h : Prompt source s₀ (.ofPeriod period capacity) log s l)
    (hrunning : l.isRunning = true) (hdue : l.due ≤ time) (hnow : time < l.now) :
    RunningAt log time := by
  induction h with
  | start => cases hnow
  | @add log entry s s' l l' h hentry hpunctual ih =>
    cases hentry with
    | step hstep =>
      have hstep := step_cases hstep
      obtain ⟨-, hsame, -⟩ := hstep.frame
      exact (ih hstep.isRunning (hstep.due_le hdue hnow) (hsame ▸ hnow)).append _
    | wait millis =>
      by_cases hbefore : time < l.now
      · exact (ih hrunning hdue hbefore).append _
      · -- the time goes by now, so the loop is busy with a cycle
        have hbusy : l.isFree = false := by
          rw [← Bool.not_eq_true]
          intro hfree
          have hwait := le_due_of_isPunctual hfree hpunctual
          dsimp only at hdue hnow
          omega
        obtain ⟨before, during, manual, due, hlog, hduring⟩ :=
          h.logged.exists_started (inFlight_ne_nil hrunning hbusy)
        have hclock : l.now = elapsed before + elapsed during := by
          simpa [ofPeriod, hlog, Entry.millis] using h.logged.clock.2
        refine ⟨before, during ++ [.waited millis], [], l.fetches, manual, due, by simp [hlog],
          fun event hevent => hduring event (by simpa using hevent), by omega, ?_⟩
        simp [Entry.millis]
        dsimp only at hnow
        omega
    | request =>
      rw [isRunning_request] at hrunning
      rw [request_eq] at hdue hnow
      exact (ih hrunning hdue hnow).append _
    | _ => exact (ih hrunning hdue hnow).append _

/-- A loop that is not busy while a tick waits has just posted a result. -/
theorem Prompt.posted_of_late (h : Prompt source s₀ (.ofPeriod period capacity) log s l)
    (hfree : l.isFree = true) (hlate : l.due < l.now) :
    ∃ before quiet, log = before ++ .made (.posted l.fetches) :: quiet ∧ elapsed quiet = 0 := by
  induction h with
  | start => cases hlate
  | @add log entry s s' l l' h hentry hpunctual ih =>
    -- no time goes by
    have hgoes (hsame : l'.fetches = l.fetches) (hentry : entry.millis = 0)
        (hfree : l.isFree = true) (hlate : l.due < l.now) :
        ∃ before quiet, log ++ [entry] = before ++ .made (.posted l'.fetches) :: quiet ∧
          elapsed quiet = 0 := by
      obtain ⟨before, quiet, rfl, hquiet⟩ := ih hfree hlate
      exact ⟨before, quiet ++ [entry], by simp [hsame], by simp [hquiet, hentry]⟩
    cases hentry with
    | step hstep =>
      cases step_cases hstep with
      | skip hidle => exact hgoes rfl rfl hidle ((le_nextDue ..).trans_lt hlate)
      | wait hphase => exact hgoes rfl rfl (isFree_iff.2 (Or.inl hphase)) hlate
      | post => exact ⟨log, [], rfl, rfl⟩
      | _ => cases hfree
    | wait millis =>
      have hwait := le_due_of_isPunctual (l := l) hfree hpunctual
      dsimp only at hlate
      omega
    | request =>
      have hsame : l.isFree = true := by
        unfold request at hfree
        split at hfree
        · next hphase => exact isFree_iff.2 (Or.inr ⟨false, hphase⟩)
        · exact hfree
      rw [request_eq] at hlate
      exact hgoes (by rw [request_eq]) rfl hsame hlate
    | _ => exact hgoes rfl rfl hfree hlate

/-- A tick begins a cycle when it is due, or later if a cycle was running then. -/
theorem Prompt.of_tick {number due : Nat}
    (h : Prompt source s₀ (.ofPeriod period capacity) log s l)
    (hstep : Step source s l (.started number false due) s' l') :
    due ≤ elapsed log ∧ (elapsed log = due ↔ ¬RunningAt log due) := by
  have hclock : l.now = elapsed log := by simpa [ofPeriod] using h.logged.clock.2
  cases hstep with
  | tick hfree _ _ hdue =>
    refine ⟨hclock ▸ hdue, fun hsame hrunning => ?_, fun hrunning => ?_⟩
    · exact absurd hrunning.lt hsame.not_gt
    · by_contra hlate
      have hlt : l.due < l.now := lt_of_le_of_ne hdue fun hsame => hlate (hclock ▸ hsame.symm)
      exact hrunning (h.runningAt (isRunning_of_isFree hfree) (Nat.le_refl _) hlt)

/-! ## Missed ticks -/

theorem add_period_le_nextDue {due now : Nat} (hdue : due ≤ now) :
    due + period ≤ nextDue period due now := by
  have hlate := Nat.mod_le (now - due) period
  unfold nextDue
  split <;> omega

/-- The tick after one that is served late is not due yet. -/
theorem lt_nextDue {due now : Nat} (hperiod : 0 < period) (hlate : due + tolerance < now) :
    now < nextDue period due now := by
  have hrest := Nat.mod_lt (now - due) hperiod
  rw [nextDue, if_pos hlate]
  omega

/-- The tick after one that begins a cycle is due a period later, and not before the cycle begins if
that is late. -/
theorem Step.of_tick {number due : Nat} (h : Step source s l (.started number false due) s' l')
    (hperiod : 0 < l.period) :
    due + l.period ≤ l'.due ∧ (due + tolerance < l.now → l.now < l'.due) := by
  cases h with
  | tick _ _ _ hdue => exact ⟨add_period_le_nextDue hdue, lt_nextDue hperiod⟩

/-- Ticks that fell due before a late cycle began are not served any more. -/
theorem Logged.of_ticks {number number' due due' : Nat} {s₁ s₂ : σ} {l₁ l₂ : RefreshLoop ρ}
    (hstep : Step source s₁ l₁ (.started number false due) s₂ l₂)
    (h : Logged source s₂ l₂ log s l) (hstep' : Step source s l (.started number' false due') s' l')
    (hperiod : 0 < l₁.period) :
    due + l₁.period ≤ due' ∧ (due + tolerance < l₁.now → l₁.now < due') := by
  obtain ⟨hsame, hnow, -⟩ := hstep.frame
  have hdue' : due' = l.due := by cases hstep'; rfl
  have hdue : due ≤ l₁.now := by cases hstep; assumption
  obtain ⟨hnext, hlater⟩ := hstep.of_tick hperiod
  refine ⟨?_, fun hlate => ?_⟩
  · exact hdue' ▸ (h.le_due (by omega) hnext).2
  · have hafter : l₁.now + 1 ≤ l₂.due := hlater hlate
    exact hdue' ▸ (h.le_due (by omega) hafter).2

/-! ## Runs -/

/-- How the ticks on record that began a cycle were served. -/
structure ServesTicks (period : Nat) (log : List Entry) : Prop where
  /-- A tick begins a cycle not before it is due, and just then exactly if no cycle was running. -/
  on_time : ∀ before after number due,
    log = before ++ .made (.started number false due) :: after →
    due ≤ elapsed before ∧ (elapsed before = due ↔ ¬RunningAt before due)
  /-- A tick that fell due during a cycle begins the next one at the moment in which the result of
  the one before was posted. -/
  late : ∀ before after number due,
    log = before ++ .made (.started (number + 1) false due) :: after → RunningAt before due →
    ∃ earlier quiet, before = earlier ++ .made (.posted number) :: quiet ∧ elapsed quiet = 0
  /-- The next tick that begins a cycle was due at least a period later, and after that moment. -/
  dropped : ∀ before middle after number number' due due',
    log = before ++ .made (.started number false due) ::
      (middle ++ .made (.started number' false due') :: after) →
    due + period ≤ due' ∧ (due + tolerance < elapsed before → elapsed before < due')

/-- Whatever happens to a prompt loop, however long its cycles take: a tick begins a cycle when it is
due, unless a cycle was running at that time. Then it is served late, with the end of that cycle, and
only the other ticks that fell due until then are dropped. -/
theorem ticks_of_prompt (h : Prompt source s₀ (.ofPeriod period capacity) log s l) :
    ServesTicks period log := by
  refine ⟨?on_time, ?late, ?dropped⟩
  case on_time =>
    rintro before after number due rfl
    obtain ⟨s₁, l₁, s₂, l₂, hbefore, hstep, -⟩ := h.at_made
    exact hbefore.of_tick hstep
  case late =>
    rintro before after number due rfl hrunning
    obtain ⟨s₁, l₁, s₂, l₂, hbefore, hstep, -⟩ := h.at_made
    have hclock : l₁.now = elapsed before := by simpa [ofPeriod] using hbefore.logged.clock.2
    have hlate := hrunning.lt
    obtain ⟨hnumber, -⟩ := hstep.number_eq
    obtain rfl : number = l₁.fetches := by omega
    cases hstep with
    | tick hfree => exact hbefore.posted_of_late hfree (hclock ▸ hlate)
  case dropped =>
    rintro before middle after number number' due due' rfl
    obtain ⟨s₁, l₁, s₂, l₂, hbefore, hstep, hsince⟩ := h.logged.at_made
    obtain ⟨s₃, l₃, s₄, l₄, hmiddle, hstep', -⟩ := hsince.at_made
    obtain ⟨hperiod, hclock⟩ := hbefore.clock
    have hpos : 0 < period := by
      have hrunning := hbefore.isRunning hstep.isRunning
      rw [Nat.pos_iff_ne_zero]
      rintro rfl
      cases hrunning
    have hmissed := hmiddle.of_ticks hstep hstep' (hperiod ▸ hpos)
    simpa [hperiod, hclock, ofPeriod] using hmissed

/-- The first cycle takes two periods and more. The tick that fell due during it begins the second
cycle as soon as the result of the first one is posted, the next tick is dropped, and the third cycle
begins on time. -/
theorem ticks_of_prompt_late :
    let source : RefreshSource Unit Unit :=
      { fetch := fun _ now => ((), if now = 0 then 12000 else 0, ()) }
    let log : List Entry :=
      [.made (.started 1 false 0), .waited 12000, .made (.fetched 1), .made (.posted 1),
        .made (.started 2 false 5000), .made (.fetched 2), .made (.posted 2), .made .waited,
        .waited 3000, .made (.started 3 false 15000)]
    ∃ l, Prompt source () (.ofPeriod 5000 4) log () l ∧ ServesTicks 5000 log ∧
      (∃ earlier quiet, log.take 4 = earlier ++ .made (.posted 1) :: quiet ∧ elapsed quiet = 0) ∧
      elapsed (log.take 4) < 15000 ∧ ¬RunningAt (log.take 9) 15000 := by
  intro source log
  have hfetching : Prompt source () (.ofPeriod 5000 4) (log.take 1) ()
      { period := 5000, capacity := 4, due := 5000, fetches := 1
        phase := .fetching false 12000 () } :=
    Prompt.start.made rfl
  have hfirst : Prompt source () (.ofPeriod 5000 4) (log.take 4) ()
      { period := 5000, capacity := 4, now := 12000, due := 5000, fetches := 1
        queue := [(1, ())] } :=
    ((hfetching.waited 12000 rfl (by simp [wake?])).made rfl).made rfl
  have hsecond : Prompt source () (.ofPeriod 5000 4) (log.take 8) ()
      { period := 5000, capacity := 4, now := 12000, due := 15000, fetches := 2
        queue := [(1, ()), (2, ())], phase := .waiting false } :=
    (((hfirst.made rfl).made rfl).made rfl).made rfl
  have h : Prompt source () (.ofPeriod 5000 4) log ()
      { period := 5000, capacity := 4, now := 15000, due := 20000, fetches := 3
        queue := [(1, ()), (2, ())], phase := .fetching false 15000 () } :=
    (hsecond.waited 3000 rfl (by simp [wake?])).made rfl
  have hserves := ticks_of_prompt h
  have hrunning : RunningAt (log.take 4) 5000 :=
    ⟨[], [.waited 12000], (log.take 4).drop 2, 1, false, 0, rfl, by simp, by decide, by decide⟩
  have hdropped := hserves.dropped (log.take 4) ((log.take 9).drop 5) [] 2 3 5000 15000 rfl
  exact ⟨_, h, hserves, hserves.late (log.take 4) (log.drop 5) 1 5000 rfl hrunning,
    hdropped.2 (by decide), (hserves.on_time (log.take 9) [] 3 15000 rfl).2.1 (by decide)⟩

/-- A tick that falls due during a cycle is not skipped: with a period of five seconds and a first
cycle of twelve, the second cycle begins at twelve seconds, for the tick of five seconds. -/
theorem started_of_overdue :
    let source : RefreshSource Unit Unit := { fetch := fun _ _ => ((), 12000, ()) }
    let before : List Entry :=
      [.made (.started 1 false 0), .waited 12000, .made (.fetched 1), .made (.posted 1)]
    ∃ l, Prompt source () (.ofPeriod 5000 4) (before ++ [.made (.started 2 false 5000)]) () l ∧
      elapsed before = 12000 ∧ RunningAt before 5000 := by
  intro source before
  have hfetching : Prompt source () (.ofPeriod 5000 4) (before.take 1) ()
      { period := 5000, capacity := 4, due := 5000, fetches := 1
        phase := .fetching false 12000 () } :=
    Prompt.start.made rfl
  have hposted : Prompt source () (.ofPeriod 5000 4) before ()
      { period := 5000, capacity := 4, now := 12000, due := 5000, fetches := 1
        queue := [(1, ())] } :=
    ((hfetching.waited 12000 rfl (by simp [wake?])).made rfl).made rfl
  exact ⟨_, hposted.made rfl, by decide,
    [], [.waited 12000], before.drop 2, 1, false, 0, rfl, by simp, by decide, by decide⟩

end TrafficMap.RefreshLoop
