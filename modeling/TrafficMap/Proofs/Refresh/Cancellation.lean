import Mathlib
import TrafficMap.Proofs.Refresh.Cycles

/-!
# Telling the loop to stop

A loop that is told to stop does so with its next step, whatever it is doing, unless it has fetched a
result and not posted it yet (`step_of_cancelled`). It looks for a cancellation while it waits and
while it fetches, but not while it waits for room in the queue: there it is stuck until a result is
taken, posts its own, and stops only then (`Logged.stopping`).
-/

namespace TrafficMap.RefreshLoop

variable {σ ρ : Type} {source : RefreshSource σ ρ} {period capacity : Nat} {s₀ s s' : σ}
  {l₀ l l' : RefreshLoop ρ} {log before after : List Entry} {event : RefreshEvent}

/-! ## Results that wait -/

/-- The stage that a loop has before it that has fetched a result and not posted it. -/
def unposted (l : RefreshLoop ρ) : List (Stage × Nat) :=
  match l.phase with
  | .posting .. => [(.posted, l.fetches)]
  | _ => []

theorem unposted_request : l.request.unposted = l.unposted := by
  unfold request
  split <;> simp [unposted, *]

theorem unposted_of_stopped (h : l.isRunning = false) : l.unposted = [] := by
  unfold isRunning at h
  unfold unposted
  cases hphase : l.phase <;> simp_all

theorem unposted_eq_or (l : RefreshLoop ρ) :
    l.unposted = [] ∨ l.unposted = [(.posted, l.fetches)] := by
  unfold unposted
  cases l.phase <;> simp

/-- The last stage on record is the end of a fetch exactly if its result was not posted yet. -/
theorem Logged.getLast?_stages_iff {number : Nat}
    (h : Logged source s₀ (.ofPeriod period capacity) log s l) (hrunning : l.isRunning = true) :
    (stages log).getLast? = some (.fetched, number) ↔ l.unposted = [(.posted, number)] := by
  have hall := h.inOrder.complete hrunning
  cases hfetches : l.fetches with
  | zero =>
    -- no cycle began
    rw [hfetches] at hall
    obtain ⟨hnone, howed⟩ := List.append_eq_nil_iff.1 hall
    rw [hnone, unposted]
    unfold owed at howed
    cases hphase : l.phase <;> simp_all
  | succ n =>
    rw [hfetches, cycles_succ, cycle] at hall
    unfold owed at hall
    unfold unposted
    cases hphase : l.phase with
    | fetching =>
      simp only [hphase, hfetches] at hall
      have hstages : stages log = cycles n ++ [(.begun, n + 1)] :=
        List.append_cancel_right (hall.trans (List.append_assoc _ [_] [_, _]).symm)
      simp [hstages]
    | posting =>
      simp only [hphase, hfetches] at hall
      have hstages : stages log = cycles n ++ [(.begun, n + 1), (.fetched, n + 1)] :=
        List.append_cancel_right (hall.trans (List.append_assoc _ [_, _] [_]).symm)
      simp [hstages, hfetches]
    | _ =>
      simp only [hphase, List.append_nil] at hall
      simp [hall]

/-! ## Steps of a loop that was told to stop -/

/-- A loop that was told to stop does so with its next step if it has no result to post. -/
theorem step_of_cancelled (hcancelled : l.cancelled = true) (hrunning : l.isRunning = true)
    (hnone : l.unposted = []) :
    l.step source s = some (.stopped, s, { l with phase := .stopped }) := by
  unfold unposted at hnone
  unfold isRunning at hrunning
  unfold step choose
  cases hphase : l.phase <;> simp_all

/-- With a result to post a loop is stuck while the queue is full. Otherwise it posts the result, or
stops if nobody takes results any more. -/
theorem step_of_unposted (source : RefreshSource σ ρ) (s : σ) {number : Nat}
    (hunposted : l.unposted = [(.posted, number)]) :
    (l.receiving = false ∧ l.step source s = some (.stopped, s, { l with phase := .stopped })) ∨
      (l.capacity ≤ l.queue.length ∧ l.step source s = none) ∨
      ∃ l', l.step source s = some (.posted number, s, l') := by
  unfold unposted at hunposted
  cases hphase : l.phase with
  | posting manual result =>
    obtain rfl : l.fetches = number := by simpa [hphase] using hunposted
    unfold step
    cases hreceiving : l.receiving with
    | false => exact Or.inl ⟨rfl, by simp [hphase]⟩
    | true =>
      by_cases hroom : l.queue.length < l.capacity
      · refine Or.inr (Or.inr ?_)
        simp [hphase, hroom]
      · exact Or.inr (Or.inl ⟨Nat.not_lt.1 hroom, by simp [hphase, hroom]⟩)
  | _ => simp [hphase] at hunposted

/-- A loop that was told to stop makes no step but to stop or to post the result that waits. -/
theorem Step.of_cancelled (h : Step source s l event s' l') (hcancelled : l.cancelled = true) :
    (event = .stopped ∧ l'.isRunning = false) ∨
      (event = .posted l.fetches ∧ l.unposted = [(.posted, l.fetches)] ∧
        l'.unposted = [] ∧ l'.isRunning = true) := by
  cases h with
  | cancelWait => exact Or.inl ⟨rfl, rfl⟩
  | cancelFetch => exact Or.inl ⟨rfl, rfl⟩
  | refused => exact Or.inl ⟨rfl, rfl⟩
  | post hphase => exact Or.inr ⟨rfl, by rw [unposted, hphase], rfl, rfl⟩
  | request _ hgoes => cases hcancelled.symm.trans hgoes
  | skip _ hgoes => cases hcancelled.symm.trans hgoes
  | tick _ hgoes => cases hcancelled.symm.trans hgoes
  | wait _ hgoes => cases hcancelled.symm.trans hgoes
  | fetched _ hgoes => cases hcancelled.symm.trans hgoes

/-! ## Histories of a loop that was told to stop -/

/-- What a loop that was told to stop has done since, and what it still has before it. -/
structure Stopping (l₀ : RefreshLoop ρ) (log : List Entry) (l : RefreshLoop ρ) : Prop where
  cancelled : l.cancelled = true
  kept : stages log <+: l₀.unposted
  complete : l.isRunning = true → stages log ++ l.unposted = l₀.unposted
  /-- There is one step to stop. -/
  steps_le : log.countP Entry.isStep + l.isRunning.toNat ≤ (stages log).length + 1

/-- What happens outside leaves a result that waits alone. -/
theorem Stopping.outside {entry : Entry} (h : Stopping l₀ log l) (hentry : entry.stage? = none)
    (hstep : entry.isStep = false) (hcancelled : l'.cancelled = true)
    (hunposted : l'.unposted = l.unposted) (hrunning : l'.isRunning = l.isRunning) :
    Stopping l₀ (log ++ [entry]) l' := by
  constructor
  · exact hcancelled
  · simpa [hentry] using h.kept
  · simpa [hentry, hunposted, hrunning] using h.complete
  · simpa [hentry, hstep, hrunning] using h.steps_le

theorem Stopping.step (h : Stopping l₀ log l) (hstep : Step source s l event s' l') :
    Stopping l₀ (log ++ [.made event]) l' := by
  obtain ⟨-, -, -, hsame, -⟩ := hstep.frame
  have hsofar := h.complete hstep.isRunning
  have hsteps := h.steps_le
  rw [hstep.isRunning] at hsteps
  rcases hstep.of_cancelled h.cancelled with ⟨rfl, hstopped⟩ | ⟨rfl, hwaits, hposted, hrunning⟩
  · constructor
    · exact hsame.trans h.cancelled
    · simpa [Entry.stage?] using h.kept
    · simp [hstopped]
    · simpa [Entry.stage?, Entry.isStep, hstopped] using hsteps
  · rw [hwaits] at hsofar
    constructor
    · exact hsame.trans h.cancelled
    · simp [Entry.stage?, hsofar]
    · simp [Entry.stage?, hsofar, hposted]
    · simpa [Entry.stage?, Entry.isStep, hrunning] using hsteps

theorem Logged.stopping (h : Logged source s₀ l₀ log s l) (hcancelled : l₀.cancelled = true) :
    Stopping l₀ log l := by
  induction h with
  | start => exact ⟨hcancelled, List.nil_prefix, fun _ => rfl, by simp [stages, Bool.toNat_le]⟩
  | add _ hentry ih =>
    cases hentry with
    | step hstep => exact ih.step (step_cases hstep)
    | request =>
      exact ih.outside rfl rfl (by rw [request_eq]; exact ih.cancelled) unposted_request
        isRunning_request
    | cancel => exact ih.outside rfl rfl rfl rfl rfl
    | _ => exact ih.outside rfl rfl ih.cancelled rfl rfl

/-- Whatever happens to a loop that is told to stop: it begins no cycle and ends no fetch any more.
If it had no result to post, it posts none, and its next step is to stop. If it had one, that one is
all that it may post; it is stuck as long as the queue is full and anyone takes results, and it stops
with the step after the result was posted. -/
theorem stop_of_cancelled
    (h : Logged source s₀ (.ofPeriod period capacity) (before ++ .cancelled :: after) s l) :
    ((∀ number, (stages before).getLast? ≠ some (.fetched, number)) →
      stages after = [] ∧
        (l.isRunning = true →
          l.step source s = some (.stopped, s, { l with phase := .stopped }))) ∧
      (∀ number, (stages before).getLast? = some (.fetched, number) →
        stages after <+: [(.posted, number)] ∧
          (l.isRunning = true →
            l.step source s = some (.stopped, s, { l with phase := .stopped }) ∨
              (stages after = [] ∧ l.capacity ≤ l.queue.length ∧ l.step source s = none) ∨
              (stages after = [] ∧ ∃ l', l.step source s = some (.posted number, s, l')))) ∧
      after.countP Entry.isStep ≤ (stages after).length + 1 := by
  rw [List.append_cons] at h
  obtain ⟨s₂, l₂, hsofar, hafter⟩ := h.of_append
  obtain ⟨s₁, l₁, hbefore, hcancel⟩ := hsofar.of_concat
  obtain rfl : l₂ = l₁.cancel := by cases hcancel; rfl
  have hstopping := hafter.stopping rfl
  have hunposted : l₁.cancel.unposted = l₁.unposted := rfl
  refine ⟨fun hnone => ?_, fun number hfetched => ?_, (Nat.le_add_right ..).trans hstopping.steps_le⟩
  · have hnothing : l₁.cancel.unposted = [] := by
      rcases l₁.unposted_eq_or with hnothing | hwaits
      · exact hnothing
      · cases hrunning : l₁.isRunning with
        | false => exact unposted_of_stopped hrunning
        | true => exact absurd ((hbefore.getLast?_stages_iff hrunning).2 hwaits) (hnone _)
    refine ⟨List.prefix_nil.1 (hnothing ▸ hstopping.kept), fun hrunning => ?_⟩
    have hdone := hstopping.complete hrunning
    rw [hnothing, List.append_eq_nil_iff] at hdone
    exact step_of_cancelled hstopping.cancelled hrunning hdone.2
  · refine ⟨?_, fun hrunning => ?_⟩
    · cases hrunning : l₁.isRunning with
      | false =>
        have hnothing := hunposted.trans (unposted_of_stopped hrunning)
        exact List.prefix_nil.1 (hnothing ▸ hstopping.kept) ▸ List.nil_prefix
      | true => exact (hbefore.getLast?_stages_iff hrunning).1 hfetched ▸ hstopping.kept
    · have hwaits := (hbefore.getLast?_stages_iff (hafter.isRunning hrunning)).1 hfetched
      have hdone := hstopping.complete hrunning
      rw [hunposted, hwaits] at hdone
      rcases l.unposted_eq_or with hnothing | hstill
      · exact Or.inl (step_of_cancelled hstopping.cancelled hrunning hnothing)
      · -- the result still waits, so nothing was posted since
        rw [hstill] at hdone
        obtain ⟨hnone, hlast⟩ :=
          List.append_inj' (show stages after ++ [_] = [] ++ [_] from hdone) rfl
        rw [hlast] at hstill
        rcases step_of_unposted source s hstill with ⟨-, hstops⟩ | hstuck | hposts
        · exact Or.inl hstops
        · exact Or.inr (Or.inl ⟨hnone, hstuck⟩)
        · exact Or.inr (Or.inr ⟨hnone, hposts⟩)

/-- The loop is told to stop while it fetches the second time, and again while it has a result to post
and the queue is full. In the first case it stops at once; in the second case it is stuck until a
result is taken, and posts then. -/
theorem stop_of_cancelled_full :
    let source : RefreshSource Unit Unit := { fetch := fun _ _ => ((), 0, ()) }
    let log : List Entry :=
      [.made (.started 1 false 0), .made (.fetched 1), .made (.posted 1), .requested,
        .made (.started 2 true 10)]
    (∃ l, Logged source () (.ofPeriod 10 1) (log ++ [.cancelled]) () l ∧
      l.step source () = some (.stopped, (), { l with phase := .stopped })) ∧
    ∃ l, Logged source () (.ofPeriod 10 1)
        (log ++ [.made (.fetched 2), .cancelled, .took [1], .made (.posted 2)]) () l ∧
      stages [.took [1], .made (.posted 2)] <+: [(.posted, 2)] ∧
      l.step source () = some (.stopped, (), { l with phase := .stopped }) := by
  intro source log
  have hfetching : Logged source () (.ofPeriod 10 1) log ()
      { period := 10, capacity := 1, due := 10, fetches := 2, queue := [(1, ())]
        phase := .fetching true 0 () } :=
    .add (.add (.add (.add (.add .start (.step rfl)) (.step rfl)) (.step rfl)) .request) (.step rfl)
  have hposting : Logged source () (.ofPeriod 10 1) (log ++ [.made (.fetched 2)]) ()
      { period := 10, capacity := 1, due := 10, fetches := 2, queue := [(1, ())]
        phase := .posting true () } :=
    .add hfetching (.step rfl)
  have hposted : Logged source () (.ofPeriod 10 1)
      (log ++ [.made (.fetched 2), .cancelled, .took [1], .made (.posted 2)]) ()
      { period := 10, capacity := 1, due := 10, fetches := 2, cancelled := true
        queue := [(2, ())] } :=
    .add (.add (.add hposting .cancel) (.take 1)) (.step rfl)
  have hstops := (stop_of_cancelled (hfetching.add .cancel)).1 fun _ hlast => by cases hlast
  have hposts := (stop_of_cancelled (show Logged source () (.ofPeriod 10 1)
    ((log ++ [.made (.fetched 2)]) ++ .cancelled :: [.took [1], .made (.posted 2)]) () _
    from hposted)).2.1 2 rfl
  refine ⟨⟨_, hfetching.add .cancel, hstops.2 rfl⟩, _, hposted, hposts.1, ?_⟩
  rcases hposts.2 rfl with hstops | ⟨hnone, -⟩ | ⟨hnone, -⟩
  · exact hstops
  · cases hnone
  · cases hnone

/-- A loop that was told to stop is stuck while it has a result to post and the queue is full, and
once a result is taken it posts its own. -/
theorem posted_of_cancelled :
    let source : RefreshSource Unit Unit := { fetch := fun _ _ => ((), 0, ()) }
    let log : List Entry :=
      [.made (.started 1 false 0), .made (.fetched 1), .made (.posted 1), .made .waited,
        .waited 1000, .made (.started 2 false 1000), .made (.fetched 2), .cancelled]
    (∃ l, Logged source () (.ofPeriod 1000 1) log () l ∧ l.cancelled = true ∧
      l.isRunning = true ∧ l.step source () = none) ∧
    ∃ l, Logged source () (.ofPeriod 1000 1) (log ++ [.took [1], .made (.posted 2)]) () l := by
  intro source log
  have hwaiting : Logged source () (.ofPeriod 1000 1) (log.take 5) ()
      { period := 1000, capacity := 1, now := 1000, due := 1000, fetches := 1
        queue := [(1, ())], phase := .waiting false } :=
    .add (.add (.add (.add (.add .start (.step rfl)) (.step rfl)) (.step rfl)) (.step rfl))
      (.wait 1000)
  have h : Logged source () (.ofPeriod 1000 1) log ()
      { period := 1000, capacity := 1, now := 1000, due := 2000, fetches := 2
        cancelled := true, queue := [(1, ())], phase := .posting false () } :=
    .add (.add (.add hwaiting (.step rfl)) (.step rfl)) .cancel
  exact ⟨⟨_, h, rfl, rfl, rfl⟩, _, .add (.add h (.take 1)) (.step rfl)⟩

end TrafficMap.RefreshLoop
