import Mathlib
import TrafficMap.Refresh.Bridge
import TrafficMap.Refresh.Loop

/-!
# Steps of the loop and of the bridge

`RefreshLoop.Step` lists what a step of the refresh loop can do and when, and `Bridge.Step` does so
for the bridge; a step that is made is one of these (`RefreshLoop.step_cases`, `Bridge.step_cases`).
What a step does to the results on their way is read off there: a result is begun, moves on, or is
lost with the loop (`RefreshLoop.Step.flow`).
-/

namespace TrafficMap

/-! ## Beginnings of numbered lists -/

/-- A beginning of consecutive numbers is consecutive. -/
theorem eq_range'_of_prefix {numbers : List Nat} {first n : Nat}
    (h : numbers <+: List.range' first n) : numbers = List.range' first numbers.length := by
  obtain ⟨rest, hrest⟩ := h
  obtain ⟨k, -, hnumbers, -⟩ := List.range'_eq_append_iff.1 hrest.symm
  rw [hnumbers, List.length_range']

/-- The same of what consecutive numbers stand for. -/
theorem eq_map_range'_of_prefix {β : Type} {f : Nat → β} {items : List β} {first n : Nat}
    (h : items <+: (List.range' first n).map f) :
    items = (List.range' first items.length).map f := by
  obtain ⟨numbers, hnumbers, rfl⟩ := List.prefix_map_iff.1 h
  rw [List.length_map, ← eq_range'_of_prefix hnumbers]

namespace RefreshLoop

variable {σ ρ : Type} {source : RefreshSource σ ρ} {s s' : σ} {l l' : RefreshLoop ρ}
  {event : RefreshEvent}

/-- Whether the loop is not busy with a fetch and has not stopped. -/
def isFree (l : RefreshLoop ρ) : Bool :=
  match l.phase with
  | .idle => true
  | .waiting _ => true
  | _ => false

/-- A loop that is not busy waits or is about to look for something to do. -/
theorem isFree_iff : l.isFree = true ↔ l.phase = .idle ∨ ∃ woken, l.phase = .waiting woken := by
  unfold isFree
  cases l.phase <;> simp

theorem isRunning_of_isFree (h : l.isFree = true) : l.isRunning = true := by
  rcases isFree_iff.1 h with hphase | ⟨woken, hphase⟩ <;> rw [isRunning, hphase]

theorem inFlight_of_isFree (h : l.isFree = true) : l.inFlight = [] := by
  rcases isFree_iff.1 h with hphase | ⟨woken, hphase⟩ <;> rw [inFlight, hphase]

/-- A request wakes the loop or is kept, and changes nothing else. -/
theorem request_eq :
    l.request = { l with requested := l.request.requested, phase := l.request.phase } := by
  unfold request
  split <;> rfl

theorem isRunning_request : l.request.isRunning = l.isRunning := by
  unfold request
  split <;> simp [isRunning, *]

theorem inFlight_request : l.request.inFlight = l.inFlight := by
  unfold request
  split <;> simp [inFlight, *]

/-- All that a request leaves behind when it is taken up is whether there is another one. -/
theorem answered_eq : l.answered = { l with requested := l.answered.requested } := by
  unfold answered
  split <;> rfl

/-- What a step does: the event, the source after it and the loop after it. -/
inductive Step (source : RefreshSource σ ρ) (s : σ) (l : RefreshLoop ρ) :
    RefreshEvent → σ → RefreshLoop ρ → Prop where
  /-- A loop that is not busy is cancelled. -/
  | cancelWait (hfree : l.isFree = true) (hcancelled : l.cancelled = true) :
      Step source s l .stopped s { l with phase := .stopped }
  /-- A fetch begins because it was asked for. -/
  | request (hfree : l.isFree = true) (hcancelled : l.cancelled = false)
      (hasked : l.asked = true) :
      Step source s l (.started (l.fetches + 1) true l.due) (source.fetch s l.now).1
        { l with
          requested := l.answered.requested
          fetches := l.fetches + 1
          phase := .fetching true (l.now + (source.fetch s l.now).2.1) (source.fetch s l.now).2.2 }
  /-- A tick comes while the loop is paused. -/
  | skip (hfree : l.isFree = true) (hcancelled : l.cancelled = false)
      (hasked : l.asked = false) (hdue : l.due ≤ l.now) (hpaused : l.paused = true) :
      Step source s l (.skipped l.due) s
        { l with due := nextDue l.period l.due l.now, phase := .idle }
  /-- A fetch begins because a tick is due. -/
  | tick (hfree : l.isFree = true) (hcancelled : l.cancelled = false)
      (hasked : l.asked = false) (hdue : l.due ≤ l.now) (hpaused : l.paused = false) :
      Step source s l (.started (l.fetches + 1) false l.due) (source.fetch s l.now).1
        { l with
          due := nextDue l.period l.due l.now
          fetches := l.fetches + 1
          phase := .fetching false (l.now + (source.fetch s l.now).2.1) (source.fetch s l.now).2.2 }
  /-- There is nothing to do. -/
  | wait (hphase : l.phase = .idle) (hcancelled : l.cancelled = false)
      (hasked : l.asked = false) (hdue : ¬l.due ≤ l.now) :
      Step source s l .waited s { l with phase := .waiting false }
  /-- A fetch is cancelled. -/
  | cancelFetch {manual : Bool} {finish : Nat} {result : ρ}
      (hphase : l.phase = .fetching manual finish result) (hcancelled : l.cancelled = true) :
      Step source s l .stopped s { l with phase := .stopped }
  /-- A fetch ends. -/
  | fetched {manual : Bool} {finish : Nat} {result : ρ}
      (hphase : l.phase = .fetching manual finish result) (hcancelled : l.cancelled = false)
      (hfinish : finish ≤ l.now) :
      Step source s l (.fetched l.fetches) s { l with phase := .posting manual result }
  /-- Nobody takes the result. -/
  | refused {manual : Bool} {result : ρ} (hphase : l.phase = .posting manual result)
      (hreceiving : l.receiving = false) :
      Step source s l .stopped s { l with phase := .stopped }
  /-- The result goes into the queue. -/
  | post {manual : Bool} {result : ρ} (hphase : l.phase = .posting manual result)
      (hreceiving : l.receiving = true) (hroom : l.queue.length < l.capacity) :
      Step source s l (.posted l.fetches) s
        { l with
          queue := l.queue ++ [(l.fetches, result)]
          due := if manual then l.now + l.period else l.due
          phase := .idle }

/-- What a loop that is not busy finds to do is one of the steps listed. -/
theorem step_of_choose (hfree : l.isFree = true)
    (h : l.choose source s = some (event, s', l')) : Step source s l event s' l' := by
  unfold choose at h
  split at h
  · next hcancelled =>
    cases h
    exact .cancelWait hfree hcancelled
  · next hcancelled =>
    rw [Bool.not_eq_true] at hcancelled
    split at h
    · next hasked =>
      rw [answered_eq] at h
      cases h
      exact .request hfree hcancelled hasked
    · next hasked =>
      rw [Bool.not_eq_true] at hasked
      split at h
      · next hdue =>
        simp only [begin] at h
        split at h
        · next hpaused =>
          cases h
          exact .skip hfree hcancelled hasked hdue hpaused
        · next hpaused =>
          cases h
          exact .tick hfree hcancelled hasked hdue (Bool.not_eq_true _ ▸ hpaused)
      · cases h

/-- A loop that is not busy finds nothing to do when it is not cancelled, nothing was asked for and
no tick is due. -/
theorem choose_eq_none_iff :
    l.choose source s = none ↔ l.cancelled = false ∧ l.asked = false ∧ ¬l.due ≤ l.now := by
  unfold choose
  cases l.cancelled <;> cases l.asked <;> cases l.paused <;> by_cases hdue : l.due ≤ l.now <;>
    simp [hdue]

/-- Every step of the loop is one of those listed. -/
theorem step_cases (h : step source s l = some (event, s', l')) : Step source s l event s' l' := by
  unfold step at h
  cases hphase : l.phase with
  | idle =>
    simp only [hphase] at h
    have hfree : l.isFree = true := by rw [isFree, hphase]
    rcases Option.or_eq_some_iff.1 h with hchosen | ⟨hnone, hwaited⟩
    · exact step_of_choose hfree hchosen
    · obtain ⟨hcancelled, hasked, hdue⟩ := choose_eq_none_iff.1 hnone
      cases hwaited
      exact .wait hphase hcancelled hasked hdue
  | waiting woken =>
    simp only [hphase] at h
    exact step_of_choose (by rw [isFree, hphase]) h
  | fetching manual finish result =>
    simp only [hphase] at h
    split at h
    · next hcancelled =>
      cases h
      exact .cancelFetch hphase hcancelled
    · next hcancelled =>
      split at h
      · next hfinish =>
        cases h
        exact .fetched hphase (Bool.not_eq_true _ ▸ hcancelled) hfinish
      · cases h
  | posting manual result =>
    simp only [hphase] at h
    split at h
    · next hreceiving =>
      cases h
      exact .refused hphase (by simpa using hreceiving)
    · next hreceiving =>
      split at h
      · next hroom =>
        cases h
        exact .post hphase (by simpa using hreceiving) hroom
      · cases h
  | stopped =>
    simp only [hphase] at h
    cases h

/-- The results of the fetches that an event begins: one or none. -/
def begun (event : RefreshEvent) (l : RefreshLoop ρ) : List (Nat × ρ) :=
  match event with
  | .started .. => l.inFlight
  | _ => []

/-- A step numbers the fetch that it begins. -/
theorem Step.fetches (h : Step source s l event s' l') :
    (begun event l').map (·.1) = List.range' (l.fetches + 1) (begun event l').length ∧
      l'.fetches = l.fetches + (begun event l').length := by
  cases h <;> exact ⟨rfl, rfl⟩

/-- A step begins a result or lets it be, puts it into the queue if it is taken there, or stops the
loop and loses it. -/
theorem Step.flow (h : Step source s l event s' l') :
    l'.receiving = l.receiving ∧
      ((l'.queue = l.queue ∧ l'.inFlight = l.inFlight ++ begun event l') ∨
        (l.receiving = true ∧ l'.queue = l.queue ++ l.inFlight ∧ l'.inFlight = [] ∧
          begun event l' = []) ∨
        (l'.queue = l.queue ∧ l'.isRunning = false ∧ begun event l' = [])) := by
  cases h with
  | cancelWait => exact ⟨rfl, Or.inr (Or.inr ⟨rfl, rfl, rfl⟩)⟩
  | cancelFetch => exact ⟨rfl, Or.inr (Or.inr ⟨rfl, rfl, rfl⟩)⟩
  | refused => exact ⟨rfl, Or.inr (Or.inr ⟨rfl, rfl, rfl⟩)⟩
  | request hfree =>
    refine ⟨rfl, Or.inl ⟨rfl, ?_⟩⟩
    rw [inFlight_of_isFree hfree]
    rfl
  | tick hfree =>
    refine ⟨rfl, Or.inl ⟨rfl, ?_⟩⟩
    rw [inFlight_of_isFree hfree]
    rfl
  | skip hfree =>
    refine ⟨rfl, Or.inl ⟨rfl, ?_⟩⟩
    rw [inFlight_of_isFree hfree]
    rfl
  | wait hphase =>
    refine ⟨rfl, Or.inl ⟨rfl, ?_⟩⟩
    rw [inFlight, inFlight, hphase]
    rfl
  | fetched hphase =>
    refine ⟨rfl, Or.inl ⟨rfl, ?_⟩⟩
    rw [inFlight, inFlight, hphase]
    rfl
  | post hphase hreceiving =>
    refine ⟨rfl, Or.inr (Or.inl ⟨hreceiving, ?_, rfl, rfl⟩)⟩
    rw [inFlight, hphase]

/-- A loop that has stopped makes no step. -/
theorem Step.isRunning (h : Step source s l event s' l') : l.isRunning = true := by
  cases h with
  | cancelWait hfree => exact isRunning_of_isFree hfree
  | request hfree => exact isRunning_of_isFree hfree
  | skip hfree => exact isRunning_of_isFree hfree
  | tick hfree => exact isRunning_of_isFree hfree
  | _ => simp [RefreshLoop.isRunning, *]

end RefreshLoop

namespace Bridge

variable {β : Type} {b b' : Bridge β}

/-- What a step of the bridge does. -/
inductive Step (b : Bridge β) : Bridge β → Prop where
  /-- The bridge is cancelled; what it did not move is lost. -/
  | cancel (hfinished : b.finished = false) (hcancelled : b.cancelled = true) :
      Step b { b with finished := true, incoming := [] }
  /-- An item is moved. -/
  | move {item : β} {rest : List β} (hfinished : b.finished = false)
      (hcancelled : b.cancelled = false) (hincoming : b.incoming = item :: rest)
      (hreceiving : b.receiving = true) :
      Step b { b with incoming := rest, outgoing := b.outgoing ++ [item] }
  /-- There is an item that nobody takes. -/
  | refused {item : β} {rest : List β} (hfinished : b.finished = false)
      (hcancelled : b.cancelled = false) (hincoming : b.incoming = item :: rest)
      (hreceiving : b.receiving = false) :
      Step b { b with finished := true, incoming := [] }
  /-- No item will come any more. -/
  | finish (hfinished : b.finished = false) (hcancelled : b.cancelled = false)
      (hincoming : b.incoming = []) (hsending : b.sending = false) :
      Step b { b with finished := true, incoming := [] }

/-- Every step of the bridge is one of those listed. -/
theorem step_cases (h : b.step = some b') : Step b b' := by
  unfold step at h
  split at h
  · cases h
  · next hfinished =>
    rw [Bool.not_eq_true] at hfinished
    split at h
    · next hcancelled =>
      cases h
      exact .cancel hfinished hcancelled
    · next hcancelled =>
      rw [Bool.not_eq_true] at hcancelled
      cases hincoming : b.incoming with
      | cons item rest =>
        simp only [hincoming] at h
        split at h
        · next hreceiving =>
          cases h
          exact .move hfinished hcancelled hincoming hreceiving
        · next hreceiving =>
          cases h
          exact .refused hfinished hcancelled hincoming (Bool.not_eq_true _ ▸ hreceiving)
      | nil =>
        simp only [hincoming] at h
        split at h
        · cases h
        · next hsending =>
          cases h
          exact .finish hfinished hcancelled hincoming (Bool.not_eq_true _ ▸ hsending)

end Bridge

end TrafficMap
