/-!
# The refresh loop

The loop fetches on a fixed period and whenever it is asked to, one fetch at a time, and posts the
numbered results into a queue of bounded capacity. It is a machine that makes one step at a time
(`RefreshLoop.step`); between steps anything may happen to it from outside: a request for a
refresh, a pause, a cancellation, a result taken from the queue, time going by.

Times are milliseconds. `nextDue` is the rule for ticks: one that is served late drops the ticks
that were missed and keeps to the multiples of the period.

A request wakes the loop if it waits, and is kept otherwise. One request is kept at most, so any
number of them made during a fetch are served together; but a loop that was woken and has not begun
to fetch yet keeps the next one. A step is made at once: a request that comes in the middle of one
comes after it.
-/

namespace TrafficMap

/-- What the loop is doing. -/
inductive RefreshPhase (ρ : Type) where
  /-- About to look for something to do. -/
  | idle
  /-- Waiting for a tick or a request, and whether a request came. -/
  | waiting (woken : Bool)
  /-- Fetching; the result is known at the given time. -/
  | fetching (manual : Bool) (finish : Nat) (result : ρ)
  /-- Waiting for room in the queue. -/
  | posting (manual : Bool) (result : ρ)
  | stopped

/-- The state of a refresh loop. -/
structure RefreshLoop (ρ : Type) where
  period : Nat
  /-- How many results the queue holds. -/
  capacity : Nat
  now : Nat := 0
  /-- When the next tick is due. -/
  due : Nat := 0
  /-- How many fetches were begun; this is the number of the last one. -/
  fetches : Nat := 0
  /-- Whether a request is kept for the next time that the loop looks for something to do. -/
  requested : Bool := false
  paused : Bool := false
  cancelled : Bool := false
  /-- Whether anyone still takes results. -/
  receiving : Bool := true
  queue : List (Nat × ρ) := []
  phase : RefreshPhase ρ := .idle

/-- Where the results come from: a fetch that begins at a time takes some milliseconds and ends
with a result. -/
structure RefreshSource (σ ρ : Type) where
  fetch : σ → Nat → σ × Nat × ρ

/-- What a step did. -/
inductive RefreshEvent where
  /-- There was nothing to do. -/
  | waited
  /-- A tick came while the loop was paused. -/
  | skipped (due : Nat)
  /-- A fetch was begun, because it was asked for or because a tick was due. -/
  | started (number : Nat) (manual : Bool) (due : Nat)
  /-- A fetch ended. -/
  | fetched (number : Nat)
  /-- A result was put into the queue. -/
  | posted (number : Nat)
  | stopped
  deriving DecidableEq, Repr

namespace RefreshLoop

variable {σ ρ : Type}

/-- The loop before its first step. There is no clock with a period of zero, so such a loop has
stopped. -/
def ofPeriod (period capacity : Nat) : RefreshLoop ρ :=
  { period, capacity, phase := if period = 0 then .stopped else .idle }

/-- Whether the loop has not stopped. -/
def isRunning (l : RefreshLoop ρ) : Bool :=
  match l.phase with
  | .stopped => false
  | _ => true

/-- The result that the loop fetches or has fetched and not posted yet, with its number. -/
def inFlight (l : RefreshLoop ρ) : List (Nat × ρ) :=
  match l.phase with
  | .fetching _ _ result => [(l.fetches, result)]
  | .posting _ result => [(l.fetches, result)]
  | _ => []

/-! ## The outside -/

/-- Asks for a refresh. -/
def request (l : RefreshLoop ρ) : RefreshLoop ρ :=
  match l.phase with
  | .waiting false => { l with phase := .waiting true }
  | _ => { l with requested := true }

/-- Stops or resumes refreshes by the clock. -/
def setPaused (l : RefreshLoop ρ) (paused : Bool) : RefreshLoop ρ :=
  { l with paused }

/-- Asks the loop to stop. -/
def cancel (l : RefreshLoop ρ) : RefreshLoop ρ :=
  { l with cancelled := true }

/-- Takes all results from the queue. -/
def drain (l : RefreshLoop ρ) : List (Nat × ρ) × RefreshLoop ρ :=
  (l.queue, { l with queue := [] })

/-- Gives up taking results; those in the queue are lost. -/
def close (l : RefreshLoop ρ) : RefreshLoop ρ :=
  { l with receiving := false, queue := [] }

/-! ## Steps -/

/-- The milliseconds that a tick may be late without counting as missed. -/
def tolerance : Nat := 5

/-- When the tick after one that was due at `due` and is served at `now` is due: one period later,
or, if it was served too late, at the next multiple of the period. -/
def nextDue (period due now : Nat) : Nat :=
  if due + tolerance < now then now + period - (now - due) % period else due + period

/-- Begins a fetch. -/
def begin (source : RefreshSource σ ρ) (s : σ) (l : RefreshLoop ρ) (manual : Bool) :
    σ × RefreshLoop ρ :=
  let (s, duration, result) := source.fetch s l.now
  (s, { l with
    fetches := l.fetches + 1
    phase := .fetching manual (l.now + duration) result })

/-- Whether the refresh that the loop would begin next was asked for. -/
def asked (l : RefreshLoop ρ) : Bool :=
  match l.phase with
  | .idle => l.requested
  | .waiting woken => woken
  | _ => false

/-- The loop when the request is taken up. -/
def answered (l : RefreshLoop ρ) : RefreshLoop ρ :=
  match l.phase with
  | .idle => { l with requested := false }
  | _ => l

/-- What a loop that is not busy finds to do. A cancellation comes before a request, a request
before a tick. -/
def choose (source : RefreshSource σ ρ) (s : σ) (l : RefreshLoop ρ) :
    Option (RefreshEvent × σ × RefreshLoop ρ) :=
  if l.cancelled then some (.stopped, s, { l with phase := .stopped })
  else if l.asked then
    let (s, l') := begin source s l.answered true
    some (.started l'.fetches true l.due, s, l')
  else if l.due ≤ l.now then
    let next := { l with due := nextDue l.period l.due l.now }
    if l.paused then some (.skipped l.due, s, { next with phase := .idle })
    else
      let (s, l') := begin source s next false
      some (.started l'.fetches false l.due, s, l')
  else none

/-- The next step of the loop at the present time, if it can make one. -/
def step (source : RefreshSource σ ρ) (s : σ) (l : RefreshLoop ρ) :
    Option (RefreshEvent × σ × RefreshLoop ρ) :=
  match l.phase with
  | .idle => (l.choose source s).or (some (.waited, s, { l with phase := .waiting false }))
  | .waiting _ => l.choose source s
  | .fetching manual finish result =>
    if l.cancelled then some (.stopped, s, { l with phase := .stopped })
    else if finish ≤ l.now then
      some (.fetched l.fetches, s, { l with phase := .posting manual result })
    else none
  | .posting manual result =>
    if !l.receiving then some (.stopped, s, { l with phase := .stopped })
    else if l.queue.length < l.capacity then
      some (.posted l.fetches, s,
        { l with
          queue := l.queue ++ [(l.fetches, result)]
          due := if manual then l.now + l.period else l.due
          phase := .idle })
    else none
  | .stopped => none

/-- When the loop can make a step by itself. -/
def wake? (l : RefreshLoop ρ) : Option Nat :=
  match l.phase with
  | .waiting _ => some l.due
  | .fetching _ finish _ => some finish
  | _ => none

/-- Makes the steps that are possible before a time, moving the clock on when there is none; fuel
bounds the number of steps. -/
def runBefore (source : RefreshSource σ ρ) (limit : Nat) :
    Nat → σ → RefreshLoop ρ → σ × RefreshLoop ρ
  | 0, s, l => (s, { l with now := limit })
  | fuel + 1, s, l =>
    match step source s l with
    | some (_, s, l) => runBefore source limit fuel s l
    | none =>
      match l.wake? with
      | some t =>
        if l.now < t && t < limit then runBefore source limit fuel s { l with now := t }
        else (s, { l with now := limit })
      | none => (s, { l with now := limit })

/-- Lets the loop run for some milliseconds; what falls due at the very end is left for later. A
tick makes at most five steps, and ticks are at least one millisecond apart. -/
def run (source : RefreshSource σ ρ) (millis : Nat) (s : σ) (l : RefreshLoop ρ) :
    σ × RefreshLoop ρ :=
  if millis = 0 then (s, l)
  else runBefore source (l.now + millis) (5 * millis + 64) s l

/-- Cancels the loop and lets it stop. -/
def shutdown (source : RefreshSource σ ρ) (s : σ) (l : RefreshLoop ρ) : σ × RefreshLoop ρ :=
  runBefore source l.now 64 s l.cancel

end RefreshLoop

end TrafficMap
