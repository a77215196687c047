import Mathlib
import TrafficMap.Proofs.Engine.Run
import TrafficMap.Proofs.Refresh.Step
import TrafficMap.Terminal.Dashboard

/-!
# Outcomes arrive in order

On its way from the refresh loop to the engine an outcome passes two queues, and between two moves of
one party the others can make any number of theirs. `Dashboard.cycles` lists the outcomes of the
fetches that a run begins, `Dashboard.arrivals` those that the engine is given, with what became of
them. `Orderly` ties both to the queues: what arrived, followed by what is on its way, is what was
begun, unless the bridge or the loop has stopped, and then it is a beginning of that. Every move but a
teardown keeps this (`Orderly.next`), so no outcome arrives twice, too late or before its turn, and
none is discarded before the generations, which have 64 bits, are used up (`arrivals_of_run`).
-/

namespace TrafficMap

namespace Terminal

/-! ## What the screen does to the engine -/

/-- The outcome that an action brings, if it brings one. -/
def Action.outcome? : Action → Option Outcome
  | .refreshed outcome => some outcome
  | _ => none

/-- No key brings an outcome. -/
theorem Action.outcome?_ofKey (key : Key) (modifiers : Modifiers) :
    (Action.ofKey? key modifiers).toList.filterMap Action.outcome? = [] := by
  unfold Action.ofKey?
  split <;> try rfl
  split <;> rfl

namespace Screen

/-- An outcome is applied to the engine. -/
theorem engine_update_refreshed (s : Screen) (now : Nat) (outcome : Outcome) :
    (s.update now (.refreshed outcome)).engine = (s.engine.apply now outcome).2 := by
  simp only [update, applyOutcome]
  split <;> rfl

/-- Other actions leave what the engine remembers of outcomes. -/
theorem memory_update (s : Screen) (now : Nat) {action : Action} (h : action.outcome? = none) :
    (s.update now action).engine.memory = s.engine.memory := by
  cases action with
  | refreshed outcome => cases h
  | selectNext =>
    simp only [update, moveSelection]
    split <;> rfl
  | selectPrevious =>
    simp only [update, moveSelection]
    split <;> rfl
  | _ => rfl

theorem memory_draw (s : Screen) (area : Area) (nanos : Nat) :
    ((s.fit area).tick nanos).engine.memory = s.engine.memory :=
  s.engine.memory_resize _ _

end Screen

namespace Dashboard

variable {σ : Type} {source : RefreshSource σ (Except Failure Snapshot)}

/-! ## Cycles and arrivals -/

/-- The outcomes of the fetches that a move begins: one or none. -/
def begun (source : RefreshSource σ (Except Failure Snapshot)) (d : Dashboard σ) :
    Move → List Outcome
  | .refresh =>
    match d.loop.step source d.source with
    | none => []
    | some (event, _, loop) => (RefreshLoop.begun event loop).map .ofNumbered
  | _ => []

/-- The outcomes that a move gives to the engine, with its answers: one or none. -/
def given (d : Dashboard σ) : Move → List (Outcome × Applied)
  | .handle =>
    (d.actions.head?.bind Action.outcome?).toList.map fun outcome =>
      (outcome, (d.screen.engine.apply d.loop.now outcome).1)
  | _ => []

/-- The outcomes of the fetches that the loop begins in the course of moves, in order. -/
def cycles (source : RefreshSource σ (Except Failure Snapshot)) (d : Dashboard σ) :
    List Move → List Outcome
  | [] => []
  | move :: moves => d.begun source move ++ (d.next source move).cycles source moves

/-- The outcomes that the engine is given in the course of moves, in order, with its answers. -/
def arrivals (source : RefreshSource σ (Except Failure Snapshot)) (d : Dashboard σ) :
    List Move → List (Outcome × Applied)
  | [] => []
  | move :: moves => d.given move ++ (d.next source move).arrivals source moves

/-- The outcomes between the loop and the engine: those of the actions, then those of the queue. -/
def waiting (d : Dashboard σ) : List Outcome :=
  d.actions.filterMap Action.outcome? ++ d.loop.queue.map .ofNumbered

/-- The outcome that the loop has not posted yet: one or none. -/
def underWay (d : Dashboard σ) : List Outcome :=
  d.loop.inFlight.map .ofNumbered

/-- An outcome at the head of the actions goes to the engine, and nothing else changes. -/
theorem handle_refreshed (source : RefreshSource σ (Except Failure Snapshot)) {d : Dashboard σ}
    {outcome : Outcome} {actions : List Action}
    (hactions : d.actions = .refreshed outcome :: actions) :
    d.next source .handle =
        { d with actions, screen := d.screen.update d.loop.now (.refreshed outcome) } ∧
      d.given .handle = [(outcome, (d.screen.engine.apply d.loop.now outcome).1)] := by
  constructor
  · simp only [next, handle, hactions, carryOut]
  · simp [given, hactions, Action.outcome?]

/-! ## What every move keeps -/

/-- What arrived and what is on its way are the cycles so far, or a beginning of them. -/
structure Orderly (d : Dashboard σ) (cycles : List Outcome) (arrived : List (Outcome × Applied)) :
    Prop where
  /-- Nothing is on its way but the cycles that follow those that arrived. -/
  kept : arrived.map (·.1) ++ d.waiting <+: cycles
  /-- Nothing is lost before the bridge or the loop has stopped. -/
  complete : d.loop.receiving = true → d.loop.isRunning = true →
    arrived.map (·.1) ++ d.waiting ++ d.underWay = cycles
  numbered : cycles.map (·.generation) = (List.range' 1 d.loop.fetches).map .ofNat
  /-- The engine counts what arrived, up to the largest generation. -/
  engine : d.screen.engine.generation.toNat = min arrived.length (2 ^ 64 - 1)
  accepted : ∀ k arrival, arrived[k]? = some arrival → (arrival.2 ≠ .discarded ↔ k + 1 < 2 ^ 64)

/-- Nothing has begun in a loop without steps. -/
theorem underWay_start (width height : Float) (options : EngineOptions Float)
    (generator : Generator) (s : σ) (capacity : Nat) :
    (start width height options generator s capacity).underWay = [] := by
  by_cases hperiod : options.refreshMillis = 0 <;>
    simp [start, underWay, RefreshLoop.ofPeriod, RefreshLoop.inFlight, hperiod]

theorem orderly_start (width height : Float) (options : EngineOptions Float)
    (generator : Generator) (s : σ) (capacity : Nat) :
    (start width height options generator s capacity).Orderly [] [] where
  kept := List.prefix_rfl
  complete _ _ := by
    rw [underWay_start]
    rfl
  numbered := rfl
  engine := rfl
  accepted _ _ h := nomatch h

namespace Orderly

variable {d d' : Dashboard σ} {cycles : List Outcome} {arrived : List (Outcome × Applied)}

/-- What changes neither the outcomes on their way nor the counters keeps the order. -/
theorem of_same (h : d.Orderly cycles arrived) (hwaiting : d'.waiting = d.waiting)
    (hunderWay : d'.underWay = d.underWay) (hreceiving : d'.loop.receiving = d.loop.receiving)
    (hrunning : d'.loop.isRunning = d.loop.isRunning)
    (hloop : d'.loop.fetches = d.loop.fetches)
    (hengine : d'.screen.engine.memory = d.screen.engine.memory) : d'.Orderly cycles arrived where
  kept := hwaiting ▸ h.kept
  complete := by
    rw [hreceiving, hrunning, hwaiting, hunderWay]
    exact h.complete
  numbered := hloop ▸ h.numbered
  engine := (congrArg (·.generation.toNat) hengine).trans h.engine
  accepted := h.accepted

/-- The outcome that comes next has the number after those that arrived. -/
theorem generation_head {outcome : Outcome} {rest : List Outcome} (h : d.Orderly cycles arrived)
    (hwaiting : d.waiting = outcome :: rest) :
    outcome.generation = .ofNat (arrived.length + 1) := by
  have hkept := h.kept.map (·.generation)
  rw [h.numbered, hwaiting] at hkept
  have hnumbers := eq_map_range'_of_prefix hkept
  have hat := congrArg (·[arrived.length]?) hnumbers
  simpa [Nat.add_comm] using hat

/-- The outcome that comes next is newer than the engine, as long as 64 bits can number it. -/
theorem newer_head_iff {outcome : Outcome} {rest : List Outcome} (h : d.Orderly cycles arrived)
    (hwaiting : d.waiting = outcome :: rest) :
    d.screen.engine.generation < outcome.generation ↔ arrived.length + 1 < 2 ^ 64 := by
  rw [UInt64.lt_iff_toNat_lt, h.engine, h.generation_head hwaiting, UInt64.toNat_ofNat']
  omega

/-- A step of the loop keeps the order: a cycle begins, its outcome goes into the queue, or the
loop stops. -/
theorem refresh (h : d.Orderly cycles arrived) :
    (d.refresh source).Orderly (cycles ++ d.begun source .refresh) arrived := by
  cases hstep : d.loop.step source d.source with
  | none =>
    simp only [Dashboard.refresh, begun, hstep, List.append_nil]
    exact h
  | some step =>
    obtain ⟨event, s, l⟩ := step
    simp only [Dashboard.refresh, begun, hstep]
    have hmade := RefreshLoop.step_cases hstep
    obtain ⟨hnumbers, hfetches⟩ := hmade.fetches
    obtain ⟨hreceiving, hflow⟩ := hmade.flow
    have hnumbered :
        (cycles ++ (RefreshLoop.begun event l).map Outcome.ofNumbered).map (·.generation) =
          (List.range' 1 l.fetches).map .ofNat := by
      rw [List.map_append, h.numbered, List.map_map, hfetches, ← List.range'_append_1,
        List.map_append, Nat.add_comm 1, ← hnumbers, List.map_map]
      rfl
    have hsofar := h.complete
    rcases hflow with ⟨hqueue, hinFlight⟩ | ⟨hopen, hqueue, hinFlight, hbegun⟩ |
      ⟨hqueue, hstopped, hbegun⟩
    · -- the outcome of a cycle that begins is under way
      refine ⟨?_, fun hreceives _ => ?_, hnumbered, h.engine, h.accepted⟩
      · rw [waiting, hqueue]
        exact h.kept.trans (List.prefix_append ..)
      · rw [← hsofar (hreceiving ▸ hreceives) hmade.isRunning, waiting, underWay, hqueue, hinFlight,
          List.map_append, ← List.append_assoc]
        rfl
    · -- what was under way waits in the queue
      have hmoved : arrived.map (·.1) ++ (d.actions.filterMap Action.outcome? ++
          l.queue.map .ofNumbered) = cycles := by
        rw [← hsofar hopen hmade.isRunning, hqueue, List.map_append]
        simp only [waiting, underWay, List.append_assoc]
      rw [hbegun, List.map_nil, List.append_nil] at hnumbered ⊢
      refine ⟨hmoved ▸ List.prefix_rfl, fun _ _ => ?_, hnumbered, h.engine, h.accepted⟩
      rw [underWay, hinFlight, List.map_nil, List.append_nil]
      exact hmoved
    · -- what was under way is lost with the loop
      rw [hbegun, List.map_nil, List.append_nil] at hnumbered ⊢
      refine ⟨?_, fun _ hruns => ?_, hnumbered, h.engine, h.accepted⟩
      · rw [waiting, hqueue]
        exact h.kept
      · exact absurd hruns (by simp [hstopped])

/-- A step of the bridge keeps the order: an outcome goes over to the actions, or those in the queue
are lost. -/
theorem forward (h : d.Orderly cycles arrived) : d.forward.Orderly cycles arrived := by
  cases hstep : d.bridge.step with
  | none =>
    rw [Dashboard.forward, hstep]
    exact h
  | some b =>
    -- a bridge that ends takes nothing any more, and the actions stay
    have hends (hincoming : b.incoming = []) (houtgoing : b.outgoing = [])
        (hfinished : b.finished = true) : d.forward.Orderly cycles arrived := by
      simp only [Dashboard.forward, hstep]
      refine ⟨?_, fun hreceives => ?_, h.numbered, h.engine, h.accepted⟩
      · simp only [waiting, hincoming, houtgoing, List.map_nil, List.append_nil]
        refine List.IsPrefix.trans ?_ h.kept
        rw [waiting, ← List.append_assoc]
        exact List.prefix_append ..
      · simp [hfinished] at hreceives
    cases Bridge.step_cases hstep with
    | cancel => exact hends rfl rfl rfl
    | refused => exact hends rfl rfl rfl
    | finish => exact hends rfl rfl rfl
    | move hfinished hcancelled hincoming htaken =>
      next item rest =>
      have hqueue : d.loop.queue = item :: rest := hincoming
      have hopen : d.loop.receiving = true := by simpa [bridge] using hfinished
      simp only [Dashboard.forward, hstep]
      refine h.of_same ?_ rfl ?_ rfl rfl rfl
      · simp [waiting, bridge, hqueue, Action.outcome?]
      · simp [hopen, bridge]

/-- What the screen does with an action that brings no outcome keeps the order. -/
theorem carryOut {action : Action} (h : d.Orderly cycles arrived) (hnone : action.outcome? = none) :
    (d.carryOut action).Orderly cycles arrived := by
  cases action with
  | refreshed outcome => cases hnone
  | refreshNow =>
    refine h.of_same ?_ ?_ ?_ RefreshLoop.isRunning_request ?_ rfl
    · rw [Dashboard.carryOut, waiting, RefreshLoop.request_eq]
      rfl
    · rw [Dashboard.carryOut, underWay, RefreshLoop.inFlight_request]
      rfl
    · rw [Dashboard.carryOut, RefreshLoop.request_eq]
    · rw [Dashboard.carryOut, RefreshLoop.request_eq]
  | togglePause => exact h.of_same rfl rfl rfl rfl rfl rfl
  | _ => exact h.of_same rfl rfl rfl rfl rfl (d.screen.memory_update _ hnone)

/-- The outcome that is carried out next is the one that the engine waits for. -/
theorem arrive {outcome : Outcome} {actions : List Action} (h : d.Orderly cycles arrived)
    (hactions : d.actions = .refreshed outcome :: actions) :
    (d.next source .handle).Orderly cycles (arrived ++ d.given .handle) := by
  have hwaiting : d.waiting = outcome :: { d with actions }.waiting := by
    rw [waiting, hactions]
    rfl
  obtain ⟨hnext, hgiven⟩ := handle_refreshed source hactions
  -- the outcome moves over from those that wait to those that arrived
  have hmoved (answer : Applied) : (arrived ++ [(outcome, answer)]).map (·.1) ++
      { d with actions }.waiting = arrived.map (·.1) ++ d.waiting := by
    rw [hwaiting, List.map_append, List.append_assoc]
    rfl
  rw [hnext, hgiven]
  refine ⟨?_, ?_, h.numbered, ?_, ?_⟩
  · exact (hmoved _).symm ▸ h.kept
  · exact (hmoved _).symm ▸ h.complete
  · rw [Screen.engine_update_refreshed, Engine.toNat_generation_apply, h.engine,
      h.generation_head hwaiting, UInt64.toNat_ofNat', List.length_append, List.length_singleton]
    omega
  · intro k arrival harrival
    rw [List.getElem?_append] at harrival
    split at harrival
    · exact h.accepted k arrival harrival
    · -- the only place after those that arrived is that of the outcome
      rw [List.getElem?_singleton, Option.ite_none_right_eq_some, Option.some.injEq] at harrival
      obtain ⟨hplace, rfl⟩ := harrival
      rw [Engine.ne_discarded_iff, h.newer_head_iff hwaiting]
      omega

/-- Whatever is carried out next keeps the order. -/
theorem handle (h : d.Orderly cycles arrived) :
    (d.next source .handle).Orderly cycles (arrived ++ d.given .handle) := by
  cases hactions : d.actions with
  | nil =>
    simp only [next, Dashboard.handle, hactions, given, List.head?_nil, Option.bind_none,
      Option.toList_none, List.map_nil, List.append_nil]
    exact h
  | cons action actions =>
    cases houtcome : action.outcome? with
    | none =>
      have hpopped : { d with actions }.Orderly cycles arrived := by
        refine h.of_same ?_ rfl rfl rfl rfl rfl
        simp [waiting, hactions, houtcome]
      simp only [next, Dashboard.handle, hactions, given, List.head?_cons, Option.bind_some,
        houtcome, Option.toList_none, List.map_nil, List.append_nil]
      exact hpopped.carryOut houtcome
    | some outcome =>
      have hrefreshed : action = .refreshed outcome := by
        cases action with
        | refreshed => exact congrArg Action.refreshed (Option.some.inj houtcome)
        | _ => cases houtcome
      exact h.arrive (hrefreshed ▸ hactions)

/-- Every move but a teardown keeps the order. -/
theorem next (h : d.Orderly cycles arrived) {move : Move} (hmove : move ≠ .quit) :
    (d.next source move).Orderly (cycles ++ d.begun source move) (arrived ++ d.given move) := by
  cases move with
  | refresh =>
    simp only [given, List.append_nil]
    exact h.refresh
  | handle =>
    simp only [begun, List.append_nil]
    exact h.handle
  | forward =>
    simp only [begun, given, List.append_nil]
    exact h.forward
  | quit => exact absurd rfl hmove
  | key key modifiers =>
    simp only [begun, given, List.append_nil]
    refine h.of_same ?_ rfl rfl rfl rfl rfl
    simp [waiting, Dashboard.next, Action.outcome?_ofKey]
  | loadIcon kind result =>
    simp only [begun, given, List.append_nil]
    refine h.of_same ?_ rfl rfl rfl rfl rfl
    simp [waiting, Dashboard.next, Action.outcome?]
  | draw area nanos =>
    simp only [begun, given, List.append_nil]
    exact h.of_same rfl rfl rfl rfl rfl (d.screen.memory_draw _ _)
  | _ =>
    simp only [begun, given, List.append_nil]
    exact h.of_same rfl rfl rfl rfl rfl rfl

/-- A run without a teardown keeps the order. -/
theorem run (h : d.Orderly cycles arrived) (moves : List Move) (hmoves : Move.quit ∉ moves) :
    (d.run source moves).Orderly (cycles ++ d.cycles source moves)
      (arrived ++ d.arrivals source moves) := by
  induction moves generalizing d cycles arrived with
  | nil =>
    rw [Dashboard.cycles, arrivals, List.append_nil, List.append_nil]
    exact h
  | cons move moves ih =>
    rw [List.mem_cons, not_or] at hmoves
    rw [Dashboard.cycles, arrivals, ← List.append_assoc, ← List.append_assoc]
    exact ih (h.next (Ne.symm hmoves.1)) hmoves.2

end Orderly

/-- However the parties take turns, as long as the engine is not torn down: the outcomes that it is
given are the first ones of the loop's cycles, which are numbered 1, 2, 3 and so on, each once and in
order, and it discards none of them that 64 bits can number. Until the bridge or the loop stops, the
other ones are all on their way. -/
theorem arrivals_of_run (width height : Float) (options : EngineOptions Float)
    (generator : Generator) (s : σ) (capacity : Nat)
    (source : RefreshSource σ (Except Failure Snapshot)) (moves : List Move)
    (hmoves : Move.quit ∉ moves) :
    let d := start width height options generator s capacity
    (d.arrivals source moves).map (·.1) <+: d.cycles source moves ∧
      (d.cycles source moves).map (·.generation) =
        (List.range' 1 (d.cycles source moves).length).map .ofNat ∧
      (d.arrivals source moves).map (·.1.generation) =
        (List.range' 1 (d.arrivals source moves).length).map .ofNat ∧
      (∀ k arrival, (d.arrivals source moves)[k]? = some arrival →
        (arrival.2 ≠ .discarded ↔ k + 1 < 2 ^ 64)) ∧
      ((d.run source moves).loop.receiving = true → (d.run source moves).loop.isRunning = true →
        (d.arrivals source moves).map (·.1) ++ (d.run source moves).waiting ++
          (d.run source moves).underWay = d.cycles source moves) := by
  intro d
  have h : (d.run source moves).Orderly (d.cycles source moves) (d.arrivals source moves) :=
    (orderly_start width height options generator s capacity).run moves hmoves
  have harrived : (d.arrivals source moves).map (·.1) <+: d.cycles source moves :=
    (List.prefix_append _ _).trans h.kept
  have hcycles : (d.cycles source moves).map (·.generation) =
      (List.range' 1 (d.cycles source moves).length).map .ofNat := by
    have hlength := congrArg List.length h.numbered
    rw [List.length_map, List.length_map, List.length_range'] at hlength
    rw [h.numbered, hlength]
  have hgenerations := harrived.map (·.generation)
  rw [hcycles, List.map_map] at hgenerations
  have hnumbers := eq_map_range'_of_prefix hgenerations
  rw [List.length_map] at hnumbers
  exact ⟨harrived, hcycles, hnumbers, h.accepted, h.complete⟩

/-- The first cycle fails and arrives between a resize and a pause; the second one waits in the queue
when the bridge is cancelled, the third one is under way when the loop is. -/
theorem arrivals_of_run_cancelled :
    let source : RefreshSource Bool (Except Failure Snapshot) :=
      { fetch := fun failing _ => (!failing, 10, if failing then .error .timeout else .ok {}) }
    let d : Dashboard Bool := start 160.0 96.0 .standard (.ofSeed 1) true
    let moves : List Move :=
      [.refresh, .wait 10, .refresh, .refresh, .forward, .draw (.ofParts 0 0 120 40) 16000000,
        .handle, .key (.char 'r') {}, .handle, .refresh, .wait 10, .refresh, .refresh,
        .cancelBridge, .forward, .key (.char 'p') {}, .key (.char 'r') {}, .handle, .handle,
        .refresh, .cancelLoop, .wait 10, .refresh, .forward, .handle]
    Move.quit ∉ moves ∧
      (d.cycles source moves).map (·.generation) = [1, 2, 3] ∧
      (d.arrivals source moves).map (·.1.generation) = [1] ∧
      ∀ arrival ∈ d.arrivals source moves, arrival.2 ≠ .discarded := by
  intro source d moves
  have hmoves : Move.quit ∉ moves := by simp [moves]
  obtain ⟨-, hcycles, harrivals, haccepted, -⟩ :=
    arrivals_of_run 160.0 96.0 .standard (.ofSeed 1) true queueCapacity source moves hmoves
  have hthree : (d.cycles source moves).length = 3 := by decide +kernel
  have hone : (d.arrivals source moves).length = 1 := by decide +kernel
  refine ⟨hmoves, ?_, ?_, ?_⟩
  · rw [hcycles, hthree]
    rfl
  · rw [harrivals, hone]
    rfl
  · intro arrival harrival
    obtain ⟨k, hk, hat⟩ := List.mem_iff_getElem.1 harrival
    rw [hone] at hk
    exact (haccepted k arrival (List.getElem?_eq_some_iff.2 ⟨_, hat⟩)).2 (by omega)

end Dashboard

end Terminal

end TrafficMap
