import TrafficMap.Refresh.Bridge
import TrafficMap.Refresh.Loop
import TrafficMap.Terminal.Screen

/-!
# The dashboard

Three parties keep the picture up to date: the refresh loop posts numbered results into a bounded
queue, the bridge makes actions of them, and the screen carries out actions one after the other,
those of keys and icons among them. `Dashboard.next` lets one party move; in which order they move
is left open.
-/

namespace TrafficMap.Terminal

/-- The state of all parties. The bridge holds the far end of the loop's queue, so it has finished
when nobody takes results any more. -/
structure Dashboard (σ : Type) where
  /-- The state of the source that the loop fetches from. -/
  source : σ
  loop : RefreshLoop (Except Failure Snapshot)
  /-- Whether the bridge is to stop. -/
  bridgeCancelled : Bool := false
  /-- The actions that are still to be carried out. -/
  actions : List Action := []
  screen : Screen

/-- What can happen next. -/
inductive Move where
  /-- The loop makes a step. -/
  | refresh
  /-- The bridge makes a step. -/
  | forward
  /-- The next action is carried out. -/
  | handle
  | wait (millis : Nat)
  | key (key : Key) (modifiers : Modifiers)
  | loadIcon (kind : DeviceKind) (result : Except Failure Icon)
  /-- A frame is drawn on a screen of some size, some time after the last one. -/
  | draw (area : Area) (nanos : Nat)
  | cancelBridge
  | cancelLoop
  /-- The engine is torn down, and the others are told to stop. -/
  | quit

namespace Dashboard

variable {σ : Type}

/-- How many results the queue of the loop holds. -/
def queueCapacity : Nat := 4

/-- The longest time that the particles move in one frame, in nanoseconds. -/
def maxFrameNanos : Nat := 250000000

/-- The dashboard before its first move. -/
def start (width height : Float) (options : EngineOptions Float) (generator : Generator)
    (source : σ) (capacity : Nat := queueCapacity) : Dashboard σ :=
  { source
    loop := .ofPeriod options.refreshMillis capacity
    screen :=
      { engine := .start width height options.speed options.iconDir { generator }
        refreshMillis := options.refreshMillis } }

/-! ## The bridge -/

/-- The bridge as it sees the queues: results can still be sent until the loop has stopped. -/
def bridge (d : Dashboard σ) : Bridge (Nat × Except Failure Snapshot) :=
  { incoming := d.loop.queue
    sending := d.loop.isRunning
    cancelled := d.bridgeCancelled
    finished := !d.loop.receiving }

/-- A step of the bridge, if it can make one. What it moves becomes actions. -/
def forward (d : Dashboard σ) : Dashboard σ :=
  match d.bridge.step with
  | none => d
  | some b =>
    { d with
      loop := { d.loop with queue := b.incoming, receiving := !b.finished }
      actions := d.actions ++ b.outgoing.map fun item => .refreshed (.ofNumbered item) }

/-! ## The loop and the screen -/

/-- A step of the loop, if it can make one. -/
def refresh (source : RefreshSource σ (Except Failure Snapshot)) (d : Dashboard σ) : Dashboard σ :=
  match d.loop.step source d.source with
  | none => d
  | some (_, s, loop) => { d with source := s, loop }

/-- Carries an action out: two of them are for the loop, the others for the screen. -/
def carryOut (action : Action) (d : Dashboard σ) : Dashboard σ :=
  match action with
  | .refreshNow => { d with loop := d.loop.request }
  | .togglePause =>
    let paused := !d.loop.paused
    { d with loop := d.loop.setPaused paused, screen := { d.screen with paused } }
  | action => { d with screen := d.screen.update d.loop.now action }

/-- Carries the next action out, if there is one. -/
def handle (d : Dashboard σ) : Dashboard σ :=
  match d.actions with
  | [] => d
  | action :: actions => carryOut action { d with actions }

/-! ## Moves -/

/-- The dashboard after a move. -/
def next (source : RefreshSource σ (Except Failure Snapshot)) (d : Dashboard σ) :
    Move → Dashboard σ
  | .refresh => d.refresh source
  | .forward => d.forward
  | .handle => d.handle
  | .wait millis => { d with loop := { d.loop with now := d.loop.now + millis } }
  | .key key modifiers => { d with actions := d.actions ++ (Action.ofKey? key modifiers).toList }
  | .loadIcon kind result => { d with actions := d.actions ++ [.iconLoaded kind result] }
  | .draw area nanos => { d with screen := (d.screen.fit area).tick (min nanos maxFrameNanos) }
  | .cancelBridge => { d with bridgeCancelled := true }
  | .cancelLoop => { d with loop := d.loop.cancel }
  | .quit =>
    { d with
      loop := d.loop.cancel
      bridgeCancelled := true
      screen := { d.screen with engine := d.screen.engine.teardown } }

/-- The dashboard after moves in order. -/
def run (source : RefreshSource σ (Except Failure Snapshot)) (d : Dashboard σ)
    (moves : List Move) : Dashboard σ :=
  moves.foldl (next source) d

end Dashboard

end TrafficMap.Terminal
