/-!
# The bridge between two queues

A bridge moves items from a queue to another one until it is cancelled or one of the sides closes.
It looks at a closed receiving side only when it has an item for it.
-/

namespace TrafficMap

/-- The state of a bridge for items of a type. -/
structure Bridge (β : Type) where
  /-- Items that were sent and not moved yet. -/
  incoming : List β := []
  /-- Items that were moved and not taken yet. -/
  outgoing : List β := []
  /-- Whether items can still be sent. -/
  sending : Bool := true
  /-- Whether moved items are still taken. -/
  receiving : Bool := true
  cancelled : Bool := false
  finished : Bool := false

namespace Bridge

variable {β : Type}

/-- Sends an item, unless nobody would see it. -/
def send (b : Bridge β) (item : β) : Bridge β :=
  if b.sending && !b.finished then { b with incoming := b.incoming ++ [item] } else b

/-- The next step of the bridge, if it can make one. -/
def step (b : Bridge β) : Option (Bridge β) :=
  if b.finished then none
  else if b.cancelled then some { b with finished := true, incoming := [] }
  else
    match b.incoming with
    | item :: rest =>
      if b.receiving then some { b with incoming := rest, outgoing := b.outgoing ++ [item] }
      else some { b with incoming := [], finished := true }
    | [] => if b.sending then none else some { b with finished := true }

/-- Makes steps, at most as many as the fuel allows. -/
def runSteps : Nat → Bridge β → Bridge β
  | 0, b => b
  | fuel + 1, b =>
    match b.step with
    | some b => runSteps fuel b
    | none => b

/-- Makes all steps that are possible: one for every item and one to finish. -/
def settle (b : Bridge β) : Bridge β :=
  runSteps (b.incoming.length + 2) b

/-- Takes the moved items. -/
def take (b : Bridge β) : List β × Bridge β :=
  (b.outgoing, { b with outgoing := [] })

end Bridge

end TrafficMap
