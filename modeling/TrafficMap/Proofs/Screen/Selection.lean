import Mathlib
import TrafficMap.Proofs.Dashboard.Arrivals
import TrafficMap.Proofs.Engine.Resize

/-!
# The selection follows the picture

The screen remembers the key of the selected device while the engine replaces the devices behind it. What
an event does to the selection is one of four things (`Screen.Reselects`): it is cleared, moved along the
devices, lost with its device in a rebuild, or kept, and then the picture still has the device. Resizes
rebuild as well, but they keep all keys (`Engine.keys_resize`). So the selected device is always one of the
picture (`selection_of_run`).
-/

namespace TrafficMap

namespace Engine

variable {α : Type}

/-- The keys of the devices of the picture. -/
def keys (e : Engine α) : List String :=
  e.topology.devices.map (·.id)

variable [Scalar α]

/-- A resize moves the devices and keeps their keys. -/
theorem keys_resize {e : Engine α} (h : e.Coherent) (width height : α) :
    (e.resize width height).2.keys = e.keys := by
  have hsnapshot : (e.resize width height).2.snapshot = e.snapshot :=
    congrArg Memory.snapshot (e.memory_resize width height)
  exact (h.redrawn (h.resize width height) hsnapshot fun config stats identities =>
    Topology.redrawn_build_any config stats identities _ _).map_id

/-- An outcome by which nothing is rebuilt leaves the picture as it is. -/
theorem keys_apply {e : Engine α} {now : Nat} {outcome : Outcome}
    (h : (e.apply now outcome).1 ≠ .rebuilt) : (e.apply now outcome).2.keys = e.keys := by
  by_cases hnew : e.generation < outcome.generation
  · cases hresult : outcome.result with
    | ok snapshot =>
      rw [apply_of_ok e now hnew hresult] at h
      exact absurd rfl h
    | error failure =>
      rw [apply_of_error e now hnew hresult]
      rfl
  · rw [apply_of_le e now (UInt64.not_lt.1 hnew)]

end Engine

namespace Terminal.Screen

/-! ## Events -/

/-- What the host does with a screen. -/
inductive Event where
  /-- An action is carried out at a time. -/
  | update (now : Nat) (action : Action)
  /-- An action that is for the host alone: to quit, to draw a frame, a terminal of another size. -/
  | host
  | fit (area : Area)
  | tick (nanos : Nat)

/-- The screen after an event. -/
def next (s : Screen) : Event → Screen
  | .update now action => s.update now action
  | .host => s
  | .fit area => s.fit area
  | .tick nanos => s.tick nanos

/-- The screen after events in order. -/
def run (s : Screen) (events : List Event) : Screen :=
  events.foldl next s

/-- The keys of the devices that can be selected. -/
def keys (s : Screen) : List String :=
  s.engine.keys

/-! ## The law of the selection -/

/-- The events that choose what is selected. -/
inductive Event.Chooses : Event → Prop where
  | clear (now : Nat) : Chooses (.update now .clearSelection)
  | next (now : Nat) : Chooses (.update now .selectNext)
  | previous (now : Nat) : Chooses (.update now .selectPrevious)

/-- What an event makes of the selection of a screen. -/
inductive Reselects (s s' : Screen) : Event → Prop where
  /-- The selection is cleared. -/
  | cleared (now : Nat) (h : s'.selected = none) : Reselects s s' (.update now .clearSelection)
  /-- The selection moves to a device of the picture; without devices there is none. -/
  | moved (event : Event) (hevent : event.Chooses) (hkeys : s'.keys = s.keys)
      (h : (s.keys = [] ∧ s'.selected = none) ∨ ∃ id ∈ s.keys, s'.selected = some id) :
      Reselects s s' event
  /-- A rebuilt picture is without the selected device. -/
  | lost (now : Nat) (outcome : Outcome) (id : String)
      (hrebuilt : (s.engine.apply now outcome).1 = .rebuilt) (hselected : s.selected = some id)
      (hgone : id ∉ s'.keys) (h : s'.selected = none) :
      Reselects s s' (.update now (.refreshed outcome))
  /-- The selection stays, and the picture has its device. -/
  | kept (event : Event) (hevent : ¬event.Chooses) (hkeys : ∀ id, s.selected = some id → id ∈ s'.keys)
      (h : s'.selected = s.selected) : Reselects s s' event

/-- A screen with a coherent engine, whose selected device the picture has. -/
structure Sound (s : Screen) : Prop where
  coherent : s.engine.Coherent
  mem_keys : ∀ id, s.selected = some id → id ∈ s.keys

/-- No device is found for the selection when there is none or the picture lost it. -/
theorem selectedDevice_isNone_iff (s : Screen) :
    s.selectedDevice.isNone = true ↔ ∀ id, s.selected = some id → id ∉ s.keys := by
  cases hselected : s.selected with
  | none => simp [selectedDevice, hselected]
  | some id => simp [selectedDevice, hselected, keys, Engine.keys, Topology.device?]

/-- A refresh keeps the selection, unless it rebuilds the picture and no device is found for it then. -/
theorem selected_refreshed (s : Screen) (now : Nat) (outcome : Outcome) :
    ((s.update now (.refreshed outcome)).selected = s.selected ∧
        ((s.engine.apply now outcome).1 = .rebuilt →
          ∀ id, s.selected = some id → id ∈ (s.engine.apply now outcome).2.keys)) ∨
      ((s.engine.apply now outcome).1 = .rebuilt ∧
        (∀ id, s.selected = some id → id ∉ (s.engine.apply now outcome).2.keys) ∧
        (s.update now (.refreshed outcome)).selected = none) := by
  have hgone := selectedDevice_isNone_iff { s with engine := (s.engine.apply now outcome).2 }
  simp only [update, applyOutcome, Bool.and_eq_true, decide_eq_true_eq]
  split_ifs with h
  · exact Or.inr ⟨h.1, hgone.mp h.2, rfl⟩
  · refine Or.inl ⟨rfl, fun hrebuilt id hid => ?_⟩
    by_contra hnot
    refine h ⟨hrebuilt, hgone.mpr fun id' hid' => ?_⟩
    obtain rfl := Option.some.inj (hid.symm.trans hid')
    exact hnot

/-- Moving the selection leaves the engine alone, and selects a device of the picture if there is one. -/
theorem moveSelection_cases {move : Nat → Option Nat → Nat}
    (hmove : ∀ n i?, 0 < n → move n i? < n) (s : Screen) :
    (s.moveSelection move).engine = s.engine ∧
      ((s.keys = [] ∧ (s.moveSelection move).selected = none) ∨
        ∃ id ∈ s.keys, (s.moveSelection move).selected = some id) := by
  unfold moveSelection
  dsimp only
  split_ifs with hempty
  · refine ⟨rfl, Or.inl ⟨?_, rfl⟩⟩
    rw [keys, Engine.keys, List.isEmpty_iff.mp hempty, List.map_nil]
  · have hlength : 0 < s.engine.topology.devices.length :=
      List.length_pos_iff.mpr fun hnil => hempty (List.isEmpty_iff.mpr hnil)
    have hindex := hmove _ (s.selected.bind s.engine.topology.index?) hlength
    refine ⟨rfl, Or.inr ⟨_, ?_, by rw [List.getElem?_eq_getElem hindex, Option.map_some]⟩⟩
    exact List.mem_map_of_mem (List.getElem_mem hindex)

theorem nextIndex_lt (n : Nat) (i? : Option Nat) (h : 0 < n) : nextIndex n i? < n := by
  cases i? with
  | none => exact h
  | some i => exact Nat.mod_lt _ h

theorem previousIndex_lt (n : Nat) (i? : Option Nat) (h : 0 < n) : previousIndex n i? < n := by
  cases i? with
  | none => exact Nat.sub_one_lt_of_lt h
  | some i => exact Nat.mod_lt _ h

/-! ## What every event keeps -/

variable {s s' : Screen}

/-- Whatever an event does to the selection, the picture has the device that is selected then. -/
theorem Reselects.mem_keys {event : Event} (h : Reselects s s' event) {id : String}
    (hid : s'.selected = some id) : id ∈ s'.keys := by
  cases h with
  | cleared _ hnone => exact nomatch hnone.symm.trans hid
  | moved _ _ hkeys hmoved =>
    rcases hmoved with ⟨-, hnone⟩ | ⟨id', hmem, hsome⟩
    · exact nomatch hnone.symm.trans hid
    · obtain rfl := Option.some.inj (hsome.symm.trans hid)
      exact hkeys ▸ hmem
  | lost _ _ _ _ _ _ hnone => exact nomatch hnone.symm.trans hid
  | kept _ _ hkeys hsame => exact hkeys id (hsame.symm.trans hid)

/-- An event that does not choose keeps a selected device that stays in the picture. -/
theorem Reselects.selected_of_mem {event : Event} (h : Reselects s s' event) (hevent : ¬event.Chooses)
    {id : String} (hid : s.selected = some id) (hmem : id ∈ s'.keys) : s'.selected = some id := by
  cases h with
  | cleared now _ => exact absurd (.clear now) hevent
  | moved _ hchooses _ _ => exact absurd hchooses hevent
  | lost _ _ id' _ hselected hgone _ =>
    obtain rfl := Option.some.inj (hid.symm.trans hselected)
    exact absurd hmem hgone
  | kept _ _ _ hsame => exact hsame.trans hid

/-- A selection changes by an event that chooses, or with the loss of its device. -/
theorem Reselects.cases_of_ne {event : Event} (h : Reselects s s' event)
    (hne : s'.selected ≠ s.selected) :
    event.Chooses ∨ ∃ now outcome id, event = .update now (.refreshed outcome) ∧
      (s.engine.apply now outcome).1 = .rebuilt ∧ s.selected = some id ∧ id ∉ s'.keys ∧
      s'.selected = none := by
  cases h with
  | cleared now _ => exact Or.inl (.clear now)
  | moved _ hchooses _ _ => exact Or.inl hchooses
  | lost now outcome id hrebuilt hselected hgone hnone =>
    exact Or.inr ⟨now, outcome, id, rfl, hrebuilt, hselected, hgone, hnone⟩
  | kept _ _ _ hsame => exact absurd hsame hne

namespace Sound

theorem coherent_next (h : s.Sound) (event : Event) : (s.next event).engine.Coherent := by
  have hcoherent := h.coherent
  cases event with
  | update now action =>
    cases action with
    | refreshed outcome =>
      rw [next, engine_update_refreshed]
      exact hcoherent.apply now outcome
    | selectNext =>
      rw [next, update, (moveSelection_cases nextIndex_lt s).1]
      exact hcoherent
    | selectPrevious =>
      rw [next, update, (moveSelection_cases previousIndex_lt s).1]
      exact hcoherent
    | _ => exact ⟨hcoherent.topology, hcoherent.particles⟩
  | host => exact hcoherent
  | fit area => exact hcoherent.resize _ _
  | tick nanos => exact hcoherent.advance nanos

/-- A refresh loses the selection when it rebuilds a picture without its device, and keeps it
otherwise. -/
theorem reselects_refreshed (h : s.Sound) (now : Nat) (outcome : Outcome) :
    Reselects s (s.next (.update now (.refreshed outcome))) (.update now (.refreshed outcome)) := by
  have hkeys : (s.next (.update now (.refreshed outcome))).keys
      = (s.engine.apply now outcome).2.keys := by
    rw [Screen.next, keys, engine_update_refreshed]
  rcases selected_refreshed s now outcome with ⟨hsame, hfound⟩ | ⟨hrebuilt, hgone, hnone⟩
  · refine .kept _ nofun (fun id hid => ?_) hsame
    by_cases hrebuilt : (s.engine.apply now outcome).1 = .rebuilt
    · exact hkeys ▸ hfound hrebuilt id hid
    · rw [hkeys, Engine.keys_apply hrebuilt]
      exact h.mem_keys id hid
  · cases hselected : s.selected with
    | none =>
      refine .kept _ nofun (fun id hid => ?_) (hnone.trans hselected.symm)
      cases hselected.symm.trans hid
    | some id => exact .lost now outcome id hrebuilt hselected (hkeys ▸ hgone id hselected) hnone

theorem reselects (h : s.Sound) (event : Event) : Reselects s (s.next event) event := by
  cases event with
  | update now action =>
    cases action with
    | refreshed outcome => exact h.reselects_refreshed now outcome
    | selectNext =>
      obtain ⟨hengine, hmoved⟩ := moveSelection_cases nextIndex_lt s
      exact .moved _ (.next now) (congrArg Engine.keys hengine) hmoved
    | selectPrevious =>
      obtain ⟨hengine, hmoved⟩ := moveSelection_cases previousIndex_lt s
      exact .moved _ (.previous now) (congrArg Engine.keys hengine) hmoved
    | clearSelection => exact .cleared now rfl
    | _ => exact .kept _ nofun h.mem_keys rfl
  | host => exact .kept _ nofun h.mem_keys rfl
  | fit area =>
    have hkeys : (s.next (.fit area)).keys = s.keys := Engine.keys_resize h.coherent _ _
    exact .kept _ nofun (fun id hid => hkeys ▸ h.mem_keys id hid) rfl
  | tick nanos => exact .kept _ nofun h.mem_keys rfl

theorem next (h : s.Sound) (event : Event) : (s.next event).Sound :=
  ⟨h.coherent_next event, fun _ hid => (h.reselects event).mem_keys hid⟩

theorem run (h : s.Sound) (events : List Event) : (s.run events).Sound := by
  induction events generalizing s with
  | nil => exact h
  | cons event events ih => exact ih (h.next event)

end Sound

/-- On the screen of any engine that a host can have, after any events: the selected device is one of the
picture, and it stays selected in what the next event makes of the picture if that has it, unless the
event chooses another one. Only such an event, or a refresh that rebuilds the picture without the selected
device, changes the selection. -/
theorem selection_of_run (width height : Float) (options : EngineOptions Float)
    (generator : Generator) (calls : List (Engine.Call Float)) (refreshMillis : Nat)
    (events : List Event) :
    let engine := (Engine.fresh width height options generator).run calls
    let s := run { engine, refreshMillis } events
    (∀ id, s.selected = some id → ∃ d ∈ s.engine.topology.devices, d.id = id) ∧
      ∀ event,
        (¬event.Chooses → ∀ id, s.selected = some id → id ∈ (s.next event).keys →
          (s.next event).selected = some id) ∧
        ((s.next event).selected ≠ s.selected → event.Chooses ∨
          ∃ now outcome id, event = .update now (.refreshed outcome) ∧
            (s.engine.apply now outcome).1 = .rebuilt ∧ s.selected = some id ∧
            id ∉ (s.next event).keys ∧ (s.next event).selected = none) := by
  intro engine s
  have hstart : Sound { engine, refreshMillis } :=
    ⟨(Engine.coherent_fresh width height options generator).run calls, nofun⟩
  have h : s.Sound := hstart.run events
  refine ⟨fun id hid => List.mem_map.mp (h.mem_keys id hid), fun event => ⟨?_, ?_⟩⟩
  · exact fun hevent id hid hmem => (h.reselects event).selected_of_mem hevent hid hmem
  · exact (h.reselects event).cases_of_ne

end Terminal.Screen

end TrafficMap
