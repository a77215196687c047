import Mathlib
import TrafficMap.Proofs.Screen.Selection
import TrafficMap.Proofs.Topology.Layers

/-!
# The selection goes round

The screen stores the key of the selected device, and a step of the selection turns it into a place in the
list of devices and back. In a built topology keys are distinct, so the place of a device leads back to it
(`Topology.index?_id`), and the steps of the selection are those of the place, cyclically (`selects_move`).
Hence a step can be taken back, and as many steps as there are devices lead past every device once
(`cycle_of_build`).
-/

namespace TrafficMap

/-- Where keys are distinct, the key of a device leads to its place. -/
theorem Topology.index?_id {α : Type} {t : Topology α} (h : (t.devices.map (·.id)).Nodup) {i : Nat}
    {d : Device α} (hd : t.devices[i]? = some d) : t.index? d.id = some i := by
  obtain ⟨hi, rfl⟩ := List.getElem?_eq_some_iff.mp hd
  rw [index?, List.findIdx?_eq_some_iff_getElem]
  refine ⟨hi, by simp, fun j hj => ?_⟩
  -- a device in front of it has another key
  have hne := (List.nodup_iff_getElem?_ne_getElem?.mp h) j i hj (by simpa using hi)
  rw [List.getElem?_map, List.getElem?_map, List.getElem?_eq_getElem (hj.trans hi),
    List.getElem?_eq_getElem hi] at hne
  simpa using hne

namespace Terminal.Screen

/-! ## Steps of the place -/

theorem previousIndex_nextIndex {n i : Nat} (h : i < n) :
    previousIndex n (some (nextIndex n (some i))) = i := by
  simp only [previousIndex, nextIndex]
  rcases Nat.lt_or_ge (i + 1) n with hlast | hlast
  · rw [Nat.mod_eq_of_lt hlast, show i + 1 + n - 1 = i + n by omega, Nat.add_mod_right, Nat.mod_eq_of_lt h]
  · rw [show i + 1 = n by omega, Nat.mod_self, Nat.zero_add, Nat.mod_eq_of_lt (by omega)]
    omega

theorem nextIndex_previousIndex {n i : Nat} (h : i < n) :
    nextIndex n (some (previousIndex n (some i))) = i := by
  simp only [previousIndex, nextIndex]
  rw [Nat.mod_add_mod, show i + n - 1 + 1 = i + n by omega, Nat.add_mod_right, Nat.mod_eq_of_lt h]

/-! ## Steps of the selection -/

/-- The device at a place is selected. -/
def SelectsAt (s : Screen) (i : Nat) : Prop :=
  ∃ d, s.engine.topology.devices[i]? = some d ∧ s.selected = some d.id

theorem SelectsAt.lt {s : Screen} {i : Nat} (h : s.SelectsAt i) : i < s.engine.topology.devices.length := by
  obtain ⟨d, hd, -⟩ := h
  exact (List.getElem?_eq_some_iff.mp hd).1

theorem SelectsAt.pos {s : Screen} {i : Nat} (h : s.SelectsAt i) : 0 < s.engine.topology.devices.length :=
  Nat.zero_lt_of_lt h.lt

/-- Events that move the selection forward, one at each of the given times. -/
def forward (times : List Nat) : List Event :=
  times.map (.update · .selectNext)

variable {s : Screen}

/-- Moving the selection changes nothing else. -/
theorem moveSelection_eq (move : Nat → Option Nat → Nat) (s : Screen) :
    s.moveSelection move = { s with selected := (s.moveSelection move).selected } := by
  unfold moveSelection
  dsimp only
  split_ifs <;> rfl

/-- Screens that select the device at one place are the same if they differ in the selection only. -/
theorem eq_of_selectsAt {s' : Screen} {i : Nat} (hs : s.SelectsAt i) (hs' : s'.SelectsAt i)
    (h : s' = { s with selected := s'.selected }) : s' = s := by
  obtain ⟨d, hd, hselected⟩ := hs
  obtain ⟨d', hd', hselected'⟩ := hs'
  rw [h] at hd'
  obtain rfl := Option.some.inj (hd.symm.trans hd')
  rw [h, hselected', ← hselected]

section

variable (hnodup : (s.engine.topology.devices.map (·.id)).Nodup)

include hnodup

/-- The selected device is the one at the place. -/
theorem SelectsAt.selectedDevice {i : Nat} (h : s.SelectsAt i) :
    s.selectedDevice = s.engine.topology.devices[i]? := by
  obtain ⟨d, hd, hselected⟩ := h
  rw [Screen.selectedDevice, hselected, hd]
  exact Topology.device?_id hnodup (List.mem_of_getElem? hd)

/-- A step of the selection is a step of the place. -/
theorem selectsAt_move {move : Nat → Option Nat → Nat} (hmove : ∀ n o, 0 < n → move n o < n)
    {o : Option Nat} (h : o.elim (s.selected = none) s.SelectsAt)
    (hpos : 0 < s.engine.topology.devices.length) :
    (s.moveSelection move).SelectsAt (move s.engine.topology.devices.length o) := by
  have hplace : s.selected.bind s.engine.topology.index? = o := by
    cases o with
    | none => rw [show s.selected = none from h, Option.bind_none]
    | some i =>
      obtain ⟨d, hd, hselected⟩ := h
      rw [hselected, Option.bind_some, Topology.index?_id hnodup hd]
  have hlt := hmove _ o hpos
  have hempty : s.engine.topology.devices.isEmpty = false := by
    rw [List.isEmpty_eq_false_iff]
    exact List.length_pos_iff.mp hpos
  refine ⟨s.engine.topology.devices[move s.engine.topology.devices.length o], ?_, ?_⟩
  · rw [moveSelection_eq]
    exact List.getElem?_eq_getElem hlt
  · simp only [moveSelection, hempty, hplace, Bool.false_eq_true, if_false, List.getElem?_eq_getElem hlt,
      Option.map_some]

/-- Two steps of which the second one takes the place back to where it was restore the screen. -/
theorem moveSelection_moveSelection {move back : Nat → Option Nat → Nat}
    (hmove : ∀ n o, 0 < n → move n o < n) (hback : ∀ n o, 0 < n → back n o < n) {i : Nat}
    (h : s.SelectsAt i)
    (hinverse : back s.engine.topology.devices.length
      (some (move s.engine.topology.devices.length (some i))) = i) :
    (s.moveSelection move).moveSelection back = s := by
  have hengine : (s.moveSelection move).engine = s.engine := by rw [moveSelection_eq]
  have hmoved := selectsAt_move hnodup hmove (o := some i) h h.pos
  have hreturned := selectsAt_move (s := s.moveSelection move) (hengine ▸ hnodup) hback
    (o := some _) hmoved (hengine ▸ h.pos)
  rw [hengine, hinverse] at hreturned
  apply eq_of_selectsAt h hreturned
  rw [moveSelection_eq back, moveSelection_eq move]

/-- Steps forward take the place on by their number. -/
theorem selectsAt_forward {i : Nat} (h : s.SelectsAt i) (times : List Nat) :
    (s.run (forward times)).SelectsAt ((i + times.length) % s.engine.topology.devices.length) ∧
      s.run (forward times) = { s with selected := (s.run (forward times)).selected } := by
  induction times generalizing s i with
  | nil => exact ⟨by simpa [forward, run, Nat.mod_eq_of_lt h.lt] using h, rfl⟩
  | cons now times ih =>
    have hengine : (s.moveSelection nextIndex).engine = s.engine := by rw [moveSelection_eq]
    have hmoved := selectsAt_move hnodup nextIndex_lt (o := some i) h h.pos
    obtain ⟨hplace, hsame⟩ := ih (s := s.moveSelection nextIndex) (hengine ▸ hnodup) hmoved
    have hrun : s.run (forward (now :: times)) = (s.moveSelection nextIndex).run (forward times) := rfl
    rw [hrun]
    constructor
    · rw [hengine, nextIndex, Nat.mod_add_mod, Nat.add_assoc, Nat.add_comm 1] at hplace
      exact hplace
    · rw [hsame, moveSelection_eq]

/-- As many steps forward as there are devices lead past every device, in order from the next one on. -/
theorem map_selectedDevice_forward {i : Nat} (h : s.SelectsAt i) {times : List Nat}
    (hlength : times.length = s.engine.topology.devices.length) :
    (List.range s.engine.topology.devices.length).map
        (fun k => (s.run (forward (times.take (k + 1)))).selectedDevice)
      = (s.engine.topology.devices.rotate (i + 1)).map some := by
  refine List.ext_getElem (by simp) fun k hk _ => ?_
  rw [List.length_map, List.length_range] at hk
  obtain ⟨hplace, hsame⟩ := selectsAt_forward hnodup h (times.take (k + 1))
  have hengine : (s.run (forward (times.take (k + 1)))).engine = s.engine := by rw [hsame]
  rw [List.length_take, hlength, Nat.min_eq_left (by omega)] at hplace
  rw [List.getElem_map, List.getElem_map, List.getElem_range, List.getElem_rotate,
    hplace.selectedDevice (hengine ▸ hnodup), hengine, List.getElem?_eq_getElem (Nat.mod_lt _ h.pos)]
  simp only [Nat.add_left_comm]

end

/-- On a screen that shows a built topology, no two devices have the same key. When a device is selected, a step
forward and a step back restore the screen, in either order, and as many steps forward as there are devices select
one device after the other, every one once, in the order of the list and from its end on from its beginning, and
restore the screen. When nothing is selected, a step forward selects the first device and a step back the last one.
On a screen without devices both clear the selection. -/
theorem cycle_of_build :
    (∀ (s : Screen) (config : Configuration) (stats : Statistics) (identities : IdentityMap)
        (layout : Layout Float), s.engine.topology = Topology.build config stats identities layout →
      let devices := s.engine.topology.devices
      devices ≠ [] ∧ (devices.map (·.id)).Nodup ∧
        (∀ i d, devices[i]? = some d → s.selected = some d.id →
          (∀ now now', (s.update now .selectNext).update now' .selectPrevious = s ∧
            (s.update now .selectPrevious).update now' .selectNext = s) ∧
          ∀ times, times.length = devices.length →
            (List.range devices.length).map (fun k => (s.run (forward (times.take (k + 1)))).selectedDevice)
                = (devices.rotate (i + 1)).map some ∧
              s.run (forward times) = s) ∧
        (s.selected = none → ∀ now,
          (s.update now .selectNext).selectedDevice = devices.head? ∧
            (s.update now .selectPrevious).selectedDevice = devices.getLast?)) ∧
      ∀ s : Screen, s.engine.topology.isEmpty → ∀ now,
        (s.update now .selectNext).selected = none ∧ (s.update now .selectPrevious).selected = none := by
  refine ⟨fun s config stats identities layout hbuild => ?_, fun s hempty now => ?_⟩
  · have hnodup : (s.engine.topology.devices.map (·.id)).Nodup := by
      rw [hbuild]
      exact Topology.nodup_id_build config stats identities layout
    have hne : s.engine.topology.devices ≠ [] := by
      rw [hbuild]
      exact List.cons_ne_nil _ _
    refine ⟨hne, hnodup, fun i d hd hselected => ?_, fun hnone now => ?_⟩
    · have h : s.SelectsAt i := ⟨d, hd, hselected⟩
      refine ⟨fun now now' => ⟨?_, ?_⟩, fun times hlength => ⟨map_selectedDevice_forward hnodup h hlength, ?_⟩⟩
      · exact moveSelection_moveSelection hnodup nextIndex_lt previousIndex_lt h (previousIndex_nextIndex h.lt)
      · exact moveSelection_moveSelection hnodup previousIndex_lt nextIndex_lt h (nextIndex_previousIndex h.lt)
      · obtain ⟨hplace, hsame⟩ := selectsAt_forward hnodup h times
        rw [hlength, Nat.add_mod_right, Nat.mod_eq_of_lt h.lt] at hplace
        exact eq_of_selectsAt h hplace hsame
    · have hpos := List.length_pos_iff.mpr hne
      have hfirst := selectsAt_move hnodup nextIndex_lt (o := none) hnone hpos
      have hlast := selectsAt_move hnodup previousIndex_lt (o := none) hnone hpos
      have hengine (move : Nat → Option Nat → Nat) : (s.moveSelection move).engine = s.engine := by
        rw [moveSelection_eq]
      constructor
      · rw [List.head?_eq_getElem?]
        exact (hfirst.selectedDevice (hengine _ ▸ hnodup)).trans (by rw [hengine]; rfl)
      · rw [List.getLast?_eq_getElem?]
        exact (hlast.selectedDevice (hengine _ ▸ hnodup)).trans (by rw [hengine]; rfl)
  · have hdevices : s.engine.topology.devices.isEmpty = true := hempty
    simp only [update, moveSelection, hdevices, if_true, and_self]

/-- The screen of a report that lists one load balancer twice, without an address. The load balancer is
selected. -/
def repeatedScreen : Screen :=
  let config : Configuration := { balancers := [{ address := "" }, { address := "" }] }
  let layout : Layout Float := .ofSize 1200.0 700.0
  let engine := Engine.fresh layout.width layout.height .standard (.ofSeed 7)
  { engine := { engine with topology := Topology.build config {} [] layout }
    selected := some "lb:"
    refreshMillis := 5000 }

theorem cycle_of_build_repeated :
    repeatedScreen.keys = ["isp", "lb:", "gateway"] ∧
      (repeatedScreen.update 0 .selectNext).update 1 .selectPrevious = repeatedScreen ∧
      repeatedScreen.run (forward [0, 1, 2]) = repeatedScreen := by
  obtain ⟨-, -, hcycle, -⟩ := cycle_of_build.1 repeatedScreen _ _ _ _ rfl
  have hkeys : repeatedScreen.keys = ["isp", "lb:", "gateway"] :=
    (Topology.map_id_build _ _ _ _).trans (by decide)
  have hplace : repeatedScreen.keys[1]? = some "lb:" := by rw [hkeys]; rfl
  obtain ⟨d, hd, hid⟩ : ∃ d, repeatedScreen.engine.topology.devices[1]? = some d ∧ d.id = "lb:" := by
    simpa [keys, Engine.keys, List.getElem?_map] using hplace
  obtain ⟨hback, hround⟩ := hcycle 1 d hd (hid ▸ rfl)
  have hlength : [0, 1, 2].length = repeatedScreen.engine.topology.devices.length := by
    have := congrArg List.length hkeys
    simpa [keys, Engine.keys] using this.symm
  exact ⟨hkeys, (hback 0 1).1, (hround _ hlength).2⟩

end Terminal.Screen

end TrafficMap
