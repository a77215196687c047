import Mathlib
import TrafficMap.Proofs.Number.Zero
import TrafficMap.Proofs.Topology.Layers

/-!
# Placement changes nothing but places

A layout decides where the devices of a topology stand, and nothing else. Two topologies are
`Redrawn` when they are equal but for the places of their devices, which are related in some way. The
topologies of one report in any two layouts are (`redrawn_build_any`): the loads of connections are
read off labels of devices, so they do not depend on places either (`weighLinks_congr`).

Layouts that compare as the same may still differ in the sign of a zero. Then the places of the
devices agree as well (`redrawn_build_of_agree`).
-/

namespace TrafficMap

/-- A device and the same device at another place; the two places are related. -/
def Device.Moved {α : Type} (R : Point α → Point α → Prop) (d d' : Device α) : Prop :=
  d' = { d with position := d'.position } ∧ R d.position d'.position

/-- Two topologies that are equal but for the places of their devices, which are related. -/
structure Topology.Redrawn {α : Type} (R : Point α → Point α → Prop) (t t' : Topology α) :
    Prop where
  devices : List.Forall₂ (Device.Moved R) t.devices t'.devices
  connections : t'.connections = t.connections
  summary : t'.summary = t.summary

/-- Points with coordinates that agree. -/
def Point.Agree (p q : Point Float) : Prop :=
  Binary64.Agree p.x q.x ∧ Binary64.Agree p.y q.y

/-- Layouts with sides that agree. -/
def Layout.Agree (l l' : Layout Float) : Prop :=
  Binary64.Agree l.width l'.width ∧ Binary64.Agree l.height l'.height

/-- A list that is mapped in two ways has related items if the two ways are related. -/
theorem forall₂_mapIdx {β γ : Type} {R : γ → γ → Prop} {f g : Nat → β → γ}
    (h : ∀ i x, R (f i x) (g i x)) (items : List β) :
    List.Forall₂ R (items.mapIdx f) (items.mapIdx g) := by
  rw [List.mapIdx_eq_zipIdx_map, List.mapIdx_eq_zipIdx_map, List.forall₂_map_left_iff,
    List.forall₂_map_right_iff, List.forall₂_same]
  exact fun x _ => h x.2 x.1

namespace Topology

variable {α : Type}

/-! ## Redrawn topologies -/

/-- What a device shows apart from its place is the same for devices that are moved. -/
theorem map_eq_of_moved {β : Type} {R : Point α → Point α → Prop}
    {devices devices' : List (Device α)} (h : List.Forall₂ (Device.Moved R) devices devices')
    (f : Device α → β) (hf : ∀ d p, f { d with position := p } = f d) :
    devices'.map f = devices.map f := by
  induction h with
  | nil => rfl
  | cons hmoved _ ih => rw [List.map_cons, List.map_cons, ih, hmoved.1, hf]

/-- Moving devices changes no key. -/
theorem Redrawn.map_id {R : Point α → Point α → Prop} {t t' : Topology α} (h : Redrawn R t t') :
    t'.devices.map (·.id) = t.devices.map (·.id) :=
  map_eq_of_moved h.devices (·.id) fun _ _ => rfl

variable [Scalar α]

/-- The throughput of a connection is that of the device it leads to. -/
theorem throughput_eq (devices : List (Device α)) (link : Link) :
    link.throughput devices = ((devices.map Device.throughput)[link.target]?).getD 0.0 := by
  rw [List.getElem?_map, Link.throughput]
  cases devices[link.target]? <;> rfl

/-- Moving devices changes no load. -/
theorem weighLinks_congr {R : Point α → Point α → Prop} {devices devices' : List (Device α)}
    (h : List.Forall₂ (Device.Moved R) devices devices') (links : List Link) :
    weighLinks devices' links = weighLinks devices links := by
  have hlabels := map_eq_of_moved h Device.throughput fun _ _ => rfl
  have hthroughput : Link.throughput devices' = Link.throughput devices := by
    funext link
    rw [throughput_eq, throughput_eq, hlabels]
  rw [weighLinks, weighLinks, hthroughput]

section

variable (config : Configuration) (stats : Statistics) (identities : IdentityMap)

/-- One report in two layouts: the places of its devices are related if all places of the layouts
are. -/
theorem redrawn_build {R : Point α → Point α → Prop} {layout layout' : Layout α}
    (hanchor : ∀ layer, R (layout.anchor layer) (layout'.anchor layer))
    (hplace : ∀ layer count cap i,
      R (layout.place layer count cap i) (layout'.place layer count cap i)) :
    Redrawn R (build config stats identities layout) (build config stats identities layout') := by
  have hdevices : List.Forall₂ (Device.Moved R) (build config stats identities layout).devices
      (build config stats identities layout').devices := by
    rw [devices_build, devices_build]
    refine List.rel_append (.cons ⟨rfl, hanchor .isp⟩ ?_) (.cons ⟨rfl, hanchor .gateway⟩ ?_)
    · exact forall₂_mapIdx (fun i lb => ⟨rfl, hplace ..⟩) _
    · exact forall₂_mapIdx (fun i s => ⟨rfl, hplace ..⟩) _
  exact ⟨hdevices, weighLinks_congr hdevices _, rfl⟩

/-- In any two layouts a report is the same topology but for the places of the devices. -/
theorem redrawn_build_any (layout layout' : Layout α) :
    Redrawn (fun _ _ => True) (build config stats identities layout)
      (build config stats identities layout') :=
  redrawn_build config stats identities (fun _ => trivial) (fun _ _ _ _ => trivial)

end

end Topology

/-! ## Layouts that agree -/

namespace Layout.Agree

variable {l l' : Layout Float}

theorem layerX (h : l.Agree l') (layer : Layer) :
    Binary64.Agree (l.layerX layer) (l'.layerX layer) :=
  h.1.map (fun width => columnFraction layer * width) (by cases layer <;> exact Or.inr rfl)

/-- Half the height, which is where a device of its own stands. -/
theorem middle (h : l.Agree l') : Binary64.Agree (l.height / 2.0) (l'.height / 2.0) :=
  h.2.map (fun height => height / 2.0) (Or.inr rfl)

theorem anchor (h : l.Agree l') (layer : Layer) : (l.anchor layer).Agree (l'.anchor layer) :=
  ⟨h.layerX layer, h.middle⟩

/-- With the margin taken off, the sign of a zero is gone. -/
theorem spacing (h : l.Agree l') (count : Nat) (cap : Float) :
    l.spacing count cap = l'.spacing count cap := by
  have hroom : l.height - verticalMargin = l'.height - verticalMargin :=
    h.2.map_eq (fun height => height - verticalMargin) rfl
  rw [Layout.spacing, Layout.spacing, hroom]

theorem place (h : l.Agree l') (layer : Layer) (count : Nat) (cap : Float) (i : Nat) :
    (l.place layer count cap i).Agree (l'.place layer count cap i) := by
  refine ⟨h.layerX layer, ?_⟩
  rw [Layout.place, Layout.place, h.spacing]
  have htop := h.middle.map
    (fun y => y - l'.spacing count cap * Scalar.ofNat (count - 1) / 2.0) (Binary64.agree_zero_sub _)
  exact htop.map (fun y => y + l'.spacing count cap * Scalar.ofNat i) (Binary64.agree_zero_add _)

end Layout.Agree

/-- In layouts that agree a report is the same topology, and the places of the devices agree. -/
theorem Topology.redrawn_build_of_agree (config : Configuration) (stats : Statistics)
    (identities : IdentityMap) {layout layout' : Layout Float} (h : layout.Agree layout') :
    Redrawn Point.Agree (build config stats identities layout)
      (build config stats identities layout') :=
  redrawn_build config stats identities h.anchor h.place

end TrafficMap
