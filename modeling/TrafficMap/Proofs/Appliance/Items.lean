import Mathlib
import TrafficMap.Proofs.Appliance.Records
import TrafficMap.Proofs.Topology.Layers

/-!
# What a list takes for a record

The lists of a report keep the items that can be decoded and drop the others. An object always can be
decoded, and a value that holds no others never can. An array can too, unless it is longer than the list
of field names: it is read as the object that gives its items the names in order
(`RecordKind.ofValue?_array`), so an empty one is a record with all defaults. The devices for load
balancers and clients are those of the records taken (`items_of_report`).
-/

namespace TrafficMap

open Json (Value)

namespace RecordKind

variable (k : RecordKind)

/-! ## Records in values -/

/-- Whether a list keeps an item as a record of a kind. -/
def keeps : Value → Bool
  | .object _ => true
  | .array items => items.length ≤ k.names.length
  | _ => false

/-- What an item is taken for. -/
inductive TakenFor : Value → k.Record → Prop where
  | object (ms : List (String × Value)) : TakenFor (.object ms) (k.ofMembers ms)
  | array (items : List Value) (h : items.length ≤ k.names.length) :
    TakenFor (.array items) (k.ofMembers (k.names.zip items))

/-- The records that are read from a list of items: one for each item that is kept, in order. -/
def Lists (items : List Value) (records : List k.Record) : Prop :=
  List.Forall₂ k.TakenFor (items.filter k.keeps) records

/-- A record is read from the fields that a value holds. -/
theorem ofValue?_eq (v : Value) : k.ofValue? v = (Fields.ofValue? k.names v).map k.ofFields := by
  cases k <;> rfl

/-- An array that is not too long holds the record of the object that names its items. -/
theorem ofValue?_array (items : List Value) :
    k.ofValue? (.array items)
      = if items.length ≤ k.names.length then some (k.ofMembers (k.names.zip items)) else none := by
  rw [ofValue?_eq, Fields.ofValue?, Fields.ofItems?]
  split_ifs <;> rfl

variable {k}

theorem takenFor_iff {v : Value} {r : k.Record} : k.TakenFor v r ↔ k.ofValue? v = some r := by
  constructor
  · rintro (ms | ⟨items, h⟩)
    · exact k.ofValue?_object ms
    · rw [ofValue?_array, if_pos h]
  · intro h
    cases v with
    | object ms =>
      obtain rfl := Option.some.inj ((k.ofValue?_object ms).symm.trans h)
      exact .object ms
    | array items =>
      rw [ofValue?_array, Option.ite_none_right_eq_some] at h
      obtain rfl := Option.some.inj h.2
      exact .array items h.1
    | _ => rw [ofValue?_eq] at h; cases h

theorem isSome_ofValue? (v : Value) : (k.ofValue? v).isSome = k.keeps v := by
  cases v with
  | object ms => rw [ofValue?_object]; rfl
  | array items =>
    rw [ofValue?_array, keeps]
    split_ifs with h
    · simp [h]
    · simp [h]
  | _ => rw [ofValue?_eq]; rfl

/-- Decoding item by item gives one record for each item that is kept. -/
theorem lists_filterMap (items : List Value) : k.Lists items (items.filterMap k.ofValue?) := by
  unfold Lists
  induction items with
  | nil => exact .nil
  | cons v items ih =>
    have hkeeps := isSome_ofValue? (k := k) v
    cases hread : k.ofValue? v with
    | none =>
      rw [hread] at hkeeps
      rw [List.filter_cons_of_neg (by simp [← hkeeps]), List.filterMap_cons_none hread]
      exact ih
    | some r =>
      rw [hread] at hkeeps
      rw [List.filter_cons_of_pos hkeeps.symm, List.filterMap_cons_some hread]
      exact .cons (takenFor_iff.mpr hread) ih

/-- A list has a record of some sort when an item is taken for one. -/
theorem exists_mem_filterMap_iff {items : List Value} {p : k.Record → Prop} :
    (∃ r ∈ items.filterMap k.ofValue?, p r) ↔ ∃ v ∈ items, ∃ r, k.TakenFor v r ∧ p r := by
  simp only [List.mem_filterMap, takenFor_iff]
  constructor
  · rintro ⟨r, ⟨v, hv, hr⟩, hp⟩
    exact ⟨v, hv, r, hr, hp⟩
  · rintro ⟨v, hv, r, hr, hp⟩
    exact ⟨r, ⟨v, hv, hr⟩, hp⟩

end RecordKind

/-- A list is read from the field of its name, from an array item by item. -/
theorem ListField.get_ofFields (l : ListField) {f : Fields} {items : List Value}
    (h : f l.name = some (.array items)) :
    l.get (l.kind.ofFields f) = items.filterMap l.itemKind.ofValue? := by
  have hread : l.get (l.kind.ofFields f) = Decode.list l.itemKind.ofValue? (f l.name) := by
    cases l <;> rfl
  rw [hread, h]
  rfl

namespace Topology

variable {α : Type} [Scalar α]

/-! ## Devices of a report -/

section

variable (config : Configuration) (stats : Statistics) (identities : IdentityMap) (layout : Layout α)

/-- A load balancer is shown when one with its address is configured. -/
theorem balancerId_mem_build_iff (address : String) :
    balancerId address ∈ (build config stats identities layout).devices.map (·.id)
      ↔ ∃ lb ∈ config.balancers, lb.address = address := by
  have hisp : balancerId address ≠ ispId :=
    ne_of_head?_ne (d := 'i') (head?_balancerId _) (by decide) (by decide)
  have hgateway : balancerId address ≠ gatewayId :=
    ne_of_head?_ne (d := 'g') (head?_balancerId _) (by decide) (by decide)
  have hclient : ∀ ip, clientId ip ≠ balancerId address := fun ip =>
    ne_of_head?_ne (head?_clientId ip) (head?_balancerId _) (by decide)
  simp [map_id_build, hisp, hgateway, hclient, balancerId_injective.eq_iff]

/-- A client is shown when there are counters for its address. -/
theorem clientId_mem_build_iff (ip : String) :
    clientId ip ∈ (build config stats identities layout).devices.map (·.id)
      ↔ ∃ s ∈ stats.sources, s.sourceIp = ip := by
  have hisp : clientId ip ≠ ispId :=
    ne_of_head?_ne (d := 'i') (head?_clientId _) (by decide) (by decide)
  have hgateway : clientId ip ≠ gatewayId :=
    ne_of_head?_ne (d := 'g') (head?_clientId _) (by decide) (by decide)
  have hbalancer : ∀ address, balancerId address ≠ clientId ip := fun address =>
    ne_of_head?_ne (head?_balancerId address) (head?_clientId _) (by decide)
  simp [map_id_build, hisp, hgateway, hbalancer, clientId_injective.eq_iff]

end

/-- Every list of a report consists of the records that its items are taken for: all of its objects, and
the arrays that are not longer than the list of field names, in order. A load balancer or a client is
shown when an item of the list is taken for a record with its address, so the others show nothing. -/
theorem items_of_report (f g : Fields) (identities : IdentityMap) (layout : Layout α) :
    let config := Configuration.ofFields f
    let stats := Statistics.ofFields g
    let keys := (build config stats identities layout).devices.map (·.id)
    (∀ items, f "load_balancers" = some (.array items) →
      RecordKind.balancerConfig.Lists items config.balancers ∧
        ∀ address, balancerId address ∈ keys ↔
          ∃ v ∈ items, ∃ lb, RecordKind.balancerConfig.TakenFor v lb ∧ lb.address = address) ∧
      (∀ items, g "load_balancers" = some (.array items) →
        RecordKind.balancerStats.Lists items stats.balancers) ∧
      (∀ items, g "active_sources" = some (.array items) →
        RecordKind.sourceStats.Lists items stats.sources ∧
          ∀ ip, clientId ip ∈ keys ↔
            ∃ v ∈ items, ∃ s, RecordKind.sourceStats.TakenFor v s ∧ s.sourceIp = ip) := by
  intro config stats keys
  refine ⟨fun items hitems => ?_, fun items hitems => ?_, fun items hitems => ?_⟩
  · have hlist : config.balancers = items.filterMap RecordKind.balancerConfig.ofValue? :=
      ListField.configuredBalancers.get_ofFields hitems
    refine ⟨hlist ▸ RecordKind.lists_filterMap items, fun address => ?_⟩
    rw [balancerId_mem_build_iff, hlist]
    exact RecordKind.exists_mem_filterMap_iff (k := .balancerConfig) (p := fun lb => lb.address = address)
  · have hlist : stats.balancers = items.filterMap RecordKind.balancerStats.ofValue? :=
      ListField.balancerStats.get_ofFields hitems
    exact hlist ▸ RecordKind.lists_filterMap items
  · have hlist : stats.sources = items.filterMap RecordKind.sourceStats.ofValue? :=
      ListField.sources.get_ofFields hitems
    refine ⟨hlist ▸ RecordKind.lists_filterMap items, fun ip => ?_⟩
    rw [clientId_mem_build_iff, hlist]
    exact RecordKind.exists_mem_filterMap_iff (k := .sourceStats) (p := fun s => s.sourceIp = ip)

/-- An empty array among the load balancers, which is no object, is taken for one with all defaults, and
a load balancer without an address is shown for it. -/
theorem balancer_of_array :
    Configuration.ofText? "\x7b\"load_balancers\":[[]]\x7d" = some { balancers := [{}] } ∧
      (build { balancers := [{}] } {} [] (Layout.ofSize 800 600 : Layout Float)).devices.map (·.id)
        = ["isp", "lb:", "gateway"] := by
  refine ⟨by decide +kernel, ?_⟩
  rw [map_id_build]
  decide

end Topology

end TrafficMap
