import Mathlib
import TrafficMap.Appliance.Decode
import TrafficMap.Json.Members

/-!
# Fields do not disturb each other

Everything that the appliance reports is a record of one of nine kinds. A record that is read from
an object always exists (`RecordKind.ofValue?_object`), and each of its fields depends on the member
of its own name alone (`RecordKind.get_congr`): one odd value costs one field. The records in a list
are read one by one (`ListField.read_append`), and those inside other records by the same rules.
-/

namespace TrafficMap

open Json (Value)

/-! ## Members of an object -/

namespace Members

variable {β : Type}

/-- Takes away what a name stands for. -/
def erase (key : String) (ms : List (String × β)) : List (String × β) :=
  ms.filter fun m => m.1 ≠ key

/-- Erasing a name changes the meaning of that name only. -/
theorem lookup_erase (key other : String) (ms : List (String × β)) :
    (erase key ms).lookup other = if other = key then none else ms.lookup other := by
  induction ms with
  | nil => simp [erase]
  | cons m ms ih =>
    obtain ⟨k, b⟩ := m
    unfold erase at ih ⊢
    by_cases hk : k = key
    · rw [List.filter_cons_of_neg (by simpa using hk), ih]
      by_cases h : other = key
      · rw [if_pos h, if_pos h]
      · have hb : (other == k) = false := beq_eq_false_iff_ne.2 (hk ▸ h)
        rw [if_neg h, if_neg h, List.lookup_cons, hb]
    · rw [List.filter_cons_of_pos (by simpa using hk), List.lookup_cons, List.lookup_cons, ih]
      by_cases h : other = key
      · have hb : (other == k) = false := beq_eq_false_iff_ne.2 fun hsame => hk (hsame.symm.trans h)
        rw [if_pos h, if_pos h, hb]
      · rw [if_neg h, if_neg h]

/-- Where no name occurs twice, what a name stands for is what it is listed with. -/
theorem lookup_eq_some_iff_mem {ms : List (String × β)} (h : (ms.map (·.1)).Nodup) {key : String}
    {b : β} : ms.lookup key = some b ↔ (key, b) ∈ ms := by
  constructor
  · intro hlookup
    obtain ⟨before, after, rfl, -⟩ := List.lookup_eq_some_iff.1 hlookup
    simp
  · intro hmem
    induction ms with
    | nil => cases hmem
    | cons m ms ih =>
      obtain ⟨k, c⟩ := m
      obtain ⟨hnew, hrest⟩ := List.nodup_cons.1 h
      rcases List.mem_cons.1 hmem with hfirst | hmem
      · cases hfirst
        rw [List.lookup_cons, beq_self_eq_true]
      · have hlater : key ∈ ms.map (·.1) := List.mem_map_of_mem hmem
        have hb : (key == k) = false := beq_eq_false_iff_ne.2 fun hsame => hnew (hsame ▸ hlater)
        rw [List.lookup_cons, hb]
        exact ih hrest hmem

/-- The order of the names has no meaning. -/
theorem lookup_perm {ms ms' : List (String × β)} (hperm : ms.Perm ms') (h : (ms.map (·.1)).Nodup)
    (key : String) : ms'.lookup key = ms.lookup key := by
  have h' : (ms'.map (·.1)).Nodup := (hperm.map (·.1)).nodup_iff.1 h
  ext b
  rw [lookup_eq_some_iff_mem h, lookup_eq_some_iff_mem h', hperm.mem_iff]

end Members

/-! ## Records by name -/

/-- The kinds of records that the appliance reports. -/
inductive RecordKind where
  | configuration
  | balancerConfig
  | listenSettings
  | statistics
  | trafficTotals
  | balancerStats
  | sourceStats
  | hostnameAnswer
  | deviceInfo
  deriving DecidableEq

/-- A field of a record: the name that it is read under, and where it stands. -/
structure RecordField (ρ : Type) where
  name : String
  {γ : Type}
  get : ρ → γ

namespace RecordKind

/-- The records of a kind. -/
@[reducible] def Record : RecordKind → Type
  | configuration => Configuration
  | balancerConfig => BalancerConfig
  | listenSettings => ListenSettings
  | statistics => Statistics
  | trafficTotals => TrafficTotals
  | balancerStats => BalancerStats
  | sourceStats => SourceStats
  | hostnameAnswer => HostnameAnswer
  | deviceInfo => DeviceInfo

/-- The field names of the records of a kind. -/
def names : RecordKind → List String
  | configuration => Configuration.names
  | balancerConfig => BalancerConfig.names
  | listenSettings => ListenSettings.names
  | statistics => Statistics.names
  | trafficTotals => TrafficTotals.names
  | balancerStats => BalancerStats.names
  | sourceStats => SourceStats.names
  | hostnameAnswer => HostnameAnswer.names
  | deviceInfo => DeviceInfo.names

/-- Decodes a record of a kind from its fields. -/
def ofFields : (k : RecordKind) → Fields → k.Record
  | configuration => Configuration.ofFields
  | balancerConfig => BalancerConfig.ofFields
  | listenSettings => ListenSettings.ofFields
  | statistics => Statistics.ofFields
  | trafficTotals => TrafficTotals.ofFields
  | balancerStats => BalancerStats.ofFields
  | sourceStats => SourceStats.ofFields
  | hostnameAnswer => HostnameAnswer.ofFields
  | deviceInfo => DeviceInfo.ofFields

/-- Decodes a record of a kind. -/
def ofValue? : (k : RecordKind) → Value → Option k.Record
  | configuration => Configuration.ofValue?
  | balancerConfig => BalancerConfig.ofValue?
  | listenSettings => ListenSettings.ofValue?
  | statistics => Statistics.ofValue?
  | trafficTotals => TrafficTotals.ofValue?
  | balancerStats => BalancerStats.ofValue?
  | sourceStats => SourceStats.ofValue?
  | hostnameAnswer => HostnameAnswer.ofValue?
  | deviceInfo => DeviceInfo.ofValue?

/-- The fields of the records of a kind. -/
def fields : (k : RecordKind) → List (RecordField k.Record)
  | configuration =>
    [⟨"load_balancers", Configuration.balancers⟩, ⟨"settings", Configuration.settings⟩]
  | balancerConfig =>
    [⟨"id", BalancerConfig.id⟩, ⟨"address", BalancerConfig.address⟩,
      ⟨"interface", BalancerConfig.interface⟩,
      ⟨"contention_ratio", BalancerConfig.contentionRatio⟩, ⟨"enabled", BalancerConfig.enabled⟩]
  | listenSettings => [⟨"listen_host", ListenSettings.host?⟩, ⟨"listen_port", ListenSettings.port?⟩]
  | statistics =>
    [⟨"traffic_stats", Statistics.traffic⟩, ⟨"load_balancers", Statistics.balancers⟩,
      ⟨"active_sources", Statistics.sources⟩]
  | trafficTotals =>
    [⟨"bytes_in_per_second", TrafficTotals.bytesInPerSecond⟩,
      ⟨"bytes_out_per_second", TrafficTotals.bytesOutPerSecond⟩,
      ⟨"active_connections", TrafficTotals.activeConnections⟩,
      ⟨"total_bytes_in", TrafficTotals.totalBytesIn⟩,
      ⟨"total_bytes_out", TrafficTotals.totalBytesOut⟩]
  | balancerStats =>
    [⟨"address", BalancerStats.address⟩, ⟨"bytes_in_per_second", BalancerStats.bytesInPerSecond⟩,
      ⟨"bytes_out_per_second", BalancerStats.bytesOutPerSecond⟩,
      ⟨"total_connections", BalancerStats.totalConnections⟩,
      ⟨"success_rate", BalancerStats.successRate⟩]
  | sourceStats =>
    [⟨"source_ip", SourceStats.sourceIp⟩, ⟨"bytes_in_per_second", SourceStats.bytesInPerSecond⟩,
      ⟨"bytes_out_per_second", SourceStats.bytesOutPerSecond⟩,
      ⟨"total_connections", SourceStats.totalConnections⟩,
      ⟨"active_connections", SourceStats.activeConnections⟩,
      ⟨"assigned_lb", SourceStats.assignedBalancer⟩]
  | hostnameAnswer => [⟨"hostname", HostnameAnswer.hostname⟩]
  | deviceInfo =>
    [⟨"name", DeviceInfo.name⟩, ⟨"type", DeviceInfo.deviceType⟩,
      ⟨"user_agent", DeviceInfo.userAgent⟩, ⟨"vendor", DeviceInfo.vendor⟩, ⟨"os", DeviceInfo.os⟩]

/-- The record of a kind that an object holds. -/
def ofMembers (k : RecordKind) (ms : List (String × Value)) : k.Record :=
  k.ofFields fun name => ms.lookup name

variable (k : RecordKind)

theorem map_name_fields : k.fields.map (·.name) = k.names := by
  cases k <;> rfl

theorem nodup_names : k.names.Nodup := by
  cases k <;> decide

/-- A record is nothing but its fields. -/
theorem ext_fields (a b : k.Record) (h : ∀ field ∈ k.fields, field.get a = field.get b) :
    a = b := by
  cases k <;> cases a <;> cases b <;> simp_all [fields]

/-- A field is read under its own name. -/
theorem get_ofFields {f g : Fields} : ∀ field ∈ k.fields, f field.name = g field.name →
    field.get (k.ofFields f) = field.get (k.ofFields g) := by
  cases k <;> simp +contextual [fields, ofFields, Configuration.ofFields, BalancerConfig.ofFields,
    ListenSettings.ofFields, Statistics.ofFields, TrafficTotals.ofFields, BalancerStats.ofFields,
    SourceStats.ofFields, HostnameAnswer.ofFields, DeviceInfo.ofFields]

/-- Every object holds a record of every kind. -/
theorem ofValue?_object (ms : List (String × Value)) :
    k.ofValue? (.object ms) = some (k.ofMembers ms) := by
  cases k <;> rfl

/-- A field depends on the member of its own name alone. -/
theorem get_congr {ms ms' : List (String × Value)} {field : RecordField k.Record}
    (hfield : field ∈ k.fields) (h : ms.lookup field.name = ms'.lookup field.name) :
    field.get (k.ofMembers ms) = field.get (k.ofMembers ms') :=
  k.get_ofFields field hfield h

/-- A record depends on the members that its fields are read from alone. -/
theorem ofMembers_congr {ms ms' : List (String × Value)}
    (h : ∀ name ∈ k.names, ms.lookup name = ms'.lookup name) :
    k.ofMembers ms = k.ofMembers ms' := by
  apply k.ext_fields
  intro field hfield
  apply k.get_congr hfield
  apply h
  rw [← map_name_fields]
  exact List.mem_map_of_mem hfield

theorem ofMembers_perm {ms ms' : List (String × Value)} (hperm : ms.Perm ms')
    (h : (ms.map (·.1)).Nodup) : k.ofMembers ms' = k.ofMembers ms :=
  k.ofMembers_congr fun name _ => Members.lookup_perm hperm h name

end RecordKind

/-! ## Records inside records -/

/-- A field that holds a list of records. -/
inductive ListField where
  | configuredBalancers
  | balancerStats
  | sources

namespace ListField

/-- The kind of the records that have the field. -/
@[reducible] def kind : ListField → RecordKind
  | configuredBalancers => .configuration
  | balancerStats => .statistics
  | sources => .statistics

/-- The kind of the records in the list. -/
@[reducible] def itemKind : ListField → RecordKind
  | configuredBalancers => .balancerConfig
  | balancerStats => .balancerStats
  | sources => .sourceStats

/-- The name of the field. -/
def name : ListField → String
  | configuredBalancers => "load_balancers"
  | balancerStats => "load_balancers"
  | sources => "active_sources"

/-- The list of a record. -/
def get : (l : ListField) → l.kind.Record → List l.itemKind.Record
  | configuredBalancers => Configuration.balancers
  | balancerStats => Statistics.balancers
  | sources => Statistics.sources

/-- The list that is read from an object with the given array in the place of the field. -/
def read (l : ListField) (ms : List (String × Value)) (items : List Value) :
    List l.itemKind.Record :=
  l.get (l.kind.ofMembers (Members.put l.name (.array items) ms))

theorem get_ofMembers (l : ListField) (ms : List (String × Value)) :
    l.get (l.kind.ofMembers ms) = Decode.list l.itemKind.ofValue? (ms.lookup l.name) := by
  cases l <;> rfl

/-- A list has the records of those items that hold one, in order. -/
theorem read_eq (l : ListField) (ms : List (String × Value)) (items : List Value) :
    l.read ms items = items.filterMap l.itemKind.ofValue? := by
  rw [read, get_ofMembers, Members.lookup_put, if_pos rfl]
  rfl

theorem read_append (l : ListField) (ms : List (String × Value)) (items items' : List Value) :
    l.read ms (items ++ items') = l.read ms items ++ l.read ms items' := by
  rw [read_eq, read_eq, read_eq, List.filterMap_append]

theorem read_singleton (l : ListField) (ms : List (String × Value)) (v : Value) :
    l.read ms [v] = (l.itemKind.ofValue? v).toList := by
  rw [read_eq, List.filterMap_cons]
  cases l.itemKind.ofValue? v <;> rfl

end ListField

/-- A field that holds a record. -/
inductive NestedField where
  | settings
  | traffic

namespace NestedField

/-- The kind of the records that have the field. -/
@[reducible] def kind : NestedField → RecordKind
  | settings => .configuration
  | traffic => .statistics

/-- The kind of the record in the field. -/
@[reducible] def innerKind : NestedField → RecordKind
  | settings => .listenSettings
  | traffic => .trafficTotals

/-- The name of the field. -/
def name : NestedField → String
  | settings => "settings"
  | traffic => "traffic_stats"

/-- The record in a record. -/
def get : (n : NestedField) → n.kind.Record → n.innerKind.Record
  | settings => Configuration.settings
  | traffic => Statistics.traffic

/-- A record in a record is read by the rules of its own kind. -/
theorem get_ofMembers {n : NestedField} {ms inner : List (String × Value)}
    (h : ms.lookup n.name = some (.object inner)) :
    n.get (n.kind.ofMembers ms) = n.innerKind.ofMembers inner := by
  cases n with
  | settings =>
    have hsettings : ms.lookup "settings" = some (.object inner) := h
    simp only [get, RecordKind.ofMembers, RecordKind.ofFields, Configuration.ofFields, hsettings]
    rfl
  | traffic =>
    have htraffic : ms.lookup "traffic_stats" = some (.object inner) := h
    simp only [get, RecordKind.ofMembers, RecordKind.ofFields, Statistics.ofFields, htraffic]
    rfl

end NestedField

/-- An object is read as a record of any kind without fail. The record is nothing but its fields,
and their names are distinct. What a name stands for, or that it is missing, matters to the field of
that name alone; to nothing if there is no such field; and the order of the members matters to
nothing. A record inside a record is read by the same rules. A list is read item by item, so what an
item is matters to no other one. -/
theorem independence_of_fields (k : RecordKind) (n : NestedField) (l : ListField)
    (ms : List (String × Value)) :
    k.ofValue? (.object ms) = some (k.ofMembers ms) ∧
    (k.fields.map (·.name) = k.names ∧ k.names.Nodup ∧
      ∀ a b : k.Record, (∀ field ∈ k.fields, field.get a = field.get b) → a = b) ∧
    (∀ key v, ∀ field ∈ k.fields, field.name ≠ key →
      field.get (k.ofMembers (Members.put key v ms)) = field.get (k.ofMembers ms) ∧
      field.get (k.ofMembers (Members.erase key ms)) = field.get (k.ofMembers ms)) ∧
    (∀ key v, key ∉ k.names →
      k.ofMembers (Members.put key v ms) = k.ofMembers ms ∧
      k.ofMembers (Members.erase key ms) = k.ofMembers ms) ∧
    (∀ ms', ms.Perm ms' → (ms.map (·.1)).Nodup → k.ofMembers ms' = k.ofMembers ms) ∧
    (∀ inner, n.get (n.kind.ofMembers (Members.put n.name (.object inner) ms))
      = n.innerKind.ofMembers inner) ∧
    (∀ items items', l.read ms (items ++ items') = l.read ms items ++ l.read ms items') ∧
    (∀ before v after, l.read ms (before ++ v :: after)
      = l.read ms before ++ (l.itemKind.ofValue? v).toList ++ l.read ms after) := by
  refine ⟨k.ofValue?_object ms, ⟨k.map_name_fields, k.nodup_names, k.ext_fields⟩, ?_, ?_,
    fun ms' hperm h => k.ofMembers_perm hperm h, fun inner => ?_, l.read_append ms, ?_⟩
  · intro key v field hfield hname
    constructor
    · apply k.get_congr hfield
      rw [Members.lookup_put, if_neg hname]
    · apply k.get_congr hfield
      rw [Members.lookup_erase, if_neg hname]
  · intro key v hkey
    have hother : ∀ name ∈ k.names, name ≠ key := fun name hname hsame => hkey (hsame ▸ hname)
    constructor
    · apply k.ofMembers_congr
      intro name hname
      rw [Members.lookup_put, if_neg (hother name hname)]
    · apply k.ofMembers_congr
      intro name hname
      rw [Members.lookup_erase, if_neg (hother name hname)]
  · apply NestedField.get_ofMembers
    rw [Members.lookup_put, if_pos rfl]
  · intro before v after
    rw [← List.singleton_append, l.read_append, l.read_append, l.read_singleton, List.append_assoc]

/-- Statistics with a text for the counters, an unknown member, and something that is no client
among the clients. -/
theorem independence_of_fields_odd :
    let client (ip : String) : Value := .object [("source_ip", .string ip), ("assigned_lb", .null)]
    let ms : List (String × Value) :=
      [("uptime", .null), ("traffic_stats", .string "lots"), ("active_sources", .array [])]
    let turned : List (String × Value) :=
      [("active_sources", .array []), ("traffic_stats", .string "lots"), ("uptime", .null)]
    let sources := fun ms => (RecordKind.statistics.ofMembers ms).sources
    sources (Members.put "traffic_stats" (.bool true) ms) = sources ms ∧
      RecordKind.statistics.ofMembers (Members.erase "uptime" ms)
        = RecordKind.statistics.ofMembers ms ∧
      RecordKind.statistics.ofMembers turned = RecordKind.statistics.ofMembers ms ∧
      ListField.sources.read ms [client "10.0.0.7", .bool true, client "10.0.0.8"]
        = [{ sourceIp := "10.0.0.7" }, { sourceIp := "10.0.0.8" }] := by
  intro client ms turned sources
  obtain ⟨-, -, hother, hunknown, horder, -, -, hitems⟩ :=
    independence_of_fields .statistics .traffic .sources ms
  have hsources : ⟨"active_sources", Statistics.sources⟩ ∈ RecordKind.statistics.fields := by
    simp [RecordKind.fields]
  refine ⟨(hother "traffic_stats" (.bool true) _ hsources (by decide)).1,
    (hunknown "uptime" .null (by decide)).2,
    horder turned (List.reverse_perm ms).symm (by decide),
    (hitems [client "10.0.0.7"] (.bool true) [client "10.0.0.8"]).trans rfl⟩

end TrafficMap
