import Mathlib
import TrafficMap.Proofs.Json.DistinctKeys
import TrafficMap.Toml.Document

/-!
# Tables hold a key once

Whatever a document says, and in whatever order its headers and dotted keys come, no table of it holds a key twice
(`Document.distinctKeys_of_read?`): a table changes by `put` alone, and the values that are put into it were
themselves built in that way.
-/

namespace TrafficMap.Toml

open Json (Value)

/-! ## Tables -/

/-- A node in whose tables no key occurs twice. -/
inductive Node.DistinctKeys : Node → Prop
  | value {v : Value} (h : v.DistinctKeys) : DistinctKeys (.value v)
  | table {origin : Origin} {entries : Entries} (hkeys : (entries.map (·.1)).Nodup)
    (h : ∀ m ∈ entries, DistinctKeys m.2) : DistinctKeys (.table origin entries)
  | rows {tables : List Entries} (hkeys : ∀ t ∈ tables, (t.map (·.1)).Nodup)
    (h : ∀ t ∈ tables, ∀ m ∈ t, DistinctKeys m.2) : DistinctKeys (.rows tables)

/-- A table in which no key occurs twice, nor in the tables below it. -/
structure Entries.DistinctKeys (t : Entries) : Prop where
  nodup : (t.map (·.1)).Nodup
  below : ∀ m ∈ t, m.2.DistinctKeys

namespace Node

/-- The members of a table are the values of its nodes under the same keys. -/
theorem membersOf_eq_map (t : Entries) : membersOf t = t.map fun m => (m.1, m.2.toValue) := by
  induction t with
  | nil => rfl
  | cons m t ih => rw [membersOf, ih, List.map_cons]

/-- The items of a list of tables are their objects. -/
theorem objectsOf_eq_map (tables : List Entries) :
    objectsOf tables = tables.map fun t => .object (membersOf t) := by
  induction tables with
  | nil => rfl
  | cons t tables ih => rw [objectsOf, ih, List.map_cons]

/-- The value of a table has the keys of the table. -/
theorem map_fst_membersOf (t : Entries) : (membersOf t).map (·.1) = t.map (·.1) := by
  rw [membersOf_eq_map, List.map_map]
  rfl

/-- A node with distinct keys has a value with distinct keys. -/
theorem DistinctKeys.toValue {n : Node} (h : n.DistinctKeys) : n.toValue.DistinctKeys := by
  have hobject {t : Entries} (hkeys : (t.map (·.1)).Nodup) (ih : ∀ m ∈ t, m.2.toValue.DistinctKeys) :
      (Value.object (membersOf t)).DistinctKeys := by
    refine .object (by rwa [map_fst_membersOf]) fun m hm => ?_
    rw [membersOf_eq_map] at hm
    obtain ⟨entry, hentry, rfl⟩ := List.mem_map.mp hm
    exact ih entry hentry
  induction h with
  | value h => exact h
  | table hkeys _ ih =>
    rw [Node.toValue]
    exact hobject hkeys ih
  | rows hkeys _ ih =>
    rw [Node.toValue, objectsOf_eq_map]
    refine .array fun v hv => ?_
    obtain ⟨t, ht, rfl⟩ := List.mem_map.mp hv
    exact hobject (hkeys t ht) (ih t ht)

end Node

namespace Entries

open Members (put nodup_put forall_put mem_of_lookup)

theorem DistinctKeys.nil : DistinctKeys [] :=
  ⟨List.nodup_nil, nofun⟩

/-- Putting a node with distinct keys under a key keeps the keys distinct. -/
theorem DistinctKeys.put {t : Entries} (h : t.DistinctKeys) (key : String) {n : Node} (hn : n.DistinctKeys) :
    DistinctKeys (put key n t) :=
  ⟨nodup_put h.nodup, forall_put hn h.below⟩

theorem DistinctKeys.table {t : Entries} (h : t.DistinctKeys) (origin : Origin) :
    (Node.table origin t).DistinctKeys :=
  .table h.nodup h.below

/-- A table with distinct keys is an object with distinct keys. -/
theorem DistinctKeys.object {t : Entries} (h : t.DistinctKeys) :
    (Value.object (Node.membersOf t)).DistinctKeys :=
  (h.table .written).toValue

theorem distinctKeys_rows {tables : List Entries} (h : ∀ t ∈ tables, DistinctKeys t) :
    (Node.rows tables).DistinctKeys :=
  .rows (fun t ht => (h t ht).nodup) fun t ht => (h t ht).below

theorem distinctKeys_of_table {origin : Origin} {t : Entries} (h : (Node.table origin t).DistinctKeys) :
    t.DistinctKeys := by
  cases h with
  | table hkeys h => exact ⟨hkeys, h⟩

theorem distinctKeys_of_rows {tables : List Entries} (h : (Node.rows tables).DistinctKeys) :
    ∀ t ∈ tables, t.DistinctKeys := by
  cases h with
  | rows hkeys h => exact fun t ht => ⟨hkeys t ht, h t ht⟩

/-- A change of one table below keeps the keys distinct if that one's are kept distinct. -/
theorem DistinctKeys.alter? {made : Origin} {change : Origin → Entries → Option Entries}
    (hchange : ∀ origin t t', t.DistinctKeys → change origin t = some t' → t'.DistinctKeys)
    {path : List String} {origin : Origin} {t t' : Entries} (h : t.DistinctKeys)
    (halter : alter? made change path origin t = some t') : t'.DistinctKeys := by
  induction path generalizing origin t t' with
  | nil => exact hchange origin t t' h halter
  | cons key path ih =>
    rw [Entries.alter?] at halter
    split at halter
    · obtain ⟨sub, hsub, rfl⟩ := Option.map_eq_some_iff.mp halter
      exact h.put key ((ih .nil hsub).table made)
    · cases halter
    · next origin' sub hlookup =>
      have hbelow := distinctKeys_of_table (h.below _ (mem_of_lookup hlookup))
      split_ifs at halter
      obtain ⟨sub', hsub, rfl⟩ := Option.map_eq_some_iff.mp halter
      exact h.put key ((ih hbelow hsub).table origin')
    · next tables hlookup =>
      have hbelow := distinctKeys_of_rows (h.below _ (mem_of_lookup hlookup))
      have hlast : Entries.DistinctKeys (tables.getLastD []) := by
        rcases List.eq_nil_or_concat tables with rfl | ⟨others, last, rfl⟩
        · exact .nil
        · rw [List.concat_eq_append, List.getLastD_concat]
          exact hbelow last (by simp)
      obtain ⟨last, hsub, rfl⟩ := Option.map_eq_some_iff.mp halter
      refine h.put key (distinctKeys_rows (List.forall_mem_append.mpr ⟨?_, ?_⟩))
      · exact fun t ht => hbelow t (List.mem_of_mem_dropLast ht)
      · exact List.forall_mem_singleton.mpr (ih hlast hsub)

/-- Keys stay distinct where a value is inserted along a path. -/
theorem DistinctKeys.insert? {path : List String} {key : String} {v : Value} (hv : v.DistinctKeys)
    {t t' : Entries} (h : t.DistinctKeys) (hinsert : insert? path key v t = some t') : t'.DistinctKeys := by
  refine h.alter? (fun origin t t' ht hchange => ?_) hinsert
  split_ifs at hchange
  cases hchange
  exact ht.put key (.value hv)

/-- Keys stay distinct where the lines of a section are inserted one after the other. -/
theorem DistinctKeys.insertAll? {lines : List (List String × String × Value)}
    (hlines : ∀ l ∈ lines, l.2.2.DistinctKeys) {t t' : Entries} (h : t.DistinctKeys)
    (hinsert : insertAll? t lines = some t') : t'.DistinctKeys := by
  induction lines generalizing t with
  | nil =>
    cases hinsert
    exact h
  | cons l lines ih =>
    obtain ⟨hl, hrest⟩ := List.forall_mem_cons.mp hlines
    rw [Entries.insertAll?, List.foldlM_cons] at hinsert
    obtain ⟨next, hnext, hinsert⟩ := Option.bind_eq_some_iff.mp hinsert
    exact ih hrest (h.insert? hl hnext) hinsert

/-- Keys stay distinct where a section is placed in the table of the document. -/
theorem DistinctKeys.place? {shared : Bool} {path : List String} {key : String}
    {lines : List (List String × String × Value)} (hlines : ∀ l ∈ lines, l.2.2.DistinctKeys) {t t' : Entries}
    (h : t.DistinctKeys) (hplace : place? shared path key lines t = some t') : t'.DistinctKeys := by
  refine h.alter? (fun origin t t' ht hchange => ?_) hplace
  have hnew {sub : Entries} (hsub : Entries.insertAll? [] lines = some sub) : sub.DistinctKeys :=
    DistinctKeys.nil.insertAll? hlines hsub
  split_ifs at hchange
  · split at hchange
    · obtain ⟨row, hrow, rfl⟩ := Option.map_eq_some_iff.mp hchange
      exact ht.put key (distinctKeys_rows (List.forall_mem_singleton.mpr (hnew hrow)))
    · next tables hlookup =>
      obtain ⟨row, hrow, rfl⟩ := Option.map_eq_some_iff.mp hchange
      have hbelow := distinctKeys_of_rows (ht.below _ (mem_of_lookup hlookup))
      exact ht.put key (distinctKeys_rows (List.forall_mem_append.mpr
        ⟨hbelow, List.forall_mem_singleton.mpr (hnew hrow)⟩))
    · cases hchange
  · split at hchange
    · obtain ⟨sub, hsub, rfl⟩ := Option.map_eq_some_iff.mp hchange
      exact ht.put key ((hnew hsub).table .written)
    · next sub hlookup =>
      obtain ⟨sub', hsub, rfl⟩ := Option.map_eq_some_iff.mp hchange
      have hbelow := distinctKeys_of_table (ht.below _ (mem_of_lookup hlookup))
      exact ht.put key ((hbelow.insertAll? hlines hsub).table .written)
    · cases hchange

end Entries

/-! ## Values -/

namespace Plain

variable {cs : List Char} {v : Value}

theorem distinctKeys_of_whole? {negative : Bool} {n : ℕ} (h : whole? negative n = some v) : v.DistinctKeys := by
  unfold whole? at h
  split_ifs at h <;> cases h
  · exact Value.distinctKeys_ofInt _
  · exact .number _

/-- An integer has no keys at all, in whatever base it is written. -/
theorem distinctKeys_of_integer? (h : integer? cs = some v) : v.DistinctKeys := by
  unfold integer? at h
  split at h <;> obtain ⟨ds, -, hwhole⟩ := Option.bind_eq_some_iff.mp h <;>
    exact distinctKeys_of_whole? hwhole

/-- A decimal number has none either. -/
theorem distinctKeys_of_decimalFloat? (h : decimalFloat? cs = some v) : v.DistinctKeys := by
  unfold decimalFloat? at h
  dsimp only at h
  split_ifs at h
  obtain ⟨w, -, hfloat⟩ := Option.bind_eq_some_iff.mp h
  split_ifs at hfloat
  cases hfloat
  exact .number _

theorem distinctKeys_of_wordFloat? (h : wordFloat? cs = some v) : v.DistinctKeys := by
  unfold wordFloat? at h
  dsimp only at h
  split_ifs at h <;> cases h <;> exact .number _

/-- A date or a time has one key only. -/
theorem distinctKeys_of_moment? (h : moment? cs = some v) : v.DistinctKeys := by
  unfold moment? at h
  dsimp only at h
  split_ifs at h
  cases h
  exact .object (List.nodup_singleton _) (List.forall_mem_singleton.mpr (.string _))

/-- A value that is written without brackets has distinct keys. -/
theorem distinctKeys_of_value? (h : Plain.value? cs = some v) : v.DistinctKeys := by
  unfold Plain.value? at h
  split_ifs at h
  · cases h
    exact .bool true
  · cases h
    exact .bool false
  · simp only [Option.or_eq_some_iff] at h
    rcases h with h | ⟨-, h | ⟨-, h | ⟨-, h⟩⟩⟩
    · exact distinctKeys_of_moment? h
    · exact distinctKeys_of_integer? h
    · exact distinctKeys_of_decimalFloat? h
    · exact distinctKeys_of_wordFloat? h

theorem distinctKeys_of_read? {r : List Char} (h : Plain.read? cs = some (v, r)) : v.DistinctKeys := by
  obtain ⟨w, hw, hpair⟩ := Option.map_eq_some_iff.mp h
  cases hpair
  exact distinctKeys_of_value? hw

end Plain

/-- An inline table has distinct keys if the values of its lines have. -/
theorem distinctKeys_of_inlineTable? {lines : List (List String × String × Value)}
    (hlines : ∀ l ∈ lines, l.2.2.DistinctKeys) {v : Value} (h : inlineTable? lines = some v) :
    v.DistinctKeys := by
  obtain ⟨t, ht, rfl⟩ := Option.map_eq_some_iff.mp h
  exact (Entries.DistinctKeys.nil.insertAll? hlines ht).object

/-- The values, items and pairs that are split off within some number of steps. -/
structure SplitsDistinct (fuel : ℕ) : Prop where
  value : ∀ {depth cs v r}, value? fuel depth cs = some (v, r) → v.DistinctKeys
  items : ∀ {depth cs vs r}, items? fuel depth cs = some (vs, r) → ∀ v ∈ vs, v.DistinctKeys
  pairs : ∀ {depth cs lines r}, pairs? fuel depth cs = some (lines, r) → ∀ l ∈ lines, l.2.2.DistinctKeys

/-- Whatever the readers of values, items and lines split off has distinct keys. -/
theorem splitsDistinct (fuel : ℕ) : SplitsDistinct fuel := by
  induction fuel with
  | zero => exact ⟨nofun, nofun, nofun⟩
  | succ fuel ih =>
    refine ⟨fun {depth cs v r} h => ?_, fun {depth cs vs r} h => ?_, fun {depth cs lines r} h => ?_⟩
    · unfold value? at h
      split at h
      · obtain ⟨s, -, hpair⟩ := Option.map_eq_some_iff.mp h
        cases hpair
        exact .string _
      · obtain ⟨s, -, hpair⟩ := Option.map_eq_some_iff.mp h
        cases hpair
        exact .string _
      · split_ifs at h
        obtain ⟨items, hitems, hpair⟩ := Option.map_eq_some_iff.mp h
        cases hpair
        exact .array (ih.items hitems)
      · split_ifs at h
        split at h
        · cases h
          exact .object List.nodup_nil nofun
        · obtain ⟨⟨lines, rest⟩, hlines, h⟩ := Option.bind_eq_some_iff.mp h
          obtain ⟨table, htable, hpair⟩ := Option.bind_eq_some_iff.mp h
          cases hpair
          exact distinctKeys_of_inlineTable? (ih.pairs hlines) htable
      · exact Plain.distinctKeys_of_read? h
    · unfold items? at h
      split at h
      · cases h
        exact nofun
      · obtain ⟨⟨item, rest⟩, hitem, h⟩ := Option.bind_eq_some_iff.mp h
        dsimp only at h
        split at h
        · obtain ⟨⟨items, rest'⟩, hitems, hpair⟩ := Option.bind_eq_some_iff.mp h
          cases hpair
          exact List.forall_mem_cons.mpr ⟨ih.value hitem, ih.items hitems⟩
        · cases h
          exact List.forall_mem_singleton.mpr (ih.value hitem)
        · cases h
    · unfold pairs? at h
      obtain ⟨⟨path, key, rest⟩, -, h⟩ := Option.bind_eq_some_iff.mp h
      dsimp only at h
      split at h
      · obtain ⟨⟨v, rest'⟩, hv, h⟩ := Option.bind_eq_some_iff.mp h
        dsimp only at h
        split at h
        · obtain ⟨⟨pairs, rest''⟩, hpairs, hpair⟩ := Option.bind_eq_some_iff.mp h
          cases hpair
          exact List.forall_mem_cons.mpr ⟨ih.value hv, ih.pairs hpairs⟩
        · cases h
          exact List.forall_mem_singleton.mpr (ih.value hv)
        · cases h
      · cases h

/-! ## Documents -/

namespace Document

/-- A line with a value in which no key occurs twice. -/
def DistinctLine : Line → Prop
  | .header _ _ _ => True
  | .entry _ _ v => v.DistinctKeys

/-- A header holds no value, so its keys are distinct. -/
theorem distinctLine_of_header? {cs r : List Char} {line : Line} (h : header? cs = some (line, r)) :
    DistinctLine line := by
  unfold header? at h
  split at h <;> obtain ⟨⟨path, key, rest⟩, -, h⟩ := Option.bind_eq_some_iff.mp h <;> split at h
  · obtain ⟨rest, -, hpair⟩ := Option.bind_eq_some_iff.mp h
    cases hpair
    trivial
  · cases h
  · obtain ⟨rest, -, hpair⟩ := Option.bind_eq_some_iff.mp h
    cases hpair
    trivial
  · cases h

/-- The value of an entry has distinct keys. -/
theorem distinctLine_of_entryLine {cs r : List Char} {line : Line} (h : entry? cs = some (line, r)) :
    DistinctLine line := by
  obtain ⟨⟨path, key, rest⟩, -, h⟩ := Option.bind_eq_some_iff.mp h
  dsimp only at h
  split at h
  · obtain ⟨⟨v, rest'⟩, hv, h⟩ := Option.bind_eq_some_iff.mp h
    obtain ⟨rest'', -, hpair⟩ := Option.bind_eq_some_iff.mp h
    cases hpair
    exact (splitsDistinct _).value hv
  · cases h

/-- Every line of a document holds a value with distinct keys, if it holds one. -/
theorem distinctLine_of_linesFrom? {fuel : ℕ} {cs : List Char} {lines : List Line}
    (h : linesFrom? fuel cs = some lines) : ∀ line ∈ lines, DistinctLine line := by
  induction fuel generalizing cs lines with
  | zero => cases h
  | succ fuel ih =>
    unfold linesFrom? at h
    split at h
    · cases h
      exact nofun
    · obtain ⟨⟨line, rest⟩, hline, h⟩ := Option.bind_eq_some_iff.mp h
      obtain ⟨others, hothers, hpair⟩ := Option.bind_eq_some_iff.mp h
      cases hpair
      exact List.forall_mem_cons.mpr ⟨distinctLine_of_header? hline, ih hothers⟩
    · obtain ⟨⟨line, rest⟩, hline, h⟩ := Option.bind_eq_some_iff.mp h
      obtain ⟨others, hothers, hpair⟩ := Option.bind_eq_some_iff.mp h
      cases hpair
      exact List.forall_mem_cons.mpr ⟨distinctLine_of_entryLine hline, ih hothers⟩

/-- Cutting the lines into sections keeps their values. -/
theorem distinctKeys_of_sections {lines : List Line} (h : ∀ line ∈ lines, DistinctLine line) :
    (∀ l ∈ (sections lines).1, l.2.2.DistinctKeys) ∧
      ∀ s ∈ (sections lines).2, ∀ l ∈ s.lines, l.2.2.DistinctKeys := by
  induction lines with
  | nil => exact ⟨nofun, nofun⟩
  | cons line lines ih =>
    obtain ⟨hline, hlines⟩ := List.forall_mem_cons.mp h
    obtain ⟨hfirst, hothers⟩ := ih hlines
    cases line with
    | header shared path key => exact ⟨nofun, List.forall_mem_cons.mpr ⟨hfirst, hothers⟩⟩
    | entry path key v => exact ⟨List.forall_mem_cons.mpr ⟨hline, hfirst⟩, hothers⟩

/-- Keys stay distinct where all sections are placed one after the other. -/
theorem distinctKeys_of_places {others : List Section} (h : ∀ s ∈ others, ∀ l ∈ s.lines, l.2.2.DistinctKeys)
    {t t' : Entries} (ht : t.DistinctKeys)
    (hplace : others.foldlM (fun t s => t.place? s.shared s.path s.key s.lines) t = some t') : t'.DistinctKeys := by
  induction others generalizing t with
  | nil =>
    cases hplace
    exact ht
  | cons s others ih =>
    obtain ⟨hs, hothers⟩ := List.forall_mem_cons.mp h
    rw [List.foldlM_cons] at hplace
    obtain ⟨next, hnext, hplace⟩ := Option.bind_eq_some_iff.mp hplace
    exact ih hothers (ht.place? hs hnext) hplace

/-- The table of a document has distinct keys. -/
theorem distinctKeys_of_table? {lines : List Line} (h : ∀ line ∈ lines, DistinctLine line) {t : Entries}
    (htable : table? lines = some t) : t.DistinctKeys := by
  obtain ⟨hfirst, hothers⟩ := distinctKeys_of_sections h
  obtain ⟨root, hroot, hplace⟩ := Option.bind_eq_some_iff.mp htable
  exact distinctKeys_of_places hothers (Entries.DistinctKeys.nil.insertAll? hfirst hroot) hplace

/-- A document is read as an object in which no key occurs twice. -/
theorem distinctKeys_of_read? {text : String} {v : Value} (h : read? text = some v) : v.DistinctKeys := by
  obtain ⟨lines, hlines, h⟩ := Option.bind_eq_some_iff.mp h
  obtain ⟨t, ht, hobject⟩ := Option.bind_eq_some_iff.mp h
  cases hobject
  exact (distinctKeys_of_table? (distinctLine_of_linesFrom? hlines) ht).object

end Document

end TrafficMap.Toml
