import Mathlib
import TrafficMap.Topology.Build

/-!
# First occurrences

A report may list an address several times, and then the first entry counts. `firstOfEach` says so
without a list of what was seen: the keys without repetitions, each with the first item that has it.
`distinctBy` computes just this (`distinctBy_nil`). The keys of the result are pairwise distinct, and
there are as many items as there are distinct keys. Where the keys of a list are distinct already, an
item is found by its key in whatever order the list comes (`find?_of_perm`).
-/

namespace TrafficMap

/-! ## Lists with distinct keys -/

section

variable {β γ : Type} [DecidableEq γ] (key : β → γ) {items : List β}

/-- Where keys are distinct, an item is the only one with its key. -/
theorem filter_key (h : (items.map key).Nodup) {x : β} (hx : x ∈ items) :
    items.filter (fun y => key y = key x) = [x] := by
  induction items with
  | nil => cases hx
  | cons y rest ih =>
    rw [List.map_cons, List.nodup_cons] at h
    rcases List.mem_cons.mp hx with rfl | hrest
    · rw [List.filter_cons_of_pos (by simp), List.filter_eq_nil_iff.mpr]
      intro z hz hkey
      exact h.1 (List.mem_map.mpr ⟨z, hz, by simpa using hkey⟩)
    · rw [List.filter_cons_of_neg, ih h.2 hrest]
      intro hkey
      exact h.1 (List.mem_map.mpr ⟨x, hrest, by simpa using Eq.symm (of_decide_eq_true hkey)⟩)

/-- Where keys are distinct, the item with a key is found in whatever order the items come. -/
theorem find?_of_perm (h : (items.map key).Nodup) {items' : List β} (hperm : items'.Perm items)
    (k : γ) : items'.find? (fun x => key x = k) = items.find? (fun x => key x = k) := by
  rw [← List.head?_filter, ← List.head?_filter]
  have hfilter := hperm.filter fun x => decide (key x = k)
  by_cases hk : ∃ x ∈ items, key x = k
  · obtain ⟨x, hx, rfl⟩ := hk
    rw [filter_key key h hx] at hfilter ⊢
    rw [List.perm_singleton.mp hfilter]
  · have hnone : items.filter (fun x => decide (key x = k)) = [] :=
      List.filter_eq_nil_iff.mpr fun x hx hkey => hk ⟨x, hx, of_decide_eq_true hkey⟩
    rw [hnone] at hfilter ⊢
    rw [List.perm_nil.mp hfilter]

end

/-! ## The first item of every key -/

variable {β : Type}

/-- The first item of every key, in the order in which the keys occur first. -/
def firstOfEach (key : β → String) (items : List β) : List β :=
  (items.map key).eraseDups.filterMap fun k => items.find? fun item => key item = k

/-- The keys that are left when repetitions are erased are distinct. -/
theorem nodup_eraseDups (keys : List String) : keys.eraseDups.Nodup := by
  cases keys with
  | nil => exact List.nodup_nil
  | cons k rest =>
    rw [List.eraseDups_cons, List.nodup_cons]
    refine ⟨?_, nodup_eraseDups _⟩
    rw [List.mem_eraseDups, List.mem_filter]
    rintro ⟨-, hk⟩
    simp at hk
termination_by keys.length
decreasing_by
  have hle := List.length_filter_le (fun b => !b == k) rest
  rw [List.length_cons]
  omega

/-- The first item is the first of its key; the others are the first ones among the items with
other keys. -/
theorem firstOfEach_cons (key : β → String) (item : β) (items : List β) :
    firstOfEach key (item :: items)
      = item :: firstOfEach key (items.filter fun x => !key x == key item) := by
  have hkeys : (items.map key).filter (fun k => !k == key item)
      = (items.filter fun x => !key x == key item).map key :=
    List.filter_map
  unfold firstOfEach
  rw [List.map_cons, List.eraseDups_cons, hkeys,
    List.filterMap_cons_some (b := item) (by rw [List.find?_cons_of_pos (by simp)])]
  congr 1
  apply List.filterMap_congr
  intro k hk
  -- another key finds the same item with and without those of the first key
  obtain ⟨x, hx, rfl⟩ := List.mem_map.mp (List.mem_eraseDups.mp hk)
  have hne : key x ≠ key item := by simpa using List.of_mem_filter hx
  rw [List.find?_cons_of_neg (by simpa using hne.symm), List.find?_filter]
  congr 1
  funext y
  by_cases hy : key y = key x
  · simp [hy, hne]
  · simp [hy]

theorem map_firstOfEach (key : β → String) (items : List β) :
    (firstOfEach key items).map key = (items.map key).eraseDups := by
  unfold firstOfEach
  rw [List.map_filterMap]
  have hfound : ∀ k ∈ (items.map key).eraseDups,
      (items.find? fun item => key item = k).map key = some k := by
    intro k hk
    obtain ⟨x, hx, rfl⟩ := List.mem_map.mp (List.mem_eraseDups.mp hk)
    obtain ⟨y, hy⟩ := Option.isSome_iff_exists.mp
      (List.find?_isSome (p := fun item => decide (key item = key x)) |>.mpr ⟨x, hx, by simp⟩)
    have hkey : key y = key x := by simpa using List.find?_some hy
    rw [hy, Option.map_some, hkey]
  rw [List.filterMap_congr hfound, List.filterMap_some]

/-- There is one item for every distinct key. -/
theorem length_firstOfEach (key : β → String) (items : List β) :
    (firstOfEach key items).length = (items.map key).toFinset.card := by
  have hsame : (items.map key).toFinset = (items.map key).eraseDups.toFinset := by
    ext k
    rw [List.mem_toFinset, List.mem_toFinset, List.mem_eraseDups]
  rw [hsame, List.toFinset_card_of_nodup (nodup_eraseDups _), ← map_firstOfEach, List.length_map]

/-- Where keys are distinct, every item is the first of its key. -/
theorem firstOfEach_of_nodup (key : β → String) {items : List β} (h : (items.map key).Nodup) :
    firstOfEach key items = items := by
  induction items with
  | nil => rfl
  | cons x rest ih =>
    rw [List.map_cons, List.nodup_cons] at h
    have hothers : rest.filter (fun y => !key y == key x) = rest := by
      rw [List.filter_eq_self]
      intro y hy
      have hne : key y ≠ key x := fun hkey => h.1 (hkey ▸ List.mem_map_of_mem hy)
      simpa using hne
    rw [firstOfEach_cons, hothers, ih h.2]

/-- Items whose keys were seen do not count. -/
theorem distinctBy_eq (key : β → String) (seen : List String) (items : List β) :
    distinctBy key seen items
      = firstOfEach key (items.filter fun x => !seen.contains (key x)) := by
  induction items generalizing seen with
  | nil => rfl
  | cons item items ih =>
    rw [distinctBy]
    split
    · next hseen => rw [ih, List.filter_cons_of_neg (by simpa using hseen)]
    · next hnew =>
      rw [List.filter_cons_of_pos (by simpa using hnew), firstOfEach_cons, ih, List.filter_filter]
      -- to be new among one more is to be new and another one
      have hnew' : (fun x => !(key item :: seen).contains (key x))
          = fun x => (!key x == key item) && !seen.contains (key x) := by
        funext x
        rw [List.contains_cons, Bool.not_or]
      rw [hnew']

/-- Without repetitions there is the first item of every key. -/
theorem distinctBy_nil (key : β → String) (items : List β) :
    distinctBy key [] items = firstOfEach key items := by
  rw [distinctBy_eq]
  congr 1
  exact List.filter_eq_self.mpr fun _ _ => rfl

end TrafficMap
