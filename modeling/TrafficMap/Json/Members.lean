/-!
# Members

A list of named things, in which every name occurs once and order has no meaning. `Members.put`
changes what one name stands for and nothing else (`lookup_put`).
-/

namespace TrafficMap.Members

variable {β : Type}

/-- Gives a name a meaning, in its place if it has one already. -/
def put (key : String) (b : β) : List (String × β) → List (String × β)
  | [] => [(key, b)]
  | (k, c) :: rest => if k = key then (key, b) :: rest else (k, c) :: put key b rest

/-- Putting a name changes the meaning of that name only. -/
theorem lookup_put (key other : String) (b : β) (ms : List (String × β)) :
    (put key b ms).lookup other = if other = key then some b else ms.lookup other := by
  induction ms with
  | nil =>
    by_cases h : other = key
    · simp [put, h]
    · have hb : (other == key) = false := beq_eq_false_iff_ne.mpr h
      simp [put, List.lookup_cons, h, hb]
  | cons m ms ih =>
    obtain ⟨k, c⟩ := m
    by_cases hk : k = key
    · subst hk
      by_cases h : other = k
      · simp [put, h]
      · have hb : (other == k) = false := beq_eq_false_iff_ne.mpr h
        simp [put, List.lookup_cons, h, hb]
    · by_cases h : other = k
      · subst h
        simp [put, hk]
      · have hb : (other == k) = false := beq_eq_false_iff_ne.mpr h
        simp [put, hk, List.lookup_cons, hb, ih]

end TrafficMap.Members
