import Mathlib
import TrafficMap.Identity.Calls

/-!
# Calls agree

Between the look at what is remembered and the moment in which a call remembers what it found, other
calls may have found something else. `SharedResolver.Step` lists what one move can do. No move changes
what is remembered about an address (`Step.cached`), and a call returns what is remembered when it
returns (`Step.agrees`), so all calls for an address return the same.
-/

namespace TrafficMap

/-! ## Maps of identities -/

namespace IdentityMap

/-- Putting the identity of an address changes that of no other one. -/
theorem find_put (m : IdentityMap) (ip other : String) (identity : Identity) :
    (m.put ip identity).find other = if other = ip then some identity else m.find other := by
  have hrest (h : other ≠ ip) : (m.filter (fun e => e.1 ≠ ip)).lookup other = m.lookup other := by
    induction m with
    | nil => rfl
    | cons e m ih =>
      obtain ⟨known, i⟩ := e
      by_cases hknown : known = ip
      · have hother : (other == known) = false := by simpa [hknown] using h
        rw [List.filter_cons_of_neg (by simpa using hknown), ih, List.lookup_cons, hother]
      · rw [List.filter_cons_of_pos (by simpa using hknown), List.lookup_cons, List.lookup_cons, ih]
  unfold find put
  by_cases h : other = ip
  · simp [h]
  · have hother : (other == ip) = false := by simpa using h
    rw [List.lookup_cons, hother, if_neg h]
    exact hrest h

theorem mem_of_find {m : IdentityMap} {ip : String} {identity : Identity}
    (h : m.find ip = some identity) : (ip, identity) ∈ m := by
  obtain ⟨before, after, rfl, -⟩ := List.lookup_eq_some_iff.1 h
  simp

/-- An address is found if the map has it. -/
theorem isSome_find_iff {m : IdentityMap} {ip : String} :
    (m.find ip).isSome = true ↔ ip ∈ m.map (·.1) := by
  rw [find, List.lookup_isSome_iff, List.mem_map]
  exact exists_congr fun e => and_congr_right fun _ => beq_iff_eq.trans eq_comm

end IdentityMap

/-- The answer for the host name ends the search, or the fingerprint is asked for. -/
theorem Resolution.afterHostname_cases (ip : String) (answer : Except RequestError (Option String)) :
    (∃ identity, afterHostname ip answer = .found identity) ∨
      afterHostname ip answer = .awaitInfo := by
  unfold afterHostname
  split
  · next identity _ => exact Or.inl ⟨identity, rfl⟩
  · exact Or.inr rfl

namespace SharedResolver

/-! ## Moves -/

/-- What a move does. -/
inductive Step (d : SharedResolver) : SharedResolver → Prop where
  /-- The move is not possible. -/
  | stay : Step d d
  /-- A call begins, and returns what is remembered. -/
  | known {ip : String} {identity : Identity}
      (hknown : d.resolver.cached ip = some identity) :
      Step d { d with calls := d.calls ++ [⟨ip, .done identity⟩] }
  /-- A call begins, and asks for the host name. -/
  | askHostname {ip : String} (hnew : d.resolver.cached ip = none) :
      Step d
        { resolver := { d.resolver with asked := .hostname ip :: d.resolver.asked }
          calls := d.calls ++ [⟨ip, .awaitHostname⟩] }
  /-- The host name does not help, and the call asks for the fingerprint. -/
  | askInfo {place : Nat} {ip : String} (hcall : d.calls[place]? = some ⟨ip, .awaitHostname⟩) :
      Step d
        { resolver := { d.resolver with asked := .info ip :: d.resolver.asked }
          calls := d.calls.set place ⟨ip, .awaitInfo⟩ }
  /-- A call finds an identity. -/
  | find {place : Nat} {ip : String} {stage : Resolution} (identity : Identity)
      (hcall : d.calls[place]? = some ⟨ip, stage⟩)
      (hwaits : stage = .awaitHostname ∨ stage = .awaitInfo) :
      Step d { d with calls := d.calls.set place ⟨ip, .found identity⟩ }
  /-- Another call was faster, and the call returns what that one remembered. -/
  | yield {place : Nat} {ip : String} {identity known : Identity}
      (hcall : d.calls[place]? = some ⟨ip, .found identity⟩)
      (hknown : d.resolver.cached ip = some known) :
      Step d { d with calls := d.calls.set place ⟨ip, .done known⟩ }
  /-- A call remembers the identity that it found, and returns it. -/
  | remember {place : Nat} {ip : String} {identity : Identity}
      (hcall : d.calls[place]? = some ⟨ip, .found identity⟩)
      (hnew : d.resolver.cached ip = none) :
      Step d
        { resolver := { d.resolver with cache := d.resolver.cache.put ip identity }
          calls := d.calls.set place ⟨ip, .done identity⟩ }

variable {d d' : SharedResolver} {ip : String} {identity : Identity} {place : Nat}

theorem step_begin (d : SharedResolver) (ip : String) : Step d (d.begin ip) := by
  unfold begin Resolution.start
  cases hcached : d.resolver.cache.find ip with
  | some identity => exact .known hcached
  | none => exact .askHostname hcached

theorem step_remember (hcall : d.calls[place]? = some ⟨ip, .found identity⟩) :
    Step d (d.remember place ip identity) := by
  unfold SharedResolver.remember Resolution.remember
  cases hcached : d.resolver.cache.find ip with
  | some known => exact .yield hcall hcached
  | none => exact .remember hcall hcached

/-- Every move does one of the things listed. -/
theorem step_next (d : SharedResolver) (move : ResolverMove) : Step d (d.next move) := by
  cases move with
  | begin ip => exact step_begin d ip
  | answerHostname place answer =>
    rw [next]
    split
    · next ip hcall =>
      rcases Resolution.afterHostname_cases ip answer with ⟨identity, hstage⟩ | hstage
      · rw [hstage]
        exact .find identity hcall (Or.inl rfl)
      · rw [hstage]
        exact .askInfo hcall
    · exact .stay
  | answerInfo place answer =>
    rw [next]
    split
    · next ip hcall => exact .find _ hcall (Or.inr rfl)
    · exact .stay
  | remember place =>
    rw [next]
    split
    · next ip identity hcall => exact step_remember hcall
    · exact .stay

/-- What moves keep, runs keep. -/
theorem run_induction {P : SharedResolver → Prop} (hstep : ∀ d d', Step d d' → P d → P d')
    (d : SharedResolver) (moves : List ResolverMove) (h : P d) : P (d.run moves) := by
  induction moves generalizing d with
  | nil => exact h
  | cons move moves ih => exact ih (d.next move) (hstep d _ (step_next d move) h)

theorem run_append (d : SharedResolver) (before after : List ResolverMove) :
    d.run (before ++ after) = (d.run before).run after :=
  List.foldl_append

/-! ## What stays -/

/-- What is remembered about an address stays. -/
theorem Step.cached (h : Step d d') (hcached : d.resolver.cached ip = some identity) :
    d'.resolver.cached ip = some identity := by
  cases h with
  | @remember place other found hcall hnew =>
    have hother : ip ≠ other := by
      rintro rfl
      cases hnew.symm.trans hcached
    rw [← hcached]
    exact (IdentityMap.find_put ..).trans (if_neg hother)
  | _ => exact hcached

/-- An identity that is known stays the same in every run. -/
theorem cached_run (d : SharedResolver) (moves : List ResolverMove)
    (hcached : d.resolver.cached ip = some identity) :
    (d.run moves).resolver.cached ip = some identity :=
  run_induction (fun _ _ hstep => hstep.cached) d moves hcached

/-- A call that changes is not the one that has returned. -/
theorem getElem?_set_of_done {calls : List ResolverCall} {changed : Nat} {call other : ResolverCall}
    (hcall : calls[changed]? = some call) (hstage : ∀ identity, call.stage ≠ .done identity)
    (hdone : calls[place]? = some ⟨ip, .done identity⟩) :
    (calls.set changed other)[place]? = some ⟨ip, .done identity⟩ := by
  have hplace : changed ≠ place := by
    rintro rfl
    obtain rfl := Option.some.inj (hcall.symm.trans hdone)
    exact hstage identity rfl
  rw [List.getElem?_set_ne hplace]
  exact hdone

/-- What a call returned stays. -/
theorem Step.done (h : Step d d') (hdone : d.calls[place]? = some ⟨ip, .done identity⟩) :
    d'.calls[place]? = some ⟨ip, .done identity⟩ := by
  have hin : place < d.calls.length := (List.getElem?_eq_some_iff.1 hdone).1
  cases h with
  | stay => exact hdone
  | known => exact (List.getElem?_append_left hin).trans hdone
  | askHostname => exact (List.getElem?_append_left hin).trans hdone
  | askInfo hcall => exact getElem?_set_of_done hcall (by simp) hdone
  | find _ hcall hwaits =>
    exact getElem?_set_of_done hcall (by rcases hwaits with rfl | rfl <;> simp) hdone
  | yield hcall => exact getElem?_set_of_done hcall (by simp) hdone
  | remember hcall => exact getElem?_set_of_done hcall (by simp) hdone

/-- A call that is done stays done. -/
theorem done_run (d : SharedResolver) (moves : List ResolverMove)
    (hdone : d.calls[place]? = some ⟨ip, .done identity⟩) :
    (d.run moves).calls[place]? = some ⟨ip, .done identity⟩ :=
  run_induction (fun _ _ hstep => hstep.done) d moves hdone

/-- What calls returned is what is remembered. -/
def Agrees (d : SharedResolver) : Prop :=
  ∀ ip identity, ⟨ip, .done identity⟩ ∈ d.calls → d.resolver.cached ip = some identity

/-- A call returns what is remembered when it returns. -/
theorem Step.agrees (h : Step d d') (hagrees : d.Agrees) : d'.Agrees := by
  intro ip identity hdone
  -- a call that had returned before, or the one that returns now
  have hold (hmem : ⟨ip, .done identity⟩ ∈ d.calls) : d'.resolver.cached ip = some identity :=
    h.cached (hagrees ip identity hmem)
  cases h with
  | stay => exact hold hdone
  | known hknown =>
    rcases List.mem_append.1 hdone with hmem | hnew
    · exact hold hmem
    · cases List.mem_singleton.1 hnew
      exact hknown
  | askHostname =>
    rcases List.mem_append.1 hdone with hmem | hnew
    · exact hold hmem
    · cases List.mem_singleton.1 hnew
  | askInfo => exact hold ((List.mem_or_eq_of_mem_set hdone).resolve_right (by simp))
  | find => exact hold ((List.mem_or_eq_of_mem_set hdone).resolve_right (by simp))
  | yield _ hknown =>
    rcases List.mem_or_eq_of_mem_set hdone with hmem | hnew
    · exact hold hmem
    · cases hnew
      exact hknown
  | remember =>
    rcases List.mem_or_eq_of_mem_set hdone with hmem | hnew
    · exact hold hmem
    · cases hnew
      exact (IdentityMap.find_put ..).trans (if_pos rfl)

/-- A call that found an identity returns with its next move: what is remembered by then or, if
nothing is, what it found. -/
theorem next_remember (hcall : d.calls[place]? = some ⟨ip, .found identity⟩) :
    (d.next (.remember place)).calls[place]?
      = some ⟨ip, .done ((d.resolver.cached ip).getD identity)⟩ := by
  have hin : place < d.calls.length := (List.getElem?_eq_some_iff.1 hcall).1
  have hnext : d.next (.remember place) = d.remember place ip identity := by
    simp only [next, hcall]
  rw [hnext]
  unfold SharedResolver.remember Resolution.remember Resolver.cached
  cases d.resolver.cache.find ip with
  | some known => exact List.getElem?_set_self hin
  | none => exact List.getElem?_set_self hin

/-- In every run all calls agree with what is known. -/
theorem agrees_run (r : Resolver) (moves : List ResolverMove) :
    (run { resolver := r } moves).Agrees :=
  run_induction (fun _ _ hstep => hstep.agrees) _ moves (by simp [Agrees])

/-- However many calls are made to a resolver, for whatever addresses, however their moves are mixed
and whatever they are answered: what is remembered about an address at any moment is still remembered
at the end, a call that has returned at any moment has returned what is remembered about its address
at the end, and a call that found an identity only keeps it if nothing was remembered before. -/
theorem agreement_of_run (r : Resolver) (before after : List ResolverMove) :
    let d := run { resolver := r } before
    let d' := run { resolver := r } (before ++ after)
    (∀ ip identity, d.resolver.cached ip = some identity →
      d'.resolver.cached ip = some identity) ∧
    (∀ (place : Nat) ip identity, d.calls[place]? = some ⟨ip, .done identity⟩ →
      d'.calls[place]? = some ⟨ip, .done identity⟩ ∧ d'.resolver.cached ip = some identity) ∧
    (∀ (place : Nat) ip identity, d.calls[place]? = some ⟨ip, .found identity⟩ →
      (d.next (.remember place)).calls[place]?
        = some ⟨ip, .done ((d.resolver.cached ip).getD identity)⟩) := by
  intro d d'
  have hlater : d' = d.run after := run_append _ before after
  refine ⟨fun ip identity hcached => ?_, fun place ip identity hdone => ?_,
    fun place ip identity hfound => next_remember hfound⟩
  · rw [hlater]
    exact cached_run d after hcached
  · have hreturned := agrees_run r before ip identity (List.mem_of_getElem? hdone)
    rw [hlater]
    exact ⟨done_run d after hdone, cached_run d after hreturned⟩

/-- Two calls for one address look it up at the same time, and only the first one is told a host
name. The second one finds the made-up identity and remembers it; the first one returns that too. -/
theorem agreement_of_run_race :
    let before : List ResolverMove :=
      [.begin "10.0.0.7", .begin "10.0.0.7", .answerHostname 0 (.ok (some "den-tv.lan")),
        .answerHostname 1 (.ok none), .answerInfo 1 (.ok {}), .remember 1]
    let d := run { resolver := {} } before
    let d' := run { resolver := {} } (before ++ [.remember 0])
    d.calls = [⟨"10.0.0.7", .found ⟨"Den Tv", .tv, .hostname⟩⟩,
        ⟨"10.0.0.7", .done (Identity.fallback "10.0.0.7")⟩] ∧
      d'.calls = [⟨"10.0.0.7", .done (Identity.fallback "10.0.0.7")⟩,
        ⟨"10.0.0.7", .done (Identity.fallback "10.0.0.7")⟩] ∧
      d'.resolver.cached "10.0.0.7" = some (Identity.fallback "10.0.0.7") := by
  intro before d d'
  have hd : d.calls = [⟨"10.0.0.7", .found ⟨"Den Tv", .tv, .hostname⟩⟩,
        ⟨"10.0.0.7", .done (Identity.fallback "10.0.0.7")⟩] := by decide +kernel
  have hd' : d'.calls = [⟨"10.0.0.7", .done (Identity.fallback "10.0.0.7")⟩,
        ⟨"10.0.0.7", .done (Identity.fallback "10.0.0.7")⟩] := by decide +kernel
  have hdone : d.calls[1]? = some ⟨"10.0.0.7", .done (Identity.fallback "10.0.0.7")⟩ := by
    rw [hd]
    rfl
  exact ⟨hd, hd', ((agreement_of_run {} before [.remember 0]).2.1 1 _ _ hdone).2⟩

end SharedResolver

end TrafficMap
