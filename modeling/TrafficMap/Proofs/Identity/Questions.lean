import Mathlib
import TrafficMap.Proofs.Identity.Agreement

/-!
# Questions

Calls that are made together are about different addresses. `Resolver.Gathers` says what such calls
return and leave behind, in whatever order their moves come and whatever they are answered;
`Resolver.resolve` and `Resolver.resolveAll` are the case in which one call follows the other
(`gathers_resolve`, `gathers_resolveAll`). A resolver that has asked no question twice has not done
so afterwards (`Gathers.frugal`), it has asked for the host name of every address (`Gathers.asks`), and
it remembers what it did and what was returned (`Gathers.cached_iff`).
-/

namespace TrafficMap

namespace Resolver

/-! ## Different addresses -/

theorem mem_insertSorted {s t : String} {texts : List String} :
    t ∈ insertSorted s texts ↔ t = s ∨ t ∈ texts := by
  induction texts with
  | nil => simp [insertSorted]
  | cons u us ih =>
    unfold insertSorted
    split
    · next h => simp [h]
    · split
      · rw [List.mem_cons]
      · rw [List.mem_cons, ih, List.mem_cons]
        exact or_left_comm

/-- A text is inserted in its place. -/
theorem pairwise_insertSorted {s : String} {texts : List String} (h : texts.Pairwise (· < ·)) :
    (insertSorted s texts).Pairwise (· < ·) := by
  induction texts with
  | nil => exact List.pairwise_singleton _ s
  | cons u us ih =>
    obtain ⟨hu, hus⟩ := List.pairwise_cons.1 h
    unfold insertSorted
    split
    · exact h
    · next hne =>
      split
      · next hlt =>
        refine List.pairwise_cons.2 ⟨?_, h⟩
        intro t ht
        rcases List.mem_cons.1 ht with rfl | ht
        · exact hlt
        · exact String.lt_trans hlt (hu t ht)
      · next hnot =>
        have hgt : u < s := by
          rcases lt_trichotomy s u with hlt | heq | hgt
          · exact absurd hlt hnot
          · exact absurd heq hne
          · exact hgt
        refine List.pairwise_cons.2 ⟨?_, ih hus⟩
        intro t ht
        rcases mem_insertSorted.1 ht with rfl | ht
        · exact hgt
        · exact hu t ht

@[simp] theorem mem_sorted {texts : List String} {t : String} : t ∈ sorted texts ↔ t ∈ texts := by
  induction texts with
  | nil => exact Iff.rfl
  | cons s texts ih => exact mem_insertSorted.trans ((or_congr_right ih).trans List.mem_cons.symm)

/-- Sorted texts do not repeat. -/
theorem nodup_sorted (texts : List String) : (sorted texts).Nodup := by
  have hsorted : (sorted texts).Pairwise (· < ·) := by
    induction texts with
    | nil => exact List.Pairwise.nil
    | cons s texts ih => exact pairwise_insertSorted ih
  exact hsorted.imp fun hlt => ne_of_lt hlt

end Resolver

/-- Addresses stay distinct where an identity is put. -/
theorem IdentityMap.nodup_put {m : IdentityMap} (h : (m.map (·.1)).Nodup) (ip : String)
    (identity : Identity) : ((m.put ip identity).map (·.1)).Nodup := by
  rw [put, List.map_cons, List.nodup_cons]
  refine ⟨?_, h.sublist (List.filter_sublist.map _)⟩
  rw [List.mem_map]
  rintro ⟨e, he, hip⟩
  exact (of_decide_eq_true (List.mem_filter.1 he).2) hip

namespace SharedResolver

variable {d d' : SharedResolver} {ip : String} {identity : Identity} {place : Nat}

/-! ## No question twice -/

/-- No question was asked twice, and none whose turn is still to come was asked. -/
structure Frugal (d : SharedResolver) : Prop where
  keys : (d.resolver.cache.map (·.1)).Nodup
  asked : d.resolver.asked.Nodup
  /-- Nothing was asked about an address that is not remembered and that no call is about. -/
  unasked : ∀ ip, d.resolver.cached ip = none → ip ∉ d.calls.map (·.ip) →
    .hostname ip ∉ d.resolver.asked ∧ .info ip ∉ d.resolver.asked
  /-- A call that waits for the host name has not asked for the fingerprint. -/
  uninformed : ∀ ip, ⟨ip, .awaitHostname⟩ ∈ d.calls → .info ip ∉ d.resolver.asked

/-- A call that goes on is still about its address. -/
theorem map_ip_set {calls : List ResolverCall} {stage : Resolution} (other : Resolution)
    (hcall : calls[place]? = some ⟨ip, stage⟩) :
    (calls.set place ⟨ip, other⟩).map (·.ip) = calls.map (·.ip) := by
  obtain ⟨hin, hget⟩ := List.getElem?_eq_some_iff.1 hcall
  calc (calls.set place ⟨ip, other⟩).map (·.ip)
      = (calls.set place ⟨ip, stage⟩).map (·.ip) := by rw [List.map_set, List.map_set]
    _ = calls.map (·.ip) := by rw [← hget, List.set_getElem_self]

/-- Calls are added and never taken away. -/
theorem Step.ips (h : Step d d') : d.calls.map (·.ip) <+: d'.calls.map (·.ip) := by
  cases h with
  | stay => exact List.prefix_rfl
  | known => simp
  | askHostname => simp
  | askInfo hcall => rw [map_ip_set _ hcall]
  | find _ hcall _ => rw [map_ip_set _ hcall]
  | yield hcall => rw [map_ip_set _ hcall]
  | remember hcall => rw [map_ip_set _ hcall]

/-- A move that asks nothing. -/
theorem Frugal.of_asked (hd : d.Frugal) (h : Step d d')
    (hkeys : (d'.resolver.cache.map (·.1)).Nodup) (hasked : d'.resolver.asked = d.resolver.asked)
    (hwaits : ∀ ip, ⟨ip, .awaitHostname⟩ ∈ d'.calls → ⟨ip, .awaitHostname⟩ ∈ d.calls) :
    d'.Frugal where
  keys := hkeys
  asked := hasked ▸ hd.asked
  unasked ip hnew hcalls := by
    rw [hasked]
    refine hd.unasked ip ?_ fun hmem => hcalls (h.ips.subset hmem)
    cases hcached : d.resolver.cached ip with
    | none => rfl
    | some identity => cases (h.cached hcached).symm.trans hnew
  uninformed ip hwait := hasked ▸ hd.uninformed ip (hwaits ip hwait)

/-- As long as calls are about different addresses, no question is asked twice. -/
theorem Step.frugal (h : Step d d') (hips : (d'.calls.map (·.ip)).Nodup) (hd : d.Frugal) :
    d'.Frugal := by
  have hstep := h
  cases h with
  | stay => exact hd
  | known hknown =>
    refine hd.of_asked hstep hd.keys rfl fun ip hwait => ?_
    simpa using hwait
  | @askHostname ip hnew =>
    have hcall : ip ∉ d.calls.map (·.ip) := by
      intro hmem
      rw [List.map_append, List.nodup_append] at hips
      exact hips.2.2 ip hmem ip (List.mem_singleton_self ip) rfl
    obtain ⟨hhostname, hinfo⟩ := hd.unasked ip hnew hcall
    refine ⟨hd.keys, List.nodup_cons.2 ⟨hhostname, hd.asked⟩, ?_, ?_⟩
    · intro other hother hcalls
      rw [List.map_append, List.mem_append, not_or] at hcalls
      have hne : other ≠ ip := by simpa using hcalls.2
      simpa [hne] using hd.unasked other hother hcalls.1
    · intro other hwait
      rcases List.mem_append.1 hwait with hwait | hwait
      · simpa using hd.uninformed other hwait
      · cases List.mem_singleton.1 hwait
        simpa using hinfo
  | @askInfo place ip hcall =>
    have hin : place < d.calls.length := (List.getElem?_eq_some_iff.1 hcall).1
    have hinfo := hd.uninformed ip (List.mem_of_getElem? hcall)
    refine ⟨hd.keys, List.nodup_cons.2 ⟨hinfo, hd.asked⟩, ?_, ?_⟩
    · intro other hother hcalls
      rw [map_ip_set _ hcall] at hcalls
      have hne : other ≠ ip := by
        rintro rfl
        exact hcalls (List.mem_map_of_mem (List.mem_of_getElem? hcall))
      simpa [hne] using hd.unasked other hother hcalls
    · intro other hwait
      -- the call that has just asked is the only one about its address
      have hne : other ≠ ip := by
        rintro rfl
        have hasks : ⟨other, .awaitInfo⟩ ∈ d.calls.set place ⟨other, .awaitInfo⟩ :=
          List.mem_set hin _
        cases List.inj_on_of_nodup_map hips hwait hasks rfl
      have hwaited : ⟨other, .awaitHostname⟩ ∈ d.calls :=
        (List.mem_or_eq_of_mem_set hwait).resolve_right (by simp)
      simpa [hne] using hd.uninformed other hwaited
  | find _ hcall _ =>
    refine hd.of_asked hstep hd.keys rfl fun ip hwait => ?_
    exact (List.mem_or_eq_of_mem_set hwait).resolve_right (by simp)
  | yield hcall =>
    refine hd.of_asked hstep hd.keys rfl fun ip hwait => ?_
    exact (List.mem_or_eq_of_mem_set hwait).resolve_right (by simp)
  | remember hcall =>
    refine hd.of_asked hstep (IdentityMap.nodup_put hd.keys ..) rfl fun ip hwait => ?_
    exact (List.mem_or_eq_of_mem_set hwait).resolve_right (by simp)

/-- Every run of a frugal resolver is frugal. -/
theorem frugal_run {r : Resolver} (hr : Frugal { resolver := r }) (moves : List ResolverMove)
    (hips : ((run { resolver := r } moves).calls.map (·.ip)).Nodup) :
    (run { resolver := r } moves).Frugal := by
  -- calls that are about different addresses at the end have been so all the time
  have hkept : ∀ d d', Step d d' → ((d.calls.map (·.ip)).Nodup → d.Frugal) →
      (d'.calls.map (·.ip)).Nodup → d'.Frugal :=
    fun d d' hstep hd hips => hstep.frugal hips (hd (hips.sublist hstep.ips.sublist))
  exact run_induction (P := fun d => (d.calls.map (·.ip)).Nodup → d.Frugal) hkept _ moves
    (fun _ => hr) hips

/-- The host name was asked for of every address that is remembered or that a call is about. -/
def Asks (d : SharedResolver) : Prop :=
  ∀ ip, (d.resolver.cached ip).isSome ∨ ip ∈ d.calls.map (·.ip) → .hostname ip ∈ d.resolver.asked

/-- An address is asked for when the first call about it begins. -/
theorem Step.asks (h : Step d d') (hd : d.Asks) : d'.Asks := by
  intro ip hip
  cases h with
  | stay => exact hd ip hip
  | @known other identity hknown =>
    by_cases hother : ip = other
    · exact hd ip (Or.inl (hother ▸ Option.isSome_of_eq_some hknown))
    · refine hd ip (hip.imp_right fun hmem => ?_)
      simpa [hother] using hmem
  | @askHostname other hnew =>
    by_cases hother : ip = other
    · exact hother ▸ List.mem_cons_self
    · refine List.mem_cons_of_mem _ (hd ip (hip.imp_right fun hmem => ?_))
      simpa [hother] using hmem
  | askInfo hcall =>
    rw [map_ip_set _ hcall] at hip
    exact List.mem_cons_of_mem _ (hd ip hip)
  | find _ hcall _ =>
    rw [map_ip_set _ hcall] at hip
    exact hd ip hip
  | yield hcall =>
    rw [map_ip_set _ hcall] at hip
    exact hd ip hip
  | @remember place other identity hcall hnew =>
    rw [map_ip_set _ hcall] at hip
    by_cases hother : ip = other
    · exact hd ip (Or.inr (hother ▸ List.mem_map_of_mem (List.mem_of_getElem? hcall)))
    · have hsame : (d.resolver.cache.put other identity).find ip = d.resolver.cached ip :=
        (IdentityMap.find_put ..).trans (if_neg hother)
      exact hd ip (hsame ▸ hip)

/-- In every run of such a resolver, what is known was asked for. -/
theorem asks_run {r : Resolver} (hr : Asks { resolver := r }) (moves : List ResolverMove) :
    (run { resolver := r } moves).Asks :=
  run_induction (fun _ _ hstep => hstep.asks) _ moves hr

/-! ## Nothing else is remembered -/

/-- What is remembered was remembered before, or a call has returned it. -/
theorem Step.origin (h : Step d d') (hcached : d'.resolver.cached ip = some identity) :
    d.resolver.cached ip = some identity ∨ ⟨ip, .done identity⟩ ∈ d'.calls := by
  cases h with
  | @remember place other found hcall hnew =>
    have hin : place < d.calls.length := (List.getElem?_eq_some_iff.1 hcall).1
    by_cases hother : ip = other
    · subst hother
      cases hcached.symm.trans ((IdentityMap.find_put ..).trans (if_pos rfl))
      exact Or.inr (List.mem_set hin _)
    · exact Or.inl (((IdentityMap.find_put ..).trans (if_neg hother)).symm.trans hcached)
  | _ => exact Or.inl hcached

theorem origin_run (r : Resolver) (moves : List ResolverMove) {ip : String} {identity : Identity}
    (hcached : (run { resolver := r } moves).resolver.cached ip = some identity) :
    r.cached ip = some identity ∨ ⟨ip, .done identity⟩ ∈ (run { resolver := r } moves).calls := by
  refine run_induction (P := fun d => d.resolver.cached ip = some identity →
    r.cached ip = some identity ∨ ⟨ip, .done identity⟩ ∈ d.calls) ?_ _ moves Or.inl hcached
  intro d d' hstep hd hcached
  rcases hstep.origin hcached with hbefore | hdone
  · refine (hd hbefore).imp_right fun hmem => ?_
    obtain ⟨place, hplace⟩ := List.mem_iff_getElem?.1 hmem
    exact List.mem_of_getElem? (hstep.done hplace)
  · exact Or.inr hdone

end SharedResolver

namespace Resolver

variable {r r' : Resolver} {ips : List String} {found : IdentityMap}

/-! ## Calls that are made together -/

/-- Calls for addresses are made together, and all of them return: with `found`, in the order of the
addresses, and leaving `r'`. -/
def Gathers (r : Resolver) (ips : List String) (found : IdentityMap) (r' : Resolver) : Prop :=
  found.map (·.1) = ips ∧ ∃ moves : List ResolverMove,
    let d := SharedResolver.run { resolver := r } moves
    d.resolver = r' ∧ d.calls.Perm (found.map fun e => ⟨e.1, .done e.2⟩)

/-- What is known afterwards was known before or is what was found. -/
theorem Gathers.cached_iff (h : r.Gathers ips found r') {ip : String} {identity : Identity} :
    r'.cached ip = some identity ↔ r.cached ip = some identity ∨ (ip, identity) ∈ found := by
  obtain ⟨-, moves, rfl, hcalls⟩ := h
  have hmem : ⟨ip, .done identity⟩ ∈ (SharedResolver.run { resolver := r } moves).calls ↔
      (ip, identity) ∈ found := by
    rw [hcalls.mem_iff]
    simp
  rw [← hmem]
  constructor
  · exact SharedResolver.origin_run r moves
  · rintro (hbefore | hdone)
    · exact SharedResolver.cached_run _ moves hbefore
    · exact SharedResolver.agrees_run r moves ip identity hdone

/-- Calls that are made together and are about different addresses ask nothing twice, and nothing
that was asked before. -/
theorem Gathers.frugal (h : r.Gathers ips found r') (hips : ips.Nodup)
    (hr : SharedResolver.Frugal { resolver := r }) : SharedResolver.Frugal { resolver := r' } := by
  have hreturned := h
  obtain ⟨rfl, moves, rfl, hcalls⟩ := h
  have hsame : ((SharedResolver.run { resolver := r } moves).calls.map (·.ip)).Perm
      (found.map (·.1)) := by
    simpa [Function.comp_def] using hcalls.map (·.ip)
  have hd := SharedResolver.frugal_run hr moves (hsame.nodup_iff.2 hips)
  refine ⟨hd.keys, hd.asked, fun ip hnew _ => hd.unasked ip hnew fun hmem => ?_, by simp⟩
  obtain ⟨⟨_, identity⟩, hfound, rfl⟩ := List.mem_map.1 (hsame.mem_iff.1 hmem)
  cases (hreturned.cached_iff.2 (Or.inr hfound)).symm.trans hnew

/-- Calls do not return before the host name was asked for. -/
theorem Gathers.asks (h : r.Gathers ips found r') (hr : SharedResolver.Asks { resolver := r }) :
    SharedResolver.Asks { resolver := r' } := by
  obtain ⟨-, moves, rfl, -⟩ := h
  intro ip hip
  exact SharedResolver.asks_run hr moves ip (Or.inl (by simpa using hip))

/-! ## One call after the other -/

/-- The moves of a call that is not interrupted. Those that it does not need change nothing. -/
def callMoves (lookup : Lookup) (place : Nat) (ip : String) : List ResolverMove :=
  [.begin ip, .answerHostname place (lookup.hostname ip), .answerInfo place (lookup.info ip),
    .remember place]

/-- The moves of one call resolve an address as a call by itself does. -/
theorem run_callMoves (lookup : Lookup) (d : SharedResolver) (ip : String) :
    d.run (callMoves lookup d.calls.length ip)
      = { resolver := (resolve lookup d.resolver ip).2
          calls := d.calls ++ [⟨ip, .done (resolve lookup d.resolver ip).1⟩] } := by
  cases hcached : d.resolver.cache.find ip with
  | some identity =>
    simp [SharedResolver.run, callMoves, SharedResolver.next, SharedResolver.begin,
      Resolution.start, resolve, hcached, ask, ResolverCall.question?]
  | none =>
    rcases Resolution.afterHostname_cases ip (lookup.hostname ip) with
      ⟨identity, hhostname⟩ | hhostname
    · simp [SharedResolver.run, callMoves, SharedResolver.next, SharedResolver.begin,
        SharedResolver.advance, SharedResolver.remember, Resolution.start, Resolution.remember,
        resolve, lookUp, hcached, hhostname, ask, ResolverCall.question?]
    · simp [SharedResolver.run, callMoves, SharedResolver.next, SharedResolver.begin,
        SharedResolver.advance, SharedResolver.remember, Resolution.start, Resolution.remember,
        Resolution.afterInfo, resolve, lookUp, hcached, hhostname, ask, ResolverCall.question?]

/-- Calls one after the other are moves, too. -/
theorem run_resolveEach (lookup : Lookup) (d : SharedResolver) (ips : List String) :
    ∃ moves, d.run moves
      = { resolver := (resolveEach lookup d.resolver ips).2
          calls := d.calls ++
            (resolveEach lookup d.resolver ips).1.map fun e => ⟨e.1, .done e.2⟩ } := by
  induction ips generalizing d with
  | nil => exact ⟨[], by simp [SharedResolver.run, resolveEach]⟩
  | cons ip ips ih =>
    obtain ⟨moves, hmoves⟩ := ih (d.run (callMoves lookup d.calls.length ip))
    refine ⟨callMoves lookup d.calls.length ip ++ moves, ?_⟩
    rw [SharedResolver.run_append, hmoves, run_callMoves]
    simp [resolveEach]

theorem map_fst_resolveEach (lookup : Lookup) (r : Resolver) (ips : List String) :
    (resolveEach lookup r ips).1.map (·.1) = ips := by
  induction ips generalizing r with
  | nil => rfl
  | cons ip ips ih => exact congrArg (ip :: ·) (ih (resolve lookup r ip).2)

/-- Calls one after the other find what a run of concurrent ones can find. -/
theorem gathers_resolveEach (lookup : Lookup) (r : Resolver) (ips : List String) :
    r.Gathers ips (resolveEach lookup r ips).1 (resolveEach lookup r ips).2 := by
  obtain ⟨moves, hmoves⟩ := run_resolveEach lookup { resolver := r } ips
  refine ⟨map_fst_resolveEach lookup r ips, moves, ?_⟩
  rw [hmoves]
  exact ⟨rfl, List.Perm.refl _⟩

/-- The same of a single call. -/
theorem gathers_resolve (lookup : Lookup) (r : Resolver) (ip : String) :
    r.Gathers [ip] [(ip, (resolve lookup r ip).1)] (resolve lookup r ip).2 :=
  gathers_resolveEach lookup r [ip]

/-- The same of all calls for a list of addresses. -/
theorem gathers_resolveAll (lookup : Lookup) (r : Resolver) (ips : List String) :
    r.Gathers (sorted ips) (resolveAll lookup r ips).1 (resolveAll lookup r ips).2 :=
  gathers_resolveEach lookup r (sorted ips)

end Resolver

end TrafficMap
