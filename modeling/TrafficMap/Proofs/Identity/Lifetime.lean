import Mathlib
import TrafficMap.Refresh.Fetch
import TrafficMap.Proofs.Identity.Questions
import TrafficMap.Proofs.Topology.Layers

/-!
# The life of a resolver

A resolver is used again and again: for one address, for many, or for all clients of a report. Uses do
not overlap, and what the appliance answers may change from one to the next. `Used` says what one use
returns and leaves behind, and `Lifetime` is the history of a resolver from its beginning. All its uses
agree on every address, so a client is shown under one name for good (`identities_of_lifetime`).
-/

namespace TrafficMap

/-! ## Uses -/

/-- A use of a resolver and what it returns. -/
inductive Use where
  /-- One address is resolved. -/
  | resolve (ip : String) (identity : Identity)
  /-- All addresses of a list are resolved. -/
  | resolveAll (ips : List String) (identities : IdentityMap)
  /-- A snapshot is fetched, from the answers of the appliance. -/
  | fetch (answers : Except RequestError (Configuration × Statistics))
      (result : Except Failure Snapshot)

namespace Use

/-- The addresses that are resolved. -/
def ips : Use → List String
  | .resolve ip _ => [ip]
  | .resolveAll ips _ => ips
  | .fetch (.ok (_, stats)) _ => stats.sources.map (·.sourceIp)
  | .fetch (.error _) _ => []

/-- The identities that are returned. -/
def returned : Use → IdentityMap
  | .resolve ip identity => [(ip, identity)]
  | .resolveAll _ identities => identities
  | .fetch _ (.ok snapshot) => snapshot.identities
  | .fetch _ (.error _) => []

/-- The snapshot that is returned, if it is a fetch and succeeds. -/
def snapshot? : Use → Option Snapshot
  | .fetch _ (.ok snapshot) => some snapshot
  | _ => none

end Use

namespace Resolver

/-- A resolver is used, and is left as `r'`. -/
inductive Used (r : Resolver) : Use → Resolver → Prop where
  | resolve {ip : String} {identity : Identity} {r' : Resolver}
      (h : r.Gathers [ip] [(ip, identity)] r') : Used r (.resolve ip identity) r'
  | resolveAll {ips : List String} {identities : IdentityMap} {r' : Resolver}
      (h : r.Gathers (sorted ips) identities r') : Used r (.resolveAll ips identities) r'
  | fetchFailed (e : RequestError) :
      Used r (.fetch (.error e) (.error (Failure.ofRequest e))) r
  | fetch {config : Configuration} {stats : Statistics} {identities : IdentityMap} {r' : Resolver}
      (h : r.Gathers (sorted (stats.sources.map (·.sourceIp))) identities r') :
      Used r (.fetch (.ok (config, stats)) (.ok { config, stats, identities })) r'

/-- The uses of a resolver so far, one after the other, and what they left behind. -/
inductive Lifetime : List Use → Resolver → Prop where
  | new : Lifetime [] {}
  | next {log : List Use} {use : Use} {r r' : Resolver} (h : Lifetime log r)
      (hused : Used r use r') : Lifetime (log ++ [use]) r'

variable {r r' : Resolver} {use : Use} {log : List Use}

/-! ## What is run -/

/-- Resolving an address is a use. -/
theorem used_resolve (lookup : Lookup) (r : Resolver) (ip : String) :
    Used r (.resolve ip (resolve lookup r ip).1) (resolve lookup r ip).2 :=
  .resolve (gathers_resolve lookup r ip)

/-- The end of a fetch is a use. -/
theorem used_finish (lookup : Lookup) (r : Resolver)
    (answers : Except RequestError (Configuration × Statistics)) :
    Used r (.fetch answers (Fetch.finish lookup r answers).1) (Fetch.finish lookup r answers).2 := by
  cases answers with
  | error e => exact .fetchFailed e
  | ok answers => exact .fetch (gathers_resolveAll lookup r _)

/-! ## What a use does -/

/-- Every use makes one call for each of its addresses. -/
theorem Used.gathers (h : Used r use r') : r.Gathers (sorted use.ips) use.returned r' := by
  cases h with
  | resolve h => exact h
  | resolveAll h => exact h
  | fetchFailed e => exact gathers_resolveEach Lookup.silent r []
  | fetch h => exact h

/-- A snapshot has the identities of its own clients. -/
theorem Used.snapshot (h : Used r use r') {s : Snapshot} (hs : use.snapshot? = some s) :
    use.returned = s.identities ∧ use.ips = s.stats.sources.map (·.sourceIp) := by
  cases h with
  | fetch h =>
    cases hs
    exact ⟨rfl, rfl⟩
  | _ => cases hs

/-! ## What the uses so far did -/

theorem Lifetime.used (h : Lifetime log r) (huse : use ∈ log) : ∃ r₁ r₂, Used r₁ use r₂ := by
  induction h with
  | new => cases huse
  | next h hused ih =>
    rcases List.mem_append.1 huse with huse | huse
    · exact ih huse
    · cases List.mem_singleton.1 huse
      exact ⟨_, _, hused⟩

theorem Lifetime.frugal (h : Lifetime log r) : SharedResolver.Frugal { resolver := r } := by
  induction h with
  | new => exact ⟨List.nodup_nil, List.nodup_nil, by simp, by simp⟩
  | next h hused ih => exact hused.gathers.frugal (nodup_sorted _) ih

theorem Lifetime.asks (h : Lifetime log r) : SharedResolver.Asks { resolver := r } := by
  induction h with
  | new => simp [SharedResolver.Asks, cached, IdentityMap.find]
  | next h hused ih => exact hused.gathers.asks ih

/-- What is remembered is what was returned. -/
theorem Lifetime.cached_iff (h : Lifetime log r) {ip : String} {identity : Identity} :
    r.cached ip = some identity ↔ (ip, identity) ∈ log.flatMap Use.returned := by
  induction h with
  | new => simp [cached, IdentityMap.find]
  | next h hused ih =>
    rw [hused.gathers.cached_iff, ih, List.flatMap_append, List.mem_append, List.flatMap_singleton]

/-- An identity is returned for every address. -/
theorem Lifetime.map_fst_returned (h : Lifetime log r) (huse : use ∈ log) :
    use.returned.map (·.1) = sorted use.ips := by
  obtain ⟨r₁, r₂, hused⟩ := h.used huse
  exact hused.gathers.1

/-- Exactly the addresses that were resolved are known. -/
theorem Lifetime.isSome_cached_iff (h : Lifetime log r) {ip : String} :
    (r.cached ip).isSome ↔ ip ∈ log.flatMap Use.ips := by
  calc (r.cached ip).isSome
      ↔ ∃ identity, (ip, identity) ∈ log.flatMap Use.returned := by
        rw [Option.isSome_iff_exists]
        exact exists_congr fun identity => h.cached_iff
    _ ↔ ip ∈ (log.flatMap Use.returned).map (·.1) := by simp
    _ ↔ ip ∈ log.flatMap fun use => sorted use.ips := by
        rw [List.map_flatMap, List.flatMap_congr fun use huse => h.map_fst_returned huse]
    _ ↔ ip ∈ log.flatMap Use.ips := by simp only [List.mem_flatMap, mem_sorted]

/-- There is one identity for every address that was resolved. -/
theorem Lifetime.size_eq (h : Lifetime log r) : r.size = (log.flatMap Use.ips).toFinset.card := by
  have hkeys : (r.cache.map (·.1)).toFinset = (log.flatMap Use.ips).toFinset := by
    ext ip
    rw [List.mem_toFinset, List.mem_toFinset, ← IdentityMap.isSome_find_iff]
    exact h.isSome_cached_iff
  rw [← hkeys, List.toFinset_card_of_nodup h.frugal.keys, List.length_map]
  rfl

/-- A client of a snapshot is shown under the identity that is remembered for it. -/
theorem Lifetime.cached_identityOf (h : Lifetime log r) {s : Snapshot} {ip : String}
    (hs : s ∈ log.filterMap Use.snapshot?) (hip : ip ∈ s.stats.sources.map (·.sourceIp)) :
    r.cached ip = some (Topology.identityOf s.identities ip) := by
  obtain ⟨use, huse, hsnapshot⟩ := List.mem_filterMap.1 hs
  obtain ⟨r₁, r₂, hused⟩ := h.used huse
  obtain ⟨hreturned, hips⟩ := hused.snapshot hsnapshot
  have hkey : ip ∈ s.identities.map (·.1) := by
    rw [← hreturned, h.map_fst_returned huse, mem_sorted, hips]
    exact hip
  obtain ⟨identity, hfind⟩ := Option.isSome_iff_exists.1 (IdentityMap.isSome_find_iff.2 hkey)
  have hmem : (ip, identity) ∈ use.returned := hreturned ▸ IdentityMap.mem_of_find hfind
  rw [Topology.identityOf, hfind, Option.getD_some, h.cached_iff]
  exact List.mem_flatMap.2 ⟨use, huse, hmem⟩

/-- Over the whole life of a resolver, whatever it is used for and whatever it is answered: no
question is asked twice, and the host name of every address is asked for; every use returns an identity
for each of its addresses, and all uses return the same one for an address; what they returned is what
is remembered, and nothing else is. Where topologies are built from snapshots that were fetched with
it, the client with an address has the same name and the same kind in all of them. -/
theorem identities_of_lifetime (h : Lifetime log r) :
    (∀ question, r.asked.count question ≤ 1) ∧
    (∀ ip, (r.cached ip).isSome → r.asked.count (.hostname ip) = 1) ∧
    (∀ use ∈ log, use.returned.map (·.1) = sorted use.ips) ∧
    (∀ ip first later, (ip, first) ∈ log.flatMap Use.returned →
      (ip, later) ∈ log.flatMap Use.returned → later = first) ∧
    (∀ ip identity, r.cached ip = some identity ↔ (ip, identity) ∈ log.flatMap Use.returned) ∧
    (∀ ip, (r.cached ip).isSome ↔ ip ∈ log.flatMap Use.ips) ∧
    r.size = (log.flatMap Use.ips).toFinset.card ∧
    ∀ (α : Type) [Scalar α] (layout layout' : Layout α),
      ∀ s ∈ log.filterMap Use.snapshot?, ∀ s' ∈ log.filterMap Use.snapshot?,
      ∀ d ∈ (Topology.build s.config s.stats s.identities layout).devices,
      ∀ d' ∈ (Topology.build s'.config s'.stats s'.identities layout').devices,
      ∀ ip, d.id = Topology.clientId ip → d'.id = Topology.clientId ip →
        d'.name = d.name ∧ d'.kind = d.kind := by
  have hasked := h.frugal.asked
  refine ⟨List.nodup_iff_count_le_one.1 hasked,
    fun ip hcached => List.count_eq_one_of_mem hasked (h.asks ip (Or.inl hcached)),
    fun use => h.map_fst_returned, ?_, fun ip identity => h.cached_iff, fun ip => h.isSome_cached_iff, h.size_eq, ?_⟩
  · intro ip first later hfirst hlater
    exact Option.some.inj ((h.cached_iff.2 hlater).symm.trans (h.cached_iff.2 hfirst))
  · intro α _ layout layout' s hs s' hs' d hd d' hd' ip hid hid'
    obtain ⟨hip, hname, hkind⟩ := Topology.identity_of_clientId _ _ _ _ hd hid
    obtain ⟨hip', hname', hkind'⟩ := Topology.identity_of_clientId _ _ _ _ hd' hid'
    have hsame : Topology.identityOf s'.identities ip = Topology.identityOf s.identities ip :=
      Option.some.inj ((h.cached_identityOf hs' hip').symm.trans (h.cached_identityOf hs hip))
    rw [hname', hkind', hname, hkind, hsame]
    exact ⟨rfl, rfl⟩

/-- Two addresses are resolved together, the second one is answered first, and nothing helps. When the
appliance knows a name again, only the address that is new is asked for; later nobody is. -/
theorem identities_of_lifetime_unanswered :
    let failed : RequestError := .transport .timeout "no answer"
    let moves : List ResolverMove :=
      [.begin "10.0.0.7", .begin "10.0.0.9", .answerHostname 1 (.error failed),
        .answerInfo 1 (.error failed), .answerHostname 0 (.ok none), .remember 1,
        .answerInfo 0 (.ok {}), .remember 0]
    let made := ["10.0.0.7", "10.0.0.9"].map fun ip => (ip, Identity.fallback ip)
    let named : Lookup := { Lookup.silent with hostname := fun _ => .ok (some "den-tv.lan") }
    let stats : Statistics :=
      { sources := [{ sourceIp := "10.0.0.8" }, { sourceIp := "10.0.0.7" }] }
    let fetched := Fetch.finish named (SharedResolver.run {} moves).resolver (.ok ({}, stats))
    let last := resolve .silent fetched.2 "10.0.0.8"
    let log := [.resolveAll ["10.0.0.9", "10.0.0.7", "10.0.0.9"] made,
      .fetch (.ok ({}, stats)) fetched.1, .resolve "10.0.0.8" last.1]
    Lifetime log last.2 ∧
      last.2.asked = [.hostname "10.0.0.8", .info "10.0.0.7", .info "10.0.0.9",
        .hostname "10.0.0.9", .hostname "10.0.0.7"] ∧
      last.2.size = 3 ∧
      last.2.cached "10.0.0.7" = some (Identity.fallback "10.0.0.7") ∧
      last.1 = ⟨"Den Tv", .tv, .hostname⟩ := by
  intro failed moves made named stats fetched last log
  have hmade : Gathers {} (sorted ["10.0.0.9", "10.0.0.7", "10.0.0.9"]) made
      (SharedResolver.run {} moves).resolver :=
    ⟨by decide +kernel, moves, rfl, by decide +kernel⟩
  have hlife : Lifetime log last.2 :=
    ((Lifetime.new.next (.resolveAll hmade)).next (used_finish named _ _)).next
      (used_resolve .silent _ _)
  obtain ⟨-, -, -, -, hcached, -, hsize, -⟩ := identities_of_lifetime hlife
  refine ⟨hlife, by decide +kernel, hsize.trans (by decide +kernel), ?_, by decide +kernel⟩
  exact (hcached "10.0.0.7" _).2 (List.mem_flatMap.2 ⟨_, List.mem_cons_self, List.mem_cons_self⟩)

end Resolver

end TrafficMap
