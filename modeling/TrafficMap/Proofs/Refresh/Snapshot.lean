import Mathlib
import TrafficMap.Proofs.Identity.Answers
import TrafficMap.Proofs.Topology.Layers

/-!
# All or nothing

A fetch makes two requests at once, and when both are answered it resolves the clients of the
report. Either it ends with both answers and an identity for every client, or with the failure of the
request that failed first; then nobody was asked about an address (`Fetch.run_of_failure`). The
clients are resolved at once as well, and the result does not depend on how their calls are mixed
(`Resolver.gathered_of_consults`). `Fetch.snapshot_of_run` puts this together.
-/

namespace TrafficMap

/-! ## Two requests -/

namespace Fetch

section

variable {β γ : Type}

/-- A request failed with `e` at a time, and none had failed before. -/
structure FirstFailure (config : Request β) (stats : Request γ) (time : Nat) (e : RequestError) :
    Prop where
  failed : (config.result = .error e ∧ config.delay = time) ∨
    (stats.result = .error e ∧ stats.delay = time)
  config_le : ∀ f, config.result = .error f → time ≤ config.delay
  stats_le : ∀ f, stats.result = .error f → time ≤ stats.delay

/-- After a failure the requests are not both answered. -/
theorem FirstFailure.not_answered {config : Request β} {stats : Request γ} {time : Nat}
    {e : RequestError} (h : FirstFailure config stats time e) :
    ¬((∃ b, config.result = .ok b) ∧ ∃ c, stats.result = .ok c) := by
  rintro ⟨⟨b, hb⟩, c, hc⟩
  rcases h.failed with ⟨hfailed, -⟩ | ⟨hfailed, -⟩
  · cases hb.symm.trans hfailed
  · cases hc.symm.trans hfailed

/-- Both requests are answered, or the first failure is what is known of them. -/
theorem join_cases (config : Request β) (stats : Request γ) :
    (∃ b c, config.result = .ok b ∧ stats.result = .ok c ∧
      (join config stats).2 = .ok (b, c)) ∨
    ∃ e, FirstFailure config stats (join config stats).1 e ∧ (join config stats).2 = .error e := by
  unfold join
  cases hconfig : config.result with
  | ok b =>
    cases hstats : stats.result with
    | ok c => exact .inl ⟨b, c, rfl, rfl, rfl⟩
    | error f => exact .inr ⟨f, ⟨.inr ⟨hstats, rfl⟩, by simp [hconfig], fun _ _ => le_rfl⟩, rfl⟩
  | error e =>
    cases hstats : stats.result with
    | ok c => exact .inr ⟨e, ⟨.inl ⟨hconfig, rfl⟩, fun _ _ => le_rfl, by simp [hstats]⟩, rfl⟩
    | error f =>
      right
      dsimp only
      split
      · next hfirst =>
        have hle : config.delay ≤ stats.delay := by
          simp only [Bool.or_eq_true, decide_eq_true_eq] at hfirst
          omega
        exact ⟨e, ⟨.inl ⟨hconfig, rfl⟩, fun _ _ => le_rfl, fun _ _ => hle⟩, rfl⟩
      · next hlater =>
        have hle : stats.delay ≤ config.delay := by
          simp only [Bool.or_eq_true, decide_eq_true_eq] at hlater
          omega
        exact ⟨f, ⟨.inr ⟨hstats, rfl⟩, fun _ _ => hle, fun _ _ => le_rfl⟩, rfl⟩

end

variable (lookup : Lookup) (r : Resolver) {config : Request Configuration}
  {stats : Request Statistics}

theorem run_eq (config : Request Configuration) (stats : Request Statistics) :
    run lookup r config stats
      = ((join config stats).1, finish lookup r (join config stats).2) :=
  rfl

/-- Two answers make a snapshot with an identity for every client. -/
theorem run_of_answers {c : Configuration} {s : Statistics} (hconfig : config.result = .ok c)
    (hstats : stats.result = .ok s) :
    (run lookup r config stats).2
      = (.ok { config := c, stats := s
               identities := (r.resolveAll lookup (s.sources.map (·.sourceIp))).1 },
          (r.resolveAll lookup (s.sources.map (·.sourceIp))).2) := by
  have hjoin : (join config stats).2 = .ok (c, s) := by rw [join, hconfig, hstats]
  rw [run_eq, hjoin]
  rfl

/-- A failure leaves the resolver as it was. -/
theorem run_of_failure {e : RequestError} (h : (join config stats).2 = .error e) :
    (run lookup r config stats).2 = (.error (Failure.ofRequest e), r) := by
  rw [run_eq, h]
  rfl

end Fetch

/-! ## All clients -/

/-- Where every client has an identity, it is the one that the client is shown under. -/
theorem Topology.identity_of_find {α : Type} [Scalar α] {config : Configuration}
    {stats : Statistics} {identities : IdentityMap} {layout : Layout α}
    (hfind : ∀ ip ∈ stats.sources.map (·.sourceIp), (identities.find ip).isSome)
    {d : Device α} (hd : d ∈ (build config stats identities layout).devices) {ip : String}
    (hid : d.id = clientId ip) :
    ∃ identity, identities.find ip = some identity ∧
      d.name = identity.name ∧ d.kind = .client identity.kind := by
  obtain ⟨hip, hname, hkind⟩ := identity_of_clientId _ _ _ _ hd hid
  obtain ⟨identity, hidentity⟩ := Option.isSome_iff_exists.1 (hfind ip hip)
  rw [identityOf, hidentity, Option.getD_some] at hname hkind
  exact ⟨identity, hidentity, hname, hkind⟩

namespace Resolver

variable {lookup : Lookup} {r : Resolver} {ips : List String}

theorem resolveAll_fst (lookup : Lookup) (r : Resolver) (ips : List String) :
    (resolveAll lookup r ips).1 = (sorted ips).map fun ip => (ip, r.identityOf lookup ip) :=
  resolveEach_fst lookup r (sorted ips)

theorem map_fst_resolveAll (lookup : Lookup) (r : Resolver) (ips : List String) :
    (resolveAll lookup r ips).1.map (·.1) = sorted ips :=
  map_fst_resolveEach lookup r (sorted ips)

theorem find_resolveAll {ip : String} (h : ip ∈ ips) :
    (resolveAll lookup r ips).1.find ip = some (r.identityOf lookup ip) := by
  rw [resolveAll_fst, IdentityMap.find_map, if_pos (mem_sorted.2 h)]

theorem cached_resolveAll {ip : String} (h : ip ∈ ips) :
    (resolveAll lookup r ips).2.cached ip = some (r.identityOf lookup ip) :=
  (gathers_resolveAll lookup r ips).cached_iff.2 (.inr (IdentityMap.mem_of_find (find_resolveAll h)))

/-- Calls that are made at once find what calls one after the other find, and leave the same
behind. -/
theorem gathered_of_consults {moves : List ResolverMove} {found : IdentityMap}
    (hmoves : SharedResolver.Consults lookup { resolver := r } moves)
    (hcalls : (SharedResolver.run { resolver := r } moves).calls.Perm
      (found.map fun e => ⟨e.1, .done e.2⟩))
    (hips : found.map (·.1) = sorted ips) :
    found = (resolveAll lookup r ips).1 ∧
      ∀ ip, (SharedResolver.run { resolver := r } moves).resolver.cached ip
        = (resolveAll lookup r ips).2.cached ip := by
  have hfound : found = (resolveAll lookup r ips).1 := by
    rw [resolveAll_fst, ← hips, List.map_map]
    symm
    refine (List.map_congr_left fun e he => ?_).trans (List.map_id found)
    have hdone : ⟨e.1, .done e.2⟩ ∈ (SharedResolver.run { resolver := r } moves).calls :=
      hcalls.mem_iff.2 (List.mem_map_of_mem he)
    have hidentity := SharedResolver.eq_identityOf_of_done hmoves hdone
    simp only [Function.comp_apply, ← hidentity, id_eq]
  have hmixed : r.Gathers (sorted ips) found
      (SharedResolver.run { resolver := r } moves).resolver :=
    ⟨hips, moves, rfl, hcalls⟩
  refine ⟨hfound, fun ip => Option.ext fun identity => ?_⟩
  rw [hmixed.cached_iff, hfound, (gathers_resolveAll lookup r ips).cached_iff]

end Resolver

namespace Fetch

/-- A snapshot has the identity of every client. -/
theorem find_of_finish {lookup : Lookup} {r : Resolver}
    {answers : Except RequestError (Configuration × Statistics)} {s : Snapshot}
    (hs : (finish lookup r answers).1 = .ok s) {ip : String}
    (hip : ip ∈ s.stats.sources.map (·.sourceIp)) :
    s.identities.find ip = some (r.identityOf lookup ip) := by
  cases answers with
  | error e => cases hs
  | ok answers =>
    obtain ⟨config, stats⟩ := answers
    obtain rfl := Except.ok.inj hs
    exact Resolver.find_resolveAll hip

/-- A fetch ends with a snapshot exactly if both requests are answered. The snapshot has both answers
as they are and, for the clients of the report and for nobody else, the identity that was remembered
or that the answers lead to, however the calls about them are mixed; so every client of a topology is
shown under an identity of the snapshot. If a request fails, the fetch ends with the failure of the
one that failed first, and the resolver is as it was: nobody was asked, and nothing else is
remembered. -/
theorem snapshot_of_run (lookup : Lookup) (r : Resolver) (config : Request Configuration)
    (stats : Request Statistics) :
    let time := (run lookup r config stats).1
    let result := (run lookup r config stats).2.1
    let r' := (run lookup r config stats).2.2
    ((∃ s, result = .ok s) ↔ (∃ c, config.result = .ok c) ∧ ∃ t, stats.result = .ok t) ∧
    (∀ s, result = .ok s →
      config.result = .ok s.config ∧ stats.result = .ok s.stats ∧
      (s.identities.map (·.1)).Nodup ∧
      (∀ ip, ip ∈ s.identities.map (·.1) ↔ ip ∈ s.stats.sources.map (·.sourceIp)) ∧
      (∀ ip ∈ s.stats.sources.map (·.sourceIp),
        s.identities.find ip = some (r.identityOf lookup ip) ∧
        r'.cached ip = some (r.identityOf lookup ip)) ∧
      (∀ moves found, SharedResolver.Consults lookup { resolver := r } moves →
        (SharedResolver.run { resolver := r } moves).calls.Perm
          (found.map fun e => ⟨e.1, .done e.2⟩) →
        found.map (·.1) = Resolver.sorted (s.stats.sources.map (·.sourceIp)) →
        found = s.identities ∧
          ∀ ip, (SharedResolver.run { resolver := r } moves).resolver.cached ip = r'.cached ip) ∧
      ∀ (α : Type) [Scalar α] (layout : Layout α),
        ∀ d ∈ (Topology.build s.config s.stats s.identities layout).devices,
        ∀ ip, d.id = Topology.clientId ip → ∃ identity, s.identities.find ip = some identity ∧
          d.name = identity.name ∧ d.kind = .client identity.kind) ∧
    (∀ e, config.result = .error e ∨ stats.result = .error e →
      (∃ first, FirstFailure config stats time first ∧
        result = .error (Failure.ofRequest first)) ∧
      r' = r) := by
  intro time result r'
  rcases join_cases config stats with ⟨c, t, hconfig, hstats, -⟩ | ⟨e, hfirst, hjoin⟩
  · have hrun := run_of_answers lookup r hconfig hstats
    have hresult : result = .ok ⟨c, t, (r.resolveAll lookup (t.sources.map (·.sourceIp))).1⟩ :=
      congrArg Prod.fst hrun
    have hleft : r' = (r.resolveAll lookup (t.sources.map (·.sourceIp))).2 :=
      congrArg Prod.snd hrun
    refine ⟨⟨fun _ => ⟨⟨c, hconfig⟩, t, hstats⟩, fun _ => ⟨_, hresult⟩⟩, fun s hs => ?_,
      fun e he => ?_⟩
    · obtain rfl := Except.ok.inj (hresult.symm.trans hs)
      refine ⟨hconfig, hstats, ?_, fun ip => ?_, fun ip hip => ?_,
        fun moves found hmoves hcalls hips => ?_, fun α _ layout d hd ip hid => ?_⟩
      · rw [Resolver.map_fst_resolveAll]
        exact Resolver.nodup_sorted _
      · rw [Resolver.map_fst_resolveAll]
        exact Resolver.mem_sorted
      · rw [hleft]
        exact ⟨Resolver.find_resolveAll hip, Resolver.cached_resolveAll hip⟩
      · rw [hleft]
        exact Resolver.gathered_of_consults hmoves hcalls hips
      · refine Topology.identity_of_find (fun ip hip => ?_) hd hid
        rw [Resolver.find_resolveAll hip, Option.isSome_some]
    · rw [hconfig, hstats] at he
      rcases he with he | he <;> cases he
  · have hrun := run_of_failure lookup r hjoin
    have hresult : result = .error (Failure.ofRequest e) := congrArg Prod.fst hrun
    have hleft : r' = r := congrArg Prod.snd hrun
    have hnone : ∀ s, result ≠ .ok s := fun s hs => nomatch hs.symm.trans hresult
    exact ⟨⟨fun ⟨s, hs⟩ => (hnone s hs).elim, fun hok => (hfirst.not_answered hok).elim⟩,
      fun s hs => (hnone s hs).elim, fun _ _ => ⟨⟨e, hfirst, hresult⟩, hleft⟩⟩

/-- A client is listed twice and remembered; the configuration comes last. Then both requests fail,
and the statistics before the configuration. -/
theorem snapshot_of_run_repeated :
    let known : Identity := ⟨"Den Tv", .tv, .hostname⟩
    let r : Resolver := { cache := [("10.0.0.9", known)] }
    let sources : List SourceStats :=
      [{ sourceIp := "10.0.0.9" }, { sourceIp := "10.0.0.7" }, { sourceIp := "10.0.0.9" }]
    let config : Request Configuration := ⟨30, .ok {}⟩
    let stats : Request Statistics := ⟨10, .ok { sources }⟩
    let failing : Request Configuration := ⟨30, .error (.status 503 "/api/config")⟩
    let refused : Request Statistics := ⟨10, .error (.authentication "session expired or missing")⟩
    (∃ s, (run .silent r config stats).2.1 = .ok s ∧ s.stats.sources = sources ∧
      s.identities.map (·.1) = ["10.0.0.7", "10.0.0.9"] ∧
      s.identities.find "10.0.0.9" = some known ∧
      s.identities.find "10.0.0.7" = some (Identity.fallback "10.0.0.7")) ∧
    (run .silent r failing refused).2.1
      = .error (.authenticationFailed "session expired or missing") ∧
    (run .silent r failing refused).2.2 = r := by
  intro known r sources config stats failing refused
  obtain ⟨hok, hsnapshot, -⟩ := snapshot_of_run .silent r config stats
  obtain ⟨s, hs⟩ := hok.2 ⟨⟨_, rfl⟩, _, rfl⟩
  obtain ⟨-, -, -, -, hfind, -⟩ := hsnapshot s hs
  obtain rfl : s = _ := (Except.ok.inj hs).symm
  obtain ⟨⟨first, hfirst, hresult⟩, hleft⟩ :=
    (snapshot_of_run .silent r failing refused).2.2 _ (.inl rfl)
  refine ⟨⟨_, rfl, rfl, by decide +kernel, ?_, ?_⟩, ?_, hleft⟩
  · exact (hfind "10.0.0.9" (by decide)).1
  · exact (hfind "10.0.0.7" (by decide)).1
  · rcases hfirst.failed with ⟨-, htime⟩ | ⟨hfailed, -⟩
    · -- the configuration cannot have failed first
      have hle := hfirst.stats_le _ rfl
      rw [← htime] at hle
      exact absurd hle (by decide)
    · cases hfailed
      exact hresult

end Fetch

end TrafficMap
