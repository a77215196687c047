import Mathlib
import TrafficMap.Refresh.Fetch
import TrafficMap.Proofs.Identity.Questions
import TrafficMap.Topology.Build

/-!
# What answers lead to

A call asks for the host name, and for the fingerprint only if the name does not help; so it may end
without having seen the second answer. `Identity.identify` looks at both answers at once. The two
ways agree (`Resolution.identify_of_found`, `Resolution.afterInfo_of_awaitInfo`), and
`Lookup.identity` is what they agree on. An address is resolved to what is remembered about it or
else to that identity (`Resolver.resolve_fst`). Calls that are under way at once keep to it as well,
as long as one address is always answered alike (`SharedResolver.Tells`).
-/

namespace TrafficMap

/-- The host name in an answer. A question that failed has none. -/
def answeredName (answer : Except RequestError (Option String)) : Option String :=
  (answered answer).join

theorem answeredName_eq_some_iff {answer : Except RequestError (Option String)} {name : String} :
    answeredName answer = some name ↔ answer = .ok (some name) := by
  cases answer with
  | error e => exact ⟨nofun, nofun⟩
  | ok answer => rw [Except.ok.injEq]; rfl

/-! ## One call -/

namespace Resolution

variable {ip : String} {hostname : Except RequestError (Option String)} {identity : Identity}

/-- A call goes on by what the answered name says. -/
theorem afterHostname_eq (ip : String) (hostname : Except RequestError (Option String)) :
    afterHostname ip hostname
      = ((answeredName hostname).bind (Identity.ofHostname ip)).elim .awaitInfo .found := by
  have hname : (answered hostname).bind id = answeredName hostname := rfl
  rw [afterHostname, hname]
  cases (answeredName hostname).bind (Identity.ofHostname ip) <;> rfl

/-- The device is asked about only where the host name says nothing. -/
theorem afterHostname_eq_awaitInfo_iff :
    afterHostname ip hostname = .awaitInfo ↔
      (answeredName hostname).bind (Identity.ofHostname ip) = none := by
  rw [afterHostname_eq]
  cases (answeredName hostname).bind (Identity.ofHostname ip) <;> simp

/-- A host name that helps decides, whatever the fingerprint is. -/
theorem identify_of_found (h : afterHostname ip hostname = .found identity)
    (info : Option DeviceInfo) :
    Identity.identify ip (answeredName hostname) info = identity := by
  rw [afterHostname_eq] at h
  rw [Identity.identify]
  cases hname : (answeredName hostname).bind (Identity.ofHostname ip) with
  | none => simp [hname] at h
  | some other =>
    rw [hname, Option.elim_some, found.injEq] at h
    rw [Option.some_or, Option.getD_some, h]

/-- A call that asks for the fingerprint finds what both answers together lead to. -/
theorem afterInfo_of_awaitInfo (h : afterHostname ip hostname = .awaitInfo)
    (info : Except RequestError DeviceInfo) :
    afterInfo ip info
      = .found (Identity.identify ip (answeredName hostname) (answered info)) := by
  rw [Identity.identify, afterHostname_eq_awaitInfo_iff.1 h, Option.none_or, afterInfo]

end Resolution

/-- The identity that the answers of a lookup about an address lead to when both are seen at
once. -/
def Lookup.identity (lookup : Lookup) (ip : String) : Identity :=
  Identity.identify ip (answeredName (lookup.hostname ip)) (answered (lookup.info ip))

/-- The questions that have to be asked about an address, the last one first: the one for the
fingerprint only if the host name gives no identity. -/
def Lookup.questions (lookup : Lookup) (ip : String) : List Question :=
  if ((answeredName (lookup.hostname ip)).bind (Identity.ofHostname ip)).isNone then
    [.info ip, .hostname ip]
  else [.hostname ip]

/-- Without answers an identity is made up. -/
theorem Lookup.identity_silent (ip : String) :
    Lookup.silent.identity ip = Identity.fallback ip :=
  rfl

namespace Resolver

variable (lookup : Lookup) (r : Resolver)

/-- Looking an address up one answer at a time ends where seeing both answers at once does. -/
theorem lookUp_eq (ip : String) : lookUp lookup ip = (lookup.identity ip, lookup.questions ip) := by
  unfold lookUp
  rcases Resolution.afterHostname_cases ip (lookup.hostname ip) with ⟨identity, hfound⟩ | hawait
  · have hname : (answeredName (lookup.hostname ip)).bind (Identity.ofHostname ip) ≠ none := by
      rw [ne_eq, ← Resolution.afterHostname_eq_awaitInfo_iff, hfound]
      simp
    have hquestions : lookup.questions ip = [.hostname ip] :=
      if_neg (by simpa using hname)
    rw [hfound, hquestions, Lookup.identity, Resolution.identify_of_found hfound]
  · have hname := Resolution.afterHostname_eq_awaitInfo_iff.1 hawait
    have hquestions : lookup.questions ip = [.info ip, .hostname ip] :=
      if_pos (by rw [hname]; rfl)
    simp only [hawait, Resolution.afterInfo_of_awaitInfo hawait, hquestions, Lookup.identity]

/-- The identity that an address is resolved to: the one that is remembered or, if there is none,
the one that the answers lead to. -/
def identityOf (ip : String) : Identity :=
  (r.cached ip).getD (lookup.identity ip)

variable {r} in
/-- A new address is looked up and remembered. -/
theorem resolve_of_new {ip : String} (hnew : r.cached ip = none) :
    resolve lookup r ip
      = (lookup.identity ip,
          { cache := r.cache.put ip (lookup.identity ip)
            asked := lookup.questions ip ++ r.asked }) := by
  have hfind : r.cache.find ip = none := hnew
  rw [resolve, hfind, lookUp_eq]

variable {r} in
/-- A known address is not looked up again. -/
theorem resolve_of_cached {ip : String} {identity : Identity} (h : r.cached ip = some identity) :
    resolve lookup r ip = (identity, r) := by
  have hfind : r.cache.find ip = some identity := h
  rw [resolve, hfind]

/-- An address is resolved to what is known of it or else to what the look-up says. -/
theorem resolve_fst (ip : String) : (resolve lookup r ip).1 = r.identityOf lookup ip := by
  unfold identityOf
  cases hcached : r.cached ip with
  | some identity => rw [resolve_of_cached lookup hcached, Option.getD_some]
  | none => rw [resolve_of_new lookup hcached, Option.getD_none]

/-- A call adds what it resolved to what is known. -/
theorem cached_resolve (ip other : String) :
    (resolve lookup r ip).2.cached other
      = if other = ip then some (r.identityOf lookup ip) else r.cached other := by
  unfold identityOf
  cases hcached : r.cached ip with
  | some identity =>
    rw [resolve_of_cached lookup hcached]
    split
    · next hsame => rw [hsame, hcached, Option.getD_some]
    · rfl
  | none =>
    rw [resolve_of_new lookup hcached]
    exact IdentityMap.find_put ..

/-- What addresses are resolved to does not change by resolving. -/
theorem identityOf_resolve (ip other : String) :
    (resolve lookup r ip).2.identityOf lookup other = r.identityOf lookup other := by
  rw [identityOf, cached_resolve]
  split
  · next hsame => rw [hsame, Option.getD_some]
  · rfl

/-- Addresses one after the other are resolved like each of them alone. -/
theorem resolveEach_fst (ips : List String) :
    (resolveEach lookup r ips).1 = ips.map fun ip => (ip, r.identityOf lookup ip) := by
  induction ips generalizing r with
  | nil => rfl
  | cons ip ips ih =>
    calc (resolveEach lookup r (ip :: ips)).1
        = (ip, (resolve lookup r ip).1) :: (resolveEach lookup (resolve lookup r ip).2 ips).1 := rfl
      _ = (ip, r.identityOf lookup ip) :: ips.map fun ip => (ip, r.identityOf lookup ip) := by
          simp only [ih, resolve_fst, identityOf_resolve]

end Resolver

/-- In a map that is made address by address each one is found. -/
theorem IdentityMap.find_map (ips : List String) (f : String → Identity) (ip : String) :
    IdentityMap.find (ips.map fun ip => (ip, f ip)) ip
      = if ip ∈ ips then some (f ip) else none := by
  induction ips with
  | nil => rfl
  | cons first ips ih =>
    rw [find] at ih ⊢
    rw [List.map_cons, List.lookup_cons, ih]
    by_cases h : ip = first
    · simp [h]
    · simp [h, beq_eq_false_iff_ne.2 h]

/-! ## Calls at the same time -/

/-- A call is where the answers of a lookup bring it, to a resolver that remembered what `r` does
when the first call began. -/
def ResolverCall.Heeds (call : ResolverCall) (lookup : Lookup) (r : Resolver) : Prop :=
  match call.stage with
  | .awaitHostname => True
  | .awaitInfo => Resolution.afterHostname call.ip (lookup.hostname call.ip) = .awaitInfo
  | .found identity => identity = lookup.identity call.ip
  | .done identity => identity = r.identityOf lookup call.ip

namespace SharedResolver

variable {lookup : Lookup} {r : Resolver} {d : SharedResolver}

/-- The answer that a move brings, if it brings one, is that of a lookup. -/
def Quotes (lookup : Lookup) (d : SharedResolver) : ResolverMove → Prop
  | .answerHostname place answer => ∀ call ∈ d.calls[place]?, answer = lookup.hostname call.ip
  | .answerInfo place answer => ∀ call ∈ d.calls[place]?, answer = lookup.info call.ip
  | _ => True

/-- All answers that moves in order bring are those of a lookup. -/
def Consults (lookup : Lookup) : SharedResolver → List ResolverMove → Prop
  | _, [] => True
  | d, move :: moves => d.Quotes lookup move ∧ (d.next move).Consults lookup moves

/-- Everything that is remembered or under way is what the answers of a lookup lead to, unless it
was remembered from the beginning. -/
structure Tells (d : SharedResolver) (lookup : Lookup) (r : Resolver) : Prop where
  kept : ∀ ip identity, r.cached ip = some identity → d.resolver.cached ip = some identity
  cached : ∀ ip identity, d.resolver.cached ip = some identity → identity = r.identityOf lookup ip
  calls : ∀ call ∈ d.calls, call.Heeds lookup r

theorem tells_new (lookup : Lookup) (r : Resolver) : Tells { resolver := r } lookup r := by
  refine ⟨fun _ _ h => h, fun ip identity h => ?_, by simp⟩
  rw [Resolver.identityOf, h, Option.getD_some]

theorem Tells.begin (h : d.Tells lookup r) (ip : String) : (d.begin ip).Tells lookup r := by
  refine ⟨h.kept, h.cached, fun call hcall => ?_⟩
  rcases List.mem_append.1 hcall with hcall | hcall
  · exact h.calls call hcall
  · rw [List.mem_singleton.1 hcall]
    unfold ResolverCall.Heeds Resolution.start
    cases hcached : d.resolver.cache.find ip with
    | some identity => exact h.cached ip identity hcached
    | none => trivial

theorem Tells.advance (h : d.Tells lookup r) (place : Nat) {call : ResolverCall}
    (hcall : call.Heeds lookup r) : (d.advance place call).Tells lookup r :=
  ⟨h.kept, h.cached, fun other hother =>
    (List.mem_or_eq_of_mem_set hother).elim (h.calls other) fun hsame => hsame ▸ hcall⟩

theorem Tells.remember (h : d.Tells lookup r) {place : Nat} {ip : String}
    (hcall : d.calls[place]? = some ⟨ip, .found (lookup.identity ip)⟩) :
    (d.remember place ip (lookup.identity ip)).Tells lookup r := by
  have hkept := fun other identity hother =>
    (step_remember hcall).cached (h.kept other identity hother)
  unfold SharedResolver.remember Resolution.remember at hkept ⊢
  cases hcached : d.resolver.cache.find ip with
  | some known =>
    have hknown : known = r.identityOf lookup ip := h.cached ip known hcached
    exact ⟨h.kept, h.cached, fun other hother =>
      (List.mem_or_eq_of_mem_set hother).elim (h.calls other) fun hsame => hsame ▸ hknown⟩
  | none =>
    -- what is not remembered now was not remembered at the beginning
    have hnew : r.cached ip = none := by
      cases hbefore : r.cached ip with
      | none => rfl
      | some identity => exact (h.kept ip identity hbefore).symm.trans hcached
    have hfound : lookup.identity ip = r.identityOf lookup ip := by
      rw [Resolver.identityOf, hnew, Option.getD_none]
    rw [hcached] at hkept
    refine ⟨hkept, fun other identity hother => ?_, fun other hother =>
      (List.mem_or_eq_of_mem_set hother).elim (h.calls other) fun hsame => hsame ▸ hfound⟩
    have hput := (IdentityMap.find_put d.resolver.cache ip other _).symm.trans hother
    split at hput
    · next hsame => rw [hsame, ← hfound, Option.some.inj hput]
    · exact h.cached other identity hput

/-- A call that is told what a lookup answers gets to where that leads, and so all calls together
remember nothing else. -/
theorem Tells.next (h : d.Tells lookup r) {move : ResolverMove} (hmove : d.Quotes lookup move) :
    (d.next move).Tells lookup r := by
  cases move with
  | begin ip => exact h.begin ip
  | answerHostname place answer =>
    rw [SharedResolver.next]
    split
    · next ip hcall =>
      rw [hmove _ hcall]
      apply h.advance place
      rcases Resolution.afterHostname_cases ip (lookup.hostname ip) with ⟨identity, hfound⟩ | hawait
      · simp only [ResolverCall.Heeds, hfound]
        exact (Resolution.identify_of_found hfound _).symm
      · simp only [ResolverCall.Heeds, hawait]
    · exact h
  | answerInfo place answer =>
    rw [SharedResolver.next]
    split
    · next ip hcall =>
      rw [hmove _ hcall]
      have hawait : Resolution.afterHostname ip (lookup.hostname ip) = .awaitInfo :=
        h.calls _ (List.mem_of_getElem? hcall)
      apply h.advance place
      simp only [ResolverCall.Heeds, Resolution.afterInfo_of_awaitInfo hawait, Lookup.identity]
    · exact h
  | remember place =>
    rw [SharedResolver.next]
    split
    · next ip identity hcall =>
      obtain rfl : identity = lookup.identity ip := h.calls _ (List.mem_of_getElem? hcall)
      exact h.remember hcall
    · exact h

/-- Moves that heed the look-up keep its answers. -/
theorem Tells.run {moves : List ResolverMove} (h : d.Tells lookup r)
    (hmoves : d.Consults lookup moves) : (d.run moves).Tells lookup r := by
  induction moves generalizing d with
  | nil => exact h
  | cons move moves ih => exact ih (h.next hmoves.1) hmoves.2

/-- What a call returned is what its address is resolved to, however the calls were mixed. -/
theorem eq_identityOf_of_done {moves : List ResolverMove} {ip : String} {identity : Identity}
    (hmoves : Consults lookup { resolver := r } moves)
    (hdone : ⟨ip, .done identity⟩ ∈ (run { resolver := r } moves).calls) :
    identity = r.identityOf lookup ip :=
  ((tells_new lookup r).run hmoves).calls _ hdone

end SharedResolver

/-- A topology shows identities as far as clients are shown under them. -/
theorem Topology.build_congr_identityOf {α : Type} [Scalar α] {m m' : IdentityMap}
    (h : ∀ ip, identityOf m ip = identityOf m' ip) (config : Configuration) (stats : Statistics)
    (layout : Layout α) : build config stats m layout = build config stats m' layout := by
  have hsame : identityOf m = identityOf m' := funext h
  rw [build, build, hsame]

namespace Resolver

/-- A resolver that asked one lookup only, from the beginning, resolves every address to what its
answers lead to. -/
theorem identityOf_of_consults {lookup : Lookup} {moves : List ResolverMove}
    (h : SharedResolver.Consults lookup {} moves) (ip : String) :
    (SharedResolver.run {} moves).resolver.identityOf lookup ip = lookup.identity ip := by
  have htells := (SharedResolver.tells_new lookup {}).run h
  rw [identityOf]
  cases hcached : (SharedResolver.run {} moves).resolver.cached ip with
  | none => rfl
  | some identity => exact htells.cached ip identity hcached

/-- The clients of a snapshot that was fetched without asking anybody have the identities that are
made up from their addresses, and so has every other address. -/
theorem identityOf_of_silent {moves : List ResolverMove}
    (h : SharedResolver.Consults .silent {} moves)
    {answers : Except RequestError (Configuration × Statistics)} {s : Snapshot}
    (hs : (Fetch.finish .silent (SharedResolver.run {} moves).resolver answers).1 = .ok s)
    (ip : String) : Topology.identityOf s.identities ip = Identity.fallback ip := by
  cases answers with
  | error e => cases hs
  | ok answers =>
    have hidentities : s.identities
        = (sorted (answers.2.sources.map (·.sourceIp))).map
            fun ip => (ip, Identity.fallback ip) := by
      cases hs
      exact (resolveEach_fst ..).trans (List.map_congr_left fun ip _ =>
        congrArg (Prod.mk ip) (identityOf_of_consults h ip))
    rw [Topology.identityOf, hidentities, IdentityMap.find_map]
    split <;> rfl

/-- Whatever the appliance answers, an address that is not remembered is resolved to the identity
that both answers lead to when they are seen at once, where a failed question has no answer; the host
name is asked for, and the fingerprint exactly if the host name gives no identity. However many calls
are made at the same time, as long as an address is always answered alike, every call about an
address that was not remembered returns that identity. With nobody to ask it is the one that is made
up from the address, and a snapshot shows the same topology with its identities and without them. -/
theorem identity_of_answers (lookup : Lookup) (r : Resolver) :
    (∀ ip, r.cached ip = none →
      (resolve lookup r ip).1
        = Identity.identify ip (answeredName (lookup.hostname ip)) (answered (lookup.info ip)) ∧
      (resolve lookup r ip).2.asked
        = (if ((answeredName (lookup.hostname ip)).bind (Identity.ofHostname ip)).isNone then
            [.info ip, .hostname ip]
          else [.hostname ip]) ++ r.asked) ∧
    (∀ moves, SharedResolver.Consults lookup { resolver := r } moves →
      ∀ ip identity, r.cached ip = none →
        ⟨ip, .done identity⟩ ∈ (SharedResolver.run { resolver := r } moves).calls →
        identity
          = Identity.identify ip (answeredName (lookup.hostname ip)) (answered (lookup.info ip))) ∧
    (∀ moves, SharedResolver.Consults .silent {} moves →
      let r := (SharedResolver.run {} moves).resolver
      (∀ ip, (resolve .silent r ip).1 = Identity.fallback ip) ∧
      ∀ answers s, (Fetch.finish .silent r answers).1 = .ok s →
        ∀ (α : Type) [Scalar α] (layout : Layout α),
          Topology.build s.config s.stats s.identities layout
            = Topology.build s.config s.stats [] layout) := by
  refine ⟨fun ip hnew => ?_, fun moves hmoves ip identity hnew hdone => ?_,
    fun moves hmoves => ⟨fun ip => ?_, fun answers s hs α _ layout => ?_⟩⟩
  · rw [resolve_of_new lookup hnew]
    exact ⟨rfl, rfl⟩
  · rw [SharedResolver.eq_identityOf_of_done hmoves hdone, identityOf, hnew, Option.getD_none]
    rfl
  · rw [resolve_fst, identityOf_of_consults hmoves, Lookup.identity_silent]
  · apply Topology.build_congr_identityOf
    intro ip
    rw [identityOf_of_silent hmoves hs]
    rfl

/-- The host name is the address again, with blanks around it, and the fingerprint has nothing but a
type. A second resolver asks nobody, about two addresses at once. -/
theorem identity_of_answers_echo :
    let lookup : Lookup :=
      { hostname := fun ip => .ok (some (" " ++ ip ++ " "))
        info := fun _ => .ok { name := some " ", deviceType := some "Game Console" } }
    let known : Resolver := { cache := [("10.0.0.9", Identity.fallback "10.0.0.9")] }
    let moves : List ResolverMove :=
      [.begin "10.0.0.7", .begin "10.0.0.9", .answerHostname 1 (.ok none), .answerInfo 1 (.ok {}),
        .answerHostname 0 (.ok none), .remember 1, .answerInfo 0 (.ok {}), .remember 0]
    let r := (SharedResolver.run {} moves).resolver
    let stats : Statistics := { sources := [{ sourceIp := "10.0.0.7" }] }
    let fetched := (Fetch.finish .silent r (.ok ({}, stats))).1
    known.cached "10.0.0.7" = none ∧
      (resolve lookup known "10.0.0.7").1
        = ⟨(Identity.fallback "10.0.0.7").name, .console, .deviceInfo⟩ ∧
      (resolve lookup known "10.0.0.7").2.asked = [.info "10.0.0.7", .hostname "10.0.0.7"] ∧
      SharedResolver.Consults .silent {} moves ∧
      r.size = 2 ∧
      (resolve .silent r "10.0.0.9").1 = Identity.fallback "10.0.0.9" ∧
      ∃ s, fetched = .ok s ∧ ∀ layout : Layout Float,
        Topology.build s.config s.stats s.identities layout
          = Topology.build s.config s.stats [] layout := by
  intro lookup known moves r stats fetched
  have hnew : known.cached "10.0.0.7" = none := by decide +kernel
  have hmoves : SharedResolver.Consults .silent {} moves := by
    simp [moves, SharedResolver.Consults, SharedResolver.Quotes, Lookup.silent]
  obtain ⟨hidentity, hasked⟩ := (identity_of_answers lookup known).1 "10.0.0.7" hnew
  obtain ⟨hfallback, hbuild⟩ := (identity_of_answers lookup known).2.2 moves hmoves
  refine ⟨hnew, hidentity.trans (by decide +kernel), hasked.trans (by decide +kernel), hmoves,
    by decide +kernel, hfallback _, _, rfl, fun layout => ?_⟩
  exact hbuild (.ok ({}, stats)) _ rfl Float layout

end Resolver

end TrafficMap
