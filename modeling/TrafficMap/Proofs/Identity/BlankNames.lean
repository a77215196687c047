import Mathlib
import TrafficMap.Proofs.Identity.HostNames
import TrafficMap.Proofs.Refresh.Snapshot

/-!
# Blank names

Names that are made up and names from a fingerprint are never blank (`Identity.isBlankText_identify_none`). A host
name is cut at its separators only, of which the space is the only blank, so another blank between two separators
is a word. If a host name has no other words, the name of the device is blank. That is the only way to a blank name
(`Identity.isBlankText_identify_iff`), also for the clients of a topology (`Topology.blank_name_of_answers`).
-/

namespace TrafficMap

namespace Identity

open Text (trim isBlank isBlankText)

/-! ## Names from host names -/

theorem isBlankText_capitalize (w : List Char) : isBlankText (capitalize w) = isBlankText w := by
  cases w with
  | nil => rfl
  | cons c cs =>
    have hcons : isBlankText (c :: cs) = (isBlank c && isBlankText cs) := rfl
    rw [capitalize, Text.isBlankText_append, Text.isBlankText_uppercase, hcons]

/-- The words of a label hold everything in it but its separators. -/
theorem isBlankText_normalizeHostname {hostname name : List Char}
    (h : normalizeHostname hostname = some name) :
    isBlankText name = true ↔ ∀ c ∈ hostLabel hostname, isSeparator c = true ∨ isBlank c = true := by
  have hname : name = Text.join [' '] ((hostnameWords hostname).map capitalize) := by
    unfold normalizeHostname at h
    split at h
    · cases h
    · exact (Option.some.inj h).symm
  -- neither the spaces between the words nor upper case make a difference
  have hwords : isBlankText name = (hostnameWords hostname).flatten.all isBlank := by
    rw [hname, Text.isBlankText_join, List.all_map, List.all_flatten]
    exact congrArg _ (funext isBlankText_capitalize)
  rw [hwords, hostnameWords_eq, Text.flatten_runs, List.all_filter, List.all_eq_true]
  refine forall₂_congr fun c _ => ?_
  cases isSeparator c <;> simp

/-- The host name does not just repeat the address, and the words of its first label are all blank. -/
structure NamesBlank (ip hostname : String) : Prop where
  ne_ip : trim hostname.toList ≠ ip.toList
  blank : ∀ c ∈ hostLabel hostname.toList, isSeparator c = true ∨ isBlank c = true
  word : ∃ c ∈ hostLabel hostname.toList, isSeparator c = false

theorem namesBlank_iff {ip hostname : String} :
    NamesBlank ip hostname ↔
      ∃ identity, ofHostname ip hostname = some identity ∧ isBlankText identity.name.toList = true := by
  constructor
  · intro h
    have hsome : ofHostname ip hostname ≠ none := by
      rw [ne_eq, ofHostname_eq_none_iff]
      rintro (hsame | hseparators)
      · exact h.ne_ip hsame
      · obtain ⟨c, hc, hword⟩ := h.word
        exact Bool.false_ne_true (hword.symm.trans (hseparators c hc))
    obtain ⟨identity, hidentity⟩ := Option.ne_none_iff_exists'.mp hsome
    have hname := isBlankText_normalizeHostname (name_of_ofHostname hidentity).1
    exact ⟨identity, hidentity, hname.mpr h.blank⟩
  · rintro ⟨identity, hidentity, hblank⟩
    have hsome : ofHostname ip hostname ≠ none := by
      rw [hidentity]
      exact nofun
    rw [ne_eq, ofHostname_eq_none_iff, not_or] at hsome
    obtain ⟨hne, hword⟩ := hsome
    have hname := isBlankText_normalizeHostname (name_of_ofHostname hidentity).1
    refine ⟨hne, hname.mp hblank, ?_⟩
    by_contra hnone
    apply hword
    intro c hc
    by_contra hc'
    exact hnone ⟨c, hc, Bool.eq_false_iff.mpr hc'⟩

/-! ## Other names -/

/-- A name that is made up ends in digits. -/
theorem isBlankText_fallback (ip : String) : isBlankText (fallback ip).name.toList = false := by
  have hdigits : ∀ n < 10, isBlank (Nat.digitChar n) = false := by decide
  have htwo (n : Nat) : isBlankText (twoDigits n).toList = false := by
    have htens := hdigits (n / 10 % 10) (Nat.mod_lt _ (by decide))
    rw [twoDigits, String.toList_ofList, isBlankText, List.all_cons, htens, Bool.false_and]
  rw [fallback, nameOfSeed, String.toList_append, Text.isBlankText_append, htwo, Bool.and_false]

theorem isBlankText_present {text : Option String} {t : List Char} (h : present text = some t) :
    isBlankText t = false := by
  obtain ⟨htext, hne⟩ := Option.filter_eq_some_iff.mp h
  obtain ⟨s, -, rfl⟩ := Option.map_eq_some_iff.mp htext
  rw [Bool.eq_false_iff, ne_eq, ← Text.trim_eq_nil_iff, Text.trim_trim]
  intro hnil
  rw [hnil] at hne
  cases hne

theorem isBlankText_identify_none (ip : String) (info : Option DeviceInfo) :
    isBlankText (identify ip none info).name.toList = false := by
  have hidentify : identify ip none info = (info.bind (ofDeviceInfo ip)).getD (fallback ip) := rfl
  rw [hidentify]
  cases hinfo : info.bind (ofDeviceInfo ip) with
  | none => exact isBlankText_fallback ip
  | some identity =>
    obtain ⟨info, -, hidentity⟩ := Option.bind_eq_some_iff.mp hinfo
    rw [Option.getD_some, (name_of_ofDeviceInfo hidentity).1]
    cases hname : present info.name with
    | none => exact isBlankText_fallback ip
    | some name =>
      rw [Option.map_some, Option.getD_some, String.toList_ofList]
      exact isBlankText_present hname

/-- The name of an identity is blank exactly if the host name has blank words only. -/
theorem isBlankText_identify_iff {ip : String} {hostname : Option String} {info : Option DeviceInfo} :
    isBlankText (identify ip hostname info).name.toList = true ↔ ∃ h ∈ hostname, NamesBlank ip h := by
  cases hbind : hostname.bind (ofHostname ip) with
  | none =>
    rw [identify_of_unnamed hbind, isBlankText_identify_none]
    constructor
    · exact nofun
    · rintro ⟨h, hh, hblank⟩
      obtain ⟨identity, hidentity, -⟩ := namesBlank_iff.mp hblank
      cases (Option.bind_eq_none_iff.mp hbind h hh).symm.trans hidentity
  | some identity =>
    obtain ⟨h, rfl, hidentity⟩ := Option.bind_eq_some_iff.mp hbind
    rw [identify_of_named hidentity]
    constructor
    · intro hblank
      exact ⟨h, rfl, namesBlank_iff.mpr ⟨identity, hidentity, hblank⟩⟩
    · rintro ⟨h', hh', hblank⟩
      obtain rfl := Option.some.inj hh'
      obtain ⟨identity', hidentity', hblank'⟩ := namesBlank_iff.mp hblank
      obtain rfl := Option.some.inj (hidentity.symm.trans hidentity')
      exact hblank'

end Identity

/-! ## Clients -/

namespace Topology

open Identity (NamesBlank)
open Text (isBlankText)

/-- The clients of a snapshot are shown under what the answers about their addresses lead to. -/
theorem name_of_consults {lookup : Lookup} {moves : List ResolverMove}
    (hmoves : SharedResolver.Consults lookup {} moves)
    {answers : Except RequestError (Configuration × Statistics)} {s : Snapshot}
    (hs : (Fetch.finish lookup (SharedResolver.run {} moves).resolver answers).1 = .ok s)
    {α : Type} [Scalar α] {layout : Layout α} {d : Device α}
    (hd : d ∈ (build s.config s.stats s.identities layout).devices) {ip : String}
    (hid : d.id = clientId ip) : d.name = (lookup.identity ip).name := by
  obtain ⟨hip, hname, -⟩ := identity_of_clientId _ _ _ _ hd hid
  rw [hname, identityOf, Fetch.find_of_finish hs hip, Option.getD_some,
    Resolver.identityOf_of_consults hmoves]

/-- The name that an address, a host name and a fingerprint lead to is blank exactly if the first label of the host
name has words, all of them blank, and the host name does not just repeat the address. So is the name of a client,
whatever else was asked before the snapshot was fetched, exactly if the appliance answers such a host name for its
address. -/
theorem blank_name_of_answers (lookup : Lookup) :
    (∀ ip hostname info,
      isBlankText (Identity.identify ip hostname info).name.toList = true ↔
        ∃ h ∈ hostname, NamesBlank ip h) ∧
    ∀ moves, SharedResolver.Consults lookup {} moves →
      ∀ answers s, (Fetch.finish lookup (SharedResolver.run {} moves).resolver answers).1 = .ok s →
        ∀ (α : Type) [Scalar α] (layout : Layout α),
          ∀ d ∈ (build s.config s.stats s.identities layout).devices, ∀ ip, d.id = clientId ip →
            (isBlankText d.name.toList = true ↔
              ∃ h, lookup.hostname ip = .ok (some h) ∧ NamesBlank ip h) := by
  refine ⟨fun ip hostname info => Identity.isBlankText_identify_iff, ?_⟩
  intro moves hmoves answers s hs α _ layout d hd ip hid
  rw [name_of_consults hmoves hs hd hid, Lookup.identity, Identity.isBlankText_identify_iff]
  simp only [Option.mem_def, answeredName_eq_some_iff]

/-- One client has a tab between two separators for its host name, and another one nothing but separators. They were
asked about at the same time, and a snapshot was fetched after that. -/
theorem blank_name_of_answers_tab :
    let lookup : Lookup :=
      { hostname := fun ip => .ok (some (if ip = "10.0.0.5" then "-\t-" else "---"))
        info := fun _ => .ok { name := some "\t" } }
    let moves : List ResolverMove :=
      [.begin "10.0.0.5", .begin "10.0.0.6", .answerHostname 1 (.ok (some "---")), .remember 0]
    let stats : Statistics := { sources := [{ sourceIp := "10.0.0.5" }, { sourceIp := "10.0.0.6" }] }
    SharedResolver.Consults lookup {} moves ∧
      NamesBlank "10.0.0.5" "-\t-" ∧ ¬NamesBlank "10.0.0.6" "---" ∧
      ∃ s, (Fetch.finish lookup (SharedResolver.run {} moves).resolver (.ok ({}, stats))).1 = .ok s ∧
        ∀ layout : Layout Float,
          ∀ d ∈ (build s.config s.stats s.identities layout).devices,
            (d.id = clientId "10.0.0.5" → isBlankText d.name.toList = true) ∧
            (d.id = clientId "10.0.0.6" → isBlankText d.name.toList = false) := by
  intro lookup moves stats
  have hmoves : SharedResolver.Consults lookup {} moves := by
    simp [moves, lookup, SharedResolver.Consults, SharedResolver.Quotes, SharedResolver.next,
      SharedResolver.begin]
  have hblank : NamesBlank "10.0.0.5" "-\t-" := by
    have hlabel : Identity.hostLabel "-\t-".toList = ['-', '\t', '-'] := by decide +kernel
    refine ⟨by decide +kernel, ?_, ?_⟩ <;> rw [hlabel]
    · simp [Identity.isSeparator, Text.isBlank]
    · simp [Identity.isSeparator]
  have hnamed : ¬NamesBlank "10.0.0.6" "---" := by
    rw [Identity.namesBlank_iff]
    have hnone : Identity.ofHostname "10.0.0.6" "---" = none := by decide +kernel
    simp [hnone]
  obtain ⟨s, hs⟩ : ∃ s, (Fetch.finish lookup (SharedResolver.run {} moves).resolver (.ok ({}, stats))).1 = .ok s :=
    ⟨_, rfl⟩
  have hclients := (blank_name_of_answers lookup).2 moves hmoves _ s hs Float
  refine ⟨hmoves, hblank, hnamed, s, hs, fun layout d hd => ⟨fun hid => ?_, fun hid => ?_⟩⟩
  · exact (hclients layout d hd _ hid).mpr ⟨"-\t-", rfl, hblank⟩
  · rw [Bool.eq_false_iff, ne_eq, hclients layout d hd _ hid]
    rintro ⟨h, hh, hblank'⟩
    obtain rfl : "---" = h := Option.some.inj (Except.ok.inj hh)
    exact hnamed hblank'

/-- A tab between two separators is the name of a device, though a fingerprint with that name has none. -/
theorem name_of_tab :
    (Identity.identify "10.0.0.5" (some "-\t-") none).name = "\t" ∧
      isBlankText (Identity.identify "10.0.0.5" (some "-\t-") none).name.toList = true ∧
      Identity.present (some "\t") = none := by
  decide +kernel

end Topology

end TrafficMap
