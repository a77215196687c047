import Mathlib
import TrafficMap.Proofs.Identity.Answers
import TrafficMap.Proofs.Text.Words

/-!
# What host names lead to

Only the first label of a host name counts (`hostLabel`). It gives an identity unless the whole host name is the
address, or the label has nothing but separators (`ofHostname_eq_none_iff`). Blanks around a host name are dropped
before it is compared with the address, those around the address are not. So an address that comes back as its own
host name is refused if it has no blanks around it; otherwise the device is named after the first label of the
address, unless that has no words (`Resolver.echo_of_answer`).
-/

namespace TrafficMap

namespace Identity

open Text (trim runs)

/-! ## The first label -/

/-- The first label of a host name. -/
def hostLabel (hostname : List Char) : List Char :=
  (trim hostname).takeWhile (· ≠ '.')

theorem hostnameWords_eq (hostname : List Char) :
    hostnameWords hostname = runs isSeparator (hostLabel hostname) :=
  rfl

/-- Blanks around a host name are no part of its words. -/
theorem hostnameWords_trim (hostname : List Char) :
    hostnameWords (trim hostname) = hostnameWords hostname := by
  rw [hostnameWords, Text.trim_trim, hostnameWords]

/-- Blanks around a host name do not matter. -/
theorem normalizeHostname_trim (hostname : List Char) :
    normalizeHostname (trim hostname) = normalizeHostname hostname := by
  rw [normalizeHostname, hostnameWords_trim, normalizeHostname]

/-- Nothing is left of a host name whose label is made of separators. -/
theorem normalizeHostname_eq_none_iff {hostname : List Char} :
    normalizeHostname hostname = none ↔ ∀ c ∈ hostLabel hostname, isSeparator c = true := by
  rw [← Text.runs_eq_nil_iff, ← hostnameWords_eq, normalizeHostname]
  cases hostnameWords hostname <;> simp

/-! ## Identities -/

/-- A host name says nothing if it is the address itself or nothing is left of it. -/
theorem ofHostname_eq_none_iff {ip hostname : String} :
    ofHostname ip hostname = none ↔
      trim hostname.toList = ip.toList ∨ ∀ c ∈ hostLabel hostname.toList, isSeparator c = true := by
  unfold ofHostname
  by_cases hempty : trim hostname.toList = []
  · have hlabel : hostLabel hostname.toList = [] := by rw [hostLabel, hempty, List.takeWhile_nil]
    simp [hempty, hlabel]
  · rw [← normalizeHostname_eq_none_iff, ← normalizeHostname_trim]
    by_cases hsame : trim hostname.toList = ip.toList
    · simp [hsame]
    · simp [hempty, hsame]

/-- An identity that a host name gives is named after it. -/
theorem name_of_ofHostname {ip hostname : String} {identity : Identity}
    (h : ofHostname ip hostname = some identity) :
    normalizeHostname hostname.toList = some identity.name.toList ∧ identity.source = .hostname := by
  dsimp only [ofHostname] at h
  split at h
  · cases h
  · obtain ⟨name, hname, rfl⟩ := Option.map_eq_some_iff.mp h
    rw [normalizeHostname_trim] at hname
    exact ⟨by rw [hname, String.toList_ofList], rfl⟩

/-- An identity that a fingerprint gives is named by it, or after the address. -/
theorem name_of_ofDeviceInfo {ip : String} {info : DeviceInfo} {identity : Identity}
    (h : ofDeviceInfo ip info = some identity) :
    identity.name = ((present info.name).map String.ofList).getD (fallback ip).name ∧
      identity.source = .deviceInfo := by
  dsimp only [ofDeviceInfo] at h
  split at h
  · cases h
  · obtain rfl := Option.some.inj h
    exact ⟨rfl, rfl⟩

/-- A host name that gives no identity is as good as none. -/
theorem identify_of_unnamed {ip : String} {hostname : Option String}
    (h : hostname.bind (ofHostname ip) = none) (info : Option DeviceInfo) :
    identify ip hostname info = identify ip none info := by
  rw [identify, h, identify, Option.bind_none]

/-- A host name that gives an identity decides. -/
theorem identify_of_named {ip hostname : String} {identity : Identity}
    (h : ofHostname ip hostname = some identity) (info : Option DeviceInfo) :
    identify ip (some hostname) info = identity := by
  rw [identify, Option.bind_some, h, Option.some_or, Option.getD_some]

theorem source_identify_none (ip : String) (info : Option DeviceInfo) :
    (identify ip none info).source ≠ .hostname := by
  have hidentify : identify ip none info = (info.bind (ofDeviceInfo ip)).getD (fallback ip) := rfl
  rw [hidentify]
  cases hinfo : info.bind (ofDeviceInfo ip) with
  | none => exact nofun
  | some identity =>
    obtain ⟨info, -, hidentity⟩ := Option.bind_eq_some_iff.mp hinfo
    rw [Option.getD_some, (name_of_ofDeviceInfo hidentity).2]
    exact nofun

/-! ## Echoes -/

/-- The address, given as its own host name, does not name the device: there are no blanks around it, or its first
label has no words. -/
def RefusesEcho (ip : String) : Prop :=
  trim ip.toList = ip.toList ∨ ∀ c ∈ hostLabel ip.toList, isSeparator c = true

instance (ip : String) : Decidable (RefusesEcho ip) :=
  decidable_of_iff (trim ip.toList = ip.toList ∨ (hostLabel ip.toList).all isSeparator = true)
    (by rw [List.all_eq_true, RefusesEcho])

variable {ip : String}

theorem ofHostname_self_eq_none_iff : ofHostname ip ip = none ↔ RefusesEcho ip :=
  ofHostname_eq_none_iff

theorem exists_ofHostname_self (h : ¬RefusesEcho ip) : ∃ identity, ofHostname ip ip = some identity :=
  Option.ne_none_iff_exists'.mp (mt ofHostname_self_eq_none_iff.mp h)

/-- An echoed address is as good as no answer where it is refused. -/
theorem identify_echo_iff (info : Option DeviceInfo) :
    identify ip (some ip) info = identify ip none info ↔ RefusesEcho ip := by
  constructor
  · intro hsame
    -- a host name that names the device is told by the source of the identity
    by_contra h
    obtain ⟨identity, hidentity⟩ := exists_ofHostname_self h
    apply source_identify_none ip info
    rw [← hsame, identify_of_named hidentity, (name_of_ofHostname hidentity).2]
  · intro h
    have hnone : (some ip).bind (ofHostname ip) = none := ofHostname_self_eq_none_iff.mpr h
    exact identify_of_unnamed hnone info

end Identity

namespace Resolver

open Identity (RefusesEcho)

/-- An address that comes back as its own host name leads to what no host name at all leads to, and to the question
for the fingerprint, exactly if there are no blanks around it or its first label has no words. Any other address is
remembered under the words of its first label, and the fingerprint is never asked for. -/
theorem echo_of_answer (ip : String) :
    (∀ info, Identity.identify ip (some ip) info = Identity.identify ip none info ↔ RefusesEcho ip) ∧
    (Resolution.afterHostname ip (.ok (some ip)) = .awaitInfo ↔ RefusesEcho ip) ∧
    ∀ lookup r, r.cached ip = none → lookup.hostname ip = .ok (some ip) →
      let (identity, r') := resolve lookup r ip
      r'.cached ip = some identity ∧
      (RefusesEcho ip →
        identity = Identity.identify ip none (answered (lookup.info ip)) ∧
        r'.asked = [.info ip, .hostname ip] ++ r.asked) ∧
      (¬RefusesEcho ip →
        Identity.normalizeHostname ip.toList = some identity.name.toList ∧
        identity.source = .hostname ∧
        r'.asked = [.hostname ip] ++ r.asked) := by
  refine ⟨fun info => Identity.identify_echo_iff info, ?_, fun lookup r hnew hanswer => ?_⟩
  · rw [Resolution.afterHostname_eq_awaitInfo_iff]
    exact Identity.ofHostname_self_eq_none_iff
  · have hname : answeredName (lookup.hostname ip) = some ip := by rw [hanswer]; rfl
    have hcached := cached_resolve lookup r ip ip
    rw [if_pos rfl, identityOf, hnew, Option.getD_none] at hcached
    rw [resolve_of_new lookup hnew] at hcached ⊢
    unfold Lookup.identity Lookup.questions at hcached ⊢
    rw [hname] at hcached ⊢
    refine ⟨hcached, fun hrefuses => ⟨(Identity.identify_echo_iff _).mpr hrefuses, ?_⟩, fun hnames => ?_⟩
    · rw [Option.bind_some, Identity.ofHostname_self_eq_none_iff.mpr hrefuses]
      rfl
    · obtain ⟨identity, hidentity⟩ := Identity.exists_ofHostname_self hnames
      obtain ⟨hwords, hsource⟩ := Identity.name_of_ofHostname hidentity
      rw [Identity.identify_of_named hidentity, Option.bind_some, hidentity]
      exact ⟨hwords, hsource, rfl⟩

/-- Every host name is the address again. The bare address is refused and the fingerprint is asked for; the one with
a blank before it is remembered under its first octet. -/
theorem echo_of_answer_bare :
    let info : DeviceInfo := { deviceType := some "tv" }
    let lookup : Lookup := { hostname := fun ip => .ok (some ip), info := fun _ => .ok info }
    let r : Resolver := { asked := [.hostname "10.0.0.9"] }
    let padded := resolve lookup r " 10.0.0.5"
    r.cached "10.0.0.5" = none ∧ r.cached " 10.0.0.5" = none ∧
      RefusesEcho "10.0.0.5" ∧ ¬RefusesEcho " 10.0.0.5" ∧
      (resolve lookup r "10.0.0.5").1 = ⟨"iMac 05", .tv, .deviceInfo⟩ ∧
      (resolve lookup r "10.0.0.5").2.asked
        = [.info "10.0.0.5", .hostname "10.0.0.5", .hostname "10.0.0.9"] ∧
      padded.2.cached " 10.0.0.5" = some padded.1 ∧
      some padded.1.name.toList = Identity.normalizeHostname " 10.0.0.5".toList ∧
      padded.2.asked = [.hostname " 10.0.0.5", .hostname "10.0.0.9"] := by
  intro info lookup r padded
  have hnew : r.cached "10.0.0.5" = none := by decide +kernel
  have hnew' : r.cached " 10.0.0.5" = none := by decide +kernel
  have hrefuses : RefusesEcho "10.0.0.5" := by decide +kernel
  have hnames : ¬RefusesEcho " 10.0.0.5" := by decide +kernel
  obtain ⟨-, hbare, -⟩ := (echo_of_answer "10.0.0.5").2.2 lookup r hnew rfl
  obtain ⟨hcached, -, hpadded⟩ := (echo_of_answer " 10.0.0.5").2.2 lookup r hnew' rfl
  obtain ⟨hidentity, hasked⟩ := hbare hrefuses
  obtain ⟨hwords, -, hasked'⟩ := hpadded hnames
  exact ⟨hnew, hnew', hrefuses, hnames, hidentity.trans (by decide +kernel), hasked, hcached, hwords.symm,
    hasked'⟩

/-- A blank before the address, and the host name that echoes it names the device after the first octet. -/
theorem identify_of_padded :
    let lookup : Lookup := { hostname := fun ip => .ok (some ip), info := fun _ => .ok {} }
    Identity.identify " 10.0.0.5" (some " 10.0.0.5") none = ⟨"10", .desktop, .hostname⟩ ∧
      Identity.identify " 10.0.0.5" none none = ⟨"iMac 05", .desktop, .fallback⟩ ∧
      (resolve lookup {} " 10.0.0.5").2.asked = [.hostname " 10.0.0.5"] := by
  decide +kernel

end Resolver

end TrafficMap
