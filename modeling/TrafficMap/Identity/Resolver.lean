import TrafficMap.Appliance.Failure
import TrafficMap.Identity.Evidence

/-!
# Resolving identities

A resolver asks the appliance for the name and, if that does not help, for the fingerprint of an
address, and remembers the identity it arrives at for good. A single call is a `Resolution` that
goes through its stages one answer at a time, so that calls can be interleaved in any order;
`Resolver.resolve` runs one call to its end.
-/

namespace TrafficMap

/-- How the appliance answers questions about addresses. -/
structure Lookup where
  hostname : String → Except RequestError (Option String)
  info : String → Except RequestError DeviceInfo

/-- A lookup that knows nothing. -/
def Lookup.silent : Lookup :=
  { hostname := fun _ => .ok none, info := fun _ => .ok {} }

/-- A question to the appliance. -/
inductive Question where
  | hostname (ip : String)
  | info (ip : String)
  deriving DecidableEq, Repr

/-- The value of an answer; a failed question has none. -/
def answered {ε β : Type} : Except ε β → Option β
  | .ok b => some b
  | .error _ => none

/-- The stage that a call to the resolver has reached. -/
inductive Resolution where
  /-- The host name was asked for. -/
  | awaitHostname
  /-- The fingerprint was asked for. -/
  | awaitInfo
  /-- An identity was found and is about to be remembered. -/
  | found (identity : Identity)
  /-- The call returned an identity. -/
  | done (identity : Identity)
  deriving DecidableEq

namespace Resolution

/-- The first stage of a call, which returns at once what is remembered. -/
def start (cache : IdentityMap) (ip : String) : Resolution :=
  match cache.find ip with
  | some identity => .done identity
  | none => .awaitHostname

/-- The stage after the answer to the question for the host name. -/
def afterHostname (ip : String) (answer : Except RequestError (Option String)) : Resolution :=
  match ((answered answer).bind id).bind (Identity.ofHostname ip) with
  | some identity => .found identity
  | none => .awaitInfo

/-- The stage after the answer to the question for the fingerprint. -/
def afterInfo (ip : String) (answer : Except RequestError DeviceInfo) : Resolution :=
  .found (((answered answer).bind (Identity.ofDeviceInfo ip)).getD (Identity.fallback ip))

/-- Remembers an identity, unless another call was faster; what is remembered is returned. -/
def remember (cache : IdentityMap) (ip : String) (identity : Identity) :
    Resolution × IdentityMap :=
  match cache.find ip with
  | some known => (.done known, cache)
  | none => (.done identity, cache.put ip identity)

end Resolution

/-- What is remembered about addresses, and the questions asked so far, the last one first. -/
structure Resolver where
  cache : IdentityMap := []
  asked : List Question := []

namespace Resolver

/-- The remembered identity of an address. -/
def cached (r : Resolver) (ip : String) : Option Identity :=
  r.cache.find ip

/-- How many addresses are remembered. -/
def size (r : Resolver) : Nat :=
  r.cache.length

/-- Looks an address up: the host name first, the fingerprint only if that yields nothing. -/
def lookUp (lookup : Lookup) (ip : String) : Identity × List Question :=
  match Resolution.afterHostname ip (lookup.hostname ip) with
  | .found identity => (identity, [.hostname ip])
  | _ =>
    match Resolution.afterInfo ip (lookup.info ip) with
    | .found identity => (identity, [.info ip, .hostname ip])
    | _ => (Identity.fallback ip, [.info ip, .hostname ip])

/-- The identity of an address. -/
def resolve (lookup : Lookup) (r : Resolver) (ip : String) : Identity × Resolver :=
  match r.cache.find ip with
  | some identity => (identity, r)
  | none =>
    let (identity, asked) := lookUp lookup ip
    (identity, { cache := r.cache.put ip identity, asked := asked ++ r.asked })

/-- Adds a text to a sorted list of texts, unless it is there. -/
def insertSorted (s : String) : List String → List String
  | [] => [s]
  | t :: ts => if s = t then t :: ts else if s < t then s :: t :: ts else t :: insertSorted s ts

/-- The different texts of a list in order. -/
def sorted (texts : List String) : List String :=
  texts.foldr insertSorted []

/-- The identities of addresses in order. -/
def resolveEach (lookup : Lookup) (r : Resolver) : List String → IdentityMap × Resolver
  | [] => ([], r)
  | ip :: ips =>
    let (identity, r) := resolve lookup r ip
    let (rest, r) := resolveEach lookup r ips
    ((ip, identity) :: rest, r)

/-- The identities of all addresses of a list, each of them resolved once. -/
def resolveAll (lookup : Lookup) (r : Resolver) (ips : List String) : IdentityMap × Resolver :=
  resolveEach lookup r (sorted ips)

end Resolver

end TrafficMap
