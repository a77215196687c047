import TrafficMap.Identity.Resolver

/-!
# Calls at the same time

Several calls to a resolver may be under way at once. They share what is remembered, and each goes
through its own stages. `SharedResolver.next` lets one call make a move; which one makes it, and what
the appliance answers, is left open.
-/

namespace TrafficMap

/-- A call to a resolver: the address that it is about and the stage that it has reached. -/
structure ResolverCall where
  ip : String
  stage : Resolution
  deriving DecidableEq

/-- The question that a call is waiting to have answered. -/
def ResolverCall.question? (call : ResolverCall) : Option Question :=
  match call.stage with
  | .awaitHostname => some (.hostname call.ip)
  | .awaitInfo => some (.info call.ip)
  | _ => none

/-- Asks the question of a call, if it has one. -/
def Resolver.ask (r : Resolver) (call : ResolverCall) : Resolver :=
  { r with asked := call.question?.toList ++ r.asked }

/-- A resolver and the calls that were made to it, in the order in which they began. -/
structure SharedResolver where
  resolver : Resolver := {}
  calls : List ResolverCall := []

/-- What can happen next; a call is named by its place. -/
inductive ResolverMove where
  /-- A call for an address begins. -/
  | begin (ip : String)
  /-- The question for the host name is answered, or it fails. -/
  | answerHostname (place : Nat) (answer : Except RequestError (Option String))
  /-- The question for the fingerprint is answered, or it fails. -/
  | answerInfo (place : Nat) (answer : Except RequestError DeviceInfo)
  /-- A call remembers the identity that it found, and returns. -/
  | remember (place : Nat)

namespace SharedResolver

/-- A call begins: it returns what is remembered, or it asks for the host name. -/
def begin (d : SharedResolver) (ip : String) : SharedResolver :=
  let call : ResolverCall := { ip, stage := .start d.resolver.cache ip }
  { resolver := d.resolver.ask call, calls := d.calls ++ [call] }

/-- A call gets on to another stage. -/
def advance (d : SharedResolver) (place : Nat) (call : ResolverCall) : SharedResolver :=
  { resolver := d.resolver.ask call, calls := d.calls.set place call }

/-- A call remembers an identity, unless another one was faster, and returns what is remembered. -/
def remember (d : SharedResolver) (place : Nat) (ip : String) (identity : Identity) :
    SharedResolver :=
  let (stage, cache) := Resolution.remember d.resolver.cache ip identity
  { resolver := { d.resolver with cache }, calls := d.calls.set place { ip, stage } }

/-- The state after a move. A move that the call at its place cannot make changes nothing. -/
def next (d : SharedResolver) : ResolverMove → SharedResolver
  | .begin ip => d.begin ip
  | .answerHostname place answer =>
    match d.calls[place]? with
    | some ⟨ip, .awaitHostname⟩ => d.advance place ⟨ip, .afterHostname ip answer⟩
    | _ => d
  | .answerInfo place answer =>
    match d.calls[place]? with
    | some ⟨ip, .awaitInfo⟩ => d.advance place ⟨ip, .afterInfo ip answer⟩
    | _ => d
  | .remember place =>
    match d.calls[place]? with
    | some ⟨ip, .found identity⟩ => d.remember place ip identity
    | _ => d

/-- The state after moves in order. -/
def run (d : SharedResolver) (moves : List ResolverMove) : SharedResolver :=
  moves.foldl next d

end SharedResolver

end TrafficMap
