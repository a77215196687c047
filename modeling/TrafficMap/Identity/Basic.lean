import TrafficMap.Device.Kind

/-!
# Identities of clients

The name and kind under which a client address is shown, and where they come from.
-/

namespace TrafficMap

/-- The step of the resolution that produced an identity. -/
inductive IdentitySource where
  | hostname | deviceInfo | fallback
  deriving DecidableEq, Repr

/-- How a client device is shown. -/
structure Identity where
  name : String
  kind : ClientKind
  source : IdentitySource
  deriving DecidableEq, Repr

/-- The identities of client addresses; an address occurs at most once. -/
abbrev IdentityMap := List (String × Identity)

namespace IdentityMap

/-- The identity of an address. -/
def find (m : IdentityMap) (ip : String) : Option Identity :=
  m.lookup ip

/-- Adds an identity, replacing the one that the address had. -/
def put (m : IdentityMap) (ip : String) (identity : Identity) : IdentityMap :=
  (ip, identity) :: m.filter (fun e => e.1 ≠ ip)

end IdentityMap

end TrafficMap
