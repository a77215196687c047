import TrafficMap.Appliance.Failure
import TrafficMap.Appliance.Report
import TrafficMap.Identity.Basic

/-!
# Outcomes of a refresh

A refresh ends with a snapshot of everything the appliance reported, or with a failure. Outcomes
are numbered in the order of the refreshes, by words of 64 bits.
-/

namespace TrafficMap

/-- What one refresh found. -/
structure Snapshot where
  config : Configuration := {}
  stats : Statistics := {}
  identities : IdentityMap := []
  deriving Inhabited

/-- The end of one refresh. -/
structure Outcome where
  generation : UInt64
  result : Except Failure Snapshot

/-- The end of the refresh with a number, of which the outcome carries the last 64 bits. -/
def Outcome.ofNumbered (item : Nat × Except Failure Snapshot) : Outcome :=
  { generation := .ofNat item.1, result := item.2 }

end TrafficMap
