/-
The quarantine flag over a sequence of scans. The flag is durable and only a
re-approval clears it, yet a scan does not read it: each scan computes its own
quarantined clusters from the identity observed in it, so a flagged cluster is
ingested again as soon as the observed CA is the pinned one, or no endpoint
reports any.
-/
import PveHelper.Scans.Ingestion

namespace PveHelper.Scans

open Lib Guests

inductive FleetStep
  | scan (answers : Nat → Client) (now : Time)
  | reapprove (pk : Nat) (observed : ObservedClusterIdentity)

/-- Not a re-approval of the cluster. -/
def FleetStep.Spares (pk : Nat) : FleetStep → Prop
  | .scan _ _ => True
  | .reapprove k _ => k ≠ pk

end PveHelper.Scans
