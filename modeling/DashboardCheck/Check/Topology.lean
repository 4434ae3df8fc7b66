import DashboardCheck.Json.Value
import DashboardCheck.Text.Split

/-!
How the units of a dashboard answer. One unit is active and answers 200; the others answer 303 and
send visitors there. Addresses are kept by status, in the order in which the units were probed.
-/
namespace DashboardCheck

open Text

/-- The addresses by status, statuses in ascending order. -/
structure Topology where
  buckets : List (Nat × List String)
  unitCount : Nat
  deriving DecidableEq, Repr

namespace Topology

def add (status : Nat) (address : String) : List (Nat × List String) → List (Nat × List String)
  | [] => [(status, [address])]
  | (s, addresses) :: rest =>
    if status < s then (status, [address]) :: (s, addresses) :: rest
    else if status = s then (s, addresses ++ [address]) :: rest
    else (s, addresses) :: add status address rest

def ofProbes (probes : List (String × Nat)) : Topology where
  buckets := probes.foldl (fun buckets probe => add probe.2 probe.1 buckets) []
  unitCount := probes.length

def addresses (t : Topology) (status : Nat) : List String :=
  ((t.buckets.find? fun bucket => bucket.1 == status).map Prod.snd).getD []

def active : Nat := 200

def redirecting : Nat := 303

/-- Whether one unit is active and all others redirect. -/
def isHealthy (t : Topology) : Bool :=
  (t.addresses active).length == 1 && (t.addresses redirecting).length == t.unitCount - 1

def text (t : Topology) : String :=
  let bucket (b : Nat × List String) : String := s!"{b.1}: [" ++ join ", " b.2 ++ "]"
  "\x7b" ++ join ", " (t.buckets.map bucket) ++ "\x7d"

def complaint (t : Topology) : String :=
  let found := t.addresses active
  let reason :=
    if 1 < found.length then s!"{found.length} units answered 200: " ++ join ", " found
    else if found.isEmpty then "no unit answered 200"
    else s!"expected {t.unitCount - 1} units to answer 303"
  reason ++ "; observed " ++ t.text

/-- Fails with what is wrong. -/
def verify (t : Topology) : Except String Unit :=
  if t.isHealthy then .ok () else .error t.complaint

def toJson (t : Topology) : Json.Value :=
  .object
    [("buckets", .object (t.buckets.map fun (status, addresses) =>
      (toString status, .array (addresses.map .string)))),
     ("unit_count", .integer t.unitCount)]

end Topology

end DashboardCheck
