import Depot.Cluster.Object
import Depot.Infrastructure
import Depot.Prog

set_option autoImplicit false

/-!
# Calls to the cluster

What the operator asks of the cluster.

## Main definitions

* `Cluster.Call`, `Cluster.Answer` — the calls and the types of their answers.
-/

namespace Depot.Cluster

/-- The calls. -/
inductive Call where
  /-- A secret, if it exists. -/
  | getSecret (ns name : String)
  /-- A config map, if it exists. -/
  | getConfigMap (ns name : String)
  /-- The description of the cluster. -/
  | getInfrastructure
  /-- A claim, if it exists. -/
  | getClaim (ns name : String)
  /-- Creates a claim. -/
  | createClaim (ns : String) (claim : Claim)
  /-- Deletes a claim; answers whether it was there. -/
  | deleteClaim (ns name : String)

/-- The types of the answers. -/
abbrev Answer : Call → Type
  | .getSecret _ _ => Except Error (Option Secret)
  | .getConfigMap _ _ => Except Error (Option ConfigMap)
  | .getInfrastructure => Except Error Infrastructure
  | .getClaim _ _ => Except Error (Option Claim)
  | .createClaim _ _ => Except Error Unit
  | .deleteClaim _ _ => Except Error Bool

end Depot.Cluster
