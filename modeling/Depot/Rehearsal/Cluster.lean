import Depot.Rehearsal.State

set_option autoImplicit false

/-!
# Rehearsed calls to the cluster

## Main definitions

* `Rehearsal.answerCluster` — the answer to each call.
-/

namespace Depot.Rehearsal

/-- The object of a key, unless the call says that it is missing. -/
def lookUp {α : Type} (outcome : Outcome) (objects : Dict α) (ns name : String) : Option α :=
  if outcome = .missing then none else objects.get? (objectKey ns name)

/-- A secret. -/
def getSecret (ns name : String) : Trial (Option Cluster.Secret) := do
  let outcome ← call "get_secret" [.text ns, .text name]
  return lookUp outcome (← get).cluster.secrets ns name

/-- A config map. -/
def getConfigMap (ns name : String) : Trial (Option Cluster.ConfigMap) := do
  let outcome ← call "get_config_map" [.text ns, .text name]
  return lookUp outcome (← get).cluster.configMaps ns name

/-- The description of the cluster. -/
def getInfrastructure : Trial Infrastructure := do
  let _ ← call "get_infrastructure" []
  return (← get).cluster.infrastructure

/-- A claim. -/
def getClaim (ns name : String) : Trial (Option Cluster.Claim) := do
  let outcome ← call "get_claim" [.text ns, .text name]
  return lookUp outcome (← get).cluster.claims ns name

/-- The refusal to create a claim that exists. -/
def claimExists : ApiStatus := ⟨"Failure", "claim already exists", "AlreadyExists", 409⟩

/-- Creates a claim. -/
def createClaim (ns : String) (claim : Cluster.Claim) : Trial Unit := do
  let outcome ← call "create_claim" [.text ns, claim.toJson]
  let key := objectKey ns (claim.metadata.name.getD "")
  if outcome = .unseen then return ()
  else if (← get).cluster.claims.contains key then throw (.clusterApi claimExists)
  else modifyCluster fun c => { c with claims := c.claims.insert key claim }

/-- Deletes a claim. -/
def deleteClaim (ns name : String) : Trial Bool := do
  let _ ← call "delete_claim" [.text ns, .text name]
  let key := objectKey ns name
  let isThere := (← get).cluster.claims.contains key
  modifyCluster fun c => { c with claims := c.claims.erase key }
  return isThere

/-- The answer to each call. -/
def answerCluster : (c : Cluster.Call) → Rehearsal (Cluster.Answer c)
  | .getSecret ns name => (getSecret ns name).run
  | .getConfigMap ns name => (getConfigMap ns name).run
  | .getInfrastructure => getInfrastructure.run
  | .getClaim ns name => (getClaim ns name).run
  | .createClaim ns claim => (createClaim ns claim).run
  | .deleteClaim ns name => (deleteClaim ns name).run

end Depot.Rehearsal
