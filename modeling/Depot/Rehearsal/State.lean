import Depot.Metrics
import Depot.Rehearsal.Journal
import Depot.Rehearsal.Script
import Depot.Rehearsal.Store
import Depot.World

set_option autoImplicit false

/-!
# The world in memory

Programs of the operator can be rehearsed on a world in memory. It has the objects of a cluster, the
stores of a cloud, files, a server with prepared responses, and a clock that moves only when someone
waits. Each call is noted in a journal, and a script may change what it does.

## Main definitions

* `Rehearsal.State` — the world in memory.
* `Rehearsal` — rehearsals, and `Rehearsal.Trial` — those that may fail.
* `Rehearsal.call` — what all calls have in common.
-/

namespace Depot

namespace Rehearsal

/-- The objects of a cluster, by namespace and name. -/
structure ClusterState where
  /-- The description of the cluster. -/
  infrastructure : Infrastructure := {}
  /-- The secrets. -/
  secrets : Dict Cluster.Secret := .empty
  /-- The config maps. -/
  configMaps : Dict Cluster.ConfigMap := .empty
  /-- The claims. -/
  claims : Dict Cluster.Claim := .empty
  deriving Inhabited

/-- The key of an object of a cluster. -/
def objectKey (ns name : String) : String := ns ++ "/" ++ name

/-- The stores of a cloud and the tags bound in it. -/
structure CloudState where
  /-- The backend that reports what is missing. -/
  backend : Backend := .s3
  /-- The stores. -/
  stores : Dict Store := .empty
  /-- How many objects a page has. -/
  pageSize : Nat := 1000
  /-- Tags that are in effect on resources. -/
  effective : Dict (List String) := .empty
  /-- Resources and the tags bound to them, in order. -/
  bindings : List (String × String) := []
  deriving Inhabited

/-- The world in memory. -/
structure State where
  /-- The cluster. -/
  cluster : ClusterState := {}
  /-- The cloud. -/
  cloud : CloudState := {}
  /-- The measurements. -/
  metrics : Metrics := {}
  /-- The files. -/
  files : Dict String := .empty
  /-- The next responses of the server; none if there is no server. -/
  responses : Option (List Http.Response) := none
  /-- The requests that were sent. -/
  requests : Array Http.Request := #[]
  /-- The time that timers show. -/
  clock : Span := ⟨0⟩
  /-- The date and time. -/
  date : Timestamp := default
  /-- Random digits by how often they were asked for before. -/
  digits : Nat → List Char := fun _ => []
  /-- How often random digits were asked for. -/
  drawn : Nat := 0
  /-- What the next calls do. -/
  script : Script := .empty
  /-- The calls that were made. -/
  journal : Journal := #[]
  /-- Whether the script let a call be one too many. -/
  wasThrottled : Bool := false
  deriving Inhabited

end Rehearsal

/-- A rehearsal. -/
abbrev Rehearsal (α : Type) := StateM Rehearsal.State α

namespace Rehearsal

/-- A rehearsal that may fail. What was done before a failure stays. -/
abbrev Trial (α : Type) := ExceptT Error (StateM State) α

/-- Changes the cluster. -/
def modifyCluster (f : ClusterState → ClusterState) : Rehearsal Unit :=
  modify fun s => { s with cluster := f s.cluster }

/-- Changes the cloud. -/
def modifyCloud (f : CloudState → CloudState) : Rehearsal Unit :=
  modify fun s => { s with cloud := f s.cloud }

/-- Moves the clock. -/
def wait (duration : Span) : Rehearsal Unit :=
  modify fun s => { s with clock := ⟨s.clock.nanos + duration.nanos⟩ }

/-! ## Calls -/

/-- What the script says about the next call of a method. -/
def nextOutcome (method : String) : Trial Outcome := do
  let (outcome, script) := (← get).script.next method
  modify fun s => { s with script }
  match outcome with
  | .fails e =>
    if e.isThrottled then modify fun s => { s with wasThrottled := true }
    throw e
  | o => return o

/-- What all calls have in common: they are noted and do what the script says. -/
def call (method : String) (arguments : List Json) : Trial Outcome := do
  modify fun s => { s with journal := s.journal.note method arguments }
  nextOutcome method

/-- What a creation does with its usual work. -/
def creation (outcome : Outcome) (isThere : Bool) (work : Rehearsal Unit) : Trial Creation := do
  match outcome with
  | .taken => return .alreadyExists
  | .unseen => return .created
  | _ =>
    if isThere then return .alreadyExists
    work
    return .created

/-! ## Stores -/

/-- The error for a thing that a method does not find. -/
def missing {α : Type} (method name : String) : Trial α := do
  throw (.provider (← get).cloud.backend method name .notFound "not found")

/-- The store of a name, if there is one. -/
def store? (name : String) : Trial (Option Store) := return (← get).cloud.stores.get? name

/-- Whether there is a store of a name. -/
def hasStore (name : String) : Trial Bool := return (← store? name).isSome

/-- The store of a name, which a method needs. -/
def storeFor (method name : String) : Trial Store := do
  match ← store? name with
  | some s => return s
  | none => missing method name

/-- Puts a store under a name. -/
def putStore (name : String) (s : Store) : Rehearsal Unit :=
  modifyCloud fun c => { c with stores := c.stores.insert name s }

/-- Removes the store of a name. -/
def eraseStore (name : String) : Rehearsal Unit :=
  modifyCloud fun c => { c with stores := c.stores.erase name }

/-- A call that sets something on a store. -/
def setting (method name : String) (arguments : List Json) (member : String) (value : Json) :
    Trial Unit := do
  let _ ← call method (.text name :: arguments)
  putStore name ((← storeFor method name).set member value)

/-- A call that deletes a store, with what is in it. -/
def deleting (method name : String) : Trial Unit := do
  let _ ← call method [.text name]
  let _ ← storeFor method name
  eraseStore name

/-- A call that deletes an object of a store. -/
def deletingObject (method name key : String) : Trial Unit := do
  let _ ← call method [.text name, .text key]
  let s ← storeFor method name
  if s.has key then putStore name (s.eraseKey key) else missing method key

end Rehearsal

end Depot
