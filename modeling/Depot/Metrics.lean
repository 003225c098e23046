import Depot.Resource

set_option autoImplicit false

/-!
# Measurements

The operations on resources are counted by backend, operation and outcome, and their durations are
sampled by backend and operation. Both families are registered once.

## Main definitions

* `Metrics` — the counts, with `Metrics.record`.
* `Metrics.Family` — the description of a family of counts.
* `Metrics.Catalog` — the registered families, with `Metrics.Catalog.register`.
-/

namespace Depot

/-- A name or value that marks a count. -/
structure Metrics.Label where
  /-- The name of the label. -/
  name : String
  /-- Its value. -/
  value : String
  deriving Repr, DecidableEq, Inhabited

/-- One count and the labels that mark it. -/
structure Metrics.Series where
  /-- The labels, in order. -/
  labels : List Metrics.Label
  /-- The count. -/
  count : Nat
  deriving Repr, DecidableEq, Inhabited

/-- The counts of operations and the numbers of samples of their durations. -/
structure Metrics where
  /-- Operations by backend, operation and outcome. -/
  operations : List Metrics.Series := []
  /-- Samples by backend and operation. -/
  durations : List Metrics.Series := []
  deriving Repr, DecidableEq, Inhabited

namespace Metrics

/-- Adds one to the count with the given labels. -/
def increment (labels : List Label) : List Series → List Series
  | [] => [⟨labels, 1⟩]
  | s :: rest =>
    if s.labels = labels then ⟨labels, s.count + 1⟩ :: rest else s :: increment labels rest

/-- Records the outcome of an operation. -/
def record (m : Metrics) (backend : Backend) (operation : Operation) (succeeded : Bool) :
    Metrics :=
  let labels : List Label := [⟨"backend", backend.name⟩, ⟨"operation", operation.name⟩]
  let result := if succeeded then "success" else "error"
  { operations := increment (labels ++ [⟨"result", result⟩]) m.operations
    durations := increment labels m.durations }

/-- The description of a family of counts. -/
structure Family where
  /-- The name. -/
  name : String
  /-- What is counted. -/
  help : String
  deriving Repr, DecidableEq, Inhabited

/-- The family of the durations. -/
def durationFamily : Family :=
  ⟨"registry_storage_operation_duration_seconds", "Duration of storage operations in seconds"⟩

/-- The family of the operations. -/
def operationFamily : Family :=
  ⟨"registry_storage_operations_total", "Storage operations by backend, operation and result"⟩

/-- The families that have a count, in the order of their names. -/
def families (m : Metrics) : List (Family × List Series) :=
  [(durationFamily, m.durations), (operationFamily, m.operations)].filter fun f => !f.2.isEmpty

/-- The names of the registered families. -/
abbrev Catalog := List String

/-- Registers both families; neither may be registered already. -/
def Catalog.register (c : Catalog) : Except Error Catalog :=
  if c.contains operationFamily.name || c.contains durationFamily.name then
    .error (.metrics .alreadyRegistered)
  else .ok (durationFamily.name :: operationFamily.name :: c)

end Metrics

end Depot
