import Depot.Json.Decode

set_option autoImplicit false

/-!
# Storage backends

The kinds of storage that can hold the images of a registry.

## Main definitions

* `Backend` — the five kinds, with `Backend.name` and `Backend.ofName?`.
-/

namespace Depot

/-- A kind of storage. -/
inductive Backend where
  /-- A bucket of Amazon S3 or a compatible service. -/
  | s3
  /-- A container of Azure Blob Storage. -/
  | azure
  /-- A bucket of Google Cloud Storage. -/
  | gcs
  /-- A container of OpenStack Swift. -/
  | swift
  /-- A volume of the cluster. -/
  | filesystem
  deriving Repr, DecidableEq, Inhabited

namespace Backend

/-- The name of a backend in configurations and messages. -/
def name : Backend → String
  | .s3 => "s3"
  | .azure => "azure"
  | .gcs => "gcs"
  | .swift => "swift"
  | .filesystem => "filesystem"

/-- All backends. -/
def all : List Backend := [.s3, .azure, .gcs, .swift, .filesystem]

/-- The backend of that name. -/
def ofName? (s : String) : Option Backend := all.find? (·.name == s)

/-- A backend as JSON. -/
def toJson (b : Backend) : Json := .text b.name

/-- Reads a backend. -/
def ofJson : Json → Json.Decoded Backend := Json.variant ofName?

end Backend

end Depot
