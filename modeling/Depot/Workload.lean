import Depot.Json.Basic

set_option autoImplicit false

/-!
# The workload of the registry

What the registry's pod needs for a backend: variables of its environment, volumes with their
mounts, and certificates to trust.

## Main definitions

* `EnvVar` — variables, with `EnvVar.find?`.
* `Volume`, `Mount` — volumes and where they are mounted.
* `Trust` — certificates.
-/

namespace Depot

/-- The value of a variable. -/
inductive EnvVar.Value where
  /-- A text. -/
  | literal (text : String)
  /-- The value of a key of a secret. -/
  | secretKey (secret key : String)
  deriving Repr, DecidableEq, Inhabited

/-- A variable of the registry's environment. -/
structure EnvVar where
  /-- The name. -/
  name : String
  /-- The value. -/
  value : EnvVar.Value
  deriving Repr, DecidableEq, Inhabited

namespace EnvVar

/-- A variable with a text. -/
def literal (name text : String) : EnvVar := ⟨name, .literal text⟩

/-- A variable with the value of a key of a secret. -/
def secretKey (name secret key : String) : EnvVar := ⟨name, .secretKey secret key⟩

/-- A variable with a text, left out when the text is empty. -/
def unlessEmpty (name text : String) : List EnvVar := if text = "" then [] else [literal name text]

/-- The value of the first variable of a name. -/
def find? (vars : List EnvVar) (name : String) : Option Value :=
  (vars.find? (·.name == name)).map (·.value)

/-- A variable as it is sent to the cluster. -/
def toJson (v : EnvVar) : Json :=
  match v.value with
  | .literal text => .object [("name", .text v.name), ("value", .text text)]
  | .secretKey secret key =>
    .object [
      ("name", .text v.name),
      ("valueFrom", .object [
        ("secretKeyRef", .object [("key", .text key), ("name", .text secret)])])]

end EnvVar

/-- A truth value as the text of a variable. -/
def boolText (b : Bool) : String := if b then "true" else "false"

/-- A key of a secret that appears as a file in a volume. -/
structure Volume.Item where
  /-- The key. -/
  key : String
  /-- The path of the file. -/
  path : String
  deriving Repr, DecidableEq, Inhabited

/-- What is in a volume. -/
inductive Volume.Source where
  /-- Keys of a secret. -/
  | secret (name : String) (items : List Volume.Item)
  /-- A claim. -/
  | claim (name : String)
  /-- Nothing at first; it goes away with the pod. -/
  | emptyDir
  deriving Repr, DecidableEq, Inhabited

/-- A volume of the pod. -/
structure Volume where
  /-- The name. -/
  name : String
  /-- What is in it. -/
  source : Volume.Source
  deriving Repr, DecidableEq, Inhabited

/-- A volume as it is sent to the cluster. -/
def Volume.toJson (v : Volume) : Json :=
  let source :=
    match v.source with
    | .secret name items =>
      let items := items.map fun i => Json.object [("key", .text i.key), ("path", .text i.path)]
      ("secret", Json.object [("items", .arr items), ("secretName", .text name)])
    | .claim name => ("persistentVolumeClaim", .object [("claimName", .text name)])
    | .emptyDir => ("emptyDir", .object [])
  .object [("name", .text v.name), source]

/-- Where a volume is mounted. -/
structure Mount where
  /-- The volume. -/
  name : String
  /-- The path. -/
  path : String
  /-- Whether the registry may write to it. -/
  readOnly : Bool := false
  deriving Repr, DecidableEq, Inhabited

/-- A mount as it is sent to the cluster. -/
def Mount.toJson (m : Mount) : Json :=
  .object ([("mountPath", .text m.path), ("name", .text m.name)]
    ++ if m.readOnly then [("readOnly", .bool true)] else [])

/-- The path of a file in a mounted volume. -/
def Mount.file (m : Mount) (path : String) : String := m.path ++ "/" ++ path

/-- The volumes of the pod and their mounts. -/
structure Mounted where
  /-- The volumes. -/
  volumes : List Volume := []
  /-- The mounts. -/
  mounts : List Mount := []
  deriving Repr, DecidableEq, Inhabited

/-- The certificates that the registry trusts. -/
structure Trust where
  /-- Certificates, none if empty. -/
  bundle : String := ""
  /-- Whether the certificates of the system are trusted too. -/
  useSystemPool : Bool := true
  deriving Repr, DecidableEq, Inhabited

end Depot
