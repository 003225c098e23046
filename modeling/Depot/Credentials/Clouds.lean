import Depot.Credentials.Basic
import Depot.Error
import Depot.Yaml.Value

set_option autoImplicit false

/-!
# Cloud files of OpenStack

A file in YAML describes clouds by their names: where to log in and as whom. Entries that the
operator does not need are skipped. Every scalar is taken as a text, except for the version of the
identity service, which may be a number.

## Main definitions

* `Clouds.Entry` — the description of a cloud.
* `Clouds.parse` — the clouds of a file.
* `Clouds.Entry.credentials` — the credentials for a cloud.
-/

namespace Depot.Clouds

/-- A reader of a part of a file. -/
abbrev Read (α : Type) := Yaml.Visit α

/-- The entries of a mapping; nothing at all is an empty mapping. -/
def entries (d : Yaml.Document) (n : Yaml.Node) : Read (List (String × Yaml.Node)) := do
  match ← d.follow n with
  | .void | .scalar _ true "" => return []
  | .map _ entries =>
    entries.mapM fun (k, v) => do
      match ← d.follow k with
      | .scalar _ _ name => return (name, v)
      | _ => Yaml.Visit.refuse
  | _ => Yaml.Visit.refuse

/-- The text of a scalar. -/
def scalarText (d : Yaml.Document) (n : Yaml.Node) : Read String := do
  match ← d.follow n with
  | .scalar _ _ s => return s
  | _ => Yaml.Visit.refuse

/-- The known entries of a record, each at most once. -/
structure Record where
  /-- The file. -/
  document : Yaml.Document
  /-- The entries. -/
  given : List (String × Yaml.Node)

/-- The entries of a record with the given names. -/
def record (names : List String) (d : Yaml.Document) (n : Yaml.Node) : Read Record := do
  let given := (← entries d n).filter fun (name, _) => names.contains name
  if (names.find? fun name => 1 < (given.filter (·.1 == name)).length).isSome then
    Yaml.Visit.refuse
  else return ⟨d, given⟩

/-- The value of an entry, or another one if it is not given. -/
def Record.valueOr {α : Type} (r : Record) (name : String) (default : α)
    (read : Yaml.Document → Yaml.Node → Read α) : Read α :=
  match r.given.lookup name with
  | none => return default
  | some n => read r.document n

/-- The text of an entry, empty if it is not given. -/
def Record.text (r : Record) (name : String) : Read String := r.valueOr name "" scalarText

/-- Where to log in and as whom. -/
structure Login where
  /-- The identity service. -/
  authUrl : String := ""
  /-- The user. -/
  username : String := ""
  /-- The password. -/
  password : String := ""
  /-- The name of the project. -/
  projectName : String := ""
  /-- The identifier of the project. -/
  projectId : String := ""
  /-- The name of the domain. -/
  domainName : String := ""
  /-- The identifier of the domain. -/
  domainId : String := ""
  /-- The name of the user's domain. -/
  userDomainName : String := ""
  /-- The identifier of the user's domain. -/
  userDomainId : String := ""
  deriving Repr, DecidableEq, Inhabited

/-- The description of a cloud. -/
structure Entry where
  /-- Where to log in and as whom. -/
  login : Login := {}
  /-- The region. -/
  regionName : String := ""
  /-- The version of the identity service. -/
  identityVersion : String := ""
  deriving Repr, DecidableEq, Inhabited

/-- Reads where to log in. -/
def login (d : Yaml.Document) (n : Yaml.Node) : Read Login := do
  let r ← record ["auth_url", "username", "password", "project_name", "project_id", "domain_name",
    "domain_id", "user_domain_name", "user_domain_id"] d n
  return {
    authUrl := ← r.text "auth_url"
    username := ← r.text "username"
    password := ← r.text "password"
    projectName := ← r.text "project_name"
    projectId := ← r.text "project_id"
    domainName := ← r.text "domain_name"
    domainId := ← r.text "domain_id"
    userDomainName := ← r.text "user_domain_name"
    userDomainId := ← r.text "user_domain_id" }

/-- How many collections may be open in the value of an entry of a cloud: all but the three around
it. -/
def maxDepth : Nat := 128 - 3

/-- A number or text; other values count as none. -/
def version (d : Yaml.Document) (n : Yaml.Node) : Read String := do
  match ← d.value maxDepth n with
  | .int i => return toString i
  | .float f => return Yaml.Value.floatText f
  | .string s => return s
  | _ => return ""

/-- Reads the description of a cloud. -/
def entry (d : Yaml.Document) (n : Yaml.Node) : Read Entry := do
  let r ← record ["auth", "region_name", "identity_api_version"] d n
  return {
    login := ← r.valueOr "auth" {} login
    regionName := ← r.text "region_name"
    identityVersion := ← r.valueOr "identity_api_version" "" version }

/-- Reads the clouds of a file by their names, of which the last one of a name counts. -/
def clouds (d : Yaml.Document) (n : Yaml.Node) : Read (Dict Entry) := do
  return .ofList (← (← entries d n).mapM fun (name, v) => do return (name, ← entry d v))

/-- Reads a file. -/
def file (d : Yaml.Document) (n : Yaml.Node) : Read (Dict Entry) := do
  (← record ["clouds"] d n).valueOr "clouds" .empty clouds

/-- The clouds of a file by their names. -/
def parse (s : String) : Except Error (Dict Entry) :=
  match Yaml.parse? s with
  | none => .error (.yaml "not a YAML text")
  | some d =>
    match d.visit (file d) with
    | none => .error (.yaml "not a list of clouds")
    | some clouds => .ok clouds

/-- The credentials for a cloud. -/
def Entry.credentials (e : Entry) : Swift.Credentials where
  username := e.login.username
  password := e.login.password
  authUrl := e.login.authUrl
  domain := Swift.firstOf e.login.domainName e.login.userDomainName
  domainId := Swift.firstOf e.login.domainId e.login.userDomainId
  tenant := e.login.projectName
  tenantId := e.login.projectId
  regionName := e.regionName
  identityVersion := e.identityVersion

end Depot.Clouds
