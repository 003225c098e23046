import Depot.Json.Lookup
import Depot.Dict

set_option autoImplicit false

/-!
# Stores

A store is a bucket, a container or a storage account of a cloud in memory. It has what was set on
it, and the versions of the objects in it in the order in which they are listed: by key, and for one
key by version, the one without a version first.

## Main definitions

* `Rehearsal.Object`, `Rehearsal.Store` — versions of objects, and stores.
* `Rehearsal.Store.insert`, `Rehearsal.Store.ofObjects` — putting objects into stores.
* `Rehearsal.Store.objectsAfter`, `Rehearsal.Store.keysAfter`, `Rehearsal.page` — listings.
-/

namespace Depot.Rehearsal

/-- A version of an object. -/
structure Object where
  /-- The key. -/
  key : String
  /-- The version. -/
  version : Option String := none
  deriving Repr, DecidableEq, Inhabited

/-- Whether a version comes before another one. -/
def Object.before (a b : Object) : Bool :=
  a.key < b.key || a.key = b.key &&
    match a.version, b.version with
    | none, some _ => true
    | some v, some w => v < w
    | _, none => false

/-- A bucket, a container or a storage account. -/
structure Store where
  /-- What was set on it. -/
  attributes : Dict Json := .empty
  /-- The objects in it. -/
  objects : List Object := []
  deriving Inhabited

/-- Puts an object into its place, once. -/
def insertObject (o : Object) : List Object → List Object
  | [] => [o]
  | p :: rest =>
    if o.before p then o :: p :: rest
    else if o = p then p :: rest
    else p :: insertObject o rest

namespace Store

/-- Puts an object into a store. -/
def insert (s : Store) (o : Object) : Store := { s with objects := insertObject o s.objects }

/-- Puts objects into a store. -/
def insertAll (s : Store) (os : List Object) : Store :=
  { s with objects := os.foldr insertObject s.objects }

/-- A store with objects on which nothing is set. -/
def ofObjects (os : List Object) : Store := insertAll {} os

/-- An empty store on which some things are set. -/
def ofAttributes (attributes : List (String × Json)) : Store := { attributes := .ofList attributes }

/-- Sets something on a store. -/
def set (s : Store) (name : String) (value : Json) : Store :=
  { s with attributes := s.attributes.insert name value }

/-- Whether a store has an object of a key. -/
def has (s : Store) (key : String) : Bool := s.objects.any (·.key == key)

/-- Removes all versions of an object. -/
def eraseKey (s : Store) (key : String) : Store :=
  { s with objects := s.objects.filter (·.key != key) }

/-- Removes versions of objects. -/
def eraseAll (s : Store) (os : List Object) : Store :=
  { s with objects := s.objects.filter (!os.contains ·) }

/-- The objects after a place in the listing. -/
def objectsAfter (s : Store) : Option Object → List Object
  | none => s.objects
  | some o => s.objects.filter o.before

/-- The keys after a key. -/
def keysAfter (s : Store) (key : Option String) : List String :=
  let keys := s.objects.map (·.key)
  match key with
  | none => keys
  | some k => keys.filter (k < ·)

/-- The key of the object of a number. -/
def numberedKey (n : Nat) : String :=
  let digits := Nat.toDigits 10 n
  "blobs/" ++ String.ofList (List.replicate (5 - digits.length) '0' ++ digits)

/-- Reads objects: the number of them, or a list of keys and of pairs of a key and a version. -/
def objectsOfJson : Json → List Object
  | .arr vs => vs.filterMap fun v =>
    match v with
    | .arr [key, version] => key.asText?.map (⟨·, version.asText?⟩)
    | key => key.asText?.map ({ key := · })
  | v => (List.range (v.asNat?.getD 0)).map fun n => { key := numberedKey n }

end Store

/-- The first part of a listing, and its last item if there are more. -/
def page {α : Type} (size : Nat) (listing : List α) : List α × Option α :=
  let first := listing.take size
  (first, if first.length < listing.length then first.getLast? else none)

end Depot.Rehearsal
