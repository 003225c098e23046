import Depot.Json.Lookup
import Depot.Json.Printer

set_option autoImplicit false

/-!
# Journals

A journal has the calls that were made, in order. It is shown with equal neighbours as one entry,
and without the middle when it is long.

## Main definitions

* `Rehearsal.Journal` — journals, with `Journal.note`.
* `Rehearsal.Journal.toJson` — what is shown of a journal.
-/

namespace Depot.Rehearsal

/-- The calls that were made, each with its method and what it was given. -/
abbrev Journal := Array (String × List Json)

namespace Journal

/-- Adds a call. -/
def note (j : Journal) (method : String) (arguments : List Json) : Journal :=
  j.push (method, arguments)

/-- Groups neighbours of the same text. -/
def fold : List (String × Json) → List (String × Json × Nat)
  | [] => []
  | (text, v) :: rest =>
    match fold rest with
    | (other, w, n) :: groups =>
      if text = other then (text, v, n + 1) :: groups else (text, v, 1) :: (other, w, n) :: groups
    | [] => [(text, v, 1)]

/-- A group as an entry: a call that was made more than once has the number of times at its end. -/
def entry (call : Json) (times : Nat) : Json :=
  if times = 1 then call else .arr (call.items ++ [.object [("times", .nat times)]])

/-- How many entries a journal may have to be shown as a whole. -/
def maxEntries : Nat := 200

/-- How many entries are shown at each end of a longer one. -/
def endEntries : Nat := 50

/-- Leaves out the middle of a long list of entries. -/
def shorten (entries : List Json) : List Json :=
  if entries.length ≤ maxEntries then entries
  else
    let skipped := entries.length - 2 * endEntries
    entries.take endEntries
      ++ .arr [.text "skipped", .nat skipped] :: entries.drop (endEntries + skipped)

/-- What is shown of a journal when each call is shown in some way. -/
def toJson (display : Json → Json) (j : Journal) : Json :=
  let calls := j.toList.map fun (method, arguments) =>
    let v := display (.arr (.text method :: arguments))
    (v.print, v)
  .arr (shorten ((fold calls).map fun (_, v, n) => entry v n))

end Journal

end Depot.Rehearsal
