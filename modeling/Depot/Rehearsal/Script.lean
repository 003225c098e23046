import Depot.Gcs.Api
import Depot.Migration
import Depot.Rehearsal.Fault
import Depot.S3.Api

set_option autoImplicit false

/-!
# Scripts

A script says what the next calls of each method do in place of their usual work.

## Main definitions

* `Rehearsal.Outcome` — what a call does.
* `Rehearsal.Script` — the outcomes of the next calls by method, with `Script.next`.
-/

namespace Depot.Rehearsal

/-- What a call does. -/
inductive Outcome where
  /-- Its usual work. -/
  | usual
  /-- It fails, and does nothing else. -/
  | fails (e : Error)
  /-- A probe finds this. -/
  | found (p : Presence)
  /-- A creation finds the name taken. -/
  | taken
  /-- A creation succeeds, and nothing can be seen of it. -/
  | unseen
  /-- A thing that may be there is not. -/
  | missing
  /-- A listing has this page. -/
  | names (page : Gcs.Page)
  /-- A listing of tags takes some time, and may have this page. -/
  | tags (delay : Span) (page : Option Gcs.TagPage)
  /-- A deletion of many objects leaves these. -/
  | left (failures : List S3.DeleteFailure)
  /-- A copy is in this state. -/
  | copy (state : Migration.CopyState)
  deriving Repr, DecidableEq, Inhabited

namespace Outcome

/-- The outcomes that are written as a word. -/
def words : List (String × Outcome) := [
  ("present", .found .present), ("absent", .found .absent), ("forbidden", .found .forbidden),
  ("exists", .taken), ("invisible", .unseen), ("missing", .missing),
  ("success", .copy .success), ("pending", .copy .pending)]

/-- Reads an object that a deletion leaves. -/
def deleteFailureOfJson (v : Json) : S3.DeleteFailure :=
  ⟨v.textAt "key", v.textAt "code", v.textAt "message"⟩

/-- Reads a page of tags, if it has values. -/
def tagPageOfJson (v : Json) : Option Gcs.TagPage :=
  (v.member? "values").map fun _ => ⟨v.textsAt "values", v.textAt? "next"⟩

/-- Reads an outcome; what says nothing else is the usual work. -/
def ofJson (v : Json) : Json.Decoded Outcome :=
  match v, v.member? "error", v.textAt? "failed", v.textAt? "aborted" with
  | .str (some word), _, _, _ => .ok ((words.lookup word).getD .usual)
  | .obj _, some e, _, _ => (errorOfJson e).map .fails
  | .obj _, none, some reason, _ => .ok (.copy (.failed reason))
  | .obj _, none, none, some reason => .ok (.copy (.aborted reason))
  | .obj _, none, none, none =>
    if (v.member? "names").isSome then .ok (.names ⟨v.textsAt "names", v.textAt? "next"⟩)
    else if (v.member? "failures").isSome then
      .ok (.left ((v.listAt "failures").map deleteFailureOfJson))
    else .ok (.tags (.ofMillis (v.natAt "delayMs" 0)) (tagPageOfJson v))
  | _, _, _, _ => .ok .usual

/-- What a probe finds. -/
def presence (o : Outcome) (isThere : Bool) : Presence :=
  match o with
  | .found p => p
  | _ => if isThere then .present else .absent

end Outcome

/-- An outcome of some calls in a row. -/
structure Script.Entry where
  /-- How many calls; none if all that follow. -/
  times : Option Nat
  /-- What they do. -/
  outcome : Outcome
  deriving Repr, DecidableEq, Inhabited

/-- The outcomes of the next calls by method. -/
abbrev Script := Dict (List Script.Entry)

namespace Script

/-- Reads an outcome of some calls. -/
def Entry.ofJson (v : Json) : Json.Decoded Entry :=
  match v.member? "repeat", v.member? "forever" with
  | some n, _ => (Outcome.ofJson (v.fieldOrEmpty "value")).map (⟨some (n.asNat?.getD 0), ·⟩)
  | none, some o => (Outcome.ofJson o).map (⟨none, ·⟩)
  | none, none => (Outcome.ofJson v).map (⟨some 1, ·⟩)

/-- Reads the outcomes of one method. -/
def entriesOfJson (vs : List Json) : Json.Decoded (List Entry) := do
  let entries ← vs.mapM Entry.ofJson
  return entries.filter (·.times != some 0)

/-- Reads a script. -/
def ofJson (v : Json) : Json.Decoded Script := do
  let methods ← v.entries.mapM fun (method, vs) => do
    return (method, ← entriesOfJson vs.items)
  return .ofList methods

/-- Adds outcomes after those that are there. -/
def append (s : Script) (method : String) (entries : List Entry) : Script :=
  s.insert method ((s.get? method).getD [] ++ entries)

/-- What the next call of a method does, and the script after it. -/
def next (s : Script) (method : String) : Outcome × Script :=
  match s.get? method with
  | some (⟨none, o⟩ :: _) => (o, s)
  | some (⟨some (n + 2), o⟩ :: rest) => (o, s.insert method (⟨some (n + 1), o⟩ :: rest))
  | some (⟨some _, o⟩ :: rest) => (o, s.insert method rest)
  | _ => (.usual, s)

end Script

end Depot.Rehearsal
