import Depot.Rehearsal.Answer

set_option autoImplicit false

/-!
# Rehearsing a migration

Blobs are moved in a container that keeps them in the order in which they were made. Moving can be
cancelled before it starts, during a call, or at a time.

## Main definitions

* `Rehearsal.Blobs` — the blobs, and when moving is cancelled.
* `Rehearsal.Blobs.answer` — the answer to each call.
-/

namespace Depot.Rehearsal

/-- When moving is cancelled. -/
inductive Cancellation where
  /-- It is not. -/
  | never
  /-- Before it starts. -/
  | atOnce
  /-- During a call of a method, which is the `n`-th one. -/
  | during (method : String) (n : Nat)
  /-- When the clock shows a time. -/
  | atTime (time : Span)
  deriving Repr, DecidableEq, Inhabited

/-- Whether moving is cancelled at a time. -/
def Cancellation.holdsAt (c : Cancellation) (time : Span) : Bool :=
  match c with
  | .atOnce => true
  | .atTime t => t.nanos ≤ time.nanos
  | _ => false

/-- The blobs of a container. -/
structure Blobs where
  /-- Their names. -/
  names : List String
  /-- When moving is cancelled. -/
  cancellation : Cancellation := .never
  deriving Repr, DecidableEq, Inhabited

namespace Blobs

/-- A rehearsal with blobs. -/
abbrev Moving (α : Type) := ExceptT Error (StateT Blobs (StateM State)) α

/-- A call about blobs, with the name that the script knows it by. -/
def call (method : String) (arguments : List String) (name : String) : Moving Outcome := do
  modifyThe State fun s => { s with journal := s.journal.note method (arguments.map .text) }
  modifyThe Blobs fun b =>
    match b.cancellation with
    | .during m n =>
      if m ≠ method then b
      else if n ≤ 1 then { b with cancellation := if n = 1 then .atOnce else .never }
      else { b with cancellation := .during m (n - 1) }
    | _ => b
  ExceptT.mk (StateT.lift (nextOutcome (method ++ " " ++ name)).run)

/-- The state of the copy that makes a blob; one that is complete has made it. -/
def copied (outcome : Outcome) (target : String) : Moving Migration.CopyState := do
  match outcome with
  | .copy .pending => return .pending
  | .copy (.failed reason) => return .failed reason
  | .copy (.aborted reason) => return .aborted reason
  | _ =>
    modifyThe Blobs fun b =>
      if b.names.contains target then b else { b with names := b.names ++ [target] }
    return .success

/-- Lists names that start in a way. -/
def list (start : String) : Moving (List String) := do
  let _ ← call "list_blobs" [start] ""
  return (← getThe Blobs).names.filter (·.startsWith start)

/-- Starts to copy a blob. -/
def startCopy (source target : String) : Moving Migration.CopyState := do
  copied (← call "start_copy" [source, target] source) target

/-- The state of a copy. -/
def copyState (target : String) : Moving Migration.CopyState := do
  copied (← call "copy_state" [target] target) target

/-- Deletes a blob. -/
def delete (name : String) : Moving Unit := do
  let _ ← call "delete_blob" [name] name
  if (← getThe Blobs).names.contains name then
    modifyThe Blobs fun b => { b with names := b.names.filter (· != name) }
  else throw (.provider .azure "delete" name .notFound "not found")

/-- Waits; a cancellation ends the wait. -/
def pause (duration : Span) : StateT Blobs (StateM State) Bool := do
  let clock := (← getThe State).clock
  let wake : Span := ⟨clock.nanos + duration.nanos⟩
  let c := (← getThe Blobs).cancellation
  if c.holdsAt clock then return true
  else
    let cancelled := c.holdsAt wake
    let ends :=
      match c with
      | .atTime t => if cancelled then t else wake
      | _ => wake
    modifyThe State fun s => { s with clock := ends }
    return cancelled

/-- The answer to each call. -/
def answer : (c : Migration.Call) → StateT Blobs (StateM State) (Migration.interface.Answer c)
  | .list start => (list start).run
  | .startCopy source target => (startCopy source target).run
  | .copyState target => (copyState target).run
  | .delete name => (delete name).run
  | .isCancelled => do
    return (← getThe Blobs).cancellation.holdsAt (← getThe State).clock
  | .pause duration => pause duration
  | .now => return (← getThe State).clock

end Blobs

/-- The rehearsal of a migration: its outcome, and the blobs after it. -/
def runMigration (b : Blobs) (s : Migration.Settings) (source dest : String) :
    Trial (Except Error Migration.Report × Blobs) := do
  let p := (Migration.run s source dest).run Blobs.answer maxRounds
  let (outcome, b) ← ExceptT.lift (p.run b)
  match outcome with
  | some r => return (r, b)
  | none => throw (.internal "a loop takes too many rounds")

end Depot.Rehearsal
