import Depot.Dict
import Depot.Prog

set_option autoImplicit false

/-!
# Moving blobs

All blobs of a container whose names start in one way are moved to names that start in another
way: they are copied, copies that take time are awaited, and only then the blobs that are known to
be copied are deleted. A blob that cannot be moved does not keep the others from being moved, and
moving can be repeated.

## Main definitions

* `Migration.targetName` — the new name of a blob.
* `Migration.Call`, `Migration.interface` — what moving asks of the container and the clock.
* `Migration.run` — moves the blobs.
* `Migration.Report` — what was moved and what was not.
-/

namespace Depot.Migration

/-- The rest of a text after its beginning. -/
def afterStart? : List Char → List Char → Option (List Char)
  | [], cs => some cs
  | _ :: _, [] => none
  | s :: start, c :: cs => if s = c then afterStart? start cs else none

/-- The new name of a blob: the beginning is replaced. A name that starts otherwise follows the new
beginning as it is. -/
def targetName (name source dest : String) : String :=
  match afterStart? source.toList name.toList with
  | some rest => dest ++ String.ofList rest
  | none => dest ++ name

/-! ## The container -/

/-- The state of a copy. -/
inductive CopyState where
  /-- The copy is complete. -/
  | success
  /-- The copy goes on. -/
  | pending
  /-- The copy failed. -/
  | failed (reason : String)
  /-- The copy was stopped. -/
  | aborted (reason : String)
  deriving Repr, DecidableEq, Inhabited

/-- What moving asks of the container and the clock. -/
inductive Call where
  /-- The names that start in a way. -/
  | list (start : String)
  /-- Starts to copy a blob. -/
  | startCopy (source target : String)
  /-- The state of the copy that made a blob. -/
  | copyState (target : String)
  /-- Deletes a blob. -/
  | delete (name : String)
  /-- Was moving cancelled? -/
  | isCancelled
  /-- Waits; answers whether moving was cancelled meanwhile, which ends the wait. -/
  | pause (duration : Span)
  /-- The time since some moment in the past. -/
  | now
  deriving Repr, DecidableEq, Inhabited

/-- The calls and their answers. -/
def interface : Interface where
  Call := Call
  Answer
    | .list _ => Except Error (List String)
    | .startCopy _ _ => Except Error CopyState
    | .copyState _ => Except Error CopyState
    | .delete _ => Except Error Unit
    | .isCancelled => Bool
    | .pause _ => Bool
    | .now => Span

/-! ## Settings and progress -/

/-- How copies that take time are awaited. -/
structure Settings where
  /-- The time between two looks. -/
  pollInterval : Span := .ofMillis 100
  /-- The time after which the wait for a copy ends. -/
  copyDeadline : Span := .ofSeconds 600
  /-- How many looks in a row may fail. -/
  maxPollErrors : Nat := 5
  deriving Repr, DecidableEq, Inhabited

/-- What was done so far. -/
structure Progress where
  /-- The blobs that are known to be copied. -/
  copied : List String := []
  /-- The blobs whose copies go on, by the new names. -/
  pending : Dict String := .empty
  /-- The blobs that were moved. -/
  moved : List String := []
  /-- The blobs that were not. -/
  failures : List Failure := []

/-- What was moved and what was not. -/
structure Report where
  /-- The blobs that were moved. -/
  moved : List String
  /-- The blobs that were not. -/
  failures : List Failure
  deriving Repr, DecidableEq, Inhabited

/-- The blobs that were moved, if all were. -/
def Report.result (r : Report) : Except Error (List String) :=
  (Error.ofFailures r.failures).map fun _ => r.moved

/-- A part of moving. -/
abbrev Moving (α : Type) := Action interface Progress α

/-- A call. -/
def ask (c : Call) : Moving (interface.Answer c) :=
  Action.perform (Prog.perform (I := interface) c)

/-- A call that may fail. -/
def list (start : String) : Moving (List String) :=
  Action.attempt (Prog.perform (I := interface) (.list start))

/-- Was moving cancelled? -/
def isCancelled : Moving Bool := ask .isCancelled

/-- Waits; answers whether moving was cancelled meanwhile. -/
def pause (duration : Span) : Moving Bool := ask (.pause duration)

/-- Stops if moving was cancelled. -/
def checkCancelled : Moving Unit := do
  if ← isCancelled then throw (.cancelled "blob migration")

/-- Records a blob that was not moved. -/
def recordFailure (operation name : String) (e : Error) : Moving Unit :=
  modify fun p => { p with failures := p.failures ++ [Failure.ofError operation name e] }

/-- The error of a copy that did not complete. -/
def incomplete (target reason : String) : Error :=
  .internal ("copy to " ++ target ++ " did not complete: " ++ reason)

/-- Records a blob that is known to be copied. -/
def recordCopied (name : String) : Moving Unit :=
  modify fun p => { p with copied := p.copied ++ [name] }

/-! ## Copying -/

/-- Starts to copy a blob. -/
def copy (source dest name : String) : Moving Unit := do
  checkCancelled
  let target := targetName name source dest
  match ← ask (.startCopy name target) with
  | .ok .success => recordCopied name
  | .ok .pending => modify fun p => { p with pending := p.pending.insert target name }
  | .ok (.failed reason) | .ok (.aborted reason) =>
    recordFailure "copy" name (incomplete target reason)
  | .error e => recordFailure "copy" name e

/-- Ends the wait for a copy if its time is over, or goes on with a number of failed looks. -/
def continueWait (s : Settings) (target : String) (deadline errors : Nat) :
    Moving (Nat ⊕ Unit) := do
  if deadline ≤ (← ask .now).nanos then
    throw (.timeout ("copy to " ++ target) s.copyDeadline)
  else return .inl errors

/-- One look at a copy, after `errors` looks in a row that failed. -/
def look (s : Settings) (target : String) (deadline errors : Nat) : Moving (Nat ⊕ Unit) := do
  if ← pause s.pollInterval then throw (.cancelled ("copy of " ++ target))
  match ← ask (.copyState target) with
  | .ok .success => return .inr ()
  | .ok .pending => continueWait s target deadline 0
  | .ok (.failed reason) | .ok (.aborted reason) => throw (incomplete target reason)
  | .error e =>
    if s.maxPollErrors < errors + 1 then throw e
    else continueWait s target deadline (errors + 1)

/-- Waits for a copy. -/
def awaitCopy (s : Settings) (target : String) : Moving Unit := do
  let deadline := (← ask .now).nanos + s.copyDeadline.nanos
  Action.loop (look s target deadline) 0

/-- Waits for the copy of a blob and records the outcome. -/
def settle (s : Settings) (target name : String) : Moving Unit := do
  match ← Action.outcome (awaitCopy s target) with
  | .ok () => recordCopied name
  | .error (.cancelled what) => throw (.cancelled what)
  | .error e => recordFailure "copy" name e

/-! ## Deleting -/

/-- Records a blob that was moved. -/
def recordMoved (name : String) : Moving Unit :=
  modify fun p => { p with moved := p.moved ++ [name] }

/-- Deletes a blob that is known to be copied; one that is gone already counts as deleted. -/
def delete (name : String) : Moving Unit := do
  checkCancelled
  match ← ask (.delete name) with
  | .ok () => recordMoved name
  | .error e => if e.isNotFound then recordMoved name else recordFailure "delete" name e

/-! ## Moving -/

/-- Moves the blobs whose names start with `source`. -/
def moveAll (s : Settings) (source dest : String) : Moving Report := do
  if source = dest then
    throw (.configuration ("source and destination prefixes are both " ++ Text.quoted source))
  (← list source).forM (copy source dest)
  (← get).pending.entries.forM fun (target, name) => settle s target name
  (← get).copied.forM delete
  let p ← get
  return { moved := p.moved, failures := p.failures }

/-- Moves the blobs whose names start with `source` to names that start with `dest`. -/
def run (s : Settings) (source dest : String) : Prog interface (Except Error Report) :=
  ((moveAll s source dest).start {}).bind fun r => .pure r.1

end Depot.Migration
