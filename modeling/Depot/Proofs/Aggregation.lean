import Depot.Error
import Mathlib.Tactic.Lemma

set_option autoImplicit false

/-!
# Failures of failures

An item of an operation over many may fail because it is itself an operation over many, some items
of which failed. Whether another attempt is worth while is written down when a failure is recorded,
so with failures inside failures it is written down again at every level. Nothing of it is lost: an
error is worth another attempt if and only if one of the errors at the bottom is.

## Main definitions

* `Failed` — an item that failed, with the items of its own that did.
* `Failed.recordAll` — the records of items that failed, made one after the other.
* `Failed.leavesOf` — the errors at the bottom.

## Main results

* `Failed.isRetryable_error` — the error of one item.
* `Failed.retryable_throughout` — the error of an operation, what to do about it, and its outcome.
-/

namespace Depot

/-- One more failed item is recorded. -/
def Failure.record (failures : List Failure) (operation resource : String) (e : Error) :
    List Failure :=
  failures ++ [Failure.ofError operation resource e]

/-- An item of an operation over many that failed. -/
inductive Failed where
  /-- It failed with an error of its own, which may be any. -/
  | alone (operation resource : String) (e : Error)
  /-- It is an operation over many itself, and some of its items failed; maybe none did. -/
  | within (operation resource : String) (items : List Failed)

namespace Failed

/-- What was attempted. -/
def operation : Failed → String
  | .alone operation _ _ | .within operation _ _ => operation

/-- The item. -/
def resource : Failed → String
  | .alone _ resource _ | .within _ resource _ => resource

mutual

/-- The error of an item. -/
def error : Failed → Error
  | .alone _ _ e => e
  | .within _ _ items => .aggregate (recordAll [] items)

/-- The records of items that failed, after other records. -/
def recordAll (failures : List Failure) : List Failed → List Failure
  | [] => failures
  | item :: rest =>
    recordAll (Failure.record failures item.operation item.resource item.error) rest

end

mutual

/-- The errors at the bottom of an item. -/
def leaves : Failed → List Error
  | .alone _ _ e => [e]
  | .within _ _ items => leavesOf items

/-- The errors at the bottom of several items. -/
def leavesOf : List Failed → List Error
  | [] => []
  | item :: rest => item.leaves ++ leavesOf rest

end

/-- The record of an item. -/
def failure (item : Failed) : Failure :=
  Failure.ofError item.operation item.resource item.error

/-- Every item has its record, in order. -/
lemma recordAll_eq (failures : List Failure) (items : List Failed) :
    recordAll failures items = failures ++ items.map failure := by
  induction items generalizing failures with
  | nil => rw [recordAll, List.map_nil, List.append_nil]
  | cons item rest ih =>
    rw [recordAll, ih, Failure.record, List.append_assoc]
    rfl

/-- A record says whether another attempt is worth while, as the error does. -/
lemma exists_retryable_iff (items : List Failed) :
    (∃ f ∈ recordAll [] items, f.retryable) ↔ ∃ item ∈ items, item.error.isRetryable := by
  rw [recordAll_eq, List.nil_append]
  constructor
  · rintro ⟨f, hf, hr⟩
    obtain ⟨item, hitem, rfl⟩ := List.mem_map.1 hf
    exact ⟨item, hitem, hr⟩
  · rintro ⟨item, hitem, hr⟩
    exact ⟨item.failure, List.mem_map_of_mem hitem, hr⟩

/-- One of the errors at the bottom of several items is at the bottom of one of them. -/
lemma exists_mem_leavesOf {p : Error → Prop} (items : List Failed) :
    (∃ e ∈ leavesOf items, p e) ↔ ∃ item ∈ items, ∃ e ∈ item.leaves, p e := by
  induction items with
  | nil => simp [leavesOf]
  | cons item rest ih =>
    simp only [leavesOf, List.mem_append, List.mem_cons, or_and_right, exists_or, ih,
      exists_eq_left]

/-- **The error of an item is worth another attempt** if and only if one of the errors at the bottom
is. -/
theorem isRetryable_error : (item : Failed) →
    (item.error.isRetryable ↔ ∃ e ∈ item.leaves, e.isRetryable)
  | .alone _ _ e => by simp [error, leaves]
  | .within _ _ items => by
    rw [error, leaves, Error.isRetryable_aggregate, exists_retryable_iff, exists_mem_leavesOf]
    exact exists_congr fun item => and_congr_right fun _ => isRetryable_error item

/-- **Retryability survives at any depth.** Take any items that failed, each with an error of its
own or because items of its own did, and so on. The error of all of them is worth another attempt if
and only if one of the errors at the bottom is; it is then tried again with growing delays, and
otherwise never. The operation succeeds just if no item failed, and otherwise fails with that error.

**Proof sketch.** The record of an item says what its error says, and an error of several items says
what one of the records says. So the errors at the bottom decide, by induction on the nesting
(`isRetryable_error`). -/
theorem retryable_throughout (items : List Failed) :
    ((Error.aggregate (recordAll [] items)).isRetryable ↔
        ∃ e ∈ leavesOf items, e.isRetryable) ∧
      (Error.aggregate (recordAll [] items)).retry =
        (if ∃ e ∈ leavesOf items, e.isRetryable then .withBackoff else .never) ∧
      (Error.ofFailures (recordAll [] items) = .ok () ↔ items = []) ∧
      ∀ e, Error.ofFailures (recordAll [] items) = .error e ↔
        items ≠ [] ∧ e = .aggregate (recordAll [] items) := by
  have hleaves : (∃ f ∈ recordAll [] items, f.retryable) ↔
      ∃ e ∈ leavesOf items, e.isRetryable := by
    rw [exists_retryable_iff, exists_mem_leavesOf]
    simp only [isRetryable_error]
  have hempty : Error.ofFailures (recordAll [] items) = .ok () ↔ items = [] := by
    rw [Error.ofFailures_eq_ok, recordAll_eq, List.nil_append, List.map_eq_nil_iff]
  refine ⟨Error.isRetryable_aggregate.trans hleaves, ?_, hempty, fun e => ?_⟩
  · exact ite_congr (propext (List.any_eq_true.trans hleaves)) (fun _ => rfl) fun _ => rfl
  · by_cases hitems : items = []
    · subst hitems
      exact iff_of_false nofun fun h => h.1 rfl
    · rw [Error.ofFailures_of_ne (mt hempty.1 hitems), Except.error.injEq, eq_comm,
        and_iff_right hitems]

/-- One error in the depth that may pass is enough. -/
example : (Error.aggregate (recordAll [] [.alone "bind" "a" .notConfigured,
    .within "move" "b" [.within "copy" "c" [], .alone "copy" "d" (.io "busy")]])).isRetryable := by
  decide

end Failed

end Depot
