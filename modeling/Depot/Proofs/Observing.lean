import Depot.Registry
import Mathlib.Tactic.Lemma

set_option autoImplicit false

/-!
# Recording what was observed

An observation updates the condition of its kind, or adds it, and leaves the conditions of other
kinds as they are, in the order that they have.

## Main results

* `Condition.find?_upsert_self` — the condition of the kind after an observation.
* `Condition.filter_upsert` — conditions that are not of the kind.
* `Status.condition?_record_of_ne` — the condition of another kind.
-/

namespace Depot

namespace Condition

variable {kind other : Kind} {status : Status} {reason message : String} {now : Timestamp}
  {cs : List Condition}

/-- A condition of the kind that comes first is the one that is found. -/
lemma find?_cons_of_eq {c : Condition} (h : c.kind = kind) : find? kind (c :: cs) = some c :=
  List.find?_cons_of_pos (decide_eq_true h)

/-- A condition of another kind is passed over. -/
lemma find?_cons_of_ne {c : Condition} (h : c.kind ≠ kind) :
    find? kind (c :: cs) = find? kind cs :=
  List.find?_cons_of_neg (mt of_decide_eq_true h)

/-- The condition of a kind is known from all conditions of that kind. -/
lemma find?_congr {ds : List Condition}
    (h : ds.filter (·.kind = kind) = cs.filter (·.kind = kind)) :
    find? kind ds = find? kind cs := by
  rw [find?, find?, ← List.head?_filter, ← List.head?_filter, h]

/-- The condition of the kind: the one that was there after another observation, or a new one.

**Proof sketch.** By induction on the conditions, as `upsert` goes through them. -/
theorem find?_upsert_self : find? kind (upsert kind status reason message now cs) =
    some ((find? kind cs).elim ⟨kind, status, reason, message, some now⟩
      (·.observe status reason message now)) := by
  induction cs with
  | nil => exact find?_cons_of_eq rfl
  | cons c rest ih =>
    rw [upsert]
    split
    · rename_i hc
      rw [find?_cons_of_eq (c := c) hc]
      exact find?_cons_of_eq hc
    · rename_i hc
      rw [find?_cons_of_ne hc, find?_cons_of_ne hc, ih]

/-- Conditions among which there are none of the kind stay as they are.

**Proof sketch.** By induction on the conditions; the one that is observed is filtered out before
and after. -/
theorem filter_upsert {p : Condition → Bool} (hp : ∀ c : Condition, c.kind = kind → ¬ p c) :
    (upsert kind status reason message now cs).filter p = cs.filter p := by
  induction cs with
  | nil => exact List.filter_cons_of_neg (hp _ rfl)
  | cons c rest ih =>
    rw [upsert]
    split
    · rename_i hc
      have hobserved : (c.observe status reason message now).kind = kind := hc
      rw [List.filter_cons_of_neg (hp c hc), List.filter_cons_of_neg (hp _ hobserved)]
    · rw [List.filter_cons, List.filter_cons, ih]

/-- The condition of another kind stays as it is. -/
lemma find?_upsert_of_ne (h : kind ≠ other) :
    find? other (upsert kind status reason message now cs) = find? other cs :=
  find?_congr (filter_upsert fun _ hc hother => h (hc ▸ of_decide_eq_true hother))

end Condition

namespace Status

variable {s : Status} {kind other : Condition.Kind} {status : Condition.Status}
  {reason message : String} {now : Timestamp}

/-- The condition of the kind says what was observed. -/
lemma condition?_record :
    ∃ c, (s.record kind status reason message now).condition? kind = some c ∧
      c.status = status ∧ c.reason = reason ∧ c.message = message := by
  refine ⟨_, Condition.find?_upsert_self, ?_⟩
  cases Condition.find? kind s.conditions <;> exact ⟨rfl, rfl, rfl⟩

/-- The condition that was observed. -/
lemma condition?_record_self :
    ∃ c, (s.record kind status reason message now).condition? kind = some c ∧
      c.status = status ∧ c.reason = reason :=
  condition?_record.imp fun _ h => ⟨h.1, h.2.1, h.2.2.1⟩

/-- The condition of another kind stays as it is. -/
theorem condition?_record_of_ne (h : kind ≠ other) :
    (s.record kind status reason message now).condition? other = s.condition? other :=
  Condition.find?_upsert_of_ne h

end Status

end Depot
