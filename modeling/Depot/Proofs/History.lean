import Mathlib.Data.List.Induction
import Depot.Proofs.Observing

set_option autoImplicit false

/-!
# The history of a condition

What the conditions say after any number of observations, told from the observations: of every kind,
the last one gives the status, the reason and the message, and the time is that of the observation
which began the final run of observations with this status.

## Main definitions

* `Observation` — an observation of a kind of condition.
* `Status.recordAll` — observations recorded one after the other.
* `IsFinalRun` — the last observations that agree on the status, and what was before them.
* `Reflects` — conditions that say what was observed.

## Main results

* `Condition.observeAll_since` — the condition of one kind, after observations of this kind only.
* `Status.condition?_recordAll` — observations of other kinds between them do not matter.
* `Status.map_kind_recordAll` — which conditions there are, in which order.
* `Status.recordAll_reflects` — the conditions after any history.
-/

namespace Depot

/-- An observation of a kind of condition. -/
structure Observation where
  /-- What was observed. -/
  kind : Condition.Kind
  /-- Whether it holds. -/
  status : Condition.Status
  /-- The reason for programs. -/
  reason : String
  /-- The reason for people. -/
  message : String
  /-- When it was observed. -/
  time : Timestamp
  deriving Repr, DecidableEq

namespace Observation

/-- The observations of a kind. -/
def ofKind (kind : Condition.Kind) (os : List Observation) : List Observation :=
  os.filter (·.kind = kind)

/-- The condition that is new with an observation. -/
def condition (o : Observation) : Condition :=
  ⟨o.kind, o.status, o.reason, o.message, some o.time⟩

end Observation

namespace Condition

/-- The condition of a kind after another observation of this kind. -/
def next (c? : Option Condition) (o : Observation) : Condition :=
  c?.elim o.condition (·.observe o.status o.reason o.message o.time)

/-- The condition of a kind after observations of this kind. -/
def observeAll (c? : Option Condition) (os : List Observation) : Option Condition :=
  os.foldl (fun c? o => some (next c? o)) c?

end Condition

/-- Records observations, one after the other. -/
def Status.recordAll (s : Status) (os : List Observation) : Status :=
  os.foldl (fun s o => s.record o.kind o.status o.reason o.message o.time) s

/-- The final run of observations is the longest part at the end with one status: it begins with
the observation `first`, and `before` is what was observed before it. -/
structure IsFinalRun (os before : List Observation) (first : Observation)
    (rest : List Observation) : Prop where
  /-- The run is at the end. -/
  eq : os = before ++ first :: rest
  /-- It has one status. -/
  same : ∀ o ∈ rest, o.status = first.status
  /-- It cannot begin earlier. -/
  longest : ∀ o ∈ before.getLast?, o.status ≠ first.status

/-- What the state `final` has to say after observations, which were recorded from `initial` on. -/
structure Reflects (initial final : Status) (os : List Observation) : Prop where
  /-- The condition of a kind that was observed says what was observed last, and since when: since
  the first observation of the final run, or, if the status never changed, since when it said so
  initially. -/
  found : ∀ kind, Observation.ofKind kind os ≠ [] → ∃ c before first rest last,
    final.condition? kind = some c ∧
    (Observation.ofKind kind os).getLast? = some last ∧
    c.status = last.status ∧ c.reason = last.reason ∧ c.message = last.message ∧
    IsFinalRun (Observation.ofKind kind os) before first rest ∧
    c.lastTransition =
      if before = [] ∧ (initial.condition? kind).map (·.status) = some first.status
      then (initial.condition? kind).bind (·.lastTransition)
      else some first.time
  /-- The conditions of kinds that were not observed are as they were, in the same order. -/
  others : final.conditions.filter (fun c => c.kind ∉ os.map (·.kind)) =
    initial.conditions.filter (fun c => c.kind ∉ os.map (·.kind))
  /-- Every condition keeps its place, and new kinds come after them, in the order in which they
  were observed first. -/
  kinds : final.conditions.map (·.kind) = initial.conditions.map (·.kind) ++
    ((os.map (·.kind)).filter (· ∉ initial.conditions.map (·.kind))).eraseDups
  /-- No kind has more conditions than it had, if it had one. -/
  count_le : ∀ kind, (final.conditions.map (·.kind)).count kind ≤
    max 1 ((initial.conditions.map (·.kind)).count kind)
  /-- To repeat the last observation of a kind, at any time, changes nothing. -/
  repeated : ∀ before o after, os = before ++ o :: after → o.kind ∉ after.map (·.kind) →
    ∀ time, final.record o.kind o.status o.reason o.message time = final
  /-- The rest of the state is not touched. -/
  rest : final = { initial with conditions := final.conditions }

/-! ### One kind -/

/-- The last observation has the status of the final run. -/
lemma IsFinalRun.status_eq {os before rest : List Observation} {first last : Observation}
    (h : IsFinalRun os before first rest) (hlast : os.getLast? = some last) :
    last.status = first.status := by
  rw [h.eq, List.getLast?_append, List.getLast?_cons, Option.some_or, ← List.getLast?_cons] at hlast
  obtain rfl | hmem := List.mem_cons.1 (List.mem_of_getLast? hlast)
  · rfl
  · exact h.same last hmem

namespace Condition

variable {c? : Option Condition} {c : Condition} {os : List Observation} {o : Observation}

/-- The next condition has the status that was observed last. -/
@[simp]
lemma status_next : (next c? o).status = o.status := by
  cases c? <;> rfl

/-- The next condition has the reason that was observed last. -/
@[simp]
lemma reason_next : (next c? o).reason = o.reason := by
  cases c? <;> rfl

/-- The next condition has the message that was observed last. -/
@[simp]
lemma message_next : (next c? o).message = o.message := by
  cases c? <;> rfl

/-- The time moves with the status, and begins with the first observation. -/
lemma lastTransition_next : (next c? o).lastTransition =
    if c?.map (·.status) = some o.status then c?.bind (·.lastTransition) else some o.time := by
  cases c? with
  | none => exact (if_neg nofun).symm
  | some c => simp [next, observe]

/-- One more observation is taken last. -/
lemma observeAll_append_singleton :
    observeAll c? (os ++ [o]) = some (next (observeAll c? os) o) := by
  rw [observeAll, List.foldl_append]
  rfl

/-- **The condition of a kind, after observations of this kind**: it says what the last one says,
and since when.

**Proof sketch.** By induction on the observations, from the end. If one more has the status of the
final run, it makes the run longer and the time stays; if it has another one, it is a run of its
own, which begins at its time. -/
theorem observeAll_since (c? : Option Condition) (hos : os ≠ []) :
    ∃ c before first rest last, observeAll c? os = some c ∧ os.getLast? = some last ∧
      c.status = last.status ∧ c.reason = last.reason ∧ c.message = last.message ∧
      IsFinalRun os before first rest ∧
      c.lastTransition =
        if before = [] ∧ c?.map (·.status) = some first.status
        then c?.bind (·.lastTransition) else some first.time := by
  induction os using List.reverseRecOn with
  | nil => exact absurd rfl hos
  | append_singleton os o ih =>
    by_cases hnil : os = []
    · subst hnil
      refine ⟨next c? o, [], o, [], o, rfl, rfl, status_next, reason_next, message_next,
        ⟨rfl, nofun, nofun⟩, ?_⟩
      simpa using lastTransition_next
    · obtain ⟨c, before, first, rest, last, hc, hlast, hstatus, -, -, hrun, htime⟩ := ih hnil
      have hsame : c.status = first.status := hstatus.trans (hrun.status_eq hlast)
      have hnext : (next (some c) o).lastTransition =
          if c.status = o.status then c.lastTransition else some o.time := rfl
      have hfound : observeAll c? (os ++ [o]) = some (next (some c) o) := by
        rw [observeAll_append_singleton, hc]
      by_cases ho : o.status = first.status
      · refine ⟨next (some c) o, before, first, rest ++ [o], o, hfound, List.getLast?_concat,
          status_next, reason_next, message_next, ⟨?_, ?_, hrun.longest⟩, ?_⟩
        · rw [hrun.eq, List.append_assoc, List.cons_append]
        · exact List.forall_mem_append.2 ⟨hrun.same, List.forall_mem_singleton.2 ho⟩
        · rw [hnext, if_pos (hsame.trans ho.symm), htime]
      · refine ⟨next (some c) o, os, o, [], o, hfound, List.getLast?_concat,
          status_next, reason_next, message_next, ⟨rfl, nofun, ?_⟩, ?_⟩
        · intro l hl
          obtain rfl : last = l := Option.some.inj (hlast.symm.trans hl)
          rw [← hstatus, hsame]
          exact Ne.symm ho
        · rw [hnext, if_neg (fun h => ho (h.symm.trans hsame)), if_neg (fun h => hnil h.1)]

end Condition

/-! ### All kinds -/

namespace Condition

variable {kind : Kind} {status : Status} {reason message : String} {now : Timestamp}
  {cs : List Condition}

/-- What is there keeps its place, and a condition of a new kind is added at the end.

**Proof sketch.** By induction on the conditions, as `upsert` goes through them. -/
lemma map_kind_upsert : (upsert kind status reason message now cs).map (·.kind) =
    if kind ∈ cs.map (·.kind) then cs.map (·.kind) else cs.map (·.kind) ++ [kind] := by
  induction cs with
  | nil => rfl
  | cons c rest ih =>
    rw [upsert]
    split
    · rename_i hc
      rw [if_pos (hc ▸ List.mem_cons_self)]
      rfl
    · rename_i hc
      rw [List.map_cons, ih, List.map_cons]
      simp only [List.mem_cons, Ne.symm hc, false_or]
      split <;> rfl

/-- An observation of what is known already changes nothing. -/
lemma upsert_of_find? {c : Condition} (now : Timestamp) (hc : find? kind cs = some c) :
    upsert kind c.status c.reason c.message now cs = cs := by
  induction cs with
  | nil => cases hc
  | cons d rest ih =>
    rw [upsert]
    split
    · rename_i hd
      obtain rfl : d = c := Option.some.inj ((find?_cons_of_eq hd).symm.trans hc)
      simp [observe]
    · rename_i hd
      rw [ih ((find?_cons_of_ne hd).symm.trans hc)]

end Condition

namespace Status

variable {s : Status} {os : List Observation} {o : Observation} {kind : Condition.Kind}

/-- Observations are recorded from the first one on. -/
lemma recordAll_cons : s.recordAll (o :: os) =
    (s.record o.kind o.status o.reason o.message o.time).recordAll os := rfl

/-- Observations are recorded one part after the other. -/
lemma recordAll_append {ps : List Observation} :
    s.recordAll (os ++ ps) = (s.recordAll os).recordAll ps := List.foldl_append

/-- The condition of the kind after one more observation. -/
lemma condition?_record_kind :
    (s.record o.kind o.status o.reason o.message o.time).condition? o.kind =
      some (Condition.next (s.condition? o.kind) o) := Condition.find?_upsert_self

/-- The condition of a kind follows from the observations of this kind.

**Proof sketch.** By induction on the observations: one of another kind leaves the condition, and
one of the kind is the next in its history. -/
theorem condition?_recordAll : (s.recordAll os).condition? kind =
    Condition.observeAll (s.condition? kind) (Observation.ofKind kind os) := by
  induction os generalizing s with
  | nil => rfl
  | cons o os ih =>
    rw [recordAll_cons, ih, Observation.ofKind, Observation.ofKind, List.filter_cons]
    split
    · rename_i ho
      obtain rfl : o.kind = kind := of_decide_eq_true ho
      rw [condition?_record_kind]
      rfl
    · rename_i ho
      rw [condition?_record_of_ne (mt decide_eq_true ho)]

/-- Conditions of kinds that are not observed stay as they are. -/
lemma filter_recordAll {p : Condition → Bool}
    (hp : ∀ c : Condition, c.kind ∈ os.map (·.kind) → ¬ p c) :
    (s.recordAll os).conditions.filter p = s.conditions.filter p := by
  induction os generalizing s with
  | nil => rfl
  | cons o os ih =>
    rw [recordAll_cons, ih fun c hc => hp c (List.mem_cons_of_mem _ hc)]
    exact Condition.filter_upsert fun c hc => hp c (hc ▸ List.mem_cons_self)

/-- After the last observation of a kind, its condition stays as it is. -/
lemma condition?_recordAll_of_notMem (s : Status) (before : List Observation)
    {after : List Observation} (ho : o.kind ∉ after.map (·.kind)) :
    (s.recordAll (before ++ o :: after)).condition? o.kind =
      some (Condition.next ((s.recordAll before).condition? o.kind) o) := by
  rw [recordAll_append, recordAll_cons, ← condition?_record_kind]
  refine Condition.find?_congr (filter_recordAll fun c hc hkind => ho ?_)
  rwa [← of_decide_eq_true hkind]

/-- Which conditions there are, in which order.

**Proof sketch.** By induction on the observations: the kind of the first one is there, and counts
no more among the new ones, or it is the first of them. -/
theorem map_kind_recordAll : (s.recordAll os).conditions.map (·.kind) =
    s.conditions.map (·.kind) ++
      ((os.map (·.kind)).filter (· ∉ s.conditions.map (·.kind))).eraseDups := by
  induction os generalizing s with
  | nil => simp [recordAll]
  | cons o os ih =>
    rw [recordAll_cons, ih, record, Condition.map_kind_upsert, List.map_cons, List.filter_cons]
    by_cases ho : o.kind ∈ s.conditions.map (·.kind)
    · rw [if_pos ho, if_neg (by simpa using ho)]
    · rw [if_neg ho, if_pos (by simpa using ho), List.eraseDups_cons, List.filter_filter,
        List.append_assoc, List.singleton_append]
      congr 3
      refine List.filter_congr fun k _ => ?_
      rw [Bool.eq_iff_iff]
      simp [not_or, and_comm]

/-- A kind has at most one condition that it did not have.

**Proof sketch.** By induction on the observations: one of them adds its kind only where there was
none. -/
lemma count_kind_recordAll_le : ((s.recordAll os).conditions.map (·.kind)).count kind ≤
    max 1 ((s.conditions.map (·.kind)).count kind) := by
  induction os generalizing s with
  | nil => exact Nat.le_max_right ..
  | cons o os ih =>
    refine Nat.le_trans ih (Nat.max_le.2 ⟨Nat.le_max_left .., ?_⟩)
    rw [show (s.record o.kind o.status o.reason o.message o.time).conditions.map (·.kind) = _
      from Condition.map_kind_upsert]
    split
    · exact Nat.le_max_right ..
    · rename_i ho
      rw [List.count_append, List.count_singleton]
      split
      · rename_i hkind
        rw [← eq_of_beq hkind, List.count_eq_zero_of_not_mem ho]
        exact Nat.le_max_left ..
      · exact Nat.le_max_right ..

/-- **The conditions reflect the history.** Take any conditions, with several of a kind or not, and
any observations. Once they are recorded, the condition of every kind that was observed says what
was observed last, and since when; all others are as they were, new kinds come last, in the order in
which they were observed, and no kind has several conditions that it did not have. To repeat an
observation changes nothing.

**Proof sketch.** Only the observations of a kind matter for its condition (`condition?_recordAll`),
and about these the claim is `Condition.observeAll_since`. The others are induction on the history,
with what one observation leaves. -/
theorem recordAll_reflects (initial : Status) (os : List Observation) :
    Reflects initial (initial.recordAll os) os where
  found kind hkind := by
    rw [condition?_recordAll]
    exact Condition.observeAll_since _ hkind
  others := filter_recordAll fun c hc hother => of_decide_eq_true hother hc
  kinds := map_kind_recordAll
  count_le _ := count_kind_recordAll_le
  repeated := by
    rintro before o after rfl ho time
    have hfound := condition?_recordAll_of_notMem initial before ho
    have hupsert := Condition.upsert_of_find? time hfound
    rw [Condition.status_next, Condition.reason_next, Condition.message_next] at hupsert
    rw [record, hupsert]
  rest := by
    induction os generalizing initial with
    | nil => rfl
    | cons o os ih => exact ih _

end Status

end Depot
