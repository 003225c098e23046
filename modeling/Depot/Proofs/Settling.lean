import Depot.Migration
import Depot.Proofs.Completion
import Depot.Proofs.Polling

set_option autoImplicit false

/-!
# Until a copy settles

A copy that takes time is looked at at regular times, the first time after a pause. Looks that fail
are put up with as long as not too many of them stand in a row. The time that is allowed is checked
after each look that does not settle the matter, so there is always one look at least, and the last
one may come later than the deadline.

## Main definitions

* `Migration.InRow` — too many looks in a row failed.
* `Migration.polling` — the contract of looks at a copy that are answered as given, on a clock that
  only pauses move. Nobody cancels.
* `Migration.Awaited` — when the looks are made, and how they end.

## Main results

* `Migration.lt_failures_iff` — what the number of failures in a row says.
* `Migration.awaits_regularly` — how the wait for a copy goes on and ends, for all answers.
-/

namespace Depot.Migration

variable {s : Settings} {target : String} {answers : Nat → Except Error CopyState} {p : Progress}
  {now m n : Nat}

/-! ## Failures in a row -/

/-- How many of the looks just before a look failed. -/
def failures (answers : Nat → Except Error CopyState) : Nat → Nat
  | 0 => 0
  | n + 1 =>
    match answers n with
    | .error _ => failures answers n + 1
    | .ok _ => 0

/-- A look failed, and so did the `m` looks before it. -/
def InRow (answers : Nat → Except Error CopyState) (m n : Nat) : Prop :=
  m ≤ n ∧ ∀ j ≤ n, n ≤ j + m → ∃ e, answers j = .error e

/-- More than no failures in a row is one failure. -/
lemma inRow_zero_iff : InRow answers 0 n ↔ ∃ e, answers n = .error e := by
  constructor
  · exact fun h => h.2 n (Nat.le_refl _) (Nat.le_refl _)
  · rintro herror
    refine ⟨Nat.zero_le _, fun j hj hn => ?_⟩
    rwa [Nat.le_antisymm hj hn]

/-- One more failure in a row: a look fails, and there were as many before it. -/
lemma inRow_succ_iff :
    InRow answers (m + 1) (n + 1) ↔ (∃ e, answers (n + 1) = .error e) ∧ InRow answers m n := by
  constructor
  · rintro ⟨hm, hall⟩
    exact ⟨hall (n + 1) (Nat.le_refl _) (by omega), Nat.le_of_succ_le_succ hm,
      fun j hj hn => hall j (by omega) (by omega)⟩
  · rintro ⟨herror, hm, hall⟩
    refine ⟨Nat.succ_le_succ hm, fun j hj hn => ?_⟩
    rcases Nat.lt_succ_iff_lt_or_eq.1 (Nat.lt_succ_of_le hj) with hlt | rfl
    · exact hall j (Nat.le_of_lt_succ hlt) (by omega)
    · exact herror

/-- **The failures in a row** are too many with a look that fails after enough of them.

**Proof sketch.** By induction on the looks: the count goes on over a failure and begins again over
an answer, and so does the row. -/
theorem lt_failures_iff {e : Error} (he : answers n = .error e) :
    m < failures answers n + 1 ↔ InRow answers m n := by
  induction n generalizing m e with
  | zero =>
    rw [failures]
    constructor
    · intro hm
      obtain rfl := Nat.lt_one_iff.1 hm
      exact inRow_zero_iff.2 ⟨e, he⟩
    · exact fun h => Nat.lt_succ_of_le h.1
  | succ n ih =>
    cases m with
    | zero => exact iff_of_true (Nat.succ_pos _) (inRow_zero_iff.2 ⟨e, he⟩)
    | succ m =>
      rw [inRow_succ_iff, failures, Nat.succ_lt_succ_iff]
      cases hbefore : answers n with
      | error f =>
        rw [ih hbefore]
        exact (and_iff_right ⟨e, he⟩).symm
      | ok x =>
        refine iff_of_false (Nat.not_lt_zero _) ?_
        rintro ⟨-, -, hall⟩
        obtain ⟨f, hf⟩ := hall n (Nat.le_refl _) (by omega)
        cases hbefore.symm.trans hf

/-! ## Looks and pauses -/

/-- What a look at a copy says: whether the wait is over, and how. -/
def outcome (s : Settings) (target : String) (answers : Nat → Except Error CopyState) (n : Nat) :
    Option (Except Error Unit) :=
  match answers n with
  | .ok .success => some (.ok ())
  | .ok .pending => none
  | .ok (.failed reason) | .ok (.aborted reason) => some (.error (incomplete target reason))
  | .error e => if s.maxPollErrors < failures answers n + 1 then some (.error e) else none

/-- The contract of looks at a copy that are answered as given, one after the other, on a clock that
only pauses move. Nobody cancels, and nothing else is done. -/
def polling (target : String) (answers : Nat → Except Error CopyState) :
    Contract interface Watch where
  permits _ c :=
    match c with
    | .copyState other => other = target
    | .now | .pause _ => True
    | _ => False
  step g c x g' :=
    match c with
    | .copyState _ => x = answers g.looks.length ∧ g' = g.look
    | .now => (x : Span).nanos = g.now ∧ g' = g
    | .pause d => x = false ∧ g' = g.sleep d
    | _ => False

/-- What may be asked can be answered. -/
lemma polling_answers (g : Watch) (c : Call) (hc : (polling target answers).permits g c) :
    ∃ x g', (polling target answers).step g c x g' := by
  cases c with
  | copyState => exact ⟨answers g.looks.length, g.look, rfl, rfl⟩
  | now => exact ⟨(⟨g.now⟩ : Span), g, rfl, rfl⟩
  | pause d => exact ⟨false, g.sleep d, rfl, rfl⟩
  | _ => exact hc.elim

/-- How many looks there may be: the first that is not before the deadline is the last one. -/
def Settings.maxLooks (s : Settings) : Nat :=
  max 1 ((s.copyDeadline.nanos + s.pollInterval.nanos - 1) / s.pollInterval.nanos)

/-- At least one look is made. -/
lemma Settings.maxLooks_pos : 0 < s.maxLooks := Nat.le_max_left ..

/-- The time is over with a look if no more looks are allowed. -/
lemma Settings.maxLooks_le_iff (hi : 0 < s.pollInterval.nanos) :
    s.maxLooks ≤ n + 1 ↔ s.copyDeadline.nanos ≤ (n + 1) * s.pollInterval.nanos := by
  have hone : 1 ≤ n + 1 := Nat.succ_pos n
  rw [maxLooks, Nat.max_le, and_iff_right hone, pauses_le_iff hi]

/-- The error of a wait for which there is no more time. -/
def overdue (s : Settings) (target : String) : Error :=
  .timeout ("copy to " ++ target) s.copyDeadline

/-- After a look that does not settle the matter the wait goes on if another look is allowed.

**Proof sketch.** The clock shows the regular time, so the deadline is reached exactly with the last
look. -/
lemma ends_continueWait {Q : Except Error (Nat ⊕ Unit) → Progress → Watch → Prop} {errors : Nat}
    (hi : 0 < s.pollInterval.nanos) (hn : n < s.maxLooks)
    (hlate : n + 1 = s.maxLooks →
      Q (.error (overdue s target)) p (Watch.regular now s.pollInterval.nanos 1 (n + 1) (n + 1)))
    (hagain : n + 1 < s.maxLooks →
      Q (.ok (.inl errors)) p (Watch.regular now s.pollInterval.nanos 1 (n + 1) (n + 1))) :
    Action.Ends (polling target answers)
      (continueWait s target (now + s.copyDeadline.nanos) errors) p
      (Watch.regular now s.pollInterval.nanos 1 (n + 1) (n + 1)) Q := by
  refine Action.ends_call trivial ?_
  rintro (time : Span) _ ⟨htime, rfl⟩
  have htime : time.nanos = now + (n + 1) * s.pollInterval.nanos := htime
  have hiff : now + s.copyDeadline.nanos ≤ time.nanos ↔ s.maxLooks ≤ n + 1 := by
    rw [htime, Nat.add_le_add_iff_left, Settings.maxLooks_le_iff hi]
  split
  · rename_i hle
    exact hlate (Nat.le_antisymm hn (hiff.1 hle))
  · rename_i hlt
    exact hagain (Nat.not_le.1 fun hle => hlt (hiff.2 hle))

/-- **The looks at a copy** end with the first one that settles the matter, or when no more are
allowed.

**Proof sketch.** Before each look there were as many pauses as looks, none of the looks settled the
matter, and the failures in a row were counted. A look that does not settle it either counts as a
failure or starts the count again, and leaves fewer of those that are allowed. -/
lemma ends_awaitCopy_regularly (hi : 0 < s.pollInterval.nanos) :
    Action.Ends (polling target answers) (awaitCopy s target) p (Watch.start now)
      fun r q g => q = p ∧ Over (outcome s target answers) s.maxLooks (.error (overdue s target))
        now s.pollInterval.nanos 1 r g := by
  refine Action.ends_call trivial ?_
  rintro (start : Span) _ ⟨hstart, rfl⟩
  have hstart : start.nanos = now := hstart
  subst hstart
  refine Action.ends_loop_of_lt
    (fun errors q g => q = p ∧ ∃ n, errors = failures answers n ∧
      Going (outcome s target answers) s.maxLooks start.nanos s.pollInterval.nanos 1 n g)
    (fun _ g => s.maxLooks - g.looks.length) ⟨rfl, 0, rfl, .begin s.maxLooks_pos⟩ ?_
  rintro _ q g ⟨rfl, n, rfl, hgoing⟩
  refine Action.ends_call trivial ?_
  rintro _ _ ⟨rfl, rfl⟩
  refine Action.ends_call rfl ?_
  rintro x _ ⟨hx, rfl⟩
  have hsleep : g.sleep s.pollInterval =
      Watch.regular start.nanos s.pollInterval.nanos 1 (n + 1) n := by
    rw [hgoing.shown, Watch.sleep_regular]
  rw [hsleep, Watch.length_looks_regular] at hx
  rw [hsleep, Watch.look_regular]
  obtain e | _ | _ | reason | reason := x
  · have htold : outcome s target answers n =
        if s.maxPollErrors < failures answers n + 1 then some (.error e) else none := by
      rw [outcome, ← hx]
    have hcount : failures answers (n + 1) = failures answers n + 1 := by rw [failures, ← hx]
    dsimp only
    split
    · rename_i hmany
      exact ⟨rfl, hgoing.settled (htold.trans (if_pos hmany))⟩
    · rename_i hfew
      have hnone := htold.trans (if_neg hfew)
      exact ends_continueWait hi hgoing.lt (fun hlast => ⟨rfl, hgoing.exhausted hnone hlast⟩)
        fun hmore => (hgoing.again hnone hmore).imp_left fun h => ⟨rfl, n + 1, hcount.symm, h⟩
  · exact ⟨rfl, hgoing.settled (by rw [outcome, ← hx])⟩
  · have hnone : outcome s target answers n = none := by rw [outcome, ← hx]
    have hcount : failures answers (n + 1) = 0 := by rw [failures, ← hx]
    exact ends_continueWait hi hgoing.lt (fun hlast => ⟨rfl, hgoing.exhausted hnone hlast⟩)
      fun hmore => (hgoing.again hnone hmore).imp_left fun h => ⟨rfl, n + 1, hcount.symm, h⟩
  · exact ⟨rfl, hgoing.settled (by rw [outcome, ← hx])⟩
  · exact ⟨rfl, hgoing.settled (by rw [outcome, ← hx])⟩

/-! ## The end -/

/-- A look leaves the matter open if the copy is running or the look failed, but not too often. -/
lemma outcome_eq_none : outcome s target answers n = none ↔
    (answers n = .ok .pending ∨ ∃ e, answers n = .error e) ∧
      ¬ InRow answers s.maxPollErrors n := by
  have hfailed (hrow : InRow answers s.maxPollErrors n) : ∃ e, answers n = .error e :=
    hrow.2 n (Nat.le_refl _) (Nat.le_add_right ..)
  rw [outcome]
  cases h : answers n with
  | error e => simp [lt_failures_iff h]
  | ok x =>
    simp only [h, reduceCtorEq, exists_false, imp_false] at hfailed
    cases x <;> simp [hfailed]

/-- The wait ends well with the look that finds the copy complete. -/
lemma outcome_eq_ok :
    outcome s target answers n = some (.ok ()) ↔ answers n = .ok .success := by
  rw [outcome]
  cases answers n with
  | error e => simp
  | ok x => cases x <;> simp

/-- A look ends the wait with an error: the copy failed or was stopped, or too many looks in a row
failed. -/
def GivesUp (s : Settings) (target : String) (answers : Nat → Except Error CopyState) (n : Nat)
    (e : Error) : Prop :=
  (∃ reason, (answers n = .ok (.failed reason) ∨ answers n = .ok (.aborted reason)) ∧
      e = incomplete target reason) ∨
    answers n = .error e ∧ InRow answers s.maxPollErrors n

/-- The wait ends with an error exactly where it gives up. -/
lemma outcome_eq_error {e : Error} :
    outcome s target answers n = some (.error e) ↔ GivesUp s target answers n e := by
  rw [outcome, GivesUp]
  cases h : answers n with
  | error f => simp [lt_failures_iff h, and_comm]
  | ok x => cases x <;> simp [eq_comm]

/-- The first looks found that the copy goes on, or failed, but never too many in a row. -/
def Ongoing (s : Settings) (answers : Nat → Except Error CopyState) (n : Nat) : Prop :=
  ∀ m < n, (answers m = .ok .pending ∨ ∃ e, answers m = .error e) ∧
    ¬ InRow answers s.maxPollErrors m

/-- Until a look settles the matter the wait is ongoing. -/
lemma unsettled_iff_ongoing :
    Unsettled (outcome s target answers) n ↔ Ongoing s answers n :=
  forall₂_congr fun _ _ => outcome_eq_none

/-- When the looks at a copy are made, given what they find, and how they end. -/
structure Awaited (s : Settings) (target : String) (answers : Nat → Except Error CopyState)
    (now : Nat) (r : Except Error Unit) (g : Watch) : Prop where
  /-- The looks are made at regular times, the first one after a pause. -/
  times : g.looks = (List.range g.looks.length).map fun j => now + (j + 1) * s.pollInterval.nanos
  /-- There are no more looks than allowed. -/
  few : g.looks.length ≤ s.maxLooks
  /-- All of them but the last one come before the deadline. -/
  early : ∀ time ∈ g.looks.dropLast, time < now + s.copyDeadline.nanos
  /-- The wait succeeds if the copy is found to be complete before the wait is given up. -/
  ok_iff : r = .ok () ↔ ∃ n < s.maxLooks, Ongoing s answers n ∧ answers n = .ok .success
  /-- The wait fails with a look that gives it up, or if there is no more time. -/
  error_iff : ∀ e, r = .error e ↔
    (∃ n < s.maxLooks, Ongoing s answers n ∧ GivesUp s target answers n e) ∨
      Ongoing s answers s.maxLooks ∧ e = overdue s target
  /-- A look that finds the copy complete or gives up is the last one. -/
  last : ∀ n < s.maxLooks, Ongoing s answers n →
    (answers n = .ok .success ∨ ∃ e, GivesUp s target answers n e) → g.looks.length = n + 1
  /-- If the time is over then all looks were made that are allowed, and the last one came at the
  deadline or later. -/
  late : Ongoing s answers s.maxLooks →
    g.looks.length = s.maxLooks ∧ now + s.copyDeadline.nanos ≤ g.now

/-- A wait that is over was awaited regularly.

**Proof sketch.** Its looks were regular and settled the matter or ran out of time, which the lemmas
about the outcome of a look say in terms of the answers; `maxLooks` is what fits in before the
deadline. -/
lemma awaited_of_over (hi : 0 < s.pollInterval.nanos) {r : Except Error Unit} {g : Watch}
    (h : Over (outcome s target answers) s.maxLooks (.error (overdue s target)) now
      s.pollInterval.nanos 1 r g) : Awaited s target answers now r g := by
  refine ⟨h.times, h.length_le, ?_, ?_, fun e => ?_, ?_, fun hall => ?_⟩
  · intro time htime
    rw [h.times, ← List.map_dropLast] at htime
    obtain ⟨j, hj, rfl⟩ := List.mem_map.1 htime
    rw [List.dropLast_eq_take, List.take_range, List.mem_range, List.length_range] at hj
    have hle := h.length_le
    have hmore : ¬ s.maxLooks ≤ j + 1 := by omega
    rw [Settings.maxLooks_le_iff hi] at hmore
    exact Nat.add_lt_add_left (Nat.not_le.1 hmore) now
  · rw [h.eq_iff]
    simp only [unsettled_iff_ongoing, outcome_eq_ok, reduceCtorEq, and_false, or_false]
  · rw [h.eq_iff]
    simp only [unsettled_iff_ongoing, outcome_eq_error, Except.error.injEq]
  · rintro m hm hongoing (hsuccess | ⟨e, hgives⟩)
    · exact h.length_of_settled hm (unsettled_iff_ongoing.2 hongoing) (outcome_eq_ok.2 hsuccess)
    · exact h.length_of_settled hm (unsettled_iff_ongoing.2 hongoing) (outcome_eq_error.2 hgives)
  · have hlength := h.length_of_unsettled (unsettled_iff_ongoing.2 hall)
    have hdue := (Settings.maxLooks_le_iff hi).1 (Nat.sub_add_cancel s.maxLooks_pos).ge
    refine ⟨hlength, ?_⟩
    rw [h.now_eq, hlength]
    exact Nat.add_le_add_left hdue now

/-- **Waiting for a copy** comes to an end, whatever the looks find, and moves nothing. The looks
are made at regular times after a pause; they end with the first one that finds the copy complete
or gives up, or with the first one that is not before the deadline.

**Proof sketch.** The wait is a loop of looks that settle the matter or not
(`ends_awaitCopy_regularly`), so what they find determines how many there are and how they end
(`Over.eq_iff`, `Over.length_of_settled`). The count of failures is that of the looks in a row that
failed (`lt_failures_iff`), and no look that is followed by another one is at the deadline
(`Settings.maxLooks_le_iff`). -/
theorem awaits_regularly (s : Settings) (hi : 0 < s.pollInterval.nanos) (target : String)
    (answers : Nat → Except Error CopyState) (p : Progress) (now : Nat) :
    Action.Ends (polling target answers) (awaitCopy s target) p (Watch.start now)
      fun r q g => q = p ∧ Awaited s target answers now r g :=
  (ends_awaitCopy_regularly hi).mono fun _ _ _ h => ⟨h.1, awaited_of_over hi h.2⟩

/-- Settings with which the fourth look is the last one and the second failure in a row gives up. -/
def strict : Settings := { copyDeadline := .ofMillis 350, maxPollErrors := 1 }

/-- Looks that fail, but for one that finds that the copy goes on. -/
def failing : Nat → Except Error CopyState
  | 1 => .ok .pending
  | n => .error (.http (toString n))

/-- The second failure in a row gives up, although the time is over with that look as well. -/
theorem awaits_regularly_failing :
    0 < strict.pollInterval.nanos ∧
    Action.May (polling "b" failing) (awaitCopy strict "b") {} (Watch.start 7) fun r q g =>
      r = .error (.http "3") ∧ q = {} ∧
        g.looks = [100000007, 200000007, 300000007, 400000007] := by
  have hongoing : Ongoing strict failing 3 := by
    rintro (_ | _ | _ | n) hn
    · exact ⟨.inr ⟨_, rfl⟩, fun h => absurd h.1 (by decide)⟩
    · exact ⟨.inl rfl, fun h => nomatch h.2 1 (by decide) (by decide)⟩
    · exact ⟨.inr ⟨_, rfl⟩, fun h => nomatch h.2 1 (by decide) (by decide)⟩
    · omega
  have hgives : GivesUp strict "b" failing 3 (.http "3") := by
    refine .inr ⟨rfl, by decide, fun j hj hn => ?_⟩
    obtain rfl | rfl : j = 2 ∨ j = 3 := by
      change 3 ≤ j + 1 at hn
      omega
    · exact ⟨_, rfl⟩
    · exact ⟨_, rfl⟩
  have hends := awaits_regularly strict (by decide) "b" failing {} 7
  refine ⟨by decide, (hends.may_of_answers polling_answers).mono ?_⟩
  rintro r q g ⟨rfl, hawaited⟩
  have hlength : g.looks.length = 4 := hawaited.last 3 (by decide) hongoing (.inr ⟨_, hgives⟩)
  refine ⟨(hawaited.error_iff _).2 (.inl ⟨3, by decide, hongoing, hgives⟩), rfl, ?_⟩
  rw [hawaited.times, hlength]
  rfl

end Depot.Migration
