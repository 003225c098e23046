import Depot.Lifecycle
import Depot.Proofs.Completion
import Depot.Proofs.Polling

set_option autoImplicit false

/-!
# Until a resource can be seen

A resource that was created is looked for at regular times. The time that is allowed is checked
before each pause, with the pause added to it, so that no pause goes on past that time and there is
always one look at least.

## Main definitions

* `Lifecycle.sighting` — what a look for a resource says.
* `Lifecycle.watching` — the contract of looks that are answered as given, on a clock that only
  pauses move.
* `Lifecycle.Watched` — when the looks are made, and how they end.

## Main results

* `Lifecycle.waits_regularly` — how waiting for a resource goes on and ends, for all answers.
-/

namespace Depot.Lifecycle

open Resource

/-! ## Looks and pauses -/

/-- What a look for a resource says: whether the wait is over, and how. -/
def sighting : Except Error Presence → Option (Except Error Unit)
  | .ok .present => some (.ok ())
  | .ok .absent | .ok .forbidden => none
  | .error e => some (.error e)

/-- The contract of looks for a resource that are answered as given, one after the other, on a clock
that only pauses move. Nothing else is done. -/
def watching (name : String) (answers : Nat → Except Error Presence) :
    Contract Resource.interface Watch where
  permits _ c :=
    match c with
    | .probe other => other = name
    | .now | .sleep _ => True
    | _ => False
  step g c x g' :=
    match c with
    | .probe _ => x = answers g.looks.length ∧ g' = g.look
    | .now => (x : Span).nanos = g.now ∧ g' = g
    | .sleep d => g' = g.sleep d
    | _ => False

/-- The error of a wait for which there is no more time. -/
def overdue (k : Kind) (w : WaitPolicy) (name : String) : Error :=
  .timeout (k.noun ++ " " ++ name ++ " to become visible") w.timeout

variable {k : Kind} {w : WaitPolicy} {s t : Subject} {answers : Nat → Except Error Presence}
  {name : String} {now n : Nat}

/-- How many looks there may be. -/
def WaitPolicy.maxLooks (w : WaitPolicy) : Nat := w.timeout.nanos / w.interval.nanos + 1

/-- After a look that does not find the resource there is a pause, if another look is allowed.

**Proof sketch.** The clock shows the regular time, so that there is no time for another pause
exactly with the last look. -/
lemma ends_interval {Q : Except Error (Unit ⊕ Unit) → Subject → Watch → Prop}
    (hw : 0 < w.interval.nanos) (hn : n < w.maxLooks)
    (hlate : n + 1 = w.maxLooks →
      Q (.error (overdue k w s.name)) s (Watch.regular now w.interval.nanos 0 n (n + 1)))
    (hagain : n + 1 < w.maxLooks →
      Q (.ok (.inl ())) s (Watch.regular now w.interval.nanos 0 (n + 1) (n + 1))) :
    Action.Ends (watching s.name answers) (do
      let time ← ask .now
      if now + w.timeout.nanos < time.nanos + w.interval.nanos then throw (overdue k w s.name)
      else
        ask (.sleep w.interval)
        return .inl ()) s (Watch.regular now w.interval.nanos 0 n (n + 1)) Q := by
  refine Action.ends_call trivial ?_
  rintro (time : Span) _ ⟨htime, rfl⟩
  have htime : time.nanos = now + n * w.interval.nanos := htime
  have hiff : now + w.timeout.nanos < time.nanos + w.interval.nanos ↔ n + 1 = w.maxLooks := by
    rw [htime, Nat.add_assoc, Nat.add_lt_add_iff_left, ← Nat.succ_mul, ← Nat.div_lt_iff_lt_mul hw]
    unfold WaitPolicy.maxLooks at hn ⊢
    omega
  split
  · rename_i hlt
    exact hlate (hiff.1 hlt)
  · rename_i hle
    refine Action.ends_call trivial ?_
    rintro ⟨⟩ _ rfl
    rw [Watch.sleep_regular]
    exact hagain (Nat.lt_of_le_of_ne hn fun hlast => hle (hiff.2 hlast))

/-- **The looks for a resource** end with the first one that settles the matter, or when no more are
allowed.

**Proof sketch.** Before each look there were as many pauses as looks, and none of the looks settled
the matter. A look that does not settle it either is followed by a pause, unless that would end too
late; and each look leaves fewer of those that are allowed. -/
lemma ends_waitUntilVisible_regularly (hw : 0 < w.interval.nanos) :
    Action.Ends (watching s.name answers) (waitUntilVisible k w) s (Watch.start now)
      fun r t g => t = s ∧ Over (sighting ∘ answers) w.maxLooks (.error (overdue k w s.name)) now
        w.interval.nanos 0 r g := by
  refine Action.gives_get.ends_bind (Action.ends_call trivial ?_)
  rintro (start : Span) _ ⟨hstart, rfl⟩
  have hstart : start.nanos = now := hstart
  subst hstart
  refine Action.ends_loop_of_lt
    (fun _ t g => t = s ∧
      ∃ n, Going (sighting ∘ answers) w.maxLooks start.nanos w.interval.nanos 0 n g)
    (fun _ g => w.maxLooks - g.looks.length) ⟨rfl, 0, .begin (Nat.succ_pos _)⟩ ?_
  rintro _ t g ⟨rfl, n, hgoing⟩
  refine Action.ends_call rfl ?_
  rintro x _ ⟨hx, rfl⟩
  have hlook : g.look = Watch.regular start.nanos w.interval.nanos 0 n (n + 1) := by
    rw [hgoing.shown]
    exact Watch.look_regular
  rw [hgoing.length_looks] at hx
  rw [hlook]
  have htold : (sighting ∘ answers) n = sighting x := congrArg sighting hx.symm
  obtain e | _ | _ | _ := x
  · exact ⟨rfl, hgoing.settled htold⟩
  · exact ⟨rfl, hgoing.settled htold⟩
  · exact ends_interval hw hgoing.lt (fun hlast => ⟨rfl, hgoing.exhausted htold hlast⟩)
      fun hmore => (hgoing.again htold hmore).imp_left fun h => ⟨rfl, n + 1, h⟩
  · exact ends_interval hw hgoing.lt (fun hlast => ⟨rfl, hgoing.exhausted htold hlast⟩)
      fun hmore => (hgoing.again htold hmore).imp_left fun h => ⟨rfl, n + 1, h⟩

/-! ## The end -/

/-- A look leaves the matter open if the resource is absent or not accessible. -/
lemma sighting_eq_none {x : Except Error Presence} :
    sighting x = none ↔ x = .ok .absent ∨ x = .ok .forbidden := by
  obtain _ | _ | _ | _ := x <;> simp [sighting]

/-- A look ends the wait well if the resource is there. -/
lemma sighting_eq_ok {x : Except Error Presence} :
    sighting x = some (.ok ()) ↔ x = .ok .present := by
  obtain _ | _ | _ | _ := x <;> simp [sighting]

/-- A look that fails ends the wait with its error. -/
lemma sighting_eq_error {x : Except Error Presence} {e : Error} :
    sighting x = some (.error e) ↔ x = .error e := by
  obtain _ | _ | _ | _ := x <;> simp [sighting]

/-- The resource was not seen in the first looks, and none of them failed. -/
def Unseen (answers : Nat → Except Error Presence) (n : Nat) : Prop :=
  ∀ m < n, answers m = .ok .absent ∨ answers m = .ok .forbidden

/-- Until a look settles the matter the resource is unseen. -/
lemma unsettled_iff_unseen : Unsettled (sighting ∘ answers) n ↔ Unseen answers n :=
  forall₂_congr fun _ _ => sighting_eq_none

/-- When the looks for a resource are made, given what they find, and how they end. -/
structure Watched (k : Kind) (w : WaitPolicy) (name : String)
    (answers : Nat → Except Error Presence) (now : Nat) (r : Except Error Unit) (g : Watch) :
    Prop where
  /-- The first look is made at once, and the others at regular times. -/
  times : g.looks = (List.range g.looks.length).map fun j => now + j * w.interval.nanos
  /-- There are no more looks than allowed. -/
  few : g.looks.length ≤ w.maxLooks
  /-- All pauses together do not take longer than allowed. -/
  slept : g.slept ≤ w.timeout.nanos
  /-- The wait succeeds if the resource is seen before a look fails. -/
  ok_iff : r = .ok () ↔ ∃ n < w.maxLooks, Unseen answers n ∧ answers n = .ok .present
  /-- The wait fails with a look that fails before the resource is seen, or if there is no more
  time. -/
  error_iff : ∀ e, r = .error e ↔
    (∃ n < w.maxLooks, Unseen answers n ∧ answers n = .error e) ∨
      Unseen answers w.maxLooks ∧ e = overdue k w name
  /-- A look that sees the resource or fails is the last one. -/
  last : ∀ n < w.maxLooks, Unseen answers n →
    (answers n = .ok .present ∨ ∃ e, answers n = .error e) → g.looks.length = n + 1
  /-- If the time is over then all looks were made that are allowed. -/
  late : Unseen answers w.maxLooks → g.looks.length = w.maxLooks

/-- A wait that is over was watched regularly.

**Proof sketch.** Its looks were regular, one interval apart, and the lemmas about what a look says
put the result in terms of the answers. -/
lemma watched_of_over {r : Except Error Unit} {g : Watch}
    (h : Over (sighting ∘ answers) w.maxLooks (.error (overdue k w name)) now w.interval.nanos 0
      r g) : Watched k w name answers now r g := by
  refine ⟨h.times, h.length_le, ?_, ?_, fun e => ?_, ?_, ?_⟩
  · have hle : g.looks.length - 1 ≤ w.timeout.nanos / w.interval.nanos :=
      Nat.sub_le_of_le_add h.length_le
    rw [h.slept_eq]
    exact (Nat.mul_le_mul_right _ hle).trans (Nat.div_mul_le_self ..)
  · rw [h.eq_iff]
    simp only [unsettled_iff_unseen, Function.comp_apply, sighting_eq_ok, reduceCtorEq, and_false,
      or_false]
  · rw [h.eq_iff]
    simp only [unsettled_iff_unseen, Function.comp_apply, sighting_eq_error, Except.error.injEq]
  · rintro m hm hunseen (hpresent | ⟨e, herror⟩)
    · exact h.length_of_settled hm (unsettled_iff_unseen.2 hunseen) (sighting_eq_ok.2 hpresent)
    · exact h.length_of_settled hm (unsettled_iff_unseen.2 hunseen) (sighting_eq_error.2 herror)
  · exact fun hall => h.length_of_unsettled (unsettled_iff_unseen.2 hall)

/-- What may be asked can be answered. -/
lemma watching_answers (g : Watch) (c : Resource.Call)
    (hc : (watching name answers).permits g c) :
    ∃ x g', (watching name answers).step g c x g' := by
  cases c with
  | probe => exact ⟨answers g.looks.length, g.look, rfl, rfl⟩
  | now => exact ⟨(⟨g.now⟩ : Span), g, rfl, rfl⟩
  | sleep d => exact ⟨(), g.sleep d, rfl⟩
  | _ => exact hc.elim

/-- **Waiting for a resource** that was created comes to an end, whatever the looks find, and the
subject stays as it is. The looks are made at regular times; they end with the first one that sees
the resource or fails, or when another pause would take too long.

**Proof sketch.** The wait is a loop of looks that settle the matter or not
(`ends_waitUntilVisible_regularly`), so what they find determines how many there are and how they
end (`Over.eq_iff`, `Over.length_of_settled`). The pauses are one less than the looks. -/
theorem waits_regularly (k : Kind) (w : WaitPolicy) (hw : 0 < w.interval.nanos) (s : Subject)
    (answers : Nat → Except Error Presence) (now : Nat) :
    Action.Ends (watching s.name answers) (waitUntilVisible k w) s (Watch.start now)
      fun r t g => t = s ∧ Watched k w s.name answers now r g :=
  (ends_waitUntilVisible_regularly hw).mono fun _ _ _ h => ⟨h.1, watched_of_over h.2⟩

/-- A resource that cannot be seen at first, then not be accessed, and then be seen. -/
def slowly : Nat → Except Error Presence
  | 0 => .ok .absent
  | 1 => .ok .forbidden
  | _ => .ok .present

/-- It is seen with the third look, the last one for which there is time. -/
theorem waits_regularly_slowly :
    0 < ({ timeout := .ofMillis 2500 } : WaitPolicy).interval.nanos ∧
    Action.May (watching "images" slowly)
      (waitUntilVisible default { timeout := .ofMillis 2500 }) ⟨"images", {}⟩ (Watch.start 7)
      fun r t g => t = ⟨"images", {}⟩ ∧ r = .ok () ∧
        g.looks = [7, 1000000007, 2000000007] := by
  have hunseen : Unseen slowly 2 := by
    rintro (_ | _ | m) hm
    · exact .inl rfl
    · exact .inr rfl
    · omega
  have hends := waits_regularly default { timeout := .ofMillis 2500 } (by decide)
    ⟨"images", {}⟩ slowly 7
  refine ⟨by decide, (hends.may_of_answers watching_answers).mono ?_⟩
  rintro r t g ⟨ht, hwatched⟩
  have hlength : g.looks.length = 3 := hwatched.last 2 (by decide) hunseen (.inl rfl)
  refine ⟨ht, hwatched.ok_iff.2 ⟨2, by decide, hunseen, rfl⟩, ?_⟩
  rw [hwatched.times, hlength]
  rfl

end Depot.Lifecycle
