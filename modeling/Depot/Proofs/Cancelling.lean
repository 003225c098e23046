import Depot.Proofs.Completion
import Depot.Proofs.Migration

set_option autoImplicit false

/-!
# Moving that is cancelled

Moving blobs can be cancelled at any moment: before it begins, while the container carries out a
call, or during a pause. It is noticed before the next copy and the next deletion, and ends a pause.
Once the call in flight has ended, nothing more is copied or deleted, and the run says that it was
cancelled, unless there is nothing left to do.

## Main definitions

* `Migration.Agenda` — what is left to do, as the answers so far say.
* `Migration.Countdown` — the moment at which moving is cancelled, counted in calls.
* `Migration.cancelling` — the contract of a container in any state, with moving cancelled at a
  given moment.
* `Migration.Agenda.Stays`, `Migration.Container.Persists` — what stays as it is.
* `Migration.Stops` — what a run does once it is cancelled.

## Main results

* `Migration.ends_moveAll` — a run says that it was cancelled or has nothing left to do.
* `Migration.stays_of_walk` — once moving is cancelled, what is left to do stays so.
* `Migration.run_stops` — a run stops, whatever the moment at which it is cancelled.
-/

namespace Depot.Migration

/-! ## What is left to do -/

/-- How far the wait for a copy is. -/
inductive Wait where
  /-- It has not begun. -/
  | idle
  /-- A pause and a look come next, with a deadline and after some looks in a row that failed. -/
  | pausing (deadline errors : Nat)
  /-- A look did not settle the matter, and the wait goes on unless the time is over. -/
  | looked (deadline errors : Nat)

/-- What is left to do. -/
structure Agenda where
  /-- The blobs that are to be copied, once they are listed. -/
  copies : Option (List String)
  /-- The copies that are to be awaited, by the new names. -/
  waits : List (String × String)
  /-- How far the wait for the first of them is. -/
  wait : Wait
  /-- The blobs that are to be deleted. -/
  deletions : List String

namespace Agenda

/-- Nothing is left to do. -/
def IsDone (a : Agenda) : Prop := a.copies = some [] ∧ a.waits = [] ∧ a.deletions = []

/-- At the start nothing is listed; there is nothing to do if the names would stay as they are. -/
def start (source dest : String) : Agenda where
  copies := if source = dest then some [] else none
  waits := []
  wait := .idle
  deletions := []

/-- The next blob was copied, or it was tried. -/
def begin (a : Agenda) : Agenda := { a with copies := a.copies.map List.tail }

/-- The wait for the first copy is over. -/
def settle (a : Agenda) : Agenda := { a with waits := a.waits.tail, wait := .idle }

/-- The first copy is complete, and its blob is to be deleted. -/
def confirm (a : Agenda) : Agenda :=
  { a.settle with deletions := a.deletions ++ (a.waits.take 1).map (·.2) }

/-- A look at the first copy failed. -/
def miss (s : Settings) (a : Agenda) : Agenda :=
  match a.wait with
  | .pausing deadline errors =>
    if s.maxPollErrors < errors + 1 then a.settle
    else { a with wait := .looked deadline (errors + 1) }
  | _ => a

/-- A look found that the first copy goes on. -/
def goOn (a : Agenda) : Agenda :=
  match a.wait with
  | .pausing deadline _ => { a with wait := .looked deadline 0 }
  | _ => a

/-- The clock was read: a wait begins with it, and is over once it shows the deadline. -/
def tick (s : Settings) (a : Agenda) (now : Nat) : Agenda :=
  match a.wait with
  | .idle => { a with wait := .pausing (now + s.copyDeadline.nanos) 0 }
  | .pausing _ _ => a
  | .looked deadline errors =>
    if deadline ≤ now then a.settle else { a with wait := .pausing deadline errors }

/-- What is left after a call was answered. -/
def next (s : Settings) (a : Agenda) : (c : Call) → interface.Answer c → Agenda
  | .list _, .ok names => { a with copies := some names }
  | .list _, .error _ => { a with copies := some [] }
  | .startCopy name _, .ok .success => { a.begin with deletions := a.deletions ++ [name] }
  | .startCopy name target, .ok .pending =>
    { a.begin with waits := Dict.insertEntry target name a.waits }
  | .startCopy _ _, _ => a.begin
  | .copyState _, .ok .success => a.confirm
  | .copyState _, .ok .pending => a.goOn
  | .copyState _, .ok (.failed _) | .copyState _, .ok (.aborted _) => a.settle
  | .copyState _, .error _ => a.miss s
  | .delete _, _ => { a with deletions := a.deletions.tail }
  | .now, time => a.tick s (time : Span).nanos
  | .isCancelled, _ | .pause _, _ => a

end Agenda

/-! ## The contract -/

/-- A look failed because something was cancelled, in the words of the container. -/
def Tells : (c : Call) → interface.Answer c → Prop
  | .copyState _, .error (.cancelled _) => True
  | _, _ => False

/-- The moment at which moving is cancelled, and what is left to do. -/
structure Countdown where
  /-- How many calls to the container and pauses there are up to that moment, which comes during the
  last of them; none if it has come. -/
  left : Nat
  /-- What is left to do. -/
  agenda : Agenda
  /-- The container told that something was cancelled. -/
  told : Prop := False

namespace Countdown

/-- Moving begins, and is cancelled at a moment. -/
def start (source dest : String) (moment : Nat) : Countdown := ⟨moment, .start source dest, False⟩

/-- There is a reason to say that moving was cancelled: it was, or the container told so. -/
def IsOver (g : Countdown) : Prop := g.left = 0 ∨ g.told

/-- An error says that moving was cancelled, with reason. -/
def Cancels (g : Countdown) (e : Error) : Prop := (∃ what, e = .cancelled what) ∧ g.IsOver

end Countdown

/-- The contract of a container that answers in any way, with moving cancelled at a given moment.
What is on the agenda is done in its order; copies, looks at them and deletions begin only while
moving is not cancelled. A pause that takes time answers whether moving is cancelled by its end. -/
def cancelling (s : Settings) (source dest : String) : Contract interface Countdown where
  permits g c :=
    match c with
    | .list start => start = source ∧ g.agenda.copies = none
    | .startCopy name target => g.left ≠ 0 ∧ target = targetName name source dest ∧
        ∃ rest, g.agenda.copies = some (name :: rest)
    | .copyState target => g.left ≠ 0 ∧ g.agenda.copies = some [] ∧
        ∃ name rest, g.agenda.waits = (target, name) :: rest
    | .delete name => g.left ≠ 0 ∧ g.agenda.copies = some [] ∧ g.agenda.waits = [] ∧
        ∃ rest, g.agenda.deletions = name :: rest
    | .now => g.agenda.waits ≠ [] ∧ ∀ deadline errors, g.agenda.wait ≠ .pausing deadline errors
    | .pause _ => g.agenda.waits ≠ [] ∧ ∃ deadline errors, g.agenda.wait = .pausing deadline errors
    | .isCancelled => True
  step g c x h :=
    match c with
    | .isCancelled => x = decide (g.left = 0) ∧ h = g
    | .pause d => (0 < d.nanos → x = decide (g.left ≤ 1)) ∧ h = { g with left := g.left - 1 }
    | .now => h = { g with agenda := g.agenda.next s .now x }
    | c => h = ⟨g.left - 1, g.agenda.next s c x, g.told ∨ Tells c x⟩

variable {s : Settings} {source dest target name : String} {p : Progress} {g : Countdown}
  {rest : List String} {waits : List (String × String)}

/-! ## Copying -/

/-- It is noticed that moving was cancelled. -/
lemma ends_checkCancelled :
    Action.Ends (cancelling s source dest) checkCancelled p g fun r q h => q = p ∧ h = g ∧
      (r = .ok () ∧ g.left ≠ 0 ∨ ∃ e, r = .error e ∧ g.Cancels e) := by
  refine Action.ends_call trivial ?_
  rintro x _ ⟨rfl, rfl⟩
  split
  · rename_i hleft
    exact ⟨rfl, rfl, .inr ⟨_, rfl, ⟨_, rfl⟩, .inl (of_decide_eq_true hleft)⟩⟩
  · rename_i hleft
    exact ⟨rfl, rfl, .inl ⟨rfl, by simpa using hleft⟩⟩

/-- The agenda while blobs are copied. -/
def Agenda.copying (p : Progress) (rest : List String) : Agenda :=
  ⟨some rest, p.pending.entries, .idle, p.copied⟩

/-- The next blob is copied, unless moving was cancelled.

**Proof sketch.** Unless the check says that moving is cancelled, the ghost allows the call, and
each of its answers takes the name off the agenda. -/
lemma ends_copy (hg : g.agenda = .copying p (name :: rest)) :
    Action.Ends (cancelling s source dest) (copy source dest name) p g fun r q h =>
      match r with
      | .ok () => h.agenda = .copying q rest
      | .error e => h.Cancels e := by
  obtain ⟨left, _, told⟩ := g
  obtain rfl := hg
  refine Action.ends_bind.2 (ends_checkCancelled.mono ?_)
  rintro _ _ _ ⟨rfl, rfl, ⟨rfl, hleft⟩ | ⟨e, rfl, he⟩⟩
  · refine Action.ends_call ⟨hleft, rfl, rest, rfl⟩ ?_
    rintro x _ rfl
    obtain e | _ | _ | reason | reason := x
    · exact rfl
    · exact rfl
    · exact rfl
    · exact rfl
    · exact rfl
  · exact he

/-! ## Waiting -/

/-- The agenda while copies are awaited. -/
def Agenda.waiting (p : Progress) (waits : List (String × String)) (wait : Wait) : Agenda :=
  ⟨some [], waits, wait, p.copied⟩

/-- How the wait for a copy ends: the copy is complete, or the wait is given up or cancelled. -/
def Settled (p : Progress) (name : String) (waits : List (String × String)) :
    Except Error Unit → Countdown → Prop
  | .ok (), h => h.agenda = ⟨some [], waits, .idle, p.copied ++ [name]⟩
  | .error e, h => h.Cancels e ∨
      h.agenda = .waiting p waits .idle ∧ ∀ what, e = .cancelled what → h.told

/-- What one look at a copy leads to: the wait ends, or goes on with fewer calls left up to the
moment at which moving is cancelled. -/
def Looked (p : Progress) (target name : String) (waits : List (String × String))
    (deadline left : Nat) : Except Error (Nat ⊕ Unit) → Countdown → Prop
  | .ok (.inl errors), h => h.left < left ∧
      h.agenda = .waiting p ((target, name) :: waits) (.pausing deadline errors)
  | .ok (.inr ()), h => Settled p name waits (.ok ()) h
  | .error e, h => Settled p name waits (.error e) h

/-- The wait for a copy ends if its time is over, and goes on otherwise.

**Proof sketch.** The one call asks for the time; by either branch of the comparison with the
deadline the agenda is as `Looked` says. -/
lemma ends_continueWait_looked {deadline errors left : Nat} (hleft : g.left < left)
    (hg : g.agenda = .waiting p ((target, name) :: waits) (.looked deadline errors)) :
    Action.Ends (cancelling s source dest) (continueWait s target deadline errors) p g
      fun r q h => q = p ∧ Looked p target name waits deadline left r h := by
  obtain ⟨_, _, told⟩ := g
  obtain rfl := hg
  refine Action.ends_call ⟨List.cons_ne_nil _ _, nofun⟩ ?_
  rintro time _ rfl
  change Action.Ends _ (if deadline ≤ _ then _ else _) _ _ _
  split
  · rename_i hlate
    exact ⟨rfl, .inr ⟨if_pos hlate, nofun⟩⟩
  · rename_i hearly
    exact ⟨rfl, hleft, if_neg hearly⟩

/-- **One look at a copy** after a pause.

**Proof sketch.** A pause that is cut short tells that no moment is left, so the wait ends
cancelled. After a full pause one moment has passed, which is the measure that decreases, and the
cases are the answers about the copy. -/
lemma ends_look (hi : 0 < s.pollInterval.nanos) {deadline errors : Nat}
    (hg : g.agenda = .waiting p ((target, name) :: waits) (.pausing deadline errors)) :
    Action.Ends (cancelling s source dest) (look s target deadline errors) p g
      fun r q h => q = p ∧ Looked p target name waits deadline g.left r h := by
  obtain ⟨left, _, told⟩ := g
  obtain rfl := hg
  refine Action.ends_call ⟨List.cons_ne_nil _ _, deadline, errors, rfl⟩ ?_
  rintro x _ ⟨hx, rfl⟩
  cases x with
  | true =>
    have hleft : left ≤ 1 := of_decide_eq_true (hx hi).symm
    exact ⟨rfl, .inl ⟨⟨_, rfl⟩, .inl (Nat.sub_eq_zero_of_le hleft)⟩⟩
  | false =>
    -- The pause was not ended early, so moving is neither cancelled nor was it meanwhile.
    have hmore : 1 < left := Nat.not_le.1 (of_decide_eq_false (hx hi).symm)
    have hless : left - 1 - 1 < left := by omega
    refine Action.ends_call ⟨Nat.sub_ne_zero_of_lt hmore, rfl, name, waits, rfl⟩ ?_
    rintro x _ rfl
    obtain e | _ | _ | reason | reason := x
    · change Action.Ends _ (if s.maxPollErrors < errors + 1 then _ else _) _ _ _
      split
      · rename_i hmany
        refine ⟨rfl, .inr ⟨if_pos hmany, ?_⟩⟩
        rintro what rfl
        exact .inr trivial
      · rename_i hfew
        exact ends_continueWait_looked hless (if_neg hfew)
    · exact ⟨rfl, rfl⟩
    · exact ends_continueWait_looked hless rfl
    · exact ⟨rfl, .inr ⟨rfl, nofun⟩⟩
    · exact ⟨rfl, .inr ⟨rfl, nofun⟩⟩

/-- **The wait for a copy ends**, because moving is cancelled at some moment.

**Proof sketch.** The loop is run with the agenda as its invariant and the moments left before the
cancellation as its measure; one round of it is `ends_look`. -/
lemma ends_awaitCopy (hi : 0 < s.pollInterval.nanos)
    (hg : g.agenda = .waiting p ((target, name) :: waits) .idle) :
    Action.Ends (cancelling s source dest) (awaitCopy s target) p g fun r q h =>
      q = p ∧ Settled p name waits r h := by
  obtain ⟨left, _, told⟩ := g
  obtain rfl := hg
  refine Action.ends_call ⟨List.cons_ne_nil _ _, nofun⟩ ?_
  rintro (time : Span) _ rfl
  refine Action.ends_loop_of_lt (fun errors q g => q = p ∧ g.agenda =
      .waiting p ((target, name) :: waits) (.pausing (time.nanos + s.copyDeadline.nanos) errors))
    (fun _ g => g.left) ⟨rfl, rfl⟩ ?_
  rintro errors q g ⟨rfl, hg⟩
  refine (ends_look hi hg).mono ?_
  rintro (e | errors | ⟨⟩) q h ⟨rfl, hh⟩
  · exact ⟨rfl, hh⟩
  · exact ⟨⟨rfl, hh.2⟩, hh.1⟩
  · exact ⟨rfl, hh⟩

/-- The next copy is awaited, unless moving is cancelled.

**Proof sketch.** The outcome of the wait is split as the program splits it: a failure of the copy
is recorded and the next one is awaited, anything that cancels ends the phase. -/
lemma ends_settle (hi : 0 < s.pollInterval.nanos)
    (hg : g.agenda = .waiting p ((target, name) :: waits) .idle) :
    Action.Ends (cancelling s source dest) (settle s target name) p g fun r q h =>
      match r with
      | .ok () => h.agenda = .waiting q waits .idle
      | .error e => h.Cancels e := by
  refine Action.ends_bind.2 (Action.ends_outcome.2 ((ends_awaitCopy hi hg).mono ?_))
  rintro r q h ⟨rfl, hh⟩
  dsimp only
  split
  · exact hh
  · rename_i what
    obtain hcancels | ⟨-, htold⟩ := hh
    · exact hcancels
    · exact ⟨⟨what, rfl⟩, .inr (htold what rfl)⟩
  · rename_i e hother
    obtain ⟨⟨what, rfl⟩, -⟩ | ⟨hagenda, -⟩ := hh
    · exact absurd rfl (hother what)
    · exact hagenda

/-! ## Deleting -/

/-- The agenda while blobs are deleted. -/
def Agenda.deleting (rest : List String) : Agenda := ⟨some [], [], .idle, rest⟩

/-- The next blob is deleted, unless moving was cancelled.

**Proof sketch.** As for a copy; that the blob is already gone counts as deleting it. -/
lemma ends_delete (hg : g.agenda = .deleting (name :: rest)) :
    Action.Ends (cancelling s source dest) (delete name) p g fun r _ h =>
      match r with
      | .ok () => h.agenda = .deleting rest
      | .error e => h.Cancels e := by
  obtain ⟨left, _, told⟩ := g
  obtain rfl := hg
  refine Action.ends_bind.2 (ends_checkCancelled.mono ?_)
  rintro _ _ _ ⟨rfl, rfl, ⟨rfl, hleft⟩ | ⟨e, rfl, he⟩⟩
  · refine Action.ends_call ⟨hleft, rfl, rfl, rest, rfl⟩ ?_
    rintro x _ rfl
    obtain e | ⟨⟩ := x
    · change Action.Ends _ (if e.isNotFound then _ else _) _ _ _
      split
      · exact rfl
      · exact rfl
    · exact rfl
  · exact he

/-! ## Runs -/

/-- **A run says that it was cancelled, or has nothing left to do**, and it comes to an end.

**Proof sketch.** While blobs are copied, awaited and deleted, the agenda says what the run has
still to do. Each step takes its part from the agenda or says that moving was cancelled. Every round
of a wait makes the moment come nearer at which moving is cancelled, and that ends the wait. -/
theorem ends_moveAll (hi : 0 < s.pollInterval.nanos) (moment : Nat) :
    Action.Ends (cancelling s source dest) (moveAll s source dest) {} (.start source dest moment)
      fun r _ h => (∃ e, r = .error e ∧ h.Cancels e) ∨ h.agenda.IsDone := by
  rw [moveAll]
  split
  · rename_i hsame
    exact .inr ⟨if_pos hsame, rfl, rfl⟩
  rename_i hdiffer
  refine Action.ends_bind.2 (Action.ends_attempt.2
    (Prog.ends_perform.2 ⟨⟨rfl, if_neg hdiffer⟩, ?_⟩))
  rintro (e | names) _ rfl
  · exact .inr ⟨rfl, rfl, rfl⟩
  refine Action.ends_bind.2 ((Action.ends_forM_rest
    (P := fun rest p g => g.agenda = .copying p rest) (fun _ _ _ _ => ends_copy) rfl).mono ?_)
  rintro (e | ⟨⟩) p g hg
  · exact .inl ⟨e, rfl, hg⟩
  refine Action.gives_get.ends_bind (Action.ends_bind.2 ((Action.ends_forM_rest
    (P := fun waits p g => g.agenda = .waiting p waits .idle)
    (fun _ _ _ _ => ends_settle hi) hg).mono ?_))
  rintro (e | ⟨⟩) p g hg
  · exact .inl ⟨e, rfl, hg⟩
  refine Action.gives_get.ends_bind (Action.ends_bind.2 ((Action.ends_forM_rest
    (P := fun rest _ g => g.agenda = .deleting rest) (fun _ _ _ _ => ends_delete) hg).mono ?_))
  rintro (e | ⟨⟩) p g hg
  · exact .inl ⟨e, rfl, hg⟩
  refine Action.gives_get.ends_bind (.inr ?_)
  rw [hg]
  exact ⟨rfl, rfl, rfl⟩

/-! ## Once moving is cancelled -/

/-- The call copies, looks at a copy or deletes. -/
def Call.IsWork : Call → Prop
  | .startCopy _ _ | .copyState _ | .delete _ => True
  | .list _ | .isCancelled | .pause _ | .now => False

/-- Whether the wait for a copy is over depends on the clock alone. -/
def Wait.IsLooked : Wait → Prop
  | .looked _ _ => True
  | .idle | .pausing _ _ => False

namespace Agenda

variable {a b c : Agenda}

/-- What is left to do stays so, but for a wait whose time is over. -/
structure Stays (a b : Agenda) : Prop where
  /-- What is listed is still to be copied. -/
  copies : a.copies.isSome → b.copies = a.copies
  /-- What was to be deleted still is. -/
  deletions : b.deletions = a.deletions
  /-- So is what was to be awaited, unless the clock ends a wait after a look. -/
  waits : b.waits = a.waits ∧ (b.wait.IsLooked → a.wait.IsLooked) ∨
    b.waits = a.waits.tail ∧ a.wait.IsLooked ∧ ¬ b.wait.IsLooked

/-- An agenda stays what it is. -/
lemma Stays.refl (a : Agenda) : a.Stays a := ⟨fun _ => rfl, rfl, .inl ⟨rfl, id⟩⟩

/-- What stays twice stays. -/
lemma Stays.trans (hab : a.Stays b) (hbc : b.Stays c) : a.Stays c where
  copies ha := (hbc.copies (hab.copies ha ▸ ha)).trans (hab.copies ha)
  deletions := hbc.deletions.trans hab.deletions
  waits := by
    have h₁ := hab.waits
    have h₂ := hbc.waits
    grind

/-- The clock ends at most a wait. -/
lemma stays_tick (s : Settings) (a : Agenda) (now : Nat)
    (hwait : ∀ deadline errors, a.wait ≠ .pausing deadline errors) : a.Stays (a.tick s now) := by
  obtain ⟨copies, waits, wait, deletions⟩ := a
  cases wait with
  | idle => exact ⟨fun _ => rfl, rfl, .inl ⟨rfl, False.elim⟩⟩
  | pausing deadline errors => exact absurd rfl (hwait deadline errors)
  | looked deadline errors =>
    change Stays _ (if deadline ≤ now then _ else _)
    split
    · exact ⟨fun _ => rfl, rfl, .inr ⟨rfl, trivial, id⟩⟩
    · exact ⟨fun _ => rfl, rfl, .inl ⟨rfl, False.elim⟩⟩

end Agenda

variable {h : Countdown}

/-- **Once moving is cancelled, a permitted call does no work.** -/
lemma not_isWork_of_permits {c : Call} (hc : (cancelling s source dest).permits g c)
    (hleft : g.left = 0) : ¬ c.IsWork := by
  intro hwork
  cases c with
  | startCopy | copyState | delete => exact hc.1 hleft
  | list | isCancelled | pause | now => exact hwork

/-- **Once moving is cancelled, a permitted call leaves what is left to do.**

**Proof sketch.** One case per call. A listing and the clock leave the agenda as the definition of
the ghost says, and the calls that change it are not permitted once no moment is left. -/
lemma stays_of_step {c : Call} {x : interface.Answer c}
    (hc : (cancelling s source dest).permits g c) (hs : (cancelling s source dest).step g c x h)
    (hleft : g.left = 0) : h.left = 0 ∧ g.agenda.Stays h.agenda := by
  cases c with
  | list start =>
    obtain rfl := hs
    obtain ⟨-, hnone⟩ := hc
    have hsome : ¬ g.agenda.copies.isSome := by simp [hnone]
    obtain e | names := x
    · exact ⟨by simp [hleft], fun h => absurd h hsome, rfl, .inl ⟨rfl, id⟩⟩
    · exact ⟨by simp [hleft], fun h => absurd h hsome, rfl, .inl ⟨rfl, id⟩⟩
  | isCancelled =>
    obtain ⟨-, rfl⟩ := hs
    exact ⟨hleft, .refl _⟩
  | pause d =>
    obtain ⟨-, rfl⟩ := hs
    exact ⟨by simp [hleft], .refl _⟩
  | now =>
    obtain rfl := hs
    exact ⟨hleft, Agenda.stays_tick _ _ _ hc.2⟩
  | startCopy | copyState | delete => exact absurd hleft hc.1

/-- **Once moving is cancelled, no work is done and what is left to do stays so.**

**Proof sketch.** By induction on the walk, with `stays_of_step` for each of its calls. -/
theorem stays_of_walk {es : Trace interface} (hw : (cancelling s source dest).Walk g es h)
    (hleft : g.left = 0) : (∀ e ∈ es, ¬ e.call.IsWork) ∧ g.agenda.Stays h.agenda := by
  induction es generalizing g with
  | nil =>
    obtain rfl := hw
    exact ⟨nofun, .refl _⟩
  | cons e es ih =>
    obtain ⟨hc, k, hs, hw⟩ := hw
    obtain ⟨hk, hstays⟩ := stays_of_step hc hs hleft
    obtain ⟨hquiet, hrest⟩ := ih hw hk
    exact ⟨List.forall_mem_cons.2 ⟨not_isWork_of_permits hc hleft, hquiet⟩, hstays.trans hrest⟩

/-! ## What is stored -/

namespace Container

variable {α : Type} {g h k : Container α}

/-- Nothing happens to a container but that copies which go on are completed. -/
structure Persists (g h : Container α) : Prop where
  /-- No copy begins. -/
  running : ∀ c ∈ h.running, c ∈ g.running
  /-- What is stored is still stored. -/
  stored : ∀ name, (g.blobs.get? name).isSome → (h.blobs.get? name).isSome
  /-- Only copies are written. -/
  others : ∀ name, (∀ c ∈ g.running, c.target ≠ name) → h.blobs.get? name = g.blobs.get? name

/-- Without a call everything persists. -/
lemma Persists.refl (g : Container α) : g.Persists g := ⟨fun _ => id, fun _ => id, fun _ _ => rfl⟩

/-- What persists over two stretches of a run persists over both together. -/
lemma Persists.trans (hgh : g.Persists h) (hhk : h.Persists k) : g.Persists k where
  running c hc := hgh.running c (hhk.running c hc)
  stored name hn := hhk.stored name (hgh.stored name hn)
  others name hn :=
    (hhk.others name fun c hc => hn c (hgh.running c hc)).trans (hgh.others name hn)

/-- A copy that goes on is completed. -/
lemma persists_land {c : Copying α} (hc : c ∈ g.running) (content : α) :
    g.Persists (g.land c.target content) where
  running d hd := (List.mem_filter.1 hd).1
  stored name hn := by
    by_cases heq : name = c.target
    · rw [heq, land, Dict.get?_insert_self]
      rfl
    · rwa [land, Dict.get?_insert_of_ne _ _ heq]
  others name hn := Dict.get?_insert_of_ne _ _ (hn c hc).symm

/-- Copies that go on are completed. -/
lemma Lands.persists (hl : g.Lands h) : g.Persists h := by
  induction hl with
  | none g => exact .refl g
  | one hc _ _ ih => exact (persists_land hc _).trans ih

end Container

/-- A call that does no work changes nothing in the container. -/
lemma eq_of_answers {α : Type} {g h : Container α} {c : Call} {x : interface.Answer c}
    (hc : ¬ c.IsWork) (ha : Answers g c x h) : h = g := by
  cases c with
  | list start =>
    obtain e | names := x
    · exact ha
    · exact ha.1
  | isCancelled | pause | now => exact ha
  | startCopy | copyState | delete => exact absurd trivial hc

/-- **Without work a container persists.**

**Proof sketch.** By induction on the path. A call that is no work leaves the container as its
answer found it, which is after whatever copies were completed. -/
lemma persists_of_path {α : Type} {g h : Container α} {es : Trace interface}
    (hquiet : ∀ e ∈ es, ¬ e.call.IsWork) (hp : (contract α).Path g es h) : g.Persists h := by
  induction es generalizing g with
  | nil =>
    obtain rfl := hp
    exact .refl _
  | cons e es ih =>
    obtain ⟨k, ⟨g', hl, ha⟩, hp⟩ := hp
    obtain ⟨he, hquiet⟩ := List.forall_mem_cons.1 hquiet
    obtain rfl := eq_of_answers he ha
    exact hl.persists.trans (ih hquiet hp)

/-! ## Main result -/

/-- What a run does that is cancelled at a given moment. -/
structure Stops (s : Settings) (source dest : String) (moment : Nat) : Prop where
  /-- It comes to an end, and says with reason that it was cancelled or has nothing left to do. -/
  ends : (run s source dest).Ends (cancelling s source dest) (.start source dest moment) fun r g =>
    (∃ e, r = .error e ∧ g.Cancels e) ∨ g.agenda.IsDone
  /-- Once it is cancelled, no copy and no deletion begins, also if it never came to an end. -/
  quiet : ∀ es c g, (run s source dest).Asks es c →
    (cancelling s source dest).Path (.start source dest moment) es g → g.left = 0 → ¬ c.IsWork
  /-- What is left to do then is left at the end, but for a wait whose time is over. -/
  left : ∀ fs gs r g h, (run s source dest).Runs (fs ++ gs) r →
    (cancelling s source dest).Path (.start source dest moment) fs g → g.left = 0 →
    (cancelling s source dest).Path g gs h → g.agenda.Stays h.agenda
  /-- What is stored then is stored at the end, and only copies that went on are written. -/
  kept : ∀ {α : Type} fs gs r g h (c d : Container α), (run s source dest).Runs (fs ++ gs) r →
    (cancelling s source dest).Path (.start source dest moment) fs g → g.left = 0 →
    (cancelling s source dest).Path g gs h → (contract α).Path c gs d → c.Persists d

/-- **A run stops once it is cancelled**, whatever the answers and the moment.

**Proof sketch.** A run ends as `ends_moveAll` says, so all its calls are permitted, also those
after the moment. None of these does work, and each leaves what is left to do and what is stored. -/
theorem run_stops (s : Settings) (hi : 0 < s.pollInterval.nanos) (source dest : String)
    (moment : Nat) : Stops s source dest moment := by
  have hends : (run s source dest).Ends (cancelling s source dest) (.start source dest moment)
      fun r g => (∃ e, r = .error e ∧ g.Cancels e) ∨ g.agenda.IsDone :=
    Prog.ends_bind.2 (ends_moveAll hi moment)
  have hafter {fs gs : Trace interface} {r : Except Error Report} {g h : Countdown}
      (hr : (run s source dest).Runs (fs ++ gs) r)
      (hfs : (cancelling s source dest).Path (.start source dest moment) fs g)
      (hleft : g.left = 0) (hgs : (cancelling s source dest).Path g gs h) :=
    stays_of_walk (hends.keeps.walk_rest hr hfs hgs) hleft
  exact
    { ends := hends
      quiet := fun es c g hc hp => not_isWork_of_permits (hends.keeps.of_asks hc hp)
      left := fun fs gs r g h hr hfs hleft hgs => (hafter hr hfs hleft hgs).2
      kept := fun fs gs r g h c d hr hfs hleft hgs =>
        persists_of_path (hafter hr hfs hleft hgs).1 }

/-- One of two blobs is copied when moving is cancelled: the other one is not copied any more, and
nothing is deleted. -/
theorem run_stops_midway : 0 < ({} : Settings).pollInterval.nanos ∧
    (run {} "docker" "/docker").May (cancelling {} "docker" "/docker")
      (.start "docker" "/docker" 2) fun r g =>
        (∃ e, r = .error e ∧ g.Cancels e) ∧ g.left = 0 ∧
          g.agenda = .copying { copied := ["docker/a"] } ["docker/b"] := by
  have hends := (run_stops {} (by decide) "docker" "/docker" 2).ends
  have hrun : (run {} "docker" "/docker").May (cancelling {} "docker" "/docker")
      (.start "docker" "/docker" 2) fun _ g =>
        g.left = 0 ∧ g.agenda = .copying { copied := ["docker/a"] } ["docker/b"] := by
    refine ⟨[⟨.list "docker", .ok ["docker/a", "docker/b"]⟩, ⟨.isCancelled, false⟩,
      ⟨.startCopy "docker/a" "/docker/a", .ok .success⟩, ⟨.isCancelled, true⟩],
      .error (.cancelled "blob migration"), _, ?_,
      ⟨_, rfl, _, ⟨rfl, rfl⟩, _, rfl, _, ⟨rfl, rfl⟩, rfl⟩, rfl, rfl⟩
    rw [run, moveAll, if_neg (by decide)]
    exact ⟨_, _, rfl, _, _, rfl, _, _, rfl, _, _, rfl, rfl, rfl⟩
  obtain ⟨es, r, g, hr, hp, hleft, hagenda⟩ := hrun
  refine ⟨by decide, es, r, g, hr, hp, (hends.keeps.of_runs hr hp).resolve_right ?_, hleft, hagenda⟩
  rintro ⟨hcopies, -⟩
  rw [hagenda] at hcopies
  cases hcopies

end Depot.Migration
