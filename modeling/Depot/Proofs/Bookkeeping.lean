import Depot.Proofs.Lifecycle
import Depot.Proofs.Migration

set_option autoImplicit false

/-!
# Moving blobs accounts for every blob

A name goes through up to three phases: its copy is started, a copy that takes time is awaited, and
a blob that is known to be copied is deleted. Between the phases it waits in one of two collections,
and at every point it may end as a failure. Whatever the container answers, and whenever moving is
cancelled, no name gets lost between the phases and none is dealt with twice, and a blob is deleted
only after the container confirmed its copy.

## Main definitions

* `Migration.IsConfirmed` — the container confirmed a copy.
* `Migration.IsProperList` — a listing has different names that all start in the same way.
* `Migration.Books` — the names that wait, those that were moved and those that failed.

## Main results

* `Migration.keeps_copies`, `Migration.keeps_settles`, `Migration.keeps_deletes` — what the three
  phases do to the books.
* `Migration.run_accounts` — a run deletes only confirmed copies, each once, and reports every name
  once.

## Design

The state of the contract is the trace so far, so that what a deletion depends on can be read from
it. The collection of the copies that go on is keyed by the new names; that it holds as many names
as were put into it is the injectivity of the new names.
-/

namespace Depot.Migration

open Lifecycle (isGone)

/-! ## What is known from the trace -/

/-- The container confirmed the copy of a blob: at once, or when it was asked later. -/
def IsConfirmed (es : Trace interface) (name target : String) : Prop :=
  ⟨.startCopy name target, (.ok .success : Except Error CopyState)⟩ ∈ es ∨
    ∃ fs gs, es = fs ++ gs ∧
      ⟨.startCopy name target, (.ok .pending : Except Error CopyState)⟩ ∈ fs ∧
      ⟨.copyState target, (.ok .success : Except Error CopyState)⟩ ∈ gs

/-- A blob was deleted, or was gone already. -/
def IsDeleted (es : Trace interface) (name : String) : Prop :=
  ∃ r : Except Error Unit, ⟨.delete name, r⟩ ∈ es ∧ isGone r

/-- A listing has different names that all start in the same way. -/
structure IsProperList (source : String) (names : List String) : Prop where
  /-- The names are different. -/
  nodup : names.Nodup
  /-- They start in the same way. -/
  under : ∀ name ∈ names, IsUnder source name

/-- An answer to a listing has different names that all start as asked. -/
def IsProper : Event interface → Prop
  | ⟨.list start, .ok names⟩ => IsProperList start names
  | _ => True

instance (source : String) (names : List String) : Decidable (IsProperList source names) :=
  decidable_of_iff (names.Nodup ∧ ∀ name ∈ names, IsUnder source name)
    ⟨fun h => ⟨h.1, h.2⟩, fun h => ⟨h.nodup, h.under⟩⟩

instance : DecidablePred IsProper
  | ⟨.list source, .ok names⟩ => inferInstanceAs (Decidable (IsProperList source names))
  | ⟨.list _, .error _⟩ | ⟨.startCopy .., _⟩ | ⟨.copyState _, _⟩ | ⟨.delete _, _⟩
  | ⟨.isCancelled, _⟩ | ⟨.pause _, _⟩ | ⟨.now, _⟩ => isTrue trivial

/-- A trace that goes on without a deletion. -/
def Follows (es fs : Trace interface) : Prop :=
  ∃ gs, fs = es ++ gs ∧ ∀ e ∈ gs, ∀ name, e.call ≠ .delete name

/-- Only a listed blob is deleted, once, and after the container confirmed its copy. -/
def permits (source dest : String) (es : Trace interface) : Call → Prop
  | .delete name =>
    (∃ names, ⟨.list source, (.ok names : Except Error (List String))⟩ ∈ es ∧ name ∈ names) ∧
      IsConfirmed es name (targetName name source dest) ∧ ∀ e ∈ es, e.call ≠ .delete name
  | _ => True

/-- The contract of a move that remembers the trace. -/
def books (source dest : String) : Contract interface (Trace interface) :=
  .history (permits source dest) IsProper

variable {source dest name target : String} {es fs gs : Trace interface} {p : Progress}

/-- A trace in which nothing is deleted may go on as such. -/
lemma Follows.trans (h : Follows es fs) (h' : Follows fs gs) : Follows es gs := by
  obtain ⟨hs, rfl, hhs⟩ := h
  obtain ⟨ks, rfl, hks⟩ := h'
  exact ⟨hs ++ ks, List.append_assoc .., fun e he => (List.mem_append.1 he).elim (hhs e) (hks e)⟩

/-- What happened before is part of a trace that goes on. -/
lemma Follows.mem (h : Follows es fs) {e : Event interface} (he : e ∈ es) : e ∈ fs := by
  obtain ⟨gs, rfl, -⟩ := h
  exact List.mem_append_left gs he

/-- No blob is deleted when a trace goes on without a deletion. -/
lemma Follows.delete_mem_iff (h : Follows es fs) {r : Except Error Unit} :
    ⟨.delete name, r⟩ ∈ fs ↔ ⟨.delete name, r⟩ ∈ es := by
  obtain ⟨gs, rfl, hgs⟩ := h
  rw [List.mem_append, or_iff_left fun he => hgs _ he name rfl]

/-- A copy that is confirmed stays so. -/
lemma IsConfirmed.append (hc : IsConfirmed es name target) (gs : Trace interface) :
    IsConfirmed (es ++ gs) name target := by
  rcases hc with hc | ⟨hs, ks, rfl, hstart, hstate⟩
  · exact .inl (List.mem_append_left gs hc)
  · exact .inr ⟨hs, ks ++ gs, List.append_assoc .., hstart, List.mem_append_left gs hstate⟩

/-- A copy that is confirmed stays so when the trace goes on. -/
lemma IsConfirmed.follows (hc : IsConfirmed es name target) (h : Follows es fs) :
    IsConfirmed fs name target := by
  obtain ⟨gs, rfl, -⟩ := h
  exact hc.append gs

/-- A blob that is deleted stays so. -/
lemma IsDeleted.append (hd : IsDeleted es name) (gs : Trace interface) :
    IsDeleted (es ++ gs) name := by
  obtain ⟨r, hr, hgone⟩ := hd
  exact ⟨r, List.mem_append_left gs hr, hgone⟩

/-! ## The books -/

/-- The listed names are those whose copy is not started yet, those whose copy goes on, those that
are known to be copied, those that were moved and those that failed, each once. -/
structure Books (source dest : String) (names todo : List String)
    (ongoing : List (String × String)) (known : List String) (p : Progress)
    (es : Trace interface) : Prop where
  /-- The names were listed. -/
  listed : ⟨.list source, (.ok names : Except Error (List String))⟩ ∈ es
  /-- They are different and start in the same way. -/
  proper : IsProperList source names
  /-- Every name is in one place. -/
  balanced : (todo ++ ongoing.map (·.2) ++ known ++ p.moved
    ++ p.failures.map (·.resource)).Perm names
  /-- A copy that goes on was started, and is the one of its blob. -/
  started : ∀ e ∈ ongoing, e.1 = targetName e.2 source dest ∧
    ⟨.startCopy e.2 e.1, (.ok .pending : Except Error CopyState)⟩ ∈ es
  /-- What is known to be copied was confirmed. -/
  confirmed : ∀ name ∈ known, IsConfirmed es name (targetName name source dest)
  /-- No blob was deleted that is known to be copied or may become so. -/
  undeleted : ∀ e ∈ es, ∀ name, e.call = .delete name →
    name ∉ todo ++ ongoing.map (·.2) ++ known
  /-- The blobs that were moved are those that were deleted. -/
  moved : ∀ name, name ∈ p.moved ↔ IsDeleted es name

namespace Books

variable {names todo known : List String} {ongoing : List (String × String)} {q : Progress}

/-- After the listing all names are still to do.

**Proof sketch.** The listing is the only event, so no name is copied, confirmed or deleted; the
names are those of the listing. -/
lemma start (hs : IsProperList source names) :
    Books source dest names names [] [] {}
      [⟨.list source, (.ok names : Except Error (List String))⟩] where
  listed := List.mem_singleton_self _
  proper := hs
  balanced := by simp
  started := nofun
  confirmed := nofun
  undeleted e he name hn := by
    rw [List.mem_singleton.1 he] at hn
    cases hn
  moved name := by
    refine ⟨nofun, ?_⟩
    rintro ⟨r, hr, -⟩
    cases List.mem_singleton.1 hr

/-- The books stay right while nothing is deleted.

**Proof sketch.** All that is said of events is kept when there are more, and what is said of
deletions holds as there are none. -/
lemma follows (h : Books source dest names todo ongoing known p es) (hf : Follows es fs) :
    Books source dest names todo ongoing known p fs where
  listed := hf.mem h.listed
  proper := h.proper
  balanced := h.balanced
  started e he := ⟨(h.started e he).1, hf.mem (h.started e he).2⟩
  confirmed name hn := (h.confirmed name hn).follows hf
  undeleted := by
    obtain ⟨gs, rfl, hgs⟩ := hf
    intro e he name hn
    rcases List.mem_append.1 he with he | he
    · exact h.undeleted e he name hn
    · exact absurd hn (hgs e he name)
  moved name := by
    rw [h.moved, IsDeleted, IsDeleted]
    simp only [hf.delete_mem_iff]

/-- A name is in one place only. -/
lemma nodup (h : Books source dest names todo ongoing known p es) :
    (todo ++ ongoing.map (·.2) ++ known ++ p.moved ++ p.failures.map (·.resource)).Nodup :=
  h.balanced.nodup_iff.2 h.proper.nodup

/-- A name that waits was listed. -/
lemma mem_names (h : Books source dest names todo ongoing known p es)
    (hn : name ∈ todo ++ ongoing.map (·.2) ++ known) : name ∈ names :=
  h.balanced.mem_iff.1 (List.mem_append_left _ (List.mem_append_left _ hn))

/-- A new name differs from those of the copies that go on. -/
lemma target_ne (h : Books source dest names (name :: todo) ongoing known p es)
    {e : String × String} (he : e ∈ ongoing) : e.1 ≠ targetName name source dest := by
  have hmem : e.2 ∈ ongoing.map (·.2) := List.mem_map_of_mem he
  have hne : e.2 ≠ name := by
    have hnodup := h.nodup
    simp only [List.append_assoc, List.cons_append, List.nodup_cons, List.mem_append] at hnodup
    rintro rfl
    exact hnodup.1 (.inr (.inl hmem))
  have hunder : IsUnder source e.2 :=
    h.proper.under _ (h.mem_names (List.mem_append_left _ (List.mem_append_right _ hmem)))
  have hunder' : IsUnder source name := h.proper.under _ (h.mem_names List.mem_cons_self)
  rw [(h.started e he).1]
  exact fun heq => hne (targetName_injective hunder hunder' heq)

/-- The books stay right when names that wait go from one place to another, or fail, if they are
known to be copied where that is said.

**Proof sketch.** The names that wait and those that failed are the same together, so the balance
is; that a waiting name was not deleted holds as it waited before. -/
lemma move {todo' known' : List String} {ongoing' : List (String × String)}
    (h : Books source dest names todo ongoing known p es) (gone : List String)
    (hwaiting : (todo' ++ ongoing'.map (·.2) ++ known' ++ gone).Perm
      (todo ++ ongoing.map (·.2) ++ known))
    (hfailures : q.failures.map (·.resource) = p.failures.map (·.resource) ++ gone)
    (hmoved : q.moved = p.moved)
    (hstarted : ∀ e ∈ ongoing', e ∈ ongoing ∨ e.1 = targetName e.2 source dest ∧
      ⟨.startCopy e.2 e.1, (.ok .pending : Except Error CopyState)⟩ ∈ es)
    (hconfirmed : ∀ name ∈ known', name ∈ known ∨
      IsConfirmed es name (targetName name source dest)) :
    Books source dest names todo' ongoing' known' q es where
  listed := h.listed
  proper := h.proper
  balanced := by
    refine .trans ?_ h.balanced
    rw [hmoved, hfailures, List.perm_iff_count]
    intro name
    have hname := hwaiting.count_eq name
    simp only [List.count_append] at hname ⊢
    omega
  started e he := (hstarted e he).elim (h.started e) id
  confirmed name hn := (hconfirmed name hn).elim (h.confirmed name) id
  undeleted e he name hn hmem :=
    h.undeleted e he name hn (hwaiting.mem_iff.1 (List.mem_append_left gone hmem))
  moved := hmoved ▸ h.moved

/-- A blob whose copy was started is known to be copied. -/
lemma copied (h : Books source dest names (name :: todo) ongoing known p es)
    (hc : IsConfirmed es name (targetName name source dest)) (hfailures : q.failures = p.failures)
    (hmoved : q.moved = p.moved) :
    Books source dest names todo ongoing (known ++ [name]) q es := by
  refine h.move [] ?_ (by simp [hfailures]) hmoved (fun e he => .inl he) ?_
  · rw [List.perm_iff_count]
    intro other
    simp only [List.count_append, List.count_cons, List.count_nil]
    omega
  · intro other ho
    rcases List.mem_append.1 ho with ho | ho
    · exact .inl ho
    · exact .inr (List.mem_singleton.1 ho ▸ hc)

/-- The copy of a blob goes on.

**Proof sketch.** The name goes from those to do to those whose copy goes on, and was just
started. -/
lemma began {ongoing' : List (String × String)}
    (h : Books source dest names (name :: todo) ongoing known p es)
    (ho : ongoing'.Perm ((targetName name source dest, name) :: ongoing))
    (hstart : ⟨.startCopy name (targetName name source dest),
      (.ok .pending : Except Error CopyState)⟩ ∈ es)
    (hfailures : q.failures = p.failures) (hmoved : q.moved = p.moved) :
    Books source dest names todo ongoing' known q es := by
  have hnames : (ongoing'.map (·.2)).Perm (name :: ongoing.map (·.2)) := ho.map _
  refine h.move [] ?_ (by simp [hfailures]) hmoved ?_ fun other ho => .inl ho
  · rw [List.perm_iff_count]
    intro other
    simp only [List.count_append, List.count_cons, List.count_nil, hnames.count_eq]
    omega
  · intro e he
    rcases List.mem_cons.1 (ho.mem_iff.1 he) with rfl | he
    · exact .inr ⟨rfl, hstart⟩
    · exact .inl he

/-- The copy of a blob failed. -/
lemma failed {f : Failure} (h : Books source dest names (name :: todo) ongoing known p es)
    (hf : f.resource = name) (hfailures : q.failures = p.failures ++ [f])
    (hmoved : q.moved = p.moved) : Books source dest names todo ongoing known q es := by
  refine h.move [name] ?_ (by simp [hfailures, hf]) hmoved (fun e he => .inl he)
    fun other ho => .inl ho
  rw [List.perm_iff_count]
  intro other
  simp only [List.count_append, List.count_cons, List.count_nil]
  omega

/-- A copy that went on is taken up again. -/
lemma resume (h : Books source dest names todo ((target, name) :: ongoing) known p es) :
    Books source dest names (name :: todo) ongoing known p es := by
  refine h.move [] ?_ (by simp) rfl (fun e he => .inl (List.mem_cons_of_mem _ he))
    fun other ho => .inl ho
  rw [List.perm_iff_count]
  intro other
  simp only [List.map_cons, List.count_append, List.count_cons, List.count_nil]
  omega

/-- All that is known to be copied is to be deleted.

**Proof sketch.** The name leaves those that wait and is moved or failed, so the balance stays. A
name is deleted in the longer trace if it was before or is this one with an answer which says so;
the names that still wait are others, as no name occurs twice. -/
lemma delete (h : Books source dest names [] [] (name :: known) p es) {r : Except Error Unit}
    (hmoved : q.moved = if isGone r then p.moved ++ [name] else p.moved)
    (hfailures : q.failures.map (·.resource) =
      p.failures.map (·.resource) ++ if isGone r then [] else [name]) :
    Books source dest names [] [] known q (es ++ [⟨.delete name, r⟩]) where
  listed := List.mem_append_left _ h.listed
  proper := h.proper
  balanced := by
    refine .trans ?_ h.balanced
    rw [hmoved, hfailures, List.perm_iff_count]
    intro other
    split <;> simp only [List.count_append, List.count_cons, List.count_nil] <;> omega
  started := nofun
  confirmed other ho := (h.confirmed other (List.mem_cons_of_mem _ ho)).append _
  undeleted e he other ho hmem := by
    rcases List.mem_append.1 he with he | he
    · exact h.undeleted e he other ho (List.mem_cons_of_mem _ hmem)
    · obtain rfl := List.mem_singleton.1 he
      obtain rfl := Call.delete.inj ho
      have hnodup := h.nodup
      simp only [List.append_assoc, List.nil_append, List.map_nil, List.cons_append,
        List.nodup_cons, List.mem_append] at hnodup
      exact hnodup.1 (.inl hmem)
  moved other := by
    have hdeleted : IsDeleted (es ++ [⟨.delete name, r⟩]) other ↔
        IsDeleted es other ∨ other = name ∧ isGone r := by
      constructor
      · rintro ⟨r', hr', hgone⟩
        rcases List.mem_append.1 hr' with hr' | hr'
        · exact .inl ⟨r', hr', hgone⟩
        · cases List.mem_singleton.1 hr'
          exact .inr ⟨rfl, hgone⟩
      · rintro (hd | ⟨rfl, hgone⟩)
        · exact hd.append _
        · exact ⟨r, List.mem_append_right _ (List.mem_singleton_self _), hgone⟩
    rw [hmoved, hdeleted, ← h.moved other]
    split
    · rename_i hgone
      simp [hgone]
    · rename_i hgone
      simp [hgone]

end Books

/-! ## The phases -/

section

variable {names todo : List String}

/-- A call keeps the books if it is permitted and they are right after every proper answer. -/
lemma keeps_askNext {c : Call}
    {Q : Except Error (interface.Answer c) → Progress → Trace interface → Prop} :
    Action.Keeps (books source dest) (ask c) p es Q ↔
      permits source dest es c ∧
        ∀ x, IsProper ⟨c, x⟩ → Q (.ok x) p (es ++ [⟨c, x⟩]) := by
  rw [ask, Action.keeps_perform]
  exact Prog.keeps_perform_of_step fun _ _ => Iff.rfl

/-- A call that deletes nothing may come next. -/
lemma follows_append (es : Trace interface) {c : Call} (hc : ∀ name, c ≠ .delete name)
    (x : interface.Answer c) : Follows es (es ++ [⟨c, x⟩]) := by
  refine ⟨_, rfl, fun e he name => ?_⟩
  obtain rfl := List.mem_singleton.1 he
  exact hc name

/-- Moving may be cancelled at any time. -/
lemma keeps_cancellation :
    Action.Keeps (books source dest) checkCancelled p es fun _ q fs => q = p ∧ Follows es fs := by
  rw [checkCancelled, Action.keeps_bind]
  refine keeps_askNext.2 ⟨trivial, fun cancelled _ => ?_⟩
  have hf := follows_append es (c := .isCancelled) (by simp) cancelled
  dsimp only
  split
  · exact ⟨rfl, hf⟩
  · exact ⟨rfl, hf⟩

/-- Starting a copy moves the name to another place in the books.

**Proof sketch.** If the run was not cancelled the copy is started. By the answer it is complete,
goes on, or has failed, and the name goes to the place for that. -/
lemma keeps_copyNext (name : String) (todo : List String) (p : Progress) (es : Trace interface)
    (h : Books source dest names (name :: todo) p.pending.entries p.copied p es) :
    Action.Keeps (books source dest) (copy source dest name) p es fun r q fs => r.isOk →
      Books source dest names todo q.pending.entries q.copied q fs := by
  rw [copy, Action.keeps_bind]
  refine keeps_cancellation.mono ?_
  rintro (e | _) q fs ⟨rfl, hf⟩
  · rintro ⟨⟩
  have h := h.follows hf
  dsimp only
  rw [Action.keeps_bind]
  refine keeps_askNext.2 ⟨trivial, fun x _ => ?_⟩
  have h := h.follows (follows_append _ (c := .startCopy name _) (by simp) x)
  have hmem := List.mem_append_right fs (List.mem_singleton_self
    (⟨.startCopy name (targetName name source dest), x⟩ : Event interface))
  rcases x with e | _ | _ | reason | reason
  · exact fun _ => h.failed rfl rfl rfl
  · exact fun _ => h.copied (.inl hmem) rfl rfl
  · exact fun _ => h.began (Dict.perm_insertEntry (fun e he => h.target_ne he) name) hmem rfl rfl
  · exact fun _ => h.failed rfl rfl rfl
  · exact fun _ => h.failed rfl rfl rfl

/-- **Starting the copies.** No name is left to do, and the books are right. -/
theorem keeps_copies (h : Books source dest names names p.pending.entries p.copied p es) :
    Action.Keeps (books source dest) (names.forM (copy source dest)) p es fun r q fs => r.isOk →
      Books source dest names [] q.pending.entries q.copied q fs :=
  Action.keeps_forM_rest
    (P := fun todo p es => Books source dest names todo p.pending.entries p.copied p es)
    keeps_copyNext h

/-- The trace goes on, and the container says that a copy is complete. -/
def Completes (target : String) (es fs : Trace interface) : Prop :=
  ∃ gs, fs = es ++ gs ∧ ⟨.copyState target, (.ok .success : Except Error CopyState)⟩ ∈ gs

/-- A copy that completes after a while completes from the beginning of it. -/
lemma Follows.completes (h : Follows es fs) (hc : Completes target fs gs) :
    Completes target es gs := by
  obtain ⟨hs, rfl, -⟩ := h
  obtain ⟨ks, rfl, hmem⟩ := hc
  exact ⟨hs ++ ks, List.append_assoc .., List.mem_append_right hs hmem⟩

/-- A copy that was started and is complete is confirmed. -/
lemma Completes.confirmed (hc : Completes target es fs)
    (hs : ⟨.startCopy name target, (.ok .pending : Except Error CopyState)⟩ ∈ es) :
    IsConfirmed fs name target := by
  obtain ⟨gs, rfl, hmem⟩ := hc
  exact .inr ⟨es, gs, rfl, hs, hmem⟩

variable (s : Settings)

/-- Ending a wait or going on deletes nothing. -/
lemma keeps_waitNext (target : String) (deadline errors : Nat) :
    Action.Keeps (books source dest) (continueWait s target deadline errors) p es fun r q fs =>
      q = p ∧ Follows es fs ∧ r ≠ .ok (.inr ()) := by
  rw [continueWait, Action.keeps_bind]
  refine keeps_askNext.2 ⟨trivial, fun now _ => ?_⟩
  have hf := follows_append es (c := .now) (by simp) now
  dsimp only
  split
  · exact ⟨rfl, hf, by simp⟩
  · exact ⟨rfl, hf, by simp⟩

/-- A look at a copy ends the wait well only if the container says that the copy is complete.

**Proof sketch.** The pause comes first, and a cancellation there ends the wait. Of the answers to
the look only one is that the copy is complete; all others end the wait with a failure or go on with
it. -/
lemma keeps_lookNext (target : String) (deadline errors : Nat) :
    Action.Keeps (books source dest) (look s target deadline errors) p es fun r q fs =>
      q = p ∧ Follows es fs ∧ (r = .ok (.inr ()) → Completes target es fs) := by
  rw [look, Action.keeps_bind]
  refine keeps_askNext.2 ⟨trivial, fun cancelled _ => ?_⟩
  have hf := follows_append es (c := .pause s.pollInterval) (by simp) cancelled
  dsimp only
  split
  · exact ⟨rfl, hf, by simp⟩
  rw [Action.keeps_bind]
  refine keeps_askNext.2 ⟨trivial, fun x _ => ?_⟩
  have hf' := hf.trans (follows_append _ (c := .copyState target) (by simp) x)
  have hwait (errors : Nat) {fs : Trace interface} (hf : Follows es fs) :
      Action.Keeps (books source dest) (continueWait s target deadline errors) p fs fun r q gs =>
        q = p ∧ Follows es gs ∧ (r = .ok (.inr ()) → Completes target es gs) := by
    refine (keeps_waitNext s target deadline errors).mono ?_
    rintro r q gs ⟨rfl, hg, hr⟩
    exact ⟨rfl, hf.trans hg, fun ho => absurd ho hr⟩
  rcases x with e | _ | _ | reason | reason
  · dsimp only
    split
    · exact ⟨rfl, hf', by simp⟩
    · exact hwait _ hf'
  · exact ⟨rfl, hf', fun _ => hf.completes ⟨_, rfl, List.mem_singleton_self _⟩⟩
  · exact hwait _ hf'
  · exact ⟨rfl, hf', by simp⟩
  · exact ⟨rfl, hf', by simp⟩

/-- Waiting for a copy ends well only if the container says that the copy is complete.

**Proof sketch.** The invariant of the loop is that nothing was deleted since the wait began; the
look that ends it well was answered that the copy is complete. -/
lemma keeps_wait (target : String) :
    Action.Keeps (books source dest) (awaitCopy s target) p es fun r q fs =>
      q = p ∧ Follows es fs ∧ (r = .ok () → Completes target es fs) := by
  rw [awaitCopy, Action.keeps_bind]
  refine keeps_askNext.2 ⟨trivial, fun now _ => ?_⟩
  have hf := follows_append es (c := .now) (by simp) now
  refine Action.keeps_loop (fun _ q fs => q = p ∧ Follows es fs) ⟨rfl, hf⟩ ?_
  rintro errors q fs ⟨rfl, hf⟩
  refine (keeps_lookNext s target _ errors).mono ?_
  rintro (e | _ | _) q gs ⟨rfl, hg, hr⟩
  · exact ⟨rfl, hf.trans hg, by simp⟩
  · exact ⟨rfl, hf.trans hg⟩
  · exact ⟨rfl, hf.trans hg, fun _ => hf.completes (hr rfl)⟩

/-- Settling a copy moves its name to another place in the books.

**Proof sketch.** The wait ends well only if the copy completes, which with its start confirms it. A
failure is recorded, unless it is the cancellation, and that ends the run. -/
lemma keeps_settleNext (x : String × String) (rest : List (String × String)) (p : Progress)
    (es : Trace interface) (h : Books source dest names [] (x :: rest) p.copied p es) :
    Action.Keeps (books source dest) (settle s x.1 x.2) p es fun r q fs => r.isOk →
      Books source dest names [] rest q.copied q fs := by
  obtain ⟨htarget, hstart⟩ := h.started x List.mem_cons_self
  rw [settle, Action.keeps_bind, Action.keeps_outcome]
  refine (keeps_wait s x.1).mono ?_
  rintro r q fs ⟨rfl, hf, hr⟩
  have h := (h.follows hf).resume
  dsimp only
  split
  · refine fun _ => h.copied ?_ rfl rfl
    exact htarget ▸ (hr rfl).confirmed hstart
  · rintro ⟨⟩
  · exact fun _ => h.failed rfl rfl rfl

/-- **Settling the copies that go on.** What waits now is known to be copied. -/
theorem keeps_settles
    (h : Books source dest names [] p.pending.entries p.copied p es) :
    Action.Keeps (books source dest) (p.pending.entries.forM fun x => settle s x.1 x.2) p es
      fun r q fs => r.isOk → Books source dest names [] [] q.copied q fs :=
  Action.keeps_forM_rest (P := fun rest p es => Books source dest names [] rest p.copied p es)
    (keeps_settleNext s) h

/-- Deleting a blob is permitted while its name waits, and takes it out of the books.

**Proof sketch.** The contract permits the deletion: the name was listed, its copy is confirmed, and
it was not deleted before, as it waits. By the answer it is moved or failed. -/
lemma keeps_deleteNext (name : String) (known : List String) (p : Progress)
    (es : Trace interface) (h : Books source dest names [] [] (name :: known) p es) :
    Action.Keeps (books source dest) (delete name) p es fun r q fs => r.isOk →
      Books source dest names [] [] known q fs := by
  rw [delete, Action.keeps_bind]
  refine keeps_cancellation.mono ?_
  rintro (e | _) q fs ⟨rfl, hf⟩
  · rintro ⟨⟩
  have h := h.follows hf
  dsimp only
  rw [Action.keeps_bind]
  refine keeps_askNext.2 ⟨⟨⟨names, h.listed, h.mem_names List.mem_cons_self⟩,
    h.confirmed name List.mem_cons_self, ?_⟩, fun x _ => ?_⟩
  · intro e he hdelete
    exact h.undeleted e he name hdelete List.mem_cons_self
  · rcases x with e | _
    · dsimp only
      split
      · rename_i hgone
        have hgone : isGone (.error e) = true := hgone
        refine fun _ => h.delete ?_ ?_
        · exact (if_pos hgone).symm
        · simp [hgone]
      · rename_i hgone
        have hgone : ¬ isGone (.error e) = true := hgone
        refine fun _ => h.delete ?_ ?_
        · exact (if_neg hgone).symm
        · simp [hgone, Failure.ofError]
    · exact fun _ => h.delete rfl (List.append_nil _).symm

/-- **Deleting what is known to be copied.** No name waits any more. -/
theorem keeps_deletes (h : Books source dest names [] [] p.copied p es) :
    Action.Keeps (books source dest) (p.copied.forM delete) p es fun r q fs => r.isOk →
      Books source dest names [] [] [] q fs :=
  Action.keeps_forM_rest (P := fun known p es => Books source dest names [] [] known p es)
    keeps_deleteNext h

/-- A listing opens the books. -/
lemma keeps_listNext :
    Action.Keeps (books source dest) (list source) {} [] fun r p fs => ∀ names, r = .ok names →
      Books source dest names names p.pending.entries p.copied p fs := by
  refine Action.keeps_attempt.2 ⟨trivial, ?_⟩
  rintro r _ ⟨hproper, rfl⟩ names rfl
  exact .start hproper

/-- **Moving keeps the books.** When all went through, no name waits any more, and the report says
what the books say.

**Proof sketch.** The books are right after the listing. The three loops lead the names from one
place to the next, each until there are none left in its own, and an error ends the run without a
report. -/
lemma keeps_accounts :
    Action.Keeps (books source dest) (moveAll s source dest) {} [] fun r _ fs =>
      ∀ report, r = .ok report → ∃ names p, Books source dest names [] [] [] p fs ∧
        report = ⟨p.moved, p.failures⟩ := by
  rw [moveAll]
  split
  · rintro _ ⟨⟩
  rw [Action.keeps_bind]
  refine keeps_listNext.mono ?_
  rintro (e | names) p fs h
  · rintro _ ⟨⟩
  dsimp only
  rw [Action.keeps_bind]
  refine (keeps_copies (h names rfl)).mono ?_
  rintro (e | _) p fs h
  · rintro _ ⟨⟩
  dsimp only
  rw [Action.keeps_bind, Action.keeps_get]
  dsimp only
  rw [Action.keeps_bind]
  refine (keeps_settles s (h rfl)).mono ?_
  rintro (e | _) p fs h
  · rintro _ ⟨⟩
  dsimp only
  rw [Action.keeps_bind, Action.keeps_get]
  dsimp only
  rw [Action.keeps_bind]
  refine (keeps_deletes (h rfl)).mono ?_
  rintro (e | _) p fs h
  · rintro _ ⟨⟩
  dsimp only
  rw [Action.keeps_bind, Action.keeps_get]
  rintro report hr
  exact ⟨names, p, h rfl, (Except.ok.inj hr).symm⟩

end

/-! ## Main result -/

/-- The error of a move to names that start as before. -/
def unmoved (source : String) : Error :=
  .configuration ("source and destination prefixes are both " ++ Text.quoted source)

/-- **Moving accounts for every blob.** Take any settings, any two beginnings of names, and any
answers of the container and the clock, among them that moving was cancelled; only listings have
different names that start as asked.

A blob is deleted only if it was listed, if the container confirmed the copy under its new name,
either at once or when asked later, and if it was not deleted before. A run that ends with a report
has listed the blobs, reports each of them once, as moved or as failed, and those as moved whose
deletion succeeded or found them gone. Between beginnings that are the same, nothing is asked at all
and the run fails.

**Proof sketch.** The books say where every name waits, and each step of the three phases moves a
name to another place in them. What waits to be deleted was confirmed, and what waits was not
deleted (`Books`). At the end nothing waits (`keeps_accounts`). -/
theorem run_accounts (s : Settings) (source dest : String) (es : Trace interface)
    (hproper : ∀ e ∈ es, IsProper e) :
    (∀ name, (run s source dest).Asks es (.delete name) →
      (∃ names, ⟨.list source, (.ok names : Except Error (List String))⟩ ∈ es ∧ name ∈ names) ∧
        IsConfirmed es name (targetName name source dest) ∧ ∀ e ∈ es, e.call ≠ .delete name) ∧
    (∀ report, (run s source dest).Runs es (.ok report) →
      ∃ names, ⟨.list source, (.ok names : Except Error (List String))⟩ ∈ es ∧ names.Nodup ∧
        (report.moved ++ report.failures.map (·.resource)).Perm names ∧
        ∀ name, name ∈ report.moved ↔ IsDeleted es name) ∧
    (source = dest → (∀ c, ¬ (run s source dest).Asks es c) ∧
      ∀ r, (run s source dest).Runs es r ↔ es = [] ∧ r = .error (unmoved source)) := by
  have hkeeps : (run s source dest).Keeps (books source dest) [] fun r fs =>
      ∀ report, r = .ok report → ∃ names p, Books source dest names [] [] [] p fs ∧
        report = ⟨p.moved, p.failures⟩ := Prog.keeps_bind.2 (keeps_accounts s)
  have hpath : (books source dest).Path [] es es :=
    (Contract.path_history [] es es).2 ⟨rfl, hproper⟩
  refine ⟨fun name ha => hkeeps.of_asks ha hpath, fun report hr => ?_, ?_⟩
  · obtain ⟨names, p, hbooks, rfl⟩ := hkeeps.of_runs hr hpath report rfl
    exact ⟨names, hbooks.listed, hbooks.proper.nodup, hbooks.balanced, hbooks.moved⟩
  · rintro rfl
    have hrun : run s source source = .pure (.error (unmoved source)) := by
      rw [run, moveAll, if_pos rfl]
      rfl
    rw [hrun]
    exact ⟨fun c hc => hc, fun r => and_congr_right' eq_comm⟩

/-- The answers of a container with two blobs, one of which cannot be copied. -/
def halfway (_ : Trace interface) : (c : Call) → interface.Answer c
  | .list _ => .ok ["a/x", "a/y"]
  | .startCopy name _ => if name = "a/x" then .ok .pending else .error (.internal "refused")
  | .copyState _ => .ok .success
  | .delete _ => .ok ()
  | .isCancelled => false
  | .pause _ => false
  | .now => ⟨0⟩

/-- The blob that can be copied is deleted once its copy is confirmed, and both are reported. -/
theorem run_accounts_halfway :
    ∃ es e report, (run {} "a/" "b/").Runs (es ++ [e]) (.ok report) ∧ e.call = .delete "a/x" ∧
      IsConfirmed es "a/x" "b/x" ∧ IsDeleted (es ++ [e]) "a/x" ∧ ∃ names, names.Nodup ∧
        (report.moved ++ report.failures.map (·.resource)).Perm names := by
  obtain ⟨fs, r, hr, hproper, hlast, hreport⟩ :=
    Prog.exists_runs_of_run halfway 2 (run {} "a/" "b/")
      (fun es r => (∀ e ∈ es, IsProper e) ∧
        (es.getLast?.any fun e => (e.call : Call) == .delete "a/x") ∧
        r.toOption.any ("a/x" ∈ ·.moved)) (by decide +kernel)
  obtain ⟨e, he, hcall⟩ := (Option.any_eq_true ..).1 hlast
  obtain ⟨es, rfl⟩ := List.getLast?_eq_some_iff.1 he
  have hcall : e.call = .delete "a/x" := @eq_of_beq Call _ _ _ _ hcall
  obtain _ | report := r
  · cases hreport
  have hmoved : "a/x" ∈ report.moved := of_decide_eq_true hreport
  obtain ⟨names, -, hnodup, hperm, hdeleted⟩ :=
    (run_accounts {} "a/" "b/" (es ++ [e]) hproper).2.1 report hr
  have hasked : (run {} "a/" "b/").Asks es (.delete "a/x") := hcall ▸ hr.asks
  have hconfirmed := ((run_accounts {} "a/" "b/" es fun e he =>
    hproper e (List.mem_append_left _ he)).1 "a/x" hasked).2.1
  exact ⟨es, e, report, hr, hcall, hconfirmed, (hdeleted _).1 hmoved, names, hnodup, hperm⟩

end Depot.Migration
