import Depot.Proofs.Execution
import Depot.Proofs.Ownership
import Depot.Proofs.Tagging

set_option autoImplicit false

/-!
# What the binding of tags does

The binding of tags meets a cloud that may answer each call in any way. Its runs are described in
three layers, one for each of its loops: the pages of the listing, the tags that are missing, and
the tries for one of them.

## Main definitions

* `Gcs.Binding.Reads` — the calls that read the tags in effect.
* `Gcs.Binding.Tries` — the calls that try to bind a tag, and how they end.
* `Gcs.Binding.Turn` — what is done about one tag.
* `Gcs.Binding.Binds` — the calls of a whole run, and its result.
* `Gcs.Binding.ticking` — the contract of a stopwatch that does not stand still.

## Main results

* `Gcs.Binding.bind_exact` — every run has this form, and a run on what it left binds nothing.
-/

namespace Depot

/-- The call is one to a timer: it asks for its time or waits on it. -/
def World.Call.IsTimer : World.Call → Prop
  | .now | .sleep _ => True
  | _ => False

namespace Gcs

/-! ## Traces -/

namespace Binding

/-- The call that reads a page of the tags in effect, with its answer. -/
def readPage (resource : String) (token : Option String) (x : Except Error TagPage) :
    Event World :=
  ⟨.gcs (.listEffectiveTags resource token), x⟩

/-- The call that binds a tag, with its answer. -/
def write (resource value : String) (x : Except Error Unit) : Event World :=
  ⟨.gcs (.createBinding resource value), x⟩

/-- The tags on the page that an answered call read, if it read one. -/
def found : Event World → List String
  | ⟨.gcs (.listEffectiveTags _ _), x⟩ =>
    match (x : Except Error TagPage) with
    | .ok page => page.values
    | .error _ => []
  | _ => []

/-- The tags on all pages that were read. -/
def reported (es : Trace World) : List String := es.flatMap found

/-- The call binds a tag. -/
def IsWrite : World.Call → Prop
  | .gcs (.createBinding _ _) => True
  | _ => False

/-- A look at a timer binds nothing. -/
lemma IsTimer.not_isWrite {c : World.Call} (h : c.IsTimer) : ¬ IsWrite c := by
  rintro hw
  cases c <;> first | exact hw | exact h

/-- What two traces one after another report is what each reports. -/
lemma reported_append (es fs : Trace World) :
    reported (es ++ fs) = reported es ++ reported fs := List.flatMap_append

/-! ## Reading -/

/-- The calls that read at most some number of pages from a token on. -/
inductive Reads (resource : String) : Nat → Option String → Trace World → Prop where
  /-- No more pages are read. -/
  | exhausted (token : Option String) : Reads resource 0 token []
  /-- An error ends the listing. -/
  | failed (pages : Nat) (token : Option String) (e : Error) :
    Reads resource (pages + 1) token [readPage resource token (.error e)]
  /-- A page with no token or with an empty one ends the listing. -/
  | last (pages : Nat) (token : Option String) {page : TagPage}
    (h : page.next = none ∨ page.next = some "") :
    Reads resource (pages + 1) token [readPage resource token (.ok page)]
  /-- After any other page the next one is read. -/
  | next {pages : Nat} (token : Option String) {page : TagPage} {after : String}
    {es : Trace World} (h : page.next = some after) (hne : after ≠ "")
    (hes : Reads resource pages (some after) es) :
    Reads resource (pages + 1) token (readPage resource token (.ok page) :: es)

variable {resource : String}

/-- No more pages are read than are allowed. -/
lemma Reads.length_le {pages : Nat} {token : Option String} {es : Trace World}
    (h : Reads resource pages token es) : es.length ≤ pages := by
  induction h with
  | exhausted => exact Nat.le_refl 0
  | failed => exact Nat.succ_le_succ (Nat.zero_le _)
  | last => exact Nat.succ_le_succ (Nat.zero_le _)
  | next _ _ _ _ ih => exact Nat.succ_le_succ ih

/-- Nothing is bound while the tags in effect are read. -/
lemma Reads.not_isWrite {pages : Nat} {token : Option String} {es : Trace World}
    (h : Reads resource pages token es) : ∀ e ∈ es, ¬ IsWrite e.call := by
  induction h with
  | exhausted => exact fun _ h => nomatch h
  | failed => exact List.forall_mem_singleton.2 id
  | last => exact List.forall_mem_singleton.2 id
  | next _ _ _ _ ih => exact List.forall_mem_cons.2 ⟨id, ih⟩

variable {σ : Type} {t t' : σ} {es : Trace World}

/-- The tags in effect are read as described, and the answer is what the pages hold.

**Proof sketch.** By induction on the pages that may be read. A listing that fails is the end; a
page without a next one is the last; otherwise what the other pages hold follows what this one
does. -/
lemma runs_effectiveFrom {pages : Nat} {token : Option String}
    {r : Except Error (List String)}
    (h : Action.Runs (effectiveFrom resource pages token) t es r t') :
    t' = t ∧ r = .ok (reported es) ∧ Reads resource pages token es := by
  induction pages generalizing token es r with
  | zero =>
    obtain ⟨rfl, rfl, rfl⟩ := Action.runs_pure.1 h
    exact ⟨rfl, rfl, .exhausted token⟩
  | succ pages ih =>
    rw [effectiveFrom] at h
    obtain ⟨e | page, fs, rfl, hrun⟩ := Action.runs_call.1 h
    · obtain ⟨rfl, rfl, rfl⟩ := Action.runs_pure.1 hrun
      exact ⟨rfl, rfl, .failed pages token e⟩
    · dsimp only at hrun
      split at hrun
      · rename_i hnext
        obtain ⟨rfl, rfl, rfl⟩ := Action.runs_pure.1 hrun
        refine ⟨rfl, by rw [reported, List.flatMap_singleton]; rfl, .last pages token ?_⟩
        cases hp : page.next with
        | none => exact .inl rfl
        | some after =>
          rw [hp] at hnext
          exact .inr (by simpa [nextToken?] using hnext)
      · rename_i after hnext
        obtain ⟨hafter, hne⟩ := Option.filter_eq_some_iff.1 hnext
        obtain ⟨values, _, fs, _, rfl, hfs, hrun⟩ | ⟨e, -, hfs⟩ := Action.runs_bind.1 hrun
        · obtain ⟨rfl, rfl, rfl⟩ := Action.runs_pure.1 hrun
          obtain ⟨rfl, hvalues, hreads⟩ := ih hfs
          cases hvalues
          rw [List.append_nil]
          exact ⟨rfl, rfl, .next token hafter (of_decide_eq_true hne) hreads⟩
        · cases (ih hfs).2.1

/-! ## One tag -/

/-- A tag that is bound, also if it was before. -/
def Counts (x : Except Error Unit) : Prop :=
  x = .ok () ∨ ∃ e, x = .error e ∧ (e.isConflict ∨ e.isAlreadyExists)

/-- The calls that try to bind a tag since the stopwatch was started, with a mean of the next wait,
and how they end. -/
inductive Tries (b : Backoff) (resource value : String) (start : Span) :
    Span → Trace World → Except Error Unit → Prop where
  /-- The tag is bound. -/
  | bound (mean : Span) {x : Except Error Unit} (h : Counts x) :
    Tries b resource value start mean [write resource value x] (.ok ())
  /-- Any failure but too many calls is final. -/
  | refused (mean : Span) {e : Error} (hc : ¬ Counts (.error e)) (ht : ¬ e.isThrottled) :
    Tries b resource value start mean [write resource value (.error e)] (.error e)
  /-- After too many calls it is tried again if there is time left for the next wait. -/
  | again {mean now : Span} {word : Nat} {e : Error} {es : Trace World}
    {r : Except Error Unit} (ht : e.isThrottled)
    (hin : now.nanos - start.nanos + (b.pick mean word).nanos ≤ b.limit.nanos)
    (hes : Tries b resource value start (b.grow mean) es r) :
    Tries b resource value start mean
      (write resource value (.error e) :: ⟨.stopwatch, now⟩ :: ⟨.randomWord, word⟩ ::
        ⟨.sleep (b.pick mean word), ()⟩ :: es) r
  /-- Too many calls are a failure if there is no time left. -/
  | spent {mean now : Span} {word : Nat} {e : Error} (ht : e.isThrottled)
    (hover : b.limit.nanos < now.nanos - start.nanos + (b.pick mean word).nanos) :
    Tries b resource value start mean
      [write resource value (.error e), ⟨.stopwatch, now⟩, ⟨.randomWord, word⟩] (.error e)

variable {b : Backoff} {value : String} {start mean : Span} {r : Except Error Unit}

/-- No tags are read while one is tried. -/
lemma Tries.reported_eq (h : Tries b resource value start mean es r) : reported es = [] := by
  induction h with
  | bound => rfl
  | refused => rfl
  | again _ _ _ ih => exact ih
  | spent => rfl

/-- One try is a call.

**Proof sketch.** The call is answered, and its answer counts as bound, is a throttling, or is
another error; each gives another outcome of the try. -/
lemma runs_tryBind {a : Except Error (Backoff.Attempt Unit)}
    (h : Action.Runs (tryBind resource value) t es a t') :
    t' = t ∧ ∃ x, es = [write resource value x] ∧
      ((Counts x ∧ a = .ok (.done ())) ∨
        ∃ e, x = .error e ∧ ¬ Counts x ∧
          a = .ok (if e.isThrottled then .again e else .failed e)) := by
  rw [tryBind] at h
  obtain ⟨e | _, fs, rfl, hrun⟩ := Action.runs_call.1 h
  · dsimp only at hrun
    split at hrun
    · rename_i hc
      obtain ⟨rfl, rfl, rfl⟩ := Action.runs_pure.1 hrun
      refine ⟨rfl, _, rfl, .inl ⟨.inr ⟨e, rfl, ?_⟩, rfl⟩⟩
      simpa using hc
    · rename_i hc
      have hc : ¬ Counts (.error e) := by
        rintro (h | ⟨_, h, hd⟩)
        · cases h
        · cases h
          exact hc (by simpa using hd)
      split at hrun
      · rename_i ht
        obtain ⟨rfl, rfl, rfl⟩ := Action.runs_pure.1 hrun
        exact ⟨rfl, _, rfl, .inr ⟨e, rfl, hc, by rw [if_pos ht]⟩⟩
      · rename_i ht
        obtain ⟨rfl, rfl, rfl⟩ := Action.runs_pure.1 hrun
        exact ⟨rfl, _, rfl, .inr ⟨e, rfl, hc, by rw [if_neg ht]⟩⟩
  · obtain ⟨rfl, rfl, rfl⟩ := Action.runs_pure.1 hrun
    exact ⟨rfl, _, rfl, .inl ⟨.inl rfl, rfl⟩⟩

/-- A tag is tried as described.

**Proof sketch.** By the rule for loops (`Action.runs_loop`). A round is a try; it ends the loop
unless the call was throttled, and then the stopwatch and a wait come before the next round, or the
time is spent. -/
lemma runs_bindOne {s : Settings} (h : Action.Runs (bindOne s resource value) t es r t') :
    t' = t ∧ ∃ start fs, es = ⟨.stopwatch, start⟩ :: fs ∧
      Tries s.backoff resource value start s.initialRetry fs r := by
  rw [bindOne, Backoff.retry] at h
  obtain ⟨start, fs, rfl, hloop⟩ := Action.runs_call.1 h
  suffices hs : t' = t ∧ Tries s.backoff resource value start s.backoff.initial fs r from
    ⟨hs.1, start, fs, rfl, hs.2⟩
  refine Action.runs_loop
    (P := fun mean t es r t' => t' = t ∧ Tries s.backoff resource value start mean es r)
    ?_ hloop
  intro mean t es o t' hround
  obtain ⟨a, _, gs, hs, rfl, htry, hrest⟩ | ⟨e, rfl, htry⟩ := Action.runs_bind.1 hround
  · obtain ⟨rfl, x, rfl, ⟨hc, ha⟩ | ⟨e, rfl, hc, ha⟩⟩ := runs_tryBind htry
    · cases ha
      obtain ⟨rfl, rfl, rfl⟩ := Action.runs_pure.1 hrest
      exact ⟨rfl, .bound mean hc⟩
    · split at ha
      · rename_i ht
        cases ha
        dsimp only at hrest
        obtain ⟨now, _, rfl, hword⟩ := Action.runs_call.1 hrest
        obtain ⟨word, _, rfl, hwait⟩ := Action.runs_call.1 hword
        split at hwait
        · rename_i hin
          obtain ⟨_, _, rfl, hend⟩ := Action.runs_call.1 hwait
          obtain ⟨rfl, rfl, rfl⟩ := Action.runs_pure.1 hend
          exact And.imp_right (.again ht hin.2)
        · rename_i hover
          obtain ⟨rfl, rfl, rfl⟩ := Action.runs_throw.1 hwait
          refine ⟨rfl, .spent ht ?_⟩
          omega
      · rename_i ht
        cases ha
        obtain ⟨rfl, rfl, rfl⟩ := Action.runs_throw.1 hrest
        exact ⟨rfl, .refused mean hc ht⟩
  · obtain ⟨-, x, -, ⟨-, ha⟩ | ⟨e, -, -, ha⟩⟩ := runs_tryBind htry
    · cases ha
    · cases ha

/-! ## One tag after another -/

/-- What is done about one tag. -/
structure Turn where
  /-- The tag. -/
  value : String
  /-- The calls that are made for it. -/
  trace : Trace World
  /-- How it ends. -/
  outcome : Except Error Unit

/-- The turn waits for a permit, starts the stopwatch and tries the tag. -/
def Turn.Follows (s : Settings) (resource : String) (u : Turn) : Prop :=
  ∃ permit start es, u.trace = permit ++ ⟨.stopwatch, start⟩ :: es ∧
    (∀ e ∈ permit, e.call.IsTimer) ∧
    Tries s.backoff resource u.value start s.initialRetry es u.outcome

/-- The record of a turn that failed. -/
def Turn.failure? (u : Turn) : Option Failure :=
  match u.outcome with
  | .ok () => none
  | .error e => some (Failure.ofError "bind-tag" u.value e)

/-- The records of the turns that failed. -/
def failures (turns : List Turn) : List Failure := turns.filterMap Turn.failure?

/-- No tags are read while timers are looked at. -/
lemma reported_timers (h : ∀ e ∈ es, e.call.IsTimer) : reported es = [] := by
  refine List.flatMap_eq_nil_iff.2 fun e he => ?_
  obtain ⟨_ | _ | _ | _ | _ | _ | _ | _ | _ | _ | _ | _ | _ | _, x⟩ := e
  all_goals first | rfl | exact (h _ he).elim

/-- No tags are read in a turn. -/
lemma Turn.Follows.reported_eq {s : Settings} {u : Turn} (h : u.Follows s resource) :
    reported u.trace = [] := by
  obtain ⟨permit, start, es, htrace, htimer, htries⟩ := h
  rw [htrace, reported_append, reported_timers htimer]
  exact htries.reported_eq

/-- Waiting for a permit only looks at timers.

**Proof sketch.** A permit takes a look at the clock, a wait if it is too early, and another
look. -/
lemma runs_acquire {p : Pacer} {a : Except Error Pacer}
    (h : Action.Runs p.acquire t es a t') :
    t' = t ∧ (∃ p', a = .ok p') ∧ ∀ e ∈ es, e.call.IsTimer := by
  rw [Pacer.acquire] at h
  obtain ⟨now, fs, rfl, hwait⟩ := Action.runs_call.1 h
  dsimp only at hwait
  split at hwait
  · obtain ⟨_, gs, rfl, hlate⟩ := Action.runs_call.1 hwait
    obtain ⟨later, _, rfl, hend⟩ := Action.runs_call.1 hlate
    obtain ⟨rfl, rfl, rfl⟩ := Action.runs_pure.1 hend
    exact ⟨rfl, ⟨_, rfl⟩, by simp [World.Call.IsTimer]⟩
  · obtain ⟨later, _, rfl, hend⟩ := Action.runs_call.1 hwait
    obtain ⟨rfl, rfl, rfl⟩ := Action.runs_pure.1 hend
    exact ⟨rfl, ⟨_, rfl⟩, by simp [World.Call.IsTimer]⟩

/-- Every tag has its turn, whatever becomes of the others.

**Proof sketch.** By induction on the tags. A turn is the permit, the look at the stopwatch and the
tries for the tag; its outcome is taken as a value, so the others have their turn in any case, and a
failure is recorded in front of theirs. -/
lemma runs_bindEach {s : Settings} {pacer : Pacer} {values : List String}
    {a : Except Error (List String × List Failure)}
    (h : Action.Runs (bindEach s resource pacer values) t es a t') :
    t' = t ∧ ∃ turns bound, es = turns.flatMap Turn.trace ∧
      turns.map Turn.value = values ∧ (∀ u ∈ turns, u.Follows s resource) ∧
      a = .ok (bound, failures turns) ∧ (failures turns = [] → bound = values) := by
  induction values generalizing pacer t t' es a with
  | nil =>
    obtain ⟨rfl, rfl, rfl⟩ := Action.runs_pure.1 h
    exact ⟨rfl, [], [], rfl, rfl, nofun, rfl, fun _ => rfl⟩
  | cons value rest ih =>
    rw [bindEach] at h
    obtain ⟨pacer', _, permit, _, rfl, hpermit, h₁⟩ | ⟨e, -, hpermit⟩ := Action.runs_bind.1 h
    · obtain ⟨rfl, -, htimer⟩ := runs_acquire hpermit
      obtain ⟨outcome, _, _, gs, rfl, hone, h₂⟩ | ⟨e, -, hone⟩ := Action.runs_bind.1 h₁
      · obtain ⟨_, ho, htry⟩ := Action.runs_outcome.1 hone
        cases ho
        obtain ⟨rfl, start, fs, rfl, htries⟩ := runs_bindOne htry
        obtain ⟨⟨bound, failed⟩, _, gs, _, rfl, hrest, h₃⟩ | ⟨e, -, hrest⟩ :=
          Action.runs_bind.1 h₂
        · obtain ⟨rfl, turns, _, rfl, hvalues, hfollows, ha, hall⟩ := ih hrest
          cases ha
          let turn : Turn := ⟨value, permit ++ ⟨.stopwatch, start⟩ :: fs, outcome⟩
          have hturn : turn.Follows s resource := ⟨permit, start, fs, rfl, htimer, htries⟩
          have hmap : (turn :: turns).map Turn.value = value :: rest := congrArg _ hvalues
          cases outcome with
          | ok _ =>
            obtain ⟨rfl, rfl, rfl⟩ := Action.runs_pure.1 h₃
            exact ⟨rfl, turn :: turns, value :: bound, by simp [turn], hmap,
              List.forall_mem_cons.2 ⟨hturn, hfollows⟩, rfl, fun h => congrArg _ (hall h)⟩
          | error e =>
            obtain ⟨rfl, rfl, rfl⟩ := Action.runs_pure.1 h₃
            exact ⟨rfl, turn :: turns, bound, by simp [turn], hmap,
              List.forall_mem_cons.2 ⟨hturn, hfollows⟩, rfl,
              fun h => absurd h (List.cons_ne_nil _ _)⟩
        · obtain ⟨-, _, _, -, -, -, ha, -⟩ := ih hrest
          cases ha
      · obtain ⟨_, ho, -⟩ := Action.runs_outcome.1 hone
        cases ho
    · obtain ⟨-, ⟨_, ha⟩, -⟩ := runs_acquire hpermit
      cases ha

/-! ## A whole run -/

/-- The calls of a run that binds the tags which are wanted, and its result: the tags in effect are
read, and then every tag that is missing has its turn. -/
structure Binds (s : Settings) (resource : String) (wanted : List GcpTag) (es : Trace World)
    (r : Except Error (List String)) (turns : List Turn) : Prop where
  /-- After the listing a timer is looked at, and the turns follow. -/
  trace : ∃ listing opening, es = listing ++ opening ++ turns.flatMap Turn.trace ∧
    Reads resource maxPages none listing ∧ listing.length ≤ 50 ∧ ∀ e ∈ opening, e.call.IsTimer
  /-- The turns are those of the tags that are missing on the pages which were read. -/
  values : turns.map Turn.value = pending wanted (reported es)
  /-- In each turn the tag is tried. -/
  follows : ∀ u ∈ turns, u.Follows s resource
  /-- If no turn failed the result is the tags that were missing. -/
  succeeds : failures turns = [] → r = .ok (pending wanted (reported es))
  /-- Otherwise it is the records of the turns that failed. -/
  fails : failures turns ≠ [] → r = .error (.aggregate (failures turns))

/-- The tags that are missing ascend. -/
lemma pending_ascending (wanted : List GcpTag) (inEffect : List String) :
    (pending wanted inEffect).Pairwise (· < ·) :=
  List.pairwise_map.2 (Dict.ascending _)

/-- The pages that are read are those of the listing. -/
lemma reported_run {listing opening : Trace World} {turns : List Turn} {s : Settings}
    (hopening : ∀ e ∈ opening, e.call.IsTimer) (hturns : ∀ u ∈ turns, u.Follows s resource) :
    reported (listing ++ opening ++ turns.flatMap Turn.trace) = reported listing := by
  have hnone : reported (turns.flatMap Turn.trace) = [] := by
    rw [reported, List.flatMap_assoc]
    exact List.flatMap_eq_nil_iff.2 fun u hu => (hturns u hu).reported_eq
  rw [reported_append, reported_append, reported_timers hopening, hnone, List.append_nil,
    List.append_nil]

/-- What is bound is the result unless there were failures.

**Proof sketch.** Without a failure the action goes on to its value; otherwise the aggregate ends
it. -/
lemma runs_verdict {bound : List String} {failed : List Failure}
    {a : Except Error (List String)}
    (h : Action.Runs (do Action.ofExcept (Error.ofFailures failed); return bound) t es a t') :
    t' = t ∧ es = [] ∧ (failed = [] → a = .ok bound) ∧
      (failed ≠ [] → a = .error (.aggregate failed)) := by
  cases failed with
  | nil =>
    obtain ⟨_, _, _, _, rfl, hok, hend⟩ | ⟨e, -, hfail⟩ := Action.runs_bind.1 h
    · obtain ⟨rfl, -, rfl⟩ := Action.runs_ofExcept.1 hok
      obtain ⟨rfl, rfl, rfl⟩ := Action.runs_pure.1 hend
      exact ⟨rfl, rfl, fun _ => rfl, fun h => absurd rfl h⟩
    · cases (Action.runs_ofExcept.1 hfail).2.1
  | cons f fs =>
    obtain ⟨_, _, _, _, rfl, hok, -⟩ | ⟨e, rfl, hfail⟩ := Action.runs_bind.1 h
    · cases (Action.runs_ofExcept.1 hok).2.1
    · obtain ⟨rfl, he, rfl⟩ := Action.runs_ofExcept.1 hfail
      cases he
      exact ⟨rfl, rfl, nofun, fun _ => rfl⟩

/-- **Every run binds as described.**

**Proof sketch.** A run reads the tags in effect, of which at most 50 pages, and ends there if no
tag is missing. Otherwise the clock opens the pacer, every missing tag has its turn, and the outcome
is told by the failures (`runs_verdict`). What is reported in the run is what was read at its
beginning, as no turn reads tags. -/
lemma runs_bind {s : Settings} {wanted : List GcpTag} {a : Except Error (List String)}
    (h : Action.Runs (bind s resource wanted) t es a t') :
    t' = t ∧ ∃ turns, Binds s resource wanted es a turns := by
  rw [bind] at h
  obtain ⟨values, _, listing, gs, rfl, hlisting, h₁⟩ | ⟨e, -, hlisting⟩ :=
    Action.runs_bind.1 h
  · obtain ⟨rfl, hvalues, hreads⟩ := runs_effectiveFrom hlisting
    have hfew : listing.length ≤ 50 := hreads.length_le
    cases hvalues
    dsimp only at h₁
    split at h₁
    · rename_i hempty
      obtain ⟨rfl, rfl, rfl⟩ := Action.runs_pure.1 h₁
      have hnone := List.isEmpty_iff.1 hempty
      rw [List.append_nil]
      exact ⟨rfl, [], ⟨⟨listing, [], by simp, hreads, hfew, List.forall_mem_nil _⟩, hnone.symm,
        List.forall_mem_nil _, fun _ => congrArg _ hnone.symm, fun h => absurd rfl h⟩⟩
    · obtain ⟨pacer, _, opening, gs, rfl, hopening, h₂⟩ | ⟨e, -, hopening⟩ :=
        Action.runs_bind.1 h₁
      · obtain ⟨now, _, rfl, hpacer⟩ := Action.runs_call.1 hopening
        obtain ⟨rfl, hp, rfl⟩ := Action.runs_pure.1 hpacer
        obtain ⟨⟨bound, failed⟩, _, es, hs, rfl, heach, h₃⟩ | ⟨e, -, heach⟩ :=
          Action.runs_bind.1 h₂
        · obtain ⟨rfl, turns, _, rfl, hmap, hfollows, ha, hall⟩ := runs_bindEach heach
          cases ha
          obtain ⟨rfl, rfl, hok, hfail⟩ := runs_verdict h₃
          have htimer : ∀ e ∈ [(⟨.now, now⟩ : Event World)], e.call.IsTimer :=
            List.forall_mem_singleton.2 trivial
          rw [List.append_nil, ← List.append_assoc]
          refine ⟨rfl, turns, ⟨⟨listing, _, rfl, hreads, hfew, htimer⟩, ?_, hfollows, ?_, hfail⟩⟩
          · rw [reported_run htimer hfollows, hmap]
          · intro hnone
            rw [reported_run htimer hfollows, hok hnone, hall hnone]
        · obtain ⟨-, _, _, -, -, -, ha, -⟩ := runs_bindEach heach
          cases ha
      · obtain ⟨now, _, -, hpacer⟩ := Action.runs_call.1 hopening
        cases (Action.runs_pure.1 hpacer).2.1
  · cases (runs_effectiveFrom hlisting).2.1

/-- Nothing is bound if nothing is missing. -/
lemma Binds.of_pending_eq_nil {s : Settings} {wanted : List GcpTag}
    {a : Except Error (List String)} {turns : List Turn} (h : Binds s resource wanted es a turns)
    (hnone : pending wanted (reported es) = []) :
    a = .ok [] ∧ ∀ e ∈ es, ¬ IsWrite e.call := by
  obtain rfl : turns = [] := List.map_eq_nil_iff.1 (h.values.trans hnone)
  obtain ⟨listing, opening, rfl, hreads, -, htimer⟩ := h.trace
  refine ⟨(h.succeeds rfl).trans (congrArg _ hnone), ?_⟩
  rw [List.flatMap_nil, List.append_nil]
  refine List.forall_mem_append.2 ⟨hreads.not_isWrite, fun e he => ?_⟩
  exact IsTimer.not_isWrite (htimer e he)

/-! ## The end of a run -/

/-- The contract of a stopwatch that does not stand still; its state is the last time it showed. -/
def ticking : Contract World Nat where
  permits _ _ := True
  step g c x g' :=
    match c with
    | .stopwatch => g < (x : Span).nanos ∧ g' = (x : Span).nanos
    | _ => g' = g

/-- The action comes to an end if the stopwatch does not stand still. -/
def Halts {α : Type} (a : Operating σ α) : Prop :=
  ∀ t g, Action.Ends ticking a t g fun _ _ _ => True

/-- Every call may be made. -/
lemma halts_call (c : World.Call) : Action.Halts ticking
    (Action.perform (Prog.perform (I := World) c) : Operating σ (World.Answer c)) :=
  Action.halts_perform fun _ => trivial

/-- The listing ends, because the pages are counted.

**Proof sketch.** By induction on the pages that may still be asked for. -/
lemma halts_effectiveFrom (pages : Nat) (token : Option String) :
    Action.Halts (σ := σ) ticking (effectiveFrom resource pages token) := by
  induction pages generalizing token with
  | zero => exact Action.halts_pure _
  | succ pages ih =>
    refine (halts_call _).bind ?_
    rintro (e | page)
    · exact Action.halts_pure _
    · dsimp only
      split
      · exact Action.halts_pure _
      · exact (ih _).bind fun _ => Action.halts_pure _

/-- Waiting for a permit ends. -/
lemma halts_acquire (p : Pacer) : Action.Halts (σ := σ) ticking p.acquire := by
  refine (halts_call .now).bind fun now => ?_
  dsimp only
  split
  · exact (halts_call _).bind fun _ => (halts_call .now).bind fun _ => Action.halts_pure _
  · exact (halts_call .now).bind fun _ => Action.halts_pure _

/-- One try comes to an end and does not look at the stopwatch. -/
lemma ends_tryBind {value : String} {g : Nat} :
    Action.Ends ticking (tryBind resource value) t g fun r _ g' =>
      g' = g ∧ ∃ x, r = .ok x := by
  refine Action.ends_call trivial ?_
  rintro (e | _) _ rfl
  · dsimp only
    split
    · exact ⟨rfl, _, rfl⟩
    · split
      · exact ⟨rfl, _, rfl⟩
      · exact ⟨rfl, _, rfl⟩
  · exact ⟨rfl, _, rfl⟩

/-- The tries for a tag end, because every look at the stopwatch takes from the time that is left.

**Proof sketch.** The size of a round is what is left of the time for the tries. A round goes on
only after a look at the stopwatch at which there was time left, and that look is later than the one
before. -/
lemma halts_bindOne (s : Settings) (value : String) :
    Action.Halts (σ := σ) ticking (bindOne s resource value) := by
  refine (halts_call .stopwatch).bind fun (start : Span) t g => ?_
  refine Action.ends_loop_of_lt (fun _ _ _ => True)
    (fun _ now => start.nanos + s.maxElapsed.nanos + 1 - now) trivial ?_
  intro mean t g _
  refine Action.ends_bind.2 (ends_tryBind.mono ?_)
  rintro _ t' _ ⟨rfl, _ | e | e, rfl⟩
  · trivial
  · refine Action.ends_call trivial ?_
    rintro (now : Span) _ ⟨hlt, rfl⟩
    refine Action.ends_call trivial ?_
    rintro word _ rfl
    dsimp only
    split
    · rename_i hin
      refine Action.ends_call trivial ?_
      rintro _ _ rfl
      refine ⟨trivial, ?_⟩
      have hleft : now.nanos - start.nanos ≤ s.maxElapsed.nanos := hin.1
      omega
    · trivial
  · trivial

/-- The turns end.

**Proof sketch.** By induction on the values, whatever their turns come to. -/
lemma halts_bindEach (s : Settings) (pacer : Pacer) (values : List String) :
    Action.Halts (σ := σ) ticking (bindEach s resource pacer values) := by
  induction values generalizing pacer with
  | nil => exact Action.halts_pure _
  | cons value rest ih =>
    refine (halts_acquire pacer).bind fun pacer => ?_
    refine (halts_bindOne s value).outcome.bind fun outcome => (ih pacer).bind ?_
    rintro ⟨bound, failed⟩
    cases outcome with
    | ok => exact Action.halts_pure _
    | error => exact Action.halts_pure _

/-- A run comes to an end. -/
lemma halts_bind (s : Settings) (wanted : List GcpTag) :
    Action.Halts (σ := σ) ticking (bind s resource wanted) := by
  refine (halts_effectiveFrom maxPages none).bind fun values => ?_
  dsimp only
  split
  · exact Action.halts_pure _
  · refine ((halts_call .now).bind fun _ => Action.halts_pure _).bind fun pacer => ?_
    refine (halts_bindEach s pacer _).bind fun ⟨bound, failed⟩ => ?_
    exact (Action.halts_ofExcept _).bind fun _ => Action.halts_pure _

/-! ## Main results -/

/-- **The binding of tags is exact.** For all tags that are wanted, in any order and with
repetitions, and all answers of the cloud, a run reads the tags in effect on at most 50 pages, up to
the first error and the first page with no token or an empty one. Exactly the wanted tags that are
on none of these pages have their turns, each one once and in ascending order. In a turn the call
is repeated only after an answer that there were too many, and while there is time left for the next
wait; the turn succeeds with an answer that the tag is bound or was before, and fails with every
other. If no turn failed the result is the tags that had one, and otherwise it is the records of
those that failed, in order. If a run succeeded and a second one finds what the first one found and
bound, it binds nothing. All runs come to an end if the stopwatch does not stand still.

**Proof sketch.** The runs of the three loops are described one by one: the pages
(`runs_effectiveFrom`) by induction on how many of them may be read, the tries for a tag
(`runs_bindOne`) by induction on the rounds, and the turns (`runs_bindEach`) by induction on the
missing tags. For the end the pages and the turns are counted, and every look at the stopwatch takes
from the time that is left for a tag (`halts_bindOne`). A second run that finds what the first one
found and bound finds no tag missing, because those that the first one bound are all that were
missing. -/
theorem bind_exact (s : Settings) (resource : String) (wanted : List GcpTag) :
    Halts (σ := σ) (bind s resource wanted) ∧
    ∀ {t t' : σ} {es : Trace World} {r : Except Error (List String)},
      Action.Runs (bind s resource wanted) t es r t' →
      t' = t ∧ (∃ turns, Binds s resource wanted es r turns) ∧
      (pending wanted (reported es)).Pairwise (· < ·) ∧
      (∀ v, v ∈ pending wanted (reported es) ↔
        v ∈ wanted.map GcpTag.namespacedValue ∧ v ∉ reported es) ∧
      ∀ bound, r = .ok bound → ∀ {u u' : σ} {fs : Trace World} {r' : Except Error (List String)},
        Action.Runs (bind s resource wanted) u fs r' u' →
        (∀ v ∈ reported es ++ bound, v ∈ reported fs) →
        r' = .ok [] ∧ ∀ e ∈ fs, ¬ IsWrite e.call := by
  refine ⟨halts_bind s wanted, fun {t t' es r} hrun => ?_⟩
  obtain ⟨rfl, turns, hbinds⟩ := runs_bind hrun
  refine ⟨rfl, ⟨turns, hbinds⟩, pending_ascending .., fun _ => mem_pending, ?_⟩
  rintro bound rfl u u' fs r' hrun' hfound
  obtain ⟨-, turns', hbinds'⟩ := runs_bind hrun'
  have hbound : bound = pending wanted (reported es) := by
    by_cases hnone : failures turns = []
    · exact Except.ok.inj (hbinds.succeeds hnone)
    · cases hbinds.fails hnone
  have hnone : pending wanted (reported fs) = [] := by
    refine List.eq_nil_iff_forall_not_mem.2 fun v hv => ?_
    obtain ⟨hwanted, hmissing⟩ := mem_pending.1 hv
    refine hmissing (hfound v (List.mem_append.2 ?_))
    rw [hbound, mem_pending]
    exact (Classical.em (v ∈ reported es)).imp_right fun h => ⟨hwanted, h⟩
  exact hbinds'.of_pending_eq_nil hnone

/-- A tag of an organization. -/
def ownedBy (team : String) : GcpTag := ⟨"123", "team", team⟩

/-- The answers of a cloud in which some tags are in effect. The first call that binds a tag is one
too many. -/
def throttledOnce (inEffect : List String) (es : Trace World) :
    (c : World.Call) → World.Answer c
  | .gcs (.listEffectiveTags _ _) => .ok { values := inEffect }
  | .gcs (.createBinding _ _) =>
    if es.any fun e => e.call matches .gcs (.createBinding _ _) then .ok ()
    else .error (.provider .gcs "create-binding" "" .throttled "")
  | _ => default

/-- Two tags, one of them wanted twice, and a second run after the first. -/
theorem bind_exact_throttled :
    let wanted := [ownedBy "b", ownedBy "a", ownedBy "b"]
    let bound := ["123/team/a", "123/team/b"]
    ∃ es fs r, Action.Runs (bind {} "bucket" wanted) () es (.ok bound) () ∧
      Action.Runs (bind {} "bucket" wanted) () fs r () ∧
      (∃ turns, Binds {} "bucket" wanted es (.ok bound) turns) ∧
      r = .ok [] ∧ ∀ e ∈ fs, ¬ IsWrite e.call := by
  intro wanted bound
  obtain ⟨es, ⟨r, ⟨⟩⟩, hrun, hr, hes⟩ :=
    Prog.exists_runs_of_run (throttledOnce []) 3 (Action.start (bind {} "bucket" wanted) ())
      (fun es a => a.1.toOption = some bound ∧ reported es = []) (by decide +kernel)
  obtain ⟨fs, ⟨r', ⟨⟩⟩, hrun', hfs⟩ :=
    Prog.exists_runs_of_run (throttledOnce bound) 3 (Action.start (bind {} "bucket" wanted) ())
      (fun es _ => reported es = bound) (by decide +kernel)
  cases r with
  | error e => cases hr
  | ok values =>
    cases hr
    obtain ⟨-, hbinds, -, -, hsecond⟩ := (bind_exact {} "bucket" wanted).2 hrun
    refine ⟨es, fs, r', hrun, hrun', hbinds, hsecond bound rfl hrun' ?_⟩
    rw [hes, hfs]
    exact fun v hv => hv

end Binding

end Gcs

end Depot
