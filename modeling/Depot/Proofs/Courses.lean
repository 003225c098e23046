import Depot.Proofs.Execution
import Depot.Lifecycle

set_option autoImplicit false

/-!
# The courses of a run that finds or creates a resource

The lifecycle meets a cloud that may answer each of its calls in any way. A name that is given is
looked for, and created if it is not found; without a name some are drawn until one is not taken.
The runs have one of seven forms, which say where in the trace each call can stand.

## Main definitions

* `Lifecycle.Concluded` — the last observation of a run.
* `Lifecycle.Lead` — the calls before a creation.
* `Lifecycle.Course` — the calls of a whole run, and how it ends.

## Main results

* `Lifecycle.runs_ensure` — every run has one of the forms.
* `Lifecycle.Course.named`, `Lifecycle.Course.unnamed` — where the calls stand, with a name that is
  given and without one.
* `Lifecycle.Course.creations_le` — how many creations there are.
-/

namespace Depot

/-- An event of a trace comes before, at or after another one. -/
lemma Trace.split_cons {I : Interface} {fs gs hs ks : Trace I} {d e : Event I}
    (h : hs ++ d :: ks = fs ++ e :: gs) :
    (∃ ls, hs = fs ++ e :: ls) ∨ (fs = hs ∧ e = d ∧ gs = ks) ∨
      ∃ ls, fs = hs ++ d :: ls ∧ ks = ls ++ e :: gs := by
  rcases Trace.split_append h.symm with ⟨ls, rfl, hls⟩ | hfirst
  · rcases List.cons_eq_append_iff.1 hls with ⟨rfl, heq⟩ | ⟨ls, rfl, rfl⟩
    · obtain ⟨rfl, rfl⟩ := List.cons.inj heq
      exact .inr (.inl ⟨List.append_nil _, rfl, rfl⟩)
    · exact .inr (.inr ⟨ls, rfl, rfl⟩)
  · exact .inl hfirst

namespace Lifecycle

open Resource

/-! ## Events -/

/-- A look for the resource of a name, with its answer. -/
def probed (name : String) (x : Except Error Presence) : Event Resource.interface :=
  ⟨.probe name, x⟩

/-- A creation, with its answer. -/
def creating (name : String) (x : Except Error Creation) : Event Resource.interface :=
  ⟨.create name, x⟩

/-- A name that was made up, or not. -/
def generated (x : Except Error String) : Event Resource.interface := ⟨.generate, x⟩

/-- The call creates a resource. -/
def Creates : Resource.Call → Bool
  | .create _ => true
  | _ => false

/-- The call neither creates a resource nor makes up a name. -/
def Watches : Resource.Call → Prop
  | .create _ | .generate => False
  | _ => True

/-- The call has nothing to do with a resource or a name. -/
def Notes : Resource.Call → Prop
  | .time | .measured _ _ => True
  | _ => False

/-- Names that were made up and turned out to be taken, one after the other. -/
def collisions (taken : List String) : Trace Resource.interface :=
  taken.flatMap fun name => [generated (.ok name), creating name (.ok .alreadyExists)]

/-- One more name that was taken adds a draw and a refused creation at the end. -/
lemma collisions_concat (taken : List String) (name : String) :
    collisions (taken ++ [name]) =
      collisions taken ++ [generated (.ok name), creating name (.ok .alreadyExists)] := by
  simp [collisions]

variable {k : Kind} {w : WaitPolicy} {s t : Subject} {es : Trace Resource.interface}

/-! ## Runs -/

/-- A call, and what follows its answer. -/
lemma runs_asked {α : Type} {c : Resource.Call} {f : Resource.interface.Answer c → Step α}
    {r : Except Error α} :
    Action.Runs (ask c >>= f) s es r t ↔
      ∃ x fs, es = ⟨c, x⟩ :: fs ∧ Action.Runs (f x) s fs r t :=
  Action.runs_call

/-- An observation. -/
lemma runs_observe {kind : Condition.Kind} {status : Condition.Status} {reason message : String}
    {r : Except Error Unit} :
    Action.Runs (record kind status reason message) s es r t ↔
      ∃ now, es = [⟨.time, now⟩] ∧ r = .ok () ∧
        t = { s with status := s.status.record kind status reason message now } := by
  refine runs_asked.trans ⟨?_, ?_⟩
  · rintro ⟨now, fs, rfl, h⟩
    obtain ⟨rfl, rfl, rfl⟩ := Action.runs_modify.1 h
    exact ⟨now, rfl, rfl, rfl⟩
  · rintro ⟨now, rfl, rfl, rfl⟩
    exact ⟨now, [], rfl, Action.runs_modify.2 ⟨rfl, rfl, rfl⟩⟩

/-- How a run ends that observes one last time whether the storage exists: it does if the run
succeeds, and does not, or is unknown to, if the run fails. -/
inductive Concluded (s : Subject) : Except Error Unit → Subject → Prop where
  /-- The resource exists. -/
  | succeeds (reason message : String) (now : Timestamp) :
    Concluded s (.ok ())
      { s with status := s.status.record .storageExists .holds reason message now }
  /-- The run failed. -/
  | fails (e : Error) {status : Condition.Status} (reason message : String) (now : Timestamp) :
    status ≠ .holds → Concluded s (.error e)
      { s with status := s.status.record .storageExists status reason message now }

/-- A trace of nothing but notes. -/
def Closing (es : Trace Resource.interface) : Prop := ∀ e ∈ es, Notes e.call

/-- The last observation of a run that succeeds. -/
lemma runs_conclude {reason message : String} {r : Except Error Unit}
    (h : Action.Runs (record .storageExists .holds reason message) s es r t) :
    Closing es ∧ r = .ok () ∧ Concluded s (.ok ()) t := by
  obtain ⟨now, rfl, rfl, rfl⟩ := runs_observe.1 h
  exact ⟨List.forall_mem_singleton.2 trivial, rfl, .succeeds reason message now⟩

/-- The last observation of a run that fails. -/
lemma runs_abort {status : Condition.Status} {reason message : String} {e : Error}
    {r : Except Error Unit} (hstatus : status ≠ .holds)
    (h : Action.Runs (do record .storageExists status reason message; throw e : Step Unit)
      s es r t) :
    Closing es ∧ r = .error e ∧ Concluded s (.error e) t := by
  obtain ⟨_, _, fs, _, rfl, hfs, hthrow⟩ | ⟨_, -, hfs⟩ := Action.runs_bind.1 h
  · obtain ⟨now, rfl, -, rfl⟩ := runs_observe.1 hfs
    obtain ⟨rfl, rfl, rfl⟩ := Action.runs_throw.1 hthrow
    exact ⟨List.forall_mem_singleton.2 trivial, rfl, .fails e reason message now hstatus⟩
  · obtain ⟨_, _, hok, _⟩ := runs_observe.1 hfs
    cases hok

/-- A look that does not find the resource yet is followed by a pause, or by the end of the time.

**Proof sketch.** The time is asked for, and by either branch the run ends or sleeps once. -/
lemma runs_pause {deadline : Nat} {e : Error} {o : Except Error (Unit ⊕ Unit)}
    (h : Action.Runs (do
      let now ← ask .now
      if deadline < now.nanos + w.interval.nanos then throw e
      else
        ask (.sleep w.interval)
        return (.inl () : Unit ⊕ Unit)) s es o t) : t = s ∧ ∀ e ∈ es, Watches e.call := by
  obtain ⟨now, fs, rfl, hrest⟩ := runs_asked.1 h
  split at hrest
  · obtain ⟨rfl, -, rfl⟩ := Action.runs_throw.1 hrest
    exact ⟨rfl, List.forall_mem_singleton.2 trivial⟩
  · obtain ⟨⟨⟩, gs, rfl, hpure⟩ := runs_asked.1 hrest
    obtain ⟨rfl, -, rfl⟩ := Action.runs_pure.1 hpure
    exact ⟨rfl, List.forall_mem_cons.2 ⟨trivial, List.forall_mem_singleton.2 trivial⟩⟩

/-- While a resource is awaited nothing is created and nothing changes.

**Proof sketch.** An invariant of the loop: the subject is the same and every call so far watches.
One round looks and, by its answer, ends or pauses. -/
lemma runs_waitUntilVisible {r : Except Error Unit}
    (h : Action.Runs (waitUntilVisible k w) s es r t) : t = s ∧ ∀ e ∈ es, Watches e.call := by
  obtain ⟨start, fs, rfl, hloop⟩ := runs_asked.1 (Action.runs_get_bind.1 h)
  suffices hfs : t = s ∧ ∀ e ∈ fs, Watches e.call from
    ⟨hfs.1, List.forall_mem_cons.2 ⟨trivial, hfs.2⟩⟩
  refine Action.runs_loop (P := fun _ s es _ t => t = s ∧ ∀ e ∈ es, Watches e.call) ?_ hloop
  intro _ s fs o s' hround
  have hsteps : s' = s ∧ ∀ e ∈ fs, Watches e.call := by
    obtain ⟨x, fs, rfl, hrest⟩ := runs_asked.1 hround
    suffices hfs : s' = s ∧ ∀ e ∈ fs, Watches e.call from
      ⟨hfs.1, List.forall_mem_cons.2 ⟨trivial, hfs.2⟩⟩
    rcases x with e | _ | _ | _
    · obtain ⟨rfl, -, rfl⟩ := Action.runs_throw.1 hrest
      exact ⟨rfl, fun _ h => nomatch h⟩
    · obtain ⟨rfl, -, rfl⟩ := Action.runs_pure.1 hrest
      exact ⟨rfl, fun _ h => nomatch h⟩
    · exact runs_pause hrest
    · exact runs_pause hrest
  obtain ⟨rfl, hfs⟩ := hsteps
  rcases o with e | _ | b
  · exact ⟨rfl, hfs⟩
  · rintro gs r t ⟨rfl, hgs⟩
    exact ⟨rfl, List.forall_mem_append.2 ⟨hfs, hgs⟩⟩
  · exact ⟨rfl, hfs⟩

/-- The subject with an owner. -/
def Subject.ownedBy (o : Ownership) (s : Subject) : Subject :=
  { s with status := { s.status with ownership := some o } }

/-- After a creation the resource is the operator's, and is awaited.

**Proof sketch.** The wait changes nothing, and what comes after it is an abort or a conclusion, by
its outcome. -/
lemma runs_afterCreation {r : Except Error Unit}
    (h : Action.Runs (afterCreation k w) s es r t) :
    ∃ fs gs, es = fs ++ gs ∧ (∀ e ∈ fs, Watches e.call) ∧ Closing gs ∧
      Concluded (s.ownedBy .managed) r t := by
  obtain ⟨x, u, fs, gs, rfl, hwait, hrest⟩ | ⟨e, -, hwait⟩ :=
    Action.runs_bind.1 (Action.runs_modify_bind.1 h)
  · obtain ⟨x, hx, hwait⟩ := Action.runs_outcome.1 hwait
    cases hx
    obtain ⟨rfl, hfs⟩ := runs_waitUntilVisible hwait
    rcases x with e | ⟨⟩
    · obtain ⟨hgs, rfl, ht⟩ := runs_abort (by decide) hrest
      exact ⟨fs, gs, rfl, hfs, hgs, ht⟩
    · obtain ⟨hgs, rfl, ht⟩ := runs_conclude (Action.runs_get_bind.1 hrest)
      exact ⟨fs, gs, rfl, hfs, hgs, ht⟩
  · obtain ⟨x, hx, -⟩ := Action.runs_outcome.1 hwait
    cases hx

/-- The calls before a creation, and the name that is created. -/
inductive Lead (s : Subject) : Trace Resource.interface → String → Prop where
  /-- A given name was looked for and not found. -/
  | named {p : Presence} : s.name ≠ "" → p ≠ .present → Lead s [probed s.name (.ok p)] s.name
  /-- Without a name some were made up that were taken, and then another one. -/
  | fresh {taken : List String} (name : String) : s.name = "" →
    taken.length < Naming.maxAttempts →
    Lead s (collisions taken ++ [generated (.ok name)]) name

/-- The calls of a run, and how it ends. -/
inductive Course (k : Kind) (s : Subject) :
    Trace Resource.interface → Except Error Unit → Subject → Prop where
  /-- The resource was there; it is the operator's if it was before. -/
  | found {fs : Trace Resource.interface} {t : Subject} : s.name ≠ "" → Closing fs →
    Concluded (if s.status.isManaged then s else s.ownedBy .unmanaged) (.ok ()) t →
    Course k s (probed s.name (.ok .present) :: fs) (.ok ()) t
  /-- It could not be looked for. -/
  | unseen {e : Error} {fs : Trace Resource.interface} {t : Subject} : s.name ≠ "" → Closing fs →
    Concluded s (.error e) t → Course k s (probed s.name (.error e) :: fs) (.error e) t
  /-- No further name could be made up. -/
  | undrawn {taken : List String} {e : Error} {fs : Trace Resource.interface} {t : Subject} :
    s.name = "" → taken.length < Naming.maxAttempts → Closing fs → Concluded s (.error e) t →
    Course k s (collisions taken ++ generated (.error e) :: fs) (.error e) t
  /-- All names that were made up were taken. -/
  | exhausted {taken : List String} {e : Error} {fs : Trace Resource.interface} {t : Subject} :
    s.name = "" → taken.length = Naming.maxAttempts → Closing fs → Concluded s (.error e) t →
    Course k s (collisions taken ++ fs) (.error e) t
  /-- The given name was taken. -/
  | taken {lead fs : Trace Resource.interface} {message : String} {t : Subject} : s.name ≠ "" →
    Lead s lead s.name → Closing fs → Concluded s (.error (.configuration message)) t →
    Course k s (lead ++ creating s.name (.ok .alreadyExists) :: fs)
      (.error (.configuration message)) t
  /-- A creation failed. -/
  | failed {lead fs : Trace Resource.interface} {name : String} {e : Error} {t : Subject} :
    Lead s lead name → Closing fs → Concluded s (.error e) t →
    Course k s (lead ++ creating name (.error e) :: fs) (.error e) t
  /-- The resource was created and awaited; it is the operator's. -/
  | created {lead fs gs : Trace Resource.interface} {name : String} {r : Except Error Unit}
    {t : Subject} : Lead s lead name → (∀ e ∈ fs, Watches e.call) → Closing gs →
    Concluded ({ s with name }.ownedBy .managed) r t →
    Course k s (lead ++ creating name (.ok .created) :: (fs ++ gs)) r t

/-- A run on a name that is given.

**Proof sketch.** The answer to the look decides: an error aborts, a resource that is present is
adopted, and otherwise the name is created, with one course for each answer (`hcreate`). -/
lemma runs_ensureNamed {r : Except Error Unit} (hs : s.name ≠ "")
    (h : Action.Runs (ensureNamed k w s.name) s es r t) : Course k s es r t := by
  have hcreate {p : Presence} {fs : Trace Resource.interface} (hp : p ≠ .present)
      (hrun : Action.Runs (createNamed k w s.name) s fs r t) :
      Course k s (probed s.name (.ok p) :: fs) r t := by
    have hlead : Lead s [probed s.name (.ok p)] s.name := .named hs hp
    obtain ⟨e | _ | _, fs, rfl, hrest⟩ := runs_asked.1 hrun
    · obtain ⟨hfs, rfl, ht⟩ := runs_abort (by decide) hrest
      exact .failed hlead hfs ht
    · obtain ⟨fs, gs, rfl, hfs, hgs, ht⟩ := runs_afterCreation hrest
      exact .created hlead hfs hgs ht
    · obtain ⟨hfs, rfl, ht⟩ := runs_abort (by decide) hrest
      exact .taken hs hlead hfs ht
  obtain ⟨e | _ | _ | _, fs, rfl, hrest⟩ := runs_asked.1 h
  · obtain ⟨hfs, rfl, ht⟩ := runs_abort (by decide) hrest
    exact .unseen hs hfs ht
  · have hadopted : Closing fs ∧ r = .ok () ∧
        Concluded (if s.status.isManaged then s else s.ownedBy .unmanaged) (.ok ()) t := by
      have hrun := Action.runs_get_bind.1 hrest
      dsimp only at hrun
      split at hrun
      · rename_i hm
        rw [if_pos hm]
        exact runs_conclude hrun
      · rename_i hm
        rw [if_neg hm]
        exact runs_conclude (Action.runs_modify_bind.1 hrun)
    obtain ⟨hfs, rfl, ht⟩ := hadopted
    exact .found hs hfs ht
  · exact hcreate (by decide) hrest
  · exact hcreate (by decide) hrest

/-- A run with names that are made up, after some that were taken.

**Proof sketch.** By induction on the attempts that are left, with the names that were taken so far.
A name that is taken goes on with one more of them, every other answer ends the course. -/
lemma runs_createFresh {attempts : Nat} {taken : List String} {r : Except Error Unit}
    (hs : s.name = "") (hattempts : taken.length + attempts = Naming.maxAttempts)
    (h : Action.Runs (createFresh k w attempts) s es r t) :
    Course k s (collisions taken ++ es) r t := by
  induction attempts generalizing taken es with
  | zero =>
    obtain ⟨hes, rfl, ht⟩ := runs_abort (by decide) h
    exact .exhausted hs hattempts hes ht
  | succ attempts ih =>
    have hlt : taken.length < Naming.maxAttempts := by omega
    obtain ⟨e | candidate, fs, rfl, hrest⟩ := runs_asked.1 h
    · obtain ⟨hfs, rfl, ht⟩ := runs_abort (by decide) hrest
      exact .undrawn hs hlt hfs ht
    · have hlead : Lead s (collisions taken ++ [generated (.ok candidate)]) candidate :=
        .fresh candidate hs hlt
      obtain ⟨e | _ | _, fs, rfl, hlast⟩ := runs_asked.1 hrest
      · obtain ⟨hfs, rfl, ht⟩ := runs_abort (by decide) hlast
        rw [List.append_cons]
        exact .failed hlead hfs ht
      · obtain ⟨fs, gs, rfl, hfs, hgs, ht⟩ := runs_afterCreation (Action.runs_modify_bind.1 hlast)
        rw [List.append_cons]
        exact .created hlead hfs hgs ht
      · have hlength : (taken ++ [candidate]).length + attempts = Naming.maxAttempts := by
          simp only [List.length_append, List.length_singleton]
          omega
        have hcourse := ih hlength hlast
        rwa [collisions_concat, List.append_assoc] at hcourse

/-- What is noted at the end belongs to the run.

**Proof sketch.** One case per constructor: the new notes join those at the end of the course. -/
lemma Course.append {r : Except Error Unit} {gs : Trace Resource.interface}
    (h : Course k s es r t) (hgs : Closing gs) : Course k s (es ++ gs) r t := by
  have happend {fs : Trace Resource.interface} (hfs : Closing fs) : Closing (fs ++ gs) :=
    List.forall_mem_append.2 ⟨hfs, hgs⟩
  cases h with
  | found hs hfs ht => exact .found hs (happend hfs) ht
  | unseen hs hfs ht => exact .unseen hs (happend hfs) ht
  | undrawn hs hlt hfs ht =>
    rw [List.append_assoc]
    exact .undrawn hs hlt (happend hfs) ht
  | exhausted hs hlt hfs ht =>
    rw [List.append_assoc]
    exact .exhausted hs hlt (happend hfs) ht
  | taken hs hlead hfs ht =>
    rw [List.append_assoc]
    exact .taken hs hlead (happend hfs) ht
  | failed hlead hfs ht =>
    rw [List.append_assoc]
    exact .failed hlead (happend hfs) ht
  | created hlead hfs hgs ht =>
    rw [List.append_assoc, List.cons_append, List.append_assoc]
    exact .created hlead hfs (happend hgs) ht

/-- **The runs of finding or creating a resource.**

**Proof sketch.** The body is a run with a given name or with fresh ones, by the subject's name;
what is left is the note of its outcome. -/
theorem runs_ensure {r : Except Error Unit} (h : Action.Runs (ensure k w) s es r t) :
    Course k s es r t := by
  obtain ⟨x, u, fs, gs, rfl, hbody, hrest⟩ | ⟨e, -, hbody⟩ :=
    Action.runs_bind.1 (Action.runs_get_bind.1 h)
  · obtain ⟨x, hx, hbody⟩ := Action.runs_outcome.1 hbody
    cases hx
    obtain ⟨⟨⟩, gs, rfl, hlast⟩ := runs_asked.1 hrest
    obtain ⟨rfl, rfl, rfl⟩ := Action.runs_ofExcept.1 hlast
    refine Course.append ?_ (List.forall_mem_singleton.2 trivial)
    split at hbody
    · rename_i hs
      have hlength : ([] : List String).length + Naming.maxAttempts = Naming.maxAttempts :=
        Nat.zero_add _
      have hcourse := runs_createFresh hs hlength hbody
      exact hcourse
    · rename_i hs
      exact runs_ensureNamed hs hbody
  · obtain ⟨x, hx, -⟩ := Action.runs_outcome.1 hbody
    cases hx

/-! ## The calls -/

/-- A note is a call that changes no resource. -/
lemma Notes.watches {c : Resource.Call} (h : Notes c) : Watches c := by
  cases c <;> first | exact h | trivial

/-- What is noted at the end changes no resource. -/
lemma Closing.watches (h : Closing es) : ∀ e ∈ es, Watches e.call :=
  fun e he => (h e he).watches

/-- A trace that only watches creates nothing. -/
lemma not_creating_of_watches (h : ∀ e ∈ es, Watches e.call) (name : String)
    (x : Except Error Creation) : creating name x ∉ es := fun he => h _ he

/-- Nothing is created after a look that ends the run. -/
lemma not_creating_of_probed (hclose : Closing es) (name : String) (p : Except Error Presence)
    (other : String) (x : Except Error Creation) : creating other x ∉ probed name p :: es := by
  have hwatch : ∀ e ∈ probed name p :: es, Watches e.call :=
    List.forall_mem_cons.2 ⟨trivial, hclose.watches⟩
  exact not_creating_of_watches hwatch other x

/-- What comes at some place among names that were taken.

**Proof sketch.** By induction on the names: the event is the first draw, the first creation or
among the rest. -/
lemma collisions_split {taken : List String} {e : Event Resource.interface}
    {fs gs : Trace Resource.interface} (h : collisions taken = fs ++ e :: gs) :
    ∃ us name, us.length < taken.length ∧
      (fs = collisions us ∧ e = generated (.ok name) ∨
        fs = collisions us ++ [generated (.ok name)] ∧
          e = creating name (.ok .alreadyExists)) := by
  induction taken generalizing fs with
  | nil => exact absurd h (by simp [collisions])
  | cons name taken ih =>
    rcases fs with _ | ⟨d, _ | ⟨d', fs⟩⟩
    · obtain ⟨rfl, -⟩ := List.cons.inj h
      exact ⟨[], name, Nat.succ_pos _, .inl ⟨rfl, rfl⟩⟩
    · obtain ⟨rfl, htail⟩ := List.cons.inj h
      obtain ⟨rfl, -⟩ := List.cons.inj htail
      exact ⟨[], name, Nat.succ_pos _, .inr ⟨rfl, rfl⟩⟩
    · obtain ⟨rfl, htail⟩ := List.cons.inj h
      obtain ⟨rfl, hrest⟩ := List.cons.inj htail
      obtain ⟨us, other, hlt, ⟨rfl, rfl⟩ | ⟨rfl, rfl⟩⟩ := ih hrest
      · exact ⟨name :: us, other, Nat.succ_lt_succ hlt, .inl ⟨rfl, rfl⟩⟩
      · exact ⟨name :: us, other, Nat.succ_lt_succ hlt, .inr ⟨rfl, rfl⟩⟩

/-- Names that were taken were not created. -/
lemma not_created_of_collisions (taken : List String) (name : String) :
    creating name (.ok .created) ∉ collisions taken := by
  intro hmem
  obtain ⟨fs, gs, hsplit⟩ := List.append_of_mem hmem
  obtain ⟨us, other, -, ⟨-, he⟩ | ⟨-, he⟩⟩ := collisions_split hsplit
  · cases he
  · cases he

/-- Nothing was created before the first creation that is not refused. -/
lemma Lead.not_created {lead : Trace Resource.interface} {name : String} (h : Lead s lead name)
    (other : String) : creating other (.ok .created) ∉ lead := by
  cases h with
  | named hs hp =>
    intro hmem
    cases List.mem_singleton.1 hmem
  | fresh name hs hlt =>
    intro hmem
    rcases List.mem_append.1 hmem with hmem | hmem
    · exact not_created_of_collisions _ _ hmem
    · cases List.mem_singleton.1 hmem

variable {e : Event Resource.interface} {fs gs : Trace Resource.interface} {r : Except Error Unit}

/-- The event draws a name, or creates the name that was just drawn, and all names before were
taken. -/
def Draws (fs : Trace Resource.interface) (e : Event Resource.interface) : Prop :=
  ∃ taken, taken.length < Naming.maxAttempts ∧
    (fs = collisions taken ∧ (∃ x, e = generated x) ∨
      ∃ name x, fs = collisions taken ++ [generated (.ok name)] ∧ e = creating name x)

/-- Names that were taken were drawn. -/
lemma draws_of_collisions {taken : List String} (hlt : taken.length ≤ Naming.maxAttempts)
    (h : collisions taken = fs ++ e :: gs) : Draws fs e := by
  obtain ⟨us, name, hus, ⟨hfs, he⟩ | ⟨hfs, he⟩⟩ := collisions_split h
  · exact ⟨us, by omega, .inl ⟨hfs, _, he⟩⟩
  · exact ⟨us, by omega, .inr ⟨name, _, hfs, he⟩⟩

/-- The calls before a creation are draws, and so is the creation.

**Proof sketch.** The event stands before the creation, is the creation, or comes after it; before
it are the collisions and the last draw. -/
lemma Lead.draws {lead ks : Trace Resource.interface} {name : String}
    {x : Except Error Creation} (h : Lead s lead name) (hs : s.name = "")
    (heq : fs ++ e :: gs = lead ++ creating name x :: ks) :
    Draws fs e ∨ ∃ ls, fs = lead ++ creating name x :: ls ∧ ks = ls ++ e :: gs := by
  cases h with
  | named hne => exact absurd hs hne
  | @fresh taken name _ hlt =>
    rcases Trace.split_cons heq.symm with ⟨ls, hlead⟩ | ⟨rfl, rfl, -⟩ | hlater
    · rcases Trace.split_cons hlead with ⟨ls, hdrawn⟩ | ⟨rfl, rfl, -⟩ | ⟨ls, -, hnil⟩
      · exact .inl (draws_of_collisions (Nat.le_of_lt hlt) hdrawn)
      · exact .inl ⟨taken, hlt, .inl ⟨rfl, _, rfl⟩⟩
      · exact absurd hnil (by simp)
    · exact .inl ⟨taken, hlt, .inr ⟨name, x, rfl, rfl⟩⟩
    · exact .inr hlater

/-- **Without a name** some are drawn; other calls are notes, or come after a creation.

**Proof sketch.** The courses that need a name fall away. In the others the event is placed among
the draws, which `draws_of_collisions` describes, or among what follows them. -/
theorem Course.unnamed (hs : s.name = "") (h : Course k s (fs ++ e :: gs) r t) :
    Draws fs e ∨ Notes e.call ∨ Watches e.call ∧ ∃ name, creating name (.ok .created) ∈ fs := by
  generalize hes : fs ++ e :: gs = es at h
  have hmem {ls hs : Trace Resource.interface} (hhs : Closing hs) (heq : hs = ls ++ e :: gs) :
      Notes e.call := hhs e (heq ▸ List.mem_append_right _ List.mem_cons_self)
  cases h with
  | found hne => exact absurd hs hne
  | unseen hne => exact absurd hs hne
  | taken hne => exact absurd hs hne
  | undrawn _ hlt hclose _ =>
    rcases Trace.split_cons hes.symm with ⟨ls, heq⟩ | ⟨rfl, rfl, -⟩ | ⟨ls, -, heq⟩
    · exact .inl (draws_of_collisions (Nat.le_of_lt hlt) heq)
    · exact .inl ⟨_, hlt, .inl ⟨rfl, _, rfl⟩⟩
    · exact .inr (.inl (hmem hclose heq))
  | exhausted _ hlt hclose _ =>
    rcases Trace.split_append hes with ⟨ls, -, heq⟩ | ⟨ls, heq⟩
    · exact .inr (.inl (hmem hclose heq))
    · exact .inl (draws_of_collisions (Nat.le_of_eq hlt) heq)
  | failed hlead hclose _ =>
    rcases hlead.draws hs hes with hdraw | ⟨ls, -, heq⟩
    · exact .inl hdraw
    · exact .inr (.inl (hmem hclose heq))
  | created hlead hwait hclose _ =>
    rcases hlead.draws hs hes with hdraw | ⟨ls, rfl, heq⟩
    · exact .inl hdraw
    · refine .inr (.inr ⟨?_, _, List.mem_append_right _ List.mem_cons_self⟩)
      have hwatch := List.forall_mem_append.2 ⟨hwait, hclose.watches⟩
      exact hwatch e (heq ▸ List.mem_append_right _ List.mem_cons_self)

/-- A given name is looked for, and then created if it was not found. -/
inductive Places (name : String) : Trace Resource.interface → Event Resource.interface → Prop where
  /-- The first look. -/
  | first (x : Except Error Presence) : Places name [] (probed name x)
  /-- The creation. -/
  | second {p : Presence} (x : Except Error Creation) : p ≠ .present →
    Places name [probed name (.ok p)] (creating name x)
  /-- Other calls create nothing. -/
  | later {fs : Trace Resource.interface} {e : Event Resource.interface} : Watches e.call →
    Places name fs e

/-- The look before a creation is the first call, and the creation the second one.

**Proof sketch.** The event is split off the look and the creation, which are the first two
calls. -/
lemma Lead.places {lead ks : Trace Resource.interface} {name : String}
    {x : Except Error Creation} (h : Lead s lead name) (hs : s.name ≠ "")
    (hks : ∀ e ∈ ks, Watches e.call) (heq : fs ++ e :: gs = lead ++ creating name x :: ks) :
    Places s.name fs e := by
  cases h with
  | fresh _ hempty => exact absurd hempty hs
  | named _ hp =>
    rcases Trace.split_cons heq.symm with ⟨ls, hlead⟩ | ⟨rfl, rfl, -⟩ | ⟨ls, -, rfl⟩
    · rcases List.append_eq_singleton_iff.1 hlead.symm with ⟨rfl, hfirst⟩ | ⟨-, hnil⟩
      · obtain ⟨rfl, -⟩ := List.cons.inj hfirst
        exact .first _
      · exact absurd hnil (by simp)
    · exact .second x hp
    · exact .later (hks e (List.mem_append_right _ List.mem_cons_self))

/-- **A name that is given** is looked for first, and created at most once, if it was not found.

**Proof sketch.** The courses without a name fall away. In the others the event is the look, the
creation or one of the calls after them, all of which watch. -/
theorem Course.named (hs : s.name ≠ "") (h : Course k s (fs ++ e :: gs) r t) :
    Places s.name fs e := by
  generalize hes : fs ++ e :: gs = es at h
  have hfirst {x : Except Error Presence} {ks : Trace Resource.interface} (hclose : Closing ks)
      (heq : fs ++ e :: gs = probed s.name x :: ks) : Places s.name fs e := by
    have hsplit : [] ++ probed s.name x :: ks = fs ++ e :: gs := heq.symm
    rcases Trace.split_cons hsplit with ⟨ls, hnil⟩ | ⟨rfl, rfl, -⟩ | ⟨ls, -, rfl⟩
    · exact absurd hnil (by simp)
    · exact .first x
    · exact .later (hclose.watches e (List.mem_append_right _ List.mem_cons_self))
  cases h with
  | undrawn hempty => exact absurd hempty hs
  | exhausted hempty => exact absurd hempty hs
  | found _ hclose _ => exact hfirst hclose hes
  | unseen _ hclose _ => exact hfirst hclose hes
  | taken _ hlead hclose _ => exact hlead.places hs hclose.watches hes
  | failed hlead hclose _ => exact hlead.places hs hclose.watches hes
  | created hlead hwait hclose _ =>
    exact hlead.places hs (List.forall_mem_append.2 ⟨hwait, hclose.watches⟩) hes

/-- How many creations there are in a trace. -/
def creations (es : Trace Resource.interface) : Nat := es.countP fun e => Creates e.call

/-- Creations are counted part by part. -/
lemma creations_append (es fs : Trace Resource.interface) :
    creations (es ++ fs) = creations es + creations fs := List.countP_append

/-- Creations are counted call by call. -/
lemma creations_cons (e : Event Resource.interface) (es : Trace Resource.interface) :
    creations (e :: es) = creations es + if Creates e.call then 1 else 0 := List.countP_cons

/-- A trace that only watches creates nothing. -/
lemma creations_of_watches (h : ∀ e ∈ es, Watches e.call) : creations es = 0 := by
  refine List.countP_eq_zero.2 fun ⟨c, x⟩ he hc => ?_
  have hw := h _ he
  cases c <;> first | exact hw | cases hc

/-- One creation for each name that was taken.

**Proof sketch.** By induction on the names: a draw is not counted and the refused creation is. -/
lemma creations_collisions (taken : List String) :
    creations (collisions taken) = taken.length := by
  induction taken with
  | nil => rfl
  | cons name taken ih =>
    change creations (generated (.ok name) :: creating name (.ok .alreadyExists) ::
      collisions taken) = _
    rw [creations_cons, creations_cons, ih]
    rfl

/-- How many creations there may be. -/
def allowance (s : Subject) : Nat := if s.name = "" then Naming.maxAttempts else 1

/-- Before a creation there is room for it. -/
lemma Lead.creations_lt {lead : Trace Resource.interface} {name : String}
    (h : Lead s lead name) : creations lead < allowance s := by
  cases h with
  | named hs =>
    rw [allowance, if_neg hs]
    exact Nat.zero_lt_one
  | @fresh taken _ hs hlt =>
    rw [allowance, if_pos hs, creations_append, creations_collisions]
    exact hlt

/-- **No more is created than allowed.**

**Proof sketch.** What comes after a creation watches and is not counted, so the courses that reach
one have what `Lead.creations_lt` counts, and one more. -/
theorem Course.creations_le (h : Course k s es r t) : creations es ≤ allowance s := by
  have hlead {lead ks : Trace Resource.interface} {name : String} {x : Except Error Creation}
      (hlead : Lead s lead name) (hks : ∀ e ∈ ks, Watches e.call) :
      creations (lead ++ creating name x :: ks) ≤ allowance s := by
    rw [creations_append, creations_cons, creations_of_watches hks]
    exact hlead.creations_lt
  cases h with
  | found _ hclose _ | unseen _ hclose _ =>
    rw [creations_cons, creations_of_watches hclose.watches]
    exact Nat.zero_le _
  | undrawn hs hlt hclose _ =>
    rw [creations_append, creations_cons, creations_of_watches hclose.watches,
      creations_collisions, allowance, if_pos hs]
    exact Nat.le_of_lt hlt
  | exhausted hs hlt hclose _ =>
    rw [creations_append, creations_of_watches hclose.watches, creations_collisions, allowance,
      if_pos hs]
    exact Nat.le_of_eq hlt
  | taken _ hl hclose _ => exact hlead hl hclose.watches
  | failed hl hclose _ => exact hlead hl hclose.watches
  | created hl hwait hclose _ =>
    exact hlead hl (List.forall_mem_append.2 ⟨hwait, hclose.watches⟩)

end Lifecycle

end Depot
