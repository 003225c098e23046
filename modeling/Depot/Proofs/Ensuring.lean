import Depot.Proofs.Completion
import Depot.Proofs.Courses
import Depot.Proofs.Removal

set_option autoImplicit false

/-!
# What finding or creating a resource leaves

Every run that finds or creates a resource comes to an end, because names are drawn a bounded number
of times and a pause takes from the time that is left to wait. The name, the owner and the
conditions that it leaves are read off the form of the run; the outcome and what is observed last
always agree.

## Main definitions

* `Lifecycle.Leaves` — what a run leaves, by what it created or found.
* `Lifecycle.elapsing` — the contract of a clock that does not go back.
* `Lifecycle.Ensures` — what a run does, and what it leaves.

## Main results

* `Lifecycle.Course.leaves` — what every run leaves.
* `Lifecycle.halts_ensure` — every run comes to an end if the clock goes on.
* `Lifecycle.ensure_accounts` — what every run does, and that it comes to an end.
-/

namespace Depot

namespace Lifecycle

open Resource

variable {k : Kind} {w : WaitPolicy} {s t : Subject} {es : Trace Resource.interface}
  {e : Event Resource.interface} {fs gs : Trace Resource.interface} {r : Except Error Unit}

/-! ## What is left -/

/-- The given name was found to be in use, and not by the operator. -/
def Finds (s : Subject) (es : Trace Resource.interface) : Prop :=
  s.status.ownership ≠ some .managed ∧ s.name ≠ "" ∧
    es.head? = some (probed s.name (.ok .present))

/-- What a run leaves, by what it created or found. -/
inductive Leaves (s : Subject) (es : Trace Resource.interface) (r : Except Error Unit)
    (t : Subject) : Prop where
  /-- A resource was created, of the name that was given or of one that was made up. -/
  | created {name : String} : creating name (.ok .created) ∈ es →
    (∀ other, creating other (.ok .created) ∈ es → other = name) → ¬ Finds s es →
    (s.name ≠ "" ∧ s.name = name ∨ s.name = "" ∧ generated (.ok name) ∈ es) →
    Concluded ({ s with name }.ownedBy .managed) r t → Leaves s es r t
  /-- A resource of someone else was found. -/
  | found : (∀ name, creating name (.ok .created) ∉ es) → Finds s es →
    Concluded (s.ownedBy .unmanaged) r t → Leaves s es r t
  /-- Neither; a run that succeeds found a resource of the operator. -/
  | kept : (∀ name, creating name (.ok .created) ∉ es) → ¬ Finds s es →
    (r.isOk → s.name ≠ "") → Concluded s r t → Leaves s es r t

/-- Before a creation no resource was found. -/
lemma Lead.not_finds {lead : Trace Resource.interface} {name : String} (h : Lead s lead name) :
    ¬ Finds s (lead ++ fs) := by
  rintro ⟨-, hne, hhead⟩
  cases h with
  | named _ hp =>
    cases Option.some.inj hhead
    exact hp rfl
  | fresh _ hempty => exact hne hempty

/-- What is created was given, or made up. -/
lemma Lead.origin {lead : Trace Resource.interface} {name : String} (h : Lead s lead name) :
    s.name ≠ "" ∧ s.name = name ∨ s.name = "" ∧ generated (.ok name) ∈ lead := by
  cases h with
  | named hs => exact .inl ⟨hs, rfl⟩
  | fresh _ hs =>
    exact .inr ⟨hs, List.mem_append_right _ (List.mem_singleton_self _)⟩

/-- What is created in a trace is its last creation, if it is not one of those before. -/
lemma eq_of_creating {lead ks : Trace Resource.interface} {name other : String}
    {x y : Except Error Creation} (hlead : creating other y ∉ lead)
    (hks : ∀ e ∈ ks, Watches e.call) (hmem : creating other y ∈ lead ++ creating name x :: ks) :
    other = name ∧ x = y := by
  rcases List.mem_append.1 hmem with hmem | hmem
  · exact absurd hmem hlead
  · rcases List.mem_cons.1 hmem with heq | hmem
    · cases heq
      exact ⟨rfl, rfl⟩
    · exact absurd hmem (not_creating_of_watches hks other _)

/-- **What every run leaves.**

**Proof sketch.** One case per course. Where nothing was created, the status is kept or, after a
look that found the resource, its owner is set; a creation leaves what it created. -/
theorem Course.leaves (h : Course k s es r t) : Leaves s es r t := by
  cases h with
  | found hs hclose ht =>
    have hnone := fun name =>
      not_creating_of_probed hclose s.name (.ok .present) name (.ok .created)
    split at ht
    · rename_i hm
      exact .kept hnone (fun hfinds => hfinds.1 (eq_of_beq hm)) (fun _ => hs) ht
    · rename_i hm
      exact .found hnone ⟨fun heq => hm (beq_of_eq heq), hs, rfl⟩ ht
  | @unseen e fs t hs hclose ht =>
    refine .kept (not_creating_of_probed hclose s.name _ · _) ?_ (fun _ => hs) ht
    rintro ⟨-, -, hhead⟩
    cases Option.some.inj hhead
  | undrawn hs hlt hclose ht =>
    refine .kept (fun name hmem => ?_) (fun hfinds => hfinds.2.1 hs) (fun hok => nomatch hok) ht
    rcases List.mem_append.1 hmem with hmem | hmem
    · exact not_created_of_collisions _ _ hmem
    · exact not_creating_of_watches hclose.watches name _
        ((List.mem_cons.1 hmem).resolve_left (fun heq => nomatch heq))
  | exhausted hs hlt hclose ht =>
    refine .kept (fun name hmem => ?_) (fun hfinds => hfinds.2.1 hs) (fun hok => nomatch hok) ht
    rcases List.mem_append.1 hmem with hmem | hmem
    · exact not_created_of_collisions _ _ hmem
    · exact not_creating_of_watches hclose.watches name _ hmem
  | taken hs hlead hclose ht =>
    refine .kept (fun name hmem => ?_) hlead.not_finds (fun _ => hs) ht
    exact nomatch (eq_of_creating (hlead.not_created name) hclose.watches hmem).2
  | failed hlead hclose ht =>
    refine .kept (fun name hmem => ?_) hlead.not_finds (fun hok => nomatch hok) ht
    exact nomatch (eq_of_creating (hlead.not_created name) hclose.watches hmem).2
  | created hlead hwait hclose ht =>
    have hwatch := List.forall_mem_append.2 ⟨hwait, hclose.watches⟩
    refine .created (List.mem_append_right _ List.mem_cons_self)
      (fun other hmem => (eq_of_creating (hlead.not_created other) hwatch hmem).1)
      hlead.not_finds ?_ ht
    exact hlead.origin.imp_right fun h => ⟨h.1, List.mem_append_left _ h.2⟩

/-- A given name that is taken is an error of the configuration.

**Proof sketch.** A creation in the course is its own one, by `eq_of_creating`, and it was answered
that the name is taken in one course only. -/
lemma Course.refused (hs : s.name ≠ "") (h : Course k s es r t) {name : String}
    (hmem : creating name (.ok .alreadyExists) ∈ es) :
    ∃ message, r = .error (.configuration message) := by
  have hlast {lead ks : Trace Resource.interface} {other : String} {x : Except Error Creation}
      (hlead : Lead s lead other) (hks : ∀ e ∈ ks, Watches e.call)
      (hmem : creating name (.ok .alreadyExists) ∈ lead ++ creating other x :: ks) :
      x = .ok .alreadyExists := by
    refine (eq_of_creating ?_ hks hmem).2
    cases hlead with
    | fresh _ hempty => exact absurd hempty hs
    | named =>
      intro hlook
      cases List.mem_singleton.1 hlook
  cases h with
  | undrawn hempty => exact absurd hempty hs
  | exhausted hempty => exact absurd hempty hs
  | found _ hclose => exact absurd hmem (not_creating_of_probed hclose _ _ _ _)
  | unseen _ hclose => exact absurd hmem (not_creating_of_probed hclose _ _ _ _)
  | taken => exact ⟨_, rfl⟩
  | failed hlead hclose => exact nomatch hlast hlead hclose.watches hmem
  | created hlead hwait hclose =>
    exact nomatch hlast hlead (List.forall_mem_append.2 ⟨hwait, hclose.watches⟩) hmem

/-- The last observation changes no more than that it observes. -/
lemma Concluded.alike (h : Concluded s r t) : Alike s t := by
  cases h <;> exact .record ..

/-- The conditions after the last observation. -/
lemma Concluded.observed (h : Concluded s r t) : ∃ status reason message now,
    t.status = s.status.record .storageExists status reason message now := by
  cases h <;> exact ⟨_, _, _, _, rfl⟩

/-- A run succeeds if and only if it last observed that the storage exists. -/
lemma Concluded.succeeds_iff (h : Concluded s r t) :
    r.isOk ↔ ∃ c, t.status.condition? .storageExists = some c ∧ c.status = .holds := by
  cases h with
  | succeeds reason message now =>
    obtain ⟨c, hc, hstatus, -⟩ := Status.condition?_record_self (s := s.status)
    exact ⟨fun _ => ⟨c, hc, hstatus⟩, fun _ => rfl⟩
  | fails e reason message now hstatus =>
    obtain ⟨c, hc, hc', -⟩ := Status.condition?_record_self (s := s.status)
    refine ⟨fun hok => (nomatch hok), ?_⟩
    rintro ⟨d, hd, hholds⟩
    obtain rfl : c = d := Option.some.inj (hc.symm.trans hd)
    exact absurd (hc'.symm.trans hholds) hstatus

/-! ## The end of a run -/

/-- The contract of a clock that does not go back, and goes on while the program sleeps; its state
is the earliest time that it may show. -/
def elapsing : Contract Resource.interface Nat where
  permits _ _ := True
  step g c x g' :=
    match c with
    | .now => g ≤ (x : Span).nanos ∧ g' = (x : Span).nanos
    | .sleep d => g' = g + d.nanos
    | _ => g' = g

/-- A call is answered. -/
lemma halts_ask (c : Resource.Call) : Action.Halts elapsing (ask c) :=
  Action.halts_perform fun _ => trivial

/-- A pause takes from the time that is left, or there is none left.

**Proof sketch.** The time and the sleep are two calls, of which the second moves the clock by the
interval, within the deadline. -/
lemma ends_pause {deadline g : Nat} {u : Subject} {e : Error} (hw : 0 < w.interval.nanos) :
    Action.Ends elapsing (do
      let now ← ask .now
      if deadline < now.nanos + w.interval.nanos then throw e
      else
        ask (.sleep w.interval)
        return (.inl () : Unit ⊕ Unit)) u g fun r _ g' =>
      match r with
      | .ok (.inl _) => deadline - g' < deadline - g
      | _ => True := by
  refine Action.ends_call trivial ?_
  rintro (now : Span) _ ⟨hnow, rfl⟩
  split
  · trivial
  · rename_i htime
    refine Action.ends_call trivial ?_
    rintro ⟨⟩ _ rfl
    change deadline - (now.nanos + w.interval.nanos) < deadline - g
    omega

/-- The looks for a resource end.

**Proof sketch.** What is left until the deadline decreases with every pause, which is the only way
the loop goes on. -/
lemma halts_waitUntilVisible (k : Kind) (hw : 0 < w.interval.nanos) :
    Action.Halts elapsing (waitUntilVisible k w) := by
  refine Action.halts_get.bind fun s => ?_
  refine (halts_ask .now).bind fun (start : Span) u g => ?_
  refine Action.ends_loop_of_lt (fun _ _ _ => True)
    (fun _ clock => start.nanos + w.timeout.nanos - clock) trivial ?_
  intro _ u g _
  refine Action.ends_call trivial ?_
  rintro (e | _ | _ | _) _ rfl
  · trivial
  · trivial
  -- Absent or not accessible, there is a pause.
  all_goals
    refine (ends_pause hw).mono ?_
    rintro (e | _ | _) _ _ hlt
    · trivial
    · exact ⟨trivial, hlt⟩
    · trivial

/-- An observation is made at once. -/
lemma halts_record (kind : Condition.Kind) (status : Condition.Status)
    (reason message : String) : Action.Halts elapsing (record kind status reason message) :=
  (halts_ask .time).bind fun _ => Action.halts_modify _

/-- A failure is recorded at once. -/
lemma halts_abort {kind : Condition.Kind} {status : Condition.Status}
    {reason message : String} {e : Error} :
    Action.Halts elapsing (do record kind status reason message; throw e : Step Unit) :=
  (halts_record kind status reason message).bind fun _ => Action.halts_throw e

/-- What follows a creation ends. -/
lemma halts_afterCreation (k : Kind) (hw : 0 < w.interval.nanos) :
    Action.Halts elapsing (afterCreation k w) := by
  refine (Action.halts_modify _).bind fun _ => ?_
  refine (halts_waitUntilVisible k hw).outcome.bind ?_
  rintro (e | ⟨⟩)
  · exact halts_abort
  · exact Action.halts_get.bind fun _ => halts_record _ _ _ _

/-- The creation under a given name ends. -/
lemma halts_createNamed (k : Kind) (hw : 0 < w.interval.nanos) (name : String) :
    Action.Halts elapsing (createNamed k w name) := by
  refine (halts_ask (.create name)).bind ?_
  rintro (e | _ | _)
  · exact halts_abort
  · exact halts_afterCreation k hw
  · exact halts_abort

/-- Finding or creating under a given name ends. -/
lemma halts_ensureNamed (k : Kind) (hw : 0 < w.interval.nanos) (name : String) :
    Action.Halts elapsing (ensureNamed k w name) := by
  refine (halts_ask (.probe name)).bind ?_
  rintro (e | _ | _ | _)
  · exact halts_abort
  · refine Action.halts_get.bind fun s => ?_
    dsimp only
    split
    · exact halts_record _ _ _ _
    · exact (Action.halts_modify _).bind fun _ => halts_record _ _ _ _
  · exact halts_createNamed k hw name
  · exact halts_createNamed k hw name

/-- The creation under names that are made up ends.

**Proof sketch.** By induction on the attempts that are left. -/
lemma halts_createFresh (k : Kind) (hw : 0 < w.interval.nanos) (attempts : Nat) :
    Action.Halts elapsing (createFresh k w attempts) := by
  induction attempts with
  | zero => exact halts_abort
  | succ attempts ih =>
    refine (halts_ask .generate).bind ?_
    rintro (e | candidate)
    · exact halts_abort
    · refine (halts_ask (.create candidate)).bind ?_
      rintro (e | _ | _)
      · exact halts_abort
      · exact (Action.halts_modify _).bind fun _ => halts_afterCreation k hw
      · exact ih

/-- **Every run comes to an end** if the clock goes on, whatever the answers are. -/
theorem halts_ensure (k : Kind) (hw : 0 < w.interval.nanos) :
    Action.Halts elapsing (ensure k w) := by
  refine Action.halts_get.bind fun s => ?_
  have hbody : Action.Halts elapsing (if s.name = "" then createFresh k w Naming.maxAttempts
      else ensureNamed k w s.name) := by
    split
    · exact halts_createFresh k hw _
    · exact halts_ensureNamed k hw _
  refine hbody.outcome.bind fun result => ?_
  refine (halts_ask (.measured .create result.isOk)).bind fun _ => ?_
  exact fun _ _ => trivial

/-! ## Accounts -/

/-- What a run does, and what it leaves. -/
structure Ensures (s : Subject) (es : Trace Resource.interface) (r : Except Error Unit)
    (t : Subject) : Prop where
  /-- It succeeds if and only if the storage exists according to the status. -/
  succeeds : r.isOk ↔ ∃ c, t.status.condition? .storageExists = some c ∧ c.status = .holds
  /-- Then there is a name. -/
  named : r.isOk → t.name ≠ ""
  /-- The resource is the operator's if it was before or if it was created. -/
  managed : t.status.ownership = some .managed ↔
    (∃ name, creating name (.ok .created) ∈ es) ∨ s.status.ownership = some .managed
  /-- It is someone else's if it was found, or if it was before and none was created. -/
  unmanaged : t.status.ownership = some .unmanaged ↔
    Finds s es ∨ s.status.ownership = some .unmanaged ∧
      ∀ name, creating name (.ok .created) ∉ es
  /-- Otherwise the owner stays. -/
  unchanged : ¬ Finds s es → (∀ name, creating name (.ok .created) ∉ es) →
    t.status.ownership = s.status.ownership
  /-- The name changes only if there was none and one was created. -/
  renamed : t.name ≠ s.name → s.name = "" ∧ creating t.name (.ok .created) ∈ es
  /-- The name is that of the resource that was created. -/
  created : ∀ name, creating name (.ok .created) ∈ es → t.name = name
  /-- A name that is given is looked for, and created if it was not found or is not accessible. -/
  given : s.name ≠ "" → ∀ fs gs name x, es = fs ++ creating name x :: gs → name = s.name ∧
    (fs = [probed s.name (.ok .absent)] ∨ fs = [probed s.name (.ok .forbidden)])
  /-- It is created at most once. -/
  once : s.name ≠ "" → creations es ≤ 1
  /-- If it is taken, the configuration is wrong, and nothing is tried again. -/
  refused : s.name ≠ "" → ∀ name, creating name (.ok .alreadyExists) ∈ es →
    ∃ message, r = .error (.configuration message) ∧
      (Error.configuration message).isRetryable = false
  /-- Without a name each creation is one of the name that was drawn just before, and all names
  that were drawn earlier were taken. -/
  drawn : s.name = "" → ∀ fs gs name x, es = fs ++ creating name x :: gs →
    ∃ taken, fs = collisions taken ++ [generated (.ok name)]
  /-- A name is drawn only after names that were taken. -/
  draws : s.name = "" → ∀ fs gs x, es = fs ++ generated x :: gs → ∃ taken, fs = collisions taken
  /-- There are not too many creations. -/
  few : s.name = "" → creations es ≤ 5000
  /-- Without a name nothing is looked for before something is created. -/
  unseen : s.name = "" → ∀ fs gs name x, es = fs ++ probed name x :: gs →
    ∃ other, creating other (.ok .created) ∈ fs
  /-- One observation is recorded, that of the storage. -/
  observed : ∃ status reason message now, t.status.conditions =
    Condition.upsert .storageExists status reason message now s.status.conditions
  /-- The other conditions stay. -/
  others : t.status.others .storageExists = s.status.others .storageExists
  /-- The configuration that was applied stays. -/
  applied : t.status.applied = s.status.applied

/-- The last observation, whatever was done before. -/
lemma Leaves.concluded (h : Leaves s es r t) : ∃ u : Subject,
    u.status.applied = s.status.applied ∧ u.status.conditions = s.status.conditions ∧
      Concluded u r t := by
  cases h with
  | @created name _ _ _ _ ht => exact ⟨{ s with name }.ownedBy .managed, rfl, rfl, ht⟩
  | found _ _ ht => exact ⟨s.ownedBy .unmanaged, rfl, rfl, ht⟩
  | kept _ _ _ ht => exact ⟨s, rfl, rfl, ht⟩

/-- What was created is the operator's and gave the name. -/
lemma Leaves.of_created (h : Leaves s es r t) {name : String}
    (hmem : creating name (.ok .created) ∈ es) :
    t.name = name ∧ t.status.ownership = some .managed ∧ ¬ Finds s es ∧
      (s.name ≠ "" ∧ s.name = name ∨ s.name = "" ∧ generated (.ok name) ∈ es) := by
  cases h with
  | created _ hunique hfinds horigin ht =>
    cases hunique name hmem
    exact ⟨ht.alike.name, ht.alike.ownership, hfinds, horigin⟩
  | found hnone => exact absurd hmem (hnone name)
  | kept hnone => exact absurd hmem (hnone name)

/-- Without a creation the name stays, and the owner too unless someone else's resource was
found. -/
lemma Leaves.of_not_created (h : Leaves s es r t)
    (hnone : ∀ name, creating name (.ok .created) ∉ es) :
    t.name = s.name ∧ (r.isOk → s.name ≠ "") ∧
      (Finds s es ∧ t.status.ownership = some .unmanaged ∨
        ¬ Finds s es ∧ t.status.ownership = s.status.ownership) := by
  cases h with
  | created hmem => exact absurd hmem (hnone _)
  | found _ hfinds ht =>
    exact ⟨ht.alike.name, fun _ => hfinds.2.1, .inl ⟨hfinds, ht.alike.ownership⟩⟩
  | kept _ hfinds hname ht =>
    exact ⟨ht.alike.name, hname, .inr ⟨hfinds, ht.alike.ownership⟩⟩

/-- A run that succeeds leaves a name, if no empty one is made up. -/
lemma Leaves.named (h : Leaves s es r t) (hdrawn : generated (.ok "") ∉ es) (hok : r.isOk) :
    t.name ≠ "" := by
  by_cases hcreated : ∃ name, creating name (.ok .created) ∈ es
  · obtain ⟨name, hmem⟩ := hcreated
    obtain ⟨rfl, -, -, ⟨hs, heq⟩ | ⟨-, hgen⟩⟩ := h.of_created hmem
    · exact heq ▸ hs
    · exact fun hempty => hdrawn (hempty ▸ hgen)
  · obtain ⟨hname, hok', -⟩ := h.of_not_created (not_exists.1 hcreated)
    exact hname ▸ hok' hok

/-- The resource is the operator's if it was before or if it was created. -/
lemma Leaves.managed_iff (h : Leaves s es r t) : t.status.ownership = some .managed ↔
    (∃ name, creating name (.ok .created) ∈ es) ∨ s.status.ownership = some .managed := by
  by_cases hcreated : ∃ name, creating name (.ok .created) ∈ es
  · obtain ⟨name, hmem⟩ := hcreated
    exact iff_of_true (h.of_created hmem).2.1 (.inl ⟨name, hmem⟩)
  · rw [or_iff_right hcreated]
    obtain ⟨-, -, ⟨hfinds, ho⟩ | ⟨-, ho⟩⟩ := h.of_not_created (not_exists.1 hcreated)
    · exact iff_of_false (fun heq => nomatch ho.symm.trans heq) hfinds.1
    · rw [ho]

/-- It is someone else's if it was found, or if it was before and none was created.

**Proof sketch.** Split on whether something was created: then the owner is the operator, and
otherwise the owner was set by a look that found the resource, or is the one from before. -/
lemma Leaves.unmanaged_iff (h : Leaves s es r t) : t.status.ownership = some .unmanaged ↔
    Finds s es ∨ s.status.ownership = some .unmanaged ∧
      ∀ name, creating name (.ok .created) ∉ es := by
  by_cases hcreated : ∃ name, creating name (.ok .created) ∈ es
  · obtain ⟨name, hmem⟩ := hcreated
    obtain ⟨-, ho, hfinds, -⟩ := h.of_created hmem
    refine iff_of_false (fun heq => nomatch ho.symm.trans heq) ?_
    rintro (hfound | ⟨-, hnone⟩)
    · exact hfinds hfound
    · exact hnone name hmem
  · have hnone := not_exists.1 hcreated
    obtain ⟨-, -, ⟨hfinds, ho⟩ | ⟨hfinds, ho⟩⟩ := h.of_not_created hnone
    · exact iff_of_true ho (.inl hfinds)
    · rw [ho, or_iff_right hfinds, and_iff_left hnone]

/-- The name changes only if there was none and one was created. -/
lemma Leaves.renamed (h : Leaves s es r t) (hne : t.name ≠ s.name) :
    s.name = "" ∧ creating t.name (.ok .created) ∈ es := by
  by_cases hcreated : ∃ name, creating name (.ok .created) ∈ es
  · obtain ⟨name, hmem⟩ := hcreated
    obtain ⟨rfl, -, -, ⟨-, heq⟩ | ⟨hs, -⟩⟩ := h.of_created hmem
    · exact absurd heq.symm hne
    · exact ⟨hs, hmem⟩
  · exact absurd (h.of_not_created (not_exists.1 hcreated)).1 hne

/-- A name that is given is created only after it was not found or is not accessible.

**Proof sketch.** Among the calls of a course with a name, `Course.named`, only the second one
creates, and what comes before it is the look. -/
lemma Course.given (h : Course k s es r t) (hs : s.name ≠ "") {name : String}
    {x : Except Error Creation} (hes : es = fs ++ creating name x :: gs) :
    name = s.name ∧
      (fs = [probed s.name (.ok .absent)] ∨ fs = [probed s.name (.ok .forbidden)]) := by
  subst hes
  have hplaces := h.named hs
  generalize he : creating name x = e at hplaces
  cases hplaces with
  | first => cases he
  | @second p y hp =>
    cases he
    refine ⟨rfl, ?_⟩
    cases p with
    | present => exact absurd rfl hp
    | absent => exact .inl rfl
    | forbidden => exact .inr rfl
  | later hwatch =>
    subst he
    exact hwatch.elim

/-- Without a name, the name that is created was drawn just before, after names that were
taken. -/
lemma Course.drawn (h : Course k s es r t) (hs : s.name = "") {name : String}
    {x : Except Error Creation} (hes : es = fs ++ creating name x :: gs) :
    ∃ taken, fs = collisions taken ++ [generated (.ok name)] := by
  subst hes
  rcases h.unnamed hs with ⟨taken, -, ⟨-, y, he⟩ | ⟨other, y, hfs, he⟩⟩ | hnote | ⟨hwatch, -⟩
  · cases he
  · cases he
    exact ⟨taken, hfs⟩
  · exact hnote.elim
  · exact hwatch.elim

/-- A name is drawn only after names that were taken. -/
lemma Course.draws (h : Course k s es r t) (hs : s.name = "") {x : Except Error String}
    (hes : es = fs ++ generated x :: gs) : ∃ taken, fs = collisions taken := by
  subst hes
  rcases h.unnamed hs with ⟨taken, -, ⟨hfs, -⟩ | ⟨other, y, -, he⟩⟩ | hnote | ⟨hwatch, -⟩
  · exact ⟨taken, hfs⟩
  · cases he
  · exact hnote.elim
  · exact hwatch.elim

/-- Without a name nothing is looked for before something is created. -/
lemma Course.unseen_of_unnamed (h : Course k s es r t) (hs : s.name = "") {name : String}
    {x : Except Error Presence} (hes : es = fs ++ probed name x :: gs) :
    ∃ other, creating other (.ok .created) ∈ fs := by
  subst hes
  rcases h.unnamed hs with ⟨taken, -, ⟨-, y, he⟩ | ⟨other, y, -, he⟩⟩ | hnote | ⟨-, hcreated⟩
  · cases he
  · cases he
  · exact hnote.elim
  · exact hcreated

/-- **Every course of a run accounts for all of it.**

**Proof sketch.** Every field is one of the lemmas above about the course or about what it
leaves. -/
lemma Course.ensures (h : Course k s es r t) (hdrawn : generated (.ok "") ∉ es) :
    Ensures s es r t := by
  obtain ⟨u, happlied, hconditions, hlast⟩ := h.leaves.concluded
  obtain ⟨status, reason, message, now, hobserved⟩ := hlast.observed
  exact {
    succeeds := hlast.succeeds_iff
    named := h.leaves.named hdrawn
    managed := h.leaves.managed_iff
    unmanaged := h.leaves.unmanaged_iff
    unchanged := fun hfinds hnone =>
      ((h.leaves.of_not_created hnone).2.2.resolve_left fun hfound => hfinds hfound.1).2
    renamed := h.leaves.renamed
    created := fun name hmem => (h.leaves.of_created hmem).1
    given := fun hs _ _ _ _ hes => h.given hs hes
    once := fun hs => Nat.le_trans h.creations_le (Nat.le_of_eq (if_neg hs))
    refused := fun hs name hmem => (h.refused hs hmem).imp fun _ hr => ⟨hr, rfl⟩
    drawn := fun hs _ _ _ _ hes => h.drawn hs hes
    draws := fun hs _ _ _ hes => h.draws hs hes
    few := fun hs => Nat.le_trans h.creations_le (Nat.le_of_eq (if_pos hs))
    unseen := fun hs _ _ _ _ hes => h.unseen_of_unnamed hs hes
    observed := ⟨status, reason, message, now, by rw [hobserved, Status.record, hconditions]⟩
    others := by rw [hobserved, Status.others_record, Status.others, Status.others, hconditions]
    applied := by rw [hobserved, Status.record, happlied] }

/-- **What finding or creating a resource does**, for every cloud: every run comes to an end if the
clock goes on, and accounts for the name, the owner and the conditions that it leaves, if no empty
name is made up.

**Proof sketch.** A run has one of seven courses (`runs_ensure`). The course says where each call
can stand (`Course.unnamed`, `Course.named`), and what was created or found decides what is left
(`Course.leaves`). A run ends because names are drawn a bounded number of times and every pause
takes from the time that is left (`halts_ensure`). -/
theorem ensure_accounts (k : Kind) (w : WaitPolicy) (hw : 0 < w.interval.nanos) (s : Subject) :
    (∀ g, Action.Ends elapsing (ensure k w) s g fun _ _ _ => True) ∧
    ∀ es r t, generated (.ok "") ∉ es → Action.Runs (ensure k w) s es r t → Ensures s es r t :=
  ⟨halts_ensure k hw s, fun _ _ _ hdrawn hrun => (runs_ensure hrun).ensures hdrawn⟩

/-- The name that was made up by an answered call, if there is one. -/
def madeUp : Event Resource.interface → Option String
  | ⟨.generate, x⟩ => Except.toOption x
  | _ => none

/-- The answers of a cloud in which the first name that is made up is taken; the resource can be
seen after the first pause. -/
def takenOnce (es : Trace Resource.interface) :
    (c : Resource.Call) → Resource.interface.Answer c
  | .generate => .ok (if creations es = 0 then "images" else "images-1")
  | .create name => .ok (if name = "images" then .alreadyExists else .created)
  | .probe _ => .ok (if es.any fun e => e.call matches .sleep _ then .present else .absent)
  | .harden _ _ => .ok ""
  | .empty _ => .ok ()
  | .delete _ => .ok ()
  | .now => (default : Span)
  | .sleep _ => ()
  | .time => (default : Timestamp)
  | .measured _ _ => ()

/-- Without a name, the second name is created and awaited. -/
theorem ensure_accounts_takenOnce :
    0 < ({} : WaitPolicy).interval.nanos ∧
    ∃ es t, generated (.ok "") ∉ es ∧ Action.Runs (ensure default {}) ⟨"", {}⟩ es (.ok ()) t ∧
      t.name = "images-1" ∧ Ensures ⟨"", {}⟩ es (.ok ()) t := by
  obtain ⟨es, ⟨r, t⟩, hrun, hr, hname, hnames⟩ :=
    Prog.exists_runs_of_run takenOnce 3 (Action.start (ensure default {}) ⟨"", {}⟩)
      (fun es a => a.1.toOption = some () ∧ a.2.name = "images-1" ∧
        es.filterMap madeUp = ["images", "images-1"]) (by decide +kernel)
  have hdrawn : generated (.ok "") ∉ es := fun hmem => by
    have hempty : "" ∈ es.filterMap madeUp := List.mem_filterMap.2 ⟨_, hmem, rfl⟩
    rw [hnames] at hempty
    exact absurd hempty (by decide)
  cases r with
  | error e => cases hr
  | ok =>
    exact ⟨by decide, es, t, hdrawn, hrun, hname,
      (ensure_accounts default {} (by decide) ⟨"", {}⟩).2 es _ t hdrawn hrun⟩

end Lifecycle

end Depot
