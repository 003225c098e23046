import Depot.Lifecycle
import Depot.Proofs.Contract
import Depot.Proofs.Observing

set_option autoImplicit false

/-!
# What the lifecycle does to resources

The lifecycle asks its calls of any world: a bucket may appear or vanish between two calls, and
every call may fail. What is known of the world is which resources the operator owns there, and
that this changes only when a resource is created or deleted. From this each part of the lifecycle
has a description of how it may end, and none sets up, empties or deletes a resource that is not
owned.

## Main definitions

* `Lifecycle.Effects` — the resources that the operator owns in a world.
* `Lifecycle.Effects.contract` — only owned resources are set up, emptied and deleted.
* `Lifecycle.Ensured`, `Lifecycle.Removed` — how a creation and a removal may end.

## Main results

* `Lifecycle.keeps_ensure`, `Lifecycle.keeps_applyHardening`, `Lifecycle.keeps_remove`,
  `Lifecycle.keeps_checkExists` — the parts of the lifecycle keep the contract.
-/

namespace Depot

namespace Status

variable {s : Status} {name : String}

/-- A resource is left alone that is not the operator's or has no name. -/
lemma idle_iff :
    (!s.isManaged || decide (name = "")) = true ↔ s.ownership ≠ some .managed ∨ name = "" := by
  simp [isManaged]

/-- A resource of the operator is not left alone. -/
lemma owned_iff :
    (!s.isManaged || decide (name = "")) = false ↔ s.ownership = some .managed ∧ name ≠ "" := by
  simp [isManaged]

/-- What is not left alone is a resource of the operator. -/
lemma owned_of_not_idle (h : ¬ (!s.isManaged || decide (name = ""))) :
    s.ownership = some .managed ∧ name ≠ "" :=
  owned_iff.1 (Bool.eq_false_iff.2 h)

end Status

namespace Lifecycle

open Resource

variable {G : Type}

/-- The resources that the operator owns in a world, and how creations and deletions change it. -/
structure Effects (G : Type) where
  /-- Whether the operator owns the resource of a name. -/
  owns : G → String → Prop
  /-- Whether the operator may look for resources. -/
  looks : G → Prop := fun _ => True
  /-- Whether the operator may create a resource. -/
  creates : G → Prop := fun _ => True
  /-- A resource was created. -/
  created : String → G → G
  /-- A creation failed. -/
  failed : G → G := id
  /-- A resource was deleted, or was gone already. -/
  deleted : String → G → G

/-- Whether a resource is gone after a deletion was answered. -/
def isGone : Except Error Unit → Bool
  | .ok () => true
  | .error e => e.isNotFound

namespace Effects

variable (E : Effects G)

/-- The world after a call was answered. -/
def next (g : G) : (c : Resource.Call) → Resource.interface.Answer c → G
  | .create name, .ok .created => E.created name g
  | .create _, .error _ => E.failed g
  | .delete name, r => if isGone r then E.deleted name g else g
  | _, _ => g

/-- Whether an answer can occur: a name that is made up is not empty. -/
def admits : (c : Resource.Call) → Resource.interface.Answer c → Prop
  | .generate, .ok name => name ≠ ""
  | _, _ => True

/-- Whether the operator may make a call. -/
def permits (g : G) : Resource.Call → Prop
  | .probe _ => E.looks g
  | .create _ => E.creates g
  | .harden name _ | .empty name | .delete name => E.owns g name
  | _ => True

/-- Only owned resources are set up, emptied and deleted. -/
def contract : Contract Resource.interface G where
  permits := E.permits
  step g c x g' := admits c x ∧ g' = E.next g c x

end Effects

variable {E : Effects G} {s : Subject} {g : G}

/-! ## Calls and observations -/

/-- A call of the lifecycle keeps the contract if it is permitted and every answer that can occur is
as described. -/
lemma keeps_ask {c : Resource.Call}
    {Q : Except Error (Resource.interface.Answer c) → Subject → G → Prop} :
    Action.Keeps E.contract (ask c) s g Q ↔
      E.permits g c ∧ ∀ x, Effects.admits c x → Q (.ok x) s (E.next g c x) := by
  rw [ask, Action.keeps_perform]
  exact Prog.keeps_perform_of_step fun _ _ => Iff.rfl

/-- A call that every world permits and that changes none of them. -/
lemma idle_ask {c : Resource.Call} (hp : E.permits g c) (hn : ∀ x, E.next g c x = g) :
    Action.Idle E.contract g (ask c) := by
  intro s
  rw [keeps_ask]
  exact ⟨hp, fun x _ => ⟨rfl, hn x⟩⟩

/-- A record of an observation keeps the contract if it does at any time. -/
@[simp] lemma keeps_record {kind : Condition.Kind} {status : Condition.Status}
    {reason message : String} {Q : Except Error Unit → Subject → G → Prop} :
    Action.Keeps E.contract (record kind status reason message) s g Q ↔
      ∀ time,
        Q (.ok ()) { s with status := s.status.record kind status reason message time } g := by
  simp only [record, Action.keeps_bind, keeps_ask, Action.keeps_modify]
  exact ⟨fun h time => h.2 time trivial, fun h => ⟨trivial, fun time _ => h time⟩⟩

/-- Writing down who owns the resource makes no call. -/
@[simp] lemma keeps_setOwnership {o : Ownership} {Q : Except Error Unit → Subject → G → Prop} :
    Action.Keeps E.contract (setOwnership o) s g Q ↔
      Q (.ok ()) { s with status := { s.status with ownership := some o } } g := Iff.rfl

/-- Two subjects that differ in what was observed at most. -/
structure Alike (s t : Subject) : Prop where
  /-- The name is the same. -/
  name : t.name = s.name
  /-- The owner is the same. -/
  ownership : t.status.ownership = s.status.ownership
  /-- The configuration that was applied is the same. -/
  applied : t.status.applied = s.status.applied

/-- A subject is like itself. -/
lemma Alike.refl (s : Subject) : Alike s s := ⟨rfl, rfl, rfl⟩

/-- What is like a subject that is like another is like that other. -/
lemma Alike.trans {s t u : Subject} (h : Alike s t) (h' : Alike t u) : Alike s u :=
  ⟨h'.name.trans h.name, h'.ownership.trans h.ownership, h'.applied.trans h.applied⟩

/-- An observation changes nothing else. -/
lemma Alike.record (s : Subject) (kind : Condition.Kind) (status : Condition.Status)
    (reason message : String) (time : Timestamp) :
    Alike s { s with status := s.status.record kind status reason message time } :=
  ⟨rfl, rfl, rfl⟩

/-- Looking for the resource changes nothing but observations.

**Proof sketch.** There are five courses: without a name only that is recorded, and after the probe
its answer is. A probe changes nothing, and a record is no more than an observation. -/
theorem keeps_checkExists (k : Kind) (hl : E.looks g) :
    Action.Keeps E.contract (checkExists k) s g fun _ t g' => Alike s t ∧ g' = g := by
  rw [checkExists, Action.keeps_bind, Action.keeps_get]
  dsimp only
  split
  · simp only [notConfigured, Action.keeps_bind, keeps_ask, Action.keeps_modify, Action.keeps_pure]
    exact ⟨trivial, fun time _ => ⟨Alike.record .., rfl⟩⟩
  · rw [Action.keeps_bind, keeps_ask]
    refine ⟨hl, ?_⟩
    rintro (e | _ | _ | _) -
    · simp only [recordUnknown, Action.keeps_bind, keeps_record, Action.keeps_throw]
      exact fun time => ⟨Alike.record .., rfl⟩
    · simp only [Action.keeps_bind, keeps_record, Action.keeps_pure]
      exact fun time => ⟨Alike.record .., rfl⟩
    · simp only [Action.keeps_bind, keeps_record, Action.keeps_pure]
      exact fun time => ⟨Alike.record .., rfl⟩
    · simp only [recordUnknown, Action.keeps_bind, keeps_record, Action.keeps_throw]
      exact fun time => ⟨Alike.record .., rfl⟩

/-! ## Creation -/

/-- Waiting for a resource changes nothing.

**Proof sketch.** Every round probes, reads the clock, and pauses or gives up; none of these calls
changes anything. -/
lemma idle_waitUntilVisible (k : Kind) (w : WaitPolicy) (hl : E.looks g) :
    Action.Idle E.contract g (waitUntilVisible k w) := by
  refine Action.idle_get.bind fun s => ?_
  refine (idle_ask (by trivial) fun _ => rfl).bind fun start => ?_
  refine Action.idle_loop (fun _ => ?_) ()
  refine (idle_ask (c := .probe s.name) hl fun _ => rfl).bind ?_
  have hpause : Action.Idle (σ := Subject) E.contract g (do
      let now ← ask .now
      if start.nanos + w.timeout.nanos < now.nanos + w.interval.nanos then
        throw (.timeout (k.noun ++ " " ++ s.name ++ " to become visible") w.timeout)
      else
        ask (.sleep w.interval)
        return (.inl () : Unit ⊕ Unit)) := by
    refine (idle_ask (by trivial) fun _ => rfl).bind fun now => ?_
    split
    · exact Action.idle_throw _
    · exact (idle_ask (by trivial) fun _ => rfl).bind fun _ => Action.idle_pure _
  rintro (e | _ | _ | _)
  · exact Action.idle_throw e
  · exact Action.idle_pure _
  · exact hpause
  · exact hpause

/-- After a creation the operator owns the resource, also when it cannot be seen.

**Proof sketch.** The owner is written down before the wait, which changes nothing; whatever the
wait ends with is only recorded. -/
lemma keeps_afterCreation (k : Kind) (w : WaitPolicy) (hl : E.looks g) :
    Action.Keeps E.contract (afterCreation k w) s g fun _ t g' =>
      t.name = s.name ∧ t.status.ownership = some .managed ∧
        t.status.applied = s.status.applied ∧ g' = g := by
  rw [afterCreation, Action.keeps_bind, keeps_setOwnership]
  dsimp only
  rw [Action.keeps_bind]
  refine (idle_waitUntilVisible k w hl).outcome.keeps ?_
  rintro (e | e | ⟨⟨⟩⟩)
  · exact ⟨rfl, rfl, rfl, rfl⟩
  · simp only [recordCreationFailed, Action.keeps_bind, keeps_record, Action.keeps_throw]
    exact fun time => ⟨trivial, rfl, rfl, trivial⟩
  · simp only [Action.keeps_bind, Action.keeps_get, keeps_record]
    exact fun time => ⟨trivial, rfl, rfl, trivial⟩

/-- How finding or creating a resource may end. -/
inductive Ensured (E : Effects G) (s : Subject) (g : G) :
    Except Error Unit → Subject → G → Prop where
  /-- Nothing was created, and the owner is the one before. -/
  | kept {r : Except Error Unit} {t : Subject} : Alike s t → Ensured E s g r t g
  /-- A creation failed, and nothing else was tried. -/
  | failed {e : Error} {t : Subject} : Alike s t → Ensured E s g (.error e) t (E.failed g)
  /-- The resource was found, and it is someone else's. -/
  | adopted {r : Except Error Unit} {t : Subject} : s.status.ownership ≠ some .managed →
    t.name = s.name → t.status.ownership = some .unmanaged →
    t.status.applied = s.status.applied → Ensured E s g r t g
  /-- The resource was created, and the operator owns it. -/
  | created {r : Except Error Unit} {t : Subject} : s.name = "" ∨ t.name = s.name →
    t.name ≠ "" → t.status.ownership = some .managed → t.status.applied = s.status.applied →
    Ensured E s g r t (E.created t.name g)

/-- A resource without a name had none before. -/
lemma Ensured.unnamed {r : Except Error Unit} {t : Subject} {g' : G} (h : Ensured E s g r t g')
    (ht : t.name = "") : s.name = t.name := by
  cases h with
  | kept ha => exact ha.name.symm
  | failed ha => exact ha.name.symm
  | adopted _ hn _ _ => exact hn.symm
  | created _ hne _ _ => exact absurd ht hne

/-- Finding or creating a resource does not change what was applied. -/
lemma Ensured.applied {r : Except Error Unit} {t : Subject} {g' : G}
    (h : Ensured E s g r t g') : t.status.applied = s.status.applied := by
  cases h with
  | kept ha => exact ha.applied
  | failed ha => exact ha.applied
  | adopted _ _ _ ha => exact ha
  | created _ _ _ ha => exact ha

/-- A resource that is found or created has a name. -/
def Named (r : Except Error Unit) (t : Subject) : Prop := r.isOk → t.name ≠ ""

/-- After a failure nothing is said about the name. -/
lemma named_error {e : Error} {t : Subject} : Named (.error e) t := fun h => nomatch h

/-- Nothing was created, or a creation failed, which is recorded. -/
lemma keeps_fail {kind : Condition.Kind} {status : Condition.Status} {reason message : String}
    {e : Error} {h : G} (hh : h = g ∨ h = E.failed g) :
    Action.Keeps E.contract (do record kind status reason message; (throw e : Step Unit)) s h
      fun r t g' => Ensured E s g r t g' ∧ Named r t := by
  simp only [Action.keeps_bind, keeps_record, Action.keeps_throw]
  intro time
  rcases hh with rfl | rfl
  · exact ⟨.kept (Alike.record ..), named_error⟩
  · exact ⟨.failed (Alike.record ..), named_error⟩

/-- What the operator may do before and after a creation. -/
structure Effects.Enables (E : Effects G) (g : G) : Prop where
  /-- It may look for resources. -/
  looks : E.looks g
  /-- It may create one. -/
  creates : E.creates g
  /-- It may look for the one that it created. -/
  created : ∀ name, E.looks (E.created name g)

/-- Creating a resource under its name creates that one or nothing. -/
lemma keeps_createNamed (k : Kind) (w : WaitPolicy) (hg : E.Enables g) (hs : s.name ≠ "") :
    Action.Keeps E.contract (createNamed k w s.name) s g fun r t g' =>
      Ensured E s g r t g' ∧ Named r t := by
  rw [createNamed, Action.keeps_bind, keeps_ask]
  refine ⟨hg.creates, ?_⟩
  rintro (e | _ | _) -
  · exact keeps_fail (.inr rfl)
  · refine (keeps_afterCreation k w (hg.created _)).mono ?_
    rintro r t g' ⟨hn, ho, ha, rfl⟩
    rw [← hn] at hs ⊢
    exact ⟨.created (.inr hn) hs ho ha, fun _ => hs⟩
  · exact keeps_fail (.inl rfl)

/-- A resource that is found keeps its owner; only a name without a resource is created.

**Proof sketch.** By the answer to the probe. A resource that is present is recorded, and becomes
unmanaged unless it is the operator's already; one that is absent or forbidden is created. -/
lemma keeps_ensureNamed (k : Kind) (w : WaitPolicy) (hg : E.Enables g) (hs : s.name ≠ "") :
    Action.Keeps E.contract (ensureNamed k w s.name) s g fun r t g' =>
      Ensured E s g r t g' ∧ Named r t := by
  rw [ensureNamed, Action.keeps_bind, keeps_ask]
  refine ⟨hg.looks, ?_⟩
  rintro (e | _ | _ | _) -
  · exact keeps_fail (.inl rfl)
  · dsimp only
    rw [Action.keeps_bind, Action.keeps_get]
    dsimp only
    split
    · rw [keeps_record]
      exact fun time => ⟨.kept (Alike.record ..), fun _ => hs⟩
    · rename_i hm
      simp only [Action.keeps_bind, keeps_setOwnership, keeps_record]
      exact fun time => ⟨.adopted (by simpa [Status.isManaged] using hm) rfl rfl rfl, fun _ => hs⟩
  · exact keeps_createNamed k w hg hs
  · exact keeps_createNamed k w hg hs

/-- Creating a resource under fresh names creates at most one, whose name is kept.

**Proof sketch.** By induction on the attempts that are left. A candidate that is taken changes
nothing, so the next attempt begins as this one did; one that is created becomes the name. -/
lemma keeps_createFresh (k : Kind) (w : WaitPolicy) (attempts : Nat) (hg : E.Enables g)
    (hs : s.name = "") :
    Action.Keeps E.contract (createFresh k w attempts) s g fun r t g' =>
      Ensured E s g r t g' ∧ Named r t := by
  induction attempts with
  | zero => exact keeps_fail (.inl rfl)
  | succ attempts ih =>
    rw [createFresh, Action.keeps_bind, keeps_ask]
    refine ⟨trivial, ?_⟩
    rintro (e | candidate) hc
    · exact keeps_fail (.inl rfl)
    · dsimp only
      rw [Action.keeps_bind, keeps_ask]
      refine ⟨hg.creates, ?_⟩
      rintro (e | _ | _) -
      · exact keeps_fail (.inr rfl)
      · dsimp only
        rw [Action.keeps_bind, Action.keeps_modify]
        refine (keeps_afterCreation k w (hg.created _)).mono ?_
        rintro r t g' ⟨hn, ho, ha, rfl⟩
        obtain rfl : t.name = candidate := hn
        exact ⟨.created (.inl hs) hc ho ha, fun _ => hc⟩
      · exact ih

/-- **Finding or creating a resource.** At most one resource is created; it has the name that is
kept, and the operator owns it, also when a later step fails.

**Proof sketch.** Without a name fresh ones are tried, with a name only that one; the measurement
that comes last changes nothing. -/
theorem keeps_ensure (k : Kind) (w : WaitPolicy) (hg : E.Enables g) :
    Action.Keeps E.contract (ensure k w) s g fun r t g' => Ensured E s g r t g' ∧ Named r t := by
  rw [ensure, Action.keeps_bind, Action.keeps_get]
  dsimp only
  rw [Action.keeps_bind, Action.keeps_outcome]
  have hbranch : Action.Keeps E.contract
      (if s.name = "" then createFresh k w Naming.maxAttempts else ensureNamed k w s.name) s g
      fun r t g' => Ensured E s g r t g' ∧ Named r t := by
    split
    · rename_i hs
      exact keeps_createFresh k w _ hg hs
    · rename_i hs
      exact keeps_ensureNamed k w hg hs
  refine hbranch.mono fun r t g' h => ?_
  exact Action.keeps_bind.2 (keeps_ask.2 ⟨trivial, fun _ _ => h⟩)

/-! ## Settings -/

/-- Settings are applied to an owned resource, and change nothing but observations.

**Proof sketch.** By induction on the steps: a step is permitted since the resource is owned, and
its outcome is recorded whether it succeeded or not. -/
lemma keeps_applySteps {name : String} (ho : E.owns g name) (steps : List Hardening) (s : Subject) :
    Action.Keeps E.contract (applySteps name steps) s g fun _ t g' => Alike s t ∧ g' = g := by
  induction steps generalizing s with
  | nil => exact ⟨Alike.refl s, rfl⟩
  | cons step rest ih =>
    rw [applySteps, Action.keeps_bind, keeps_ask]
    refine ⟨ho, ?_⟩
    rintro (e | message) -
    · dsimp only
      rw [Action.keeps_bind, keeps_record]
      intro time
      rw [Action.keeps_bind]
      refine (ih _).mono ?_
      rintro (e | failures) t g' ⟨ht, rfl⟩
      · exact ⟨(Alike.record ..).trans ht, rfl⟩
      · exact ⟨(Alike.record ..).trans ht, rfl⟩
    · dsimp only
      rw [Action.keeps_bind, keeps_record]
      intro time
      refine (ih _).mono ?_
      rintro r t g' ⟨ht, rfl⟩
      exact ⟨(Alike.record ..).trans ht, rfl⟩

/-- Whether the operator owns the resource that the status says it owns. -/
def Covers (E : Effects G) (s : Subject) (g : G) : Prop :=
  s.status.ownership = some .managed → s.name ≠ "" → E.owns g s.name

/-- Only a resource of the operator is set up. -/
theorem keeps_applyHardening (k : Kind) (hs : Covers E s g) :
    Action.Keeps E.contract (applyHardening k) s g fun _ t g' => Alike s t ∧ g' = g := by
  rw [applyHardening, Action.keeps_bind, Action.keeps_get]
  dsimp only
  split
  · exact ⟨Alike.refl s, rfl⟩
  · rename_i hm
    have hm := Status.owned_of_not_idle hm
    rw [Action.keeps_bind]
    refine (keeps_applySteps (hs hm.1 hm.2) k.hardening s).mono ?_
    rintro (e | failures) t g' h
    · exact h
    · exact h

/-! ## Removal -/

/-- How a removal may end. -/
inductive Removed (E : Effects G) (s : Subject) (g : G) :
    Except Error Bool → Subject → G → Prop where
  /-- Nothing was to be removed. -/
  | idle : s.status.ownership ≠ some .managed ∨ s.name = "" → Removed E s g (.ok false) s g
  /-- The removal failed. -/
  | failed {e : Error} {t : Subject} : Alike s t → Removed E s g (.error e) t g
  /-- The resource was deleted, or was gone already. -/
  | deleted {t : Subject} : s.status.ownership = some .managed → s.name ≠ "" →
    t.name = s.name → t.status.ownership = some .removed →
    t.status.applied = s.status.applied → Removed E s g (.ok true) t (E.deleted s.name g)

/-- How emptying and deleting a resource may end. -/
def Deleted (E : Effects G) (s : Subject) (g : G) : Except Error Unit → Subject → G → Prop
  | .ok (), t, g' =>
    t.name = s.name ∧ t.status.ownership = some .removed ∧
      t.status.applied = s.status.applied ∧ g' = E.deleted s.name g
  | .error _, t, g' => Alike s t ∧ g' = g

/-- A removal goes on if the resource is gone, and fails otherwise.

**Proof sketch.** An answer which says that the resource is gone lets the removal go on. Any other
is recorded as a failed deletion, and then the state is that of before. -/
lemma keeps_acceptGone {x : Except Error Unit} {next : Step Unit} {h : G}
    (hgone : isGone x → Action.Keeps E.contract next s g (Deleted E s h))
    (hkept : ¬ isGone x → g = h) :
    Action.Keeps E.contract (do acceptGone x; next) s g (Deleted E s h) := by
  rw [Action.keeps_bind]
  rcases x with e | _
  · rw [acceptGone]
    split
    · rename_i he
      exact hgone he
    · rename_i he
      simp only [recordDeletionFailed, Action.keeps_bind, keeps_record, Action.keeps_throw]
      exact fun time => ⟨Alike.record .., hkept he⟩
  · exact hgone rfl

/-- An owned resource that is emptied and deleted is no longer owned; one that is gone already
counts as deleted. -/
lemma keeps_removeOwned (k : Kind) (ho : E.owns g s.name) :
    Action.Keeps E.contract (removeOwned k s.name) s g (Deleted E s g) := by
  rw [removeOwned, Action.keeps_bind, keeps_ask]
  refine ⟨ho, fun x _ => ?_⟩
  refine keeps_acceptGone (fun _ => ?_) (fun _ => rfl)
  rw [Action.keeps_bind, keeps_ask]
  refine ⟨ho, fun x _ => ?_⟩
  refine keeps_acceptGone (fun hx => ?_) (fun hx => if_neg hx)
  have hdeleted : E.next g (.delete s.name) x = E.deleted s.name g := if_pos hx
  simp only [Action.keeps_bind, keeps_setOwnership, keeps_record]
  exact fun time => ⟨rfl, rfl, rfl, hdeleted⟩

/-- **Removing a resource.** Only a resource of the operator is emptied and deleted, and a removal
that succeeds says whether there was one.

**Proof sketch.** What is not the operator's or has no name is left alone. What is left is owned, as
the contract demands for emptying and deleting, and the outcome is told by the removal of an owned
resource. -/
theorem keeps_remove (k : Kind) (hs : Covers E s g) :
    Action.Keeps E.contract (remove k) s g (Removed E s g) := by
  rw [remove, Action.keeps_bind, Action.keeps_get]
  dsimp only
  split
  · rename_i hm
    exact .idle (Status.idle_iff.1 hm)
  · rename_i hm
    have hm := Status.owned_of_not_idle hm
    rw [Action.keeps_bind, Action.keeps_outcome]
    refine (keeps_removeOwned k (hs hm.1 hm.2)).mono ?_
    rintro (e | _) t g' h
    · exact Action.keeps_bind.2 (keeps_ask.2 ⟨trivial, fun _ _ => h.2 ▸ .failed h.1⟩)
    · obtain ⟨hn, ho, ha, rfl⟩ := h
      exact Action.keeps_bind.2 (keeps_ask.2 ⟨trivial, fun _ _ => .deleted hm.1 hm.2 hn ho ha⟩)

end Lifecycle

end Depot
