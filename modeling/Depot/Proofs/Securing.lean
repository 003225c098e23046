import Depot.Proofs.Surroundings

set_option autoImplicit false

/-!
# Securing a resource

In surroundings that tell the truth the lifecycle has one way to go: a resource that exists is
found, one that does not is created and can be seen at once, and every setting is applied. What this
leaves in the status is known, and going the same way again changes neither a status nor a time in
it.

## Main definitions

* `Status.Holds`, `Status.marks`, `Status.Confirms` — what is known of the conditions, what is
  told apart in them, and that some are observed to hold.
* `Lifecycle.Site` — how the resources of a kind show in a cloud.
* `Lifecycle.Secured` — what finding or creating a resource leaves behind.
* `Storage.Truthful` — programs for the steps of a lifecycle tell the truth.

## Main results

* `Lifecycle.ends_ensure`, `Lifecycle.ends_applyHardening`, `Lifecycle.ends_checkExists` — the
  parts of the lifecycle succeed.
* `Storage.ends_onResource` — so they do in a session.
-/

namespace Depot

/-! ## Conditions that hold -/

namespace Status

/-- A condition is known to hold. -/
def Holds (s : Status) (kind : Condition.Kind) : Prop :=
  ∃ c, s.condition? kind = some c ∧ c.status = .holds

/-- The kinds of all conditions, with their statuses and when these last changed. -/
def marks (s : Status) : List (Condition.Kind × Condition.Status × Option Timestamp) :=
  s.conditions.map fun c => (c.kind, c.status, c.lastTransition)

variable {s t u : Status} {kind other : Condition.Kind} {reason message : String} {now : Timestamp}

/-- What was observed to hold is known to hold. -/
lemma holds_record_self : (s.record kind .holds reason message now).Holds kind :=
  let ⟨c, hc, hs, _⟩ := condition?_record_self
  ⟨c, hc, hs⟩

/-- An observation that something holds leaves the rest as it is known. -/
lemma Holds.record (h : s.Holds other) :
    (s.record kind .holds reason message now).Holds other := by
  by_cases hk : kind = other
  · subst hk
    exact holds_record_self
  · rwa [Holds, condition?_record_of_ne hk]

/-- Another observation of what is known to hold changes no status and no time.

**Proof sketch.** By induction on the conditions, up to the one that is observed again. -/
lemma Holds.marks_record (h : s.Holds kind) :
    (s.record kind .holds reason message now).marks = s.marks := by
  simp only [Holds, condition?, Status.record, marks] at h ⊢
  revert h
  induction s.conditions with
  | nil => rintro ⟨_, ⟨⟩, _⟩
  | cons c rest ih =>
    rw [Condition.upsert]
    split
    · rename_i hc
      rw [Condition.find?_cons_of_eq hc]
      rintro ⟨_, ⟨⟩, hs⟩
      simp [Condition.observe, hs]
    · rename_i hc
      rw [Condition.find?_cons_of_ne hc]
      intro h
      rw [List.map_cons, List.map_cons, ih h]

/-- Whether a condition holds is known from the conditions only. -/
lemma holds_congr (h : t.conditions = s.conditions) : t.Holds kind ↔ s.Holds kind := by
  rw [Holds, Holds, condition?, condition?, h]

/-- Some conditions were observed to hold, and nothing else was observed. -/
structure Confirms (kinds : List Condition.Kind) (s t : Status) : Prop where
  /-- They hold. -/
  holds : ∀ k ∈ kinds, t.Holds k
  /-- What held before still does. -/
  kept : ∀ k, s.Holds k → t.Holds k
  /-- If all of them held before, no status and no time has changed. -/
  same : (∀ k ∈ kinds, s.Holds k) → t.marks = s.marks

/-- A status confirms nothing about itself. -/
lemma Confirms.refl (s : Status) : Confirms [] s s :=
  ⟨fun _ h => (nomatch h), fun _ h => h, fun _ => rfl⟩

/-- What two parts of a run confirm is confirmed by both together. -/
lemma Confirms.trans {ks ls : List Condition.Kind} (h : Confirms ks s t) (h' : Confirms ls t u) :
    Confirms (ks ++ ls) s u where
  holds k hk := (List.mem_append.1 hk).elim (fun hk => h'.kept k (h.holds k hk)) (h'.holds k)
  kept k hk := h'.kept k (h.kept k hk)
  same hs :=
    (h'.same fun k hk => h.kept k (hs k (List.mem_append_right _ hk))).trans
      (h.same fun k hk => hs k (List.mem_append_left _ hk))

/-- The same conditions are observed again. -/
lemma Confirms.again {ks : List Condition.Kind} (h : Confirms ks s t) (h' : Confirms ks t u) :
    Confirms ks s u where
  holds := h'.holds
  kept k hk := h'.kept k (h.kept k hk)
  same hs := (h'.same fun k hk => h.kept k (hs k hk)).trans (h.same hs)

/-- Only the conditions matter. -/
lemma Confirms.congr {ks : List Condition.Kind} {s' t' : Status} (h : Confirms ks s t)
    (hs : s'.conditions = s.conditions) (ht : t'.conditions = t.conditions) :
    Confirms ks s' t' where
  holds k hk := (holds_congr ht).2 (h.holds k hk)
  kept k hk := (holds_congr ht).2 (h.kept k ((holds_congr hs).1 hk))
  same hk := by
    rw [marks, marks, hs, ht]
    exact h.same fun k hk' => (holds_congr hs).1 (hk k hk')

/-- One observation. -/
lemma Confirms.record (s : Status) :
    Confirms [kind] s (s.record kind .holds reason message now) where
  holds k hk := by
    rw [List.mem_singleton.1 hk]
    exact holds_record_self
  kept k hk := hk.record
  same hs := (hs kind (List.mem_singleton_self _)).marks_record

end Status

/-- The settings that are applied to a resource, depending on whose it is. -/
def Resource.Kind.settings (k : Kind) (o : Option Ownership) : List Hardening :=
  if o = some .managed then k.hardening else []

namespace Lifecycle

open Resource

/-! ## Resources in a cloud -/

/-- How the resources of a kind show in a cloud. -/
structure Site where
  /-- The kind of resource. -/
  kind : Kind
  /-- The resource of a name exists. -/
  There : Cloud → String → Prop
  /-- A setting can be applied to the resource of a name without creating anything. -/
  Ready : Cloud → String → Hardening → Prop := fun _ _ _ => True
  /-- A resource can be created. -/
  Room : Cloud → Prop := fun _ => True
  /-- Names for resources are made up. -/
  Names : Prop := True
  /-- A resource stays. -/
  there_grows : ∀ {g g' : Cloud} {name : String}, g.Grows g' → There g name → There g' name
  /-- So does what a setting needs. -/
  ready_grows : ∀ {g g' : Cloud} {name : String} {step : Hardening}, g.Grows g' →
    Ready g name step → Ready g' name step := by exact fun _ h => h

namespace Site

variable (S : Site)

/-- Whether a call may be made. Something may be created only under a condition. -/
def Permits (needed : Prop) (g : Cloud) : Resource.Call → Prop
  | .create _ => needed ∧ S.Room g
  | .harden name step =>
    step ∈ S.kind.hardening ∧ S.There g name ∧ (S.Ready g name step ∨ needed)
  | .generate => S.Names
  | .empty _ | .delete _ => False
  | _ => True

/-- The answer to a call is true and no failure. -/
def Tells (g : Cloud) : (c : Resource.Call) → Resource.interface.Answer c → Cloud → Prop
  | .probe name, x, g' =>
    (S.There g name → x = .ok .present) ∧ (¬ S.There g name → x = .ok .absent) ∧ g' = g
  | .create name, x, g' => ¬ S.There g name → x = .ok .created ∧ g.Grows g' ∧ S.There g' name
  | .harden name step, x, g' => (∃ message, x = .ok message) ∧ g.Grows g' ∧ S.Ready g' name step
  | .generate, x, g' => (∃ name, x = .ok name ∧ name ≠ "" ∧ ¬ S.There g name) ∧ g' = g
  | _, _, g' => g' = g

/-- The contract with a cloud that tells the truth. -/
def contract (needed : Prop) : Contract Resource.interface Cloud where
  permits := S.Permits needed
  step := S.Tells

end Site

variable {S : Site} {needed : Prop} {s : Subject} {g : Cloud}

/-- A step ends as its true answers say. -/
lemma ends_ask {c : Resource.Call}
    {Q : Except Error (Resource.interface.Answer c) → Subject → Cloud → Prop} :
    Action.Ends (S.contract needed) (ask c) s g Q ↔
      S.Permits needed g c ∧ ∀ x g', S.Tells g c x g' → Q (.ok x) s g' :=
  Action.ends_perform

/-- A record is made at whatever time it is. -/
lemma ends_record {kind : Condition.Kind} {status : Condition.Status} {reason message : String}
    {Q : Except Error Unit → Subject → Cloud → Prop}
    (h : ∀ time,
      Q (.ok ()) { s with status := s.status.record kind status reason message time } g) :
    Action.Ends (S.contract needed) (record kind status reason message) s g Q := by
  rw [record, Action.ends_bind, ends_ask]
  refine ⟨trivial, ?_⟩
  rintro time _ rfl
  exact h time

/-! ## Looking -/

/-- A resource that exists is found. -/
theorem ends_checkExists (k : Kind) (hname : s.name ≠ "") (hs : S.There g s.name) :
    Action.Ends (S.contract needed) (checkExists k) s g fun r t g' =>
      r = .ok true ∧ Alike s t ∧ s.status.Confirms [.storageExists] t.status ∧ g' = g := by
  rw [checkExists, Action.ends_bind, Action.ends_get]
  dsimp only
  rw [if_neg hname, Action.ends_bind, ends_ask]
  refine ⟨trivial, ?_⟩
  rintro x _ ⟨hx, -, rfl⟩
  obtain rfl := hx hs
  dsimp only
  rw [Action.ends_bind]
  exact ends_record fun time => ⟨rfl, .record .., .record .., rfl⟩

/-! ## Creation -/

/-- What finding or creating a resource leaves behind. -/
structure Secured (S : Site) (s : Subject) (g : Cloud) (t : Subject) (g' : Cloud) : Prop where
  /-- The resource has a name. -/
  named : t.name ≠ ""
  /-- A name that it had before is kept. -/
  name : s.name ≠ "" → t.name = s.name
  /-- The resource exists. -/
  there : S.There g' t.name
  /-- Nothing is gone. -/
  grows : g.Grows g'
  /-- The configuration that was applied is the same. -/
  applied : t.status.applied = s.status.applied
  /-- The resource was observed to exist. -/
  confirms : s.status.Confirms [.storageExists] t.status
  /-- Its owner is known. -/
  owned : t.status.ownership = some .managed ∨ t.status.ownership = some .unmanaged
  /-- The owner of a resource that existed is the same if it was known. -/
  settled : s.name ≠ "" → S.There g s.name →
    s.status.ownership = some .managed ∨ s.status.ownership = some .unmanaged →
    t.status.ownership = s.status.ownership

/-- What was found or created stays. -/
lemma Secured.grow {t : Subject} {g' h : Cloud} (hs : Secured S s g t g') (hgrows : g'.Grows h) :
    Secured S s g t h :=
  { hs with
    there := S.there_grows hgrows hs.there
    grows := hs.grows.trans hgrows }

/-- A resource that exists is visible at the first look.

**Proof sketch.** The first round of the loop is the last one. -/
lemma ends_waitUntilVisible (k : Kind) (w : WaitPolicy) (hs : S.There g s.name) :
    Action.Gives (S.contract needed) (waitUntilVisible k w) s g () := by
  rw [waitUntilVisible]
  refine Action.gives_get.ends_bind ?_
  dsimp only
  rw [Action.ends_bind, ends_ask]
  refine ⟨trivial, ?_⟩
  rintro start _ rfl
  refine Action.ends_loop ?_
  rw [Action.ends_bind, ends_ask]
  refine ⟨trivial, ?_⟩
  rintro x _ ⟨hx, -, rfl⟩
  obtain rfl := hx hs
  exact ⟨(), rfl, rfl, rfl, rfl⟩

/-- A resource that was created belongs to the operator. -/
lemma ends_afterCreation (k : Kind) (w : WaitPolicy) (hs : S.There g s.name) :
    Action.Ends (S.contract needed) (afterCreation k w) s g fun r t g' =>
      r = .ok () ∧ t.name = s.name ∧ t.status.ownership = some .managed ∧
        t.status.applied = s.status.applied ∧ s.status.Confirms [.storageExists] t.status ∧
        g' = g := by
  rw [afterCreation, Action.ends_bind, setOwnership, Action.ends_modify]
  refine Action.Gives.ends_bind (ends_waitUntilVisible k w ?_).outcome ?_
  · exact hs
  dsimp only
  rw [Action.ends_bind, Action.ends_get]
  refine ends_record fun time => ⟨rfl, rfl, rfl, rfl, ?_, rfl⟩
  exact (Status.Confirms.record _).congr rfl rfl

/-- A resource without a name is created under the first one that is made up.

**Proof sketch.** The name that is made up is not taken, so the first attempt creates it. -/
lemma ends_createFresh (k : Kind) (w : WaitPolicy) (attempts : Nat) (hs : s.name = "")
    (hnames : S.Names) (hneeded : needed) (hroom : S.Room g) :
    Action.Ends (S.contract needed) (createFresh k w (attempts + 1)) s g fun r t g' =>
      r = .ok () ∧ Secured S s g t g' := by
  rw [createFresh, Action.ends_bind, ends_ask]
  refine ⟨hnames, ?_⟩
  rintro _ _ ⟨⟨candidate, rfl, hne, hfree⟩, rfl⟩
  dsimp only
  rw [Action.ends_bind, ends_ask]
  refine ⟨⟨hneeded, hroom⟩, ?_⟩
  rintro x g' hx
  obtain ⟨rfl, hgrows, hthere⟩ := hx hfree
  dsimp only
  rw [Action.ends_bind, Action.ends_modify]
  refine (ends_afterCreation k w hthere).mono ?_
  rintro r t _ ⟨rfl, hn, ho, ha, hc, rfl⟩
  obtain rfl : t.name = candidate := hn
  exact ⟨rfl, hne, fun h => absurd hs h, hthere, hgrows, ha, hc, .inl ho, fun h => absurd hs h⟩

/-- A resource with a name is found, or created under that name.

**Proof sketch.** Split on whether the resource is there: then the look finds it and it is adopted,
and otherwise it is created. -/
lemma ends_ensureNamed (k : Kind) (w : WaitPolicy) (hs : s.name ≠ "")
    (hneeded : ¬ S.There g s.name → needed) (hroom : S.Room g) :
    Action.Ends (S.contract needed) (ensureNamed k w s.name) s g fun r t g' =>
      r = .ok () ∧ Secured S s g t g' := by
  rw [ensureNamed, Action.ends_bind, ends_ask]
  refine ⟨trivial, ?_⟩
  rintro x g' ⟨hthere, habsent, rfl⟩
  by_cases hs' : S.There g' s.name
  · obtain rfl := hthere hs'
    dsimp only
    rw [Action.ends_bind, Action.ends_get]
    dsimp only
    split
    · rename_i hm
      have hm : s.status.ownership = some .managed := by simpa [Status.isManaged] using hm
      exact ends_record fun time => ⟨rfl, hs, fun _ => rfl, hs', .refl _, rfl, .record .., .inl hm,
        fun _ _ _ => rfl⟩
    · rename_i hm
      have hm : s.status.ownership ≠ some .managed := by simpa [Status.isManaged] using hm
      rw [Action.ends_bind, setOwnership, Action.ends_modify]
      exact ends_record fun time => ⟨rfl, hs, fun _ => rfl, hs', .refl _, rfl,
        (Status.Confirms.record _).congr rfl rfl, .inr rfl, fun _ _ ho => (ho.resolve_left hm).symm⟩
  · obtain rfl := habsent hs'
    dsimp only
    rw [createNamed, Action.ends_bind, ends_ask]
    refine ⟨⟨hneeded hs', hroom⟩, ?_⟩
    rintro x g'' hx
    obtain ⟨rfl, hgrows, hthere⟩ := hx hs'
    refine (ends_afterCreation k w hthere).mono ?_
    rintro r t _ ⟨rfl, hn, ho, ha, hc, rfl⟩
    exact ⟨rfl, hn ▸ hs, fun _ => hn, hn ▸ hthere, hgrows, ha, hc, .inl ho,
      fun _ h => absurd h hs'⟩

/-- **Finding or creating a resource succeeds**, and nothing is created if it exists.

**Proof sketch.** With a name or without one, the resource is secured by the lemmas above; the
measurement at the end changes nothing. -/
theorem ends_ensure (k : Kind) (w : WaitPolicy) (hnames : s.name = "" → S.Names)
    (hneeded : s.name = "" ∨ ¬ S.There g s.name → needed) (hroom : S.Room g) :
    Action.Ends (S.contract needed) (ensure k w) s g fun r t g' =>
      r = .ok () ∧ Secured S s g t g' := by
  have hbranch : Action.Ends (S.contract needed)
      (if s.name = "" then createFresh k w Naming.maxAttempts else ensureNamed k w s.name) s g
      fun r t g' => r = .ok () ∧ Secured S s g t g' := by
    split
    · rename_i hs
      exact ends_createFresh k w _ hs (hnames hs) (hneeded (.inl hs)) hroom
    · rename_i hs
      exact ends_ensureNamed k w hs (fun h => hneeded (.inr h)) hroom
  rw [ensure, Action.ends_bind, Action.ends_get]
  dsimp only
  rw [Action.ends_bind, Action.ends_outcome]
  refine hbranch.mono ?_
  rintro _ t g' ⟨rfl, ht⟩
  refine Action.ends_bind.2 (ends_ask.2 ⟨trivial, ?_⟩)
  rintro _ _ rfl
  exact ⟨rfl, ht⟩

/-! ## Settings -/

/-- Every setting is applied.

**Proof sketch.** By induction on the steps. What a step has set up stays so, since the cloud only
grows. -/
lemma ends_applySteps {name : String} {steps : List Hardening}
    (hsteps : ∀ step ∈ steps, step ∈ S.kind.hardening) (hname : S.There g name)
    (hneeded : ∀ step ∈ steps, S.Ready g name step ∨ needed) (s : Subject) :
    Action.Ends (S.contract needed) (applySteps name steps) s g fun r t g' =>
      r = .ok [] ∧ Alike s t ∧ s.status.Confirms (steps.map Hardening.condition) t.status ∧
        g.Grows g' ∧ ∀ step ∈ steps, S.Ready g' name step := by
  induction steps generalizing s g with
  | nil => exact ⟨rfl, .refl s, .refl _, .refl g, List.forall_mem_nil _⟩
  | cons step rest ih =>
    obtain ⟨hstep, hrest⟩ := List.forall_mem_cons.1 hsteps
    obtain ⟨hready, hready'⟩ := List.forall_mem_cons.1 hneeded
    rw [applySteps, Action.ends_bind, ends_ask]
    refine ⟨⟨hstep, hname, hready⟩, ?_⟩
    rintro _ g' ⟨⟨message, rfl⟩, hgrows, hdone⟩
    dsimp only
    rw [Action.ends_bind]
    refine ends_record fun time => ?_
    refine (ih hrest (S.there_grows hgrows hname)
      (fun step h => (hready' step h).imp_left (S.ready_grows hgrows)) _).mono ?_
    rintro _ t g'' ⟨rfl, ha, hc, hgrows', hall⟩
    refine ⟨rfl, (Alike.record ..).trans ha, (Status.Confirms.record _).trans hc,
      hgrows.trans hgrows', List.forall_mem_cons.2 ⟨S.ready_grows hgrows' hdone, hall⟩⟩

/-- **Setting up a resource succeeds**, and nothing is created if the settings need nothing.

**Proof sketch.** Without ownership there are no settings; with it, every step is applied. -/
theorem ends_applyHardening (hname : s.name ≠ "") (hs : S.There g s.name)
    (hneeded : ∀ step ∈ S.kind.settings s.status.ownership, S.Ready g s.name step ∨ needed) :
    Action.Ends (S.contract needed) (applyHardening S.kind) s g fun r t g' =>
      r = .ok () ∧ Alike s t ∧
        s.status.Confirms ((S.kind.settings s.status.ownership).map Hardening.condition) t.status ∧
        g.Grows g' ∧ ∀ step ∈ S.kind.settings s.status.ownership, S.Ready g' s.name step := by
  rw [applyHardening, Action.ends_bind, Action.ends_get]
  dsimp only
  split
  · rename_i hm
    have hm : s.status.ownership ≠ some .managed := by simpa [Status.isManaged, hname] using hm
    rw [Kind.settings, if_neg hm]
    exact ⟨rfl, .refl s, .refl _, .refl g, List.forall_mem_nil _⟩
  · rename_i hm
    have hm : s.status.ownership = some .managed := by simpa [Status.isManaged, hname] using hm
    rw [Kind.settings, if_pos hm] at hneeded ⊢
    rw [Action.ends_bind]
    refine (ends_applySteps (fun _ h => h) hs hneeded s).mono ?_
    rintro _ t g' ⟨rfl, h⟩
    exact ⟨rfl, h⟩

end Lifecycle

/-! ## Sessions -/

namespace Storage

open Lifecycle

/-- The programs for the steps of a lifecycle tell the truth. -/
structure Truthful (E : Surroundings) (needed : Prop) (S : Site) (ops : Resource.Operations) :
    Prop where
  /-- A probe finds what exists. -/
  probe : ∀ g name, Action.Ends (E.world needed) (ops.probe name) () g fun r _ g' =>
    S.Tells g (.probe name) r g'
  /-- What does not exist is created. -/
  create : ∀ g name, needed → S.Room g →
    Action.Ends (E.world needed) (ops.create name) () g fun r _ g' =>
      S.Tells g (.create name) r g'
  /-- A setting is applied to what exists. -/
  harden : ∀ g name step, step ∈ S.kind.hardening → S.There g name →
    S.Ready g name step ∨ needed →
    Action.Ends (E.world needed) (ops.harden name step) () g fun r _ g' =>
      S.Tells g (.harden name step) r g'
  /-- A name that is made up is not taken. -/
  generate : S.Names → ∀ g, Action.Ends (E.world needed) ops.generate () g fun r _ g' =>
    S.Tells g .generate r g'

variable {E : Surroundings} {needed : Prop} {S : Site} {ops : Resource.Operations} {g : Cloud}

/-- The program for each step tells the truth.

**Proof sketch.** One case per step: those about the resource are what `Truthful` says, and the
others are a single call that changes nothing. -/
lemma Truthful.ends_answer (h : Truthful E needed S ops) (c : Resource.Call)
    (hc : S.Permits needed g c) :
    (ops.answer c).Ends (E.world needed) g fun x g' => S.Tells g c x g' := by
  have hquiet {d : World.Call} (hd : ¬ d.IsCreation) (hn : ∀ x, g.next d x = g) :
      (Prog.perform (I := World) d).Ends (E.world needed) g fun _ g' => g' = g :=
    Surroundings.ends_quiet hd hn fun _ => rfl
  cases c with
  | probe name => exact Action.ends_result.2 (h.probe g name)
  | create name => exact Action.ends_result.2 (h.create g name hc.1 hc.2)
  | harden name step => exact Action.ends_result.2 (h.harden g name step hc.1 hc.2.1 hc.2.2)
  | generate => exact Action.ends_result.2 (h.generate hc g)
  | empty name | delete name => exact hc.elim
  | now => exact hquiet (d := .now) (fun h => h) fun _ => rfl
  | sleep d => exact hquiet (d := .sleep d) (fun h => h) fun _ => rfl
  | time => exact hquiet (d := .time) (fun h => h) fun _ => rfl
  | measured operation succeeded =>
    exact hquiet (d := .measured _ operation succeeded) (fun h => h) fun _ => rfl

variable {C α : Type} {t : Session C} {name : String} {step : Step α}

/-- **A part of the lifecycle ends in a session as it does on its own**, if the programs for its
steps tell the truth. -/
theorem ends_onResource (hops : Truthful E needed S ops)
    {Q : Except Error (Except Error α × String) → Session C → Cloud → Prop}
    (hstep : Action.Ends (S.contract needed) step ⟨name, t.registry.status⟩ g fun r u g' =>
      Q (.ok (r, u.name)) { t with registry.status := u.status } g') :
    Action.Ends (E.world needed) (onResource ops name step) t g Q := by
  have hsim : ∀ c g h, g = h → (S.contract needed).permits g c →
      (ops.answer c).Ends (E.world needed) h fun x h' =>
        ∃ g', (S.contract needed).step g c x g' ∧ g' = h' := by
    rintro c g _ rfl hc
    exact (hops.ends_answer c hc).mono fun x g' hx => ⟨g', hx, rfl⟩
  refine Prog.ends_bind.2 ((Prog.Ends.interpret hsim hstep rfl).mono ?_)
  rintro ⟨r, u⟩ _ ⟨g', rfl, hQ⟩
  exact hQ

/-- The same for a part of the lifecycle that keeps the name. -/
lemma ends_withResource (hops : Truthful E needed S ops)
    {Q : Except Error α → Session C → Cloud → Prop}
    (hstep : Action.Ends (S.contract needed) step ⟨name, t.registry.status⟩ g fun r u g' =>
      Q r { t with registry.status := u.status } g') :
    Action.Ends (E.world needed) (withResource ops name step) t g Q := by
  rw [withResource, Action.ends_bind]
  exact ends_onResource hops hstep

end Storage

end Depot
