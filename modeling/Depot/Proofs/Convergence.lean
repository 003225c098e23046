import Depot.Proofs.Footprint
import Depot.Proofs.Securing

set_option autoImplicit false

/-!
# Convergence

A creation of storage goes to the same state from wherever earlier operations left off, and stays
there: the resource exists and is set up, the status says so, and what was found while connecting is
written down. From then on a creation, like a look for the storage or for changes, creates nothing
and leaves the registry as it is, but for the words in its conditions.

## Main definitions

* `Surroundings.Resolves`, `Surroundings.Completes` — what is needed to connect can be found, and is
  written down.
* `Surroundings.site`, `Azure.containerSite` — how the resources of all backends show in a cloud.
* `Storage.Converged` — nothing is left to be done for a session.
* `Storage.Unchanged` — two sessions differ in the words of conditions at most.
* `Storage.Places`, `Storage.Provides` — what the two halves of a creation do.

## Main results

* `Storage.Provides.converged`, `Storage.Provides.unchanged` — a creation leaves nothing to be done,
  and changes nothing where nothing was left to be done.
* `Storage.Converged.finds` — to find the storage changes nothing.
* `Storage.ends_ensured`, `Storage.ends_setUp` — the two halves of a creation succeed.
-/

namespace Depot

open Storage

/-! ## What can be found -/

/-- The name of the cloud of Azure: the configured one, or that of the cluster. -/
def Azure.Config.cloudIn (c : Azure.Config) (infra : Infrastructure) : String :=
  if c.cloudName ≠ "" then c.cloudName else infra.platform.azure.elim "" (·.cloudName)

namespace Surroundings

variable (E : Surroundings) (s : Settings)

/-- The credentials and what else is needed to connect can be found. -/
def Resolves : Storage → Prop
  | .s3 _ => ∃ r, E.s3 s.credentials = .ok r
  | .azure c =>
    (∃ r, E.azure s.credentials = .ok r) ∧ ∃ e, Azure.Environment.ofName (c.cloudIn E.infra) = .ok e
  | .gcs c => ∃ r project, E.gcs s.credentials = .ok r ∧ c.projectIn E.infra r = .ok project
  | .swift _ => ∃ r, E.swift s.credentials = .ok r
  | .filesystem _ => True

/-- What is found while connecting is in the configuration. -/
def Completes : Storage → Prop
  | .gcs c => c.region ≠ "" ∧
    ∀ r, E.gcs s.credentials = .ok r → c.projectIn E.infra r = .ok c.projectId
  | .swift c => ∀ r, E.swift s.credentials = .ok r → (c.override r).authUrl = c.authUrl
  | _ => True

/-- The tags of Google Cloud that are wanted on all resources. -/
def wantedTags : List GcpTag := E.infra.platform.gcp.elim [] (·.resourceTags)

/-- A setting can be applied to the resource of a name without creating anything: only tags of
Google Cloud are bound by a creation. -/
def Ready (k : Resource.Kind) (g : Cloud) (name : String) (step : Hardening) : Prop :=
  k.backend = .gcs → step = .tag → ∀ v ∈ E.wantedTags.map GcpTag.namespacedValue,
    (Gcs.Binding.bucketName name, v) ∈ g.tags

/-- How buckets, containers of Swift, storage accounts and claims show. -/
def site (k : Resource.Kind) (names : Prop) : Lifecycle.Site where
  kind := k
  There g name := .of k.backend name ∈ g.assets
  Ready := E.Ready k
  Names := names
  there_grows h hx := h.assets hx
  ready_grows h hr hk ht v hv := h.tags (hr hk ht v hv)

end Surroundings

/-- How the containers in a storage account show. -/
def Azure.containerSite (account : String) (names : Prop) : Lifecycle.Site where
  kind := containerKind
  There g name := (account, name) ∈ g.containers
  Room g := .of .azure account ∈ g.assets
  Names := names
  there_grows h hx := h.containers hx

namespace Storage

/-! ## Sessions that have converged -/

/-- What is fixed for the resource that owns everything else. -/
def kind : Storage → Resource.Kind
  | .s3 _ => S3.bucketKind
  | .azure _ => Azure.accountKind
  | .gcs _ => Gcs.bucketKind
  | .swift _ => Swift.containerKind
  | .filesystem _ => Filesystem.claimKind

/-- The kind that belongs to a storage is one of its backend. -/
@[simp] lemma backend_kind (a : Storage) : a.kind.backend = a.backend := by
  cases a <;> rfl

/-- An empty directory, which goes away with the pod. -/
def emptyDir : Storage := .filesystem { claim := none }

/-- Only the filesystem has the storage that needs no resource. -/
lemma ne_emptyDir {a : Storage} (h : a.backend ≠ .filesystem) : a ≠ emptyDir :=
  fun ha => h (congrArg backend ha)

/-- The container in a storage account exists. -/
def Contains (g : Cloud) : Storage → Prop
  | .azure c => c.container ≠ "" ∧ (c.accountName, c.container) ∈ g.containers
  | _ => True

/-- The container stays. -/
lemma Contains.grow {g g' : Cloud} {a : Storage} (h : Contains g a) (hgrows : g.Grows g') :
    Contains g' a := by
  cases a with
  | azure c => exact ⟨h.1, hgrows.containers h.2⟩
  | _ => trivial

/-- The resource exists and is set up. -/
structure Standing (E : Surroundings) (g : Cloud) (a : Session Storage) : Prop where
  /-- It has a name. -/
  named : a.config.resource ≠ ""
  /-- It exists. -/
  there : a.config.asset ∈ g.assets
  /-- So does the container in it. -/
  container : Contains g a.config
  /-- Its owner is known. -/
  owned : a.ownership = some .managed ∨ a.ownership = some .unmanaged
  /-- The status says that the settings were applied. -/
  set : ∀ step ∈ a.config.kind.settings a.ownership, a.registry.status.Holds step.condition
  /-- Applying them again creates nothing. -/
  ready : ∀ step ∈ a.config.kind.settings a.ownership,
    E.Ready a.config.kind g a.config.resource step

/-- Nothing is left to be done for a session. -/
structure Converged (E : Surroundings) (s : Settings) (g : Cloud) (a : Session Storage) : Prop where
  /-- The registry asks for the storage of the session. -/
  selected : a.registry.spec = a.config.toSpec
  /-- The configuration of the session was applied. -/
  applied : Applied a
  /-- Connecting is possible. -/
  resolves : E.Resolves s a.config
  /-- It finds nothing new. -/
  completes : E.Completes s a.config
  /-- The status says that the storage exists. -/
  known : a.registry.status.Holds .storageExists
  /-- If there is a resource, it exists and is set up. -/
  standing : a.config ≠ emptyDir → Standing E g a

/-- Two sessions that differ in the words of conditions at most. -/
structure Unchanged (a b : Session Storage) : Prop where
  /-- The block is the same. -/
  config : b.config = a.config
  /-- The configuration is the same. -/
  spec : b.registry.spec = a.registry.spec
  /-- The configuration that was applied is the same. -/
  applied : b.registry.status.applied = a.registry.status.applied
  /-- The owner is the same. -/
  ownership : b.ownership = a.ownership
  /-- All conditions have the same statuses, which last changed at the same times. -/
  marks : b.registry.status.marks = a.registry.status.marks

variable {E : Surroundings} {s : Settings} {g g' : Cloud} {a b c : Session Storage}

/-- A session does not differ from itself. -/
lemma Unchanged.refl (a : Session Storage) : Unchanged a a := ⟨rfl, rfl, rfl, rfl, rfl⟩

/-- What is unchanged over two operations is unchanged over both. -/
lemma Unchanged.trans (h : Unchanged a b) (h' : Unchanged b c) : Unchanged a c :=
  ⟨h'.config.trans h.config, h'.spec.trans h.spec, h'.applied.trans h.applied,
    h'.ownership.trans h.ownership, h'.marks.trans h.marks⟩

/-- Putting the block that is there changes nothing. -/
lemma put_eq_self {a : Storage} {spec : Spec} (h : block? spec a.backend = some a) :
    a.put spec = spec := by
  cases a <;>
  · obtain ⟨x, hx, hc⟩ := Option.map_eq_some_iff.1 h
    cases hc
    simp only [put, ← hx]

/-- The conditions that a creation observes to hold. -/
def confirmed (a : Session Storage) : List Condition.Kind :=
  .storageExists :: (a.config.kind.settings a.ownership).map Hardening.condition

/-- What finding or creating the resource does to a session and to the cloud. -/
structure Places (E : Surroundings) (s : Settings) (a : Session Storage) (g : Cloud)
    (b : Session Storage) (g' : Cloud) : Prop where
  /-- The registry asks for the storage of the session. -/
  selected : b.registry.spec = b.config.toSpec
  /-- Connecting is possible. -/
  resolves : E.Resolves s b.config
  /-- It finds nothing new. -/
  completes : E.Completes s b.config
  /-- The resource has a name. -/
  named : b.config.resource ≠ ""
  /-- It exists. -/
  there : b.config.asset ∈ g'.assets
  /-- So does the container in it. -/
  container : Contains g' b.config
  /-- Its owner is known. -/
  owned : b.ownership = some .managed ∨ b.ownership = some .unmanaged
  /-- Nothing is gone. -/
  grows : g.Grows g'
  /-- Nothing was missing in the configuration of a session that had converged. -/
  config : Converged E s g a → b.config = a.config
  /-- Its owner was known. -/
  ownership : Converged E s g a → b.ownership = a.ownership

/-- What a creation does to a session and to the cloud. -/
structure Provides (E : Surroundings) (s : Settings) (a : Session Storage) (g : Cloud)
    (b : Session Storage) (g' : Cloud) : Prop extends Places E s a g b g' where
  /-- The configuration is recorded as applied. -/
  applied : b.registry.status.applied = b.config.put a.registry.status.applied
  /-- That the resource exists was observed, and that the settings were applied. -/
  confirms : Status.Confirms (confirmed b) a.registry.status b.registry.status
  /-- Applying the settings again creates nothing. -/
  ready : ∀ step ∈ b.config.kind.settings b.ownership,
    E.Ready b.config.kind g' b.config.resource step

/-- **After a creation nothing is left to be done.**

**Proof sketch.** Field by field: what is applied is what was put there, and every condition that a
storage left standing must show is one that the creation confirms. -/
theorem Provides.converged (h : Provides E s a g b g') : Converged E s g' b where
  selected := h.selected
  applied := by
    rw [Applied, h.applied]
    exact block?_put_self _ _
  resolves := h.resolves
  completes := h.completes
  known := h.confirms.holds _ List.mem_cons_self
  standing _ :=
    { named := h.named
      there := h.there
      container := h.container
      owned := h.owned
      set := fun step hstep =>
        h.confirms.holds _ (List.mem_cons_of_mem _ (List.mem_map_of_mem hstep))
      ready := h.ready }

/-- A creation changes nothing where nothing was left to be done.

**Proof sketch.** A converged session has its configuration and its owner already, and every
condition confirmed by the creation was `True` before, so that confirming it changes no mark. -/
theorem Provides.unchanged (h : Provides E s a g b g') (ha : Converged E s g a)
    (hdir : a.config ≠ emptyDir) : Unchanged a b where
  config := h.config ha
  spec := by rw [h.selected, h.config ha, ha.selected]
  applied := by
    rw [h.applied, h.config ha]
    exact put_eq_self ha.applied
  ownership := h.ownership ha
  marks := by
    refine h.confirms.same fun k hk => ?_
    rw [confirmed, h.config ha, h.ownership ha] at hk
    rcases List.mem_cons.1 hk with rfl | hk
    · exact ha.known
    · obtain ⟨step, hstep, rfl⟩ := List.mem_map.1 hk
      exact (ha.standing hdir).set step hstep

/-- The storage was observed to exist, and nothing else changed. -/
structure Finds {C : Type} (t t' : Session C) : Prop extends Observes t t' where
  /-- It was observed to exist. -/
  confirms : t.registry.status.Confirms [.storageExists] t'.registry.status

/-- To find the storage again changes nothing.

**Proof sketch.** The only condition that finding confirms is the one that a converged session shows
already, and the owner, on whom the settings depend, is the same. -/
theorem Converged.finds (ha : Converged E s g a) (h : Finds a b) :
    Unchanged a b ∧ Converged E s g b := by
  obtain ⟨config, spec, status⟩ := b
  obtain rfl : config = a.config := h.config
  have howner : status.ownership = a.ownership := h.ownership
  refine ⟨⟨rfl, h.spec, h.applied, h.ownership, h.confirms.same fun k hk => ?_⟩, ?_⟩
  · rw [List.mem_singleton.1 hk]
    exact ha.known
  · refine ⟨h.spec.trans ha.selected, h.applies ha.applied, ha.resolves, ha.completes,
      h.confirms.kept _ ha.known, fun hdir => ?_⟩
    obtain ⟨hnamed, hthere, hcontainer, howned, hset, hready⟩ := ha.standing hdir
    rw [← howner] at howned hset hready
    exact ⟨hnamed, hthere, hcontainer, howned,
      fun step hstep => h.confirms.kept _ (hset step hstep), hready⟩

end Storage

/-! ## Steps of a lifecycle -/

namespace Surroundings

variable {E : Surroundings} {needed : Prop} {g : Cloud} {k : Resource.Kind} {names : Prop}
  {name : String}

/-- A probe that tells whether a resource exists. -/
lemma tells_probe {a : Operating Unit Presence}
    (h : Action.Gives (E.world needed) a () g (g.presence (.of k.backend name))) :
    Action.Ends (E.world needed) a () g fun r _ g' =>
      (E.site k names).Tells g (.probe name) r g' := by
  refine h.mono ?_
  rintro _ _ _ ⟨rfl, -, rfl⟩
  exact ⟨fun h => congrArg Except.ok (if_pos h), fun h => congrArg Except.ok (if_neg h), rfl⟩

/-- A resource that does not exist is created. -/
lemma tells_creation : (E.site k names).Tells g (.create name)
    (.ok (g.creation (.of k.backend name)))
    (g.record (.ofCreation (.of k.backend name) (.ok (g.creation (.of k.backend name))))) := by
  intro h
  have hcreation : g.creation (.of k.backend name) = .created := if_neg h
  rw [hcreation]
  exact ⟨rfl, ⟨fun _ h => List.mem_cons_of_mem _ h, fun _ h => h, fun _ h => h⟩,
    List.mem_cons_self⟩

/-- A name that is made up is not taken. -/
lemma tells_generate {f : List Char → Except Error String}
    (hf : ∀ digits, ∃ name, f digits = .ok name ∧ name ≠ "" ∧ E.Generates digits name) :
    Action.Ends (E.world needed) (do
      let digits ← Action.perform World.randomDigits
      Action.ofExcept (f digits)) () g fun r _ g' => (E.site k names).Tells g .generate r g' := by
  refine (ends_generate hf).mono ?_
  rintro _ _ _ ⟨⟨name, rfl, hne, hfree⟩, rfl⟩
  exact ⟨⟨name, rfl, hne, hfree.assets _⟩, rfl⟩

/-- A setting that is a single call is applied to a resource that exists. -/
lemma tells_setting {p : Prog World (Except Error Unit)} {message : String} {step : Hardening}
    (hp : p.Ends (E.world needed) g fun r g' => r = .ok () ∧ g' = g)
    (hready : E.Ready k g name step) :
    Action.Ends (E.world needed) (do
      Action.attempt p
      return message) () g fun r _ g' => (E.site k names).Tells g (.harden name step) r g' := by
  rw [Action.ends_bind, Action.ends_attempt]
  refine hp.mono ?_
  rintro _ _ ⟨rfl, rfl⟩
  exact ⟨⟨message, rfl⟩, .refl _, hready⟩

end Surroundings

/-! ## Parts of operations -/

namespace Storage

variable {C : Type} {E : Surroundings} {s : Settings} {needed names : Prop} {g g' : Cloud}
  {t : Session C} {w : C → Storage} {a b : Session Storage} {S : Lifecycle.Site}
  {k : Resource.Kind} {ops : Resource.Operations} {name : String}

/-- A change of the registry's names ends in the session with those names. -/
@[simp] lemma ends_modifySpec {K : Contract World Cloud} {f : Spec → Spec}
    {Q : Except Error Unit → Session C → Cloud → Prop} :
    Action.Ends K (modifySpec f) t g Q ↔
      Q (.ok ()) { t with registry.spec := f t.registry.spec } g := Iff.rfl

/-- A change of the registry's status ends in the session with that status. -/
@[simp] lemma ends_modifyStatus {K : Contract World Cloud} {f : Status → Status}
    {Q : Except Error Unit → Session C → Cloud → Prop} :
    Action.Ends K (modifyStatus f) t g Q ↔
      Q (.ok ()) { t with registry.status := f t.registry.status } g := Iff.rfl

/-- The storage is observed to exist. -/
lemma ends_observe (reason message : String) :
    Action.Ends (E.world needed) (observe .storageExists .holds reason message) t g fun r t' g' =>
      r = .ok () ∧ Finds t t' ∧ g' = g := by
  rw [observe, Action.ends_bind, Action.ends_perform]
  refine Surroundings.ends_quiet (c := .time) (fun h => h) (fun _ => rfl) fun now => ?_
  exact ⟨rfl, ⟨⟨⟨rfl, rfl, rfl⟩, rfl⟩, .record _⟩, rfl⟩

/-- A resource that exists is found. -/
lemma ends_resourceExists (hops : Truthful E needed S ops) (hname : name ≠ "")
    (hs : S.There g name) :
    Action.Ends (E.world needed) (resourceExists ops name) t g fun r t' g' =>
      r = .ok true ∧ Finds t t' ∧ g' = g := by
  refine ends_withResource hops ((Lifecycle.ends_checkExists ops.kind hname hs).mono ?_)
  rintro _ u _ ⟨rfl, ha, hc, rfl⟩
  exact ⟨rfl, ⟨.of_alike ha, hc⟩, rfl⟩

/-- A resource is found or created. -/
theorem ends_ensured (hops : Truthful E needed S ops) (hnames : name = "" → S.Names)
    (hneeded : name = "" ∨ ¬ S.There g name → needed) (hroom : S.Room g)
    {wait : Lifecycle.WaitPolicy}
    {Q : Except Error (Except Error Unit × String) → Session C → Cloud → Prop}
    (hQ : ∀ u g', Lifecycle.Secured S ⟨name, t.registry.status⟩ g u g' →
      Q (.ok (.ok (), u.name)) { t with registry.status := u.status } g') :
    Action.Ends (E.world needed) (onResource ops name (Lifecycle.ensure k wait)) t g Q := by
  refine ends_onResource hops ((Lifecycle.ends_ensure k wait hnames hneeded hroom).mono ?_)
  rintro _ u g' ⟨rfl, hu⟩
  exact hQ u g' hu

/-- Something is missing only where something was left to be done. -/
lemma needed_of_missing (hneeded : ¬ Converged E s g a → needed) (hdir : a.config ≠ emptyDir)
    (hmissing : a.config.resource = "" ∨ a.config.asset ∉ g.assets) : needed :=
  hneeded fun ha => hmissing.elim (ha.standing hdir).named fun h => h (ha.standing hdir).there

/-- A resource was found or created, and the session has what there is to know about it.

**Proof sketch.** What the lifecycle secured is stated about its subject; the hypotheses say what
the session made of it. In a converged session the subject's name is not empty and its resource is
there, so neither name nor owner is changed. -/
lemma Places.of_secured {u u' : Lifecycle.Subject}
    (hu : Lifecycle.Secured (E.site k names) u g u' g') (hdir : a.config ≠ emptyDir)
    (hbackend : a.config.backend = k.backend)
    (hsubject : Converged E s g a →
      u.name = a.config.resource ∧ u.status.ownership = a.ownership)
    (hb : b.config.backend = k.backend) (hname : b.config.resource = u'.name)
    (howner : b.ownership = u'.status.ownership) (selected : b.registry.spec = b.config.toSpec)
    (resolves : E.Resolves s b.config) (completes : E.Completes s b.config)
    (container : Contains g' b.config)
    (config : Converged E s g a → b.config.resource = a.config.resource → b.config = a.config) :
    Places E s a g b g' where
  selected := selected
  resolves := resolves
  completes := completes
  named := hname ▸ hu.named
  there := by
    rw [asset, hb, hname]
    exact hu.there
  container := container
  owned := howner ▸ hu.owned
  grows := hu.grows
  config ha := by
    obtain ⟨hn, -⟩ := hsubject ha
    refine config ha ?_
    rw [hname, hu.name (hn ▸ (ha.standing hdir).named), hn]
  ownership ha := by
    obtain ⟨hn, ho⟩ := hsubject ha
    have hstanding := ha.standing hdir
    rw [howner, hu.settled (hn ▸ hstanding.named) ?_ (ho ▸ hstanding.owned), ho]
    change Asset.of k.backend u.name ∈ g.assets
    rw [hn, ← hbackend]
    exact hstanding.there

/-- What was found or created stays.

**Proof sketch.** The two sessions agree on all that is asked of the new one, and the cloud keeps
what it has. -/
lemma Places.grow {b' : Session Storage} {h : Cloud} (hp : Places E s a g b g')
    (hgrows : g'.Grows h) (hb : Agrees b b') : Places E s a g b' h := by
  obtain ⟨config, spec, status⟩ := b'
  obtain rfl : config = b.config := hb.config
  have howner : status.ownership = b.ownership := hb.ownership
  exact
    { selected := hb.spec.trans hp.selected
      resolves := hp.resolves
      completes := hp.completes
      named := hp.named
      there := hgrows.assets hp.there
      container := hp.container.grow hgrows
      owned := by
        change status.ownership = _ ∨ status.ownership = _
        rw [howner]
        exact hp.owned
      grows := hp.grows.trans hgrows
      config := hp.config
      ownership := fun ha => howner.trans (hp.ownership ha) }

/-- **Recording what was applied and setting up the resource ends a creation**, and creates nothing
where nothing was left to be done.

**Proof sketch.** A session that had converged has its settings in place still, any other one may
change the cloud (`hready`). Either way the hardening ends well, by `Lifecycle.ends_applyHardening`,
and confirms a condition for every setting. -/
theorem ends_setUp (hops : Truthful E needed (E.site k names) ops) (hk : (w t.config).kind = k)
    (hname : name = (w t.config).resource) (hp : Places E s a g (t.wrap w) g')
    (hdir : a.config ≠ emptyDir) (hneeded : ¬ Converged E s g a → needed)
    (hconfirms : Status.Confirms [.storageExists] a.registry.status t.registry.status)
    (happlied : t.registry.status.applied = a.registry.status.applied) {f : Spec → Spec}
    (hf : f = (w t.config).put) :
    Action.Ends (E.world needed) (do
      modifyApplied f
      withResource ops name (Lifecycle.applyHardening k)) t g' fun r t' g'' =>
        r = .ok () ∧ Provides E s a g (t'.wrap w) g'' := by
  subst hf hk hname
  -- A session that had converged has kept its name and its owner, so its settings are ready still.
  have hready : ∀ step ∈ (w t.config).kind.settings t.ownership,
      E.Ready (w t.config).kind g' (w t.config).resource step ∨ needed := by
    intro step hstep
    by_cases ha : Converged E s g a
    · have hstanding := (ha.standing hdir).ready step
      rw [← hp.config ha, ← hp.ownership ha] at hstanding
      exact .inl ((E.site _ names).ready_grows hp.grows (hstanding hstep))
    · exact .inr (hneeded ha)
  have hthere : (E.site (w t.config).kind names).There g' (w t.config).resource := by
    change Asset.of (w t.config).kind.backend _ ∈ g'.assets
    rw [backend_kind]
    exact hp.there
  rw [Action.ends_bind, modifyApplied, ends_modifyStatus]
  refine ends_withResource hops
    ((Lifecycle.ends_applyHardening (S := E.site (w t.config).kind names)
      (s := ⟨_, { t.registry.status with applied := (w t.config).put t.registry.status.applied }⟩)
      hp.named hthere hready).mono ?_)
  rintro _ u g'' ⟨rfl, hu, hset, hgrows, hdone⟩
  have howner : u.status.ownership = t.ownership := hu.ownership
  refine ⟨rfl, hp.grow hgrows ⟨rfl, rfl, howner⟩, ?_, ?_, ?_⟩
  · exact hu.applied.trans (congrArg (w t.config).put happlied)
  · change Status.Confirms (.storageExists :: ((w t.config).kind.settings u.status.ownership).map _)
      _ u.status
    rw [howner]
    exact hconfirms.trans (hset.congr rfl rfl)
  · change ∀ step ∈ (w t.config).kind.settings u.status.ownership, _
    rw [howner]
    exact hdone

/-- Recording what was applied ends a creation where there are no settings.

**Proof sketch.** Without hardening there is no setting to confirm, and nothing else is changed. -/
lemma ends_recorded (hk : (w t.config).kind.hardening = [])
    (hp : Places E s a g (t.wrap w) g')
    (hconfirms : Status.Confirms [.storageExists] a.registry.status t.registry.status)
    (happlied : t.registry.status.applied = a.registry.status.applied) {f : Spec → Spec}
    (hf : f = (w t.config).put) :
    Action.Ends (E.world needed) (modifyApplied f) t g' fun r t' g'' =>
      r = .ok () ∧ Provides E s a g (t'.wrap w) g'' := by
  subst hf
  have hsettings (o : Option Ownership) : (w t.config).kind.settings o = [] := by
    rw [Resource.Kind.settings, hk, ite_self]
  refine ⟨rfl, hp.grow (.refl g') ⟨rfl, rfl, rfl⟩, congrArg (w t.config).put happlied, ?_, ?_⟩
  · change Status.Confirms (.storageExists :: ((w t.config).kind.settings t.ownership).map _) _ _
    rw [hsettings]
    exact hconfirms.congr rfl rfl
  · change ∀ step ∈ (w t.config).kind.settings t.ownership, _
    rw [hsettings]
    exact List.forall_mem_nil _

end Storage

end Depot
