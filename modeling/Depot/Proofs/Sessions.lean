import Depot.Proofs.Operations
import Depot.Storage.Basic

set_option autoImplicit false

/-!
# Sessions and the ledger

What the operator keeps itself is a flag in the status and a name in the configuration. A session
is sound if these agree with the ledger: every asset that is held is the one that the configuration
names, and if the status says so, the operator owns it. Here is what the parts of an operation do
to a sound session; the operations of the backends are put together from them.

## Main definitions

* `Storage.toSpec`, `Storage.asset` — the configuration with a block, and the asset it names.
* `Storage.Sound` — a session that agrees with the ledger.
* `Storage.Advances` — what an operation may do to a session and the ledger.

## Main results

* `Storage.ofSpec_eq_ok` — a configuration asks for a storage if it has only that block.
* `Storage.Sound.of_ensured`, `Storage.Sound.of_contained`, `Storage.Sound.of_deleted` — a session
  stays sound when its resource is found or created, and when it is removed.
-/

namespace Depot.Storage

/-! ## Configurations -/

/-- The configuration that has only this block. -/
def toSpec : Storage → Spec
  | .s3 c => { s3 := some c }
  | .azure c => { azure := some c }
  | .gcs c => { gcs := some c }
  | .swift c => { swift := some c }
  | .filesystem c => { filesystem := some c }

/-- **A configuration asks for a storage if it has only that block.** -/
theorem ofSpec_eq_ok (spec : Spec) (st : Storage) : ofSpec spec = .ok st ↔ spec = st.toSpec := by
  obtain ⟨s3, azure, gcs, swift, filesystem⟩ := spec
  constructor
  · intro h
    rcases s3 with _ | s3 <;> rcases azure with _ | azure <;> rcases gcs with _ | gcs <;>
      rcases swift with _ | swift <;> rcases filesystem with _ | filesystem <;> cases h <;> rfl
  · rintro h
    cases st <;> cases h <;> rfl

/-- The name of the bucket, container, account or claim that owns everything else; empty if it has
none yet. -/
def resource : Storage → String
  | .s3 c => c.bucket
  | .azure c => c.accountName
  | .gcs c => c.bucket
  | .swift c => c.container
  | .filesystem c => c.claim.getD ""

/-- The name of the container in a storage account; empty for all others. -/
def compartment : Storage → String
  | .azure c => c.container
  | _ => ""

/-- The asset that a configuration names. -/
def asset (st : Storage) : Asset := .of st.backend st.resource

/-! ## Sound sessions -/

/-- The kind of ownership that a session's status records. -/
abbrev Session.ownership {C : Type} (s : Session C) : Option Ownership :=
  s.registry.status.ownership

/-- The session agrees with the ledger. -/
structure Sound (s : Session Storage) (l : Ledger) : Prop where
  /-- The registry asks for the storage of the session. -/
  selected : s.registry.spec = s.config.toSpec
  /-- Every asset that is held is the one of the session, and the status says so. -/
  held : ∀ x ∈ l.held, x = s.config.asset ∧ s.ownership = some .managed
  /-- What the status calls owned is owned. -/
  owned : s.ownership = some .managed → l.Owns s.config.asset
  /-- What the status calls owned has a name. -/
  named : s.ownership = some .managed → s.config.resource ≠ ""
  /-- Every container in an account that was not removed is the one of the session. -/
  containers : ∀ c ∈ l.containers,
    c = (s.config.resource, s.config.compartment) ∧ c.1 ≠ "" ∧ c.2 ≠ ""

namespace Sound

variable {s s' : Session Storage} {l l' : Ledger}

/-- A session in which nothing is owned yet is sound. -/
lemma start {made gone : List Asset} (hspec : s.registry.spec = s.config.toSpec)
    (hs : s.ownership ≠ some .managed) : Sound s { made, gone } where
  selected := hspec
  held _ h := nomatch h
  owned h := absurd h hs
  named h := absurd h hs
  containers _ h := nomatch h

/-- A resource without a name is not held. -/
lemma not_managed (h : Sound s l) (hname : s.config.resource = "") :
    s.ownership ≠ some .managed := fun hm => h.named hm hname

/-- Nothing is held that the status does not call owned. -/
lemma held_eq_nil (h : Sound s l) (hs : s.ownership ≠ some .managed) : l.held = [] :=
  List.eq_nil_iff_forall_not_mem.2 fun x hx => hs (h.held x hx).2

/-- No container is held without the names of the account and of the container. -/
lemma containers_eq_nil (h : Sound s l) (hs : s.config.resource = "" ∨ s.config.compartment = "") :
    l.containers = [] := by
  refine List.eq_nil_iff_forall_not_mem.2 fun c hc => ?_
  obtain ⟨rfl, hr, hk⟩ := h.containers c hc
  exact hs.elim hr hk

end Sound

/-! ## What operations do -/

/-- A session with a block of one backend, as one with the storage. -/
def Session.wrap {C : Type} (s : Session C) (w : C → Storage) : Session Storage :=
  ⟨w s.config, s.registry⟩

/-- Two sessions that differ in what was observed and applied at most. -/
structure Agrees {C : Type} (s s' : Session C) : Prop where
  /-- The block is the same. -/
  config : s'.config = s.config
  /-- The configuration is the same. -/
  spec : s'.registry.spec = s.registry.spec
  /-- The owner is the same. -/
  ownership : s'.ownership = s.ownership

/-- Two sessions that differ in what was observed at most. -/
structure Observes {C : Type} (s s' : Session C) : Prop extends Agrees s s' where
  /-- The configuration that was applied is the same. -/
  applied : s'.registry.status.applied = s.registry.status.applied

/-- What an operation may do to a session and the ledger. -/
structure Advances (s : Session Storage) (l : Ledger) (s' : Session Storage) (l' : Ledger) :
    Prop where
  /-- The session stays sound. -/
  sound : Sound s' l'
  /-- The backend stays the same. -/
  backend : s'.config.backend = s.config.backend
  /-- A resource that is not the operator's keeps its name. -/
  stable : s.config.resource ≠ "" → s.ownership ≠ some .managed →
    s'.config.resource = s.config.resource

/-- A session in which the resource got a name, also in the registry. -/
structure Renamed (s : Session Storage) (name : String) (s' : Session Storage) : Prop where
  /-- The registry asks for the storage of the session. -/
  selected : s'.registry.spec = s'.config.toSpec
  /-- The backend is the same. -/
  backend : s'.config.backend = s.config.backend
  /-- The resource has the name. -/
  resource : s'.config.resource = name
  /-- The container in an account is the same. -/
  compartment : s'.config.compartment = s.config.compartment
  /-- The owner is the same. -/
  ownership : s'.ownership = s.ownership
  /-- The configuration that was applied is the same. -/
  applied : s'.registry.status.applied = s.registry.status.applied

variable {s s' s'' : Session Storage} {l l' : Ledger}

/-- The backend and the name tell the asset. -/
lemma asset_eq {a b : Storage} (hb : a.backend = b.backend) (hr : a.resource = b.resource) :
    a.asset = b.asset := by
  rw [asset, asset, hb, hr]

/-- A session agrees with itself. -/
lemma Agrees.refl {C : Type} (s : Session C) : Agrees s s := ⟨rfl, rfl, rfl⟩

/-- Nothing was observed in a session that is the same. -/
lemma Observes.refl {C : Type} (s : Session C) : Observes s s := ⟨.refl s, rfl⟩

/-- What the lifecycle observes, the session observes. -/
lemma Observes.of_alike {C : Type} {s : Session C} {name : String} {t : Lifecycle.Subject}
    (h : Lifecycle.Alike ⟨name, s.registry.status⟩ t) :
    Observes s { s with registry.status := t.status } :=
  ⟨⟨rfl, rfl, h.ownership⟩, h.applied⟩

/-- Sessions with a block of one backend agree as sessions with the storage. -/
lemma Agrees.wrap {C : Type} {s s' : Session C} (h : Agrees s s') (w : C → Storage) :
    Agrees (s.wrap w) (s'.wrap w) :=
  ⟨congrArg w h.config, h.spec, h.ownership⟩

/-- What was observed and applied does not matter for soundness. -/
lemma Sound.agrees (h : Sound s l) (ha : Agrees s s') : Sound s' l where
  selected := by rw [ha.spec, ha.config, h.selected]
  held := by rw [ha.config, ha.ownership]; exact h.held
  owned := by rw [ha.config, ha.ownership]; exact h.owned
  named := by rw [ha.config, ha.ownership]; exact h.named
  containers := by rw [ha.config]; exact h.containers

/-- A sound session in which at most observations changed has advanced. -/
lemma Sound.advances (h : Sound s l) (ha : Agrees s s') : Advances s l s' l where
  sound := h.agrees ha
  backend := by rw [ha.config]
  stable _ _ := by rw [ha.config]

/-- A session that has advanced may change in observations. -/
lemma Advances.agrees (h : Advances s l s' l') (ha : Agrees s' s'') : Advances s l s'' l' where
  sound := h.sound.agrees ha
  backend := by rw [ha.config, h.backend]
  stable hn ho := by rw [ha.config, h.stable hn ho]

/-- Looking at the default claim keeps a session sound. -/
lemma Sound.saw (h : Sound s l) (owned : Bool) :
    Sound s (l.record (.saw owned)) where
  selected := h.selected
  held := h.held
  owned hm := (h.owned hm).imp_right fun ⟨hx, hc⟩ => ⟨hx, by simp [Ledger.record, hc]⟩
  named := h.named
  containers := h.containers

/-- Other settings in the block do not matter. -/
lemma Advances.renamed (h : Advances s l s' l') (hr : Renamed s' s'.config.resource s'') :
    Advances s l s'' l' where
  sound :=
    { selected := hr.selected
      held := by
        rw [asset_eq hr.backend hr.resource, hr.ownership]
        exact h.sound.held
      owned := by
        rw [asset_eq hr.backend hr.resource, hr.ownership]
        exact h.sound.owned
      named := by
        rw [hr.resource, hr.ownership]
        exact h.sound.named
      containers := by
        rw [hr.resource, hr.compartment]
        exact h.sound.containers }
  backend := hr.backend.trans h.backend
  stable hn ho := hr.resource.trans (h.stable hn ho)

/-- One operation after another that keeps the name. -/
lemma Advances.trans {l'' : Ledger} (h : Advances s l s' l') (h' : Advances s' l' s'' l'')
    (hname : s''.config.resource = s'.config.resource) : Advances s l s'' l'' where
  sound := h'.sound
  backend := h'.backend.trans h.backend
  stable hn ho := hname.trans (h.stable hn ho)

/-- **A session stays sound when its resource is found or created**, once the name is written into
it.

**Proof sketch.** By the ways in which a creation may end. If the subject is like before, or a
resource was adopted, nothing is held that was not, and the fields are those of the session before.
If one was created, it is the one that the new name tells; what was held before is the same, since a
name that is there is kept. -/
theorem Sound.of_ensured {t : Lifecycle.Subject} (h : Sound s l)
    {r : Except Error Unit} (he : Lifecycle.Ensured (Ledger.effects s.config.backend)
      ⟨s.config.resource, s.registry.status⟩ l r t l')
    (hs : Renamed ⟨s.config, { s.registry with status := t.status }⟩ t.name s') :
    Advances s l s' l' := by
  have hspec := hs.selected
  have hb : s'.config.backend = s.config.backend := hs.backend
  have hr : s'.config.resource = t.name := hs.resource
  have hk : s'.config.compartment = s.config.compartment := hs.compartment
  have ho : s'.ownership = t.status.ownership := hs.ownership
  have hkept (ha : Lifecycle.Alike ⟨s.config.resource, s.registry.status⟩ t) :
      Advances s l s' l := by
    have hr : s'.config.resource = s.config.resource := hr.trans ha.name
    have ho : s'.ownership = s.ownership := ho.trans ha.ownership
    refine ⟨⟨hspec, ?_, ?_, ?_, ?_⟩, hb, fun _ _ => hr⟩
    · rw [asset_eq hb hr, ho]
      exact h.held
    · rw [asset_eq hb hr, ho]
      exact h.owned
    · rw [hr, ho]
      exact h.named
    · rw [hr, hk]
      exact h.containers
  cases he with
  | kept ha => exact hkept ha
  | failed ha => exact hkept ha
  | adopted hm hn hu _ =>
    have hr : s'.config.resource = s.config.resource := hr.trans hn
    have ho : s'.ownership ≠ some .managed := by
      rw [ho, hu]
      decide
    refine ⟨⟨hspec, ?_, fun hm => absurd hm ho, fun hm => absurd hm ho, ?_⟩, hb, fun _ _ => hr⟩
    · rw [h.held_eq_nil hm]
      exact fun _ hx => nomatch hx
    · rw [hr, hk]
      exact h.containers
  | created hn hne hm _ =>
    have hkeep (hs : s.config.resource ≠ "") : s'.config.resource = s.config.resource :=
      hr.trans (hn.resolve_left hs)
    have ho : s'.ownership = some .managed := ho.trans hm
    have hasset : s'.config.asset = .of s.config.backend t.name := by rw [asset, hb, hr]
    refine ⟨⟨hspec, ?_, ?_, ?_, ?_⟩, hb, fun hs _ => hkeep hs⟩
    · intro x hx
      refine ⟨?_, ho⟩
      rcases List.mem_cons.1 hx with rfl | hx
      · exact hasset.symm
      · obtain ⟨rfl, hm⟩ := h.held x hx
        exact (asset_eq hb (hkeep (h.named hm))).symm
    · intro _
      rw [hasset]
      exact .inl List.mem_cons_self
    · intro _
      rw [hr]
      exact hne
    · intro c hc
      obtain ⟨rfl, h₁, h₂⟩ := h.containers c hc
      rw [hkeep h₁, hk]
      exact ⟨rfl, h₁, h₂⟩

/-- **A session stays sound when the container in its account is found or created**, once the name
is written into it.

**Proof sketch.** The name of the account and its owner are as before, so only the containers need a
look: they are those of before unless one was created, and then that is the one which the new name
tells, as a session without a container had none. -/
theorem Sound.of_contained {c : Azure.Config} {t : Lifecycle.Subject} (h : Sound s l)
    (hs : s.config = .azure c) (hc : c.accountName ≠ "")
    {r : Except Error Unit} (he : Lifecycle.Ensured (Ledger.containerEffects c.accountName)
      ⟨c.container, s.registry.status⟩ l r t l')
    (hs' : s'.config = .azure { c with container := t.name })
    (hspec : s'.registry.spec = s'.config.toSpec) (ho : s'.ownership = s.ownership) :
    Advances s l s' l' := by
  have hb : s'.config.backend = s.config.backend := by rw [hs, hs']; rfl
  have hr : s'.config.resource = s.config.resource := by rw [hs, hs']; rfl
  have hheld {x : Asset} (hx : x ∈ l.held) :
      x = s'.config.asset ∧ s'.ownership = some .managed := by
    rw [asset_eq hb hr, ho]
    exact h.held x hx
  have howned (hm : s'.ownership = some .managed) : l.Owns s'.config.asset := by
    rw [asset_eq hb hr]
    exact h.owned (ho.symm.trans hm)
  have hnamed (hm : s'.ownership = some .managed) : s'.config.resource ≠ "" := by
    rw [hr]
    exact h.named (ho.symm.trans hm)
  have hkept (hn : t.name = c.container) :
      ∀ x ∈ l.containers,
        x = (s'.config.resource, s'.config.compartment) ∧ x.1 ≠ "" ∧ x.2 ≠ "" := by
    have hk : s'.config.compartment = s.config.compartment := by
      rw [hs, hs']
      exact hn
    rw [hr, hk]
    exact h.containers
  cases he with
  | kept ha =>
    exact ⟨⟨hspec, fun _ hx => hheld hx, howned, hnamed, hkept ha.name⟩, hb, fun _ _ => hr⟩
  | failed ha =>
    exact ⟨⟨hspec, fun _ hx => hheld hx, howned, hnamed, hkept ha.name⟩, hb, fun _ _ => hr⟩
  | adopted _ hn _ _ =>
    exact ⟨⟨hspec, fun _ hx => hheld hx, howned, hnamed, hkept hn⟩, hb, fun _ _ => hr⟩
  | created hn hne _ _ =>
    refine ⟨⟨hspec, fun _ hx => hheld hx, howned, hnamed, ?_⟩, hb, fun _ _ => hr⟩
    intro x hx
    rcases List.mem_cons.1 hx with rfl | hx
    · rw [hs']
      exact ⟨rfl, hc, hne⟩
    · obtain ⟨rfl, h₁, h₂⟩ := h.containers x hx
      refine hkept (hn.resolve_left ?_) _ hx
      rw [hs] at h₂
      exact h₂

/-- **A session stays sound when its resource is removed**, once the name is taken out of it.

**Proof sketch.** What was held was the asset of the session, and that is removed; the containers
were in it. -/
theorem Sound.of_deleted (h : Sound s l) (hm : s.ownership = some .managed)
    (hspec : s'.registry.spec = s'.config.toSpec)
    (hb : s'.config.backend = s.config.backend) (ho : s'.ownership = some .removed) :
    Advances s l s' (l.record (.removed s.config.asset)) := by
  have ho : s'.ownership ≠ some .managed := by
    rw [ho]
    decide
  refine ⟨⟨hspec, ?_, fun hm => absurd hm ho, fun hm => absurd hm ho, ?_⟩, hb,
    fun _ hs => absurd hm hs⟩
  · intro x hx
    obtain ⟨hx, hne⟩ := List.mem_filter.1 hx
    exact absurd (h.held x hx).1 (by simpa using hne)
  · intro x hx
    obtain ⟨hx, hne⟩ := List.mem_filter.1 hx
    obtain ⟨rfl, -, hk⟩ := h.containers x hx
    -- Only the containers of an account could be left, and they go with it.
    cases hs : s.config with
    | azure c =>
      rw [hs] at hne
      simp [asset, backend] at hne
    | _ =>
      rw [hs] at hk
      exact absurd rfl hk

/-! ## Parts of operations -/

section

variable {C α G : Type} {t : Session C} {K : Contract World G} {g : G}

/-- A change of the configuration makes no call. -/
@[simp] lemma keeps_modifySpec {f : Spec → Spec}
    {Q : Except Error Unit → Session C → G → Prop} :
    Action.Keeps K (modifySpec f) t g Q ↔
      Q (.ok ()) { t with registry.spec := f t.registry.spec } g := Iff.rfl

/-- A change of the status makes no call. -/
@[simp] lemma keeps_modifyStatus {f : Status → Status}
    {Q : Except Error Unit → Session C → G → Prop} :
    Action.Keeps K (modifyStatus f) t g Q ↔
      Q (.ok ()) { t with registry.status := f t.registry.status } g := Iff.rfl

/-- Asking whether the operator owns the storage makes no call. -/
@[simp] lemma keeps_isManaged {Q : Except Error Bool → Session C → G → Prop} :
    Action.Keeps K isManaged t g Q ↔ Q (.ok t.registry.status.isManaged) t g :=
  Iff.rfl

/-- Recording what was applied changes nothing else. -/
lemma keeps_modifyApplied (f : Spec → Spec) :
    Action.Keeps K (modifyApplied f) t g fun _ t' g' => Agrees t t' ∧ g' = g :=
  ⟨⟨rfl, rfl, rfl⟩, rfl⟩

variable [K.Steady g]

/-- Asking for the date and time changes nothing. -/
lemma idle_time {σ : Type} :
    Action.Idle (σ := σ) K g (Action.perform World.time) :=
  Action.idle_perform (World.Call.IsQuiet.steady ⟨fun _ h => h, fun _ => rfl⟩)

/-- Recording an observation changes nothing else. -/
lemma keeps_observe (kind : Condition.Kind) (status : Condition.Status)
    (reason message : String) :
    Action.Keeps K (observe kind status reason message) t g fun _ t' g' =>
      Observes t t' ∧ g' = g := by
  rw [observe, Action.keeps_bind]
  refine idle_time.keeps ?_
  rintro (e | now)
  · exact ⟨Observes.refl t, rfl⟩
  · exact ⟨⟨⟨rfl, rfl, rfl⟩, rfl⟩, rfl⟩

/-- Recording that there is no name yet changes nothing else. -/
lemma keeps_unnamed :
    Action.Keeps K unnamed t g fun _ t' g' => Observes t t' ∧ g' = g := by
  rw [unnamed, Action.keeps_bind]
  refine idle_time.keeps ?_
  rintro (e | now)
  · exact ⟨Observes.refl t, rfl⟩
  · exact ⟨⟨⟨rfl, rfl, rfl⟩, rfl⟩, rfl⟩

/-- Comparing configurations changes nothing but observations. -/
lemma keeps_blockChanged [DecidableEq α] (block : Spec → Option α) :
    Action.Keeps K (blockChanged block) t g fun _ t' g' => Observes t t' ∧ g' = g := by
  rw [blockChanged, Action.keeps_bind, Action.keeps_get]
  dsimp only
  split
  · exact ⟨Observes.refl t, rfl⟩
  · rw [Action.keeps_bind]
    refine idle_time.keeps ?_
    rintro (e | now)
    · exact ⟨Observes.refl t, rfl⟩
    · exact ⟨⟨⟨rfl, rfl, rfl⟩, rfl⟩, rfl⟩

variable {H : Type} {E : Lifecycle.Effects H} {R : H → G → Prop} {h : H}

omit [K.Steady g] in
/-- Looking for a resource changes nothing but observations. -/
lemma keeps_resourceExists {ops : Resource.Operations} (hops : Realizes K E R ops) (hr : R h g)
    (hl : E.looks h) (name : String) :
    Action.Keeps K (resourceExists ops name) t g fun _ t' g' => Observes t t' ∧ R h g' := by
  refine keeps_withResource hops hr ((Lifecycle.keeps_checkExists _ hl).mono ?_)
  rintro r u _ ⟨ha, rfl⟩ g' hr'
  exact ⟨.of_alike ha, hr'⟩

/-- Looking for a resource that has a name, once connected, changes nothing but observations.

**Proof sketch.** Without a configuration only that is recorded; otherwise connecting changes
nothing, and the look is that of the lifecycle. -/
lemma keeps_connectedLook {κ : Type} {connect : Work C κ} (hconnect : Action.Idle K g connect)
    {unconfigured : Prop} [Decidable unconfigured] {ops : κ → Resource.Operations}
    (hops : ∀ k, Realizes K E R (ops k)) (hr : R h g) (hl : E.looks h) (name : String) :
    Action.Keeps K (do
      if unconfigured then unnamed
      else
        let k ← connect
        resourceExists (ops k) name) t g fun _ t' g' => Observes t t' ∧ R h g' := by
  split
  · refine keeps_unnamed.mono ?_
    rintro r t' _ ⟨ha, rfl⟩
    exact ⟨ha, hr⟩
  · rw [Action.keeps_bind]
    refine hconnect.keeps ?_
    rintro (e | k)
    · exact ⟨Observes.refl t, hr⟩
    · exact keeps_resourceExists (hops k) hr hl name

end

section

variable {C : Type} {t : Session C} {ops : Resource.Operations}

/-- Once the resource of a sound session was found or created, and its name is written down if it
has one, the session has advanced.

**Proof sketch.** A name that is there is written down by the hypothesis, and the session stays
sound (`Sound.of_ensured`). Without one the subject kept the empty name of before, so that nothing
needs to be written. -/
lemma keeps_written {w : C → Storage} {u : Lifecycle.Subject} {persist rest : Work C Unit}
    {Q : Except Error Unit → Session C → Ledger → Prop} (h : Sound (t.wrap w) l)
    {outcome : Except Error Unit} (hu : Lifecycle.Ensured
      (Ledger.effects (w t.config).backend) ⟨(w t.config).resource, t.registry.status⟩ l outcome u
      l')
    (hpersist : Action.Keeps Ledger.contract persist { t with registry.status := u.status } l'
      fun r t' l'' => r = .ok () ∧
        Renamed ⟨w t.config, { t.registry with status := u.status }⟩ u.name (t'.wrap w) ∧ l'' = l')
    (hrest : ∀ t' : Session C, Advances (t.wrap w) l (t'.wrap w) l' →
      (w t'.config).resource = u.name → Action.Keeps Ledger.contract rest t' l' Q) :
    Action.Keeps Ledger.contract
      (if u.name ≠ "" then do persist; rest
        else rest) { t with registry.status := u.status } l' Q := by
  split
  · rw [Action.keeps_bind]
    refine hpersist.mono ?_
    rintro r t' _ ⟨rfl, hr, rfl⟩
    exact hrest t' (h.of_ensured hu hr) hr.resource
  · rename_i hn
    have hname : (w t.config).resource = u.name := hu.unnamed (by simpa using hn)
    exact hrest _ (h.of_ensured hu ⟨h.selected, rfl, hname, rfl, rfl, rfl⟩) hname

/-- Recording what was applied and setting up the resource of a sound session changes nothing but
observations.

**Proof sketch.** Recording what was applied leaves the session sound; the resource is then covered
for setting it up, as what the status calls owned is owned, and that changes nothing but
observations. -/
lemma keeps_setUp {b : Backend} {w : C → Storage} {s : Session Storage} {k : Ledger}
    (h : Ledger.Faithful ops (Ledger.effects b)) (hl : l.reclaiming = false)
    (ht : Advances s k (t.wrap w) l) {name : String} (hname : (w t.config).asset = .of b name)
    (f : Session C → Spec → Spec) (kind : Resource.Kind) :
    Action.Keeps Ledger.contract (do
      let u ← get
      modifyApplied (f u)
      withResource ops name (Lifecycle.applyHardening kind)) t l fun _ t' l' =>
        Advances s k (t'.wrap w) l' := by
  rw [Action.keeps_bind, Action.keeps_get]
  dsimp only
  rw [Action.keeps_bind]
  refine (keeps_modifyApplied _).mono ?_
  rintro (e | _) t' l' ⟨ha, rfl⟩
  · exact ht.agrees (ha.wrap w)
  · have ht' := ht.agrees (ha.wrap w)
    have hcovers : Lifecycle.Covers (Ledger.effects b) ⟨name, t'.registry.status⟩ l' := by
      intro hm _
      change l'.Owns (.of b name)
      rw [← hname, ← ha.config]
      exact ht'.sound.owned hm
    refine keeps_withResource (.of_faithful h) ⟨rfl, hl⟩
      ((Lifecycle.keeps_applyHardening kind hcovers).mono ?_)
    rintro r u _ ⟨hu, rfl⟩ _ ⟨rfl, -⟩
    exact ht'.agrees ⟨rfl, rfl, hu.ownership⟩

/-- A removal that succeeds has removed the asset if it was the operator's. -/
def Clears (s : Session Storage) (r : Except Error Bool) (l : Ledger) : Prop :=
  r.isOk → s.ownership = some .managed → s.config.resource ≠ "" → s.config.asset ∈ l.gone

/-- Nothing is to be removed that is not the operator's or has no name. -/
lemma clears_idle {s : Session Storage} {r : Except Error Bool}
    (hs : s.ownership ≠ some .managed ∨ s.config.resource = "") : Clears s r l :=
  fun _ hm hn => absurd (hs.resolve_left fun hs => hs hm) hn

/-- A failure promises nothing about the resource. -/
lemma clears_error {s : Session Storage} {e : Error} : Clears s (.error e) l :=
  fun hr => nomatch hr

/-- Only a resource of the operator is removed, once connected.

**Proof sketch.** What is not the operator's or has no name is left alone, and connecting changes
nothing, so that what happens is told by the hypothesis on the removal. -/
lemma keeps_connectedRemoval {κ : Type} {connect : Work C κ}
    (hconnect : Action.Idle Ledger.contract l connect) {w : C → Storage} (h : Sound (t.wrap w) l)
    {removal : κ → Work C Bool}
    (hremoval : ∀ k, Action.Keeps Ledger.contract (removal k) t l fun r t' l' =>
      Advances (t.wrap w) l (t'.wrap w) l' ∧ Clears (t.wrap w) r l') :
    Action.Keeps Ledger.contract (do
      if !(← isManaged) || (w t.config).resource = "" then return false
      else
        let k ← connect
        removal k) t l fun r t' l' =>
          Advances (t.wrap w) l (t'.wrap w) l' ∧ Clears (t.wrap w) r l' := by
  rw [Action.keeps_bind, keeps_isManaged]
  dsimp only
  split
  · rename_i hs
    have hs : t.ownership ≠ some .managed ∨ (w t.config).resource = "" := Status.idle_iff.1 hs
    exact ⟨h.advances (Agrees.refl _), clears_idle hs⟩
  · rw [Action.keeps_bind]
    refine hconnect.keeps ?_
    rintro (e | k)
    · exact ⟨h.advances (Agrees.refl _), clears_error⟩
    · exact hremoval k

/-- A session whose resource was removed, also from the registry. -/
structure Cleared (s s' : Session Storage) : Prop where
  /-- The registry asks for the storage of the session. -/
  selected : s'.registry.spec = s'.config.toSpec
  /-- The backend is the same. -/
  backend : s'.config.backend = s.config.backend
  /-- The owner is the same. -/
  ownership : s'.ownership = s.ownership

/-- Removing the resource of a sound session, and taking its name out of it.

**Proof sketch.** The removal of the lifecycle is permitted, as the session is sound. It left the
resource alone, failed with nothing but observations, or deleted it; only then the name is taken
out, and the session is sound without it (`Sound.of_deleted`). -/
lemma keeps_removal {w : C → Storage} (hl : l.reclaiming = false) (h : Sound (t.wrap w) l)
    (hf : Ledger.Faithful ops (Ledger.effects (w t.config).backend)) {kind : Resource.Kind}
    {clear : Work C Bool}
    (hclear : ∀ status l', Action.Keeps Ledger.contract clear
      { t with registry.status := status } l' fun r t' l'' =>
        r = .ok false ∧ Cleared ⟨w t.config, { t.registry with status }⟩ (t'.wrap w) ∧
          l'' = l') :
    Action.Keeps Ledger.contract (do
      if ← withResource ops (w t.config).resource (Lifecycle.remove kind) then clear
      else return false) t l fun r t' l' =>
        Advances (t.wrap w) l (t'.wrap w) l' ∧ Clears (t.wrap w) r l' := by
  have hcovers : Lifecycle.Covers (Ledger.effects (w t.config).backend)
      ⟨(w t.config).resource, t.registry.status⟩ l := fun hm _ => h.owned hm
  rw [Action.keeps_bind]
  refine keeps_withResource (.of_faithful hf) ⟨rfl, hl⟩
    ((Lifecycle.keeps_remove kind hcovers).mono ?_)
  rintro r u l' hu _ ⟨rfl, -⟩
  cases hu with
  | idle hs =>
    exact ⟨h.advances ⟨rfl, rfl, rfl⟩, clears_idle hs⟩
  | failed ha => exact ⟨h.advances ⟨rfl, rfl, ha.ownership⟩, clears_error⟩
  | deleted hm hn _ hr _ =>
    refine (hclear u.status _).mono ?_
    rintro r t' _ ⟨rfl, hc, rfl⟩
    refine ⟨h.of_deleted hm hc.selected hc.backend (hc.ownership.trans hr), fun _ _ _ => ?_⟩
    exact List.mem_cons_self

end

end Depot.Storage
