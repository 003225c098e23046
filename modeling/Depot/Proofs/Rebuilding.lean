import Depot.Proofs.Footprint
import Depot.Proofs.Ownership

set_option autoImplicit false

/-!
# Sessions without a memory of their own

A session holds a copy of a block of the registry's configuration, so the operator may keep a
session or make a new one for every operation. Both come to the same: each backend writes what it
changes to the copy and to the registry, on every path and also when a later step fails. The
operations of all backends are gone through once more for this, with a contract that every answer of
the world keeps.

## Main definitions

* `Storage.series`, `Storage.rebuilt` — operations in one session, and each in a new one.

## Main results

* `S3.leaves_create`, `S3.mirrors_remove` and so on — creating and removing storage keeps a session
  in agreement with its registry.
* `Storage.Task.mirrors` — so does every operation.
* `Storage.start_isChanged` — a configuration that was applied has not changed.
* `Storage.session_follows_registry` — a session that is kept behaves like new ones.
-/

namespace Depot

open Storage

/-! ## S3 -/

namespace S3

/-- Looking for the bucket and creating it touches nothing. -/
lemma unobtrusive (b : Bucket) : Unobtrusive b.operations where
  probe _ _ := Action.idle_attempt (keeps_quiet ⟨fun _ h => h, fun _ => rfl⟩)
  create name p :=
    Action.idle_attempt (Prog.keeps_perform.2
      (idle_touching (c := .s3 (.createBucket name b.region)) (fun _ h => h) p))
  generate _ := Naming.keeps_generate fun _ _ => Naming.storageName_ne_empty

variable {s : Settings} {t : Session Config} {p : Prop}

/-- Creating storage in S3 writes the same to both configurations.

**Proof sketch.** The program is followed: connecting is idle, the found name is written to both
configurations (`keeps_named`), and setting up records what was applied (`keeps_settled`). Each
place where it may fail leaves sessions that agree. -/
theorem leaves_create (h : t.registry.spec = toSpec (.s3 t.config)) :
    Action.Keeps touching (create s) t False fun r t' p =>
      Leaves (t.wrap .s3) r (t'.wrap .s3) p := by
  have hm : Mirrors (t.wrap .s3) (t.wrap .s3) := .refl h
  rw [create, Action.keeps_bind]
  refine (idle_connectBucket s).keeps ?_
  rintro (e | b)
  · exact leaves_error hm
  dsimp only
  rw [Action.keeps_bind, Action.keeps_get]
  dsimp only
  rw [Action.keeps_bind]
  refine keeps_found (unobtrusive b) fun r name status hstatus => ?_
  refine keeps_named hm hstatus ?_ fun t' ht' => ?_
  · exact ⟨rfl, hm.renamed (selected_persist h name) rfl hstatus, rfl⟩
  · refine keeps_unlessFailed ht' ?_
    rw [Action.keeps_bind, Action.keeps_get]
    exact keeps_settled (unobtrusive b) ht' rfl _

/-- Removing storage in S3 writes the same to both configurations. -/
theorem mirrors_remove (h : t.registry.spec = toSpec (.s3 t.config)) :
    Action.Keeps touching (remove s) t p fun _ t' _ => Mirrors (t.wrap .s3) (t'.wrap .s3) := by
  have hm : Mirrors (t.wrap .s3) (t.wrap .s3) := .refl h
  rw [remove, Action.keeps_bind, Action.keeps_get]
  refine keeps_connectedClearing (idle_connectBucket s) hm fun b => ?_
  refine keeps_cleared (unobtrusive b) hm fun status p hstatus => ?_
  refine hm.cleared (f := fun spec => { spec with s3 := spec.s3.map ({ · with bucket := "" }) })
    (selected_persist h "") rfl hstatus fun applied k hk => ?_
  cases k with
  | s3 => exact absurd rfl hk
  | _ => rfl

end S3

/-! ## Google Cloud -/

namespace Gcs

/-- Looking for the bucket and creating it touches nothing. -/
lemma unobtrusive (b : Bucket) : Unobtrusive b.operations where
  probe _ _ := Action.idle_attempt (keeps_quiet ⟨fun _ h => h, fun _ => rfl⟩)
  create name p :=
    Action.idle_attempt (Prog.keeps_perform.2
      (idle_touching (c := .gcs (.createBucket b.project name b.location)) (fun _ h => h) p))
  generate _ := Naming.keeps_generate fun _ _ => Naming.storageName_ne_empty

variable {s : Settings} {t : Session Config} {p : Prop}

/-- Creating storage in Google Cloud writes the same to both configurations.

**Proof sketch.** As for S3, with the place written to both configurations as well. -/
lemma leaves_create (h : t.registry.spec = toSpec (.gcs t.config)) :
    Action.Keeps touching (create s) t False fun r t' p =>
      Leaves (t.wrap .gcs) r (t'.wrap .gcs) p := by
  have hm : Mirrors (t.wrap .gcs) (t.wrap .gcs) := .refl h
  rw [create, Action.keeps_bind]
  refine (idle_connectBucket s).keeps ?_
  rintro (e | b)
  · exact leaves_error hm
  dsimp only
  rw [Action.keeps_bind, Action.keeps_get]
  dsimp only
  rw [Action.keeps_bind]
  refine keeps_found (unobtrusive b) fun r name status hstatus => ?_
  refine keeps_named hm hstatus ?_ fun t' ht' => ?_
  · exact ⟨rfl, hm.renamed (selected_persist h name) rfl hstatus, rfl⟩
  · refine keeps_unlessFailed ht' ?_
    rw [Action.keeps_bind]
    refine (keeps_persistPlace b ht'.selected).mono ?_
    rintro _ t'' _ ⟨rfl, hr, rfl⟩
    dsimp only
    rw [Action.keeps_bind, Action.keeps_get]
    exact keeps_settled (unobtrusive b) (ht'.renamed hr.selected hr.backend hr.applied) rfl _

/-- Removing storage in Google Cloud writes the same to both configurations. -/
lemma mirrors_remove (h : t.registry.spec = toSpec (.gcs t.config)) :
    Action.Keeps touching (remove s) t p fun _ t' _ => Mirrors (t.wrap .gcs) (t'.wrap .gcs) := by
  have hm : Mirrors (t.wrap .gcs) (t.wrap .gcs) := .refl h
  rw [remove, Action.keeps_bind, Action.keeps_get]
  refine keeps_connectedClearing (idle_connectBucket s) hm fun b => ?_
  refine keeps_cleared (unobtrusive b) hm fun status p hstatus => ?_
  refine hm.cleared (f := fun spec => { spec with gcs := spec.gcs.map ({ · with bucket := "" }) })
    (selected_persist h "") rfl hstatus fun applied k hk => ?_
  cases k with
  | gcs => exact absurd rfl hk
  | _ => rfl

end Gcs

/-! ## Swift -/

namespace Swift

/-- Looking for the container and creating it touches nothing. -/
lemma unobtrusive (infraName : String) : Unobtrusive (operations infraName) where
  probe _ _ := Action.idle_attempt (keeps_quiet ⟨fun _ h => h, fun _ => rfl⟩)
  create name p :=
    Action.idle_attempt (Prog.keeps_perform.2
      (idle_touching (c := .swift (.createContainer name)) (fun _ h => h) p))
  generate _ := Naming.keeps_generate fun _ _ => Naming.storageName_ne_empty

variable {s : Settings} {t : Session Config} {p : Prop}

/-- With another block for the backend, the configuration asks for that one. -/
lemma selected_persist (h : t.registry.spec = toSpec (.swift t.config)) (c : Config) :
    { t.registry.spec with swift := some c } = toSpec (.swift c) := by
  rw [h]
  rfl

/-- Creating storage in Swift writes the same to both configurations.

**Proof sketch.** As for S3, without settings: the recorded block is the last step. -/
lemma leaves_create (h : t.registry.spec = toSpec (.swift t.config)) :
    Action.Keeps touching (create s) t False fun r t' p =>
      Leaves (t.wrap .swift) r (t'.wrap .swift) p := by
  have hm : Mirrors (t.wrap .swift) (t.wrap .swift) := .refl h
  rw [create, Action.keeps_bind]
  refine idle_getInfrastructure.keeps ?_
  rintro (e | infra)
  · exact leaves_error hm
  dsimp only
  rw [Action.keeps_bind]
  refine (idle_connect s).keeps ?_
  rintro (e | found)
  · exact leaves_error hm
  dsimp only
  rw [Action.keeps_bind, Action.keeps_get]
  dsimp only
  rw [Action.keeps_bind]
  refine keeps_found (unobtrusive infra.name) fun r name status hstatus => ?_
  refine keeps_named hm hstatus ?_ fun t' ht' => ?_
  · exact ⟨rfl, hm.renamed (selected_persist h _) rfl hstatus, rfl⟩
  · refine keeps_unlessFailed ht' ?_
    rw [Action.keeps_bind, Action.keeps_get]
    have hrecorded := ht'.adjusted fun spec k hk =>
      block?_put_of_ne (.swift t'.config) spec (k := k) hk
    exact ⟨hrecorded, fun _ => block?_put_self (.swift t'.config) _⟩

/-- Removing storage in Swift writes the same to both configurations. -/
lemma mirrors_remove (h : t.registry.spec = toSpec (.swift t.config)) :
    Action.Keeps touching (remove s) t p fun _ t' _ =>
      Mirrors (t.wrap .swift) (t'.wrap .swift) := by
  have hm : Mirrors (t.wrap .swift) (t.wrap .swift) := .refl h
  rw [remove, Action.keeps_bind, Action.keeps_get]
  refine keeps_connectedClearing (idle_connect s) hm fun r => ?_
  refine keeps_cleared (unobtrusive "") hm fun status p hstatus => ?_
  refine hm.cleared
    (f := fun spec => { spec with swift := spec.swift.map ({ · with container := "" }) })
    (selected_persist h _) rfl hstatus fun applied k hk => ?_
  cases k with
  | swift => exact absurd rfl hk
  | _ => rfl

end Swift

/-! ## Azure -/

namespace Azure

/-- Looking for the account and creating it touches nothing. -/
lemma unobtrusive (a : Account) : Unobtrusive a.operations where
  probe _ _ := Action.idle_attempt (keeps_quiet ⟨fun _ h => h, fun _ => rfl⟩)
  create name p :=
    Action.idle_attempt (Prog.keeps_perform.2
      (idle_touching (c := .azure (.createAccount name _)) (fun _ h => h) p))
  generate _ := Naming.keeps_generate fun _ _ => Naming.accountName_ne_empty

/-- Looking for the container and creating it touches nothing. -/
lemma unobtrusive_container (infraName account : String) :
    Unobtrusive (containerOperations infraName account) where
  probe _ _ := Action.idle_attempt (keeps_quiet ⟨fun _ h => h, fun _ => rfl⟩)
  create name p :=
    Action.idle_attempt (Prog.keeps_perform.2
      (idle_touching (c := .azure (.createContainer account name)) (fun _ h => h) p))
  generate _ := Naming.keeps_generate fun _ _ => Naming.storageName_ne_empty

variable {s : Settings} {t : Session Config} {p : Prop}

/-- Connecting touches nothing. -/
lemma idle_connectTouching : Action.Idle touching p (connectAccount s) :=
  idle_connectAccount s fun _ _ => (quiet_connect _ _).idle

/-- Finding or creating the container touches nothing and writes the same to both configurations.

**Proof sketch.** Looking for the container and creating it touches nothing, and its name is written
to both configurations, or to none where it was not found. -/
lemma leaves_ensureContainer {a : Session Storage} (h : Mirrors a (t.wrap .azure))
    (infraName account : String) :
    Action.Keeps touching (ensureContainer s infraName account) t p fun _ t' p' =>
      Mirrors a (t'.wrap .azure) ∧ p' = p := by
  rw [ensureContainer, Action.keeps_bind, Action.keeps_get]
  dsimp only
  rw [Action.keeps_bind, Action.keeps_get]
  dsimp only
  rw [Action.keeps_bind]
  refine keeps_found (unobtrusive_container infraName account) fun r name status hstatus => ?_
  dsimp only
  rw [Action.keeps_bind, keeps_modifyStatus]
  dsimp only
  split
  · exact ⟨h.renamed (selected_persist h.selected rfl) rfl hstatus, rfl⟩
  · exact ⟨h.renamed h.selected rfl hstatus, rfl⟩

/-- Creating storage in Azure writes the same to both configurations.

**Proof sketch.** As for S3, with the container after the account. -/
lemma leaves_create (h : t.registry.spec = toSpec (.azure t.config)) :
    Action.Keeps touching (create s) t False fun r t' p =>
      Leaves (t.wrap .azure) r (t'.wrap .azure) p := by
  have hm : Mirrors (t.wrap .azure) (t.wrap .azure) := .refl h
  rw [create, Action.keeps_bind]
  refine idle_connectTouching.keeps ?_
  rintro (e | a)
  · exact leaves_error hm
  dsimp only
  rw [Action.keeps_bind, Action.keeps_get]
  dsimp only
  rw [Action.keeps_bind]
  refine keeps_found (unobtrusive a) fun r name status hstatus => ?_
  refine keeps_named hm hstatus ?_ fun t' ht' => ?_
  · exact ⟨rfl, hm.renamed (selected_persist h rfl) rfl hstatus, rfl⟩
  · refine keeps_unlessFailed ht' ?_
    rw [Action.keeps_bind]
    refine (leaves_ensureContainer ht' _ _).mono ?_
    rintro (e | _) t'' _ ⟨ht'', rfl⟩
    · exact leaves_error ht''
    dsimp only
    rw [Action.keeps_bind, Action.keeps_get]
    exact keeps_settled (unobtrusive a) ht'' rfl _

/-- Removing storage in Azure writes the same to both configurations. -/
lemma mirrors_remove (h : t.registry.spec = toSpec (.azure t.config)) :
    Action.Keeps touching (remove s) t p fun _ t' _ =>
      Mirrors (t.wrap .azure) (t'.wrap .azure) := by
  have hm : Mirrors (t.wrap .azure) (t.wrap .azure) := .refl h
  rw [remove, Action.keeps_bind, Action.keeps_get]
  refine keeps_connectedClearing idle_connectTouching hm fun a => ?_
  refine keeps_cleared (unobtrusive a) hm fun status p hstatus => ?_
  refine hm.cleared (f := fun spec => { spec with azure := none })
    (selected_persist h rfl) rfl hstatus fun applied k hk => ?_
  cases k with
  | azure => exact absurd rfl hk
  | _ => rfl

end Azure

/-! ## Volumes -/

namespace Filesystem

variable {s : Settings} {t : Session Config} {p : Prop}

/-- Looking for a claim touches nothing. -/
lemma idle_claimTouching {σ : Type} (name : String) :
    Action.Idle (σ := σ) touching p (claim? name) :=
  Action.idle_attempt (Prog.keeps_perform.2
    (idle_touching (c := .cluster (.getClaim _ name)) (fun _ h => h) p))

/-- Looking for the claim and creating it touches nothing.

**Proof sketch.** A look asks the cluster for the claim, which touches nothing; neither does a
creation, whatever is answered. -/
lemma unobtrusive : Unobtrusive operations where
  probe name _ := (idle_claimTouching name).bind fun _ => Action.idle_pure _
  create name p := by
    have hcall : Action.Idle (σ := Unit) touching p
        (Action.perform (World.cluster
          (.createClaim Credentials.operatorNamespace (newClaim name)))) :=
      Action.idle_perform (idle_touching (c := .cluster (.createClaim _ _)) (fun _ h => h) p)
    refine hcall.bind ?_
    rintro (e | _)
    · dsimp only
      split
      · exact Action.idle_pure _
      · exact Action.idle_throw _
    · exact Action.idle_pure _
  generate _ := ⟨(by decide : defaultClaim ≠ ""), rfl⟩

/-- With another block for the backend, the configuration asks for that one. -/
lemma selected_persist (h : t.registry.spec = toSpec (.filesystem t.config)) (c : Config) :
    { t.registry.spec with filesystem := some c } = toSpec (.filesystem c) := by
  rw [h]
  rfl

/-- Recording what was applied completes a creation. -/
lemma leaves_apply {a : Session Storage} (h : Mirrors a (t.wrap .filesystem)) :
    Action.Keeps touching apply t p fun r t' p' => Leaves a r (t'.wrap .filesystem) p' := by
  have hrecorded := h.adjusted fun spec k hk =>
    block?_put_of_ne (.filesystem t.config) spec (k := k) (h.backend ▸ hk)
  exact ⟨hrecorded, fun _ => block?_put_self (.filesystem t.config) _⟩

/-- Recognising the default claim changes the owner at most.

**Proof sketch.** The cases of the lookup change the owner or nothing. -/
lemma mirrors_reclaim {a : Session Storage} (h : Mirrors a (t.wrap .filesystem)) :
    Action.Keeps touching reclaim t p fun _ t' p' => Mirrors a (t'.wrap .filesystem) ∧ p' = p := by
  rw [reclaim, Action.keeps_bind, Action.keeps_get]
  dsimp only
  split
  · rw [Action.keeps_bind]
    refine (idle_claimTouching _).keeps ?_
    rintro (e | _ | claim)
    · exact ⟨h, rfl⟩
    · exact ⟨h, rfl⟩
    · dsimp only
      split
      · exact ⟨h.renamed h.selected rfl rfl, rfl⟩
      · exact ⟨h, rfl⟩
  · exact ⟨h, rfl⟩

/-- Finding or creating a claim writes the same to both configurations.

**Proof sketch.** The name of the claim is written to both configurations before a failure is
reported. -/
lemma leaves_ensureClaim {a : Session Storage} (h : Mirrors a (t.wrap .filesystem))
    (name : String) :
    Action.Keeps touching (do
      let x ← onResource operations name (Lifecycle.ensure claimKind s.wait)
      persist x.2
      Action.ofExcept x.1
      apply) t False fun r t' p => Leaves a r (t'.wrap .filesystem) p := by
  rw [Action.keeps_bind]
  refine keeps_found unobtrusive fun r name' status hstatus => ?_
  dsimp only
  rw [Action.keeps_bind]
  have hpersist : Action.Keeps touching (persist name')
      { t with registry.status := status } False fun r t' p =>
        r = .ok () ∧ Mirrors a (t'.wrap .filesystem) ∧ p = False :=
    ⟨rfl, h.renamed (selected_persist h.selected _) rfl hstatus, rfl⟩
  refine hpersist.mono ?_
  rintro _ t' _ ⟨rfl, ht', rfl⟩
  exact keeps_unlessFailed ht' (leaves_apply ht')

/-- Creating storage in a volume writes the same to both configurations.

**Proof sketch.** Without a claim the observation is recorded, and with one it is ensured, after the
owner of the default claim was looked up. -/
lemma leaves_create (h : t.registry.spec = toSpec (.filesystem t.config)) :
    Action.Keeps touching (create s) t False fun r t' p =>
      Leaves (t.wrap .filesystem) r (t'.wrap .filesystem) p := by
  have hm : Mirrors (t.wrap .filesystem) (t.wrap .filesystem) := .refl h
  rw [create, Action.keeps_bind, Action.keeps_get]
  dsimp only
  split
  · rw [Action.keeps_bind]
    refine (keeps_observe _ _ _ _).mono ?_
    rintro (e | _) t' _ ⟨ha, rfl⟩
    · exact leaves_error (hm.observes (ha.wrap _))
    · exact leaves_apply (hm.observes (ha.wrap _))
  · rename_i name _
    split
    · rw [Action.keeps_bind]
      refine (mirrors_reclaim hm).mono ?_
      rintro (e | _) t' _ ⟨ht', rfl⟩
      · exact leaves_error ht'
      · exact leaves_ensureClaim ht' _
    · exact leaves_ensureClaim hm _

/-- Removing storage in a volume writes the same to both configurations.

**Proof sketch.** A claim that the operator does not own is left. Otherwise the name is cleared in
both configurations, and the other backends' blocks stay. -/
lemma mirrors_remove (h : t.registry.spec = toSpec (.filesystem t.config)) :
    Action.Keeps touching remove t p fun _ t' _ =>
      Mirrors (t.wrap .filesystem) (t'.wrap .filesystem) := by
  have hm : Mirrors (t.wrap .filesystem) (t.wrap .filesystem) := .refl h
  rw [remove, Action.keeps_bind, Action.keeps_get]
  dsimp only
  rw [Action.keeps_bind, keeps_isManaged]
  dsimp only
  split
  · exact hm
  refine keeps_cleared unobtrusive hm fun status p hstatus => ?_
  refine hm.cleared
    (f := fun spec => { spec with filesystem := spec.filesystem.map ({ · with claim := some "" }) })
    (selected_persist h _) rfl hstatus fun applied k hk => ?_
  cases k with
  | filesystem => exact absurd rfl hk
  | _ => rfl

end Filesystem

/-! ## Operations -/

namespace Storage

variable {s : Settings} {a b : Session Storage} {p : Prop}

/-- What only observes keeps a session in agreement with its registry. -/
lemma mirrors_observation {C α : Type} {wrap : C → Storage} {config : C} {work : Work C α}
    (ha : a.config = wrap config) (h : a.registry.spec = a.config.toSpec)
    (hwork : Action.Keeps touching work ⟨config, a.registry⟩ p fun _ t _ =>
      Observes ⟨config, a.registry⟩ t) :
    Action.Keeps touching (within wrap config work) a p fun _ b _ => Mirrors a b := by
  refine keeps_within.2 (hwork.mono ?_)
  intro r t p' ht
  refine (Mirrors.refl h).observes ?_
  exact ⟨⟨(congrArg wrap ht.config).trans ha.symm, ht.spec, ht.ownership⟩, ht.applied⟩

/-- **Creating storage** keeps a session in agreement with its registry, and its configuration was
applied if the creation succeeds or an asset was touched. -/
lemma leaves_create (h : a.registry.spec = a.config.toSpec) :
    Action.Keeps touching (Storage.create s) a False fun r b p => Leaves a r b p := by
  rw [Storage.create, Action.keeps_bind, Action.keeps_get]
  obtain ⟨config, registry⟩ := a
  cases config with
  | s3 c => exact keeps_within.2 (S3.leaves_create h)
  | azure c => exact keeps_within.2 (Azure.leaves_create h)
  | gcs c => exact keeps_within.2 (Gcs.leaves_create h)
  | swift c => exact keeps_within.2 (Swift.leaves_create h)
  | filesystem c => exact keeps_within.2 (Filesystem.leaves_create h)

/-- **Removing storage** keeps a session in agreement with its registry. -/
lemma mirrors_remove (h : a.registry.spec = a.config.toSpec) :
    Action.Keeps touching (Storage.remove s) a p fun _ b _ => Mirrors a b := by
  rw [Storage.remove, Action.keeps_bind, Action.keeps_get]
  obtain ⟨config, registry⟩ := a
  cases config with
  | s3 c => exact keeps_within.2 (S3.mirrors_remove h)
  | azure c => exact keeps_within.2 (Azure.mirrors_remove h)
  | gcs c => exact keeps_within.2 (Gcs.mirrors_remove h)
  | swift c => exact keeps_within.2 (Swift.mirrors_remove h)
  | filesystem c => exact keeps_within.2 (Filesystem.mirrors_remove h)

/-- Looking for the storage keeps a session in agreement with its registry.

**Proof sketch.** One case per backend; a look observes, and does not change what the session and
its registry agree on. -/
lemma mirrors_isPresent (h : a.registry.spec = a.config.toSpec) :
    Action.Keeps touching (Storage.isPresent s) a p fun _ b _ => Mirrors a b := by
  rw [Storage.isPresent, Action.keeps_bind, Action.keeps_get]
  have hlook {C : Type} {t : Session C} {look : Work C Bool}
      (h : Action.Keeps touching look t p fun _ t' p' => Observes t t' ∧ p = p') :
      Action.Keeps touching look t p fun _ t' _ => Observes t t' := h.mono fun _ _ _ h => h.1
  obtain ⟨config, registry⟩ := a
  cases config with
  | s3 c =>
    exact mirrors_observation rfl h
      (hlook (S3.keeps_isPresent s (fun b => (S3.unobtrusive b).finding) rfl trivial))
  | azure c =>
    exact mirrors_observation rfl h
      (hlook (Azure.keeps_isPresent s (Azure.unobtrusive_container "" _).finding rfl trivial))
  | gcs c =>
    exact mirrors_observation rfl h
      (hlook (Gcs.keeps_isPresent s (fun b => (Gcs.unobtrusive b).finding) rfl trivial))
  | swift c =>
    exact mirrors_observation rfl h
      (hlook (Swift.keeps_isPresent s (Swift.unobtrusive "").finding rfl trivial))
  | filesystem c =>
    exact mirrors_observation rfl h
      (hlook (Filesystem.keeps_isPresent Filesystem.unobtrusive.finding rfl trivial))

/-- Comparing configurations keeps a session in agreement with its registry. -/
lemma mirrors_isChanged (h : a.registry.spec = a.config.toSpec) :
    Action.Keeps touching Storage.isChanged a p fun _ b _ => Mirrors a b := by
  rw [Storage.isChanged, Action.keeps_bind, Action.keeps_get]
  have hlook {C : Type} {t : Session C} {look : Work C Bool}
      (h : Action.Keeps touching look t p fun _ t' p' => Observes t t' ∧ p' = p) :
      Action.Keeps touching look t p fun _ t' _ => Observes t t' := h.mono fun _ _ _ h => h.1
  obtain ⟨config, registry⟩ := a
  cases config with
  | s3 c => exact mirrors_observation rfl h (hlook (keeps_blockChanged _))
  | azure c => exact mirrors_observation rfl h (hlook (keeps_blockChanged _))
  | gcs c => exact mirrors_observation rfl h (hlook (keeps_blockChanged _))
  | swift c => exact mirrors_observation rfl h (hlook (keeps_blockChanged _))
  | filesystem c => exact mirrors_observation rfl h (hlook (keeps_blockChanged _))

/-- **Every operation keeps a session in agreement with its registry.** -/
theorem Task.mirrors (k : Task) (h : a.registry.spec = a.config.toSpec) :
    Action.Keeps touching (k.work s) a False fun _ b _ => Mirrors a b := by
  cases k with
  | create => exact (leaves_create h).mono fun _ _ _ h => h.1
  | remove => exact mirrors_remove h
  | isPresent => exact mirrors_isPresent h
  | isChanged => exact mirrors_isChanged h

/-- Every run of an operation leaves a session that agrees with its registry. -/
lemma Task.mirrors_of_runs {k : Task} (h : a.registry.spec = a.config.toSpec) {es : Trace World}
    {r : Except Error k.Result} (hrun : ((k.work s).start a).Runs es (r, b)) : Mirrors a b :=
  (k.mirrors h).of_runs hrun ((path_touching ..).2 rfl)

/-- Blocks that are equal are compared without a call. -/
lemma start_blockChanged {C α : Type} [DecidableEq α] {t : Session C} {block : Spec → Option α}
    (h : block t.registry.spec = block t.registry.status.applied) :
    (blockChanged block).start t = .pure (.ok false, t) := by
  rw [blockChanged, Action.start_bind]
  change Action.start
    (if block t.registry.spec = block t.registry.status.applied then _ else _) t = _
  rw [if_pos h]
  rfl

/-- A backend's work that makes no call and changes nothing makes none within the backend either. -/
lemma start_within {C α : Type} {wrap : C → Storage} {c : C} {registry : Registry}
    {work : Work C α} {r : Except Error α}
    (h : work.start ⟨c, registry⟩ = .pure (r, ⟨c, registry⟩)) :
    (within wrap c work).start ⟨wrap c, registry⟩ = .pure (r, ⟨wrap c, registry⟩) :=
  congrArg (Prog.bind · _) h

/-- A configuration that was applied has not changed.

**Proof sketch.** One case per backend: the block that was applied is the configuration, so the
comparison holds and no call is made. -/
theorem start_isChanged (h : b.registry.spec = b.config.toSpec) (hb : Applied b) :
    Storage.isChanged.start b = .pure (.ok false, b) := by
  have hblock {C : Type} {wrap : C → Storage} (hwrap : ∀ c c', wrap c = wrap c' → c = c')
      {block : Option C} {c : C} (h : block.map wrap = some (wrap c)) : some c = block := by
    obtain ⟨c', rfl, hc⟩ := Option.map_eq_some_iff.1 h
    exact congrArg some (hwrap c c' hc.symm)
  obtain ⟨config, ⟨spec, status⟩⟩ := b
  obtain rfl : spec = config.toSpec := h
  rw [Storage.isChanged, Action.start_bind]
  cases config with
  | s3 c => exact start_within (start_blockChanged (hblock (fun _ _ => s3.inj) hb))
  | azure c => exact start_within (start_blockChanged (hblock (fun _ _ => azure.inj) hb))
  | gcs c => exact start_within (start_blockChanged (hblock (fun _ _ => gcs.inj) hb))
  | swift c => exact start_within (start_blockChanged (hblock (fun _ _ => swift.inj) hb))
  | filesystem c => exact start_within (start_blockChanged (hblock (fun _ _ => filesystem.inj) hb))

/-! ## Operations one after another -/

/-- How an operation ended. -/
structure Outcome where
  /-- The operation. -/
  task : Task
  /-- The result. -/
  result : Except Error task.Result

/-- Operations one after another in one session. -/
def series (s : Settings) :
    List Task → Session Storage → Prog World (List Outcome × Session Storage)
  | [], a => .pure ([], a)
  | k :: ks, a => ((k.work s).start a).bind fun (r, b) =>
    (series s ks b).bind fun (rs, c) => .pure (⟨k, r⟩ :: rs, c)

/-- A series begins with its first operation and goes on from what that leaves. -/
lemma runs_series_cons {k : Task} {ks : List Task} {es : Trace World} {rs : List Outcome}
    (h : (series s (k :: ks) a).Runs es (rs, b)) :
    ∃ fs gs r c rs', es = fs ++ gs ∧ rs = ⟨k, r⟩ :: rs' ∧
      ((k.work s).start a).Runs fs (r, c) ∧ (series s ks c).Runs gs (rs', b) := by
  obtain ⟨fs, gs, ⟨r, c⟩, rfl, hfirst, hrest⟩ := (Prog.runs_bind ..).1 h
  obtain ⟨hs, is, ⟨rs', d⟩, rfl, hothers, rfl, heq⟩ := (Prog.runs_bind ..).1 hrest
  cases heq
  rw [List.append_nil]
  exact ⟨fs, hs, r, c, rs', rfl, rfl, hfirst, hothers⟩

/-- Operations one after another, each in a new session for the storage that the registry asks for
when it begins. -/
def rebuilt (s : Settings) :
    List Task → Registry → Prog World (Except Error (List Outcome) × Registry)
  | [], registry => .pure (.ok [], registry)
  | k :: ks, registry =>
    match ofSpec registry.spec with
    | .error e => .pure (.error e, registry)
    | .ok storage => ((k.work s).start ⟨storage, registry⟩).bind fun (r, b) =>
      (rebuilt s ks b.registry).bind fun (rs, registry) =>
        .pure (rs.map (⟨k, r⟩ :: ·), registry)

/-- What is seen of a session from outside. -/
def seen (x : List Outcome × Session Storage) : Except Error (List Outcome) × Registry :=
  (.ok x.1, x.2.registry)

/-- A session that is kept behaves like new ones.

**Proof sketch.** By induction on the tasks. The registry determines the configuration before each
of them, because every operation keeps a session in agreement with its registry. -/
lemma rebuilt_equivalent (ks : List Task) (h : a.registry.spec = a.config.toSpec) :
    (rebuilt s ks a.registry).Equivalent ((series s ks a).bind fun x => .pure (seen x)) := by
  induction ks generalizing a with
  | nil => exact .refl _
  | cons k ks ih =>
    have hselected : ofSpec a.registry.spec = .ok a.config := (ofSpec_eq_ok ..).2 h
    rw [rebuilt, hselected, series, Prog.bind_assoc]
    refine .bind (.refl _) fun es x hrun => ?_
    obtain ⟨r, b⟩ := x
    have hb : b.registry.spec = b.config.toSpec := (Task.mirrors_of_runs h hrun).selected
    refine (Prog.Equivalent.bind (ih hb) fun _ _ _ => .refl _).trans ?_
    dsimp only
    rw [Prog.bind_assoc, Prog.bind_assoc]
    exact .refl _

/-- A series of operations keeps a session in agreement with its registry.

**Proof sketch.** By induction on the tasks, by `Task.mirrors_of_runs`. -/
lemma mirrors_of_series {ks : List Task} (h : a.registry.spec = a.config.toSpec)
    {es : Trace World} {rs : List Outcome} (hrun : (series s ks a).Runs es (rs, b)) :
    Mirrors a b := by
  induction ks generalizing a es rs with
  | nil =>
    obtain ⟨-, heq⟩ := hrun
    cases heq
    exact .refl h
  | cons k ks ih =>
    obtain ⟨fs, gs, r, c, rs', rfl, rfl, hfirst, hrest⟩ := runs_series_cons hrun
    have hc := Task.mirrors_of_runs h hfirst
    exact hc.trans (ih hc.selected hrest)

/-! ## Main results -/

/-- **A session has no memory of its own.** Take a registry whose configuration has one block, with
any status, and any operations on it with any answers of the world, random names among them. Keeping
one session for all of them and making a new one for each from what the registry asks for then
behave alike: they make the same calls and end with the same results and the same registry. At every
moment the session works on the block that the registry asks for, and the blocks of other backends,
those that were applied too, are as they were. After a creation that succeeds, or that fails when it
has begun to set up the resource, which is the only thing a creation touches an asset for, a look
for changes asks nothing, finds none and leaves the status as it is.

**Proof sketch.** Every operation keeps the session in agreement with its registry (`Task.mirrors`),
which is shown for a contract that permits every call and remembers whether an asset was touched. So
after every run of an operation the new session is the old one, and what follows it behaves alike
(`Prog.Equivalent.bind`). A creation touches nothing before its configuration was applied
(`leaves_create`). -/
theorem session_follows_registry {registry : Registry} {storage : Storage}
    (hspec : ofSpec registry.spec = .ok storage) (ks : List Task) :
    (rebuilt s ks registry).Equivalent
      ((series s ks ⟨storage, registry⟩).bind fun x => .pure (seen x)) ∧
    ∀ es rs b, (series s ks ⟨storage, registry⟩).Runs es (rs, b) →
      ofSpec b.registry.spec = .ok b.config ∧
      (∀ k, k ≠ storage.backend →
        block? b.registry.spec k = block? registry.spec k ∧
        block? b.registry.status.applied k = block? registry.status.applied k) ∧
      ∀ es r c, ((Storage.create s).start b).Runs es (r, c) →
        r.isOk ∨ (∃ e ∈ es, ∃ x, e.call.Touches x) →
        Storage.isChanged.start c = .pure (.ok false, c) := by
  have h : registry.spec = storage.toSpec := (ofSpec_eq_ok ..).1 hspec
  refine ⟨rebuilt_equivalent (a := ⟨storage, registry⟩) ks h, fun es rs b hrun => ?_⟩
  have hb : Mirrors ⟨storage, registry⟩ b := mirrors_of_series h hrun
  refine ⟨(ofSpec_eq_ok ..).2 hb.selected, fun k hk => ⟨?_, hb.others k hk⟩, ?_⟩
  · have hk' : k ≠ b.config.backend := by
      rw [hb.backend]
      exact hk
    rw [hb.selected, h, block?_toSpec_of_ne _ hk, block?_toSpec_of_ne _ hk']
  · intro fs r c hcreate hr
    obtain ⟨hc, happlied⟩ := (leaves_create hb.selected).of_runs hcreate ((path_touching ..).2 rfl)
    exact start_isChanged hc.selected (happlied (hr.imp_right .inr))

/-- A claim that is created, removed and created again in new sessions. -/
theorem session_follows_registry_claiming :
    ∃ es rs registry, (rebuilt .impatient [.create, .remove, .create, .isChanged]
      (claiming "images").registry).Runs es (.ok rs, registry) ∧
      rs.length = 4 ∧ registry.status.isManaged := by
  obtain ⟨es, ⟨rs, b⟩, hrun, hlength, hm⟩ :=
    Prog.exists_runs_of_run (clusterWith []) 3
      (series .impatient [.create, .remove, .create, .isChanged] (claiming "images"))
      (fun _ a => a.1.length = 4 ∧ a.2.registry.status.isManaged) (by decide +kernel)
  have hkept : ((series .impatient _ (claiming "images")).bind fun x => .pure (seen x)).Runs es
      (.ok rs, b.registry) :=
    (Prog.runs_bind ..).2 ⟨es, [], (rs, b), (List.append_nil es).symm, hrun, rfl, rfl⟩
  exact ⟨es, rs, b.registry,
    ((session_follows_registry rfl _).1.runs ..).2 hkept, hlength, hm⟩

end Storage

end Depot
