import Depot.Proofs.Creation
import Depot.Proofs.Rebuilding

set_option autoImplicit false

/-!
# Operations that are repeated

Once a creation has succeeded in surroundings that tell the truth, all operations but a removal can
be repeated in any order: they succeed, create nothing and leave the registry as it is. So a
creation comes to the same state wherever earlier operations were interrupted.

## Main definitions

* `Storage.Task.success` — the result of an operation that has nothing to do.

## Main results

* `Storage.ends_create`, `Storage.ends_isPresent` — creating storage and looking for it, in any
  backend.
* `Storage.Task.ends_converged`, `Storage.ends_series` — nothing changes where nothing is left to be
  done.
* `Storage.create_converges` — a creation leaves nothing to be done.
-/

namespace Depot

namespace Storage

/-! ## Operations -/

variable {E : Surroundings} {s : Settings} {needed : Prop} {g : Cloud} {a : Session Storage}

/-- Work on the block of one backend ends as it does on its own. -/
lemma ends_within {C α G : Type} {K : Contract World G} {h : G} {wrap : C → Storage} {config : C}
    {work : Work C α} {Q : Except Error α → Session Storage → G → Prop} :
    Action.Ends K (within wrap config work) a h Q ↔
      Action.Ends K work ⟨config, a.registry⟩ h fun r t h' => Q r (t.wrap wrap) h' :=
  Prog.ends_bind

/-- **Creating storage** succeeds, leaves nothing to be done, and changes nothing where nothing was
left to be done.

**Proof sketch.** One case per backend. The drivers' theorems say what a creation provides; a
storage that is provided has converged, and only the filesystem may be without a resource. -/
theorem ends_create (hspec : a.registry.spec = a.config.toSpec) (hname : E.HasName)
    (hresolves : E.Resolves s a.config) (hneeded : ¬ Converged E s g a → needed) :
    Action.Ends (E.world needed) (Storage.create s) a g fun r b g' =>
      r = .ok () ∧ Converged E s g' b ∧ (Converged E s g a → Unchanged a b) := by
  have hprovided {C : Type} {wrap : C → Storage} {c : C} {work : Work C Unit} {registry : Registry}
      (hdir : wrap c ≠ emptyDir)
      (h : Action.Ends (E.world needed) work ⟨c, registry⟩ g fun r t g' =>
        r = .ok () ∧ Provides E s ⟨wrap c, registry⟩ g (t.wrap wrap) g') :
      Action.Ends (E.world needed) (within wrap c work) ⟨wrap c, registry⟩ g fun r b g' =>
        r = .ok () ∧ Converged E s g' b ∧
          (Converged E s g ⟨wrap c, registry⟩ → Unchanged ⟨wrap c, registry⟩ b) := by
    refine ends_within.2 (h.mono ?_)
    rintro _ t g' ⟨rfl, ht⟩
    exact ⟨rfl, ht.converged, fun ha => ht.unchanged ha hdir⟩
  obtain ⟨config, registry⟩ := a
  refine Action.gives_get.ends_bind ?_
  cases config with
  | s3 c => exact hprovided nofun (S3.ends_create hspec hname hresolves hneeded)
  | azure c => exact hprovided nofun (Azure.ends_create hspec hname hresolves hneeded)
  | gcs c => exact hprovided nofun (Gcs.ends_create hspec hname hresolves hneeded)
  | swift c => exact hprovided nofun (Swift.ends_create hspec hname hresolves hneeded)
  | filesystem c => exact ends_within.2 (Filesystem.ends_create hspec hneeded)

/-- Looking for storage where nothing is left to be done finds it.

**Proof sketch.** One case per backend. -/
theorem ends_isPresent (h : Converged E s g a) :
    Action.Ends (E.world needed) (Storage.isPresent s) a g fun r b g' =>
      r = .ok true ∧ Finds a b ∧ g' = g := by
  have hwithin {C : Type} {wrap : C → Storage} {c : C} {work : Work C Bool} {registry : Registry}
      (h : Action.Ends (E.world needed) work ⟨c, registry⟩ g fun r t g' =>
        r = .ok true ∧ Finds ⟨c, registry⟩ t ∧ g' = g) :
      Action.Ends (E.world needed) (within wrap c work) ⟨wrap c, registry⟩ g fun r b g' =>
        r = .ok true ∧ Finds ⟨wrap c, registry⟩ b ∧ g' = g := by
    refine ends_within.2 (h.mono ?_)
    rintro _ t _ ⟨rfl, ht, rfl⟩
    exact ⟨rfl, ⟨ht.toObserves.wrap wrap, ht.confirms⟩, rfl⟩
  obtain ⟨config, registry⟩ := a
  refine Action.gives_get.ends_bind ?_
  cases config with
  | s3 c => exact hwithin (S3.ends_isPresent h)
  | azure c => exact hwithin (Azure.ends_isPresent h)
  | gcs c => exact hwithin (Gcs.ends_isPresent h)
  | swift c => exact hwithin (Swift.ends_isPresent h)
  | filesystem c => exact hwithin (Filesystem.ends_isPresent h)

/-- The result of an operation on storage that is there and has not changed. -/
def Task.success : (k : Task) → k.Result
  | .create => ()
  | .isPresent => true
  | .isChanged | .remove => false

/-- **Where nothing is left to be done**, every operation but a removal succeeds, creates nothing
and changes nothing.

**Proof sketch.** A creation makes no call that creates, since nothing is needed where nothing is
left to be done. The other operations find what is there. -/
theorem Task.ends_converged {k : Task} (hk : k ≠ .remove) (hname : E.HasName)
    (h : Converged E s g a) :
    Action.Ends (E.world False) (k.work s) a g fun r b g' =>
      r = .ok k.success ∧ Unchanged a b ∧ Converged E s g' b := by
  cases k with
  | create =>
    refine (ends_create h.selected hname h.resolves fun hn => hn h).mono ?_
    rintro _ b g' ⟨rfl, hb, hkept⟩
    exact ⟨rfl, hkept h, hb⟩
  | remove => exact absurd rfl hk
  | isPresent =>
    refine (ends_isPresent h).mono ?_
    rintro _ b _ ⟨rfl, hb, rfl⟩
    exact ⟨rfl, h.finds hb⟩
  | isChanged =>
    rw [Action.Ends, Task.work, start_isChanged h.selected h.applied]
    exact ⟨rfl, .refl a, h⟩

/-- So does every series of operations without a removal.

**Proof sketch.** By induction on the tasks; each leaves a session that has converged. -/
theorem ends_series {ks : List Task} (hks : Task.remove ∉ ks) (hname : E.HasName)
    (h : Converged E s g a) :
    (series s ks a).Ends (E.world False) g fun x _ =>
      x.1 = ks.map (fun k => ⟨k, .ok k.success⟩) ∧ Unchanged a x.2 := by
  induction ks generalizing a g with
  | nil => exact ⟨rfl, .refl a⟩
  | cons k ks ih =>
    obtain ⟨hk, hks⟩ := not_or.1 (mt List.mem_cons.2 hks)
    refine Prog.ends_bind.2 (Prog.Ends.mono (Task.ends_converged (Ne.symm hk) hname h) ?_)
    rintro ⟨_, b⟩ g' ⟨rfl, hb, h'⟩
    refine Prog.ends_bind.2 ((ih hks h').mono ?_)
    rintro ⟨_, c⟩ _ ⟨rfl, hc⟩
    exact ⟨rfl, hb.trans hc⟩

/-! ## Main results -/

/-- **A creation comes to the same state from everywhere, and stays there.** Take a registry whose
configuration has one block, with any status, any operations on it with any answers of the world,
and what they leave. In surroundings that tell the truth, where everything that is needed to connect
can be found and the name of the cluster has a letter or digit, and from whatever exists there, a
creation comes to an end and succeeds. After it any number of creations, looks for the storage and
looks for changes, in any order, come to an end too. Every creation succeeds, every look for the
storage finds it and every look for changes finds none; no bucket, container, account or claim is
created and no tag is bound; and the configuration, the configuration that was applied, the owner,
the statuses of all conditions and the times at which they last changed are as the first creation
left them.

**Proof sketch.** What earlier operations leave is a session that agrees with its registry
(`mirrors_of_series`), and a creation needs no more. It finds or creates the resource
(`Lifecycle.ends_ensure`) and sets it up (`Lifecycle.ends_applyHardening`), and then `Converged`
holds: the resource exists under the name that is written down, its owner is known, all conditions
hold, all tags are bound, and connecting finds nothing new. This is what all operations but a
removal preserve (`Task.ends_converged`), and while it holds, nothing is missing that would have to
be created. That operations which end have runs is `Surroundings.exists_run`. -/
theorem create_converges {registry : Registry} {storage : Storage}
    (hspec : ofSpec registry.spec = .ok storage) {ks : List Task} {es : Trace World}
    {rs : List Outcome} {b : Session Storage}
    (hrun : (series s ks ⟨storage, registry⟩).Runs es (rs, b)) (hname : E.HasName)
    (hresolves : E.Resolves s b.config) (g : Cloud) :
    Action.Ends (E.world True) (Storage.create s) b g fun r c g' => r = .ok () ∧
      ∀ ls, Task.remove ∉ ls → (series s ls c).Ends (E.world False) g' fun x _ =>
        x.1 = ls.map (fun k => ⟨k, .ok k.success⟩) ∧ Unchanged c x.2 := by
  have hb : Mirrors ⟨storage, registry⟩ b := mirrors_of_series ((ofSpec_eq_ok ..).1 hspec) hrun
  refine (ends_create hb.selected hname hresolves fun _ => trivial).mono ?_
  rintro _ c g' ⟨rfl, hc, -⟩
  exact ⟨rfl, fun ls hls => ends_series hls hname hc⟩

/-- Access keys for S3 that a user wrote. -/
def accessKeys : Cluster.Secret where
  stringData := some (.ofList [
    (Credentials.Key.s3AccessKey, "access"), (Credentials.Key.s3SecretKey, "secret")])

/-- The surroundings with these access keys. -/
def keyed : Surroundings where
  infra := { name := "infra" }
  secret? _ _ := some accessKeys

/-- The answers of a cloud that cannot be reached any more once a bucket was created. -/
def interrupted (_ : Trace World) : (c : World.Call) → World.Answer c
  | .cluster .getInfrastructure => .ok keyed.infra
  | .cluster (.getSecret ns name) => .ok (keyed.secret? ns name)
  | .s3 (.connect _ _) => .ok ()
  | .s3 (.createBucket _ _) => .ok .created
  | _ => default

/-- A bucket that was created, cannot be seen, and is gone later. -/
theorem create_converges_interrupted :
    ∃ es rs b, (series {} [.create] ⟨.s3 {}, { spec := { s3 := some {} } }⟩).Runs es (rs, b) ∧
      b.config.resource ≠ "" ∧ b.ownership = some .managed ∧
      Action.Ends (keyed.world True) (Storage.create {}) b {} fun r c g' => r = .ok () ∧
        ∀ ls, Task.remove ∉ ls → (series {} ls c).Ends (keyed.world False) g' fun x _ =>
          x.1 = ls.map (fun k => ⟨k, .ok k.success⟩) ∧ Unchanged c x.2 := by
  obtain ⟨es, ⟨rs, b⟩, hrun, hbackend, hnamed, hmanaged⟩ :=
    Prog.exists_runs_of_run interrupted 2
      (series {} [.create] ⟨.s3 {}, { spec := { s3 := some {} } }⟩)
      (fun _ a => a.2.config.backend = .s3 ∧ a.2.config.resource ≠ "" ∧
        a.2.ownership = some .managed) (by decide +kernel)
  have hresolves : keyed.Resolves {} b.config := by
    cases hb : b.config with
    | s3 c => exact ⟨_, rfl⟩
    | _ =>
      rw [hb] at hbackend
      cases hbackend
  exact ⟨es, rs, b, hrun, hnamed, hmanaged,
    create_converges rfl hrun ⟨'i', by decide, by decide⟩ hresolves {}⟩

end Storage

end Depot
