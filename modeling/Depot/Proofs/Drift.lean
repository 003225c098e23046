import Depot.Proofs.Accounts
import Depot.Proofs.Removal

set_option autoImplicit false

/-!
# Whether a removal looks like a change

A look for changes compares the block that the registry asks for with the one that was applied. A
removal takes the name of the resource out of both, so where they were equal they stay equal, and
the status goes on to say that the storage was deleted. In Azure the block that was applied is taken
away as a whole instead, so there the next look finds a change and forgets the deletion.

## Main definitions

* `Storage.existence` — what a status says of the existence of the storage.
* `Storage.Drifts` — a removal makes the configuration look changed.

## Main results

* `Storage.runs_isChanged` — a look for changes finds one if the configuration was not applied.
* `Storage.applied_vacated` — what is applied after a removal.
* `Storage.removal_unchanged_iff` — in which sessions a removal looks like a change.
-/

namespace Depot

namespace Storage

/-! ## Looks for changes -/

/-- Blocks that differ are noticed, and nothing more. -/
lemma runs_blockChanged {C α : Type} [DecidableEq α] {t t' : Session C}
    {block : Spec → Option α} {es : Trace World} {r : Except Error Bool}
    (h : Action.Runs (blockChanged block) t es r t')
    (hblock : block t.registry.spec ≠ block t.registry.status.applied) :
    ∃ now, es = [⟨.time, now⟩] ∧ r = .ok true ∧
      t' = { t with registry.status := t.registry.status.recordChanged now } := by
  rw [blockChanged, Action.runs_get_bind] at h
  dsimp only at h
  rw [if_neg hblock] at h
  obtain ⟨now, fs, rfl, hrest⟩ := Action.runs_call.1 h
  rw [modifyStatus, Action.runs_modify_bind] at hrest
  obtain ⟨rfl, rfl, rfl⟩ := Action.runs_pure.1 hrest
  exact ⟨now, rfl, rfl, rfl⟩

variable {s : Settings} {a b c : Session Storage} {es : Trace World}

/-- **A configuration that was not applied has changed**, which is all that a look for changes
records.

**Proof sketch.** The backend's block of the configuration is not the one that was applied, so its
comparison fails, on which the clock is read and the change recorded. -/
theorem runs_isChanged (hspec : b.registry.spec = b.config.toSpec) (hb : ¬ Applied b)
    {r : Except Error Bool} (h : Action.Runs Storage.isChanged b es r c) :
    ∃ now, es = [⟨.time, now⟩] ∧ r = .ok true ∧
      c = { b with registry.status := b.registry.status.recordChanged now } := by
  have hblock {C : Type} {wrap : C → Storage} {block : Option C} {config : C}
      (h : block.map wrap ≠ some (wrap config)) : some config ≠ block := by
    rintro rfl
    exact h rfl
  rw [Storage.isChanged, Action.runs_get_bind] at h
  obtain ⟨config, ⟨spec, status⟩⟩ := b
  obtain rfl : spec = config.toSpec := hspec
  cases config <;>
  · obtain ⟨t, ht, rfl⟩ := runs_within h
    obtain ⟨now, rfl, rfl, rfl⟩ := runs_blockChanged ht (hblock hb)
    exact ⟨now, rfl, rfl, rfl⟩

/-! ## Removals -/

/-- What a status says of the existence of the storage, and why. -/
def existence (b : Session Storage) : Option (Condition.Status × String) :=
  (b.registry.status.condition? .storageExists).map fun c => (c.status, c.reason)

/-- What a session shows about its storage is the status and the reason of that condition. -/
lemma existence_eq_some {status : Condition.Status} {reason : String} :
    existence b = some (status, reason) ↔
      ∃ c, b.registry.status.condition? .storageExists = some c ∧
        c.status = status ∧ c.reason = reason := by
  simp only [existence, Option.map_eq_some_iff, Prod.mk.injEq]

/-- A removal makes the configuration look changed: it removes a storage account. -/
structure Drifts (a : Session Storage) : Prop where
  /-- The storage is in Azure. -/
  backend : a.config.backend = .azure
  /-- It is the operator's. -/
  managed : a.ownership = some .managed
  /-- It has a name. -/
  named : a.config.resource ≠ ""

/-- Where the configuration was applied, it still is after the resource was removed, but for Azure.

**Proof sketch.** One case per backend: Azure has no applied block any more, the others clear the
name in both blocks alike. -/
theorem applied_vacated (h : Vacated a b) (ha : Applied a) :
    Applied b ↔ a.config.backend ≠ .azure := by
  rw [Applied, h.applied, h.config]
  rw [Applied] at ha
  cases hconfig : a.config with
  | azure config => exact iff_of_false (by rintro ⟨⟩) fun hne => hne rfl
  | s3 config | gcs config | swift config | filesystem config =>
    rw [hconfig] at ha
    obtain ⟨_, hblock, hc⟩ := Option.map_eq_some_iff.1 ha
    cases hc
    refine iff_of_true ?_ (by rintro ⟨⟩)
    change Option.map _ (Option.map _ _) = _
    rw [hblock]
    rfl

/-- Where the configuration was applied, it still is after a removal that succeeds, unless that
makes it look changed. -/
lemma applied_of_removal {r : Bool} (h : Removal a es (.ok r) b) (ha : Applied a) :
    Applied b ↔ ¬ Drifts a := by
  cases h with
  | idle hidle => exact iff_of_true ha fun hd => hidle.elim (· hd.managed) hd.named
  | removed _ hm hn _ _ _ _ hv =>
    rw [applied_vacated hv ha]
    exact not_congr ⟨fun hbackend => ⟨hbackend, hm, hn⟩, Drifts.backend⟩

/-- A configuration is found again in the specification that it is written to. -/
lemma block?_toSpec_self (a : Storage) : block? a.toSpec a.backend = some a := by
  cases a <;> rfl

/-! ## Main results -/

/-- **In which sessions a removal looks like a change.** Take a registry whose configuration has one
block, which is the one that was applied, with any other status, and a removal that succeeds, with
any answers of the world. The block and the one that was applied are then still equal, unless a
storage account of the operator was removed. If they are, the next look for changes makes no call,
finds none and leaves the status as it is; and if the resource was the operator's, the status says
that the storage does not exist because it was deleted. If they are not, the next look finds a
change and puts that in the place of the deletion.

**Proof sketch.** A removal that succeeds does nothing or removes the resource
(`removal_of_runs`), and then its name is taken out of the block and of the one that was applied
alike, but in Azure the latter is taken away (`applied_vacated`). A look for changes finds one just
if the configuration was not applied (`start_isChanged`, `runs_isChanged`). -/
theorem removal_unchanged_iff {registry : Registry} {storage : Storage}
    (hspec : ofSpec registry.spec = .ok storage)
    (happlied : block? registry.status.applied storage.backend = some storage) {r : Bool}
    (hrun : ((Storage.remove s).start ⟨storage, registry⟩).Runs es (.ok r, b)) :
    (block? b.registry.spec storage.backend = block? b.registry.status.applied storage.backend ↔
      ¬ Drifts ⟨storage, registry⟩) ∧
    (¬ Drifts ⟨storage, registry⟩ → Storage.isChanged.start b = .pure (.ok false, b)) ∧
    (registry.status.ownership = some .managed → storage.resource ≠ "" →
      existence b = some (.fails, Condition.Reason.deleted)) ∧
    (Drifts ⟨storage, registry⟩ → ∀ fs x c, (Storage.isChanged.start b).Runs fs (x, c) →
      x = .ok true ∧ existence c = some (.unknown, Condition.Reason.configurationChanged)) := by
  have h : registry.spec = storage.toSpec := (ofSpec_eq_ok ..).1 hspec
  have hb : Mirrors ⟨storage, registry⟩ b := Task.mirrors_of_runs (k := .remove) h hrun
  have hremoval : Removal ⟨storage, registry⟩ es (.ok r) b := removal_of_runs h hrun
  have happlied : Applied b ↔ ¬ Drifts ⟨storage, registry⟩ := applied_of_removal hremoval happlied
  refine ⟨?_, fun hd => start_isChanged hb.selected (happlied.2 hd), fun hm hn => ?_,
    fun hd fs x c hc => ?_⟩
  · rw [← happlied, Applied, hb.selected, ← (hb.backend : b.config.backend = storage.backend),
      block?_toSpec_self]
    exact eq_comm
  · cases hremoval with
    | idle hidle => exact hidle.elim (absurd hm) fun hunnamed => absurd hunnamed hn
    | removed _ _ _ _ _ _ _ hv => exact existence_eq_some.2 hv.absent
  · obtain ⟨now, -, rfl, rfl⟩ := runs_isChanged hb.selected (fun ha => happlied.1 ha hd) hc
    exact ⟨rfl, existence_eq_some.2 Status.condition?_record_self⟩

/-- The session of a registry whose claim the operator created. -/
def claimed (name : String) : Session Storage :=
  let spec : Spec := { filesystem := some { claim := some name } }
  ⟨.filesystem { claim := some name },
    { spec, status := { ownership := some .managed, applied := spec } }⟩

/-- A claim that is removed does not look changed. -/
theorem removal_unchanged_iff_claimed :
    ∃ es r b, ((Storage.remove {}).start (claimed "images")).Runs es (.ok r, b) ∧
      b.ownership = some .removed ∧ Storage.isChanged.start b = .pure (.ok false, b) := by
  obtain ⟨es, ⟨_ | r, b⟩, hrun, hok, howner⟩ :=
    Prog.exists_runs_of_run (clusterWith ["images"]) 3
      ((Storage.remove {}).start (claimed "images"))
      (fun _ a => a.1.isOk ∧ a.2.ownership = some .removed) (by decide +kernel)
  · cases hok
  · have hdrifts : ¬ Drifts (claimed "images") := fun h => nomatch h.backend
    exact ⟨es, r, b, hrun, howner, (removal_unchanged_iff rfl rfl hrun).2.1 hdrifts⟩

/-- The session of a registry whose storage account the operator created. -/
def accounted : Session Storage :=
  let config : Azure.Config := { accountName := "images", container := "registry" }
  ⟨.azure config, { spec := { azure := some config }, status := {
    ownership := some .managed, applied := { azure := some config } } }⟩

/-- The answers of a cluster in Azure in which deletions succeed. -/
def azureEmptied (es : Trace World) : (c : World.Call) → World.Answer c
  | .azure (.connect _ _) | .azure (.deleteContainer _ _) | .azure (.deleteAccount _) => .ok ()
  | c => Azure.azureWith (.error default) es c

/-- A storage account that is removed looks changed. -/
theorem removal_drifts :
    block? accounted.registry.spec .azure = block? accounted.registry.status.applied .azure ∧
    ∃ es b fs c, ((Storage.remove {}).start accounted).Runs es (.ok false, b) ∧
      block? b.registry.spec .azure ≠ block? b.registry.status.applied .azure ∧
      existence b = some (.fails, Condition.Reason.deleted) ∧
      (Storage.isChanged.start b).Runs fs (.ok true, c) ∧
      existence c = some (.unknown, Condition.Reason.configurationChanged) := by
  refine ⟨rfl, ?_⟩
  obtain ⟨es, ⟨⟨x, b⟩, y, c⟩, hrun, hx, hy, hblock, hb, hc⟩ :=
    Prog.exists_runs_of_run azureEmptied 3
      (((Storage.remove {}).start accounted).bind fun x =>
        (Storage.isChanged.start x.2).bind fun y => .pure (x, y))
      (fun _ a => a.1.1.toOption = some false ∧ a.2.1.toOption = some true ∧
        block? a.1.2.registry.spec .azure ≠ block? a.1.2.registry.status.applied .azure ∧
        existence a.1.2 = some (.fails, Condition.Reason.deleted) ∧
        existence a.2.2 = some (.unknown, Condition.Reason.configurationChanged))
      (by decide +kernel)
  obtain ⟨es, gs, _, rfl, hremove, hrest⟩ := (Prog.runs_bind ..).1 hrun
  obtain ⟨fs, _, _, rfl, hchanged, -, heq⟩ := (Prog.runs_bind ..).1 hrest
  cases heq
  rcases x with _ | x
  · cases hx
  rcases y with _ | y
  · cases hy
  cases hx
  cases hy
  exact ⟨es, b, fs, c, hremove, hblock, hb, hchanged, hc⟩

end Storage

end Depot
