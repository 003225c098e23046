import Depot.Gcs.Storage
import Depot.Proofs.Sessions

set_option autoImplicit false

/-!
# Buckets of Google Cloud in the ledger

As for S3, but setting up a bucket also binds tags to it, one call for each tag that is missing,
with pauses and further tries. All of these calls are about the bucket that is set up: no other has
the resource name that they are made for.

## Main results

* `Gcs.Binding.idle_bind` — binding tags touches the bucket only.
* `Gcs.faithful` — the programs for the steps of a bucket's lifecycle do what the lifecycle expects.
* `Gcs.keeps_create`, `Gcs.keeps_remove` — creating and removing a bucket keeps a session sound.
-/

namespace Depot.Gcs

variable {l : Ledger} {G : Type} {K : Contract World G} {g : G} [K.Calm g]

/-! ## Connecting -/

variable (s : Storage.Settings)

/-- Connecting to Google Cloud changes nothing. -/
lemma idle_connectBucket : Action.Idle K g (connectBucket s) := by
  refine idle_getInfrastructure.bind fun infra => ?_
  refine (Credentials.idle_gcs _).bind fun credentials => ?_
  refine Action.idle_get.bind fun t => ?_
  refine (Action.idle_ofExcept _).bind fun project => ?_
  have hconnect (location : String) :
      Action.Idle (σ := Storage.Session Config) K g
        (Action.attempt (World.gcs (.connect credentials location))) :=
    Action.idle_attempt (keeps_quiet ⟨fun _ h => h, fun _ => rfl⟩)
  exact (hconnect _).bind fun _ => Action.idle_pure _

/-! ## The lifecycle -/

section

variable {H : Type} {L : Contract World H} {h : H} {bucket : String}

/-- Emptying a bucket changes nothing if the calls for it do not.

**Proof sketch.** A page takes a listing and the deletions of what it lists, and whatever they give,
the loop goes on or ends. -/
lemma idle_empty (hlist : ∀ token, L.IdleCall h (.gcs (.listObjects bucket token)))
    (hdelete : ∀ name, L.IdleCall h (.gcs (.deleteObject bucket name))) :
    Action.Idle L h (empty bucket) := by
  have hpage (token : Option String) : Action.Idle (σ := Unit) L h
      (Action.attempt (World.gcs (.listObjects bucket token))) :=
    Action.idle_attempt (Prog.keeps_perform.2 (hlist token))
  have hobjects (names : List String) : Action.Idle L h (deleteObjects bucket names) :=
    Storage.idle_deleteEach (fun name => Prog.keeps_perform.2 (hdelete name)) names
  refine (Action.idle_loop (fun t => ?_) _).bind fun failures => Action.idle_ofExcept _
  refine (hpage t.2).bind fun page => (hobjects page.names).bind fun failures => ?_
  dsimp only
  split
  · exact Action.idle_pure _
  · exact Action.idle_pure _

end

namespace Binding

/-- The full name of a bucket tells which one it is. -/
lemma bucketName_injective {a b : String} (h : bucketName a = bucketName b) : a = b :=
  (String.append_right_inj _).1 h

/-- Waiting for a permit changes nothing. -/
lemma idle_acquire {σ : Type} (p : Pacer) : Action.Idle (σ := σ) Ledger.contract l p.acquire := by
  have hnow : Action.Idle (σ := σ) Ledger.contract l (Action.perform World.now) :=
    Action.idle_perform (World.Call.IsQuiet.idle ⟨fun _ h => h, fun _ => rfl⟩)
  have hsleep (d : Span) :
      Action.Idle (σ := σ) Ledger.contract l (Action.perform (World.sleep d)) :=
    Action.idle_perform (World.Call.IsQuiet.idle ⟨fun _ h => h, fun _ => rfl⟩)
  refine hnow.bind fun now => ?_
  dsimp only
  split
  · exact (hsleep _).bind fun _ => hnow.bind fun _ => Action.idle_pure _
  · exact hnow.bind fun _ => Action.idle_pure _

/-- Reading the tags in effect changes nothing.

**Proof sketch.** By induction on the pages that may be read: each takes one listing, a quiet
call. -/
lemma idle_effectiveFrom {σ : Type} (resource : String) (pages : Nat) (token : Option String) :
    Action.Idle (σ := σ) Ledger.contract l (effectiveFrom resource pages token) := by
  induction pages generalizing token with
  | zero => exact Action.idle_pure _
  | succ pages ih =>
    have hlist : Action.Idle (σ := σ) Ledger.contract l
        (Action.perform (World.gcs (.listEffectiveTags resource token))) :=
      Action.idle_perform (World.Call.IsQuiet.idle ⟨fun _ h => h, fun _ => rfl⟩)
    refine hlist.bind ?_
    rintro (e | page)
    · exact Action.idle_pure _
    · dsimp only
      split
      · exact Action.idle_pure _
      · exact (ih _).bind fun values => Action.idle_pure _

/-- Binding a tag touches the bucket only.

**Proof sketch.** A binding is a call about this bucket, as its full name tells it; the tries around
it change nothing more. -/
lemma idle_bindOne {σ : Type} (s : Settings) (bucket value : String)
    (h : l.Owns (.of .gcs bucket)) :
    Action.Idle (σ := σ) Ledger.contract l (bindOne s (bucketName bucket) value) := by
  have hwork : (World.Call.gcs (.createBinding (bucketName bucket) value)).IsWorkOn
      (.of .gcs bucket) := by
    refine ⟨?_, fun _ => rfl⟩
    rintro _ ⟨other, hname, rfl⟩
    rw [bucketName_injective hname]
  have hcall : Action.Idle (σ := σ) Ledger.contract l
      (Action.perform (World.gcs (.createBinding (bucketName bucket) value))) :=
    Action.idle_perform (hwork.idle h)
  refine Backoff.idle_retry _ (hcall.bind ?_)
  rintro (e | _)
  · dsimp only
    split
    · exact Action.idle_pure _
    · split
      · exact Action.idle_pure _
      · exact Action.idle_pure _
  · exact Action.idle_pure _

/-- Binding tags touches the bucket only.

**Proof sketch.** By induction on the values; neither a permit nor a turn is about another
bucket. -/
lemma idle_bindEach {σ : Type} (s : Settings) (bucket : String) (h : l.Owns (.of .gcs bucket))
    (values : List String) (pacer : Pacer) :
    Action.Idle (σ := σ) Ledger.contract l (bindEach s (bucketName bucket) pacer values) := by
  induction values generalizing pacer with
  | nil => exact Action.idle_pure _
  | cons value rest ih =>
    refine (idle_acquire pacer).bind fun pacer => ?_
    refine (idle_bindOne s bucket value h).outcome.bind fun outcome => ?_
    refine (ih pacer).bind fun bound => ?_
    rcases outcome with e | _
    · exact Action.idle_pure _
    · exact Action.idle_pure _

/-- Binding the tags that are not in effect yet touches the bucket only. -/
theorem idle_bind {σ : Type} (s : Settings) (bucket : String) (h : l.Owns (.of .gcs bucket))
    (wanted : List GcpTag) :
    Action.Idle (σ := σ) Ledger.contract l (bind s (bucketName bucket) wanted) := by
  refine (idle_effectiveFrom _ _ _).bind fun inEffect => ?_
  dsimp only
  split
  · exact Action.idle_pure _
  · have hnow : Action.Idle (σ := σ) Ledger.contract l (Action.perform World.now) :=
      Action.idle_perform (World.Call.IsQuiet.idle ⟨fun _ h => h, fun _ => rfl⟩)
    refine Action.Idle.bind (hnow.bind fun now => Action.idle_pure _) fun pacer => ?_
    refine (idle_bindEach s bucket h _ pacer).bind fun bound => ?_
    exact (Action.idle_ofExcept _).bind fun _ => Action.idle_pure _

end Binding

/-- The programs for the steps of a bucket's lifecycle do what the lifecycle expects.

**Proof sketch.** As for S3. Tags are bound by calls about the bucket's full name, which no other
bucket has (`Binding.bucketName_injective`). -/
theorem faithful (b : Bucket) : Ledger.Faithful b.operations (Ledger.effects .gcs) where
  probe l name _ := Action.idle_attempt (keeps_quiet ⟨fun _ h => h, fun _ => rfl⟩)
  create l name := by
    refine Action.keeps_attempt.2 (Prog.keeps_perform.2 ⟨fun _ h => h.elim, ?_⟩)
    rintro r _ rfl
    exact Ledger.record_ofCreation .gcs name r
  harden l name step h := by
    cases step with
    | blockPublicAccess =>
      refine Action.Idle.bind (Action.idle_attempt ?_) fun _ => Action.idle_pure _
      exact keeps_work (c := .gcs (.preventPublicAccess name)) ⟨fun _ h => h, fun _ => rfl⟩ h
    | tag =>
      refine Action.Idle.bind (Action.idle_attempt ?_) fun _ => ?_
      · exact keeps_work (c := .gcs (.setLabels name _)) ⟨fun _ h => h, fun _ => rfl⟩ h
      · split
        · exact Action.idle_pure _
        · exact (Binding.idle_bind _ name h _).bind fun bound => Action.idle_pure _
    | encrypt =>
      change Action.Idle Ledger.contract l (if b.keyId = "" then _ else _)
      split
      · exact Action.idle_pure _
      · refine Action.Idle.bind (Action.idle_attempt ?_) fun _ => Action.idle_pure _
        exact keeps_work (c := .gcs (.setDefaultKey name _)) ⟨fun _ h => h, fun _ => rfl⟩ h
    | abortIncompleteUploads => exact Action.idle_throw _
  empty l name h := idle_empty
    (fun _ => World.Call.IsQuiet.idle ⟨fun _ h => h, fun _ => rfl⟩)
    (fun _ => World.Call.IsWorkOn.idle ⟨fun _ h => h, fun _ => rfl⟩ h)
  delete l name h := by
    refine Action.keeps_attempt.2 (Prog.keeps_perform.2 ⟨?_, ?_⟩)
    · rintro x rfl
      exact h
    · rintro r _ rfl
      exact Ledger.record_ofDeletion .gcs name r
  generate l := Naming.keeps_generate fun _ _ => Naming.storageName_ne_empty
  enables _ := ⟨trivial, trivial, fun _ => trivial⟩
  failed _ := rfl
  created _ _ := rfl
  deleted _ _ := rfl

/-! ## Operations -/

open Storage

variable {t : Session Config}

/-- Looking for the bucket changes nothing but observations. -/
lemma keeps_isPresent {H : Type} {E : Lifecycle.Effects H} {R : H → G → Prop} {h : H}
    (hops : ∀ b : Bucket, Realizes K E R b.operations) (hr : R h g) (hl : E.looks h) :
    Action.Keeps K (isPresent s) t g fun _ t' g' => Observes t t' ∧ R h g' := by
  rw [isPresent, Action.keeps_bind, Action.keeps_get]
  exact keeps_connectedLook (idle_connectBucket s) hops hr hl _

/-- With the name of the bucket in it, the configuration still asks for the bucket. -/
lemma selected_persist (h : t.registry.spec = toSpec (.gcs t.config)) (bucket : String) :
    { t.registry.spec with gcs := some { t.registry.spec.gcs.getD {} with bucket } } =
      toSpec (.gcs { t.config with bucket }) := by
  rw [h]
  rfl

omit [K.Calm g] in
/-- Writing down the project and the location keeps the name of the bucket.

**Proof sketch.** Project and location are written into the block and into the specification one
after the other, each only if it is empty there, so both still have the same block, with the same
name. -/
lemma keeps_persistPlace (b : Bucket) (h : t.registry.spec = toSpec (.gcs t.config)) :
    Action.Keeps K (persistPlace b) t g fun r t' g' =>
      r = .ok () ∧ Renamed (t.wrap .gcs) t.config.bucket (t'.wrap .gcs) ∧ g' = g := by
  have hregion (u : Session Config) (hu : u.registry.spec = toSpec (.gcs u.config)) :
      Action.Keeps K (do
        if (← get).config.region = "" then
          modify fun s => { s with config := { s.config with region := b.location } }
          modifySpec fun spec =>
            { spec with gcs := some { spec.gcs.getD {} with region := b.location } }) u g
        fun r t' g' =>
          r = .ok () ∧ Renamed (u.wrap .gcs) u.config.bucket (t'.wrap .gcs) ∧ g' = g := by
    rw [Action.keeps_bind, Action.keeps_get]
    dsimp only
    split
    · refine ⟨rfl, ⟨?_, rfl, rfl, rfl, rfl, rfl⟩, rfl⟩
      simp only [Session.wrap, hu]
      rfl
    · exact ⟨rfl, ⟨hu, rfl, rfl, rfl, rfl, rfl⟩, rfl⟩
  rw [persistPlace, Action.keeps_bind, Action.keeps_get]
  dsimp only
  split
  · rw [Action.keeps_bind, Action.keeps_modify]
    dsimp only
    rw [Action.keeps_bind, keeps_modifySpec]
    refine Action.Keeps.mono (hregion _ ?_) ?_
    · rw [h]
      rfl
    · rintro r t' g' ⟨hr, hn, hg⟩
      exact ⟨hr,
        ⟨hn.selected, hn.backend, hn.resource, hn.compartment, hn.ownership, hn.applied⟩, hg⟩
  · exact hregion t h

/-- **Creating storage in Google Cloud** keeps a session sound.

**Proof sketch.** As for S3; before the bucket is set up, project and location are written down,
which renames nothing (`keeps_persistPlace`). -/
theorem keeps_create (hl : l.reclaiming = false) (h : Sound (t.wrap .gcs) l) :
    Action.Keeps Ledger.contract (create s) t l fun _ t' l' =>
      Advances (t.wrap .gcs) l (t'.wrap .gcs) l' := by
  rw [create, Action.keeps_bind]
  refine (idle_connectBucket s).keeps ?_
  rintro (e | b)
  · exact h.advances (Agrees.refl _)
  dsimp only
  rw [Action.keeps_bind, Action.keeps_get]
  dsimp only
  rw [Action.keeps_bind]
  refine keeps_ensured (.of_faithful (faithful b)) ⟨rfl, hl⟩ ((faithful b).enables l) ?_
  rintro outcome u l' _ hu hnamed ⟨rfl, hl'⟩
  refine keeps_written h hu ?_ fun t' ht' hname => ?_
  · exact ⟨rfl, ⟨selected_persist h.selected u.name, rfl, rfl, rfl, rfl, rfl⟩, rfl⟩
  · rw [Action.keeps_bind, Action.keeps_ofExcept]
    rcases outcome with e | _
    · exact ht'
    · dsimp only
      rw [Action.keeps_bind]
      refine (keeps_persistPlace b ht'.sound.selected).mono ?_
      rintro r t'' _ ⟨rfl, hr, rfl⟩
      have hname := hr.resource.trans hname
      exact keeps_setUp (faithful b) hl' (ht'.renamed hr) (congrArg (Asset.of .gcs) hname) _ _

/-- **Removing storage in Google Cloud** keeps a session sound, and removes the bucket if it was the
operator's. -/
theorem keeps_remove (hl : l.reclaiming = false) (h : Sound (t.wrap .gcs) l) :
    Action.Keeps Ledger.contract (remove s) t l fun r t' l' =>
      Advances (t.wrap .gcs) l (t'.wrap .gcs) l' ∧ Clears (t.wrap .gcs) r l' := by
  rw [remove, Action.keeps_bind, Action.keeps_get]
  refine keeps_connectedRemoval (idle_connectBucket s) h fun b => ?_
  refine keeps_removal (w := .gcs) hl h (faithful b) fun status l' => ?_
  exact ⟨rfl, ⟨selected_persist h.selected "", rfl, rfl⟩, rfl⟩

end Depot.Gcs
