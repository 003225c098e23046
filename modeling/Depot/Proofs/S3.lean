import Depot.S3.Storage
import Depot.Proofs.Sessions

set_option autoImplicit false

/-!
# Buckets of S3 in the ledger

The operations on a bucket of S3 connect, run a part of the lifecycle with the programs for its
steps, and write the name of the bucket into the session. Connecting leaves everything as it is, the
programs do what the lifecycle expects, and the session stays sound.

## Main results

* `S3.faithful` — the programs for the steps of a bucket's lifecycle do what the lifecycle expects.
* `S3.keeps_create`, `S3.keeps_remove` — creating and removing a bucket keeps a session sound.
-/

namespace Depot.S3

variable {l : Ledger} {G : Type} {K : Contract World G} {g : G} [K.Calm g]

/-! ## Connecting -/

variable (s : Storage.Settings)

/-- Finding the region changes nothing. -/
lemma idle_region : Action.Idle K g region := by
  refine Action.idle_get.bind fun t => ?_
  dsimp only
  split
  · exact Action.idle_pure _
  · exact idle_getInfrastructure.bind fun infra => Action.idle_pure _

/-- Connecting to S3 changes nothing. -/
lemma idle_connectBucket : Action.Idle K g (connectBucket s) := by
  refine idle_getInfrastructure.bind fun infra => ?_
  refine Action.idle_get.bind fun t => ?_
  refine idle_region.bind fun region => ?_
  refine (Credentials.idle_s3 _).bind fun credentials => ?_
  have hconnect (e : Endpoint) : Action.Idle (σ := Storage.Session Config) K g
      (Action.attempt (World.s3 (.connect credentials e))) :=
    Action.idle_attempt (keeps_quiet ⟨fun _ h => h, fun _ => rfl⟩)
  exact (hconnect _).bind fun _ => Action.idle_pure _

/-! ## The lifecycle -/

/-- Deleting objects touches the bucket only. -/
lemma idle_deleteBatches (bucket : String) (h : l.Owns (.of .s3 bucket))
    (batches : List (List Object)) :
    Action.Idle Ledger.contract l (deleteBatches bucket batches) := by
  induction batches with
  | nil => exact Action.idle_pure _
  | cons batch rest ih =>
    have hcall : Action.Idle (σ := Unit) Ledger.contract l
        (Action.attempt (World.s3 (.deleteObjects bucket batch))) :=
      Action.idle_attempt (keeps_work ⟨fun _ h => h, fun _ => rfl⟩ h)
    exact hcall.bind fun left => ih.bind fun failures => Action.idle_pure _

/-- Emptying a bucket touches that one only.

**Proof sketch.** A page is listed by a quiet call and its objects are deleted in batches, which
touch the bucket; the loop repeats that. -/
lemma idle_empty (bucket : String) (h : l.Owns (.of .s3 bucket)) :
    Action.Idle Ledger.contract l (empty bucket) := by
  have hlist (marker : Option Marker) : Action.Idle (σ := Unit) Ledger.contract l
      (Action.attempt (World.s3 (.listVersions bucket marker))) :=
    Action.idle_attempt (keeps_quiet ⟨fun _ h => h, fun _ => rfl⟩)
  refine (Action.idle_loop (fun t => ?_) _).bind fun failures => Action.idle_ofExcept _
  refine (hlist t.2).bind fun page => (idle_deleteBatches bucket h _).bind fun failures => ?_
  dsimp only
  split
  · exact Action.idle_pure _
  · exact Action.idle_pure _

/-- The programs for the steps of a bucket's lifecycle do what the lifecycle expects.

**Proof sketch.** Each setting and each call for emptying is a call about the bucket itself, which
is owned; a creation and a deletion are one call, whose deed is the one that the effects expect. -/
theorem faithful (b : Bucket) : Ledger.Faithful b.operations (Ledger.effects .s3) where
  probe l name _ := Action.idle_attempt (keeps_quiet ⟨fun _ h => h, fun _ => rfl⟩)
  create l name := by
    refine Action.keeps_attempt.2 (Prog.keeps_perform.2 ⟨fun _ h => h.elim, ?_⟩)
    rintro r _ rfl
    exact Ledger.record_ofCreation .s3 name r
  harden l name step h := by
    cases step with
    | blockPublicAccess =>
      refine Action.Idle.bind (Action.idle_attempt ?_) fun _ => Action.idle_pure _
      exact keeps_work (c := .s3 (.putPublicAccessBlock name)) ⟨fun _ h => h, fun _ => rfl⟩ h
    | tag =>
      refine Action.Idle.bind (Action.idle_attempt ?_) fun _ => Action.idle_pure _
      exact keeps_work (c := .s3 (.putBucketTagging name _)) ⟨fun _ h => h, fun _ => rfl⟩ h
    | encrypt =>
      refine Action.Idle.bind (Action.idle_attempt ?_) fun _ => Action.idle_pure _
      exact keeps_work (c := .s3 (.putBucketEncryption name _)) ⟨fun _ h => h, fun _ => rfl⟩ h
    | abortIncompleteUploads =>
      refine Action.Idle.bind (Action.idle_attempt ?_) fun _ => Action.idle_pure _
      exact keeps_work (c := .s3 (.putAbortRule name _ _)) ⟨fun _ h => h, fun _ => rfl⟩ h
  empty l name h := idle_empty name h
  delete l name h := by
    refine Action.keeps_attempt.2 (Prog.keeps_perform.2 ⟨?_, ?_⟩)
    · rintro x rfl
      exact h
    · rintro r _ rfl
      exact Ledger.record_ofDeletion .s3 name r
  generate l := Naming.keeps_generate fun _ _ => Naming.storageName_ne_empty
  enables _ := ⟨trivial, trivial, fun _ => trivial⟩
  failed _ := rfl
  created _ _ := rfl
  deleted _ _ := rfl

/-! ## Operations -/

open Storage

variable {t : Session Config}

/-- Looking for the bucket changes nothing but observations. -/
lemma keeps_isPresent {H : Type} {E : Lifecycle.Effects H} {R : H → G → Prop} {h : H}
    (hops : ∀ b : Bucket, Realizes K E R b.operations) (hr : R h g) (hl : E.looks h) :
    Action.Keeps K (isPresent s) t g fun _ t' g' => Observes t t' ∧ R h g' := by
  rw [isPresent, Action.keeps_bind, Action.keeps_get]
  exact keeps_connectedLook (idle_connectBucket s) hops hr hl _

/-- With the name of the bucket in it, the configuration still asks for the bucket. -/
lemma selected_persist (h : t.registry.spec = toSpec (.s3 t.config)) (bucket : String) :
    { t.registry.spec with s3 := some { t.registry.spec.s3.getD {} with bucket } } =
      toSpec (.s3 { t.config with bucket }) := by
  rw [h]
  rfl

/-- **Creating storage in S3** keeps a session sound.

**Proof sketch.** Until the bucket is found or created nothing changes. Then its name is written
down, by which the session stays sound (`keeps_written`), and a failure ends the operation only
after that; setting up what the session owns changes nothing more. -/
theorem keeps_create (hl : l.reclaiming = false) (h : Sound (t.wrap .s3) l) :
    Action.Keeps Ledger.contract (create s) t l fun _ t' l' =>
      Advances (t.wrap .s3) l (t'.wrap .s3) l' := by
  rw [create, Action.keeps_bind]
  refine (idle_connectBucket s).keeps ?_
  rintro (e | b)
  · exact h.advances (Agrees.refl _)
  dsimp only
  rw [Action.keeps_bind, Action.keeps_get]
  dsimp only
  rw [Action.keeps_bind]
  refine keeps_ensured (.of_faithful (faithful b)) ⟨rfl, hl⟩ ((faithful b).enables l) ?_
  rintro outcome u l' _ hu hnamed ⟨rfl, hl'⟩
  refine keeps_written h hu ?_ fun t' ht' hname => ?_
  · exact ⟨rfl, ⟨selected_persist h.selected u.name, rfl, rfl, rfl, rfl, rfl⟩, rfl⟩
  · rw [Action.keeps_bind, Action.keeps_ofExcept]
    rcases outcome with e | _
    · exact ht'
    · exact keeps_setUp (faithful b) hl' ht' (congrArg (Asset.of .s3) hname) _ _

/-- **Removing storage in S3** keeps a session sound, and removes the bucket if it was the
operator's. -/
theorem keeps_remove (hl : l.reclaiming = false) (h : Sound (t.wrap .s3) l) :
    Action.Keeps Ledger.contract (remove s) t l fun r t' l' =>
      Advances (t.wrap .s3) l (t'.wrap .s3) l' ∧ Clears (t.wrap .s3) r l' := by
  rw [remove, Action.keeps_bind, Action.keeps_get]
  refine keeps_connectedRemoval (idle_connectBucket s) h fun b => ?_
  refine keeps_removal (w := .s3) hl h (faithful b) fun status l' => ?_
  exact ⟨rfl, ⟨selected_persist h.selected "", rfl, rfl⟩, rfl⟩

end Depot.S3
