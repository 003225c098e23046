import Depot.Proofs.Convergence
import Depot.Proofs.Tagging

set_option autoImplicit false

/-!
# Creations that succeed

In surroundings that tell the truth every backend finds what it needs to connect, finds or creates
its resource and sets it up. Nothing is created where nothing was left to be done, since what a
creation looks up, the name, the place or the address, is then in the configuration.

## Main results

* `S3.truthful` and so on — the programs for the steps of a lifecycle tell the truth.
* `S3.ends_isPresent` and so on — storage that exists is found.
* `S3.ends_create` and so on — creating storage succeeds.
-/

namespace Depot

open Storage

/-! ## S3 -/

namespace S3

variable {E : Surroundings} {s : Settings} {needed : Prop} {g : Cloud} {t : Session Config}

/-- The region is known. -/
lemma gives_region : ∃ r, Action.Gives (E.world needed) region t g r := by
  by_cases hc : t.config.region ≠ ""
  · refine ⟨t.config.region, Action.gives_get.bind ?_⟩
    dsimp only
    rw [if_pos hc]
    exact Action.gives_pure _
  · refine ⟨E.infra.awsRegion?.getD defaultRegion, Action.gives_get.bind ?_⟩
    dsimp only
    rw [if_neg hc]
    exact Surroundings.gives_getInfrastructure.bind (Action.gives_pure _)

/-- Connecting succeeds. -/
lemma gives_connectBucket (h : E.Resolves s (.s3 t.config)) :
    ∃ b : Bucket, b.infra = E.infra ∧ Action.Gives (E.world needed) (connectBucket s) t g b := by
  obtain ⟨credentials, hcredentials⟩ := h
  obtain ⟨region, hregion⟩ := gives_region (E := E) (t := t) (g := g)
  refine ⟨⟨E.infra, region, .ofKey t.config.keyId⟩, rfl, ?_⟩
  refine Surroundings.gives_getInfrastructure.bind (Action.gives_get.bind ?_)
  refine hregion.bind ((Surroundings.gives_s3 hcredentials).bind ?_)
  refine Action.Gives.bind (x := ()) (Action.gives_attempt ?_) (Action.gives_pure _)
  exact Surroundings.ends_answered (c := .s3 (.connect _ _)) id (fun _ h => h) rfl

/-- The programs for the steps of a bucket's lifecycle tell the truth.

**Proof sketch.** One case per step. Each is one call of the driver, which tells what the cloud has;
the settings are put on a bucket that is there. -/
theorem truthful {b : Bucket} (hb : b.infra = E.infra) {names : Prop} (hname : names → E.HasName) :
    Truthful E needed (E.site bucketKind names) b.operations where
  probe g name := Surroundings.tells_probe (Action.gives_attempt
    (Surroundings.ends_answered (c := .s3 (.headBucket name)) id (fun _ h => h) rfl))
  create g name hneeded _ := by
    refine Action.ends_attempt.2 (Surroundings.ends_call
      (c := .s3 (.createBucket name b.region)) (fun _ => hneeded) ?_)
    rintro _ rfl
    exact Surroundings.tells_creation
  harden g name step _ hthere _ := by
    have hthere : Asset.of .s3 name ∈ g.assets := hthere
    cases step with
    | blockPublicAccess =>
      exact Surroundings.tells_setting (Surroundings.ends_answered
        (c := .s3 (.putPublicAccessBlock name)) id (fun _ h => h hthere) rfl) nofun
    | tag =>
      exact Surroundings.tells_setting (Surroundings.ends_answered
        (c := .s3 (.putBucketTagging name _)) id (fun _ h => h hthere) rfl) nofun
    | encrypt =>
      exact Surroundings.tells_setting (Surroundings.ends_answered
        (c := .s3 (.putBucketEncryption name _)) id (fun _ h => h hthere) rfl) nofun
    | abortIncompleteUploads =>
      exact Surroundings.tells_setting (Surroundings.ends_answered
        (c := .s3 (.putAbortRule name _ _)) id (fun _ h => h hthere) rfl) nofun
  generate hnames g := Surroundings.tells_generate fun digits => by
    rw [hb]
    exact (hname hnames).storageName _ (by decide) digits

/-- A bucket that exists is found. -/
theorem ends_isPresent (h : Converged E s g (t.wrap .s3)) :
    Action.Ends (E.world needed) (isPresent s) t g fun r t' g' =>
      r = .ok true ∧ Finds t t' ∧ g' = g := by
  have hstanding := h.standing (ne_emptyDir nofun)
  have hname : t.config.bucket ≠ "" := hstanding.named
  obtain ⟨b, hb, hconnect⟩ := gives_connectBucket h.resolves
  refine Action.gives_get.ends_bind ?_
  dsimp only
  rw [if_neg hname]
  have hops : Truthful E needed (E.site bucketKind False) b.operations := truthful hb False.elim
  exact hconnect.ends_bind (ends_resourceExists hops hname hstanding.there)

/-- The name of the bucket is written to both configurations. -/
lemma ends_persist {c : Config} {status : Status} {bucket : String}
    {Q : Except Error Unit → Session Config → Cloud → Prop} :
    Action.Ends (E.world needed) (persist bucket) ⟨c, ⟨toSpec (.s3 c), status⟩⟩ g Q ↔
      Q (.ok ()) ⟨{ c with bucket }, ⟨toSpec (.s3 { c with bucket }), status⟩⟩ g := Iff.rfl

/-- Creating storage in S3 succeeds.

**Proof sketch.** The program is followed: it connects, secures the bucket (`ends_ensured`), writes
the name to both configurations and sets the bucket up. `Places.of_secured` and `ends_setUp` say
what that provides. -/
theorem ends_create (hspec : t.registry.spec = toSpec (.s3 t.config)) (hname : E.HasName)
    (hresolves : E.Resolves s (.s3 t.config))
    (hneeded : ¬ Converged E s g (t.wrap .s3) → needed) :
    Action.Ends (E.world needed) (create s) t g fun r t' g' =>
      r = .ok () ∧ Provides E s (t.wrap .s3) g (t'.wrap .s3) g' := by
  have hdir : (t.wrap .s3).config ≠ emptyDir := ne_emptyDir nofun
  obtain ⟨c, spec, status⟩ := t
  obtain rfl : spec = toSpec (.s3 c) := hspec
  obtain ⟨b, hb, hconnect⟩ := gives_connectBucket hresolves
  have hops : Truthful E needed (E.site bucketKind True) b.operations := truthful hb fun _ => hname
  refine hconnect.ends_bind (Action.gives_get.ends_bind ?_)
  rw [Action.ends_bind]
  refine ends_ensured hops (fun _ => trivial) (needed_of_missing hneeded hdir) trivial
    fun u g' hu => ?_
  dsimp only
  rw [if_pos hu.named, Action.ends_bind, ends_persist]
  dsimp only
  rw [Action.ends_bind, Action.ends_ofExcept]
  refine Action.gives_get.ends_bind ?_
  refine ends_setUp (w := .s3) hops rfl ?_ ?_ hdir hneeded ?_ ?_ rfl
  · rfl
  · refine .of_secured hu hdir rfl (fun _ => ⟨rfl, rfl⟩) rfl rfl rfl rfl hresolves trivial
      trivial ?_
    intro _ hbucket
    exact congrArg (fun bucket => Storage.s3 { c with bucket }) hbucket
  · exact hu.confirms
  · exact hu.applied

end S3

/-! ## Google Cloud -/

namespace Gcs

variable {E : Surroundings} {s : Settings} {needed : Prop} {g : Cloud} {t : Session Config}

/-- A bucket is created and set up for the cluster, in a known place. -/
structure Bucket.IsFor (b : Bucket) (E : Surroundings) (s : Settings) (c : Config) : Prop where
  /-- The cluster is the one of the surroundings. -/
  infra : b.infra = E.infra
  /-- The location is known. -/
  location : b.location ≠ ""
  /-- The project is the one that is found. -/
  project : ∀ r, E.gcs s.credentials = .ok r → c.projectIn E.infra r = .ok b.project

/-- The location is always known.

**Proof sketch.** The region of the configuration is used if there is one, then that of the
infrastructure, which is kept only where it is not empty, and else the default. -/
lemma locationIn_ne_empty (c : Config) (infra : Infrastructure) : c.locationIn infra ≠ "" := by
  rw [Config.locationIn]
  split
  · assumption
  · cases hregion : infra.gcpRegion? with
    | none => exact (by decide : defaultLocation ≠ "")
    | some region =>
      obtain ⟨p, -, hp⟩ := Option.bind_eq_some_iff.1 hregion
      rw [Infrastructure.nonEmpty] at hp
      split at hp
      · cases hp
      · rename_i hne
        cases hp
        exact hne

/-- Connecting succeeds.

**Proof sketch.** The secrets, the project and the connection are there by the hypothesis, one call
each. -/
lemma gives_connectBucket (h : E.Resolves s (.gcs t.config)) :
    ∃ b : Bucket, b.IsFor E s t.config ∧
      Action.Gives (E.world needed) (connectBucket s) t g b := by
  obtain ⟨credentials, project, hcredentials, hproject⟩ := h
  refine ⟨⟨E.infra, project, t.config.locationIn E.infra, t.config.keyId, s.binding⟩,
    ⟨rfl, locationIn_ne_empty _ _, ?_⟩, ?_⟩
  · intro r hr
    rw [hcredentials] at hr
    cases hr
    exact hproject
  · refine Surroundings.gives_getInfrastructure.bind ((Surroundings.gives_gcs hcredentials).bind ?_)
    refine Action.gives_get.bind ((Action.gives_ofExcept hproject).bind ?_)
    refine Action.Gives.bind (x := ()) (Action.gives_attempt ?_) (Action.gives_pure _)
    exact Surroundings.ends_answered (c := .gcs (.connect _ _)) id (fun _ h => h) rfl

/-- Tags and labels are put on a bucket.

**Proof sketch.** The labels are one call. Without tags nothing is left to be told; otherwise the
bucket is the parent that `Binding.ends_bindTags` asks for. -/
lemma tells_tag {b : Bucket} (hb : b.infra = E.infra) {names : Prop} {name : String}
    (hthere : .of .gcs name ∈ g.assets) (hneeded : E.Ready bucketKind g name .tag ∨ needed) :
    Action.Ends (E.world needed) (b.harden name .tag) () g fun r _ g' =>
      (E.site bucketKind names).Tells g (.harden name .tag) r g' := by
  have htags : b.tags = E.wantedTags := by
    rw [Bucket.tags, hb, Surroundings.wantedTags]
  refine Action.Gives.ends_bind (x := ()) (Action.gives_attempt ?_) ?_
  · exact Surroundings.ends_answered (c := .gcs (.setLabels name _)) id (fun _ h => h hthere) rfl
  split
  · rename_i hempty
    rw [htags, List.isEmpty_iff] at hempty
    refine ⟨⟨_, rfl⟩, .refl g, fun _ _ v hv => ?_⟩
    rw [hempty] at hv
    cases hv
  · rw [htags, Action.ends_bind]
    have hparent : g.HasParent (Binding.bucketName name) := ⟨name, rfl, hthere⟩
    refine (Binding.ends_bindTags _ _ (hneeded.imp_left fun h => h rfl rfl) hparent).mono ?_
    rintro _ _ g' ⟨⟨bound, rfl⟩, rfl, hgrows, hbound⟩
    exact ⟨⟨_, rfl⟩, hgrows, fun _ _ => hbound⟩

/-- The programs for the steps of a bucket's lifecycle tell the truth.

**Proof sketch.** As for S3; tagging has a lemma of its own, and encryption is no call where no key
is configured. -/
lemma truthful {b : Bucket} (hb : b.infra = E.infra) {names : Prop} (hname : names → E.HasName) :
    Truthful E needed (E.site bucketKind names) b.operations where
  probe g name := Surroundings.tells_probe (Action.gives_attempt
    (Surroundings.ends_answered (c := .gcs (.bucketPresence name)) id (fun _ h => h) rfl))
  create g name hneeded _ := by
    refine Action.ends_attempt.2 (Surroundings.ends_call
      (c := .gcs (.createBucket b.project name b.location)) (fun _ => hneeded) ?_)
    rintro _ rfl
    exact Surroundings.tells_creation
  harden g name step hstep hthere hready := by
    have hthere : Asset.of .gcs name ∈ g.assets := hthere
    cases step with
    | blockPublicAccess =>
      exact Surroundings.tells_setting (Surroundings.ends_answered
        (c := .gcs (.preventPublicAccess name)) id (fun _ h => h hthere) rfl) nofun
    | tag => exact tells_tag hb hthere hready
    | encrypt =>
      change Action.Ends (E.world needed) (if b.keyId = "" then _ else _) () g _
      split
      · exact ⟨⟨_, rfl⟩, .refl g, nofun⟩
      · exact Surroundings.tells_setting (Surroundings.ends_answered
          (c := .gcs (.setDefaultKey name b.keyId)) id (fun _ h => h hthere) rfl) nofun
    | abortIncompleteUploads =>
      exact absurd hstep (by decide : Hardening.abortIncompleteUploads ∉ bucketKind.hardening)
  generate hnames g := Surroundings.tells_generate fun digits => by
    rw [hb]
    exact (hname hnames).storageName _ (by decide) digits

/-- A bucket that exists is found. -/
lemma ends_isPresent (h : Converged E s g (t.wrap .gcs)) :
    Action.Ends (E.world needed) (isPresent s) t g fun r t' g' =>
      r = .ok true ∧ Finds t t' ∧ g' = g := by
  have hstanding := h.standing (ne_emptyDir nofun)
  have hname : t.config.bucket ≠ "" := hstanding.named
  obtain ⟨b, hb, hconnect⟩ := gives_connectBucket h.resolves
  refine Action.gives_get.ends_bind ?_
  dsimp only
  rw [if_neg hname]
  have hops : Truthful E needed (E.site bucketKind False) b.operations :=
    truthful hb.infra False.elim
  exact hconnect.ends_bind (ends_resourceExists hops hname hstanding.there)

/-- A configuration with the place of a bucket where it leaves that open. -/
def Config.placed (c : Config) (b : Bucket) : Config :=
  { c with
    projectId := if c.projectId = "" then b.project else c.projectId
    region := if c.region = "" then b.location else c.region }

/-- Once the place is in the configuration, nothing else is found.

**Proof sketch.** The location is not empty, and the project is the one that the bucket was found
with, whether it was configured, written by now or in the credentials. -/
lemma completes_placed {c : Config} {b : Bucket} (hb : b.IsFor E s c) :
    E.Completes s (.gcs (c.placed b)) := by
  refine ⟨?_, fun r hr => ?_⟩
  · change (if c.region = "" then b.location else c.region) ≠ ""
    split
    · exact hb.location
    · assumption
  · have hproject := hb.project r hr
    rw [Config.projectIn] at hproject ⊢
    by_cases hc : c.projectId = ""
    · by_cases hp : b.project = ""
      · simpa [Config.placed, hc, hp] using hproject
      · simp [Config.placed, hc, hp]
    · simp [Config.placed, hc]

/-- A configuration in which the place is stays as it is. -/
lemma placed_of_completes {c : Config} {b : Bucket} (hb : b.IsFor E s c)
    (hc : E.Completes s (.gcs c)) (hr : ∃ r, E.gcs s.credentials = .ok r) : c.placed b = c := by
  obtain ⟨r, hr⟩ := hr
  have hproject : b.project = c.projectId :=
    Except.ok.inj ((hb.project r hr).symm.trans (hc.2 r hr))
  simp [Config.placed, hproject, hc.1]

/-- The name of the bucket is written to both configurations. -/
lemma ends_persist {c : Config} {status : Status} {bucket : String}
    {Q : Except Error Unit → Session Config → Cloud → Prop} :
    Action.Ends (E.world needed) (persist bucket) ⟨c, ⟨toSpec (.gcs c), status⟩⟩ g Q ↔
      Q (.ok ()) ⟨{ c with bucket }, ⟨toSpec (.gcs { c with bucket }), status⟩⟩ g := Iff.rfl

/-- The place is written to both configurations.

**Proof sketch.** The four cases of what was empty are those of `Config.placed`. -/
lemma ends_persistPlace {c : Config} {status : Status} {b : Bucket}
    {Q : Except Error Unit → Session Config → Cloud → Prop}
    (h : Q (.ok ()) ⟨c.placed b, ⟨toSpec (.gcs (c.placed b)), status⟩⟩ g) :
    Action.Ends (E.world needed) (persistPlace b) ⟨c, ⟨toSpec (.gcs c), status⟩⟩ g Q := by
  rw [persistPlace]
  refine Action.gives_get.ends_bind ?_
  dsimp only
  split
  · rename_i hp
    rw [Action.ends_bind, Action.ends_modify]
    dsimp only
    rw [Action.ends_bind, ends_modifySpec]
    refine Action.gives_get.ends_bind ?_
    dsimp only
    split
    · rename_i hr
      rw [Config.placed, if_pos hp, if_pos hr] at h
      exact h
    · rename_i hr
      rw [Config.placed, if_pos hp, if_neg hr] at h
      exact h
  · rename_i hp
    refine Action.gives_get.ends_bind ?_
    dsimp only
    split
    · rename_i hr
      rw [Config.placed, if_neg hp, if_pos hr] at h
      exact h
    · rename_i hr
      rw [Config.placed, if_neg hp, if_neg hr] at h
      exact h

/-- Creating storage in Google Cloud succeeds.

**Proof sketch.** As for S3. The place is written as well; in a converged session it is the one that
the configuration has, by `placed_of_completes`. -/
lemma ends_create (hspec : t.registry.spec = toSpec (.gcs t.config)) (hname : E.HasName)
    (hresolves : E.Resolves s (.gcs t.config))
    (hneeded : ¬ Converged E s g (t.wrap .gcs) → needed) :
    Action.Ends (E.world needed) (create s) t g fun r t' g' =>
      r = .ok () ∧ Provides E s (t.wrap .gcs) g (t'.wrap .gcs) g' := by
  have hdir : (t.wrap .gcs).config ≠ emptyDir := ne_emptyDir nofun
  obtain ⟨c, spec, status⟩ := t
  obtain rfl : spec = toSpec (.gcs c) := hspec
  obtain ⟨r, -, hr, -⟩ := id hresolves
  obtain ⟨b, hb, hconnect⟩ := gives_connectBucket hresolves
  have hops : Truthful E needed (E.site bucketKind True) b.operations :=
    truthful hb.infra fun _ => hname
  refine hconnect.ends_bind (Action.gives_get.ends_bind ?_)
  rw [Action.ends_bind]
  refine ends_ensured hops (fun _ => trivial) (needed_of_missing hneeded hdir) trivial
    fun u g' hu => ?_
  -- The place does not depend on the name of the bucket.
  have hb' : b.IsFor E s { c with bucket := u.name } := ⟨hb.infra, hb.location, hb.project⟩
  have hcompletes := completes_placed hb'
  dsimp only
  rw [if_pos hu.named, Action.ends_bind, ends_persist]
  dsimp only
  rw [Action.ends_bind, Action.ends_ofExcept]
  dsimp only
  rw [Action.ends_bind]
  refine ends_persistPlace (Action.gives_get.ends_bind ?_)
  refine ends_setUp (w := .gcs) hops rfl ?_ ?_ hdir hneeded ?_ ?_ rfl
  · rfl
  · refine .of_secured hu hdir rfl (fun _ => ⟨rfl, rfl⟩) rfl rfl rfl rfl
      ⟨r, _, hr, hcompletes.2 r hr⟩ hcompletes trivial ?_
    intro ha hbucket
    have hplaced : { c with bucket := u.name }.placed b = c.placed b :=
      congrArg (fun bucket => { c with bucket }.placed b) hbucket
    exact congrArg Storage.gcs (hplaced.trans (placed_of_completes hb ha.completes ⟨r, hr⟩))
  · exact hu.confirms
  · exact hu.applied

end Gcs

/-! ## Swift -/

namespace Swift

variable {E : Surroundings} {s : Settings} {needed : Prop} {g : Cloud} {t : Session Config}

/-- Connecting succeeds. -/
lemma gives_connect {r : Credentials} (h : E.swift s.credentials = .ok r) :
    Action.Gives (E.world needed) (connect s) t g (t.config.override r) := by
  have hcredentials : Action.Gives (E.world needed) (credentials s) t g (t.config.override r) :=
    (Surroundings.gives_swift h).bind (Action.gives_get.bind (Action.gives_pure _))
  refine hcredentials.bind (Action.Gives.bind (x := ()) (Action.gives_attempt ?_)
    (Action.gives_pure _))
  exact Surroundings.ends_answered (c := .swift (.connect _)) id (fun _ h => h) rfl

/-- The programs for the steps of a container's lifecycle tell the truth.

**Proof sketch.** As for S3, without settings. -/
lemma truthful {infraName : String} {names : Prop}
    (hname : names → E.HasName ∧ infraName = E.infra.name) :
    Truthful E needed (E.site containerKind names) (operations infraName) where
  probe g name := Surroundings.tells_probe (Action.gives_attempt
    (Surroundings.ends_answered (c := .swift (.containerPresence name)) id (fun _ h => h) rfl))
  create g name hneeded _ := by
    refine Action.ends_attempt.2 (Surroundings.ends_call
      (c := .swift (.createContainer name)) (fun _ => hneeded) ?_)
    rintro _ rfl
    exact Surroundings.tells_creation
  harden g name step hstep := nomatch hstep
  generate hnames g := Surroundings.tells_generate fun digits => by
    obtain ⟨hletter, rfl⟩ := hname hnames
    exact hletter.storageName _ (by decide) digits

/-- A container that exists is found. -/
lemma ends_isPresent (h : Converged E s g (t.wrap .swift)) :
    Action.Ends (E.world needed) (isPresent s) t g fun r t' g' =>
      r = .ok true ∧ Finds t t' ∧ g' = g := by
  have hstanding := h.standing (ne_emptyDir nofun)
  have hname : t.config.container ≠ "" := hstanding.named
  obtain ⟨r, hr⟩ := h.resolves
  refine Action.gives_get.ends_bind ?_
  dsimp only
  rw [if_neg hname]
  have hops : Truthful E needed (E.site containerKind False) (operations "") := truthful False.elim
  exact (gives_connect hr).ends_bind (ends_resourceExists hops hname hstanding.there)

/-- The configuration is changed in both places. -/
lemma ends_persist {c : Config} {status : Status} {f : Config → Config}
    {Q : Except Error Unit → Session Config → Cloud → Prop} :
    Action.Ends (E.world needed) (persist f) ⟨c, ⟨toSpec (.swift c), status⟩⟩ g Q ↔
      Q (.ok ()) ⟨f c, ⟨toSpec (.swift (f c)), status⟩⟩ g := Iff.rfl

/-- Once the address of the identity service is in the configuration, nothing else is found. -/
lemma completes_located {c c' : Config} {r : Credentials} (hr : E.swift s.credentials = .ok r)
    (hc : c'.authUrl = firstOf c.authUrl (c.override r).authUrl) :
    E.Completes s (.swift c') := by
  intro r' hr'
  rw [hr] at hr'
  cases hr'
  simp only [Config.override, hc]
  by_cases ha : c.authUrl = ""
  · by_cases hb : r.authUrl = "" <;> simp [firstOf, ha, hb]
  · simp [firstOf, ha]

/-- A configuration in which the address is stays as it is. -/
lemma located_of_completes {c : Config} {r : Credentials} (hr : E.swift s.credentials = .ok r)
    (hc : E.Completes s (.swift c)) : firstOf c.authUrl (c.override r).authUrl = c.authUrl := by
  rw [hc r hr]
  exact ite_self _

/-- Creating storage in Swift succeeds.

**Proof sketch.** As for S3. There are no settings, and the address of the identity service is
written as well; a converged session has it. -/
lemma ends_create (hspec : t.registry.spec = toSpec (.swift t.config)) (hname : E.HasName)
    (hresolves : E.Resolves s (.swift t.config))
    (hneeded : ¬ Converged E s g (t.wrap .swift) → needed) :
    Action.Ends (E.world needed) (create s) t g fun r t' g' =>
      r = .ok () ∧ Provides E s (t.wrap .swift) g (t'.wrap .swift) g' := by
  have hdir : (t.wrap .swift).config ≠ emptyDir := ne_emptyDir nofun
  obtain ⟨c, spec, status⟩ := t
  obtain rfl : spec = toSpec (.swift c) := hspec
  obtain ⟨r, hr⟩ := id hresolves
  have hops : Truthful E needed (E.site containerKind True) (operations E.infra.name) :=
    truthful fun _ => ⟨hname, rfl⟩
  refine Surroundings.gives_getInfrastructure.ends_bind ((gives_connect hr).ends_bind ?_)
  refine Action.gives_get.ends_bind ?_
  rw [Action.ends_bind]
  refine ends_ensured hops (fun _ => trivial) (needed_of_missing hneeded hdir) trivial
    fun u g' hu => ?_
  dsimp only
  rw [if_pos hu.named, Action.ends_bind, ends_persist]
  dsimp only
  rw [Action.ends_bind, Action.ends_ofExcept]
  refine Action.gives_get.ends_bind ?_
  refine ends_recorded (w := .swift) rfl ?_ ?_ ?_ rfl
  · refine .of_secured hu hdir rfl (fun _ => ⟨rfl, rfl⟩) rfl rfl rfl rfl hresolves ?_ trivial ?_
    · exact completes_located hr rfl
    · intro ha hcontainer
      have hlocated : firstOf c.authUrl (c.override r).authUrl = c.authUrl :=
        located_of_completes hr ha.completes
      change Storage.swift { c with container := u.name, authUrl := _ } = Storage.swift c
      rw [hlocated]
      exact congrArg (fun container => Storage.swift { c with container }) hcontainer
  · exact hu.confirms
  · exact hu.applied

end Swift

/-! ## Azure -/

namespace Azure

variable {E : Surroundings} {s : Settings} {needed : Prop} {g : Cloud} {t : Session Config}

/-- The cloud is known. -/
lemma gives_environmentOf {e : Environment}
    (h : Environment.ofName (t.config.cloudIn E.infra) = .ok e) :
    Action.Gives (E.world needed) environmentOf t g e := by
  rw [Config.cloudIn] at h
  refine Action.gives_get.bind ?_
  dsimp only
  split
  · rename_i hc
    rw [if_pos hc] at h
    exact Action.gives_ofExcept h
  · rename_i hc
    rw [if_neg hc] at h
    exact Surroundings.gives_getInfrastructure.bind (Action.gives_ofExcept h)

/-- Connecting succeeds. -/
lemma gives_connect (h : E.Resolves s (.azure t.config)) :
    ∃ r, Action.Gives (E.world needed) (connect s) t g r := by
  obtain ⟨⟨r, hr⟩, e, he⟩ := h
  refine ⟨r, (Surroundings.gives_azure hr).bind ((gives_environmentOf he).bind ?_)⟩
  refine Action.Gives.bind (x := ()) (Action.gives_attempt ?_) (Action.gives_pure _)
  exact Surroundings.ends_answered (c := .azure (.connect _ _)) id (fun _ h => h) rfl

/-- Connecting succeeds for the cluster. -/
lemma gives_connectAccount (h : E.Resolves s (.azure t.config)) :
    ∃ a : Account, a.infra = E.infra ∧
      Action.Gives (E.world needed) (connectAccount s) t g a := by
  obtain ⟨r, hr⟩ := gives_connect h
  refine ⟨⟨E.infra, r.identity.region, t.config.container⟩, rfl, ?_⟩
  refine Surroundings.gives_getInfrastructure.bind (hr.bind ?_)
  exact Action.gives_get.bind (Action.gives_pure _)

/-- The programs for the steps of an account's lifecycle tell the truth.

**Proof sketch.** As for S3; the names are those of storage accounts. -/
lemma truthful {a : Account} (ha : a.infra = E.infra) {names : Prop} (hname : names → E.HasName) :
    Truthful E needed (E.site accountKind names) a.operations where
  probe g name := Surroundings.tells_probe (Action.gives_attempt
    (Surroundings.ends_answered (c := .azure (.accountPresence name)) id (fun _ h => h) rfl))
  create g name hneeded _ := by
    refine Action.ends_attempt.2 (Surroundings.ends_call
      (c := .azure (.createAccount name _)) (fun _ => hneeded) ?_)
    rintro _ rfl
    exact Surroundings.tells_creation
  harden g name step hstep hthere _ := by
    have hthere : Asset.of .azure name ∈ g.assets := hthere
    cases step with
    | blockPublicAccess =>
      exact Surroundings.tells_setting (Surroundings.ends_answered
        (c := .azure (.disablePublicAccess name)) id (fun _ h => h hthere) rfl) nofun
    | tag =>
      exact Surroundings.tells_setting (Surroundings.ends_answered
        (c := .azure (.updateAccountTags name _)) id (fun _ h => h hthere) rfl) nofun
    | encrypt => exact absurd hstep (by decide : Hardening.encrypt ∉ accountKind.hardening)
    | abortIncompleteUploads =>
      exact absurd hstep (by decide : Hardening.abortIncompleteUploads ∉ accountKind.hardening)
  generate hnames g := Surroundings.tells_generate fun digits => by
    rw [ha]
    exact (hname hnames).accountName digits

/-- The programs for the steps of a container's lifecycle tell the truth.

**Proof sketch.** As for S3, for the containers of one account that is there. -/
lemma truthful_container {infraName account : String} {names : Prop}
    (hname : names → E.HasName ∧ infraName = E.infra.name) :
    Truthful E needed (containerSite account names) (containerOperations infraName account) where
  probe g name := by
    refine Action.Ends.mono (Action.gives_attempt (Surroundings.ends_answered
      (c := .azure (.containerPresence account name)) id (fun _ h => h) rfl)) ?_
    rintro _ _ _ ⟨rfl, -, rfl⟩
    exact ⟨fun h => congrArg Except.ok (if_pos h), fun h => congrArg Except.ok (if_neg h), rfl⟩
  create g name hneeded haccount := by
    refine Action.ends_attempt.2 (Surroundings.ends_call
      (c := .azure (.createContainer account name)) (fun _ => hneeded) fun x hx hfree => ?_)
    obtain rfl := hx haccount
    have hcreation : g.containerCreation account name = .created := if_neg hfree
    rw [hcreation]
    exact ⟨rfl, ⟨fun _ h => h, fun _ h => List.mem_cons_of_mem _ h, fun _ h => h⟩,
      List.mem_cons_self⟩
  harden g name step hstep := nomatch hstep
  generate hnames g := by
    obtain ⟨hletter, rfl⟩ := hname hnames
    refine (Surroundings.ends_generate fun digits =>
      hletter.storageName _ (by decide) digits).mono ?_
    rintro _ _ _ ⟨⟨name, rfl, hne, hfree⟩, rfl⟩
    exact ⟨⟨name, rfl, hne, hfree.containers account⟩, rfl⟩

/-- A container that exists is found. -/
lemma ends_isPresent (h : Converged E s g (t.wrap .azure)) :
    Action.Ends (E.world needed) (isPresent s) t g fun r t' g' =>
      r = .ok true ∧ Finds t t' ∧ g' = g := by
  have hstanding := h.standing (ne_emptyDir nofun)
  have haccount : t.config.accountName ≠ "" := hstanding.named
  obtain ⟨hcontainer, hthere⟩ : t.config.container ≠ "" ∧ _ := hstanding.container
  obtain ⟨r, hr⟩ := gives_connect h.resolves
  refine Action.gives_get.ends_bind ?_
  dsimp only
  rw [if_neg (by simp [haccount, hcontainer])]
  have hops : Truthful E needed (containerSite t.config.accountName False)
      (containerOperations "" t.config.accountName) := truthful_container False.elim
  exact hr.ends_bind (ends_resourceExists hops hcontainer hthere)

/-- The name of the account is written to both configurations. -/
lemma ends_persistAccount {c : Config} {status : Status} {accountName : String}
    {Q : Except Error Unit → Session Config → Cloud → Prop} :
    Action.Ends (E.world needed) (persistAccount accountName) ⟨c, ⟨toSpec (.azure c), status⟩⟩ g Q ↔
      Q (.ok ()) ⟨{ c with accountName }, ⟨toSpec (.azure { c with accountName }), status⟩⟩ g :=
  Iff.rfl

/-- The name of the container is written to both configurations. -/
lemma ends_persistContainer {c : Config} {status : Status} {container : String}
    {Q : Except Error Unit → Session Config → Cloud → Prop} :
    Action.Ends (E.world needed) (persistContainer container) ⟨c, ⟨toSpec (.azure c), status⟩⟩ g Q ↔
      Q (.ok ()) ⟨{ c with container }, ⟨toSpec (.azure { c with container }), status⟩⟩ g :=
  Iff.rfl

/-- Finding or creating the container in an account that exists succeeds.

**Proof sketch.** The container is secured by the same lemma as the account, and its name is written
to both configurations; the account's owner is put back. -/
lemma ends_ensureContainer (hname : E.HasName) {c : Config} {status : Status} {account : String}
    (haccount : .of .azure account ∈ g.assets)
    (hneeded : c.container = "" ∨ (account, c.container) ∉ g.containers → needed) :
    Action.Ends (E.world needed) (ensureContainer s E.infra.name account)
      ⟨c, ⟨toSpec (.azure c), status⟩⟩ g fun r t' g' => r = .ok () ∧
        ∃ v, Lifecycle.Secured (containerSite account True) ⟨c.container, status⟩ g v g' ∧
          t' = ⟨{ c with container := v.name }, ⟨toSpec (.azure { c with container := v.name }),
            { v.status with ownership := status.ownership }⟩⟩ := by
  have hops : Truthful E needed (containerSite account True)
      (containerOperations E.infra.name account) := truthful_container fun _ => ⟨hname, rfl⟩
  refine Action.gives_get.ends_bind ?_
  dsimp only
  refine Action.gives_get.ends_bind ?_
  rw [Action.ends_bind]
  refine ends_ensured hops (fun _ => trivial) hneeded haccount fun v g' hv => ?_
  dsimp only
  rw [Action.ends_bind, ends_modifyStatus]
  dsimp only
  rw [if_pos hv.named, Action.ends_bind, ends_persistContainer]
  exact ⟨rfl, v, hv, rfl⟩

/-- Creating storage in Azure succeeds.

**Proof sketch.** As for S3, with the container secured after the account and in it. In a converged
session both names are kept, so the configuration is too. -/
lemma ends_create (hspec : t.registry.spec = toSpec (.azure t.config)) (hname : E.HasName)
    (hresolves : E.Resolves s (.azure t.config))
    (hneeded : ¬ Converged E s g (t.wrap .azure) → needed) :
    Action.Ends (E.world needed) (create s) t g fun r t' g' =>
      r = .ok () ∧ Provides E s (t.wrap .azure) g (t'.wrap .azure) g' := by
  have hdir : (t.wrap .azure).config ≠ emptyDir := ne_emptyDir nofun
  obtain ⟨c, spec, status⟩ := t
  obtain rfl : spec = toSpec (.azure c) := hspec
  obtain ⟨a, ha, hconnect⟩ := gives_connectAccount hresolves
  have hops : Truthful E needed (E.site accountKind True) a.operations := truthful ha fun _ => hname
  refine hconnect.ends_bind (Action.gives_get.ends_bind ?_)
  rw [Action.ends_bind]
  refine ends_ensured hops (fun _ => trivial) (needed_of_missing hneeded hdir) trivial
    fun u g' hu => ?_
  -- The container is looked for after the account, and in the account that was found.
  have hcontainer : c.container = "" ∨ (u.name, c.container) ∉ g'.containers → needed := by
    refine fun hmissing => hneeded fun hc => ?_
    have hstanding := hc.standing hdir
    obtain ⟨hnamed, hthere⟩ : c.container ≠ "" ∧ (c.accountName, c.container) ∈ g.containers :=
      hstanding.container
    have haccount : u.name = c.accountName := hu.name hstanding.named
    rw [haccount] at hmissing
    exact hmissing.elim hnamed fun h => h (hu.grows.containers hthere)
  dsimp only
  rw [if_pos hu.named, Action.ends_bind, ends_persistAccount]
  dsimp only
  rw [Action.ends_bind, Action.ends_ofExcept]
  dsimp only
  rw [Action.ends_bind, ha]
  refine (ends_ensureContainer (c := { c with accountName := u.name }) hname hu.there
    hcontainer).mono ?_
  rintro _ _ g'' ⟨rfl, v, hv, rfl⟩
  refine Action.gives_get.ends_bind ?_
  refine ends_setUp (w := .azure) hops rfl ?_ ?_ hdir hneeded ?_ ?_ rfl
  · rfl
  · refine .of_secured (hu.grow hv.grows) hdir rfl (fun _ => ⟨rfl, rfl⟩) rfl rfl rfl rfl hresolves
      trivial ⟨hv.named, hv.there⟩ ?_
    intro hc haccount
    have hcontainer : v.name = c.container := hv.name (hc.standing hdir).container.1
    change Storage.azure { c with accountName := u.name, container := v.name } = Storage.azure c
    rw [hcontainer]
    exact congrArg (fun accountName => Storage.azure { c with accountName }) haccount
  · exact hu.confirms.again (hv.confirms.congr rfl rfl)
  · exact hv.applied.trans hu.applied

end Azure

/-! ## Volumes -/

namespace Filesystem

variable {E : Surroundings} {s : Settings} {needed : Prop} {g : Cloud} {t : Session Config}

/-- A claim is there if it exists. -/
lemma ends_claim? {σ : Type} {s : σ} (name : String) :
    Action.Ends (E.world needed) (claim? name) s g fun r s' g' =>
      (∃ claim, r = .ok claim ∧ (claim.isSome ↔ .of .filesystem name ∈ g.assets)) ∧
        s' = s ∧ g' = g := by
  refine Action.ends_attempt.2 (Surroundings.ends_call
    (c := .cluster (.getClaim Credentials.operatorNamespace name)) (fun h => h.elim) fun x hx => ?_)
  refine ⟨hx, rfl, ?_⟩
  change g.record (if _ then _ else _) = g
  split
  · split <;> rfl
  · rfl

/-- The programs for the steps of a claim's lifecycle tell the truth, as long as no name is made up.

**Proof sketch.** A look asks the cluster for the claim; a creation that finds the name in use is
told from other errors by what the cluster answers. -/
lemma truthful : Truthful E needed (E.site claimKind False) operations where
  probe g name := by
    refine Action.ends_bind.2 ((ends_claim? name).mono ?_)
    rintro _ _ _ ⟨⟨claim, rfl, hclaim⟩, rfl, rfl⟩
    refine ⟨fun h => ?_, fun h => ?_, rfl⟩
    · exact congrArg Except.ok (if_pos (hclaim.2 h))
    · exact congrArg Except.ok (if_neg fun hsome => h (hclaim.1 hsome))
  create g name hneeded _ := by
    refine Action.ends_bind.2 (Action.ends_perform.2 (Surroundings.ends_call
      (c := .cluster (.createClaim Credentials.operatorNamespace (newClaim name)))
      (fun _ => hneeded) fun x hx => ?_))
    by_cases hthere : Asset.of .filesystem name ∈ g.assets
    · obtain ⟨e, rfl, he⟩ := (if_pos hthere).mp hx
      dsimp only
      rw [he, Bool.or_true, if_pos rfl]
      exact fun hfree => absurd hthere hfree
    · obtain rfl := (if_neg hthere).mp hx
      exact fun _ => ⟨rfl, ⟨fun _ h => List.mem_cons_of_mem _ h, fun _ h => h, fun _ h => h⟩,
        List.mem_cons_self⟩
  harden g name step hstep := nomatch hstep
  generate hnames := hnames.elim

/-- A volume that exists is found. -/
lemma ends_isPresent (h : Converged E s g (t.wrap .filesystem)) :
    Action.Ends (E.world needed) isPresent t g fun r t' g' =>
      r = .ok true ∧ Finds t t' ∧ g' = g := by
  obtain ⟨⟨claim⟩, registry⟩ := t
  refine Action.gives_get.ends_bind ?_
  cases claim with
  | none =>
    refine Action.ends_bind.2 ((ends_observe _ _).mono ?_)
    rintro _ t' _ ⟨rfl, ht, rfl⟩
    exact ⟨rfl, ht, rfl⟩
  | some name =>
    have hstanding := h.standing nofun
    exact ends_resourceExists truthful hstanding.named hstanding.there

/-- Recognising the default claim changes the owner at most.

**Proof sketch.** The three cases of the lookup set the owner or leave it. -/
lemma ends_reclaim :
    Action.Ends (E.world needed) reclaim t g fun r t' g' =>
      r = .ok () ∧ (∃ ownership, t' = { t with registry.status.ownership := ownership }) ∧
        g' = g := by
  refine Action.gives_get.ends_bind ?_
  dsimp only
  split
  · refine Action.ends_bind.2 ((ends_claim? defaultClaim).mono ?_)
    rintro _ _ _ ⟨⟨claim, rfl, -⟩, rfl, rfl⟩
    rcases claim with _ | claim
    · exact ⟨rfl, ⟨_, rfl⟩, rfl⟩
    · dsimp only
      split
      · exact ⟨rfl, ⟨_, rfl⟩, rfl⟩
      · exact ⟨rfl, ⟨_, rfl⟩, rfl⟩
  · exact ⟨rfl, ⟨_, rfl⟩, rfl⟩

/-- The name of the claim is written to both configurations. -/
lemma ends_persist {c : Config} {status : Status} {name : String}
    {Q : Except Error Unit → Session Config → Cloud → Prop} :
    Action.Ends (E.world needed) (persist name) ⟨c, ⟨toSpec (.filesystem c), status⟩⟩ g Q ↔
      Q (.ok ())
        ⟨{ claim := some name }, ⟨toSpec (.filesystem { claim := some name }), status⟩⟩ g :=
  Iff.rfl

/-- Finding or creating the claim of a name succeeds.

**Proof sketch.** The claim is secured, its name written and the configuration recorded, with no
settings in between. -/
lemma ends_ensureClaim {c : Config} {claim name : String} {status : Status}
    {ownership : Option Ownership} (hc : c.claim = some claim) (hname : name ≠ "")
    (hsubject : Converged E s g ⟨.filesystem c, ⟨toSpec (.filesystem c), status⟩⟩ →
      name = claim ∧ ownership = status.ownership)
    (hneeded : ¬ Converged E s g ⟨.filesystem c, ⟨toSpec (.filesystem c), status⟩⟩ → needed) :
    Action.Ends (E.world needed) (do
      let x ← onResource operations name (Lifecycle.ensure claimKind s.wait)
      persist x.2
      Action.ofExcept x.1
      apply) ⟨c, ⟨toSpec (.filesystem c), { status with ownership }⟩⟩ g fun r t' g' => r = .ok () ∧
        Provides E s ⟨.filesystem c, ⟨toSpec (.filesystem c), status⟩⟩ g
          (t'.wrap .filesystem) g' := by
  obtain rfl : c = { claim := some claim } := congrArg Config.mk hc
  have hmissing : name = "" ∨ .of .filesystem name ∉ g.assets → needed := by
    refine fun hmissing => hneeded fun ha => ?_
    obtain ⟨rfl, -⟩ := hsubject ha
    exact hmissing.elim hname fun h => h (ha.standing nofun).there
  rw [Action.ends_bind]
  refine ends_ensured truthful (fun h => absurd h hname) hmissing trivial fun u g' hu => ?_
  dsimp only
  rw [Action.ends_bind, ends_persist]
  dsimp only
  rw [Action.ends_bind, Action.ends_ofExcept]
  refine Action.gives_get.ends_bind ?_
  refine ends_recorded (w := .filesystem) rfl ?_ ?_ ?_ rfl
  · refine .of_secured hu nofun rfl hsubject rfl rfl rfl rfl trivial trivial trivial ?_
    intro _ hclaim
    exact congrArg (fun claim => Storage.filesystem { claim := some claim }) hclaim
  · exact hu.confirms.congr rfl rfl
  · exact hu.applied

/-- Creating storage in a volume succeeds.

**Proof sketch.** Without a claim the observation alone is recorded. With one it is ensured under
its name, or under the default name, for which no converged session stands. -/
lemma ends_create (hspec : t.registry.spec = toSpec (.filesystem t.config))
    (hneeded : ¬ Converged E s g (t.wrap .filesystem) → needed) :
    Action.Ends (E.world needed) (create s) t g fun r t' g' =>
      r = .ok () ∧ Converged E s g' (t'.wrap .filesystem) ∧
        (Converged E s g (t.wrap .filesystem) →
          Unchanged (t.wrap .filesystem) (t'.wrap .filesystem)) := by
  obtain ⟨⟨claim⟩, spec, status⟩ := t
  obtain rfl : spec = toSpec (.filesystem ⟨claim⟩) := hspec
  refine Action.gives_get.ends_bind ?_
  cases claim with
  | none =>
    refine Action.ends_bind.2 ((ends_observe _ _).mono ?_)
    rintro _ ⟨config, spec, status'⟩ _ ⟨rfl, ht, rfl⟩
    obtain rfl : config = ⟨none⟩ := ht.config
    obtain rfl : spec = toSpec emptyDir := ht.spec
    refine Action.gives_get.ends_bind ⟨rfl, ⟨rfl, ?_, trivial, trivial, ?_, ?_⟩, fun ha => ?_⟩
    · exact block?_put_self emptyDir _
    · exact (ht.confirms.congr rfl rfl).holds _ List.mem_cons_self
    · exact fun hdir => absurd rfl hdir
    · refine ⟨rfl, rfl, ?_, ht.ownership, ?_⟩
      · exact (congrArg emptyDir.put ht.applied).trans (put_eq_self ha.applied)
      · refine (ht.confirms.congr rfl rfl).same fun k hk => ?_
        rw [List.mem_singleton.1 hk]
        exact ha.known
  | some claim =>
    dsimp only
    split
    · rename_i hclaim
      obtain rfl : claim = "" := hclaim
      rw [Action.ends_bind]
      refine ends_reclaim.mono ?_
      rintro _ _ _ ⟨rfl, ⟨ownership, rfl⟩, rfl⟩
      dsimp only
      refine (ends_ensureClaim rfl (by decide) ?_ hneeded).mono ?_
      -- Whose the default claim is does not matter: nothing without a name has converged.
      · exact fun ha => absurd rfl (ha.standing nofun).named
      · rintro _ t' g' ⟨rfl, h⟩
        exact ⟨rfl, h.converged, fun ha => h.unchanged ha nofun⟩
    · rename_i hclaim
      refine (ends_ensureClaim rfl hclaim (fun _ => ⟨rfl, rfl⟩) hneeded).mono ?_
      rintro _ t' g' ⟨rfl, h⟩
      exact ⟨rfl, h.converged, fun ha => h.unchanged ha nofun⟩

end Filesystem

end Depot
