import Depot.Proofs.Completion
import Depot.Proofs.Operations

set_option autoImplicit false

/-!
# Surroundings that tell the truth

A cluster and clouds in which nothing fails: every call is answered according to what exists, and
what was created exists from then on. How the answers come about is left open, and so is what is not
about resources, such as the time. Names that are made up of random digits are not taken yet, and a
listing of tags is complete after at most as many pages as are read.

## Main definitions

* `Surroundings`, `Cloud` — what stays the same, and what exists.
* `Surroundings.Tells` — an answer is true.
* `World.Call.IsCreation` — the calls that create something.
* `Surroundings.world` — the contract with surroundings that tell the truth.
* `Surroundings.s3`, `Surroundings.azure`, `Surroundings.gcs`, `Surroundings.swift` — the
  credentials that are found.

## Main results

* `Surroundings.exists_tells` — there is a true answer to every call.
* `Surroundings.exists_run` — what ends in the surroundings has a run there.
* `Surroundings.gives_s3` and so on — finding credentials ends with those that are to be found.
-/

namespace Depot

/-! ## What exists -/

/-- What stays the same while operations run. -/
structure Surroundings where
  /-- The description of the cluster. -/
  infra : Infrastructure
  /-- The secret of a namespace and a name, if it exists. -/
  secret? : String → String → Option Cluster.Secret

/-- What exists in the cluster and in the clouds. -/
structure Cloud where
  /-- The buckets, containers of Swift, storage accounts and claims. -/
  assets : List Asset := []
  /-- The containers in storage accounts. -/
  containers : List (String × String) := []
  /-- The tags in effect, with the resources that they are in effect on. -/
  tags : List (String × String) := []
  /-- The tags that were listed since a listing began. -/
  listed : List String := []
  /-- In how many pages they were listed. -/
  pages : Nat := 0

namespace Cloud

/-- The cloud after something happened to an asset. -/
def record (g : Cloud) : Deed → Cloud
  | .created x => { g with assets := x :: g.assets }
  | .removed x =>
    { g with
      assets := g.assets.filter (· ≠ x)
      containers := g.containers.filter fun c => Asset.of .azure c.1 ≠ x
      tags := g.tags.filter fun t => x.backend ≠ .gcs ∨ t.1 ≠ Gcs.Binding.bucketName x.name }
  | .contained account container => { g with containers := (account, container) :: g.containers }
  | _ => g

/-- The listing goes on, or begins again if there is no token. -/
def resume (g : Cloud) : Option String → Cloud
  | none => { g with listed := [], pages := 0 }
  | some _ => g

/-- The cloud after another page of a listing. -/
def list (g : Cloud) (token : Option String) (page : Gcs.TagPage) : Cloud :=
  let h := g.resume token
  { h with listed := h.listed ++ page.values, pages := h.pages + 1 }

/-- The cloud after a call was answered. -/
def next (g : Cloud) : (c : World.Call) → World.Answer c → Cloud
  | .gcs (.createBinding parent value), .ok () => { g with tags := (parent, value) :: g.tags }
  | .gcs (.listEffectiveTags _ token), .ok page => g.list token page
  | .azure (.deleteContainer account container), .ok () =>
    { g with containers := g.containers.filter (· ≠ (account, container)) }
  | c, x => g.record (World.deed c x)

/-- What exists in one cloud exists in the other. -/
structure Grows (g h : Cloud) : Prop where
  /-- No asset is gone. -/
  assets : g.assets ⊆ h.assets
  /-- No container is gone. -/
  containers : g.containers ⊆ h.containers
  /-- No tag is gone. -/
  tags : g.tags ⊆ h.tags

/-- A cloud has what it has. -/
lemma Grows.refl (g : Cloud) : Grows g g :=
  ⟨List.Subset.refl _, List.Subset.refl _, List.Subset.refl _⟩

/-- What is kept twice is kept. -/
lemma Grows.trans {g h k : Cloud} (h₁ : Grows g h) (h₂ : Grows h k) : Grows g k where
  assets := List.Subset.trans h₁.assets h₂.assets
  containers := List.Subset.trans h₁.containers h₂.containers
  tags := List.Subset.trans h₁.tags h₂.tags

/-- Whether an asset is there. -/
def presence (g : Cloud) (x : Asset) : Presence := if x ∈ g.assets then .present else .absent

/-- What comes of the creation of an asset. -/
def creation (g : Cloud) (x : Asset) : Creation :=
  if x ∈ g.assets then .alreadyExists else .created

/-- Whether a container is there. -/
def containerPresence (g : Cloud) (account container : String) : Presence :=
  if (account, container) ∈ g.containers then .present else .absent

/-- What comes of the creation of a container. -/
def containerCreation (g : Cloud) (account container : String) : Creation :=
  if (account, container) ∈ g.containers then .alreadyExists else .created

/-- Nothing has the name. -/
structure Untaken (g : Cloud) (name : String) : Prop where
  /-- No asset has it. -/
  assets : ∀ b, Asset.of b name ∉ g.assets
  /-- No container has it. -/
  containers : ∀ account, (account, name) ∉ g.containers

/-- The resource to which tags are bound is a bucket that exists. -/
def HasParent (g : Cloud) (parent : String) : Prop :=
  ∃ bucket, parent = Gcs.Binding.bucketName bucket ∧ .of .gcs bucket ∈ g.assets

/-- A page of a listing is true: its tags are in effect, the last page makes the listing complete,
and the pages before are not too many. -/
structure Lists (g : Cloud) (parent : String) (token : Option String) (page : Gcs.TagPage) :
    Prop where
  /-- What is listed is in effect. -/
  sound : ∀ v ∈ page.values, (parent, v) ∈ g.tags
  /-- On the last page everything that is in effect was listed. -/
  complete : Gcs.Binding.nextToken? page.next = none →
    ∀ v, (parent, v) ∈ g.tags → v ∈ (g.list token page).listed
  /-- Another page is among those that are read. -/
  short : Gcs.Binding.nextToken? page.next ≠ none →
    (g.list token page).pages < Gcs.Binding.maxPages

end Cloud

namespace Surroundings

variable (E : Surroundings)

/-! ## True answers -/

/-- A name can be made of random digits. -/
def Generates (digits : List Char) (name : String) : Prop :=
  Naming.accountName E.infra.name digits = .ok name ∨
  ∃ extras maxLength, Naming.storageName E.infra.name extras maxLength digits = .ok name

/-- The answer to a call is true and no failure. -/
def Tells (g : Cloud) : (c : World.Call) → World.Answer c → Prop
  | .cluster .getInfrastructure, x => x = .ok E.infra
  | .cluster (.getSecret ns name), x => x = .ok (E.secret? ns name)
  | .cluster (.getClaim ns name), x =>
    ∃ claim : Option Cluster.Claim,
      x = .ok claim ∧ (claim.isSome ↔ (⟨.filesystem, ns, name⟩ : Asset) ∈ g.assets)
  | .cluster (.createClaim ns claim), x =>
    if (⟨.filesystem, ns, claim.metadata.name.getD ""⟩ : Asset) ∈ g.assets then
      ∃ e : Error, x = .error e ∧ e.isAlreadyExists
    else x = .ok ()
  | .s3 (.connect _ _), x => x = .ok ()
  | .s3 (.headBucket bucket), x => x = .ok (g.presence (.of .s3 bucket))
  | .s3 (.createBucket bucket _), x => x = .ok (g.creation (.of .s3 bucket))
  | .s3 (.putPublicAccessBlock bucket), x | .s3 (.putBucketTagging bucket _), x
  | .s3 (.putBucketEncryption bucket _), x | .s3 (.putAbortRule bucket _ _), x =>
    .of .s3 bucket ∈ g.assets → x = .ok ()
  | .azure (.connect _ _), x => x = .ok ()
  | .azure (.accountPresence account), x => x = .ok (g.presence (.of .azure account))
  | .azure (.createAccount account _), x => x = .ok (g.creation (.of .azure account))
  | .azure (.updateAccountTags account _), x | .azure (.disablePublicAccess account), x =>
    .of .azure account ∈ g.assets → x = .ok ()
  | .azure (.containerPresence account container), x =>
    x = .ok (g.containerPresence account container)
  | .azure (.createContainer account container), x =>
    .of .azure account ∈ g.assets → x = .ok (g.containerCreation account container)
  | .gcs (.connect _ _), x => x = .ok ()
  | .gcs (.bucketPresence bucket), x => x = .ok (g.presence (.of .gcs bucket))
  | .gcs (.createBucket _ bucket _), x => x = .ok (g.creation (.of .gcs bucket))
  | .gcs (.preventPublicAccess bucket), x | .gcs (.setLabels bucket _), x
  | .gcs (.setDefaultKey bucket _), x => .of .gcs bucket ∈ g.assets → x = .ok ()
  | .gcs (.listEffectiveTags parent token), x =>
    g.HasParent parent → ∃ page, x = .ok page ∧ g.Lists parent token page
  | .gcs (.createBinding parent value), x =>
    g.HasParent parent → x = .ok () ∨
      ∃ e : Error, x = .error e ∧ (e.isConflict || e.isAlreadyExists) ∧ (parent, value) ∈ g.tags
  | .swift (.connect _), x => x = .ok ()
  | .swift (.containerPresence container), x => x = .ok (g.presence (.of .swift container))
  | .swift (.createContainer container), x => x = .ok (g.creation (.of .swift container))
  | .randomDigits, digits => ∀ name, E.Generates digits name → g.Untaken name
  | _, _ => True

/-- There is a true answer to every call, as long as there are names that are not taken.

**Proof sketch.** One case per call: what the cloud has is answered as it is, a change succeeds, and
the calls of which nothing is told have any answer. -/
theorem exists_tells (g : Cloud) (c : World.Call)
    (h : c = .randomDigits → ∃ digits, ∀ name, E.Generates digits name → g.Untaken name) :
    ∃ x, E.Tells g c x := by
  cases c with
  | cluster c =>
    cases c with
    | getInfrastructure | getSecret ns name => exact ⟨_, rfl⟩
    | getClaim ns name =>
      by_cases hx : (⟨.filesystem, ns, name⟩ : Asset) ∈ g.assets
      · exact ⟨.ok (some {}), some {}, rfl, by simpa using hx⟩
      · exact ⟨.ok none, none, rfl, by simpa using hx⟩
    | createClaim ns claim =>
      by_cases hx : (⟨.filesystem, ns, claim.metadata.name.getD ""⟩ : Asset) ∈ g.assets
      · refine ⟨.error (.provider .filesystem "" "" .alreadyExists ""), ?_⟩
        exact (if_pos hx).mpr ⟨_, rfl, rfl⟩
      · exact ⟨.ok (), (if_neg hx).mpr rfl⟩
    | getConfigMap | deleteClaim => exact ⟨.error default, trivial⟩
  | s3 c =>
    cases c with
    | connect | headBucket | createBucket => exact ⟨_, rfl⟩
    | putPublicAccessBlock | putBucketTagging | putBucketEncryption | putAbortRule =>
      exact ⟨.ok (), fun _ => rfl⟩
    | _ => exact ⟨.error default, trivial⟩
  | azure c =>
    cases c with
    | connect | accountPresence | createAccount | containerPresence => exact ⟨_, rfl⟩
    | createContainer => exact ⟨_, fun _ => rfl⟩
    | updateAccountTags | disablePublicAccess => exact ⟨.ok (), fun _ => rfl⟩
    | _ => exact ⟨.error default, trivial⟩
  | gcs c =>
    cases c with
    | connect | bucketPresence | createBucket => exact ⟨_, rfl⟩
    | preventPublicAccess | setLabels | setDefaultKey => exact ⟨.ok (), fun _ => rfl⟩
    | listEffectiveTags parent token =>
      let values := (g.tags.filter (·.1 = parent)).map (·.2)
      refine ⟨.ok { values }, fun _ => ⟨_, rfl, ?_, fun _ v hv => ?_, fun h => absurd rfl h⟩⟩
      · intro v hv
        simpa [values] using hv
      · exact List.mem_append_right _ (by simpa [values] using hv)
    | createBinding => exact ⟨.ok (), fun _ => .inl rfl⟩
    | _ => exact ⟨.error default, trivial⟩
  | swift c =>
    cases c with
    | connect | containerPresence | createContainer => exact ⟨_, rfl⟩
    | _ => exact ⟨.error default, trivial⟩
  | randomDigits => exact h rfl
  | http | readFile => exact ⟨.error default, trivial⟩
  | now | stopwatch => exact ⟨⟨0⟩, trivial⟩
  | time => exact ⟨(default : Timestamp), trivial⟩
  | randomWord => exact ⟨(0 : Nat), trivial⟩
  | sleep | measured => exact ⟨(), trivial⟩

end Surroundings

/-! ## The contract -/

/-- The call creates a bucket, a container, an account or a claim, or binds a tag. -/
def World.Call.IsCreation : World.Call → Prop
  | .s3 (.createBucket _ _) | .azure (.createAccount _ _) | .azure (.createContainer _ _)
  | .gcs (.createBucket _ _ _) | .gcs (.createBinding _ _) | .swift (.createContainer _)
  | .cluster (.createClaim _ _) => True
  | _ => False

/-- The contract with surroundings that tell the truth. Something may be created only under a
condition. -/
def Surroundings.world (E : Surroundings) (needed : Prop) : Contract World Cloud where
  permits _ c := c.IsCreation → needed
  step g c x g' := E.Tells g c x ∧ g' = g.next c x

namespace Surroundings

variable {E : Surroundings} {needed : Prop} {g : Cloud} {σ α : Type} {s : σ}

/-- The state of the cloud follows from the calls and their answers. -/
lemma path_world {es : Trace World} {g' : Cloud} (h : (E.world needed).Path g es g') :
    g' = es.foldl (fun g e => g.next e.call e.answer) g := by
  induction es generalizing g with
  | nil => exact h.symm
  | cons e es ih =>
    obtain ⟨_, ⟨-, rfl⟩, h⟩ := h
    exact ih h

/-- An answer that is true if there is a true one. -/
lemma exists_answer (E : Surroundings) (g : Cloud) (c : World.Call) :
    ∃ x, (∃ y, E.Tells g c y) → E.Tells g c x := by
  by_cases h : ∃ y, E.Tells g c y
  · obtain ⟨y, hy⟩ := h
    exact ⟨y, fun _ => hy⟩
  · by_cases hc : c = .randomDigits
    · subst hc
      exact ⟨([] : List Char), fun hy => absurd hy h⟩
    · exact absurd (E.exists_tells g c fun hc' => absurd hc' hc) h

/-- **A program that ends in the surroundings has a run there**, as long as there are names that are
not taken whenever it makes one up.

**Proof sketch.** The cloud is a function of the events so far, so the true answer can be chosen as
one of them; the program ends on such answers. -/
theorem exists_run {p : Prog World α} {Q : α → Cloud → Prop} (h : p.Ends (E.world needed) g Q)
    (hfresh : ∀ es g', p.Asks es .randomDigits → (E.world needed).Path g es g' →
      ∃ digits, ∀ name, E.Generates digits name → g'.Untaken name) :
    ∃ es a g', p.Runs es a ∧ (E.world needed).Path g es g' ∧ Q a g' := by
  let after (es : Trace World) : Cloud := es.foldl (fun g e => g.next e.call e.answer) g
  let answer (es : Trace World) (c : World.Call) : World.Answer c :=
    Classical.choose (E.exists_answer (after es) c)
  have hanswers : Prog.Answers (E.world needed) answer p [] g := by
    intro es c g' hc hpath
    obtain rfl : g' = after es := path_world hpath
    refine ⟨_, Classical.choose_spec (E.exists_answer (after es) c) ?_, rfl⟩
    refine E.exists_tells _ c ?_
    rintro rfl
    exact hfresh es _ hc hpath
  obtain ⟨a, es, g', limit, hrun, hpath, hQ⟩ := h.exists_run hanswers
  obtain ⟨fs, heq, hruns⟩ := Prog.runs_of_run answer limit p (hrun limit (Nat.le_refl limit))
  obtain rfl : es = fs := heq
  exact ⟨es, a, g', hruns, hpath, hQ⟩

/-! ## Calls -/

/-- A call ends with true answers. -/
lemma ends_call {c : World.Call} {Q : World.Answer c → Cloud → Prop}
    (hc : c.IsCreation → needed) (hQ : ∀ x, E.Tells g c x → Q x (g.next c x)) :
    (Prog.perform (I := World) c).Ends (E.world needed) g Q := by
  refine Prog.ends_perform.2 ⟨hc, ?_⟩
  rintro x _ ⟨hx, rfl⟩
  exact hQ x hx

/-- A call that is not about resources changes nothing. -/
lemma ends_quiet {c : World.Call} {Q : World.Answer c → Cloud → Prop} (hc : ¬ c.IsCreation)
    (hn : ∀ x, g.next c x = g) (hQ : ∀ x, Q x g) :
    (Prog.perform (I := World) c).Ends (E.world needed) g Q := by
  refine ends_call (fun h => absurd h hc) fun x _ => ?_
  rw [hn x]
  exact hQ x

/-- A call with only one true answer, which changes nothing. -/
lemma ends_answered {c : World.Call} {x : World.Answer c} (hc : ¬ c.IsCreation)
    (hx : ∀ y, E.Tells g c y → y = x) (hn : g.next c x = g) :
    (Prog.perform (I := World) c).Ends (E.world needed) g fun y g' => y = x ∧ g' = g := by
  refine ends_call (fun h => absurd h hc) fun y hy => ?_
  obtain rfl := hx y hy
  exact ⟨rfl, hn⟩

/-- The description of the cluster. -/
lemma gives_getInfrastructure :
    Action.Gives (E.world needed) (Action.attempt (World.cluster .getInfrastructure)) s g E.infra :=
  Action.gives_attempt (ends_answered (c := .cluster .getInfrastructure) id (fun _ h => h) rfl)

/-- Trying again is not needed if the first try succeeds.

**Proof sketch.** The stopwatch changes nothing, and the first round ends the loop. -/
lemma ends_retry (b : Backoff) {attempt : Operating σ (Backoff.Attempt α)}
    {Q : Except Error α → σ → Cloud → Prop}
    (h : Action.Ends (E.world needed) attempt s g fun r s' g' =>
      ∃ a, r = .ok (.done a) ∧ Q (.ok a) s' g') :
    Action.Ends (E.world needed) (b.retry attempt) s g Q := by
  rw [Backoff.retry, Action.ends_bind, Action.ends_perform]
  refine ends_quiet (c := .stopwatch) (fun h => h) (fun _ => rfl) fun start => ?_
  refine Action.ends_loop (Action.ends_bind.2 (h.mono ?_))
  rintro _ s' g' ⟨a, rfl, ha⟩
  exact ⟨a, rfl, ha⟩

/-! ## Credentials -/

/-- One computation after another succeeds only if both do. -/
lemma exists_of_bind_ok {β : Type} {x : Except Error α} {f : α → Except Error β} {b : β}
    (h : x >>= f = .ok b) : ∃ a, x = .ok a ∧ f a = .ok b := by
  rcases x with e | a
  · cases h
  · exact ⟨a, rfl, h⟩

section

variable (E) (s : Credentials.Settings)

/-- The secret that a user wrote, if it exists. -/
def userSecret? : Option Cluster.Secret := E.secret? s.ns s.userSecret

/-- The secret that the cluster made, which must exist. -/
def minted (backend : Backend) : Except Error Cluster.Secret :=
  match E.secret? s.ns s.mintedSecret with
  | some secret => .ok secret
  | none => .error (Credentials.notFound s backend)

/-- What is read from the secret that a user wrote, or else from the one that the cluster made. -/
def found {α : Type} (backend : Backend) (user minted : Cluster.Secret → Except Error α) :
    Except Error α :=
  match E.userSecret? s with
  | some secret => user secret
  | none => do minted (← E.minted s backend)

/-- The access keys for S3. -/
def s3 : Except Error S3.Credentials :=
  E.found s .s3
    (Credentials.s3Keys s.userSecret .user Credentials.Key.s3AccessKey Credentials.Key.s3SecretKey)
    (Credentials.s3Keys s.mintedSecret .minted Credentials.Key.awsAccessKeyId
      Credentials.Key.awsSecretAccessKey)

/-- The identity on Azure, with the key of a storage account if a user wrote one. -/
def azure : Except Error Azure.Credentials := do
  let accountKey ← Credentials.azureAccountKey? s (E.userSecret? s)
  let secret ← E.minted s .azure
  let identity ← Credentials.azureIdentity s secret
  return { identity, accountKey }

/-- The key file for Google Cloud. -/
def gcs : Except Error Gcs.Credentials :=
  E.found s .gcs (Credentials.gcsKeyFile s.userSecret .user Credentials.Key.gcsKeyFile)
    (Credentials.gcsKeyFile s.mintedSecret .minted Credentials.Key.gcpServiceAccount)

/-- The credentials for Swift. -/
def swift : Except Error Swift.Credentials :=
  E.found s .swift (Credentials.swiftUser s) (Credentials.swiftCloud s)

end

variable {settings : Credentials.Settings}

/-- Reading a secret. -/
lemma gives_secret? (name : String) :
    Action.Gives (E.world needed) (Credentials.secret? settings name) s g
      (E.secret? settings.ns name) :=
  Action.gives_attempt (ends_answered (c := .cluster (.getSecret _ name)) id (fun _ h => h) rfl)

/-- The secret that the cluster made is there. -/
lemma secret?_of_minted {backend : Backend} {secret : Cluster.Secret}
    (h : E.minted settings backend = .ok secret) :
    E.secret? settings.ns settings.mintedSecret = some secret := by
  rw [minted] at h
  split at h
  · rename_i found hfound
    rw [hfound, Except.ok.inj h]
  · cases h

/-- The secret that the cluster made is there at the first look. -/
lemma gives_awaitMinted {backend : Backend} {secret : Cluster.Secret}
    (h : E.minted settings backend = .ok secret) :
    Action.Gives (E.world needed) (Credentials.awaitMinted settings backend) s g secret := by
  refine ends_retry _ ((gives_secret? _).outcome.ends_bind ?_)
  rw [secret?_of_minted h]
  exact ⟨secret, rfl, rfl, rfl, rfl⟩

/-- What is read is read from one of the two secrets. -/
lemma found_eq_ok {backend : Backend} {user minted : Cluster.Secret → Except Error α} {r : α}
    (h : E.found settings backend user minted = .ok r) :
    (∃ secret, E.userSecret? settings = some secret ∧ user secret = .ok r) ∨
      E.userSecret? settings = none ∧
        ∃ secret, E.minted settings backend = .ok secret ∧ minted secret = .ok r := by
  rw [found] at h
  split at h
  · rename_i secret hsecret
    exact .inl ⟨secret, hsecret, h⟩
  · rename_i hsecret
    exact .inr ⟨hsecret, exists_of_bind_ok h⟩

/-- What can be read is read, if the secret that the cluster makes is awaited.

**Proof sketch.** The two ways in which the credentials can be found are those of the program. -/
lemma gives_found {backend : Backend} {user minted : Cluster.Secret → Except Error α} {r : α}
    (h : E.found settings backend user minted = .ok r) :
    Action.Gives (E.world needed) (do
      match ← Credentials.userSecret? settings with
      | some secret => Action.ofExcept (user secret)
      | none =>
        let secret ← Credentials.awaitMinted settings backend
        Action.ofExcept (minted secret)) s g r := by
  refine (gives_secret? _).ends_bind ?_
  obtain ⟨secret, hsecret, hr⟩ | ⟨hsecret, secret, hm, hr⟩ := found_eq_ok h
  · rw [show E.secret? settings.ns settings.userSecret = some secret from hsecret]
    exact Action.gives_ofExcept hr
  · rw [show E.secret? settings.ns settings.userSecret = none from hsecret]
    exact (gives_awaitMinted hm).ends_bind (Action.gives_ofExcept hr)

/-- The access keys for S3 are found. -/
theorem gives_s3 {r : S3.Credentials} (h : E.s3 settings = .ok r) :
    Action.Gives (E.world needed) (Credentials.s3 settings) s g r := gives_found h

/-- The key file for Google Cloud is found. -/
lemma gives_gcs {r : Gcs.Credentials} (h : E.gcs settings = .ok r) :
    Action.Gives (E.world needed) (Credentials.gcs settings) s g r := gives_found h

/-- The credentials for Swift are found without waiting. -/
lemma gives_swift {r : Swift.Credentials} (h : E.swift settings = .ok r) :
    Action.Gives (E.world needed) (Credentials.swift settings) s g r := by
  refine (gives_secret? _).ends_bind ?_
  obtain ⟨secret, hsecret, hr⟩ | ⟨hsecret, secret, hm, hr⟩ := found_eq_ok h
  · rw [show E.secret? settings.ns settings.userSecret = some secret from hsecret]
    exact Action.gives_ofExcept hr
  · rw [show E.secret? settings.ns settings.userSecret = none from hsecret]
    refine (gives_secret? _).ends_bind ?_
    rw [secret?_of_minted hm]
    exact Action.gives_ofExcept hr

/-- The identity on Azure is found. -/
lemma gives_azure {r : Azure.Credentials} (h : E.azure settings = .ok r) :
    Action.Gives (E.world needed) (Credentials.azure settings) s g r := by
  obtain ⟨accountKey, hkey, h⟩ := exists_of_bind_ok h
  obtain ⟨secret, hsecret, h⟩ := exists_of_bind_ok h
  obtain ⟨identity, hidentity, h⟩ := exists_of_bind_ok h
  cases h
  refine (gives_secret? _).ends_bind ((Action.gives_ofExcept hkey).ends_bind ?_)
  refine (gives_awaitMinted hsecret).ends_bind ?_
  exact (Action.gives_ofExcept hidentity).ends_bind (Action.gives_pure _)

/-! ## Names -/

/-- The name of the cluster has a letter or digit. -/
def HasName (E : Surroundings) : Prop := ∃ c ∈ E.infra.name.toList, Naming.isAlphanumeric c

/-- Then there is a name for every bucket or container.

**Proof sketch.** The infrastructure's name has a letter or digit, so it is not blank, and the
length suffices for the digits; there is no other way to fail. -/
lemma HasName.storageName (h : E.HasName) (extras : List String) {maxLength : Nat}
    (hmax : Naming.randomLength + 1 < maxLength) (digits : List Char) :
    ∃ name, Naming.storageName E.infra.name extras maxLength digits = .ok name ∧ name ≠ "" ∧
      E.Generates digits name := by
  have hblank : ¬ Text.isBlankText E.infra.name := by
    intro hall
    obtain ⟨c, hc, halnum⟩ := h
    have hb := List.all_eq_true.1 hall c hc
    rw [Naming.isBlank_of_isAlphanumeric halnum] at hb
    cases hb
  cases hname : Naming.storageName E.infra.name extras maxLength digits with
  | ok name => exact ⟨name, rfl, Naming.storageName_ne_empty hname, .inr ⟨extras, _, hname⟩⟩
  | error e =>
    rw [Naming.storageName, if_neg hblank, if_neg (Nat.not_le.2 hmax)] at hname
    cases hname

/-- Then there is a name for every storage account. -/
lemma HasName.accountName (h : E.HasName) (digits : List Char) :
    ∃ name, Naming.accountName E.infra.name digits = .ok name ∧ name ≠ "" ∧
      E.Generates digits name := by
  have hstem : ¬ ((E.infra.name.toList.filter Naming.isAlphanumeric).map Naming.lower).isEmpty := by
    obtain ⟨c, hc, halnum⟩ := h
    rw [List.isEmpty_iff, List.map_eq_nil_iff]
    exact List.ne_nil_of_mem (List.mem_filter.2 ⟨hc, halnum⟩)
  cases hname : Naming.accountName E.infra.name digits with
  | ok name => exact ⟨name, rfl, Naming.accountName_ne_empty hname, .inl hname⟩
  | error e =>
    simp only [Naming.accountName, if_neg hstem] at hname
    cases hname

/-- A name is made up that is not taken. -/
lemma ends_generate {f : List Char → Except Error String}
    (hf : ∀ digits, ∃ name, f digits = .ok name ∧ name ≠ "" ∧ E.Generates digits name) :
    Action.Ends (E.world needed) (do
      let digits ← Action.perform World.randomDigits
      Action.ofExcept (f digits)) () g fun r _ g' =>
        (∃ name, r = .ok name ∧ name ≠ "" ∧ g.Untaken name) ∧ g' = g := by
  rw [Action.ends_bind, Action.ends_perform]
  refine ends_call (c := .randomDigits) (fun h => h.elim) fun digits hdigits => ?_
  obtain ⟨name, hname, hne, hg⟩ := hf digits
  exact ⟨⟨name, hname, hne, hdigits name hg⟩, rfl⟩

end Surroundings

end Depot
