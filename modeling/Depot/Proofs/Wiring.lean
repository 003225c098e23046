import Depot.Proofs.AccessKeys
import Depot.Proofs.Azure
import Depot.Proofs.Fields
import Depot.Proofs.Precedence
import Depot.Proofs.Removal
import Depot.Proofs.S3
import Depot.Proofs.Swift

set_option autoImplicit false

/-!
# How the pod of the registry is wired

The operator says in three places what the pod of the registry needs: the variables of its
environment, its volumes with their mounts, and the values of the private secret. They refer to each
other by the names of secrets, keys, volumes and files, and every reference has its target.

## Main definitions

* `S3.Middleware` — what the registry reads of the settings for CloudFront.
* `Storage.Varied`, `Storage.privateKeys` — which variables there are for a configuration, and the
  keys of the private secret.
* `Storage.Handed` — the paths of files that the variables hand to the registry.
* `Storage.Wired` — every reference has its target.

## Main results

* `S3.CloudFront.middleware_encodes` — the settings for CloudFront are read back from their text.
* `Storage.varied_of_runs`, `Storage.keys_of_runs` — what the variables and the values are.
* `Storage.wired` — the pod of the registry is wired.
-/

namespace Depot

/-! ## Variables -/

namespace EnvVar

/-- A variable that is set only with a value has its own name, if it is there. -/
lemma names_unlessEmpty_sublist (name text : String) :
    ((unlessEmpty name text).map (·.name)).Sublist [name] := by
  unfold unlessEmpty
  split
  · exact List.nil_sublist _
  · exact .refl _

/-- A variable that is set only with a value is there exactly if there is one. -/
@[simp]
lemma mem_unlessEmpty {v : EnvVar} {name text : String} :
    v ∈ unlessEmpty name text ↔ text ≠ "" ∧ v = literal name text := by
  unfold unlessEmpty
  split
  · simp [*]
  · simp [*]

/-- Variables with a value are the same if name and value are. -/
@[simp]
lemma literal_inj {name text name' text' : String} :
    literal name text = literal name' text' ↔ name = name' ∧ text = text' := by
  simp [literal]

/-- A variable that is read from a secret has no value of its own. -/
@[simp]
lemma secretKey_ne_literal {name secret key name' text : String} :
    secretKey name secret key ≠ literal name' text := by
  simp [secretKey, literal]

/-- A variable with a value is not read from a secret. -/
@[simp]
lemma literal_ne_secretKey {name secret key name' text : String} :
    literal name' text ≠ secretKey name secret key := by
  simp [secretKey, literal]

end EnvVar

/-! ## The settings for CloudFront -/

namespace S3

/-- What the registry is told about CloudFront. -/
structure Middleware where
  /-- The address at which images are served. -/
  baseUrl : String
  /-- How long an address for an image is good. -/
  duration : Option String
  /-- The identifier of the key pair. -/
  keyPairId : String
  /-- The file of the private key. -/
  privateKey : String

/-- Reads the options of the settings for CloudFront. -/
def Middleware.optionsOfJson (v : Json) : Json.Decoded Middleware := do
  let fs ← Json.record ["baseurl", "duration", "keypairid", "privatekey"] v
  return {
    baseUrl := ← fs.required "baseurl" Json.string
    duration := ← fs.orNone "duration" Json.string
    keyPairId := ← fs.required "keypairid" Json.string
    privateKey := ← fs.required "privatekey" Json.string }

/-- Reads the settings for CloudFront, with their name. -/
def Middleware.ofJson (v : Json) : Json.Decoded (String × Middleware) := do
  let fs ← Json.record ["name", "options"] v
  return (← fs.required "name" Json.string, ← fs.required "options" Middleware.optionsOfJson)

/-- What the registry should be told about CloudFront. -/
def CloudFront.told (f : CloudFront) : Middleware where
  baseUrl := f.baseUrl
  duration := f.duration
  keyPairId := f.keyPairId
  privateKey := cloudFrontMount.file cloudFrontKeyFile

/-- The options of the settings for CloudFront. -/
def CloudFront.options (f : CloudFront) : Json :=
  .object ([("baseurl", .text f.baseUrl)] ++ Json.optional "duration" (f.duration.map .text)
    ++ [("keypairid", .text f.keyPairId), ("privatekey", .text f.told.privateKey)])

/-- The options of the middleware are read back as they were written. -/
lemma CloudFront.options_encodes (f : CloudFront) :
    Json.Encodes Middleware.optionsOfJson f.options f.told := by
  have hduration := Json.ofMember_map Json.Encodes.text f.duration
  refine .record ?_ (by simp) (by simp [hduration]; rfl)
  simp only [List.cons_append, List.nil_append, Json.fits_cons]
  exact ⟨.text _, .optional Json.Encodes.text (by simp)⟩

/-- **The settings for CloudFront are read back**, whatever the texts in them are. -/
theorem CloudFront.middleware_encodes (f : CloudFront) :
    Json.Encodes (Json.list Middleware.ofJson) f.middleware [("cloudfront", f.told)] := by
  have hoptions := f.options_encodes
  have hsettings : Json.Encodes Middleware.ofJson
      (.object [("name", .text "cloudfront"), ("options", f.options)]) ("cloudfront", f.told) :=
    .record (by simp [hoptions.textual]) (by simp) (by simp [hoptions.read_eq])
  have hlist : ∀ x ∈ [("cloudfront", f.told)], Json.Encodes Middleware.ofJson
      (.object [("name", .text "cloudfront"), ("options", f.options)]) x := by
    intro x hx
    obtain rfl := List.mem_singleton.1 hx
    exact hsettings
  exact .list hlist

/-- The private key for CloudFront is in a volume that is mounted. -/
lemma mem_volumes_of_cloudFront {c : Config} {f : CloudFront} (h : c.cloudFront = some f) :
    cloudFrontMount ∈ (volumes c).mounts ∧
      ⟨cloudFrontMount.name, .secret f.privateKey.name [⟨f.privateKey.key, cloudFrontKeyFile⟩]⟩ ∈
        (volumes c).volumes := by
  simp [volumes, h]

end S3

namespace Storage

variable {s : Settings} {storage : Storage} {registry : Registry} {es : Trace World}
  {vars : List EnvVar} {values : Dict String}

/-! ## Variables and values -/

/-- The variables are those for a configuration, and for what is looked up. -/
inductive Varied : Storage → List EnvVar → Prop where
  /-- With a region. -/
  | s3 (c : S3.Config) (region : String) : Varied (.s3 c) (S3.envVars c region)
  /-- With a cloud. -/
  | azure (c : Azure.Config) (e : Azure.Environment) : Varied (.azure c) (Azure.envVars c e)
  /-- With nothing else. -/
  | gcs (c : Gcs.Config) : Varied (.gcs c) (Gcs.envVars c)
  /-- With credentials. -/
  | swift (c : Swift.Config) (r : Swift.Credentials) : Varied (.swift c) (Swift.envVars c r)
  /-- With nothing else. -/
  | filesystem (c : Filesystem.Config) : Varied (.filesystem c) Filesystem.envVars

/-- The keys of the private secret. -/
def privateKeys : Storage → List String
  | .s3 _ => [S3.credentialsKey]
  | .azure _ => [Credentials.Key.azureAccountKey]
  | .gcs _ => [Gcs.keyFileKey]
  | .swift _ => [Credentials.Key.swiftUsername, Credentials.Key.swiftPassword]
  | .filesystem _ => []

/-- What changes nothing leaves the session as it was. -/
lemma session_of_idle {C α : Type} {work : Work C α} {st t : Session C} {r : Except Error α}
    (hidle : Action.Idle Ledger.contract ({} : Ledger) work) (h : Action.Runs work st es r t) :
    t = st :=
  ((hidle st).of_runs h ((Ledger.path_iff ..).2 rfl)).1

/-- Variables that are made of what is looked up, and of the configuration. -/
lemma exists_of_runs_lookup {C α : Type} {look : Work C α} {make : C → α → List EnvVar}
    {st t : Session C} (hidle : Action.Idle Ledger.contract ({} : Ledger) look)
    (h : Action.Runs (do
      let x ← look
      return make (← get).config x) st es (.ok vars) t) : ∃ x, vars = make st.config x := by
  rcases Action.runs_bind.1 h with ⟨x, st', _, _, rfl, hlook, hrest⟩ | ⟨_, he, _⟩
  · obtain rfl := session_of_idle hidle hlook
    have hrest := Action.runs_get_bind.1 hrest
    exact ⟨x, Except.ok.inj (Action.runs_pure.1 hrest).2.1⟩
  · cases he

/-- **The variables are those for the configuration**, whatever is looked up for them.

**Proof sketch.** One case per backend: what is looked up is one value, of which the variables are
made. -/
theorem varied_of_runs {t : Session Storage}
    (h : Action.Runs (environment s) ⟨storage, registry⟩ es (.ok vars) t) :
    Varied storage vars := by
  rw [environment, Action.runs_get_bind] at h
  cases storage with
  | s3 c =>
    obtain ⟨u, h, -⟩ := runs_within h
    obtain ⟨region, rfl⟩ := exists_of_runs_lookup S3.idle_region h
    exact .s3 c region
  | azure c =>
    obtain ⟨u, h, -⟩ := runs_within h
    obtain ⟨e, rfl⟩ := exists_of_runs_lookup Azure.idle_environmentOf h
    exact .azure c e
  | gcs c =>
    cases Except.ok.inj (Action.runs_pure.1 h).2.1
    exact .gcs c
  | swift c =>
    obtain ⟨u, h, -⟩ := runs_within h
    obtain ⟨r, rfl⟩ := exists_of_runs_lookup (Swift.idle_credentials s) h
    exact .swift c r
  | filesystem c =>
    cases Except.ok.inj (Action.runs_pure.1 h).2.1
    exact .filesystem c

/-- A value that is made of what is looked up. -/
lemma exists_of_runs_make {C α β : Type} {look : Work C α} {make : α → β} {b : β}
    {st t : Session C} (h : Action.Runs (do
      let x ← look
      return make x) st es (.ok b) t) : ∃ x, b = make x := by
  rcases Action.runs_bind.1 h with ⟨x, _, _, _, rfl, -, hrest⟩ | ⟨_, he, _⟩
  · exact ⟨x, Except.ok.inj (Action.runs_pure.1 hrest).2.1⟩
  · cases he

/-- **The private secret has a value for each of its keys**, and for no other.

**Proof sketch.** One case per backend: the secret is made of what is looked up, with fixed keys. -/
theorem keys_of_runs {t : Session Storage}
    (h : Action.Runs (secrets s) ⟨storage, registry⟩ es (.ok values) t) {key : String} :
    key ∈ values.keys ↔ key ∈ storage.privateKeys := by
  rw [secrets, Action.runs_get_bind] at h
  cases storage with
  | s3 c =>
    obtain ⟨u, h, -⟩ := runs_within h
    rw [S3.secrets] at h
    obtain ⟨credentials, rfl⟩ := exists_of_runs_make h
    exact Dict.mem_keys_ofList
  | azure c =>
    obtain ⟨u, h, -⟩ := runs_within h
    rw [Azure.secrets] at h
    obtain ⟨accountKey, rfl⟩ := exists_of_runs_make h
    exact Dict.mem_keys_ofList
  | gcs c =>
    obtain ⟨u, h, -⟩ := runs_within h
    rw [Gcs.secrets] at h
    obtain ⟨credentials, rfl⟩ := exists_of_runs_make h
    exact Dict.mem_keys_ofList
  | swift c =>
    obtain ⟨u, h, -⟩ := runs_within h
    rw [Swift.secrets] at h
    obtain ⟨credentials, rfl⟩ := exists_of_runs_make h
    exact Dict.mem_keys_ofList
  | filesystem c =>
    cases Except.ok.inj (Action.runs_pure.1 h).2.1
    exact Iff.rfl

/-! ## References -/

/-- The volumes with what the operator itself puts into the private secret. -/
def ownVolumes : List String := [S3.credentialsMount.name, Gcs.keyFileMount.name]

/-- The variables hand the path of a file to the registry. -/
inductive Handed (vars : List EnvVar) : String → Prop where
  /-- The file of the credentials for S3. -/
  | credentials {path : String} :
    .literal "REGISTRY_STORAGE_S3_CREDENTIALSCONFIGPATH" path ∈ vars → Handed vars path
  /-- The key file of Google Cloud. -/
  | keyFile {path : String} : .literal "REGISTRY_STORAGE_GCS_KEYFILE" path ∈ vars → Handed vars path
  /-- The private key for CloudFront, as it is read from the settings. -/
  | privateKey {text name : String} {settings : List (String × S3.Middleware)}
      {m : S3.Middleware} :
    .literal "REGISTRY_MIDDLEWARE_STORAGE" text ∈ vars →
    Json.decode (Json.list S3.Middleware.ofJson) text = .ok settings → (name, m) ∈ settings →
    Handed vars m.privateKey

/-- **Every reference has its target**, in the variables, the volumes and the values for a storage.
-/
structure Wired (storage : Storage) (vars : List EnvVar) (values : Dict String) : Prop where
  /-- A variable that refers to a secret refers to a key of the private secret with a value. -/
  secretKeys : ∀ {name secret key}, .secretKey name secret key ∈ vars →
    secret = Credentials.privateSecret ∧ key ∈ values.keys
  /-- The operator's own volumes have keys of the private secret with a value. -/
  items : ∀ v ∈ storage.mounted.volumes, v.name ∈ ownVolumes → ∃ items,
    v.source = .secret Credentials.privateSecret items ∧ ∀ i ∈ items, i.key ∈ values.keys
  /-- A mount names exactly one volume. -/
  mounts : ∀ m ∈ storage.mounted.mounts,
    (storage.mounted.volumes.filter fun v => v.name = m.name).length = 1
  /-- A path that is handed to the registry is that of a file in a volume that is mounted. -/
  paths : ∀ {path}, Handed vars path → ∃ m ∈ storage.mounted.mounts,
    ∃ v ∈ storage.mounted.volumes, v.name = m.name ∧ ∃ secret items,
      v.source = .secret secret items ∧ ∃ i ∈ items, path = m.file i.path
  /-- No two variables have the same name. -/
  names : (vars.map (·.name)).Nodup
  /-- The path of the credentials for S3 is handed to the registry. -/
  credentials : ∀ {c}, storage = .s3 c →
    ∃ path, .literal "REGISTRY_STORAGE_S3_CREDENTIALSCONFIGPATH" path ∈ vars
  /-- The path of the key file of Google Cloud is handed to the registry. -/
  keyFile : ∀ {c}, storage = .gcs c → ∃ path, .literal "REGISTRY_STORAGE_GCS_KEYFILE" path ∈ vars
  /-- The registry is told about CloudFront what is configured. -/
  middleware : ∀ {c f}, storage = .s3 c → c.cloudFront = some f →
    ∃ text, .literal "REGISTRY_MIDDLEWARE_STORAGE" text ∈ vars ∧
      Json.decode (Json.list S3.Middleware.ofJson) text = .ok [("cloudfront", f.told)]

section

variable {path text name secret key : String}

/-- Only S3 has a file of credentials. -/
lemma Varied.mem_credentials (h : Varied storage vars) :
    .literal "REGISTRY_STORAGE_S3_CREDENTIALSCONFIGPATH" path ∈ vars ↔
      (∃ c, storage = .s3 c) ∧ path = S3.credentialsMount.file S3.credentialsKey := by
  cases h with
  | s3 c region => simp [S3.envVars]
  | azure c e => simp [Azure.envVars]
  | gcs c => simp [Gcs.envVars]
  | swift c r => simp [Swift.envVars]
  | filesystem c => simp [Filesystem.envVars]

/-- Only Google Cloud has a key file. -/
lemma Varied.mem_keyFile (h : Varied storage vars) :
    .literal "REGISTRY_STORAGE_GCS_KEYFILE" path ∈ vars ↔
      (∃ c, storage = .gcs c) ∧ path = Gcs.keyFileMount.file Gcs.keyFileKey := by
  cases h with
  | s3 c region => simp [S3.envVars]
  | azure c e => simp [Azure.envVars]
  | gcs c => simp [Gcs.envVars]
  | swift c r => simp [Swift.envVars]
  | filesystem c => simp [Filesystem.envVars]

/-- There are settings for CloudFront if it is configured. -/
lemma Varied.mem_middleware (h : Varied storage vars) :
    .literal "REGISTRY_MIDDLEWARE_STORAGE" text ∈ vars ↔
      ∃ c f, storage = .s3 c ∧ c.cloudFront = some f ∧ text = f.middleware.print := by
  cases h with
  | s3 c region => cases hf : c.cloudFront <;> simp [S3.envVars, hf]
  | azure c e => simp [Azure.envVars]
  | gcs c => simp [Gcs.envVars]
  | swift c r => simp [Swift.envVars]
  | filesystem c => simp [Filesystem.envVars]

/-- Variables refer to keys of the private secret only. -/
lemma Varied.of_secretKey (h : Varied storage vars) (hv : .secretKey name secret key ∈ vars) :
    secret = Credentials.privateSecret ∧ key ∈ storage.privateKeys := by
  cases h with
  | s3 c region => simp [S3.envVars] at hv
  | azure c e =>
    obtain ⟨-, rfl, rfl⟩ := by simpa [Azure.envVars] using hv
    exact ⟨rfl, List.mem_singleton_self _⟩
  | gcs c => simp [Gcs.envVars] at hv
  | swift c r =>
    obtain ⟨-, rfl, rfl⟩ | ⟨-, rfl, rfl⟩ := by simpa [Swift.envVars] using hv
    · exact ⟨rfl, List.mem_cons_self⟩
    · exact ⟨rfl, List.mem_cons_of_mem _ (List.mem_singleton_self _)⟩
  | filesystem c => simp [Filesystem.envVars] at hv

end

/-- The names of all variables that there can be for a backend. -/
def variableNames : Backend → List String
  | .s3 => ["REGISTRY_STORAGE", "REGISTRY_STORAGE_S3_BUCKET", "REGISTRY_STORAGE_S3_REGION",
      "REGISTRY_STORAGE_S3_REGIONENDPOINT", "REGISTRY_STORAGE_S3_ENCRYPT",
      "REGISTRY_STORAGE_S3_KEYID", "REGISTRY_STORAGE_S3_VIRTUALHOSTEDSTYLE",
      "REGISTRY_STORAGE_S3_CREDENTIALSCONFIGPATH", "REGISTRY_MIDDLEWARE_STORAGE"]
  | .azure => ["REGISTRY_STORAGE", "REGISTRY_STORAGE_AZURE_CONTAINER",
      "REGISTRY_STORAGE_AZURE_ACCOUNTNAME", "REGISTRY_STORAGE_AZURE_ACCOUNTKEY",
      "REGISTRY_STORAGE_AZURE_REALM"]
  | .gcs => ["REGISTRY_STORAGE", "REGISTRY_STORAGE_GCS_BUCKET", "REGISTRY_STORAGE_GCS_KEYFILE"]
  | .swift => ["REGISTRY_STORAGE", "REGISTRY_STORAGE_SWIFT_CONTAINER",
      "REGISTRY_STORAGE_SWIFT_AUTHURL", "REGISTRY_STORAGE_SWIFT_USERNAME",
      "REGISTRY_STORAGE_SWIFT_PASSWORD", "REGISTRY_STORAGE_SWIFT_AUTHVERSION",
      "REGISTRY_STORAGE_SWIFT_DOMAIN", "REGISTRY_STORAGE_SWIFT_DOMAINID",
      "REGISTRY_STORAGE_SWIFT_TENANT", "REGISTRY_STORAGE_SWIFT_TENANTID",
      "REGISTRY_STORAGE_SWIFT_REGION"]
  | .filesystem => ["REGISTRY_STORAGE", "REGISTRY_STORAGE_FILESYSTEM_ROOTDIRECTORY"]

/-- The variables have their names in a fixed order, where some may be left out.

**Proof sketch.** One case per backend: the variables are parts in order, each with its names or
without any. -/
lemma Varied.names_sublist (h : Varied storage vars) :
    (vars.map (·.name)).Sublist (variableNames storage.backend) := by
  have hopt := EnvVar.names_unlessEmpty_sublist
  cases h with
  | s3 c region =>
    have hfront : ((c.cloudFront.map fun f =>
        EnvVar.literal "REGISTRY_MIDDLEWARE_STORAGE" f.middleware.print).toList.map
          (·.name)).Sublist ["REGISTRY_MIDDLEWARE_STORAGE"] := by
      cases c.cloudFront with
      | none => exact List.nil_sublist _
      | some f => exact .refl _
    rw [S3.envVars]
    simp only [List.map_append]
    exact (((((List.Sublist.refl _).append (hopt _ _)).append (.refl _)).append (hopt _ _)).append
      (.refl _)).append hfront
  | azure c e => exact .refl _
  | gcs c => exact .refl _
  | swift c r =>
    rw [Swift.envVars]
    simp only [List.map_append]
    exact (((((List.Sublist.refl _).append (hopt _ _)).append (hopt _ _)).append (hopt _ _)).append
      (hopt _ _)).append (hopt _ _)
  | filesystem c => exact .refl _

/-- The names of variables differ. -/
lemma nodup_variableNames (b : Backend) : (variableNames b).Nodup := by
  cases b <;> decide

/-- The operator's own volumes have the keys of the private secret.

**Proof sketch.** One case per backend; the volumes that come from the user have other names. -/
lemma source_of_ownVolumes {v : Volume} (hv : v ∈ storage.mounted.volumes)
    (hown : v.name ∈ ownVolumes) : ∃ items, v.source = .secret Credentials.privateSecret items ∧
      ∀ i ∈ items, i.key ∈ storage.privateKeys := by
  cases storage with
  | s3 c =>
    rcases List.mem_cons.1 hv with rfl | hv
    · exact ⟨_, rfl, by simp [privateKeys]⟩
    · obtain ⟨f, -, rfl⟩ := List.mem_map.1 hv
      exact absurd hown (by decide : S3.cloudFrontMount.name ∉ ownVolumes)
  | azure c => cases hv
  | gcs c =>
    obtain rfl := List.mem_singleton.1 hv
    exact ⟨_, rfl, by simp [privateKeys]⟩
  | swift c => cases hv
  | filesystem c =>
    obtain rfl := List.mem_singleton.1 hv
    exact absurd hown (by decide : Filesystem.storageMount.name ∉ ownVolumes)

/-- A mount names exactly one volume.

**Proof sketch.** One case per backend and, for S3, with CloudFront and without. -/
lemma length_filter_mounted {m : Mount} (hm : m ∈ storage.mounted.mounts) :
    (storage.mounted.volumes.filter fun v => v.name = m.name).length = 1 := by
  cases storage with
  | s3 c =>
    rw [mounted, S3.volumes] at hm ⊢
    cases hf : c.cloudFront with
    | none =>
      rw [hf] at hm
      obtain rfl := List.mem_singleton.1 hm
      rfl
    | some f =>
      rw [hf] at hm
      obtain rfl | hm := List.mem_cons.1 hm
      · rfl
      · obtain rfl := List.mem_singleton.1 hm
        rfl
  | azure c => cases hm
  | gcs c =>
    obtain rfl := List.mem_singleton.1 hm
    rfl
  | swift c => cases hm
  | filesystem c =>
    obtain rfl := List.mem_singleton.1 hm
    rfl

/-- What the registry reads of the settings for CloudFront is what is configured. -/
lemma Varied.decode_middleware (h : Varied storage vars) {text : String}
    {settings : List (String × S3.Middleware)}
    (hv : .literal "REGISTRY_MIDDLEWARE_STORAGE" text ∈ vars)
    (hread : Json.decode (Json.list S3.Middleware.ofJson) text = .ok settings) :
    ∃ c f, storage = .s3 c ∧ c.cloudFront = some f ∧ settings = [("cloudfront", f.told)] := by
  obtain ⟨c, f, hstorage, hf, rfl⟩ := h.mem_middleware.1 hv
  exact ⟨c, f, hstorage, hf, Except.ok.inj (hread.symm.trans f.middleware_encodes.decode_print)⟩

/-- **A path that is handed to the registry is that of a file in a volume that is mounted.**

**Proof sketch.** One case per way in which a path is handed on, each of which tells the backend,
and with it the mount and the item. -/
lemma Varied.mounted_of_handed (h : Varied storage vars) {path : String}
    (hpath : Handed vars path) : ∃ m ∈ storage.mounted.mounts, ∃ v ∈ storage.mounted.volumes,
      v.name = m.name ∧ ∃ secret items, v.source = .secret secret items ∧
        ∃ i ∈ items, path = m.file i.path := by
  cases hpath with
  | credentials hv =>
    obtain ⟨⟨c, rfl⟩, rfl⟩ := h.mem_credentials.1 hv
    exact ⟨S3.credentialsMount, List.mem_cons_self, _, List.mem_cons_self, rfl, _, _, rfl, _,
      List.mem_cons_self, rfl⟩
  | keyFile hv =>
    obtain ⟨⟨c, rfl⟩, rfl⟩ := h.mem_keyFile.1 hv
    exact ⟨Gcs.keyFileMount, List.mem_cons_self, _, List.mem_cons_self, rfl, _, _, rfl, _,
      List.mem_cons_self, rfl⟩
  | privateKey hv hread hm =>
    obtain ⟨c, f, rfl, hf, rfl⟩ := h.decode_middleware hv hread
    obtain ⟨-, rfl⟩ := Prod.mk.inj (List.mem_singleton.1 hm)
    obtain ⟨hmount, hvolume⟩ := S3.mem_volumes_of_cloudFront hf
    exact ⟨S3.cloudFrontMount, hmount, _, hvolume, rfl, _, _, rfl, _, List.mem_cons_self, rfl⟩

/-- **The pod of the registry is wired.** For every storage, if the variables and the values of the
private secret are found, in whatever state of the cluster and the clouds, then every reference in
them and in the volumes has its target: each variable that refers to a secret, and each file of the
operator's own volumes, has a key of the private secret with a value; each mount has its volume;
each path that is handed to the registry, also in the settings for CloudFront, is that of a file in
a volume that is mounted. The names of the variables are different, and the settings for CloudFront
are read back as configured.

**Proof sketch.** The variables depend on one thing that is looked up (`varied_of_runs`), and the
keys of the private secret on nothing (`keys_of_runs`). The references are then compared backend by
backend. The settings for CloudFront are a text, which is read back by
`S3.CloudFront.middleware_encodes`. -/
theorem wired {registry' : Registry} {fs : Trace World} {t u : Session Storage}
    (hvars : Action.Runs (environment s) ⟨storage, registry⟩ es (.ok vars) t)
    (hvalues : Action.Runs (secrets s) ⟨storage, registry'⟩ fs (.ok values) u) :
    Wired storage vars values where
  secretKeys hv := by
    obtain ⟨hsecret, hkey⟩ := (varied_of_runs hvars).of_secretKey hv
    exact ⟨hsecret, (keys_of_runs hvalues).2 hkey⟩
  items v hv hown := by
    obtain ⟨items, hsource, hkeys⟩ := source_of_ownVolumes hv hown
    exact ⟨items, hsource, fun i hi => (keys_of_runs hvalues).2 (hkeys i hi)⟩
  mounts m hm := length_filter_mounted hm
  paths hpath := (varied_of_runs hvars).mounted_of_handed hpath
  names := (varied_of_runs hvars).names_sublist.nodup (nodup_variableNames _)
  credentials hc := ⟨_, (varied_of_runs hvars).mem_credentials.2 ⟨⟨_, hc⟩, rfl⟩⟩
  keyFile hc := ⟨_, (varied_of_runs hvars).mem_keyFile.2 ⟨⟨_, hc⟩, rfl⟩⟩
  middleware {c f} hc hf :=
    ⟨_, (varied_of_runs hvars).mem_middleware.2 ⟨c, f, hc, hf, rfl⟩,
      f.middleware_encodes.decode_print⟩

/-- Work on one block is work on the storage. -/
lemma runs_within_of_runs {C α : Type} (wrap : C → Storage) {config : C} {work : Work C α}
    {r : Except Error α} {t : Session C} (h : Action.Runs work ⟨config, registry⟩ es r t) :
    Action.Runs (within wrap config work) ⟨wrap config, registry⟩ es r (t.wrap wrap) :=
  (Prog.runs_bind ..).2 ⟨es, [], (r, t), (List.append_nil es).symm, h, rfl, rfl⟩

/-- A bucket that CloudFront serves, with texts that need escapes. -/
def servedBucket : S3.Config where
  bucket := "images"
  region := "us-east-1"
  cloudFront := some {
    baseUrl := "https://images.example.com/\"a\"\n"
    privateKey := ⟨"signer", "key.pem"⟩
    keyPairId := "K1\\"
    duration := some "20m" }

/-- Variables and values are found for the bucket, and the pod is wired. -/
theorem wired_servedBucket :
    ∃ vars values,
      Action.Runs (environment {}) ⟨.s3 servedBucket, default⟩ [] (.ok vars)
        ⟨.s3 servedBucket, default⟩ ∧
      Action.Runs (secrets {}) ⟨.s3 servedBucket, default⟩
        [Credentials.readUser {} (.ok (some (S3.writtenSecret "AKIA" "shh")))] (.ok values)
        ⟨.s3 servedBucket, default⟩ ∧
      Wired (.s3 servedBucket) vars values := by
  have hvars : Action.Runs (environment {}) ⟨.s3 servedBucket, default⟩ []
      (.ok (S3.envVars servedBucket "us-east-1")) ⟨.s3 servedBucket, default⟩ := ⟨rfl, rfl⟩
  have hsecrets : Action.Runs (S3.secrets {}) ⟨servedBucket, default⟩
      [Credentials.readUser {} (.ok (some (S3.writtenSecret "AKIA" "shh")))]
      (.ok (.ofList [(S3.credentialsKey, S3.credentialsFile ⟨"AKIA", "shh", .user⟩)]))
      ⟨servedBucket, default⟩ :=
    Action.runs_bind.2 (.inl ⟨_, _, _, [], (List.append_nil _).symm,
      S3.runs_s3_writtenSecret _ _ _ _, rfl, rfl⟩)
  have hvalues : Action.Runs (secrets {}) ⟨.s3 servedBucket, default⟩
      [Credentials.readUser {} (.ok (some (S3.writtenSecret "AKIA" "shh")))] _
      ⟨.s3 servedBucket, default⟩ :=
    Action.runs_get_bind.2 (runs_within_of_runs .s3 hsecrets)
  exact ⟨_, _, hvars, hvalues, wired hvars hvalues⟩

end Storage

end Depot
