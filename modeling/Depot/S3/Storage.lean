import Depot.S3.Bucket
import Depot.Workload

set_option autoImplicit false

/-!
# Storage in S3

The storage of a registry in a bucket of S3 or a compatible service. The registry finds its
credentials in a file, and may serve its images through CloudFront.

## Main definitions

* `S3.isPresent`, `S3.isChanged`, `S3.create`, `S3.remove` — the storage.
* `S3.environment`, `S3.volumes`, `S3.secrets`, `S3.trust` — what the workload needs.
-/

namespace Depot.S3

open Storage

/-! ## The workload -/

/-- The key of the credentials file in the secret for the registry. -/
def credentialsKey : String := "credentials"

/-- Where the credentials are mounted. -/
def credentialsMount : Mount := ⟨"registry-storage-credentials", "/var/run/secrets/cloud", true⟩

/-- Where the private key for CloudFront is mounted. -/
def cloudFrontMount : Mount := ⟨"registry-cloudfront", "/etc/docker/cloudfront", true⟩

/-- The file of the private key for CloudFront. -/
def cloudFrontKeyFile : String := "private.pem"

/-- The namespace of the certificates that users want to be trusted. -/
def trustNamespace : String := "openshift-config"

/-- The key of the certificates in a config map. -/
def trustKey : String := "ca-bundle.crt"

/-- The credentials file for the registry. -/
def credentialsFile (c : Credentials) : String :=
  "[default]\naws_access_key_id = " ++ c.accessKeyId ++ "\naws_secret_access_key = "
    ++ c.secretAccessKey ++ "\n"

/-- The settings of the registry that serve images through CloudFront. -/
def CloudFront.middleware (c : CloudFront) : Json :=
  let options :=
    [("baseurl", Json.text c.baseUrl)]
    ++ Json.optional "duration" (c.duration.map .text)
    ++ [("keypairid", .text c.keyPairId),
      ("privatekey", .text (cloudFrontMount.file cloudFrontKeyFile))]
  .arr [.object [("name", .text "cloudfront"), ("options", .object options)]]

/-- The variables for a configuration in a region. -/
def envVars (c : Config) (region : String) : List EnvVar :=
  [.literal "REGISTRY_STORAGE" "s3",
    .literal "REGISTRY_STORAGE_S3_BUCKET" c.bucket,
    .literal "REGISTRY_STORAGE_S3_REGION" region]
  ++ EnvVar.unlessEmpty "REGISTRY_STORAGE_S3_REGIONENDPOINT" c.regionEndpoint
  ++ [.literal "REGISTRY_STORAGE_S3_ENCRYPT" (boolText c.encrypt)]
  ++ EnvVar.unlessEmpty "REGISTRY_STORAGE_S3_KEYID" c.keyId
  ++ [.literal "REGISTRY_STORAGE_S3_VIRTUALHOSTEDSTYLE" (boolText c.virtualHostedStyle),
    .literal "REGISTRY_STORAGE_S3_CREDENTIALSCONFIGPATH" (credentialsMount.file credentialsKey)]
  ++ (c.cloudFront.map fun f =>
    EnvVar.literal "REGISTRY_MIDDLEWARE_STORAGE" f.middleware.print).toList

/-- The volumes for a configuration. -/
def volumes (c : Config) : Mounted :=
  let cloudFront := c.cloudFront.toList
  { volumes :=
      ⟨credentialsMount.name, .secret Credentials.privateSecret [⟨credentialsKey, credentialsKey⟩]⟩
      :: cloudFront.map fun f =>
        ⟨cloudFrontMount.name, .secret f.privateKey.name [⟨f.privateKey.key, cloudFrontKeyFile⟩]⟩
    mounts := credentialsMount :: cloudFront.map fun _ => cloudFrontMount }

/-! ## Connecting -/

variable (s : Settings)

/-- The region: the configured one, or that of the cluster, or the default. -/
def region : Work Config String := do
  let c := (← get).config
  if c.region ≠ "" then return c.region
  else
    let infra ← Action.attempt (World.cluster .getInfrastructure)
    return infra.awsRegion?.getD defaultRegion

/-- Connects, and says how buckets are created and set up. -/
def connect (infra : Infrastructure) : Work Config Bucket := do
  let c := (← get).config
  let region ← region
  let credentials ← Credentials.s3 s.credentials
  Action.attempt (World.s3 (.connect credentials
    { region, regionEndpoint := c.regionEndpoint, virtualHostedStyle := c.virtualHostedStyle }))
  return { infra, region, encryption := .ofKey c.keyId }

/-- Connects for the cluster. -/
def connectBucket : Work Config Bucket := do
  connect s (← Action.attempt (World.cluster .getInfrastructure))

/-! ## What the workload needs -/

/-- The variables of the registry's environment. -/
def environment : Work Config (List EnvVar) := do
  let region ← region
  return envVars (← get).config region

/-- The values of the secret for the registry. -/
def secrets : Work Config (Dict String) := do
  let credentials ← Credentials.s3 s.credentials
  return .ofList [(credentialsKey, credentialsFile credentials)]

/-- The certificates in a config map that must exist. -/
def trustIn (name : String) : Work Config Trust := do
  match ← Action.attempt (World.cluster (.getConfigMap trustNamespace name)) with
  | none =>
    throw (.configuration
      ("trusted CA config map " ++ trustNamespace ++ "/" ++ name ++ " does not exist"))
  | some m => return { bundle := (m.data.bind (·.get? trustKey)).getD "" }

/-- The certificates that the registry trusts. -/
def trust : Work Config Trust := do
  match (← get).config.trustedCa with
  | none | some "" => return {}
  | some name => trustIn name

/-! ## The storage -/

/-- Writes the name of the bucket into the configuration. -/
def persist (bucket : String) : Work Config Unit := do
  modify fun s => { s with config := { s.config with bucket } }
  modifySpec fun spec => { spec with s3 := some { spec.s3.getD {} with bucket } }

/-- Whether the bucket exists. -/
def isPresent : Work Config Bool := do
  let c := (← get).config
  if c.bucket = "" then unnamed
  else resourceExists (← connectBucket s).operations c.bucket

/-- Whether the configuration differs from the one that was applied. -/
def isChanged : Work Config Bool := blockChanged (·.s3)

/-- Finds or creates the bucket and sets it up. -/
def create : Work Config Unit := do
  let b ← connectBucket s
  let (outcome, bucket) ←
    onResource b.operations (← get).config.bucket (Lifecycle.ensure bucketKind s.wait)
  if bucket ≠ "" then persist bucket
  Action.ofExcept outcome
  let applied := (← get).config
  modifyApplied fun spec => { spec with s3 := some applied }
  withResource b.operations bucket (Lifecycle.applyHardening bucketKind)

/-- Removes the bucket if the operator owns it. Says whether another pass is needed, which it never
is. -/
def remove : Work Config Bool := do
  let c := (← get).config
  if !(← isManaged) || c.bucket = "" then return false
  else
    let b ← connectBucket s
    if ← withResource b.operations c.bucket (Lifecycle.remove bucketKind) then
      persist ""
      modifyApplied fun spec => { spec with s3 := spec.s3.map ({ · with bucket := "" }) }
    return false

end Depot.S3
