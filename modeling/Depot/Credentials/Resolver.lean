import Depot.Backoff
import Depot.Credentials.Clouds

set_option autoImplicit false

/-!
# Finding credentials

A user may write the credentials for a cloud into a secret of a known name; that secret wins when
it exists, even if it lacks a key. Otherwise the cluster makes credentials and writes them into
another secret, which may take a while, so the operator waits for that secret.

## Main definitions

* `Credentials.Settings` — where the secrets are and how long to wait for the second one.
* `Credentials.s3`, `Credentials.azure`, `Credentials.gcs`, `Credentials.swift` — the credentials
  for each cloud.
-/

namespace Depot.Credentials

/-! ## Names -/

/-- The namespace of the operator, the registry and their secrets. -/
def operatorNamespace : String := "openshift-image-registry"

/-- The secret that is made from the credentials for the registry. -/
def privateSecret : String := "image-registry-private-configuration"

namespace Key

/-- The access key of S3 that a user wrote. -/
def s3AccessKey : String := "REGISTRY_STORAGE_S3_ACCESSKEY"

/-- The secret key of S3 that a user wrote. -/
def s3SecretKey : String := "REGISTRY_STORAGE_S3_SECRETKEY"

/-- The access key of AWS that the cluster made. -/
def awsAccessKeyId : String := "aws_access_key_id"

/-- The secret key of AWS that the cluster made. -/
def awsSecretAccessKey : String := "aws_secret_access_key"

/-- The key of a storage account of Azure. -/
def azureAccountKey : String := "REGISTRY_STORAGE_AZURE_ACCOUNTKEY"

/-- The client on Azure. -/
def azureClientId : String := "azure_client_id"

/-- The tenant on Azure. -/
def azureTenantId : String := "azure_tenant_id"

/-- The subscription on Azure. -/
def azureSubscriptionId : String := "azure_subscription_id"

/-- The resource group on Azure. -/
def azureResourceGroup : String := "azure_resourcegroup"

/-- The region on Azure. -/
def azureRegion : String := "azure_region"

/-- The secret of the client on Azure. -/
def azureClientSecret : String := "azure_client_secret"

/-- The file with a token for Azure. -/
def azureFederatedTokenFile : String := "azure_federated_token_file"

/-- The key file of Google Cloud that a user wrote. -/
def gcsKeyFile : String := "REGISTRY_STORAGE_GCS_KEYFILE"

/-- The key file of Google Cloud that the cluster made. -/
def gcpServiceAccount : String := "service_account.json"

/-- The user of Swift. -/
def swiftUsername : String := "REGISTRY_STORAGE_SWIFT_USERNAME"

/-- The password of Swift. -/
def swiftPassword : String := "REGISTRY_STORAGE_SWIFT_PASSWORD"

/-- The cloud file of OpenStack. -/
def openStackClouds : String := "clouds.yaml"

end Key

/-- The cloud that is looked up in a cloud file. -/
def cloudName : String := "openstack"

/-- Where the secrets are and how long to wait for the one that the cluster makes. -/
structure Settings where
  /-- The namespace of both secrets. -/
  ns : String := operatorNamespace
  /-- The secret that a user writes. -/
  userSecret : String := "image-registry-private-configuration-user"
  /-- The secret that the cluster makes. -/
  mintedSecret : String := "installer-cloud-credentials"
  /-- The time between two looks at the second secret. -/
  interval : Span := .ofSeconds 5
  /-- The time after which the operator stops looking. -/
  timeout : Span := .ofSeconds 300
  deriving Repr, DecidableEq, Inhabited

/-! ## Secrets -/

/-- A value that a secret must have. -/
def require (secretName : String) (secret : Cluster.Secret) (key : String) : Except Error String :=
  match secret.value? key with
  | some value => .ok value
  | none => .error (.missingSecretKey secretName key)

variable {σ : Type}

/-- A secret, if it exists. -/
def secret? (s : Settings) (name : String) : Operating σ (Option Cluster.Secret) :=
  Action.attempt (World.cluster (.getSecret s.ns name))

/-- The secret that a user wrote, if it exists. -/
def userSecret? (s : Settings) : Operating σ (Option Cluster.Secret) := secret? s s.userSecret

/-- No credentials could be found. -/
def notFound (s : Settings) (backend : Backend) : Error :=
  .credentialsNotFound backend s.userSecret s.mintedSecret

/-- How the secret that the cluster makes is awaited. -/
def Settings.backoff (s : Settings) : Backoff where
  initial := s.interval
  multiplier := 1
  maximum := s.interval
  spread := 0
  limit := s.timeout

/-- One look at the secret that the cluster makes. -/
def look (s : Settings) (backend : Backend) : Operating σ (Backoff.Attempt Cluster.Secret) := do
  match ← Action.outcome (secret? s s.mintedSecret) with
  | .ok (some secret) => return .done secret
  | .ok none => return .again (notFound s backend)
  | .error e => return .failed e

/-- The secret that the cluster makes, as soon as it is there. -/
def awaitMinted (s : Settings) (backend : Backend) : Operating σ Cluster.Secret :=
  s.backoff.retry (look s backend)

/-- Values from the secret that the cluster made. -/
def mintedValue (s : Settings) (secret : Cluster.Secret) (key : String) : Except Error String :=
  require s.mintedSecret secret key

/-- Values from the secret that a user wrote. -/
def userValue (s : Settings) (secret : Cluster.Secret) (key : String) : Except Error String :=
  require s.userSecret secret key

/-! ## S3 -/

/-- The access keys in a secret, under the given keys. -/
def s3Keys (secretName : String) (source : CredentialSource) (idKey secretKey : String)
    (secret : Cluster.Secret) : Except Error S3.Credentials := do
  return {
    accessKeyId := ← require secretName secret idKey
    secretAccessKey := ← require secretName secret secretKey
    source }

/-- The access keys for S3. -/
def s3 (s : Settings) : Operating σ S3.Credentials := do
  match ← userSecret? s with
  | some secret =>
    Action.ofExcept (s3Keys s.userSecret .user Key.s3AccessKey Key.s3SecretKey secret)
  | none =>
    let secret ← awaitMinted s .s3
    Action.ofExcept
      (s3Keys s.mintedSecret .minted Key.awsAccessKeyId Key.awsSecretAccessKey secret)

/-! ## Azure -/

/-- How the identity in a secret proves itself: by its own secret, or else by a token. -/
def azureProof (s : Settings) (secret : Cluster.Secret) : Except Error Azure.Proof :=
  match secret.value? Key.azureClientSecret with
  | some value => .ok (.clientSecret value)
  | none =>
    match secret.value? Key.azureFederatedTokenFile with
    | some path => .ok (.federatedTokenFile path)
    | none => .error (.missingSecretKey s.mintedSecret Key.azureClientSecret)

/-- The identity in a secret. -/
def azureIdentity (s : Settings) (secret : Cluster.Secret) : Except Error Azure.Identity := do
  let proof ← azureProof s secret
  return {
    clientId := ← mintedValue s secret Key.azureClientId
    tenantId := ← mintedValue s secret Key.azureTenantId
    subscriptionId := ← mintedValue s secret Key.azureSubscriptionId
    resourceGroup := ← mintedValue s secret Key.azureResourceGroup
    region := ← mintedValue s secret Key.azureRegion
    proof }

/-- The key of a storage account, if a user wrote one. -/
def azureAccountKey? (s : Settings) : Option Cluster.Secret → Except Error (Option String)
  | some secret => (userValue s secret Key.azureAccountKey).map some
  | none => .ok none

/-- The identity on Azure, with the key of a storage account if a user wrote one. -/
def azure (s : Settings) : Operating σ Azure.Credentials := do
  let accountKey ← Action.ofExcept (azureAccountKey? s (← userSecret? s))
  let secret ← awaitMinted s .azure
  let identity ← Action.ofExcept (azureIdentity s secret)
  return { identity, accountKey }

/-! ## Google Cloud -/

/-- The key file in a secret. -/
def gcsKeyFile (secretName : String) (source : CredentialSource) (key : String)
    (secret : Cluster.Secret) : Except Error Gcs.Credentials := do
  return { keyFile := ← require secretName secret key, source }

/-- The key file for Google Cloud. -/
def gcs (s : Settings) : Operating σ Gcs.Credentials := do
  match ← userSecret? s with
  | some secret => Action.ofExcept (gcsKeyFile s.userSecret .user Key.gcsKeyFile secret)
  | none =>
    let secret ← awaitMinted s .gcs
    Action.ofExcept (gcsKeyFile s.mintedSecret .minted Key.gcpServiceAccount secret)

/-! ## Swift -/

/-- The user and password that a user wrote. -/
def swiftUser (s : Settings) (secret : Cluster.Secret) : Except Error Swift.Credentials := do
  return {
    username := ← userValue s secret Key.swiftUsername
    password := ← userValue s secret Key.swiftPassword }

/-- The credentials in the cloud file of a secret. -/
def swiftCloud (s : Settings) (secret : Cluster.Secret) : Except Error Swift.Credentials := do
  let clouds ← Clouds.parse (← mintedValue s secret Key.openStackClouds)
  match clouds.get? cloudName with
  | some entry => .ok entry.credentials
  | none =>
    .error (.configuration (Key.openStackClouds ++ " in secret " ++ s.mintedSecret
      ++ " has no cloud named " ++ Text.quoted cloudName))

/-- The credentials for Swift. The secret that the cluster makes is not awaited. -/
def swift (s : Settings) : Operating σ Swift.Credentials := do
  match ← userSecret? s with
  | some secret => Action.ofExcept (swiftUser s secret)
  | none =>
    match ← secret? s s.mintedSecret with
    | some secret => Action.ofExcept (swiftCloud s secret)
    | none => throw (notFound s .swift)

end Depot.Credentials
