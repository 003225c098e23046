import Depot.Backend

set_option autoImplicit false

/-!
# Storage configurations

What a user writes about the storage of a registry: a block of settings for one backend. Names that
are left empty are chosen by the operator, which writes them into the block.

## Main definitions

* `S3.Config`, `Azure.Config`, `Gcs.Config`, `Swift.Config`, `Filesystem.Config` — the blocks.
* `Spec` — at most one block for each backend, of which exactly one should be there.
* `Spec.configured` — the backends that have a block.
-/

namespace Depot

/-- A key of a secret in the operator's namespace. -/
structure SecretKey where
  /-- The secret. -/
  name : String
  /-- The key. -/
  key : String
  deriving Repr, DecidableEq, Inhabited

/-- How CloudFront serves the images of an S3 bucket. -/
structure S3.CloudFront where
  /-- The address of the distribution. -/
  baseUrl : String
  /-- The private key that signs addresses. -/
  privateKey : SecretKey
  /-- The identifier of the key pair. -/
  keyPairId : String
  /-- How long a signed address is good for. -/
  duration : Option String
  deriving Repr, DecidableEq, Inhabited

/-- A bucket of S3 or a compatible service. -/
structure S3.Config where
  /-- The bucket; chosen when empty. -/
  bucket : String := ""
  /-- The region; that of the cluster when empty. -/
  region : String := ""
  /-- The address of a compatible service. -/
  regionEndpoint : String := ""
  /-- Whether the registry stores encrypted objects. -/
  encrypt : Bool := false
  /-- The key of the bucket's encryption. -/
  keyId : String := ""
  /-- Whether the bucket is part of the host name. -/
  virtualHostedStyle : Bool := false
  /-- The config map with the certificates to trust. -/
  trustedCa : Option String := none
  /-- How CloudFront serves the bucket. -/
  cloudFront : Option S3.CloudFront := none
  deriving Repr, DecidableEq, Inhabited

/-- A container of Azure Blob Storage. -/
structure Azure.Config where
  /-- The storage account; chosen when empty. -/
  accountName : String := ""
  /-- The container; chosen when empty. -/
  container : String := ""
  /-- The cloud environment. -/
  cloudName : String := ""
  deriving Repr, DecidableEq, Inhabited

/-- A bucket of Google Cloud Storage. -/
structure Gcs.Config where
  /-- The bucket; chosen when empty. -/
  bucket : String := ""
  /-- The location; the region of the cluster when empty. -/
  region : String := ""
  /-- The project; that of the cluster when empty. -/
  projectId : String := ""
  /-- The key of the bucket's encryption. -/
  keyId : String := ""
  deriving Repr, DecidableEq, Inhabited

/-- A container of OpenStack Swift. -/
structure Swift.Config where
  /-- The identity service; that of the credentials when empty. -/
  authUrl : String := ""
  /-- The version of the identity service. -/
  authVersion : String := ""
  /-- The container; chosen when empty. -/
  container : String := ""
  /-- The name of the domain. -/
  domain : String := ""
  /-- The identifier of the domain. -/
  domainId : String := ""
  /-- The name of the tenant. -/
  tenant : String := ""
  /-- The identifier of the tenant. -/
  tenantId : String := ""
  /-- The region. -/
  regionName : String := ""
  deriving Repr, DecidableEq, Inhabited

/-- A volume of the cluster: a claim, or an empty directory if there is no claim. -/
structure Filesystem.Config where
  /-- The claim; the default claim when its name is empty. -/
  claim : Option String := none
  deriving Repr, DecidableEq, Inhabited

/-- The configuration of the storage. -/
structure Spec where
  /-- The block for S3. -/
  s3 : Option S3.Config := none
  /-- The block for Azure. -/
  azure : Option Azure.Config := none
  /-- The block for Google Cloud. -/
  gcs : Option Gcs.Config := none
  /-- The block for Swift. -/
  swift : Option Swift.Config := none
  /-- The block for a volume. -/
  filesystem : Option Filesystem.Config := none
  deriving Repr, DecidableEq, Inhabited

namespace Spec

/-- Whether a backend has a block. -/
def has (s : Spec) : Backend → Bool
  | .s3 => s.s3.isSome
  | .azure => s.azure.isSome
  | .gcs => s.gcs.isSome
  | .swift => s.swift.isSome
  | .filesystem => s.filesystem.isSome

/-- The backends that have a block. -/
def configured (s : Spec) : List Backend := Backend.all.filter s.has

/-- Whether no backend has a block. -/
def isEmpty (s : Spec) : Bool := s.configured.isEmpty

end Spec

/-! ## JSON -/

/-- A key of a secret as JSON. -/
def SecretKey.toJson (k : SecretKey) : Json :=
  .object [("name", .text k.name), ("key", .text k.key)]

/-- Reads a key of a secret. -/
def SecretKey.ofJson (v : Json) : Json.Decoded SecretKey := do
  let fs ← Json.record ["name", "key"] v
  return {
    name := ← fs.required "name" Json.string
    key := ← fs.required "key" Json.string }

/-- The settings of CloudFront as JSON. -/
def S3.CloudFront.toJson (c : S3.CloudFront) : Json :=
  .object [
    ("baseUrl", .text c.baseUrl),
    ("privateKey", c.privateKey.toJson),
    ("keyPairId", .text c.keyPairId),
    ("duration", .textOrNull c.duration)]

/-- Reads the settings of CloudFront. -/
def S3.CloudFront.ofJson (v : Json) : Json.Decoded S3.CloudFront := do
  let fs ← Json.record ["baseUrl", "privateKey", "keyPairId", "duration"] v
  return {
    baseUrl := ← fs.required "baseUrl" Json.string
    privateKey := ← fs.required "privateKey" SecretKey.ofJson
    keyPairId := ← fs.required "keyPairId" Json.string
    duration := ← fs.orNone "duration" Json.string }

/-- A record with the name of something as its only field. -/
def namedToJson (field : String) (name : String) : Json := .object [(field, .text name)]

/-- Reads a record whose only field is a name that must be given. -/
def configMapOfJson (v : Json) : Json.Decoded String := do
  let fs ← Json.record ["name"] v
  fs.required "name" Json.string

/-- Reads a record whose only field is the name of a claim, empty by default. -/
def claimOfJson (v : Json) : Json.Decoded String := do
  let fs ← Json.record ["claim"] v
  fs.orEmpty "claim"

/-- The block for S3 as JSON. -/
def S3.Config.toJson (c : S3.Config) : Json :=
  .object ([
    ("bucket", .text c.bucket),
    ("region", .text c.region),
    ("regionEndpoint", .text c.regionEndpoint),
    ("encrypt", .bool c.encrypt),
    ("keyId", .text c.keyId),
    ("virtualHostedStyle", .bool c.virtualHostedStyle)]
    ++ Json.optional "trustedCa" (c.trustedCa.map (namedToJson "name"))
    ++ Json.optional "cloudFront" (c.cloudFront.map S3.CloudFront.toJson))

/-- Reads the block for S3. -/
def S3.Config.ofJson (v : Json) : Json.Decoded S3.Config := do
  let fs ← Json.record ["bucket", "region", "regionEndpoint", "encrypt", "keyId",
    "virtualHostedStyle", "trustedCa", "cloudFront"] v
  return {
    bucket := ← fs.orEmpty "bucket"
    region := ← fs.orEmpty "region"
    regionEndpoint := ← fs.orEmpty "regionEndpoint"
    encrypt := ← fs.orDefault "encrypt" false Json.boolean
    keyId := ← fs.orEmpty "keyId"
    virtualHostedStyle := ← fs.orDefault "virtualHostedStyle" false Json.boolean
    trustedCa := ← fs.orNone "trustedCa" configMapOfJson
    cloudFront := ← fs.orNone "cloudFront" S3.CloudFront.ofJson }

/-- The block for Azure as JSON. -/
def Azure.Config.toJson (c : Azure.Config) : Json :=
  .object [
    ("accountName", .text c.accountName),
    ("container", .text c.container),
    ("cloudName", .text c.cloudName)]

/-- Reads the block for Azure. -/
def Azure.Config.ofJson (v : Json) : Json.Decoded Azure.Config := do
  let fs ← Json.record ["accountName", "container", "cloudName"] v
  return {
    accountName := ← fs.orEmpty "accountName"
    container := ← fs.orEmpty "container"
    cloudName := ← fs.orEmpty "cloudName" }

/-- The block for Google Cloud as JSON. -/
def Gcs.Config.toJson (c : Gcs.Config) : Json :=
  .object [
    ("bucket", .text c.bucket),
    ("region", .text c.region),
    ("projectId", .text c.projectId),
    ("keyId", .text c.keyId)]

/-- Reads the block for Google Cloud. -/
def Gcs.Config.ofJson (v : Json) : Json.Decoded Gcs.Config := do
  let fs ← Json.record ["bucket", "region", "projectId", "keyId"] v
  return {
    bucket := ← fs.orEmpty "bucket"
    region := ← fs.orEmpty "region"
    projectId := ← fs.orEmpty "projectId"
    keyId := ← fs.orEmpty "keyId" }

/-- The block for Swift as JSON. -/
def Swift.Config.toJson (c : Swift.Config) : Json :=
  .object [
    ("authUrl", .text c.authUrl),
    ("authVersion", .text c.authVersion),
    ("container", .text c.container),
    ("domain", .text c.domain),
    ("domainId", .text c.domainId),
    ("tenant", .text c.tenant),
    ("tenantId", .text c.tenantId),
    ("regionName", .text c.regionName)]

/-- Reads the block for Swift. -/
def Swift.Config.ofJson (v : Json) : Json.Decoded Swift.Config := do
  let fs ← Json.record ["authUrl", "authVersion", "container", "domain", "domainId", "tenant",
    "tenantId", "regionName"] v
  return {
    authUrl := ← fs.orEmpty "authUrl"
    authVersion := ← fs.orEmpty "authVersion"
    container := ← fs.orEmpty "container"
    domain := ← fs.orEmpty "domain"
    domainId := ← fs.orEmpty "domainId"
    tenant := ← fs.orEmpty "tenant"
    tenantId := ← fs.orEmpty "tenantId"
    regionName := ← fs.orEmpty "regionName" }

/-- The block for a volume as JSON. -/
def Filesystem.Config.toJson (c : Filesystem.Config) : Json :=
  .object (Json.optional "persistentVolumeClaim" (c.claim.map (namedToJson "claim")))

/-- Reads the block for a volume. -/
def Filesystem.Config.ofJson (v : Json) : Json.Decoded Filesystem.Config := do
  let fs ← Json.record ["persistentVolumeClaim"] v
  return { claim := ← fs.orNone "persistentVolumeClaim" claimOfJson }

namespace Spec

/-- A configuration as JSON. -/
def toJson (s : Spec) : Json :=
  .object (
    Json.optional "s3" (s.s3.map S3.Config.toJson)
    ++ Json.optional "azure" (s.azure.map Azure.Config.toJson)
    ++ Json.optional "gcs" (s.gcs.map Gcs.Config.toJson)
    ++ Json.optional "swift" (s.swift.map Swift.Config.toJson)
    ++ Json.optional "filesystem" (s.filesystem.map Filesystem.Config.toJson))

/-- Reads a configuration. -/
def ofJson (v : Json) : Json.Decoded Spec := do
  let fs ← Json.record ["s3", "azure", "gcs", "swift", "filesystem"] v
  return {
    s3 := ← fs.orNone "s3" S3.Config.ofJson
    azure := ← fs.orNone "azure" Azure.Config.ofJson
    gcs := ← fs.orNone "gcs" Gcs.Config.ofJson
    swift := ← fs.orNone "swift" Swift.Config.ofJson
    filesystem := ← fs.orNone "filesystem" Filesystem.Config.ofJson }

end Spec

end Depot
