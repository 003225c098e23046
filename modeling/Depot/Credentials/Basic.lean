import Depot.Json.Canonical
import Depot.Text.Quoted

set_option autoImplicit false

/-!
# Credentials

What the operator shows to a cloud to be let in. The texts for people leave out everything secret.

## Main definitions

* `S3.Credentials`, `Azure.Credentials`, `Gcs.Credentials`, `Swift.Credentials` — the credentials
  for each cloud, each with its `summary`.
* `Gcs.Credentials.projectId?` — the project named in a key file.
-/

namespace Depot

/-- The secret that credentials come from. -/
inductive CredentialSource where
  /-- The secret that a user wrote. -/
  | user
  /-- The secret that the cluster made. -/
  | minted
  deriving Repr, DecidableEq, Inhabited

/-- The name of a source. -/
def CredentialSource.name : CredentialSource → String
  | .user => "User"
  | .minted => "Minted"

/-- The access keys of S3. -/
structure S3.Credentials where
  /-- The identifier. -/
  accessKeyId : String
  /-- The secret. -/
  secretAccessKey : String
  /-- Where they come from. -/
  source : CredentialSource
  deriving Repr, DecidableEq, Inhabited

/-- The credentials in words. -/
def S3.Credentials.summary (c : S3.Credentials) : String :=
  "S3Credentials \x7b access_key_id: " ++ Text.quoted c.accessKeyId ++ ", source: "
    ++ c.source.name ++ ", .. \x7d"

/-- How an identity of Azure proves itself. -/
inductive Azure.Proof where
  /-- By a shared secret. -/
  | clientSecret (secret : String)
  /-- By a token in a file. -/
  | federatedTokenFile (path : String)
  deriving Repr, DecidableEq, Inhabited

/-- An identity of Azure and where it works. -/
structure Azure.Identity where
  /-- The client. -/
  clientId : String
  /-- The tenant. -/
  tenantId : String
  /-- The subscription. -/
  subscriptionId : String
  /-- The resource group. -/
  resourceGroup : String
  /-- The region. -/
  region : String
  /-- How it proves itself. -/
  proof : Azure.Proof
  deriving Repr, DecidableEq, Inhabited

/-- An identity and, if a user gave one, the key of a storage account. -/
structure Azure.Credentials where
  /-- The identity. -/
  identity : Azure.Identity
  /-- The key. -/
  accountKey : Option String
  deriving Repr, DecidableEq, Inhabited

/-- A proof in words. -/
def Azure.Proof.summary : Azure.Proof → String
  | .clientSecret _ => "ClientSecret(..)"
  | .federatedTokenFile path => "FederatedTokenFile(" ++ path ++ ")"

/-- The credentials in words. -/
def Azure.Credentials.summary (c : Azure.Credentials) : String :=
  let i := c.identity
  "AzureCredentials \x7b identity: AzureIdentity \x7b client_id: " ++ Text.quoted i.clientId
    ++ ", tenant_id: " ++ Text.quoted i.tenantId
    ++ ", subscription_id: " ++ Text.quoted i.subscriptionId
    ++ ", resource_group: " ++ Text.quoted i.resourceGroup
    ++ ", region: " ++ Text.quoted i.region
    ++ ", auth: " ++ i.proof.summary ++ " \x7d, account_key: "
    ++ (if c.accountKey.isSome then "Some(\"..\")" else "None") ++ " \x7d"

/-- The key file of a service account of Google Cloud. -/
structure Gcs.Credentials where
  /-- The key file. -/
  keyFile : String
  /-- Where it comes from. -/
  source : CredentialSource
  deriving Repr, DecidableEq, Inhabited

/-- The credentials in words. -/
def Gcs.Credentials.summary (c : Gcs.Credentials) : String :=
  "GcsCredentials \x7b source: " ++ c.source.name ++ ", .. \x7d"

/-- The project named in a key file, if the file is JSON and names one. -/
def Gcs.Credentials.projectId? (c : Gcs.Credentials) : Option String :=
  ((Json.parse? c.keyFile).bind Json.canonical?).bind fun v =>
    (v.member? "project_id").bind Json.asText?

/-- A user of OpenStack and where to log in. -/
structure Swift.Credentials where
  /-- The user. -/
  username : String := ""
  /-- The password. -/
  password : String := ""
  /-- The identity service. -/
  authUrl : String := ""
  /-- The name of the domain. -/
  domain : String := ""
  /-- The identifier of the domain. -/
  domainId : String := ""
  /-- The name of the tenant. -/
  tenant : String := ""
  /-- The identifier of the tenant. -/
  tenantId : String := ""
  /-- The region. -/
  regionName : String := ""
  /-- The version of the identity service. -/
  identityVersion : String := ""
  deriving Repr, DecidableEq, Inhabited

/-- The first of two texts, or the second if the first is empty. -/
def Swift.firstOf (a b : String) : String := if a = "" then b else a

/-- The credentials in words. -/
def Swift.Credentials.summary (c : Swift.Credentials) : String :=
  "SwiftCredentials \x7b username: " ++ Text.quoted c.username ++ ", auth_url: "
    ++ Text.quoted c.authUrl ++ ", region_name: " ++ Text.quoted c.regionName ++ ", .. \x7d"

end Depot
