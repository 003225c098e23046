import Depot.Error

set_option autoImplicit false

/-!
# Cloud environments of Azure

Azure runs in several clouds that differ in the addresses of their services.

## Main definitions

* `Azure.Environment` — a cloud, with the public, government and Chinese ones.
* `Azure.Environment.ofName` — the cloud of a name.
-/

namespace Depot.Azure

/-- A cloud of Azure. -/
structure Environment where
  /-- The name. -/
  name : String
  /-- The address of the resource manager. -/
  resourceManager : String
  /-- The address of the directory. -/
  activeDirectory : String
  /-- The last part of the host names of storage. -/
  storageSuffix : String
  deriving Repr, DecidableEq, Inhabited

namespace Environment

/-- The cloud for everyone. -/
def publicCloud : Environment where
  name := "AzurePublicCloud"
  resourceManager := "https://management.azure.com"
  activeDirectory := "https://login.microsoftonline.com"
  storageSuffix := "core.windows.net"

/-- The cloud of the government of the United States. -/
def usGovernment : Environment where
  name := "AzureUSGovernmentCloud"
  resourceManager := "https://management.usgovcloudapi.net"
  activeDirectory := "https://login.microsoftonline.us"
  storageSuffix := "core.usgovcloudapi.net"

/-- The cloud in China. -/
def china : Environment where
  name := "AzureChinaCloud"
  resourceManager := "https://management.chinacloudapi.cn"
  activeDirectory := "https://login.chinacloudapi.cn"
  storageSuffix := "core.chinacloudapi.cn"

/-- The clouds by the names they go by, in lowercase. No name means the public cloud. -/
def names : List (String × Environment) := [
  ("", publicCloud), ("azurepubliccloud", publicCloud), ("azurecloud", publicCloud),
  ("public", publicCloud), ("azureusgovernmentcloud", usGovernment),
  ("azureusgovernment", usGovernment), ("usgovernment", usGovernment),
  ("azurechinacloud", china), ("china", china)]

/-- The cloud of a name in any case. -/
def ofName (name : String) : Except Error Environment :=
  match names.lookup name.toLower with
  | some e => .ok e
  | none => .error (.configuration ("unknown Azure cloud environment " ++ Text.quoted name))

/-- The scope of tokens for the resource manager. -/
def managementScope (e : Environment) : String := e.resourceManager ++ "/.default"

/-- The scope of tokens for blobs, the same in all clouds. -/
def storageScope : String := "https://storage.azure.com/.default"

/-- The address of the blobs of a storage account. -/
def blobEndpoint (e : Environment) (account : String) : String :=
  "https://" ++ account ++ ".blob." ++ e.storageSuffix

end Environment

end Depot.Azure
