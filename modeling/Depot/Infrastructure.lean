import Depot.Registry

set_option autoImplicit false

/-!
# Cluster infrastructure

What the cluster tells about itself: its name, from which names of resources are made, and for its
platform the region, the project and the tags that users want on all resources.

## Main definitions

* `Platform` — the platforms.
* `Infrastructure` — the description of a cluster.
* `Infrastructure.defaultSpec` — the configuration for a registry that has none.
-/

namespace Depot

/-- The platform that a cluster runs on. -/
inductive Platform where
  | aws
  | azure
  | gcp
  | openStack
  | bareMetal
  | vSphere
  | none
  | other
  deriving Repr, DecidableEq, Inhabited

namespace Platform

/-- The name of a platform. -/
def name : Platform → String
  | .aws => "AWS"
  | .azure => "Azure"
  | .gcp => "GCP"
  | .openStack => "OpenStack"
  | .bareMetal => "BareMetal"
  | .vSphere => "VSphere"
  | .none => "None"
  | .other => "Other"

/-- All platforms. -/
def all : List Platform :=
  [.aws, .azure, .gcp, .openStack, .bareMetal, .vSphere, .none, .other]

/-- The platform of that name; names that are not known are those of other platforms. -/
def ofName (s : String) : Platform := (all.find? (·.name == s)).getD .other

/-- A platform as JSON. -/
def toJson (p : Platform) : Json := .text p.name

/-- Reads a platform. -/
def ofJson : Json → Json.Decoded Platform := Json.variant fun s => some (ofName s)

end Platform

/-- A tag that a user wants on all resources. -/
structure ResourceTag where
  /-- The key. -/
  key : String
  /-- The value. -/
  value : String
  deriving Repr, DecidableEq, Inhabited

/-- A tag of Google Cloud, which belongs to an organization or project. -/
structure GcpTag where
  /-- The organization or project. -/
  parentId : String
  /-- The key. -/
  key : String
  /-- The value. -/
  value : String
  deriving Repr, DecidableEq, Inhabited

/-- The tag's value with its key and parent, separated by slashes. -/
def GcpTag.namespacedValue (t : GcpTag) : String := t.parentId ++ "/" ++ t.key ++ "/" ++ t.value

/-- A cluster on AWS. -/
structure AwsPlatform where
  /-- The region. -/
  region : String := ""
  /-- Tags for all resources. -/
  resourceTags : List ResourceTag := []
  deriving Repr, DecidableEq, Inhabited

/-- A cluster on Azure. -/
structure AzurePlatform where
  /-- The resource group. -/
  resourceGroupName : String := ""
  /-- The cloud environment. -/
  cloudName : String := ""
  /-- Tags for all resources. -/
  resourceTags : List ResourceTag := []
  deriving Repr, DecidableEq, Inhabited

/-- A cluster on Google Cloud. -/
structure GcpPlatform where
  /-- The project. -/
  projectId : String := ""
  /-- The region. -/
  region : String := ""
  /-- Labels for all resources. -/
  resourceLabels : List ResourceTag := []
  /-- Tags for all resources. -/
  resourceTags : List GcpTag := []
  deriving Repr, DecidableEq, Inhabited

/-- A cluster on OpenStack. -/
structure OpenStackPlatform where
  /-- The cloud. -/
  cloudName : String := ""
  deriving Repr, DecidableEq, Inhabited

/-- The platform of a cluster. -/
structure PlatformStatus where
  /-- The platform. -/
  platform : Platform := .none
  /-- Details on AWS. -/
  aws : Option AwsPlatform := none
  /-- Details on Azure. -/
  azure : Option AzurePlatform := none
  /-- Details on Google Cloud. -/
  gcp : Option GcpPlatform := none
  /-- Details on OpenStack. -/
  openstack : Option OpenStackPlatform := none
  deriving Repr, DecidableEq, Inhabited

/-- The description of a cluster. -/
structure Infrastructure where
  /-- The name of the cluster. -/
  name : String := ""
  /-- The platform of the cluster. -/
  platform : PlatformStatus := {}
  deriving Repr, DecidableEq, Inhabited

namespace Infrastructure

/-- A text that is not empty. -/
def nonEmpty (s : String) : Option String := if s = "" then none else some s

/-- The region on AWS. -/
def awsRegion? (i : Infrastructure) : Option String :=
  i.platform.aws.bind fun a => nonEmpty a.region

/-- The region on Google Cloud. -/
def gcpRegion? (i : Infrastructure) : Option String :=
  i.platform.gcp.bind fun g => nonEmpty g.region

/-- The project on Google Cloud. -/
def gcpProject? (i : Infrastructure) : Option String :=
  i.platform.gcp.bind fun g => nonEmpty g.projectId

/-- The configuration for a registry that has none: the object storage of the platform, or a
volume on platforms without one. -/
def defaultSpec (i : Infrastructure) : Spec :=
  match i.platform.platform with
  | .aws => { s3 := some {} }
  | .azure => { azure := some {} }
  | .gcp => { gcs := some {} }
  | .openStack => { swift := some {} }
  | _ => { filesystem := some {} }

end Infrastructure

/-! ## JSON -/

/-- A tag as JSON. -/
def ResourceTag.toJson (t : ResourceTag) : Json :=
  .object [("key", .text t.key), ("value", .text t.value)]

/-- Reads a tag. -/
def ResourceTag.ofJson (v : Json) : Json.Decoded ResourceTag := do
  let fs ← Json.record ["key", "value"] v
  return {
    key := ← fs.required "key" Json.string
    value := ← fs.required "value" Json.string }

/-- A tag of Google Cloud as JSON. -/
def GcpTag.toJson (t : GcpTag) : Json :=
  .object [("parentId", .text t.parentId), ("key", .text t.key), ("value", .text t.value)]

/-- Reads a tag of Google Cloud. -/
def GcpTag.ofJson (v : Json) : Json.Decoded GcpTag := do
  let fs ← Json.record ["parentId", "key", "value"] v
  return {
    parentId := ← fs.required "parentId" Json.string
    key := ← fs.required "key" Json.string
    value := ← fs.required "value" Json.string }

/-- A list of tags as JSON. -/
def tagsToJson (tags : List ResourceTag) : Json := .arr (tags.map ResourceTag.toJson)

/-- Details on AWS as JSON. -/
def AwsPlatform.toJson (p : AwsPlatform) : Json :=
  .object [("region", .text p.region), ("resourceTags", tagsToJson p.resourceTags)]

/-- Reads details on AWS. -/
def AwsPlatform.ofJson (v : Json) : Json.Decoded AwsPlatform := do
  let fs ← Json.record ["region", "resourceTags"] v
  return {
    region := ← fs.orEmpty "region"
    resourceTags := ← fs.orDefault "resourceTags" [] (Json.list ResourceTag.ofJson) }

/-- Details on Azure as JSON. -/
def AzurePlatform.toJson (p : AzurePlatform) : Json :=
  .object [
    ("resourceGroupName", .text p.resourceGroupName),
    ("cloudName", .text p.cloudName),
    ("resourceTags", tagsToJson p.resourceTags)]

/-- Reads details on Azure. -/
def AzurePlatform.ofJson (v : Json) : Json.Decoded AzurePlatform := do
  let fs ← Json.record ["resourceGroupName", "cloudName", "resourceTags"] v
  return {
    resourceGroupName := ← fs.orEmpty "resourceGroupName"
    cloudName := ← fs.orEmpty "cloudName"
    resourceTags := ← fs.orDefault "resourceTags" [] (Json.list ResourceTag.ofJson) }

/-- Details on Google Cloud as JSON. -/
def GcpPlatform.toJson (p : GcpPlatform) : Json :=
  .object [
    ("projectId", .text p.projectId),
    ("region", .text p.region),
    ("resourceLabels", tagsToJson p.resourceLabels),
    ("resourceTags", .arr (p.resourceTags.map GcpTag.toJson))]

/-- Reads details on Google Cloud. -/
def GcpPlatform.ofJson (v : Json) : Json.Decoded GcpPlatform := do
  let fs ← Json.record ["projectId", "region", "resourceLabels", "resourceTags"] v
  return {
    projectId := ← fs.orEmpty "projectId"
    region := ← fs.orEmpty "region"
    resourceLabels := ← fs.orDefault "resourceLabels" [] (Json.list ResourceTag.ofJson)
    resourceTags := ← fs.orDefault "resourceTags" [] (Json.list GcpTag.ofJson) }

/-- Details on OpenStack as JSON. -/
def OpenStackPlatform.toJson (p : OpenStackPlatform) : Json :=
  .object [("cloudName", .text p.cloudName)]

/-- Reads details on OpenStack. -/
def OpenStackPlatform.ofJson (v : Json) : Json.Decoded OpenStackPlatform := do
  let fs ← Json.record ["cloudName"] v
  return { cloudName := ← fs.orEmpty "cloudName" }

/-- The platform of a cluster as JSON. -/
def PlatformStatus.toJson (p : PlatformStatus) : Json :=
  .object ([("type", p.platform.toJson)]
    ++ Json.optional "aws" (p.aws.map AwsPlatform.toJson)
    ++ Json.optional "azure" (p.azure.map AzurePlatform.toJson)
    ++ Json.optional "gcp" (p.gcp.map GcpPlatform.toJson)
    ++ Json.optional "openstack" (p.openstack.map OpenStackPlatform.toJson))

/-- Reads the platform of a cluster. -/
def PlatformStatus.ofJson (v : Json) : Json.Decoded PlatformStatus := do
  let fs ← Json.record ["type", "aws", "azure", "gcp", "openstack"] v
  return {
    platform := ← fs.orDefault "type" .none Platform.ofJson
    aws := ← fs.orNone "aws" AwsPlatform.ofJson
    azure := ← fs.orNone "azure" AzurePlatform.ofJson
    gcp := ← fs.orNone "gcp" GcpPlatform.ofJson
    openstack := ← fs.orNone "openstack" OpenStackPlatform.ofJson }

/-- The description of a cluster as JSON. -/
def Infrastructure.toJson (i : Infrastructure) : Json :=
  .object [("infrastructureName", .text i.name), ("platformStatus", i.platform.toJson)]

/-- Reads the description of a cluster. -/
def Infrastructure.ofJson (v : Json) : Json.Decoded Infrastructure := do
  let fs ← Json.record ["infrastructureName", "platformStatus"] v
  return {
    name := ← fs.orEmpty "infrastructureName"
    platform := ← fs.orDefault "platformStatus" {} PlatformStatus.ofJson }

end Depot
