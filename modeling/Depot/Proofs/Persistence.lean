import Depot.Infrastructure
import Depot.Proofs.Fields
import Depot.Proofs.Moments

set_option autoImplicit false

/-!
# Resources survive being stored

Registries and descriptions of clusters are kept as JSON texts between runs of the operator. What
is written is read back unchanged, so nothing the operator has recorded is lost: not the ownership
of the storage, nor the configuration that was applied, nor the conditions with their times.

## Main definitions

* `Registry.IsDated` — the times of the conditions are times that can be written.
* `Condition.timedJson` — a condition as JSON, with its time as it is given.

## Main results

* `Spec.encodes`, `Condition.encodes`, `Registry.encodes`, `Infrastructure.encodes` — every block is
  read as what it was written from.
* `Registry.isDated_of_ofJson` — a registry that was read has only times that can be written.
* `resources_persist` — resources are read back from their texts, writing again what was read
  changes nothing, and a local time keeps its instant.

## Design

A block is read as what it was written from if its members are the known fields of the reader, in
their order, and the reader builds the block from them. Blocks with parts that may be left out name
the lemmas for these parts, in the order of the fields; everything else is found by `simp`.
-/

namespace Depot

open Json (Encodes Fits ofMember_map)

/-! ## Configurations -/

/-- A key of a secret is read as what it was written from. -/
lemma SecretKey.encodes (k : SecretKey) : Encodes ofJson k.toJson k :=
  .record (by simp) (by simp) (by simp)

/-- The settings of a CloudFront distribution are read back. -/
lemma S3.CloudFront.encodes (c : S3.CloudFront) : Encodes ofJson c.toJson c := by
  have hkey := SecretKey.encodes c.privateKey
  exact .record (by simp [hkey.textual]) (by simp) (by simp [hkey.read_eq])

/-- The name of a config map is read back. -/
lemma configMap_encodes (name : String) :
    Encodes configMapOfJson (namedToJson "name" name) name :=
  .record (by simp) (by simp) (by simp)

/-- The name of a claim is read back. -/
lemma claim_encodes (name : String) : Encodes claimOfJson (namedToJson "claim" name) name :=
  .record (by simp) (by simp) (by simp)

/-- A block for S3 is read back. -/
lemma S3.Config.encodes (c : S3.Config) : Encodes ofJson c.toJson c := by
  have htrusted := ofMember_map configMap_encodes c.trustedCa
  have hfront := ofMember_map S3.CloudFront.encodes c.cloudFront
  refine .record ?_ (by simp) (by simp [htrusted, hfront])
  simpa using Fits.optional configMap_encodes <| .last S3.CloudFront.encodes

/-- A block for Azure is read back. -/
lemma Azure.Config.encodes (c : Azure.Config) : Encodes ofJson c.toJson c :=
  .record (by simp) (by simp) (by simp)

/-- A block for Google Cloud is read back. -/
lemma Gcs.Config.encodes (c : Gcs.Config) : Encodes ofJson c.toJson c :=
  .record (by simp) (by simp) (by simp)

/-- A block for Swift is read back. -/
lemma Swift.Config.encodes (c : Swift.Config) : Encodes ofJson c.toJson c :=
  .record (by simp) (by simp) (by simp)

/-- A block for a volume is read back. -/
lemma Filesystem.Config.encodes (c : Filesystem.Config) : Encodes ofJson c.toJson c :=
  .record (.last claim_encodes) (by simp) (by simp [ofMember_map claim_encodes])

/-- A configuration is read back, whichever backends have a block. -/
theorem Spec.encodes (s : Spec) : Encodes ofJson s.toJson s := by
  have hs3 := ofMember_map S3.Config.encodes s.s3
  have hazure := ofMember_map Azure.Config.encodes s.azure
  have hgcs := ofMember_map Gcs.Config.encodes s.gcs
  have hswift := ofMember_map Swift.Config.encodes s.swift
  have hfilesystem := ofMember_map Filesystem.Config.encodes s.filesystem
  refine .record ?_ (by simp) (by simp [hs3, hazure, hgcs, hswift, hfilesystem])
  simp only [List.append_assoc]
  exact .optional S3.Config.encodes <| .optional Azure.Config.encodes <|
    .optional Gcs.Config.encodes <| .optional Swift.Config.encodes <|
    .last Filesystem.Config.encodes

/-! ## Conditions -/

/-- The kind of a condition is read back. -/
lemma Condition.Kind.encodes (k : Kind) : Encodes ofJson k.toJson k :=
  .name (by cases k <;> rfl)

/-- The status of a condition is read back. -/
lemma Condition.Status.encodes (s : Status) : Encodes ofJson s.toJson s :=
  .name (by cases s <;> rfl)

/-- The time of a condition, if it has one, can be written. -/
def Condition.IsDated (c : Condition) : Prop :=
  ∀ t ∈ c.lastTransition, Timestamp.inRange t.date.year

/-- A condition as JSON, with its time as it is given. -/
def Condition.timedJson (c : Condition) (time : Json) : Json :=
  .object [
    ("type", c.kind.toJson),
    ("status", c.status.toJson),
    ("reason", .text c.reason),
    ("message", .text c.message),
    ("lastTransitionTime", time)]

/-- The condition with another time. -/
def Condition.changedAt (c : Condition) (t : Timestamp) : Condition :=
  { c with lastTransition := some t }

/-- The time of a condition is read in whichever way it is written. -/
lemma Condition.timed_encodes (c : Condition) {time : Json} {t : Option Timestamp}
    (ht : time.IsTextual) (hr : Json.ofMember timestampOfJson (some time) = .ok t) :
    Encodes ofJson (c.timedJson time) { c with lastTransition := t } := by
  have hkind := Kind.encodes c.kind
  have hstatus := Status.encodes c.status
  exact .record (by simp [hkind.textual, hstatus.textual, ht]) (by simp)
    (by simp [hkind.read_eq, hstatus.read_eq, hr])

/-- A date and time is read back from every text that stands for it. -/
lemma Condition.timestamp_encodes {s : String} {t : Timestamp}
    (h : Timestamp.parse? s = some t) : Encodes timestampOfJson (.text s) t :=
  ⟨.text s, nofun, by simp [timestampOfJson, h]⟩

/-- A condition is written with the text of its last transition. -/
lemma Condition.toJson_eq_timedJson (c : Condition) :
    c.toJson = c.timedJson (.textOrNull (c.lastTransition.map Timestamp.text)) := rfl

/-- A condition is read back, with its time or without one. -/
theorem Condition.encodes {c : Condition} (h : c.IsDated) : Encodes ofJson c.toJson c := by
  have htime : Json.ofMember timestampOfJson
      (some (.textOrNull (c.lastTransition.map Timestamp.text))) = .ok c.lastTransition := by
    cases ht : c.lastTransition with
    | none => rfl
    | some t => exact (timestamp_encodes (Timestamp.parse?_text (h t ht))).nullable_eq
  rw [toJson_eq_timedJson]
  exact c.timed_encodes (by simp) htime

/-! ## Registries -/

/-- The owner is read back. -/
lemma Ownership.encodes (o : Ownership) : Encodes ofJson o.toJson o :=
  .name (by cases o <;> rfl)

/-- The times of the conditions can be written. -/
def Status.IsDated (s : Status) : Prop := ∀ c ∈ s.conditions, c.IsDated

/-- The status of a registry is read back if its conditions have years of four digits. -/
lemma Status.encodes {s : Status} (h : s.IsDated) : Encodes ofJson s.toJson s := by
  have howner := ofMember_map Ownership.encodes s.ownership
  have happlied := Spec.encodes s.applied
  have hconditions := Encodes.list fun c hc => Condition.encodes (h c hc)
  refine .record ?_ (by simp) (by simp [howner, happlied.read_eq, hconditions.read_eq])
  exact .optional Ownership.encodes (by simp [happlied.textual, hconditions.textual])

/-- The times of the conditions are times that can be written, as those of the years 0 to 9999. -/
def Registry.IsDated (r : Registry) : Prop := r.status.IsDated

/-- A registry is read back: the ownership, the applied configuration and all conditions. -/
theorem Registry.encodes {r : Registry} (h : r.IsDated) : Encodes ofJson r.toJson r := by
  have hspec := Spec.encodes r.spec
  have hstatus := Status.encodes h
  exact .record (by simp [hspec.textual, hstatus.textual]) (by simp)
    (by simp [hspec.read_eq, hstatus.read_eq])

/-! ## Descriptions of clusters -/

/-- The platform is read back. -/
lemma Platform.encodes (p : Platform) : Encodes ofJson p.toJson p :=
  .name (by cases p <;> rfl)

/-- A tag is read back. -/
lemma ResourceTag.encodes (t : ResourceTag) : Encodes ofJson t.toJson t :=
  .record (by simp) (by simp) (by simp)

/-- The tags of a platform are read back, in their order. -/
lemma tags_encodes (tags : List ResourceTag) :
    Encodes (Json.list ResourceTag.ofJson) (tagsToJson tags) tags :=
  .list fun t _ => t.encodes

/-- A tag of Google Cloud is read back. -/
lemma GcpTag.encodes (t : GcpTag) : Encodes ofJson t.toJson t :=
  .record (by simp) (by simp) (by simp)

/-- What the cluster says about AWS is read back. -/
lemma AwsPlatform.encodes (p : AwsPlatform) : Encodes ofJson p.toJson p := by
  have htags := tags_encodes p.resourceTags
  exact .record (by simp [htags.textual]) (by simp) (by simp [htags.read_eq])

/-- What the cluster says about Azure is read back. -/
lemma AzurePlatform.encodes (p : AzurePlatform) : Encodes ofJson p.toJson p := by
  have htags := tags_encodes p.resourceTags
  exact .record (by simp [htags.textual]) (by simp) (by simp [htags.read_eq])

/-- What the cluster says about Google Cloud is read back. -/
lemma GcpPlatform.encodes (p : GcpPlatform) : Encodes ofJson p.toJson p := by
  have hlabels := tags_encodes p.resourceLabels
  have htags : Encodes (Json.list GcpTag.ofJson) (.arr (p.resourceTags.map GcpTag.toJson))
      p.resourceTags := .list fun t _ => t.encodes
  exact .record (by simp [hlabels.textual, htags.textual]) (by simp)
    (by simp [hlabels.read_eq, htags.read_eq])

/-- What the cluster says about OpenStack is read back. -/
lemma OpenStackPlatform.encodes (p : OpenStackPlatform) : Encodes ofJson p.toJson p :=
  .record (by simp) (by simp) (by simp)

/-- What the cluster says about its platform is read back. -/
lemma PlatformStatus.encodes (p : PlatformStatus) : Encodes ofJson p.toJson p := by
  have hplatform := Platform.encodes p.platform
  have haws := ofMember_map AwsPlatform.encodes p.aws
  have hazure := ofMember_map AzurePlatform.encodes p.azure
  have hgcp := ofMember_map GcpPlatform.encodes p.gcp
  have hopenstack := ofMember_map OpenStackPlatform.encodes p.openstack
  refine .record ?_ (by simp) (by simp [hplatform.read_eq, haws, hazure, hgcp, hopenstack])
  simp only [List.append_assoc, List.cons_append, List.nil_append, Json.fits_cons]
  exact ⟨hplatform.textual, .optional AwsPlatform.encodes <| .optional AzurePlatform.encodes <|
    .optional GcpPlatform.encodes <| .last OpenStackPlatform.encodes⟩

/-- A description of a cluster is read back. -/
theorem Infrastructure.encodes (i : Infrastructure) : Encodes ofJson i.toJson i := by
  have hplatform := PlatformStatus.encodes i.platform
  exact .record (by simp [hplatform.textual]) (by simp) (by simp [hplatform.read_eq])

/-! ## What was read can be written -/

/-- A date that was read has a year of four digits. -/
lemma Condition.inRange_of_timestampOfJson {v : Json} {t : Timestamp}
    (h : timestampOfJson v = .ok t) : Timestamp.inRange t.date.year := by
  unfold timestampOfJson at h
  split at h
  · cases h
  split at h
  · next hp =>
    cases h
    exact Timestamp.inRange_of_parse? hp
  · cases h

/-- A condition that was read has a year of four digits. -/
lemma Condition.isDated_of_ofJson {v : Json} {c : Condition} (h : ofJson v = .ok c) :
    c.IsDated := by
  simp only [ofJson, Json.bind_eq_ok] at h
  obtain ⟨fs, -, kind, -, status, -, reason, -, message, -, time, ht, h⟩ := h
  cases h
  rintro t rfl
  obtain ⟨w, hw⟩ := Json.exists_of_orNone ht
  exact inRange_of_timestampOfJson hw

/-- The conditions of a status that was read have years of four digits. -/
lemma Status.isDated_of_ofJson {v : Json} {s : Status} (h : ofJson v = .ok s) : s.IsDated := by
  simp only [ofJson, Json.bind_eq_ok] at h
  obtain ⟨fs, -, owner, -, applied, -, conditions, hc, h⟩ := h
  cases h
  intro c hmem
  rcases Json.exists_of_orDefault hc with rfl | ⟨w, hw⟩
  · cases hmem
  · obtain ⟨u, hu⟩ := Json.exists_of_list hw c hmem
    exact Condition.isDated_of_ofJson hu

/-- **A registry that was read** has only times that can be written. -/
theorem Registry.isDated_of_ofJson {v : Json} {r : Registry} (h : ofJson v = .ok r) :
    r.IsDated := by
  simp only [ofJson, Json.bind_eq_ok] at h
  obtain ⟨fs, -, spec, -, status, hs, h⟩ := h
  cases h
  rcases Json.exists_of_orDefault hs with rfl | ⟨w, hw⟩
  · exact fun c hc => nomatch hc
  · exact Status.isDated_of_ofJson hw

/-! ## Persistence -/

/-- The years 0 to 9999 have texts, and local times in them stand for moments that have texts. -/
lemma Timestamp.inRange_of_year {year : Int} (h : -1 ≤ year ∧ year ≤ 10000) :
    inRange year := by
  simp only [inRange, Bool.and_eq_true, decide_eq_true_eq]
  omega

/-- **Resources survive being stored.** A registry is read back from its text as it was written,
whatever blocks, texts and conditions it has; its times may lie in any year that can be written, of
which the years 0 to 9999 are some. So is every description of a cluster. A registry that was read
from any text therefore stays the same when it is written and read again. The time of a condition
may be given as a local time with its offset from UTC: it is read as the same instant, and is kept
from then on.

**Proof sketch.** Each block is read as what it was written from, from the innermost block outwards
(`Registry.encodes`, `Infrastructure.encodes`), and values without numbers are read back from their
texts (`Json.parse?_print`). A reader of timestamps only accepts years that can be written
(`Registry.isDated_of_ofJson`). A local time is read as the moment in UTC that it stands for
(`Timestamp.parse?_localText`). -/
theorem resources_persist :
    (∀ r : Registry, r.IsDated → Json.decode Registry.ofJson (Json.print r.toJson) = .ok r) ∧
    (∀ i : Infrastructure, Json.decode Infrastructure.ofJson (Json.print i.toJson) = .ok i) ∧
    (∀ (text : String) (r : Registry), Json.decode Registry.ofJson text = .ok r →
      Json.decode Registry.ofJson (Json.print r.toJson) = .ok r) ∧
    ∀ (c : Condition) (t : Timestamp) (o : Timestamp.Offset),
      0 ≤ t.date.year → t.date.year ≤ 9999 → ∃ u : Timestamp, u.IsInstantOf t o ∧
        Json.decode Condition.ofJson (Json.print (c.timedJson (.text (t.localText o))))
          = .ok (c.changedAt u) ∧
        Json.decode Condition.ofJson (Json.print (c.changedAt u).toJson)
          = .ok (c.changedAt u) := by
  refine ⟨fun r h => (Registry.encodes h).decode_print, fun i => i.encodes.decode_print,
    fun text r h => ?_, fun c t o h₀ h₁ => ?_⟩
  · obtain ⟨v, hv⟩ := Json.exists_of_decode h
    exact (Registry.encodes (Registry.isDated_of_ofJson hv)).decode_print
  · have hyear := t.year_shift o.total
    have hu : Timestamp.inRange (t.shift o.total).date.year :=
      Timestamp.inRange_of_year (by omega)
    have hread := Timestamp.parse?_localText o (Timestamp.inRange_of_year (by omega)) hu
    refine ⟨t.shift o.total, t.isInstantOf_shift o, ?_, ?_⟩
    · have htime : Json.ofMember Condition.timestampOfJson (some (.text (t.localText o)))
          = .ok (some (t.shift o.total)) := (Condition.timestamp_encodes hread).nullable_eq
      exact (c.timed_encodes (.text _) htime).decode_print
    · refine (Condition.encodes fun u hmem => ?_).decode_print
      cases hmem
      exact hu

/-- A registry with two blocks, whose only condition changed in a leap second at the end of the
year 9999. -/
def Registry.leaping : Registry where
  spec := {
    swift := some { container := "a \"b\" \\ \n \x01 é" }
    filesystem := some { claim := some "" } }
  status := {
    ownership := some .managed
    conditions := [{
      kind := .storageExists
      status := .holds
      reason := Condition.Reason.creationSuccessful
      message := ""
      lastTransition := some ⟨⟨9999, 12, 31⟩, 23, 59, 60, 1, by decide⟩ }] }

/-- The conditions of the registry have years of four digits. -/
lemma Registry.isDated_leaping : leaping.IsDated := by
  simp [Registry.IsDated, Status.IsDated, Condition.IsDated, leaping, Timestamp.inRange]

/-- The registry is read back, also after it was read. Half past eleven in the evening of
29 February 2024, one and a half hours behind UTC, is kept as the instant on 1 March that it is. -/
theorem resources_persist_leaping :
    (Registry.leaping.IsDated ∧
      Json.decode Registry.ofJson (Json.print Registry.leaping.toJson) = .ok Registry.leaping) ∧
    ∃ u : Timestamp,
      u.IsInstantOf ⟨⟨2024, 2, 29⟩, 23, 30, 0, 500000000, by decide⟩ ⟨true, 1, 30, by decide⟩ ∧
      Json.decode Condition.ofJson
          (Json.print (Condition.toJson ⟨.storageExists, .holds, "", "", some u⟩))
        = .ok ⟨.storageExists, .holds, "", "", some u⟩ := by
  obtain ⟨hwritten, -, hagain, hlocal⟩ := resources_persist
  have hdated := Registry.isDated_leaping
  obtain ⟨u, hu, -, hkept⟩ := hlocal ⟨.storageExists, .holds, "", "", none⟩
    ⟨⟨2024, 2, 29⟩, 23, 30, 0, 500000000, by decide⟩ ⟨true, 1, 30, by decide⟩
    (by decide) (by decide)
  exact ⟨⟨hdated, hagain _ _ (hwritten Registry.leaping hdated)⟩, u, hu, hkept⟩

end Depot
