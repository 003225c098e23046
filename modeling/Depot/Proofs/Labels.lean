import Depot.Azure.Account
import Depot.Gcs.Bucket
import Depot.S3.Bucket
import Mathlib.Data.List.Nodup

set_option autoImplicit false

/-!
# Labels that cannot be overridden

The operator's buckets and accounts carry tags or labels that tell which cluster they belong to, by
which they are found when the cluster is gone. Users can have tags of their own on all resources,
with any keys and any number of times. All of them go into one dictionary, the operator's last, so
that these stand whatever the others are.

## Main definitions

* `IsLabelled` — a dictionary of the operator's entries and, for all other keys, of what the user's
  tags say last.

## Main results

* `Dict.get?_ofList_append_cons` — the last entry for a key counts.
* `isLabelled_ofList` — the operator's entries stand if they come last.
* `IsLabelled.eq` — there is no other dictionary of the same entries and tags.
* `labels_stand` — what the buckets and accounts carry.
-/

namespace Depot

/-! ## The last entry counts -/

namespace Dict

variable {α : Type} {entries before after : List (String × α)} {key : String} {value : α}

/-- Entries for other keys change nothing about a key. -/
lemma get?_foldl_insert (d : Dict α) (h : key ∉ entries.map (·.1)) :
    (entries.foldl (fun d (k, v) => d.insert k v) d).get? key = d.get? key := by
  induction entries generalizing d with
  | nil => rfl
  | cons e rest ih =>
    rw [List.map_cons, List.mem_cons, not_or] at h
    obtain ⟨hne, hrest⟩ := h
    rw [List.foldl_cons, ih _ hrest, get?_insert_of_ne d e.2 hne]

/-- **The last entry for a key counts.** -/
theorem get?_ofList_append_cons (h : key ∉ after.map (·.1)) :
    (ofList (before ++ (key, value) :: after)).get? key = some value := by
  rw [ofList, List.foldl_append, List.foldl_cons, get?_foldl_insert _ h, get?_insert_self]

/-- A key without an entry has no value. -/
lemma get?_ofList_eq_none (h : key ∉ entries.map (·.1)) : (ofList entries).get? key = none :=
  get?_foldl_insert empty h

end Dict

/-! ## Labels -/

/-- The tag as an entry. -/
def ResourceTag.entry (t : ResourceTag) : String × String := (t.key, t.value)

/-- The dictionary holds the operator's entries and, for all other keys, what the user's tags say
last. -/
structure IsLabelled (own : List (String × String)) (tags : List ResourceTag) (d : Dict String) :
    Prop where
  /-- The operator's keys have the operator's values, whatever the tags say. -/
  stands : ∀ key value, (key, value) ∈ own → d.get? key = some value
  /-- Any other key has the value of the last tag with this key. -/
  last : ∀ before t after, tags = before ++ t :: after → t.key ∉ after.map (·.key) →
    t.key ∉ own.map (·.1) → d.get? t.key = some t.value
  /-- There are no other keys. -/
  absent : ∀ key, key ∉ tags.map (·.key) → key ∉ own.map (·.1) → d.get? key = none

variable {own : List (String × String)} {tags : List ResourceTag} {d d' : Dict String}
  {key : String}

/-- The entries of tags have the keys of the tags. -/
lemma ResourceTag.map_entry (tags : List ResourceTag) :
    (tags.map entry).map (·.1) = tags.map (·.key) :=
  List.map_map

/-- **The operator's entries stand if they come last**, each with a key of its own.

**Proof sketch.** The last entry of a key decides. The operator's keys are distinct, so none follows
one of its entries; after the last tag of a key come other keys only. -/
theorem isLabelled_ofList (hown : (own.map (·.1)).Nodup) :
    IsLabelled own tags (Dict.ofList (tags.map ResourceTag.entry ++ own)) where
  stands key value hmem := by
    obtain ⟨before, after, rfl⟩ := List.append_of_mem hmem
    rw [List.map_append, List.map_cons] at hown
    have hafter : key ∉ after.map (·.1) := (List.Nodup.of_append_right hown).notMem
    rw [← List.append_assoc]
    exact Dict.get?_ofList_append_cons hafter
  last before t after htags hafter hother := by
    rw [htags, List.map_append, List.map_cons, List.append_assoc, List.cons_append]
    refine Dict.get?_ofList_append_cons ?_
    rw [List.map_append, ResourceTag.map_entry, List.mem_append]
    exact not_or.2 ⟨hafter, hother⟩
  absent key htags hother := by
    refine Dict.get?_ofList_eq_none ?_
    rw [List.map_append, ResourceTag.map_entry, List.mem_append]
    exact not_or.2 ⟨htags, hother⟩

/-- So do they if they are put in after the tags. -/
lemma isLabelled_foldl (hown : (own.map (·.1)).Nodup) :
    IsLabelled own tags (own.foldl (fun d (k, v) => d.insert k v)
      (Dict.ofList (tags.map ResourceTag.entry))) := by
  rw [Dict.ofList, ← List.foldl_append]
  exact isLabelled_ofList hown

/-- Of the tags with a key one is the last.

**Proof sketch.** By induction on the tags: the last one is among the rest, or it is the first. -/
lemma ResourceTag.exists_last (h : key ∈ tags.map (·.key)) :
    ∃ before t after, tags = before ++ t :: after ∧ t.key = key ∧ key ∉ after.map (·.key) := by
  induction tags with
  | nil => cases h
  | cons t tags ih =>
    by_cases hrest : key ∈ tags.map (·.key)
    · obtain ⟨before, u, after, rfl, hu, hafter⟩ := ih hrest
      exact ⟨t :: before, u, after, rfl, hu, hafter⟩
    · have ht : key = t.key := (List.mem_cons.1 h).resolve_right hrest
      exact ⟨[], t, tags, rfl, ht.symm, hrest⟩

/-- **There is no other dictionary of the same entries and tags**: a key is the operator's, or that
of a tag, or has no value. -/
theorem IsLabelled.eq (h : IsLabelled own tags d) (h' : IsLabelled own tags d') : d = d' := by
  refine Dict.ext_get? fun key => ?_
  by_cases hown : key ∈ own.map (·.1)
  · obtain ⟨⟨key, value⟩, hmem, rfl⟩ := List.mem_map.1 hown
    rw [h.stands key value hmem, h'.stands key value hmem]
  by_cases htags : key ∈ tags.map (·.key)
  · obtain ⟨before, t, after, heq, rfl, hafter⟩ := ResourceTag.exists_last htags
    rw [h.last before t after heq hafter hown, h'.last before t after heq hafter hown]
  · rw [h.absent key htags hown, h'.absent key htags hown]

/-! ## Buckets and accounts -/

namespace Infrastructure

variable (infra : Infrastructure)

/-- The tags that the user wants on all resources of AWS. -/
def awsTags : List ResourceTag := infra.platform.aws.elim [] (·.resourceTags)

/-- The tags that the user wants on all resources of Azure. -/
def azureTags : List ResourceTag := infra.platform.azure.elim [] (·.resourceTags)

/-- The labels that the user wants on all resources of Google Cloud. -/
def gcpLabels : List ResourceTag := infra.platform.gcp.elim [] (·.resourceLabels)

end Infrastructure

/-- Buckets of S3 carry two tags of the operator, and those that the user wants on AWS. -/
lemma S3.isLabelled_bucketTags (infra : Infrastructure) :
    IsLabelled [("kubernetes.io/cluster/" ++ infra.name, "owned"),
      ("Name", infra.name ++ "-image-registry")] infra.awsTags (bucketTags infra) := by
  -- whatever the name of the cluster is, the keys begin with different letters
  have hne : "kubernetes.io/cluster/" ++ infra.name ≠ "Name" := by
    intro h
    have hfirst := congrArg (·.toList.head?) h
    simp at hfirst
  exact isLabelled_foldl (by simpa using hne)

/-- Storage accounts carry one tag of the operator, and those that the user wants on Azure. -/
lemma Azure.isLabelled_accountTags (infra : Infrastructure) :
    IsLabelled [("kubernetes.io_cluster." ++ infra.name, "owned")] infra.azureTags
      (accountTags infra) :=
  isLabelled_foldl (List.nodup_singleton _)

/-- Buckets of Google Cloud carry one label of the operator, and those that the user wants there. -/
lemma Gcs.isLabelled_bucketLabels (infra : Infrastructure) :
    IsLabelled [("kubernetes-io-cluster-" ++ infra.name, "owned")] infra.gcpLabels
      (bucketLabels infra) :=
  isLabelled_foldl (List.nodup_singleton _)

/-- The operator's entries and the user's tags are all that matters. -/
lemma eq_of_isLabelled {own : Infrastructure → List (String × String)}
    {tags : Infrastructure → List ResourceTag} {d : Infrastructure → Dict String}
    (h : ∀ infra, IsLabelled (own infra) (tags infra) (d infra)) {infra infra' : Infrastructure}
    (hown : own infra' = own infra) (htags : tags infra' = tags infra) : d infra' = d infra := by
  have h' := h infra'
  rw [hown, htags] at h'
  exact h'.eq (h infra)

/-- **The operator's tags and labels stand.** In what buckets and accounts carry, the keys of the
operator have its values, any other key has the value of the last of the user's tags with this key,
and there are no others. Nothing matters but the name of the cluster and the user's tags for the
same platform.

**Proof sketch.** The dictionaries are made of the user's tags and then the operator's entries, and
the last entry for a key counts (`Dict.get?_ofList_append_cons`). That settles what every key stands
for, so that the same name and tags make the same dictionary (`IsLabelled.eq`). -/
theorem labels_stand (infra : Infrastructure) :
    (IsLabelled [("kubernetes.io/cluster/" ++ infra.name, "owned"),
        ("Name", infra.name ++ "-image-registry")] infra.awsTags (S3.bucketTags infra) ∧
      IsLabelled [("kubernetes.io_cluster." ++ infra.name, "owned")] infra.azureTags
        (Azure.accountTags infra) ∧
      IsLabelled [("kubernetes-io-cluster-" ++ infra.name, "owned")] infra.gcpLabels
        (Gcs.bucketLabels infra)) ∧
    ∀ infra' : Infrastructure, infra'.name = infra.name →
      (infra'.awsTags = infra.awsTags → S3.bucketTags infra' = S3.bucketTags infra) ∧
      (infra'.azureTags = infra.azureTags → Azure.accountTags infra' = Azure.accountTags infra) ∧
      (infra'.gcpLabels = infra.gcpLabels → Gcs.bucketLabels infra' = Gcs.bucketLabels infra) := by
  have haws := S3.isLabelled_bucketTags
  have hazure := Azure.isLabelled_accountTags
  have hgcp := Gcs.isLabelled_bucketLabels
  refine ⟨⟨haws infra, hazure infra, hgcp infra⟩, fun infra' hname => ⟨?_, ?_, ?_⟩⟩
  · exact eq_of_isLabelled haws (by rw [hname])
  · exact eq_of_isLabelled hazure (by rw [hname])
  · exact eq_of_isLabelled hgcp (by rw [hname])

/-- The tags of a user with the keys of the operator, and one key twice. -/
example :
    let tags : List ResourceTag := [⟨"team", "a"⟩, ⟨"Name", "mine"⟩,
      ⟨"kubernetes.io/cluster/c1", "shared"⟩, ⟨"team", "b"⟩]
    (S3.bucketTags ⟨"c1", { aws := some { resourceTags := tags } }⟩).entries =
      [("Name", "c1-image-registry"), ("kubernetes.io/cluster/c1", "owned"), ("team", "b")] := by
  decide +kernel

end Depot
