import Depot.Proofs.Surroundings
import Depot.Storage.Basic
import Mathlib.Data.Set.List

set_option autoImplicit false

/-!
# Emptying and deleting a resource

Surroundings that tell the truth about objects too, in which nothing fails: what is listed is
complete after a number of pages that is fixed beforehand, however large, an object is deleted when
asked for, and so is a resource that is empty. There the resource of every backend can be emptied
page by page and deleted then, and it is gone in the end, also if it was gone from the start.

A listing goes on while what was listed is deleted, so it is not a copy of what was stored when it
began. What carries the loop over its pages is that everything listed so far is gone.

## Main definitions

* `Item`, `Stock` — an object, and what exists with the objects in it.
* `Stock.Tells` — an answer about objects is true and no failure.
* `Surroundings.stock` — the contract with surroundings that tell the truth about objects.
* `Resource.Operations.Clears` — the steps of a lifecycle empty and delete a resource.

## Main results

* `Stock.exists_tells` — there is a true answer to every call.
* `Stock.ends_emptying` — a resource is emptied page by page.
* `S3.clears`, `Gcs.clears`, `Swift.clears`, `Azure.clears`, `Filesystem.clears` — the steps of the
  lifecycle empty and delete a resource.
-/

namespace Depot

/-! ## Objects -/

/-- An object in a bucket or container. -/
inductive Item where
  /-- A version of an object in S3. -/
  | s3 (bucket : String) (object : S3.Object)
  /-- An object in Google Cloud. -/
  | gcs (bucket name : String)
  /-- An object in Swift. -/
  | swift (container name : String)
  deriving Repr, DecidableEq, Inhabited

/-- The bucket or container that an object is in. -/
def Item.holder : Item → Asset
  | .s3 bucket _ => .of .s3 bucket
  | .gcs bucket _ => .of .gcs bucket
  | .swift container _ => .of .swift container

/-- What exists, with the objects in it. -/
structure Stock where
  /-- The resources. -/
  cloud : Cloud
  /-- The objects. -/
  items : List Item := []
  /-- The objects that were listed since a listing began. -/
  listed : List Item := []
  /-- In how many pages they were listed. -/
  pages : Nat := 0

namespace Stock

/-- The stock after another page of a listing. -/
def list (g : Stock) (begins : Bool) (items : List Item) : Stock :=
  { g with
    listed := (if begins then [] else g.listed) ++ items
    pages := (if begins then 0 else g.pages) + 1 }

/-- The stock without some objects. -/
def drop (g : Stock) (items : List Item) : Stock :=
  { g with items := g.items.filter (· ∉ items) }

/-- The objects after a call was answered. -/
def handle (g : Stock) : (c : World.Call) → World.Answer c → Stock
  | .s3 (.listVersions bucket marker), .ok page =>
    g.list marker.isNone (page.objects.map (.s3 bucket))
  | .s3 (.deleteObjects bucket objects), .ok _ => g.drop (objects.map (.s3 bucket))
  | .gcs (.listObjects bucket token), .ok page => g.list token.isNone (page.names.map (.gcs bucket))
  | .gcs (.deleteObject bucket name), r =>
    if Lifecycle.isGone r then g.drop [.gcs bucket name] else g
  | .swift (.listObjects container marker), .ok page =>
    g.list marker.isNone (page.names.map (.swift container))
  | .swift (.deleteObject container name), r =>
    if Lifecycle.isGone r then g.drop [.swift container name] else g
  | _, _ => g

/-- The stock after a call was answered. -/
def next (g : Stock) (c : World.Call) (x : World.Answer c) : Stock :=
  { g.handle c x with cloud := g.cloud.next c x }

/-- A bucket or container that exists has no objects in it. -/
def Bare (g : Stock) (x : Asset) : Prop := x ∈ g.cloud.assets → ∀ i ∈ g.items, i.holder ≠ x

/-- An answer about a bucket or container is as described if it exists, and otherwise says that it
does not. -/
def Reports {α : Type} (g : Stock) (x : Asset) (r : Except Error α) (P : α → Prop) : Prop :=
  if x ∈ g.cloud.assets then ∃ a, r = .ok a ∧ P a else ∃ e, r = .error e ∧ e.isNotFound

/-- A page of a listing is true: the last page makes the listing complete, and the pages before are
not too many. -/
structure Lists (limit : Nat) (g : Stock) (x : Asset) (begins : Bool) (items : List Item)
    (last : Prop) : Prop where
  /-- On the last page everything that is stored was listed. -/
  complete : last → ∀ i ∈ g.items, i.holder = x → i ∈ (g.list begins items).listed
  /-- Another page is within the limit. -/
  short : ¬ last → (g.list begins items).pages < limit

/-- The answer to a call is true and no failure, as far as it is about objects and deletions. -/
def Tells (limit : Nat) (g : Stock) : (c : World.Call) → World.Answer c → Prop
  | .s3 (.listVersions bucket marker), r => g.Reports (.of .s3 bucket) r fun page =>
    g.Lists limit (.of .s3 bucket) marker.isNone (page.objects.map (.s3 bucket)) (page.next = none)
  | .s3 (.deleteObjects bucket _), r =>
    g.Reports (.of .s3 bucket) r fun left => ∀ f ∈ left, f.code = "NoSuchKey"
  | .s3 (.deleteBucket bucket), r => g.Bare (.of .s3 bucket) → Lifecycle.isGone r
  | .gcs (.listObjects bucket token), r => g.Reports (.of .gcs bucket) r fun page =>
    g.Lists limit (.of .gcs bucket) token.isNone (page.names.map (.gcs bucket))
      (Gcs.Binding.nextToken? page.next = none)
  | .gcs (.deleteObject _ _), r => Lifecycle.isGone r
  | .gcs (.deleteBucket bucket), r => g.Bare (.of .gcs bucket) → Lifecycle.isGone r
  | .swift (.listObjects container marker), r => g.Reports (.of .swift container) r fun page =>
    g.Lists limit (.of .swift container) marker.isNone (page.names.map (.swift container))
      (page.names = [] ∨ page.next = none)
  | .swift (.deleteObject _ _), r => Lifecycle.isGone r
  | .swift (.deleteContainer container), r => g.Bare (.of .swift container) → Lifecycle.isGone r
  | .azure (.deleteContainer _ _), r | .azure (.deleteAccount _), r => Lifecycle.isGone r
  | .cluster (.deleteClaim ns name), r =>
    r = .ok (decide ((⟨.filesystem, ns, name⟩ : Asset) ∈ g.cloud.assets))
  | _, _ => True

end Stock

/-- The contract with surroundings that tell the truth about objects. Nothing may be created. -/
def Surroundings.stock (E : Surroundings) (limit : Nat) : Contract World Stock where
  permits _ c := ¬ c.IsCreation
  step g c x g' := E.Tells g.cloud c x ∧ g.Tells limit c x ∧ g' = g.next c x

namespace Stock

variable {E : Surroundings} {limit : Nat} {g : Stock} {x : Asset} {σ α : Type} {s : σ}

/-! ## True answers -/

/-- There is a true answer about a bucket or container. -/
lemma exists_reports {P : α → Prop} (h : ∃ a, P a) : ∃ r, g.Reports x r P := by
  by_cases hx : x ∈ g.cloud.assets
  · obtain ⟨a, ha⟩ := h
    exact ⟨.ok a, (if_pos hx).mpr ⟨a, rfl, ha⟩⟩
  · exact ⟨.error (.provider .s3 "" "" .notFound ""), (if_neg hx).mpr ⟨_, rfl, rfl⟩⟩

/-- All objects of a bucket or container can be listed on one page. -/
lemma exists_lists {β : Type} (wrap : β → Item) (h : ∀ i, i.holder = x → ∃ b, wrap b = i)
    (limit : Nat) (begins : Bool) :
    ∃ bs : List β, ∀ last, last → g.Lists limit x begins (bs.map wrap) last := by
  obtain ⟨bs, hbs⟩ : g.items.filter (·.holder = x) ∈ Set.range (List.map wrap) := by
    rw [Set.range_list_map]
    exact fun i hi => h i (of_decide_eq_true (List.mem_filter.1 hi).2)
  -- The page is the last one, so that the limit does not matter.
  refine ⟨bs, fun last hlast => ⟨fun _ i hi hx => ?_, absurd hlast⟩⟩
  rw [hbs]
  exact List.mem_append_right _ (List.mem_filter.2 ⟨hi, decide_eq_true hx⟩)

/-- There is a true answer to every call, as long as there are names that are not taken.

**Proof sketch.** One case per call. A listing can be answered by all that is left on one page, a
deletion by its success; for the other calls the stock tells nothing, and the surroundings have an
answer. -/
theorem exists_tells (E : Surroundings) (limit : Nat) (g : Stock) (c : World.Call)
    (h : c = .randomDigits → ∃ digits, ∀ name, E.Generates digits name → g.cloud.Untaken name) :
    ∃ x, E.Tells g.cloud c x ∧ g.Tells limit c x := by
  have hother (hc : ∀ x, g.Tells limit c x) : ∃ x, E.Tells g.cloud c x ∧ g.Tells limit c x := by
    obtain ⟨x, hx⟩ := E.exists_tells g.cloud c h
    exact ⟨x, hx, hc x⟩
  have hobject (hc : ∀ x, E.Tells g.cloud c x) (hx : ∃ x, g.Tells limit c x) :
      ∃ x, E.Tells g.cloud c x ∧ g.Tells limit c x :=
    hx.imp fun x hx => ⟨hc x, hx⟩
  cases c with
  | s3 c =>
    cases c with
    | listVersions bucket marker =>
      obtain ⟨objects, hobjects⟩ := g.exists_lists (x := .of .s3 bucket) (.s3 bucket)
        (by rintro (_ | _ | _) ⟨⟩; exact ⟨_, rfl⟩) limit marker.isNone
      exact hobject (fun _ => trivial) (exists_reports ⟨⟨objects, none⟩, hobjects _ rfl⟩)
    | deleteObjects => exact hobject (fun _ => trivial) (exists_reports ⟨[], nofun⟩)
    | deleteBucket => exact ⟨.ok (), trivial, fun _ => rfl⟩
    | _ => exact hother fun _ => trivial
  | gcs c =>
    cases c with
    | listObjects bucket token =>
      obtain ⟨names, hnames⟩ := g.exists_lists (x := .of .gcs bucket) (.gcs bucket)
        (by rintro (_ | _ | _) ⟨⟩; exact ⟨_, rfl⟩) limit token.isNone
      exact hobject (fun _ => trivial) (exists_reports ⟨⟨names, none⟩, hnames _ rfl⟩)
    | deleteObject => exact ⟨.ok (), trivial, rfl⟩
    | deleteBucket => exact ⟨.ok (), trivial, fun _ => rfl⟩
    | _ => exact hother fun _ => trivial
  | swift c =>
    cases c with
    | listObjects container marker =>
      obtain ⟨names, hnames⟩ := g.exists_lists (x := .of .swift container) (.swift container)
        (by rintro (_ | _ | _) ⟨⟩; exact ⟨_, rfl⟩) limit marker.isNone
      exact hobject (fun _ => trivial) (exists_reports ⟨⟨names, none⟩, hnames _ (.inr rfl)⟩)
    | deleteObject => exact ⟨.ok (), trivial, rfl⟩
    | deleteContainer => exact ⟨.ok (), trivial, fun _ => rfl⟩
    | _ => exact hother fun _ => trivial
  | azure c =>
    cases c with
    | deleteContainer | deleteAccount => exact ⟨.ok (), trivial, rfl⟩
    | _ => exact hother fun _ => trivial
  | cluster c =>
    cases c with
    | deleteClaim => exact ⟨_, trivial, rfl⟩
    | _ => exact hother fun _ => trivial
  | _ => exact hother fun _ => trivial

/-! ## Calls -/

/-- A call ends with true answers. -/
lemma ends_call {c : World.Call} {Q : World.Answer c → Stock → Prop} (hc : ¬ c.IsCreation)
    (hQ : ∀ x, g.Tells limit c x → Q x (g.next c x)) :
    (Prog.perform (I := World) c).Ends (E.stock limit) g Q := by
  refine Prog.ends_perform.2 ⟨hc, ?_⟩
  rintro x _ ⟨-, hx, rfl⟩
  exact hQ x hx

/-- What ends in surroundings that tell the truth, without creating anything, ends also if they tell
the truth about objects. -/
lemma ends_of_world {a : Operating σ α} {Q : Except Error α → σ → Cloud → Prop}
    (h : Action.Ends (E.world False) a s g.cloud Q) :
    Action.Ends (E.stock limit) a s g fun r t g' => Q r t g'.cloud := by
  refine Prog.Ends.project (K := E.world False) Stock.cloud (fun _ _ hc => hc) ?_ h
  rintro g c x _ ⟨hx, -, rfl⟩
  exact ⟨hx, rfl⟩

/-- What an answer about a bucket or container says. -/
lemma Reports.cases {r : Except Error α} {P : α → Prop} (h : g.Reports x r P) :
    (x ∈ g.cloud.assets ∧ ∃ a, r = .ok a ∧ P a) ∨
      x ∉ g.cloud.assets ∧ ∃ e, r = .error e ∧ e.isNotFound := by
  rw [Reports] at h
  split at h
  · rename_i hx
    exact .inl ⟨hx, h⟩
  · rename_i hx
    exact .inr ⟨hx, h⟩

/-! ## Emptying page by page -/

/-- Nothing that was listed is still stored. -/
def Swept (g : Stock) : Prop := ∀ i ∈ g.listed, i ∉ g.items

/-- Dropping nothing leaves the stock as it is. -/
lemma drop_nil : g.drop [] = g :=
  congrArg (fun items => { g with items }) (List.filter_eq_self.2 fun _ _ => by simp)

/-- What is dropped in two steps is dropped at once. -/
lemma drop_drop (items more : List Item) :
    (g.drop items).drop more = g.drop (items ++ more) := by
  simp [drop, List.filter_filter, Bool.and_comm]

/-- What is listed and deleted is not stored any more. -/
lemma swept_page {begins : Bool} (h : begins = false → g.Swept) (items : List Item) :
    ((g.list begins items).drop items).Swept := by
  intro i hi hstored
  obtain ⟨hstored, hkept⟩ := List.mem_filter.1 hstored
  obtain hi | hi := List.mem_append.1 hi
  · cases begins with
    | true => cases hi
    | false => exact h rfl i hi hstored
  · exact of_decide_eq_true hkept hi

/-- A resource whose deletion says so is gone. -/
lemma not_mem_ofDeletion {g : Cloud} {r : Except Error Unit} (h : Lifecycle.isGone r) :
    x ∉ (g.record (.ofDeletion x r)).assets := by
  rw [Deed.ofDeletion, if_pos h]
  intro hx
  exact of_decide_eq_true (List.mem_filter.1 hx).2 rfl

/-- Objects are deleted one by one if after each call the object is gone.

**Proof sketch.** By induction on the objects. The first call leaves the stock without its object
and is no failure, since an object that was not found counts as deleted; the others are then missing
from what the first one left. -/
lemma ends_deleteEach {ask : String → Prog World (Except Error Unit)} {holder : String}
    {wrap : String → Item}
    (hask : ∀ name g, (ask name).Ends (E.stock limit) g fun r g' =>
      Lifecycle.isGone r ∧ g' = g.drop [wrap name]) (names : List String) :
    Action.Ends (E.stock limit) (Storage.deleteEach ask holder names) () g fun r _ g' =>
      r = .ok [] ∧ g' = g.drop (names.map wrap) := by
  induction names generalizing g with
  | nil => exact ⟨rfl, drop_nil.symm⟩
  | cons name rest ih =>
    have hrest : Action.Ends (E.stock limit) (Storage.deleteEach ask holder rest) ()
        (g.drop [wrap name]) fun r _ g' => r = .ok [] ∧ g' = g.drop ((name :: rest).map wrap) := by
      refine ih.mono ?_
      rintro _ _ _ ⟨rfl, rfl⟩
      exact ⟨rfl, drop_drop ..⟩
    rw [Storage.deleteEach, Action.ends_bind, Action.ends_perform]
    refine (hask name g).mono ?_
    rintro (e | ⟨⟩) _ ⟨hgone, rfl⟩
    · have he : e.isNotFound = true := hgone
      dsimp only
      rw [if_pos he]
      exact hrest
    · exact hrest

/-- How a page of an emptying ends: what it lists is deleted, if the resource exists. -/
def Turns {κ : Type} (limit : Nat) (x : Asset) (g : Stock) (begins : Bool) :
    Except Error ((List Failure × Option κ) ⊕ List Failure) → Stock → Prop
  | .error e, g' => e.isNotFound ∧ x ∉ g'.cloud.assets
  | .ok (.inl (failures, marker)), g' =>
    failures = [] ∧ marker.isNone = false ∧ ∃ items,
      (g.list begins items).pages < limit ∧ g' = (g.list begins items).drop items
  | .ok (.inr failures), g' =>
    failures = [] ∧ ∃ items, (∀ i ∈ g.items, i.holder = x → i ∈ (g.list begins items).listed) ∧
      g' = (g.list begins items).drop items

/-- **A resource is emptied page by page.**

**Proof sketch.** The loop keeps no failure and, once a page was listed, that what was swept is
gone. Its measure is the number of pages that a listing may still have, for which every page that
goes on is short. -/
theorem ends_emptying {κ : Type} {page : List Failure → Option κ →
      Operating Unit ((List Failure × Option κ) ⊕ List Failure)}
    (hpage : ∀ marker g, Action.Ends (E.stock limit) (page [] marker) () g fun r _ g' =>
      g.Turns limit x marker.isNone r g') :
    Action.Ends (E.stock limit) (do
      let failures ← Action.loop (fun (failures, marker) => page failures marker) ([], none)
      Action.ofExcept (Error.ofFailures failures)) () g fun r _ g' =>
        Lifecycle.isGone r ∧ g'.Bare x := by
  rw [Action.ends_bind]
  -- The limit bounds the pages of a listing that goes on; one that begins is not counted yet.
  refine Action.ends_loop_of_lt (fun t _ g => t.1 = [] ∧ (t.2.isNone = false → g.Swept))
    (fun t g => if t.2.isNone then limit + 1 else limit - g.pages) ⟨rfl, nofun⟩ ?_
  rintro ⟨_, marker⟩ ⟨⟩ g ⟨rfl, hswept⟩
  refine (hpage marker g).mono ?_
  rintro (e | ⟨_, marker'⟩ | _) _ g' h
  · exact ⟨h.1, fun hx => absurd hx h.2⟩
  · obtain ⟨rfl, hmarker, items, hshort, rfl⟩ := h
    refine ⟨⟨rfl, fun _ => swept_page hswept items⟩, ?_⟩
    dsimp only
    rw [hmarker, if_neg Bool.false_ne_true]
    cases marker with
    | none => exact Nat.lt_succ_of_le (Nat.sub_le ..)
    | some m =>
      have hpages : g.pages + 1 < limit := hshort
      exact Nat.sub_lt_sub_left (Nat.lt_of_succ_lt hpages) (Nat.lt_succ_self _)
  · obtain ⟨rfl, items, hcomplete, rfl⟩ := h
    refine ⟨rfl, fun _ i hi hx => ?_⟩
    exact swept_page hswept items i (hcomplete i (List.mem_filter.1 hi).1 hx) hi

end Stock

/-! ## Backends -/

/-- The steps of a lifecycle empty and delete a resource, if it is not gone already. -/
def Resource.Operations.Clears (ops : Resource.Operations) (K : Contract World Stock)
    (name : String) (x : Asset) : Prop :=
  ∀ g, (ops.empty name).result.Ends K g fun r g' => Lifecycle.isGone r ∧
    (ops.delete name).result.Ends K g' fun r g'' => Lifecycle.isGone r ∧ x ∉ g''.cloud.assets

/-- Emptying and deleting go together if what emptying leaves can be deleted. -/
lemma Resource.Operations.Clears.of_parts {ops : Resource.Operations} {K : Contract World Stock}
    {name : String} {x : Asset} {P : Stock → Prop}
    (hempty : ∀ g, Action.Ends K (ops.empty name) () g fun r _ g' => Lifecycle.isGone r ∧ P g')
    (hdelete : ∀ g, P g → Action.Ends K (ops.delete name) () g fun r _ g' =>
      Lifecycle.isGone r ∧ x ∉ g'.cloud.assets) : ops.Clears K name x := by
  intro g
  refine Action.ends_result.2 ((hempty g).mono ?_)
  rintro r _ g' ⟨hr, hbare⟩
  exact ⟨hr, Action.ends_result.2 (hdelete g' hbare)⟩

namespace S3

variable {E : Surroundings} {limit : Nat} {g : Stock} {bucket : String}

/-- The pieces of a list, put together again. -/
lemma flatten_batchesFrom {α : Type} (size : Nat) :
    ∀ (limit : Nat) (xs : List α), xs.length ≤ limit → (batchesFrom size limit xs).flatten = xs
  | 0, [], _ => rfl
  | _ + 1, [], _ => rfl
  | limit + 1, x :: xs, h => by
    have hrest : ((x :: xs).drop (size + 1)).length ≤ limit := by
      simp only [List.length_drop, List.length_cons] at h ⊢
      omega
    rw [batchesFrom, List.flatten_cons, flatten_batchesFrom size limit _ hrest,
      List.take_append_drop]
    nofun

/-- Batches of objects are deleted.

**Proof sketch.** By induction on the batches: the bucket is there, so a batch is deleted without
failures that count, and dropping batch after batch drops all of them. -/
lemma ends_deleteBatches (batches : List (List Object))
    (hx : .of .s3 bucket ∈ g.cloud.assets) :
    Action.Ends (E.stock limit) (deleteBatches bucket batches) () g fun r _ g' =>
      r = .ok [] ∧ g' = g.drop (batches.flatten.map (.s3 bucket)) := by
  induction batches generalizing g with
  | nil => exact ⟨rfl, Stock.drop_nil.symm⟩
  | cons batch rest ih =>
    rw [deleteBatches, Action.ends_bind, Action.ends_attempt]
    refine Stock.ends_call (c := .s3 (.deleteObjects bucket batch)) id fun r hr => ?_
    obtain ⟨-, left, rfl, hleft⟩ | ⟨hx', -⟩ := Stock.Reports.cases hr
    · have hnone : left.filterMap (DeleteFailure.record? bucket) = [] :=
        List.filterMap_eq_nil_iff.2 fun f hf => if_pos (hleft f hf)
      dsimp only
      rw [Action.ends_bind, hnone]
      refine (ih (g := g.drop (batch.map (.s3 bucket))) hx).mono ?_
      rintro _ _ _ ⟨rfl, rfl⟩
      rw [List.flatten_cons, List.map_append, ← Stock.drop_drop]
      exact ⟨rfl, rfl⟩
    · exact absurd hx hx'

/-- A page of objects is listed and deleted.

**Proof sketch.** A listing that is answered gives a page of what is left; it is deleted batch by
batch, and whether the page names a next marker decides if the listing goes on. The other answer
says that the bucket is gone. -/
lemma ends_emptyPage (bucket : String) (marker : Option Marker) (g : Stock) :
    Action.Ends (E.stock limit) (emptyPage bucket [] marker) () g fun r _ g' =>
      g.Turns limit (.of .s3 bucket) marker.isNone r g' := by
  rw [emptyPage, Action.ends_bind, Action.ends_attempt]
  refine Stock.ends_call (c := .s3 (.listVersions bucket marker)) id fun r hr => ?_
  obtain ⟨hx, page, rfl, hpage⟩ | ⟨hx, e, rfl, he⟩ := Stock.Reports.cases hr
  · dsimp only
    rw [Action.ends_bind]
    refine (ends_deleteBatches
      (g := g.list marker.isNone (page.objects.map (.s3 bucket))) _ hx).mono ?_
    rintro _ _ _ ⟨rfl, rfl⟩
    rw [batches, flatten_batchesFrom _ _ _ (Nat.le_refl _)]
    dsimp only
    split
    · rename_i next hnext
      exact ⟨rfl, rfl, _, hpage.short (by rw [hnext]; nofun), rfl⟩
    · rename_i hlast
      exact ⟨rfl, _, hpage.complete hlast, rfl⟩
  · exact ⟨he, hx⟩

/-- The steps of the lifecycle empty and delete a bucket. -/
theorem clears (b : Bucket) (bucket : String) :
    b.operations.Clears (E.stock limit) bucket (.of .s3 bucket) := by
  refine .of_parts (fun _ => Stock.ends_emptying (ends_emptyPage bucket)) fun g hbare => ?_
  refine Action.ends_attempt.2 (Stock.ends_call (c := .s3 (.deleteBucket bucket)) id ?_)
  exact fun r hr => ⟨hr hbare, Stock.not_mem_ofDeletion (hr hbare)⟩

end S3

namespace Gcs

variable {E : Surroundings} {limit : Nat} {g : Stock} {bucket : String}

/-- An object is gone after it was deleted. -/
lemma ends_deleteObject (bucket name : String) (g : Stock) :
    (Prog.perform (I := World) (.gcs (.deleteObject bucket name))).Ends (E.stock limit) g
      fun r g' => Lifecycle.isGone r ∧ g' = g.drop [.gcs bucket name] := by
  refine Stock.ends_call id fun r hr => ⟨hr, ?_⟩
  exact congrArg (fun h : Stock => { h with cloud := g.cloud }) (if_pos hr)

/-- A page of objects is listed and deleted.

**Proof sketch.** As for S3, with the names of a page deleted one by one. -/
lemma ends_emptyPage (bucket : String) (token : Option String) (g : Stock) :
    Action.Ends (E.stock limit) (emptyPage bucket [] token) () g fun r _ g' =>
      g.Turns limit (.of .gcs bucket) token.isNone r g' := by
  rw [emptyPage, Action.ends_bind, Action.ends_attempt]
  refine Stock.ends_call (c := .gcs (.listObjects bucket token)) id fun r hr => ?_
  obtain ⟨-, page, rfl, hpage⟩ | ⟨hx, e, rfl, he⟩ := Stock.Reports.cases hr
  · dsimp only
    rw [Action.ends_bind]
    refine (Stock.ends_deleteEach (ends_deleteObject bucket) page.names).mono ?_
    rintro _ _ _ ⟨rfl, rfl⟩
    dsimp only
    split
    · rename_i next hnext
      exact ⟨rfl, rfl, _, hpage.short (by rw [hnext]; nofun), rfl⟩
    · rename_i hlast
      exact ⟨rfl, _, hpage.complete hlast, rfl⟩
  · exact ⟨he, hx⟩

/-- The steps of the lifecycle empty and delete a bucket. -/
theorem clears (b : Bucket) (bucket : String) :
    b.operations.Clears (E.stock limit) bucket (.of .gcs bucket) := by
  refine .of_parts (fun _ => Stock.ends_emptying (ends_emptyPage bucket)) fun g hbare => ?_
  refine Action.ends_attempt.2 (Stock.ends_call (c := .gcs (.deleteBucket bucket)) id ?_)
  exact fun r hr => ⟨hr hbare, Stock.not_mem_ofDeletion (hr hbare)⟩

end Gcs

namespace Swift

variable {E : Surroundings} {limit : Nat} {g : Stock} {container : String}

/-- An object is gone after it was deleted. -/
lemma ends_deleteObject (container name : String) (g : Stock) :
    (Prog.perform (I := World) (.swift (.deleteObject container name))).Ends (E.stock limit) g
      fun r g' => Lifecycle.isGone r ∧ g' = g.drop [.swift container name] := by
  refine Stock.ends_call id fun r hr => ⟨hr, ?_⟩
  exact congrArg (fun h : Stock => { h with cloud := g.cloud }) (if_pos hr)

/-- A page of objects is listed and deleted.

**Proof sketch.** As for Google Cloud; an empty page ends the listing as well, whatever marker it
names. -/
lemma ends_emptyPage (container : String) (marker : Option String) (g : Stock) :
    Action.Ends (E.stock limit) (emptyPage container [] marker) () g fun r _ g' =>
      g.Turns limit (.of .swift container) marker.isNone r g' := by
  rw [emptyPage, Action.ends_bind, Action.ends_attempt]
  refine Stock.ends_call (c := .swift (.listObjects container marker)) id fun r hr => ?_
  obtain ⟨-, page, rfl, hpage⟩ | ⟨hx, e, rfl, he⟩ := Stock.Reports.cases hr
  · dsimp only
    split
    · rename_i hempty
      have hnames : page.names = [] := List.isEmpty_iff.1 hempty
      have hnext : g.next (.swift (.listObjects container marker)) (.ok page) =
        g.list marker.isNone (page.names.map (.swift container)) := rfl
      refine ⟨rfl, _, hpage.complete (.inl hnames), ?_⟩
      rw [hnext, hnames, List.map_nil, Stock.drop_nil]
    rename_i hempty
    rw [Action.ends_bind]
    refine (Stock.ends_deleteEach (ends_deleteObject container) page.names).mono ?_
    rintro _ _ _ ⟨rfl, rfl⟩
    dsimp only
    split
    · rename_i next hnext
      have hgoes : ¬ (page.names = [] ∨ page.next = none) := by
        rw [hnext, ← List.isEmpty_iff]
        simpa using hempty
      exact ⟨rfl, rfl, _, hpage.short hgoes, rfl⟩
    · rename_i hlast
      exact ⟨rfl, _, hpage.complete (.inr hlast), rfl⟩
  · exact ⟨he, hx⟩

/-- The steps of the lifecycle empty and delete a container. -/
theorem clears (infraName container : String) :
    (operations infraName).Clears (E.stock limit) container (.of .swift container) := by
  refine .of_parts (fun _ => Stock.ends_emptying (ends_emptyPage container)) fun g hbare => ?_
  refine Action.ends_attempt.2 (Stock.ends_call (c := .swift (.deleteContainer container)) id ?_)
  exact fun r hr => ⟨hr hbare, Stock.not_mem_ofDeletion (hr hbare)⟩

end Swift

namespace Azure

variable {E : Surroundings} {limit : Nat} {g : Stock}

/-- The container in an account is deleted. -/
lemma ends_empty (a : Account) (name : String) :
    Action.Ends (E.stock limit) (a.empty name) () g fun r _ _ => Lifecycle.isGone r := by
  rw [Account.empty]
  split
  · rw [Action.ends_bind, Action.ends_perform]
    refine Stock.ends_call (c := .azure (.deleteContainer name a.container)) id fun r hr => ?_
    rcases r with e | ⟨⟩
    · have he : e.isNotFound = true := hr
      dsimp only
      rw [he]
      rfl
    · rfl
  · rfl

/-- The steps of the lifecycle empty and delete an account. -/
theorem clears (a : Account) (name : String) :
    a.operations.Clears (E.stock limit) name (.of .azure name) := by
  refine .of_parts (P := fun _ => True)
    (fun g => (ends_empty a name).mono fun _ _ _ hr => ⟨hr, trivial⟩) fun g _ => ?_
  refine Action.ends_attempt.2 (Stock.ends_call (c := .azure (.deleteAccount name)) id ?_)
  exact fun r hr => ⟨hr, Stock.not_mem_ofDeletion hr⟩

end Azure

namespace Filesystem

variable {E : Surroundings} {limit : Nat} {g : Stock}

/-- The steps of the lifecycle delete a claim, which is not emptied.

**Proof sketch.** The one call takes the claim from the cluster, whether it was there or not. -/
theorem clears (name : String) :
    operations.Clears (E.stock limit) name (.of .filesystem name) := by
  intro g
  refine ⟨rfl, Action.ends_result.2 ?_⟩
  change Action.Ends _ (deleteClaim name) () g _
  rw [deleteClaim, Action.ends_bind, Action.ends_attempt]
  refine Stock.ends_call (c := .cluster (.deleteClaim Credentials.operatorNamespace name)) id ?_
  rintro r rfl
  have hgone : Asset.of .filesystem name ∉
      (g.cloud.record (.ofDeletion (.of .filesystem name) (.ok ()))).assets :=
    Stock.not_mem_ofDeletion rfl
  dsimp only
  split
  · exact ⟨rfl, hgone⟩
  · exact ⟨rfl, hgone⟩

end Filesystem

end Depot
