import Depot.Proofs.Emptying
import Depot.Proofs.Shelves
import Mathlib.Data.String.Basic

set_option autoImplicit false

/-!
# Emptying a bucket in batches

A bucket of S3 is emptied while it is listed. The objects of a page are deleted in batches, and a
batch may report objects that it keeps. The loop passes each object to exactly one batch, whatever
the sizes of the pages and of the batches, leaves those that were reported, and fails with a record
of each failure that is no mere absence.

## Main definitions

* `S3.listing` — the contract with a bucket that is listed page by page.
* `S3.Swept` — what an emptying leaves.

## Main results

* `S3.ends_deleteNext` — the next objects are deleted batch by batch.
* `S3.empty_sweeps` — a bucket is emptied.
-/

namespace Depot

namespace S3

/-- The object after which a listing goes on. -/
def Marker.object (m : Marker) : Object := ⟨m.key.getD "", m.versionId⟩

/-- Where a listing goes on after an object. -/
def Object.marker (o : Object) : Marker := ⟨some o.key, o.versionId⟩

/-- A deletion keeps the objects whose key it reports. -/
def reports (left : List DeleteFailure) (o : Object) : Bool := left.any (·.key = o.key)

section

variable {β : Type} [LinearOrder β] (rank : Object → β) (bucket : String)

/-- The contract with a bucket that is listed in some order. The program makes no call but for
listings and deletions in this bucket, deletes at most 1000 objects at once, and stops at the first
call that fails as a whole. -/
def listing : Contract World (Shelf Object (List DeleteFailure)) where
  permits g
    | .s3 (.listVersions b _) => g.failure = none ∧ b = bucket
    | .s3 (.deleteObjects b objects) => g.failure = none ∧ b = bucket ∧ objects.length ≤ 1000
    | _ => False
  step g c x g' :=
    match c, x with
    | .s3 (.listVersions _ marker), .ok page =>
      g' = g ∧ ∃ rest, g.IsPage rank (marker.map Marker.object) page.objects rest ∧
        page.next = Shelf.next Object.marker page.objects rest
    | .s3 (.deleteObjects _ objects), .ok left => g' = g.delete reports objects left
    | .s3 (.listVersions _ _), .error e | .s3 (.deleteObjects _ _), .error e => g'.failure = some e
    | _, _ => False

/-- The records of deletions. -/
def records (ds : List (List Object × List DeleteFailure)) : List Failure :=
  ds.flatMap fun d => d.2.filterMap (DeleteFailure.record? bucket)

end

/-- No piece of a list is too large. -/
lemma length_le_of_mem_batchesFrom {α : Type} (size : Nat) {batch : List α} :
    ∀ (limit : Nat) (xs : List α), batch ∈ batchesFrom size limit xs → batch.length ≤ size + 1
  | 0, _, h => nomatch h
  | _ + 1, [], h => nomatch h
  | limit + 1, x :: xs, h => by
    rcases List.mem_cons.1 h with rfl | h
    · exact List.length_take_le ..
    · exact length_le_of_mem_batchesFrom size limit _ h

section

variable {β : Type} [LinearOrder β] {rank : Object → β} {bucket : String}
  {start todo rest : List Object} {g : Shelf Object (List DeleteFailure)}

/-- The next objects are deleted batch by batch.

**Proof sketch.** By induction on the batches. A call that fails as a whole ends the deletions;
otherwise the objects of the batch have been passed to one deletion, and the invariant holds for
what is left. -/
theorem ends_deleteNext (hstart : start.Nodup) (batches : List (List Object))
    (hsmall : ∀ batch ∈ batches, batch.length ≤ 1000)
    (h : Shelf.Midway reports start (batches.flatten ++ rest) g) :
    Action.Ends (listing rank bucket) (deleteBatches bucket batches) () g fun r _ g' =>
      match r with
      | .error e => g'.failure = some e
      | .ok failures => Shelf.Midway reports start rest g' ∧
        g'.passed = g.passed ++ batches.flatten ∧
        records bucket g'.deletions = records bucket g.deletions ++ failures := by
  induction batches generalizing g with
  | nil => exact ⟨h, by simp, by simp⟩
  | cons batch batches ih =>
    obtain ⟨hbatch, hbatches⟩ := List.forall_mem_cons.1 hsmall
    rw [List.flatten_cons, List.append_assoc] at h
    rw [deleteBatches, Action.ends_bind, Action.ends_attempt]
    refine Prog.ends_perform.2 ⟨⟨h.running, rfl, hbatch⟩, ?_⟩
    rintro (e | left) g' hg'
    · exact hg'
    · obtain rfl : g' = g.delete reports batch left := hg'
      dsimp only
      rw [Action.ends_bind]
      refine (ih hbatches (h.delete hstart left)).mono ?_
      rintro (e | failures) _ g' hg'
      · exact hg'
      · obtain ⟨hmid, hpassed, hrecords⟩ := hg'
        refine ⟨hmid, ?_, ?_⟩
        · rw [hpassed, Shelf.passed_delete, List.flatten_cons, List.append_assoc]
        · rw [hrecords]
          simp [records, Shelf.delete]

/-- A page of objects is listed and deleted.

**Proof sketch.** The page is what comes next in the listing, and is deleted batch by batch, in the
same order. If nothing is left the emptying ends with all records; otherwise it goes on behind the
last object of the page. -/
lemma turns_emptyPage (hstart : start.Pairwise (rank · < rank ·)) (marker : Option Marker)
    (h : Shelf.Midway reports start todo g)
    (hmarker : marker.map Marker.object = g.passed.getLast?) :
    Action.Ends (listing rank bucket) (emptyPage bucket (records bucket g.deletions) marker) () g
      fun r _ g' => Shelf.Turns reports (records bucket) Marker.object start todo r g' := by
  rw [emptyPage, Action.ends_bind, Action.ends_attempt]
  refine Prog.ends_perform.2 ⟨⟨h.running, rfl⟩, ?_⟩
  rintro (e | page) g' hg'
  · exact hg'
  · obtain ⟨rfl, rest, hpage, hnext⟩ := hg'
    rw [hmarker] at hpage
    obtain ⟨rfl, hempty⟩ := h.page hstart hpage
    have hflatten : (batches page.objects).flatten = page.objects :=
      flatten_batchesFrom _ _ _ (Nat.le_refl _)
    rw [← hflatten] at h
    dsimp only
    rw [Action.ends_bind]
    refine (ends_deleteNext (Shelf.nodup_of_ordered hstart) (batches page.objects)
      (fun batch => length_le_of_mem_batchesFrom _ _ _) h).mono ?_
    rintro (e | failures) _ g'' hg''
    · exact hg''
    · obtain ⟨hmid, hpassed, hrecords⟩ := hg''
      rw [hflatten] at hpassed
      rcases Shelf.next_cases Object.marker hempty with ⟨rfl, hlast⟩ | ⟨hpage, x, hx, hgoes⟩
      · rw [hnext, hlast]
        exact ⟨hrecords.symm, hmid⟩
      · rw [hnext, hgoes]
        exact hmid.turns hpassed hpage hx rfl hrecords.symm

/-- The record of an object that is reported and not gone. -/
def trouble (bucket : String) (f : DeleteFailure) : Failure where
  operation := "delete-object"
  resource := bucket ++ "/" ++ f.key
  cause := (Error.internal (f.code ++ ": " ++ f.message)).message
  retryable := true

/-- The failures that are no mere absence, in order. -/
def troubles (g : Shelf Object (List DeleteFailure)) : List DeleteFailure :=
  (g.deletions.flatMap (·.2)).filter (·.code ≠ "NoSuchKey")

/-- There is a record for each failure that is no mere absence.

**Proof sketch.** By induction on the failures of each deletion: a failure has a record exactly if
it is no mere absence, and then it is that of the failure. -/
lemma records_eq (g : Shelf Object (List DeleteFailure)) :
    records bucket g.deletions = (troubles g).map (trouble bucket) := by
  have hrecord (left : List DeleteFailure) : left.filterMap (DeleteFailure.record? bucket) =
      (left.filter (·.code ≠ "NoSuchKey")).map (trouble bucket) := by
    induction left with
    | nil => rfl
    | cons f left ih =>
      by_cases hgone : f.code = "NoSuchKey"
      · have hnone : DeleteFailure.record? bucket f = none := if_pos hgone
        rw [List.filterMap_cons_none hnone, List.filter_cons_of_neg (by simpa using hgone), ih]
      · have hsome : DeleteFailure.record? bucket f = some (trouble bucket f) := if_neg hgone
        rw [List.filterMap_cons_some hsome, List.filter_cons_of_pos (by simpa using hgone), ih]
        rfl
  simp only [records, troubles, hrecord, List.filter_flatMap, List.map_flatMap]

/-- What emptying a bucket leaves if no call failed as a whole. -/
structure Swept (bucket : String) (objects : List Object) (r : Except Error Unit)
    (g : Shelf Object (List DeleteFailure)) : Prop where
  /-- Every object was passed to one deletion, in the order of the listing. -/
  once : g.passed = objects
  /-- Those are left whose key was reported by their deletion. -/
  left : g.items = g.deletions.flatMap fun d => d.1.filter fun o => d.2.any (·.key = o.key)
  /-- The emptying succeeds if all that were reported are gone. -/
  succeeds : r = .ok () ↔ ∀ d ∈ g.deletions, ∀ f ∈ d.2, f.code = "NoSuchKey"
  /-- Otherwise it fails with a record of every other object that was reported, in order. -/
  fails : r ≠ .ok () → r = .error (.aggregate ((troubles g).map (trouble bucket)))

/-- **Emptying a bucket** of any objects that are listed in any order, in pages of any sizes: every
object is passed to one deletion, and those are left and reported that refuse. The first call that
fails as a whole ends the emptying with its error.

**Proof sketch.** The deletions so far were asked for a first part of the objects, and the rest is
stored behind what they kept (`Shelf.Midway`), so a listing goes on with that rest
(`Shelf.Midway.after_eq`). The batches of a page are pieces of it (`ends_deleteNext`), and the pages
before the last one are not empty, so there is an end (`Shelf.ends_pages`). -/
theorem empty_sweeps (rank : Object → β) (bucket : String) (objects : List Object)
    (hordered : objects.Pairwise (rank · < rank ·)) :
    Action.Ends (listing rank bucket) (empty bucket) () ⟨objects, [], none⟩ fun r _ g =>
      (∀ e, g.failure = some e → r = .error e) ∧
        (g.failure = none → Swept bucket objects r g) := by
  refine (Shelf.ends_pages (records bucket) rfl
    fun marker todo g => turns_emptyPage hordered marker).mono ?_
  intro r _ g hended
  refine ⟨hended.stopped, fun hnone => ?_⟩
  obtain ⟨hpassed, hitems, rfl⟩ := hended.all hnone
  rw [records_eq]
  refine ⟨hpassed, hitems, ?_, Error.ofFailures_of_ne⟩
  rw [Error.ofFailures_eq_ok, List.map_eq_nil_iff, troubles, List.filter_eq_nil_iff]
  constructor
  · intro h d hd f hf
    simpa using h f (List.mem_flatMap.2 ⟨d, hd, hf⟩)
  · intro h f hf
    obtain ⟨d, hd, hf⟩ := List.mem_flatMap.1 hf
    simpa using h d hd f hf

/-- Every call can be answered so that no call fails as a whole. -/
lemma exists_answer (rank : Object → β) (bucket : String)
    (g : Shelf Object (List DeleteFailure)) (c : World.Call) (hg : g.failure = none)
    (hc : (listing rank bucket).permits g c) :
    ∃ x g', (listing rank bucket).step g c x g' ∧ g'.failure = none := by
  cases c with
  | s3 c =>
    cases c with
    | listVersions b marker =>
      refine ⟨.ok ⟨Shelf.after rank (marker.map Marker.object) g.items, none⟩, g, ⟨rfl, [], ?_⟩, hg⟩
      exact ⟨Shelf.isPage_all .., rfl⟩
    | deleteObjects b objects => exact ⟨.ok [], g.delete reports objects [], rfl, hg⟩
    | _ => exact hc.elim
  | _ => exact hc.elim

/-- Two versions of one object and another object. -/
theorem empty_sweeps_versions :
    let objects : List Object := [⟨"a", some "1"⟩, ⟨"a", some "2"⟩, ⟨"b", none⟩]
    let rank (o : Object) := o.key ++ "/" ++ o.versionId.getD ""
    objects.Pairwise (rank · < rank ·) ∧
    Action.May (listing rank "images") (empty "images") () ⟨objects, [], none⟩ fun r _ g =>
      g.failure = none ∧ Swept "images" objects r g := by
  intro objects rank
  have hordered : objects.Pairwise (rank · < rank ·) := by decide
  have hrun := Prog.Ends.may (P := fun g => g.failure = none) (exists_answer rank "images")
    (empty_sweeps rank "images" objects hordered) rfl
  refine ⟨hordered, hrun.mono ?_⟩
  rintro ⟨r, ⟨⟩⟩ g ⟨h, hnone⟩
  exact ⟨hnone, h.2 hnone⟩

end

end S3

end Depot
