import Depot.Proofs.Completion
import Mathlib.Data.List.Basic
import Mathlib.Order.Lattice

set_option autoImplicit false

/-!
# Listings that go on while things are deleted

A store lists its objects in some order, page by page, each page strictly after the last object of
the page before. What was listed is deleted before the next page is asked for, and a deletion may
leave objects behind. What carries a loop over the pages is that the deletions so far were asked for
a first part of the objects, and that the rest is still stored behind what those deletions kept.

## Main definitions

* `Shelf` — a store, and what it was asked to delete.
* `Shelf.after` — what a listing gives after a position.
* `Shelf.IsPage` — a page of a listing.
* `Shelf.Midway` — the deletions so far were asked for all objects but some last ones.

## Main results

* `Shelf.Midway.after_eq` — a listing that goes on gives all objects that were not passed yet.
* `Shelf.Midway.delete` — a deletion of the next objects.
* `Shelf.ends_pages` — a loop that deletes page by page passes every object once.
-/

namespace Depot

/-- A store whose objects are listed in order and deleted. -/
structure Shelf (ι ρ : Type) where
  /-- The objects that are stored, in the order of the listing. -/
  items : List ι
  /-- The deletions so far: the objects that each was asked for, and its answer. -/
  deletions : List (List ι × ρ) := []
  /-- The error of a call that failed as a whole. -/
  failure : Option Error := none

namespace Shelf

variable {ι ρ β : Type}

/-- The objects that the deletions were asked for. -/
def passed (g : Shelf ι ρ) : List ι := g.deletions.flatMap (·.1)

section

variable [LinearOrder β] (rank : ι → β)

/-- What a listing gives after a position, or from its beginning. -/
def after (position : Option ι) (items : List ι) : List ι :=
  match position with
  | none => items
  | some x => items.filter fun y => rank x < rank y

/-- A page of a listing after a position, with what comes behind it: there is something on the page
unless nothing is left. -/
def IsPage (g : Shelf ι ρ) (position : Option ι) (page rest : List ι) : Prop :=
  ∃ size, 0 < size ∧ page = (after rank position g.items).take size ∧
    rest = (after rank position g.items).drop size

end

/-- All that is left can be on one page. -/
lemma isPage_all [LinearOrder β] (rank : ι → β) (g : Shelf ι ρ) (position : Option ι) :
    g.IsPage rank position (after rank position g.items) [] := by
  refine ⟨(after rank position g.items).length + 1, Nat.succ_pos _, ?_, ?_⟩
  · exact (List.take_of_length_le (Nat.le_succ _)).symm
  · exact (List.drop_of_length_le (Nat.le_succ _)).symm

variable (keeps : ρ → ι → Bool)

/-- The store after a deletion was answered: of the objects that it was asked for, it keeps those
that the answer says. -/
def delete [DecidableEq ι] (g : Shelf ι ρ) (objects : List ι) (x : ρ) : Shelf ι ρ :=
  { g with
    items := g.items.filter fun i => i ∉ objects ∨ keeps x i
    deletions := g.deletions ++ [(objects, x)] }

/-- What the deletions kept of the objects that they were asked for. -/
def kept (g : Shelf ι ρ) : List ι := g.deletions.flatMap fun d => d.1.filter (keeps d.2)

/-- The deletions so far were asked for all objects but some last ones, one after the other. -/
structure Midway (start todo : List ι) (g : Shelf ι ρ) : Prop where
  /-- No call failed. -/
  running : g.failure = none
  /-- The objects are those that the deletions were asked for, and the last ones. -/
  passed : g.passed ++ todo = start
  /-- What is stored is what the deletions kept, and the last ones. -/
  items : g.items = g.kept keeps ++ todo

variable {keeps} {rank : ι → β} {g : Shelf ι ρ} {start todo : List ι}

/-- The objects of a deletion were passed. -/
lemma passed_delete [DecidableEq ι] (g : Shelf ι ρ) (objects : List ι) (x : ρ) :
    (g.delete keeps objects x).passed = g.passed ++ objects := by
  simp [passed, delete]

/-- Of the objects of a deletion those are kept that it refuses. -/
lemma kept_delete [DecidableEq ι] (g : Shelf ι ρ) (objects : List ι) (x : ρ) :
    (g.delete keeps objects x).kept keeps = g.kept keeps ++ objects.filter (keeps x) := by
  simp [kept, delete]

/-- Deletions keep only objects that they were asked for. -/
lemma mem_passed_of_mem_kept {i : ι} (h : i ∈ g.kept keeps) : i ∈ g.passed := by
  obtain ⟨d, hd, hi⟩ := List.mem_flatMap.1 h
  exact List.mem_flatMap.2 ⟨d, hd, (List.mem_filter.1 hi).1⟩

/-- In the beginning nothing was passed. -/
lemma Midway.begin (start : List ι) : Midway keeps start start (⟨start, [], none⟩ : Shelf ι ρ) :=
  ⟨rfl, rfl, rfl⟩

/-- **A deletion of the next objects.**

**Proof sketch.** The deletion filters the shelf. All objects differ, so it leaves what was kept
before and what comes later, and of its own objects those that are refused. -/
theorem Midway.delete [DecidableEq ι] {objects rest : List ι}
    (h : Midway keeps start (objects ++ rest) g) (hstart : start.Nodup) (x : ρ) :
    Midway keeps start rest (g.delete keeps objects x) := by
  have hpassed := h.passed
  rw [← List.append_assoc] at hpassed
  subst hpassed
  obtain ⟨hfirst, -, hrest⟩ := List.nodup_append.1 hstart
  obtain ⟨-, -, hobjects⟩ := List.nodup_append.1 hfirst
  refine ⟨h.running, by rw [passed_delete], ?_⟩
  rw [kept_delete, Shelf.delete, h.items]
  have hkept : (g.kept keeps).filter (fun i => i ∉ objects ∨ keeps x i) = g.kept keeps := by
    refine List.filter_eq_self.2 fun i hi => decide_eq_true (.inl fun hmem => ?_)
    exact hobjects i (mem_passed_of_mem_kept hi) i hmem rfl
  have hasked : objects.filter (fun i => i ∉ objects ∨ keeps x i) = objects.filter (keeps x) := by
    refine List.filter_congr fun i hi => ?_
    simp [hi]
  have hlater : rest.filter (fun i => i ∉ objects ∨ keeps x i) = rest := by
    refine List.filter_eq_self.2 fun i hi => decide_eq_true (.inl fun hmem => ?_)
    exact hrest i (List.mem_append_right _ hmem) i hi rfl
  rw [List.filter_append, List.filter_append, hkept, hasked, hlater, List.append_assoc]

section

variable [LinearOrder β]

/-- No object is listed twice. -/
lemma nodup_of_ordered (h : start.Pairwise (rank · < rank ·)) : start.Nodup :=
  h.imp fun hlt => ne_of_apply_ne rank (ne_of_lt hlt)

/-- **A listing that goes on** gives all objects that were not passed yet.

**Proof sketch.** The objects are in order, so what was kept is not behind the last one that was
passed, and everything that is to be done is. -/
theorem Midway.after_eq (h : Midway keeps start todo g)
    (hstart : start.Pairwise (rank · < rank ·)) : after rank g.passed.getLast? g.items = todo := by
  have hpassed := h.passed
  subst hpassed
  obtain ⟨hfirst, -, hlater⟩ := List.pairwise_append.1 hstart
  rw [h.items]
  rcases List.eq_nil_or_concat g.passed with hnil | ⟨init, x, hlast⟩
  · have hkept : g.kept keeps = [] := by
      refine List.eq_nil_iff_forall_not_mem.2 fun i hi => ?_
      have hmem := mem_passed_of_mem_kept hi
      rw [hnil] at hmem
      cases hmem
    rw [hnil, hkept]
    rfl
  · rw [List.concat_eq_append] at hlast
    have hx : x ∈ g.passed := hlast ▸ List.mem_append_right _ (List.mem_singleton_self x)
    have hget : g.passed.getLast? = some x := by
      rw [hlast]
      simp
    rw [hget]
    have hbehind : (g.kept keeps).filter (fun y => rank x < rank y) = [] := by
      refine List.filter_eq_nil_iff.2 fun i hi hlt => ?_
      have hmem := mem_passed_of_mem_kept hi
      rw [hlast] at hmem hfirst
      rcases List.mem_append.1 hmem with hinit | hlast
      · have hle := (List.pairwise_append.1 hfirst).2.2 i hinit x (List.mem_singleton_self x)
        exact absurd (of_decide_eq_true hlt) (not_lt_of_gt hle)
      · obtain rfl := List.mem_singleton.1 hlast
        exact absurd (of_decide_eq_true hlt) (lt_irrefl _)
    have hahead : todo.filter (fun y => rank x < rank y) = todo :=
      List.filter_eq_self.2 fun y hy => decide_eq_true (hlater x hx y hy)
    change (g.kept keeps ++ todo).filter (fun y => rank x < rank y) = todo
    rw [List.filter_append, hbehind, hahead, List.nil_append]

/-- A page begins with the first object that was not passed. -/
lemma Midway.page {page rest : List ι} (h : Midway keeps start todo g)
    (hstart : start.Pairwise (rank · < rank ·))
    (hpage : g.IsPage rank g.passed.getLast? page rest) :
    todo = page ++ rest ∧ (page = [] → rest = []) := by
  obtain ⟨size, hsize, rfl, rfl⟩ := hpage
  rw [h.after_eq hstart, List.take_append_drop]
  refine ⟨rfl, fun hnil => ?_⟩
  rcases List.take_eq_nil_iff.1 hnil with hzero | rfl
  · omega
  · exact List.drop_nil

end

/-! ## Where a listing goes on -/

section

variable {κ : Type}

/-- Where a listing goes on after a page: behind its last object, if something is left. -/
def next (mark : ι → κ) (page rest : List ι) : Option κ :=
  if rest = [] then none else page.getLast?.map mark

/-- A listing goes on behind the last object of the page, or nothing is left. -/
lemma next_cases (mark : ι → κ) {page rest : List ι} (h : page = [] → rest = []) :
    (rest = [] ∧ next mark page rest = none) ∨
      page ≠ [] ∧ ∃ x, page.getLast? = some x ∧ next mark page rest = some (mark x) := by
  by_cases hrest : rest = []
  · exact .inl ⟨hrest, if_pos hrest⟩
  · have hpage : page ≠ [] := fun hnil => hrest (h hnil)
    obtain ⟨x, hx⟩ := Option.isSome_iff_exists.1 (List.getLast?_isSome.2 hpage)
    refine .inr ⟨hpage, x, hx, ?_⟩
    rw [next, if_neg hrest, hx]
    rfl

end

/-! ## A loop over the pages -/

section

variable {I : Interface} {K : Contract I (Shelf ι ρ)} {κ : Type}

/-- How a page ends that is listed and deleted: with the error of a call that failed as a whole,
with the place where the listing goes on, or with all objects passed. -/
def Turns (keeps : ρ → ι → Bool) (records : List (List ι × ρ) → List Failure) (place : κ → ι)
    (start todo : List ι) :
    Except Error ((List Failure × Option κ) ⊕ List Failure) → Shelf ι ρ → Prop
  | .error e, g => g.failure = some e
  | .ok (.inl (failures, marker)), g =>
    failures = records g.deletions ∧ marker.map place = g.passed.getLast? ∧
      ∃ rest, Midway keeps start rest g ∧ rest.length < todo.length
  | .ok (.inr failures), g => failures = records g.deletions ∧ Midway keeps start [] g

/-- After a page with something on it the listing goes on behind its last object. -/
lemma Midway.turns {records : List (List ι × ρ) → List Failure} {place : κ → ι}
    {page rest : List ι} {g g' : Shelf ι ρ} {x : ι} {marker : κ} {failures : List Failure}
    (h : Midway keeps start rest g') (hpassed : g'.passed = g.passed ++ page) (hpage : page ≠ [])
    (hx : page.getLast? = some x) (hmarker : place marker = x)
    (hfailures : failures = records g'.deletions) :
    Turns keeps records place start (page ++ rest) (.ok (.inl (failures, some marker))) g' := by
  refine ⟨hfailures, ?_, rest, h, ?_⟩
  · rw [hpassed, List.getLast?_append_of_ne_nil _ hpage, hx, ← hmarker]
    rfl
  · rw [List.length_append]
    have hpos := List.length_pos_iff.2 hpage
    omega

/-- How a store is emptied. -/
structure Ended (keeps : ρ → ι → Bool) (records : List (List ι × ρ) → List Failure)
    (start : List ι) (r : Except Error Unit) (g : Shelf ι ρ) : Prop where
  /-- A call that failed as a whole ends it with its error. -/
  stopped : ∀ e, g.failure = some e → r = .error e
  /-- Otherwise all objects were passed, and the result is made of the records of the deletions. -/
  finished : g.failure = none → Midway keeps start [] g ∧
    r = Error.ofFailures (records g.deletions)

/-- If no call failed as a whole, those objects are left that the deletions kept. -/
lemma Ended.all {records : List (List ι × ρ) → List Failure} {r : Except Error Unit}
    (h : Ended keeps records start r g) (hnone : g.failure = none) :
    g.passed = start ∧ g.items = g.kept keeps ∧ r = Error.ofFailures (records g.deletions) := by
  obtain ⟨hmid, hr⟩ := h.finished hnone
  refine ⟨?_, ?_, hr⟩
  · rw [← hmid.passed, List.append_nil]
  · rw [hmid.items, List.append_nil]

/-- **A loop that deletes page by page** passes every object once, because the pages before the last
one are not empty.

**Proof sketch.** The loop keeps that it is midway, with the records of what was refused and the
marker of the last object that was passed. Every page that goes on passes an object, which is the
measure. -/
theorem ends_pages (records : List (List ι × ρ) → List Failure) {place : κ → ι}
    {page : List Failure → Option κ → Action I Unit ((List Failure × Option κ) ⊕ List Failure)}
    (hnil : records [] = [])
    (hpage : ∀ marker todo g, Midway keeps start todo g → marker.map place = g.passed.getLast? →
      Action.Ends K (page (records g.deletions) marker) () g fun r _ g' =>
        Turns keeps records place start todo r g') :
    Action.Ends K (do
      let failures ← Action.loop (fun (failures, marker) => page failures marker) ([], none)
      Action.ofExcept (Error.ofFailures failures)) () ⟨start, [], none⟩ fun r _ g' =>
        Ended keeps records start r g' := by
  rw [Action.ends_bind]
  refine Action.ends_loop_of_lt (fun t _ g => t.1 = records g.deletions ∧
      t.2.map place = g.passed.getLast? ∧ ∃ todo, Midway keeps start todo g)
    (fun _ g => start.length - g.passed.length) ⟨hnil.symm, rfl, start, .begin start⟩ ?_
  rintro ⟨_, marker⟩ ⟨⟩ g ⟨rfl, hmarker, todo, hmid⟩
  refine (hpage marker todo g hmid hmarker).mono ?_
  have hlength {todo : List ι} {g : Shelf ι ρ} (h : Midway keeps start todo g) :
      start.length - g.passed.length = todo.length := by
    rw [← h.passed, List.length_append, Nat.add_sub_cancel_left]
  rintro (e | ⟨_, marker'⟩ | _) _ g' h
  · have hfailure : g'.failure = some e := h
    refine ⟨fun e' he' => ?_, fun hnone => ?_⟩
    · rw [Option.some.inj (hfailure.symm.trans he')]
    · exact nomatch hfailure.symm.trans hnone
  · obtain ⟨rfl, hmarker', rest, hmid', hlt⟩ := h
    refine ⟨⟨rfl, hmarker', rest, hmid'⟩, ?_⟩
    rw [hlength hmid, hlength hmid']
    exact hlt
  · obtain ⟨rfl, hmid'⟩ := h
    refine ⟨fun e he => ?_, fun _ => ⟨hmid', rfl⟩⟩
    exact nomatch hmid'.running.symm.trans he

end

end Shelf

end Depot
