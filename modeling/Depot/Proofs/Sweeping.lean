import Depot.Proofs.Gcs
import Depot.Proofs.Removal
import Depot.Proofs.Shelves
import Depot.Proofs.Swift
import Mathlib.Data.String.Basic

set_option autoImplicit false

/-!
# Emptying buckets and containers that may refuse

A bucket of Google Cloud or a container of Swift is emptied while it is listed, one object after the
other, and objects may refuse to be deleted. The two listings stop in different ways, by a token
that is absent or empty and by an empty page. Both loops pass each object to exactly one deletion,
leave those that were refused, and fail with a record of each of them; only after a loop that
succeeded, or found nothing to empty, is the bucket or container deleted.

## Main definitions

* `Gcs.listing`, `Swift.listing` — the contracts with a bucket and a container that are listed page
  by page.
* `Shelf.Swept` — what an emptying leaves.

## Main results

* `ends_deleteEach` — the next objects are deleted one by one.
* `Lifecycle.asks_remove` — a resource is deleted only after it was emptied or was gone.
* `objects_swept` — a bucket and a container are emptied, and then deleted.
-/

namespace Depot

/-! ## Objects that are deleted one by one -/

/-- The error with which a deletion was refused; none if the object is gone. -/
def refusal? : Except Error Unit → Option Error
  | .ok () => none
  | .error e => if e.isNotFound then none else some e

/-- The record of an object whose deletion was refused. -/
def refusalRecord (holder name : String) (e : Error) : Failure where
  operation := "delete-object"
  resource := holder ++ "/" ++ name
  cause := e.message
  retryable := e.isRetryable

/-- Deleting objects one by one records the first of them if its deletion was refused, and goes on
with the others in any case.

**Proof sketch.** After an answer that is no refusal nothing is recorded, so both sides only go on;
after a refusal both put the same record before what the others leave. -/
lemma Storage.deleteEach_cons (ask : String → Prog World (Except Error Unit))
    (holder name : String) (rest : List String) :
    deleteEach ask holder (name :: rest) = (do
      let x ← Action.perform (ask name)
      return ((refusal? x).map (refusalRecord holder name)).toList ++
        (← deleteEach ask holder rest)) := by
  refine congrArg (Action.perform (ask name) >>= ·) (funext ?_)
  have hnone : (do return ([] : List Failure) ++ (← deleteEach ask holder rest)) =
      deleteEach ask holder rest := bind_pure _
  rintro (e | ⟨⟩)
  · by_cases he : e.isNotFound
    · have hgone : refusal? (.error e) = none := if_pos he
      rw [hgone]
      exact (if_pos he).trans hnone.symm
    · have hrefused : refusal? (.error e) = some e := if_neg he
      rw [hrefused]
      exact if_neg he
  · exact hnone.symm

/-- The objects whose deletion was refused, with the errors, in order. -/
def refused (ds : List (List String × Except Error Unit)) : List (String × Error) :=
  ds.flatMap fun d => d.1.filterMap fun name => (refusal? d.2).map (name, ·)

/-- The records of deletions. -/
def refusals (holder : String) (ds : List (List String × Except Error Unit)) : List Failure :=
  (refused ds).map fun p => refusalRecord holder p.1 p.2

/-- A deletion that is refused keeps the object. -/
def refuses (x : Except Error Unit) (_ : String) : Bool := (refusal? x).isSome

/-- A record is added if the deletion was refused. -/
lemma refusals_delete (holder name : String) (g : Shelf String (Except Error Unit))
    (x : Except Error Unit) : refusals holder (g.delete refuses [name] x).deletions =
      refusals holder g.deletions ++ ((refusal? x).map (refusalRecord holder name)).toList := by
  rw [refusals, refusals, refused, refused, Shelf.delete, List.flatMap_append, List.map_append]
  cases hx : refusal? x <;> simp [hx]

section

variable {K : Contract World (Shelf String (Except Error Unit))} {holder : String}
  {ask : String → Prog World (Except Error Unit)} {start rest : List String}
  {g : Shelf String (Except Error Unit)}

/-- The next objects are deleted one by one.

**Proof sketch.** By induction on the names, one deletion at a time by `Midway.delete`. -/
theorem ends_deleteEach (hstart : start.Nodup)
    (hask : ∀ name g, g.failure = none →
      (ask name).Ends K g fun x g' => g' = g.delete refuses [name] x) (names : List String)
    (h : Shelf.Midway refuses start (names ++ rest) g) :
    Action.Ends K (Storage.deleteEach ask holder names) () g fun r _ g' =>
      ∃ failures, r = .ok failures ∧ Shelf.Midway refuses start rest g' ∧
        g'.passed = g.passed ++ names ∧
        refusals holder g'.deletions = refusals holder g.deletions ++ failures := by
  induction names generalizing g with
  | nil => exact ⟨[], rfl, h, by simp, by simp⟩
  | cons name names ih =>
    rw [Storage.deleteEach_cons, Action.ends_bind, Action.ends_perform]
    refine (hask name g h.running).mono ?_
    rintro x _ rfl
    have hfirst : Shelf.Midway refuses start ([name] ++ (names ++ rest)) g := h
    have hnext := hfirst.delete hstart x
    dsimp only
    rw [Action.ends_bind]
    refine (ih hnext).mono ?_
    rintro _ _ g' ⟨failures, rfl, hmid, hpassed, hrecords⟩
    refine ⟨_, rfl, hmid, ?_, ?_⟩
    · rw [hpassed, Shelf.passed_delete, List.append_assoc]
      rfl
    · rw [hrecords, refusals_delete, List.append_assoc]

end

/-- What emptying a bucket or container leaves if no call failed as a whole. -/
structure Shelf.Swept (holder : String) (names : List String) (r : Except Error Unit)
    (g : Shelf String (Except Error Unit)) : Prop where
  /-- Every object was passed to one deletion, in the order of the listing. -/
  once : g.passed = names
  /-- Those are left whose deletion was refused. -/
  left : g.items = (refused g.deletions).map Prod.fst
  /-- The emptying succeeds if there is none. -/
  succeeds : r = .ok () ↔ g.items = []
  /-- Otherwise it fails with a record of every object that is left, in order. -/
  fails : r ≠ .ok () → r = .error (.aggregate
    ((refused g.deletions).map fun p => refusalRecord holder p.1 p.2))

/-- What the deletions kept are the objects that were refused. -/
lemma kept_eq (g : Shelf String (Except Error Unit)) :
    g.kept refuses = (refused g.deletions).map Prod.fst := by
  rw [Shelf.kept, refused, List.map_flatMap]
  refine congrArg (List.flatMap · g.deletions) (funext fun d => ?_)
  unfold refuses
  cases refusal? d.2 <;> simp [Function.comp_def]

/-- A store whose objects were all passed is swept. -/
lemma Shelf.Ended.swept {holder : String} {names : List String} {r : Except Error Unit}
    {g : Shelf String (Except Error Unit)}
    (h : Shelf.Ended refuses (refusals holder) names r g) (hnone : g.failure = none) :
    g.Swept holder names r := by
  obtain ⟨hpassed, hitems, rfl⟩ := h.all hnone
  rw [kept_eq] at hitems
  refine ⟨hpassed, hitems, ?_, Error.ofFailures_of_ne⟩
  rw [Error.ofFailures_eq_ok, refusals, List.map_eq_nil_iff, hitems, List.map_eq_nil_iff]

/-! ## Google Cloud -/

namespace Gcs

variable {β : Type} [LinearOrder β]

/-- The contract with a bucket that is listed in some order, page by page; a token that is empty
says like none that nothing is left. The program makes no call but for listings and deletions in
this bucket, and stops at the first listing that fails. -/
def listing (rank : String → β) (bucket : String) :
    Contract World (Shelf String (Except Error Unit)) where
  permits g
    | .gcs (.listObjects b _) | .gcs (.deleteObject b _) => g.failure = none ∧ b = bucket
    | _ => False
  step g c x g' :=
    match c, x with
    | .gcs (.listObjects _ token), .ok page =>
      g' = g ∧ ∃ rest, g.IsPage rank token page.names rest ∧
        (page.next = Shelf.next id page.names rest ∨ rest = [] ∧ page.next = some "")
    | .gcs (.listObjects _ _), .error e => g'.failure = some e
    | .gcs (.deleteObject _ name), x => g' = g.delete refuses [name] x
    | _, _ => False

variable {rank : String → β} {bucket : String} {start todo : List String}
  {g : Shelf String (Except Error Unit)}

/-- A listing goes on behind the last name of the page, or nothing is left. -/
lemma nextToken?_cases {names rest : List String} {next : Option String}
    (hnames : ∀ name ∈ names, name ≠ "") (hempty : names = [] → rest = [])
    (hnext : next = Shelf.next id names rest ∨ rest = [] ∧ next = some "") :
    (rest = [] ∧ Binding.nextToken? next = none) ∨
      names ≠ [] ∧ ∃ x, names.getLast? = some x ∧ Binding.nextToken? next = some x := by
  rcases hnext with rfl | ⟨hrest, rfl⟩
  · rcases Shelf.next_cases id hempty with ⟨hrest, hlast⟩ | ⟨hpage, x, hx, hgoes⟩
    · exact .inl ⟨hrest, by rw [hlast]; rfl⟩
    · refine .inr ⟨hpage, x, hx, ?_⟩
      rw [hgoes]
      exact if_pos (decide_eq_true (hnames x (List.mem_of_getLast? hx)))
  · exact .inl ⟨hrest, rfl⟩

/-- A page of objects is listed and deleted.

**Proof sketch.** The page is the next one, by the marker, and its names are deleted one by one;
whether the listing goes on is what its token says. -/
lemma turns_emptyPage (hstart : start.Pairwise (rank · < rank ·))
    (hnamed : ∀ name ∈ start, name ≠ "") (token : Option String)
    (h : Shelf.Midway refuses start todo g) (htoken : token.map id = g.passed.getLast?) :
    Action.Ends (listing rank bucket) (emptyPage bucket (refusals bucket g.deletions) token) () g
      fun r _ g' => Shelf.Turns refuses (refusals bucket) id start todo r g' := by
  rw [emptyPage, Action.ends_bind, Action.ends_attempt]
  refine Prog.ends_perform.2 ⟨⟨h.running, rfl⟩, ?_⟩
  rintro (e | page) g' hg'
  · exact hg'
  · obtain ⟨rfl, rest, hpage, hnext⟩ := hg'
    have hposition : token = g'.passed.getLast? := by simpa using htoken
    rw [hposition] at hpage
    obtain ⟨rfl, hempty⟩ := h.page hstart hpage
    have hnames : ∀ name ∈ page.names, name ≠ "" := fun name hname => by
      refine hnamed name (h.passed ▸ ?_)
      exact List.mem_append_right _ (List.mem_append_left _ hname)
    dsimp only
    rw [Action.ends_bind]
    refine (ends_deleteEach (Shelf.nodup_of_ordered hstart) (fun name g hg => ?_) _ h).mono ?_
    · exact Prog.ends_perform.2 ⟨⟨hg, rfl⟩, fun x g' hg' => hg'⟩
    · rintro _ _ g'' ⟨failures, rfl, hmid, hpassed, hrecords⟩
      dsimp only
      rcases nextToken?_cases hnames hempty hnext with ⟨rfl, hlast⟩ | ⟨hpage, x, hx, hgoes⟩
      · rw [hlast]
        exact ⟨hrecords.symm, hmid⟩
      · rw [hgoes]
        exact hmid.turns hpassed hpage hx rfl hrecords.symm

/-- Every call can be answered so that no listing fails. -/
lemma exists_answer (rank : String → β) (bucket : String)
    (g : Shelf String (Except Error Unit)) (c : World.Call) (hg : g.failure = none)
    (hc : (listing rank bucket).permits g c) :
    ∃ x g', (listing rank bucket).step g c x g' ∧ g'.failure = none := by
  cases c with
  | gcs c =>
    cases c with
    | listObjects b token =>
      refine ⟨.ok ⟨Shelf.after rank token g.items, none⟩, g, ⟨rfl, [], ?_⟩, hg⟩
      exact ⟨Shelf.isPage_all .., .inl rfl⟩
    | deleteObject b name => exact ⟨.ok (), g.delete refuses [name] (.ok ()), rfl, hg⟩
    | _ => exact hc.elim
  | _ => exact hc.elim

end Gcs

/-! ## Swift -/

namespace Swift

variable {β : Type} [LinearOrder β]

/-- The contract with a container that is listed in some order, page by page; every page with
something on it says that the listing may go on behind its last name. The program makes no call but
for listings and deletions in this container, and stops at the first listing that fails. -/
def listing (rank : String → β) (container : String) :
    Contract World (Shelf String (Except Error Unit)) where
  permits g
    | .swift (.listObjects c _) | .swift (.deleteObject c _) => g.failure = none ∧ c = container
    | _ => False
  step g c x g' :=
    match c, x with
    | .swift (.listObjects _ marker), .ok page =>
      g' = g ∧ ∃ rest, g.IsPage rank marker page.names rest ∧
        (page.names ≠ [] → page.next = page.names.getLast?)
    | .swift (.listObjects _ _), .error e => g'.failure = some e
    | .swift (.deleteObject _ name), x => g' = g.delete refuses [name] x
    | _, _ => False

variable {rank : String → β} {container : String} {start todo : List String}
  {g : Shelf String (Except Error Unit)}

/-- A page of objects is listed and deleted.

**Proof sketch.** The listing goes on from the last name of a page that is not empty, and ends with
an empty page. -/
lemma turns_emptyPage (hstart : start.Pairwise (rank · < rank ·)) (marker : Option String)
    (h : Shelf.Midway refuses start todo g) (hmarker : marker.map id = g.passed.getLast?) :
    Action.Ends (listing rank container)
      (emptyPage container (refusals container g.deletions) marker) () g
      fun r _ g' => Shelf.Turns refuses (refusals container) id start todo r g' := by
  rw [emptyPage, Action.ends_bind, Action.ends_attempt]
  refine Prog.ends_perform.2 ⟨⟨h.running, rfl⟩, ?_⟩
  rintro (e | page) g' hg'
  · exact hg'
  · obtain ⟨rfl, rest, hpage, hnext⟩ := hg'
    have hposition : marker = g'.passed.getLast? := by simpa using hmarker
    rw [hposition] at hpage
    obtain ⟨rfl, hempty⟩ := h.page hstart hpage
    dsimp only
    split
    · rename_i hnil
      have hnames := List.isEmpty_iff.1 hnil
      rw [hnames, hempty hnames] at h
      exact ⟨rfl, h⟩
    · rename_i hnil
      have hnames : page.names ≠ [] := mt List.isEmpty_iff.2 hnil
      obtain ⟨x, hx⟩ := Option.isSome_iff_exists.1 (List.getLast?_isSome.2 hnames)
      rw [hnext hnames, hx, Action.ends_bind]
      refine (ends_deleteEach (Shelf.nodup_of_ordered hstart) (fun name g hg => ?_) _ h).mono ?_
      · exact Prog.ends_perform.2 ⟨⟨hg, rfl⟩, fun x g' hg' => hg'⟩
      · rintro _ _ g'' ⟨failures, rfl, hmid, hpassed, hrecords⟩
        exact hmid.turns hpassed hnames hx rfl hrecords.symm

/-- Every call can be answered so that no listing fails.

**Proof sketch.** A listing is answered by all that comes after the marker, and a deletion by its
success. -/
lemma exists_answer (rank : String → β) (container : String)
    (g : Shelf String (Except Error Unit)) (c : World.Call) (hg : g.failure = none)
    (hc : (listing rank container).permits g c) :
    ∃ x g', (listing rank container).step g c x g' ∧ g'.failure = none := by
  cases c with
  | swift c =>
    cases c with
    | listObjects b marker =>
      let names := Shelf.after rank marker g.items
      refine ⟨.ok ⟨names, names.getLast?⟩, g, ⟨rfl, [], ?_⟩, hg⟩
      exact ⟨Shelf.isPage_all .., fun _ => rfl⟩
    | deleteObject b name => exact ⟨.ok (), g.delete refuses [name] (.ok ()), rfl, hg⟩
    | _ => exact hc.elim
  | _ => exact hc.elim

end Swift

/-! ## Deleting what was emptied -/

namespace Lifecycle

variable {k : Resource.Kind} {ops : Resource.Operations} {u : Subject} {es : Trace World}
  {d : World.Call} {α : Type}

/-- What a call of the lifecycle asks, and what follows its answer. -/
lemma asks_ask_bind {c : Resource.Call} {f : Resource.interface.Answer c → Step α} :
    Action.Asks (Action.interpret ops.answer (ask c >>= f)) u es d ↔
      (ops.answer c).Asks es d ∨ ∃ x fs gs, es = fs ++ gs ∧ (ops.answer c).Runs fs x ∧
        Action.Asks (Action.interpret ops.answer (f x)) u gs d := by
  refine (iff_of_eq (congrArg (Action.Asks · u es d) (Action.interpret_bind ..))).trans ?_
  refine Action.asks_bind.trans (or_congr Action.asks_perform ⟨?_, ?_⟩)
  · rintro ⟨x, v, fs, gs, rfl, hrun, h⟩
    obtain ⟨_, hrun, hx, rfl⟩ := Action.runs_perform.1 hrun
    cases hx
    exact ⟨x, fs, gs, rfl, hrun, h⟩
  · rintro ⟨x, fs, gs, rfl, hrun, h⟩
    exact ⟨x, u, fs, gs, rfl, Action.runs_perform.2 ⟨x, hrun, rfl, rfl⟩, h⟩

/-- An observation asks for the date. -/
lemma asks_record {kind : Condition.Kind} {status : Condition.Status} {reason message : String}
    (h : Action.Asks (Action.interpret ops.answer (record kind status reason message)) u es d) :
    d = .time := by
  rcases asks_ask_bind.1 h with htime | ⟨now, fs, gs, -, -, hnone⟩
  · exact (Action.asks_one.1 htime).2
  · exact hnone.elim

/-- A failure that is recorded asks for the date. -/
lemma asks_abort {kind : Condition.Kind} {status : Condition.Status} {reason message : String}
    {e : Error} (h : Action.Asks (Action.interpret ops.answer
      (do record kind status reason message; throw e : Step α)) u es d) : d = .time := by
  rw [record, bind_assoc] at h
  rcases asks_ask_bind.1 h with htime | ⟨now, fs, gs, -, -, hnone⟩
  · exact (Action.asks_one.1 htime).2
  · exact hnone.elim

/-- A removal goes on after a step only if the resource is gone. -/
lemma asks_acceptGone {x : Except Error Unit} {next : Step Unit}
    (h : Action.Asks (Action.interpret ops.answer (do acceptGone x; next)) u es d)
    (hd : d ≠ .time) : isGone x ∧ Action.Asks (Action.interpret ops.answer next) u es d := by
  rcases x with e | ⟨⟩
  · rw [acceptGone] at h
    split at h
    · rename_i he
      exact ⟨he, h⟩
    · rw [recordDeletionFailed, bind_assoc] at h
      exact absurd (asks_abort h) hd
  · exact ⟨rfl, h⟩

/-- Besides its measurement a removal asks what emptying and deleting the resource asks.

**Proof sketch.** The call is not the measurement, so it is one of the removal itself. -/
lemma asks_removeOwned (hmeasured : ∀ b o succeeded, d ≠ .measured b o succeeded)
    (h : Action.Asks (Action.interpret ops.answer (remove k)) u es d) :
    Action.Asks (Action.interpret ops.answer (removeOwned k u.name)) u es d := by
  have hrun : Action.Asks (Action.interpret ops.answer
      (if !u.status.isManaged || u.name = "" then return false
      else do
        let result ← Action.outcome (removeOwned k u.name)
        ask (.measured .remove result.isOk)
        Action.ofExcept result
        return true)) u es d := h
  split at hrun
  · exact hrun.elim
  · have hparts := (iff_of_eq (congrArg (Action.Asks · u es d) (Action.interpret_bind ..))).1 hrun
    rcases Action.asks_bind.1 hparts with hbody | ⟨result, v, fs, gs, -, -, hrest⟩
    · have houtcome := (iff_of_eq (congrArg (Action.Asks · u es d)
        (Action.interpret_outcome ..))).1 hbody
      exact Action.asks_outcome.1 houtcome
    · rcases asks_ask_bind.1 hrest with hlast | ⟨_, ks, ls, -, -, hnone⟩
      · exact absurd (Action.asks_one.1 hlast).2 (hmeasured _ _ _)
      · cases result with
        | error e => exact hnone.elim
        | ok => exact hnone.elim

/-- **A resource is deleted only after it was emptied or was gone.** A call that the emptying does
not make is made by a removal only while it deletes the resource, which comes after a whole run of
the emptying that succeeded or found the resource gone.

**Proof sketch.** The calls of a removal are those of the emptying, a record of its failure, those
of the deletion and a record of its outcome. The hypotheses leave the deletion, which comes after a
whole run of the emptying. -/
theorem asks_remove (hempty : ∀ fs, ¬ (ops.empty u.name).result.Asks fs d) (htime : d ≠ .time)
    (hmeasured : ∀ b o succeeded, d ≠ .measured b o succeeded)
    (h : Action.Asks (Action.interpret ops.answer (remove k)) u es d) :
    ∃ fs gs x, es = fs ++ gs ∧ (ops.empty u.name).result.Runs fs x ∧ isGone x ∧
      (ops.delete u.name).result.Asks gs d := by
  have hbody : Action.Asks (Action.interpret ops.answer (removeOwned k u.name)) u es d :=
    asks_removeOwned hmeasured h
  rcases asks_ask_bind.1 hbody with hasked | ⟨x, fs, gs, rfl, hrun, hrest⟩
  · exact absurd hasked (hempty es)
  · obtain ⟨hx, hrest⟩ := asks_acceptGone hrest htime
    rcases asks_ask_bind.1 hrest with hasked | ⟨y, ks, ls, rfl, -, hrest⟩
    · exact ⟨fs, gs, x, rfl, hrun, hx, hasked⟩
    · obtain ⟨-, hlast⟩ := asks_acceptGone hrest htime
      exact absurd (asks_record hlast) htime

end Lifecycle

/-! ## Main results -/

/-- Emptying a bucket does not delete it. -/
lemma Gcs.not_asks_empty (bucket name : String) (es : Trace World) :
    ¬ (Gcs.empty bucket).result.Asks es (.gcs (.deleteBucket name)) := by
  intro h
  let K : Contract World Unit :=
    .tracking (fun _ c => c ≠ .gcs (.deleteBucket name)) fun _ _ _ => ()
  have hidle : Action.Idle K () (Gcs.empty bucket) :=
    Gcs.idle_empty (fun _ => ⟨nofun, fun _ _ _ => rfl⟩) (fun _ => ⟨nofun, fun _ _ _ => rfl⟩)
  have hpath : K.Path () es () := (Contract.path_tracking ..).2 rfl
  exact (hidle.result.of_asks h hpath) rfl

/-- Emptying a container does not delete it. -/
lemma Swift.not_asks_empty (container name : String) (es : Trace World) :
    ¬ (Swift.empty container).result.Asks es (.swift (.deleteContainer name)) := by
  intro h
  let K : Contract World Unit :=
    .tracking (fun _ c => c ≠ .swift (.deleteContainer name)) fun _ _ _ => ()
  have hidle : Action.Idle K () (Swift.empty container) :=
    Swift.idle_empty (fun _ => ⟨nofun, fun _ _ _ => rfl⟩) (fun _ => ⟨nofun, fun _ _ _ => rfl⟩)
  have hpath : K.Path () es () := (Contract.path_tracking ..).2 rfl
  exact (hidle.result.of_asks h hpath) rfl

/-- **Emptying a bucket of Google Cloud or a container of Swift**, with objects of any names, in
pages of any sizes: every object is passed to one deletion, and those are left and reported that
refuse. Only if it succeeds, or finds that there is none, is the bucket or container deleted.

**Proof sketch.** What carries the loop over the pages is that the deletions so far were asked for a
first part of the objects (`Shelf.Midway`), so that the listing goes on with the others although
some of that part may still be stored (`Shelf.Midway.after_eq`). The loop ends because a page is
not empty unless nothing is left; a listing without a token or with an empty one has nothing left
(`Gcs.turns_emptyPage`), and neither has an empty page (`Swift.turns_emptyPage`). -/
theorem objects_swept {β : Type} [LinearOrder β] (rank : String → β) (holder : String)
    (names : List String) (hordered : names.Pairwise (rank · < rank ·))
    (hnamed : ∀ name ∈ names, name ≠ "") :
    (Action.Ends (Gcs.listing rank holder) (Gcs.empty holder) () ⟨names, [], none⟩ fun r _ g =>
      (∀ e, g.failure = some e → r = .error e) ∧ (g.failure = none → g.Swept holder names r)) ∧
    (Action.Ends (Swift.listing rank holder) (Swift.empty holder) () ⟨names, [], none⟩ fun r _ g =>
      (∀ e, g.failure = some e → r = .error e) ∧ (g.failure = none → g.Swept holder names r)) ∧
    (∀ (b : Gcs.Bucket) (k : Resource.Kind) (u : Lifecycle.Subject) (es : Trace World)
      (name : String), Action.Asks (Action.interpret b.operations.answer (Lifecycle.remove k)) u es
        (.gcs (.deleteBucket name)) →
      name = u.name ∧ ∃ x, (Gcs.empty name).result.Runs es x ∧ Lifecycle.isGone x) ∧
    (∀ (infraName : String) (k : Resource.Kind) (u : Lifecycle.Subject) (es : Trace World)
      (name : String), Action.Asks (Action.interpret (Swift.operations infraName).answer
        (Lifecycle.remove k)) u es (.swift (.deleteContainer name)) →
      name = u.name ∧ ∃ x, (Swift.empty name).result.Runs es x ∧ Lifecycle.isGone x) := by
  refine ⟨?_, ?_, ?_, ?_⟩
  · refine (Shelf.ends_pages (refusals holder) rfl
      fun token todo g => Gcs.turns_emptyPage hordered hnamed token).mono ?_
    exact fun r _ g hended => ⟨hended.stopped, hended.swept⟩
  · refine (Shelf.ends_pages (refusals holder) rfl
      fun marker todo g => Swift.turns_emptyPage hordered marker).mono ?_
    exact fun r _ g hended => ⟨hended.stopped, hended.swept⟩
  · intro b k u es name hasked
    obtain ⟨fs, gs, x, rfl, hrun, hx, hlast⟩ :=
      Lifecycle.asks_remove (d := .gcs (.deleteBucket name)) (Gcs.not_asks_empty u.name name)
        nofun nofun hasked
    obtain ⟨rfl, heq⟩ := Action.asks_one.1 (Action.asks_attempt.1 (Action.asks_result.1 hlast))
    cases heq
    rw [List.append_nil]
    exact ⟨rfl, x, hrun, hx⟩
  · intro infraName k u es name hasked
    obtain ⟨fs, gs, x, rfl, hrun, hx, hlast⟩ :=
      Lifecycle.asks_remove (d := .swift (.deleteContainer name))
        (Swift.not_asks_empty u.name name) nofun nofun hasked
    obtain ⟨rfl, heq⟩ := Action.asks_one.1 (Action.asks_attempt.1 (Action.asks_result.1 hlast))
    cases heq
    rw [List.append_nil]
    exact ⟨rfl, x, hrun, hx⟩

/-- A bucket and a container with two objects. -/
theorem objects_swept_pair :
    let names := ["a", "b"]
    (names.Pairwise (id · < id ·) ∧ ∀ name ∈ names, name ≠ "") ∧
    (Action.May (Gcs.listing id "images") (Gcs.empty "images") () ⟨names, [], none⟩ fun r _ g =>
      g.failure = none ∧ g.Swept "images" names r) ∧
    (Action.May (Swift.listing id "images") (Swift.empty "images") () ⟨names, [], none⟩ fun r _ g =>
      g.failure = none ∧ g.Swept "images" names r) := by
  intro names
  have hordered : names.Pairwise (id · < id ·) := by decide
  have hnamed : ∀ name ∈ names, name ≠ "" := by decide
  obtain ⟨hgcs, hswift, -, -⟩ := objects_swept id "images" names hordered hnamed
  have hbucket := Prog.Ends.may (P := fun g => g.failure = none) (Gcs.exists_answer id "images")
    hgcs rfl
  have hcontainer := Prog.Ends.may (P := fun g => g.failure = none)
    (Swift.exists_answer id "images") hswift rfl
  refine ⟨⟨hordered, hnamed⟩, hbucket.mono ?_, hcontainer.mono ?_⟩
  · rintro ⟨r, ⟨⟩⟩ g ⟨h, hnone⟩
    exact ⟨hnone, h.2 hnone⟩
  · rintro ⟨r, ⟨⟩⟩ g ⟨h, hnone⟩
    exact ⟨hnone, h.2 hnone⟩

end Depot
