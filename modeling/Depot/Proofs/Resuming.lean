import Depot.Proofs.Emptying
import Depot.Proofs.Removal
import Depot.Proofs.Repeating

set_option autoImplicit false

/-!
# Removals that are resumed

A removal that fails leaves the registry as it was, but for one condition, so it can be tried again
any number of times. Once nothing fails any more it comes to its end: the resource is gone, and from
then on there is nothing to remove.

## Main definitions

* `Lifecycle.Quiet` — the clock and the record of measurements change nothing.
* `Storage.Concluded` — how a removal leaves things that came to its end.
* `Storage.Outcome.Failed` — an operation failed.

## Main results

* `Lifecycle.ends_remove` — the lifecycle's removal succeeds where the steps of a backend do.
* `Storage.ends_remove` — so does a removal of storage, in any backend.
* `Storage.withheld_of_series` — what removals leave that fail.
* `Storage.removal_resumed` — how a removal may run, and how it ends when it is resumed.
-/

namespace Depot

/-! ## The lifecycle -/

namespace Lifecycle

variable {G α β : Type} {K : Contract World G} {k : Resource.Kind} {ops : Resource.Operations}
  {u : Subject} {g : G}

/-- One part of the lifecycle after another. -/
lemma ends_bind {a : Step α} {f : α → Step β} {Q : Except Error β → Subject → G → Prop} :
    Action.Ends K (Action.interpret ops.answer (a >>= f)) u g Q ↔
      Action.Ends K (Action.interpret ops.answer a) u g fun r v g' =>
        match r with
        | .ok x => Action.Ends K (Action.interpret ops.answer (f x)) v g' Q
        | .error e => Q (.error e) v g' :=
  (iff_of_eq (congrArg (Action.Ends K · u g Q) (Action.interpret_bind ..))).trans Action.ends_bind

/-- A call of the lifecycle ends as the program for it, and what follows its answer. -/
lemma ends_ask_bind {c : Resource.Call} {f : Resource.interface.Answer c → Step α}
    {Q : Except Error α → Subject → G → Prop} :
    Action.Ends K (Action.interpret ops.answer (ask c >>= f)) u g Q ↔
      (ops.answer c).Ends K g fun x g' =>
        Action.Ends K (Action.interpret ops.answer (f x)) u g' Q :=
  ends_bind.trans Action.ends_perform

/-- A look at the subject, and what follows it. -/
lemma ends_get_bind {f : Subject → Step α} {Q : Except Error α → Subject → G → Prop} :
    Action.Ends K (Action.interpret ops.answer (get >>= f)) u g Q ↔
      Action.Ends K (Action.interpret ops.answer (f u)) u g Q :=
  Iff.rfl

/-- A change of the owner, and what follows it. -/
lemma ends_setOwnership_bind {o : Ownership} {f : Unit → Step α}
    {Q : Except Error α → Subject → G → Prop} :
    Action.Ends K (Action.interpret ops.answer (setOwnership o >>= f)) u g Q ↔
      Action.Ends K (Action.interpret ops.answer (f ()))
        { u with status := { u.status with ownership := some o } } g Q :=
  Iff.rfl

/-- The outcome of a part of the lifecycle, and what follows it. -/
lemma ends_outcome_bind {a : Step α} {f : Except Error α → Step β}
    {Q : Except Error β → Subject → G → Prop} :
    Action.Ends K (Action.interpret ops.answer (Action.outcome a >>= f)) u g Q ↔
      Action.Ends K (Action.interpret ops.answer a) u g fun x v g' =>
        Action.Ends K (Action.interpret ops.answer (f x)) v g' Q := by
  refine (iff_of_eq (congrArg (Action.Ends K · u g Q) ((Action.interpret_bind ..).trans
    (congrArg (· >>= _) (Action.interpret_outcome ..))))).trans ?_
  exact Action.ends_bind.trans Action.ends_outcome

/-- A removal goes on if the resource is gone. -/
lemma ends_acceptGone {x : Except Error Unit} {next : Step Unit} (hx : isGone x)
    {Q : Except Error Unit → Subject → G → Prop}
    (h : Action.Ends K (Action.interpret ops.answer next) u g Q) :
    Action.Ends K (Action.interpret ops.answer (do acceptGone x; next)) u g Q := by
  rcases x with e | ⟨⟩
  · have he : e.isNotFound = true := hx
    rw [acceptGone, if_pos he]
    exact h
  · exact h

/-- The clock can be read and measurements recorded at any time, and neither changes anything. -/
structure Quiet (K : Contract World G) : Prop where
  /-- The clock can be read. -/
  time : ∀ g, K.IdleCall g .time
  /-- Measurements can be recorded. -/
  measured : ∀ backend operation succeeded g,
    K.IdleCall g (.measured backend operation succeeded)

/-- An observation. -/
lemma Quiet.ends_record (hK : Quiet K) {kind : Condition.Kind} {status : Condition.Status}
    {reason message : String} {Q : Except Error Unit → Subject → G → Prop}
    (h : ∀ now, Q (.ok ()) { u with status := u.status.record kind status reason message now } g) :
    Action.Ends K (Action.interpret ops.answer (record kind status reason message)) u g Q := by
  refine ends_ask_bind.2 ⟨(hK.time g).1, fun now g' hg => ?_⟩
  obtain rfl := (hK.time g).2 now g' hg
  exact h now

/-- The record of a measurement, and what follows it. -/
lemma Quiet.ends_measured_bind (hK : Quiet K) {operation : Operation} {succeeded : Bool}
    {next : Step α} {Q : Except Error α → Subject → G → Prop}
    (h : Action.Ends K (Action.interpret ops.answer next) u g Q) :
    Action.Ends K (Action.interpret ops.answer (do ask (.measured operation succeeded); next))
      u g Q := by
  have hidle := hK.measured ops.kind.backend operation succeeded g
  refine ends_ask_bind.2 ⟨hidle.1, fun x g' hg => ?_⟩
  obtain rfl := hidle.2 x g' hg
  exact h

variable {P : G → Prop}

/-- Emptying and deleting a resource succeeds, and leaves what its deletion does. -/
lemma ends_removeOwned (hK : Quiet K)
    (hops : (ops.empty u.name).result.Ends K g fun y g' => isGone y ∧
      (ops.delete u.name).result.Ends K g' fun z g'' => isGone z ∧ P g'') :
    Action.Ends K (Action.interpret ops.answer (removeOwned k u.name)) u g fun r v g' =>
      r = .ok () ∧ (∃ now, v = { u with status := deleted k u.name u.status now }) ∧ P g' := by
  refine ends_ask_bind.2 (hops.mono ?_)
  rintro y g ⟨hy, hdelete⟩
  refine ends_acceptGone hy (ends_ask_bind.2 (hdelete.mono ?_))
  rintro z g ⟨hz, hg⟩
  refine ends_acceptGone hz (ends_setOwnership_bind.2 (hK.ends_record fun now => ?_))
  exact ⟨rfl, ⟨now, rfl⟩, hg⟩

/-- **A removal succeeds** and leaves what the deletion of the resource does. -/
theorem ends_remove (hK : Quiet K) (hm : u.status.ownership = some .managed) (hn : u.name ≠ "")
    (hops : (ops.empty u.name).result.Ends K g fun y g' => isGone y ∧
      (ops.delete u.name).result.Ends K g' fun z g'' => isGone z ∧ P g'') :
    Action.Ends K (Action.interpret ops.answer (remove k)) u g fun r v g' =>
      r = .ok true ∧ (∃ now, v = { u with status := deleted k u.name u.status now }) ∧ P g' := by
  refine ends_get_bind.2 ?_
  rw [Status.owned_iff.2 ⟨hm, hn⟩]
  refine ends_outcome_bind.2 ((ends_removeOwned hK hops).mono ?_)
  rintro _ v g ⟨rfl, hv, hg⟩
  exact hK.ends_measured_bind ⟨rfl, hv, hg⟩

end Lifecycle

/-- In surroundings that tell the truth about objects neither the clock nor a measurement changes
anything. -/
lemma Stock.quiet (E : Surroundings) (limit : Nat) : Lifecycle.Quiet (E.stock limit) where
  time _ := ⟨id, fun _ _ h => h.2.2⟩
  measured _ _ _ _ := ⟨id, fun _ _ h => h.2.2⟩

/-! ## Sessions -/

namespace Storage

/-- How a removal leaves things that came to its end. -/
structure Concluded (a : Session Storage) (g : Stock) (b : Session Storage) : Prop where
  /-- A resource of the operator is gone. -/
  gone : a.ownership = some .managed → a.config.resource ≠ "" → a.config.asset ∉ g.cloud.assets
  /-- Nothing is left to be removed. -/
  idle : b.ownership ≠ some .managed ∨ b.config.resource = ""

section

variable {C κ α : Type} {t : Session C} {w : C → Storage} {E : Surroundings} {limit : Nat}
  {g : Stock} {k : Resource.Kind}

/-- A part of the lifecycle ends in a session as it does on its own. -/
lemma ends_inSession {G : Type} {K : Contract World G} {h : G} {ops : Resource.Operations}
    {name : String} {step : Lifecycle.Step α} {Q : Except Error α → Session C → G → Prop}
    (hstep : Action.Ends K (Action.interpret ops.answer step) ⟨name, t.registry.status⟩ h
      fun r u h' => Q r { t with registry.status := u.status } h') :
    Action.Ends K (withResource ops name step) t h Q := by
  rw [withResource, Action.ends_bind]
  exact Prog.ends_bind.2 hstep

/-- **A removal that is connected first succeeds**, and the resource is gone.

**Proof sketch.** Where the guard stops, there is nothing of the operator to be gone. Otherwise the
removal of the lifecycle succeeds on what was connected, and the name is cleared. -/
lemma ends_connectedErasure {connect : Work C κ} {ops : κ → Resource.Operations}
    {clear : Work C Bool}
    (hclear : ∀ status, ∃ t', Clearing w { t with registry.status := status } clear t')
    (hconnect : Action.Ends (E.stock limit) connect t g fun r t' _ =>
      t' = t ∧ ∃ x, r = .ok x ∧
        (ops x).Clears (E.stock limit) (w t.config).resource (w t.config).asset) :
    Action.Ends (E.stock limit) (do
      if !(← isManaged) || (w t.config).resource = "" then return false
      else
        let x ← connect
        if ← withResource (ops x) (w t.config).resource (Lifecycle.remove k) then clear
        else return false) t g fun r t' g' =>
      r = .ok false ∧ Concluded (t.wrap w) g' (t'.wrap w) := by
  refine Action.Gives.ends_bind (x := t.registry.status.isManaged) ⟨rfl, rfl, rfl⟩ ?_
  split
  · rename_i hidle
    have hidle : t.ownership ≠ some .managed ∨ (w t.config).resource = "" :=
      Status.idle_iff.1 hidle
    exact ⟨rfl, fun hm hn => hidle.elim (absurd hm) fun h => absurd h hn, hidle⟩
  · rename_i howned
    have howned : t.ownership = some .managed ∧ (w t.config).resource ≠ "" :=
      Status.owned_of_not_idle howned
    rw [Action.ends_bind]
    refine hconnect.mono ?_
    rintro _ _ g ⟨hsame, x, rfl, hops⟩
    dsimp only
    rw [hsame, Action.ends_bind]
    refine ends_inSession
      ((Lifecycle.ends_remove (Stock.quiet ..) howned.1 howned.2 (hops g)).mono ?_)
    rintro _ _ g ⟨rfl, ⟨now, rfl⟩, hx⟩
    obtain ⟨t', ht'⟩ := hclear (Lifecycle.deleted k (w t.config).resource t.registry.status now)
    dsimp only
    rw [if_pos rfl, Action.Ends, ht'.start]
    refine ⟨rfl, fun _ _ => hx, .inr ?_⟩
    change (w t'.config).resource = ""
    rw [ht'.config, resource_nameless]

end

end Storage

/-! ## Backends -/

open Storage

section

variable {E : Surroundings} {limit : Nat} {g : Stock} {s : Settings}

/-- Removing storage in S3 succeeds. -/
lemma S3.ends_remove {t : Session Config} (hspec : t.registry.spec = toSpec (.s3 t.config))
    (h : E.Resolves s (.s3 t.config)) :
    Action.Ends (E.stock limit) (remove s) t g fun r t' g' =>
      r = .ok false ∧ Concluded (t.wrap .s3) g' (t'.wrap .s3) := by
  obtain ⟨b, -, hb⟩ := gives_connectBucket h
  refine Action.gives_get.ends_bind (ends_connectedErasure (w := .s3) (fun _ =>
    ⟨_, rfl, rfl, selected_persist hspec "", rfl⟩) ((Stock.ends_of_world hb).mono ?_))
  rintro _ _ _ ⟨rfl, ht, -⟩
  exact ⟨ht, b, rfl, clears b _⟩

/-- Removing storage in Google Cloud succeeds. -/
lemma Gcs.ends_remove {t : Session Config} (hspec : t.registry.spec = toSpec (.gcs t.config))
    (h : E.Resolves s (.gcs t.config)) :
    Action.Ends (E.stock limit) (remove s) t g fun r t' g' =>
      r = .ok false ∧ Concluded (t.wrap .gcs) g' (t'.wrap .gcs) := by
  obtain ⟨b, -, hb⟩ := gives_connectBucket h
  refine Action.gives_get.ends_bind (ends_connectedErasure (w := .gcs) (fun _ =>
    ⟨_, rfl, rfl, selected_persist hspec "", rfl⟩) ((Stock.ends_of_world hb).mono ?_))
  rintro _ _ _ ⟨rfl, ht, -⟩
  exact ⟨ht, b, rfl, clears b _⟩

/-- Removing storage in Swift succeeds. -/
lemma Swift.ends_remove {t : Session Config} (hspec : t.registry.spec = toSpec (.swift t.config))
    (h : E.Resolves s (.swift t.config)) :
    Action.Ends (E.stock limit) (remove s) t g fun r t' g' =>
      r = .ok false ∧ Concluded (t.wrap .swift) g' (t'.wrap .swift) := by
  obtain ⟨r, hr⟩ := h
  refine Action.gives_get.ends_bind (ends_connectedErasure (w := .swift) (fun _ =>
    ⟨_, rfl, rfl, selected_persist hspec _, rfl⟩)
    ((Stock.ends_of_world (gives_connect hr)).mono ?_))
  rintro _ _ _ ⟨rfl, ht, -⟩
  exact ⟨ht, _, rfl, clears "" _⟩

/-- Removing storage in Azure succeeds. -/
lemma Azure.ends_remove {t : Session Config} (hspec : t.registry.spec = toSpec (.azure t.config))
    (h : E.Resolves s (.azure t.config)) :
    Action.Ends (E.stock limit) (remove s) t g fun r t' g' =>
      r = .ok false ∧ Concluded (t.wrap .azure) g' (t'.wrap .azure) := by
  obtain ⟨a, -, ha⟩ := gives_connectAccount h
  refine Action.gives_get.ends_bind (ends_connectedErasure (w := .azure) (fun _ =>
    ⟨_, rfl, rfl, selected_persist hspec (by rfl), rfl⟩) ((Stock.ends_of_world ha).mono ?_))
  rintro _ _ _ ⟨rfl, ht, -⟩
  exact ⟨ht, a, rfl, clears a _⟩

/-- Removing storage in a volume succeeds.

**Proof sketch.** The removal is brought into the form of one that is connected first, with nothing
to connect. -/
lemma Filesystem.ends_remove {t : Session Config}
    (hspec : t.registry.spec = toSpec (.filesystem t.config)) :
    Action.Ends (E.stock limit) remove t g fun r t' g' =>
      r = .ok false ∧ Concluded (t.wrap .filesystem) g' (t'.wrap .filesystem) := by
  -- Nothing is connected before a claim is removed, which is as good as an action without effect.
  have hclear (status : Status) : ∃ t', Clearing .filesystem { t with registry.status := status }
      (do
        persist ""
        modifyApplied fun spec =>
          { spec with filesystem := spec.filesystem.map ({ · with claim := some "" }) }
        return false) t' :=
    ⟨_, rfl, rfl, selected_persist hspec _, rfl⟩
  have hconnect : Action.Ends (E.stock limit) (pure () : Work Config Unit) t g fun r t' _ =>
      t' = t ∧ ∃ x, r = .ok x ∧ operations.Clears (E.stock limit)
        (Storage.filesystem t.config).resource (Storage.filesystem t.config).asset :=
    ⟨rfl, (), rfl, clears _⟩
  have herasure := ends_connectedErasure (k := claimKind) hclear hconnect
  rw [pure_bind] at herasure
  exact Action.gives_get.ends_bind herasure

end

namespace Storage

variable {E : Surroundings} {limit : Nat} {g : Stock} {s : Settings} {a b : Session Storage}

/-- **Removing storage succeeds** in any backend if nothing fails, and a resource of the operator is
gone. -/
theorem ends_remove (hspec : a.registry.spec = a.config.toSpec) (h : E.Resolves s a.config) :
    Action.Ends (E.stock limit) (Storage.remove s) a g fun r b g' =>
      r = .ok false ∧ Concluded a g' b := by
  obtain ⟨config, registry⟩ := a
  refine Action.gives_get.ends_bind ?_
  cases config with
  | s3 c => exact ends_within.2 (S3.ends_remove hspec h)
  | azure c => exact ends_within.2 (Azure.ends_remove hspec h)
  | gcs c => exact ends_within.2 (Gcs.ends_remove hspec h)
  | swift c => exact ends_within.2 (Swift.ends_remove hspec h)
  | filesystem c => exact ends_within.2 (Filesystem.ends_remove hspec)

/-- The operation failed. -/
def Outcome.Failed (o : Outcome) : Prop := ∃ e, o.result = .error e

/-- **Removals that failed leave everything as it was**, but for what is known of the storage.

**Proof sketch.** By induction on the number of removals. One that fails withholds the resource, by
`removal_of_runs`, and keeps the session in agreement with its registry. -/
theorem withheld_of_series {n : Nat} {es : Trace World} {rs : List Outcome}
    (hspec : a.registry.spec = a.config.toSpec)
    (hrun : (series s (List.replicate n .remove) a).Runs es (rs, b))
    (hfailed : ∀ o ∈ rs, o.Failed) : Withheld a b := by
  induction n generalizing a es rs with
  | zero =>
    obtain ⟨-, heq⟩ := hrun
    cases heq
    exact .refl _
  | succ n ih =>
    obtain ⟨fs, gs, r, c, rs', rfl, rfl, hfirst, hrest⟩ := runs_series_cons hrun
    obtain ⟨e, he⟩ := hfailed _ List.mem_cons_self
    obtain rfl : r = .error e := he
    cases removal_of_runs hspec hfirst with
    | withheld _ _ hc =>
      have hspec : c.registry.spec = c.config.toSpec := by
        rw [hc.spec, hc.config, hspec]
      exact hc.trans (ih hspec hrest fun o ho => hfailed o (List.mem_cons_of_mem _ ho))

/-! ## Main results -/

/-- **A removal is done as a whole or can be resumed.** Take a registry whose configuration has one
block, with any status.

Whatever the answers of the world, a removal does nothing, because there is no resource of the
operator; or it fails and leaves everything as it was, but for the condition that says whether the
storage exists, which may be unknown now; or it empties the resource and deletes it as its last call
to the cluster or cloud, and takes the name out of all configurations (`Removal`). It never asks for
another pass. After one that succeeds a removal makes no call and changes nothing.

So after any number of removals that failed everything is as it was in this sense. If nothing fails
any more, whatever the resource still holds and in however many pages that is listed, the next
removal comes to an end and succeeds, the resource is gone then, and from there on a removal makes
no call and changes nothing.

**Proof sketch.** The runs of a removal are computed from those of its parts (`removal_of_runs`),
and a failure leaves a session from which the same holds (`withheld_of_series`). In surroundings
that tell the truth, emptying a resource ends because the pages of a listing are bounded and
everything listed so far is gone (`Stock.ends_emptying`), and every call of a removal is answered
well (`ends_remove`). That there are such surroundings is `Stock.exists_tells`. -/
theorem removal_resumed {registry : Registry} {storage : Storage}
    (hspec : ofSpec registry.spec = .ok storage) :
    (∀ es r b, ((Storage.remove s).start ⟨storage, registry⟩).Runs es (r, b) →
      Removal ⟨storage, registry⟩ es r b ∧
      (r.isOk → (Storage.remove s).start b = .pure (.ok false, b))) ∧
    ∀ n es rs b, (series s (List.replicate n .remove) ⟨storage, registry⟩).Runs es (rs, b) →
      (∀ o ∈ rs, o.Failed) →
      Withheld ⟨storage, registry⟩ b ∧
      ∀ (E : Surroundings) limit g, E.Resolves s storage →
        Action.Ends (E.stock limit) (Storage.remove s) b g fun r c g' =>
          r = .ok false ∧
          (registry.status.ownership = some .managed → storage.resource ≠ "" →
            storage.asset ∉ g'.cloud.assets) ∧
          (Storage.remove s).start c = .pure (.ok false, c) := by
  have h : registry.spec = storage.toSpec := (ofSpec_eq_ok ..).1 hspec
  refine ⟨fun es r b hrun => ?_, fun n es rs b hrun hfailed => ?_⟩
  · have hb : Removal ⟨storage, registry⟩ es r b := removal_of_runs h hrun
    refine ⟨hb, fun hr => start_remove ?_⟩
    cases hb with
    | idle hidle => exact hidle
    | withheld => cases hr
    | removed _ _ _ _ _ _ _ hv => exact .inl (by rw [hv.ownership]; nofun)
  · have hb : Withheld ⟨storage, registry⟩ b := withheld_of_series h hrun hfailed
    refine ⟨hb, fun E limit g hresolves => ?_⟩
    have hconfig : b.config = storage := hb.config
    have hspec : b.registry.spec = b.config.toSpec := by
      rw [hb.spec, hconfig, h]
    refine (ends_remove hspec (hconfig ▸ hresolves)).mono ?_
    rintro _ c g' ⟨rfl, hc⟩
    refine ⟨rfl, fun hm hn => ?_, start_remove hc.idle⟩
    have hgone := hc.gone (hb.ownership.trans hm)
    rw [hconfig] at hgone
    exact hgone hn

/-- The session of a registry whose bucket the operator created. -/
def bucketed : Session Storage :=
  ⟨.s3 { bucket := "images" }, {
    spec := { s3 := some { bucket := "images" } }, status := { ownership := some .managed } }⟩

/-- A bucket that could not be listed twice is removed later. -/
theorem removal_resumed_interrupted :
    ∃ es rs b, (series {} [.remove, .remove] bucketed).Runs es (rs, b) ∧ rs.length = 2 ∧
      b.ownership = some .managed ∧ b.config.resource = "images" ∧ ∀ limit g,
        Action.Ends (keyed.stock limit) (Storage.remove {}) b g fun r _ g' =>
          r = .ok false ∧ Asset.of .s3 "images" ∉ g'.cloud.assets := by
  obtain ⟨es, ⟨rs, b⟩, hrun, hlength, hfailed⟩ :=
    Prog.exists_runs_of_run interrupted 3 (series {} [.remove, .remove] bucketed)
      (fun _ a => a.1.length = 2 ∧ ∀ o ∈ a.1, ¬ o.result.isOk) (by decide +kernel)
  have hfailed (o : Outcome) (ho : o ∈ rs) : o.Failed := by
    obtain ⟨k, e | x⟩ := o
    · exact ⟨e, rfl⟩
    · exact absurd rfl (hfailed _ ho)
  have hspec : ofSpec bucketed.registry.spec = .ok bucketed.config := rfl
  obtain ⟨hwithheld, hresumed⟩ := (removal_resumed hspec).2 2 es rs b hrun hfailed
  refine ⟨es, rs, b, hrun, hlength, hwithheld.ownership,
    congrArg Storage.resource hwithheld.config, fun limit g => ?_⟩
  refine (hresumed keyed limit g ⟨_, rfl⟩).mono ?_
  rintro r c g' ⟨hr, hgone, -⟩
  exact ⟨hr, hgone rfl (by decide)⟩

end Storage

end Depot
