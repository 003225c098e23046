import Depot.Proofs.Execution
import Depot.Proofs.Rebuilding

set_option autoImplicit false

/-!
# How a removal may run

A removal does nothing, fails, or removes the resource. If it fails, whether while it is connecting,
while the resource is emptied or when it is deleted, the registry is as before but for the condition
that says whether the storage exists, so it still names the resource and can be removed later. If it
removes the resource, the calls end with its deletion, and the name is taken out of everything the
operator keeps.

## Main definitions

* `Lifecycle.Removal` — how a removal with given steps may run.
* `Storage.deletion`, `Storage.emptying` — the call that deletes the resource of a block, and what
  is done before.
* `Storage.Withheld`, `Storage.Vacated` — what a removal leaves that fails, and one that succeeds.
* `Storage.Removal` — how a removal of storage may run.

## Main results

* `Lifecycle.runs_remove` — the runs of the lifecycle's removal.
* `Storage.removal_of_runs` — the runs of a removal of storage, in any backend.
-/

namespace Depot

/-! ## The lifecycle -/

namespace Lifecycle

variable {k : Resource.Kind} {ops : Resource.Operations} {u u' : Subject} {es : Trace World}
  {α β : Type}

/-- The status after a removal that failed. -/
def deletionFailed (s : Status) (e : Error) (now : Timestamp) : Status :=
  s.record .storageExists .unknown Condition.Reason.deletionFailed e.message now

/-- The status after the resource of a name was deleted. -/
def deleted (k : Resource.Kind) (name : String) (s : Status) (now : Timestamp) : Status :=
  { s with ownership := some .removed }.record .storageExists .fails Condition.Reason.deleted
    (k.noun ++ " " ++ name ++ " has been deleted") now

/-- A call of the lifecycle, and what follows its answer. -/
lemma runs_ask_bind {c : Resource.Call} {f : Resource.interface.Answer c → Step α}
    {r : Except Error α} :
    Action.Runs (Action.interpret ops.answer (ask c >>= f)) u es r u' ↔
      ∃ x fs gs, es = fs ++ gs ∧ (ops.answer c).Runs fs x ∧
        Action.Runs (Action.interpret ops.answer (f x)) u gs r u' := by
  refine (iff_of_eq (congrArg (Action.Runs · u es r u') (Action.interpret_bind ..))).trans ?_
  exact Action.runs_perform_bind

/-- A look at the subject, and what follows it. -/
lemma runs_get_bind {f : Subject → Step α} {r : Except Error α} :
    Action.Runs (Action.interpret ops.answer (get >>= f)) u es r u' ↔
      Action.Runs (Action.interpret ops.answer (f u)) u es r u' :=
  Iff.rfl

/-- A change of the owner, and what follows it. -/
lemma runs_setOwnership_bind {o : Ownership} {f : Unit → Step α} {r : Except Error α} :
    Action.Runs (Action.interpret ops.answer (setOwnership o >>= f)) u es r u' ↔
      Action.Runs (Action.interpret ops.answer (f ()))
        { u with status := { u.status with ownership := some o } } es r u' :=
  Iff.rfl

/-- The outcome of a part of the lifecycle, and what follows it.

**Proof sketch.** The outcome of an action never fails, so only the branch of a bind in which it is
handed on is left. -/
lemma runs_outcome_bind {a : Step α} {f : Except Error α → Step β} {r : Except Error β} :
    Action.Runs (Action.interpret ops.answer (Action.outcome a >>= f)) u es r u' ↔
      ∃ x v fs gs, es = fs ++ gs ∧ Action.Runs (Action.interpret ops.answer a) u fs x v ∧
        Action.Runs (Action.interpret ops.answer (f x)) v gs r u' := by
  refine (iff_of_eq (congrArg (Action.Runs · u es r u') ((Action.interpret_bind ..).trans
    (congrArg (· >>= _) (Action.interpret_outcome ..))))).trans (Action.runs_bind.trans ?_)
  constructor
  · rintro (⟨y, v, fs, gs, rfl, ha, hf⟩ | ⟨e, -, ha⟩)
    · obtain ⟨x, hx, ha⟩ := Action.runs_outcome.1 ha
      cases hx
      exact ⟨y, v, fs, gs, rfl, ha, hf⟩
    · obtain ⟨x, hx, -⟩ := Action.runs_outcome.1 ha
      cases hx
  · rintro ⟨x, v, fs, gs, rfl, ha, hf⟩
    exact .inl ⟨x, v, fs, gs, rfl, Action.runs_outcome.2 ⟨x, rfl, ha⟩, hf⟩

/-- An observation. -/
lemma runs_record {kind : Condition.Kind} {status : Condition.Status} {reason message : String}
    {r : Except Error Unit} :
    Action.Runs (Action.interpret ops.answer (record kind status reason message)) u es r u' ↔
      ∃ now, es = [⟨.time, now⟩] ∧ r = .ok () ∧
        u' = { u with status := u.status.record kind status reason message now } := by
  rw [record]
  refine runs_ask_bind.trans ⟨?_, ?_⟩
  · rintro ⟨now, fs, _, rfl, htime, h⟩
    obtain ⟨rfl, rfl, rfl⟩ := Action.runs_interpret_modify.1 h
    exact ⟨now, by rw [Action.runs_one.1 htime]; rfl, rfl, rfl⟩
  · rintro ⟨now, rfl, rfl, rfl⟩
    exact ⟨now, _, [], rfl, Action.runs_one.2 rfl, Action.runs_interpret_modify.2 ⟨rfl, rfl, rfl⟩⟩

/-- An observation, and what follows it. -/
lemma runs_record_bind {kind : Condition.Kind} {status : Condition.Status}
    {reason message : String} {f : Unit → Step α} {r : Except Error α} :
    Action.Runs (Action.interpret ops.answer (record kind status reason message >>= f)) u es r u' ↔
      ∃ now fs, es = ⟨.time, now⟩ :: fs ∧ Action.Runs (Action.interpret ops.answer (f ()))
        { u with status := u.status.record kind status reason message now } fs r u' := by
  rw [record, bind_assoc]
  refine runs_ask_bind.trans ⟨?_, ?_⟩
  · rintro ⟨now, _, fs, rfl, htime, h⟩
    exact ⟨now, fs, by rw [Action.runs_one.1 htime]; rfl, h⟩
  · rintro ⟨now, fs, rfl, h⟩
    exact ⟨now, _, fs, rfl, Action.runs_one.2 rfl, h⟩

/-- A removal goes on if the resource is gone, and otherwise fails with a record of that.

**Proof sketch.** That the resource is not there counts as its being gone; any other error is
recorded and thrown. -/
lemma runs_acceptGone {x : Except Error Unit} {next : Step Unit} {r : Except Error Unit}
    (h : Action.Runs (Action.interpret ops.answer (do acceptGone x; next)) u es r u') :
    isGone x ∧ Action.Runs (Action.interpret ops.answer next) u es r u' ∨
      ∃ e now, r = .error e ∧ u' = { u with status := deletionFailed u.status e now } := by
  rcases x with e | ⟨⟩
  · rw [acceptGone] at h
    split at h
    · rename_i he
      exact .inl ⟨he, h⟩
    · rw [recordDeletionFailed, bind_assoc] at h
      obtain ⟨now, fs, rfl, hthrow⟩ := runs_record_bind.1 h
      obtain ⟨-, rfl, rfl⟩ := Action.runs_throw.1 hthrow
      exact .inr ⟨e, now, rfl, rfl⟩
  · exact .inl ⟨rfl, h⟩

/-- How a removal with given steps may run. -/
inductive Removal (k : Resource.Kind) (ops : Resource.Operations) (u : Subject) :
    Trace World → Except Error Bool → Subject → Prop where
  /-- It failed, and this was recorded. -/
  | failed {es : Trace World} {e : Error} (now : Timestamp) :
    Removal k ops u es (.error e) { u with status := deletionFailed u.status e now }
  /-- The resource was emptied and deleted, or was gone already, and this was recorded. -/
  | deleted {fs gs : Trace World} {x y : Except Error Unit} (now : Timestamp) :
    (ops.empty u.name).result.Runs fs x → isGone x →
    (ops.delete u.name).result.Runs gs y → isGone y →
    Removal k ops u
      (fs ++ gs ++ [⟨.time, now⟩, ⟨.measured ops.kind.backend .remove true, ()⟩])
      (.ok true) { u with status := deleted k u.name u.status now }

/-- The runs of emptying and deleting a resource.

**Proof sketch.** The two steps one after the other, each accepted or recorded as failed. -/
lemma runs_removeOwned {r : Except Error Unit}
    (h : Action.Runs (Action.interpret ops.answer (removeOwned k u.name)) u es r u') :
    (∃ fs gs x y now, es = fs ++ gs ++ [⟨.time, now⟩] ∧
      (ops.empty u.name).result.Runs fs x ∧ isGone x ∧
      (ops.delete u.name).result.Runs gs y ∧ isGone y ∧ r = .ok () ∧
      u' = { u with status := deleted k u.name u.status now }) ∨
    ∃ e now, r = .error e ∧ u' = { u with status := deletionFailed u.status e now } := by
  obtain ⟨x, fs, es, rfl, hempty, hrest⟩ := runs_ask_bind.1 h
  obtain ⟨hx, hrest⟩ | hfailed := runs_acceptGone hrest
  · obtain ⟨y, gs, es, rfl, hdelete, hrest⟩ := runs_ask_bind.1 hrest
    obtain ⟨hy, hrest⟩ | hfailed := runs_acceptGone hrest
    · obtain ⟨now, rfl, rfl, rfl⟩ := runs_record.1 (runs_setOwnership_bind.1 hrest)
      exact .inl ⟨fs, gs, x, y, now, by simp, hempty, hx, hdelete, hy, rfl, rfl⟩
    · exact .inr hfailed
  · exact .inr hfailed

/-- **The runs of a removal** of a resource of the operator.

**Proof sketch.** The guard is passed by the hypotheses, and the measurement at the end changes
nothing. -/
theorem runs_remove {r : Except Error Bool} (hm : u.status.ownership = some .managed)
    (hn : u.name ≠ "") (h : Action.Runs (Action.interpret ops.answer (remove k)) u es r u') :
    Removal k ops u es r u' := by
  have hrun := runs_get_bind.1 h
  rw [Status.owned_iff.2 ⟨hm, hn⟩] at hrun
  obtain ⟨x, v, fs, gs, rfl, howned, hrest⟩ := runs_outcome_bind.1 hrun
  obtain ⟨⟨⟩, hs, is, rfl, hmeasured, hresult⟩ := runs_ask_bind.1 hrest
  obtain rfl := Action.runs_one.1 hmeasured
  obtain ⟨fs, ks, x, y, now, rfl, hempty, hx, hdelete, hy, rfl, rfl⟩ | ⟨e, now, rfl, rfl⟩ :=
    runs_removeOwned howned
  · obtain ⟨rfl, rfl, rfl⟩ := Action.runs_pure.1 hresult
    rw [List.append_nil, List.append_assoc]
    exact .deleted now hempty hx hdelete hy
  · obtain ⟨rfl, rfl, rfl⟩ := Action.runs_throw.1 hresult
    exact .failed now

end Lifecycle

/-! ## Conditions -/

namespace Status

/-- The conditions of other kinds. -/
def others (s : Status) (kind : Condition.Kind) : List Condition :=
  s.conditions.filter (·.kind ≠ kind)

variable {s : Status} {kind : Condition.Kind} {status : Condition.Status} {reason message : String}
  {now : Timestamp}

/-- An observation leaves the conditions of other kinds as they are. -/
lemma others_record : (s.record kind status reason message now).others kind = s.others kind :=
  Condition.filter_upsert fun _ hc hne => of_decide_eq_true hne hc

end Status

namespace Storage

/-! ## What is removed, and what is left -/

/-- The block without the name of its resource. -/
def nameless : Storage → Storage
  | .s3 c => .s3 { c with bucket := "" }
  | .azure c => .azure { c with accountName := "", container := "" }
  | .gcs c => .gcs { c with bucket := "" }
  | .swift c => .swift { c with container := "" }
  | .filesystem _ => .filesystem { claim := some "" }

/-- A configuration whose name was taken out has none. -/
@[simp] lemma resource_nameless (a : Storage) : a.nameless.resource = "" := by
  cases a <;> rfl

/-- What is left of the configuration that was applied when the resource of a block was removed. -/
def forget : Storage → Spec → Spec
  | .s3 _, spec => { spec with s3 := spec.s3.map ({ · with bucket := "" }) }
  | .azure _, spec => { spec with azure := none }
  | .gcs _, spec => { spec with gcs := spec.gcs.map ({ · with bucket := "" }) }
  | .swift _, spec => { spec with swift := spec.swift.map ({ · with container := "" }) }
  | .filesystem _, spec =>
    { spec with filesystem := spec.filesystem.map ({ · with claim := some "" }) }

/-- The call that deletes the resource of a block. -/
def deletion : Storage → World.Call
  | .s3 c => .s3 (.deleteBucket c.bucket)
  | .azure c => .azure (.deleteAccount c.accountName)
  | .gcs c => .gcs (.deleteBucket c.bucket)
  | .swift c => .swift (.deleteContainer c.container)
  | .filesystem c => .cluster (.deleteClaim Credentials.operatorNamespace (c.claim.getD ""))

/-- What is done before: the resource is emptied. -/
def emptying : Storage → Operating Unit Unit
  | .s3 c => S3.empty c.bucket
  | .azure c =>
    Azure.Account.empty { infra := {}, location := "", container := c.container } c.accountName
  | .gcs c => Gcs.empty c.bucket
  | .swift c => Swift.empty c.container
  | .filesystem _ => pure ()

/-- What a removal leaves that fails: everything is as before but for the condition that says
whether the storage exists, which is as before too or unknown. -/
structure Withheld (a b : Session Storage) : Prop where
  /-- The block is the same. -/
  config : b.config = a.config
  /-- The configuration is the same. -/
  spec : b.registry.spec = a.registry.spec
  /-- The configuration that was applied is the same. -/
  applied : b.registry.status.applied = a.registry.status.applied
  /-- The owner is the same. -/
  ownership : b.ownership = a.ownership
  /-- The other conditions are the same. -/
  others : b.registry.status.others .storageExists = a.registry.status.others .storageExists
  /-- It is not known whether the storage exists, or what was observed is the same. -/
  observed : b.registry.status.conditions = a.registry.status.conditions ∨
    ∃ c, b.registry.status.condition? .storageExists = some c ∧ c.status = .unknown

/-- What a removal leaves that succeeds. -/
structure Vacated (a b : Session Storage) : Prop where
  /-- The block has no name any more. -/
  config : b.config = a.config.nameless
  /-- Neither has the configuration. -/
  spec : b.registry.spec = b.config.toSpec
  /-- Nor the configuration that was applied. -/
  applied : b.registry.status.applied = a.config.forget a.registry.status.applied
  /-- The resource was removed by the operator. -/
  ownership : b.ownership = some .removed
  /-- The storage does not exist, because it was deleted. -/
  absent : ∃ c, b.registry.status.condition? .storageExists = some c ∧ c.status = .fails ∧
    c.reason = Condition.Reason.deleted
  /-- The other conditions are the same. -/
  others : b.registry.status.others .storageExists = a.registry.status.others .storageExists

/-- How a removal of storage may run. -/
inductive Removal (a : Session Storage) :
    Trace World → Except Error Bool → Session Storage → Prop where
  /-- Nothing was to be removed, and nothing was done. -/
  | idle : a.ownership ≠ some .managed ∨ a.config.resource = "" → Removal a [] (.ok false) a
  /-- It failed. -/
  | withheld {es : Trace World} {e : Error} {b : Session Storage} :
    a.ownership = some .managed → a.config.resource ≠ "" → Withheld a b →
    Removal a es (.error e) b
  /-- Nothing was touched while connecting; then the resource was emptied or was gone already; and
  the last call was its deletion, besides one to a clock and the record of a measurement. -/
  | removed {fs gs : Trace World} {x : Except Error Unit} {y : World.Answer a.config.deletion}
    (now : Timestamp) {b : Session Storage} :
    a.ownership = some .managed → a.config.resource ≠ "" →
    (∀ e ∈ fs, ∀ z, ¬ e.call.Touches z) →
    a.config.emptying.result.Runs gs x → Lifecycle.isGone x →
    World.deed a.config.deletion y = .removed a.config.asset → Vacated a b →
    Removal a (fs ++ gs ++ [⟨a.config.deletion, y⟩, ⟨.time, now⟩,
      ⟨.measured a.config.backend .remove true, ()⟩]) (.ok false) b

variable {a b : Session Storage} {es : Trace World}

/-- A session that is left as it is withholds its resource. -/
lemma Withheld.refl (a : Session Storage) : Withheld a a := ⟨rfl, rfl, rfl, rfl, rfl, .inl rfl⟩

/-- Two attempts that fail withhold what one does.

**Proof sketch.** What the condition says after both is what the second one recorded, or else what
the first did. -/
lemma Withheld.trans {c : Session Storage} (h : Withheld a b) (h' : Withheld b c) :
    Withheld a c where
  config := h'.config.trans h.config
  spec := h'.spec.trans h.spec
  applied := h'.applied.trans h.applied
  ownership := h'.ownership.trans h.ownership
  others := h'.others.trans h.others
  observed := by
    obtain hsame | hunknown := h'.observed
    · refine h.observed.imp hsame.trans fun ⟨c, hc, hs⟩ => ⟨c, ?_, hs⟩
      rw [Status.condition?, hsame]
      exact hc
    · exact .inr hunknown

/-! ## Parts of a removal -/

section

variable {C κ α : Type} {t t' : Session C} {w : C → Storage}

/-- A part of the lifecycle runs in a session as on its own.

**Proof sketch.** The step is interpreted and its subject written back; a bind can stop early only
where the step itself failed, and here the step's failure is its result. -/
lemma runs_withResource {ops : Resource.Operations} {name : String} {step : Lifecycle.Step α}
    {r : Except Error α} (h : Action.Runs (withResource ops name step) t es r t') :
    ∃ u, Action.Runs (Action.interpret ops.answer step) ⟨name, t.registry.status⟩ es r u ∧
      t' = { t with registry.status := u.status } := by
  have honResource {x : Except Error (Except Error α × String)} {fs : Trace World}
      {v : Session C} (h : Action.Runs (onResource ops name step) t fs x v) :
      ∃ r u, x = .ok (r, u.name) ∧ v = { t with registry.status := u.status } ∧
        Action.Runs (Action.interpret ops.answer step) ⟨name, t.registry.status⟩ fs r u := by
    obtain ⟨fs, _, ⟨r, u⟩, rfl, hstep, rfl, heq⟩ := (Prog.runs_bind ..).1 h
    cases heq
    exact ⟨r, u, rfl, rfl, by rwa [List.append_nil]⟩
  obtain ⟨_, _, fs, gs, rfl, hstep, hresult⟩ | ⟨_, -, hstep⟩ := Action.runs_bind.1 h
  · obtain ⟨r', u, hx, rfl, hstep⟩ := honResource hstep
    cases hx
    obtain ⟨rfl, rfl, rfl⟩ := Action.runs_ofExcept.1 hresult
    exact ⟨u, by rwa [List.append_nil], rfl⟩
  · obtain ⟨_, _, hx, -⟩ := honResource hstep
    cases hx

/-- The steps of a lifecycle remove the resource of a block. -/
structure Erases (ops : Resource.Operations) (a : Storage) : Prop where
  /-- They are for resources of the backend. -/
  backend : ops.kind.backend = a.backend
  /-- The resource is emptied first. -/
  empty : ops.empty a.resource = a.emptying
  /-- A deletion is one call, whose answer says that the resource is gone if it is. -/
  delete : ∀ {es : Trace World} {y : Except Error Unit},
    (ops.delete a.resource).result.Runs es y → Lifecycle.isGone y →
    ∃ z, es = [⟨a.deletion, z⟩] ∧ World.deed a.deletion z = .removed a.asset

/-- Taking the name out of the configuration of a session and of its registry. -/
structure Clearing (w : C → Storage) (t : Session C) (clear : Work C Bool) (t' : Session C) :
    Prop where
  /-- No call is needed for that. -/
  start : clear.start t = .pure (.ok false, t')
  /-- The block has no name any more. -/
  config : w t'.config = (w t.config).nameless
  /-- Neither has the configuration. -/
  spec : t'.registry.spec = (w t'.config).toSpec
  /-- Nor the configuration that was applied. -/
  status : t'.registry.status =
    { t.registry.status with applied := (w t.config).forget t.registry.status.applied }

/-- What is left of a session when its resource was deleted and its name was taken out.

**Proof sketch.** Clearing changes names only, so the status is the one that the deletion
recorded. -/
lemma Clearing.vacated {k : Resource.Kind} {now : Timestamp} {clear : Work C Bool}
    (h : Clearing w
      { t with
        registry.status := Lifecycle.deleted k (w t.config).resource t.registry.status now }
      clear t') :
    Vacated (t.wrap w) (t'.wrap w) where
  config := h.config
  spec := h.spec
  applied := congrArg Status.applied h.status
  ownership := congrArg Status.ownership h.status
  absent := by
    obtain ⟨c, hc, hstatus⟩ := Status.condition?_record_self
    have hconditions := congrArg Status.conditions h.status
    exact ⟨c, (congrArg (Condition.find? _) hconditions).trans hc, hstatus⟩
  others := (congrArg (List.filter _) (congrArg Status.conditions h.status)).trans
    Status.others_record

/-- **The runs of a removal in a session of the operator**, once it is connected.

**Proof sketch.** The lifecycle's removal either fails with a record, or empties and deletes the
resource and goes on to the clearing, by `Lifecycle.runs_remove`; the driver's steps say which calls
these are. -/
lemma runs_erasure {ops : Resource.Operations} (hops : Erases ops (w t.config))
    (hm : t.ownership = some .managed) (hn : (w t.config).resource ≠ "") {k : Resource.Kind}
    {clear : Work C Bool}
    (hclear : ∀ status, ∃ t', Clearing w { t with registry.status := status } clear t')
    {r : Except Error Bool}
    (h : Action.Runs (do
      if ← withResource ops (w t.config).resource (Lifecycle.remove k) then clear
      else return false) t es r t') {fs : Trace World}
    (hfs : ∀ e ∈ fs, ∀ z, ¬ e.call.Touches z) :
    Removal (t.wrap w) (fs ++ es) r (t'.wrap w) := by
  -- Whatever failed, only the record of it is left.
  have hfailed {gs : Trace World} {e : Error} {now : Timestamp} :
      Removal (t.wrap w) gs (.error e) (Session.wrap
        { t with registry.status := Lifecycle.deletionFailed t.registry.status e now } w) := by
    obtain ⟨c, hc, hs, -⟩ := Status.condition?_record_self
    exact .withheld hm hn ⟨rfl, rfl, rfl, rfl, Status.others_record, .inr ⟨c, hc, hs⟩⟩
  obtain ⟨x, _, gs, hs, rfl, hstep, hrest⟩ | ⟨e, rfl, hstep⟩ := Action.runs_bind.1 h
  · obtain ⟨u, hremove, rfl⟩ := runs_withResource hstep
    generalize hx : Except.ok x = x' at hremove
    cases Lifecycle.runs_remove hm hn hremove with
    | failed now => cases hx
    | deleted now hempty hgone hdelete hy =>
      cases hx
      obtain ⟨v, hclear⟩ := hclear
        (Lifecycle.deleted k (w t.config).resource t.registry.status now)
      obtain ⟨z, rfl, hz⟩ := hops.delete hdelete hy
      rw [if_pos rfl, Action.Runs, hclear.start] at hrest
      obtain ⟨rfl, heq⟩ := hrest
      cases heq
      rw [hops.empty] at hempty
      rw [hops.backend, List.append_nil, List.append_assoc, List.singleton_append,
        ← List.append_assoc]
      exact .removed now hm hn hfs hempty hgone hz hclear.vacated
  · obtain ⟨u, hremove, rfl⟩ := runs_withResource hstep
    generalize hx : Except.error e = x' at hremove
    cases Lifecycle.runs_remove hm hn hremove with
    | failed now =>
      cases hx
      exact hfailed
    | deleted => cases hx

/-- **The runs of a removal** that is connected first.

**Proof sketch.** Where the guard stops, nothing is called. Otherwise connecting touches nothing,
and either its failure is the end or the removal runs on what was connected. -/
lemma runs_connectedErasure {connect : Work C κ} {ops : κ → Resource.Operations}
    (hconnect : ∀ p, Action.Keeps touching connect t p fun r t' p' =>
      t' = t ∧ p' = p ∧ ∀ x, r = .ok x → Erases (ops x) (w t.config))
    {k : Resource.Kind} {clear : Work C Bool}
    (hclear : ∀ status, ∃ t', Clearing w { t with registry.status := status } clear t')
    {r : Except Error Bool}
    (h : Action.Runs (do
      if !(← isManaged) || (w t.config).resource = "" then return false
      else
        let x ← connect
        if ← withResource (ops x) (w t.config).resource (Lifecycle.remove k) then clear
        else return false) t es r t') : Removal (t.wrap w) es r (t'.wrap w) := by
  have hrun : Action.Runs (if !t.registry.status.isManaged || (w t.config).resource = "" then
      (pure false : Work C Bool)
      else do
        let x ← connect
        if ← withResource (ops x) (w t.config).resource (Lifecycle.remove k) then clear
        else return false) t es r t' := h
  split at hrun
  · rename_i hidle
    have hidle : t.ownership ≠ some .managed ∨ (w t.config).resource = "" :=
      Status.idle_iff.1 hidle
    obtain ⟨rfl, rfl, rfl⟩ := Action.runs_pure.1 hrun
    exact .idle hidle
  · rename_i howned
    have howned : t.ownership = some .managed ∧ (w t.config).resource ≠ "" :=
      Status.owned_of_not_idle howned
    have hconnected {fs : Trace World} {x : Except Error κ} {v : Session C}
        (hx : Action.Runs connect t fs x v) :
        v = t ∧ (∀ e ∈ fs, ∀ z, ¬ e.call.Touches z) ∧
          ∀ k, x = .ok k → Erases (ops k) (w t.config) := by
      obtain ⟨rfl, huntouched, hops⟩ := (hconnect False).of_runs hx ((path_touching ..).2 rfl)
      refine ⟨rfl, fun e he z hz => ?_, hops⟩
      exact cast huntouched (.inr ⟨e, he, z, hz⟩)
    obtain ⟨x, _, fs, gs, rfl, hx, hrest⟩ | ⟨e, rfl, hx⟩ := Action.runs_bind.1 hrun
    · obtain ⟨rfl, hfs, hops⟩ := hconnected hx
      exact runs_erasure (hops x rfl) howned.1 howned.2 hclear hrest hfs
    · obtain ⟨rfl, -, -⟩ := hconnected hx
      exact .withheld howned.1 howned.2 (.refl _)

/-- Without a resource of the operator there is nothing to do. -/
lemma start_idle {removal : Work C Bool}
    (h : t.ownership ≠ some .managed ∨ (w t.config).resource = "") :
    Action.start (do
      if !(← isManaged) || (w t.config).resource = "" then return false
      else removal) t = .pure (.ok false, t) := by
  change Action.start (if !t.registry.status.isManaged || (w t.config).resource = "" then
    (pure false : Work C Bool) else removal) t = _
  rw [if_pos (Status.idle_iff.2 h)]
  rfl

end

end Storage

/-! ## Backends -/

open Storage

namespace S3

/-- The steps of the lifecycle remove the bucket. -/
lemma erases (b : Bucket) (c : Config) : Erases b.operations (.s3 c) where
  backend := rfl
  empty := rfl
  delete h hy := by
    obtain ⟨hcall, -⟩ := Action.runs_attempt.1 (Action.runs_result.1 h)
    exact ⟨_, Action.runs_one.1 hcall, if_pos hy⟩

/-- The runs of removing storage in S3. -/
lemma removal_of_runs {s : Settings} {t t' : Session Config} {es : Trace World}
    {r : Except Error Bool} (hspec : t.registry.spec = toSpec (.s3 t.config))
    (h : Action.Runs (remove s) t es r t') : Removal (t.wrap .s3) es r (t'.wrap .s3) := by
  refine runs_connectedErasure (w := .s3) (fun p => (idle_connectBucket s t).mono ?_)
    (fun status => ⟨_, rfl, rfl, selected_persist hspec "", rfl⟩) (Action.runs_get_bind.1 h)
  rintro r t' p' ⟨rfl, rfl⟩
  exact ⟨rfl, rfl, fun b _ => erases b t'.config⟩

end S3

namespace Gcs

/-- The steps of the lifecycle remove the bucket. -/
lemma erases (b : Bucket) (c : Config) : Erases b.operations (.gcs c) where
  backend := rfl
  empty := rfl
  delete h hy := by
    obtain ⟨hcall, -⟩ := Action.runs_attempt.1 (Action.runs_result.1 h)
    exact ⟨_, Action.runs_one.1 hcall, if_pos hy⟩

/-- The runs of removing storage in Google Cloud. -/
lemma removal_of_runs {s : Settings} {t t' : Session Config} {es : Trace World}
    {r : Except Error Bool} (hspec : t.registry.spec = toSpec (.gcs t.config))
    (h : Action.Runs (remove s) t es r t') : Removal (t.wrap .gcs) es r (t'.wrap .gcs) := by
  refine runs_connectedErasure (w := .gcs) (fun p => (idle_connectBucket s t).mono ?_)
    (fun status => ⟨_, rfl, rfl, selected_persist hspec "", rfl⟩) (Action.runs_get_bind.1 h)
  rintro r t' p' ⟨rfl, rfl⟩
  exact ⟨rfl, rfl, fun b _ => erases b t'.config⟩

end Gcs

namespace Swift

/-- The steps of the lifecycle remove the container. -/
lemma erases (infraName : String) (c : Config) : Erases (operations infraName) (.swift c) where
  backend := rfl
  empty := rfl
  delete h hy := by
    obtain ⟨hcall, -⟩ := Action.runs_attempt.1 (Action.runs_result.1 h)
    exact ⟨_, Action.runs_one.1 hcall, if_pos hy⟩

/-- The runs of removing storage in Swift. -/
lemma removal_of_runs {s : Settings} {t t' : Session Config} {es : Trace World}
    {r : Except Error Bool} (hspec : t.registry.spec = toSpec (.swift t.config))
    (h : Action.Runs (remove s) t es r t') : Removal (t.wrap .swift) es r (t'.wrap .swift) := by
  refine runs_connectedErasure (w := .swift) (fun p => (idle_connect s t).mono ?_)
    (fun status => ⟨_, rfl, rfl, selected_persist hspec _, rfl⟩) (Action.runs_get_bind.1 h)
  rintro r t' p' ⟨rfl, rfl⟩
  exact ⟨rfl, rfl, fun _ _ => erases "" t'.config⟩

end Swift

namespace Azure

/-- The steps of the lifecycle remove the account.

**Proof sketch.** Emptying uses the container of the configuration, and a deletion is one call. -/
lemma erases (a : Account) (c : Config) (h : a.container = c.container) :
    Erases a.operations (.azure c) where
  backend := rfl
  empty := by
    obtain ⟨infra, location, container⟩ := a
    obtain rfl : container = c.container := h
    change Account.empty _ c.accountName = Account.empty _ c.accountName
    rw [Account.empty, Account.empty]
    split
    · refine congrArg (_ >>= ·) (funext ?_)
      rintro (e | ⟨⟩)
      · rfl
      · rfl
    · rfl
  delete h hy := by
    obtain ⟨hcall, -⟩ := Action.runs_attempt.1 (Action.runs_result.1 h)
    exact ⟨_, Action.runs_one.1 hcall, if_pos hy⟩

/-- Connecting touches nothing and answers with the container of the registry.

**Proof sketch.** Every part of connecting is idle, and the answer is built with the session's own
container. -/
lemma keeps_connectAccount {s : Settings} {t : Session Config} {p : Prop} :
    Action.Keeps touching (connectAccount s) t p fun r t' p' =>
      t' = t ∧ p' = p ∧ ∀ a, r = .ok a → a.container = t.config.container := by
  rw [connectAccount, Action.keeps_bind]
  refine idle_getInfrastructure.keeps ?_
  rintro (e | infra)
  · exact ⟨rfl, rfl, fun _ h => nomatch h⟩
  dsimp only
  rw [Action.keeps_bind]
  refine (idle_connect s fun _ _ => (quiet_connect _ _).idle).keeps ?_
  rintro (e | credentials)
  · exact ⟨rfl, rfl, fun _ h => nomatch h⟩
  · refine ⟨rfl, rfl, ?_⟩
    rintro a ⟨⟩
    rfl

/-- The runs of removing storage in Azure. -/
lemma removal_of_runs {s : Settings} {t t' : Session Config} {es : Trace World}
    {r : Except Error Bool} (hspec : t.registry.spec = toSpec (.azure t.config))
    (h : Action.Runs (remove s) t es r t') : Removal (t.wrap .azure) es r (t'.wrap .azure) := by
  refine runs_connectedErasure (w := .azure) (fun p => keeps_connectAccount.mono ?_)
    (fun status => ⟨_, rfl, rfl, selected_persist hspec (by rfl), rfl⟩) (Action.runs_get_bind.1 h)
  rintro r t' p' ⟨rfl, rfl, hcontainer⟩
  exact ⟨rfl, rfl, fun a ha => erases a t'.config (hcontainer a ha)⟩

end Azure

namespace Filesystem

/-- The steps of the lifecycle remove the claim.

**Proof sketch.** A deletion is one call, whose answer is turned into an error where the claim was
not found. -/
lemma erases (c : Config) : Erases operations (.filesystem c) where
  backend := rfl
  empty := rfl
  delete h hy := by
    obtain ⟨found, _, fs, gs, rfl, hstep, hrest⟩ | ⟨e, rfl, hstep⟩ :=
      Action.runs_bind.1 (Action.runs_result.1 h)
    · have hcall := Action.runs_one.1 (Action.runs_attempt.1 hstep).1
      have hgs : gs = [] := by
        cases found with
        | true => exact (Action.runs_pure.1 hrest).1
        | false => exact (Action.runs_throw.1 hrest).1
      rw [hcall, hgs]
      exact ⟨_, rfl, rfl⟩
    · exact ⟨_, Action.runs_one.1 (Action.runs_attempt.1 hstep).1, if_pos hy⟩

/-- The runs of removing storage in a volume. -/
lemma removal_of_runs {t t' : Session Config} {es : Trace World} {r : Except Error Bool}
    (hspec : t.registry.spec = toSpec (.filesystem t.config)) (h : Action.Runs remove t es r t') :
    Removal (t.wrap .filesystem) es r (t'.wrap .filesystem) := by
  have hconnect (p : Prop) : Action.Keeps touching (pure () : Work Config Unit) t p fun r t' p' =>
      t' = t ∧ p' = p ∧ ∀ x, r = .ok x → Erases operations (.filesystem t.config) :=
    ⟨rfl, rfl, fun _ _ => erases t.config⟩
  exact runs_connectedErasure (w := .filesystem) hconnect
    (fun status => ⟨_, rfl, rfl, selected_persist hspec _, rfl⟩) (Action.runs_get_bind.1 h)

end Filesystem

namespace Storage

variable {s : Settings} {a b : Session Storage} {es : Trace World} {r : Except Error Bool}

/-- What runs within a backend is a run of that backend's work. -/
lemma runs_within {C α : Type} {wrap : C → Storage} {config : C} {work : Work C α}
    {r : Except Error α} (h : Action.Runs (within wrap config work) a es r b) :
    ∃ t, Action.Runs work ⟨config, a.registry⟩ es r t ∧ b = t.wrap wrap := by
  obtain ⟨fs, _, ⟨r', t⟩, rfl, hwork, rfl, heq⟩ := (Prog.runs_bind ..).1 h
  cases heq
  exact ⟨t, by rwa [List.append_nil], rfl⟩

/-- **Where there is no resource of the operator, a removal makes no call** and changes nothing.

**Proof sketch.** One case per backend, all by `start_idle`. -/
lemma start_remove (h : a.ownership ≠ some .managed ∨ a.config.resource = "") :
    (Storage.remove s).start a = .pure (.ok false, a) := by
  obtain ⟨config, registry⟩ := a
  rw [Storage.remove, Action.start_bind]
  cases config with
  | s3 c => exact start_within (start_idle (w := .s3) h)
  | azure c => exact start_within (start_idle (w := .azure) h)
  | gcs c => exact start_within (start_idle (w := .gcs) h)
  | swift c => exact start_within (start_idle (w := .swift) h)
  | filesystem c => exact start_within (start_idle (w := .filesystem) h)

/-- **The runs of removing storage**, in any backend.

**Proof sketch.** One case per backend. -/
theorem removal_of_runs (hspec : a.registry.spec = a.config.toSpec)
    (h : Action.Runs (Storage.remove s) a es r b) : Removal a es r b := by
  rw [Storage.remove, Action.runs_get_bind] at h
  obtain ⟨config, registry⟩ := a
  cases config with
  | s3 c =>
    obtain ⟨t, ht, rfl⟩ := runs_within h
    exact S3.removal_of_runs hspec ht
  | azure c =>
    obtain ⟨t, ht, rfl⟩ := runs_within h
    exact Azure.removal_of_runs hspec ht
  | gcs c =>
    obtain ⟨t, ht, rfl⟩ := runs_within h
    exact Gcs.removal_of_runs hspec ht
  | swift c =>
    obtain ⟨t, ht, rfl⟩ := runs_within h
    exact Swift.removal_of_runs hspec ht
  | filesystem c =>
    obtain ⟨t, ht, rfl⟩ := runs_within h
    exact Filesystem.removal_of_runs hspec ht

end Storage

end Depot
