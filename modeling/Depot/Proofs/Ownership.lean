import Depot.Proofs.Azure
import Depot.Proofs.Filesystem
import Depot.Proofs.Gcs
import Depot.Proofs.S3
import Depot.Proofs.Swift

set_option autoImplicit false

/-!
# Ownership

The operations on the storage of a registry may follow each other in any order, and the world may
answer each of their calls in any way. Over all such lives of a registry the operator touches only
assets that it created itself and that were not removed since, and never loses track of one.

## Main definitions

* `Storage.Task` — the operations.
* `Storage.Life` — operations one after another.

## Main results

* `Storage.Life.preserves` — what every operation preserves, a life preserves.
* `Storage.Task.keeps` — every operation keeps a session sound.
* `Storage.Life.sound` — so does every life.
* `Storage.touches_owned` — operations touch only assets of the operator.
* `Storage.held_selected` — no asset of the operator is lost.
-/

namespace Depot

/-- The ledger at the beginning of an operation. -/
def Ledger.begin (l : Ledger) (reclaiming : Bool) : Ledger := { l with reclaiming }

/-- Ledgers with the same history have the same when an operation begins. -/
lemma Ledger.SameHistory.begin {l l' : Ledger} (h : SameHistory l l') (reclaiming : Bool) :
    SameHistory (l.begin reclaiming) (l'.begin reclaiming) := ⟨h.made, h.gone⟩

namespace Storage

/-- The operations on the storage of a registry. -/
inductive Task where
  /-- Finds or creates the storage and sets it up. -/
  | create
  /-- Removes the storage. -/
  | remove
  /-- Does the storage exist? -/
  | isPresent
  /-- Did the configuration change? -/
  | isChanged
  deriving Repr, DecidableEq, Inhabited

namespace Task

/-- The type of the results of an operation. -/
abbrev Result : Task → Type
  | .create => Unit
  | _ => Bool

/-- The work of an operation. -/
def work (s : Settings) : (k : Task) → Work Storage k.Result
  | .create => Storage.create s
  | .remove => Storage.remove s
  | .isPresent => Storage.isPresent s
  | .isChanged => Storage.isChanged

/-- Whether an operation may recognise the default claim as one of the operator: the claim is
meant, and nobody is known to own the storage. -/
def reclaims (k : Task) (a : Session Storage) : Bool :=
  k = .create && a.config = .filesystem { claim := some "" } && a.ownership.isNone

end Task

/-- Operations one after another, from a session and a ledger. The ledger goes on with what the
answers that they got say about assets. -/
inductive Life (s : Settings) (a : Session Storage) (h : Ledger) :
    Session Storage → Ledger → Prop where
  /-- No operation yet. -/
  | start : Life s a h a h
  /-- One more operation, whether it fails or not. -/
  | step {b c : Session Storage} {l : Ledger} (k : Task) {r : Except Error k.Result}
    {es : Trace World} : Life s a h b l → ((k.work s).start b).Runs es (r, c) →
    Life s a h c ((l.begin (k.reclaims b)).after es)

variable {s : Settings} {a b : Session Storage} {h l : Ledger}

/-- **What every operation preserves, a life preserves.** -/
theorem Life.preserves {P : Session Storage → Ledger → Prop}
    (hstep : ∀ (k : Task) {b c : Session Storage} {l : Ledger} {es : Trace World}
      {r : Except Error k.Result}, P b l → ((k.work s).start b).Runs es (r, c) →
        P c ((l.begin (k.reclaims b)).after es))
    (hlife : Life s a h b l) (ha : P a h) : P b l := by
  induction hlife with
  | start => exact ha
  | step k _ hrun ih => exact hstep k ih hrun

/-! ## Every operation keeps a session sound -/

/-- An operation on a block keeps a contract as it does on its own. -/
lemma keeps_within {C α G : Type} {K : Contract World G} {g : G} {wrap : C → Storage}
    {config : C} {work : Work C α} {Q : Except Error α → Session Storage → G → Prop} :
    Action.Keeps K (within wrap config work) a g Q ↔
      Action.Keeps K work ⟨config, a.registry⟩ g fun r t g' => Q r (t.wrap wrap) g' :=
  Prog.keeps_bind

/-- What only observes keeps a session sound. -/
lemma keeps_observation {C α : Type} {wrap : C → Storage} {config : C} {work : Work C α}
    (ha : a.config = wrap config) (h : Sound a l)
    (hwork : Action.Keeps Ledger.contract work ⟨config, a.registry⟩ l fun _ t l' =>
      Observes ⟨config, a.registry⟩ t ∧ l' = l) :
    Action.Keeps Ledger.contract (within wrap config work) a l fun _ b l' => Advances a l b l' := by
  refine keeps_within.2 (hwork.mono ?_)
  rintro r t l' ⟨ht, rfl⟩
  exact h.advances ⟨(congrArg wrap ht.config).trans ha.symm, ht.spec, ht.ownership⟩

/-- **Removing storage** keeps a session sound, and removes the asset if it was the operator's.

**Proof sketch.** The operation is that of the backend of the storage, so there is one case for
each. -/
lemma keeps_remove (h : Sound a l) (hl : l.reclaiming = false) :
    Action.Keeps Ledger.contract (Storage.remove s) a l fun r b l' =>
      Advances a l b l' ∧ Clears a r l' := by
  rw [Storage.remove, Action.keeps_bind, Action.keeps_get]
  obtain ⟨config, registry⟩ := a
  cases config with
  | s3 c =>
    refine keeps_within.2 ?_
    exact S3.keeps_remove s hl h
  | azure c =>
    refine keeps_within.2 ?_
    exact Azure.keeps_remove s hl h
  | gcs c =>
    refine keeps_within.2 ?_
    exact Gcs.keeps_remove s hl h
  | swift c =>
    refine keeps_within.2 ?_
    exact Swift.keeps_remove s hl h
  | filesystem c =>
    refine keeps_within.2 ?_
    exact Filesystem.keeps_remove hl h

/-- **Creating storage** keeps a session sound.

**Proof sketch.** As for removing. Only for a volume may a claim be recognised when the operation
begins, namely if the configuration has an empty name and nobody is known to own the storage. -/
lemma keeps_create (h : Sound a l) (hl : l.reclaiming = Task.create.reclaims a) :
    Action.Keeps Ledger.contract (Storage.create s) a l fun _ b l' => Advances a l b l' := by
  rw [Storage.create, Action.keeps_bind, Action.keeps_get]
  obtain ⟨config, registry⟩ := a
  cases config with
  | s3 c =>
    refine keeps_within.2 ?_
    exact S3.keeps_create s hl h
  | azure c =>
    refine keeps_within.2 ?_
    exact Azure.keeps_create s hl h
  | gcs c =>
    refine keeps_within.2 ?_
    exact Gcs.keeps_create s hl h
  | swift c =>
    refine keeps_within.2 ?_
    exact Swift.keeps_create s hl h
  | filesystem c =>
    have hclaim : decide (filesystem c = filesystem { claim := some "" }) =
        decide (c.claim = some "") := by
      obtain ⟨claim⟩ := c
      simp
    refine keeps_within.2 ?_
    refine Filesystem.keeps_create s ?_ h
    rw [hl, Task.reclaims, hclaim, decide_eq_true rfl, Bool.true_and]
    exact Bool.and_comm _ _

/-- Looking for the storage keeps a session sound.

**Proof sketch.** As for removing; a look observes, and leaves the ledger as it is. -/
lemma keeps_isPresent (h : Sound a l) (hl : l.reclaiming = false) :
    Action.Keeps Ledger.contract (Storage.isPresent s) a l fun _ b l' => Advances a l b l' := by
  rw [Storage.isPresent, Action.keeps_bind, Action.keeps_get]
  have hsettled : l.Settled l := ⟨rfl, hl⟩
  have hlook {C : Type} {t : Session C} {look : Work C Bool}
      (h : Action.Keeps Ledger.contract look t l fun _ t' l' => Observes t t' ∧ l.Settled l') :
      Action.Keeps Ledger.contract look t l fun _ t' l' => Observes t t' ∧ l' = l :=
    h.mono fun _ _ _ h => ⟨h.1, h.2.1⟩
  obtain ⟨config, registry⟩ := a
  cases config with
  | s3 c =>
    exact keeps_observation rfl h
      (hlook (S3.keeps_isPresent s (fun b => .of_faithful (S3.faithful b)) hsettled trivial))
  | azure c =>
    exact keeps_observation rfl h
      (hlook (Azure.keeps_isPresent s (.of_faithful (Azure.faithful_container "" _)) hsettled
        trivial))
  | gcs c =>
    exact keeps_observation rfl h
      (hlook (Gcs.keeps_isPresent s (fun b => .of_faithful (Gcs.faithful b)) hsettled trivial))
  | swift c =>
    exact keeps_observation rfl h
      (hlook (Swift.keeps_isPresent s (.of_faithful (Swift.faithful "")) hsettled trivial))
  | filesystem c =>
    exact keeps_observation rfl h
      (hlook (Filesystem.keeps_isPresent (.of_faithful Filesystem.faithful) hsettled trivial))

/-- Comparing configurations keeps a session sound. -/
lemma keeps_isChanged (h : Sound a l) :
    Action.Keeps Ledger.contract Storage.isChanged a l fun _ b l' => Advances a l b l' := by
  rw [Storage.isChanged, Action.keeps_bind, Action.keeps_get]
  obtain ⟨config, registry⟩ := a
  cases config with
  | s3 c => exact keeps_observation rfl h (keeps_blockChanged _)
  | azure c => exact keeps_observation rfl h (keeps_blockChanged _)
  | gcs c => exact keeps_observation rfl h (keeps_blockChanged _)
  | swift c => exact keeps_observation rfl h (keeps_blockChanged _)
  | filesystem c => exact keeps_observation rfl h (keeps_blockChanged _)

/-- A session stays sound when an operation begins. -/
lemma Sound.begin (hb : Sound b l) (reclaiming : Bool) : Sound b (l.begin reclaiming) :=
  ⟨hb.selected, hb.held, hb.owned, hb.named, hb.containers⟩

/-- **Every operation keeps a session sound.** -/
theorem Task.keeps (k : Task) (h : Sound a l) :
    Action.Keeps Ledger.contract (k.work s) a (l.begin (k.reclaims a)) fun _ b l' =>
      Advances a (l.begin (k.reclaims a)) b l' := by
  have h : Sound a (l.begin (k.reclaims a)) := h.begin _
  cases k with
  | create => exact keeps_create h rfl
  | remove => exact (keeps_remove h rfl).mono fun _ _ _ h => h.1
  | isPresent => exact keeps_isPresent h rfl
  | isChanged => exact keeps_isChanged h

/-- A run of an operation from a sound session advances it. -/
lemma Task.advances (k : Task) {c : Session Storage} {es : Trace World}
    {r : Except Error k.Result} (hb : Sound b l) (hrun : ((k.work s).start b).Runs es (r, c)) :
    Advances b (l.begin (k.reclaims b)) c ((l.begin (k.reclaims b)).after es) :=
  (k.keeps hb).of_runs hrun ((Ledger.path_iff ..).2 rfl)

/-- **A session that is sound stays sound over its whole life.** -/
theorem Life.sound (hlife : Life s a h b l) (ha : Sound a h) : Sound b l :=
  hlife.preserves (fun k _ _ _ _ _ hb hrun => (k.advances hb hrun).sound) ha

/-- A registry whose status does not say that the operator owns something. -/
lemma Sound.ofSpec {registry : Registry} {storage : Storage}
    (hspec : ofSpec registry.spec = .ok storage)
    (hstatus : registry.status.ownership ≠ some .managed) : Sound ⟨storage, registry⟩ {} :=
  .start ((ofSpec_eq_ok ..).1 hspec) hstatus

/-- A call of an operation touches only assets that are owned at that moment. -/
lemma Sound.owns_of_asks (h : Sound b l) {k : Task} {es : Trace World} {c : World.Call}
    (hc : ((k.work s).start b).Asks es c) {x : Asset} (hx : c.Touches x) :
    ((l.begin (k.reclaims b)).after es).Owns x :=
  (k.keeps h).of_asks hc ((Ledger.path_iff ..).2 rfl) x hx

/-! ## Computed lives -/

instance (c : World.Call) : Inhabited (World.Answer c) := by
  cases c with
  | cluster c => cases c <;> exact ⟨.error default⟩
  | s3 c => cases c <;> exact ⟨.error default⟩
  | azure c => cases c <;> exact ⟨.error default⟩
  | gcs c => cases c <;> exact ⟨.error default⟩
  | swift c => cases c <;> exact ⟨.error default⟩
  | http _ => exact ⟨.error default⟩
  | readFile _ => exact ⟨.error default⟩
  | now => exact ⟨⟨0⟩⟩
  | stopwatch => exact ⟨⟨0⟩⟩
  | sleep _ => exact ⟨()⟩
  | time => exact ⟨(default : Timestamp)⟩
  | randomDigits => exact ⟨[]⟩
  | randomWord => exact ⟨(0 : Nat)⟩
  | measured _ _ _ => exact ⟨()⟩

/-- The answers of a cluster in which some claims exist, and others can be created and deleted. The
clock stands still, so waiting for a claim ends at once if no time is allowed for it. -/
def clusterWith (claims : List String) (_ : Trace World) : (c : World.Call) → World.Answer c
  | .cluster (.getClaim _ name) => .ok (if name ∈ claims then some {} else none)
  | .cluster (.createClaim _ _) => .ok ()
  | .cluster (.deleteClaim _ _) => .ok true
  | _ => default

/-- The session and the ledger after operations in a world that answers as given. -/
def rehearse (s : Settings) (answer : Trace World → (c : World.Call) → World.Answer c)
    (limit : Nat) : List Task → Session Storage → Ledger → Option (Session Storage × Ledger)
  | [], b, l => some (b, l)
  | k :: ks, b, l =>
    match ((k.work s).start b).run (Prog.recorded answer) limit [] with
    | (some (_, c), es) => rehearse s answer limit ks c ((l.begin (k.reclaims b)).after es)
    | (none, _) => none

/-- Settings under which a claim that cannot be seen is not waited for. -/
def Settings.impatient : Settings := { wait := { timeout := ⟨0⟩ } }

/-- The session of a registry that asks for a claim. -/
def claiming (name : String) : Session Storage :=
  ⟨.filesystem { claim := some name }, { spec := { filesystem := some { claim := some name } } }⟩

/-- What is computed for some operations is a life.

**Proof sketch.** By induction on the operations: what is computed for the first is one of its runs
(`Prog.runs_of_run`), so it is a step of a life. -/
lemma Life.of_rehearse {answer : Trace World → (c : World.Call) → World.Answer c} {limit : Nat}
    {ks : List Task} {c : Session Storage} {l' : Ledger} (hb : Life s a h b l)
    (hc : rehearse s answer limit ks b l = some (c, l')) : Life s a h c l' := by
  induction ks generalizing b l with
  | nil =>
    cases hc
    exact hb
  | cons k ks ih =>
    rw [rehearse] at hc
    split at hc
    · rename_i es hrun
      obtain ⟨fs, rfl, hfs⟩ := Prog.runs_of_run answer limit _ hrun
      exact ih (.step k hb hfs) hc
    · cases hc

/-- What is computed for some operations is found among the lives. -/
lemma Life.exists_of_rehearse (s : Settings)
    (answer : Trace World → (c : World.Call) → World.Answer c) (limit : Nat) (ks : List Task)
    (a : Session Storage) (h : Ledger) (P : Session Storage → Ledger → Prop)
    [∀ b l, Decidable (P b l)] (hp : (rehearse s answer limit ks a h).any fun r => P r.1 r.2) :
    ∃ b l, Life s a h b l ∧ P b l := by
  obtain ⟨⟨b, l⟩, hr, hp⟩ := (Option.any_eq_true ..).1 hp
  exact ⟨b, l, .of_rehearse .start hr, of_decide_eq_true hp⟩

/-! ## Main results -/

/-- **Operations touch only assets of the operator.** Take a registry whose configuration has one
block and whose status says nothing of an owner, and any operations on it with any answers. Every
call that then sets up, empties or deletes an asset is about one that was created before and not
removed since, or about the default claim that was recognised as the operator's; and while the
status says that the operator owns the storage, the asset named in the configuration is such a one.

**Proof sketch.** Every operation keeps the session sound (`Task.keeps`), so it is sound between
operations (`Life.sound`). An operation that begins in a sound session keeps the contract of the
ledger, which is what permits its calls (`Sound.owns_of_asks`). -/
theorem touches_owned {registry : Registry} {storage : Storage}
    (hspec : ofSpec registry.spec = .ok storage)
    (hstatus : registry.status.ownership ≠ some .managed)
    (hlife : Life s ⟨storage, registry⟩ {} b l) :
    (b.ownership = some .managed →
      ofSpec b.registry.spec = .ok b.config ∧ b.config.resource ≠ "" ∧ l.Owns b.config.asset) ∧
    ∀ (k : Task) (es : Trace World) (c : World.Call), ((k.work s).start b).Asks es c →
      ∀ x, c.Touches x → ((l.begin (k.reclaims b)).after es).Owns x := by
  have h : Sound b l := hlife.sound (.ofSpec hspec hstatus)
  constructor
  · intro hm
    exact ⟨(ofSpec_eq_ok ..).2 h.selected, h.named hm, h.owned hm⟩
  · intro k es c hc x hx
    exact h.owns_of_asks hc hx

/-- A claim that was created is owned. -/
theorem touches_owned_claiming :
    ∃ b l, Life .impatient (claiming "images") {} b l ∧
      b.ownership = some .managed ∧ l.Owns b.config.asset := by
  obtain ⟨b, l, hlife, hm⟩ :=
    Life.exists_of_rehearse .impatient (clusterWith []) 3 [.create] (claiming "images") {}
      (fun b _ => b.ownership = some .managed) (by decide +kernel)
  exact ⟨b, l, hlife, hm, ((touches_owned rfl (by decide) hlife).1 hm).2.2⟩

/-- **No asset of the operator is lost.** Between the operations on such a registry, also after some
that failed, every asset that was created and not removed since is the one that the configuration of
the registry and that of the session name, and the status says that the operator owns it, so there
is at most one. Every container that was created in the account of the session is the one named in
its configuration.

**Proof sketch.** The session before the first operation is sound, as nothing is owned, and every
operation keeps it so (`Life.sound`). The fields of soundness say which asset and which containers
may be held. -/
theorem held_selected {registry : Registry} {storage : Storage}
    (hspec : ofSpec registry.spec = .ok storage)
    (hstatus : registry.status.ownership ≠ some .managed)
    (hlife : Life s ⟨storage, registry⟩ {} b l) :
    ofSpec b.registry.spec = .ok b.config ∧
    (∀ x ∈ l.held, x = b.config.asset ∧ b.ownership = some .managed) ∧
    (∀ x ∈ l.held, ∀ y ∈ l.held, x = y) ∧
    ∀ c, b.config = .azure c → ∀ container, (c.accountName, container) ∈ l.containers →
      container = c.container := by
  have h : Sound b l := hlife.sound (.ofSpec hspec hstatus)
  refine ⟨(ofSpec_eq_ok ..).2 h.selected, h.held, ?_, ?_⟩
  · intro x hx y hy
    rw [(h.held x hx).1, (h.held y hy).1]
  · intro c hc container hx
    obtain ⟨hpair, -, -⟩ := h.containers _ hx
    rw [hc] at hpair
    exact congrArg Prod.snd hpair

/-- A claim that vanishes and is created again is the one in the status. -/
theorem held_selected_claiming :
    ∃ b l, Life .impatient (claiming "images") {} b l ∧
      ∃ x ∈ l.held, x = b.config.asset ∧ b.ownership = some .managed := by
  obtain ⟨b, l, hlife, hx⟩ :=
    Life.exists_of_rehearse .impatient (clusterWith []) 3 [.create, .create]
      (claiming "images") {} (fun _ l => Asset.of .filesystem "images" ∈ l.held)
      (by decide +kernel)
  exact ⟨b, l, hlife, _, hx, (held_selected rfl (by decide) hlife).2.1 _ hx⟩

end Storage

end Depot
