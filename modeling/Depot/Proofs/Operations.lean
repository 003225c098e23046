import Depot.Proofs.Connecting
import Depot.Proofs.Naming

set_option autoImplicit false

/-!
# What the steps of a lifecycle do to the ledger

A step of the lifecycle is a program for each backend: a single call, or many when a bucket is
emptied or tags are bound. All these programs do to the ledger exactly what the lifecycle expects
of its steps, and touch no asset but the one that the step is about.

## Main definitions

* `Ledger.Faithful` — the programs for the steps do to the ledger what the lifecycle expects.
* `Storage.Realizes` — the same for any contract.

## Main results

* `Ledger.Faithful.keeps_answer` — the program for each step does what the lifecycle expects.
* `Storage.idle_deleteEach` — deleting objects changes nothing if the calls do not.
* `Storage.Realizes.of_work` — only the steps that are about a resource matter for that.
* `Storage.keeps_onResource` — a part of the lifecycle runs in a session as it does on its own.
-/

namespace Depot

variable {l : Ledger}

/-- The call touches no asset but one, and its answer says nothing about any. -/
structure World.Call.IsWorkOn (x : Asset) (c : World.Call) : Prop where
  /-- The call touches no other asset. -/
  touches : ∀ y, c.Touches y → y = x
  /-- No answer says anything about assets. -/
  deed : ∀ r, World.deed c r = .other

/-- A call about an asset that the operator owns is permitted and leaves the ledger as it is. -/
lemma World.Call.IsWorkOn.idle {x : Asset} {c : World.Call} (h : c.IsWorkOn x) (hx : l.Owns x) :
    Ledger.contract.IdleCall l c := by
  refine ⟨fun y hy => h.touches y hy ▸ hx, ?_⟩
  rintro r _ rfl
  rw [h.deed r]
  rfl

/-- A call about an asset that the operator owns keeps the contract. -/
lemma keeps_work {x : Asset} {c : World.Call} (h : c.IsWorkOn x) (hx : l.Owns x) :
    (Prog.perform (I := World) c).Keeps Ledger.contract l fun _ l' => l' = l :=
  Prog.keeps_perform.2 (h.idle hx)

/-- After an action that changes nothing there is only its outcome. -/
lemma Action.Idle.result {α G : Type} {K : Contract World G} {g : G} {a : Operating Unit α}
    (h : Action.Idle K g a) : a.result.Keeps K g fun _ g' => g' = g :=
  Action.keeps_result.2 ((h ()).mono fun _ _ _ h => h.2)

/-- Deleting objects one by one changes nothing if the calls do not.

**Proof sketch.** By induction on the objects: after each answer the loop goes on with the rest,
with a record of the failure or without. -/
theorem Storage.idle_deleteEach {G : Type} {K : Contract World G} {g : G}
    {ask : String → Prog World (Except Error Unit)} {holder : String}
    (hask : ∀ name, (ask name).Keeps K g fun _ g' => g' = g) (names : List String) :
    Action.Idle K g (deleteEach ask holder names) := by
  induction names with
  | nil => exact Action.idle_pure _
  | cons name rest ih =>
    have hcall : Action.Idle (σ := Unit) K g (Action.perform (ask name)) := fun _ =>
      Action.keeps_perform.2 ((hask name).mono fun _ _ hg => ⟨rfl, hg⟩)
    refine hcall.bind ?_
    rintro (e | _)
    · dsimp only
      split
      · exact ih
      · exact ih.bind fun failures => Action.idle_pure _
    · exact ih

/-! ## Names -/

namespace Naming

/-- Making up a name changes nothing.

**Proof sketch.** Drawing digits is a quiet call that is the same for all clouds; what is made of
the digits has no name that is empty, or is a failure. -/
lemma keeps_generate {G : Type} {K : Contract World G} {g : G} [K.Steady g]
    {f : List Char → Except Error String}
    (hf : ∀ digits name, f digits = .ok name → name ≠ "") :
    Action.Keeps K (do
      let digits ← Action.perform World.randomDigits
      Action.ofExcept (f digits)) () g fun r _ g' =>
        Lifecycle.Effects.admits .generate r ∧ g' = g := by
  rw [Action.keeps_bind, Action.keeps_perform]
  refine (keeps_steady (c := .randomDigits) ⟨fun _ h => h, fun _ => rfl⟩).mono ?_
  rintro digits _ rfl
  dsimp only
  rw [Action.keeps_ofExcept]
  cases hname : f digits with
  | error e => exact ⟨trivial, rfl⟩
  | ok name => exact ⟨hf digits name hname, rfl⟩

end Naming

/-! ## The clock -/

/-- The step is about time or a measurement, and not about a resource. -/
def Resource.Call.IsClock : Resource.Call → Prop
  | .now | .sleep _ | .time | .measured _ _ => True
  | _ => False

/-- Steps that are not about a resource change nothing. -/
lemma keeps_clock {G : Type} {K : Contract World G} {g : G} [K.Steady g]
    {ops : Resource.Operations} {c : Resource.Call} (hc : c.IsClock) :
    (ops.answer c).Keeps K g fun x g' => Lifecycle.Effects.admits c x ∧ g' = g := by
  have hcall {d : World.Call} (hd : d.IsQuiet) (hcommon : d.IsCommon) :
      (Prog.perform (I := World) d).Keeps K g fun _ g' => True ∧ g' = g :=
    (keeps_steady hd hcommon).mono fun _ _ h => ⟨trivial, h⟩
  cases c with
  | now => exact hcall (d := .now) ⟨fun _ h => h, fun _ => rfl⟩ trivial
  | sleep d => exact hcall (d := .sleep d) ⟨fun _ h => h, fun _ => rfl⟩ trivial
  | time => exact hcall (d := .time) ⟨fun _ h => h, fun _ => rfl⟩ trivial
  | measured operation succeeded =>
    exact hcall (d := .measured _ operation succeeded) ⟨fun _ h => h, fun _ => rfl⟩ trivial
  | _ => exact hc.elim

/-! ## Faithful programs -/

namespace Ledger

/-- A creation is written down as the lifecycle expects. -/
lemma record_ofCreation (b : Backend) (name : String) (r : Except Error Creation) :
    l.record (.ofCreation (.of b name) r) = (effects b).next l (.create name) r := by
  rcases r with e | _ | _ <;> rfl

/-- A deletion is written down as the lifecycle expects. -/
lemma record_ofDeletion (b : Backend) (name : String) (r : Except Error Unit) :
    l.record (.ofDeletion (.of b name) r) = (effects b).next l (.delete name) r := by
  change l.record (if Lifecycle.isGone r then .removed (.of b name) else .other) =
    if Lifecycle.isGone r then l.record (.removed (.of b name)) else l
  split <;> rfl

/-- The programs for the steps of a lifecycle do to the ledger what the lifecycle expects, and
touch no asset that is not owned. Claims can be recognised only before the lifecycle begins. -/
structure Faithful (ops : Resource.Operations) (E : Lifecycle.Effects Ledger) : Prop where
  /-- A probe changes nothing. -/
  probe : ∀ l name, l.reclaiming = false → Action.Idle contract l (ops.probe name)
  /-- A creation is written down. -/
  create : ∀ l name, Action.Keeps contract (ops.create name) () l fun r _ l' =>
    l' = E.next l (.create name) r
  /-- A setting touches the resource only. -/
  harden : ∀ l name step, E.owns l name → Action.Idle contract l (ops.harden name step)
  /-- Emptying touches the resource only. -/
  empty : ∀ l name, E.owns l name → Action.Idle contract l (ops.empty name)
  /-- A deletion is written down. -/
  delete : ∀ l name, E.owns l name → Action.Keeps contract (ops.delete name) () l fun r _ l' =>
    l' = E.next l (.delete name) r
  /-- A name is made up, and is not empty. -/
  generate : ∀ l, Action.Keeps contract ops.generate () l fun r _ l' =>
    Lifecycle.Effects.admits .generate r ∧ l' = l
  /-- Looking and creating is always permitted. -/
  enables : ∀ l, E.Enables l
  /-- A creation that fails changes nothing. -/
  failed : ∀ l, E.failed l = l
  /-- A creation does not allow to recognise a claim. -/
  created : ∀ l name, (E.created name l).reclaiming = l.reclaiming
  /-- A deletion does not allow to recognise a claim. -/
  deleted : ∀ l name, (E.deleted name l).reclaiming = l.reclaiming

variable {ops : Resource.Operations} {E : Lifecycle.Effects Ledger}

/-- No step allows to recognise a claim.

**Proof sketch.** By cases on the step. Only a creation and a deletion change the ledger, and what
they do to it is given by the effects. -/
lemma Faithful.next (h : Faithful ops E) (c : Resource.Call)
    (x : Resource.interface.Answer c) : (E.next l c x).reclaiming = l.reclaiming := by
  cases c with
  | create name =>
    rcases x with e | _ | _
    · exact congrArg reclaiming (h.failed l)
    · exact h.created l name
    · rfl
  | delete name =>
    change (if Lifecycle.isGone x then E.deleted name l else l).reclaiming = l.reclaiming
    split
    · exact h.deleted l name
    · rfl
  | _ => rfl

/-- The program for each step does what the lifecycle expects.

**Proof sketch.** By cases on the step: for those that are about a resource the program is described
by the fields of `Faithful`, and the others are about the clock or a measurement. -/
theorem Faithful.keeps_answer (h : Faithful ops E) (hl : l.reclaiming = false)
    (c : Resource.Call) (hc : E.permits l c) :
    (ops.answer c).Keeps contract l fun x l' =>
      Lifecycle.Effects.admits c x ∧ l' = E.next l c x := by
  cases c with
  | probe name => exact (h.probe l name hl).result.mono fun _ _ hx => ⟨trivial, hx⟩
  | create name =>
    exact Action.keeps_result.2 ((h.create l name).mono fun _ _ _ hx => ⟨trivial, hx⟩)
  | harden name step => exact (h.harden l name step hc).result.mono fun _ _ hx => ⟨trivial, hx⟩
  | empty name => exact (h.empty l name hc).result.mono fun _ _ hx => ⟨trivial, hx⟩
  | delete name =>
    exact Action.keeps_result.2 ((h.delete l name hc).mono fun _ _ _ hx => ⟨trivial, hx⟩)
  | generate => exact Action.keeps_result.2 (h.generate l)
  | _ => exact keeps_clock trivial

end Ledger

/-- Two ledgers that are the same, and do not allow to recognise a claim. -/
def Ledger.Settled (l l' : Ledger) : Prop := l' = l ∧ l.reclaiming = false

namespace Storage

variable {C α G H : Type}

/-- The programs for the steps of a lifecycle do what the lifecycle expects of the steps, up to a
relation between its states and those of the world. -/
def Realizes (K : Contract World H) (E : Lifecycle.Effects G) (R : G → H → Prop)
    (ops : Resource.Operations) : Prop :=
  ∀ c g h, R g h → E.permits g c → (ops.answer c).Keeps K h fun x h' =>
    Lifecycle.Effects.admits c x ∧ R (E.next g c x) h'

/-- It is enough to look at the steps that are about a resource.

**Proof sketch.** Steps that are about the clock run as quiet calls and change neither state; for
the others the hypothesis holds. -/
theorem Realizes.of_work {K : Contract World H} [∀ h, K.Steady h] {E : Lifecycle.Effects G}
    {R : G → H → Prop} {ops : Resource.Operations}
    (hwork : ∀ c g h, ¬ c.IsClock → R g h → E.permits g c → (ops.answer c).Keeps K h fun x h' =>
      Lifecycle.Effects.admits c x ∧ R (E.next g c x) h') : Realizes K E R ops := by
  intro c g h hr hc
  by_cases hclock : c.IsClock
  · refine (keeps_clock hclock).mono ?_
    rintro x _ ⟨hx, rfl⟩
    have hnext : E.next g c x = g := by
      cases c with
      | create name | delete name => exact hclock.elim
      | _ => rfl
    rw [hnext]
    exact ⟨hx, hr⟩
  · exact hwork c g h hclock hr hc

/-- What is faithful to the ledger does what the lifecycle expects. -/
lemma Realizes.of_faithful {ops : Resource.Operations} {E : Lifecycle.Effects Ledger}
    (h : Ledger.Faithful ops E) : Realizes Ledger.contract E Ledger.Settled ops := by
  rintro c k _ ⟨rfl, hk⟩ hc
  refine (h.keeps_answer hk c hc).mono ?_
  rintro x _ ⟨hx, rfl⟩
  exact ⟨hx, rfl, (h.next c x).trans hk⟩

variable {K : Contract World H} {E : Lifecycle.Effects G} {R : G → H → Prop}
  {ops : Resource.Operations} {g : G} {h : H} {name : String} {step : Lifecycle.Step α}
  {s : Session C}

/-- **A part of the lifecycle runs in a session as it does on its own**, if the programs for its
steps do what the lifecycle expects.

**Proof sketch.** The programs for the steps simulate the contract of the lifecycle, so that it
carries over to the part of the lifecycle that they make up (`Prog.Keeps.interpret`); what is done
besides is to put the status into the session. -/
theorem keeps_onResource (hops : Realizes K E R ops) (hr : R g h)
    {Q : Except Error (Except Error α × String) → Session C → H → Prop}
    (hstep : Action.Keeps E.contract step ⟨name, s.registry.status⟩ g fun r t g' =>
      ∀ h', R g' h' → Q (.ok (r, t.name)) { s with registry.status := t.status } h') :
    Action.Keeps K (onResource ops name step) s h Q := by
  have hsim : ∀ c g h, R g h → E.contract.permits g c → (ops.answer c).Keeps K h fun x h' =>
      ∃ g', E.contract.step g c x g' ∧ R g' h' := by
    intro c g h hr hc
    refine (hops c g h hr hc).mono ?_
    rintro x h' ⟨hx, hr'⟩
    exact ⟨_, ⟨hx, rfl⟩, hr'⟩
  refine Prog.keeps_bind.2 ((Prog.Keeps.interpret hsim hstep hr).mono ?_)
  rintro ⟨r, t⟩ h' ⟨g', hr', hQ⟩
  exact hQ h' hr'

/-- The same for a part of the lifecycle that keeps the name. -/
lemma keeps_withResource (hops : Realizes K E R ops) (hr : R g h)
    {Q : Except Error α → Session C → H → Prop}
    (hstep : Action.Keeps E.contract step ⟨name, s.registry.status⟩ g fun r t g' =>
      ∀ h', R g' h' → Q r { s with registry.status := t.status } h') :
    Action.Keeps K (withResource ops name step) s h Q := by
  rw [withResource, Action.keeps_bind]
  exact keeps_onResource hops hr hstep

/-- Finding or creating a resource in a session. -/
lemma keeps_ensured (hops : Realizes K E R ops) (hr : R g h) (hg : E.Enables g)
    {k : Resource.Kind} {w : Lifecycle.WaitPolicy}
    {Q : Except Error (Except Error Unit × String) → Session C → H → Prop}
    (hQ : ∀ r t g' h', Lifecycle.Ensured E ⟨name, s.registry.status⟩ g r t g' →
      Lifecycle.Named r t → R g' h' →
        Q (.ok (r, t.name)) { s with registry.status := t.status } h') :
    Action.Keeps K (onResource ops name (Lifecycle.ensure k w)) s h Q := by
  refine keeps_onResource hops hr ((Lifecycle.keeps_ensure k w hg).mono ?_)
  rintro r t g' ⟨ht, hnamed⟩ h' hr'
  exact hQ r t g' h' ht hnamed hr'

end Storage

end Depot
