import Depot.Proofs.Sessions

set_option autoImplicit false

/-!
# What operations leave in a registry

A session works on a copy of a block of the registry's configuration, and every operation writes
what it changes to both. Here is what the parts of an operation do to the copy, to the configuration
and to the record of what was applied, whatever the world answers. The calls that touch an asset
tell the two halves of a creation apart: finding or creating the resource needs none of them, and
setting it up begins when the configuration was recorded as applied.

## Main definitions

* `Storage.block?`, `Storage.put` — one block of a configuration.
* `Storage.Mirrors` — a session that agrees with its registry and leaves other blocks alone.
* `Storage.touching` — the contract that remembers whether an asset was touched.
* `Storage.Unobtrusive` — looking for a resource and creating it touches no asset.

## Main results

* `Storage.keeps_found` — finding or creating a resource touches nothing and applies nothing.
* `Storage.keeps_settled` — setting up a resource comes after the record of what was applied.
* `Storage.keeps_cleared` — removing a resource keeps a session in agreement with its registry.
-/

namespace Depot.Storage

/-! ## Blocks of a configuration -/

/-- The block for a backend, if there is one. -/
def block? (spec : Spec) : Backend → Option Storage
  | .s3 => spec.s3.map .s3
  | .azure => spec.azure.map .azure
  | .gcs => spec.gcs.map .gcs
  | .swift => spec.swift.map .swift
  | .filesystem => spec.filesystem.map .filesystem

/-- The configuration with another block for one backend. -/
def put : Storage → Spec → Spec
  | .s3 c, spec => { spec with s3 := some c }
  | .azure c, spec => { spec with azure := some c }
  | .gcs c, spec => { spec with gcs := some c }
  | .swift c, spec => { spec with swift := some c }
  | .filesystem c, spec => { spec with filesystem := some c }

/-- The block that was put into a configuration is the one found there. -/
@[simp] lemma block?_put_self (a : Storage) (spec : Spec) :
    block? (a.put spec) a.backend = some a := by
  cases a <;> rfl

/-- The blocks of other backends stay when a block is put into a configuration. -/
lemma block?_put_of_ne (a : Storage) (spec : Spec) {k : Backend} (hk : k ≠ a.backend) :
    block? (a.put spec) k = block? spec k := by
  cases a <;> cases k <;> first | rfl | exact absurd rfl hk

/-- A configuration with one block has none for another backend. -/
lemma block?_toSpec_of_ne (a : Storage) {k : Backend} (hk : k ≠ a.backend) :
    block? a.toSpec k = none := by
  cases a <;> cases k <;> first | rfl | exact absurd rfl hk

/-! ## Agreement with the registry -/

/-- The session agrees with its registry, and blocks of other backends are as they were. -/
structure Mirrors (a b : Session Storage) : Prop where
  /-- The registry asks for the storage of the session. -/
  selected : b.registry.spec = b.config.toSpec
  /-- The backend is the same. -/
  backend : b.config.backend = a.config.backend
  /-- What was applied for other backends is the same. -/
  others : ∀ k, k ≠ a.config.backend →
    block? b.registry.status.applied k = block? a.registry.status.applied k

/-- The configuration of the session was applied. -/
def Applied (b : Session Storage) : Prop :=
  block? b.registry.status.applied b.config.backend = some b.config

namespace Mirrors

variable {a b c : Session Storage}

/-- A session that agrees with its registry does so after nothing. -/
lemma refl (h : a.registry.spec = a.config.toSpec) : Mirrors a a := ⟨h, rfl, fun _ _ => rfl⟩

/-- Two operations one after another keep a session in agreement if each does. -/
lemma trans (h : Mirrors a b) (h' : Mirrors b c) : Mirrors a c where
  selected := h'.selected
  backend := h'.backend.trans h.backend
  others k hk := (h'.others k (h.backend ▸ hk)).trans (h.others k hk)

/-- A session with another configuration of the same backend, which the registry asks for. -/
lemma renamed (h : Mirrors a b) (hspec : c.registry.spec = c.config.toSpec)
    (hb : c.config.backend = b.config.backend)
    (happlied : c.registry.status.applied = b.registry.status.applied) : Mirrors a c where
  selected := hspec
  backend := hb.trans h.backend
  others k hk := by
    rw [happlied]
    exact h.others k hk

/-- Observations do not matter. -/
lemma observes (h : Mirrors a b) (ho : Observes b c) : Mirrors a c :=
  h.renamed (by rw [ho.spec, ho.config]; exact h.selected) (by rw [ho.config]) ho.applied

/-- The record of what was applied was changed for the backend of the session. -/
lemma adjusted (h : Mirrors a b) {f : Spec → Spec}
    (hf : ∀ spec k, k ≠ a.config.backend → block? (f spec) k = block? spec k) :
    Mirrors a { b with registry.status.applied := f b.registry.status.applied } where
  selected := h.selected
  backend := h.backend
  others k hk := (hf _ k hk).trans (h.others k hk)

/-- The name of the resource was taken out of all configurations of the backend. -/
lemma cleared {C : Type} {w : C → Storage} {t : Session C} (h : Mirrors a (t.wrap w)) {config : C}
    {spec : Spec} {status : Status} {f : Spec → Spec} (hspec : spec = (w config).toSpec)
    (hb : (w config).backend = (w t.config).backend)
    (hstatus : status.applied = t.registry.status.applied)
    (hf : ∀ applied k, k ≠ (w config).backend → block? (f applied) k = block? applied k) :
    Mirrors a ⟨w config, { spec, status := { status with applied := f status.applied } }⟩ := by
  have hrenamed := h.renamed (c := ⟨w config, { spec, status }⟩) hspec hb hstatus
  exact hrenamed.adjusted fun applied k hk => hf applied k (hrenamed.backend ▸ hk)

end Mirrors

/-- What was applied stays so when at most observations change. -/
lemma Observes.applies {a b : Session Storage} (h : Observes a b) (ha : Applied a) :
    Applied b := by
  rw [Applied, h.applied, h.config]
  exact ha

/-- Sessions with a block of one backend differ in observations as sessions with the storage. -/
lemma Observes.wrap {C : Type} {s s' : Session C} (h : Observes s s') (w : C → Storage) :
    Observes (s.wrap w) (s'.wrap w) :=
  ⟨h.toAgrees.wrap w, h.applied⟩

/-! ## Calls that touch an asset -/

/-- The contract that permits every call and remembers whether an asset was touched. -/
def touching : Contract World Prop := .tracking (fun _ _ => True) fun p c _ => p ∨ ∃ x, c.Touches x

/-- Whether an asset was touched is read off the trace. -/
lemma path_touching (p q : Prop) (es : Trace World) :
    touching.Path p es q ↔ q = (p ∨ ∃ e ∈ es, ∃ x, e.call.Touches x) := by
  rw [touching, Contract.path_tracking]
  induction es generalizing p with
  | nil => simp
  | cons e es ih =>
    rw [List.foldl_cons, ih]
    simp only [List.mem_cons, exists_eq_or_imp, or_assoc]

/-- A call that touches no asset. -/
lemma idle_touching {c : World.Call} (h : ∀ x, ¬ c.Touches x) (p : Prop) :
    touching.IdleCall p c := by
  refine ⟨trivial, ?_⟩
  rintro x _ rfl
  exact propext (or_iff_left fun ⟨x, hx⟩ => h x hx)

instance (p : Prop) : touching.Calm p where
  idle _ h := idle_touching h.touches p

/-- Nothing is forbidden.

**Proof sketch.** By induction on the program; the invariants of its loops say nothing. -/
lemma keeps_touching {α : Type} (q : Prog World α) (p : Prop) :
    q.Keeps touching p fun _ _ => True := by
  induction q generalizing p with
  | pure a => trivial
  | call c next ih => exact ⟨trivial, fun x p' _ => ih x p'⟩
  | loop body init next ihb ihn =>
    refine ⟨fun _ _ => True, fun _ _ => True, trivial, fun s p _ => ?_, fun b p _ => ihn b p⟩
    refine (ihb s p).mono ?_
    rintro (t | b) p' -
    · trivial
    · trivial

/-- Looking for a resource, creating it and making up a name for it touches no asset. -/
structure Unobtrusive (ops : Resource.Operations) : Prop where
  /-- Looking for it touches nothing. -/
  probe : ∀ name p, Action.Idle touching p (ops.probe name)
  /-- Creating it touches nothing. -/
  create : ∀ name p, Action.Idle touching p (ops.create name)
  /-- Making up a name touches nothing, and the name is not empty. -/
  generate : ∀ p, Action.Keeps touching ops.generate () p fun r _ p' =>
    Lifecycle.Effects.admits .generate r ∧ p' = p

/-- Creations without regard to assets that are set up or removed. -/
def finding : Lifecycle.Effects Prop where
  owns _ _ := False
  created _ p := p
  deleted _ p := p

/-- All steps of a lifecycle, without regard to what they do. -/
def acting : Lifecycle.Effects Unit where
  owns _ _ := True
  created _ _ := ()
  deleted _ _ := ()

/-- Looking and creating is always permitted. -/
lemma finding_enables (p : Prop) : finding.Enables p := ⟨trivial, trivial, fun _ => trivial⟩

namespace Unobtrusive

variable {ops : Resource.Operations}

/-- As long as nothing is set up or removed, nothing is touched. -/
lemma finding (h : Unobtrusive ops) : Realizes touching finding Eq ops := by
  refine Realizes.of_work ?_
  rintro c p _ hc rfl hp
  cases c with
  | probe name => exact (h.probe name p).result.mono fun _ _ h => ⟨trivial, h.symm⟩
  | create name =>
    refine (h.create name p).result.mono ?_
    rintro (e | _ | _) _ rfl <;> exact ⟨trivial, rfl⟩
  | harden name step | empty name | delete name => exact hp.elim
  | generate => exact Action.keeps_result.2 ((h.generate p).mono fun _ _ _ h => ⟨h.1, h.2.symm⟩)
  | _ => exact absurd trivial hc

/-- All steps are possible. -/
lemma acting (h : Unobtrusive ops) : Realizes touching acting (fun _ _ => True) ops := by
  intro c _ p _ _
  cases c with
  | generate => exact Action.keeps_result.2 ((h.generate p).mono fun _ _ _ h => ⟨h.1, trivial⟩)
  | _ => exact (keeps_touching _ p).mono fun _ _ _ => ⟨trivial, trivial⟩

end Unobtrusive

/-! ## Parts of operations -/

section

variable {C : Type} {t : Session C} {a : Session Storage} {w : C → Storage} {p : Prop}
  {ops : Resource.Operations}

/-- Finding or creating a resource touches nothing and applies nothing. -/
theorem keeps_found (hops : Unobtrusive ops) {name : String} {k : Resource.Kind}
    {wait : Lifecycle.WaitPolicy}
    {Q : Except Error (Except Error Unit × String) → Session C → Prop → Prop}
    (hQ : ∀ r name' status, status.applied = t.registry.status.applied →
      Q (.ok (r, name')) { t with registry.status := status } p) :
    Action.Keeps touching (onResource ops name (Lifecycle.ensure k wait)) t p Q := by
  refine keeps_ensured hops.finding rfl (finding_enables p) ?_
  rintro r u p' _ hu - rfl
  obtain rfl : p' = p := by
    cases hu with
    | _ => rfl
  exact hQ r u.name u.status hu.applied

/-- A resource that was found or created is written down if it has a name.

**Proof sketch.** A name is written down by the hypothesis; without one nothing but the status has
changed, in a way that does not matter. -/
lemma keeps_named (h : Mirrors a (t.wrap w)) {name : String} {status : Status}
    (hstatus : status.applied = t.registry.status.applied) {persist rest : Work C Unit}
    {Q : Except Error Unit → Session C → Prop → Prop}
    (hpersist : Action.Keeps touching persist { t with registry.status := status } p
      fun r t' p' => r = .ok () ∧ Mirrors a (t'.wrap w) ∧ p' = p)
    (hrest : ∀ t', Mirrors a (t'.wrap w) → Action.Keeps touching rest t' p Q) :
    Action.Keeps touching
      (if name ≠ "" then do persist; rest
        else rest) { t with registry.status := status } p Q := by
  split
  · rw [Action.keeps_bind]
    refine hpersist.mono ?_
    rintro _ t' _ ⟨rfl, ht', rfl⟩
    exact hrest t' ht'
  · exact hrest _ (h.renamed h.selected rfl hstatus)

/-- What a creation leaves behind: agreement with the registry; and if it succeeds or touched an
asset, its configuration was applied. -/
def Leaves (a : Session Storage) (r : Except Error Unit) (b : Session Storage) (p : Prop) : Prop :=
  Mirrors a b ∧ (r.isOk ∨ p → Applied b)

/-- A creation that fails before anything was touched. -/
lemma leaves_error {b : Session Storage} {e : Error} (h : Mirrors a b) :
    Leaves a (.error e) b False :=
  ⟨h, fun hp => hp.elim (fun hr => nomatch hr) False.elim⟩

/-- A creation goes on if the resource was found or created, and fails otherwise. -/
lemma keeps_unlessFailed {outcome : Except Error Unit} {next : Work C Unit}
    (h : Mirrors a (t.wrap w))
    (hnext : Action.Keeps touching next t False fun r t' p => Leaves a r (t'.wrap w) p) :
    Action.Keeps touching (do Action.ofExcept outcome; next) t False fun r t' p =>
      Leaves a r (t'.wrap w) p := by
  rw [Action.keeps_bind, Action.keeps_ofExcept]
  rcases outcome with e | _
  · exact leaves_error h
  · exact hnext

/-- Setting up a resource comes after the record of what was applied.

**Proof sketch.** The record puts the block into what was applied, so that both are the same;
setting up the resource only adds observations. -/
theorem keeps_settled (hops : Unobtrusive ops) (h : Mirrors a (t.wrap w)) {name : String}
    {f : Spec → Spec} (hf : f = (w t.config).put) (k : Resource.Kind) :
    Action.Keeps touching (do
      modifyApplied f
      withResource ops name (Lifecycle.applyHardening k)) t p fun r t' p' =>
        Leaves a r (t'.wrap w) p' := by
  subst hf
  rw [Action.keeps_bind, modifyApplied, keeps_modifyStatus]
  have hrecorded := h.adjusted fun spec k hk =>
    block?_put_of_ne (w t.config) spec (k := k) (h.backend ▸ hk)
  refine keeps_withResource (g := ()) hops.acting trivial
    ((Lifecycle.keeps_applyHardening k fun _ _ => trivial).mono ?_)
  rintro r u _ ⟨hu, -⟩ p' -
  have ho := (Observes.of_alike hu).wrap w
  exact ⟨hrecorded.observes ho, fun _ => ho.applies (block?_put_self _ _)⟩

/-- Removing a resource keeps a session in agreement with its registry, if taking its name out of
both does.

**Proof sketch.** By the ways in which a removal may end: it leaves the resource alone, fails with
observations, or deletes it, and then the name is taken out. -/
theorem keeps_cleared (hops : Unobtrusive ops) (h : Mirrors a (t.wrap w)) {name : String}
    {k : Resource.Kind} {clear : Work C Bool}
    (hclear : ∀ status p, status.applied = t.registry.status.applied →
      Action.Keeps touching clear { t with registry.status := status } p fun _ t' _ =>
        Mirrors a (t'.wrap w)) :
    Action.Keeps touching (do
      if ← withResource ops name (Lifecycle.remove k) then clear
      else return false) t p fun _ t' _ => Mirrors a (t'.wrap w) := by
  rw [Action.keeps_bind]
  refine keeps_withResource (g := ()) hops.acting trivial
    ((Lifecycle.keeps_remove k fun _ _ => trivial).mono ?_)
  rintro r u _ hu p' -
  cases hu with
  | idle _ => exact h
  | failed ha => exact h.observes ((Observes.of_alike ha).wrap w)
  | deleted _ _ _ _ happlied => exact hclear u.status p' happlied

/-- Nothing is removed before the session is connected.

**Proof sketch.** What is left alone and what fails to connect leaves the session as it is. -/
lemma keeps_connectedClearing {κ : Type} {connect : Work C κ}
    (hconnect : Action.Idle touching p connect) (h : Mirrors a (t.wrap w)) {unnamed : Prop}
    [Decidable unnamed] {removal : κ → Work C Bool}
    (hremoval : ∀ k, Action.Keeps touching (removal k) t p fun _ t' _ => Mirrors a (t'.wrap w)) :
    Action.Keeps touching (do
      if !(← isManaged) || unnamed then return false
      else
        let k ← connect
        removal k) t p fun _ t' _ => Mirrors a (t'.wrap w) := by
  rw [Action.keeps_bind, keeps_isManaged]
  dsimp only
  split
  · exact h
  · rw [Action.keeps_bind]
    refine hconnect.keeps ?_
    rintro (e | k)
    · exact h
    · exact hremoval k

end

end Depot.Storage
