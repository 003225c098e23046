import Depot.Proofs.Resuming

set_option autoImplicit false

/-!
# A claim that is there already

If no claim is named, the default claim is meant, and it may be there already, with or without the
annotation of the operator. A creation then takes it as it is. Whose it is from there on is decided
once: the annotation counts only if nobody was known to own the storage, and what was found in any
other way is somebody else's. All later operations keep to that, so a claim of somebody else is
never deleted, and one of the operator is deleted by the first removal.

## Main definitions

* `Filesystem.custody` — the contract of a cluster in which nobody else touches a claim.
* `Filesystem.holder`, `Filesystem.reclaimed` — whose a claim is that was found.
* `Filesystem.Uses` — a session that uses a claim.

## Main results

* `Filesystem.ends_create_unnamed` — a creation takes the default claim.
* `Filesystem.Uses.ends_work`, `Filesystem.Uses.ends_series` — later operations keep its owner.
* `Filesystem.Uses.ends_remove` — a removal deletes a claim of the operator.
* `Filesystem.default_claim_taken` — what becomes of a default claim that is there.
-/

namespace Depot.Filesystem

open Storage

/-! ## The cluster -/

/-- The contract of a cluster in which nothing fails and nobody else touches the claim of a name:
whoever looks for it finds what is there, and deleting it takes it away. Nothing may be created, and
no asset but that claim be touched, which only under a condition. All other calls may get any
answer. -/
def custody (name : String) (removable : Prop) : Contract World (Option Cluster.Claim) where
  permits _ c := ¬ c.IsCreation ∧ ∀ x, c.Touches x → x = .of .filesystem name ∧ removable
  step
    | g, .cluster (.getClaim ns other), x, g' =>
      g' = g ∧ (⟨.filesystem, ns, other⟩ = Asset.of .filesystem name → x = .ok g)
    | g, .cluster (.deleteClaim ns other), x, g' =>
      (⟨.filesystem, ns, other⟩ = Asset.of .filesystem name → x = .ok g.isSome ∧ g' = none) ∧
        (⟨.filesystem, ns, other⟩ ≠ Asset.of .filesystem name → g' = g)
    | g, _, _, g' => g' = g

variable {name : String} {removable : Prop} {g : Option Cluster.Claim} {claim : Cluster.Claim}

/-- Clock and measurements leave the claim alone. -/
lemma quiet_custody : Lifecycle.Quiet (custody name removable) where
  time _ := ⟨⟨id, fun _ h => h.elim⟩, fun _ _ h => h⟩
  measured _ _ _ _ := ⟨⟨id, fun _ h => h.elim⟩, fun _ _ h => h⟩

/-- Whoever looks for the claim finds what is there. -/
lemma gives_claim? {σ : Type} {t : σ} :
    Action.Gives (custody name removable) (claim? name) t g g := by
  refine Action.gives_attempt ⟨⟨id, fun _ h => h.elim⟩, ?_⟩
  rintro x _ ⟨rfl, hx⟩
  exact ⟨hx rfl, rfl⟩

/-- A claim that is there is present. -/
lemma ends_probe {Q : Except Error Presence → Option Cluster.Claim → Prop}
    (h : Q (.ok .present) (some claim)) :
    (operations.answer (.probe name)).Ends (custody name removable) (some claim) Q :=
  Action.ends_result.2 (gives_claim?.ends_bind h)

/-- A claim that is there is deleted. -/
lemma ends_delete :
    (operations.delete name).result.Ends (custody name True) (some claim) fun r g =>
      Lifecycle.isGone r ∧ g = none := by
  refine Action.ends_result.2 (Action.ends_bind.2 (Action.ends_attempt.2 ⟨⟨id, ?_⟩, ?_⟩))
  · rintro _ rfl
    exact ⟨rfl, trivial⟩
  · rintro x g ⟨hx, -⟩
    obtain ⟨rfl, rfl⟩ := hx rfl
    exact ⟨rfl, rfl⟩

/-- There is an answer to every call. -/
lemma exists_answer (g : Option Cluster.Claim) (c : World.Call) :
    ∃ x g', (custody name removable).step g c x g' := by
  cases c with
  | cluster c =>
    cases c with
    | getClaim ns other => exact ⟨.ok g, g, rfl, fun _ => rfl⟩
    | deleteClaim ns other =>
      by_cases hname : ⟨.filesystem, ns, other⟩ = Asset.of .filesystem name
      · exact ⟨.ok g.isSome, none, fun _ => ⟨rfl, rfl⟩, fun h => absurd hname h⟩
      · exact ⟨default, g, fun h => absurd h hname, fun _ => rfl⟩
    | _ => exact ⟨default, g, rfl⟩
  | _ => exact ⟨default, g, rfl⟩

/-- What ends well has a run that does. -/
lemma exists_run {σ α : Type} {w : Action World σ α} {t : σ}
    {Q : Except Error α → σ → Option Cluster.Claim → Prop}
    (h : Action.Ends (custody name removable) w t g Q) :
    ∃ es x g', (w.start t).Runs es x ∧ (custody name removable).Path g es g' ∧ Q x.1 x.2 g' := by
  have hanswer (g : Option Cluster.Claim) (c : World.Call) :
      ∃ x g', (custody name removable).step g c x g' ∧ True := by
    obtain ⟨x, g', hx⟩ := exists_answer g c
    exact ⟨x, g', hx, trivial⟩
  obtain ⟨es, x, g', hrun, hpath, hx, -⟩ :=
    Prog.Ends.may (P := fun _ => True) (fun g c _ _ => hanswer g c) h trivial
  exact ⟨es, x, g', hrun, hpath, hx⟩

/-! ## Operations of the lifecycle -/

/-- Whose a claim is that was found: the operator's only if it was known to be before. -/
def holder (o : Option Ownership) : Ownership :=
  if o = some .managed then .managed else .unmanaged

/-- A claim is held by the operator or by someone else. -/
lemma holder_known (o : Option Ownership) : holder o = .managed ∨ holder o = .unmanaged := by
  rw [holder]
  split
  · exact .inl rfl
  · exact .inr rfl

/-- Whose a claim is does not change when it is found again. -/
lemma holder_eq {o : Ownership} (ho : o = .managed ∨ o = .unmanaged) : holder (some o) = o := by
  obtain rfl | rfl := ho <;> rfl

variable {wait : Lifecycle.WaitPolicy} {status : Status}

/-- A claim that is there is found and not created.

**Proof sketch.** The look finds the claim, and the owner is kept if it is the operator; otherwise
the claim is someone else's. -/
lemma ends_ensure (hn : name ≠ "") :
    Action.Ends (custody name removable)
      (Action.interpret operations.answer (Lifecycle.ensure claimKind wait))
      ⟨name, status⟩ (some claim) fun r u g => r = .ok () ∧ u.name = name ∧
        u.status.ownership = some (holder status.ownership) ∧
        u.status.applied = status.applied ∧ g = some claim := by
  refine Lifecycle.ends_get_bind.2 ?_
  dsimp only
  rw [if_neg hn]
  refine Lifecycle.ends_outcome_bind.2 (Lifecycle.ends_ask_bind.2 (ends_probe ?_))
  refine Lifecycle.ends_get_bind.2 ?_
  dsimp only
  split
  · rename_i hm
    have hm : status.ownership = some .managed := by simpa [Status.isManaged] using hm
    refine quiet_custody.ends_record fun now => quiet_custody.ends_measured_bind ?_
    exact ⟨rfl, rfl, by rw [holder, if_pos hm]; exact hm, rfl, rfl⟩
  · rename_i hm
    have hm : status.ownership ≠ some .managed := by simpa [Status.isManaged] using hm
    refine Lifecycle.ends_setOwnership_bind.2 (quiet_custody.ends_record fun now => ?_)
    exact quiet_custody.ends_measured_bind ⟨rfl, rfl, by rw [holder, if_neg hm]; rfl, rfl, rfl⟩

/-- A look for the claim finds it. -/
lemma ends_checkExists (hn : name ≠ "") :
    Action.Ends (custody name removable)
      (Action.interpret operations.answer (Lifecycle.checkExists claimKind))
      ⟨name, status⟩ (some claim) fun r u g => r = .ok true ∧
        u.status.ownership = status.ownership ∧ u.status.applied = status.applied ∧
        g = some claim := by
  refine Lifecycle.ends_get_bind.2 ?_
  dsimp only
  rw [if_neg hn]
  refine Lifecycle.ends_ask_bind.2 (ends_probe (Lifecycle.ends_bind.2 ?_))
  exact quiet_custody.ends_record fun now => ⟨rfl, rfl, rfl, rfl⟩

/-- A claim of the operator is removed. -/
lemma ends_removeClaim (hn : name ≠ "") (hm : status.ownership = some .managed) :
    Action.Ends (custody name True)
      (Action.interpret operations.answer (Lifecycle.remove claimKind))
      ⟨name, status⟩ (some claim) fun r u g => r = .ok true ∧
        u.status.ownership = some .removed ∧ g = none := by
  have hempty : (operations.empty name).result.Ends (custody name True) (some claim)
      fun r g => Lifecycle.isGone r ∧
        (operations.delete name).result.Ends (custody name True) g fun r g =>
          Lifecycle.isGone r ∧ g = none := ⟨rfl, ends_delete⟩
  refine (Lifecycle.ends_remove quiet_custody hm hn hempty).mono ?_
  rintro _ _ _ ⟨rfl, ⟨now, rfl⟩, rfl⟩
  exact ⟨rfl, rfl, rfl⟩

/-! ## Creation -/

/-- A session that uses the claim of a name, with a known owner. -/
structure Uses (name : String) (o : Ownership) (a : Session Storage) : Prop where
  /-- There is a name. -/
  named : name ≠ ""
  /-- The session uses the claim of that name. -/
  config : a.config = .filesystem { claim := some name }
  /-- The registry asks for it. -/
  selected : a.registry.spec = a.config.toSpec
  /-- The configuration was applied. -/
  applied : Applied a
  /-- The owner is in the status. -/
  ownership : a.ownership = some o
  /-- It is the operator or somebody else. -/
  known : o = .managed ∨ o = .unmanaged

variable {s : Settings} {t : Session Config} {a : Session Storage} {o : Ownership}
  {p : Option Ownership}

/-- A claim that is there is taken as it is. -/
lemma ends_take (hn : name ≠ "") (hspec : t.registry.spec = toSpec (.filesystem t.config)) :
    Action.Ends (custody name removable) (do
      let x ← onResource operations name (Lifecycle.ensure claimKind wait)
      persist x.2
      Action.ofExcept x.1
      apply) t (some claim) fun r t' g =>
        r = .ok () ∧ Uses name (holder t.ownership) (t'.wrap .filesystem) ∧ g = some claim := by
  obtain ⟨c, spec, status⟩ := t
  obtain rfl : spec = toSpec (.filesystem c) := hspec
  refine Action.ends_bind.2 (Prog.ends_bind.2 (Prog.Ends.mono (ends_ensure hn) ?_))
  rintro ⟨_, _, status'⟩ _ ⟨rfl, rfl, howner, -, rfl⟩
  exact ⟨rfl, ⟨hn, rfl, rfl, rfl, howner, holder_known _⟩, rfl⟩

/-- The owner of a default claim that is there: the operator if nobody was known to own the storage
and the claim carries its annotation, and else whoever owned the storage. -/
def reclaimed (p : Option Ownership) (claim : Cluster.Claim) : Option Ownership :=
  if p = none ∧ isOwned claim then some .managed else p

/-- The annotation of the default claim counts only if nobody was known to own the storage.

**Proof sketch.** The claim is looked up only where nobody is known to own the storage, and then its
annotation decides. -/
lemma ends_reclaim_there :
    Action.Ends (custody defaultClaim removable) reclaim t (some claim) fun r t' g =>
      r = .ok () ∧ t' = { t with registry.status.ownership := reclaimed t.ownership claim } ∧
        g = some claim := by
  refine Action.gives_get.ends_bind ?_
  dsimp only
  split
  · rename_i hnone
    have hnone : t.ownership = none := by simpa using hnone
    refine gives_claim?.ends_bind ?_
    dsimp only
    split
    · rename_i howned
      exact ⟨rfl, by rw [reclaimed, if_pos ⟨hnone, howned⟩], rfl⟩
    · rename_i howned
      exact ⟨rfl, by rw [reclaimed, if_neg fun h => howned h.2], rfl⟩
  · rename_i hsome
    have hsome : t.ownership ≠ none := by simpa using hsome
    exact ⟨rfl, by rw [reclaimed, if_neg fun h => hsome h.1], rfl⟩

/-- **A creation takes a default claim that is there**, without creating one.

**Proof sketch.** The default claim is recognised (`ends_reclaim_there`), and taken as any claim
that is there (`ends_take`). -/
theorem ends_create_unnamed {c : Config} {registry : Registry} (hclaim : c.claim = some "")
    (hspec : registry.spec = toSpec (.filesystem c)) :
    Action.Ends (custody defaultClaim removable) (Storage.create s) ⟨.filesystem c, registry⟩
      (some claim) fun r b g => r = .ok () ∧
        Uses defaultClaim (holder (reclaimed registry.status.ownership claim)) b ∧
        g = some claim := by
  have hn : defaultClaim ≠ "" := by decide
  refine Action.gives_get.ends_bind (ends_within.2 (Action.gives_get.ends_bind ?_))
  dsimp only
  rw [hclaim]
  dsimp only
  rw [if_pos rfl, if_pos rfl, Action.ends_bind]
  refine ends_reclaim_there.mono ?_
  -- Which name the default claim has does not matter from here on.
  generalize defaultClaim = name at hn ⊢
  rintro _ _ _ ⟨rfl, rfl, rfl⟩
  exact ends_take hn hspec

/-! ## Later operations -/

/-- A creation takes the claim again. -/
lemma Uses.ends_create (h : Uses name o a) :
    Action.Ends (custody name removable) (Storage.create s) a (some claim) fun r b g =>
      r = .ok () ∧ Uses name o b ∧ g = some claim := by
  obtain ⟨_, registry⟩ := a
  obtain ⟨hn, rfl, hspec, -, howner, ho⟩ := h
  refine Action.gives_get.ends_bind (ends_within.2 (Action.gives_get.ends_bind ?_))
  dsimp only
  rw [if_neg hn, if_neg hn]
  obtain rfl : holder registry.status.ownership = o :=
    (congrArg holder howner).trans (holder_eq ho)
  exact ends_take hn hspec

/-- A look for the storage finds the claim. -/
lemma Uses.ends_isPresent (h : Uses name o a) :
    Action.Ends (custody name removable) (Storage.isPresent s) a (some claim) fun r b g =>
      r = .ok true ∧ Uses name o b ∧ g = some claim := by
  obtain ⟨_, registry⟩ := a
  obtain ⟨hn, rfl, hspec, happlied, howner, hknown⟩ := h
  refine Action.gives_get.ends_bind (ends_within.2 (Action.gives_get.ends_bind ?_))
  dsimp only
  refine ends_inSession ((ends_checkExists hn).mono ?_)
  rintro _ ⟨_, status⟩ _ ⟨rfl, ho, ha, rfl⟩
  refine ⟨rfl, ⟨hn, rfl, hspec, ?_, ho.trans howner, hknown⟩, rfl⟩
  exact (congrArg (block? · .filesystem) ha).trans happlied

/-- **Every operation keeps the owner of the claim**, but for a removal of a claim of the operator:
it succeeds and changes nothing in the cluster.

**Proof sketch.** One case per task. A removal of what the operator does not own is no call, and
what was applied is what the session has, so no change is found. -/
theorem Uses.ends_work (h : Uses name o a) (k : Task) (hk : k = .remove → o ≠ .managed) :
    Action.Ends (custody name False) (k.work s) a (some claim) fun r b g =>
      r = .ok k.success ∧ Uses name o b ∧ g = some claim := by
  cases k with
  | create => exact h.ends_create
  | remove =>
    have howner : a.ownership ≠ some .managed := fun hm =>
      hk rfl (Option.some.inj (h.ownership.symm.trans hm))
    rw [Action.Ends, Task.work, start_remove (.inl howner)]
    exact ⟨rfl, h, rfl⟩
  | isPresent => exact h.ends_isPresent
  | isChanged =>
    rw [Action.Ends, Task.work, start_isChanged h.selected h.applied]
    exact ⟨rfl, h, rfl⟩

/-- So does every series of operations.

**Proof sketch.** By induction on the tasks; each keeps what the next one needs. -/
theorem Uses.ends_series (h : Uses name o a) {ks : List Task}
    (hks : .remove ∈ ks → o ≠ .managed) :
    (series s ks a).Ends (custody name False) (some claim) fun x g =>
      x.1 = ks.map (fun k => ⟨k, .ok k.success⟩) ∧ Uses name o x.2 ∧ g = some claim := by
  induction ks generalizing a with
  | nil => exact ⟨rfl, h, rfl⟩
  | cons k ks ih =>
    have hk : k = .remove → o ≠ .managed := fun hk => hks (hk ▸ List.mem_cons_self)
    refine Prog.ends_bind.2 (Prog.Ends.mono (h.ends_work k hk) ?_)
    rintro ⟨_, b⟩ _ ⟨rfl, hb, rfl⟩
    refine Prog.ends_bind.2 ((ih hb fun hmem => hks (List.mem_cons_of_mem _ hmem)).mono ?_)
    rintro ⟨_, c⟩ _ ⟨rfl, hc, rfl⟩
    exact ⟨rfl, hc, rfl⟩

/-- **A removal deletes a claim of the operator.**

**Proof sketch.** The operator owns the claim, so the guard is passed and the claim deleted; what is
written afterwards is the session's own. -/
theorem Uses.ends_remove (h : Uses name .managed a) :
    Action.Ends (custody name True) (Storage.remove s) a (some claim) fun r b g =>
      r = .ok false ∧ b.ownership = some .removed ∧ g = none := by
  obtain ⟨_, registry⟩ := a
  obtain ⟨hn, rfl, -, -, howner, -⟩ := h
  refine Action.gives_get.ends_bind (ends_within.2 (Action.gives_get.ends_bind ?_))
  refine Action.Gives.ends_bind (x := registry.status.isManaged) ⟨rfl, rfl, rfl⟩ ?_
  have howned : (!registry.status.isManaged || decide (name = "")) = false :=
    Status.owned_iff.2 ⟨howner, hn⟩
  dsimp only [Option.getD_some]
  rw [if_neg (Bool.eq_false_iff.1 howned), Action.ends_bind]
  refine ends_inSession ((ends_removeClaim hn howner).mono ?_)
  rintro _ ⟨_, status⟩ _ ⟨rfl, ho, rfl⟩
  exact ⟨rfl, ho, rfl⟩

/-! ## Main results -/

/-- Whose a default claim is that was there. -/
lemma holder_reclaimed (hp : p ≠ some .managed) :
    holder (reclaimed p claim) = .managed ↔ p = none ∧ isOwned claim := by
  by_cases h : p = none ∧ isOwned claim
  · rw [reclaimed, if_pos h]
    exact iff_of_true rfl h
  · rw [reclaimed, if_neg h, holder, if_neg hp]
    exact iff_of_false nofun h

/-- **A default claim that is there is taken as it is, and it is decided then whose it is.** Take a
registry whose configuration has one block, a volume without the name of a claim, and whose status
does not say that the operator owns the storage; and a cluster in which the default claim is there,
nobody else touches it and nothing fails. A creation comes to an end and succeeds, and creates
nothing. It makes the claim one of the operator if the status said nothing of an owner and the claim
carries the operator's annotation, and one of somebody else in all other cases.

In the first case the claim stays and stays the operator's as long as no removal is asked for, and
then the removal deletes it. In the other cases all operations succeed in any number and order,
removals among them, and none of them touches the claim.

**Proof sketch.** The annotation is looked at only while nobody is known to own the storage
(`ends_reclaim_there`), and a resource that is found is somebody else's unless it was the operator's
before (`ends_ensure`). What the creation leaves is a session that uses the default claim
(`Uses`), which every operation but a removal of the operator's claim preserves (`Uses.ends_work`),
and so does every series of them (`Uses.ends_series`). -/
theorem default_claim_taken {registry : Registry}
    (hspec : ofSpec registry.spec = .ok (.filesystem { claim := some "" }))
    (hstatus : registry.status.ownership ≠ some .managed) :
    Action.Ends (custody defaultClaim False) (Storage.create s)
      ⟨.filesystem { claim := some "" }, registry⟩ (some claim) fun r b g =>
        r = .ok () ∧ g = some claim ∧
        (b.ownership = some .managed ↔ registry.status.ownership = none ∧ isOwned claim) ∧
        (b.ownership = some .managed ∨ b.ownership = some .unmanaged) ∧
        (b.ownership = some .managed → ∀ ks, Task.remove ∉ ks →
          (series s ks b).Ends (custody defaultClaim False) g fun x g =>
            x.1 = ks.map (fun k => ⟨k, .ok k.success⟩) ∧ g = some claim ∧
            Action.Ends (custody defaultClaim True) (Storage.remove s) x.2 g fun r c g =>
              r = .ok false ∧ c.ownership = some .removed ∧ g = none) ∧
        (b.ownership = some .unmanaged → ∀ ks,
          (series s ks b).Ends (custody defaultClaim False) g fun x g =>
            x.1 = ks.map (fun k => ⟨k, .ok k.success⟩) ∧ g = some claim ∧
            x.2.ownership = some .unmanaged) := by
  refine (ends_create_unnamed rfl ((ofSpec_eq_ok ..).1 hspec)).mono ?_
  rintro _ b _ ⟨rfl, hb, rfl⟩
  have hmanaged : holder (reclaimed registry.status.ownership claim) = .managed ↔
      registry.status.ownership = none ∧ isOwned claim := holder_reclaimed hstatus
  generalize holder (reclaimed registry.status.ownership claim) = o at hb hmanaged
  refine ⟨rfl, rfl, ?_, ?_, fun hm ks hks => ?_, fun hu ks => ?_⟩
  · rw [hb.ownership, ← hmanaged, Option.some_inj]
  · rw [hb.ownership, Option.some_inj, Option.some_inj]
    exact hb.known
  · obtain rfl : o = .managed := Option.some.inj (hb.ownership.symm.trans hm)
    refine (hb.ends_series fun hmem => absurd hmem hks).mono ?_
    rintro x _ ⟨hx, hc, rfl⟩
    exact ⟨hx, rfl, hc.ends_remove⟩
  · obtain rfl : o = .unmanaged := Option.some.inj (hb.ownership.symm.trans hu)
    refine (hb.ends_series fun _ => nofun).mono ?_
    rintro x _ ⟨hx, hc, rfl⟩
    exact ⟨hx, rfl, hc.ownership⟩

/-- A claim that the operator created for another registry is taken back, and removed later. -/
theorem default_claim_taken_back :
    ∃ es b g, ((Storage.create {}).start (claiming "")).Runs es (.ok (), b) ∧
      (custody defaultClaim False).Path (some (newClaim defaultClaim)) es g ∧
      b.ownership = some .managed ∧
      Action.Ends (custody defaultClaim True) (Storage.remove {}) b g fun r c g =>
        r = .ok false ∧ c.ownership = some .removed ∧ g = none := by
  have h := @default_claim_taken (newClaim defaultClaim) {} (claiming "").registry rfl (by decide)
  obtain ⟨es, ⟨r, b⟩, g, hrun, hpath, rfl, rfl, hm, -, hremove, -⟩ := exists_run h
  have hm : b.ownership = some .managed := hm.2 ⟨rfl, by decide⟩
  exact ⟨es, b, _, hrun, hpath, hm, (hremove hm [] List.not_mem_nil).2.2⟩

/-- A registry that asks for a claim without a name, after its claim was removed. -/
def vacated : Registry where
  spec := { filesystem := some { claim := some "" } }
  status := { ownership := some .removed }

/-- A claim that the operator created and removed before, but that is still there, is not taken
back, although it carries the annotation. -/
theorem default_claim_left :
    ¬ ∀ (registry : Registry) (claim : Cluster.Claim),
      ofSpec registry.spec = .ok (.filesystem { claim := some "" }) →
      registry.status.ownership ≠ some .managed →
      Action.Ends (custody defaultClaim False) (Storage.create {})
        ⟨.filesystem { claim := some "" }, registry⟩ (some claim) fun r b _ =>
          r = .ok () ∧ (b.ownership = some .managed ↔ isOwned claim) := by
  intro h
  have hclaimed := h vacated (newClaim defaultClaim) rfl (by decide)
  have htaken : Action.Ends (custody defaultClaim False) (Storage.create {})
      ⟨.filesystem { claim := some "" }, vacated⟩ (some (newClaim defaultClaim)) fun r b g =>
        r = .ok () ∧ Uses defaultClaim .unmanaged b ∧ g = some (newClaim defaultClaim) :=
    ends_create_unnamed rfl rfl
  obtain ⟨es, ⟨r, b⟩, g, hrun, hpath, hb⟩ := exists_run htaken
  have hm : b.ownership = some .managed :=
    (Prog.Keeps.of_runs hclaimed.keeps hrun hpath).2.2 (by decide)
  have hu : b.ownership = some .unmanaged := hb.2.1.ownership
  rw [hu] at hm
  cases hm

end Depot.Filesystem
