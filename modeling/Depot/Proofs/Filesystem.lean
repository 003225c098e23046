import Depot.Filesystem.Storage
import Depot.Proofs.Sessions

set_option autoImplicit false

/-!
# Claims in the ledger

A claim without a name is the default claim. It may exist from an earlier life of the operator, and
is recognised by its annotation at the first look, as long as nobody is known to own the storage.

## Main results

* `Filesystem.faithful` — the programs for the steps of a claim's lifecycle do what the lifecycle
  expects.
* `Filesystem.keeps_reclaim` — recognising the default claim keeps a session sound.
* `Filesystem.keeps_create`, `Filesystem.keeps_remove` — creating and removing a claim keeps a
  session sound.
-/

namespace Depot.Filesystem

variable (s : Storage.Settings) {l : Ledger}

/-! ## The lifecycle -/

/-- Looking for a claim changes nothing once no claim can be recognised any more.

**Proof sketch.** The answer may be about the default claim, and then it is noted whether that was
recognised; but nothing is recognised any more, so that the note leaves the ledger as it is. -/
lemma idle_claim? {σ : Type} (name : String) (hl : l.reclaiming = false) :
    Action.Idle (σ := σ) Ledger.contract l (claim? name) := by
  refine Action.idle_attempt (Prog.keeps_perform.2 ⟨fun _ h => h.elim, ?_⟩)
  rintro r _ rfl
  have hsaw (owned : Bool) : l.record (.saw owned) = l := by
    obtain ⟨held, made, gone, containers, claimed, reclaiming⟩ := l
    obtain rfl : reclaiming = false := hl
    simp [Ledger.record]
  change l.record (if _ then _ else _) = l
  split
  · split
    · exact hsaw _
    · exact hsaw _
  · rfl

/-- Creating a claim is written down. -/
lemma keeps_createClaim (name : String) :
    Action.Keeps Ledger.contract (createClaim name) () l fun r _ l' =>
      l' = (Ledger.effects .filesystem).next l (.create name) r := by
  rw [createClaim, Action.keeps_bind, Action.keeps_perform]
  refine Prog.keeps_perform.2 ⟨fun _ h => h.elim, ?_⟩
  rintro (e | _) _ rfl
  · dsimp only
    split
    · rfl
    · rfl
  · rfl

/-- Deleting a claim is written down, also when there is none. -/
lemma keeps_deleteClaim (name : String) (h : l.Owns (.of .filesystem name)) :
    Action.Keeps Ledger.contract (deleteClaim name) () l fun r _ l' =>
      l' = (Ledger.effects .filesystem).next l (.delete name) r := by
  rw [deleteClaim, Action.keeps_bind, Action.keeps_attempt]
  refine Prog.keeps_perform.2 ⟨?_, ?_⟩
  · rintro x rfl
    exact h
  · rintro (e | _ | _) _ rfl
    · exact Ledger.record_ofDeletion .filesystem name (.error e)
    · rfl
    · rfl

/-- The programs for the steps of a claim's lifecycle do what the lifecycle expects. -/
theorem faithful : Ledger.Faithful operations (Ledger.effects .filesystem) where
  probe l name hl := (idle_claim? name hl).bind fun claim => Action.idle_pure _
  create l name := keeps_createClaim name
  harden l name step h := Action.idle_throw _
  empty l name h := Action.idle_pure _
  delete l name h := keeps_deleteClaim name h
  generate l := ⟨(by decide : defaultClaim ≠ ""), rfl⟩
  enables _ := ⟨trivial, trivial, fun _ => trivial⟩
  failed _ := rfl
  created _ _ := rfl
  deleted _ _ := rfl

/-! ## Operations -/

open Storage

variable {t : Session Config}

/-- Looking for the volume changes nothing but observations. -/
lemma keeps_isPresent {G H : Type} {K : Contract World G} {g : G} [K.Calm g]
    {E : Lifecycle.Effects H} {R : H → G → Prop} {h : H} (hops : Realizes K E R operations)
    (hr : R h g) (hl : E.looks h) :
    Action.Keeps K isPresent t g fun _ t' g' => Observes t t' ∧ R h g' := by
  rw [isPresent, Action.keeps_bind, Action.keeps_get]
  dsimp only
  split
  · rw [Action.keeps_bind]
    refine (keeps_observe _ _ _ _).mono ?_
    rintro (e | _) t' _ ⟨ha, rfl⟩
    · exact ⟨ha, hr⟩
    · exact ⟨ha, hr⟩
  · exact keeps_resourceExists hops hr hl _

/-- Recording what was applied changes nothing else. -/
lemma keeps_apply :
    Action.Keeps Ledger.contract apply t l fun _ t' l' => Agrees t t' ∧ l' = l :=
  ⟨⟨rfl, rfl, rfl⟩, rfl⟩

/-- The session as one that names a claim. -/
def Session.naming (t : Session Config) (name : String) : Session Storage :=
  ⟨.filesystem { claim := some name },
    { t.registry with spec := toSpec (.filesystem { claim := some name }) }⟩

/-- A session is sound once it names the default claim, if that was recognised. -/
lemma sound_naming (hheld : l.held = []) (hcontainers : l.containers = [])
    (howned : t.ownership = some .managed → l.claimed) :
    Sound (Session.naming t defaultClaim) l where
  selected := rfl
  held := by
    rw [hheld]
    exact fun _ hx => nomatch hx
  owned hm := .inr ⟨rfl, howned hm⟩
  named _ := (by decide : defaultClaim ≠ "")
  containers := by
    rw [hcontainers]
    exact fun _ hx => nomatch hx

/-- **Recognising the default claim** takes one look at it, and the operator owns the storage
afterwards only if the claim was recognised.

**Proof sketch.** A session with an empty name holds nothing. If nobody is known to own the storage,
the claim is looked at once: a failure changes nothing, and a claim with the operator's annotation
is recognised by the session and the ledger alike. If somebody is, no look is taken, and the name is
all that is given. -/
theorem keeps_reclaim (hl : l.reclaiming = t.ownership.isNone) (h : Sound (t.wrap .filesystem) l)
    (ht : t.config.claim = some "") :
    Action.Keeps Ledger.contract reclaim t l fun r t' l' =>
      l'.reclaiming = false ∧
      match r with
      | .ok () => t'.registry.spec = t.registry.spec ∧ t'.config = t.config ∧
          Sound (Session.naming t' defaultClaim) l'
      | .error _ => t' = t ∧ Sound (t.wrap .filesystem) l' := by
  have hname : (t.wrap .filesystem).config.resource = "" := congrArg (·.getD "") ht
  have hm : t.ownership ≠ some .managed := h.not_managed hname
  have hheld : l.held = [] := h.held_eq_nil hm
  have hcontainers : l.containers = [] := h.containers_eq_nil (.inl hname)
  have hkept (owned : Bool) : Sound (Session.naming t defaultClaim) (l.record (.saw owned)) :=
    sound_naming hheld hcontainers fun hm' => absurd hm' hm
  rw [reclaim, Action.keeps_bind, Action.keeps_get]
  dsimp only
  split
  · rename_i hnone
    rw [Action.keeps_bind, claim?, Action.keeps_attempt]
    refine Prog.keeps_perform.2 ⟨fun _ h => h.elim, ?_⟩
    rintro (e | _ | claim) _ rfl
    · exact ⟨rfl, rfl, h.saw false⟩
    · exact ⟨rfl, rfl, rfl, hkept false⟩
    · dsimp only
      split
      · rename_i howned
        refine ⟨rfl, rfl, rfl, sound_naming hheld hcontainers fun _ => ?_⟩
        change (l.claimed || l.reclaiming && isOwned claim) = true
        rw [hl, hnone, howned, Bool.and_true, Bool.or_true]
      · exact ⟨rfl, rfl, rfl, hkept _⟩
  · rename_i hsome
    have hl : l.reclaiming = false := hl.trans (Bool.eq_false_iff.2 hsome)
    exact ⟨hl, rfl, rfl, sound_naming hheld hcontainers fun hm' => absurd hm' hm⟩

/-- Finding or creating the claim of a name, and writing the name down.

**Proof sketch.** The name is written down in any case, so that the session is the one that is sound
after a creation (`Sound.of_ensured`); what was applied is recorded only if the creation did not
fail. -/
lemma keeps_ensureClaim (hl : l.reclaiming = false) {name : String}
    (h : Sound (Session.naming t name) l) (ht : t.registry.spec = toSpec (.filesystem t.config)) :
    Action.Keeps Ledger.contract (do
      let x ← onResource operations name (Lifecycle.ensure claimKind s.wait)
      persist x.2
      Action.ofExcept x.1
      apply) t l fun _ t' l' =>
        Advances (Session.naming t name) l (t'.wrap .filesystem) l' := by
  rw [Action.keeps_bind]
  refine keeps_ensured (.of_faithful faithful) ⟨rfl, hl⟩ (faithful.enables l) ?_
  rintro outcome u _ l' hu - ⟨rfl, -⟩
  dsimp only
  have hspec : { t.registry.spec with filesystem := some { claim := some u.name } } =
      toSpec (.filesystem { claim := some u.name }) := by
    rw [ht]
    rfl
  have hpersist : Action.Keeps Ledger.contract (persist u.name)
      { t with registry.status := u.status } l' fun r t' l'' => r = .ok () ∧
        Renamed ⟨.filesystem { claim := some name },
          { (Session.naming t name).registry with status := u.status }⟩ u.name
          (t'.wrap .filesystem) ∧ l'' = l' :=
    ⟨rfl, ⟨hspec, rfl, rfl, rfl, rfl, rfl⟩, rfl⟩
  rw [Action.keeps_bind]
  refine hpersist.mono ?_
  rintro r t' _ ⟨rfl, hr, rfl⟩
  have ht' := h.of_ensured hu hr
  dsimp only
  rw [Action.keeps_bind, Action.keeps_ofExcept]
  rcases outcome with e | _
  · exact ht'
  · refine keeps_apply.mono ?_
    rintro _ t'' l'' ⟨ha, rfl⟩
    exact ht'.agrees (ha.wrap _)

/-- **Creating storage in a volume** keeps a session sound.

**Proof sketch.** Without a claim in the configuration there is only an observation. An empty name
is replaced by that of the default claim, after a look at it, and the session advances from one that
is named so; any other name is that of the claim to be found or created. -/
theorem keeps_create
    (hl : l.reclaiming = (t.ownership.isNone && decide (t.config.claim = some "")))
    (h : Sound (t.wrap .filesystem) l) :
    Action.Keeps Ledger.contract (create s) t l fun _ t' l' =>
      Advances (t.wrap .filesystem) l (t'.wrap .filesystem) l' := by
  rw [create, Action.keeps_bind, Action.keeps_get]
  dsimp only
  split
  · rw [Action.keeps_bind]
    refine (keeps_observe _ _ _ _).mono ?_
    rintro (e | _) t' l' ⟨ha, rfl⟩
    · exact h.advances (ha.wrap _)
    · refine keeps_apply.mono ?_
      rintro _ t'' l'' ⟨ha', rfl⟩
      exact (h.advances (ha.wrap _)).agrees (ha'.wrap _)
  · rename_i name hname
    split
    · rename_i hempty
      obtain rfl : name = "" := hempty
      rw [hname, decide_eq_true rfl, Bool.and_true] at hl
      have hreclaim := keeps_reclaim hl h hname
      -- Which name the default claim has does not matter from here on.
      generalize defaultClaim = name at hreclaim ⊢
      rw [Action.keeps_bind]
      refine hreclaim.mono ?_
      rintro (e | _) t' l' ⟨hl', ht'⟩
      · obtain ⟨rfl, ht'⟩ := ht'
        exact ⟨ht', rfl, fun _ _ => rfl⟩
      · obtain ⟨hspec, hconfig, ht'⟩ := ht'
        have hselected : t'.registry.spec = toSpec (.filesystem t'.config) := by
          rw [hspec, hconfig]
          exact h.selected
        refine (keeps_ensureClaim s hl' ht' hselected).mono ?_
        rintro r t'' l'' ha
        exact ⟨ha.sound, ha.backend, fun hn => absurd (congrArg (·.getD "") hname) hn⟩
    · rename_i hne
      obtain ⟨⟨claim⟩, ⟨spec, status⟩⟩ := t
      obtain rfl : claim = some name := hname
      obtain rfl : spec = toSpec (.filesystem { claim := some name }) := h.selected
      have hl : l.reclaiming = false := by
        rw [hl, decide_eq_false (fun he => hne (Option.some.inj he)), Bool.and_false]
      exact keeps_ensureClaim s hl h rfl

/-- **Removing storage in a volume** keeps a session sound, and removes the claim if it was the
operator's.

**Proof sketch.** The removal is that of the lifecycle, without emptying; afterwards the name is
written down as empty, so that the session names no claim. -/
theorem keeps_remove (hl : l.reclaiming = false) (h : Sound (t.wrap .filesystem) l) :
    Action.Keeps Ledger.contract remove t l fun r t' l' =>
      Advances (t.wrap .filesystem) l (t'.wrap .filesystem) l' ∧
        Clears (t.wrap .filesystem) r l' := by
  rw [remove, Action.keeps_bind, Action.keeps_get]
  dsimp only
  rw [Action.keeps_bind, keeps_isManaged]
  dsimp only
  split
  · rename_i hs
    have hs : t.ownership ≠ some .managed ∨ t.config.claim.getD "" = "" := Status.idle_iff.1 hs
    exact ⟨h.advances (Agrees.refl _), clears_idle hs⟩
  · refine keeps_removal (w := .filesystem) hl h faithful fun status l' => ?_
    have hspec : { t.registry.spec with filesystem := some { claim := some "" } } =
        toSpec (.filesystem { claim := some "" }) := by
      rw [show t.registry.spec = toSpec (.filesystem t.config) from h.selected]
      rfl
    exact ⟨rfl, ⟨hspec, rfl, rfl⟩, rfl⟩

end Depot.Filesystem
