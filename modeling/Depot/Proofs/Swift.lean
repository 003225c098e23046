import Depot.Swift.Storage
import Depot.Proofs.Sessions

set_option autoImplicit false

/-!
# Containers of Swift in the ledger

As for S3, but a container is not set up, and what was learnt when logging in is written into the
session together with the name.

## Main results

* `Swift.faithful` — the programs for the steps of a container's lifecycle do what the lifecycle
  expects.
* `Swift.keeps_create`, `Swift.keeps_remove` — creating and removing a container keeps a session
  sound.
-/

namespace Depot.Swift

variable {l : Ledger} {G : Type} {K : Contract World G} {g : G} [K.Calm g]

/-! ## Connecting -/

variable (s : Storage.Settings)

/-- Finding the credentials changes nothing. -/
lemma idle_credentials : Action.Idle K g (credentials s) :=
  (Credentials.idle_swift _).bind fun _ => Action.idle_get.bind fun _ => Action.idle_pure _

/-- Logging in to Swift changes nothing. -/
lemma idle_connect : Action.Idle K g (connect s) := by
  refine (idle_credentials s).bind fun c => ?_
  have hconnect : Action.Idle (σ := Storage.Session Config) K g
      (Action.attempt (World.swift (.connect c))) :=
    Action.idle_attempt (keeps_quiet ⟨fun _ h => h, fun _ => rfl⟩)
  exact hconnect.bind fun _ => Action.idle_pure _

/-! ## The lifecycle -/

section

variable {H : Type} {L : Contract World H} {h : H} {container : String}

/-- Emptying a container changes nothing if the calls for it do not.

**Proof sketch.** A page takes a listing and, unless it is empty, the deletions of what it lists;
whatever they give, the loop goes on or ends. -/
lemma idle_empty (hlist : ∀ marker, L.IdleCall h (.swift (.listObjects container marker)))
    (hdelete : ∀ name, L.IdleCall h (.swift (.deleteObject container name))) :
    Action.Idle L h (empty container) := by
  have hpage (marker : Option String) : Action.Idle (σ := Unit) L h
      (Action.attempt (World.swift (.listObjects container marker))) :=
    Action.idle_attempt (Prog.keeps_perform.2 (hlist marker))
  have hobjects (names : List String) : Action.Idle L h (deleteObjects container names) :=
    Storage.idle_deleteEach (fun name => Prog.keeps_perform.2 (hdelete name)) names
  refine (Action.idle_loop (fun t => ?_) _).bind fun failures => Action.idle_ofExcept _
  refine (hpage t.2).bind fun page => ?_
  split
  · exact Action.idle_pure _
  · refine (hobjects page.names).bind fun failures => ?_
    dsimp only
    split
    · exact Action.idle_pure _
    · exact Action.idle_pure _

end

/-- The programs for the steps of a container's lifecycle do what the lifecycle expects.

**Proof sketch.** As for S3, but no setting is supported, so that a container is only created,
emptied and deleted. -/
theorem faithful (infraName : String) :
    Ledger.Faithful (operations infraName) (Ledger.effects .swift) where
  probe l name _ := Action.idle_attempt (keeps_quiet ⟨fun _ h => h, fun _ => rfl⟩)
  create l name := by
    refine Action.keeps_attempt.2 (Prog.keeps_perform.2 ⟨fun _ h => h.elim, ?_⟩)
    rintro r _ rfl
    exact Ledger.record_ofCreation .swift name r
  harden l name step h := Action.idle_throw _
  empty l name h := idle_empty
    (fun _ => Contract.Calm.idle _ ⟨fun _ h => h, fun _ => rfl⟩)
    fun _ => World.Call.IsWorkOn.idle ⟨fun _ h => h, fun _ => rfl⟩ h
  delete l name h := by
    refine Action.keeps_attempt.2 (Prog.keeps_perform.2 ⟨?_, ?_⟩)
    · rintro x rfl
      exact h
    · rintro r _ rfl
      exact Ledger.record_ofDeletion .swift name r
  generate l := Naming.keeps_generate fun _ _ => Naming.storageName_ne_empty
  enables _ := ⟨trivial, trivial, fun _ => trivial⟩
  failed _ := rfl
  created _ _ := rfl
  deleted _ _ := rfl

/-! ## Operations -/

open Storage

variable {t : Session Config}

/-- Looking for the container changes nothing but observations. -/
lemma keeps_isPresent {H : Type} {E : Lifecycle.Effects H} {R : H → G → Prop} {h : H}
    (hops : Realizes K E R (operations "")) (hr : R h g) (hl : E.looks h) :
    Action.Keeps K (isPresent s) t g fun _ t' g' => Observes t t' ∧ R h g' := by
  rw [isPresent, Action.keeps_bind, Action.keeps_get]
  exact keeps_connectedLook (idle_connect s) (fun _ => hops) hr hl _

/-- **Creating storage in Swift** keeps a session sound.

**Proof sketch.** As for S3. The address that was learnt when logging in is written down with the
name and does not change what the session names; there is nothing to set up. -/
theorem keeps_create (hl : l.reclaiming = false) (h : Sound (t.wrap .swift) l) :
    Action.Keeps Ledger.contract (create s) t l fun _ t' l' =>
      Advances (t.wrap .swift) l (t'.wrap .swift) l' := by
  rw [create, Action.keeps_bind]
  refine idle_getInfrastructure.keeps ?_
  rintro (e | infra)
  · exact h.advances (Agrees.refl _)
  dsimp only
  rw [Action.keeps_bind]
  refine (idle_connect s).keeps ?_
  rintro (e | r)
  · exact h.advances (Agrees.refl _)
  dsimp only
  rw [Action.keeps_bind, Action.keeps_get]
  dsimp only
  rw [Action.keeps_bind]
  refine keeps_ensured (.of_faithful (faithful _)) ⟨rfl, hl⟩ ((faithful infra.name).enables l) ?_
  rintro outcome u l' _ hu hnamed ⟨rfl, hl'⟩
  refine keeps_written h hu ?_ fun t' ht' hname => ?_
  · have hspec : { t.registry.spec with
        swift := some { t.config with
          container := u.name, authUrl := firstOf t.config.authUrl r.authUrl } } =
        toSpec (.swift { t.config with
          container := u.name, authUrl := firstOf t.config.authUrl r.authUrl }) := by
      rw [show t.registry.spec = toSpec (.swift t.config) from h.selected]
      rfl
    exact ⟨rfl, ⟨hspec, rfl, rfl, rfl, rfl, rfl⟩, rfl⟩
  · rw [Action.keeps_bind, Action.keeps_ofExcept]
    rcases outcome with e | _
    · exact ht'
    · dsimp only
      rw [Action.keeps_bind, Action.keeps_get]
      refine (keeps_modifyApplied _).mono ?_
      rintro _ t'' l'' ⟨ha, rfl⟩
      exact ht'.agrees (ha.wrap _)

/-- **Removing storage in Swift** keeps a session sound, and removes the container if it was the
operator's. -/
theorem keeps_remove (hl : l.reclaiming = false) (h : Sound (t.wrap .swift) l) :
    Action.Keeps Ledger.contract (remove s) t l fun r t' l' =>
      Advances (t.wrap .swift) l (t'.wrap .swift) l' ∧ Clears (t.wrap .swift) r l' := by
  rw [remove, Action.keeps_bind, Action.keeps_get]
  refine keeps_connectedRemoval (idle_connect s) h fun r => ?_
  refine keeps_removal (w := .swift) hl h (faithful "") fun status l' => ?_
  have hspec : { t.registry.spec with swift := some { t.config with container := "" } } =
      toSpec (.swift { t.config with container := "" }) := by
    rw [show t.registry.spec = toSpec (.swift t.config) from h.selected]
    rfl
  exact ⟨rfl, ⟨hspec, rfl, rfl⟩, rfl⟩

end Depot.Swift
