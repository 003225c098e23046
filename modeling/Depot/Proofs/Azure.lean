import Depot.Azure.Storage
import Depot.Proofs.Sessions

set_option autoImplicit false

/-!
# Storage accounts of Azure in the ledger

An account comes with a container: both are found or created one after another, each with a
lifecycle of its own, and the owner of the account is restored after the one of the container was
recorded in the same place. The container goes with the account.

## Main results

* `Azure.faithful`, `Azure.faithful_container` — the programs for the steps of both lifecycles do
  what the lifecycle expects.
* `Azure.keeps_ensureContainer` — finding or creating the container keeps a session sound.
* `Azure.keeps_create`, `Azure.keeps_remove` — creating and removing an account keeps a session
  sound.
-/

namespace Depot.Azure

variable {l : Ledger} {G : Type} {K : Contract World G} {g : G}

/-! ## Connecting -/

/-- Logging in to Azure is a quiet call. -/
lemma quiet_connect (credentials : Credentials) (environment : Environment) :
    (World.Call.azure (.connect credentials environment)).IsQuiet :=
  ⟨fun _ h => h, fun _ => rfl⟩

section

variable (s : Storage.Settings) [K.Steady g]
  (hconnect : ∀ credentials environment, K.IdleCall g (.azure (.connect credentials environment)))

/-- Finding the environment changes nothing. -/
lemma idle_environmentOf : Action.Idle K g environmentOf := by
  refine Action.idle_get.bind fun t => ?_
  dsimp only
  split
  · exact Action.idle_ofExcept _
  · exact idle_getInfrastructure.bind fun infra => Action.idle_ofExcept _

include hconnect in
/-- Connecting to Azure changes nothing if the call for it does not. -/
lemma idle_connect : Action.Idle K g (connect s) := by
  refine (Credentials.idle_azure _).bind fun credentials => ?_
  refine idle_environmentOf.bind fun environment => ?_
  have hcall : Action.Idle (σ := Storage.Session Config) K g
      (Action.attempt (World.azure (.connect credentials environment))) :=
    Action.idle_attempt (Prog.keeps_perform.2 (hconnect credentials environment))
  exact hcall.bind fun _ => Action.idle_pure _

include hconnect in
/-- Connecting to Azure changes nothing. -/
lemma idle_connectAccount : Action.Idle K g (connectAccount s) := by
  refine idle_getInfrastructure.bind fun infra => ?_
  refine (idle_connect s hconnect).bind fun credentials => ?_
  exact Action.idle_get.bind fun t => Action.idle_pure _

end

/-! ## The lifecycle -/

section

variable {H : Type} {L : Contract World H} {h : H} (a : Account) (name : String)

/-- Setting up an account changes nothing if the calls for it do not. -/
lemma idle_harden (hpublic : L.IdleCall h (.azure (.disablePublicAccess name)))
    (htags : ∀ tags, L.IdleCall h (.azure (.updateAccountTags name tags))) (step : Hardening) :
    Action.Idle L h (a.harden name step) := by
  cases step with
  | blockPublicAccess =>
    refine Action.Idle.bind (Action.idle_attempt ?_) fun _ => Action.idle_pure _
    exact Prog.keeps_perform.2 hpublic
  | tag =>
    refine Action.Idle.bind (Action.idle_attempt ?_) fun _ => Action.idle_pure _
    exact Prog.keeps_perform.2 (htags _)
  | encrypt => exact Action.idle_throw _
  | abortIncompleteUploads => exact Action.idle_throw _

/-- Emptying an account changes nothing if the call for it does not.

**Proof sketch.** Emptying an account is the deletion of its container; without a container there is
nothing to do. -/
lemma idle_empty (hdelete : L.IdleCall h (.azure (.deleteContainer name a.container))) :
    Action.Idle L h (a.empty name) := by
  rw [Account.empty]
  split
  · refine (Action.idle_perform hdelete).bind ?_
    rintro (e | _)
    · dsimp only
      split
      · exact Action.idle_pure _
      · exact Action.idle_throw _
    · exact Action.idle_pure _
  · exact Action.idle_pure _

end

/-- The programs for the steps of an account's lifecycle do what the lifecycle expects.

**Proof sketch.** As for S3, with two settings and one call for emptying. -/
theorem faithful (a : Account) : Ledger.Faithful a.operations (Ledger.effects .azure) where
  probe l name _ := Action.idle_attempt (keeps_quiet ⟨fun _ h => h, fun _ => rfl⟩)
  create l name := by
    refine Action.keeps_attempt.2 (Prog.keeps_perform.2 ⟨fun _ h => h.elim, ?_⟩)
    rintro r _ rfl
    exact Ledger.record_ofCreation .azure name r
  harden l name step h := idle_harden a name
    (World.Call.IsWorkOn.idle ⟨fun _ h => h, fun _ => rfl⟩ h)
    (fun _ => World.Call.IsWorkOn.idle ⟨fun _ h => h, fun _ => rfl⟩ h) step
  empty l name h := idle_empty a name (World.Call.IsWorkOn.idle ⟨fun _ h => h, fun _ => rfl⟩ h)
  delete l name h := by
    refine Action.keeps_attempt.2 (Prog.keeps_perform.2 ⟨?_, ?_⟩)
    · rintro x rfl
      exact h
    · rintro r _ rfl
      exact Ledger.record_ofDeletion .azure name r
  generate l := Naming.keeps_generate fun _ _ => Naming.accountName_ne_empty
  enables _ := ⟨trivial, trivial, fun _ => trivial⟩
  failed _ := rfl
  created _ _ := rfl
  deleted _ _ := rfl

/-- The programs for the steps of a container's lifecycle do what the lifecycle expects. -/
theorem faithful_container (infraName account : String) :
    Ledger.Faithful (containerOperations infraName account)
      (Ledger.containerEffects account) where
  probe l name _ := Action.idle_attempt (keeps_quiet ⟨fun _ h => h, fun _ => rfl⟩)
  create l name := by
    refine Action.keeps_attempt.2 (Prog.keeps_perform.2 ⟨fun _ h => h.elim, ?_⟩)
    rintro (e | _ | _) _ rfl <;> rfl
  harden l name step h := h.elim
  empty l name h := h.elim
  delete l name h := h.elim
  generate l := Naming.keeps_generate fun _ _ => Naming.storageName_ne_empty
  enables _ := ⟨trivial, trivial, fun _ => trivial⟩
  failed _ := rfl
  created _ _ := rfl
  deleted _ _ := rfl

/-! ## Operations -/

open Storage

variable (s : Settings) {t : Session Config}

/-- Looking for the container changes nothing but observations. -/
lemma keeps_isPresent [K.Calm g] {H : Type} {E : Lifecycle.Effects H} {R : H → G → Prop} {h : H}
    (hops : Realizes K E R (containerOperations "" t.config.accountName)) (hr : R h g)
    (hl : E.looks h) :
    Action.Keeps K (isPresent s) t g fun _ t' g' => Observes t t' ∧ R h g' := by
  rw [isPresent, Action.keeps_bind, Action.keeps_get]
  exact keeps_connectedLook (idle_connect s fun _ _ => (quiet_connect _ _).idle) (fun _ => hops)
    hr hl _

/-- With the names of the account and the container in it, the configuration still asks for them. -/
lemma selected_persist {spec : Spec} {c c' : Config} (h : spec = toSpec (.azure c))
    (hc : c'.cloudName = c.cloudName) :
    { spec with azure := some { spec.azure.getD {} with
      accountName := c'.accountName, container := c'.container } } = toSpec (.azure c') := by
  obtain ⟨accountName, container, cloudName⟩ := c'
  obtain rfl : cloudName = c.cloudName := hc
  rw [h]
  rfl

/-- Finding or creating the container keeps a session sound and the account as it is.

**Proof sketch.** The lifecycle finds or creates the container, and its name is written into the
session if there is one. The session stays sound since only the container in it has changed
(`Sound.of_contained`); without a new name nothing has. -/
theorem keeps_ensureContainer (hl : l.reclaiming = false) (h : Sound (t.wrap .azure) l)
    (infraName : String) (hname : t.config.accountName ≠ "") :
    Action.Keeps Ledger.contract (ensureContainer s infraName t.config.accountName) t l
      fun _ t' l' => Advances (t.wrap .azure) l (t'.wrap .azure) l' ∧
        t'.config.accountName = t.config.accountName ∧ l'.reclaiming = false := by
  rw [ensureContainer, Action.keeps_bind, Action.keeps_get]
  dsimp only
  rw [Action.keeps_bind, Action.keeps_get]
  dsimp only
  rw [Action.keeps_bind]
  refine keeps_ensured (.of_faithful (faithful_container infraName _)) ⟨rfl, hl⟩
    ((faithful_container infraName _).enables l) ?_
  rintro outcome u l' _ hu - ⟨rfl, hl'⟩
  dsimp only
  rw [Action.keeps_bind, keeps_modifyStatus]
  dsimp only
  split
  · exact ⟨h.of_contained rfl hname hu rfl (selected_persist h.selected rfl) rfl, rfl, hl'⟩
  · rename_i hu'
    have hu' : t.config.container = u.name := hu.unnamed (by simpa using hu')
    have hconfig : { t.config with container := u.name } = t.config := by rw [← hu']
    exact ⟨h.of_contained rfl hname hu (by rw [hconfig]; rfl) h.selected rfl, rfl, hl'⟩

/-- **Creating storage in Azure** keeps a session sound.

**Proof sketch.** The account is found or created and written down, as for S3, then the container in
it, and only then the account is set up. What is done to the container leaves the name of the
account. -/
theorem keeps_create (hl : l.reclaiming = false) (h : Sound (t.wrap .azure) l) :
    Action.Keeps Ledger.contract (create s) t l fun _ t' l' =>
      Advances (t.wrap .azure) l (t'.wrap .azure) l' := by
  rw [create, Action.keeps_bind]
  refine (idle_connectAccount s fun _ _ => (quiet_connect _ _).idle).keeps ?_
  rintro (e | a)
  · exact h.advances (Agrees.refl _)
  dsimp only
  rw [Action.keeps_bind, Action.keeps_get]
  dsimp only
  rw [Action.keeps_bind]
  refine keeps_ensured (.of_faithful (faithful a)) ⟨rfl, hl⟩ ((faithful a).enables l) ?_
  rintro outcome u l' _ hu hnamed ⟨rfl, hl'⟩
  refine keeps_written h hu ?_ fun t' ht' hname => ?_
  · exact ⟨rfl, ⟨selected_persist h.selected rfl, rfl, rfl, rfl, rfl, rfl⟩, rfl⟩
  · rw [Action.keeps_bind, Action.keeps_ofExcept]
    rcases outcome with e | _
    · exact ht'
    · have hname : t'.config.accountName = u.name := hname
      have hne : t'.config.accountName ≠ "" := by
        rw [hname]
        exact hnamed rfl
      dsimp only
      rw [Action.keeps_bind, ← hname]
      refine (keeps_ensureContainer s hl' ht'.sound a.infra.name hne).mono ?_
      rintro (e | _) t'' l'' ⟨ha, haccount, hl''⟩
      · exact ht'.trans ha haccount
      · exact keeps_setUp (faithful a) hl'' (ht'.trans ha haccount)
          (congrArg (Asset.of .azure) haccount) _ _

/-- **Removing storage in Azure** keeps a session sound, and removes the account if it was the
operator's. -/
theorem keeps_remove (hl : l.reclaiming = false) (h : Sound (t.wrap .azure) l) :
    Action.Keeps Ledger.contract (remove s) t l fun r t' l' =>
      Advances (t.wrap .azure) l (t'.wrap .azure) l' ∧ Clears (t.wrap .azure) r l' := by
  rw [remove, Action.keeps_bind, Action.keeps_get]
  refine keeps_connectedRemoval (idle_connectAccount s fun _ _ => (quiet_connect _ _).idle) h
    fun a => ?_
  refine keeps_removal (w := .azure) hl h (faithful a) fun status l' => ?_
  exact ⟨rfl, ⟨selected_persist h.selected rfl, rfl, rfl⟩, rfl⟩

end Depot.Azure
