import Depot.Proofs.Acceptance
import Depot.Proofs.Ownership

set_option autoImplicit false

/-!
# Accounts that are recorded or lost

Creating storage in Azure first creates an account. The lifecycle writes down the name of an account
as soon as it is told that it was created, and before anything else can fail. It is told so only
when the creation is complete: an error while a creation that was accepted is awaited looks like one
that was refused, and neither the name nor the owner is written down.

## Main definitions

* `Azure.Attempt` — what the answers to the lifecycle say of an account, with `Attempt.contract`.
* `Azure.Concludes` — how the creation of storage may end.

## Main results

* `Azure.Attempt.keeps_answer` — the exchanges over HTTP show what the answers say.
* `Azure.keeps_create_attempt` — an account that was created is written down.
* `Azure.accepted_recorded_or_lost` — so is one whose creation was accepted, exactly if it was seen
  to be complete.
-/

namespace Depot.Azure

open Manager Storage

/-! ## Attempts to create an account -/

/-- What the answers so far say about the creation of an account. -/
inductive Attempt where
  /-- None was created, and no creation failed. -/
  | pending
  /-- A creation failed. -/
  | failed
  /-- An account was created. -/
  | created (account : String)

namespace Attempt

/-- What is known after a call was answered. -/
def next (g : Attempt) : (c : World.Call) → World.Answer c → Attempt
  | .azure (.createAccount account _), .ok .created => .created account
  | .azure (.createAccount _ _), .error _ => .failed
  | _, _ => g

/-- At most one creation is tried that does not find its name taken, and Azure is not asked anything
after one that failed. -/
def permits (g : Attempt) : World.Call → Prop
  | .azure (.createAccount _ _) => g = .pending
  | .azure (.connect _ _) => True
  | .azure _ => g ≠ .failed
  | .swift _ | .http _ => False
  | _ => True

/-- The contract that remembers attempts. -/
def contract : Contract World Attempt := .tracking permits next

instance (g : Attempt) : contract.Steady g where
  idle c _ hc := by
    cases c with
    | s3 d | azure d | gcs d | swift d | http r => exact hc.elim
    | _ => exact ⟨trivial, fun x g' h => h⟩

/-- What the exchanges over HTTP show of an attempt. -/
def Shows (m : Manager.Settings) : Attempt → Acceptance → Prop
  | .pending, a => a = .absent
  | .failed, a =>
    a = .absent ∨ ∃ c account location, a = .ongoing (creationUrl m c account) location
  | .created account, a => ∃ c, a = .complete (creationUrl m c account)

variable {m : Manager.Settings} {g : Attempt} {a : Acceptance}

/-- As long as no creation failed, none goes on. -/
lemma Shows.isSettled (h : Shows m g a) (hg : g ≠ .failed) : a.IsSettled := by
  cases g with
  | pending => exact h ▸ isSettled_absent
  | failed => exact absurd rfl hg
  | created account =>
    obtain ⟨c, rfl⟩ := h
    exact nofun

/-- **The exchanges show what the answers say.**

**Proof sketch.** By the call. Only a creation of an account changes what the answers say, and what
its exchanges show is then told by `Manager.keeps_createAccount`. All others are without
consequences, as no creation goes on unless one has failed. -/
theorem keeps_answer (c : World.Call) (k : Connectors.Open) (h : Shows m g a) (hc : permits g c) :
    (Connectors.answer m c k).Keeps Acceptance.contract a fun r a' =>
      ∃ g', contract.step g c r.1 g' ∧ Shows m g' a' := by
  have hidle {c : World.Call} (hc : ∀ r, c ≠ .http r) (hn : ∀ x, next g c x = g) :
      (Prog.bind (Prog.perform (I := World) c) fun r => .pure (r, k)).Keeps
        Acceptance.contract a fun r a' => ∃ g', contract.step g c r.1 g' ∧ Shows m g' a' := by
    obtain ⟨hp, hs⟩ := idle_call (g := a) hc
    refine ⟨hp, fun x a' hx => ⟨g, (hn x).symm, ?_⟩⟩
    rw [hs x a' hx]
    exact h
  cases c with
  | s3 d => exact ⟨g, rfl, h⟩
  | gcs d => exact ⟨g, rfl, h⟩
  | swift d => exact hc.elim
  | http r => exact hc.elim
  | azure d =>
    refine Prog.keeps_bind.2 ?_
    by_cases hd : ∃ account p, d = .createAccount account p
    · obtain ⟨account, p, rfl⟩ := hd
      obtain rfl : g = .pending := hc
      obtain rfl : a = .absent := h
      cases hk : k.azure with
      | none => exact ⟨.failed, rfl, .inl rfl⟩
      | some connection =>
        refine Prog.keeps_bind.2 (Prog.Keeps.mono (keeps_createAccount m account p) ?_)
        rintro ⟨e | _ | _, connection'⟩ a' ha
        · refine ⟨.failed, rfl, ha.imp_right ?_⟩
          rintro ⟨c, location, rfl⟩
          exact ⟨c, account, location, rfl⟩
        · exact ⟨.created account, rfl, ha⟩
        · exact ⟨.pending, rfl, ha⟩
    · have hd : ∀ account p, d ≠ .createAccount account p := fun account p he => hd ⟨account, p, he⟩
      have hstep (x : Azure.Answer d) : next g (.azure d) x = g := by
        cases d with
        | createAccount account p => exact absurd rfl (hd account p)
        | _ => rfl
      have hcases : (∃ credentials environment, d = .connect credentials environment) ∨
          g ≠ .failed := by
        cases d with
        | connect credentials environment => exact .inl ⟨_, _, rfl⟩
        | createAccount account p => exact absurd rfl (hd account p)
        | _ => exact .inr hc
      rcases hcases with ⟨credentials, environment, rfl⟩ | hg
      · exact ⟨g, rfl, h⟩
      · refine (Manager.keeps_answer m (h.isSettled hg) hd k.azure).mono ?_
        rintro ⟨x, connection⟩ a' rfl
        exact ⟨g, (hstep x).symm, h⟩
  | _ => exact hidle (fun _ h => nomatch h) fun _ => rfl

end Attempt

/-! ## The lifecycles -/

/-- What an account's lifecycle does to an attempt. -/
def accountEffects : Lifecycle.Effects Attempt where
  owns g _ := g ≠ .failed
  looks g := g ≠ .failed
  creates g := g = .pending
  created account _ := .created account
  failed _ := .failed
  deleted _ g := g

/-- The lifecycle of a container does nothing to an attempt. -/
def containerEffects : Lifecycle.Effects Attempt where
  owns g _ := g ≠ .failed
  looks g := g ≠ .failed
  creates g := g ≠ .failed
  created _ g := g
  deleted _ g := g

/-- Before a creation failed the account may be looked for and created. -/
lemma accountEffects_enables : accountEffects.Enables .pending where
  looks := nofun
  creates := rfl
  created _ := nofun

/-- Unless a creation failed the container may be looked for and created. -/
lemma containerEffects_enables {g : Attempt} (hg : g ≠ .failed) : containerEffects.Enables g where
  looks := hg
  creates := hg
  created _ := hg

section

variable {g : Attempt}

/-- A call to Azure that creates no account is without consequences unless a creation failed. -/
lemma idle_azure {d : Call} (hd : ∀ account p, d ≠ .createAccount account p) (hg : g ≠ .failed) :
    Attempt.contract.IdleCall g (.azure d) := by
  constructor
  · cases d with
    | connect credentials environment => trivial
    | createAccount account p => exact absurd rfl (hd account p)
    | _ => exact hg
  · rintro x _ rfl
    cases d with
    | createAccount account p => exact absurd rfl (hd account p)
    | _ => rfl

/-- The programs for the steps of an account's lifecycle do what the lifecycle expects.

**Proof sketch.** By the step. The creation is the one call that changes what the answers say, as
the effects do; settings, looks, and the deletion of the account and its container change
nothing. -/
lemma realizes_account (a : Account) :
    Realizes Attempt.contract accountEffects Eq a.operations := by
  refine Realizes.of_work ?_
  rintro c g _ hc rfl hp
  have hidle {α : Type} {w : Operating Unit α} (hw : Action.Idle Attempt.contract g w) :
      w.result.Keeps Attempt.contract g fun _ g' => True ∧ g = g' :=
    hw.result.mono fun _ _ h => ⟨trivial, h.symm⟩
  cases c with
  | probe name =>
    exact hidle (Action.idle_attempt
      (Prog.keeps_perform.2 (idle_azure (d := .accountPresence name) (by simp) hp)))
  | create name =>
    refine Action.keeps_result.2 (Action.keeps_attempt.2 (Prog.keeps_perform.2 ⟨hp, ?_⟩))
    rintro (e | _ | _) _ rfl <;> exact ⟨trivial, rfl⟩
  | harden name step =>
    exact hidle (idle_harden a name (idle_azure (by simp) hp)
      (fun _ => idle_azure (by simp) hp) step)
  | empty name => exact hidle (idle_empty a name (idle_azure (by simp) hp))
  | delete name =>
    refine Action.keeps_result.2 (Action.keeps_attempt.2 (Prog.keeps_perform.2 ⟨hp, ?_⟩))
    rintro x _ rfl
    exact ⟨trivial, ite_self _⟩
  | generate =>
    refine Action.keeps_result.2 ((Naming.keeps_generate fun _ _ =>
      Naming.accountName_ne_empty).mono ?_)
    exact fun _ _ _ h => ⟨h.1, h.2.symm⟩
  | _ => exact absurd trivial hc

/-- The programs for the steps of a container's lifecycle do what the lifecycle expects.

**Proof sketch.** By the step, each of which is one call that changes nothing, or none. -/
lemma realizes_container (infraName account : String) :
    Realizes Attempt.contract containerEffects Eq (containerOperations infraName account) := by
  refine Realizes.of_work ?_
  rintro c g _ hc rfl hp
  have hcall {d : Call} (hd : ∀ account p, d ≠ .createAccount account p) (hg : g ≠ .failed) :
      (Prog.perform (I := World) (.azure d)).Keeps Attempt.contract g fun _ g' => g' = g :=
    Prog.keeps_perform.2 (idle_azure hd hg)
  cases c with
  | probe name =>
    exact Action.keeps_result.2 (Action.keeps_attempt.2
      ((hcall (d := .containerPresence account name) nofun hp).mono
        fun _ _ h => ⟨trivial, h.symm⟩))
  | create name =>
    refine Action.keeps_result.2 (Action.keeps_attempt.2
      ((hcall (d := .createContainer account name) nofun hp).mono ?_))
    rintro (e | _ | _) _ rfl <;> exact ⟨trivial, rfl⟩
  | harden name step => exact ⟨trivial, rfl⟩
  | empty name => exact ⟨trivial, rfl⟩
  | delete name =>
    refine Action.keeps_result.2 (Action.keeps_attempt.2
      ((hcall (d := .deleteContainer account name) nofun hp).mono ?_))
    rintro x _ rfl
    exact ⟨trivial, ite_self _⟩
  | generate =>
    refine Action.keeps_result.2 ((Naming.keeps_generate fun _ _ =>
      Naming.storageName_ne_empty).mono ?_)
    exact fun _ _ _ h => ⟨h.1, h.2.symm⟩
  | _ => exact absurd trivial hc

end

/-! ## Creating storage -/

/-- The account of a session and its owner are as before. -/
structure Steadfast (t t' : Session Config) : Prop where
  /-- The registry asks for the storage of the session. -/
  selected : t'.registry.spec = toSpec (.azure t'.config)
  /-- The account is the same. -/
  account : t'.config.accountName = t.config.accountName
  /-- The owner is the same. -/
  ownership : t'.ownership = t.ownership

/-- What does not change the account can be done one after the other. -/
lemma Steadfast.trans {t t' t'' : Session Config} (h : Steadfast t t') (h' : Steadfast t' t'') :
    Steadfast t t'' :=
  ⟨h'.selected, h'.account.trans h.account, h'.ownership.trans h.ownership⟩

/-- How the creation of storage may end. -/
def Concludes (t : Session Config) (r : Except Error Unit) (t' : Session Config) : Attempt → Prop
  | .pending => True
  | .failed => ¬ r.isOk ∧ Agrees t t'
  | .created account =>
    t'.registry.spec = toSpec (.azure t'.config) ∧ t'.config.accountName = account ∧
      t'.ownership = some .managed

section

variable (s : Storage.Settings) {g : Attempt} {t t' : Session Config}

/-- What follows the creation of the account does not change how it ended. -/
lemma Concludes.steadfast {r r' : Except Error Unit} {t₀ : Session Config}
    (h : Concludes t₀ r t g) (hg : g ≠ .failed) (ht : Steadfast t t') : Concludes t₀ r' t' g := by
  cases g with
  | pending => trivial
  | failed => exact absurd rfl hg
  | created account => exact ⟨ht.selected, ht.account.trans h.2.1, ht.ownership.trans h.2.2⟩

/-- Finding or creating the container does not change the account.

**Proof sketch.** The lifecycle of the container changes nothing of what is known of the account,
and what is written down after it is the name of the container. -/
lemma keeps_contained (hg : g ≠ .failed) (hspec : t.registry.spec = toSpec (.azure t.config))
    (infraName account : String) :
    Action.Keeps Attempt.contract (ensureContainer s infraName account) t g fun _ t' g' =>
      Steadfast t t' ∧ g' = g := by
  rw [ensureContainer, Action.keeps_bind, Action.keeps_get]
  dsimp only
  rw [Action.keeps_bind, Action.keeps_get]
  dsimp only
  rw [Action.keeps_bind]
  refine keeps_ensured (realizes_container infraName account) rfl (containerEffects_enables hg) ?_
  rintro outcome u g' _ hu - rfl
  have hg' : g' = g := by
    cases hu with
    | _ => rfl
  dsimp only
  rw [Action.keeps_bind, keeps_modifyStatus]
  dsimp only
  split
  · exact ⟨⟨selected_persist hspec rfl, rfl, rfl⟩, hg'⟩
  · exact ⟨⟨hspec, rfl, rfl⟩, hg'⟩

/-- Setting up the account does not change it. -/
lemma keeps_hardened (hg : g ≠ .failed) (hspec : t.registry.spec = toSpec (.azure t.config))
    (a : Account) (account : String) (f : Spec → Spec) :
    Action.Keeps Attempt.contract (do
      modifyApplied f
      withResource a.operations account (Lifecycle.applyHardening accountKind)) t g fun _ t' g' =>
        Steadfast t t' ∧ g' = g := by
  rw [Action.keeps_bind, modifyApplied, keeps_modifyStatus]
  refine keeps_withResource (realizes_account a) rfl
    ((Lifecycle.keeps_applyHardening accountKind fun _ _ => hg).mono ?_)
  rintro r u _ ⟨hu, rfl⟩ _ rfl
  exact ⟨⟨hspec, rfl, hu.ownership⟩, rfl⟩

/-- Connecting is without consequences for accounts. -/
lemma idle_connectAttempt : Action.Idle Attempt.contract g (connectAccount s) :=
  idle_connectAccount s fun _ _ => ⟨trivial, fun _ _ h => h⟩

/-- **Creating storage** records an account that was created, also when a later step fails; after a
creation that failed nothing is recorded, and the result is an error.

**Proof sketch.** After the account was found or created its name is written down, which gives what
is concluded from a creation: an account that was created is recorded, and after a failure the
session is the one of before. What follows is only reached without a failure, and keeps the account
(`hrest`). -/
theorem keeps_create_attempt (hspec : t.registry.spec = toSpec (.azure t.config)) :
    Action.Keeps Attempt.contract (create s) t .pending fun r t' g' => Concludes t r t' g' := by
  rw [create, Action.keeps_bind]
  refine (idle_connectAttempt s).keeps ?_
  rintro (e | a)
  · trivial
  dsimp only
  rw [Action.keeps_bind, Action.keeps_get]
  dsimp only
  rw [Action.keeps_bind]
  refine keeps_ensured (realizes_account a) rfl accountEffects_enables ?_
  rintro outcome u g _ hu - rfl
  -- After the account comes the rest of the operation, unless its creation failed.
  have hrest (t' : Session Config) (ht' : t'.registry.spec = toSpec (.azure t'.config))
      (h : Concludes t outcome t' g) : Action.Keeps Attempt.contract (do
        Action.ofExcept outcome
        ensureContainer s a.infra.name u.name
        let applied := (← get).config
        modifyApplied fun spec => { spec with azure := some applied }
        withResource a.operations u.name (Lifecycle.applyHardening accountKind)) t' g
        fun r t'' g' => Concludes t r t'' g' := by
    rw [Action.keeps_bind, Action.keeps_ofExcept]
    rcases outcome with e | _
    · exact h
    have hg : g ≠ .failed := by
      rintro rfl
      exact h.1 rfl
    dsimp only
    rw [Action.keeps_bind]
    refine (keeps_contained s hg ht' _ _).mono ?_
    rintro (e | _) t'' _ ⟨hs, rfl⟩
    · exact h.steadfast hg hs
    · dsimp only
      rw [Action.keeps_bind, Action.keeps_get]
      refine (keeps_hardened hg hs.selected a _ _).mono ?_
      rintro r t₃ _ ⟨hs', rfl⟩
      exact h.steadfast hg (hs.trans hs')
  dsimp only
  split
  · let c : Config := { t.config with accountName := u.name }
    have hspec' : { t.registry.spec with azure := some { t.registry.spec.azure.getD {} with
        accountName := c.accountName, container := c.container } } = toSpec (.azure c) :=
      selected_persist hspec rfl
    rw [Action.keeps_bind]
    refine hrest ⟨c, { t.registry with spec := _, status := u.status }⟩ hspec' ?_
    cases hu with
    | kept ha => trivial
    | failed ha =>
      have hc : c = t.config := by
        change { t.config with accountName := u.name } = t.config
        rw [ha.name]
      exact ⟨Bool.false_ne_true, hc, hspec'.trans (by rw [hc, hspec]), ha.ownership⟩
    | adopted _ _ _ _ => trivial
    | created _ _ hm _ => exact ⟨hspec', rfl, hm⟩
  · rename_i hname
    refine hrest _ hspec ?_
    cases hu with
    | kept ha => trivial
    | failed ha => exact ⟨Bool.false_ne_true, rfl, rfl, ha.ownership⟩
    | adopted _ _ _ _ => trivial
    | created _ hne _ _ => exact absurd hne hname

end

/-! ## Computed runs -/

/-- A secret with an identity on Azure. -/
def identitySecret : Cluster.Secret where
  data := some (.ofList ([
    (Credentials.Key.azureClientId, "client"), (Credentials.Key.azureTenantId, "tenant"),
    (Credentials.Key.azureSubscriptionId, "subscription"),
    (Credentials.Key.azureResourceGroup, "group"), (Credentials.Key.azureRegion, "region"),
    (Credentials.Key.azureClientSecret, "secret")].map fun (k, v) => (k, v.toUTF8.toList)))

/-- The responses of a resource manager that creates accounts with delay, and answers a look at such
a creation as given. -/
def managerWith (look : Except Error Http.Response) (r : Http.Request) :
    Except Error Http.Response :=
  match r.method with
  | .put =>
    if IsCreation r then .ok { status := 202, headers := [("Location", "https://operation")] }
    else .ok { status := 201 }
  | .get => if r.url = "https://operation" then look else .ok { status := 200 }
  | .post =>
    let token := "\"access_token\":\"token\",\"expires_in\":3600"
    .ok { status := 200, body := "\x7b" ++ token ++ ",\"nameAvailable\":true\x7d" }
  | _ => .ok { status := 200 }

/-- The answers of a cluster with such a resource manager. -/
def azureWith (look : Except Error Http.Response) (_ : Trace World) :
    (c : World.Call) → World.Answer c
  | .cluster .getInfrastructure => .ok { name := "infra" }
  | .cluster (.getSecret _ name) =>
    .ok (if name = "installer-cloud-credentials" then some identitySecret else none)
  | .randomDigits => "0123456789abcdef".toList
  | .http r => managerWith look r
  | _ => default

/-- The session of a registry that asks for storage in Azure. -/
def unconfigured : Session Config := ⟨{}, { spec := { azure := some {} } }⟩

/-- The creation of storage in Azure over HTTP. -/
def creation : Prog World ((Except Error Unit × Session Config) × Connectors.Open) :=
  ((create {}).start unconfigured).interpretWith (Connectors.answer {}) {}

/-- Whether an answered call is a creation of an account that was accepted. -/
def isAccepted : Event World → Bool
  | ⟨.http r, .ok response⟩ => IsCreation r && response.isSuccess
  | _ => false

/-- The request and the response of a creation that was accepted. -/
lemma exists_of_isAccepted {e : Event World} (h : isAccepted e) :
    ∃ r response, e = ⟨.http r, .ok response⟩ ∧ IsCreation r ∧ response.isSuccess := by
  unfold isAccepted at h
  split at h
  · rename_i r response
    obtain ⟨hr, hs⟩ := Bool.and_eq_true_iff.1 h
    exact ⟨r, response, rfl, of_decide_eq_true hr, hs⟩
  · cases h

/-! ## Main results -/

/-- **An account whose creation was accepted is recorded exactly if it was confirmed.** Take a run
of the creation of storage over HTTP, with any answers, in which the request that creates an account
was answered with success. If the creation was seen to be complete, the registry names the account
that the request is for and the operator owns it, whatever the result. Otherwise the result is an
error, and the configuration, the registry's and the owner are those from before: the account may
come to exist without a trace of it.

**Proof sketch.** The contract of `Acceptance` permits the request only while no creation was
accepted, so the trace before it leaves none, and what follows it leaves a creation that is complete
if it was confirmed and one that goes on if not. The calls to Azure keep this in step with the
attempts of the lifecycle (`Attempt.keeps_answer`), and those with the registry
(`keeps_create_attempt`). -/
theorem accepted_recorded_or_lost (m : Manager.Settings) (s : Storage.Settings)
    {t t' : Session Config} {k : Connectors.Open} {r : Except Error Unit} {es fs : Trace World}
    {request : Http.Request} {response : Http.Response}
    (hspec : ofSpec t.registry.spec = .ok (.azure t.config))
    (hrun : (((create s).start t).interpretWith (Connectors.answer m) {}).Runs
      (es ++ ⟨.http request, .ok response⟩ :: fs) ((r, t'), k))
    (hrequest : IsCreation request) (hresponse : response.isSuccess) :
    (IsConfirmed response fs →
      (∀ account, IsFor m request account ↔ account = t'.config.accountName) ∧
      ofSpec t'.registry.spec = .ok (.azure t'.config) ∧ t'.ownership = some .managed) ∧
    (¬ IsConfirmed response fs → ¬ r.isOk ∧ t'.config = t.config ∧
      t'.registry.spec = t.registry.spec ∧ t'.ownership = t.ownership) := by
  have hkeeps : (((create s).start t).interpretWith (Connectors.answer m) {}).Keeps
      Acceptance.contract .absent fun r a => ∃ g, Attempt.Shows m g a ∧ Concludes t r.1.1 r.1.2 g :=
    Prog.Keeps.interpretWith (R := fun g _ a => Attempt.Shows m g a)
      (fun c g k a h hc => Attempt.keeps_answer c k h hc)
      (keeps_create_attempt s ((ofSpec_eq_ok ..).1 hspec)) rfl
  have hbefore : Acceptance.absent.after es = .absent :=
    hkeeps.of_asks hrun.asks ((Contract.path_tracking ..).2 rfl) hrequest
  obtain ⟨g, hshows, hends⟩ := hkeeps.of_runs hrun ((Contract.path_tracking ..).2 rfl)
  have haccepted : Acceptance.absent.next (.http request) (.ok response) =
      .start request.url response :=
    (if_pos hresponse).trans (exchanged_creation hrequest response)
  have hafter : Acceptance.absent.after (es ++ ⟨.http request, .ok response⟩ :: fs) =
      (Acceptance.start request.url response).after fs := by
    rw [Acceptance.after_append, hbefore, ← haccepted]
    rfl
  change Attempt.Shows m g (Acceptance.absent.after _) at hshows
  rw [hafter] at hshows
  constructor
  · intro hc
    rw [Acceptance.after_start hc] at hshows
    cases g with
    | pending => cases hshows
    | failed => exact hshows.elim nofun nofun
    | created account =>
      obtain ⟨c, hurl⟩ := hshows
      obtain ⟨hselected, rfl, hmanaged⟩ := hends
      have hfor : IsFor m request t'.config.accountName := ⟨c, Acceptance.complete.inj hurl⟩
      refine ⟨fun account => ⟨fun h => h.unique m hfor, ?_⟩,
        (ofSpec_eq_ok ..).2 hselected, hmanaged⟩
      rintro rfl
      exact hfor
  · intro hc
    obtain ⟨location, hlost⟩ := Acceptance.after_start_of_not request.url hc
    rw [hlost] at hshows
    cases g with
    | pending => cases hshows
    | failed => exact ⟨hends.1, hends.2.config, hends.2.spec, hends.2.ownership⟩
    | created account =>
      obtain ⟨c, hurl⟩ := hshows
      cases hurl

/-- An account whose creation is complete at the first look is recorded. -/
theorem accepted_recorded : ∃ es fs request response r t k,
    creation.Runs (es ++ ⟨.http request, .ok response⟩ :: fs) ((r, t), k) ∧
    IsConfirmed response fs ∧ IsFor {} request t.config.accountName ∧
    t.ownership = some .managed := by
  obtain ⟨es, ⟨⟨r, t⟩, k⟩, hrun, ⟨e, he, hacc⟩, hm⟩ :=
    Prog.exists_runs_of_run (azureWith (.ok { status := 200 })) 2 creation
      (fun es a => (∃ e ∈ es, isAccepted e) ∧ a.1.2.ownership = some .managed) (by decide +kernel)
  obtain ⟨request, response, rfl, hrequest, hresponse⟩ := exists_of_isAccepted hacc
  obtain ⟨es, fs, rfl⟩ := List.append_of_mem he
  obtain ⟨hrecorded, hlost⟩ := accepted_recorded_or_lost {} {} rfl hrun hrequest hresponse
  have hc : IsConfirmed response fs :=
    Classical.byContradiction fun hc => nomatch hm.symm.trans (hlost hc).2.2.2
  exact ⟨es, fs, request, response, r, t, k, hrun, hc, ((hrecorded hc).1 _).2 rfl, hm⟩

/-- An account whose creation cannot be looked at is lost. -/
theorem accepted_lost : ∃ es r t k, creation.Runs es ((r, t), k) ∧ (∃ e ∈ es, isAccepted e) ∧
    t.config.accountName = "" ∧ t.ownership = none := by
  obtain ⟨es, ⟨⟨r, t⟩, k⟩, hrun, h⟩ :=
    Prog.exists_runs_of_run (azureWith (.error (.internal "connection reset"))) 2 creation
      (fun es a => (∃ e ∈ es, isAccepted e) ∧ a.1.2.config.accountName = "" ∧
        a.1.2.ownership = none) (by decide +kernel)
  exact ⟨es, r, t, k, hrun, h⟩

end Depot.Azure
