import Depot.Azure.Manager
import Depot.Proofs.Acceptance
import Depot.Proofs.Completion
import Depot.Proofs.Polling

set_option autoImplicit false

/-!
# How a storage account is created

A storage account is created with a request, after another one has found that its name is available;
if the creation goes on after the response then it is looked at, at regular times. What is replied
to these requests determines how many there are and how the creation ends, whatever the tokens that
they carry and the dates on which these are asked for.

## Main definitions

* `Manager.knownCodes`, `Manager.classOf` — the class of a response that is no success.
* `Manager.Replies` — what is replied to the requests.
* `Manager.provisioning` — the contract of requests that are replied to as given, on a clock that
  only pauses move.
* `Manager.Provisioned` — how many requests there are, and how the creation ends.

## Main results

* `Manager.refusal_eq` — a response that is no success is classified by its code first.
* `Manager.ends_authorized` — what a request with a token finds out.
* `Manager.provisions` — how the creation of an account goes on and ends, for all replies.
-/

namespace Depot.Azure.Manager

/-! ## Responses that are no success -/

/-- The codes of faults that are known, with their classes. -/
def knownCodes : List (String × FaultKind) := [
  ("ResourceNotFound", .notFound), ("StorageAccountNotFound", .notFound),
  ("ContainerNotFound", .notFound), ("StorageAccountAlreadyTaken", .alreadyExists),
  ("StorageAccountAlreadyExists", .alreadyExists), ("ContainerAlreadyExists", .alreadyExists),
  ("AuthorizationFailed", .forbidden), ("AuthenticationFailed", .forbidden),
  ("LinkedAuthorizationFailed", .forbidden), ("StorageAccountOperationInProgress", .conflict),
  ("Conflict", .conflict), ("TooManyRequests", .throttled)]

/-- The code of the fault that a response reports, if it can be read. -/
def codeOf? (r : Http.Response) : Option String :=
  match Json.decode Fault.ofJson r.body with
  | .ok f => some f.code
  | .error _ => none

/-- The class of a response that is no success: by its code if that can be read and is known, and
otherwise by its status. -/
def classOf (r : Http.Response) : FaultKind :=
  ((codeOf? r).bind (List.lookup · knownCodes)).getD (.ofStatus r.status)

/-- The class of a fault, from the codes that are known. -/
lemma faultKind_eq (status : Nat) (code : String) :
    faultKind status code = (knownCodes.lookup code).getD (.ofStatus status) := by
  simp only [faultKind, knownCodes, List.lookup_cons, List.contains_cons]
  repeat' split
  all_goals simp_all

/-- **A response that is no success is classified by its code first.** -/
theorem refusal_eq (operation resource : String) (r : Http.Response) :
    ∃ message, refusal operation resource r =
      .provider .azure operation resource (classOf r) message := by
  rw [refusal, classOf, codeOf?]
  cases Json.decode Fault.ofJson r.body with
  | ok f => exact ⟨_, congrArg (Error.provider _ _ _ · _) (faultKind_eq ..)⟩
  | error _ => exact ⟨_, congrArg (Error.provider _ _ _ · _) (faultKind_eq r.status "")⟩

/-- No status says that something exists already. -/
lemma ofStatus_ne_alreadyExists (status : Nat) :
    FaultKind.ofStatus status ≠ .alreadyExists := by
  unfold FaultKind.ofStatus
  repeat' split
  all_goals nofun

/-- The codes which say that something exists already. -/
def takenCodes : List String :=
  ["StorageAccountAlreadyTaken", "StorageAccountAlreadyExists", "ContainerAlreadyExists"]

/-- The known codes which say that something exists are those for a name that is taken. -/
lemma lookup_knownCodes_eq_alreadyExists {code : String} :
    knownCodes.lookup code = some .alreadyExists ↔ code ∈ takenCodes := by
  simp only [knownCodes, List.lookup_cons, takenCodes]
  repeat' split
  all_goals simp_all

/-- Only some codes say that something exists already, and the status has no part in it. -/
lemma classOf_eq_alreadyExists {r : Http.Response} :
    classOf r = .alreadyExists ↔ ∃ code ∈ takenCodes, codeOf? r = some code := by
  rw [classOf]
  cases codeOf? r with
  | none => simp [ofStatus_ne_alreadyExists]
  | some code =>
    simp only [Option.bind_some, Option.some.injEq, exists_eq_right',
      ← lookup_knownCodes_eq_alreadyExists]
    cases knownCodes.lookup code with
    | none => simp [ofStatus_ne_alreadyExists]
    | some kind => simp

/-! ## Requests and replies -/

/-- What is replied to a request: a response, or why the connection failed. -/
abbrev Reply := Except String Http.Response

/-- What is replied to the requests for the creation of an account. -/
structure Replies where
  /-- The reply to the request whether the name is available. -/
  check : Reply
  /-- The reply to the request that creates the account. -/
  creation : Reply
  /-- The replies to looks at a creation that goes on, one after the other. -/
  looks : Nat → Reply

/-- What a request finds out with a reply. -/
def found (operation resource : String) : Reply → Except Error Http.Response
  | .error reason => .error (.http reason)
  | .ok response =>
    if response.isSuccess then .ok response else .error (refusal operation resource response)

/-- The name check found out whether the name is available. -/
def Finds (check : Reply) (available : Bool) : Prop :=
  ∃ response, check = .ok response ∧ response.isSuccess ∧
    response.json availabilityOfJson = .ok available

/-- The creation was rejected because the account exists. -/
def IsTaken (creation : Reply) : Prop :=
  ∃ response, creation = .ok response ∧ ¬ response.isSuccess ∧
    ∃ code ∈ takenCodes, codeOf? response = some code

/-- The creation goes on at a location after the response. -/
def GoesOn (creation : Reply) (location : String) : Prop :=
  ∃ response, creation = .ok response ∧ location? response = some location

/-- The creation was carried out with the response. -/
def IsComplete (creation : Reply) : Prop :=
  ∃ response, creation = .ok response ∧ response.isSuccess ∧ location? response = none

/-- A look finds that the creation goes on. -/
def IsPending (look : Reply) : Prop := ∃ response, look = .ok response ∧ response.status = 202

/-- A look finds that the creation is done. -/
def IsDone (look : Reply) : Prop :=
  ∃ response, look = .ok response ∧ response.isSuccess ∧ response.status ≠ 202

/-- How many looks there may be: a pause and another look follow as long as the deadline is not
reached, which is the whole number of pauses that the time takes, rounded up. -/
def Settings.maxLooks (m : Settings) : Nat :=
  (m.pollTimeout.nanos + m.pollInterval.nanos - 1) / m.pollInterval.nanos

/-- A request that is sent was refused, and not because the account exists. -/
inductive IsRefused (m : Settings) (replies : Replies) : String → Http.Response → Prop where
  /-- The name check was. -/
  | check {response : Http.Response} : replies.check = .ok response → ¬ response.isSuccess →
    IsRefused m replies "check-name-availability" response
  /-- The creation was. -/
  | creation {response : Http.Response} : Finds replies.check true →
    replies.creation = .ok response → ¬ response.isSuccess → ¬ IsTaken replies.creation →
    IsRefused m replies "create-account" response
  /-- A look was. -/
  | look {location : String} {n : Nat} {response : Http.Response} : Finds replies.check true →
    GoesOn replies.creation location → n < m.maxLooks → (∀ k < n, IsPending (replies.looks k)) →
    replies.looks n = .ok response → ¬ response.isSuccess →
    IsRefused m replies "create-account" response

/-! ## The contract -/

/-- What a request is for. -/
inductive Purpose where
  /-- A token. -/
  | token
  /-- Whether a name is available. -/
  | check
  /-- The creation of an account. -/
  | creation
  /-- A look at a creation that goes on. -/
  | look
  /-- Anything else. -/
  | other

/-- What a request is for. -/
def purpose (r : Http.Request) : Purpose :=
  match r.method, r.body with
  | .post, .form _ => .token
  | .post, .json _ => .check
  | .put, .json _ => .creation
  | .get, .none => .look
  | _, _ => .other

/-- A lifetime can be counted from a date on. -/
def IsCountable (date : Timestamp) (word : Nat) : Prop := (endOf? (instant date) word).isSome

instance (date : Timestamp) (word : Nat) : Decidable (IsCountable date word) :=
  inferInstanceAs (Decidable (_ = true))

-- The bounds of a lifetime are too large to be unfolded.
attribute [irreducible] IsCountable

/-- The lifetime of a token, which can be counted from some date on. -/
abbrev Lifetime := { word : Nat // ∃ date, IsCountable date word }

/-- A request for a token was successful. -/
def GivesToken (x : Except Error Http.Response) (w : Lifetime) : Prop :=
  ∃ response secret, x = .ok response ∧ response.isSuccess ∧
    response.json tokenOfJson = .ok (secret, w.val)

/-- The requests so far. -/
structure Requested where
  /-- The looks, on a clock that only pauses move. -/
  watch : Watch
  /-- How often it was asked whether the name is available. -/
  checks : Nat
  /-- How often it was asked to create the account. -/
  creations : Nat
  /-- The lifetime of a token that has just been given, and of which the end is not known yet. -/
  lifetime? : Option Lifetime := none

namespace Requested

/-- Nothing was requested yet. -/
def start (now : Nat) : Requested := ⟨.start now, 0, 0, none⟩

/-- It was asked whether the name is available. -/
def asked (now : Nat) : Requested := ⟨.start now, 1, 0, none⟩

/-- The account was requested, and looked at some times, after a pause each. -/
def looked (m : Settings) (now n : Nat) : Requested :=
  ⟨.regular now m.pollInterval.nanos 1 n n, 1, 1, none⟩

end Requested

/-- The address at which it is asked whether a name is available. -/
def checkUrl (m : Settings) (c : Connection) : String :=
  Http.withQuery (subscriptionUrl c.environment.resourceManager c.identity.subscriptionId
    ++ "/providers/Microsoft.Storage/checkNameAvailability") [("api-version", m.apiVersion)]

/-- The contract of the creation of an account through a connection. It is asked once whether the
name is available, only then and once to create the account, and only then for a look at the
location that is given. These requests are replied to as given, tokens are given whenever they are
asked for, and only pauses move the clock; a date may be any that the last token can be counted
from. -/
def provisioning (m : Settings) (c : Connection) (account : String) (p : AccountParameters)
    (replies : Replies) : Contract World Requested where
  permits g call :=
    match call with
    | .http r =>
      match purpose r with
      | .token => True
      | .check => r.url = checkUrl m c ∧ g.checks = 0 ∧ r.body = .json (.object [
          ("name", .text account), ("type", .text "Microsoft.Storage/storageAccounts")])
      | .creation => r.url = creationUrl m c account ∧ r.body = .json (accountBody p) ∧
          Finds replies.check true ∧ g.creations = 0
      | .look => g.creations = 1 ∧ GoesOn replies.creation r.url
      | .other => False
    | .now | .sleep _ | .time | .readFile _ => True
    | _ => False
  step g call x g' :=
    match call with
    | .http r =>
      match purpose r with
      | .token => ∃ w, GivesToken x w ∧ g' = { g with lifetime? := some w }
      | .check => x = replies.check.mapError .http ∧ g' = { g with checks := g.checks + 1 }
      | .creation =>
        x = replies.creation.mapError .http ∧ g' = { g with creations := g.creations + 1 }
      | .look => x = (replies.looks g.watch.looks.length).mapError .http ∧
          g' = { g with watch := g.watch.look }
      | .other => False
    | .now => (x : Span).nanos = g.watch.now ∧ g' = g
    | .sleep d => g' = { g with watch := g.watch.sleep d }
    | .time =>
      (∀ w ∈ g.lifetime?, IsCountable x w.val) ∧ g' = { g with lifetime? := none }
    | .readFile _ => (∃ text, x = .ok text) ∧ g' = g
    | _ => False

/-- The error of a wait for which there is no more time. -/
def overdue (m : Settings) (account : String) : Error :=
  .timeout ("Azure create-account of " ++ account) m.pollTimeout

/-- How many requests there are, given the replies, and how the creation of an account ends. -/
structure Provisioned (m : Settings) (account : String) (replies : Replies) (now : Nat)
    (r : Except Error Creation) (g : Requested) : Prop where
  /-- It is asked once whether the name is available. -/
  checks : g.checks = 1
  /-- The account is requested at most once. -/
  creations_le : g.creations ≤ 1
  /-- It is requested exactly if the name is available. -/
  available : 0 < g.creations ↔ Finds replies.check true
  /-- There are no more looks than allowed. -/
  few : g.watch.looks.length ≤ m.maxLooks
  /-- The looks are made at regular times, the first one after a pause. -/
  times : g.watch.looks =
    (List.range g.watch.looks.length).map fun j => now + (j + 1) * m.pollInterval.nanos
  /-- The account exists already if its name is not available or its creation is rejected with one
  of three codes. -/
  alreadyExists_iff : r = .ok .alreadyExists ↔
    Finds replies.check false ∨ Finds replies.check true ∧ IsTaken replies.creation
  /-- The account is created if it is complete with the response, or with one of the looks that are
  allowed, up to which it goes on. -/
  created_iff : r = .ok .created ↔ Finds replies.check true ∧
    (IsComplete replies.creation ∨ (∃ location, GoesOn replies.creation location) ∧
      ∃ n < m.maxLooks, (∀ k < n, IsPending (replies.looks k)) ∧ IsDone (replies.looks n))
  /-- The time is over if it goes on with all looks that are allowed. -/
  timeout_iff : ∀ what duration, r = .error (.timeout what duration) ↔
    Finds replies.check true ∧ (∃ location, GoesOn replies.creation location) ∧
      (∀ k < m.maxLooks, IsPending (replies.looks k)) ∧
      Error.timeout what duration = overdue m account
  /-- A look that does not say that it goes on is the last one. -/
  last : Finds replies.check true → ∀ location, GoesOn replies.creation location →
    ∀ n < m.maxLooks, (∀ k < n, IsPending (replies.looks k)) → ¬ IsPending (replies.looks n) →
      g.watch.looks.length = n + 1
  /-- If the time is over then all looks were made that are allowed. -/
  late : Finds replies.check true → ∀ location, GoesOn replies.creation location →
    (∀ k < m.maxLooks, IsPending (replies.looks k)) → g.watch.looks.length = m.maxLooks
  /-- A request that is refused otherwise is an error of its class. -/
  refused : ∀ operation response, IsRefused m replies operation response →
    ∃ message, r = .error (.provider .azure operation account (classOf response) message)

/-! ## Tokens -/

variable {m : Settings} {c d : Connection} {account : String} {p : AccountParameters}
  {replies : Replies} {g : Requested} {σ : Type} {s : σ} {now : Nat}

/-- Two connections differ in their tokens only. -/
def Alike (c d : Connection) : Prop := c.environment = d.environment ∧ c.identity = d.identity

/-- A connection is like itself. -/
lemma Alike.refl (c : Connection) : Alike c c := ⟨rfl, rfl⟩

/-- Where no token was given last, none is forgotten. -/
lemma Requested.without_lifetime (hg : g.lifetime? = none) :
    { g with lifetime? := none } = g := by
  obtain ⟨watch, checks, creations, _⟩ := g
  obtain rfl := hg
  rfl

/-- What an exchange finds out, given the reply.

**Proof sketch.** The request has the reply that the hypothesis says. Without a response it is that
error, and with one it is the response or a refusal, as its status says. -/
lemma ends_exchange {r : Http.Request} (reply : Reply) (g' : Requested)
    (hpermits : (provisioning m c account p replies).permits g (.http r))
    (hstep : ∀ x h, (provisioning m c account p replies).step g (.http r) x h →
      x = reply.mapError .http ∧ h = g') (operation resource : String) :
    Action.Ends (provisioning m c account p replies) (exchange r operation resource) s g
      fun x t h => x = found operation resource reply ∧ t = s ∧ h = g' := by
  refine Action.ends_bind.2 (Action.ends_attempt.2 (Prog.ends_perform.2 ⟨hpermits, ?_⟩))
  intro x h hx
  obtain ⟨rfl, rfl⟩ := hstep x h hx
  cases reply with
  | error reason => exact ⟨rfl, rfl, rfl⟩
  | ok response =>
    change Action.Ends _ (if response.isSuccess then _ else _) _ _ _
    rw [found]
    split
    · exact ⟨rfl, rfl, rfl⟩
    · exact ⟨rfl, rfl, rfl⟩

/-- The fields of a request for a token can be found. -/
lemma ends_tokenForm (scope : String) (i : Identity) :
    Action.Ends (provisioning m c account p replies) (tokenForm scope i) s g
      fun x t h => (∃ form, x = .ok form) ∧ t = s ∧ h = g := by
  rw [tokenForm]
  split
  · exact ⟨⟨_, rfl⟩, rfl, rfl⟩
  · refine Action.ends_bind.2 (Action.ends_attempt.2 (Prog.ends_perform.2 ⟨trivial, ?_⟩))
    rintro _ _ ⟨⟨text, rfl⟩, rfl⟩
    exact ⟨⟨_, rfl⟩, rfl, rfl⟩

/-- A token is given if it is asked for.

**Proof sketch.** The form is put together without a failure, and the response to it is a success
that tells a lifetime. The date is read next, and it is one from which the lifetime can be counted,
so the token has an end. -/
lemma ends_requestToken (e : Environment) (i : Identity) (hg : g.lifetime? = none) :
    Action.Ends (provisioning m c account p replies) (requestToken e i) s g
      fun x t h => (∃ token, x = .ok token) ∧ t = s ∧ h = g := by
  refine Action.ends_bind.2 ((ends_tokenForm _ _).mono ?_)
  rintro _ s g ⟨⟨form, rfl⟩, rfl, rfl⟩
  refine Action.ends_bind.2 (Action.ends_bind.2 (Action.ends_attempt.2
    (Prog.ends_perform.2 ⟨trivial, ?_⟩)))
  rintro _ h ⟨w, ⟨response, secret, rfl, hsuccess, hjson⟩, rfl⟩
  change Action.Ends _ (if response.isSuccess then _ else _) _ _ _
  rw [if_pos hsuccess]
  refine Action.ends_pure.2 (Action.ends_bind.2 (Action.ends_ofExcept.2 ?_))
  rw [hjson]
  refine Action.ends_call trivial ?_
  intro date h hstep
  have hdate : IsCountable date w.val := hstep.1 w rfl
  unfold IsCountable at hdate
  have hh : h = { g with lifetime? := none } := hstep.2
  generalize endOf? (instant date) w.val = endsAt? at hdate ⊢
  cases endsAt? with
  | none => cases hdate
  | some endsAt => exact ⟨⟨_, rfl⟩, rfl, hh.trans (Requested.without_lifetime hg)⟩

/-- The last token is looked at without consequences. -/
lemma ends_freshToken? (hg : g.lifetime? = none) :
    Action.Ends (provisioning m c account p replies) freshToken? d g
      fun x d' h => (∃ token?, x = .ok token?) ∧ d' = d ∧ h = g := by
  refine Action.gives_get.ends_bind ?_
  split
  · exact ⟨⟨_, rfl⟩, rfl, rfl⟩
  · refine Action.ends_call trivial ?_
    rintro date _ ⟨-, rfl⟩
    exact ⟨⟨_, rfl⟩, rfl, Requested.without_lifetime hg⟩

/-- There is always a token for the next request. -/
lemma ends_currentToken (hg : g.lifetime? = none) :
    Action.Ends (provisioning m c account p replies) currentToken d g
      fun x d' h => (∃ token, x = .ok token) ∧ Alike d d' ∧ h = g := by
  refine Action.ends_bind.2 ((ends_freshToken? hg).mono ?_)
  rintro _ _ _ ⟨⟨_ | token, rfl⟩, rfl, rfl⟩
  · refine Action.gives_get.ends_bind (Action.ends_bind.2 ((ends_requestToken _ _ hg).mono ?_))
    rintro _ _ _ ⟨⟨token, rfl⟩, rfl, rfl⟩
    exact ⟨⟨token, rfl⟩, ⟨rfl, rfl⟩, rfl⟩
  · exact ⟨⟨token, rfl⟩, .refl _, rfl⟩

/-! ## One request -/

/-- **A request with a token** finds out what is replied to it, and the connection gets another
token at most. -/
theorem ends_authorized {r : Http.Request} (reply : Reply) (g' : Requested)
    (hg : g.lifetime? = none)
    (hpermits : (provisioning m c account p replies).permits g (.http r))
    (hstep : ∀ x h, (provisioning m c account p replies).step g (.http r) x h →
      x = reply.mapError .http ∧ h = g') (operation resource : String) :
    Action.Ends (provisioning m c account p replies) (authorized r operation resource) d g
      fun x d' h => x = found operation resource reply ∧ Alike d d' ∧ h = g' := by
  refine Action.ends_bind.2 ((ends_currentToken hg).mono ?_)
  rintro _ d' _ ⟨⟨token, rfl⟩, hd, rfl⟩
  refine (ends_exchange (r := { r with headers := r.headers ++ _ }) reply g' hpermits hstep
    _ _).mono ?_
  rintro x _ h ⟨hx, rfl, hh⟩
  exact ⟨hx, hd, hh⟩

/-- What the name check finds. -/
def checked (account : String) (reply : Reply) : Except Error Bool :=
  (found "check-name-availability" account reply).bind (·.json availabilityOfJson)

/-- It is asked whether the name is available. -/
lemma ends_nameAvailable :
    Action.Ends (provisioning m c account p replies) (nameAvailable m account) c (.start now)
      fun x d h => x = checked account replies.check ∧ Alike c d ∧ h = .asked now := by
  refine Action.gives_get.ends_bind (Action.ends_bind.2 ((ends_authorized replies.check
    (.asked now) rfl ?permits ?step _ _).mono ?_))
  case permits => exact ⟨rfl, rfl, rfl⟩
  case step => exact fun _ _ h => h
  rintro _ d h ⟨rfl, hd, rfl⟩
  rw [checked]
  cases found "check-name-availability" account replies.check with
  | error e => exact ⟨rfl, hd, rfl⟩
  | ok response => exact ⟨rfl, hd, rfl⟩

/-- It is asked to create the account. -/
lemma ends_sendCreation (hd : Alike c d) (hchecked : Finds replies.check true) :
    Action.Ends (provisioning m c account p replies)
      (sendAccount m .put account (.json (accountBody p)) "create-account") d (.asked now)
      fun x _ h => x = found "create-account" account replies.creation ∧ h = .looked m now 0 := by
  have hurl : creationUrl m d account = creationUrl m c account := by
    rw [creationUrl, creationUrl, accountAddress, accountAddress, hd.1, hd.2]
  refine Action.gives_get.ends_bind ((ends_authorized replies.creation (.looked m now 0) rfl
    ?permits ?step _ _).mono ?_)
  case permits => exact ⟨hurl, rfl, hchecked, rfl⟩
  case step =>
    rw [Requested.looked, Watch.regular_zero]
    exact fun _ _ h => h
  exact fun _ _ _ h => ⟨h.1, h.2.2⟩

/-! ## Looks -/

/-- What a look says: whether the creation is over, and how. -/
def verdict (account : String) (replies : Replies) (n : Nat) : Option (Except Error Unit) :=
  match found "create-account" account (replies.looks n) with
  | .ok response => if response.status = 202 then none else some (.ok ())
  | .error e => some (.error e)

/-- The time is over if no more looks are allowed. -/
lemma Settings.maxLooks_le_iff {n : Nat} (hi : 0 < m.pollInterval.nanos) :
    m.maxLooks ≤ n ↔ m.pollTimeout.nanos ≤ n * m.pollInterval.nanos := by
  rw [maxLooks, pauses_le_iff hi]

/-- What one look at a creation leads to, after `n` looks: it settles the matter, there is no more
time for it, or one more look did not settle the matter. -/
def Looked (m : Settings) (account : String) (replies : Replies) (now n : Nat) :
    Except Error (Unit ⊕ Unit) → Requested → Prop
  | .ok (.inl ()), h => n < m.maxLooks ∧ Unsettled (verdict account replies) (n + 1) ∧
      h = .looked m now (n + 1)
  | .ok (.inr ()), h => ∃ k, Depot.Polled (verdict account replies) m.maxLooks
      (.error (overdue m account)) k (.ok ()) ∧ h = .looked m now k
  | .error e, h => ∃ k, Depot.Polled (verdict account replies) m.maxLooks
      (.error (overdue m account)) k (.error e) ∧ h = .looked m now k

/-- **One look at a creation that goes on**, if there is time for it.

**Proof sketch.** The round reads the time first, which is the one of look `n`; it is over the
deadline exactly if the limit of looks is reached. Otherwise it waits and asks, and the reply
settles the creation or leaves it as unsettled as before. -/
lemma ends_poll {location : String} {n : Nat} (hi : 0 < m.pollInterval.nanos)
    (hlocation : GoesOn replies.creation location) (hn : n ≤ m.maxLooks)
    (hunsettled : Unsettled (verdict account replies) n) :
    Action.Ends (provisioning m c account p replies)
      (poll m location "create-account" account (now + m.pollTimeout.nanos)) d (.looked m now n)
      fun x _ h => Looked m account replies now n x h := by
  refine Action.ends_call trivial ?_
  rintro (time : Span) _ ⟨htime, rfl⟩
  have htime : time.nanos = now + n * m.pollInterval.nanos := htime
  have hiff : now + m.pollTimeout.nanos ≤ time.nanos ↔ m.maxLooks ≤ n := by
    rw [htime, Nat.add_le_add_iff_left, Settings.maxLooks_le_iff hi]
  split
  · rename_i hlate
    obtain rfl := Nat.le_antisymm hn (hiff.1 hlate)
    exact ⟨m.maxLooks, .late hunsettled, rfl⟩
  rename_i hearly
  have hlt : n < m.maxLooks := Nat.not_le.1 (mt hiff.2 hearly)
  refine Action.ends_call trivial ?_
  rintro ⟨⟩ _ rfl
  refine Action.ends_bind.2 ((ends_authorized (replies.looks n) (.looked m now (n + 1)) rfl
    ?permits ?step _ _).mono ?_)
  case permits => exact ⟨rfl, hlocation⟩
  case step =>
    rintro x h ⟨rfl, rfl⟩
    simp only [Requested.looked, Watch.sleep_regular, Watch.look_regular,
      Watch.length_looks_regular]
    exact ⟨rfl, trivial⟩
  rintro _ d' _ ⟨rfl, -, rfl⟩
  cases hfound : found "create-account" account (replies.looks n) with
  | error e => exact ⟨n + 1, .settled hlt hunsettled (by rw [verdict, hfound]), rfl⟩
  | ok response =>
    have htold : verdict account replies n =
        if response.status = 202 then none else some (.ok ()) := by rw [verdict, hfound]
    refine Action.ends_pure.2 ?_
    by_cases hpending : response.status = 202
    · rw [if_pos hpending] at htold ⊢
      exact ⟨hlt, hunsettled.succ htold, rfl⟩
    · rw [if_neg hpending] at htold ⊢
      exact ⟨n + 1, .settled hlt hunsettled htold, rfl⟩

/-- Looks at a creation that goes on end with the first one that settles the matter, or when no more
are allowed.

**Proof sketch.** Before each look there were as many pauses as looks, and none of the looks settled
the matter. Each look leaves fewer of those that are allowed. -/
lemma ends_looks {location : String} (hi : 0 < m.pollInterval.nanos)
    (hlocation : GoesOn replies.creation location) :
    Action.Ends (provisioning m c account p replies)
      (Action.loop (fun () => poll m location "create-account" account
        (now + m.pollTimeout.nanos)) ()) d (.looked m now 0)
      fun x _ h => ∃ n, Depot.Polled (verdict account replies) m.maxLooks
        (.error (overdue m account)) n x ∧ h = .looked m now n := by
  refine Action.ends_loop_of_lt
    (fun _ _ g => ∃ n ≤ m.maxLooks, Unsettled (verdict account replies) n ∧ g = .looked m now n)
    (fun _ g => m.maxLooks - g.watch.looks.length) ⟨0, Nat.zero_le _, .zero, rfl⟩ ?_
  rintro _ d _ ⟨n, hn, hunsettled, rfl⟩
  refine (ends_poll hi hlocation hn hunsettled).mono ?_
  rintro (e | ⟨⟩ | ⟨⟩) _ h hlooked
  · exact hlooked
  · obtain ⟨hlt, hunsettled, rfl⟩ := hlooked
    refine ⟨⟨n + 1, hlt, hunsettled, rfl⟩, ?_⟩
    simp only [Requested.looked, Watch.length_looks_regular]
    omega
  · exact hlooked

/-- A creation that goes on after its response is looked at until it is over.

**Proof sketch.** Without a location the creation is complete. With one, time is read once, by which
the deadline is counted, and the looks begin (`ends_looks`). -/
lemma ends_awaitOperation {response : Http.Response} (hi : 0 < m.pollInterval.nanos)
    (hcreation : replies.creation = .ok response) :
    Action.Ends (provisioning m c account p replies)
      (awaitOperation m response "create-account" account) d (.looked m now 0)
      fun x _ h => (location? response = none ∧ x = .ok () ∧ h = .looked m now 0) ∨
        ∃ location n, location? response = some location ∧
          Depot.Polled (verdict account replies) m.maxLooks (.error (overdue m account)) n x ∧
          h = .looked m now n := by
  rw [awaitOperation, ← location?]
  cases hlocation : location? response with
  | none => exact .inl ⟨rfl, rfl, rfl⟩
  | some location =>
    refine Action.ends_call trivial ?_
    rintro (time : Span) _ ⟨htime, rfl⟩
    have htime : time.nanos = now := by
      rw [htime, Requested.looked, Watch.regular_zero, Watch.start]
    rw [htime]
    refine (ends_looks hi ⟨response, hcreation, hlocation⟩).mono ?_
    rintro x _ _ ⟨n, hpolled, rfl⟩
    exact .inr ⟨location, n, rfl, hpolled, rfl⟩

/-! ## What replies mean -/

/-- What is found out with a reply that is a success.

**Proof sketch.** A reply without a response is an error; a response is what is found out exactly if
its status is a success. -/
lemma found_eq_ok {operation resource : String} {reply : Reply} {response : Http.Response} :
    found operation resource reply = .ok response ↔ reply = .ok response ∧ response.isSuccess := by
  cases reply with
  | error reason => simp [found]
  | ok r =>
    rw [found]
    split
    · rename_i h
      simp only [Except.ok.injEq]
      exact ⟨fun hr => ⟨hr, hr ▸ h⟩, fun hr => hr.1⟩
    · rename_i h
      simp only [reduceCtorEq, Except.ok.injEq, false_iff]
      rintro ⟨rfl, hr⟩
      exact h hr

/-- What is found out with a reply that is a refusal. -/
lemma found_refusal (operation resource : String) {reply : Reply} {response : Http.Response}
    (hreply : reply = .ok response) (hresponse : ¬ response.isSuccess) :
    found operation resource reply = .error (refusal operation resource response) := by
  rw [hreply, found, if_neg hresponse]

/-- A request fails with its connection, or because it is refused. -/
lemma found_eq_error {operation resource : String} {reply : Reply} {e : Error}
    (h : found operation resource reply = .error e) :
    (∃ reason, e = .http reason) ∨ ∃ response, reply = .ok response ∧ ¬ response.isSuccess ∧
      e = refusal operation resource response := by
  cases reply with
  | error reason => exact .inl ⟨reason, (Except.error.inj h).symm⟩
  | ok response =>
    rw [found] at h
    split at h
    · cases h
    · rename_i hresponse
      exact .inr ⟨response, rfl, hresponse, (Except.error.inj h).symm⟩

/-- A request does not fail like a wait. -/
lemma found_ne_timeout {operation resource what : String} {reply : Reply} {duration : Span} :
    found operation resource reply ≠ .error (.timeout what duration) := by
  intro h
  obtain ⟨reason, he⟩ | ⟨response, -, -, he⟩ := found_eq_error h
  · cases he
  · cases he

/-- Whether a name is available is never a timeout. -/
lemma checked_ne_timeout {what : String} {check : Reply} {duration : Span} :
    checked account check ≠ .error (.timeout what duration) := by
  rw [checked]
  cases hfound : found "check-name-availability" account check with
  | error e =>
    intro h
    obtain rfl := Except.error.inj h
    exact found_ne_timeout hfound
  | ok response =>
    change response.json availabilityOfJson ≠ _
    rw [Http.Response.json]
    split <;> nofun

/-- It is known whether a name is available exactly if the reply says so. -/
lemma checked_eq_ok (account : String) {check : Reply} {available : Bool} :
    checked account check = .ok available ↔ Finds check available := by
  rw [checked, Finds]
  constructor
  · intro h
    cases hfound : found "check-name-availability" account check with
    | error e =>
      rw [hfound] at h
      cases h
    | ok response =>
      rw [hfound] at h
      obtain ⟨rfl, hsuccess⟩ := found_eq_ok.1 hfound
      exact ⟨response, rfl, hsuccess, h⟩
  · rintro ⟨response, rfl, hsuccess, hjson⟩
    rw [found_eq_ok.2 ⟨rfl, hsuccess⟩]
    exact hjson

/-- The creation is rejected because the account exists if its error says so.

**Proof sketch.** A refusal has the class that its code stands for (`refusal_eq`), and this is that
something exists only for the codes of a name that is taken; an error without a response has no
class. -/
lemma isTaken_iff (account : String) {creation : Reply} : IsTaken creation ↔
    ∃ e, found "create-account" account creation = .error e ∧ e.isAlreadyExists := by
  have hrefusal (response : Http.Response) :
      (refusal "create-account" account response).isAlreadyExists ↔
        ∃ code ∈ takenCodes, codeOf? response = some code := by
    obtain ⟨message, hmessage⟩ := refusal_eq "create-account" account response
    rw [hmessage, ← classOf_eq_alreadyExists, Error.isAlreadyExists, Error.faultKind?, beq_iff_eq,
      Option.some.injEq]
  constructor
  · rintro ⟨response, hcreation, hresponse, hcode⟩
    exact ⟨_, found_refusal _ _ hcreation hresponse, (hrefusal response).2 hcode⟩
  · rintro ⟨e, he, hexists⟩
    obtain ⟨reason, rfl⟩ | ⟨response, hcreation, hresponse, rfl⟩ := found_eq_error he
    · cases hexists
    · exact ⟨response, hcreation, hresponse, (hrefusal response).1 hexists⟩

/-- The creation is complete with a success that gives no location. -/
lemma isComplete_iff (account : String) {creation : Reply} : IsComplete creation ↔
    ∃ response, found "create-account" account creation = .ok response ∧
      location? response = none := by
  simp only [IsComplete, found_eq_ok, and_assoc]

/-- That a request was accepted is a success. -/
lemma isSuccess_of_accepted {response : Http.Response} (h : response.status = 202) :
    response.isSuccess := by
  rw [Http.Response.isSuccess, h]
  rfl

/-- The creation goes on with a success that gives a location. -/
lemma goesOn_iff (account : String) {creation : Reply} {location : String} :
    GoesOn creation location ↔
    ∃ response, found "create-account" account creation = .ok response ∧
      location? response = some location := by
  refine exists_congr fun response => ?_
  rw [found_eq_ok, and_assoc]
  refine and_congr_right fun _ => (and_iff_right_of_imp fun hlocation => ?_).symm
  unfold location? at hlocation
  split at hlocation
  · rename_i haccepted
    exact isSuccess_of_accepted haccepted
  · cases hlocation

/-- A creation is pending if the look at it is answered as accepted. -/
lemma isPending_iff (account : String) {look : Reply} : IsPending look ↔
    ∃ response, found "create-account" account look = .ok response ∧ response.status = 202 := by
  refine exists_congr fun response => ?_
  rw [found_eq_ok, and_assoc]
  exact and_congr_right fun _ => (and_iff_right_of_imp isSuccess_of_accepted).symm

/-- A creation is done if the look at it is a success of another kind. -/
lemma isDone_iff (account : String) {look : Reply} : IsDone look ↔
    ∃ response, found "create-account" account look = .ok response ∧ response.status ≠ 202 := by
  simp only [IsDone, found_eq_ok, and_assoc]

/-- A look settles nothing exactly if the creation is pending. -/
lemma verdict_eq_none {n : Nat} :
    verdict account replies n = none ↔ IsPending (replies.looks n) := by
  rw [verdict, isPending_iff account]
  cases found "create-account" account (replies.looks n) <;> simp

/-- A look settles the creation with a success exactly if it is done. -/
lemma verdict_eq_ok {n : Nat} :
    verdict account replies n = some (.ok ()) ↔ IsDone (replies.looks n) := by
  rw [verdict, isDone_iff account]
  cases found "create-account" account (replies.looks n) <;> simp

/-- A look settles the creation with an error exactly if its reply is that error. -/
lemma verdict_eq_error {n : Nat} {e : Error} :
    verdict account replies n = some (.error e) ↔
      found "create-account" account (replies.looks n) = .error e := by
  rw [verdict]
  cases found "create-account" account (replies.looks n) <;> simp

/-- Some looks leave the creation unsettled exactly if it is pending in each of them. -/
lemma unsettled_iff_pending {n : Nat} :
    Unsettled (verdict account replies) n ↔ ∀ k < n, IsPending (replies.looks k) :=
  forall₂_congr fun _ _ => verdict_eq_none

/-! ## The end -/

/-- How the creation of an account goes, given the replies, and how it ends. -/
inductive Goes (m : Settings) (account : String) (replies : Replies) (now : Nat) :
    Except Error Creation → Requested → Prop where
  /-- The name check fails. -/
  | unchecked {e : Error} : checked account replies.check = .error e →
    Goes m account replies now (.error e) (.asked now)
  /-- The name is not available. -/
  | unavailable : checked account replies.check = .ok false →
    Goes m account replies now (.ok .alreadyExists) (.asked now)
  /-- The creation fails. -/
  | rejected {e : Error} : checked account replies.check = .ok true →
    found "create-account" account replies.creation = .error e →
    Goes m account replies now (if e.isAlreadyExists then .ok .alreadyExists else .error e)
      (.looked m now 0)
  /-- The creation is complete with the response. -/
  | complete {response : Http.Response} : checked account replies.check = .ok true →
    found "create-account" account replies.creation = .ok response →
    location? response = none → Goes m account replies now (.ok .created) (.looked m now 0)
  /-- The creation goes on after the response. -/
  | awaited {response : Http.Response} {location : String} {n : Nat} {x : Except Error Unit} :
    checked account replies.check = .ok true →
    found "create-account" account replies.creation = .ok response →
    location? response = some location →
    Depot.Polled (verdict account replies) m.maxLooks (.error (overdue m account)) n x →
    Goes m account replies now (x.map fun _ => .created) (.looked m now n)

/-- **The creation of an account** goes as the replies say.

**Proof sketch.** The check, the request and the looks are followed by what was shown of each, and
their outcomes are told apart as in `Goes`: a check that fails, a name that is taken, a request that
is rejected, and a creation that is complete or awaited. -/
lemma ends_createAccount (hi : 0 < m.pollInterval.nanos) :
    Action.Ends (provisioning m c account p replies) (createAccount m account p) c (.start now)
      fun r _ g => Goes m account replies now r g := by
  refine Action.ends_bind.2 (ends_nameAvailable.mono ?_)
  rintro available d _ ⟨havailable, hd, rfl⟩
  obtain e | _ | _ := available
  · exact .unchecked havailable.symm
  · exact .unavailable havailable.symm
  · have hchecked := havailable.symm
    refine Action.ends_bind.2 (Action.ends_outcome.2
      ((ends_sendCreation hd ((checked_eq_ok ..).1 hchecked)).mono ?_))
    rintro response d _ ⟨hresponse, rfl⟩
    obtain e | response := response
    · have hrejected : Goes m account replies now _ _ := .rejected hchecked hresponse.symm
      dsimp only
      split
      · rename_i he
        rwa [if_pos he] at hrejected
      · rename_i he
        rwa [if_neg he] at hrejected
    · have hcreation := (found_eq_ok.1 hresponse.symm).1
      refine Action.ends_bind.2 ((ends_awaitOperation hi hcreation).mono ?_)
      rintro x d _ (⟨hlocation, rfl, rfl⟩ | ⟨location, n, hlocation, hpolled, rfl⟩)
      · exact .complete hchecked hresponse.symm hlocation
      · have hawaited : Goes m account replies now _ _ :=
          .awaited hchecked hresponse.symm hlocation hpolled
        cases x with
        | ok _ => exact hawaited
        | error e => exact hawaited

namespace Goes

variable {r : Except Error Creation} (h : Goes m account replies now r g)
include h

/-- The name belongs to someone else exactly if the check says so, or the request is rejected with a
code for that. -/
lemma alreadyExists_iff : r = .ok .alreadyExists ↔
    Finds replies.check false ∨ Finds replies.check true ∧ IsTaken replies.creation := by
  rw [← checked_eq_ok account, ← checked_eq_ok account, isTaken_iff account]
  cases h with
  | unchecked hchecked => simp [hchecked]
  | unavailable hchecked => simp [hchecked]
  | @rejected e hchecked hfound => by_cases he : e.isAlreadyExists <;> simp [hchecked, hfound, he]
  | complete hchecked hfound => simp [hchecked, hfound]
  | @awaited _ _ _ x hchecked hfound => cases x <;> simp [hchecked, hfound, Except.map]

/-- The account was created exactly if its name was available and the creation is complete at once,
or goes on and is done in a look for which there is time, after looks in which it was pending.

**Proof sketch.** By the ways in which a creation goes. What is awaited ends with a success exactly
if some look within the limit settles it so (`Polled.eq_iff`). -/
lemma created_iff : r = .ok .created ↔ Finds replies.check true ∧
    (IsComplete replies.creation ∨ (∃ location, GoesOn replies.creation location) ∧
      ∃ n < m.maxLooks, (∀ k < n, IsPending (replies.looks k)) ∧ IsDone (replies.looks n)) := by
  rw [← checked_eq_ok account, isComplete_iff account]
  simp only [goesOn_iff account]
  cases h with
  | unchecked hchecked => simp [hchecked]
  | unavailable hchecked => simp [hchecked]
  | @rejected e hchecked hfound => by_cases he : e.isAlreadyExists <;> simp [hchecked, hfound, he]
  | complete hchecked hfound hlocation => simp [hchecked, hfound, hlocation]
  | @awaited _ _ _ x hchecked hfound hlocation hpolled =>
    have hx : (x.map fun _ => Creation.created) = .ok .created ↔ x = .ok () := by
      cases x <;> simp [Except.map]
    rw [hx, hpolled.eq_iff]
    simp [hchecked, hfound, hlocation, unsettled_iff_pending, verdict_eq_ok]

/-- A timeout is reported exactly if the name was available, the creation goes on, and it is pending
in every look for which there is time.

**Proof sketch.** By the ways in which a creation goes. Neither the check nor a reply is ever a
timeout, so it stems from the looks, and these end so exactly if none settles the creation. -/
lemma timeout_iff (what : String) (duration : Span) : r = .error (.timeout what duration) ↔
    Finds replies.check true ∧ (∃ location, GoesOn replies.creation location) ∧
      (∀ k < m.maxLooks, IsPending (replies.looks k)) ∧
      Error.timeout what duration = overdue m account := by
  rw [← checked_eq_ok account]
  simp only [goesOn_iff account]
  cases h with
  | @unchecked e hchecked =>
    have he : e ≠ .timeout what duration := by
      rintro rfl
      exact checked_ne_timeout hchecked
    simp [hchecked, he]
  | unavailable hchecked => simp [hchecked]
  | @rejected e hchecked hfound =>
    have he : e ≠ .timeout what duration := by
      rintro rfl
      exact found_ne_timeout hfound
    by_cases hexists : e.isAlreadyExists <;> simp [hchecked, hfound, hexists, he]
  | complete hchecked hfound hlocation => simp [hchecked, hfound, hlocation]
  | @awaited _ _ _ x hchecked hfound hlocation hpolled =>
    have hx : (x.map fun _ => Creation.created) = .error (.timeout what duration) ↔
        x = .error (.timeout what duration) := by
      cases x <;> simp [Except.map]
    rw [hx, hpolled.eq_iff]
    simp [hchecked, hfound, hlocation, unsettled_iff_pending, verdict_eq_error, found_ne_timeout]

/-- The creation fails with the name check. -/
lemma eq_of_unchecked {e : Error} (he : checked account replies.check = .error e) :
    r = .error e := by
  cases h with
  | unchecked hchecked => rw [Except.error.inj (hchecked.symm.trans he)]
  | unavailable hchecked | rejected hchecked | complete hchecked | awaited hchecked =>
    cases hchecked.symm.trans he

/-- It fails with the request for the account, unless that exists. -/
lemma eq_of_rejected {e : Error} (hcheck : checked account replies.check = .ok true)
    (he : found "create-account" account replies.creation = .error e)
    (hexists : ¬ e.isAlreadyExists) : r = .error e := by
  cases h with
  | unchecked hchecked | unavailable hchecked => cases hchecked.symm.trans hcheck
  | rejected _ hfound =>
    obtain rfl := Except.error.inj (hfound.symm.trans he)
    exact if_neg hexists
  | complete _ hfound | awaited _ hfound => cases hfound.symm.trans he

/-- An account is requested exactly if the check says that its name is available. -/
lemma available : 0 < g.creations ↔ Finds replies.check true := by
  rw [← checked_eq_ok account]
  cases h with
  | unchecked hchecked | unavailable hchecked =>
    exact iff_of_false (Nat.lt_irrefl 0) (by rw [hchecked]; nofun)
  | rejected hchecked | complete hchecked | awaited hchecked =>
    exact iff_of_true Nat.one_pos hchecked

/-- If the creation goes on then the looks are those that say how it ends. -/
lemma exists_polled {location : String} (hcheck : Finds replies.check true)
    (hlocation : GoesOn replies.creation location) : ∃ n x,
      Depot.Polled (verdict account replies) m.maxLooks (.error (overdue m account)) n x ∧
        r = x.map (fun _ => .created) ∧ g.watch.looks.length = n := by
  have hcheck := (checked_eq_ok account).2 hcheck
  obtain ⟨response, hcreation, hlocation⟩ := (goesOn_iff account).1 hlocation
  cases h with
  | unchecked hchecked | unavailable hchecked => cases hchecked.symm.trans hcheck
  | rejected _ hfound => cases hfound.symm.trans hcreation
  | complete _ hfound hcomplete =>
    obtain rfl := Except.ok.inj (hfound.symm.trans hcreation)
    cases hcomplete.symm.trans hlocation
  | awaited _ _ _ hpolled => exact ⟨_, _, hpolled, rfl, Watch.length_looks_regular⟩

/-- It fails with the first look that does not say that it goes on. -/
lemma eq_of_look {location : String} {n : Nat} {e : Error} (hcheck : Finds replies.check true)
    (hlocation : GoesOn replies.creation location) (hn : n < m.maxLooks)
    (hpending : ∀ k < n, IsPending (replies.looks k))
    (he : found "create-account" account (replies.looks n) = .error e) : r = .error e := by
  obtain ⟨_, _, hpolled, rfl, -⟩ := h.exists_polled hcheck hlocation
  obtain rfl := (hpolled.eq_iff _).2
    (.inl ⟨n, hn, unsettled_iff_pending.2 hpending, verdict_eq_error.2 he⟩)
  rfl

/-- **A request that is refused** is what the creation fails with, unless the account exists.

**Proof sketch.** By the request that is refused: the check, the creation unless it tells that the
name is taken, or a look after looks in which the creation was pending. -/
lemma eq_refusal {operation : String} {response : Http.Response}
    (hrefused : IsRefused m replies operation response) :
    r = .error (refusal operation account response) := by
  cases hrefused with
  | check hreply hresponse =>
    refine h.eq_of_unchecked ?_
    rw [checked, found_refusal _ _ hreply hresponse]
    rfl
  | creation hcheck hreply hresponse htaken =>
    have hfound := found_refusal "create-account" account hreply hresponse
    exact h.eq_of_rejected ((checked_eq_ok account).2 hcheck) hfound
      fun hexists => htaken ((isTaken_iff account).2 ⟨_, hfound, hexists⟩)
  | look hcheck hlocation hn hpending hreply hresponse =>
    exact h.eq_of_look hcheck hlocation hn hpending (found_refusal _ _ hreply hresponse)

/-- The last look is the first that settles the creation. -/
lemma length_of_settled {location : String} {n : Nat} (hcheck : Finds replies.check true)
    (hlocation : GoesOn replies.creation location) (hn : n < m.maxLooks)
    (hpending : ∀ k < n, IsPending (replies.looks k)) (hover : ¬ IsPending (replies.looks n)) :
    g.watch.looks.length = n + 1 := by
  obtain ⟨_, _, hpolled, -, hlength⟩ := h.exists_polled hcheck hlocation
  obtain ⟨a, ha⟩ := Option.ne_none_iff_exists'.1 (mt verdict_eq_none.1 hover)
  exact hlength.trans (hpolled.eq_of_settled hn (unsettled_iff_pending.2 hpending) ha)

/-- There are as many looks as there is time for if none settles the creation. -/
lemma length_of_unsettled {location : String} (hcheck : Finds replies.check true)
    (hlocation : GoesOn replies.creation location)
    (hpending : ∀ k < m.maxLooks, IsPending (replies.looks k)) :
    g.watch.looks.length = m.maxLooks := by
  obtain ⟨_, _, hpolled, -, hlength⟩ := h.exists_polled hcheck hlocation
  exact hlength.trans (hpolled.eq_of_unsettled (unsettled_iff_pending.2 hpending))

end Goes

/-- How the creation goes says how many requests there are, and how it ends.

**Proof sketch.** Each field is read off from the ways in which a creation goes. Looks are made only
if it is awaited, and then their times are regular. -/
lemma provisioned_of_goes {r : Except Error Creation} (h : Goes m account replies now r g) :
    Provisioned m account replies now r g where
  checks := by cases h <;> rfl
  creations_le := by
    cases h with
    | unchecked | unavailable => exact Nat.zero_le _
    | rejected | complete | awaited => exact Nat.le_refl _
  available := h.available
  few := by
    cases h with
    | awaited _ _ _ hpolled => exact Watch.length_looks_regular.trans_le hpolled.le_limit
    | _ => exact Nat.zero_le _
  times := by
    cases h with
    | @awaited _ _ n =>
      rw [show (Requested.looked m now n).watch.looks.length = n from Watch.length_looks_regular]
      rfl
    | _ => rfl
  alreadyExists_iff := h.alreadyExists_iff
  created_iff := h.created_iff
  timeout_iff := h.timeout_iff
  last hcheck _ hlocation _ := h.length_of_settled hcheck hlocation
  late hcheck _ hlocation := h.length_of_unsettled hcheck hlocation
  refused operation response hrefused := by
    obtain ⟨message, hmessage⟩ := refusal_eq operation account response
    exact ⟨message, hmessage ▸ h.eq_refusal hrefused⟩

/-- **The creation of an account** comes to an end, whatever the replies. The account is requested
once if its name is available, and not otherwise; it is looked at, at regular times, if the request
was accepted and goes on. It exists already if its name is not available or the request is rejected
with one of three codes, whatever the status; it is created if the request is carried out at once,
or after some looks that are allowed; and the time is over if it still goes on with all of them.
What is refused otherwise is an error of the class that its code has, or of that of the status.

**Proof sketch.** A token is there for every request and leaves the connection as it is otherwise
(`ends_authorized`), so the requests are those that the replies call for (`ends_nameAvailable`,
`ends_sendCreation`). The looks are a loop in which each one settles the matter or not
(`ends_looks`). It remains to read the end from the replies (`Goes`). -/
theorem provisions (m : Settings) (hi : 0 < m.pollInterval.nanos) (c : Connection)
    (account : String) (p : AccountParameters) (replies : Replies) (now : Nat) :
    Action.Ends (provisioning m c account p replies) (createAccount m account p) c (.start now)
      fun r _ g => Provisioned m account replies now r g :=
  (ends_createAccount hi).mono fun _ _ _ h => provisioned_of_goes h

/-- A response with a token. -/
def tokenResponse : Http.Response where
  status := 200
  body := "\x7b\"access_token\":\"token\",\"expires_in\":3600\x7d"

/-- Its token can be counted from the start of 1970 on. -/
def hour : Lifetime := ⟨3600, default, by decide⟩

/-- What may be asked can be answered.

**Proof sketch.** A request is answered with the reply to it, and one for a token with a token of an
hour. Where a date is asked for after that, the contract knows one from which its lifetime can be
counted. -/
lemma provisioning_answers (g : Requested) (call : World.Call)
    (hcall : (provisioning m c account p replies).permits g call) :
    ∃ x g', (provisioning m c account p replies).step g call x g' := by
  cases call with
  | http r =>
    simp only [provisioning] at hcall ⊢
    split
    · exact ⟨.ok tokenResponse, _, hour, ⟨tokenResponse, "token", rfl, rfl, by decide +kernel⟩, rfl⟩
    · exact ⟨_, _, rfl, rfl⟩
    · exact ⟨_, _, rfl, rfl⟩
    · exact ⟨_, _, rfl, rfl⟩
    · rename_i hother
      rw [hother] at hcall
      exact hcall.elim
  | readFile path => exact ⟨.ok "", g, ⟨"", rfl⟩, rfl⟩
  | now => exact ⟨(⟨g.watch.now⟩ : Span), g, rfl, rfl⟩
  | sleep d => exact ⟨(), _, rfl⟩
  | time =>
    obtain ⟨watch, checks, creations, _ | ⟨w, date, hdate⟩⟩ := g
    · exact ⟨(default : Timestamp), _, nofun, rfl⟩
    · refine ⟨date, _, fun v hv => ?_, rfl⟩
      obtain rfl := Option.mem_some_iff.1 hv
      exact hdate
  | _ => exact hcall.elim

/-- Settings with which three looks are allowed. -/
def hasty : Settings := { pollInterval := .ofSeconds 1, pollTimeout := .ofMillis 2500 }

/-- Replies of a resource manager that accepts a creation, and completes it before the third look.
-/
def accepting : Replies where
  check := .ok { status := 200, body := "\x7b\"nameAvailable\":true\x7d" }
  creation := .ok { status := 202, headers := [("Location", "https://operation")] }
  looks n := .ok { status := if n < 2 then 202 else 200 }

/-- The account is created with the third look, the last one for which there is time. -/
theorem provisions_accepting :
    0 < hasty.pollInterval.nanos ∧
    Action.May (provisioning hasty default "images" ⟨"westeurope", .empty⟩ accepting)
      (createAccount hasty "images" ⟨"westeurope", .empty⟩) default (.start 7) fun r _ g =>
        r = .ok .created ∧ g.creations = 1 ∧
          g.watch.looks = [1000000007, 2000000007, 3000000007] := by
  have hends := provisions hasty (by decide) default "images" ⟨"westeurope", .empty⟩ accepting 7
  refine ⟨by decide, (hends.may_of_answers provisioning_answers).mono ?_⟩
  rintro r _ g hprovisioned
  have hcheck : Finds accepting.check true := ⟨_, rfl, rfl, by decide +kernel⟩
  have hlocation : GoesOn accepting.creation "https://operation" := ⟨_, rfl, by decide +kernel⟩
  have hpending : ∀ k < 2, IsPending (accepting.looks k) := fun k hk => ⟨_, rfl, if_pos hk⟩
  have hdone : IsDone (accepting.looks 2) := ⟨_, rfl, by decide, by decide⟩
  have hover : ¬ IsPending (accepting.looks 2) := by
    rintro ⟨_, hlook, hstatus⟩
    obtain rfl := Except.ok.inj hlook
    exact absurd hstatus (by decide)
  have hlength : g.watch.looks.length = 3 :=
    hprovisioned.last hcheck _ hlocation 2 (by decide) hpending hover
  refine ⟨hprovisioned.created_iff.2 ⟨hcheck, .inr ⟨⟨_, hlocation⟩, 2, by decide, hpending, hdone⟩⟩,
    Nat.le_antisymm hprovisioned.creations_le (hprovisioned.available.2 hcheck), ?_⟩
  rw [hprovisioned.times, hlength]
  rfl

end Depot.Azure.Manager
