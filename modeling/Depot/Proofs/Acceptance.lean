import Depot.Connectors
import Depot.Json.Lookup
import Depot.Proofs.Azure
import Depot.Proofs.Percent

set_option autoImplicit false

/-!
# Storage accounts whose creation was accepted

The resource manager of Azure may accept the creation of a storage account before it is complete,
and then gives a location at which it can be looked at. What the exchanges over HTTP say about a
creation is followed here call by call: the operator is told that an account was created exactly if
the creation was accepted and then seen to be complete. All other requests have no part in this.

## Main definitions

* `Manager.IsCreation`, `Manager.IsFor` — the requests that create an account, and which one.
* `Manager.Acceptance` — what is known of a creation, with `Acceptance.contract`.
* `Manager.IsConfirmed` — a creation that was accepted is seen to be complete.

## Main results

* `Manager.keeps_createAccount` — the answer to a creation says whether it is complete.
* `Manager.keeps_answer` — no other call to Azure has consequences.
* `Manager.IsFor.unique` — a request is for one account only.
* `Manager.Acceptance.after_start`, `Manager.Acceptance.after_start_of_not` — a creation that was
  accepted is complete exactly if it is confirmed.
-/

namespace Depot.Azure.Manager

/-! ## Creations over HTTP -/

/-- The kind of resource that a request is about; empty if it does not say. -/
def kindOf : Http.Body → String
  | .json v => v.textAt "kind"
  | _ => ""

/-- The request creates a storage account. -/
def IsCreation (r : Http.Request) : Prop := r.method = .put ∧ kindOf r.body = "StorageV2"

instance (r : Http.Request) : Decidable (IsCreation r) := inferInstanceAs (Decidable (_ ∧ _))

/-- Where a creation goes on after a response; none if it is complete. -/
def location? (r : Http.Response) : Option String :=
  if r.status = 202 then r.headerText? "Location" else none

/-- A look at a location was answered, and says that the creation is complete. -/
def Completes (location : String) (r : Http.Request) (response : Http.Response) : Prop :=
  r.method = .get ∧ r.url = location ∧ response.isSuccess ∧ response.status ≠ 202

instance (location : String) (r : Http.Request) (response : Http.Response) :
    Decidable (Completes location r response) :=
  inferInstanceAs (Decidable (_ ∧ _))

/-- What is known of the creation of a storage account. -/
inductive Acceptance where
  /-- None was accepted. -/
  | absent
  /-- One was accepted, and goes on at a location. -/
  | ongoing (url location : String)
  /-- One was accepted, and is complete. -/
  | complete (url : String)

namespace Acceptance

/-- A creation was accepted with a response. -/
def start (url : String) (response : Http.Response) : Acceptance :=
  match location? response with
  | none => .complete url
  | some location => .ongoing url location

/-- An exchange over HTTP succeeded. -/
def exchanged (r : Http.Request) (response : Http.Response) : Acceptance → Acceptance
  | .absent => if IsCreation r then start r.url response else .absent
  | .ongoing url location =>
    if Completes location r response then .complete url else .ongoing url location
  | .complete url => .complete url

/-- What is known after a call was answered. -/
def next (g : Acceptance) : (c : World.Call) → World.Answer c → Acceptance
  | .http r, .ok response => if response.isSuccess then g.exchanged r response else g
  | _, _ => g

/-- What is known after a trace. -/
def after (g : Acceptance) (es : Trace World) : Acceptance :=
  es.foldl (fun g e => g.next e.call e.answer) g

/-- What is known after two traces one after another is known after the second from what is known
after the first. -/
lemma after_append (g : Acceptance) (es fs : Trace World) :
    g.after (es ++ fs) = (g.after es).after fs := List.foldl_append

/-- At most one creation is tried. -/
def permits (g : Acceptance) : World.Call → Prop
  | .http r => IsCreation r → g = .absent
  | _ => True

/-- The contract that remembers whether a creation was accepted. -/
def contract : Contract World Acceptance := .tracking permits next

/-- No creation goes on. -/
def IsSettled (g : Acceptance) : Prop := ∀ url location, g ≠ .ongoing url location

end Acceptance

/-! ## Confirmations -/

/-- The answered call says that the creation that goes on at a location is complete. -/
def IsCompletion (location : String) : Event World → Prop
  | ⟨.http r, .ok response⟩ => Completes location r response
  | _ => False

/-- A creation that was accepted is seen to be complete: by the response itself, or by a later look
at the location that it gives. -/
def IsConfirmed (response : Http.Response) (es : Trace World) : Prop :=
  ∀ location, location? response = some location → ∃ e ∈ es, IsCompletion location e

namespace Acceptance

/-- Only an exchange over HTTP that succeeds changes what is known. -/
lemma next_eq {g g' : Acceptance} {c : World.Call} (x : World.Answer c) (hg : g = g')
    (h : ∀ r response, c = .http r → HEq x (.ok response : Except Error Http.Response) →
      response.isSuccess → g.exchanged r response = g') : g.next c x = g' := by
  cases c with
  | http r =>
    rcases x with e | response
    · exact hg
    · change (if response.isSuccess then g.exchanged r response else g) = g'
      split
      · rename_i hs
        exact h r response rfl .rfl hs
      · exact hg
  | _ => exact hg

/-- A creation that is complete stays so. -/
lemma after_complete (url : String) (es : Trace World) :
    (complete url).after es = .complete url := by
  induction es with
  | nil => rfl
  | cons e es ih =>
    rw [after, List.foldl_cons, next_eq e.answer rfl fun _ _ _ _ _ => rfl]
    exact ih

/-- A completion ends a creation that goes on. -/
lemma next_completion {url location : String} {e : Event World} (he : IsCompletion location e) :
    (ongoing url location).next e.call e.answer = .complete url := by
  unfold IsCompletion at he
  split at he
  · rename_i r response
    exact (if_pos he.2.2.1).trans (if_pos he)
  · exact he.elim

/-- Nothing else does. -/
lemma next_ongoing {url location : String} {e : Event World} (he : ¬ IsCompletion location e) :
    (ongoing url location).next e.call e.answer = .ongoing url location := by
  obtain ⟨c, x⟩ := e
  refine next_eq x rfl ?_
  rintro r response rfl hx -
  obtain rfl := eq_of_heq hx
  exact if_neg he

/-- A creation that goes on is complete as soon as it is seen to be.

**Proof sketch.** By induction on the trace: the first event completes the creation, which then
stays so, or it leaves it going on and another event completes it. -/
lemma after_ongoing {url location : String} {es : Trace World}
    (h : ∃ e ∈ es, IsCompletion location e) : (ongoing url location).after es = .complete url := by
  induction es with
  | nil => exact absurd h (by simp)
  | cons e es ih =>
    rw [after, List.foldl_cons]
    by_cases he : IsCompletion location e
    · rw [next_completion he]
      exact after_complete url es
    · rw [next_ongoing he]
      obtain ⟨f, hf, hc⟩ := h
      rcases List.mem_cons.1 hf with rfl | hf
      · exact absurd hc he
      · exact ih ⟨f, hf, hc⟩

/-- As long as it is not seen to be complete, it goes on. -/
lemma after_ongoing_of_not {url location : String} {es : Trace World}
    (h : ¬ ∃ e ∈ es, IsCompletion location e) :
    (ongoing url location).after es = .ongoing url location := by
  induction es with
  | nil => rfl
  | cons e es ih =>
    rw [after, List.foldl_cons, next_ongoing fun he => h ⟨e, List.mem_cons_self, he⟩]
    exact ih fun ⟨f, hf, hc⟩ => h ⟨f, List.mem_cons_of_mem e hf, hc⟩

/-- A creation that was accepted is complete if it is confirmed. -/
theorem after_start {url : String} {response : Http.Response} {es : Trace World}
    (h : IsConfirmed response es) : (start url response).after es = .complete url := by
  unfold start
  split
  · exact after_complete url es
  · rename_i location hl
    exact after_ongoing (h location hl)

/-- It goes on if it is not confirmed. -/
theorem after_start_of_not (url : String) {response : Http.Response} {es : Trace World}
    (h : ¬ IsConfirmed response es) :
    ∃ location, (start url response).after es = .ongoing url location := by
  unfold start
  split
  · rename_i hl
    exact absurd (fun location hs => nomatch hl.symm.trans hs) h
  · rename_i location hl
    refine ⟨location, after_ongoing_of_not fun hc => h fun l hs => ?_⟩
    obtain rfl := Option.some.inj (hl.symm.trans hs)
    exact hc

end Acceptance

open Acceptance (IsSettled)

variable {g : Acceptance} {σ : Type}

/-- Every call but an exchange over HTTP is without consequences. -/
lemma idle_call {c : World.Call} (hc : ∀ r, c ≠ .http r) : Acceptance.contract.IdleCall g c := by
  constructor
  · cases c with
    | http r => exact absurd rfl (hc r)
    | _ => trivial
  · rintro x _ rfl
    cases c with
    | http r => exact absurd rfl (hc r)
    | _ => rfl

/-- A creation is requested with a PUT. -/
lemma not_isCreation {r : Http.Request} (hr : r.method ≠ .put) : ¬ IsCreation r :=
  fun h => hr h.1

/-- A request for a token is without consequences. -/
lemma exchanged_post {r : Http.Request} (hr : r.method = .post) (response : Http.Response) :
    g.exchanged r response = g := by
  cases g with
  | absent => exact if_neg (not_isCreation (by rw [hr]; decide))
  | ongoing url location =>
    refine if_neg fun h => ?_
    rw [Completes, hr] at h
    cases h.1
  | complete url => rfl

/-- While no creation goes on, a request that creates nothing is without consequences. -/
lemma exchanged_settled {r : Http.Request} (hr : ¬ IsCreation r) (hg : IsSettled g)
    (response : Http.Response) : g.exchanged r response = g := by
  cases g with
  | absent => exact if_neg hr
  | ongoing url location => exact absurd rfl (hg url location)
  | complete url => rfl

/-- The first creation that succeeds is accepted. -/
lemma exchanged_creation {r : Http.Request} (hr : IsCreation r) (response : Http.Response) :
    Acceptance.absent.exchanged r response = .start r.url response := if_pos hr

/-- What an exchange leaves behind: nothing if it fails. -/
def Left (r : Http.Request) (g : Acceptance) : Except Error Http.Response → Acceptance → Prop
  | .ok response, g' => response.isSuccess ∧ g' = g.exchanged r response
  | .error _, g' => g' = g

/-- An exchange counts only if it succeeds.

**Proof sketch.** Without a response nothing has changed, and a response counts exactly if its
status is a success, which is when the exchange gives it. -/
lemma keeps_exchange {r : Http.Request} (hr : IsCreation r → g = .absent)
    (operation resource : String) {s : σ} :
    Action.Keeps Acceptance.contract (exchange r operation resource) s g fun x s' g' =>
      s' = s ∧ Left r g x g' := by
  rw [exchange, Action.keeps_bind, Action.keeps_attempt]
  refine Prog.keeps_perform.2 ⟨hr, ?_⟩
  rintro (e | response) _ rfl
  · exact ⟨rfl, rfl⟩
  · dsimp only
    split
    · rename_i hs
      exact ⟨rfl, hs, if_pos hs⟩
    · rename_i hs
      exact ⟨rfl, if_neg hs⟩

/-- Putting the form for a token together is without consequences. -/
lemma idle_tokenForm (scope : String) (i : Identity) :
    Action.Idle (σ := σ) Acceptance.contract g (tokenForm scope i) := by
  rw [tokenForm]
  split
  · exact Action.idle_pure _
  · rename_i path _
    have hread : Action.Idle (σ := σ) Acceptance.contract g
        (Action.attempt (World.readFile path)) :=
      Action.idle_attempt (Prog.keeps_perform.2 (idle_call fun _ h => nomatch h))
    exact hread.bind fun _ => Action.idle_pure _

/-- Reading the date is without consequences. -/
lemma idle_time : Action.Idle (σ := σ) Acceptance.contract g (Action.perform World.time) :=
  Action.idle_perform (idle_call fun _ h => nomatch h)

/-- Asking for a token is without consequences.

**Proof sketch.** The exchange is a POST, which no creation is, and everything else makes no
request. -/
lemma idle_requestToken (e : Environment) (i : Identity) :
    Action.Idle (σ := σ) Acceptance.contract g (requestToken e i) := by
  have hpost (r : Http.Request) (hr : r.method = .post) (operation resource : String) :
      Action.Idle (σ := σ) Acceptance.contract g (exchange r operation resource) := by
    intro s
    have hput : ¬ IsCreation r := not_isCreation (by rw [hr]; decide)
    refine (keeps_exchange (fun h => absurd h hput) _ _).mono ?_
    rintro (e | response) s' g' ⟨rfl, hg⟩
    · exact ⟨rfl, hg⟩
    · exact ⟨rfl, hg.2.trans (exchanged_post hr response)⟩
  rw [requestToken]
  refine (idle_tokenForm _ _).bind fun form => ?_
  refine (hpost _ rfl _ _).bind fun response => ?_
  refine (Action.idle_ofExcept _).bind ?_
  rintro ⟨secret, word⟩
  refine idle_time.bind fun now => ?_
  split
  · exact Action.idle_pure _
  · exact Action.idle_throw _

/-- Looking at the token at hand is without consequences. -/
lemma idle_freshToken? : Action.Idle Acceptance.contract g freshToken? := by
  refine Action.idle_get.bind fun c => ?_
  split
  · exact Action.idle_pure _
  · exact idle_time.bind fun now => Action.idle_pure _

/-- The token of a connection is renewed without consequences.

**Proof sketch.** The token at hand is looked at, and if it is not fresh another one is requested;
neither has consequences. -/
lemma keeps_currentToken {c : Connection} :
    Action.Keeps Acceptance.contract currentToken c g fun _ _ g' => g' = g := by
  rw [currentToken, Action.keeps_bind]
  refine idle_freshToken?.keeps ?_
  rintro (e | _ | t)
  · rfl
  · dsimp only
    rw [Action.keeps_bind, Action.keeps_get]
    dsimp only
    rw [Action.keeps_bind]
    refine (idle_requestToken _ _).keeps ?_
    rintro (e | t)
    · rfl
    · rfl
  · rfl

/-- A request with a token counts only if it succeeds.

**Proof sketch.** The token only adds a header to the request, which does not matter for what it
creates. -/
lemma keeps_authorized {r : Http.Request} (hr : IsCreation r → g = .absent)
    (operation resource : String) {c : Connection} :
    Action.Keeps Acceptance.contract (authorized r operation resource) c g fun x _ g' =>
      Left r g x g' := by
  rw [authorized, Action.keeps_bind]
  refine keeps_currentToken.mono ?_
  rintro (e | t) c g' rfl
  · rfl
  · refine (keeps_exchange (r := { r with headers := r.headers ++ _ }) hr _ _).mono ?_
    rintro (e | response) _ g'' ⟨-, hg⟩
    · exact hg
    · refine ⟨hg.1, hg.2.trans ?_⟩
      cases g' with
      | _ => rfl

/-- While no creation goes on, a request that creates nothing is without consequences. -/
lemma keeps_plain {r : Http.Request} (hr : ¬ IsCreation r) (hg : IsSettled g)
    (operation resource : String) {c : Connection} :
    Action.Keeps Acceptance.contract (authorized r operation resource) c g
      fun _ _ g' => g' = g := by
  refine (keeps_authorized (fun h => absurd h hr) _ _).mono ?_
  rintro (e | response) _ g' h
  · exact h
  · exact h.2.trans (exchanged_settled hr hg response)

/-! ## Waiting for a creation -/

variable (m : Settings)

/-- How a look at a creation that goes on may end. -/
def Polled (url location : String) : Except Error (Unit ⊕ Unit) → Acceptance → Prop
  | .ok (.inr ()), g => g = .complete url
  | _, g => g = .ongoing url location

/-- A look at a creation ends the wait well only if the response says that it is complete.

**Proof sketch.** The clock and the wait are no requests. The look is a GET at the location of the
creation, and by its response the creation is complete exactly if it is a success other than that it
was accepted. -/
lemma keeps_poll (url location operation resource : String) (deadline : Nat) {c : Connection} :
    Action.Keeps Acceptance.contract (poll m location operation resource deadline) c
      (.ongoing url location) fun x _ g' => Polled url location x g' := by
  have hcall {d : World.Call} (hd : ∀ r, d ≠ .http r) :
      Action.Idle (σ := Connection) Acceptance.contract (.ongoing url location)
        (Action.perform (Prog.perform (I := World) d)) := Action.idle_perform (idle_call hd)
  rw [poll, Action.keeps_bind]
  refine (hcall (d := .now) fun _ h => nomatch h).keeps ?_
  rintro (e | now)
  · rfl
  dsimp only
  split
  · rfl
  rw [Action.keeps_bind]
  refine (hcall (d := .sleep _) fun _ h => nomatch h).keeps ?_
  rintro (e | _)
  · rfl
  dsimp only
  have hget : ¬ IsCreation { method := .get, url := location } := not_isCreation nofun
  rw [Action.keeps_bind]
  refine (keeps_authorized (fun h => absurd h hget) _ _).mono ?_
  rintro (e | response) _ g' hg
  · exact hg
  · obtain ⟨hs, rfl⟩ := hg
    dsimp only [Acceptance.exchanged]
    by_cases h202 : response.status = 202
    · rw [if_pos h202, if_neg fun h => h.2.2.2 h202]
      rfl
    · rw [if_neg h202, if_pos ⟨rfl, rfl, hs, h202⟩]
      rfl

/-- How the wait for a creation may end. -/
def Awaited (url : String) : Except Error Unit → Acceptance → Prop
  | .ok (), g => g = .complete url
  | .error _, g => ∃ location, g = .ongoing url location

/-- Waiting for a creation that was accepted ends well only if it is complete.

**Proof sketch.** Without a location the creation is complete with the response. With one, the
invariant of the loop is that the creation goes on, and each look keeps it or completes the
creation. -/
lemma keeps_awaitOperation (url operation resource : String) (response : Http.Response)
    {c : Connection} :
    Action.Keeps Acceptance.contract (awaitOperation m response operation resource) c
      (.start url response) fun x _ g' => Awaited url x g' := by
  cases hl : location? response with
  | none =>
    have hl' : (if response.status = 202 then response.headerText? "Location" else none) = none :=
      hl
    rw [awaitOperation, Acceptance.start, hl, hl']
    rfl
  | some location =>
    have hl' : (if response.status = 202 then response.headerText? "Location" else none) =
      some location := hl
    rw [awaitOperation, Acceptance.start, hl, hl']
    dsimp only
    rw [Action.keeps_bind]
    have hnow : Action.Idle (σ := Connection) Acceptance.contract (.ongoing url location)
        (Action.perform World.now) := Action.idle_perform (idle_call fun _ h => nomatch h)
    refine hnow.keeps ?_
    rintro (e | now)
    · exact ⟨location, rfl⟩
    refine Action.keeps_loop (fun _ _ g => g = .ongoing url location) rfl ?_
    rintro _ c g rfl
    refine (keeps_poll m url location operation resource _).mono ?_
    rintro (e | _ | _) _ g' hg
    · exact ⟨location, hg⟩
    · exact hg
    · exact hg

/-! ## Creating an account -/

/-- The address at which an account is created. -/
def creationUrl (c : Connection) (account : String) : String :=
  Http.withQuery (accountAddress c account) [("api-version", m.apiVersion)]

/-- The request is made at the address at which an account is created. -/
def IsFor (r : Http.Request) (account : String) : Prop := ∃ c, r.url = creationUrl m c account

/-- **A request is for one account only.**

**Proof sketch.** The address ends in the name of the account, as the last segment before the query,
and from a text with such an end the segment can be told. -/
theorem IsFor.unique {r : Http.Request} {a b : String} (ha : IsFor m r a) (hb : IsFor m r b) :
    a = b := by
  obtain ⟨c, hc⟩ := ha
  obtain ⟨d, hd⟩ := hb
  have hbefore (c : Connection) (account : String) : ∃ start, creationUrl m c account =
      start ++ "/" ++ Text.Percent.encodeSegment account ++
        ("?" ++ Text.Percent.formPairs [("api-version", m.apiVersion)]) :=
    ⟨subscriptionUrl c.environment.resourceManager c.identity.subscriptionId ++ "/resourceGroups/"
      ++ Text.Percent.encodeSegment c.identity.resourceGroup
      ++ "/providers/Microsoft.Storage/storageAccounts", by
      simp only [creationUrl, Http.withQuery, accountAddress, accountUrl, String.append_assoc]
      rfl⟩
  obtain ⟨before, hbefore₁⟩ := hbefore c a
  obtain ⟨before', hbefore₂⟩ := hbefore d b
  rw [hc, hbefore₁, hbefore₂] at hd
  exact Text.Percent.eq_of_lastSegment (String.append_left_inj _ |>.1 hd)

/-- How the creation of an account may end. -/
def Created (account : String) : Except Error Creation → Acceptance → Prop
  | .ok .created, g => ∃ c, g = .complete (creationUrl m c account)
  | .ok .alreadyExists, g => g = .absent
  | .error _, g => g = .absent ∨ ∃ c location, g = .ongoing (creationUrl m c account) location

/-- No creation goes on where there was none. -/
lemma isSettled_absent : IsSettled .absent := nofun

/-- While no creation goes on, a request to the resource manager that creates no account is without
consequences. -/
lemma keeps_send (method : Http.Method) {url : String} {body : Http.Body}
    (hr : method ≠ .put ∨ kindOf body ≠ "StorageV2") (hg : IsSettled g)
    (operation resource : String) {c : Connection} :
    Action.Keeps Acceptance.contract (send m method url body operation resource) c g
      fun _ _ g' => g' = g :=
  keeps_plain (fun h => hr.elim (· h.1) (· h.2)) hg _ _

/-- Asking whether a name is available is without consequences. -/
lemma keeps_nameAvailable (account : String) (hg : IsSettled g) {c : Connection} :
    Action.Keeps Acceptance.contract (nameAvailable m account) c g fun _ _ g' => g' = g := by
  rw [nameAvailable, Action.keeps_bind, Action.keeps_get]
  dsimp only
  rw [Action.keeps_bind]
  refine (keeps_send m .post (.inl nofun) hg _ _).mono ?_
  rintro (e | response) c' g' rfl
  · rfl
  · rfl

/-- How the request to create an account may end. -/
def Sent (url : String) : Except Error Http.Response → Acceptance → Prop
  | .ok response, g => g = .start url response
  | .error _, g => g = .absent

/-- A creation starts with the response to the request for it. -/
lemma keeps_sendCreation (account : String) (p : AccountParameters) {c : Connection} :
    Action.Keeps Acceptance.contract
      (sendAccount m .put account (.json (accountBody p)) "create-account") c .absent
      fun x _ g' => Sent (creationUrl m c account) x g' := by
  rw [sendAccount, Action.keeps_bind, Action.keeps_get]
  refine (keeps_authorized (fun _ => rfl) _ _).mono ?_
  rintro (e | response) _ g' hg
  · exact hg
  · let r : Http.Request :=
      { method := .put, url := creationUrl m c account, body := .json (accountBody p) }
    have hr : IsCreation r := ⟨rfl, rfl⟩
    exact hg.2.trans (exchanged_creation hr response)

/-- **Creating an account.** If the creation was accepted, the answer is that the account was
created exactly if the creation was seen to be complete; otherwise the answer is an error.

**Proof sketch.** The check is no creation, and without the name being available there is none. The
request is accepted or refused; what follows an acceptance is the wait, by which the creation is
complete or still goes on. -/
theorem keeps_createAccount (account : String) (p : AccountParameters) {c : Connection} :
    Action.Keeps Acceptance.contract (createAccount m account p) c .absent fun x _ g' =>
      Created m account x g' := by
  rw [createAccount, Action.keeps_bind]
  refine (keeps_nameAvailable m account isSettled_absent).mono ?_
  rintro (e | available) c g rfl
  · exact .inl rfl
  dsimp only
  split
  · rfl
  rw [Action.keeps_bind, Action.keeps_outcome]
  refine (keeps_sendCreation m account p).mono ?_
  rintro (e | response) c' g' rfl
  · dsimp only
    split
    · rfl
    · exact .inl rfl
  · dsimp only
    rw [Action.keeps_bind]
    refine (keeps_awaitOperation m _ _ _ response).mono ?_
    rintro (e | _) _ g' hg
    · obtain ⟨location, rfl⟩ := hg
      exact .inr ⟨c, location, rfl⟩
    · exact ⟨c, hg⟩

/-! ## Other calls -/

section

variable (hg : IsSettled g) {c : Connection}

include hg in
/-- A request about an account that does not create one is without consequences. -/
lemma keeps_sendAccount (method : Http.Method) {body : Http.Body}
    (hr : method ≠ .put ∨ kindOf body ≠ "StorageV2") (account operation : String) :
    Action.Keeps Acceptance.contract (sendAccount m method account body operation) c g
      fun _ _ g' => g' = g := by
  rw [sendAccount, Action.keeps_bind, Action.keeps_get]
  exact keeps_send m _ hr hg _ _

include hg in
/-- A request about a container that does not create an account is without consequences. -/
lemma keeps_sendContainer (method : Http.Method) {body : Http.Body}
    (hr : method ≠ .put ∨ kindOf body ≠ "StorageV2") (account container operation : String) :
    Action.Keeps Acceptance.contract (sendContainer m method account container body operation) c g
      fun _ _ g' => g' = g := by
  rw [sendContainer, Action.keeps_bind, Action.keeps_get]
  exact keeps_send m _ hr hg _ _

/-- What is made of a request without consequences has none. -/
lemma keeps_after {α : Type} {request : Exchange Http.Response}
    (h : Action.Keeps Acceptance.contract request c g fun _ _ g' => g' = g)
    {f : Except Error Http.Response → Exchange α}
    (hf : ∀ r c, Action.Keeps Acceptance.contract (f r) c g fun _ _ g' => g' = g) :
    Action.Keeps Acceptance.contract (do f (← Action.outcome request)) c g
      fun _ _ g' => g' = g := by
  rw [Action.keeps_bind, Action.keeps_outcome]
  refine h.mono ?_
  rintro r c g' rfl
  exact hf r c

/-- Looking whether something exists has no consequences if its request has none. -/
lemma keeps_presence {request : Exchange Http.Response}
    (h : Action.Keeps Acceptance.contract request c g fun _ _ g' => g' = g) :
    Action.Keeps Acceptance.contract (presence request) c g fun _ _ g' => g' = g := by
  refine keeps_after h ?_
  rintro (e | response) c
  · dsimp only
    split
    · rfl
    · split
      · rfl
      · rfl
  · rfl

include hg in
/-- Creating a container is without consequences for accounts. -/
lemma keeps_createContainer (account container : String) :
    Action.Keeps Acceptance.contract (createContainer m account container) c g
      fun _ _ g' => g' = g := by
  refine keeps_after (keeps_sendContainer m hg _ (.inr (by decide)) _ _ _) ?_
  rintro (e | response) c
  · dsimp only
    split
    · rfl
    · rfl
  · rfl

include hg in
/-- Reading the key of an account is without consequences.

**Proof sketch.** The keys are listed with a POST, which no creation is; what is made of the
response makes no request. -/
lemma keeps_accountKey (account : String) :
    Action.Keeps Acceptance.contract (accountKey m account) c g fun _ _ g' => g' = g := by
  rw [accountKey, Action.keeps_bind, Action.keeps_get]
  dsimp only
  rw [Action.keeps_bind]
  refine (keeps_send m .post (.inl nofun) hg _ _).mono ?_
  rintro (e | response) c' g' rfl
  · rfl
  · dsimp only
    rw [Action.keeps_bind, Action.keeps_ofExcept]
    split
    · split
      · rfl
      · rfl
    · rfl

include hg in
/-- Deleting a container is without consequences. -/
lemma keeps_deleteContainer (account container : String) :
    Action.Keeps Acceptance.contract (deleteContainer m account container) c g
      fun _ _ g' => g' = g := by
  rw [deleteContainer, Action.keeps_bind]
  refine (keeps_sendContainer m hg .delete (.inl nofun) _ _ _).mono ?_
  rintro (e | response) c' g' rfl
  · rfl
  · dsimp only
    split
    · rfl
    · rfl

include hg in
/-- **While no creation goes on, only the creation of an account has consequences.**

**Proof sketch.** By the call. Each one but the creation of an account sends requests that are no
PUT, or whose body is not that of an account. -/
theorem keeps_answer {d : Call} (hd : ∀ account p, d ≠ .createAccount account p)
    (k : Option Connection) :
    (answer m d k).Keeps Acceptance.contract g fun _ g' => g' = g := by
  have hon {α : Type} {a : Exchange α}
      (ha : ∀ c, Action.Keeps Acceptance.contract a c g fun _ _ g' => g' = g) :
      (onConnection a k).Keeps Acceptance.contract g fun _ g' => g' = g := by
    cases k with
    | none => rfl
    | some c => exact Prog.keeps_bind.2 (ha c)
  have hsend (method : Http.Method) {body : Http.Body} (hr : method ≠ .put)
      (account operation : String) (c : Connection) :
      Action.Keeps Acceptance.contract (do
        let _ ← sendAccount m method account body operation) c g fun _ _ g' => g' = g := by
    rw [Action.keeps_bind]
    refine (keeps_sendAccount m hg _ (.inl hr) _ _).mono ?_
    rintro (e | response) c' g' rfl
    · rfl
    · rfl
  cases d with
  | connect credentials environment => rfl
  | accountPresence account =>
    exact hon fun c => keeps_presence (keeps_sendAccount m hg .get (.inl nofun) _ _)
  | createAccount account p => exact absurd rfl (hd account p)
  | updateAccountTags account tags => exact hon (hsend .patch nofun _ _)
  | disablePublicAccess account => exact hon (hsend .patch nofun _ _)
  | deleteAccount account => exact hon (hsend .delete nofun _ _)
  | accountKey account => exact hon fun c => keeps_accountKey m hg account
  | containerPresence account container =>
    exact hon fun c =>
      keeps_presence (keeps_sendContainer m hg .get (.inl nofun) _ _ _)
  | createContainer account container =>
    exact hon fun c => keeps_createContainer m hg account container
  | deleteContainer account container =>
    exact hon fun c => keeps_deleteContainer m hg account container

end

end Depot.Azure.Manager
