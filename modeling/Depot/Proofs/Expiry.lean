import Depot.Azure.Token
import Depot.Proofs.Execution
import Depot.Proofs.Fields
import Mathlib.Data.List.Basic

set_option autoImplicit false

/-!
# When access tokens end

A token of Azure comes with the seconds for which it is good, a word of 64 bits. The token is kept
with the moment at which it ends, and used until two minutes before. The moment is the right one if
it has a date in the calendar. Otherwise the word may still be read as a negative number of seconds,
and the token is over before it is used the first time.

## Main definitions

* `Azure.dueAt` — when a token should end.
* `Azure.granted` — what is made of a token that is given for a word of seconds.
* `Azure.Timed` — what comes of a token that is given in a call.
* `Azure.Called` — calls for a token, one after another.
* `Azure.Served`, `Azure.Kept` — a call is served by the token that is kept, or by another one.

## Main results

* `Azure.endOf?_eq_dueAt_iff`, `Azure.endOf?_lt_now` — which ends are right, and how the others are
  wrong.
* `Azure.runs_currentToken_of_asks`, `Azure.runs_currentToken_iff` — one call for a token, when one
  is given in it and when there is one.
* `Azure.Called.served`, `Azure.Called.kept_iff` — a token is kept until two minutes before its end.
* `Azure.tokens_timed` — the ends of tokens and their use.
* `Azure.token_ends_early` — a lifetime that is too long is over at once.
-/

namespace Depot.Azure

/-! ## Lifetimes -/

/-- When a lifetime of some seconds should end that starts now. -/
def dueAt (now : Int) (word : Nat) : Int := now + word * 1000000000

section

variable {now endsAt : Int} {word : Nat}

/-- A lifetime is the remainder of its word by 2⁶⁴ that is nearest to zero. -/
lemma lifetime_eq (word : Nat) : lifetime word = Int.bmod word 18446744073709551616 :=
  congrArg (Int.bmod word) (by decide +kernel)

/-- Small words stand for themselves. -/
lemma lifetime_of_lt (h : word < 9223372036854775808) : lifetime word = word := by
  rw [lifetime_eq]
  exact Int.bmod_eq_of_le (by omega) (by omega)

/-- Large words stand for negative numbers. -/
lemma lifetime_neg (h : 9223372036854775808 ≤ word) (hword : word < 18446744073709551616) :
    lifetime word < 0 := by
  rw [lifetime_eq, Int.bmod_def]
  split <;> omega

/-- A token has an end exactly if its lifetime can be counted in milliseconds and there is a date
for the end. -/
lemma endOf?_eq_some_iff :
    endOf? now word = some endsAt ↔
      (-maxLifetime ≤ lifetime word ∧ lifetime word ≤ maxLifetime) ∧ HasDate endsAt ∧
        endsAt = now + lifetime word * 1000000000 := by
  dsimp only [endOf?]
  constructor
  · intro h
    split at h
    · rename_i hbounds
      cases h
      exact ⟨hbounds.1, hbounds.2, rfl⟩
    · cases h
  · rintro ⟨hcount, hdate, rfl⟩
    exact if_pos ⟨hcount, hdate⟩

/-- **The end is the right one if it has a date.** -/
theorem endOf?_eq_dueAt_iff (hnow : 0 ≤ now) (hword : word < 18446744073709551616) :
    endOf? now word = some (dueAt now word) ↔ HasDate (dueAt now word) := by
  rw [endOf?_eq_some_iff]
  refine ⟨fun h => h.2.1, fun hdate => ?_⟩
  have hlast : dueAt now word < (lastSecond + 1) * 1000000000 := hdate.2
  simp only [dueAt, lastSecond] at hlast
  have hsmall : lifetime word = word := lifetime_of_lt (by omega)
  refine ⟨?_, hdate, by rw [hsmall, dueAt]⟩
  rw [hsmall, maxLifetime]
  constructor <;> omega

/-- **An end that is not the right one is over.** -/
theorem endOf?_lt_now (hword : word < 18446744073709551616)
    (hdate : ¬ HasDate (dueAt now word)) (h : endOf? now word = some endsAt) :
    9223372036854775808 ≤ word ∧ endsAt < now := by
  obtain ⟨-, hend, rfl⟩ := endOf?_eq_some_iff.1 h
  by_cases hsmall : word < 9223372036854775808
  · rw [lifetime_of_lt hsmall] at hend
    exact absurd hend hdate
  · have hneg := lifetime_neg (Nat.le_of_not_lt hsmall) hword
    omega

end

/-! ### Words -/

/-- An integer that was read is within its bounds. -/
lemma bounds_of_integer {low high i : Int} {v : Json} (h : Json.integer low high v = .ok i) :
    low ≤ i ∧ i ≤ high := by
  unfold Json.integer at h
  split at h
  · split at h
    · split at h
      · cases h
        assumption
      · cases h
    · cases h
  · cases h

/-- A word that was read has no more bits than it may. -/
lemma word_lt {bits n : Nat} {v : Json} (h : Json.word bits v = .ok n) : n < Nat.pow 2 bits := by
  have hpos : 0 < Nat.pow 2 bits := Nat.pow_pos (by decide)
  unfold Json.word at h
  cases hi : Json.integer 0 (Nat.pow 2 bits - 1 : Nat) v with
  | error e =>
    rw [hi] at h
    cases h
  | ok i =>
    rw [hi] at h
    cases h
    have hbounds := bounds_of_integer hi
    omega

/-- The lifetime of a token that can be read is a word of 64 bits.

**Proof sketch.** The field was read as a word of 64 bits, and these are its bounds. -/
lemma word_lt_of_json {response : Http.Response} {secret : String} {word : Nat}
    (h : response.json tokenOfJson = .ok (secret, word)) : word < 18446744073709551616 := by
  unfold Http.Response.json at h
  split at h
  · rename_i hdecode
    cases h
    obtain ⟨v, hv⟩ := Json.exists_of_decode hdecode
    simp only [tokenOfJson, Json.bind_eq_ok] at hv
    obtain ⟨fs, -, secret, -, word, hword, hv⟩ := hv
    cases hv
    unfold Json.Fields.required at hword
    split at hword
    · exact word_lt hword
    · cases hword
  · cases h

-- The bounds of the calendar are too large to be unfolded.
attribute [local irreducible] endOf?

/-! ## A request for a token -/

section

variable {σ : Type} {s t : σ} {e : Environment} {i : Identity} {es fs : Trace World}
  {req : Http.Request} {response : Http.Response} {now : Timestamp} {secret scope : String}
  {word : Nat}

/-- What is made of a token with an end, if there is one. -/
def ending (secret : String) : Option Int → Except Error Token
  | some endsAt => .ok { secret, endsAt }
  | none => .error (.internal "the lifetime of an access token is out of range")

/-- What is made of a token that is given for a word of seconds. -/
def granted (now : Timestamp) (secret : String) (word : Nat) : Except Error Token :=
  ending secret (endOf? (instant now) word)

/-- Putting the form together leaves the connection as it is. -/
lemma runs_tokenForm {r : Except Error (List (String × String))}
    (h : Action.Runs (tokenForm scope i) s es r t) : t = s := by
  unfold tokenForm at h
  split at h
  · exact (Action.runs_pure.1 h).2.2
  · rcases Action.runs_bind.1 h with ⟨_, _, _, _, rfl, hread, h⟩ | ⟨_, rfl, hread⟩
    · rw [(Action.runs_pure.1 h).2.2, (Action.runs_attempt.1 hread).2]
    · exact (Action.runs_attempt.1 hread).2

/-- No request is made for the form. -/
lemma not_asks_tokenForm : ¬ Action.Asks (tokenForm (σ := σ) scope i) s es (.http req) := by
  intro h
  unfold tokenForm at h
  split at h
  · exact Action.asks_pure h
  · rcases Action.asks_bind.1 h with h | ⟨_, _, _, _, _, _, h⟩
    · cases (Action.asks_one.1 (Action.asks_attempt.1 h)).2
    · exact Action.asks_pure h

/-- The request for a token with the given fields. -/
def tokenRequest (e : Environment) (i : Identity) (form : List (String × String)) : Http.Request :=
  { method := .post, url := e.activeDirectory ++ "/" ++ i.tenantId ++ "/oauth2/v2.0/token",
    body := .form form }

/-- Takes the token of a response. -/
def takeToken (response : Http.Response) : Operating σ Token := do
  let (secret, word) ← Action.ofExcept (response.json tokenOfJson)
  match endOf? (instant (← Action.perform World.time)) word with
  | some endsAt => return { secret, endsAt }
  | none => throw (.internal "the lifetime of an access token is out of range")

/-- A request for a token is a form, an exchange and a look at the response. -/
lemma requestToken_eq (e : Environment) (i : Identity) :
    requestToken (σ := σ) e i = (do
      let form ← tokenForm e.managementScope i
      let response ← exchange (tokenRequest e i form) "get-token" i.clientId
      takeToken response) :=
  rfl

/-- An exchange is one request with a response, which is refused unless it is a success. -/
lemma exchange_eq (operation resource : String) :
    exchange (σ := σ) req operation resource = (do
      let response ← Action.attempt (World.http req)
      Action.ofExcept (if response.isSuccess then .ok response
        else .error (refusal operation resource response))) := by
  refine congrArg (Action.attempt (World.http req) >>= ·) (funext fun response => ?_)
  cases response.isSuccess <;> rfl

/-- A request has one response. -/
lemma runs_http {r : Except Error Http.Response} :
    Action.Runs (Action.attempt (World.http req)) s es r t ↔ es = [⟨.http req, r⟩] ∧ t = s :=
  Action.runs_attempt.trans (and_congr Action.runs_one .rfl)

/-- An exchange makes one request. -/
lemma asks_exchange {operation resource : String} {call : World.Call} :
    Action.Asks (exchange (σ := σ) req operation resource) s es call ↔
      es = [] ∧ call = .http req := by
  rw [exchange_eq]
  refine Action.asks_bind.trans (Iff.trans (or_iff_left ?_)
    (Action.asks_attempt.trans Action.asks_one))
  rintro ⟨_, _, _, _, _, _, h⟩
  exact Action.asks_ofExcept h

/-- An exchange takes one answer and leaves the connection as it is. -/
lemma runs_exchange {operation resource : String} {r : Except Error Http.Response}
    (h : Action.Runs (exchange req operation resource) s es r t) :
    (∃ x, es = [⟨.http req, x⟩]) ∧ t = s := by
  rw [exchange_eq] at h
  rcases Action.runs_bind.1 h with ⟨response, _, fs, _, rfl, hhttp, hend⟩ | ⟨_, rfl, hhttp⟩
  · obtain ⟨rfl, rfl⟩ := runs_http.1 hhttp
    obtain ⟨rfl, -, rfl⟩ := Action.runs_ofExcept.1 hend
    exact ⟨⟨_, rfl⟩, rfl⟩
  · obtain ⟨rfl, rfl⟩ := runs_http.1 hhttp
    exact ⟨⟨_, rfl⟩, rfl⟩

/-- An exchange gives a response that is a success. -/
lemma runs_exchange_of_isSuccess {operation resource : String} (h : response.isSuccess) :
    Action.Runs (exchange req operation resource) s [⟨.http req, .ok response⟩] (.ok response)
      s := by
  rw [exchange_eq]
  refine Action.runs_bind.2 (.inl ⟨response, s, _, [], rfl, runs_http.2 ⟨rfl, rfl⟩, ?_⟩)
  exact Action.runs_ofExcept.2 ⟨rfl, (if_pos h).symm, rfl⟩

/-- A token is granted at the time that is asked for then. -/
lemma runs_takeToken (hjson : response.json tokenOfJson = .ok (secret, word)) :
    Action.Runs (takeToken response) s [⟨.time, now⟩] (granted now secret word) s := by
  rw [takeToken, hjson]
  refine Action.runs_bind.2 (.inl ⟨_, s, [], _, rfl, ⟨rfl, rfl⟩, ?_⟩)
  refine Action.runs_call.2 ⟨now, [], rfl, ?_⟩
  unfold granted
  generalize endOf? (instant now) word = endsAt?
  cases endsAt? <;> exact ⟨rfl, rfl⟩

/-- Looking at a response leaves the connection as it is. -/
lemma state_of_runs_takeToken {r : Except Error Token}
    (h : Action.Runs (takeToken response) s es r t) : t = s := by
  rcases Action.runs_bind.1 h with ⟨⟨secret, word⟩, _, _, _, rfl, hread, hend⟩ | ⟨_, rfl, hread⟩
  · obtain ⟨rfl, -, rfl⟩ := Action.runs_ofExcept.1 hread
    obtain ⟨now, fs, rfl, htaken⟩ := Action.runs_call.1 hend
    split at htaken
    · exact (Action.runs_pure.1 htaken).2.2
    · exact (Action.runs_throw.1 htaken).2.2
  · exact (Action.runs_ofExcept.1 hread).2.2

/-- No request is made for a look at a response. -/
lemma not_asks_takeToken : ¬ Action.Asks (takeToken (σ := σ) response) s es (.http req) := by
  intro h
  rcases Action.asks_bind.1 h with h | ⟨⟨secret, word⟩, _, _, _, _, _, h⟩
  · exact Action.asks_ofExcept h
  · rcases Action.asks_call.1 h with ⟨-, h⟩ | ⟨now, _, -, h⟩
    · cases h
    · split at h
      · exact Action.asks_pure h
      · exact Action.asks_throw h

/-- A request for a token leaves the state as it is, and a token is not given for nothing. -/
lemma runs_requestToken {r : Except Error Token}
    (h : Action.Runs (requestToken e i) s es r t) : t = s ∧ (∀ token, r = .ok token → es ≠ []) := by
  rw [requestToken_eq] at h
  rcases Action.runs_bind.1 h with ⟨form, _, _, _, rfl, hform, hrest⟩ | ⟨_, rfl, hform⟩
  · obtain rfl := runs_tokenForm hform
    rcases Action.runs_bind.1 hrest with ⟨response, _, _, _, rfl, hsent, hend⟩ | ⟨_, rfl, hsent⟩
    · obtain ⟨⟨x, rfl⟩, rfl⟩ := runs_exchange hsent
      exact ⟨state_of_runs_takeToken hend, fun token _ => by simp⟩
    · exact ⟨(runs_exchange hsent).2, fun _ h => nomatch h⟩
  · exact ⟨runs_tokenForm hform, fun _ h => nomatch h⟩

/-- **A token that is given is granted.**

**Proof sketch.** The request comes after the form was put together and before the response is
looked at, and is followed by the response and a look at the clock. -/
lemma runs_requestToken_of_asks (hasks : Action.Asks (requestToken e i) s es (.http req))
    (hsuccess : response.isSuccess) (hjson : response.json tokenOfJson = .ok (secret, word)) :
    Action.Runs (requestToken e i) s (es ++ [⟨.http req, .ok response⟩, ⟨.time, now⟩])
      (granted now secret word) s := by
  rw [requestToken_eq] at hasks ⊢
  rcases Action.asks_bind.1 hasks with h | ⟨form, _, fs, _, rfl, hform, hrest⟩
  · exact absurd h not_asks_tokenForm
  obtain rfl := runs_tokenForm hform
  rcases Action.asks_bind.1 hrest with h | ⟨response', _, _, _, rfl, -, h⟩
  · obtain ⟨rfl, hreq⟩ := asks_exchange.1 h
    cases hreq
    rw [List.append_nil]
    refine Action.runs_bind.2 (.inl ⟨form, _, fs, _, rfl, hform, ?_⟩)
    exact Action.runs_bind.2 (.inl ⟨response, _, [⟨.http _, .ok response⟩], _, rfl,
      runs_exchange_of_isSuccess hsuccess, runs_takeToken hjson⟩)
  · exact absurd h not_asks_takeToken

end

/-! ## One call -/

/-- More than two minutes are left of the time for which a token is good. -/
def Token.Lasts (t : Token) (now : Timestamp) : Prop := 120 * 1000000000 < t.endsAt - instant now

/-- The connection with a token. -/
def Connection.holding (c : Connection) (t : Token) : Connection := { c with token := some t }

/-- The connection after a request for a token. -/
def Connection.keeping (c : Connection) : Except Error Token → Connection
  | .ok t => c.holding t
  | .error _ => c

section

variable {c d : Connection} {t : Token} {es fs : Trace World} {req : Http.Request}
  {response : Http.Response} {now : Timestamp} {secret : String} {word : Nat}
  {r : Except Error Token}

/-- Asks for a token, and keeps it. -/
def renewToken : Exchange Token := do
  let c ← get
  let t ← requestToken c.environment c.identity
  modify fun c => { c with token := some t }
  return t

/-- A token is the one at hand if it is fresh, and is renewed otherwise. -/
lemma currentToken_eq :
    currentToken = (do
      match ← freshToken? with
      | some t => return t
      | none => renewToken) :=
  rfl

/-- The token that is requested is kept.

**Proof sketch.** The connection is read, the token requested, and kept if there is one; a failure
leaves the connection as it is. -/
lemma runs_renewToken :
    Action.Runs renewToken c es r d ↔
      Action.Runs (requestToken c.environment c.identity) c es r c ∧ d = c.keeping r := by
  rw [renewToken, Action.runs_get_bind, Action.runs_bind]
  constructor
  · rintro (⟨t, c', fs, gs, rfl, hrequest, h⟩ | ⟨e, rfl, hrequest⟩)
    · obtain rfl := (runs_requestToken hrequest).1
      have hend := Action.runs_modify_bind.1 h
      obtain ⟨rfl, rfl, rfl⟩ := Action.runs_pure.1 hend
      exact ⟨by rwa [List.append_nil], rfl⟩
    · obtain rfl := (runs_requestToken hrequest).1
      exact ⟨hrequest, rfl⟩
  · rintro ⟨hrequest, rfl⟩
    cases r with
    | error e => exact .inr ⟨e, rfl, hrequest⟩
    | ok t =>
      exact .inl ⟨t, c, es, [], (List.append_nil es).symm, hrequest,
        Action.runs_modify_bind.2 (Action.runs_pure.2 ⟨rfl, rfl, rfl⟩)⟩

/-- A token is looked at with a clock.

**Proof sketch.** Without a token nothing is asked; with one the clock is read once, and the
connection stays. -/
lemma runs_freshToken? {r : Except Error (Option Token)} :
    Action.Runs freshToken? c es r d ↔ d = c ∧
      match c.token with
      | none => es = [] ∧ r = .ok none
      | some t => ∃ now, es = [⟨.time, now⟩] ∧
          r = .ok (if t.isFresh (instant now) then some t else none) := by
  rw [freshToken?, Action.runs_get_bind]
  cases c.token with
  | none =>
    exact Action.runs_pure.trans ⟨fun h => ⟨h.2.2, h.1, h.2.1⟩, fun h => ⟨h.2.1, h.2.2, h.1⟩⟩
  | some t =>
    refine Action.runs_call.trans ⟨?_, ?_⟩
    · rintro ⟨now, fs, rfl, h⟩
      obtain ⟨rfl, rfl, rfl⟩ := Action.runs_pure.1 h
      exact ⟨rfl, now, rfl, rfl⟩
    · rintro ⟨rfl, now, rfl, rfl⟩
      exact ⟨now, [], rfl, Action.runs_pure.2 ⟨rfl, rfl, rfl⟩⟩

/-- No request is made to look at the token at hand. -/
lemma not_asks_freshToken? : ¬ Action.Asks freshToken? c es (.http req) := by
  intro h
  rcases Action.asks_bind.1 h with h | ⟨_, _, _, _, rfl, hget, h⟩
  · exact h.elim
  · obtain ⟨rfl, heq⟩ := hget
    cases heq
    split at h
    · exact h.elim
    · rcases Action.asks_call.1 h with ⟨-, h⟩ | ⟨_, _, -, h⟩
      · cases h
      · exact h.elim

/-- A token is fresh exactly if it lasts beyond two minutes from now. -/
lemma isFresh_iff : t.isFresh (instant now) ↔ t.Lasts now := by
  unfold Token.isFresh Token.Lasts refreshMargin
  rw [decide_eq_true_iff]
  omega

/-- **One call for a token, when there is one**: it is used if it lasts, and another one is asked
for otherwise.

**Proof sketch.** The first event is the look at the clock, by which the token at hand is fresh or
not; what remains of the trace is nothing, or the request for another token. -/
theorem runs_currentToken_iff :
    Action.Runs currentToken (c.holding t) (⟨.time, now⟩ :: fs) r d ↔
      t.Lasts now ∧ fs = [] ∧ r = .ok t ∧ d = c.holding t ∨
      ¬ t.Lasts now ∧ d = (c.holding t).keeping r ∧
        Action.Runs (requestToken c.environment c.identity) (c.holding t) fs r (c.holding t) := by
  have hlook {fs : Trace World} {x : Except Error (Option Token)} {d : Connection} :
      Action.Runs freshToken? (c.holding t) fs x d ↔ d = c.holding t ∧ ∃ now, fs = [⟨.time, now⟩] ∧
        x = .ok (if t.isFresh (instant now) then some t else none) :=
    runs_freshToken?
  rw [currentToken_eq, Action.runs_bind]
  constructor
  · rintro (⟨x, _, _, gs, heq, hx, h⟩ | ⟨e, -, hx⟩)
    · obtain ⟨rfl, _, rfl, hfound⟩ := hlook.1 hx
      cases hfound
      cases heq
      by_cases hlasts : t.Lasts now
      · rw [if_pos (isFresh_iff.2 hlasts)] at h
        exact .inl ⟨hlasts, Action.runs_pure.1 h⟩
      · rw [if_neg (mt isFresh_iff.1 hlasts)] at h
        obtain ⟨hrequest, rfl⟩ := runs_renewToken.1 h
        exact .inr ⟨hlasts, rfl, hrequest⟩
    · obtain ⟨-, _, -, he⟩ := hlook.1 hx
      cases he
  · intro h
    refine .inl ⟨_, c.holding t, [_], fs, rfl, hlook.2 ⟨rfl, now, rfl, rfl⟩, ?_⟩
    rcases h with ⟨hlasts, h⟩ | ⟨hover, rfl, hrequest⟩
    · rw [if_pos (isFresh_iff.2 hlasts)]
      exact Action.runs_pure.2 h
    · rw [if_neg (mt isFresh_iff.1 hover)]
      exact runs_renewToken.2 ⟨hrequest, rfl⟩

/-- A renewal asks what a request for a token asks. -/
lemma asks_renewToken {call : World.Call} (h : Action.Asks renewToken c es call) :
    Action.Asks (requestToken c.environment c.identity) c es call := by
  rcases Action.asks_bind.1 h with h | ⟨_, _, _, _, rfl, hget, h⟩
  · exact h.elim
  · obtain ⟨rfl, heq⟩ := hget
    cases heq
    rcases Action.asks_bind.1 h with h | ⟨_, _, _, _, _, _, h⟩
    · exact h
    · exact h.elim

/-- **What becomes of a token that is given in a call.** -/
theorem runs_currentToken_of_asks (hasks : Action.Asks currentToken c es (.http req))
    (hsuccess : response.isSuccess) (hjson : response.json tokenOfJson = .ok (secret, word)) :
    Action.Runs currentToken c (es ++ [⟨.http req, .ok response⟩, ⟨.time, now⟩])
      (granted now secret word) (c.keeping (granted now secret word)) := by
  rw [currentToken_eq] at hasks ⊢
  rcases Action.asks_bind.1 hasks with h | ⟨_ | t, _, fs, gs, rfl, hfresh, h⟩
  · exact absurd h not_asks_freshToken?
  · obtain ⟨rfl, -⟩ := runs_freshToken?.1 hfresh
    rw [List.append_assoc]
    refine Action.runs_bind.2 (.inl ⟨none, _, fs, _, rfl, hfresh, runs_renewToken.2 ⟨?_, rfl⟩⟩)
    exact runs_requestToken_of_asks (asks_renewToken h) hsuccess hjson
  · exact absurd h Action.asks_pure

end

/-! ## Calls one after another -/

/-- A call for a token when there is one: when it was made, what it asked after that, and what came
of it. -/
structure TokenCall where
  /-- The time of the call. -/
  time : Timestamp
  /-- The calls that followed the look at the time. -/
  rest : Trace World
  /-- The outcome. -/
  result : Except Error Token

/-- Calls for a token, one after another. -/
inductive Called : Connection → List TokenCall → Prop where
  /-- No call. -/
  | nil (c : Connection) : Called c []
  /-- A call, and others after it. -/
  | cons {c d : Connection} {call : TokenCall} {calls : List TokenCall} :
    Action.Runs currentToken c (⟨.time, call.time⟩ :: call.rest) call.result d →
    Called d calls → Called c (call :: calls)

/-- The token that is kept after a call. -/
def TokenCall.kept (call : TokenCall) (t : Token) : Token :=
  match call.result with
  | .ok u => u
  | .error _ => t

/-- The token that is kept after some calls. -/
def keptAfter (t : Token) : List TokenCall → Token
  | [] => t
  | call :: calls => keptAfter (call.kept t) calls

/-- A call is served: by the token that is kept if it lasts, and by another one that is asked for
otherwise. -/
structure Served (c : Connection) (t : Token) (call : TokenCall) : Prop where
  /-- Nothing is asked, and the token is used, if it lasts, and not otherwise. -/
  kept_iff : call.rest = [] ∧ call.result = .ok t ↔ t.Lasts call.time
  /-- Another token is asked for if it does not last. -/
  renewed : ¬ t.Lasts call.time →
    Action.Runs (requestToken c.environment c.identity) (c.holding t) call.rest call.result
      (c.holding t)

section

variable {c d : Connection} {t u : Token} {call : TokenCall} {calls : List TokenCall}

/-- **One call is served**, and the connection keeps what came of it. -/
lemma served_of_runs
    (h : Action.Runs currentToken (c.holding t) (⟨.time, call.time⟩ :: call.rest) call.result d) :
    Served c t call ∧ d = c.holding (call.kept t) := by
  rcases runs_currentToken_iff.1 h with ⟨hlasts, hrest, hresult, rfl⟩ | ⟨hover, rfl, hrequest⟩
  · refine ⟨⟨iff_of_true ⟨hrest, hresult⟩ hlasts, fun hover => absurd hlasts hover⟩, ?_⟩
    rw [TokenCall.kept, hresult]
  · refine ⟨⟨iff_of_false ?_ hover, fun _ => hrequest⟩, ?_⟩
    · rintro ⟨hrest, hresult⟩
      exact (runs_requestToken hrequest).2 t hresult hrest
    · unfold Connection.keeping TokenCall.kept
      cases call.result <;> rfl

/-- **Every call is served** by the token that the calls before it have left.

**Proof sketch.** By induction on the calls before this one; each is served and leaves what the next
one begins with. -/
theorem Called.served (h : Called (c.holding t) calls) {before after : List TokenCall}
    (heq : calls = before ++ call :: after) : Served c (keptAfter t before) call := by
  induction before generalizing t calls with
  | nil =>
    subst heq
    cases h with
    | cons hrun _ => exact (served_of_runs hrun).1
  | cons first before ih =>
    subst heq
    cases h with
    | cons hrun hrest =>
      obtain ⟨-, rfl⟩ := served_of_runs hrun
      exact ih hrest rfl

/-- A token that is used without being asked for lasts. -/
lemma Called.lasts (h : Called (c.holding t) calls) (hcall : call ∈ calls)
    (hrest : call.rest = []) (hresult : call.result = .ok u) : u.Lasts call.time := by
  obtain ⟨before, after, heq⟩ := List.append_of_mem hcall
  have hserved := h.served heq
  by_cases hlasts : (keptAfter t before).Lasts call.time
  · cases hresult.symm.trans (hserved.kept_iff.2 hlasts).2
    exact hlasts
  · exact absurd hrest ((runs_requestToken (hserved.renewed hlasts)).2 u hresult)

/-- **A token is kept until two minutes before its end**, while time goes on.

**Proof sketch.** That a token which is used lasts was shown before. Conversely, by induction on the
calls: the first one happens no later, so the token lasts there as well and is kept for the
others. -/
theorem Called.kept_iff (h : Called (c.holding t) calls)
    (htimes : calls.Pairwise fun a b => instant a.time ≤ instant b.time) (hcall : call ∈ calls) :
    call.rest = [] ∧ call.result = .ok t ↔ t.Lasts call.time := by
  refine ⟨fun ⟨hrest, hresult⟩ => h.lasts hcall hrest hresult, fun hlasts => ?_⟩
  induction calls with
  | nil => cases hcall
  | cons first calls ih =>
    cases h with
    | cons hrun hcalls =>
      obtain ⟨hserved, rfl⟩ := served_of_runs hrun
      rcases List.mem_cons.1 hcall with rfl | hcall
      · exact hserved.kept_iff.2 hlasts
      · -- The token lasted at the first call too, so it is still kept.
        have hearlier := (List.pairwise_cons.1 htimes).1 call hcall
        have hfirst : t.Lasts first.time := by
          unfold Token.Lasts at hlasts ⊢
          omega
        rw [TokenCall.kept, (hserved.kept_iff.2 hfirst).2] at hcalls
        exact ih hcalls (List.pairwise_cons.1 htimes).2 hcall

end

/-! ## All calls -/

/-- The moment until which a token is used has a date. -/
def Token.IsDated (t : Token) : Prop := HasDate (t.endsAt - refreshMargin * 1000000000)

/-- What comes of a token that is given for a word of seconds in a call, and the connection after
it. -/
structure Timed (now : Timestamp) (secret : String) (word : Nat) (c : Connection)
    (r : Except Error Token) (d : Connection) : Prop where
  /-- The token is returned with the end that it should have if that has a date, and not
  otherwise. -/
  due_iff : r = .ok ⟨secret, dueAt (instant now) word⟩ ↔ HasDate (dueAt (instant now) word)
  /-- A token that is returned is kept. -/
  holds : ∀ t, r = .ok t → d = c.holding t
  /-- An end that a token should have is not over, and the token can be used until shortly
  before. -/
  dated : HasDate (dueAt (instant now) word) → instant now ≤ dueAt (instant now) word ∧
    Token.IsDated ⟨secret, dueAt (instant now) word⟩
  /-- If there is no such date, there is an error, or the end of the token is over. -/
  fails : ¬ HasDate (dueAt (instant now) word) →
    r = .error (.internal "the lifetime of an access token is out of range") ∧ d = c ∨
      9223372036854775808 ≤ word ∧ ∃ t, r = .ok t ∧ t.endsAt < instant now

section

variable {c : Connection} {now : Timestamp} {secret : String} {word : Nat}

/-- A token whose end has a date lasts at least until now, and can be looked at. -/
lemma dated_of_hasDate (hnow : 0 ≤ instant now) (h : HasDate (dueAt (instant now) word)) :
    instant now ≤ dueAt (instant now) word ∧ Token.IsDated ⟨secret, dueAt (instant now) word⟩ := by
  have hdue : instant now ≤ dueAt (instant now) word := by
    unfold dueAt
    omega
  refine ⟨hdue, ?_, ?_⟩
  · simp only [firstSecond, refreshMargin]
    omega
  · have hlast := h.2
    simp only [refreshMargin]
    omega

/-- **A token that is given is timed.**

**Proof sketch.** There is an end where one is due exactly if that has a date. Where it has none,
either the lifetime cannot be counted, or the word is so large that the lifetime is negative, and
then the end is before now. -/
lemma timed_granted (hnow : 0 ≤ instant now) (hword : word < 18446744073709551616) :
    Timed now secret word c (granted now secret word) (c.keeping (granted now secret word)) where
  due_iff := by
    rw [← endOf?_eq_dueAt_iff hnow hword, granted]
    generalize endOf? (instant now) word = endsAt?
    cases endsAt? <;> simp [ending]
  holds t h := by
    rw [h]
    rfl
  dated := dated_of_hasDate hnow
  fails hdate := by
    rw [granted]
    cases hend : endOf? (instant now) word with
    | none => exact .inl ⟨rfl, rfl⟩
    | some endsAt =>
      obtain ⟨hlarge, hover⟩ := endOf?_lt_now hword hdate hend
      exact .inr ⟨hlarge, _, rfl, hover⟩

end

/-- A token that is kept is used as long as it lasts. -/
structure Kept (c : Connection) (t : Token) : Prop where
  /-- A call returns the token, or asks for another one if it does not last. -/
  call : ∀ {now fs r d}, Action.Runs currentToken (c.holding t) (⟨.time, now⟩ :: fs) r d ↔
    t.Lasts now ∧ fs = [] ∧ r = .ok t ∧ d = c.holding t ∨
    ¬ t.Lasts now ∧ d = (c.holding t).keeping r ∧
      Action.Runs (requestToken c.environment c.identity) (c.holding t) fs r (c.holding t)
  /-- Each call of a sequence is served by the token that the calls before it have left. -/
  served : ∀ {calls before call after}, Called (c.holding t) calls →
    calls = before ++ call :: after → (keptAfter t before).IsDated →
      Served c (keptAfter t before) call
  /-- While time goes on, the token is returned without a request as long as it lasts, and not after
  that. -/
  kept_iff : ∀ {calls : List TokenCall}, Called (c.holding t) calls →
    (calls.Pairwise fun a b => instant a.time ≤ instant b.time) → ∀ call ∈ calls,
      (call.rest = [] ∧ call.result = .ok t ↔ t.Lasts call.time)

/-- **Tokens are timed, and kept as long as they last.** A call in which a token is given ends in
one way: the token is returned and kept, with the moment as its end that is the given number of
seconds after now, if and only if this moment has a date. Otherwise there is an error, or the number
was read as a negative one and the end of the token is over. A token that is kept is returned by
later calls, without asking for anything, as long as more than two minutes are left, and another one
is asked for after that.

The words of a lifetime have 64 bits, and the clock does not show times before 1970. Two minutes
before the end of a token there must be a date as well; there is for all ends that are the right
ones.

**Proof sketch.** What is asked in a call, before the token is given, is known, so the call goes on
as `runs_currentToken_of_asks` says, and the answers determine its end. Whether a token is used is
decided by one look at the clock (`runs_currentToken_iff`). In a sequence of calls the token that is
kept is that of the last call with one (`Called.served`, by induction on the calls before). A token
that lasts at one call lasted at the earlier ones, and has not been replaced (`Called.kept_iff`). -/
theorem tokens_timed (c : Connection) :
    (∀ {es : Trace World} {req : Http.Request} {response : Http.Response} {now : Timestamp}
        {secret : String} {word : Nat},
      Action.Asks currentToken c es (.http req) → response.isSuccess →
      response.json tokenOfJson = .ok (secret, word) → 0 ≤ instant now →
      ∃ r d, Timed now secret word c r d ∧
        ∀ {r' d'}, Action.Runs currentToken c
          (es ++ [⟨.http req, .ok response⟩, ⟨.time, now⟩]) r' d' ↔ r' = r ∧ d' = d) ∧
    ∀ {t : Token}, t.IsDated → Kept c t := by
  constructor
  · intro es req response now secret word hasks hsuccess hjson hnow
    refine ⟨_, _, timed_granted hnow (word_lt_of_json hjson), fun {r' d'} => ?_⟩
    have hrun : Action.Runs currentToken c
        (es ++ [⟨.http req, .ok response⟩, ⟨.time, now⟩]) _ _ :=
      runs_currentToken_of_asks hasks hsuccess hjson
    constructor
    · intro h
      obtain ⟨-, heq⟩ := Prog.Runs.unique h hrun (rfl : _ ++ ([] : Trace World) = _ ++ [])
      exact ⟨congrArg Prod.fst heq, congrArg Prod.snd heq⟩
    · rintro ⟨rfl, rfl⟩
      exact hrun
  · -- `isFresh` counts back from every end, a calendar only where there is a date.
    intro t _
    exact ⟨runs_currentToken_iff, fun h heq _ => h.served heq,
      fun h htimes call => h.kept_iff htimes⟩

/-- A response with a token that is good for some seconds. -/
def tokenFor (seconds : String) : Http.Response where
  status := 200
  body := "\x7b\"access_token\":\"token\",\"expires_in\":" ++ seconds ++ "\x7d"

/-- The request for a token of a connection without a secret. -/
def plainRequest : Http.Request :=
  tokenRequest default default [("grant_type", "client_credentials"), ("client_id", ""),
    ("scope", Environment.managementScope default), ("client_secret", "")]

/-- A connection without a token asks for one at once. -/
lemma asks_plainRequest : Action.Asks currentToken default [] (.http plainRequest) :=
  .inl ⟨rfl, rfl⟩

/-- The start of 1970. -/
def epoch : Timestamp := default

/-- A token that is given for an hour at the start of 1970. -/
def hourToken : Token := ⟨"token", 3600000000000⟩

/-- A token for an hour is returned and kept, and used in a call right after it. -/
theorem tokens_timed_hour :
    Action.Runs currentToken default [⟨.http plainRequest, .ok (tokenFor "3600")⟩, ⟨.time, epoch⟩]
        (.ok hourToken) (Connection.holding default hourToken) ∧
      hourToken.IsDated ∧
      Called (Connection.holding default hourToken) [⟨epoch, [], .ok hourToken⟩] ∧
      Served default hourToken ⟨epoch, [], .ok hourToken⟩ := by
  have hjson : (tokenFor "3600").json tokenOfJson = .ok ("token", 3600) := by decide +kernel
  have hnow : 0 ≤ instant epoch := by decide
  obtain ⟨r, d, htimed, hruns⟩ :=
    (tokens_timed default).1 asks_plainRequest (by decide) hjson hnow
  have hdate : HasDate (dueAt (instant epoch) 3600) := by decide
  have hr : r = .ok hourToken := htimed.due_iff.2 hdate
  have hd : d = Connection.holding default hourToken := htimed.holds hourToken hr
  have hdated : hourToken.IsDated := (htimed.dated hdate).2
  have hlasts : hourToken.Lasts epoch := isFresh_iff.1 (by decide)
  have hkept : Kept default hourToken := (tokens_timed default).2 hdated
  have hcalled : Called (Connection.holding default hourToken) [⟨epoch, [], .ok hourToken⟩] :=
    .cons (hkept.call.2 (.inl ⟨hlasts, rfl, rfl, rfl⟩)) (.nil _)
  exact ⟨hruns.2 ⟨hr.symm, hd.symm⟩, hdated, hcalled,
    hkept.served hcalled (rfl : _ = [] ++ _ :: []) hdated⟩

/-- **A lifetime that is too long is over at once**: the token is returned and kept, but its end was
before it was given, and another one is asked for in the next call. A lifetime that is half as long
is an error. -/
theorem token_ends_early :
    ∃ t, (tokenFor "18446744073709551615").json tokenOfJson = .ok ("token", 18446744073709551615) ∧
      Action.Runs currentToken default
        [⟨.http plainRequest, .ok (tokenFor "18446744073709551615")⟩, ⟨.time, epoch⟩] (.ok t)
        (Connection.holding default t) ∧
      t.endsAt < instant epoch ∧
      Action.Runs currentToken (Connection.holding default t)
        [⟨.time, epoch⟩, ⟨.http plainRequest, .ok (tokenFor "3600")⟩, ⟨.time, epoch⟩]
        (.ok hourToken) (Connection.holding default hourToken) ∧
      (tokenFor "9223372036854775808").json tokenOfJson = .ok ("token", 9223372036854775808) ∧
      Action.Runs currentToken default
        [⟨.http plainRequest, .ok (tokenFor "9223372036854775808")⟩, ⟨.time, epoch⟩]
        (.error (.internal "the lifetime of an access token is out of range")) default := by
  have hjson : (tokenFor "18446744073709551615").json tokenOfJson =
      .ok ("token", 18446744073709551615) := by decide +kernel
  have hhalf : (tokenFor "9223372036854775808").json tokenOfJson =
      .ok ("token", 9223372036854775808) := by decide +kernel
  have hgranted : granted epoch "token" 18446744073709551615 = .ok ⟨"token", -1000000000⟩ := by
    decide +kernel
  have hrefused : granted epoch "token" 9223372036854775808 =
      .error (.internal "the lifetime of an access token is out of range") := by
    decide +kernel
  have hhour : granted epoch "token" 3600 = .ok hourToken := by decide +kernel
  have hcall {r : Except Error Token} {seconds : String} {word : Nat}
      (hread : (tokenFor seconds).json tokenOfJson = .ok ("token", word))
      (hr : granted epoch "token" word = r) :
      Action.Runs currentToken default
        [⟨.http plainRequest, .ok (tokenFor seconds)⟩, ⟨.time, epoch⟩] r
        (Connection.keeping default r) :=
    hr ▸ runs_currentToken_of_asks asks_plainRequest rfl hread
  have hover : ¬ Token.Lasts ⟨"token", -1000000000⟩ epoch := mt isFresh_iff.2 (by decide)
  refine ⟨⟨"token", -1000000000⟩, hjson, hcall hjson hgranted, by decide, ?_, hhalf,
    hcall hhalf hrefused⟩
  refine runs_currentToken_iff.2 (.inr ⟨hover, rfl, ?_⟩)
  have hasks : Action.Asks (requestToken default default)
      (Connection.holding default ⟨"token", -1000000000⟩) [] (.http plainRequest) :=
    .inl ⟨rfl, rfl⟩
  have hread : (tokenFor "3600").json tokenOfJson = .ok ("token", 3600) := by decide +kernel
  exact hhour ▸ runs_requestToken_of_asks hasks rfl hread

end Depot.Azure
