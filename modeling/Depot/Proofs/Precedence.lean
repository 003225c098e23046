import Depot.Credentials.Resolver
import Depot.Proofs.Execution

set_option autoImplicit false

/-!
# Which secret credentials come from

Credentials are looked up in two layers: in the secret that a user may write and, if it does not
exist, in the secret that the cluster makes. Which of the two counts, and which error stands for
what went wrong, is shown for every content of both secrets and for every sequence of answers.

## Main definitions

* `Cluster.Secret.Lacks`, `Cluster.Secret.FirstLacking` — a secret has no text under a key.
* `Credentials.read` — a read of a secret with its answer.
* `Credentials.UserFirst`, `Credentials.Combined` — what results depend on.
* `Credentials.Layered` — which errors there are, in which order.

## Main results

* `Credentials.lookups_layered` — the four lookups have these properties.

## Design

All four lookups are cases of one (`layered`): a plan says what the answer about the user's secret
decides, and the rest waits for the other secret. `Finder` says of the second layer no more than
the proofs need, so that waiting for the secret (`awaitMinted`) and a single look at it (`lookOnce`)
are treated alike. A call that is answered is followed by the end of the lookup in
`Action.StopsAt`: the lookup makes no other call, and its outcome is settled.
-/

namespace Depot

/-! ## Secrets -/

namespace Cluster.Secret

/-- The secret has no text under a key: there are bytes that are no text, or there is nothing at
all. -/
def Lacks (secret : Secret) (key : String) : Prop :=
  (∃ bytes, secret.data.bind (·.get? key) = some bytes ∧ bytes.text? = none) ∨
    (secret.data.bind (·.get? key) = none ∧ secret.stringData.bind (·.get? key) = none)

/-- A look-up finds no text exactly if the secret lacks the key. -/
lemma value?_eq_none_iff {secret : Secret} {key : String} :
    secret.value? key = none ↔ secret.Lacks key := by
  unfold value? Lacks
  cases secret.data.bind (·.get? key) <;> simp

/-- The first of some keys that the secret lacks. -/
def FirstLacking (secret : Secret) (keys : List String) (key : String) : Prop :=
  ∃ before after, keys = before ++ key :: after ∧ (∀ k ∈ before, ¬ secret.Lacks k) ∧
    secret.Lacks key

/-- The first key that is lacking is the first of all, or the first of the others if that one is
there.

**Proof sketch.** By cases on the keys before the one that is lacking: there are none, and it is the
first of all, or the first of all is one of them. -/
lemma firstLacking_cons {secret : Secret} {k : String} {keys : List String} {key : String} :
    secret.FirstLacking (k :: keys) key ↔
      (key = k ∧ secret.Lacks k) ∨ (¬ secret.Lacks k ∧ secret.FirstLacking keys key) := by
  constructor
  · rintro ⟨_ | ⟨k', before⟩, after, heq, hbefore, hkey⟩
    · cases heq
      exact .inl ⟨rfl, hkey⟩
    · cases heq
      refine .inr ⟨hbefore _ List.mem_cons_self, before, after, rfl, ?_, hkey⟩
      exact fun k hk => hbefore k (List.mem_cons_of_mem _ hk)
  · rintro (⟨rfl, h⟩ | ⟨h, before, after, rfl, hbefore, hkey⟩)
    · exact ⟨[], keys, rfl, fun _ hk => absurd hk List.not_mem_nil, h⟩
    · refine ⟨k :: before, after, rfl, fun k' hk => ?_, hkey⟩
      rcases List.mem_cons.1 hk with rfl | hk
      · exact h
      · exact hbefore k' hk

/-- Where no keys are needed none is lacking. -/
lemma not_firstLacking_nil {secret : Secret} {key : String} : ¬ secret.FirstLacking [] key := by
  rintro ⟨_ | _, _, h, _⟩ <;> cases h

end Cluster.Secret

/-! ## Retries -/

namespace Backoff

variable {σ α : Type}

/-- A round of retries: a try, and a wait if it is to be tried again and there is time. -/
def round (b : Backoff) (attempt : Operating σ (Attempt α)) (start mean : Span) :
    Operating σ (Span ⊕ α) := do
  match ← attempt with
  | .done a => return .inr a
  | .failed e => throw e
  | .again e =>
    let elapsed := (← Action.perform World.stopwatch).nanos - start.nanos
    let wait := b.pick mean (← Action.perform World.randomWord)
    if elapsed ≤ b.limit.nanos ∧ elapsed + wait.nanos ≤ b.limit.nanos then
      Action.perform (World.sleep wait)
      return .inl (b.grow mean)
    else throw e

/-- Trying again and again is a loop over rounds. -/
lemma retry_eq {b : Backoff} {attempt : Operating σ (Attempt α)} :
    b.retry attempt = (do
      let start ← Action.perform World.stopwatch
      Action.loop (b.round attempt start) b.initial) := by
  refine congrArg (Action.perform World.stopwatch >>= ·) (funext fun start => ?_)
  refine congrArg (Action.loop · b.initial) (funext fun mean => ?_)
  refine congrArg (attempt >>= ·) (funext fun a => ?_)
  cases a <;> rfl

end Backoff

namespace Credentials

variable {σ α β : Type} {s : Settings} {b : Backend} {st t : σ} {es fs : Trace World}

/-- A read of a secret with its answer. -/
def read (s : Settings) (name : String) (x : Except Error (Option Cluster.Secret)) : Event World :=
  ⟨.cluster (.getSecret s.ns name), x⟩

/-- The read of the user's secret with its answer. -/
abbrev readUser (s : Settings) (x : Except Error (Option Cluster.Secret)) : Event World :=
  read s s.userSecret x

/-- The read of the secret that the cluster makes with its answer. -/
abbrev readMinted (s : Settings) (x : Except Error (Option Cluster.Secret)) : Event World :=
  read s s.mintedSecret x

/-- A read tells which secret was read and what was found. -/
lemma read_injective {name name' : String} {x x' : Except Error (Option Cluster.Secret)}
    (h : read s name x = read s name' x') : name = name' ∧ x = x' := by
  cases h
  exact ⟨rfl, rfl⟩

/-! ## What is shown of a lookup -/

/-- **The user's secret comes first**: if it exists, it alone decides, and nothing else is read. -/
structure UserFirst (s : Settings) (a : Operating σ α) (user : Cluster.Secret → Except Error α) :
    Prop where
  /-- The lookup ends with what the user's secret gives as soon as it is read. -/
  decides : ∀ st secret, a.StopsAt st [] (readUser s (.ok (some secret))) (user secret)
  /-- Two runs that find the same secret of the user are the same, whatever the other secret is. -/
  agree : ∀ {secret st fs r t st' fs' r' t'},
    a.Runs st (readUser s (.ok (some secret)) :: fs) r t →
    a.Runs st' (readUser s (.ok (some secret)) :: fs') r' t' → fs = [] ∧ fs' = [] ∧ r = r'

/-- **Each secret has its own part of the result**: one part is the user's, the other comes from
the secret that the cluster makes. -/
structure Combined {γ δ : Type} (s : Settings) (a : Operating σ α) (userPart : α → γ)
    (mintedPart : α → δ) (user : Option Cluster.Secret → Except Error γ)
    (minted : Cluster.Secret → Except Error δ) : Prop where
  /-- The first read gives the user's part and the last one the other. -/
  decides : ∀ {st es c t}, a.Runs st es (.ok c) t → ∃ x secret fs,
    es = readUser s (.ok x) :: fs ++ [readMinted s (.ok (some secret))] ∧
      user x = .ok (userPart c) ∧ minted secret = .ok (mintedPart c)
  /-- Two runs that read the same about the user's secret agree on the user's part. -/
  agree_user : ∀ {x st fs c t st' fs' c' t'}, a.Runs st (readUser s x :: fs) (.ok c) t →
    a.Runs st' (readUser s x :: fs') (.ok c') t' → userPart c = userPart c'
  /-- Two runs that find the same secret of the cluster agree on the other part. -/
  agree_minted : ∀ {x st es c t st' es' c' t'}, a.Runs st (es ++ [readMinted s x]) (.ok c) t →
    a.Runs st' (es' ++ [readMinted s x]) (.ok c') t' → mintedPart c = mintedPart c'

/-- The error blames the secret that the cluster makes: it lacks a key, or its file of clouds is of
no use. -/
def Faulty (s : Settings) (secret : Cluster.Secret) : Error → Prop
  | .missingSecretKey name key => name = s.mintedSecret ∧ secret.Lacks key
  | .yaml _ | .configuration _ => ¬ secret.Lacks Key.openStackClouds
  | _ => False

/-- **A lookup in layers.** The user's secret is read first. If it exists, it must have the keys
`userKeys`; whether the other secret is read at all is told by `falls`, what it gives by `minted`,
and `missed` describes the reads after which the lookup gives up. -/
structure Layered (s : Settings) (b : Backend) (a : Operating σ α) (userKeys : List String)
    (falls : Option Cluster.Secret → Prop) (missed : Trace World → Prop)
    (minted : Option Cluster.Secret → Cluster.Secret → Except Error α) : Prop where
  /-- The first call reads the user's secret. -/
  first : ∀ {st c}, a.Asks st [] c ↔ c = .cluster (.getSecret s.ns s.userSecret)
  /-- A key that the user's secret lacks is an error that names this secret and the first such
  key. -/
  lacking : ∀ {secret key} st, secret.FirstLacking userKeys key →
    a.StopsAt st [] (readUser s (.ok (some secret))) (.error (.missingSecretKey s.userSecret key))
  /-- A failure of a read is returned unchanged at once. -/
  refused : ∀ {st es name} e, a.Asks st es (.cluster (.getSecret s.ns name)) →
    a.StopsAt st es (read s name (.error e)) (.error e)
  /-- That there are no credentials is said only if the user's secret lets the lookup fall through
  and the other one was not found, unless a read failed in these words. -/
  notFound : ∀ {st es backend user other t},
    a.Runs st es (.error (.credentialsNotFound backend user other)) t →
      (∃ fs name, es = fs ++ [read s name (.error (.credentialsNotFound backend user other))]) ∨
        backend = b ∧ user = s.userSecret ∧ other = s.mintedSecret ∧
          ∃ x fs, es = readUser s (.ok x) :: fs ∧ falls x ∧ missed fs
  /-- The secret that the cluster makes decides as soon as it is found. -/
  found : ∀ {st x es} secret,
    a.Asks st (readUser s (.ok x) :: es) (.cluster (.getSecret s.ns s.mintedSecret)) →
      a.StopsAt st (readUser s (.ok x) :: es) (readMinted s (.ok (some secret))) (minted x secret)
  /-- If it does not give credentials, then for a fault of its own. -/
  faulty : ∀ {x secret e}, falls x → minted x secret = .error e → Faulty s secret e

/-- The reads of secrets while the operator waits for the one that the cluster makes: at least one,
and none that found it. -/
def Waited (s : Settings) (es : Trace World) : Prop :=
  readMinted s (.ok none) ∈ es ∧
    ∀ name x, read s name x ∈ es → name = s.mintedSecret ∧ x = .ok none

/-! ## The second layer -/

/-- A way to find the secret that the cluster makes: a read that finds it, or fails, settles the
matter, and otherwise the operator gives up after reads as in `missed`. -/
structure Finder (s : Settings) (b : Backend) (m : Operating σ Cluster.Secret)
    (missed : Trace World → Prop) : Prop where
  /-- Of the cluster it asks for nothing but this secret. -/
  asks : ∀ {st es c}, m.Asks st es (.cluster c) → c = .getSecret s.ns s.mintedSecret
  /-- A read that finds it, or fails, is its end. -/
  stops : ∀ {st es} (x : Except Error Cluster.Secret),
    m.Asks st es (.cluster (.getSecret s.ns s.mintedSecret)) →
      m.Runs st (es ++ [readMinted s (x.map some)]) x st
  /-- It ends with such a read, or gives up. -/
  runs : ∀ {st es r t}, m.Runs st es r t → t = st ∧
    ((∃ fs, es = fs ++ [readMinted s (r.map some)]) ∨ r = .error (notFound s b) ∧ missed es)

/-- Reading a secret is one call. -/
lemma runs_secret? {name : String} {r : Except Error (Option Cluster.Secret)} :
    Action.Runs (secret? s name) st es r t ↔ es = [read s name r] ∧ t = st :=
  Action.runs_attempt.trans (and_congr Action.runs_one .rfl)

/-- Nothing but the secret is asked for. -/
lemma asks_secret? {name : String} {c : World.Call} :
    Action.Asks (secret? (σ := σ) s name) st es c ↔
      es = [] ∧ c = .cluster (.getSecret s.ns name) :=
  Action.asks_attempt.trans Action.asks_one

/-- One look at the secret that the cluster makes. -/
def lookOnce (s : Settings) (b : Backend) : Operating σ Cluster.Secret := do
  match ← secret? s s.mintedSecret with
  | some secret => return secret
  | none => throw (notFound s b)

/-- A single look finds the secret or gives up after one read.

**Proof sketch.** The look makes one read. An answer with a secret, or a failure, is its result;
without a secret it gives up. -/
lemma finder_lookOnce :
    Finder (σ := σ) s b (lookOnce s b) (· = [readMinted s (.ok none)]) where
  asks {st es c} h := by
    rcases Action.asks_bind.1 h with h | ⟨_ | secret, _, _, _, _, _, h⟩
    · cases (asks_secret?.1 h).2
      rfl
    · exact absurd h Action.asks_throw
    · exact absurd h Action.asks_pure
  stops {st es} x h := by
    rcases Action.asks_bind.1 h with h | ⟨_ | secret, _, _, _, _, _, h⟩
    · obtain ⟨rfl, -⟩ := asks_secret?.1 h
      cases x with
      | error e => exact Action.runs_bind.2 (.inr ⟨e, rfl, runs_secret?.2 ⟨rfl, rfl⟩⟩)
      | ok secret =>
        exact Action.runs_bind.2
          (.inl ⟨some secret, st, _, [], rfl, runs_secret?.2 ⟨rfl, rfl⟩, rfl, rfl⟩)
    · exact absurd h Action.asks_throw
    · exact absurd h Action.asks_pure
  runs {st es r t} h := by
    rcases Action.runs_bind.1 h with ⟨_ | secret, _, fs, gs, rfl, hread, hrest⟩ | ⟨e, rfl, hread⟩
    · obtain ⟨rfl, rfl⟩ := runs_secret?.1 hread
      obtain ⟨rfl, rfl, rfl⟩ := Action.runs_throw.1 hrest
      exact ⟨rfl, .inr ⟨rfl, rfl⟩⟩
    · obtain ⟨rfl, rfl⟩ := runs_secret?.1 hread
      obtain ⟨rfl, rfl, rfl⟩ := Action.runs_pure.1 hrest
      exact ⟨rfl, .inl ⟨[], rfl⟩⟩
    · obtain ⟨rfl, rfl⟩ := runs_secret?.1 hread
      exact ⟨rfl, .inl ⟨[], rfl⟩⟩

/-! ### Waiting for the secret -/

/-- Reads that waited are followed by others that did. -/
lemma Waited.append (h : Waited s es) (h' : Waited s fs) : Waited s (es ++ fs) := by
  refine ⟨List.mem_append_left _ h.1, fun name x hx => ?_⟩
  rcases List.mem_append.1 hx with hx | hx
  · exact h.2 name x hx
  · exact h'.2 name x hx

/-- What a look makes of an answer. -/
def attemptOf (s : Settings) (b : Backend) :
    Except Error (Option Cluster.Secret) → Backoff.Attempt Cluster.Secret
  | .ok (some secret) => .done secret
  | .ok none => .again (notFound s b)
  | .error e => .failed e

/-- A look while waiting is one read, and never fails itself: what was read is its result. -/
lemma runs_look {r : Except Error (Backoff.Attempt Cluster.Secret)} :
    Action.Runs (look s b) st es r t ↔
      ∃ x, es = [readMinted s x] ∧ r = .ok (attemptOf s b x) ∧ t = st := by
  rw [look, Action.runs_bind]
  simp only [Action.runs_outcome, runs_secret?]
  constructor
  · rintro (⟨x, _, _, gs, rfl, ⟨_, hx, rfl, rfl⟩, h⟩ | ⟨_, _, _, h, _⟩)
    · cases hx
      rcases x with e | _ | secret <;> obtain ⟨rfl, rfl, rfl⟩ := Action.runs_pure.1 h <;>
        exact ⟨_, rfl, rfl, rfl⟩
    · cases h
  · rintro ⟨x, rfl, rfl, rfl⟩
    refine .inl ⟨x, _, _, [], (List.append_nil _).symm, ⟨x, rfl, rfl, rfl⟩, ?_⟩
    rcases x with e | _ | secret <;> exact ⟨rfl, rfl⟩

/-- A look while waiting asks for the secret that the cluster makes. -/
lemma asks_look {c : World.Call} :
    Action.Asks (look (σ := σ) s b) st es c ↔
      es = [] ∧ c = .cluster (.getSecret s.ns s.mintedSecret) := by
  refine Action.asks_bind.trans (Iff.trans (or_iff_left ?_)
    (Action.asks_outcome.trans asks_secret?))
  rintro ⟨_ | _ | _, _, _, _, _, _, h⟩
  · exact Action.asks_pure h
  · exact Action.asks_pure h
  · exact Action.asks_pure h

/-- Waiting for the secret is a loop over rounds with a look. -/
lemma awaitMinted_eq :
    awaitMinted (σ := σ) s b = (do
      let start ← Action.perform World.stopwatch
      Action.loop (s.backoff.round (look s b) start) s.backoff.initial) :=
  Backoff.retry_eq

/-- A call that asks something of the cluster comes at the beginning of a round.

**Proof sketch.** What follows the look in a round is about the clock, chance and a pause. -/
lemma asks_round {start mean : Span} {c : Cluster.Call}
    (h : Action.Asks (s.backoff.round (σ := σ) (look s b) start mean) st es (.cluster c)) :
    es = [] ∧ c = .getSecret s.ns s.mintedSecret := by
  rcases Action.asks_bind.1 h with h | ⟨a, _, _, _, _, _, h⟩
  · obtain ⟨rfl, hc⟩ := asks_look.1 h
    cases hc
    exact ⟨rfl, rfl⟩
  · cases a with
    | done secret => exact absurd h Action.asks_pure
    | failed e => exact absurd h Action.asks_throw
    | again e =>
      obtain ⟨-, hc⟩ | ⟨now, _, -, hword⟩ := Action.asks_call.1 h
      · cases hc
      obtain ⟨-, hc⟩ | ⟨word, _, -, hwait⟩ := Action.asks_call.1 hword
      · cases hc
      dsimp only at hwait
      split at hwait
      · obtain ⟨-, hc⟩ | ⟨_, _, -, hend⟩ := Action.asks_call.1 hwait
        · cases hc
        · exact absurd hend Action.asks_pure
      · exact absurd hwait Action.asks_throw

/-- A look that settles the matter ends the round. -/
lemma runs_round_of {start mean : Span} (x : Except Error Cluster.Secret) :
    Action.Runs (s.backoff.round (look s b) start mean) st [readMinted s (x.map some)]
      (x.map .inr) st := by
  refine Action.runs_bind.2 (.inl ⟨_, st, _, [], rfl, runs_look.2 ⟨_, rfl, rfl, rfl⟩, ?_⟩)
  cases x <;> exact ⟨rfl, rfl⟩

/-- A round ends with the look that settles the matter, or the secret was not found in it.

**Proof sketch.** By what the look found. A failure or a secret ends the round; without one the
round reads the clock, and then either waits or gives up, and both make no further read. -/
lemma runs_round {start mean : Span} {o : Except Error (Span ⊕ Cluster.Secret)}
    (h : Action.Runs (s.backoff.round (look s b) start mean) st es o t) :
    t = st ∧ ((∃ x : Except Error Cluster.Secret, es = [readMinted s (x.map some)] ∧
        o = x.map .inr) ∨
      Waited s es ∧ (o = .error (notFound s b) ∨ ∃ next, o = .ok (.inl next))) := by
  rcases Action.runs_bind.1 h with ⟨a, _, _, _, rfl, hlook, hrest⟩ | ⟨_, _, hlook⟩
  · obtain ⟨e | _ | secret, rfl, ha, rfl⟩ := runs_look.1 hlook
    · cases ha
      obtain ⟨rfl, rfl, rfl⟩ := Action.runs_throw.1 hrest
      exact ⟨rfl, .inl ⟨.error e, rfl, rfl⟩⟩
    · cases ha
      obtain ⟨now, _, rfl, hword⟩ := Action.runs_call.1 hrest
      obtain ⟨word, _, rfl, hwait⟩ := Action.runs_call.1 hword
      have hwaited {gs : Trace World} (hgs : ∀ name x, read s name x ∉ gs) :
          Waited s ([readMinted s (.ok none)] ++
            ⟨.stopwatch, now⟩ :: ⟨.randomWord, word⟩ :: gs) := by
        refine ⟨List.mem_cons_self, fun name x hx => ?_⟩
        rcases List.mem_cons.1 hx with hx | hx
        · exact read_injective hx
        rcases List.mem_cons.1 hx with hx | hx
        · cases hx
        rcases List.mem_cons.1 hx with hx | hx
        · cases hx
        · exact absurd hx (hgs name x)
      dsimp only at hwait
      split at hwait
      · obtain ⟨_, _, rfl, hend⟩ := Action.runs_call.1 hwait
        obtain ⟨rfl, rfl, rfl⟩ := Action.runs_pure.1 hend
        refine ⟨rfl, .inr ⟨hwaited fun name x hx => ?_, .inr ⟨_, rfl⟩⟩⟩
        cases List.mem_singleton.1 hx
      · obtain ⟨rfl, rfl, rfl⟩ := Action.runs_throw.1 hwait
        exact ⟨rfl, .inr ⟨hwaited fun _ _ => List.not_mem_nil, .inl rfl⟩⟩
    · cases ha
      obtain ⟨rfl, rfl, rfl⟩ := Action.runs_pure.1 hrest
      exact ⟨rfl, .inl ⟨.ok secret, rfl, rfl⟩⟩
  · obtain ⟨_, _, ha, _⟩ := runs_look.1 hlook
    cases ha

/-- Rounds that go on leave the state as it is. -/
lemma turns_round {start mean next : Span}
    (h : Action.Turns (s.backoff.round (look s b) start) mean st es next t) : t = st := by
  induction h with
  | start => rfl
  | again hround _ ih => exact ih.trans (runs_round hround).1

/-- The secret is asked for at the beginning of a round.

**Proof sketch.** The wait is a stopwatch and a loop. A round asks for the secret first, so nothing
of it comes before, and the rounds before it went on. -/
lemma asks_awaitMinted {c : Cluster.Call} (h : (awaitMinted s b).Asks st es (.cluster c)) :
    c = .getSecret s.ns s.mintedSecret ∧ ∃ start fs mean, es = ⟨.stopwatch, start⟩ :: fs ∧
      Action.Turns (s.backoff.round (look s b) start) s.backoff.initial st fs mean st := by
  rw [awaitMinted_eq] at h
  obtain ⟨-, hc⟩ | ⟨start, _, rfl, hloop⟩ := Action.asks_call.1 h
  · cases hc
  · obtain ⟨mean, _, fs, gs, rfl, hturns, hround⟩ := Action.asks_loop.1 hloop
    obtain ⟨rfl, hc⟩ := asks_round hround
    obtain rfl := turns_round hturns
    exact ⟨hc, start, fs, mean, by rw [List.append_nil], hturns⟩

/-- Waiting ends with the look that settles the matter, or the secret was not found in it.

**Proof sketch.** By the rule for loops (`Action.runs_loop`): the last round settles the matter or
gives up, and the rounds before it only read that there is no secret. -/
lemma runs_awaitMinted {r : Except Error Cluster.Secret}
    (h : Action.Runs (awaitMinted s b) st es r t) :
    t = st ∧ ((∃ fs, es = fs ++ [readMinted s (r.map some)]) ∨
      r = .error (notFound s b) ∧ Waited s es) := by
  rw [awaitMinted_eq] at h
  obtain ⟨start, fs, rfl, hloop⟩ := Action.runs_call.1 h
  have hend : t = st ∧ ((∃ gs, fs = gs ++ [readMinted s (r.map some)]) ∨
      r = .error (notFound s b) ∧ Waited s fs) := by
    refine Action.runs_loop (P := fun _ st es r t => t = st ∧
      ((∃ gs, es = gs ++ [readMinted s (r.map some)]) ∨
        r = .error (notFound s b) ∧ Waited s es)) ?_ hloop
    intro mean st fs o st' hround
    obtain ⟨rfl, ⟨x, rfl, rfl⟩ | ⟨hwaited, rfl | ⟨next, rfl⟩⟩⟩ := runs_round hround
    · cases x with
      | error e => exact ⟨rfl, .inl ⟨[], rfl⟩⟩
      | ok secret => exact ⟨rfl, .inl ⟨[], rfl⟩⟩
    · exact ⟨rfl, .inr ⟨rfl, hwaited⟩⟩
    · rintro gs r t ⟨rfl, ⟨hs, rfl⟩ | ⟨rfl, hmore⟩⟩
      · exact ⟨rfl, .inl ⟨fs ++ hs, (List.append_assoc ..).symm⟩⟩
      · exact ⟨rfl, .inr ⟨rfl, hwaited.append hmore⟩⟩
  obtain ⟨rfl, ⟨gs, rfl⟩ | ⟨rfl, hwaited⟩⟩ := hend
  · exact ⟨rfl, .inl ⟨_ :: gs, rfl⟩⟩
  · refine ⟨rfl, .inr ⟨rfl, List.mem_cons_of_mem _ hwaited.1, fun name x hx => ?_⟩⟩
    rcases List.mem_cons.1 hx with hx | hx
    · cases hx
    · exact hwaited.2 name x hx

/-- Waiting finds the secret, or gives up after reads that did not. -/
lemma finder_awaitMinted : Finder (σ := σ) s b (awaitMinted s b) (Waited s) where
  asks h := (asks_awaitMinted h).1
  stops x h := by
    obtain ⟨-, start, fs, mean, rfl, hturns⟩ := asks_awaitMinted h
    rw [awaitMinted_eq]
    exact Action.runs_call.2 ⟨start, _, rfl, hturns.runs (runs_round_of x) rfl⟩
  runs h := runs_awaitMinted h

/-! ## Both layers -/

/-- A lookup in two layers: the answer about the user's secret decides, or the other secret is
found and gives the result. -/
def layered (s : Settings) (plan : Option Cluster.Secret → Except Error α ⊕ β)
    (m : Operating σ Cluster.Secret) (finish : β → Cluster.Secret → Except Error α) :
    Operating σ α := do
  match plan (← userSecret? s) with
  | .inl r => Action.ofExcept r
  | .inr kept => Action.ofExcept (finish kept (← m))

section

variable {plan : Option Cluster.Secret → Except Error α ⊕ β} {m : Operating σ Cluster.Secret}
  {finish : β → Cluster.Secret → Except Error α} {missed : Trace World → Prop}

/-- The runs of a lookup: a read that fails, a user's secret that decides, or a run of the second
layer.

**Proof sketch.** The lookup is one read followed by what the plan says: an outcome at once, or the
second layer followed by an outcome. Each of the three courses is put together and taken apart in
this way. -/
lemma runs_layered {r : Except Error α} :
    Action.Runs (layered s plan m finish) st es r t ↔
      (∃ e, es = [readUser s (.error e)] ∧ r = .error e ∧ t = st) ∨
      (∃ x, es = [readUser s (.ok x)] ∧ plan x = .inl r ∧ t = st) ∨
      ∃ x fs kept y, es = readUser s (.ok x) :: fs ∧ plan x = .inr kept ∧
        Action.Runs m st fs y t ∧ r = y.bind (finish kept) := by
  rw [layered, userSecret?, Action.runs_bind]
  simp only [runs_secret?]
  constructor
  · rintro (⟨x, _, _, fs, rfl, ⟨rfl, rfl⟩, h⟩ | ⟨e, rfl, rfl, rfl⟩)
    · cases hplan : plan x with
      | inl r' =>
        rw [hplan] at h
        obtain ⟨rfl, rfl, rfl⟩ := Action.runs_ofExcept.1 h
        exact .inr (.inl ⟨x, rfl, hplan, rfl⟩)
      | inr kept =>
        rw [hplan] at h
        refine .inr (.inr ⟨x, fs, kept, ?_⟩)
        rcases Action.runs_bind.1 h with ⟨secret, _, fs', gs, rfl, hm, hf⟩ | ⟨e, rfl, hm⟩
        · obtain ⟨rfl, rfl, rfl⟩ := Action.runs_ofExcept.1 hf
          exact ⟨.ok secret, rfl, hplan, by rwa [List.append_nil], rfl⟩
        · exact ⟨.error e, rfl, hplan, hm, rfl⟩
    · exact .inl ⟨e, rfl, rfl, rfl⟩
  · rintro (⟨e, rfl, rfl, rfl⟩ | ⟨x, rfl, hplan, rfl⟩ | ⟨x, fs, kept, y, rfl, hplan, hm, rfl⟩)
    · exact .inr ⟨e, rfl, rfl, rfl⟩
    · refine .inl ⟨x, _, _, [], rfl, ⟨rfl, rfl⟩, ?_⟩
      rw [hplan]
      exact Action.runs_ofExcept.2 ⟨rfl, rfl, rfl⟩
    · refine .inl ⟨x, _, _, fs, rfl, ⟨rfl, rfl⟩, ?_⟩
      rw [hplan]
      cases y with
      | error e => exact Action.runs_bind.2 (.inr ⟨e, rfl, hm⟩)
      | ok secret =>
        exact Action.runs_bind.2 (.inl ⟨secret, _, fs, [], (List.append_nil _).symm, hm,
          Action.runs_ofExcept.2 ⟨rfl, rfl, rfl⟩⟩)

/-- The calls of a lookup: the read of the user's secret and those of the second layer.

**Proof sketch.** After the read of the user's secret nothing is asked if the plan has an outcome;
otherwise the second layer asks, and what follows it does not. -/
lemma asks_layered {c : World.Call} :
    Action.Asks (layered s plan m finish) st es c ↔
      es = [] ∧ c = .cluster (.getSecret s.ns s.userSecret) ∨
      ∃ x fs kept, es = readUser s (.ok x) :: fs ∧ plan x = .inr kept ∧ Action.Asks m st fs c := by
  refine Action.asks_bind.trans (or_congr asks_secret? ?_)
  constructor
  · rintro ⟨x, _, _, fs, rfl, hread, h⟩
    obtain ⟨rfl, rfl⟩ := runs_secret?.1 hread
    cases hplan : plan x with
    | inl r =>
      rw [hplan] at h
      exact absurd h Action.asks_ofExcept
    | inr kept =>
      rw [hplan] at h
      rcases Action.asks_bind.1 h with h | ⟨_, _, _, _, _, _, h⟩
      · exact ⟨x, fs, kept, rfl, hplan, h⟩
      · exact absurd h Action.asks_ofExcept
  · rintro ⟨x, fs, kept, rfl, hplan, h⟩
    refine ⟨x, st, [readUser s (.ok x)], fs, rfl, runs_secret?.2 ⟨rfl, rfl⟩, ?_⟩
    rw [hplan]
    exact Action.asks_bind.2 (.inl h)

/-- **A lookup in two layers** is one for which plan and finish have the properties that are asked
of it.

**Proof sketch.** Each property is read off from the runs and calls of a lookup (`runs_layered`,
`asks_layered`). That there are no credentials is said in the second layer only, since the plan
names a key that is lacking and what the other secret lacks is not of this kind. -/
lemma layered_of_finder {userKeys : List String} {falls : Option Cluster.Secret → Prop}
    {minted : Option Cluster.Secret → Cluster.Secret → Except Error α} (hm : Finder s b m missed)
    (hlacking : ∀ {secret key}, secret.FirstLacking userKeys key →
      plan (some secret) = .inl (.error (.missingSecretKey s.userSecret key)))
    (hplan : ∀ {x e}, plan x = .inl (.error e) → ∃ key, e = .missingSecretKey s.userSecret key)
    (hkept : ∀ {x kept}, plan x = .inr kept → falls x ∧ minted x = finish kept)
    (hfaulty : ∀ {x secret e}, falls x → minted x secret = .error e → Faulty s secret e) :
    Layered s b (layered s plan m finish) userKeys falls missed minted where
  first {st c} := by
    refine asks_layered.trans ⟨?_, fun h => .inl ⟨rfl, h⟩⟩
    rintro (⟨-, h⟩ | ⟨_, _, _, h, _⟩)
    · exact h
    · cases h
  lacking st h := by
    refine Action.Runs.stopsAt ?_
    exact runs_layered.2 (.inr (.inl ⟨_, rfl, hlacking h, rfl⟩))
  refused {st es name} e h := by
    refine Action.Runs.stopsAt ?_
    rcases asks_layered.1 h with ⟨rfl, hc⟩ | ⟨x, fs, kept, rfl, hkept, h⟩
    · cases hc
      exact runs_layered.2 (.inl ⟨e, rfl, rfl, rfl⟩)
    · cases hm.asks h
      exact runs_layered.2
        (.inr (.inr ⟨x, _, kept, .error e, rfl, hkept, hm.stops (.error e) h, rfl⟩))
  notFound {st es backend user other t} h := by
    rcases runs_layered.1 h with ⟨e, rfl, he, -⟩ | ⟨x, -, h, -⟩ | ⟨x, fs, kept, y, rfl, hx, hy, hr⟩
    · cases he
      exact .inl ⟨[], s.userSecret, rfl⟩
    · obtain ⟨_, he⟩ := hplan h
      cases he
    · obtain ⟨hfalls, hfinish⟩ := hkept hx
      obtain ⟨-, ⟨gs, rfl⟩ | ⟨rfl, hmissed⟩⟩ := hm.runs hy
      · cases y with
        | error e =>
          cases hr
          exact .inl ⟨_ :: gs, s.mintedSecret, rfl⟩
        | ok secret => exact (hfaulty hfalls ((congrFun hfinish secret).trans hr.symm)).elim
      · cases hr
        exact .inr ⟨rfl, rfl, rfl, x, fs, rfl, hfalls, hmissed⟩
  found {st x es} secret h := by
    refine Action.Runs.stopsAt ?_
    rcases asks_layered.1 h with ⟨h, -⟩ | ⟨x', fs, kept, heq, hx, h⟩
    · cases h
    · cases heq
      rw [(hkept hx).2]
      exact runs_layered.2
        (.inr (.inr ⟨x, _, kept, .ok secret, rfl, hx, hm.stops (.ok secret) h, rfl⟩))
  faulty := hfaulty

end

/-- The user's secret decides if it exists. -/
def userWins (user : Cluster.Secret → Except Error α) :
    Option Cluster.Secret → Except Error α ⊕ Unit
  | some secret => .inl (user secret)
  | none => .inr ()

/-- Where the user's secret wins, it decides alone. -/
lemma userFirst_layered {user : Cluster.Secret → Except Error α}
    {m : Operating σ Cluster.Secret} {finish : Unit → Cluster.Secret → Except Error α} :
    UserFirst s (layered s (userWins user) m finish) user := by
  have hdecides (st : σ) (secret : Cluster.Secret) :
      (layered s (userWins user) m finish).StopsAt st [] (readUser s (.ok (some secret)))
        (user secret) :=
    Action.Runs.stopsAt (runs_layered.2 (.inr (.inl ⟨_, rfl, rfl, rfl⟩)))
  refine ⟨hdecides, fun h h' => ?_⟩
  obtain ⟨rfl, rfl, -⟩ := (hdecides _ _).unique h
  obtain ⟨rfl, rfl, -⟩ := (hdecides _ _).unique h'
  exact ⟨rfl, rfl, rfl⟩

/-- **A lookup where the user's secret wins is one in layers.**

**Proof sketch.** The plan has an outcome if there is a secret of the user, which is what that
secret gives, and goes on only if there is none. -/
lemma layered_userWins {missed : Trace World → Prop} {userKeys : List String}
    {user minted : Cluster.Secret → Except Error α} {m : Operating σ Cluster.Secret}
    (hm : Finder s b m missed)
    (hlacking : ∀ {secret key}, secret.FirstLacking userKeys key →
      user secret = .error (.missingSecretKey s.userSecret key))
    (huser : ∀ {secret e}, user secret = .error e → ∃ key, e = .missingSecretKey s.userSecret key)
    (hfaulty : ∀ {secret e}, minted secret = .error e → Faulty s secret e) :
    Layered s b (layered s (userWins user) m fun _ => minted) userKeys (· = none) missed
      fun _ => minted := by
  refine layered_of_finder hm (fun h => congrArg Sum.inl (hlacking h)) ?_ ?_ fun _ => hfaulty
  · rintro (_ | secret) e h
    · cases h
    · exact huser (Sum.inl.inj h)
  · rintro (_ | secret) kept h
    · exact ⟨rfl, rfl⟩
    · cases h

/-! ## Values of secrets -/

section

variable {name key : String} {secret : Cluster.Secret} {e : Error}

/-- A key that is lacking is an error which names it. -/
lemma require_of_lacks (h : secret.Lacks key) :
    require name secret key = .error (.missingSecretKey name key) := by
  rw [require, Cluster.Secret.value?_eq_none_iff.2 h]

/-- A key that is not lacking has a text. -/
lemma require_of_not_lacks (name : String) (h : ¬ secret.Lacks key) :
    ∃ v, require name secret key = .ok v := by
  cases hv : secret.value? key with
  | none => exact absurd (Cluster.Secret.value?_eq_none_iff.1 hv) h
  | some v => exact ⟨v, by rw [require, hv]⟩

variable {f : String → Except Error α}

/-- Values are read in order, so the first that is lacking is the failure. -/
lemma require_bind_of_firstLacking {k : String} {keys : List String}
    (h : secret.FirstLacking (k :: keys) key)
    (hf : ∀ v, secret.FirstLacking keys key → f v = .error (.missingSecretKey name key)) :
    (require name secret k >>= f) = .error (.missingSecretKey name key) := by
  rcases Cluster.Secret.firstLacking_cons.1 h with ⟨rfl, h⟩ | ⟨hk, h⟩
  · rw [require_of_lacks h]
    rfl
  · obtain ⟨v, hv⟩ := require_of_not_lacks name hk
    rw [hv]
    exact hf v h

/-- The error names a key that the secret lacks. -/
def Blames (name : String) (secret : Cluster.Secret) (e : Error) : Prop :=
  ∃ key, e = .missingSecretKey name key ∧ secret.Lacks key

/-- An error that blames the secret of the cluster for a key is a fault of that secret. -/
lemma Blames.faulty (h : Blames s.mintedSecret secret e) : Faulty s secret e := by
  obtain ⟨key, rfl, h⟩ := h
  exact ⟨rfl, h⟩

/-- A failure of two results, one after the other, is one of the first or one of the second. -/
lemma bind_eq_error {γ δ : Type} {x : Except Error γ} {g : γ → Except Error δ}
    (h : (x >>= g) = .error e) : x = .error e ∨ ∃ a, x = .ok a ∧ g a = .error e := by
  cases x with
  | error e' => exact .inl (by cases h; rfl)
  | ok a => exact .inr ⟨a, rfl, h⟩

/-- A text that is required is missing for want of its key only. -/
lemma blames_require (h : require name secret key = .error e) : Blames name secret e := by
  by_cases hl : secret.Lacks key
  · rw [require_of_lacks hl] at h
    cases h
    exact ⟨key, rfl, hl⟩
  · obtain ⟨v, hv⟩ := require_of_not_lacks name hl
    rw [hv] at h
    cases h

/-- What goes on with a required text blames the secret if its own errors do. -/
lemma blames_require_bind (h : (require name secret key >>= f) = .error e)
    (hf : ∀ v, f v = .error e → Blames name secret e) : Blames name secret e := by
  rcases bind_eq_error h with h | ⟨v, -, h⟩
  · exact blames_require h
  · exact hf v h

end

/-! ### Each cloud -/

section

variable {name key : String} {secret : Cluster.Secret} {e : Error} {source : CredentialSource}

/-- The first key that a secret for S3 lacks is the error. -/
lemma s3Keys_of_firstLacking {idKey secretKey : String}
    (h : secret.FirstLacking [idKey, secretKey] key) :
    s3Keys name source idKey secretKey secret = .error (.missingSecretKey name key) := by
  refine require_bind_of_firstLacking h fun _ h => require_bind_of_firstLacking h fun _ h => ?_
  exact absurd h Cluster.Secret.not_firstLacking_nil

/-- Keys for S3 are missing for want of a key of the secret only. -/
lemma blames_s3Keys {idKey secretKey : String}
    (h : s3Keys name source idKey secretKey secret = .error e) : Blames name secret e := by
  refine blames_require_bind h fun _ h => blames_require_bind h fun _ h => ?_
  cases h

/-- The key that a secret for Google Cloud lacks is the error. -/
lemma gcsKeyFile_of_firstLacking {fileKey : String} (h : secret.FirstLacking [fileKey] key) :
    gcsKeyFile name source fileKey secret = .error (.missingSecretKey name key) := by
  refine require_bind_of_firstLacking h fun _ h => ?_
  exact absurd h Cluster.Secret.not_firstLacking_nil

/-- The key file is missing for want of its key only. -/
lemma blames_gcsKeyFile {fileKey : String}
    (h : gcsKeyFile name source fileKey secret = .error e) : Blames name secret e := by
  refine blames_require_bind h fun _ h => ?_
  cases h

/-- The first key that a user's secret for Swift lacks is the error. -/
lemma swiftUser_of_firstLacking
    (h : secret.FirstLacking [Key.swiftUsername, Key.swiftPassword] key) :
    swiftUser s secret = .error (.missingSecretKey s.userSecret key) := by
  refine require_bind_of_firstLacking h fun _ h => require_bind_of_firstLacking h fun _ h => ?_
  exact absurd h Cluster.Secret.not_firstLacking_nil

/-- A user's login for Swift is missing for want of a key of the secret only. -/
lemma blames_swiftUser (h : swiftUser s secret = .error e) : Blames s.userSecret secret e := by
  refine blames_require_bind h fun _ h => blames_require_bind h fun _ h => ?_
  cases h

/-- A login for Swift from the secret of the cluster is missing for a fault of that secret only.

**Proof sketch.** Either the file of clouds is lacking, or there is one that cannot be read or does
not have the cloud; an error is then about the file, whose key is there. -/
lemma faulty_swiftCloud (h : swiftCloud s secret = .error e) : Faulty s secret e := by
  rcases bind_eq_error h with h | ⟨raw, hraw, h⟩
  · exact (blames_require h).faulty
  have hkey : ¬ secret.Lacks Key.openStackClouds := fun hl => by
    rw [mintedValue, require_of_lacks hl] at hraw
    cases hraw
  rcases bind_eq_error h with h | ⟨clouds, -, h⟩
  · unfold Clouds.parse at h
    split at h
    · cases h
      exact hkey
    · split at h
      · cases h
        exact hkey
      · cases h
  · split at h
    · cases h
    · cases h
      exact hkey

/-- A proof of identity is missing only if both its keys are, and then the secret is blamed for
one. -/
lemma blames_azureProof (h : azureProof s secret = .error e) :
    Blames s.mintedSecret secret e := by
  unfold azureProof at h
  split at h
  · cases h
  · rename_i hsecret
    split at h
    · cases h
    · cases h
      exact ⟨_, rfl, Cluster.Secret.value?_eq_none_iff.1 hsecret⟩

/-- An identity in Azure is missing for want of a key of the secret only. -/
lemma blames_azureIdentity (h : azureIdentity s secret = .error e) :
    Blames s.mintedSecret secret e := by
  rcases bind_eq_error h with h | ⟨proof, -, h⟩
  · exact blames_azureProof h
  refine blames_require_bind h fun _ h => blames_require_bind h fun _ h => ?_
  refine blames_require_bind h fun _ h => blames_require_bind h fun _ h => ?_
  refine blames_require_bind h fun _ h => ?_
  cases h

/-! ### The lookups in layers -/

/-- The lookup for S3 is one in layers. -/
lemma s3_eq :
    s3 (σ := σ) s = layered s
      (userWins (s3Keys s.userSecret .user Key.s3AccessKey Key.s3SecretKey)) (awaitMinted s .s3)
      fun _ => s3Keys s.mintedSecret .minted Key.awsAccessKeyId Key.awsSecretAccessKey := by
  refine congrArg (userSecret? s >>= ·) (funext fun x => ?_)
  cases x <;> rfl

/-- The lookup for Google Cloud is one in layers. -/
lemma gcs_eq :
    gcs (σ := σ) s = layered s (userWins (gcsKeyFile s.userSecret .user Key.gcsKeyFile))
      (awaitMinted s .gcs) fun _ => gcsKeyFile s.mintedSecret .minted Key.gcpServiceAccount := by
  refine congrArg (userSecret? s >>= ·) (funext fun x => ?_)
  cases x <;> rfl

/-- The lookup for Swift is one in layers. -/
lemma swift_eq :
    swift (σ := σ) s =
      layered s (userWins (swiftUser s)) (lookOnce s .swift) fun _ => swiftCloud s := by
  refine congrArg (userSecret? s >>= ·) (funext fun x => ?_)
  cases x with
  | some secret => rfl
  | none =>
    change _ = (lookOnce s .swift >>= fun secret => Action.ofExcept (swiftCloud s secret))
    rw [lookOnce, bind_assoc]
    refine congrArg (secret? s s.mintedSecret >>= ·) (funext fun y => ?_)
    cases y <;> rfl

/-- The key of a storage account that the user's secret gives, or its failure. -/
def azurePlan (s : Settings) (x : Option Cluster.Secret) :
    Except Error Azure.Credentials ⊕ Option String :=
  match azureAccountKey? s x with
  | .error e => .inl (.error e)
  | .ok accountKey => .inr accountKey

/-- The identity of a secret together with a key. -/
def azureWith (s : Settings) (accountKey : Option String) (secret : Cluster.Secret) :
    Except Error Azure.Credentials :=
  (azureIdentity s secret).map ({ identity := ·, accountKey })

/-- The lookup for Azure is one in layers. -/
lemma azure_eq :
    azure (σ := σ) s = layered s (azurePlan s) (awaitMinted s .azure) (azureWith s) := by
  refine congrArg (userSecret? s >>= ·) (funext fun x => ?_)
  unfold azurePlan
  cases azureAccountKey? s x with
  | error e => rfl
  | ok accountKey =>
    refine congrArg (awaitMinted s .azure >>= ·) (funext fun secret => ?_)
    unfold azureWith
    cases azureIdentity s secret <;> rfl

/-- What the two secrets give together. -/
def azureOf (s : Settings) (x : Option Cluster.Secret) (secret : Cluster.Secret) :
    Except Error Azure.Credentials := do
  let accountKey ← azureAccountKey? s x
  let identity ← azureIdentity s secret
  return { identity, accountKey }

/-- A user's secret without the account key is an error that names it. -/
lemma azureAccountKey?_of_lacks (h : secret.Lacks Key.azureAccountKey) :
    azureAccountKey? s (some secret) =
      .error (.missingSecretKey s.userSecret Key.azureAccountKey) := by
  change (require s.userSecret secret Key.azureAccountKey).map some = _
  rw [require_of_lacks h]
  rfl

/-- The only error is that a user's secret lacks the account key.

**Proof sketch.** Without a secret of the user there is no error, and a key that is there gives one
neither. -/
lemma azureAccountKey?_eq_error {x : Option Cluster.Secret}
    (h : azureAccountKey? s x = .error e) :
    ∃ secret ∈ x, secret.Lacks Key.azureAccountKey ∧
      e = .missingSecretKey s.userSecret Key.azureAccountKey := by
  cases x with
  | none => cases h
  | some secret =>
    by_cases hl : secret.Lacks Key.azureAccountKey
    · rw [azureAccountKey?_of_lacks hl] at h
      exact ⟨secret, rfl, hl, (Except.error.inj h).symm⟩
    · obtain ⟨v, hv⟩ := require_of_not_lacks s.userSecret hl
      change (require s.userSecret secret Key.azureAccountKey).map some = _ at h
      rw [hv] at h
      cases h

/-- The lookup on Azure goes on with the account key, if there is one. -/
lemma azurePlan_eq_inr {x : Option Cluster.Secret} {kept : Option String}
    (h : azurePlan s x = .inr kept) : azureAccountKey? s x = .ok kept := by
  unfold azurePlan at h
  split at h
  · cases h
  · cases h
    assumption

/-- The lookup on Azure has an outcome at once only if the account key is an error. -/
lemma azurePlan_eq_inl {x : Option Cluster.Secret} {r : Except Error Azure.Credentials}
    (h : azurePlan s x = .inl r) : ∃ e, r = .error e ∧ azureAccountKey? s x = .error e := by
  unfold azurePlan at h
  split at h
  · cases h
    exact ⟨_, rfl, by assumption⟩
  · cases h

/-- Credentials for Azure have the account key that was kept and the identity that was found. -/
lemma azureWith_eq_ok {kept : Option String} {c : Azure.Credentials}
    (h : azureWith s kept secret = .ok c) :
    c.accountKey = kept ∧ azureIdentity s secret = .ok c.identity := by
  unfold azureWith at h
  cases hi : azureIdentity s secret with
  | error e =>
    rw [hi] at h
    cases h
  | ok identity =>
    rw [hi] at h
    cases h
    exact ⟨rfl, rfl⟩

/-- The account key is the user's, and the identity comes from the other secret.

**Proof sketch.** A run that succeeds went on after the first read, so the account key is what that
read gives, and it ended with a read that found the other secret, which gives the identity. Runs
with the same first read, or the same last one, thus agree on that part. -/
lemma combined_azure :
    Combined (σ := σ) s (azure s) Azure.Credentials.accountKey Azure.Credentials.identity
      (azureAccountKey? s) (azureIdentity s) := by
  have hdecides {st : σ} {es : Trace World} {c : Azure.Credentials} {t : σ}
      (h : (azure s).Runs st es (.ok c) t) : ∃ x secret fs,
        es = readUser s (.ok x) :: fs ++ [readMinted s (.ok (some secret))] ∧
          azureAccountKey? s x = .ok c.accountKey ∧ azureIdentity s secret = .ok c.identity := by
    rw [azure_eq] at h
    rcases runs_layered.1 h with ⟨_, _, he, _⟩ | ⟨x, _, hx, _⟩ |
      ⟨x, fs, kept, y, rfl, hx, hy, hr⟩
    · cases he
    · obtain ⟨_, he, -⟩ := azurePlan_eq_inl hx
      cases he
    · cases y with
      | error e => cases hr
      | ok secret =>
        obtain ⟨rfl, hidentity⟩ := azureWith_eq_ok hr.symm
        obtain ⟨-, ⟨gs, rfl⟩ | ⟨hgone, -⟩⟩ := finder_awaitMinted.runs hy
        · exact ⟨x, secret, gs, rfl, azurePlan_eq_inr hx, hidentity⟩
        · cases hgone
  refine ⟨hdecides, fun h h' => ?_, fun h h' => ?_⟩
  · obtain ⟨x, _, _, heq, hkey, -⟩ := hdecides h
    obtain ⟨x', _, _, heq', hkey', -⟩ := hdecides h'
    obtain ⟨-, hx⟩ := read_injective (List.cons.inj heq).1
    obtain ⟨-, hx'⟩ := read_injective (List.cons.inj heq').1
    cases hx.symm.trans hx'
    exact Except.ok.inj (hkey.symm.trans hkey')
  · obtain ⟨_, y, _, heq, -, hidentity⟩ := hdecides h
    obtain ⟨_, y', _, heq', -, hidentity'⟩ := hdecides h'
    obtain ⟨-, hy⟩ := read_injective (List.singleton_inj.1 (List.append_inj' heq rfl).2)
    obtain ⟨-, hy'⟩ := read_injective (List.singleton_inj.1 (List.append_inj' heq' rfl).2)
    cases hy.symm.trans hy'
    exact Except.ok.inj (hidentity.symm.trans hidentity')

/-- The user's secret is absent or complete if the lookup on Azure goes on.

**Proof sketch.** The plan refuses a user's secret without the account key and keeps the key
otherwise; what is made of the other secret fails only for a key of that secret, as the user's was
not refused. -/
lemma layered_azure :
    Layered (σ := σ) s .azure (azure s) [Key.azureAccountKey]
      (fun x => ∀ secret ∈ x, ¬ secret.Lacks Key.azureAccountKey) (Waited s) (azureOf s) := by
  rw [azure_eq]
  refine layered_of_finder finder_awaitMinted ?_ ?_ ?_ ?_
  · intro secret key h
    rcases Cluster.Secret.firstLacking_cons.1 h with ⟨rfl, hl⟩ | ⟨-, h⟩
    · rw [azurePlan, azureAccountKey?_of_lacks hl]
    · exact absurd h Cluster.Secret.not_firstLacking_nil
  · intro x e h
    obtain ⟨_, he, h⟩ := azurePlan_eq_inl h
    cases he
    obtain ⟨_, _, _, he⟩ := azureAccountKey?_eq_error h
    exact ⟨_, he⟩
  · intro x kept h
    have hkey := azurePlan_eq_inr h
    constructor
    · rintro secret rfl hl
      rw [azureAccountKey?_of_lacks hl] at hkey
      cases hkey
    · funext secret
      rw [azureOf, hkey, azureWith]
      cases azureIdentity s secret <;> rfl
  · intro x secret e hx h
    rcases bind_eq_error h with h | ⟨kept, -, h⟩
    · obtain ⟨user, huser, hl, -⟩ := azureAccountKey?_eq_error h
      exact absurd hl (hx user huser)
    · rcases bind_eq_error h with h | ⟨identity, -, h⟩
      · exact (blames_azureIdentity h).faulty
      · cases h

end

/-- **Credentials are looked up in layers.** For S3, Google Cloud and Swift the user's secret alone
decides if it exists. On Azure the account key is the user's and the identity comes from the secret
that the cluster makes. A key that the user's secret lacks is an error and no reason to go on, a
read that fails ends the lookup, a secret of the cluster that is found decides, and that there are
no credentials is said only if the user's secret is absent (on Azure: absent or complete) and no
read found the other one; for Swift there is a single such read.

**Proof sketch.** Each lookup is an instance of `layered` (`s3_eq`, `gcs_eq`, `swift_eq`,
`azure_eq`), whose runs and calls are those of its layers (`runs_layered`, `asks_layered`). The
second layer either waits (`finder_awaitMinted`, by induction on the rounds) or looks once
(`finder_lookOnce`). A run that a prefix allows is the only one with this prefix
(`Action.Runs.stopsAt`). -/
theorem lookups_layered (σ : Type) (s : Settings) :
    (UserFirst (σ := σ) s (s3 s) (s3Keys s.userSecret .user Key.s3AccessKey Key.s3SecretKey) ∧
      Layered (σ := σ) s .s3 (s3 s) [Key.s3AccessKey, Key.s3SecretKey] (· = none) (Waited s)
        fun _ => s3Keys s.mintedSecret .minted Key.awsAccessKeyId Key.awsSecretAccessKey) ∧
    (UserFirst (σ := σ) s (gcs s) (gcsKeyFile s.userSecret .user Key.gcsKeyFile) ∧
      Layered (σ := σ) s .gcs (gcs s) [Key.gcsKeyFile] (· = none) (Waited s)
        fun _ => gcsKeyFile s.mintedSecret .minted Key.gcpServiceAccount) ∧
    (UserFirst (σ := σ) s (swift s) (swiftUser s) ∧
      Layered (σ := σ) s .swift (swift s) [Key.swiftUsername, Key.swiftPassword] (· = none)
        (· = [readMinted s (.ok none)]) fun _ => swiftCloud s) ∧
    (Combined (σ := σ) s (azure s) Azure.Credentials.accountKey Azure.Credentials.identity
        (azureAccountKey? s) (azureIdentity s) ∧
      Layered (σ := σ) s .azure (azure s) [Key.azureAccountKey]
        (fun x => ∀ secret ∈ x, ¬ secret.Lacks Key.azureAccountKey) (Waited s) (azureOf s)) := by
  have missing {name : String} {secret : Cluster.Secret} {e : Error}
      (h : Blames name secret e) : ∃ key, e = .missingSecretKey name key :=
    h.imp fun _ h => h.1
  refine ⟨⟨?_, ?_⟩, ⟨?_, ?_⟩, ⟨?_, ?_⟩, combined_azure, layered_azure⟩
  · exact s3_eq ▸ userFirst_layered
  · exact s3_eq ▸ layered_userWins finder_awaitMinted s3Keys_of_firstLacking
      (fun h => missing (blames_s3Keys h)) fun h => (blames_s3Keys h).faulty
  · exact gcs_eq ▸ userFirst_layered
  · exact gcs_eq ▸ layered_userWins finder_awaitMinted gcsKeyFile_of_firstLacking
      (fun h => missing (blames_gcsKeyFile h)) fun h => (blames_gcsKeyFile h).faulty
  · exact swift_eq ▸ userFirst_layered
  · exact swift_eq ▸ layered_userWins finder_lookOnce swiftUser_of_firstLacking
      (fun h => missing (blames_swiftUser h)) faulty_swiftCloud

end Credentials

end Depot
