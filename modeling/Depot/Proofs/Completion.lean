import Depot.Proofs.Contract

set_option autoImplicit false

/-!
# Programs that come to an end

A program that keeps a contract may still wait forever. It ends under a contract if besides every
loop is left after some number of rounds, which may depend on the answers so far. As for contracts,
this is computed along the program, and the rules are the same but for loops.

## Main definitions

* `Prog.Ends`, `Action.Ends` — a program or action keeps a contract, comes to an end and ends well.
* `Action.Halts` — an action that comes to an end in some way, from all states.
* `Action.Gives` — an action that ends with a given result and changes nothing.

## Main results

* `Prog.Ends.keeps` — a program that ends keeps the contract.
* `Prog.Ends.exists_run` — a program that ends can be run with every way to answer its calls.
* `Prog.Ends.may` — a program that ends has a run if all it asks can be answered.
* `Prog.Ends.project` — a program that ends does so under a contract that knows more.
* `Prog.Ends.interpret` — a program that ends does so over another interface.
* `Action.ends_bind` and so on — the end of an action, from those of its parts.
-/

namespace Depot

namespace Prog

variable {I J : Interface} {G H α β σ : Type}

/-- A loop is left within some rounds, with results and states as described, if every round does
what is needed for that. -/
def RoundsEnd (round : σ → G → (σ ⊕ β → G → Prop) → Prop) :
    Nat → σ → G → (β → G → Prop) → Prop
  | 0, _, _, _ => False
  | n + 1, s, g, Q => round s g fun o g' =>
    match o with
    | .inl t => RoundsEnd round n t g' Q
    | .inr b => Q b g'

/-- The program makes only calls that a contract permits and comes to an end, in results and states
as described, whatever the answers within the contract. -/
def Ends (K : Contract I G) {α : Type} : Prog I α → G → (α → G → Prop) → Prop
  | .pure a, g, Q => Q a g
  | .call c next, g, Q => K.permits g c ∧ ∀ x g', K.step g c x g' → (next x).Ends K g' Q
  | .loop body init next, g, Q =>
    ∃ n, RoundsEnd (fun s g P => (body s).Ends K g P) n init g fun b g' => (next b).Ends K g' Q

variable {K : Contract I G}

/-- A program that is done ends if its result is as described. -/
@[simp] lemma ends_pure {a : α} {g : G} {Q : α → G → Prop} :
    (Prog.pure a : Prog I α).Ends K g Q ↔ Q a g := Iff.rfl

/-- A call ends if it is permitted, and every answer that occurs is as described. -/
@[simp] lemma ends_perform {c : I.Call} {g : G} {Q : I.Answer c → G → Prop} :
    (perform c).Ends K g Q ↔ K.permits g c ∧ ∀ x g', K.step g c x g' → Q x g' := Iff.rfl

/-- One program after another ends if the first does, where the second does. -/
@[simp] lemma ends_bind {p : Prog I α} {f : α → Prog I β} {g : G} {Q : β → G → Prop} :
    (p.bind f).Ends K g Q ↔ p.Ends K g fun a g' => (f a).Ends K g' Q := by
  induction p generalizing g with
  | pure a => rfl
  | call c next ih => simp only [call_bind, Ends, ih]
  | loop body init next _ ih => simp only [loop_bind, Ends, ih]

/-- The condition on the result of a loop may be weakened if that on the outcome of a round may.

**Proof sketch.** By induction on the number of rounds; a round that goes on does so under the
weaker condition on the rest. -/
lemma RoundsEnd.mono {round : σ → G → (σ ⊕ β → G → Prop) → Prop}
    (hround : ∀ s g P P', (∀ o g', P o g' → P' o g') → round s g P → round s g P')
    {P Q : β → G → Prop} (hPQ : ∀ b g, P b g → Q b g) {n : Nat} {s : σ} {g : G}
    (h : RoundsEnd round n s g P) : RoundsEnd round n s g Q := by
  induction n generalizing s g with
  | zero => exact h
  | succ n ih =>
    refine hround s g _ _ ?_ h
    rintro (t | b) g' h'
    · exact ih h'
    · exact hPQ b g' h'

/-- The condition on the end may be weakened.

**Proof sketch.** By induction on the program. For a loop the same number of rounds suffices. -/
lemma Ends.mono {p : Prog I α} {g : G} {P Q : α → G → Prop} (h : p.Ends K g P)
    (hPQ : ∀ a g', P a g' → Q a g') : p.Ends K g Q := by
  induction p generalizing g with
  | pure a => exact hPQ a g h
  | call c next ih => exact ⟨h.1, fun x g' hs => ih x (h.2 x g' hs) hPQ⟩
  | loop body init next ihb ihn =>
    obtain ⟨n, hn⟩ := h
    refine ⟨n, RoundsEnd.mono ?_ (fun b g h => ihn b h hPQ) hn⟩
    exact fun s g P P' hPP' h => ihb s h hPP'

/-- **A program that ends keeps the contract**: what can still end is an invariant of every loop.

**Proof sketch.** By induction on the program. The invariant of a loop says that some number of
rounds is enough from here; a round that goes on leaves one less. -/
theorem Ends.keeps {p : Prog I α} {g : G} {Q : α → G → Prop} (h : p.Ends K g Q) :
    p.Keeps K g Q := by
  induction p generalizing g with
  | pure a => exact h
  | call c next ih => exact ⟨h.1, fun x g' hs => ih x (h.2 x g' hs)⟩
  | loop body init next ihb ihn =>
    refine ⟨fun s g => ∃ n, RoundsEnd (fun s g P => (body s).Ends K g P) n s g
      fun b g' => (next b).Ends K g' Q, fun b g => (next b).Ends K g Q, h, ?_, fun b g => ihn b⟩
    rintro s g ⟨_ | n, hn⟩
    · exact hn.elim
    · refine (ihb s hn).mono ?_
      rintro (t | b) g' h'
      · exact ⟨n, h'⟩
      · exact h'

/-! ### Computed runs -/

/-- Given answers are within a contract for all that a program asks after a trace. -/
def Answers (K : Contract I G) (answer : Trace I → (c : I.Call) → I.Answer c) (p : Prog I α)
    (es : Trace I) (g : G) : Prop :=
  ∀ fs c g', p.Asks fs c → K.Path g fs g' → ∃ g'', K.step g' c (answer (es ++ fs) c) g''

/-- The program can be run from a trace with given answers: if enough rounds are allowed there is a
result, which is as described. -/
def CanRun (K : Contract I G) (answer : Trace I → (c : I.Call) → I.Answer c) (p : Prog I α)
    (es : Trace I) (g : G) (Q : α → G → Prop) : Prop :=
  ∃ a fs g' limit, (∀ n, limit ≤ n → p.run (recorded answer) n es = (some a, es ++ fs)) ∧
    K.Path g fs g' ∧ Q a g'

variable {answer : Trace I → (c : I.Call) → I.Answer c}

/-- Rounds of a loop that end can be run one after another.

**Proof sketch.** By induction on the number of rounds. The first round can be run with the given
answers; if it goes on, the others can be run behind its trace, for which the answers are within the
contract as well, since the rounds taken so far lead there. The limits of the runs are joined by
their maximum. -/
lemma RoundsEnd.exists_run {body : σ → Prog I (σ ⊕ β)} {Q : β → G → Prop}
    (hbody : ∀ s es g P, (body s).Ends K g P → Answers K answer (body s) es g →
      CanRun K answer (body s) es g P) {n : Nat} {s : σ} {es : Trace I} {g : G}
    (h : RoundsEnd (fun s g P => (body s).Ends K g P) n s g Q)
    (ha : ∀ fs t gs c g', Rounds (fun s => (body s).Runs) s fs (.inl t) → (body t).Asks gs c →
      K.Path g (fs ++ gs) g' → ∃ g'', K.step g' c (answer (es ++ (fs ++ gs)) c) g'') :
    ∃ b fs g' limit,
      (∀ m r, limit ≤ m → n ≤ r → iterate (fun s => (body s).run (recorded answer) m) r s es =
        (some b, es ++ fs)) ∧
      Rounds (fun s => (body s).Runs) s fs (.inr b) ∧ K.Path g fs g' ∧ Q b g' := by
  induction n generalizing s es g with
  | zero => exact h.elim
  | succ n ih =>
    obtain ⟨o, fs, g', limit, hrun, hpath, ho⟩ :=
      hbody s es g _ h fun gs c g' hc hp => ha [] s gs c g' (.start s) hc hp
    have hruns : (body s).Runs fs o := by
      obtain ⟨fs', heq, hruns⟩ := runs_of_run answer limit (body s) (hrun limit (Nat.le_refl _))
      rwa [← List.append_cancel_left heq] at hruns
    rcases o with t | b
    · obtain ⟨b, gs, g'', limit', hrun', hrounds, hpath', hb⟩ :=
        @ih t (es ++ fs) g' ho fun hs u is c g'' hr hc hp => by
          have hstep := ha (fs ++ hs) u is c g'' (.again hruns hr) hc
          rw [List.append_assoc] at hstep ⊢
          exact hstep ((K.path_append ..).2 ⟨g', hpath, hp⟩)
      refine ⟨b, fs ++ gs, g'', max limit limit', ?_, .again hruns hrounds,
        (K.path_append ..).2 ⟨g', hpath, hpath'⟩, hb⟩
      intro m r hm hr
      obtain ⟨r, rfl⟩ := Nat.exists_eq_add_of_le' hr
      rw [← Nat.add_assoc, iterate, stateM_bind, hrun m (by omega), ← List.append_assoc]
      exact hrun' m (r + n) (by omega) (by omega)
    · refine ⟨b, fs, g', limit, ?_, .done hruns, hpath, ho⟩
      intro m r hm hr
      obtain ⟨r, rfl⟩ := Nat.exists_eq_add_of_le' hr
      rw [← Nat.add_assoc, iterate, stateM_bind, hrun m hm]
      rfl

/-- **A program that ends can be run with every way to answer its calls** that is within the
contract, and ends well in that run.

**Proof sketch.** By induction on the program, with the trace so far general. The answer of a call
is within the contract, and so are the answers after it. For a loop there is a number of rounds
within which it ends (`RoundsEnd.exists_run`), and what follows is run behind its trace. -/
theorem Ends.exists_run {p : Prog I α} {es : Trace I} {g : G} {Q : α → G → Prop}
    (h : p.Ends K g Q) (ha : Answers K answer p es g) : CanRun K answer p es g Q := by
  induction p generalizing es g with
  | pure a => exact ⟨a, [], g, 0, fun n _ => by rw [List.append_nil]; rfl, rfl, h⟩
  | call c next ih =>
    obtain ⟨g', hs⟩ := ha [] c g (.inl ⟨rfl, rfl⟩) rfl
    rw [List.append_nil] at hs
    obtain ⟨a, fs, g'', limit, hrun, hpath, hq⟩ :=
      @ih _ (es ++ [⟨c, answer es c⟩]) g' Q (h.2 _ g' hs) fun fs d g'' hd hp => by
        have hstep := ha (⟨c, answer es c⟩ :: fs) d g'' (.inr ⟨_, fs, rfl, hd⟩) ⟨g', hs, hp⟩
        rwa [List.append_cons] at hstep
    refine ⟨a, ⟨c, answer es c⟩ :: fs, g'', limit, fun n hn => ?_, ⟨g', hs, hpath⟩, hq⟩
    rw [List.append_cons]
    exact hrun n hn
  | @loop σ τ α body init next ihb ihn =>
    obtain ⟨n, hn⟩ := h
    obtain ⟨b, fs, g', limit, hrun, hrounds, hpath, hb⟩ :=
      RoundsEnd.exists_run (fun s _ _ _ => ihb s) hn fun fs t gs c g' hr hc hp =>
        ha (fs ++ gs) c g' ⟨fs, gs, rfl, .inl ⟨t, hr, hc⟩⟩ hp
    obtain ⟨a, gs, g'', limit', hrun', hpath', hq⟩ :=
      @ihn b (es ++ fs) g' Q hb fun gs c g'' hc hp => by
        have hstep := ha (fs ++ gs) c g'' ⟨fs, gs, rfl, .inr ⟨b, hrounds, hc⟩⟩
        rw [← List.append_assoc] at hstep
        exact hstep ((K.path_append ..).2 ⟨g', hpath, hp⟩)
    refine ⟨a, fs ++ gs, g'', max n (max limit limit'), fun m hm => ?_,
      (K.path_append ..).2 ⟨g', hpath, hpath'⟩, hq⟩
    rw [run, stateM_bind, hrun m m (by omega) (by omega), ← List.append_assoc]
    exact hrun' m (by omega)

/-- **A program that ends has a run** if every call that it may make can be answered, and the
answers can be such that something stays true.

**Proof sketch.** By induction on the program: a call is answered as the hypothesis says, and for a
loop there is a second induction, on the number of rounds within which it ends. -/
theorem Ends.may {P : G → Prop}
    (hanswer : ∀ g c, P g → K.permits g c → ∃ x g', K.step g c x g' ∧ P g') {p : Prog I α} {g : G}
    {Q : α → G → Prop} (h : p.Ends K g Q) (hg : P g) : p.May K g fun a g' => Q a g' ∧ P g' := by
  induction p generalizing g with
  | pure a => exact may_pure.2 ⟨h, hg⟩
  | call c next ih =>
    obtain ⟨x, g', hs, hg'⟩ := hanswer g c hg h.1
    obtain ⟨es, a, g'', hr, hp, hq⟩ := ih x (h.2 x g' hs) hg'
    exact ⟨⟨c, x⟩ :: es, a, g'', ⟨x, es, rfl, hr⟩, ⟨g', hs, hp⟩, hq⟩
  | loop body init next ihb ihn =>
    obtain ⟨n, hn⟩ := h
    induction n generalizing init g with
    | zero => exact hn.elim
    | succ n ih =>
      obtain ⟨es, o, g', hr, hp, ho, hg'⟩ := ihb init hn hg
      rcases o with t | b
      · obtain ⟨_, a, g'', ⟨fs, gs, b, rfl, hrounds, hnext⟩, hp', hq⟩ := ih t hg' ho
        exact ⟨es ++ (fs ++ gs), a, g'', ⟨es ++ fs, gs, b, (List.append_assoc ..).symm,
          .again hr hrounds, hnext⟩, (K.path_append ..).2 ⟨g', hp, hp'⟩, hq⟩
      · obtain ⟨fs, a, g'', hnext, hp', hq⟩ := ihn b ho hg'
        exact ⟨es ++ fs, a, g'', ⟨es, fs, b, rfl, .done hr, hnext⟩,
          (K.path_append ..).2 ⟨g', hp, hp'⟩, hq⟩

/-- A program that ends has a run if every call that is permitted can be answered. -/
lemma Ends.may_of_answers (hanswer : ∀ g c, K.permits g c → ∃ x g', K.step g c x g')
    {p : Prog I α} {g : G} {Q : α → G → Prop} (h : p.Ends K g Q) : p.May K g Q := by
  refine (h.may (P := fun _ => True) (fun g c _ hc => ?_) trivial).mono fun _ _ h => h.1
  obtain ⟨x, g', hs⟩ := hanswer g c hc
  exact ⟨x, g', hs, trivial⟩

/-! ### Other contracts -/

/-- **A program that ends under a contract does so under one that knows more**: its states can be
seen as states of the first one, and so can its steps.

**Proof sketch.** By induction on the program, and for a loop on the number of rounds within which
it ends, which stays the same. -/
theorem Ends.project {L : Contract I H} (view : H → G)
    (hpermits : ∀ h c, K.permits (view h) c → L.permits h c)
    (hstep : ∀ h c x h', L.step h c x h' → K.step (view h) c x (view h'))
    {p : Prog I α} {h : H} {Q : α → G → Prop} (hp : p.Ends K (view h) Q) :
    p.Ends L h fun a h' => Q a (view h') := by
  induction p generalizing h with
  | pure a => exact hp
  | call c next ih => exact ⟨hpermits h c hp.1, fun x h' hs => ih x (hp.2 x _ (hstep h c x h' hs))⟩
  | @loop σ τ α body init next ihb ihn =>
    obtain ⟨n, hn⟩ := hp
    refine ⟨n, ?_⟩
    induction n generalizing init h with
    | zero => exact hn
    | succ n ih =>
      refine (ihb init hn).mono ?_
      rintro (t | b) h' ho
      · exact ih t ho
      · exact ihn b ho

/-! ### Interpretation -/

/-- **A program that ends does so over another interface**, if the programs for the calls end and
keep its states related to those of the other contract.

**Proof sketch.** By induction on the program, along with a state of the contract that stays
related, and for a loop on the number of rounds within which it ends, which is the same over the
other interface. -/
theorem Ends.interpret {L : Contract J H} {R : G → H → Prop}
    {handle : (c : I.Call) → Prog J (I.Answer c)}
    (sim : ∀ c g h, R g h → K.permits g c →
      (handle c).Ends L h fun x h' => ∃ g', K.step g c x g' ∧ R g' h')
    {p : Prog I α} {g : G} {h : H} {Q : α → G → Prop} (hp : p.Ends K g Q) (hr : R g h) :
    (p.interpret handle).Ends L h fun a h' => ∃ g', R g' h' ∧ Q a g' := by
  induction p generalizing g h with
  | pure a => exact ⟨g, hr, hp⟩
  | call c next ih =>
    simp only [Prog.interpret, ends_bind]
    refine (sim c g h hr hp.1).mono ?_
    rintro x h' ⟨g', hs, hr'⟩
    exact ih x (hp.2 x g' hs) hr'
  | @loop σ τ α body init next ihb ihn =>
    obtain ⟨n, hn⟩ := hp
    refine ⟨n, ?_⟩
    induction n generalizing init g h with
    | zero => exact hn
    | succ n ih =>
      refine (ihb init hn hr).mono ?_
      rintro (t | b) h' ⟨g', hr', ho⟩
      · exact ih t hr' ho
      · exact ihn b ho hr'

end Prog

/-! ## Actions -/

namespace Action

variable {I : Interface} {G σ τ α β : Type}

/-- The action keeps a contract from two states, its own and that of the contract, comes to an end
and ends as described. -/
def Ends (K : Contract I G) (a : Action I σ α) (s : σ) (g : G)
    (Q : Except Error α → σ → G → Prop) : Prop :=
  (a.start s).Ends K g fun r g' => Q r.1 r.2 g'

variable {K : Contract I G} {s : σ} {g : G}

/-- The condition on the outcome may be weakened. -/
lemma Ends.mono {a : Action I σ α} {P Q : Except Error α → σ → G → Prop}
    (h : Ends K a s g P) (hPQ : ∀ r s' g', P r s' g' → Q r s' g') : Ends K a s g Q :=
  Prog.Ends.mono h fun _ _ => hPQ _ _ _

/-- An action that ends has a run if every call that is permitted can be answered. -/
lemma Ends.may_of_answers (hanswer : ∀ g c, K.permits g c → ∃ x g', K.step g c x g')
    {a : Action I σ α} {Q : Except Error α → σ → G → Prop} (h : Ends K a s g Q) : May K a s g Q :=
  Prog.Ends.may_of_answers hanswer h

/-- An action that only has a value ends if the value is as described. -/
@[simp] lemma ends_pure {a : α} {Q : Except Error α → σ → G → Prop} :
    Ends K (pure a : Action I σ α) s g Q ↔ Q (.ok a) s g := Iff.rfl

/-- Looking at the state ends if the state is as described. -/
@[simp] lemma ends_get {Q : Except Error σ → σ → G → Prop} :
    Ends K (get : Action I σ σ) s g Q ↔ Q (.ok s) s g := Iff.rfl

/-- A change of the state ends if the changed state is as described. -/
@[simp] lemma ends_modify {f : σ → σ} {Q : Except Error PUnit → σ → G → Prop} :
    Ends K (modify f : Action I σ PUnit) s g Q ↔ Q (.ok ()) (f s) g := Iff.rfl

/-- An outcome that is given ends if it is as described. -/
@[simp] lemma ends_ofExcept {r : Except Error α} {Q : Except Error α → σ → G → Prop} :
    Ends K (ofExcept r : Action I σ α) s g Q ↔ Q r s g := Iff.rfl

/-- One action after another: a failure of the first ends both. -/
@[simp] theorem ends_bind {a : Action I σ α} {f : α → Action I σ β}
    {Q : Except Error β → σ → G → Prop} :
    Ends K (a >>= f) s g Q ↔ Ends K a s g fun r s' g' =>
      match r with
      | .ok x => Ends K (f x) s' g' Q
      | .error e => Q (.error e) s' g' := by
  rw [Ends, start_bind, Prog.ends_bind, Ends]
  constructor
  · refine fun h => h.mono ?_
    rintro ⟨_ | _, s'⟩ g' h'
    · exact h'
    · exact h'
  · refine fun h => h.mono ?_
    rintro ⟨_ | _, s'⟩ g' h'
    · exact h'
    · exact h'

/-- A program ends as an action if it does on its own; the state is not touched. -/
@[simp] lemma ends_perform {p : Prog I α} {Q : Except Error α → σ → G → Prop} :
    Ends K (perform p : Action I σ α) s g Q ↔ p.Ends K g fun a g' => Q (.ok a) s g' :=
  Prog.ends_bind

/-- A call, and what follows its answer. -/
lemma ends_call {c : I.Call} {f : I.Answer c → Action I σ β}
    {Q : Except Error β → σ → G → Prop} (hc : K.permits g c)
    (h : ∀ x g', K.step g c x g' → Ends K (f x) s g' Q) :
    Ends K (perform (Prog.perform c) >>= f) s g Q :=
  ends_bind.2 (ends_perform.2 ⟨hc, h⟩)

/-- The same for a program that may fail. -/
@[simp] lemma ends_attempt {p : Prog I (Except Error α)} {Q : Except Error α → σ → G → Prop} :
    Ends K (attempt p : Action I σ α) s g Q ↔ p.Ends K g fun r g' => Q r s g' :=
  Prog.ends_bind

/-- Taking the outcome as a value ends if the action does. -/
@[simp] lemma ends_outcome {a : Action I σ α}
    {Q : Except Error (Except Error α) → σ → G → Prop} :
    Ends K (outcome a) s g Q ↔ Ends K a s g fun r s' g' => Q (.ok r) s' g' :=
  Prog.ends_bind

/-- The program of an action without a state ends if the action does. -/
@[simp] lemma ends_result {a : Action I Unit α} {Q : Except Error α → G → Prop} :
    a.result.Ends K g Q ↔ Ends K a () g fun r _ g' => Q r g' :=
  Prog.ends_bind

/-- A loop ends if its first round does so with a result. -/
lemma ends_loop {round : τ → Action I σ (τ ⊕ β)} {init : τ}
    {Q : Except Error β → σ → G → Prop}
    (h : Ends K (round init) s g fun r s' g' => ∃ b, r = .ok (.inr b) ∧ Q (.ok b) s' g') :
    Ends K (loop round init) s g Q := by
  refine ⟨1, Prog.ends_bind.2 (Prog.Ends.mono h ?_)⟩
  rintro ⟨_, s'⟩ g' ⟨b, rfl, hb⟩
  exact hb

/-- A loop ends if its rounds keep an invariant and every round that is followed by another one
makes something smaller.

**Proof sketch.** As many rounds are enough as the size of the first state says, and one more. By
induction on a number above the size: a round that goes on leaves a smaller size, which is below the
number that is left. -/
lemma ends_loop_of_lt {round : τ → Action I σ (τ ⊕ β)} {init : τ}
    {Q : Except Error β → σ → G → Prop} (Inv : τ → σ → G → Prop) (size : τ → G → Nat)
    (hi : Inv init s g)
    (hround : ∀ t s g, Inv t s g → Ends K (round t) s g fun r s' g' =>
      match r with
      | .ok (.inl t') => Inv t' s' g' ∧ size t' g' < size t g
      | .ok (.inr b) => Q (.ok b) s' g'
      | .error e => Q (.error e) s' g') :
    Ends K (loop round init) s g Q := by
  refine ⟨size init g + 1, ?_⟩
  have hlt : size init g < size init g + 1 := Nat.lt_succ_self _
  generalize size init g + 1 = n at hlt
  induction n generalizing init s g with
  | zero => exact absurd hlt (Nat.not_lt_zero _)
  | succ n ih =>
    refine Prog.ends_bind.2 (Prog.Ends.mono (hround init s g hi) ?_)
    rintro ⟨_ | t' | _, s'⟩ g' h
    · exact h
    · exact ih h.1 (by have := h.2; omega)
    · exact h

/-- A round over a list ends if each turn leads from an invariant about what is left to the same
about the rest.

**Proof sketch.** By induction on the list, with both states general. -/
lemma ends_forM_rest {f : β → Action I σ Unit} {P : List β → σ → G → Prop}
    {Q : Error → σ → G → Prop}
    (hf : ∀ x xs s g, P (x :: xs) s g → Ends K (f x) s g fun r s' g' =>
      match r with
      | .ok () => P xs s' g'
      | .error e => Q e s' g')
    {xs : List β} (hi : P xs s g) :
    Ends K (xs.forM f) s g fun r s' g' =>
      match r with
      | .ok () => P [] s' g'
      | .error e => Q e s' g' := by
  induction xs generalizing s g with
  | nil => exact hi
  | cons x xs ih =>
    rw [List.forM, ends_bind]
    refine (hf x xs s g hi).mono ?_
    rintro (e | _) s' g' h
    · exact h
    · exact ih h

/-! ### Actions that end in some way -/

/-- The action keeps a contract and comes to an end, whatever it starts from. -/
def Halts (K : Contract I G) (a : Action I σ α) : Prop := ∀ s g, Ends K a s g fun _ _ _ => True

/-- An action that only has a value comes to an end. -/
lemma halts_pure (x : α) : Halts K (pure x : Action I σ α) := fun _ _ => trivial

/-- An action that fails comes to an end. -/
lemma halts_throw (e : Error) : Halts K (throw e : Action I σ α) := fun _ _ => trivial

/-- An outcome that is given is an end. -/
lemma halts_ofExcept (r : Except Error α) : Halts K (ofExcept r : Action I σ α) :=
  fun _ _ => trivial

/-- Looking at the state comes to an end. -/
lemma halts_get : Halts K (get : Action I σ σ) := fun _ _ => trivial

/-- A change of the state comes to an end. -/
lemma halts_modify (f : σ → σ) : Halts K (modify f : Action I σ PUnit) := fun _ _ => trivial

/-- A call comes to an end if it is permitted in every state. -/
lemma halts_perform {c : I.Call} (h : ∀ g, K.permits g c) :
    Halts K (perform (Prog.perform c) : Action I σ (I.Answer c)) :=
  fun _ g => ends_perform.2 ⟨h g, fun _ _ _ => trivial⟩

/-- One action after another comes to an end if both do. -/
lemma Halts.bind {a : Action I σ α} {f : α → Action I σ β} (ha : Halts K a)
    (hf : ∀ x, Halts K (f x)) : Halts K (a >>= f) := by
  refine fun s g => ends_bind.2 ((ha s g).mono ?_)
  rintro (e | x) s' g' -
  · trivial
  · exact hf x s' g'

/-- Taking the outcome as a value comes to an end if the action does. -/
lemma Halts.outcome {a : Action I σ α} (ha : Halts K a) : Halts K (outcome a) :=
  fun s g => ends_outcome.2 ((ha s g).mono fun _ _ _ _ => trivial)

/-! ### Actions that give a result -/

/-- The action keeps a contract, ends with a given result and changes neither state. -/
def Gives (K : Contract I G) (a : Action I σ α) (s : σ) (g : G) (x : α) : Prop :=
  Ends K a s g fun r s' g' => r = .ok x ∧ s' = s ∧ g' = g

/-- An action that gives a result, and what follows that result. -/
lemma Gives.ends_bind {a : Action I σ α} {f : α → Action I σ β} {x : α}
    {Q : Except Error β → σ → G → Prop} (h : Gives K a s g x) (hf : Ends K (f x) s g Q) :
    Ends K (a >>= f) s g Q := by
  refine Action.ends_bind.2 (h.mono ?_)
  rintro _ _ _ ⟨rfl, rfl, rfl⟩
  exact hf

/-- One action after another gives what the second gives after what the first does. -/
lemma Gives.bind {a : Action I σ α} {f : α → Action I σ β} {x : α} {y : β}
    (h : Gives K a s g x) (hf : Gives K (f x) s g y) : Gives K (a >>= f) s g y :=
  h.ends_bind hf

/-- An action that only has a value gives it. -/
lemma gives_pure (x : α) : Gives K (pure x : Action I σ α) s g x := ⟨rfl, rfl, rfl⟩

/-- Looking at the state gives the state. -/
lemma gives_get : Gives K (get : Action I σ σ) s g s := ⟨rfl, rfl, rfl⟩

/-- A success that is given is what an action gives. -/
lemma gives_ofExcept {r : Except Error α} {x : α} (h : r = .ok x) :
    Gives K (ofExcept r : Action I σ α) s g x := ⟨h, rfl, rfl⟩

/-- A program gives its result as an action if it succeeds and changes nothing. -/
lemma gives_attempt {p : Prog I (Except Error α)} {x : α}
    (h : p.Ends K g fun r g' => r = .ok x ∧ g' = g) : Gives K (attempt p : Action I σ α) s g x := by
  refine ends_attempt.2 (h.mono ?_)
  rintro _ _ ⟨rfl, rfl⟩
  exact ⟨rfl, rfl, rfl⟩

/-- Taking the outcome as a value gives the success. -/
lemma Gives.outcome {a : Action I σ α} {x : α} (h : Gives K a s g x) :
    Gives K (outcome a) s g (.ok x) := by
  refine ends_outcome.2 (h.mono ?_)
  rintro _ _ _ ⟨rfl, rfl, rfl⟩
  exact ⟨rfl, rfl, rfl⟩

end Action

end Depot
