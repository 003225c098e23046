import Depot.Proofs.Trace

set_option autoImplicit false

/-!
# Contracts

A contract between a program and its world says which calls the program may make and how each
answered call changes a state that is kept for the proof alone. Whether a program keeps a contract,
with a condition on how it ends, is computed along the program; only loops need an invariant.

## Main definitions

* `Contract` — the calls that are permitted, and what answered calls change.
* `Contract.Path` — what a trace changes.
* `Contract.Walk` — what a trace changes all calls of which are permitted.
* `Contract.history` — the contract that remembers the trace.
* `Contract.tracking` — a contract whose state follows from the trace.
* `Prog.Keeps`, `Action.Keeps` — a program or action keeps a contract and ends well.
* `Action.Idle` — an action that changes neither its state nor that of the contract.
* `Prog.May`, `Action.May` — a program or action has a run that ends in a way.

## Main results

* `Prog.Keeps.of_runs` — every run of a program that keeps a contract ends well.
* `Prog.Keeps.of_asks` — every call of a program that keeps a contract is permitted.
* `Prog.Keeps.walk_rest` — so is every call after a part of a run.
* `Prog.Keeps.restrict` — a contract is also kept if fewer answers occur.
* `Prog.Keeps.interpret`, `Prog.Keeps.interpretWith` — a contract carries over to the program over
  another interface.
* `Action.keeps_bind` and so on — the contract of an action, from those of its parts.
* `Action.may_bind` and so on — a run of an action, from those of its parts.
-/

namespace Depot

/-- A contract between a program and its world, about a state that only proofs know. -/
structure Contract (I : Interface) (G : Type) where
  /-- The calls that the program may make. -/
  permits : G → I.Call → Prop
  /-- How an answered call may change the state; an answer without a next state does not occur. -/
  step : G → (c : I.Call) → I.Answer c → G → Prop

namespace Contract

variable {I : Interface} {G : Type} (K : Contract I G)

/-- How a trace may change the state. -/
def Path : G → Trace I → G → Prop
  | g, [], g' => g = g'
  | g, e :: es, g' => ∃ h, K.step g e.call e.answer h ∧ Path h es g'

/-- A trace after another changes the state from where the first left it.

**Proof sketch.** By induction on the first trace. -/
lemma path_append (g g' : G) (es fs : Trace I) :
    K.Path g (es ++ fs) g' ↔ ∃ h, K.Path g es h ∧ K.Path h fs g' := by
  induction es generalizing g with
  | nil => simp [Path]
  | cons e es ih =>
    simp only [List.cons_append, Path, ih]
    constructor
    · rintro ⟨h, hs, k, hk, hg⟩
      exact ⟨k, ⟨h, hs, hk⟩, hg⟩
    · rintro ⟨k, ⟨h, hs, hk⟩, hg⟩
      exact ⟨h, hs, k, hk, hg⟩

/-- How a trace of permitted calls may change the state. -/
def Walk : G → Trace I → G → Prop
  | g, [], g' => g = g'
  | g, e :: es, g' => K.permits g e.call ∧ ∃ h, K.step g e.call e.answer h ∧ Walk h es g'

/-- A trace of answers that occur is one of permitted calls if each is permitted where it is made.

**Proof sketch.** By induction on the trace; what is before a later call has one more event in
front. -/
lemma walk_of_permits {g g' : G} {es : Trace I} (hp : K.Path g es g')
    (hpermits : ∀ fs e gs h, es = fs ++ e :: gs → K.Path g fs h → K.permits h e.call) :
    K.Walk g es g' := by
  induction es generalizing g with
  | nil => exact hp
  | cons e es ih =>
    obtain ⟨h, hs, hp⟩ := hp
    refine ⟨hpermits [] e es g rfl rfl, h, hs, ih hp ?_⟩
    rintro fs f gs k rfl hk
    exact hpermits (e :: fs) f gs k rfl ⟨h, hs, hk⟩

/-- A call that is permitted and changes nothing. -/
def IdleCall (g : G) (c : I.Call) : Prop := K.permits g c ∧ ∀ x g', K.step g c x g' → g' = g

end Contract

namespace Contract

variable {I : Interface}

/-- The contract whose state is the trace so far; only some answered calls occur. -/
def history (permits : Trace I → I.Call → Prop) (occurs : Event I → Prop) :
    Contract I (Trace I) where
  permits := permits
  step es c x fs := occurs ⟨c, x⟩ ∧ fs = es ++ [⟨c, x⟩]

/-- The state of a history is the trace.

**Proof sketch.** By induction on the trace, with the state general: each event that occurs is added
at the end. -/
lemma path_history {permits : Trace I → I.Call → Prop} {occurs : Event I → Prop}
    (es fs gs : Trace I) :
    (history permits occurs).Path es fs gs ↔ gs = es ++ fs ∧ ∀ e ∈ fs, occurs e := by
  induction fs generalizing es with
  | nil => simp [Path, eq_comm]
  | cons e fs ih =>
    simp only [Path, ih]
    constructor
    · rintro ⟨_, ⟨he, rfl⟩, rfl, hfs⟩
      exact ⟨by simp, List.forall_mem_cons.2 ⟨he, hfs⟩⟩
    · rintro ⟨rfl, hfs⟩
      obtain ⟨he, hfs⟩ := List.forall_mem_cons.1 hfs
      exact ⟨_, ⟨he, rfl⟩, by simp, hfs⟩

/-- The contract whose state follows from the calls and their answers. -/
def tracking {G : Type} (permits : G → I.Call → Prop) (next : G → (c : I.Call) → I.Answer c → G) :
    Contract I G where
  permits := permits
  step g c x g' := g' = next g c x

/-- The state follows from the trace. -/
lemma path_tracking {G : Type} {permits : G → I.Call → Prop}
    {next : G → (c : I.Call) → I.Answer c → G} (g g' : G) (es : Trace I) :
    (tracking permits next).Path g es g' ↔
      g' = es.foldl (fun g e => next g e.call e.answer) g := by
  induction es generalizing g with
  | nil => exact eq_comm
  | cons e es ih =>
    constructor
    · rintro ⟨_, rfl, h⟩
      exact (ih _).1 h
    · intro h
      exact ⟨_, rfl, (ih _).2 h⟩

end Contract

/-! ## Programs -/

namespace Prog

variable {I J : Interface} {G H α β : Type}

/-- The program keeps a contract from a state, and ends in results and states as described. -/
def Keeps (K : Contract I G) {α : Type} : Prog I α → G → (α → G → Prop) → Prop
  | .pure a, g, Q => Q a g
  | .call c next, g, Q => K.permits g c ∧ ∀ x g', K.step g c x g' → (next x).Keeps K g' Q
  | .loop body init next, g, Q =>
    ∃ (Inv : _ → G → Prop) (Out : _ → G → Prop), Inv init g ∧
      (∀ s g, Inv s g → (body s).Keeps K g fun o g' => o.elim (Inv · g') (Out · g')) ∧
      ∀ b g, Out b g → (next b).Keeps K g Q

variable {K : Contract I G}

/-- A program that is done keeps a contract if its result is as described. -/
@[simp] lemma keeps_pure {a : α} {g : G} {Q : α → G → Prop} :
    (Prog.pure a : Prog I α).Keeps K g Q ↔ Q a g := Iff.rfl

/-- A call keeps a contract if it is permitted, and every answer that occurs is as described. -/
@[simp] lemma keeps_perform {c : I.Call} {g : G} {Q : I.Answer c → G → Prop} :
    (perform c).Keeps K g Q ↔ K.permits g c ∧ ∀ x g', K.step g c x g' → Q x g' := Iff.rfl

/-- The same where the answer decides which state is next. -/
lemma keeps_perform_of_step {c : I.Call} {g : G} {occurs : I.Answer c → Prop}
    {next : I.Answer c → G} (hstep : ∀ x g', K.step g c x g' ↔ occurs x ∧ g' = next x)
    {Q : I.Answer c → G → Prop} :
    (perform c).Keeps K g Q ↔ K.permits g c ∧ ∀ x, occurs x → Q x (next x) := by
  constructor
  · rintro ⟨hp, hq⟩
    exact ⟨hp, fun x hx => hq x _ ((hstep x _).2 ⟨hx, rfl⟩)⟩
  · rintro ⟨hp, hq⟩
    refine ⟨hp, fun x g' hs => ?_⟩
    obtain ⟨hx, rfl⟩ := (hstep x g').1 hs
    exact hq x hx

/-- One program after another keeps a contract if the first does, and ends where the second does. -/
@[simp] lemma keeps_bind {p : Prog I α} {f : α → Prog I β} {g : G} {Q : β → G → Prop} :
    (p.bind f).Keeps K g Q ↔ p.Keeps K g fun a g' => (f a).Keeps K g' Q := by
  induction p generalizing g with
  | pure a => rfl
  | call c next ih => simp only [call_bind, Keeps, ih]
  | loop body init next _ ih => simp only [loop_bind, Keeps, ih]

/-- The condition on the end may be weakened. -/
lemma Keeps.mono {p : Prog I α} {g : G} {P Q : α → G → Prop} (h : p.Keeps K g P)
    (hPQ : ∀ a g', P a g' → Q a g') : p.Keeps K g Q := by
  induction p generalizing g with
  | pure a => exact hPQ a g h
  | call c next ih => exact ⟨h.1, fun x g' hs => ih x (h.2 x g' hs) hPQ⟩
  | loop body init next _ ih =>
    obtain ⟨Inv, Out, hi, hb, hn⟩ := h
    exact ⟨Inv, Out, hi, hb, fun b g' ho => ih b (hn b g' ho) hPQ⟩

/-! ### Soundness -/

/-- What each round keeps, all rounds keep.

**Proof sketch.** By induction on the rounds: the path through them splits into that of the first
round, which keeps the invariant, and that of the others. -/
lemma elim_of_rounds {σ : Type} {round : σ → Trace I → σ ⊕ β → Prop} {Inv : σ → G → Prop}
    {Out : β → G → Prop}
    (h : ∀ s g es o g', Inv s g → round s es o → K.Path g es g' → o.elim (Inv · g') (Out · g'))
    {s : σ} {es : Trace I} {o : σ ⊕ β} (hr : Rounds round s es o) :
    ∀ {g g' : G}, Inv s g → K.Path g es g' → o.elim (Inv · g') (Out · g') := by
  induction hr with
  | start s =>
    intro g g' hi hp
    obtain rfl : g = g' := hp
    exact hi
  | again hs _ ih =>
    intro g g' hi hp
    obtain ⟨k, hk, hg⟩ := (K.path_append ..).1 hp
    exact ih (h _ _ _ _ _ hi hs hk) hg
  | done hs =>
    intro g g' hi hp
    exact h _ _ _ _ _ hi hs hp

/-- **Every run of a program that keeps a contract ends well.**

**Proof sketch.** By induction on the program. The answer of a call leads to a state from which the
rest keeps the contract; the rounds of a loop keep its invariant (`elim_of_rounds`), and its result
satisfies what the rest needs. -/
theorem Keeps.of_runs {p : Prog I α} {g g' : G} {Q : α → G → Prop} {es : Trace I} {a : α}
    (h : p.Keeps K g Q) (hr : p.Runs es a) (hp : K.Path g es g') : Q a g' := by
  induction p generalizing g es g' with
  | pure b =>
    obtain ⟨rfl, rfl⟩ := hr
    obtain rfl : g = g' := hp
    exact h
  | call c next ih =>
    obtain ⟨x, fs, rfl, hr⟩ := hr
    obtain ⟨k, hk, hp⟩ := hp
    exact ih x (h.2 x k hk) hr hp
  | loop body init next ihb ihn =>
    obtain ⟨Inv, Out, hi, hb, hn⟩ := h
    obtain ⟨fs, gs, b, rfl, hrounds, hr⟩ := hr
    obtain ⟨k, hk, hp⟩ := (K.path_append ..).1 hp
    have ho : Out b k :=
      elim_of_rounds (fun s g es o g' hs hr hp => ihb s (hb s g hs) hr hp) hrounds hi hk
    exact ihn b (hn b k ho) hr hp

/-- **Every call of a program that keeps a contract is permitted**, also in runs that never come to
an end.

**Proof sketch.** By induction on the program. What is asked in a loop is asked in a round, in a
state that the invariant describes as all rounds before have kept it, or after the loop has
ended. -/
theorem Keeps.of_asks {p : Prog I α} {g g' : G} {Q : α → G → Prop} {es : Trace I} {d : I.Call}
    (h : p.Keeps K g Q) (ha : p.Asks es d) (hp : K.Path g es g') : K.permits g' d := by
  induction p generalizing g es g' with
  | pure b => exact ha.elim
  | call c next ih =>
    rcases ha with ⟨rfl, rfl⟩ | ⟨x, fs, rfl, ha⟩
    · obtain rfl : g = g' := hp
      exact h.1
    · obtain ⟨k, hk, hp⟩ := hp
      exact ih x (h.2 x k hk) ha hp
  | loop body init next ihb ihn =>
    obtain ⟨Inv, Out, hi, hb, hn⟩ := h
    obtain ⟨fs, gs, rfl, ha⟩ := ha
    obtain ⟨k, hk, hp⟩ := (K.path_append ..).1 hp
    have hrounds {o} (hr : Rounds (fun s => (body s).Runs) init fs o) :
        o.elim (Inv · k) (Out · k) :=
      elim_of_rounds (fun s g es o g' hs hr hp => (hb s g hs).of_runs hr hp) hr hi hk
    rcases ha with ⟨s, hr, ha⟩ | ⟨b, hr, ha⟩
    · exact ihb s (hb s k (hrounds hr)) ha hp
    · exact ihn b (hn b k (hrounds hr)) ha hp

/-- A run goes on with permitted calls from every state that it passes. -/
theorem Keeps.walk_rest {p : Prog I α} {g h k : G} {Q : α → G → Prop} {fs gs : Trace I} {a : α}
    (hkeeps : p.Keeps K g Q) (hr : p.Runs (fs ++ gs) a) (hfs : K.Path g fs h)
    (hgs : K.Path h gs k) : K.Walk h gs k := by
  refine K.walk_of_permits hgs ?_
  rintro hs e _ j rfl hj
  rw [← List.append_assoc] at hr
  exact hkeeps.of_asks hr.asks ((K.path_append ..).2 ⟨h, hfs, hj⟩)

/-! ### Interpretation -/

/-- **A contract carries over to the program over another interface**, if the programs for the calls
keep its states related to those of the other contract.

**Proof sketch.** By induction on the program, along with a state of the contract that stays
related. The invariant of a loop over the other interface says that some related state satisfies the
invariant here. -/
theorem Keeps.interpret {L : Contract J H} {R : G → H → Prop}
    {handle : (c : I.Call) → Prog J (I.Answer c)}
    (sim : ∀ c g h, R g h → K.permits g c →
      (handle c).Keeps L h fun x h' => ∃ g', K.step g c x g' ∧ R g' h')
    {p : Prog I α} {g : G} {h : H} {Q : α → G → Prop} (hp : p.Keeps K g Q) (hr : R g h) :
    (p.interpret handle).Keeps L h fun a h' => ∃ g', R g' h' ∧ Q a g' := by
  induction p generalizing g h with
  | pure a => exact ⟨g, hr, hp⟩
  | call c next ih =>
    simp only [Prog.interpret, keeps_bind]
    refine (sim c g h hr hp.1).mono ?_
    rintro x h' ⟨g', hs, hr'⟩
    exact ih x (hp.2 x g' hs) hr'
  | loop body init next ihb ihn =>
    obtain ⟨Inv, Out, hi, hb, hn⟩ := hp
    refine ⟨fun s h => ∃ g, R g h ∧ Inv s g, fun b h => ∃ g, R g h ∧ Out b g, ⟨g, hr, hi⟩, ?_, ?_⟩
    · rintro s h ⟨g, hr, hs⟩
      refine (ihb s (hb s g hs) hr).mono ?_
      rintro (t | b) h' ⟨g', hr', ho⟩
      · exact ⟨g', hr', ho⟩
      · exact ⟨g', hr', ho⟩
    · rintro b h ⟨g, hr, ho⟩
      exact ihn b (hn b g ho) hr

/-- The same with a state that the programs for the calls share.

**Proof sketch.** As before; the shared state goes through every call, and is part of the state that
the loop goes through. -/
theorem Keeps.interpretWith {σ : Type} {L : Contract J H} {R : G → σ → H → Prop}
    {handle : (c : I.Call) → σ → Prog J (I.Answer c × σ)}
    (sim : ∀ c g s h, R g s h → K.permits g c →
      (handle c s).Keeps L h fun r h' => ∃ g', K.step g c r.1 g' ∧ R g' r.2 h')
    {p : Prog I α} {g : G} {s : σ} {h : H} {Q : α → G → Prop} (hp : p.Keeps K g Q)
    (hr : R g s h) :
    (p.interpretWith handle s).Keeps L h fun r h' => ∃ g', R g' r.2 h' ∧ Q r.1 g' := by
  induction p generalizing g s h with
  | pure a => exact ⟨g, hr, hp⟩
  | call c next ih =>
    simp only [Prog.interpretWith, keeps_bind]
    refine (sim c g s h hr hp.1).mono ?_
    rintro ⟨x, s'⟩ h' ⟨g', hs, hr'⟩
    exact ih x (hp.2 x g' hs) hr'
  | loop body init next ihb ihn =>
    obtain ⟨Inv, Out, hi, hb, hn⟩ := hp
    refine ⟨fun t h => ∃ g, R g t.2 h ∧ Inv t.1 g, fun t h => ∃ g, R g t.2 h ∧ Out t.1 g,
      ⟨g, hr, hi⟩, ?_, ?_⟩
    · rintro ⟨t, s⟩ h ⟨g, hr, ht⟩
      refine keeps_bind.2 ((ihb t (hb t g ht) hr).mono ?_)
      rintro ⟨_ | _, s'⟩ h' ⟨g', hr', ho⟩
      · exact ⟨g', hr', ho⟩
      · exact ⟨g', hr', ho⟩
    · rintro ⟨b, s⟩ h ⟨g, hr, ho⟩
      exact ihn b (hn b g ho) hr

/-! ### Fewer answers -/

/-- **A contract is also kept if fewer answers occur.**

**Proof sketch.** By induction on the program. The invariant of a loop serves again. -/
theorem Keeps.restrict {L : Contract I G} (hpermits : ∀ g c, K.permits g c → L.permits g c)
    (hstep : ∀ g c x g', L.step g c x g' → K.step g c x g') {p : Prog I α} {g : G}
    {Q : α → G → Prop} (hp : p.Keeps K g Q) : p.Keeps L g Q := by
  induction p generalizing g with
  | pure a => exact hp
  | call c next ih => exact ⟨hpermits g c hp.1, fun x g' hs => ih x (hp.2 x g' (hstep g c x g' hs))⟩
  | loop body init next ihb ihn =>
    obtain ⟨Inv, Out, hi, hb, hn⟩ := hp
    exact ⟨Inv, Out, hi, fun s g hs => ihb s (hb s g hs), fun b g ho => ihn b (hn b g ho)⟩

/-! ### Some run -/

/-- The program has a run that ends in a result and a state as described. -/
def May (K : Contract I G) (p : Prog I α) (g : G) (Q : α → G → Prop) : Prop :=
  ∃ es a g', p.Runs es a ∧ K.Path g es g' ∧ Q a g'

/-- The condition on the end of the run may be weakened. -/
lemma May.mono {p : Prog I α} {g : G} {P Q : α → G → Prop} (h : p.May K g P)
    (hPQ : ∀ a g', P a g' → Q a g') : p.May K g Q := by
  obtain ⟨es, a, g', hr, hp, ha⟩ := h
  exact ⟨es, a, g', hr, hp, hPQ a g' ha⟩

/-- The only run of a program that is done ends at once. -/
lemma may_pure {a : α} {g : G} {Q : α → G → Prop} :
    (Prog.pure a : Prog I α).May K g Q ↔ Q a g := by
  constructor
  · rintro ⟨_, _, _, ⟨rfl, rfl⟩, rfl, h⟩
    exact h
  · intro h
    exact ⟨[], a, g, ⟨rfl, rfl⟩, rfl, h⟩

/-- A call has a run for every answer that occurs. -/
lemma may_perform {c : I.Call} {g : G} {Q : I.Answer c → G → Prop} :
    (perform c).May K g Q ↔ ∃ x g', K.step g c x g' ∧ Q x g' := by
  constructor
  · rintro ⟨_, _, _, ⟨x, _, rfl, rfl, rfl⟩, ⟨g', hs, rfl⟩, h⟩
    exact ⟨x, g', hs, h⟩
  · rintro ⟨x, g', hs, h⟩
    exact ⟨[⟨c, x⟩], x, g', ⟨x, [], rfl, rfl, rfl⟩, ⟨g', hs, rfl⟩, h⟩

/-- One program after another has a run if the first has one after which the second does. -/
lemma may_bind {p : Prog I α} {f : α → Prog I β} {g : G} {Q : β → G → Prop} :
    (p.bind f).May K g Q ↔ p.May K g fun a g' => (f a).May K g' Q := by
  constructor
  · rintro ⟨es, b, g', hr, hp, hb⟩
    obtain ⟨fs, gs, a, rfl, hf, hg⟩ := (runs_bind ..).1 hr
    obtain ⟨k, hk, hp⟩ := (K.path_append ..).1 hp
    exact ⟨fs, a, k, hf, hk, gs, b, g', hg, hp, hb⟩
  · rintro ⟨fs, a, k, hf, hk, gs, b, g', hg, hp, hb⟩
    exact ⟨fs ++ gs, b, g', (runs_bind ..).2 ⟨fs, gs, a, rfl, hf, hg⟩,
      (K.path_append ..).2 ⟨k, hk, hp⟩, hb⟩

end Prog

/-! ## Actions -/

namespace Action

variable {I : Interface} {G σ τ α β : Type}

/-- The action keeps a contract from two states, its own and that of the contract, and ends as
described. -/
def Keeps (K : Contract I G) (a : Action I σ α) (s : σ) (g : G)
    (Q : Except Error α → σ → G → Prop) : Prop :=
  (a.start s).Keeps K g fun r g' => Q r.1 r.2 g'

variable {K : Contract I G} {s : σ} {g : G}

/-- The condition on the outcome may be weakened. -/
lemma Keeps.mono {a : Action I σ α} {P Q : Except Error α → σ → G → Prop}
    (h : Keeps K a s g P) (hPQ : ∀ r s' g', P r s' g' → Q r s' g') : Keeps K a s g Q :=
  Prog.Keeps.mono h fun _ _ => hPQ _ _ _

/-- An action that only has a value keeps a contract if the value is as described. -/
@[simp] lemma keeps_pure {a : α} {Q : Except Error α → σ → G → Prop} :
    Keeps K (pure a : Action I σ α) s g Q ↔ Q (.ok a) s g := Iff.rfl

/-- An action that fails keeps a contract if the failure is as described. -/
@[simp] lemma keeps_throw {e : Error} {Q : Except Error α → σ → G → Prop} :
    Keeps K (throw e : Action I σ α) s g Q ↔ Q (.error e) s g := Iff.rfl

/-- Looking at the state keeps a contract if the state is as described. -/
@[simp] lemma keeps_get {Q : Except Error σ → σ → G → Prop} :
    Keeps K (get : Action I σ σ) s g Q ↔ Q (.ok s) s g := Iff.rfl

/-- A change of the state keeps a contract if the changed state is as described. -/
@[simp] lemma keeps_modify {f : σ → σ} {Q : Except Error PUnit → σ → G → Prop} :
    Keeps K (modify f : Action I σ PUnit) s g Q ↔ Q (.ok ()) (f s) g := Iff.rfl

/-- An outcome that is given keeps a contract if it is as described. -/
@[simp] lemma keeps_ofExcept {r : Except Error α} {Q : Except Error α → σ → G → Prop} :
    Keeps K (ofExcept r : Action I σ α) s g Q ↔ Q r s g := Iff.rfl

/-- The program of one action after another: it goes on after a value, and a failure ends it. -/
lemma start_bind (a : Action I σ α) (f : α → Action I σ β) (s : σ) :
    (a >>= f).start s = (a.start s).bind fun r =>
      match r.1 with
      | .ok x => (f x).start r.2
      | .error e => .pure (.error e, r.2) := by
  change (a.start s).bind _ = (a.start s).bind _
  congr 1
  funext ⟨r, s'⟩
  cases r <;> rfl

/-- One action after another: a failure of the first ends both. -/
@[simp] theorem keeps_bind {a : Action I σ α} {f : α → Action I σ β}
    {Q : Except Error β → σ → G → Prop} :
    Keeps K (a >>= f) s g Q ↔ Keeps K a s g fun r s' g' =>
      match r with
      | .ok x => Keeps K (f x) s' g' Q
      | .error e => Q (.error e) s' g' := by
  rw [Keeps, start_bind, Prog.keeps_bind, Keeps]
  constructor
  · refine fun h => h.mono ?_
    rintro ⟨_ | _, s'⟩ g' h'
    · exact h'
    · exact h'
  · refine fun h => h.mono ?_
    rintro ⟨_ | _, s'⟩ g' h'
    · exact h'
    · exact h'

/-- A program keeps a contract as an action if it does on its own; the state is not touched. -/
@[simp] lemma keeps_perform {p : Prog I α} {Q : Except Error α → σ → G → Prop} :
    Keeps K (perform p : Action I σ α) s g Q ↔ p.Keeps K g fun a g' => Q (.ok a) s g' :=
  Prog.keeps_bind

/-- The same for a program that may fail. -/
@[simp] lemma keeps_attempt {p : Prog I (Except Error α)} {Q : Except Error α → σ → G → Prop} :
    Keeps K (attempt p : Action I σ α) s g Q ↔ p.Keeps K g fun r g' => Q r s g' :=
  Prog.keeps_bind

/-- Taking the outcome as a value keeps a contract if the action does. -/
@[simp] lemma keeps_outcome {a : Action I σ α}
    {Q : Except Error (Except Error α) → σ → G → Prop} :
    Keeps K (outcome a) s g Q ↔ Keeps K a s g fun r s' g' => Q (.ok r) s' g' :=
  Prog.keeps_bind

/-- The program of an action without a state keeps a contract if the action does. -/
@[simp] lemma keeps_result {a : Action I Unit α} {Q : Except Error α → G → Prop} :
    a.result.Keeps K g Q ↔ Keeps K a () g fun r _ g' => Q r g' :=
  Prog.keeps_bind

/-- A loop keeps a contract if its rounds keep an invariant.

**Proof sketch.** The invariant is one of the loop's program too, with what is demanded of a result
as the condition for its end; the body is the round, with its outcome sorted into going on and
ending. -/
lemma keeps_loop {round : τ → Action I σ (τ ⊕ β)} {init : τ}
    {Q : Except Error β → σ → G → Prop} (Inv : τ → σ → G → Prop) (hi : Inv init s g)
    (hround : ∀ t s g, Inv t s g → Keeps K (round t) s g fun r s' g' =>
      match r with
      | .ok (.inl t) => Inv t s' g'
      | .ok (.inr b) => Q (.ok b) s' g'
      | .error e => Q (.error e) s' g') :
    Keeps K (loop round init) s g Q := by
  refine ⟨fun t g => Inv t.1 t.2 g, fun r g => Q r.1 r.2 g, hi, ?_, fun _ _ h => h⟩
  rintro ⟨t, s⟩ g ht
  rw [Prog.keeps_bind]
  refine Prog.Keeps.mono (hround t s g ht) ?_
  rintro ⟨_ | _ | _, s'⟩ g' h
  · exact h
  · exact h
  · exact h

/-- A round over a list keeps a contract if it keeps an invariant at every item.

**Proof sketch.** By induction on the items; a failure ends the round with the invariant as it
is. -/
lemma keeps_forM {β : Type} {f : β → Action I σ Unit} {xs : List β} {P : σ → G → Prop}
    (hf : ∀ x ∈ xs, ∀ s g, P s g → Keeps K (f x) s g fun _ s' g' => P s' g') {s : σ} {g : G}
    (hi : P s g) : Keeps K (xs.forM f) s g fun _ s' g' => P s' g' := by
  induction xs generalizing s g with
  | nil => exact hi
  | cons x xs ih =>
    rw [List.forM, keeps_bind]
    refine (hf x List.mem_cons_self s g hi).mono ?_
    rintro (e | _) s' g' h
    · exact h
    · exact ih (fun y hy => hf y (List.mem_cons_of_mem x hy)) h

/-- A round over a list keeps a contract if each turn leads from an invariant about what is left to
the same about the rest.

**Proof sketch.** By induction on the items, with the invariant about what is left of them. -/
lemma keeps_forM_rest {β : Type} {f : β → Action I σ Unit} {P : List β → σ → G → Prop}
    (hf : ∀ x xs s g, P (x :: xs) s g → Keeps K (f x) s g fun r s' g' => r.isOk → P xs s' g')
    {xs : List β} {s : σ} {g : G} (hi : P xs s g) :
    Keeps K (xs.forM f) s g fun r s' g' => r.isOk → P [] s' g' := by
  induction xs generalizing s g with
  | nil => exact fun _ => hi
  | cons x xs ih =>
    rw [List.forM, keeps_bind]
    refine (hf x xs s g hi).mono ?_
    rintro (e | _) s' g' h
    · exact fun hr => nomatch hr
    · exact ih (h rfl)

/-! ### Some run -/

/-- The action has a run that ends as described. -/
def May (K : Contract I G) (a : Action I σ α) (s : σ) (g : G)
    (Q : Except Error α → σ → G → Prop) : Prop :=
  (a.start s).May K g fun r g' => Q r.1 r.2 g'

/-- The condition on the outcome of the run may be weakened. -/
lemma May.mono {a : Action I σ α} {P Q : Except Error α → σ → G → Prop}
    (h : May K a s g P) (hPQ : ∀ r s' g', P r s' g' → Q r s' g') : May K a s g Q :=
  Prog.May.mono h fun _ _ => hPQ _ _ _

/-- Nothing follows an outcome and the state that is left. -/
lemma may_ended {r : Except Error α × σ} {Q : Except Error α → σ → G → Prop} :
    ((Prog.pure r : Prog I _).May K g fun r g' => Q r.1 r.2 g') ↔ Q r.1 r.2 g := Prog.may_pure

/-- The only run of an action that has a value ends at once. -/
lemma may_pure {a : α} {Q : Except Error α → σ → G → Prop} :
    May K (pure a : Action I σ α) s g Q ↔ Q (.ok a) s g := Prog.may_pure

/-- The only run of an action that fails ends at once. -/
lemma may_throw {e : Error} {Q : Except Error α → σ → G → Prop} :
    May K (throw e : Action I σ α) s g Q ↔ Q (.error e) s g := Prog.may_pure

/-- The only run of looking at the state ends at once. -/
lemma may_get {Q : Except Error σ → σ → G → Prop} :
    May K (get : Action I σ σ) s g Q ↔ Q (.ok s) s g := Prog.may_pure

/-- The only run of a change of the state ends at once, in the changed state. -/
lemma may_modify {f : σ → σ} {Q : Except Error PUnit → σ → G → Prop} :
    May K (modify f : Action I σ PUnit) s g Q ↔ Q (.ok ()) (f s) g := Prog.may_pure

/-- One action after another has a run if the first has one that fails as described, or one after
which the second has one. -/
theorem may_bind {a : Action I σ α} {f : α → Action I σ β}
    {Q : Except Error β → σ → G → Prop} :
    May K (a >>= f) s g Q ↔ May K a s g fun r s' g' =>
      match r with
      | .ok x => May K (f x) s' g' Q
      | .error e => Q (.error e) s' g' := by
  rw [May, start_bind, Prog.may_bind, May]
  constructor
  · refine fun h => h.mono ?_
    rintro ⟨_ | _, s'⟩ g' h'
    · exact may_ended.1 h'
    · exact h'
  · refine fun h => h.mono ?_
    rintro ⟨_ | _, s'⟩ g' h'
    · exact may_ended.2 h'
    · exact h'

/-- A program has a run as an action if it has one on its own. -/
lemma may_perform {p : Prog I α} {Q : Except Error α → σ → G → Prop} :
    May K (perform p : Action I σ α) s g Q ↔ p.May K g fun a g' => Q (.ok a) s g' := by
  refine Prog.may_bind.trans ⟨fun h => h.mono ?_, fun h => h.mono ?_⟩
  · intro a g' h'
    exact may_ended.1 h'
  · intro a g' h'
    exact (may_ended (r := (.ok a, s))).2 h'

/-! ### Actions that change nothing -/

/-- The action keeps a contract and changes neither state. -/
def Idle (K : Contract I G) (g : G) (a : Action I σ α) : Prop :=
  ∀ s, Keeps K a s g fun _ s' g' => s' = s ∧ g' = g

/-- After an action that changes nothing, it remains to look at its outcomes. -/
lemma Idle.keeps {a : Action I σ α} (h : Idle K g a) {Q : Except Error α → σ → G → Prop}
    (hQ : ∀ r, Q r s g) : Keeps K a s g Q := by
  refine (h s).mono ?_
  rintro r s' g' ⟨rfl, rfl⟩
  exact hQ r

/-- An action that only has a value changes nothing. -/
lemma idle_pure (a : α) : Idle K g (pure a : Action I σ α) := fun _ => ⟨rfl, rfl⟩

/-- An action that fails changes nothing. -/
lemma idle_throw (e : Error) : Idle K g (throw e : Action I σ α) := fun _ => ⟨rfl, rfl⟩

/-- An outcome that is given changes nothing. -/
lemma idle_ofExcept (r : Except Error α) : Idle K g (ofExcept r : Action I σ α) :=
  fun _ => ⟨rfl, rfl⟩

/-- Looking at the state changes nothing. -/
lemma idle_get : Idle K g (get : Action I σ σ) := fun _ => ⟨rfl, rfl⟩

/-- One action after another changes nothing if neither does. -/
lemma Idle.bind {a : Action I σ α} {f : α → Action I σ β} (ha : Idle K g a)
    (hf : ∀ x, Idle K g (f x)) : Idle K g (a >>= f) := by
  intro s
  rw [keeps_bind]
  refine ha.keeps ?_
  rintro (e | x)
  · exact ⟨rfl, rfl⟩
  · exact hf x s

/-- A call changes nothing if it is permitted and no answer changes the state of the contract. -/
lemma idle_perform {c : I.Call} (h : K.IdleCall g c) :
    Idle K g (perform (Prog.perform c) : Action I σ (I.Answer c)) := by
  intro s
  rw [keeps_perform]
  exact ⟨h.1, fun x g' hs => ⟨rfl, h.2 x g' hs⟩⟩

/-- A program changes nothing as an action if it leaves the state of the contract. -/
lemma idle_attempt {p : Prog I (Except Error α)} (h : p.Keeps K g fun _ g' => g' = g) :
    Idle K g (attempt p : Action I σ α) := by
  intro s
  rw [keeps_attempt]
  exact h.mono fun _ _ hg => ⟨rfl, hg⟩

/-- Taking the outcome as a value changes nothing more. -/
lemma Idle.outcome {a : Action I σ α} (h : Idle K g a) : Idle K g (outcome a) := by
  intro s
  rw [keeps_outcome]
  exact h s

/-- A loop changes nothing if no round does. -/
lemma idle_loop {round : τ → Action I σ (τ ⊕ β)} (h : ∀ t, Idle K g (round t)) (init : τ) :
    Idle K g (loop round init) := by
  intro s
  refine keeps_loop (fun _ s' g' => s' = s ∧ g' = g) ⟨rfl, rfl⟩ ?_
  rintro t s' g' ⟨rfl, rfl⟩
  refine (h t).keeps ?_
  rintro (_ | _ | _) <;> exact ⟨rfl, rfl⟩

end Action

end Depot
