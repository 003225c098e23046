import Depot.Prog
import Mathlib.Tactic.Lemma

set_option autoImplicit false

/-!
# Runs of programs

A program meets a world that may answer each call in any way. A run is described by its trace, the
calls with the answers they got. Loops may take any number of rounds, so a run need not come to an
end; what a program asks is therefore described apart from what it returns.

## Main definitions

* `Event`, `Trace` — a call with its answer, and the calls of a run in order.
* `Rounds` — the rounds of a loop.
* `Prog.Runs` — a program can return a result after a trace.
* `Prog.Asks` — a program can make a call after a trace.
* `Prog.Equivalent` — two programs behave alike.

## Main results

* `Prog.runs_bind`, `Prog.asks_bind` — the runs of one program after another, and what it asks.
* `Prog.Runs.asks` — what happens in a run was asked.
* `Prog.Runs.unique`, `Prog.Runs.not_asks` — the answers determine how a program goes on.
* `Prog.runs_of_run` — what is computed with given answers is the result of a run.
-/

namespace Depot

/-- A call with its answer. -/
structure Event (I : Interface) where
  /-- The call. -/
  call : I.Call
  /-- The answer. -/
  answer : I.Answer call

/-- Calls with their answers, in order. -/
abbrev Trace (I : Interface) := List (Event I)

/-- The rounds of a loop, up to a state from which it goes on or up to its result. -/
inductive Rounds {I : Interface} {σ β : Type} (round : σ → Trace I → σ ⊕ β → Prop) :
    σ → Trace I → σ ⊕ β → Prop where
  /-- No round yet. -/
  | start (s : σ) : Rounds round s [] (.inl s)
  /-- A round that ends with another state, and the rounds from there. -/
  | again {s t : σ} {es fs : Trace I} {o : σ ⊕ β} :
    round s es (.inl t) → Rounds round t fs o → Rounds round s (es ++ fs) o
  /-- A round that ends with a result. -/
  | done {s : σ} {b : β} {es : Trace I} : round s es (.inr b) → Rounds round s es (.inr b)

/-- An event of one trace after another is in the second or in the first. -/
lemma Trace.split_append {I : Interface} {fs gs hs ks : Trace I} {e : Event I}
    (h : fs ++ e :: gs = hs ++ ks) :
    (∃ ls, fs = hs ++ ls ∧ ks = ls ++ e :: gs) ∨ ∃ ls, hs = fs ++ e :: ls := by
  rcases List.append_eq_append_iff.1 h with ⟨ls, rfl, hls⟩ | ⟨ls, rfl, rfl⟩
  · rcases List.cons_eq_append_iff.1 hls with ⟨rfl, rfl⟩ | ⟨ls, rfl, -⟩
    · exact .inl ⟨[], by simp, rfl⟩
    · exact .inr ⟨ls, rfl⟩
  · exact .inl ⟨ls, rfl, rfl⟩

/-- What happens in the rounds of a loop happens in one of them.

**Proof sketch.** By induction on the rounds. The event lies in the first round, which begins where
the loop does, or behind it, and then in a round of the rest, to be reached through the first. -/
lemma Rounds.exists_round {I : Interface} {σ β : Type} {round : σ → Trace I → σ ⊕ β → Prop}
    {s : σ} {es : Trace I} {o : σ ⊕ β} (h : Rounds round s es o) {fs gs : Trace I} {e : Event I}
    (he : fs ++ e :: gs = es) :
    ∃ t hs ks ls o', fs = hs ++ ks ∧ Rounds round s hs (.inl t) ∧
      round t (ks ++ e :: ls) o' := by
  induction h generalizing fs gs with
  | start s => exact absurd he (by simp)
  | @again s t es es' o hs _ ih =>
    rcases Trace.split_append he with ⟨ls, rfl, hls⟩ | ⟨ls, rfl⟩
    · obtain ⟨t', hs', ks, ls', o', rfl, hr, ho⟩ := ih hls.symm
      exact ⟨t', es ++ hs', ks, ls', o', (List.append_assoc ..).symm, .again hs hr, ho⟩
    · exact ⟨s, [], fs, ls, _, rfl, .start s, hs⟩
  | @done s b es hs =>
    subst he
    exact ⟨s, [], fs, gs, _, rfl, .start s, hs⟩

/-- More rounds of a loop. -/
lemma Rounds.trans {I : Interface} {σ β : Type} {round : σ → Trace I → σ ⊕ β → Prop} {s t : σ}
    {es fs : Trace I} {o : σ ⊕ β} (h : Rounds round s es (.inl t)) (h' : Rounds round t fs o) :
    Rounds round s (es ++ fs) o := by
  generalize hp : Sum.inl t = p at h
  induction h with
  | start => exact Sum.inl.inj hp ▸ h'
  | again hr _ ih => exact List.append_assoc .. ▸ .again hr (ih hp)
  | done => cases hp

namespace Prog

variable {I : Interface} {α β : Type}

/-- The program can return a result after a trace. -/
def Runs {α : Type} : Prog I α → Trace I → α → Prop
  | .pure a, es, r => es = [] ∧ a = r
  | .call c next, es, r => ∃ x fs, es = ⟨c, x⟩ :: fs ∧ (next x).Runs fs r
  | .loop body init next, es, r =>
    ∃ fs gs b, es = fs ++ gs ∧ Rounds (fun s => (body s).Runs) init fs (.inr b) ∧
      (next b).Runs gs r

/-- The program can make a call after a trace. It need not come to an end afterwards. -/
def Asks {α : Type} : Prog I α → Trace I → I.Call → Prop
  | .pure _, _, _ => False
  | .call c next, es, d => es = [] ∧ d = c ∨ ∃ x fs, es = ⟨c, x⟩ :: fs ∧ (next x).Asks fs d
  | .loop body init next, es, d =>
    ∃ fs gs, es = fs ++ gs ∧
      ((∃ s, Rounds (fun s => (body s).Runs) init fs (.inl s) ∧ (body s).Asks gs d) ∨
        ∃ b, Rounds (fun s => (body s).Runs) init fs (.inr b) ∧ (next b).Asks gs d)

/-- A run of one program after another is a run of the first followed by a run of the second.

**Proof sketch.** By induction on the first program, with the trace general. A call contributes its
event, and a loop the trace of its rounds, to the run of the first program; what is left of the
trace is split by the induction hypothesis. -/
theorem runs_bind (p : Prog I α) (f : α → Prog I β) (es : Trace I) (b : β) :
    (p.bind f).Runs es b ↔ ∃ fs gs a, es = fs ++ gs ∧ p.Runs fs a ∧ (f a).Runs gs b := by
  induction p generalizing es with
  | pure a =>
    constructor
    · intro h
      exact ⟨[], es, a, rfl, ⟨rfl, rfl⟩, h⟩
    · rintro ⟨fs, gs, a', rfl, ⟨rfl, rfl⟩, h⟩
      exact h
  | call c next ih =>
    simp only [call_bind, Runs, ih]
    constructor
    · rintro ⟨x, fs, rfl, gs, hs, a, rfl, h₁, h₂⟩
      exact ⟨⟨c, x⟩ :: gs, hs, a, rfl, ⟨x, gs, rfl, h₁⟩, h₂⟩
    · rintro ⟨fs, gs, a, rfl, ⟨x, hs, rfl, h₁⟩, h₂⟩
      exact ⟨x, hs ++ gs, rfl, hs, gs, a, rfl, h₁, h₂⟩
  | loop body init next _ ih =>
    simp only [loop_bind, Runs, ih]
    constructor
    · rintro ⟨fs, gs, r, rfl, hr, hs, ks, a, rfl, h₁, h₂⟩
      exact ⟨fs ++ hs, ks, a, (List.append_assoc ..).symm, ⟨fs, hs, r, rfl, hr, h₁⟩, h₂⟩
    · rintro ⟨_, gs, a, rfl, ⟨fs, hs, r, rfl, hr, h₁⟩, h₂⟩
      exact ⟨fs, hs ++ gs, r, List.append_assoc .., hr, hs, gs, a, rfl, h₁, h₂⟩

/-- What one program after another asks, the first asks, or the second after a run of the first.

**Proof sketch.** By induction on the first program, as for the runs. A loop of the first program is
asked in, before its end, or has come to its end, and then what follows it is asked in. -/
theorem asks_bind (p : Prog I α) (f : α → Prog I β) (es : Trace I) (d : I.Call) :
    (p.bind f).Asks es d ↔
      p.Asks es d ∨ ∃ fs gs a, es = fs ++ gs ∧ p.Runs fs a ∧ (f a).Asks gs d := by
  induction p generalizing es with
  | pure a =>
    constructor
    · intro h
      exact .inr ⟨[], es, a, rfl, ⟨rfl, rfl⟩, h⟩
    · rintro (h | ⟨fs, gs, a', rfl, ⟨rfl, rfl⟩, h⟩)
      · exact h.elim
      · exact h
  | call c next ih =>
    simp only [call_bind, Asks, Runs, ih]
    constructor
    · rintro (h | ⟨x, fs, rfl, h | ⟨gs, hs, a, rfl, h₁, h₂⟩⟩)
      · exact .inl (.inl h)
      · exact .inl (.inr ⟨x, fs, rfl, h⟩)
      · exact .inr ⟨⟨c, x⟩ :: gs, hs, a, rfl, ⟨x, gs, rfl, h₁⟩, h₂⟩
    · rintro ((h | ⟨x, fs, rfl, h⟩) | ⟨_, hs, a, rfl, ⟨x, gs, rfl, h₁⟩, h₂⟩)
      · exact .inl h
      · exact .inr ⟨x, fs, rfl, .inl h⟩
      · exact .inr ⟨x, gs ++ hs, rfl, .inr ⟨gs, hs, a, rfl, h₁, h₂⟩⟩
  | loop body init next _ ih =>
    simp only [loop_bind, Asks, Runs, ih]
    constructor
    · rintro ⟨fs, gs, rfl, h | ⟨b, hr, h | ⟨hs, ks, a, rfl, h₁, h₂⟩⟩⟩
      · exact .inl ⟨fs, gs, rfl, .inl h⟩
      · exact .inl ⟨fs, gs, rfl, .inr ⟨b, hr, h⟩⟩
      · exact .inr ⟨fs ++ hs, ks, a, (List.append_assoc ..).symm, ⟨fs, hs, b, rfl, hr, h₁⟩, h₂⟩
    · rintro (⟨fs, gs, rfl, h | ⟨b, hr, h⟩⟩ | ⟨_, ks, a, rfl, ⟨fs, hs, b, rfl, hr, h₁⟩, h₂⟩)
      · exact ⟨fs, gs, rfl, .inl h⟩
      · exact ⟨fs, gs, rfl, .inr ⟨b, hr, .inl h⟩⟩
      · exact ⟨fs, hs ++ ks, List.append_assoc .., .inr ⟨b, hr, .inr ⟨hs, ks, a, rfl, h₁, h₂⟩⟩⟩

/-- **What happens in a run was asked** after what happened before.

**Proof sketch.** By induction on the program. An event in a loop lies behind its rounds, where the
induction hypothesis for the rest applies, or in one of them (`Rounds.exists_round`), where that for
the body does. -/
theorem Runs.asks {p : Prog I α} {fs gs : Trace I} {e : Event I} {a : α}
    (h : p.Runs (fs ++ e :: gs) a) : p.Asks fs e.call := by
  induction p generalizing fs gs with
  | pure b => exact absurd h.1 (by simp)
  | call c next ih =>
    obtain ⟨x, es, heq, hr⟩ := h
    cases fs with
    | nil =>
      cases heq
      exact .inl ⟨rfl, rfl⟩
    | cons f fs =>
      obtain ⟨rfl, rfl⟩ := List.cons.inj heq
      exact .inr ⟨x, fs, rfl, ih x hr⟩
  | loop body init next ihb ihn =>
    obtain ⟨es, es', b, heq, hrounds, hr⟩ := h
    rcases Trace.split_append heq with ⟨ls, rfl, rfl⟩ | ⟨ls, rfl⟩
    · exact ⟨es, ls, rfl, .inr ⟨b, hrounds, ihn b hr⟩⟩
    · obtain ⟨t, hs, ks, ls', o', rfl, hr', ho⟩ := hrounds.exists_round rfl
      exact ⟨hs, ks, rfl, .inl ⟨t, hr', ihb t ho⟩⟩

/-! ## The answers determine the run -/

section

variable {σ : Type} (round : σ → Trace I → σ ⊕ β → Prop)
  (hround : ∀ {s es fs es' fs' o o'}, round s es o → round s es' o' → es ++ fs = es' ++ fs' →
    es = es' ∧ o = o')

include hround

/-- A loop that ends goes on from every state that it passes.

**Proof sketch.** By induction on the rounds up to the state that is passed. The first round of
either is followed by the same answers, so it is the same round with the same outcome, and the rest
of both remains. -/
lemma rounds_rest {s t : σ} {es es' fs fs' : Trace I} {b : β} (h : Rounds round s es (.inr b))
    (h' : Rounds round s es' (.inl t)) (heq : es ++ fs = es' ++ fs') :
    ∃ gs, es = es' ++ gs ∧ gs ++ fs = fs' ∧ Rounds round t gs (.inr b) := by
  generalize hp : Sum.inl t = p at h'
  induction h' generalizing es with
  | start =>
    cases hp
    exact ⟨es, rfl, heq, h⟩
  | @again s u es₁ fs₁ o hr _ ih =>
    subst hp
    cases h with
    | @again _ u' es₂ fs₂ _ hr' hrest =>
      rw [List.append_assoc, List.append_assoc] at heq
      obtain ⟨rfl, ho⟩ := hround hr' hr heq
      cases ho
      obtain ⟨gs, rfl, hgs, hrest⟩ := ih hrest (List.append_cancel_left heq) rfl
      exact ⟨gs, (List.append_assoc ..).symm, hgs, hrest⟩
    | done hr' =>
      rw [List.append_assoc] at heq
      cases (hround hr' hr heq).2
  | done => cases hp

/-- The answers determine where a loop ends, and its result.

**Proof sketch.** By induction on the rounds of one run. Each round of the other is answered alike,
so it takes the same part of the trace and has the same outcome; thus both loops end in the same
round. -/
lemma rounds_unique {s : σ} {es es' fs fs' : Trace I} {b b' : β}
    (h : Rounds round s es (.inr b)) (h' : Rounds round s es' (.inr b'))
    (heq : es ++ fs = es' ++ fs') : es = es' ∧ b = b' := by
  generalize hp : Sum.inr b = p at h
  induction h generalizing es' with
  | start => cases hp
  | @again s u es₁ fs₁ o hr _ ih =>
    subst hp
    cases h' with
    | again hr' hrest =>
      rw [List.append_assoc, List.append_assoc] at heq
      obtain ⟨rfl, ho⟩ := hround hr hr' heq
      cases ho
      obtain ⟨rfl, rfl⟩ := ih hrest (List.append_cancel_left heq) rfl
      exact ⟨rfl, rfl⟩
    | done hr' =>
      rw [List.append_assoc] at heq
      cases (hround hr hr' heq).2
  | done hr =>
    cases hp
    cases h' with
    | again hr' hrest =>
      rw [List.append_assoc] at heq
      cases (hround hr hr' heq).2
    | done hr' =>
      obtain ⟨rfl, ho⟩ := hround hr hr' heq
      exact ⟨rfl, Sum.inr.inj ho⟩

end

/-- **The answers determine where a program ends, and its result.**

**Proof sketch.** By induction on the program: a call has the same answer in both traces, and for a
loop `rounds_unique` applies, as its body is determined by the induction hypothesis. -/
theorem Runs.unique {p : Prog I α} {es es' fs fs' : Trace I} {a a' : α} (h : p.Runs es a)
    (h' : p.Runs es' a') (heq : es ++ fs = es' ++ fs') : es = es' ∧ a = a' := by
  induction p generalizing es es' fs fs' with
  | pure b => exact ⟨h.1.trans h'.1.symm, h.2.symm.trans h'.2⟩
  | call c next ih =>
    obtain ⟨x, gs, rfl, h⟩ := h
    obtain ⟨x', gs', rfl, h'⟩ := h'
    cases (List.cons.inj heq).1
    obtain ⟨rfl, rfl⟩ := ih x h h' (List.cons.inj heq).2
    exact ⟨rfl, rfl⟩
  | loop body init next ihb ihn =>
    obtain ⟨gs, hs, b, rfl, hr, h⟩ := h
    obtain ⟨gs', hs', b', rfl, hr', h'⟩ := h'
    rw [List.append_assoc, List.append_assoc] at heq
    obtain ⟨rfl, rfl⟩ := rounds_unique (fun s => (body s).Runs) (ihb _) hr hr' heq
    obtain ⟨rfl, rfl⟩ := ihn b h h' (List.append_cancel_left heq)
    exact ⟨rfl, rfl⟩

/-- **A program that has ended asks nothing more.**

**Proof sketch.** By induction on the program. For a loop that has ended, another round would have
to begin in a state that the loop passes; from there it goes on to its end (`rounds_rest`), so that
the round in question has ended as well. -/
theorem Runs.not_asks {p : Prog I α} {es fs : Trace I} {a : α} (h : p.Runs es a) (c : I.Call) :
    ¬ p.Asks (es ++ fs) c := by
  induction p generalizing es fs with
  | pure b => exact id
  | call d next ih =>
    obtain ⟨x, gs, rfl, h⟩ := h
    rintro (⟨heq, -⟩ | ⟨x', gs', heq, hasks⟩)
    · cases heq
    · obtain ⟨he, rfl⟩ := List.cons.inj heq
      cases he
      exact ih x h hasks
  | loop body init next ihb ihn =>
    obtain ⟨gs, hs, b, rfl, hr, h⟩ := h
    rintro ⟨gs', hs', heq, ⟨s, hr', hasks⟩ | ⟨b', hr', hasks⟩⟩
    · rw [List.append_assoc] at heq
      obtain ⟨ks, rfl, rfl, hrest⟩ := rounds_rest (fun s => (body s).Runs) Runs.unique hr hr' heq
      cases hrest with
      | again hbody => exact ihb s hbody (List.append_assoc .. ▸ hasks)
      | done hbody => exact ihb s hbody hasks
    · rw [List.append_assoc] at heq
      obtain ⟨rfl, rfl⟩ := rounds_unique (fun s => (body s).Runs) Runs.unique hr hr' heq
      obtain rfl := List.append_cancel_left heq
      exact ihn b h hasks

/-! ## The same behaviour -/

/-- Two programs behave alike: they have the same runs, and make the same calls in them. -/
structure Equivalent (p q : Prog I α) : Prop where
  /-- They have the same runs. -/
  runs : ∀ es a, p.Runs es a ↔ q.Runs es a
  /-- They make the same calls, also in runs that do not come to an end. -/
  asks : ∀ es c, p.Asks es c ↔ q.Asks es c

/-- A program behaves like itself. -/
lemma Equivalent.refl (p : Prog I α) : p.Equivalent p := ⟨fun _ _ => .rfl, fun _ _ => .rfl⟩

/-- Programs that behave alike behave like the same others. -/
lemma Equivalent.trans {p q r : Prog I α} (h : p.Equivalent q) (h' : q.Equivalent r) :
    p.Equivalent r :=
  ⟨fun es a => (h.runs es a).trans (h'.runs es a), fun es c => (h.asks es c).trans (h'.asks es c)⟩

/-- **One program after another behaves as before** if the first does, and the second does after
every run of the first.

**Proof sketch.** A run of either composition splits into a run of the first programs, which have
the same runs, and one of what follows; the hypothesis on the latter is needed only after a run of
the first. -/
lemma Equivalent.bind {p q : Prog I α} {f g : α → Prog I β} (h : p.Equivalent q)
    (hfg : ∀ es a, p.Runs es a → (f a).Equivalent (g a)) : (p.bind f).Equivalent (q.bind g) := by
  constructor
  · intro es b
    simp only [runs_bind, ← h.runs]
    constructor
    · rintro ⟨fs, gs, a, rfl, hp, hf⟩
      exact ⟨fs, gs, a, rfl, hp, ((hfg fs a hp).runs gs b).1 hf⟩
    · rintro ⟨fs, gs, a, rfl, hp, hg⟩
      exact ⟨fs, gs, a, rfl, hp, ((hfg fs a hp).runs gs b).2 hg⟩
  · intro es c
    simp only [asks_bind, ← h.runs, ← h.asks]
    refine or_congr .rfl ⟨?_, ?_⟩
    · rintro ⟨fs, gs, a, rfl, hp, hf⟩
      exact ⟨fs, gs, a, rfl, hp, ((hfg fs a hp).asks gs c).1 hf⟩
    · rintro ⟨fs, gs, a, rfl, hp, hg⟩
      exact ⟨fs, gs, a, rfl, hp, ((hfg fs a hp).asks gs c).2 hg⟩

/-! ## Computed runs -/

/-- Answers calls depending on the trace so far, and records them. -/
def recorded (answer : Trace I → (c : I.Call) → I.Answer c) (c : I.Call) :
    StateM (Trace I) (I.Answer c) :=
  fun es => (answer es c, es ++ [⟨c, answer es c⟩])

/-- A computation with a state after another goes on with the result and the state of that. -/
lemma stateM_bind {σ : Type} (x : StateM σ α) (f : α → StateM σ β) (s : σ) :
    (x >>= f) s = f (x s).1 (x s).2 := rfl

/-- Rounds that are computed are rounds of the loop.

**Proof sketch.** By induction on the limit: an iteration within the limit makes one round, which is
a round of the loop, and ends with it or goes on within a limit that is one less. -/
lemma rounds_of_iterate {σ : Type} {round : σ → StateM (Trace I) (Option (σ ⊕ β))}
    {rel : σ → Trace I → σ ⊕ β → Prop}
    (h : ∀ s es o es', round s es = (some o, es') → ∃ fs, es' = es ++ fs ∧ rel s fs o) :
    ∀ (limit : Nat) (s : σ) (es : Trace I) (b : β) (es' : Trace I),
      iterate round limit s es = (some b, es') →
        ∃ fs, es' = es ++ fs ∧ Rounds rel s fs (.inr b) := by
  intro limit
  induction limit with
  | zero =>
    intro s es b es' hb
    cases hb
  | succ limit ih =>
    intro s es b es' hb
    rw [iterate, stateM_bind] at hb
    rcases hr : round s es with ⟨_ | t | c, fs⟩
    · rw [hr] at hb
      cases hb
    · rw [hr] at hb
      obtain ⟨gs, rfl, hgs⟩ := h s es _ fs hr
      obtain ⟨hs, rfl, hhs⟩ := ih t _ b es' hb
      exact ⟨gs ++ hs, List.append_assoc .., .again hgs hhs⟩
    · rw [hr] at hb
      cases hb
      obtain ⟨gs, rfl, hgs⟩ := h s es _ fs hr
      exact ⟨gs, rfl, .done hgs⟩

/-- **What is computed with given answers is the result of a run.**

**Proof sketch.** By induction on the program. A call adds its event to the record; for a loop that
is computed the rounds are given by `rounds_of_iterate`, and what follows by the induction
hypothesis. -/
theorem runs_of_run (answer : Trace I → (c : I.Call) → I.Answer c) (limit : Nat) (p : Prog I α)
    {es es' : Trace I} {a : α} (h : p.run (recorded answer) limit es = (some a, es')) :
    ∃ fs, es' = es ++ fs ∧ p.Runs fs a := by
  induction p generalizing es es' with
  | pure b =>
    cases h
    exact ⟨[], (List.append_nil _).symm, rfl, rfl⟩
  | call c next ih =>
    obtain ⟨fs, rfl, hfs⟩ := ih (answer es c) h
    exact ⟨⟨c, answer es c⟩ :: fs, List.append_assoc .., answer es c, fs, rfl, hfs⟩
  | @loop σ τ α body init next ihb ihn =>
    rw [run, stateM_bind] at h
    rcases hi : iterate (fun s => (body s).run (recorded answer) limit) limit init es with
      ⟨_ | b, fs⟩
    · rw [hi] at h
      cases h
    · rw [hi] at h
      obtain ⟨gs, rfl, hgs⟩ :=
        rounds_of_iterate (fun s _ _ _ ho => ihb s ho) limit init es b fs hi
      obtain ⟨hs, rfl, hhs⟩ := ihn b h
      exact ⟨gs ++ hs, List.append_assoc .., gs, hs, b, rfl, hgs, hhs⟩

/-- What is computed with given answers is found among the runs. -/
lemma exists_runs_of_run (answer : Trace I → (c : I.Call) → I.Answer c) (limit : Nat)
    (p : Prog I α) (P : Trace I → α → Prop) [∀ es a, Decidable (P es a)]
    (h : (p.run (recorded answer) limit []).1.any fun a =>
      P (p.run (recorded answer) limit []).2 a) : ∃ es a, p.Runs es a ∧ P es a := by
  obtain ⟨a, ha, hp⟩ := (Option.any_eq_true ..).1 h
  have hp : P (p.run (recorded answer) limit []).2 a := of_decide_eq_true hp
  obtain ⟨fs, hfs, hr⟩ := runs_of_run answer limit p (Prod.ext ha rfl)
  obtain rfl : (p.run (recorded answer) limit []).2 = fs := hfs
  exact ⟨_, a, hr, hp⟩

end Prog

end Depot
