import Depot.Proofs.Contract

set_option autoImplicit false

/-!
# Runs of actions

A run of an action is a run of its program: a trace, an outcome and the state that is left. What the
runs of an action look like is computed from those of its parts; a loop takes an induction over its
rounds.

## Main definitions

* `Action.Runs` — an action can end with an outcome and a state after a trace.
* `Action.Asks` — an action can make a call after a trace.
* `Action.Turns` — the rounds of a loop that go on.
* `Action.StopsAt` — an action ends at an event, with the state it began with.

## Main results

* `Action.runs_bind` — the runs of one action after another.
* `Action.runs_loop` — what holds of the last round, and goes back over each round, holds of the
  runs of a loop.
* `Action.asks_bind`, `Action.asks_loop` — what one action after another asks, and a loop.
* `Action.Runs.stopsAt` — the answers determine where an action ends.
-/

namespace Depot

/-- One program after another, over another interface. -/
lemma Prog.interpret_bind {I J : Interface} {α β : Type}
    {handle : (c : I.Call) → Prog J (I.Answer c)} (p : Prog I α) (f : α → Prog I β) :
    (p.bind f).interpret handle = (p.interpret handle).bind fun a => (f a).interpret handle := by
  induction p with
  | pure a => rfl
  | call c next ih => simp only [call_bind, interpret, ih, bind_assoc]
  | loop body init next _ ih => simp only [loop_bind, interpret, ih]

namespace Action

variable {I : Interface} {σ τ α β : Type}

/-- The action can end with an outcome and a state after a trace. -/
def Runs (a : Action I σ α) (s : σ) (es : Trace I) (r : Except Error α) (t : σ) : Prop :=
  (a.start s).Runs es (r, t)

variable {s t : σ} {es : Trace I}

/-- An action that only has a value ends at once. -/
@[simp] lemma runs_pure {a : α} {r : Except Error α} :
    Runs (pure a : Action I σ α) s es r t ↔ es = [] ∧ r = .ok a ∧ t = s :=
  and_congr .rfl (Prod.ext_iff.trans (and_congr eq_comm eq_comm))

/-- An action that fails ends at once. -/
@[simp] lemma runs_throw {e : Error} {r : Except Error α} :
    Runs (throw e : Action I σ α) s es r t ↔ es = [] ∧ r = .error e ∧ t = s :=
  and_congr .rfl (Prod.ext_iff.trans (and_congr eq_comm eq_comm))

/-- An outcome that is given ends an action at once. -/
@[simp] lemma runs_ofExcept {x r : Except Error α} :
    Runs (ofExcept x : Action I σ α) s es r t ↔ es = [] ∧ r = x ∧ t = s :=
  and_congr .rfl (Prod.ext_iff.trans (and_congr eq_comm eq_comm))

/-- One action after another runs to the end of both, or to a failure of the first.

**Proof sketch.** A run of the program of both is one of the first and one of what follows its
outcome (`Prog.runs_bind`); after a failure nothing follows, so its trace is empty. -/
theorem runs_bind {a : Action I σ α} {f : α → Action I σ β} {r : Except Error β} :
    Runs (a >>= f) s es r t ↔
      (∃ x s' fs gs, es = fs ++ gs ∧ Runs a s fs (.ok x) s' ∧ Runs (f x) s' gs r t) ∨
        ∃ e, r = .error e ∧ Runs a s es (.error e) t := by
  rw [Runs, start_bind, Prog.runs_bind]
  constructor
  · rintro ⟨fs, gs, ⟨_ | x, s'⟩, rfl, ha, hf⟩
    · obtain ⟨rfl, hf⟩ := hf
      cases hf
      exact .inr ⟨_, rfl, by rwa [List.append_nil]⟩
    · exact .inl ⟨x, s', fs, gs, rfl, ha, hf⟩
  · rintro (⟨x, s', fs, gs, rfl, ha, hf⟩ | ⟨e, rfl, ha⟩)
    · exact ⟨fs, gs, _, rfl, ha, hf⟩
    · exact ⟨es, [], _, (List.append_nil _).symm, ha, rfl, rfl⟩

/-- A change of the state ends at once, in the changed state. -/
@[simp] lemma runs_modify {f : σ → σ} {r : Except Error PUnit} :
    Runs (modify f : Action I σ PUnit) s es r t ↔ es = [] ∧ r = .ok ⟨⟩ ∧ t = f s :=
  and_congr .rfl (Prod.ext_iff.trans (and_congr eq_comm eq_comm))

/-- A program that leaves the state as it is. -/
lemma runs_perform {p : Prog I α} {r : Except Error α} :
    Runs (perform p) s es r t ↔ ∃ x, p.Runs es x ∧ r = .ok x ∧ t = s := by
  refine (Prog.runs_bind ..).trans ?_
  constructor
  · rintro ⟨fs, gs, x, rfl, hp, rfl, h⟩
    cases h
    exact ⟨x, by rwa [List.append_nil], rfl, rfl⟩
  · rintro ⟨x, hp, rfl, rfl⟩
    exact ⟨es, [], x, (List.append_nil _).symm, hp, rfl, rfl⟩

/-- A program that may fail and leaves the state as it is. -/
lemma runs_attempt {p : Prog I (Except Error α)} {r : Except Error α} :
    Runs (attempt p) s es r t ↔ p.Runs es r ∧ t = s := by
  refine (Prog.runs_bind ..).trans ?_
  constructor
  · rintro ⟨fs, gs, x, rfl, hp, rfl, h⟩
    cases h
    exact ⟨by rwa [List.append_nil], rfl⟩
  · rintro ⟨hp, rfl⟩
    exact ⟨es, [], r, (List.append_nil _).symm, hp, rfl, rfl⟩

/-- A call has one event. -/
lemma runs_one {c : I.Call} {x : I.Answer c} :
    (Prog.perform c).Runs es x ↔ es = [⟨c, x⟩] := by
  constructor
  · rintro ⟨x, _, rfl, rfl, rfl⟩
    rfl
  · rintro rfl
    exact ⟨x, [], rfl, rfl, rfl⟩

/-- An action that keeps no state, as a program. -/
lemma runs_result {a : Action I Unit α} {r : Except Error α} :
    a.result.Runs es r ↔ Runs a () es r () := by
  refine (Prog.runs_bind ..).trans ?_
  constructor
  · rintro ⟨fs, gs, ⟨x, ⟨⟩⟩, rfl, ha, rfl, rfl⟩
    rwa [List.append_nil]
  · intro ha
    exact ⟨es, [], (r, ()), (List.append_nil _).symm, ha, rfl, rfl⟩

/-- A look at the state, and what follows it. -/
lemma runs_get_bind {f : σ → Action I σ β} {r : Except Error β} :
    Runs (get >>= f) s es r t ↔ Runs (f s) s es r t := by
  rw [Runs, start_bind]
  exact Iff.rfl

/-- A change of the state, and what follows it. -/
lemma runs_modify_bind {g : σ → σ} {f : PUnit → Action I σ β} {r : Except Error β} :
    Runs (modify g >>= f) s es r t ↔ Runs (f ⟨⟩) (g s) es r t := by
  rw [Runs, start_bind]
  exact Iff.rfl

/-- A program, and what follows its result. -/
lemma runs_perform_bind {p : Prog I α} {f : α → Action I σ β} {r : Except Error β} :
    Runs (perform p >>= f) s es r t ↔
      ∃ x fs gs, es = fs ++ gs ∧ p.Runs fs x ∧ Runs (f x) s gs r t := by
  rw [runs_bind]
  simp only [runs_perform]
  constructor
  · rintro (⟨x, _, fs, gs, rfl, ⟨_, hp, hx, rfl⟩, hf⟩ | ⟨_, _, _, _, h, _⟩)
    · cases hx
      exact ⟨x, fs, gs, rfl, hp, hf⟩
    · cases h
  · rintro ⟨x, fs, gs, rfl, hp, hf⟩
    exact .inl ⟨x, s, fs, gs, rfl, ⟨x, hp, rfl, rfl⟩, hf⟩

/-- A call, and what follows its answer. -/
lemma runs_call {c : I.Call} {f : I.Answer c → Action I σ β} {r : Except Error β} :
    Runs (perform (Prog.perform c) >>= f) s es r t ↔
      ∃ x fs, es = ⟨c, x⟩ :: fs ∧ Runs (f x) s fs r t := by
  rw [runs_perform_bind]
  constructor
  · rintro ⟨x, _, fs, rfl, hp, hf⟩
    exact ⟨x, fs, by rw [runs_one.1 hp]; rfl, hf⟩
  · rintro ⟨x, fs, rfl, hf⟩
    exact ⟨x, _, fs, rfl, runs_one.2 rfl, hf⟩

/-- An action whose outcome is taken as a value runs as before, and does not fail. -/
lemma runs_outcome {a : Action I σ α} {r : Except Error (Except Error α)} :
    Runs (outcome a) s es r t ↔ ∃ x, r = .ok x ∧ Runs a s es x t := by
  rw [Runs, outcome, ofRun, start]
  refine (Prog.runs_bind ..).trans ?_
  constructor
  · rintro ⟨fs, gs, ⟨x, s'⟩, rfl, ha, rfl, h⟩
    cases h
    exact ⟨x, rfl, by rwa [List.append_nil]⟩
  · rintro ⟨x, rfl, ha⟩
    exact ⟨es, [], (x, t), (List.append_nil _).symm, ha, rfl, rfl⟩

/-- **What holds of the last round, and goes back over each round, holds of the runs of a loop.**

**Proof sketch.** By induction on the rounds of the program. The run of a round is one of the action
for it; it ends the loop with a result or a failure, or leads to the next round, over which the
property goes back. -/
theorem runs_loop {round : τ → Action I σ (τ ⊕ β)}
    {P : τ → σ → Trace I → Except Error β → σ → Prop}
    (hround : ∀ {i s fs o s'}, Runs (round i) s fs o s' →
      match o with
      | .ok (.inl j) => ∀ {gs r t}, P j s' gs r t → P i s (fs ++ gs) r t
      | .ok (.inr b) => P i s fs (.ok b) s'
      | .error e => P i s fs (.error e) s')
    {i : τ} {r : Except Error β} (h : Runs (loop round i) s es r t) : P i s es r t := by
  obtain ⟨fs, gs, ⟨r', t'⟩, rfl, hrounds, rfl, heq⟩ := h
  cases heq
  rw [List.append_nil]
  generalize hp : (i, s) = p at hrounds
  generalize ho : Sum.inr (r, t) = o at hrounds
  induction hrounds generalizing i s with
  | start => cases ho
  | @again _ q es fs _ hfirst _ ih =>
    obtain ⟨j, s'⟩ := q
    subst hp
    obtain ⟨es, _, ⟨_ | j | b, s'⟩, rfl, hrun, rfl, heq⟩ := (Prog.runs_bind ..).1 hfirst
    · cases heq
    · cases heq
      rw [List.append_nil]
      exact hround hrun (ih rfl ho)
    · cases heq
  | done hlast =>
    subst hp
    cases ho
    obtain ⟨es, _, ⟨_ | j | b, s'⟩, rfl, hrun, rfl, heq⟩ := (Prog.runs_bind ..).1 hlast
    · cases heq
      rw [List.append_nil]
      exact hround hrun
    · cases heq
    · cases heq
      rw [List.append_nil]
      exact hround hrun

/-! ## Calls -/

/-- The action can make a call after a trace. It need not come to an end afterwards. -/
def Asks (a : Action I σ α) (s : σ) (es : Trace I) (c : I.Call) : Prop := (a.start s).Asks es c

variable {c : I.Call}

/-- An action that only has a value asks nothing. -/
@[simp] lemma asks_pure {a : α} : ¬ Asks (pure a : Action I σ α) s es c := id

/-- An action that fails asks nothing. -/
@[simp] lemma asks_throw {e : Error} : ¬ Asks (throw e : Action I σ α) s es c := id

/-- An outcome that is given asks nothing. -/
@[simp] lemma asks_ofExcept {x : Except Error α} : ¬ Asks (ofExcept x : Action I σ α) s es c := id

/-- What one action after another asks, the first asks, or the second after a success of the
first. -/
theorem asks_bind {a : Action I σ α} {f : α → Action I σ β} :
    Asks (a >>= f) s es c ↔
      Asks a s es c ∨
        ∃ x s' fs gs, es = fs ++ gs ∧ Runs a s fs (.ok x) s' ∧ Asks (f x) s' gs c := by
  rw [Asks, start_bind, Prog.asks_bind]
  refine or_congr .rfl ⟨?_, ?_⟩
  · rintro ⟨fs, gs, ⟨_ | x, s'⟩, rfl, ha, hf⟩
    · exact hf.elim
    · exact ⟨x, s', fs, gs, rfl, ha, hf⟩
  · rintro ⟨x, s', fs, gs, rfl, ha, hf⟩
    exact ⟨fs, gs, _, rfl, ha, hf⟩

/-- What a program asks whose result is turned into another one. -/
lemma asks_bind_pure {p : Prog I α} {f : α → β} :
    (p.bind fun a => .pure (f a)).Asks es c ↔ p.Asks es c := by
  rw [Prog.asks_bind]
  exact or_iff_left fun ⟨_, _, _, _, _, h⟩ => h

/-- A program as an action asks what it asks. -/
lemma asks_perform {p : Prog I α} : Asks (perform p : Action I σ α) s es c ↔ p.Asks es c :=
  asks_bind_pure

/-- A program that may fail asks the same as an action. -/
lemma asks_attempt {p : Prog I (Except Error α)} :
    Asks (attempt p : Action I σ α) s es c ↔ p.Asks es c :=
  asks_bind_pure

/-- Taking the outcome as a value asks nothing more. -/
lemma asks_outcome {a : Action I σ α} : Asks (outcome a) s es c ↔ Asks a s es c :=
  asks_bind_pure

/-- What an action that keeps no state asks, as a program. -/
lemma asks_result {a : Action I Unit α} : a.result.Asks es c ↔ Asks a () es c :=
  asks_bind_pure

/-- A call is made at once. -/
lemma asks_one {d : I.Call} : (Prog.perform d).Asks es c ↔ es = [] ∧ c = d :=
  or_iff_left fun ⟨_, _, _, h⟩ => h

/-- A call, and what follows its answer. -/
lemma asks_call {d : I.Call} {f : I.Answer d → Action I σ β} :
    Asks (perform (Prog.perform d) >>= f) s es c ↔
      es = [] ∧ c = d ∨ ∃ x fs, es = ⟨d, x⟩ :: fs ∧ Asks (f x) s fs c := by
  rw [asks_bind, asks_perform, asks_one]
  refine or_congr .rfl ⟨?_, ?_⟩
  · rintro ⟨x, s', fs, gs, rfl, hrun, h⟩
    obtain ⟨_, hone, hx, rfl⟩ := runs_perform.1 hrun
    cases hx
    exact ⟨x, gs, by rw [runs_one.1 hone]; rfl, h⟩
  · rintro ⟨x, fs, rfl, h⟩
    exact ⟨x, s, [⟨d, x⟩], fs, rfl, runs_perform.2 ⟨x, runs_one.2 rfl, rfl, rfl⟩, h⟩

/-- The rounds of a loop that go on, from a value and a state to others. -/
inductive Turns (round : τ → Action I σ (τ ⊕ β)) : τ → σ → Trace I → τ → σ → Prop where
  /-- No round yet. -/
  | start (i : τ) (s : σ) : Turns round i s [] i s
  /-- A round, and the rounds from there. -/
  | again {i j k : τ} {s s' t : σ} {es fs : Trace I} :
    Runs (round i) s es (.ok (.inl j)) s' → Turns round j s' fs k t → Turns round i s (es ++ fs) k t

section

variable {round : τ → Action I σ (τ ⊕ β)} {i j : τ} {s' : σ} {fs gs : Trace I}

/-- A round of a loop, as a program. -/
def body (round : τ → Action I σ (τ ⊕ β)) (p : τ × σ) :
    Prog I ((τ × σ) ⊕ (Except Error β × σ)) :=
  ((round p.1).start p.2).bind fun
    | (.error e, s) => .pure (.inr (.error e, s))
    | (.ok (.inl t), s) => .pure (.inl (t, s))
    | (.ok (.inr b), s) => .pure (.inr (.ok b, s))

/-- The program of a loop is the loop over the programs of its rounds. -/
lemma start_loop : (loop round i).start s = .loop (body round) (i, s) .pure := by
  refine congrArg (Prog.loop · (i, s) .pure) (funext fun p => ?_)
  refine congrArg (Prog.bind _) (funext ?_)
  rintro ⟨_ | _ | _, _⟩ <;> rfl

/-- A run of a round is a run of the body of the loop, with an outcome that goes on or ends it. -/
lemma runs_body {o : Except Error (τ ⊕ β)} (h : Runs (round i) s es o t) :
    (body round (i, s)).Runs es (match o with
      | .error e => .inr (.error e, t)
      | .ok (.inl j) => .inl (j, t)
      | .ok (.inr b) => .inr (.ok b, t)) := by
  refine (Prog.runs_bind ..).2 ⟨es, [], (o, t), (List.append_nil _).symm, h, ?_⟩
  rcases o with _ | _ | _ <;> exact ⟨rfl, rfl⟩

/-- The body of the loop goes on where the round does. -/
lemma runs_body_inl :
    (body round (i, s)).Runs es (.inl (j, t)) ↔ Runs (round i) s es (.ok (.inl j)) t := by
  refine ⟨fun h => ?_, runs_body⟩
  obtain ⟨fs, gs, ⟨_ | _ | _, _⟩, rfl, hr, rfl, heq⟩ := (Prog.runs_bind ..).1 h
  · cases heq
  · cases heq
    rwa [List.append_nil]
  · cases heq

/-- The body of the loop asks what the round asks. -/
lemma asks_body : (body round (i, s)).Asks es c ↔ Asks (round i) s es c := by
  refine (Prog.asks_bind ..).trans (or_iff_left ?_)
  rintro ⟨_, _, ⟨_ | _ | _, _⟩, _, _, h⟩ <;> exact h

/-- The rounds of a loop that go on are rounds of its program.

**Proof sketch.** By induction on the rounds, in both directions, as the body goes on where the
round does. -/
lemma rounds_inl_iff :
    Rounds (fun p => (body round p).Runs) (i, s) es (.inl (j, t)) ↔ Turns round i s es j t := by
  constructor
  · intro h
    generalize hp : (i, s) = p at h
    generalize hq : Sum.inl (j, t) = q at h
    induction h generalizing i s with
    | start =>
      cases hp
      cases hq
      exact .start ..
    | @again _ p _ _ _ hr _ ih =>
      subst hp
      exact .again (runs_body_inl.1 hr) (ih (Prod.eta p) hq)
    | done => cases hq
  · intro h
    induction h with
    | start => exact .start _
    | again hr _ ih => exact .again (runs_body_inl.2 hr) ih

/-- **What a loop asks, the round asks that comes after some that went on.**

**Proof sketch.** A call of the program of a loop is one of a round after some that went on, and the
rounds of the program are turns of the action. -/
theorem asks_loop :
    Asks (loop round i) s es c ↔
      ∃ j s' fs gs, es = fs ++ gs ∧ Turns round i s fs j s' ∧ Asks (round j) s' gs c := by
  rw [Asks, start_loop]
  constructor
  · rintro ⟨fs, gs, rfl, ⟨⟨j, s'⟩, hr, h⟩ | ⟨_, _, h⟩⟩
    · exact ⟨j, s', fs, gs, rfl, rounds_inl_iff.1 hr, asks_body.1 h⟩
    · exact h.elim
  · rintro ⟨j, s', fs, gs, rfl, hr, h⟩
    exact ⟨fs, gs, rfl, .inl ⟨(j, s'), rounds_inl_iff.2 hr, asks_body.2 h⟩⟩

/-- A loop ends with the round after some that went on.

**Proof sketch.** The last round is put after the turns. -/
lemma Turns.runs {o : Except Error (τ ⊕ β)} {r : Except Error β} (h : Turns round i s fs j s')
    (hr : Runs (round j) s' gs o t) (ho : o = r.map .inr) :
    Runs (loop round i) s (fs ++ gs) r t := by
  subst ho
  rw [Runs, start_loop]
  refine ⟨fs ++ gs, [], (r, t), (List.append_nil _).symm, ?_, rfl, rfl⟩
  refine Rounds.trans (rounds_inl_iff.2 h) (.done ?_)
  have hb := runs_body hr
  cases r <;> exact hb

end

/-! ## Ends -/

/-- The action ends at an event after a trace, with an outcome and the state it began with. -/
structure StopsAt (a : Action I σ α) (s : σ) (es : Trace I) (e : Event I) (r : Except Error α) :
    Prop where
  /-- It can end there. -/
  runs : Runs a s (es ++ [e]) r s
  /-- It ends nowhere else, and in no other way. -/
  unique : ∀ {fs r' t}, Runs a s (es ++ e :: fs) r' t → fs = [] ∧ r' = r ∧ t = s
  /-- It makes no other call. -/
  not_asks : ∀ {fs c}, ¬ Asks a s (es ++ e :: fs) c

/-- **The answers determine where an action ends**, and how. -/
theorem Runs.stopsAt {a : Action I σ α} {e : Event I} {r : Except Error α}
    (h : Runs a s (es ++ [e]) r s) : StopsAt a s es e r where
  runs := h
  unique {fs r' t} h' := by
    obtain ⟨heq, hr⟩ := Prog.Runs.unique h h' (by rw [List.append_assoc]; exact
      (List.append_nil (es ++ e :: fs)).symm)
    refine ⟨(List.cons.inj (List.append_cancel_left heq)).2.symm, ?_⟩
    exact ⟨(congrArg Prod.fst hr).symm, (congrArg Prod.snd hr).symm⟩
  not_asks {fs c} := by
    rw [List.append_cons]
    exact Prog.Runs.not_asks h c

/-! ## Over another interface -/

section

variable {J : Interface} {handle : (c : I.Call) → Prog J (I.Answer c)}

/-- One action after another, over another interface. -/
lemma interpret_bind (a : Action I σ α) (f : α → Action I σ β) :
    (a >>= f).interpret handle = a.interpret handle >>= fun x => (f x).interpret handle := by
  funext s
  change ((a >>= f).start s).interpret handle = (a.interpret handle >>= _).start s
  rw [start_bind, start_bind, Prog.interpret_bind]
  refine congrArg (Prog.bind _) (funext ?_)
  rintro ⟨_ | x, s'⟩
  · rfl
  · rfl

/-- A change of the state makes no call, so it is the same over every interface. -/
lemma runs_interpret_modify {f : σ → σ} {s t : σ} {es : Trace J} {r : Except Error PUnit} :
    Runs (interpret handle (modify f)) s es r t ↔ es = [] ∧ r = .ok ⟨⟩ ∧ t = f s := by
  rw [show interpret handle (modify f : Action I σ PUnit) = (modify f : Action J σ PUnit) from rfl,
    runs_modify]

/-- Taking the outcome as a value is the same over another interface. -/
lemma interpret_outcome (a : Action I σ α) :
    (outcome a).interpret handle = outcome (a.interpret handle) := by
  funext s
  exact Prog.interpret_bind _ _

end

end Action

end Depot
