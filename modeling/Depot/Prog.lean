import Depot.Error

set_option autoImplicit false

/-!
# Programs over an interface

All effects of the operator are calls to something outside: the cluster, a cloud, a clock. A
program is the tree of the calls it may make, with one branch for every answer, so that a statement
about a program can speak of all answers. Loops without a bound known in advance are a node of
their own; only running a program needs a limit.

## Main definitions

* `Interface` — calls and the types of their answers.
* `Prog` — programs, with `Prog.bind`, `Prog.perform` and `Prog.interpret`.
* `Prog.run` — runs a program, given what answers its calls.
* `Action` — programs that keep a state and may fail; the state survives a failure.
* `Action.loop` — loops, which a failure ends.

## Main results

* `Prog.pure_bind`, `Prog.bind_pure`, `Prog.bind_assoc` — programs are a lawful monad.
-/

namespace Depot

/-- Calls and the types of their answers. -/
structure Interface where
  /-- The calls. -/
  Call : Type
  /-- The type of the answers to a call. -/
  Answer : Call → Type

/-- A program: a result, a call with a program for each answer, or a loop. -/
inductive Prog (I : Interface) : Type → Type 1 where
  /-- The result. -/
  | pure {α : Type} (a : α) : Prog I α
  /-- A call, and what follows its answer. -/
  | call {α : Type} (c : I.Call) (next : I.Answer c → Prog I α) : Prog I α
  /-- A loop from a state: each round ends with another state or with a result. -/
  | loop {σ β α : Type} (body : σ → Prog I (σ ⊕ β)) (init : σ) (next : β → Prog I α) : Prog I α

namespace Prog

variable {I J : Interface} {α β γ σ : Type}

/-- One program after another. -/
protected def bind {α β : Type} : Prog I α → (α → Prog I β) → Prog I β
  | .pure a, f => f a
  | .call c next, f => .call c fun x => (next x).bind f
  | .loop body init next, f => .loop body init fun b => (next b).bind f

instance : Monad (Prog I) where
  pure := Prog.pure
  bind := Prog.bind

/-- A program that is done goes on with what follows it. -/
@[simp] theorem pure_bind (a : α) (f : α → Prog I β) : Prog.bind (.pure a) f = f a := rfl

/-- What follows a call follows each of its answers. -/
@[simp] theorem call_bind (c : I.Call) (next : I.Answer c → Prog I α) (f : α → Prog I β) :
    Prog.bind (.call c next) f = .call c fun x => (next x).bind f := rfl

/-- What follows a loop follows each of its results. -/
@[simp] theorem loop_bind {τ : Type} (body : σ → Prog I (σ ⊕ τ)) (init : σ)
    (next : τ → Prog I α) (f : α → Prog I β) :
    Prog.bind (.loop body init next) f = .loop body init fun b => (next b).bind f := rfl

/-- A program followed by nothing is that program. -/
@[simp] theorem bind_pure (p : Prog I α) : p.bind .pure = p := by
  induction p with
  | pure a => rfl
  | call c next ih => simp [ih]
  | loop body init next _ ih => simp [ih]

/-- It does not matter how three programs in a row are put together. -/
theorem bind_assoc (p : Prog I α) (f : α → Prog I β) (g : β → Prog I γ) :
    (p.bind f).bind g = p.bind fun a => (f a).bind g := by
  induction p with
  | pure a => rfl
  | call c next ih => simp [ih]
  | loop body init next _ ih => simp [ih]

instance : LawfulMonad (Prog I) :=
  LawfulMonad.mk' _ (fun p => bind_pure p) (fun _ _ => rfl) (fun p f g => bind_assoc p f g)

/-- A single call. -/
def perform (c : I.Call) : Prog I (I.Answer c) := .call c .pure

/-- The program over another interface that makes a program of that interface for each call. -/
def interpret (handle : (c : I.Call) → Prog J (I.Answer c)) {α : Type} : Prog I α → Prog J α
  | .pure a => .pure a
  | .call c next => (handle c).bind fun x => (next x).interpret handle
  | .loop body init next =>
    .loop (fun s => (body s).interpret handle) init fun b => (next b).interpret handle

/-- Like `interpret`, with a state that the programs for the calls share. -/
def interpretWith (handle : (c : I.Call) → σ → Prog J (I.Answer c × σ)) {α : Type} :
    Prog I α → σ → Prog J (α × σ)
  | .pure a, s => .pure (a, s)
  | .call c next, s => (handle c s).bind fun r => (next r.1).interpretWith handle r.2
  | .loop body init next, s =>
    .loop
      (fun r => ((body r.1).interpretWith handle r.2).bind fun o =>
        .pure (match o.1 with
          | .inl t => .inl (t, o.2)
          | .inr b => .inr (b, o.2)))
      (init, s) fun r => (next r.1).interpretWith handle r.2

/-- Repeats a round at most `limit` times. -/
def iterate {m : Type → Type} [Monad m] (round : σ → m (Option (σ ⊕ β))) :
    Nat → σ → m (Option β)
  | 0, _ => Pure.pure none
  | limit + 1, s => do
    match ← round s with
    | none => Pure.pure none
    | some (.inr b) => Pure.pure (some b)
    | some (.inl s) => iterate round limit s

/-- Runs a program, given what answers its calls; none if a loop takes more than `limit`
rounds. -/
def run {m : Type → Type} [Monad m] (answer : (c : I.Call) → m (I.Answer c)) (limit : Nat)
    {α : Type} : Prog I α → m (Option α)
  | .pure a => Pure.pure (some a)
  | .call c next => do
    let x ← answer c
    (next x).run answer limit
  | .loop body init next => do
    match ← iterate (fun s => (body s).run answer limit) limit init with
    | none => Pure.pure none
    | some b => (next b).run answer limit

end Prog

/-- A program that keeps a state and may fail. The state survives a failure. -/
abbrev Action (I : Interface) (σ α : Type) := ExceptT Error (StateT σ (Prog I)) α

namespace Action

variable {I J : Interface} {α β σ τ : Type}

/-- Runs an action from a state. -/
def start (a : Action I σ α) (s : σ) : Prog I (Except Error α × σ) := a.run.run s

/-- The action with the given runs. -/
def ofRun (f : σ → Prog I (Except Error α × σ)) : Action I σ α := ExceptT.mk (StateT.mk f)

/-- A program that may fail, as an action that leaves the state as it is. -/
def attempt (p : Prog I (Except Error α)) : Action I σ α :=
  ofRun fun s => p.bind fun r => .pure (r, s)

/-- A program as an action that leaves the state as it is. -/
def perform (p : Prog I α) : Action I σ α :=
  ofRun fun s => p.bind fun a => .pure (.ok a, s)

/-- A result that may be a failure. -/
def ofExcept (r : Except Error α) : Action I σ α := ofRun fun s => .pure (r, s)

/-- The outcome of an action as a value, so that a failure can be looked at. -/
def outcome (a : Action I σ α) : Action I σ (Except Error α) :=
  ofRun fun s => (a.start s).bind fun r => .pure (.ok r.1, r.2)

/-- The outcome of an action that keeps no state. -/
def result (a : Action I Unit α) : Prog I (Except Error α) :=
  (a.start ()).bind fun r => .pure r.1

/-- A loop: each round ends with another value or with a result, and a failure ends the loop. -/
def loop (round : τ → Action I σ (τ ⊕ β)) (init : τ) : Action I σ β :=
  ofRun fun s =>
    .loop
      (fun (t, s) => ((round t).start s).bind fun
        | (.error e, s) => .pure (.inr (.error e, s))
        | (.ok (.inl t), s) => .pure (.inl (t, s))
        | (.ok (.inr b), s) => .pure (.inr (.ok b, s)))
      (init, s) .pure

/-- The action over another interface that makes a program of that interface for each call. -/
def interpret (handle : (c : I.Call) → Prog J (I.Answer c)) (a : Action I σ α) :
    Action J σ α :=
  ofRun fun s => (a.start s).interpret handle

end Action

end Depot
