import Depot.World

set_option autoImplicit false

/-!
# Retries

A call that fails for a passing reason is tried again after a wait. The waits grow by a factor up
to a maximum, each is spread at random around its mean, and when the next wait would pass the time
allowed in all, the failure is final.

## Main definitions

* `Backoff` — how long to wait and for how long to try.
* `Backoff.Attempt` — the outcome of one try.
* `Backoff.retry` — tries until there is an outcome.
-/

namespace Depot

/-- How long to wait between tries and for how long to try. -/
structure Backoff where
  /-- The first wait. -/
  initial : Span
  /-- The factor between one wait and the next. -/
  multiplier : Rat
  /-- The longest wait. -/
  maximum : Span
  /-- How far a wait may be from its mean, as a part of it. -/
  spread : Rat
  /-- The time allowed in all. -/
  limit : Span

namespace Backoff

/-- The outcome of one try. -/
inductive Attempt (α : Type) where
  /-- It succeeded. -/
  | done (a : α)
  /-- It failed for a passing reason. -/
  | again (e : Error)
  /-- It failed. -/
  | failed (e : Error)

/-- The mean of the next wait. -/
def grow (b : Backoff) (current : Span) : Span :=
  let next := (current.nanos * b.multiplier).floor.toNat
  if b.maximum.nanos ≤ next then b.maximum else ⟨next⟩

/-- How many numbers of 53 bits there are. -/
def wordCount : Nat := Nat.pow 2 53

/-- The wait that a random number of 53 bits picks around a mean. -/
def pick (b : Backoff) (mean : Span) (word : Nat) : Span :=
  let delta := mean.nanos * b.spread
  ⟨(mean.nanos - delta + word * (2 * delta + 1) / wordCount).floor.toNat⟩

/-- Tries until there is an outcome or the time allowed is over. -/
def retry {σ α : Type} (b : Backoff) (attempt : Operating σ (Attempt α)) : Operating σ α := do
  let start ← Action.perform World.stopwatch
  Action.loop (fun (mean : Span) => do
    match ← attempt with
    | .done a => return .inr a
    | .failed e => throw e
    | .again e =>
      let elapsed := (← Action.perform World.stopwatch).nanos - start.nanos
      let wait := b.pick mean (← Action.perform World.randomWord)
      if elapsed ≤ b.limit.nanos ∧ elapsed + wait.nanos ≤ b.limit.nanos then
        Action.perform (World.sleep wait)
        return .inl (b.grow mean)
      else throw e) b.initial

end Backoff

end Depot
