import Depot.Rehearsal.Azure
import Depot.Rehearsal.Cluster
import Depot.Rehearsal.Gcs
import Depot.Rehearsal.S3
import Depot.Rehearsal.Swift

set_option autoImplicit false

/-!
# Rehearsing programs

A program is rehearsed by answering its calls from the world in memory.

## Main definitions

* `Rehearsal.answer` — the answer to each call to the world.
* `Rehearsal.run`, `Rehearsal.attempt` — the rehearsal of a program.
-/

namespace Depot.Rehearsal

/-- The next response of the server. A request without a body in its response gets none. -/
def exchange (r : Http.Request) : Rehearsal (Except Error Http.Response) := do
  match (← get).responses with
  | none => return .error (.http "there is no server")
  | some responses =>
    modify fun s => { s with requests := s.requests.push r, responses := some responses.tail }
    match responses.head? with
    | none => return .ok { status := 500, body := "no more responses" }
    | some response =>
      if r.method = .head ∨ response.status = 204 then return .ok { response with body := "" }
      else return .ok response

/-- The content of a file. -/
def fileContent (path : String) : Rehearsal (Except Error String) := do
  match (← get).files.get? path with
  | some content => return .ok content
  | none => return .error (.io "No such file or directory (os error 2)")

/-- The next random digits. -/
def randomDigits : Rehearsal (List Char) :=
  modifyGet fun s => (s.digits s.drawn, { s with drawn := s.drawn + 1 })

/-- The middle of the random numbers of 53 bits. -/
def middleWord : Nat := Nat.pow 2 52

/-- The answer to each call to the world. The retries of a call take no time. -/
def answer : (c : World.Call) → Rehearsal (World.Answer c)
  | .cluster c => answerCluster c
  | .s3 c => S3.answer c
  | .azure c => Azure.answer c
  | .gcs c => Gcs.answer c
  | .swift c => Swift.answer c
  | .http r => exchange r
  | .readFile path => fileContent path
  | .now => return (← get).clock
  | .stopwatch => return Span.ofMillis 0
  | .sleep duration => wait duration
  | .time => return (← get).date
  | .randomDigits => randomDigits
  | .randomWord => return middleWord
  | .measured backend operation succeeded =>
    modify fun s => { s with metrics := s.metrics.record backend operation succeeded }

/-- How many rounds a loop may take. -/
def maxRounds : Nat := 1000000000000

/-- The rehearsal of a program over an interface. -/
def runWith {I : Interface} {α : Type} (answer : (c : I.Call) → Rehearsal (I.Answer c))
    (p : Prog I α) : Trial α := do
  match ← (p.run answer maxRounds : Rehearsal (Option α)) with
  | some a => return a
  | none => throw (.internal "a loop takes too many rounds")

/-- The rehearsal of a program. -/
def run {α : Type} (p : Prog World α) : Trial α := runWith answer p

/-- The rehearsal of a program that may fail. -/
def attempt {α : Type} (p : Prog World (Except Error α)) : Trial α := do
  match ← run p with
  | .ok a => return a
  | .error e => throw e

/-- The outcome of a rehearsal as a value. -/
def outcomeOf {α : Type} (t : Trial α) : Trial (Except Error α) := ExceptT.lift t.run

end Depot.Rehearsal
