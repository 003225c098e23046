import Depot.Azure.Api
import Depot.Cluster.Api
import Depot.Gcs.Api
import Depot.Http
import Depot.S3.Api
import Depot.Swift.Api

set_option autoImplicit false

/-!
# The world outside

Everything the operator can ask of the world: the cluster, the clouds, HTTP services, files,
clocks and chance. The operations of the operator are programs over this interface.

## Main definitions

* `World.Call`, `World` — the calls as an interface.
* `World.cluster`, `World.s3`, `World.now` and so on — programs of one call.
* `Operating` — actions of the operator.
-/

namespace Depot

/-- The calls to the world. -/
inductive World.Call where
  /-- The cluster. -/
  | cluster (call : Cluster.Call)
  /-- S3. -/
  | s3 (call : S3.Call)
  /-- Azure. -/
  | azure (call : Azure.Call)
  /-- Google Cloud. -/
  | gcs (call : Gcs.Call)
  /-- Swift. -/
  | swift (call : Swift.Call)
  /-- An exchange over HTTP; the failure is one of the connection. -/
  | http (request : Http.Request)
  /-- The content of a file. -/
  | readFile (path : String)
  /-- The time that timers show. -/
  | now
  /-- The time that bounds the retries of a call. -/
  | stopwatch
  /-- Waits on a timer. -/
  | sleep (duration : Span)
  /-- The date and time. -/
  | time
  /-- Random hexadecimal digits, 32 of them. -/
  | randomDigits
  /-- A random number of 53 bits. -/
  | randomWord
  /-- Records the outcome of an operation. -/
  | measured (backend : Backend) (operation : Operation) (succeeded : Bool)

/-- The calls to the world and their answers. -/
def World : Interface where
  Call := World.Call
  Answer
    | .cluster c => Cluster.Answer c
    | .s3 c => S3.Answer c
    | .azure c => Azure.Answer c
    | .gcs c => Gcs.Answer c
    | .swift c => Swift.Answer c
    | .http _ => Except Error Http.Response
    | .readFile _ => Except Error String
    | .now => Span
    | .stopwatch => Span
    | .sleep _ => Unit
    | .time => Timestamp
    | .randomDigits => List Char
    | .randomWord => Nat
    | .measured _ _ _ => Unit

namespace World

/-- A call to the cluster. -/
def cluster (c : Cluster.Call) : Prog World (Cluster.Answer c) :=
  Prog.perform (I := World) (.cluster c)

/-- A call to S3. -/
def s3 (c : S3.Call) : Prog World (S3.Answer c) := Prog.perform (I := World) (.s3 c)

/-- A call to Azure. -/
def azure (c : Azure.Call) : Prog World (Azure.Answer c) := Prog.perform (I := World) (.azure c)

/-- A call to Google Cloud. -/
def gcs (c : Gcs.Call) : Prog World (Gcs.Answer c) := Prog.perform (I := World) (.gcs c)

/-- A call to Swift. -/
def swift (c : Swift.Call) : Prog World (Swift.Answer c) := Prog.perform (I := World) (.swift c)

/-- An exchange over HTTP. -/
def http (r : Http.Request) : Prog World (Except Error Http.Response) :=
  Prog.perform (I := World) (.http r)

/-- The content of a file. -/
def readFile (path : String) : Prog World (Except Error String) :=
  Prog.perform (I := World) (.readFile path)

/-- The time that timers show. -/
def now : Prog World Span := Prog.perform (I := World) .now

/-- The time that bounds the retries of a call. -/
def stopwatch : Prog World Span := Prog.perform (I := World) .stopwatch

/-- Waits on a timer. -/
def sleep (duration : Span) : Prog World Unit := Prog.perform (I := World) (.sleep duration)

/-- The date and time. -/
def time : Prog World Timestamp := Prog.perform (I := World) .time

/-- Random hexadecimal digits. -/
def randomDigits : Prog World (List Char) := Prog.perform (I := World) .randomDigits

/-- A random number of 53 bits. -/
def randomWord : Prog World Nat := Prog.perform (I := World) .randomWord

/-- Records the outcome of an operation. -/
def measured (backend : Backend) (operation : Operation) (succeeded : Bool) :
    Prog World Unit :=
  Prog.perform (I := World) (.measured backend operation succeeded)

end World

/-- An action of the operator on a state. -/
abbrev Operating (σ α : Type) := Action World σ α

end Depot
