import Depot.Proofs.Ledger
import Depot.Storage.Session

set_option autoImplicit false

/-!
# Connecting

Before an operation can touch a resource it finds credentials, learns about the cluster and
connects to a cloud. It may wait long for that, and all of it may fail, but it touches no asset and
leaves the session and the ledger as they are. The same holds for every other contract that does
not notice calls which touch no asset.

## Main definitions

* `World.Call.IsQuiet` — a call that touches nothing and says nothing about assets.
* `World.Call.IsCommon` — a call that is the same for all clouds.
* `Contract.Steady`, `Contract.Calm` — states in which quiet calls are not noticed, those that are
  common or all.

## Main results

* `Backoff.idle_retry` — trying again changes nothing if a try changes nothing.
* `Credentials.idle_s3`, `Credentials.idle_azure`, `Credentials.idle_gcs`, `Credentials.idle_swift`
  — finding credentials changes nothing.
-/

namespace Depot

/-- The call touches no asset, and its answer says nothing about any. -/
structure World.Call.IsQuiet (c : World.Call) : Prop where
  /-- The call touches no asset. -/
  touches : ∀ x, ¬ c.Touches x
  /-- No answer says anything about assets. -/
  deed : ∀ r, World.deed c r = .other

/-- The call is the same for all clouds: it is one to the cluster, to a clock or to chance. -/
def World.Call.IsCommon : World.Call → Prop
  | .s3 _ | .azure _ | .gcs _ | .swift _ | .http _ => False
  | _ => True

/-- Common calls that are quiet are permitted in a state and do not change it. -/
class Contract.Steady {G : Type} (K : Contract World G) (g : G) : Prop where
  /-- A common call that is quiet is permitted and changes nothing. -/
  idle : ∀ c, c.IsQuiet → c.IsCommon → K.IdleCall g c

/-- Quiet calls are permitted in a state and do not change it. -/
class Contract.Calm {G : Type} (K : Contract World G) (g : G) : Prop where
  /-- A quiet call is permitted and changes nothing. -/
  idle : ∀ c, c.IsQuiet → K.IdleCall g c

instance {G : Type} {K : Contract World G} {g : G} [K.Calm g] : K.Steady g where
  idle c h _ := Contract.Calm.idle c h

/-- The ledger says nothing about quiet calls. -/
instance (l : Ledger) : Ledger.contract.Calm l where
  idle c h := by
    refine ⟨fun x hx => (h.touches x hx).elim, ?_⟩
    rintro r _ rfl
    rw [h.deed r]
    rfl

variable {σ α G : Type} {K : Contract World G} {g : G}

/-- A quiet call is permitted and changes nothing where all of them are unnoticed. -/
lemma World.Call.IsQuiet.idle [K.Calm g] {c : World.Call} (h : c.IsQuiet) : K.IdleCall g c :=
  Contract.Calm.idle c h

/-- A common call that is quiet is permitted and changes nothing where those are unnoticed. -/
lemma World.Call.IsQuiet.steady [K.Steady g] {c : World.Call} (h : c.IsQuiet)
    (hc : c.IsCommon := by trivial) : K.IdleCall g c :=
  Contract.Steady.idle c h hc

/-- A quiet call keeps the contract. -/
lemma keeps_quiet [K.Calm g] {c : World.Call} (h : c.IsQuiet) :
    (Prog.perform (I := World) c).Keeps K g fun _ g' => g' = g :=
  Prog.keeps_perform.2 h.idle

variable [K.Steady g]

/-- A common call that is quiet keeps the contract. -/
lemma keeps_steady {c : World.Call} (h : c.IsQuiet) (hc : c.IsCommon := by trivial) :
    (Prog.perform (I := World) c).Keeps K g fun _ g' => g' = g :=
  Prog.keeps_perform.2 (h.steady hc)

namespace Backoff

/-- Trying again and again changes nothing if a try changes nothing.

**Proof sketch.** The loop reads the stopwatch, draws a word and waits between the tries, all of
which are quiet calls that are the same for all clouds; so each of its rounds changes nothing. -/
theorem idle_retry (b : Backoff) {attempt : Operating σ (Attempt α)}
    (h : Action.Idle K g attempt) :
    Action.Idle K g (b.retry attempt) := by
  have hstopwatch : Action.Idle (σ := σ) K g (Action.perform World.stopwatch) :=
    Action.idle_perform (World.Call.IsQuiet.steady ⟨fun _ h => h, fun _ => rfl⟩)
  have hword : Action.Idle (σ := σ) K g (Action.perform World.randomWord) :=
    Action.idle_perform (World.Call.IsQuiet.steady ⟨fun _ h => h, fun _ => rfl⟩)
  have hsleep (d : Span) :
      Action.Idle (σ := σ) K g (Action.perform (World.sleep d)) :=
    Action.idle_perform (World.Call.IsQuiet.steady ⟨fun _ h => h, fun _ => rfl⟩)
  refine hstopwatch.bind fun start => Action.idle_loop (fun mean => h.bind ?_) b.initial
  rintro (a | e | e)
  · exact Action.idle_pure _
  · refine hstopwatch.bind fun now => hword.bind fun word => ?_
    dsimp only
    split
    · exact (hsleep _).bind fun _ => Action.idle_pure _
    · exact Action.idle_throw e
  · exact Action.idle_throw e

end Backoff

/-! ## Credentials -/

namespace Credentials

variable (s : Settings)

/-- Reading a secret changes nothing. -/
lemma idle_secret? (name : String) :
    Action.Idle (σ := σ) K g (secret? s name) :=
  Action.idle_attempt (keeps_steady ⟨fun _ h => h, fun _ => rfl⟩)

/-- Waiting for the secret that the cluster makes changes nothing. -/
lemma idle_awaitMinted (backend : Backend) :
    Action.Idle (σ := σ) K g (awaitMinted s backend) := by
  refine Backoff.idle_retry _ ((idle_secret? s _).outcome.bind ?_)
  rintro (e | _ | secret)
  · exact Action.idle_pure _
  · exact Action.idle_pure _
  · exact Action.idle_pure _

/-- Finding the access keys for S3 changes nothing. -/
theorem idle_s3 : Action.Idle (σ := σ) K g (Credentials.s3 s) := by
  refine (idle_secret? s _).bind ?_
  rintro (_ | secret)
  · exact (idle_awaitMinted s .s3).bind fun _ => Action.idle_ofExcept _
  · exact Action.idle_ofExcept _

/-- Finding the identity on Azure changes nothing. -/
theorem idle_azure : Action.Idle (σ := σ) K g (Credentials.azure s) := by
  refine (idle_secret? s _).bind fun secret => ?_
  refine (Action.idle_ofExcept _).bind fun accountKey => ?_
  refine (idle_awaitMinted s .azure).bind fun secret => ?_
  exact (Action.idle_ofExcept _).bind fun identity => Action.idle_pure _

/-- Finding the key file for Google Cloud changes nothing. -/
theorem idle_gcs : Action.Idle (σ := σ) K g (Credentials.gcs s) := by
  refine (idle_secret? s _).bind ?_
  rintro (_ | secret)
  · exact (idle_awaitMinted s .gcs).bind fun _ => Action.idle_ofExcept _
  · exact Action.idle_ofExcept _

/-- Finding the credentials for Swift changes nothing. -/
theorem idle_swift : Action.Idle (σ := σ) K g (Credentials.swift s) := by
  refine (idle_secret? s _).bind ?_
  rintro (_ | secret)
  · refine (idle_secret? s _).bind ?_
    rintro (_ | secret)
    · exact Action.idle_throw _
    · exact Action.idle_ofExcept _
  · exact Action.idle_ofExcept _

end Credentials

/-! ## The cluster -/

/-- Asking for the description of the cluster changes nothing. -/
lemma idle_getInfrastructure :
    Action.Idle (σ := σ) K g (Action.attempt (World.cluster .getInfrastructure)) :=
  Action.idle_attempt (keeps_steady ⟨fun _ h => h, fun _ => rfl⟩)

end Depot
