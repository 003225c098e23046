import Depot.Filesystem.Storage
import Depot.Gcs.Binding
import Depot.Proofs.Lifecycle

set_option autoImplicit false

/-!
# The ledger of resources

Which resources the operator owns can be told from the answers that its calls got: a resource is
held from the answer that it was created until the answer that it was deleted, or was gone. The
ledger keeps these facts over the runs of all operations. It is the yardstick for the state that
the operator keeps itself, and knows nothing of that state.

## Main definitions

* `Asset` — a bucket, container, storage account or claim.
* `World.Call.Touches` — the assets that a call sets up, empties or deletes.
* `World.deed` — what an answered call says about assets.
* `Ledger`, `Ledger.after` — what a trace says about assets.
* `Ledger.Owns` — the assets that the operator may touch.
* `Ledger.contract` — an operation touches only assets that it owns.

## Main results

* `Ledger.path_iff` — the ledger after a trace is the state that the contract keeps.
-/

namespace Depot

/-- A bucket, a container of Swift, a storage account or a claim. -/
structure Asset where
  /-- The backend. -/
  backend : Backend
  /-- The namespace of a claim; empty for all others. -/
  ns : String
  /-- The name. -/
  name : String
  deriving Repr, DecidableEq, Inhabited

/-- The asset that a name stands for in a configuration. -/
def Asset.of : Backend → String → Asset
  | .filesystem, name => ⟨.filesystem, Credentials.operatorNamespace, name⟩
  | b, name => ⟨b, "", name⟩

/-- The claim that the operator creates if none is named. -/
def Asset.defaultClaim : Asset := .of .filesystem Filesystem.defaultClaim

/-- The assets that a call sets up, empties or deletes. -/
def World.Call.Touches : World.Call → Asset → Prop
  | .s3 (.putPublicAccessBlock bucket), x | .s3 (.putBucketTagging bucket _), x
  | .s3 (.putBucketEncryption bucket _), x | .s3 (.putAbortRule bucket _ _), x
  | .s3 (.deleteObjects bucket _), x | .s3 (.deleteBucket bucket), x => x = .of .s3 bucket
  | .gcs (.preventPublicAccess bucket), x | .gcs (.setLabels bucket _), x
  | .gcs (.setDefaultKey bucket _), x | .gcs (.deleteObject bucket _), x
  | .gcs (.deleteBucket bucket), x => x = .of .gcs bucket
  | .gcs (.createBinding parent _), x =>
    ∃ bucket, parent = Gcs.Binding.bucketName bucket ∧ x = .of .gcs bucket
  | .swift (.deleteObject container _), x | .swift (.deleteContainer container), x =>
    x = .of .swift container
  | .azure (.updateAccountTags account _), x | .azure (.disablePublicAccess account), x
  | .azure (.deleteContainer account _), x | .azure (.deleteAccount account), x =>
    x = .of .azure account
  | .cluster (.deleteClaim ns name), x => x = ⟨.filesystem, ns, name⟩
  | _, _ => False

/-- What an answered call says about assets. -/
inductive Deed where
  /-- An asset was created. -/
  | created (x : Asset)
  /-- An asset was deleted, or was gone already. -/
  | removed (x : Asset)
  /-- A container was created in a storage account. -/
  | contained (account container : String)
  /-- The default claim was looked up, and was one of the operator's or not. -/
  | saw (owned : Bool)
  /-- Nothing. -/
  | other
  deriving Repr, DecidableEq, Inhabited

namespace Deed

/-- The deed of a creation that was answered. -/
def ofCreation (x : Asset) : Except Error Creation → Deed
  | .ok .created => .created x
  | _ => .other

/-- The deed of a deletion that was answered. -/
def ofDeletion (x : Asset) (r : Except Error Unit) : Deed :=
  if Lifecycle.isGone r then .removed x else .other

/-- A creation removes nothing. -/
lemma ofCreation_ne_removed (x y : Asset) (r : Except Error Creation) :
    ofCreation x r ≠ .removed y := by
  rcases r with _ | _ | _ <;> nofun

/-- A deletion removes nothing but what it is about. -/
lemma eq_of_ofDeletion {x y : Asset} {r : Except Error Unit} (h : ofDeletion x r = .removed y) :
    y = x := by
  rw [ofDeletion] at h
  split at h
  · exact (Deed.removed.inj h).symm
  · cases h

end Deed

/-- What an answered call says about assets. -/
def World.deed : (c : World.Call) → World.Answer c → Deed
  | .s3 (.createBucket bucket _), r => .ofCreation (.of .s3 bucket) r
  | .s3 (.deleteBucket bucket), r => .ofDeletion (.of .s3 bucket) r
  | .gcs (.createBucket _ bucket _), r => .ofCreation (.of .gcs bucket) r
  | .gcs (.deleteBucket bucket), r => .ofDeletion (.of .gcs bucket) r
  | .swift (.createContainer container), r => .ofCreation (.of .swift container) r
  | .swift (.deleteContainer container), r => .ofDeletion (.of .swift container) r
  | .azure (.createAccount account _), r => .ofCreation (.of .azure account) r
  | .azure (.deleteAccount account), r => .ofDeletion (.of .azure account) r
  | .azure (.createContainer account container), .ok .created => .contained account container
  | .cluster (.createClaim ns claim), .ok () =>
    .created ⟨.filesystem, ns, claim.metadata.name.getD ""⟩
  | .cluster (.deleteClaim ns name), r => .ofDeletion ⟨.filesystem, ns, name⟩ (r.map fun _ => ())
  | .cluster (.getClaim ns name), r =>
    if (⟨.filesystem, ns, name⟩ : Asset) = .defaultClaim then
      match r with
      | .ok (some claim) => .saw (Filesystem.isOwned claim)
      | _ => .saw false
    else .other
  | _, _ => .other

/-- What the answers so far say about assets. -/
structure Ledger where
  /-- The assets that were created and not removed since. -/
  held : List Asset := []
  /-- All assets that were created. -/
  made : List Asset := []
  /-- All assets that were removed. -/
  gone : List Asset := []
  /-- The containers that were created in storage accounts and not removed with them since, the
  last one first. -/
  containers : List (String × String) := []
  /-- Whether the default claim was recognised as the operator's and not removed since. -/
  claimed : Bool := false
  /-- Whether the next look at the default claim may recognise it: nobody was known to own the
  storage when the operation began. -/
  reclaiming : Bool := false
  deriving Repr, DecidableEq, Inhabited

namespace Ledger

/-- Writes down a deed. -/
def record (l : Ledger) : Deed → Ledger
  | .created x => { l with held := x :: l.held, made := x :: l.made }
  | .removed x =>
    { l with
      held := l.held.filter (· ≠ x)
      gone := x :: l.gone
      containers := l.containers.filter fun c => Asset.of .azure c.1 ≠ x
      claimed := l.claimed && x ≠ .defaultClaim }
  | .contained account container => { l with containers := (account, container) :: l.containers }
  | .saw owned => { l with claimed := l.claimed || l.reclaiming && owned, reclaiming := false }
  | .other => l

/-- The ledger after a trace. -/
def after (l : Ledger) (es : Trace World) : Ledger :=
  es.foldl (fun l e => l.record (World.deed e.call e.answer)) l

/-- The assets that the operator may touch: those it created, and the default claim if it was
recognised. -/
def Owns (l : Ledger) (x : Asset) : Prop :=
  x ∈ l.held ∨ x = .defaultClaim ∧ l.claimed

/-- An operation touches only assets that it owns. -/
def contract : Contract World Ledger where
  permits l c := ∀ x, c.Touches x → l.Owns x
  step l c r l' := l' = l.record (World.deed c r)

/-- The ledger after a trace is the state that the contract keeps. -/
theorem path_iff (l l' : Ledger) (es : Trace World) :
    contract.Path l es l' ↔ l' = l.after es :=
  Contract.path_tracking l l' es

/-- What every deed preserves, a trace preserves. -/
lemma after_induction {P : Ledger → Prop} (h : ∀ l d, P l → P (l.record d)) {l : Ledger}
    (hl : P l) (es : Trace World) : P (l.after es) := by
  induction es generalizing l with
  | nil => exact hl
  | cons e es ih => exact ih (h l _ hl)

/-- What was created once stays written down. -/
lemma mem_made_after {l : Ledger} {x : Asset} (hx : x ∈ l.made) (es : Trace World) :
    x ∈ (l.after es).made := by
  refine after_induction (P := fun l => x ∈ l.made) ?_ hx es
  intro l d hx
  cases d with
  | created y => exact List.mem_cons_of_mem y hx
  | _ => exact hx

/-- Only what was created is held. -/
lemma held_subset_made_after {l : Ledger} (h : l.held ⊆ l.made) (es : Trace World) :
    (l.after es).held ⊆ (l.after es).made := by
  refine after_induction (P := fun l => l.held ⊆ l.made) ?_ h es
  intro l d h
  cases d with
  | created y => exact List.cons_subset_cons y h
  | removed y => exact fun x hx => h (List.mem_filter.1 hx).1
  | _ => exact h

/-- What is held stays so until it is removed.

**Proof sketch.** By induction on the deeds, of which only a removal takes away, and that writes
down what it took. -/
lemma held_or_gone_after {l : Ledger} {x : Asset} (hx : x ∈ l.held ∨ x ∈ l.gone)
    (es : Trace World) : x ∈ (l.after es).held ∨ x ∈ (l.after es).gone := by
  refine after_induction (P := fun l => x ∈ l.held ∨ x ∈ l.gone) ?_ hx es
  intro l d hx
  cases d with
  | created y => exact hx.imp_left (List.mem_cons_of_mem y)
  | removed y =>
    by_cases hxy : x = y
    · exact .inr (hxy ▸ List.mem_cons_self)
    · refine hx.imp (fun hx => ?_) (List.mem_cons_of_mem y)
      exact List.mem_filter.2 ⟨hx, decide_eq_true hxy⟩
  | _ => exact hx

/-- An asset is removed by a call that touches it. -/
lemma touches_of_removed {c : World.Call} {r : World.Answer c} {x : Asset}
    (h : World.deed c r = .removed x) : c.Touches x := by
  unfold World.deed at h
  split at h
  case h_1 | h_3 | h_5 | h_7 => exact (Deed.ofCreation_ne_removed _ _ _ h).elim
  case h_2 | h_4 | h_6 | h_8 | h_11 => exact Deed.eq_of_ofDeletion h
  case h_12 =>
    split at h
    · split at h <;> cases h
    · cases h
  all_goals cases h

/-- What was removed during a trace was touched there.

**Proof sketch.** By induction on the trace. Either the first event removes the asset, and a call
removes only what it touches, or the asset is removed by one of the others. -/
lemma touched_of_mem_gone {l : Ledger} {x : Asset} {es : Trace World}
    (hx : x ∈ (l.after es).gone) (hl : x ∉ l.gone) : ∃ e ∈ es, e.call.Touches x := by
  induction es generalizing l with
  | nil => exact absurd hx hl
  | cons e es ih =>
    by_cases he : x ∈ (l.record (World.deed e.call e.answer)).gone
    · refine ⟨e, List.mem_cons_self, touches_of_removed (r := e.answer) ?_⟩
      cases hd : World.deed e.call e.answer with
      | removed y =>
        rw [hd] at he
        exact congrArg Deed.removed ((List.mem_cons.1 he).resolve_right hl).symm
      | _ =>
        rw [hd] at he
        exact absurd he hl
    · obtain ⟨f, hf, hx⟩ := ih hx he
      exact ⟨f, List.mem_cons_of_mem e hf, hx⟩

/-- The default claim is recognised only at a look that may do so.

**Proof sketch.** By induction on the deeds: a look that may not recognise the claim leaves it so,
and no deed lets later looks recognise it. -/
lemma not_claimed_after {l : Ledger} (hl : l.claimed = false) (hr : l.reclaiming = false)
    (es : Trace World) : (l.after es).claimed = false := by
  refine (after_induction (P := fun l => l.claimed = false ∧ l.reclaiming = false) ?_
    ⟨hl, hr⟩ es).1
  rintro l d ⟨hl, hr⟩
  cases d with
  | saw owned => exact ⟨by simp [record, hl, hr], rfl⟩
  | removed y => exact ⟨by simp [record, hl], hr⟩
  | _ => exact ⟨hl, hr⟩

/-- Two ledgers that agree on all that was created and removed. -/
structure SameHistory (l l' : Ledger) : Prop where
  /-- The same assets were created. -/
  made : l'.made = l.made
  /-- The same assets were removed. -/
  gone : l'.gone = l.gone

/-- Ledgers with the same history have the same history after another deed. -/
lemma SameHistory.record {l l' : Ledger} (h : SameHistory l l') (d : Deed) :
    SameHistory (l.record d) (l'.record d) := by
  cases d with
  | created y => exact ⟨congrArg (y :: ·) h.made, h.gone⟩
  | removed y => exact ⟨h.made, congrArg (y :: ·) h.gone⟩
  | _ => exact ⟨h.made, h.gone⟩

/-- Ledgers with the same history keep it over the same answers. -/
lemma SameHistory.after {l l' : Ledger} (h : SameHistory l l') (es : Trace World) :
    SameHistory (l.after es) (l'.after es) := by
  induction es generalizing l l' with
  | nil => exact h
  | cons e es ih => exact ih (h.record _)

/-- What the lifecycle of a backend's resources does to the ledger. -/
def effects (b : Backend) : Lifecycle.Effects Ledger where
  owns l name := l.Owns (.of b name)
  created name l := l.record (.created (.of b name))
  deleted name l := l.record (.removed (.of b name))

/-- What the lifecycle of the containers in a storage account does to the ledger: they are
created, and go with the account. -/
def containerEffects (account : String) : Lifecycle.Effects Ledger where
  owns _ _ := False
  created name l := l.record (.contained account name)
  deleted _ l := l

end Ledger

end Depot
