import Depot.Gcs.Bucket
import Depot.Proofs.Completion
import Depot.Proofs.Lifecycle

set_option autoImplicit false

/-!
# Settings, one by one

The settings of a resource are applied one after the other, whether the ones before could be applied
or not. Each has a condition of its own, which later observations leave as it is, and all that
could not be applied are reported together.

## Main definitions

* `Lifecycle.applying` — the contract of settings that turn out as given. Nothing is done to a
  resource of someone else.
* `Lifecycle.Says`, `Lifecycle.Reports` — what the condition of a setting says.
* `Lifecycle.refusals` — the records of the settings that could not be applied.
* `Lifecycle.Hardened` — what applying the settings does, records and reports.

## Main results

* `Lifecycle.ends_applySteps_independently` — some settings, one after the other.
* `Lifecycle.hardens_independently` — all settings of a resource.
-/

namespace Depot.Lifecycle

open Resource

variable {s t u : Subject} {results : Hardening → Except Error String} {name : String}
  {steps : List Hardening} {step : Hardening}

/-! ## Settings and what they report -/

/-- The contract of settings that turn out as given, which are noted. Nothing is done unless the
operator owns the resource and it has a name. -/
def applying (s : Subject) (results : Hardening → Except Error String) :
    Contract Resource.interface (List Hardening) where
  permits _ c := s.status.ownership = some .managed ∧ s.name ≠ "" ∧
    match c with
    | .harden name _ => name = s.name
    | .time => True
    | _ => False
  step g c x g' :=
    match c with
    | .harden _ step => x = results step ∧ g' = g ++ [step]
    | .time => g' = g
    | _ => False

/-- What may be asked can be answered. -/
lemma applying_answers (g : List Hardening) (c : Resource.Call)
    (hc : (applying s results).permits g c) : ∃ x g', (applying s results).step g c x g' := by
  obtain ⟨-, -, hc⟩ := hc
  cases c with
  | harden name step => exact ⟨results step, g ++ [step], rfl, rfl⟩
  | time => exact ⟨(default : Timestamp), g, rfl⟩
  | _ => exact hc.elim

/-- What a condition says about a setting, given how the setting turned out. -/
def Says (c : Condition) : Except Error String → Prop
  | .ok message => c.status = .holds ∧ c.reason = Condition.Reason.applied ∧ c.message = message
  | .error e => c.status = .fails ∧ c.reason = Condition.Reason.failed ∧ c.message = e.message

/-- The condition of a setting says how the setting turned out. -/
def Reports (status : Status) (step : Hardening) (x : Except Error String) : Prop :=
  ∃ c, status.condition? step.condition = some c ∧ Says c x

/-- The condition of a setting that was applied holds, and no other does. -/
lemma Reports.holds_iff {status : Status} {x : Except Error String}
    (h : Reports status step x) :
    (∃ c, status.condition? step.condition = some c ∧ c.status = .holds) ↔
      ∃ message, x = .ok message := by
  obtain ⟨c, hc, htold⟩ := h
  rw [hc]
  cases x with
  | ok message => exact iff_of_true ⟨c, rfl, htold.1⟩ ⟨message, rfl⟩
  | error e =>
    refine iff_of_false ?_ fun hok => nomatch hok
    rintro ⟨_, ⟨⟩, hholds⟩
    cases htold.1.symm.trans hholds

/-- The record of a setting that could not be applied. -/
def refusal? (results : Hardening → Except Error String) (name : String) (step : Hardening) :
    Option Failure :=
  match results step with
  | .ok _ => none
  | .error e => some (Failure.ofError step.name name e)

/-- The records of the settings that could not be applied. -/
def refusals (results : Hardening → Except Error String) (name : String)
    (steps : List Hardening) : List Failure :=
  steps.filterMap (refusal? results name)

/-- Only the conditions of some settings were observed, and each says how the setting turned out. -/
structure Observed (results : Hardening → Except Error String) (steps : List Hardening)
    (s t : Subject) : Prop where
  /-- Name, owner and applied configuration are the same. -/
  alike : Alike s t
  /-- Each setting is reported. -/
  reports : ∀ step ∈ steps, Reports t.status step (results step)
  /-- Conditions among which there are none of a setting are the same. -/
  kept : ∀ p : Condition → Bool, (∀ c, c.kind ∈ steps.map Hardening.condition → ¬ p c) →
    t.status.conditions.filter p = s.status.conditions.filter p

/-- The condition of another kind is the same. -/
lemma Observed.condition?_eq (h : Observed results steps s t) {kind : Condition.Kind}
    (hkind : kind ∉ steps.map Hardening.condition) :
    t.status.condition? kind = s.status.condition? kind :=
  Condition.find?_congr (h.kept _ fun _ hc heq => hkind (of_decide_eq_true heq ▸ hc))

/-- Before the first step nothing is observed. -/
lemma Observed.refl (s : Subject) : Observed results [] s s :=
  ⟨.refl s, List.forall_mem_nil _, fun _ _ => rfl⟩

/-- One setting and then others, which have other conditions. -/
lemma Observed.cons (hkind : step.condition ∉ steps.map Hardening.condition)
    (h : Observed results [step] s t) (h' : Observed results steps t u) :
    Observed results (step :: steps) s u where
  alike := h.alike.trans h'.alike
  reports := by
    refine List.forall_mem_cons.2 ⟨?_, h'.reports⟩
    rw [Reports, h'.condition?_eq hkind]
    exact h.reports step List.mem_cons_self
  kept p hp := by
    rw [h'.kept p fun c hc => hp c (List.mem_cons_of_mem _ hc)]
    refine h.kept p fun c hc => hp c ?_
    rw [List.mem_singleton.1 hc]
    exact List.mem_cons_self

/-- A setting was observed. -/
lemma observed_record {status : Condition.Status} {reason message : String} {now : Timestamp}
    (h : ∀ c : Condition, c.status = status ∧ c.reason = reason ∧ c.message = message →
      Says c (results step)) :
    Observed results [step] s
      { s with status := s.status.record step.condition status reason message now } where
  alike := .record ..
  reports := by
    refine List.forall_mem_singleton.2 ?_
    exact Status.condition?_record.imp fun c hc => ⟨hc.1, h c hc.2⟩
  kept p hp := Condition.filter_upsert fun c hc => hp c (List.mem_singleton.2 hc)

/-! ## One after the other -/

/-- An observation is recorded, and what follows. -/
lemma ends_noted {kind : Condition.Kind} {status : Condition.Status} {reason message : String}
    {α : Type} {a : Step α} {g : List Hardening}
    {Q : Except Error α → Subject → List Hardening → Prop}
    (howned : s.status.ownership = some .managed ∧ s.name ≠ "")
    (h : ∀ time, Action.Ends (applying s results) a
      { t with status := t.status.record kind status reason message time } g Q) :
    Action.Ends (applying s results) (record kind status reason message >>= fun _ => a) t g Q := by
  refine Action.ends_bind.2 (Action.ends_call ⟨howned.1, howned.2, trivial⟩ ?_)
  rintro time _ rfl
  exact h time

/-- **Some settings, one after the other**: each is tried once, in order, whether the ones before
could be applied or not.

**Proof sketch.** Induction on the settings. What is recorded about the first one is not changed by
the others, which have other conditions (`Observed.cons`). -/
theorem ends_applySteps_independently
    (howned : s.status.ownership = some .managed ∧ s.name ≠ "")
    (hkinds : (steps.map Hardening.condition).Nodup) (g : List Hardening) (t : Subject) :
    Action.Ends (applying s results) (applySteps s.name steps) t g fun r u g' =>
      r = .ok (refusals results s.name steps) ∧ Observed results steps t u ∧ g' = g ++ steps := by
  induction steps generalizing t g with
  | nil => exact ⟨rfl, .refl t, (List.append_nil g).symm⟩
  | cons step rest ih =>
    obtain ⟨hkind, hrest⟩ := List.nodup_cons.1 hkinds
    rw [applySteps]
    refine Action.ends_call ⟨howned.1, howned.2, rfl⟩ ?_
    rintro x _ ⟨hx, rfl⟩
    have hx : x = results step := hx
    have hnone (h : refusal? results s.name step = none) :
        refusals results s.name (step :: rest) = refusals results s.name rest :=
      List.filterMap_cons_none h
    have hsome {f : Failure} (h : refusal? results s.name step = some f) :
        refusals results s.name (step :: rest) = f :: refusals results s.name rest :=
      List.filterMap_cons_some h
    rw [refusal?, ← hx] at hnone hsome
    cases x with
    | ok message =>
      refine ends_noted howned fun time => (ih hrest _ _).mono ?_
      rintro _ u _ ⟨rfl, hobserved, rfl⟩
      have hfirst : Observed results [step] t
          ⟨t.name, t.status.record step.condition .holds Condition.Reason.applied message time⟩ :=
        observed_record fun c hc => hx ▸ hc
      exact ⟨by rw [hnone rfl], hfirst.cons hkind hobserved, List.append_assoc ..⟩
    | error e =>
      refine ends_noted howned fun time => Action.ends_bind.2 ((ih hrest _ _).mono ?_)
      rintro _ u _ ⟨rfl, hobserved, rfl⟩
      have hfirst : Observed results [step] t
          ⟨t.name, t.status.record step.condition .fails Condition.Reason.failed e.message time⟩ :=
        observed_record fun c hc => hx ▸ hc
      exact ⟨by rw [hsome rfl], hfirst.cons hkind hobserved, List.append_assoc ..⟩

/-! ## All settings -/

/-- No step is listed as refused exactly if every step succeeds. -/
lemma refusals_eq_nil_iff :
    refusals results name steps = [] ↔ ∀ step ∈ steps, ∃ message, results step = .ok message := by
  rw [refusals, List.filterMap_eq_nil_iff]
  refine forall₂_congr fun step _ => ?_
  rw [refusal?]
  cases results step with
  | ok message => exact iff_of_true rfl ⟨message, rfl⟩
  | error e => exact iff_of_false (fun h => nomatch h) (fun h => nomatch h)

/-- What is listed as refused is the failure of some step. -/
lemma mem_refusals {f : Failure} : f ∈ refusals results name steps ↔
    ∃ step ∈ steps, ∃ e, results step = .error e ∧ f = Failure.ofError step.name name e := by
  rw [refusals, List.mem_filterMap]
  refine exists_congr fun step => and_congr_right fun _ => ?_
  rw [refusal?]
  cases results step with
  | ok message => exact iff_of_false (fun h => nomatch h) (fun ⟨_, h, _⟩ => nomatch h)
  | error e => simp [eq_comm]

/-- Another attempt is worth it if it is for one of the settings that could not be applied. -/
lemma isRetryable_refusals : (Error.aggregate (refusals results name steps)).isRetryable ↔
    ∃ step ∈ steps, ∃ e, results step = .error e ∧ e.isRetryable := by
  rw [Error.isRetryable_aggregate]
  constructor
  · rintro ⟨f, hf, hretryable⟩
    obtain ⟨step, hstep, e, he, rfl⟩ := mem_refusals.1 hf
    exact ⟨step, hstep, e, he, hretryable⟩
  · rintro ⟨step, hstep, e, he, hretryable⟩
    exact ⟨_, mem_refusals.2 ⟨step, hstep, e, he, rfl⟩, hretryable⟩

/-- No setting is about whether the resource exists. -/
lemma storageExists_notMem : Condition.Kind.storageExists ∉ steps.map Hardening.condition := by
  intro hmem
  obtain ⟨step, -, hstep⟩ := List.mem_map.1 hmem
  cases step <;> cases hstep

/-- What applying the settings of a resource of the operator does, records and reports. -/
structure Hardened (k : Kind) (results : Hardening → Except Error String) (s : Subject)
    (r : Except Error Unit) (t : Subject) (tried : List Hardening) : Prop where
  /-- Each setting is tried once, in order. -/
  once : tried = k.hardening
  /-- The condition of each setting says how the setting turned out. -/
  reports : ∀ step ∈ k.hardening, Reports t.status step (results step)
  /-- It holds if the setting was applied, and only then. -/
  holds_iff : ∀ step ∈ k.hardening,
    (∃ c, t.status.condition? step.condition = some c ∧ c.status = .holds) ↔
      ∃ message, results step = .ok message
  /-- Name, owner and applied configuration are the same. -/
  alike : Alike s t
  /-- Whether the resource exists is reported as before. -/
  existence : t.status.condition? .storageExists = s.status.condition? .storageExists
  /-- The conditions that are not about a setting are the same. -/
  others : t.status.conditions.filter (·.kind ∉ k.hardening.map Hardening.condition) =
    s.status.conditions.filter (·.kind ∉ k.hardening.map Hardening.condition)
  /-- The settings succeed if all of them were applied. -/
  ok_iff : r = .ok () ↔ ∀ step ∈ k.hardening, ∃ message, results step = .ok message
  /-- Otherwise those are reported that were not, in order. -/
  error_eq : ∀ e, r = .error e → e = .aggregate (refusals results s.name k.hardening)
  /-- Another attempt is worth it if it is for one of them. -/
  retryable_iff : ∀ e, r = .error e →
    (e.isRetryable ↔ ∃ step ∈ k.hardening, ∃ f, results step = .error f ∧ f.isRetryable)
  /-- A setting of several parts is worth another attempt if one of the parts is. -/
  nested_iff : ∀ step ∈ k.hardening, ∀ failures, results step = .error (.aggregate failures) →
    ((∃ f, results step = .error f ∧ f.isRetryable) ↔ ∃ f ∈ failures, f.retryable)

/-- A resource on which all steps were observed is hardened as the result tells.

**Proof sketch.** What was observed step by step are the reports of the result; whether it is an
error, and one that is worth another attempt, is read off the list of refusals. -/
lemma Observed.hardened {k : Kind} (h : Observed results k.hardening s t) :
    Hardened k results s (Error.ofFailures (refusals results s.name k.hardening)) t
      k.hardening := by
  have herror {e : Error} (he : Error.ofFailures (refusals results s.name k.hardening) = .error e) :
      e = .aggregate (refusals results s.name k.hardening) := by
    have hne : Error.ofFailures (refusals results s.name k.hardening) ≠ .ok () :=
      fun hok => nomatch he.symm.trans hok
    exact Except.error.inj (he.symm.trans (Error.ofFailures_of_ne hne))
  refine ⟨rfl, h.reports, fun step hstep => (h.reports step hstep).holds_iff, h.alike,
    h.condition?_eq storageExists_notMem, ?_, ?_, fun e => herror, ?_, ?_⟩
  · exact h.kept _ fun c hc hnot => of_decide_eq_true hnot hc
  · rw [Error.ofFailures_eq_ok, refusals_eq_nil_iff]
  · intro e he
    rw [herror he, isRetryable_refusals]
  · intro step _ failures hfailed
    rw [← Error.isRetryable_aggregate]
    constructor
    · rintro ⟨f, hf, hretryable⟩
      rwa [← Except.error.inj (hf.symm.trans hfailed)]
    · exact fun hretryable => ⟨_, hfailed, hretryable⟩

/-- **The settings of a resource** are each tried once, in order, whether the ones before could be
applied or not, if the operator owns the resource. Each is reported in its own condition, no other
condition is touched, and all that could not be applied are reported together. Nothing is asked or
changed for a resource of someone else.

**Proof sketch.** The settings are applied one after the other
(`ends_applySteps_independently`). What each of them leaves is in its own condition, so that it is
still there in the end, and the conditions of other kinds are the same (`Observed`). The records of
what could not be applied keep whether another attempt is worth it (`isRetryable_refusals`). -/
theorem hardens_independently (k : Kind)
    (hkinds : (k.hardening.map Hardening.condition).Nodup) (s : Subject)
    (results : Hardening → Except Error String) :
    Action.Ends (applying s results) (applyHardening k) s [] fun r t tried =>
      (¬ (s.status.ownership = some .managed ∧ s.name ≠ "") → r = .ok () ∧ t = s ∧ tried = []) ∧
      (s.status.ownership = some .managed ∧ s.name ≠ "" → Hardened k results s r t tried) := by
  refine Action.gives_get.ends_bind ?_
  split
  · rename_i hidle
    have hidle := Status.idle_iff.1 hidle
    refine ⟨fun _ => ⟨rfl, rfl, rfl⟩, fun howned => ?_⟩
    exact (hidle.elim (absurd howned.1) howned.2).elim
  · rename_i howned
    have howned := Status.owned_of_not_idle howned
    refine Action.ends_bind.2 ((ends_applySteps_independently howned hkinds [] s).mono ?_)
    rintro _ t _ ⟨rfl, hobserved, rfl⟩
    exact ⟨fun hnot => absurd howned hnot, fun _ => hobserved.hardened⟩

/-- All settings can be applied but for the tags, of which one cannot be bound now. -/
def halfTagged : Hardening → Except Error String
  | .tag => .error (.aggregate [⟨"bind-tag", "a", "forbidden", false⟩,
      ⟨"bind-tag", "b", "throttled", true⟩])
  | step => .ok step.name

/-- Without the tags the bucket is encrypted all the same, and another attempt is worth it. -/
theorem hardens_independently_halfTagged :
    (Gcs.bucketKind.hardening.map Hardening.condition).Nodup ∧
    Action.May (applying ⟨"images", { ownership := some .managed }⟩ halfTagged)
      (applyHardening Gcs.bucketKind) ⟨"images", { ownership := some .managed }⟩ []
      fun r t tried => tried = [.blockPublicAccess, .tag, .encrypt] ∧
        (∃ e, r = .error e ∧ e.isRetryable) ∧ Reports t.status .tag (halfTagged .tag) ∧
        Reports t.status .encrypt (.ok "encrypt") := by
  have hends := hardens_independently Gcs.bucketKind (by decide)
    ⟨"images", { ownership := some .managed }⟩ halfTagged
  refine ⟨by decide, (hends.may_of_answers applying_answers).mono ?_⟩
  rintro r t tried ⟨-, hhardened⟩
  have hhardened := hhardened ⟨rfl, by decide⟩
  have htag : Hardening.tag ∈ Gcs.bucketKind.hardening := by decide
  refine ⟨hhardened.once, ?_, hhardened.reports _ htag, hhardened.reports .encrypt (by decide)⟩
  cases r with
  | ok =>
    obtain ⟨message, hok⟩ := hhardened.ok_iff.1 rfl .tag htag
    cases hok
  | error e =>
    refine ⟨e, rfl, (hhardened.retryable_iff e rfl).2 ⟨.tag, htag, ?_⟩⟩
    exact (hhardened.nested_iff .tag htag _ rfl).2
      ⟨_, List.mem_cons_of_mem _ List.mem_cons_self, rfl⟩

end Depot.Lifecycle
