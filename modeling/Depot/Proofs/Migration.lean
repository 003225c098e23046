import Depot.Migration
import Depot.Proofs.Contract

set_option autoImplicit false

/-!
# Moving blobs loses no data

Blobs are moved by copying all of them and then deleting those that are known to be copied. A
container is modelled by what its blobs contain, and by copies that go on in it and may be completed
at any time. What a blob contained before a run is stored after it, under the old name or the new
one, unless the new name is that of another blob that is moved.

## Main definitions

* `Migration.Container` — the contents of blobs, and copies that go on.
* `Migration.contract` — how a container answers.
* `Migration.IsListed` — a blob is to be moved.
* `Migration.honest` — how a container answers that tells the truth about what it does not find.
* `Migration.Preserved` — what was stored is stored under the old name or the new one.

## Main results

* `Migration.Move.keeps_moveAll` — a run preserves what it moves if no new name is in its way.
* `Migration.Move.may_moveAll` — a run may move everything.
* `Migration.run_preserves_iff` — when every run preserves what it moves.
-/

namespace Depot.Migration

/-! ## Names -/

/-- What follows a start is what it has to be joined with.

**Proof sketch.** By induction on the start, character by character. -/
lemma afterStart?_eq_some {start cs rest : List Char} :
    afterStart? start cs = some rest ↔ cs = start ++ rest := by
  induction start generalizing cs with
  | nil => simp [afterStart?]
  | cons s start ih =>
    cases cs with
    | nil => simp [afterStart?]
    | cons c cs =>
      rw [afterStart?]
      split
      · rename_i h
        rw [ih, h, List.cons_append, List.cons.injEq, and_iff_right rfl]
      · rename_i h
        simp [Ne.symm h]

/-- Whether a name starts with another. -/
def IsUnder (source name : String) : Prop := (afterStart? source.toList name.toList).isSome

instance (source name : String) : Decidable (IsUnder source name) :=
  inferInstanceAs (Decidable (_ = true))

/-- **Blobs that are moved get different names.** -/
lemma targetName_injective {source dest a b : String} (ha : IsUnder source a)
    (hb : IsUnder source b) (h : targetName a source dest = targetName b source dest) : a = b := by
  obtain ⟨r, hr⟩ := Option.isSome_iff_exists.1 ha
  obtain ⟨r', hr'⟩ := Option.isSome_iff_exists.1 hb
  have hrest : r = r' := by
    have h := congrArg String.toList h
    simpa [targetName, hr, hr'] using h
  refine String.toList_inj.1 ?_
  rw [afterStart?_eq_some.1 hr, afterStart?_eq_some.1 hr', hrest]

/-! ## Containers -/

/-- A copy that goes on. -/
structure Copying (α : Type) where
  /-- The blob that is copied. -/
  source : String
  /-- The name of the copy. -/
  target : String
  /-- What the blob contained when the copy began. -/
  content : α

/-- The contents of blobs, and the copies that go on. -/
structure Container (α : Type) where
  /-- What is stored. -/
  blobs : Dict α
  /-- The copies that go on. -/
  running : List (Copying α) := []
  /-- The names under which copies were completed. -/
  landed : List String := []

variable {α : Type}

namespace Container

/-- A copy to a name begins anew: others to that name end. -/
def restart (g : Container α) (target : String) : Container α :=
  { g with
    running := g.running.filter (·.target ≠ target)
    landed := g.landed.filter (· ≠ target) }

/-- A copy begins. -/
def begin (g : Container α) (source target : String) (content : α) : Container α :=
  let g := g.restart target
  { g with running := ⟨source, target, content⟩ :: g.running }

/-- A copy is complete. -/
def land (g : Container α) (target : String) (content : α) : Container α :=
  let g := g.restart target
  { g with blobs := g.blobs.insert target content, landed := target :: g.landed }

/-- Some copies that go on are completed. What is written is what the blob contained when the copy
began, or what it contains now. -/
inductive Lands : Container α → Container α → Prop where
  /-- None is. -/
  | none (g : Container α) : Lands g g
  /-- One is, and then others are. -/
  | one {g h : Container α} {c : Copying α} {content : α} :
    c ∈ g.running → content = c.content ∨ g.blobs.get? c.source = some content →
    Lands (g.land c.target content) h → Lands g h

end Container

/-- A blob is to be moved. -/
def IsListed (blobs : Dict α) (source name : String) : Prop :=
  (blobs.get? name).isSome ∧ IsUnder source name

instance (blobs : Dict α) (source name : String) : Decidable (IsListed blobs source name) :=
  inferInstanceAs (Decidable (_ ∧ _))

/-- How a container answers. What fails has no effect. -/
def Answers (g : Container α) : (c : Call) → interface.Answer c → Container α → Prop
  | .list start, .ok names, h => h = g ∧ ∀ name, name ∈ names ↔ IsListed g.blobs start name
  | .startCopy source target, .ok .success, h =>
    ∃ content, g.blobs.get? source = some content ∧ h = g.land target content
  | .startCopy source target, .ok .pending, h =>
    ∃ content, g.blobs.get? source = some content ∧ h = g.begin source target content
  | .copyState target, .ok .success, h => target ∈ g.landed ∧ h = g
  | .copyState target, .ok (.failed _), h | .copyState target, .ok (.aborted _), h =>
    h = g.restart target
  | .delete name, .ok (), h => h = { g with blobs := g.blobs.erase name }
  | _, _, h => h = g

/-- Copies go on between the calls. -/
def contract (α : Type) : Contract interface (Container α) where
  permits _ _ := True
  step g c x h := ∃ g', g.Lands g' ∧ Answers g' c x h

/-- What an answer says about the container is true: a blob that is not found is not there. -/
def IsTrue : (c : Call) → interface.Answer c → Container α → Prop
  | .delete name, .error e, h => e.isNotFound → h.blobs.get? name = none
  | _, _, _ => True

/-- The same for a container that tells the truth about what it does not find. -/
def honest (α : Type) : Contract interface (Container α) where
  permits _ _ := True
  step g c x h := (contract α).step g c x h ∧ IsTrue c x h

/-! ## What was stored before -/

/-- A move of the blobs of a container. -/
structure Move (α : Type) where
  /-- How the old names start. -/
  source : String
  /-- How the new names start. -/
  dest : String
  /-- What was stored before. -/
  old : Dict α

namespace Move

variable (m : Move α)

/-- The new name of a blob. -/
def target (name : String) : String := targetName name m.source m.dest

/-- A blob is to be moved. -/
def Moves (name : String) : Prop := IsListed m.old m.source name

instance (name : String) : Decidable (m.Moves name) :=
  inferInstanceAs (Decidable (IsListed ..))

/-- No new name is that of a blob that is moved. -/
def IsClear : Prop := ∀ name, m.Moves name → ¬ m.Moves (m.target name)

/-- Only what is stored can be in the way. -/
lemma isClear_iff :
    m.IsClear ↔ ∀ name ∈ m.old.keys, m.Moves name → ¬ m.Moves (m.target name) :=
  ⟨fun h name _ => h name, fun h name hn => h name (Dict.mem_keys.2 hn.1) hn⟩

instance : Decidable m.IsClear := decidable_of_iff' _ m.isClear_iff

/-- What was stored before is stored under the old name or the new one. -/
def Preserved (blobs : Dict α) : Prop :=
  ∀ name content, m.Moves name → m.old.get? name = some content →
    blobs.get? name = some content ∨ blobs.get? (m.target name) = some content

/-- A blob is stored under its new name. -/
structure IsCopied (blobs : Dict α) (name : String) : Prop where
  /-- The blob is one that is moved. -/
  moves : m.Moves name
  /-- The copy has what was stored. -/
  copy : blobs.get? (m.target name) = m.old.get? name

/-- Nothing that is moved was lost. -/
structure Intact (g : Container α) : Prop where
  /-- Copies that go on are copies of what was stored. -/
  running : ∀ c ∈ g.running,
    m.Moves c.source ∧ c.target = m.target c.source ∧ m.old.get? c.source = some c.content
  /-- So are those that were completed. -/
  landed : ∀ t ∈ g.landed, ∃ name, t = m.target name ∧ m.IsCopied g.blobs name
  /-- What was stored is where it was, or was copied. -/
  stored : ∀ name, m.Moves name →
    g.blobs.get? name = m.old.get? name ∨ g.blobs.get? name = none ∧ m.IsCopied g.blobs name
  /-- What is neither an old name nor a new one is as it was. -/
  others : ∀ name, ¬ m.Moves name → (∀ other, m.Moves other → name ≠ m.target other) →
    g.blobs.get? name = m.old.get? name

/-- A step of a container after which nothing is lost, and what was done still is. -/
structure Grows (g h : Container α) : Prop where
  /-- Nothing is lost. -/
  intact : m.Intact h
  /-- What was copied still is. -/
  copied : ∀ name, m.IsCopied g.blobs name → m.IsCopied h.blobs name
  /-- What was deleted still is. -/
  gone : ∀ name, m.Moves name → g.blobs.get? name = none → h.blobs.get? name = none

variable {m} {g h k : Container α} {name : String} {content : α}

/-- Nothing is lost over two stretches if nothing is lost over either. -/
lemma Grows.trans (h₁ : m.Grows g h) (h₂ : m.Grows h k) : m.Grows g k :=
  ⟨h₂.intact, fun name hn => h₂.copied name (h₁.copied name hn),
    fun name hn hg => h₂.gone name hn (h₁.gone name hn hg)⟩

/-- In an intact container every content that was moved is stored under one of its two names. -/
lemma Intact.preserved (hg : m.Intact g) : m.Preserved g.blobs := by
  intro name content hn hc
  rcases hg.stored name hn with hs | ⟨-, hs⟩
  · exact .inl (hs.trans hc)
  · exact .inr (hs.copy.trans hc)

/-- A blob that is moved and is stored has what was stored before. -/
lemma Intact.content_eq (hg : m.Intact g) (hn : m.Moves name)
    (hc : g.blobs.get? name = some content) : m.old.get? name = some content := by
  rcases hg.stored name hn with hs | ⟨hs, -⟩
  · exact hs.symm.trans hc
  · rw [hs] at hc
    cases hc

/-- Before the run nothing is lost. -/
lemma intact_start : m.Intact { blobs := m.old } where
  running _ hc := nomatch hc
  landed _ ht := nomatch ht
  stored _ _ := .inl rfl
  others _ _ _ := rfl

/-- Without a step nothing is lost. -/
lemma Intact.grows (hg : m.Intact g) : m.Grows g g :=
  ⟨hg, fun _ hn => hn, fun _ _ hn => hn⟩

/-- When a copy begins anew, only what is known of copies to that name is forgotten. -/
lemma Intact.restart (hg : m.Intact g) (target : String) : m.Grows g (g.restart target) where
  intact :=
    { running := fun c hc => hg.running c (List.mem_filter.1 hc).1
      landed := fun t ht => hg.landed t (List.mem_filter.1 ht).1
      stored := hg.stored
      others := hg.others }
  copied _ hn := hn
  gone _ _ hn := hn

/-- A copy that begins loses nothing. -/
lemma Intact.begin (hg : m.Intact g) (hn : m.Moves name)
    (hc : m.old.get? name = some content) : m.Grows g (g.begin name (m.target name) content) := by
  obtain ⟨hrest, hcopied, hgone⟩ := hg.restart (m.target name)
  refine ⟨⟨?_, hrest.landed, hrest.stored, hrest.others⟩, hcopied, hgone⟩
  intro c hmem
  rcases List.mem_cons.1 hmem with rfl | hmem
  · exact ⟨hn, rfl, hc⟩
  · exact hrest.running c hmem

/-- **A complete copy of what was stored loses nothing** if no new name is in the way.

**Proof sketch.** The copy is stored under a name that is no old one, so what was stored or copied
under other names is as it was. A blob with the same new name is the same blob. -/
lemma Intact.land (hclear : m.IsClear) (hg : m.Intact g) (hn : m.Moves name)
    (hc : m.old.get? name = some content) :
    m.Grows g (g.land (m.target name) content) ∧
      m.IsCopied (g.land (m.target name) content).blobs name := by
  have hself : m.IsCopied (g.land (m.target name) content).blobs name :=
    ⟨hn, (Dict.get?_insert_self ..).trans hc.symm⟩
  have hcopied (other : String) (ho : m.IsCopied g.blobs other) :
      m.IsCopied (g.land (m.target name) content).blobs other := by
    by_cases heq : m.target other = m.target name
    · rw [targetName_injective ho.moves.2 hn.2 heq]
      exact hself
    · exact ⟨ho.moves, (Dict.get?_insert_of_ne _ _ heq).trans ho.copy⟩
  -- The copy does not overwrite another blob that is moved: no new name is in the way.
  have hkeep (other : String) (ho : m.Moves other) :
      (g.land (m.target name) content).blobs.get? other = g.blobs.get? other :=
    Dict.get?_insert_of_ne _ _ fun heq => hclear name hn (heq ▸ ho)
  have hrest := (hg.restart (m.target name)).intact
  refine ⟨⟨⟨hrest.running, ?_, ?_, ?_⟩, hcopied, ?_⟩, hself⟩
  · intro t ht
    rcases List.mem_cons.1 ht with rfl | ht
    · exact ⟨name, rfl, hself⟩
    · obtain ⟨other, ho, hother⟩ := hg.landed t (List.mem_filter.1 ht).1
      exact ⟨other, ho, hcopied other hother⟩
  · intro other ho
    rw [hkeep other ho]
    exact (hg.stored other ho).imp_right fun ⟨hs, hcopy⟩ => ⟨hs, hcopied other hcopy⟩
  · intro other ho hnew
    exact (Dict.get?_insert_of_ne _ _ (hnew name hn)).trans (hg.others other ho hnew)
  · intro other ho hgone
    exact (hkeep other ho).trans hgone

/-- **Deleting what was copied loses nothing** if no new name is in the way.

**Proof sketch.** The deleted name is an old one whose copy is there. No new name is the deleted
one, so all copies stay. -/
lemma Intact.erase (hclear : m.IsClear) (hg : m.Intact g) (hn : m.IsCopied g.blobs name) :
    m.Grows g { g with blobs := g.blobs.erase name } := by
  have hcopied (other : String) (ho : m.IsCopied g.blobs other) :
      m.IsCopied (g.blobs.erase name) other := by
    have hne : m.target other ≠ name := fun heq => hclear other ho.moves (heq ▸ hn.moves)
    exact ⟨ho.moves, (Dict.get?_erase_of_ne _ hne).trans ho.copy⟩
  refine ⟨⟨hg.running, ?_, ?_, ?_⟩, hcopied, ?_⟩
  · intro t ht
    obtain ⟨other, ho, hother⟩ := hg.landed t ht
    exact ⟨other, ho, hcopied other hother⟩
  · intro other ho
    by_cases heq : other = name
    · subst heq
      exact .inr ⟨Dict.get?_erase_self .., hcopied other hn⟩
    · rw [Dict.get?_erase_of_ne _ heq]
      exact (hg.stored other ho).imp_right fun ⟨hs, hcopy⟩ => ⟨hs, hcopied other hcopy⟩
  · intro other ho hnew
    have hne : other ≠ name := fun heq => ho (heq ▸ hn.moves)
    exact (Dict.get?_erase_of_ne _ hne).trans (hg.others other ho hnew)
  · intro other _ hgone
    by_cases heq : other = name
    · exact heq ▸ Dict.get?_erase_self ..
    · exact (Dict.get?_erase_of_ne _ heq).trans hgone

/-- Copies that are completed meanwhile lose nothing.

**Proof sketch.** By induction on the copies that are completed. One that is running was begun by a
run, so it has the content that is moved, and completing it is `Intact.land`. -/
lemma Intact.lands (hclear : m.IsClear) (hg : m.Intact g) (hl : g.Lands h) : m.Grows g h := by
  induction hl with
  | none g => exact hg.grows
  | @one g h c content hc hcontent _ ih =>
    obtain ⟨hn, ht, hold⟩ := hg.running c hc
    have hold : m.old.get? c.source = some content := by
      rcases hcontent with rfl | hnow
      · exact hold
      · exact hg.content_eq hn hnow
    rw [ht] at ih
    have hland := (hg.land hclear hn hold).1
    exact hland.trans (ih hland.intact)

/-! ## Runs -/

/-- What moving knows is true. -/
structure Knows (m : Move α) (p : Progress) (g : Container α) : Prop where
  /-- Nothing was lost. -/
  intact : m.Intact g
  /-- What is known to be copied is. -/
  copied : ∀ name ∈ p.copied, m.IsCopied g.blobs name
  /-- What is copied is what is moved. -/
  pending : ∀ e ∈ p.pending.entries, e.1 = m.target e.2 ∧ m.Moves e.2

variable {p : Progress}

/-- What is recorded stays true while nothing is lost. -/
lemma Knows.grows (hp : m.Knows p g) (hh : m.Grows g h) : m.Knows p h :=
  ⟨hh.intact, fun name hn => hh.copied name (hp.copied name hn), hp.pending⟩

/-- A blob is accounted for: it is known to be copied, it is being copied, or something failed. -/
def IsNoted (m : Move α) (p : Progress) (name : String) : Prop :=
  name ∈ p.copied ∨ m.target name ∈ p.pending.keys ∨ p.failures ≠ []

/-- A part of a run loses nothing, knows only what is true and forgets no blob. -/
structure Proceeds (m : Move α) (p : Progress) (g : Container α) (q : Progress)
    (h : Container α) : Prop where
  /-- Nothing is lost. -/
  grows : m.Grows g h
  /-- What is known is true. -/
  knows : m.Knows q h
  /-- What was accounted for still is. -/
  noted : ∀ name, m.IsNoted p name → m.IsNoted q name

/-- Two stretches of a run are one. -/
lemma Proceeds.trans {q r : Progress} (h₁ : m.Proceeds p g q h) (h₂ : m.Proceeds q h r k) :
    m.Proceeds p g r k :=
  ⟨h₁.grows.trans h₂.grows, h₂.knows, fun name hn => h₂.noted name (h₁.noted name hn)⟩

/-- A step of the container about which nothing is recorded. -/
lemma Knows.proceeds (hp : m.Knows p g) (hh : m.Grows g h) : m.Proceeds p g p h :=
  ⟨hh, hp.grows hh, fun _ hn => hn⟩

/-- Recording a failure accounts for all blobs. -/
lemma Knows.recordFailure (hp : m.Knows p g) (f : Failure) :
    m.Proceeds p g { p with failures := p.failures ++ [f] } g :=
  ⟨hp.intact.grows, ⟨hp.intact, hp.copied, hp.pending⟩, fun _ _ => .inr (.inr (by simp))⟩

/-- One more blob is known to be copied. -/
lemma Knows.recordCopied (hp : m.Knows p g) (hn : m.IsCopied g.blobs name) :
    m.Proceeds p g { p with copied := p.copied ++ [name] } g where
  grows := hp.intact.grows
  knows :=
    { intact := hp.intact
      copied := by
        intro other ho
        rcases List.mem_append.1 ho with ho | ho
        · exact hp.copied other ho
        · exact List.mem_singleton.1 ho ▸ hn
      pending := hp.pending }
  noted _ := .imp_left (List.mem_append_left _)

/-- One more blob is being copied. -/
lemma Knows.recordPending (hp : m.Knows p g) (hn : m.Moves name) :
    m.Proceeds p g { p with pending := p.pending.insert (m.target name) name } g where
  grows := hp.intact.grows
  knows :=
    { intact := hp.intact
      copied := hp.copied
      pending := by
        intro e he
        rcases Dict.mem_insertEntry he with rfl | he
        · exact ⟨rfl, hn⟩
        · exact hp.pending e he }
  noted _ := .imp_right (.imp_left fun hk => Dict.mem_keys_insert.2 (.inr hk))

/-- A call is answered after whatever copies were completed meanwhile. -/
lemma keeps_answered {c : Call} {Q : interface.Answer c → Container α → Prop} :
    (Prog.perform c).Keeps (contract α) g Q ↔
      ∀ g' x h, g.Lands g' → Answers g' c x h → Q x h := by
  constructor
  · rintro ⟨-, hq⟩ g' x h hl ha
    exact hq x h ⟨g', hl, ha⟩
  · intro hq
    refine ⟨trivial, ?_⟩
    rintro x h ⟨g', hl, ha⟩
    exact hq g' x h hl ha

/-- A step of moving goes on with any of these answers. -/
lemma keeps_ask {c : Call} {Q : Except Error (interface.Answer c) → Progress → Container α → Prop} :
    Action.Keeps (contract α) (ask c) p g Q ↔
      ∀ g' x h, g.Lands g' → Answers g' c x h → Q (.ok x) p h :=
  Action.keeps_perform.trans keeps_answered

/-- So does the listing, which fails if the answer is an error. -/
lemma keeps_list {start : String}
    {Q : Except Error (List String) → Progress → Container α → Prop} :
    Action.Keeps (contract α) (list start) p g Q ↔
      ∀ g' (x : Except Error (List String)) h, g.Lands g' → Answers g' (.list start) x h →
        Q x p h :=
  Action.keeps_attempt.trans keeps_answered

/-- A call that has no effect on the container. -/
lemma keeps_idle {c : Call} (hc : ∀ (g : Container α) x h, Answers g c x h → h = g)
    (hclear : m.IsClear) (hg : m.Intact g)
    {Q : Except Error (interface.Answer c) → Progress → Container α → Prop}
    (hQ : ∀ x h, m.Grows g h → Q (.ok x) p h) : Action.Keeps (contract α) (ask c) p g Q := by
  rw [keeps_ask]
  intro g' x h hl ha
  obtain rfl := hc g' x h ha
  exact hQ x h (hg.lands hclear hl)

/-- Moving may be cancelled at any time. -/
lemma keeps_checkCancelled (hclear : m.IsClear) (hg : m.Intact g) :
    Action.Keeps (contract α) checkCancelled p g fun _ p' h => p' = p ∧ m.Grows g h := by
  rw [checkCancelled, Action.keeps_bind]
  refine keeps_idle (c := .isCancelled) (fun _ _ _ h => h) hclear hg fun cancelled h hh => ?_
  dsimp only
  split
  · exact ⟨rfl, hh⟩
  · exact ⟨rfl, hh⟩

/-- Recording a failure accounts for a blob. -/
lemma keeps_recordFailure {operation : String} {e : Error} (hp : m.Knows p g) :
    Action.Keeps (contract α) (recordFailure operation name e) p g fun _ q h =>
      m.Proceeds p g q h ∧ m.IsNoted q name :=
  ⟨hp.recordFailure _, .inr (.inr (by simp))⟩

/-- Starting to copy a blob loses nothing, and accounts for it.

**Proof sketch.** Unless moving was cancelled, the copy is asked for, and each answer is recorded: a
failure, a copy that is there, or one that is running. -/
lemma keeps_copy (hclear : m.IsClear) (hn : m.Moves name) (hp : m.Knows p g) :
    Action.Keeps (contract α) (copy m.source m.dest name) p g fun r q h =>
      m.Proceeds p g q h ∧ (r.isOk → m.IsNoted q name) := by
  rw [copy, Action.keeps_bind]
  refine (keeps_checkCancelled hclear hp.intact).mono ?_
  rintro (e | _) q g' ⟨rfl, hg⟩
  · exact ⟨hp.proceeds hg, nofun⟩
  dsimp only
  rw [Action.keeps_bind, keeps_ask]
  intro g'' x h hl ha
  have hstep := hp.proceeds (hg.trans (hg.intact.lands hclear hl))
  have hp' := hstep.knows
  have hfailed (e : Error) (hh : h = g'') :
      Action.Keeps (contract α) (recordFailure "copy" name e) q h fun r q' k =>
        m.Proceeds q g q' k ∧ (r.isOk → m.IsNoted q' name) := by
    subst hh
    refine (keeps_recordFailure hp').mono ?_
    rintro r q' k ⟨hk, hnoted⟩
    exact ⟨hstep.trans hk, fun _ => hnoted⟩
  rcases x with e | _ | _ | reason | reason
  · exact hfailed e ha
  · obtain ⟨content, hc, rfl⟩ := ha
    obtain ⟨hgrows, hcopied⟩ := hp'.intact.land hclear hn (hp'.intact.content_eq hn hc)
    have hland := hp'.proceeds hgrows
    exact ⟨hstep.trans (hland.trans (hland.knows.recordCopied hcopied)), fun _ => .inl (by simp)⟩
  · obtain ⟨content, hc, rfl⟩ := ha
    have hbegin := hp'.proceeds (hp'.intact.begin hn (hp'.intact.content_eq hn hc))
    exact ⟨hstep.trans (hbegin.trans (hbegin.knows.recordPending hn)),
      fun _ => .inr (.inl (Dict.mem_keys_insert.2 (.inl rfl)))⟩
  · exact hfailed _ ha
  · exact hfailed _ ha

/-- Ending a wait or going on loses nothing. -/
lemma keeps_continueWait (s : Settings) (target : String) (deadline errors : Nat)
    (hclear : m.IsClear) (hg : m.Intact g) :
    Action.Keeps (contract α) (continueWait s target deadline errors) p g fun r p' h =>
      p' = p ∧ m.Grows g h ∧ ∀ o, r = .ok o → o.isLeft := by
  rw [continueWait, Action.keeps_bind]
  refine keeps_idle (c := .now) (fun _ _ _ h => h) hclear hg fun now h hh => ?_
  dsimp only
  split
  · exact ⟨rfl, hh, nofun⟩
  · exact ⟨rfl, hh, fun o ho => Except.ok.inj ho ▸ rfl⟩

/-- A look at a copy loses nothing, and says truly that the copy is complete.

**Proof sketch.** The pause changes nothing. Then one case per answer: a copy that failed or was
aborted is no longer running, and only an answer that it is complete ends the wait well. -/
lemma keeps_look (s : Settings) (target : String) (deadline errors : Nat)
    (hclear : m.IsClear) (hg : m.Intact g) :
    Action.Keeps (contract α) (look s target deadline errors) p g fun r p' h =>
      p' = p ∧ m.Grows g h ∧ (r = .ok (.inr ()) → target ∈ h.landed) := by
  have hwait (errors : Nat) {h : Container α} (hh : m.Grows g h) :
      Action.Keeps (contract α) (continueWait s target deadline errors) p h fun r p' k =>
        p' = p ∧ m.Grows g k ∧ (r = .ok (.inr ()) → target ∈ k.landed) := by
    refine (keeps_continueWait s target deadline errors hclear hh.intact).mono ?_
    rintro r p' k ⟨rfl, hk, hr⟩
    exact ⟨rfl, hh.trans hk, fun ho => nomatch hr _ ho⟩
  rw [look, Action.keeps_bind]
  refine keeps_idle (c := .pause _) (fun _ _ _ h => h) hclear hg fun cancelled h hh => ?_
  dsimp only
  split
  · exact ⟨rfl, hh, nofun⟩
  rw [Action.keeps_bind, keeps_ask]
  intro g' x k hl ha
  have hg' := hh.trans (hh.intact.lands hclear hl)
  rcases x with e | _ | _ | reason | reason
  · obtain rfl : k = g' := ha
    dsimp only
    split
    · exact ⟨rfl, hg', nofun⟩
    · exact hwait _ hg'
  · obtain ⟨hlanded, rfl⟩ := ha
    exact ⟨rfl, hg', fun _ => hlanded⟩
  · obtain rfl : k = g' := ha
    exact hwait _ hg'
  · obtain rfl : k = g'.restart target := ha
    exact ⟨rfl, hg'.trans (hg'.intact.restart target), nofun⟩
  · obtain rfl : k = g'.restart target := ha
    exact ⟨rfl, hg'.trans (hg'.intact.restart target), nofun⟩

/-- Waiting for a copy loses nothing, and ends well only if the copy is complete.

**Proof sketch.** The invariant of the loop is that nothing was lost since the wait began. -/
lemma keeps_awaitCopy (s : Settings) (target : String) (hclear : m.IsClear) (hg : m.Intact g) :
    Action.Keeps (contract α) (awaitCopy s target) p g fun r p' h =>
      p' = p ∧ m.Grows g h ∧ (r = .ok () → target ∈ h.landed) := by
  rw [awaitCopy, Action.keeps_bind]
  refine keeps_idle (c := .now) (fun _ _ _ h => h) hclear hg fun now h hh => ?_
  refine Action.keeps_loop (fun _ p' h => p' = p ∧ m.Grows g h) ⟨rfl, hh⟩ ?_
  rintro errors p' h ⟨rfl, hh⟩
  refine (keeps_look s target _ errors hclear hh.intact).mono ?_
  rintro (e | _ | _) p' k ⟨rfl, hk, hlanded⟩
  · exact ⟨rfl, hh.trans hk, nofun⟩
  · exact ⟨rfl, hh.trans hk⟩
  · exact ⟨rfl, hh.trans hk, fun _ => hlanded rfl⟩

/-- A blob whose copy is not awaited any more is accounted for. -/
def IsSettled (p : Progress) (name : String) : Prop := name ∈ p.copied ∨ p.failures ≠ []

/-- Settling a copy loses nothing, and accounts for its blob.

**Proof sketch.** The outcome of the wait is recorded. A copy that is complete belongs to this blob,
as new names are injective. -/
lemma keeps_settle (s : Settings) (hclear : m.IsClear) (hn : m.Moves name) (hp : m.Knows p g) :
    Action.Keeps (contract α) (settle s (m.target name) name) p g fun r q h =>
      m.Proceeds p g q h ∧
        (r.isOk → IsSettled q name ∧ ∀ other, IsSettled p other → IsSettled q other) := by
  rw [settle, Action.keeps_bind, Action.keeps_outcome]
  refine (keeps_awaitCopy s (m.target name) hclear hp.intact).mono ?_
  rintro r q h ⟨rfl, hh, hlanded⟩
  have hstep := hp.proceeds hh
  dsimp only
  split
  · -- No other blob has this new name, so the copy that is complete is the one of this blob.
    obtain ⟨other, heq, hcopied⟩ := hh.intact.landed _ (hlanded rfl)
    obtain rfl := targetName_injective hn.2 hcopied.moves.2 heq
    exact ⟨hstep.trans (hstep.knows.recordCopied hcopied),
      fun _ => ⟨.inl (by simp), fun _ => .imp_left (List.mem_append_left _)⟩⟩
  · exact ⟨hstep, nofun⟩
  · exact ⟨hstep.trans (hstep.knows.recordFailure _),
      fun _ => ⟨.inr (by simp), fun _ _ => .inr (by simp)⟩⟩

/-- Deleting what was copied loses nothing.

**Proof sketch.** Unless moving was cancelled, the one call takes the old name away or leaves the
container. -/
lemma keeps_delete (hclear : m.IsClear) (hn : m.IsCopied g.blobs name) (hg : m.Intact g) :
    Action.Keeps (contract α) (delete name) p g fun _ _ h => m.Grows g h := by
  rw [delete, Action.keeps_bind]
  refine (keeps_checkCancelled hclear hg).mono ?_
  rintro (e | _) p g' ⟨rfl, hg'⟩
  · exact hg'
  dsimp only
  rw [Action.keeps_bind, keeps_ask]
  intro g'' x h hl ha
  have hgrows := hg'.trans (hg'.intact.lands hclear hl)
  rcases x with e | _
  · obtain rfl : h = g'' := ha
    dsimp only
    split
    · exact hgrows
    · exact hgrows
  · obtain rfl : h = { g'' with blobs := g''.blobs.erase name } := ha
    exact hgrows.trans (hgrows.intact.erase hclear (hgrows.copied name hn))

/-- With no copies that go on, none are completed meanwhile. -/
lemma eq_of_lands (hg : g.running = []) (hl : g.Lands h) : h = g := by
  cases hl with
  | none => rfl
  | one hc _ _ =>
    rw [hg] at hc
    cases hc

/-- At the start of a run nothing is known. -/
lemma Intact.knows (hg : m.Intact g) : m.Knows {} g := ⟨hg, nofun, nofun⟩

/-- A run loses nothing that is moved if no new name is in the way, and if what it lists is to be
moved.

**Proof sketch.** Phase by phase: the listing gives names that are moved, and each of the three
loops keeps an invariant, `Knows` for the copies and the waits, and that the copied ones are copied
for the deletions. -/
lemma keeps_moveAll_from (s : Settings) (hclear : m.IsClear) (hg : m.Intact g)
    (hlisted : ∀ h, g.Lands h → ∀ name, IsListed h.blobs m.source name → m.Moves name) :
    Action.Keeps (contract α) (moveAll s m.source m.dest) {} g fun _ _ h => m.Intact h := by
  rw [moveAll]
  split
  · exact hg
  rw [Action.keeps_bind, keeps_list]
  intro g' x h hl ha
  have hg' := (hg.lands hclear hl).intact
  rcases x with e | names
  · obtain rfl : h = g' := ha
    exact hg'
  obtain ⟨rfl, hnames⟩ := ha
  dsimp only
  rw [Action.keeps_bind]
  refine (Action.keeps_forM ?_ hg'.knows).mono ?_
  · intro name hname p g hp
    have hn : m.Moves name := hlisted h hl name ((hnames name).1 hname)
    exact (keeps_copy hclear hn hp).mono fun _ _ _ hq => hq.1.knows
  rintro (e | _) p g hp
  · exact hp.intact
  dsimp only
  rw [Action.keeps_bind, Action.keeps_get]
  dsimp only
  rw [Action.keeps_bind]
  refine (Action.keeps_forM ?_ hp).mono ?_
  · rintro ⟨target, name⟩ he p' g hp'
    obtain ⟨htarget, hn⟩ : target = m.target name ∧ m.Moves name := hp.pending _ he
    rw [htarget]
    exact (keeps_settle s hclear hn hp').mono fun _ _ _ hq => hq.1.knows
  rintro (e | _) p g hp
  · exact hp.intact
  dsimp only
  rw [Action.keeps_bind, Action.keeps_get]
  dsimp only
  rw [Action.keeps_bind]
  refine (Action.keeps_forM (P := fun _ h => m.Intact h ∧
    ∀ name ∈ p.copied, m.IsCopied h.blobs name) ?_ ⟨hp.intact, hp.copied⟩).mono ?_
  · rintro name hname p' g ⟨hg, hcopied⟩
    refine (keeps_delete hclear (hcopied name hname) hg).mono ?_
    rintro _ _ h hh
    exact ⟨hh.intact, fun other ho => hh.copied other (hcopied other ho)⟩
  rintro (e | _) p g ⟨hg, -⟩
  · exact hg
  · exact hg

/-- **A run loses nothing that is moved** if no new name is in the way, whether it fails or not. -/
theorem keeps_moveAll (s : Settings) (hclear : m.IsClear) :
    Action.Keeps (contract α) (moveAll s m.source m.dest) {} { blobs := m.old } fun _ _ h =>
      m.Intact h := by
  refine keeps_moveAll_from s hclear intact_start ?_
  -- No copy goes on yet, so what is listed is what was stored before.
  intro h hl name hn
  obtain rfl := eq_of_lands rfl hl
  exact hn

/-! ## A run that moves everything -/

/-- A true answer that is possible may be given. -/
lemma may_ask {c : Call} {Q : Except Error (interface.Answer c) → Progress → Container α → Prop}
    {x : interface.Answer c} (ha : Answers g c x h) (ht : IsTrue c x h) (hQ : Q (.ok x) p h) :
    Action.May (honest α) (ask c) p g Q := by
  rw [ask, Action.may_perform]
  exact Prog.may_perform.2 ⟨x, h, ⟨⟨g, .none g, ha⟩, ht⟩, hQ⟩

/-- Moving need not be cancelled. -/
lemma may_checkCancelled :
    Action.May (honest α) checkCancelled p g fun r p' h => r = .ok () ∧ p' = p ∧ h = g := by
  refine Action.may_bind.2 (may_ask (c := .isCancelled) (x := false) rfl trivial ?_)
  exact Action.may_pure.2 ⟨rfl, rfl, rfl⟩

/-- All copies may be complete at once.

**Proof sketch.** By induction on the names: the cloud answers that the copy is complete, which
leaves the other names stored. -/
lemma may_copies (source dest : String) (names : List String) (p : Progress) (g : Container α)
    (hnames : ∀ name ∈ names, (g.blobs.get? name).isSome) :
    Action.May (honest α) (names.forM (copy source dest)) p g fun r p' _ =>
      r = .ok () ∧ p' = { p with copied := p.copied ++ names } := by
  induction names generalizing p g with
  | nil => exact Action.may_pure.2 ⟨rfl, by rw [List.append_nil]⟩
  | cons name names ih =>
    obtain ⟨content, hc⟩ := Option.isSome_iff_exists.1 (hnames name List.mem_cons_self)
    have hrest : ∀ other ∈ names,
        ((g.land (targetName name source dest) content).blobs.get? other).isSome := by
      intro other ho
      by_cases heq : other = targetName name source dest
      · subst heq
        exact Option.isSome_iff_exists.2 ⟨content, Dict.get?_insert_self ..⟩
      · rw [Container.land, Dict.get?_insert_of_ne _ _ heq]
        exact hnames other (List.mem_cons_of_mem name ho)
    have hcopy : Action.May (honest α) (copy source dest name) p g fun r p' h =>
        r = .ok () ∧ p' = { p with copied := p.copied ++ [name] } ∧
          h = g.land (targetName name source dest) content := by
      refine Action.may_bind.2 (may_checkCancelled.mono ?_)
      rintro _ _ _ ⟨rfl, rfl, rfl⟩
      refine Action.may_bind.2 ?_
      refine may_ask (c := .startCopy _ _) (x := .ok .success) ⟨content, hc, rfl⟩ trivial ?_
      exact Action.may_modify.2 ⟨rfl, rfl, rfl⟩
    rw [List.forM, Action.may_bind]
    refine hcopy.mono ?_
    rintro _ _ _ ⟨rfl, rfl, rfl⟩
    refine (ih _ _ hrest).mono ?_
    rintro _ _ _ ⟨rfl, rfl⟩
    exact ⟨rfl, by rw [List.append_assoc]; rfl⟩

/-- All that was copied may be deleted.

**Proof sketch.** By induction on the names: the cloud answers that the blob is deleted. -/
lemma may_deletes (names : List String) (p : Progress) (g : Container α) :
    Action.May (honest α) (names.forM delete) p g fun r p' h =>
      r = .ok () ∧ p'.failures = p.failures ∧
        ∀ name, name ∈ names ∨ g.blobs.get? name = none → h.blobs.get? name = none := by
  induction names generalizing p g with
  | nil => exact Action.may_pure.2 ⟨rfl, rfl, fun name hn => hn.resolve_left List.not_mem_nil⟩
  | cons name names ih =>
    have hdelete : Action.May (honest α) (delete name) p g fun r p' h =>
        r = .ok () ∧ p'.failures = p.failures ∧ h = { g with blobs := g.blobs.erase name } := by
      refine Action.may_bind.2 (may_checkCancelled.mono ?_)
      rintro _ _ _ ⟨rfl, rfl, rfl⟩
      refine Action.may_bind.2 ?_
      refine may_ask (c := .delete name) (x := .ok ()) rfl trivial ?_
      exact Action.may_modify.2 ⟨rfl, rfl, rfl⟩
    rw [List.forM, Action.may_bind]
    refine hdelete.mono ?_
    rintro _ p' _ ⟨rfl, hp', rfl⟩
    refine (ih p' _).mono ?_
    rintro _ _ h ⟨rfl, hq, hh⟩
    refine ⟨rfl, hq.trans hp', fun other ho => hh other ?_⟩
    by_cases heq : other = name
    · exact .inr (heq ▸ Dict.get?_erase_self ..)
    · rw [Dict.get?_erase_of_ne _ heq]
      exact ho.imp_left fun hmem => (List.mem_cons.1 hmem).resolve_left heq

/-- A container may list what is to be moved. -/
lemma may_list (start : String) :
    Action.May (honest α) (list start) p g fun r p' h =>
      ∃ names, r = .ok names ∧ (∀ name, name ∈ names ↔ IsListed g.blobs start name) ∧
        p' = p ∧ h = g := by
  have hnames (name : String) :
      name ∈ g.blobs.keys.filter (IsUnder start ·) ↔ IsListed g.blobs start name := by
    rw [List.mem_filter, Dict.mem_keys, decide_eq_true_iff, IsListed]
  refine Prog.may_bind.2 (Prog.may_perform.2 ⟨.ok _, g, ⟨⟨g, .none g, rfl, hnames⟩, trivial⟩, ?_⟩)
  exact Prog.may_pure.2 ⟨_, rfl, hnames, rfl, rfl⟩

/-- **A run may move everything**, and then nothing is stored under an old name.

**Proof sketch.** The listing, all copies and all deletions succeed one phase after another, with no
copy to wait for. -/
theorem may_moveAll (s : Settings) {source dest : String} (hne : source ≠ dest)
    (g : Container α) :
    Action.May (honest α) (moveAll s source dest) {} g fun r _ h =>
      (∃ report, r = .ok report ∧ report.failures = []) ∧
        ∀ name, IsListed g.blobs source name → h.blobs.get? name = none := by
  rw [moveAll, if_neg hne]
  refine Action.may_bind.2 ((may_list source).mono ?_)
  rintro _ _ g ⟨names, rfl, hnames, rfl, rfl⟩
  have hstored : ∀ name ∈ names, (g.blobs.get? name).isSome := fun name hn => ((hnames name).1 hn).1
  refine Action.may_bind.2 ((may_copies source dest names {} _ hstored).mono ?_)
  rintro _ _ g ⟨rfl, rfl⟩
  refine Action.may_bind.2 (Action.may_get.2 ?_)
  refine Action.may_bind.2 (Action.may_pure.2 ?_)
  refine Action.may_bind.2 (Action.may_get.2 ?_)
  refine Action.may_bind.2 ((may_deletes names _ g).mono ?_)
  rintro _ p h ⟨rfl, hp, hgone⟩
  refine Action.may_bind.2 (Action.may_get.2 ?_)
  exact Action.may_pure.2 ⟨⟨_, rfl, hp⟩, fun name hn => hgone name (.inl ((hnames name).2 hn))⟩

end Move

/-- What happens with a container that tells the truth may happen with any. -/
lemma path_of_honest {g h : Container α} {es : Trace interface}
    (hp : (honest α).Path g es h) : (contract α).Path g es h := by
  induction es generalizing g with
  | nil => exact hp
  | cons e es ih =>
    obtain ⟨k, hk, hp⟩ := hp
    exact ⟨k, hk.1, ih hp⟩

/-! ## Main results -/

/-- A run of moving that ends with a report. -/
def Reports (s : Settings) (m : Move α) (h : Container α) : Prop :=
  ∃ es report, (run s m.source m.dest).Runs es (.ok report) ∧
    (contract α).Path { blobs := m.old } es h

/-- A new name that is in the way may lose data.

**Proof sketch.** In the run of `may_moveAll` both the old name and the new one, which is an old one
too, are deleted. -/
lemma exists_reports_not_preserved (s : Settings) {m : Move α} (hne : m.source ≠ m.dest)
    (name : String) (hn : m.Moves name) (hname : m.Moves (m.target name)) :
    ∃ h, Reports s m h ∧ ¬ m.Preserved h.blobs := by
  obtain ⟨es, ⟨r, p⟩, h, hr, hp, ⟨report, rfl, -⟩, hgone⟩ :=
    Move.may_moveAll s hne { blobs := m.old }
  refine ⟨h, ⟨es, report, ?_, path_of_honest hp⟩, ?_⟩
  · exact (Prog.runs_bind ..).2 ⟨es, [], _, (List.append_nil es).symm, hr, rfl, rfl⟩
  · intro hpreserved
    obtain ⟨content, hc⟩ := Option.isSome_iff_exists.1 hn.1
    rcases hpreserved name content hn hc with h' | h'
    · rw [hgone name hn] at h'
      cases h'
    · rw [hgone _ hname] at h'
      cases h'

/-- **When every run preserves what it moves.** Take any container and any two different beginnings
of names. All runs that end with a report, with copies that take any time and copies and deletions
that fail, preserve what each blob that is moved contained, under the old name or the new one, if
and only if no new name is the name of a blob that is moved.

**Proof sketch.** If no new name is in the way, nothing is lost at any time
(`Move.keeps_moveAll`): what is copied is what was stored before, and what is deleted was copied. If
one is, a run in which nothing fails deletes the copy as well (`Move.may_moveAll`). -/
theorem run_preserves_iff (s : Settings) {m : Move α} (hne : m.source ≠ m.dest) :
    (∀ h, Reports s m h → m.Preserved h.blobs) ↔ m.IsClear := by
  constructor
  · intro hall name hn hname
    obtain ⟨h, hh, hlost⟩ := exists_reports_not_preserved s hne name hn hname
    exact hlost (hall h hh)
  · rintro hclear h ⟨es, report, hr, hp⟩
    have hkeeps := (Move.keeps_moveAll (m := m) s hclear)
    have hrun : (run s m.source m.dest).Keeps (contract α) { blobs := m.old } fun _ h =>
        m.Intact h := Prog.keeps_bind.2 hkeeps
    exact (hrun.of_runs hr hp).preserved

/-- A move between beginnings that have nothing in common. -/
def apart : Move Nat := ⟨"docker", "/docker", .ofList [("docker/a", 1), ("docker/b", 2)]⟩

/-- A move to names that start with the old beginning. -/
def nested : Move Nat := ⟨"a/", "a/a/", .ofList [("a/x", 1), ("a/a/x", 2)]⟩

/-- Nothing is lost between beginnings that have nothing in common. -/
theorem run_preserves_apart :
    apart.IsClear ∧ ∀ h, Reports {} apart h → apart.Preserved h.blobs := by
  have hclear : apart.IsClear := by decide +kernel
  exact ⟨hclear, (run_preserves_iff {} (m := apart) (by decide)).2 hclear⟩

/-- A blob may be lost if its new name is that of another. -/
theorem run_loses_nested : ∃ h, Reports {} nested h ∧ ¬ nested.Preserved h.blobs :=
  exists_reports_not_preserved {} (by decide) "a/x" (by decide +kernel) (by decide +kernel)

end Depot.Migration
