import Depot.Proofs.Migration

set_option autoImplicit false

/-!
# Moving blobs again

A run of moving may fail, may be cancelled, and may report blobs that were not moved; then it is
repeated. Each run starts anew from what is stored, where by then some blobs are copied, some are
deleted as well, and copies of earlier runs may still go on. If no new name starts like the old
ones, runs in any number that end in any way, followed by one that reports no failure, leave what a
single run without failures leaves.

## Main definitions

* `Migration.IsApart` — no new name starts like the old ones.
* `Migration.Move.After` — a container after any number of runs.
* `Migration.Move.Finishes` — a run that reports no failure.
* `Migration.Move.IsDone` — everything is moved, and nothing else was touched.

## Main results

* `Migration.Move.After.intact` — no run loses anything.
* `Migration.Move.keeps_moveAll_done` — a run that reports no failure leaves no old name.
* `Migration.reruns_converge` — all runs together do what one run does.

## Design

What is stored between two runs is described by `Move.Intact`, which holds whenever a run is left.
That a later run lists only what is to be moved follows from its last part: under the old beginning
there is nothing but old names.
-/

namespace Depot.Migration

variable {α : Type}

/-! ## Names -/

/-- No new name starts like the old ones. -/
def IsApart (source dest : String) : Prop := ∀ suffix, ¬ IsUnder source (dest ++ suffix)

/-- No new name is under the old prefix if the two are apart. -/
lemma IsApart.not_isUnder_targetName {source dest : String} (ha : IsApart source dest)
    (name : String) : ¬ IsUnder source (targetName name source dest) := by
  rw [targetName]
  split
  · exact ha _
  · exact ha _

/-- Prefixes that are apart differ. -/
lemma IsApart.ne {source dest : String} (ha : IsApart source dest) : source ≠ dest := by
  rintro rfl
  refine ha "" (Option.isSome_iff_exists.2 ⟨[], afterStart?_eq_some.2 ?_⟩)
  rw [String.append_empty, List.append_nil]

namespace Move

variable {m : Move α} {g h : Container α} {p : Progress}

/-- No new name is in the way if the prefixes are apart. -/
lemma isClear_of_isApart (ha : IsApart m.source m.dest) : m.IsClear :=
  fun name _ hn => ha.not_isUnder_targetName name hn.2

/-- An old name is no new one. -/
lemma ne_target (ha : IsApart m.source m.dest) {name : String} (hn : IsUnder m.source name)
    (other : String) : name ≠ m.target other := by
  rintro rfl
  exact ha.not_isUnder_targetName other hn

/-! ## What one run may rely on -/

/-- Under the old beginning there is nothing but old names. -/
lemma Intact.moves_of_isListed (ha : IsApart m.source m.dest) (hg : m.Intact g) {name : String}
    (hn : IsListed g.blobs m.source name) : m.Moves name := by
  by_cases hmoves : m.Moves name
  · exact hmoves
  · have hsame := hg.others name hmoves fun other _ => ne_target ha hn.2 other
    exact ⟨hsame ▸ hn.1, hn.2⟩

/-- Runs in any number, with settings of their own, that end in any way. -/
inductive After (m : Move α) : Container α → Prop where
  /-- No run yet. -/
  | start : m.After { blobs := m.old }
  /-- One more run. -/
  | run {g h : Container α} {s : Settings} {es : Trace interface} {r : Except Error Report} :
    m.After g → (run s m.source m.dest).Runs es r → (contract α).Path g es h → m.After h

/-- **No run loses anything**, however it ends. -/
theorem After.intact (ha : IsApart m.source m.dest) (hg : m.After g) : m.Intact g := by
  induction hg with
  | start => exact intact_start
  | @run g h s es r _ hr hp ih =>
    have hkeeps : (Migration.run s m.source m.dest).Keeps (contract α) g fun _ h => m.Intact h :=
      Prog.keeps_bind.2 (keeps_moveAll_from s (isClear_of_isApart ha) ih fun _ hl _ hn =>
        (ih.lands (isClear_of_isApart ha) hl).intact.moves_of_isListed ha hn)
    exact hkeeps.of_runs hr hp

/-! ## A run that reports no failure -/

/-- Every blob that is to be moved is gone from its old name, or something is true of it. -/
def Leaves (m : Move α) (g : Container α) (P : String → Prop) : Prop :=
  ∀ name, m.Moves name → g.blobs.get? name = none ∨ P name

/-- What is left to be done does not become more while nothing is lost. -/
lemma Leaves.grows {P Q : String → Prop} (hl : m.Leaves g P) (hg : m.Grows g h)
    (hPQ : ∀ name, m.Moves name → P name → Q name) : m.Leaves h Q :=
  fun name hn => (hl name hn).imp (hg.gone name hn) (hPQ name hn)

/-- With a container that tells the truth as with any. -/
lemma keeps_honest {β : Type} {a : Moving β} {Q : Except Error β → Progress → Container α → Prop}
    (h : Action.Keeps (contract α) a p g Q) : Action.Keeps (honest α) a p g Q :=
  Prog.Keeps.restrict (K := contract α) (L := honest α) (fun _ _ h => h) (fun _ _ _ _ h => h.1) h

/-- An honest answer is a possible one that is true. -/
lemma keeps_ask_honest {c : Call}
    {Q : Except Error (interface.Answer c) → Progress → Container α → Prop} :
    Action.Keeps (honest α) (ask c) p g Q ↔
      ∀ g' x h, g.Lands g' → Answers g' c x h → IsTrue c x h → Q (.ok x) p h := by
  rw [ask, Action.keeps_perform]
  constructor
  · rintro ⟨-, hq⟩ g' x h hl ha ht
    exact hq x h ⟨⟨g', hl, ha⟩, ht⟩
  · intro hq
    refine ⟨trivial, ?_⟩
    rintro x h ⟨⟨g', hl, ha⟩, ht⟩
    exact hq g' x h hl ha ht

/-- Each turn over a list leaves one blob less. -/
lemma leaves_rest {g h : Container α} {x : String} {xs : List String} {P Q : String → Prop}
    (hl : m.Leaves g fun name => name ∈ x :: xs ∨ P name) (hg : m.Grows g h) (hx : Q x)
    (hPQ : ∀ name, P name → Q name) : m.Leaves h fun name => name ∈ xs ∨ Q name := by
  refine hl.grows hg fun name _ hname => ?_
  rcases hname with hname | hname
  · rcases List.mem_cons.1 hname with rfl | hname
    · exact .inr hx
    · exact .inl hname
  · exact .inr (hPQ name hname)

/-- After the first phase every blob is accounted for.

**Proof sketch.** The invariant over what is left of the list: a name that is still stored is left
or noted. A copy takes its name from what is left and notes it. -/
lemma keeps_copies_noted (hclear : m.IsClear) {names : List String}
    (hnames : ∀ name ∈ names, m.Moves name) (hp : m.Knows p g)
    (hl : m.Leaves g fun name => name ∈ names ∨ m.IsNoted p name) :
    Action.Keeps (honest α) (names.forM (copy m.source m.dest)) p g fun r q h =>
      r.isOk → m.Knows q h ∧ m.Leaves h (m.IsNoted q) := by
  refine (Action.keeps_forM_rest (P := fun rest q h => (∀ name ∈ rest, m.Moves name) ∧
    m.Knows q h ∧ m.Leaves h fun name => name ∈ rest ∨ m.IsNoted q name) ?_
    ⟨hnames, hp, hl⟩).mono ?_
  · rintro name rest q h ⟨hmoves, hq, hl⟩
    obtain ⟨hn, hrest⟩ := List.forall_mem_cons.1 hmoves
    refine keeps_honest ((keeps_copy hclear hn hq).mono ?_)
    rintro r q' k ⟨hstep, hnoted⟩ hr
    exact ⟨hrest, hstep.knows, leaves_rest hl hstep.grows (hnoted hr) hstep.noted⟩
  · intro r q h hq hr
    obtain ⟨-, hq, hl⟩ := hq hr
    exact ⟨hq, hl.grows hq.intact.grows fun _ _ hn => hn.resolve_left List.not_mem_nil⟩

/-- A blob whose copy goes on is one of those that are awaited. -/
lemma mem_entries_of_mem_keys (hp : m.Knows p g) {name : String} (hn : m.Moves name)
    (hk : m.target name ∈ p.pending.keys) : name ∈ p.pending.entries.map (·.2) := by
  obtain ⟨e, he, heq⟩ := List.mem_map.1 hk
  obtain ⟨htarget, hmoves⟩ := hp.pending e he
  exact List.mem_map.2 ⟨e, he, targetName_injective hmoves.2 hn.2 (htarget.symm.trans heq)⟩

/-- After the second phase no copy is awaited any more.

**Proof sketch.** The same invariant, over the copies that are awaited. -/
lemma keeps_settles_settled (s : Settings) (hclear : m.IsClear) {entries : List (String × String)}
    (hentries : ∀ e ∈ entries, e.1 = m.target e.2 ∧ m.Moves e.2) (hp : m.Knows p g)
    (hl : m.Leaves g fun name => name ∈ entries.map (·.2) ∨ IsSettled p name) :
    Action.Keeps (honest α) (entries.forM fun (target, name) => settle s target name) p g
      fun r q h => r.isOk → m.Knows q h ∧ m.Leaves h (IsSettled q) := by
  refine (Action.keeps_forM_rest (P := fun rest q h =>
    (∀ e ∈ rest, e.1 = m.target e.2 ∧ m.Moves e.2) ∧ m.Knows q h ∧
      m.Leaves h fun name => name ∈ rest.map (·.2) ∨ IsSettled q name) ?_
    ⟨hentries, hp, hl⟩).mono ?_
  · rintro ⟨target, name⟩ rest q h ⟨hmoves, hq, hl⟩
    obtain ⟨⟨htarget, hn⟩, hrest⟩ := List.forall_mem_cons.1 hmoves
    obtain rfl : target = m.target name := htarget
    refine keeps_honest ((keeps_settle s hclear hn hq).mono ?_)
    rintro r q' k ⟨hstep, hsettled⟩ hr
    obtain ⟨hself, hothers⟩ := hsettled hr
    exact ⟨hrest, hstep.knows, leaves_rest hl hstep.grows hself hothers⟩
  · intro r q h hq hr
    obtain ⟨-, hq, hl⟩ := hq hr
    exact ⟨hq, hl.grows hq.intact.grows fun _ _ hn => hn.resolve_left List.not_mem_nil⟩

/-- A blob is deleted, or a failure is recorded.

**Proof sketch.** One case per answer: the blob is gone, which an honest answer is true about, or a
failure is recorded. -/
lemma keeps_delete_gone (hclear : m.IsClear) {name : String} (hn : m.IsCopied g.blobs name)
    (hg : m.Intact g) :
    Action.Keeps (honest α) (delete name) p g fun r q h => r.isOk →
      m.Grows g h ∧ (h.blobs.get? name = none ∨ q.failures ≠ []) ∧
        (p.failures ≠ [] → q.failures ≠ []) := by
  rw [delete, Action.keeps_bind]
  refine (keeps_honest (keeps_checkCancelled hclear hg)).mono ?_
  rintro (e | _) q g' ⟨rfl, hg'⟩
  · rintro ⟨⟩
  dsimp only
  rw [Action.keeps_bind, keeps_ask_honest]
  intro g'' x h hl ha htrue
  have hgrows := hg'.trans (hg'.intact.lands hclear hl)
  rcases x with e | _
  · obtain rfl : h = g'' := ha
    dsimp only
    split
    · rename_i hgone
      exact fun _ => ⟨hgrows, .inl (htrue hgone), id⟩
    · exact fun _ => ⟨hgrows, .inr (by simp), fun _ => by simp⟩
  · obtain rfl : h = { g'' with blobs := g''.blobs.erase name } := ha
    exact fun _ => ⟨hgrows.trans (hgrows.intact.erase hclear (hgrows.copied name hn)),
      .inl (Dict.get?_erase_self ..), id⟩

/-- After the third phase every blob is deleted, or a failure is recorded.

**Proof sketch.** The same invariant, over the names to be deleted. Once a failure is recorded, it
stays recorded. -/
lemma keeps_deletes_gone (hclear : m.IsClear) {names : List String} (hg : m.Intact g)
    (hnames : ∀ name ∈ names, m.IsCopied g.blobs name)
    (hl : m.Leaves g fun name => name ∈ names ∨ p.failures ≠ []) :
    Action.Keeps (honest α) (names.forM delete) p g fun r q h =>
      r.isOk → m.Intact h ∧ m.Leaves h fun _ => q.failures ≠ [] := by
  refine (Action.keeps_forM_rest (P := fun rest q h => m.Intact h ∧
    (∀ name ∈ rest, m.IsCopied h.blobs name) ∧
      m.Leaves h fun name => name ∈ rest ∨ q.failures ≠ []) ?_ ⟨hg, hnames, hl⟩).mono ?_
  · rintro name rest q h ⟨hh, hcopied, hl⟩
    obtain ⟨hn, hrest⟩ := List.forall_mem_cons.1 hcopied
    refine (keeps_delete_gone hclear hn hh).mono ?_
    intro r q' k hk hr
    obtain ⟨hgrows, hgone, hfailures⟩ := hk hr
    refine ⟨hgrows.intact, fun other ho => hgrows.copied other (hrest other ho), ?_⟩
    rcases hgone with hgone | hgone
    · intro other ho
      by_cases heq : other = name
      · exact .inl (heq ▸ hgone)
      · refine (hl.grows hgrows fun _ _ h => h) other ho |>.imp_right (.imp ?_ hfailures)
        exact fun hmem => (List.mem_cons.1 hmem).resolve_left heq
    · exact leaves_rest hl hgrows hgone fun _ => hfailures
  · intro r q h hq hr
    obtain ⟨hh, -, hl⟩ := hq hr
    exact ⟨hh, hl.grows hh.grows fun _ _ hn => hn.resolve_left List.not_mem_nil⟩

/-- **A run that reports no failure leaves no old name**, whatever earlier runs left.

**Proof sketch.** The three phases are chained: what is listed is noted, what is noted is settled,
and what is settled without a failure is copied and thus deleted. Without failures nothing else is
left. -/
theorem keeps_moveAll_done (s : Settings) (ha : IsApart m.source m.dest) (hg : m.Intact g) :
    Action.Keeps (honest α) (moveAll s m.source m.dest) {} g fun r _ h =>
      ∀ report, r = .ok report → report.failures = [] →
        m.Intact h ∧ ∀ name, m.Moves name → h.blobs.get? name = none := by
  have hclear := isClear_of_isApart ha
  rw [moveAll, if_neg ha.ne, Action.keeps_bind]
  refine keeps_honest (keeps_list.2 ?_)
  intro g' x h hl hanswer
  have hg' := (hg.lands hclear hl).intact
  rcases x with e | names
  · rintro _ ⟨⟩
  obtain ⟨rfl, hnames⟩ := hanswer
  dsimp only
  rw [Action.keeps_bind]
  -- What is to be moved is listed, unless an earlier run deleted it.
  have hlisted : m.Leaves h fun name => name ∈ names ∨ m.IsNoted {} name := by
    intro name hn
    cases hc : h.blobs.get? name with
    | none => exact .inl rfl
    | some content => exact .inr (.inl ((hnames name).2 ⟨by rw [hc]; rfl, hn.2⟩))
  have hmoves : ∀ name ∈ names, m.Moves name := fun name hn =>
    hg'.moves_of_isListed ha ((hnames name).1 hn)
  refine (keeps_copies_noted hclear hmoves hg'.knows hlisted).mono ?_
  rintro (e | _) p g hcopied
  · rintro _ ⟨⟩
  obtain ⟨hp, hl⟩ := hcopied rfl
  dsimp only
  rw [Action.keeps_bind, Action.keeps_get]
  dsimp only
  rw [Action.keeps_bind]
  have hawaited : m.Leaves g fun name =>
      name ∈ p.pending.entries.map (·.2) ∨ IsSettled p name := by
    refine hl.grows hp.intact.grows fun name hn hnoted => ?_
    rcases hnoted with hnoted | hnoted | hnoted
    · exact .inr (.inl hnoted)
    · exact .inl (mem_entries_of_mem_keys hp hn hnoted)
    · exact .inr (.inr hnoted)
  refine (keeps_settles_settled s hclear hp.pending hp hawaited).mono ?_
  rintro (e | _) p g hsettled
  · rintro _ ⟨⟩
  obtain ⟨hp, hl⟩ := hsettled rfl
  dsimp only
  rw [Action.keeps_bind, Action.keeps_get]
  dsimp only
  rw [Action.keeps_bind]
  refine (keeps_deletes_gone hclear hp.intact hp.copied hl).mono ?_
  rintro (e | _) p g hdeleted
  · rintro _ ⟨⟩
  obtain ⟨hg, hl⟩ := hdeleted rfl
  rintro report hreport hnone
  obtain rfl := Except.ok.inj hreport
  exact ⟨hg, fun name hn => (hl name hn).resolve_right fun hf => hf hnone⟩

/-! ## What all runs leave -/

/-- A run that reports no failure, of a container that tells the truth about what it does not
find. -/
def Finishes (m : Move α) (s : Settings) (g h : Container α) : Prop :=
  ∃ es report, (Migration.run s m.source m.dest).Runs es (.ok report) ∧ report.failures = [] ∧
    (honest α).Path g es h

/-- Everything is moved, and nothing else was touched. -/
structure IsDone (m : Move α) (blobs : Dict α) : Prop where
  /-- What was stored under the old names is stored under the new ones. -/
  moved : ∀ name, m.Moves name → blobs.get? (m.target name) = m.old.get? name
  /-- No name starts like the old ones. -/
  emptied : ∀ name, IsUnder m.source name → blobs.get? name = none
  /-- What is neither an old name nor a new one is as it was. -/
  others : ∀ name, ¬ IsUnder m.source name → (∀ other, m.Moves other → name ≠ m.target other) →
    blobs.get? name = m.old.get? name

/-- There is only one way in which everything is moved. -/
lemma IsDone.unique {a b : Dict α} (ha : m.IsDone a) (hb : m.IsDone b) : a = b := by
  refine Dict.ext_get? fun name => ?_
  by_cases hu : IsUnder m.source name
  · rw [ha.emptied name hu, hb.emptied name hu]
  · by_cases hnew : ∃ other, m.Moves other ∧ name = m.target other
    · obtain ⟨other, ho, rfl⟩ := hnew
      rw [ha.moved other ho, hb.moved other ho]
    · have hne : ∀ other, m.Moves other → name ≠ m.target other :=
        fun other ho heq => hnew ⟨other, ho, heq⟩
      rw [ha.others name hu hne, hb.others name hu hne]

/-- If nothing was lost and no old name is left, everything is moved.

**Proof sketch.** An old name is gone, so its content is where the copy is; a name under the old
prefix is one that is moved. -/
lemma Intact.isDone (ha : IsApart m.source m.dest) (hg : m.Intact g)
    (hgone : ∀ name, m.Moves name → g.blobs.get? name = none) : m.IsDone g.blobs where
  moved name hn := by
    rcases hg.stored name hn with hs | ⟨-, hs⟩
    · obtain ⟨content, hc⟩ := Option.isSome_iff_exists.1 hn.1
      rw [hgone name hn, hc] at hs
      cases hs
    · exact hs.copy
  emptied name hu := by
    cases hc : g.blobs.get? name with
    | none => rfl
    | some content =>
      rw [← hc]
      exact hgone name (hg.moves_of_isListed ha ⟨by rw [hc]; rfl, hu⟩)
  others name hu hnew := hg.others name (fun hn => hu hn.2) hnew

/-- After a run that reports no failure nothing was lost, and no old name is left. -/
lemma Finishes.intact {s : Settings} (ha : IsApart m.source m.dest) (hg : m.Intact g)
    (hh : m.Finishes s g h) : m.Intact h ∧ ∀ name, m.Moves name → h.blobs.get? name = none := by
  obtain ⟨es, report, hr, hnone, hp⟩ := hh
  have hkeeps : (Migration.run s m.source m.dest).Keeps (honest α) g fun r h =>
      ∀ report, r = .ok report → report.failures = [] →
        m.Intact h ∧ ∀ name, m.Moves name → h.blobs.get? name = none :=
    Prog.keeps_bind.2 (keeps_moveAll_done s ha hg)
  exact hkeeps.of_runs hr hp report rfl hnone

/-- Whatever is stored, there is a run that reports no failure. -/
lemma exists_finishes (s : Settings) (ha : IsApart m.source m.dest) (g : Container α) :
    ∃ h, m.Finishes s g h := by
  obtain ⟨es, ⟨r, p⟩, h, hr, hp, ⟨report, rfl, hnone⟩, -⟩ := may_moveAll s ha.ne g
  refine ⟨h, es, report, ?_, hnone, hp⟩
  exact (Prog.runs_bind ..).2 ⟨es, [], _, (List.append_nil es).symm, hr, rfl, rfl⟩

end Move

/-! ## Main result -/

/-- **All runs together do what one run does.** Take any container, and beginnings of names of which
the new one, with anything after it, does not start like the old one. Take any number of runs in
which copies take any time, calls fail without an effect or moving is cancelled, and then a run that
reports no failure.

Then everything is moved: what was stored under an old name is stored under the new one, no name
starts like the old ones, and what is neither an old name nor a new one is as it was. Copies that
still go on change nothing any more. A single run without failures is possible, and every one leaves
the same blobs.

**Proof sketch.** Runs lose nothing and list only what is to be moved (`Move.After.intact`). The
last one deletes what is left of the old names (`Move.keeps_moveAll_done`); what is deleted was
copied, so everything is moved (`Move.Intact.isDone`), in the only way there is
(`Move.IsDone.unique`). -/
theorem reruns_converge {m : Move α} (ha : IsApart m.source m.dest) {s : Settings}
    {g h : Container α} (hg : m.After g) (hh : m.Finishes s g h) :
    m.IsDone h.blobs ∧ (∀ k, h.Lands k → k.blobs = h.blobs) ∧
      (∃ k, m.Finishes s { blobs := m.old } k) ∧
      ∀ t k, m.Finishes t { blobs := m.old } k → k.blobs = h.blobs := by
  have hdone {t : Settings} {g h : Container α} (hg : m.After g) (hh : m.Finishes t g h) :
      m.IsDone h.blobs :=
    (hh.intact ha (hg.intact ha)).1.isDone ha (hh.intact ha (hg.intact ha)).2
  obtain ⟨hintact, hgone⟩ := hh.intact ha (hg.intact ha)
  refine ⟨hdone hg hh, fun k hl => ?_, Move.exists_finishes s ha _, fun t k hk => ?_⟩
  · have hgrows := hintact.lands (Move.isClear_of_isApart ha) hl
    have hk := hgrows.intact.isDone ha fun name hn => hgrows.gone name hn (hgone name hn)
    exact hk.unique (hdone hg hh)
  · exact (hdone .start hk).unique (hdone hg hh)

/-- A name under "/docker" is none under "docker". -/
lemma isApart_apart : IsApart apart.source apart.dest := by
  intro suffix
  have hcons : ("/docker" ++ suffix).toList = '/' :: ("docker".toList ++ suffix.toList) := by
    rw [String.toList_append]
    rfl
  change ¬ (afterStart? "docker".toList ("/docker" ++ suffix).toList).isSome
  rw [hcons]
  exact Bool.false_ne_true

/-- A run may be cancelled when one of two blobs is copied.

**Proof sketch.** The run is written down call by call. -/
lemma may_cancelled :
    Action.May (honest Nat) (moveAll {} apart.source apart.dest) {} { blobs := apart.old }
      fun r _ h => r = .error (.cancelled "blob migration") ∧
        h = Container.land { blobs := apart.old } "/docker/a" 1 := by
  have hnames (name : String) :
      name ∈ ["docker/a", "docker/b"] ↔ IsListed apart.old apart.source name := by
    constructor
    · intro hn
      rw [List.mem_cons, List.mem_singleton] at hn
      rcases hn with rfl | rfl
      · decide +kernel
      · decide +kernel
    · rintro ⟨hn, -⟩
      have hkeys : apart.old.keys = ["docker/a", "docker/b"] := by decide +kernel
      exact hkeys ▸ Dict.mem_keys.2 hn
  have hstored : apart.old.get? "docker/a" = some 1 := by decide +kernel
  rw [moveAll, if_neg (by decide)]
  refine Action.may_bind.2 (Prog.may_bind.2 (Prog.may_perform.2
    ⟨.ok ["docker/a", "docker/b"], _, ⟨⟨_, .none _, rfl, hnames⟩, trivial⟩, Prog.may_pure.2 ?_⟩))
  refine Action.may_bind.2 (Action.may_bind.2 ?_)
  refine Action.may_bind.2 (Move.may_checkCancelled.mono ?_)
  rintro _ _ _ ⟨rfl, rfl, rfl⟩
  refine Action.may_bind.2 (Move.may_ask (c := .startCopy _ _) (x := .ok .success)
    ⟨1, hstored, rfl⟩ trivial (Action.may_modify.2 ?_))
  refine Action.may_bind.2 (Action.may_bind.2 (Action.may_bind.2 ?_))
  refine Move.may_ask (c := .isCancelled) (x := true) rfl trivial ?_
  dsimp only
  rw [if_pos rfl,
    show targetName "docker/a" apart.source apart.dest = "/docker/a" by decide +kernel]
  exact Action.may_throw.2 ⟨rfl, rfl⟩

/-- What is left of a move that was cancelled halfway is moved by the next run. -/
theorem reruns_converge_cancelled :
    IsApart apart.source apart.dest ∧ ∃ g h, apart.After g ∧ apart.Finishes {} g h ∧
      g.blobs.get? "docker/a" = some 1 ∧ g.blobs.get? "/docker/a" = some 1 ∧
      g.blobs.get? "docker/b" = some 2 ∧ g.blobs.get? "/docker/b" = none ∧
      apart.IsDone h.blobs := by
  obtain ⟨es, ⟨r, p⟩, g, hr, hp, -, hg⟩ := may_cancelled
  have hrun : (run {} apart.source apart.dest).Runs es r :=
    (Prog.runs_bind ..).2 ⟨es, [], _, (List.append_nil es).symm, hr, rfl, rfl⟩
  have hafter : apart.After g := .run .start hrun (path_of_honest hp)
  obtain ⟨h, hh⟩ := Move.exists_finishes {} isApart_apart g
  subst hg
  exact ⟨isApart_apart, _, h, hafter, hh, by decide +kernel, by decide +kernel, by decide +kernel,
    by decide +kernel, (reruns_converge isApart_apart hafter hh).1⟩

end Depot.Migration
