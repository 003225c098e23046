import Depot.Proofs.Binding
import Mathlib.Data.List.Chain

set_option autoImplicit false

/-!
# How far apart tags are bound

A pacer permits one turn after another, at a fixed rate, and a turn that is permitted makes as many
calls as it takes. On a clock that shows when each call is made, the calls are therefore as far
apart as they should be only as long as no tag is tried again: after a turn with waits of its own
the next permit is due already.

## Main definitions

* `Gcs.Binding.Write`, `Gcs.Binding.Timeline` — when tags were bound.
* `Gcs.Binding.clock` — the contract of a clock on which waiting takes exactly as long as it should.
* `Gcs.Binding.Spaced` — calls that are at least an interval apart.
* `Gcs.Binding.Trailing` — calls of which only those for the last tag are repeated.
* `Gcs.Binding.Paced` — what holds before each turn.

## Main results

* `Gcs.Binding.writes_paced` — how far apart the calls of a run are.
-/

namespace Depot.Gcs.Binding

/-! ## The clock -/

/-- A call that binds a tag, on the clock. -/
structure Write where
  /-- The tag. -/
  value : String
  /-- When the call was made, in nanoseconds. -/
  made : Nat
  /-- When it was answered. -/
  answered : Nat
  deriving DecidableEq

/-- What a clock shows of a run. -/
structure Timeline where
  /-- The time. -/
  now : Nat
  /-- When the last call that reads tags was answered. -/
  listed : Nat
  /-- The calls that bind tags, in order. -/
  writes : List Write

/-- The contract of a clock that timers show. Waiting takes exactly as long as it should, and calls
to the cloud take any time. -/
def clock : Contract World Timeline where
  permits _ _ := True
  step g c x g' :=
    match c with
    | .now => (x : Span).nanos = g.now ∧ g' = g
    | .sleep d => g' = { g with now := g.now + d.nanos }
    | .gcs (.listEffectiveTags _ _) => ∃ t, g.now ≤ t ∧ g' = { g with now := t, listed := t }
    | .gcs (.createBinding _ value) =>
      ∃ t, g.now ≤ t ∧ g' = { g with now := t, writes := g.writes ++ [⟨value, g.now, t⟩] }
    | _ => g' = g

/-! ## Spacing -/

/-- Every call is made at least an interval after the one before. -/
def Spaced (period : Nat) (ws : List Write) : Prop :=
  ws.IsChain fun w w' => w.made + period ≤ w'.made

/-- No tag is tried twice in a row. -/
def Fresh (ws : List Write) : Prop := ws.IsChain fun w w' => w.value ≠ w'.value

/-- Only the last tag is tried again, and each time at least an interval later. -/
def Trailing (period : Nat) (ws : List Write) : Prop :=
  ∀ l ∈ ws.getLast?, ws.IsChain fun w w' =>
    w.value = w'.value → w.value = l.value ∧ w.made + period ≤ w'.made

/-- Every call is answered within an interval. -/
def Prompt (period : Nat) (ws : List Write) : Prop := ∀ w ∈ ws, w.answered < w.made + period

/-- The call is the only one for its tag. -/
def Lone (ws : List Write) (w : Write) : Prop := ws.filter (·.value = w.value) = [w]

/-- After a tag with only one call the next call is made at least an interval later, up to the
tolerance of timers. -/
def LooselySpaced (period : Nat) (ws : List Write) : Prop :=
  ws.IsChain fun w w' => Lone ws w → w.made + period ≤ w'.made + Pacer.tolerance.nanos

/-- The calls of one turn, from when it is permitted until its end. -/
structure IsTurn (value : String) (start finish : Nat) (first : Write) (rest : List Write) :
    Prop where
  /-- The first call is made at once. -/
  made : first.made = start
  /-- All calls are for the tag. -/
  value : ∀ w ∈ first :: rest, w.value = value
  /-- The others are made later. -/
  later : ∀ w ∈ first :: rest, start ≤ w.made
  /-- The turn ends with the last answer. -/
  finish : ∀ l ∈ (first :: rest).getLast?, finish = l.answered ∧ l.made ≤ l.answered

variable {period start finish : Nat} {value : String} {ws rest : List Write} {first : Write}

/-- Calls are prompt if both parts of them are. -/
lemma prompt_append {ws bs : List Write} :
    Prompt period (ws ++ bs) ↔ Prompt period ws ∧ Prompt period bs := List.forall_mem_append

/-- A turn tries its tag again unless it is one call. -/
lemma IsTurn.fresh_iff (h : IsTurn value start finish first rest) :
    Fresh (first :: rest) ↔ rest = [] := by
  constructor
  · intro hfresh
    cases rest with
    | nil => rfl
    | cons second rest =>
      have hsame : first.value = second.value := by
        rw [h.value first (by simp), h.value second (by simp)]
      exact absurd hsame (List.isChain_cons_cons.1 hfresh).1
  · rintro rfl
    exact List.isChain_singleton first

variable (hnew : ∀ w ∈ ws, w.value ≠ value)

include hnew

/-- The last call so far is for another tag. -/
lemma IsTurn.link (h : IsTurn value start finish first rest) :
    ∀ x ∈ ws.getLast?, ∀ y ∈ (first :: rest).head?, x.value ≠ y.value := by
  intro x hx y hy
  obtain rfl : first = y := by simpa using hy
  rw [h.value first List.mem_cons_self]
  exact hnew x (List.mem_of_getLast? hx)

/-- A turn for another tag tries a tag again unless it is one call. -/
lemma IsTurn.fresh_append (h : IsTurn value start finish first rest) :
    Fresh (ws ++ first :: rest) ↔ Fresh ws ∧ rest = [] := by
  refine List.isChain_append.trans (and_congr_right fun _ => ?_)
  exact (and_iff_left (h.link hnew)).trans h.fresh_iff

/-- After a turn only the last tag was tried again if no tag was tried again before.

**Proof sketch.** The last tag is the one of the turn. Its value is new, so among the calls before
there is no pair of one tag, and among those of the turn every pair is of one. -/
lemma IsTurn.trailing_append (h : IsTurn value start finish first rest) :
    Trailing period (ws ++ first :: rest) ↔ Fresh ws ∧ Spaced period (first :: rest) := by
  have hlast : (ws ++ first :: rest).getLast? = (first :: rest).getLast? :=
    List.getLast?_append_of_ne_nil ws (List.cons_ne_nil first rest)
  rw [Trailing, hlast]
  constructor
  · intro htrailing
    have hl := List.getLast?_eq_some_getLast (List.cons_ne_nil first rest)
    obtain ⟨hws, hbs, -⟩ := List.isChain_append.1 (htrailing _ hl)
    have hvalue := h.value _ (List.mem_of_getLast? hl)
    constructor
    · refine hws.imp_of_mem_imp fun w w' hw _ hr heq => ?_
      exact hnew w hw ((hr heq).1.trans hvalue)
    · refine hbs.imp_of_mem_imp fun w w' hw hw' hr => ?_
      exact (hr ((h.value w hw).trans (h.value w' hw').symm)).2
  · rintro ⟨hfresh, hspaced⟩ l hl
    have hvalue := h.value l (List.mem_of_getLast? hl)
    refine List.isChain_append.2 ⟨?_, ?_, ?_⟩
    · exact hfresh.imp fun w w' hne heq => absurd heq hne
    · exact hspaced.imp_of_mem_imp fun w w' hw _ hr _ => ⟨(h.value w hw).trans hvalue.symm, hr⟩
    · exact fun x hx y hy heq => absurd heq (h.link hnew x hx y hy)

/-- The turn adds no call for the tags from before. -/
lemma IsTurn.lone_left (h : IsTurn value start finish first rest) {w : Write} (hw : w ∈ ws)
    (hlone : Lone (ws ++ first :: rest) w) : Lone ws w := by
  have hnone : (first :: rest).filter (·.value = w.value) = [] := by
    refine List.filter_eq_nil_iff.2 fun x hx => ?_
    rw [h.value x hx, decide_eq_true_eq]
    exact (hnew w hw).symm
  rwa [Lone, List.filter_append, hnone, List.append_nil] at hlone

omit hnew in
/-- A call of the turn is the only one for its tag only if the turn is one call. -/
lemma IsTurn.lone_right (h : IsTurn value start finish first rest) {w : Write}
    (hw : w ∈ first :: rest) (hlone : Lone (ws ++ first :: rest) w) : rest = [] := by
  have hall : (first :: rest).filter (·.value = w.value) = first :: rest := by
    refine List.filter_eq_self.2 fun x hx => ?_
    rw [h.value x hx, h.value w hw, decide_eq_true_eq]
  have hlength := congrArg List.length hlone
  rw [List.filter_append, hall, List.length_append, List.length_cons, List.length_singleton]
    at hlength
  exact List.eq_nil_of_length_eq_zero (by omega)

omit hnew in
/-- If the calls of a turn are spaced then the last one of several is an interval later than the
first one. -/
lemma Spaced.le_last (hspaced : Spaced period (first :: rest)) (hrest : rest ≠ []) :
    ∀ l ∈ (first :: rest).getLast?, first.made + period ≤ l.made := by
  intro l hl
  let R (w w' : Write) : Prop := w.made + period ≤ w'.made
  have : Trans R R R := ⟨fun h h' => by simp only [R] at h h' ⊢; omega⟩
  rw [List.getLast?_cons_of_ne_nil hrest] at hl
  exact List.rel_of_pairwise_cons (R := R) (List.IsChain.pairwise hspaced) (List.mem_of_getLast? hl)

omit hnew

/-! ## The pace -/

/-- What holds before each turn, with the permit that comes next. -/
structure Paced (period : Nat) (p : Pacer) (g : Timeline) : Prop where
  /-- Permits come at the rate of the pacer. -/
  rate : p.period.nanos = period
  /-- The next permit comes late enough after the listing. -/
  due : g.listed + period ≤ p.next.nanos
  /-- So did all calls. -/
  after : ∀ w ∈ g.writes, g.listed + period ≤ w.made
  /-- The last turn has just ended. -/
  ended : ∀ l ∈ g.writes.getLast?, g.now = l.answered ∧ l.made ≤ l.answered
  /-- After tags with one call the next call was late enough, up to the tolerance. -/
  loose : LooselySpaced period g.writes
  /-- If the last tag took one call, then the next permit is late enough, up to the tolerance. -/
  lone : ∀ l ∈ g.writes.getLast?, Lone g.writes l →
    l.made + period ≤ p.next.nanos + Pacer.tolerance.nanos
  /-- While no tag is tried again all calls are spaced, and the next permit is an interval after
  the last call. -/
  fresh : Prompt period g.writes → Fresh g.writes → Spaced period g.writes ∧
    g.now ≤ p.next.nanos ∧ ∀ l ∈ g.writes.getLast?, p.next.nanos = l.made + period
  /-- Once a tag was tried again the next permit is due at the last call. -/
  overdue : Prompt period g.writes → ¬ Fresh g.writes → Spaced period g.writes →
    ∀ l ∈ g.writes.getLast?, p.next.nanos ≤ l.made
  /-- The calls are spaced just if only the last tag was tried again. -/
  exact : Prompt period g.writes → (Spaced period g.writes ↔ Trailing period g.writes)

/-- Before the first turn. -/
lemma Paced.init (period now : Span) :
    Paced period.nanos ⟨⟨now.nanos + period.nanos⟩, period⟩ ⟨now.nanos, now.nanos, []⟩ where
  rate := rfl
  due := Nat.le_refl _
  after _ h := nomatch h
  ended _ h := nomatch h
  loose := List.isChain_nil
  lone _ h := nomatch h
  fresh _ _ := ⟨List.isChain_nil, Nat.le_add_right _ _, fun _ h => nomatch h⟩
  overdue _ _ _ _ h := nomatch h
  exact _ := iff_of_true List.isChain_nil fun _ h => nomatch h

section Turn

variable {p : Pacer} {g : Timeline}

/-- The permit after one that was taken. -/
lemma advance_next (p : Pacer) (now : Span) :
    (p.advance now).next.nanos =
      (if p.next.nanos + Pacer.tolerance.nanos < now.nanos then now.nanos else p.next.nanos) +
        p.period.nanos := rfl

/-- While no tag is tried again the next turn starts with the permit, an interval after the last
call. -/
lemma Paced.on_time (h : Paced period p g) (hprompt : Prompt period g.writes)
    (hfresh : Fresh g.writes) (hturn : IsTurn value (max g.now p.next.nanos) finish first rest) :
    first.made = p.next.nanos ∧
      (p.advance ⟨max g.now p.next.nanos⟩).next.nanos = first.made + period ∧
      ∀ l ∈ g.writes.getLast?, l.made + period ≤ first.made := by
  obtain ⟨-, hnow, hlast⟩ := h.fresh hprompt hfresh
  have hstart : max g.now p.next.nanos = p.next.nanos := Nat.max_eq_right hnow
  have hmade : first.made = p.next.nanos := hturn.made.trans hstart
  refine ⟨hmade, ?_, fun l hl => ?_⟩
  · rw [advance_next, hstart, if_neg (Nat.not_lt.2 (Nat.le_add_right _ _)), hmade, h.rate]
  · rw [hmade, hlast l hl]

/-- Once a tag was tried again the next turn starts too early, or another one did.

**Proof sketch.** The permit was due before the last call was made, so the turn starts when that
call was answered, which is sooner than the period after it. -/
lemma Paced.too_early (h : Paced period p g) (hprompt : Prompt period g.writes)
    (hfresh : ¬ Fresh g.writes)
    (hturn : IsTurn value (max g.now p.next.nanos) finish first rest)
    (hspaced : Spaced period g.writes) :
    ¬ ∀ l ∈ g.writes.getLast?, l.made + period ≤ first.made := by
  intro hlink
  have hne : g.writes ≠ [] := fun hnil => hfresh (hnil ▸ List.isChain_nil)
  have hl := List.getLast?_eq_some_getLast hne
  have hsoon := hprompt _ (List.mem_of_getLast? hl)
  have hdue := h.overdue hprompt hfresh hspaced _ hl
  obtain ⟨hnow, hanswered⟩ := h.ended _ hl
  have hmade := hturn.made
  have := hlink _ hl
  omega

/-- **A turn leads from one permit to the next.** It starts when the permit is there and no earlier
than now.

**Proof sketch.** Suppose that all calls are answered within an interval. While no tag was tried
again the permit is not due yet, and it is an interval after the last call; the turn starts with it,
and the one after it is an interval later. If the turn takes one call, nothing changes. If it takes
several, it is now the only one that did, and if they are spaced then the last one of them is made
when the next permit is due, or later. When a tag was tried again before, the permit is due, so that
the turn starts with the answer to the last call, less than an interval after that call was made;
and the tag that was tried again is no longer the last one. -/
lemma Paced.turn (h : Paced period p g) (hnew : ∀ w ∈ g.writes, w.value ≠ value)
    (hturn : IsTurn value (max g.now p.next.nanos) finish first rest) :
    Paced period (p.advance ⟨max g.now p.next.nanos⟩)
      ⟨finish, g.listed, g.writes ++ first :: rest⟩ := by
  have hlast : (g.writes ++ first :: rest).getLast? = (first :: rest).getLast? :=
    List.getLast?_append_of_ne_nil g.writes (List.cons_ne_nil first rest)
  have hspaced : Spaced period (g.writes ++ first :: rest) ↔
      Spaced period g.writes ∧ Spaced period (first :: rest) ∧
        ∀ l ∈ g.writes.getLast?, l.made + period ≤ first.made := by
    refine List.isChain_append.trans (and_congr_right fun _ => and_congr_right fun _ => ?_)
    exact forall₂_congr fun l _ => by simp
  have hdue := h.due
  have hrate := h.rate
  have hmade := hturn.made
  have hnext := advance_next p ⟨max g.now p.next.nanos⟩
  dsimp only at hnext
  constructor
  case rate => exact hrate
  case due =>
    dsimp only
    split at hnext <;> omega
  case after =>
    refine List.forall_mem_append.2 ⟨h.after, fun w hw => ?_⟩
    have := hturn.later w hw
    dsimp only
    omega
  case ended =>
    rw [hlast]
    exact hturn.finish
  case loose =>
    refine List.isChain_append.2 ⟨?_, ?_, ?_⟩
    · exact h.loose.imp_of_mem_imp fun w w' hw _ hr hlone => hr (hturn.lone_left hnew hw hlone)
    · by_cases hrest : rest = []
      · rw [hrest]
        exact List.isChain_singleton first
      · have hall : (first :: rest).IsChain fun _ _ => True :=
          (List.pairwise_of_forall fun _ _ => trivial).isChain
        exact hall.imp_of_mem_imp fun w _ hw _ _ hlone =>
          absurd (hturn.lone_right hw hlone) hrest
    · intro l hl w hw hlone
      obtain rfl : first = w := by simpa using hw
      have := h.lone l hl (hturn.lone_left hnew (List.mem_of_getLast? hl) hlone)
      omega
  case lone =>
    rw [hlast]
    intro l hl hlone
    obtain rfl := hturn.lone_right (List.mem_of_getLast? hl) hlone
    obtain rfl : first = l := by simpa using hl
    split at hnext <;> omega
  case fresh =>
    intro hprompt hfresh'
    rw [prompt_append] at hprompt
    obtain ⟨hfresh, rfl⟩ := (hturn.fresh_append hnew).1 hfresh'
    obtain ⟨-, hadvance, hlink⟩ := h.on_time hprompt.1 hfresh hturn
    have hl : [first].getLast? = some first := rfl
    have hsoon := hprompt.2 first List.mem_cons_self
    have hfinish := (hturn.finish first hl).1
    refine ⟨hspaced.2 ⟨(h.fresh hprompt.1 hfresh).1, List.isChain_singleton first, hlink⟩, ?_, ?_⟩
    · dsimp only
      omega
    · intro l hl'
      obtain rfl : first = l := by simpa [hlast] using hl'
      exact hadvance
  case overdue =>
    intro hprompt hrepeated hsp
    rw [prompt_append] at hprompt
    obtain ⟨hws, hbs, hlink⟩ := hspaced.1 hsp
    by_cases hfresh : Fresh g.writes
    · have hrest : rest ≠ [] := fun hnil => hrepeated ((hturn.fresh_append hnew).2 ⟨hfresh, hnil⟩)
      rw [hlast, (h.on_time hprompt.1 hfresh hturn).2.1]
      exact hbs.le_last hrest
    · exact absurd hlink (h.too_early hprompt.1 hfresh hturn hws)
  case exact =>
    intro hprompt
    rw [prompt_append] at hprompt
    rw [hturn.trailing_append hnew, hspaced]
    by_cases hfresh : Fresh g.writes
    · have hlink := (h.on_time hprompt.1 hfresh hturn).2.2
      have hws := (h.fresh hprompt.1 hfresh).1
      exact ⟨fun hs => ⟨hfresh, hs.2.1⟩, fun hs => ⟨hws, hs.2, hlink⟩⟩
    · refine ⟨fun hs => ?_, fun hs => absurd hs.1 hfresh⟩
      exact absurd hs.2.2 (h.too_early hprompt.1 hfresh hturn hs.1)

end Turn

/-! ## Runs on the clock -/

section Clock

variable {σ : Type} {t : σ} {g : Timeline} {resource : String}

/-- A call, and what follows its answer. -/
lemma keeps_call {α : Type} {c : World.Call} {f : World.Answer c → Operating σ α}
    {Q : Except Error α → σ → Timeline → Prop}
    (h : ∀ x g', clock.step g c x g' → Action.Keeps clock (f x) t g' Q) :
    Action.Keeps clock (Action.perform (Prog.perform (I := World) c) >>= f) t g Q :=
  Action.keeps_bind.2 (Action.keeps_perform.2 ⟨trivial, h⟩)

/-- The listing ends with the answer to its last call.

**Proof sketch.** By induction on the pages that may still be asked for. -/
lemma keeps_effectiveFrom {pages : Nat} {token : Option String} (h : g.listed = g.now) :
    Action.Keeps clock (effectiveFrom resource pages token) t g fun _ _ g' =>
      g'.listed = g'.now ∧ g'.writes = g.writes := by
  induction pages generalizing token g with
  | zero => exact ⟨h, rfl⟩
  | succ pages ih =>
    refine keeps_call (c := .gcs (.listEffectiveTags _ _)) ?_
    rintro x _ ⟨T, -, rfl⟩
    obtain e | page := x
    · exact ⟨rfl, rfl⟩
    · dsimp only
      split
      · exact ⟨rfl, rfl⟩
      · refine Action.keeps_bind.2 ((ih rfl).mono ?_)
        rintro (_ | _) _ _ h
        · exact h
        · exact h

/-- A permit is taken when it is there, and not before now.

**Proof sketch.** The clock is read, and if the permit is not there yet the pacer sleeps until it
is; then the clock is read again. -/
lemma keeps_acquire (p : Pacer) :
    Action.Keeps clock p.acquire t g fun r t' g' =>
      r = .ok (p.advance ⟨max g.now p.next.nanos⟩) ∧ t' = t ∧
        g' = { g with now := max g.now p.next.nanos } := by
  have hlate {g : Timeline} : Action.Keeps clock
      (do return p.advance (← Action.perform World.now) : Operating σ Pacer) t g fun r t' g' =>
        r = .ok (p.advance ⟨g.now⟩) ∧ t' = t ∧ g' = g := by
    refine keeps_call (c := .now) ?_
    rintro (now : Span) _ ⟨hnow, rfl⟩
    exact ⟨by rw [← hnow], rfl, rfl⟩
  refine keeps_call (c := .now) ?_
  rintro (now : Span) g ⟨hnow, rfl⟩
  dsimp only
  split
  · rename_i hlt
    refine keeps_call (c := .sleep _) ?_
    rintro _ _ rfl
    have hmax : g.now + (p.next.nanos - now.nanos) = max g.now p.next.nanos := by omega
    refine hlate.mono ?_
    rintro _ _ _ ⟨rfl, rfl, rfl⟩
    dsimp only
    rw [hmax]
    exact ⟨rfl, rfl, rfl⟩
  · rename_i hlt
    have hmax : max g.now p.next.nanos = g.now := by omega
    rw [hmax]
    exact hlate

/-- The calls that a turn has made since its start, while it is not over. -/
structure Underway (value : String) (g : Timeline) (bs : List Write) (g' : Timeline) : Prop where
  /-- They are added to the others. -/
  writes : g'.writes = g.writes ++ bs
  /-- No tags are read. -/
  listed : g'.listed = g.listed
  /-- Time goes on. -/
  now : g.now ≤ g'.now
  /-- The first call is made at once. -/
  made : ∀ w ∈ bs.head?, w.made = g.now
  /-- Until then no time passes. -/
  start : bs = [] → g'.now = g.now
  /-- All calls are for the tag and made after the start. -/
  value : ∀ w ∈ bs, w.value = value ∧ g.now ≤ w.made

/-- One more call at the time that it is.

**Proof sketch.** Field by field, with one more call at the end. -/
lemma Underway.call {bs : List Write} {g' : Timeline} (h : Underway value g bs g') {T T' : Nat}
    (hT : g'.now ≤ T) (hT' : T ≤ T') :
    Underway value g (bs ++ [⟨value, g'.now, T⟩])
      ⟨T', g'.listed, g'.writes ++ [⟨value, g'.now, T⟩]⟩ where
  writes := by rw [h.writes, List.append_assoc]
  listed := h.listed
  now := h.now.trans (hT.trans hT')
  made := by
    cases bs with
    | nil =>
      rintro w hw
      obtain rfl : ⟨value, g'.now, T⟩ = w := by simpa using hw
      exact h.start rfl
    | cons b bs => exact h.made
  start hnil := absurd hnil (by simp)
  value := List.forall_mem_append.2 ⟨h.value, List.forall_mem_singleton.2 ⟨rfl, h.now⟩⟩

/-- After a call the turn may be over.

**Proof sketch.** The calls so far and the new one are not empty, so they have a first, and the last
is the new one. -/
lemma Underway.isTurn {bs : List Write} {g' : Timeline} (h : Underway value g bs g') {T : Nat}
    (hT : g'.now ≤ T) :
    ∃ first rest, g'.writes ++ [⟨value, g'.now, T⟩] = g.writes ++ first :: rest ∧
      IsTurn value g.now T first rest := by
  have hnext := h.call hT (Nat.le_refl T)
  have hlast : (bs ++ [(⟨value, g'.now, T⟩ : Write)]).getLast? = some ⟨value, g'.now, T⟩ :=
    List.getLast?_concat
  obtain ⟨first, rest, heq⟩ : ∃ first rest, bs ++ [(⟨value, g'.now, T⟩ : Write)] = first :: rest :=
    List.exists_cons_of_ne_nil (by simp)
  rw [heq] at hnext hlast
  refine ⟨first, rest, hnext.writes, hnext.made first rfl, fun w hw => (hnext.value w hw).1,
    fun w hw => (hnext.value w hw).2, ?_⟩
  intro l hl
  obtain rfl : (⟨value, g'.now, T⟩ : Write) = l := Option.some.inj (hlast.symm.trans hl)
  exact ⟨rfl, hT⟩

/-- A turn, from its start.

**Proof sketch.** The invariant of the loop is `Underway`. One round makes a call, after which the
turn is over or, if the call was throttled and time is left, a sleep leads to the next round. -/
lemma keeps_bindOne (s : Settings) (value : String) :
    Action.Keeps clock (bindOne s resource value) t g fun _ t' g' => t' = t ∧
      ∃ first rest, g' = ⟨g'.now, g.listed, g.writes ++ first :: rest⟩ ∧
        IsTurn value g.now g'.now first rest := by
  refine keeps_call (c := .stopwatch) ?_
  rintro start g rfl
  refine Action.keeps_loop (fun _ t' g' => t' = t ∧ ∃ bs, Underway value g bs g') ?_ ?_
  · exact ⟨rfl, [], by simp, rfl, Nat.le_refl _, by simp, fun _ => rfl, by simp⟩
  · rintro mean _ g' ⟨rfl, bs, hbs⟩
    rw [Action.keeps_bind, tryBind]
    refine keeps_call (c := .gcs (.createBinding _ _)) ?_
    rintro x _ ⟨T, hT, rfl⟩
    have hover : ∃ first rest,
        (⟨T, g'.listed, g'.writes ++ [⟨value, g'.now, T⟩]⟩ : Timeline) =
          ⟨T, g.listed, g.writes ++ first :: rest⟩ ∧ IsTurn value g.now T first rest := by
      obtain ⟨first, rest, heq, hturn⟩ := hbs.isTurn hT
      exact ⟨first, rest, by rw [heq, hbs.listed], hturn⟩
    obtain e | _ := x
    · dsimp only
      split
      · exact ⟨rfl, hover⟩
      · split
        · refine Action.keeps_pure.2 (keeps_call (c := .stopwatch) ?_)
          rintro now _ rfl
          refine keeps_call (c := .randomWord) ?_
          rintro word _ rfl
          split
          · refine keeps_call (c := .sleep _) ?_
            rintro _ _ rfl
            exact ⟨rfl, _, hbs.call hT (Nat.le_add_right _ _)⟩
          · exact ⟨rfl, hover⟩
        · exact ⟨rfl, hover⟩
    · exact ⟨rfl, hover⟩

/-- The turns, one after another.

**Proof sketch.** By induction on the values: a permit is taken, a turn is made, and what is paced
stays so. The values ascend, so those that are left are new. -/
lemma keeps_bindEach (s : Settings) {values : List String} {pacer : Pacer} {period : Nat}
    (hpaced : Paced period pacer g) (hvalues : values.Pairwise (· < ·))
    (hnew : ∀ w ∈ g.writes, w.value ∉ values) :
    Action.Keeps clock (bindEach s resource pacer values) t g fun _ _ g' =>
      ∃ p, Paced period p g' := by
  induction values generalizing pacer g with
  | nil => exact ⟨pacer, hpaced⟩
  | cons value rest ih =>
    rw [bindEach, Action.keeps_bind]
    refine (keeps_acquire pacer).mono ?_
    rintro _ _ _ ⟨rfl, rfl, rfl⟩
    dsimp only
    rw [Action.keeps_bind, Action.keeps_outcome]
    refine (keeps_bindOne s value).mono ?_
    rintro outcome _ g' ⟨rfl, first, others, hg, hturn⟩
    have hpaced' := hpaced.turn (fun w hw heq => hnew w hw (heq ▸ List.mem_cons_self)) hturn
    obtain ⟨hlt, hrest⟩ := List.pairwise_cons.1 hvalues
    have hnew' : ∀ w ∈ g'.writes, w.value ∉ rest := by
      rw [hg]
      refine List.forall_mem_append.2 ⟨fun w hw h => hnew w hw (List.mem_cons_of_mem _ h), ?_⟩
      intro w hw h
      exact String.lt_irrefl _ (hlt value (hturn.value w hw ▸ h))
    rw [← hg] at hpaced'
    dsimp only
    refine Action.keeps_bind.2 ((ih hpaced' hrest hnew').mono ?_)
    rintro (_ | ⟨bound, failed⟩) _ g'' h
    · exact h
    · cases outcome with
      | ok => exact h
      | error => exact h

/-- A run, from its start.

**Proof sketch.** The listing makes no write. The pacer starts at the time that it was answered, and
the turns keep it paced. -/
lemma keeps_bind (s : Settings) (wanted : List GcpTag) (h : g.listed = g.now)
    (hwrites : g.writes = []) :
    Action.Keeps clock (bind s resource wanted) t g fun _ _ g' =>
      g'.writes = [] ∨ ∃ p, Paced s.writeInterval.nanos p g' := by
  rw [bind, Action.keeps_bind]
  refine (keeps_effectiveFrom h).mono ?_
  rintro (_ | values) _ ⟨T, T', ws⟩ ⟨hlisted, hnone⟩
  · exact .inl (hnone.trans hwrites)
  obtain rfl : T' = T := hlisted
  obtain rfl : ws = [] := hnone.trans hwrites
  dsimp only
  split
  · exact .inl rfl
  · rw [Action.keeps_bind, Pacer.start]
    refine keeps_call (c := .now) ?_
    rintro (now : Span) _ ⟨hnow, rfl⟩
    rw [Action.keeps_pure]
    dsimp only at hnow ⊢
    rw [← hnow, Action.keeps_bind]
    refine (keeps_bindEach s (.init s.writeInterval now) (pending_ascending ..)
      (List.forall_mem_nil _)).mono ?_
    rintro (_ | ⟨bound, failed⟩) _ g' h
    · exact .inr h
    · refine Action.keeps_bind.2 (Action.keeps_ofExcept.2 ?_)
      cases Error.ofFailures failed with
      | ok => exact .inr h
      | error => exact .inr h

end Clock

/-! ## Main results -/

/-- **How far apart the calls of a run are.** On a clock on which waiting takes exactly as long as
it should, the first call that binds a tag is made at least an interval after the listing ended, and
the call after a tag with only one call at least an interval after that one, up to the tolerance of
timers. If all calls are answered within an interval, then any two calls in a row are at least an
interval apart just if only the last tag is tried again, and each time at least an interval later.
So they are not if any other tag is tried again: its turn takes longer than an interval, and the
next one, whose permit is due by then, starts with its last call.

**Proof sketch.** `Paced` holds before the first turn, and every turn preserves it (`Paced.turn`).
The turns are the calls of `bindOne` on the clock (`keeps_bindOne`), and they are for different
tags because the missing tags ascend. -/
theorem writes_paced {σ : Type} {s : Settings} {resource : String} {wanted : List GcpTag}
    {t t' : σ} {es : Trace World} {r : Except Error (List String)}
    (hrun : Action.Runs (bind s resource wanted) t es r t') {now : Nat} {g : Timeline}
    (hclock : clock.Path ⟨now, now, []⟩ es g) :
    (∀ w ∈ g.writes, g.listed + s.writeInterval.nanos ≤ w.made) ∧
      LooselySpaced s.writeInterval.nanos g.writes ∧
      (Prompt s.writeInterval.nanos g.writes →
        (Spaced s.writeInterval.nanos g.writes ↔ Trailing s.writeInterval.nanos g.writes)) := by
  obtain hnone | ⟨p, h⟩ := (keeps_bind s wanted rfl rfl).of_runs hrun hclock
  · rw [hnone]
    exact ⟨nofun, List.isChain_nil, fun _ => iff_of_true List.isChain_nil fun _ h => nomatch h⟩
  · exact ⟨h.after, h.loose, h.exact⟩

/-- What the clock shows after an answered call, if calls to the cloud take no time; nothing if the
clock does not show the time that the call was told. -/
def instant (g : Timeline) (e : Event World) : Option Timeline :=
  match e with
  | ⟨.now, x⟩ => if (x : Span).nanos = g.now then some g else none
  | ⟨.sleep d, _⟩ => some { g with now := g.now + d.nanos }
  | ⟨.gcs (.listEffectiveTags _ _), _⟩ => some { g with listed := g.now }
  | ⟨.gcs (.createBinding _ value), _⟩ =>
    some { g with writes := g.writes ++ [⟨value, g.now, g.now⟩] }
  | _ => some g

/-- What the clock shows then is within its contract.

**Proof sketch.** By induction on the events. -/
lemma path_of_instant {es : Trace World} {g g' : Timeline} (h : es.foldlM instant g = some g') :
    clock.Path g es g' := by
  induction es generalizing g with
  | nil => exact Option.some.inj h
  | cons e es ih =>
    obtain ⟨k, hk, h⟩ := Option.bind_eq_some_iff.1 h
    refine ⟨k, ?_, ih h⟩
    obtain ⟨c, x⟩ := e
    cases c with
    | now =>
      obtain ⟨hx, hk⟩ := Option.ite_none_right_eq_some.1 hk
      exact ⟨hx, (Option.some.inj hk).symm⟩
    | gcs c =>
      cases c with
      | listEffectiveTags => exact ⟨g.now, Nat.le_refl _, (Option.some.inj hk).symm⟩
      | createBinding => exact ⟨g.now, Nat.le_refl _, (Option.some.inj hk).symm⟩
      | _ => exact (Option.some.inj hk).symm
    | _ => exact (Option.some.inj hk).symm

/-- The answers of a cloud that takes no time, and of a timer that shows for how long was waited. Of
the calls that bind tags the one with a given number is one too many. -/
def timed (refused : Nat) (es : Trace World) : (c : World.Call) → World.Answer c
  | .now => ⟨es.foldl (fun n e => match e.call with | .sleep d => n + d.nanos | _ => n) 0⟩
  | .randomWord => Backoff.wordCount / 2
  | .gcs (.listEffectiveTags _ _) => .ok {}
  | .gcs (.createBinding _ _) =>
    if es.countP (fun e => e.call matches .gcs (.createBinding _ _)) = refused then
      .error (.provider .gcs "create-binding" "" .throttled "")
    else .ok ()
  | _ => default

/-- If the last of two tags is tried again, after a second, all calls are spaced. -/
theorem writes_paced_trailing :
    ∃ es r g, Action.Runs (bind {} "bucket" [ownedBy "a", ownedBy "b"]) () es r () ∧
      clock.Path ⟨0, 0, []⟩ es g ∧ g.writes.length = 3 ∧ Spaced 200000000 g.writes := by
  obtain ⟨es, ⟨r, ⟨⟩⟩, hrun, hes⟩ :=
    Prog.exists_runs_of_run (timed 1) 3
      (Action.start (bind {} "bucket" [ownedBy "a", ownedBy "b"]) ())
      (fun es _ => (es.foldlM instant ⟨0, 0, []⟩).map Timeline.writes =
        some [⟨"123/team/a", 200000000, 200000000⟩, ⟨"123/team/b", 400000000, 400000000⟩,
          ⟨"123/team/b", 1400000000, 1400000000⟩]) (by decide +kernel)
  obtain ⟨g, hg, hwrites⟩ := Option.map_eq_some_iff.1 hes
  have hclock := path_of_instant hg
  refine ⟨es, r, g, hrun, hclock, by rw [hwrites]; rfl, ?_⟩
  refine ((writes_paced hrun hclock).2.2 ?_).2 ?_
  · rw [hwrites]
    simp [Prompt, Span.ofMillis]
  · rw [hwrites]
    simp [Trailing, Span.ofMillis]

/-- If the first of two tags is tried again, after a second, the other one is bound at once. -/
theorem writes_close :
    ∃ es r g, Action.Runs (bind {} "bucket" [ownedBy "a", ownedBy "b"]) () es r () ∧
      clock.Path ⟨0, 0, []⟩ es g ∧ ¬ Spaced 200000000 g.writes := by
  obtain ⟨es, ⟨r, ⟨⟩⟩, hrun, hes⟩ :=
    Prog.exists_runs_of_run (timed 0) 3
      (Action.start (bind {} "bucket" [ownedBy "a", ownedBy "b"]) ())
      (fun es _ => (es.foldlM instant ⟨0, 0, []⟩).map Timeline.writes =
        some [⟨"123/team/a", 200000000, 200000000⟩, ⟨"123/team/a", 1200000000, 1200000000⟩,
          ⟨"123/team/b", 1200000000, 1200000000⟩]) (by decide +kernel)
  obtain ⟨g, hg, hwrites⟩ := Option.map_eq_some_iff.1 hes
  refine ⟨es, r, g, hrun, path_of_instant hg, ?_⟩
  rw [hwrites]
  simp [Spaced]

end Depot.Gcs.Binding
