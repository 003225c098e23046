import Depot.Time.Span
import Mathlib.Data.List.Range

set_option autoImplicit false

/-!
# Looking again and again

Something is looked at again and again, with pauses of the same length between the looks, until a
look settles the matter or no further look is allowed. On a clock that only pauses move, the looks
are at regular times, and what the looks find determines how many there are and how it ends.

## Main definitions

* `Watch` — what a clock shows of looks and pauses.
* `Watch.regular` — a clock after pauses of the same length.
* `Unsettled`, `Polled` — how looking ends, given what each look says.
* `Going`, `Over` — looking goes on, or is over, as the clock shows.

## Main results

* `Polled.eq_iff` — the result, from what the looks say.
* `Polled.eq_of_settled`, `Polled.eq_of_unsettled` — the number of looks, from what they say.
* `Going.settled`, `Going.exhausted`, `Going.again` — what one more look leads to.
-/

namespace Depot

/-! ## The clock -/

/-- What a clock shows of looks and pauses. -/
structure Watch where
  /-- The time, in nanoseconds. -/
  now : Nat
  /-- How long all pauses took together. -/
  slept : Nat
  /-- When each look was made. -/
  looks : List Nat
  deriving DecidableEq

namespace Watch

/-- A clock before the first look and the first pause. -/
def start (now : Nat) : Watch := ⟨now, 0, []⟩

/-- A look is made now. -/
def look (g : Watch) : Watch := { g with looks := g.looks ++ [g.now] }

/-- A pause moves the clock. -/
def sleep (g : Watch) (d : Span) : Watch :=
  { g with now := g.now + d.nanos, slept := g.slept + d.nanos }

/-- The clock after some pauses of the same length and some looks; `lead` says how many pauses there
are before the first look. -/
def regular (start period lead pauses looks : Nat) : Watch where
  now := start + pauses * period
  slept := pauses * period
  looks := (List.range looks).map fun j => start + (j + lead) * period

variable {now period lead pauses n : Nat}

/-- There are as many regular looks as are asked for. -/
@[simp] lemma length_looks_regular : (regular now period lead pauses n).looks.length = n := by
  rw [regular, List.length_map, List.length_range]

/-- Before the first look nothing has been shown. -/
lemma regular_zero : regular now period lead 0 0 = start now := by
  rw [regular, start, Nat.zero_mul]
  rfl

/-- A look after its pauses is made at the regular time. -/
lemma look_regular :
    (regular now period lead (n + lead) n).look = regular now period lead (n + lead) (n + 1) := by
  rw [regular, look, regular, List.range_succ, List.map_append]
  rfl

/-- A pause of the length of the others. -/
lemma sleep_regular {d : Span} :
    (regular now d.nanos lead pauses n).sleep d = regular now d.nanos lead (pauses + 1) n := by
  rw [regular, sleep, regular, Nat.succ_mul, Nat.add_assoc]

end Watch

/-- A time is over after some pauses if these are as many as it takes, rounded up. -/
lemma pauses_le_iff {time period n : Nat} (hperiod : 0 < period) :
    (time + period - 1) / period ≤ n ↔ time ≤ n * period := by
  rw [Nat.div_le_iff_le_mul_add_pred hperiod, Nat.mul_comm]
  omega

/-! ## The end -/

variable {α : Type} {verdict : Nat → Option α} {limit m n : Nat} {late a b : α}

/-- None of the first looks settled the matter. -/
def Unsettled (verdict : Nat → Option α) (n : Nat) : Prop := ∀ m < n, verdict m = none

/-- How looking ends if each look may say something that settles the matter and only some looks are
allowed: how many looks there are, and with what. -/
inductive Polled (verdict : Nat → Option α) (limit : Nat) (late : α) : Nat → α → Prop where
  /-- A look settled the matter, and none did before. -/
  | settled {n : Nat} {a : α} : n < limit → Unsettled verdict n → verdict n = some a →
    Polled verdict limit late (n + 1) a
  /-- No look did that was allowed. -/
  | late : Unsettled verdict limit → Polled verdict limit late limit late

/-- Before the first look nothing is settled. -/
lemma Unsettled.zero : Unsettled verdict 0 := fun _ h => absurd h (Nat.not_lt_zero _)

/-- One more look did not settle the matter. -/
lemma Unsettled.succ (h : Unsettled verdict n) (hn : verdict n = none) :
    Unsettled verdict (n + 1) := by
  intro m hm
  rcases Nat.lt_succ_iff_lt_or_eq.1 hm with hlt | rfl
  · exact h m hlt
  · exact hn

/-- What comes before a look that was reached did not settle the matter. -/
lemma Unsettled.le_of_settled (h : Unsettled verdict n) (hm : verdict m = some a) : n ≤ m := by
  by_contra hlt
  cases (h m (Nat.not_le.1 hlt)).symm.trans hm

/-- Only one look settles the matter. -/
lemma Unsettled.eq_of_settled (hm : Unsettled verdict m) (ha : verdict m = some a)
    (hn : Unsettled verdict n) (hb : verdict n = some b) : m = n :=
  Nat.le_antisymm (hm.le_of_settled hb) (hn.le_of_settled ha)

namespace Polled

/-- No more looks are made than allowed. -/
lemma le_limit (h : Polled verdict limit late n a) : n ≤ limit := by
  cases h with
  | settled hn => exact hn
  | late => exact Nat.le_refl _

/-- **The result** is that of the look that settled the matter, or that no look did.

**Proof sketch.** Both ways of being polled settle which disjunct holds: the first settling look is
unique, and where no look settles there is none. -/
theorem eq_iff (h : Polled verdict limit late n a) (b : α) :
    a = b ↔ (∃ m < limit, Unsettled verdict m ∧ verdict m = some b) ∨
      Unsettled verdict limit ∧ b = late := by
  cases h with
  | @settled n _ hn hbefore ha =>
    constructor
    · rintro rfl
      exact .inl ⟨n, hn, hbefore, ha⟩
    · rintro (⟨m, -, hm, hb⟩ | ⟨hall, -⟩)
      · obtain rfl := hm.eq_of_settled hb hbefore ha
        exact Option.some.inj (ha.symm.trans hb)
      · exact absurd (hall.le_of_settled ha) (Nat.not_le.2 hn)
  | late hall =>
    constructor
    · rintro rfl
      exact .inr ⟨hall, rfl⟩
    · rintro (⟨m, hlt, -, hb⟩ | ⟨-, rfl⟩)
      · exact absurd (hall.le_of_settled hb) (Nat.not_le.2 hlt)
      · rfl

/-- **The look that settles the matter is the last one.** -/
theorem eq_of_settled (h : Polled verdict limit late n a) (hm : m < limit)
    (hbefore : Unsettled verdict m) (hb : verdict m = some b) : n = m + 1 := by
  cases h with
  | settled _ hn ha => rw [hn.eq_of_settled ha hbefore hb]
  | late hall => exact absurd (hall.le_of_settled hb) (Nat.not_le.2 hm)

/-- **If no look settles the matter** then all are made that are allowed. -/
theorem eq_of_unsettled (h : Polled verdict limit late n a) (hall : Unsettled verdict limit) :
    n = limit := by
  cases h with
  | settled hn _ ha => exact absurd (hall.le_of_settled ha) (Nat.not_le.2 hn)
  | late => rfl

end Polled

/-! ## One more look -/

variable {now period lead : Nat} {g : Watch}

/-- Looking goes on: none of the `n` looks settled the matter, there were as many pauses, and
another look is allowed. -/
structure Going (verdict : Nat → Option α) (limit now period lead n : Nat) (g : Watch) :
    Prop where
  /-- Another look is allowed. -/
  lt : n < limit
  /-- None settled the matter. -/
  unsettled : Unsettled verdict n
  /-- There were as many pauses as looks. -/
  shown : g = Watch.regular now period lead n n

/-- Looking is over, with a result. The pauses are those before the looks. -/
def Over (verdict : Nat → Option α) (limit : Nat) (late : α) (now period lead : Nat) (a : α)
    (g : Watch) : Prop :=
  ∃ n, Polled verdict limit late (n + 1) a ∧
    g = Watch.regular now period lead (n + lead) (n + 1)

/-- Polling begins with no look. -/
lemma Going.begin (h : 0 < limit) :
    Going verdict limit now period lead 0 (Watch.start now) :=
  ⟨h, .zero, Watch.regular_zero.symm⟩

/-- Polling has had as many looks as it counts. -/
lemma Going.length_looks (h : Going verdict limit now period lead n g) : g.looks.length = n := by
  rw [h.shown, Watch.length_looks_regular]

namespace Going

variable (h : Going verdict limit now period lead n g)
include h

/-- The next look settles the matter. -/
theorem settled (ha : verdict n = some a) :
    Over verdict limit late now period lead a
      (Watch.regular now period lead (n + lead) (n + 1)) :=
  ⟨n, .settled h.lt h.unsettled ha, rfl⟩

/-- The next look does not, and was the last one that is allowed. -/
theorem exhausted (hnone : verdict n = none) (hlast : n + 1 = limit) :
    Over verdict limit late now period lead late
      (Watch.regular now period lead (n + lead) (n + 1)) :=
  ⟨n, hlast ▸ .late (hlast ▸ h.unsettled.succ hnone), rfl⟩

/-- Looking goes on after the next look and another pause, with fewer looks left. -/
theorem again (hnone : verdict n = none) (hmore : n + 1 < limit) :
    Going verdict limit now period lead (n + 1)
        (Watch.regular now period lead (n + 1) (n + 1)) ∧
      limit - (Watch.regular now period lead (n + 1) (n + 1)).looks.length <
        limit - g.looks.length := by
  refine ⟨⟨hmore, h.unsettled.succ hnone, rfl⟩, ?_⟩
  rw [Watch.length_looks_regular, h.length_looks]
  omega

end Going

namespace Over

variable (h : Over verdict limit late now period lead a g)
include h

/-- The looks are made at regular times. -/
lemma times : g.looks = (List.range g.looks.length).map fun j => now + (j + lead) * period := by
  obtain ⟨n, -, rfl⟩ := h
  rw [Watch.length_looks_regular]
  rfl

/-- No more looks are made than allowed. -/
lemma length_le : g.looks.length ≤ limit := by
  obtain ⟨n, hpolled, rfl⟩ := h
  exact Watch.length_looks_regular.trans_le hpolled.le_limit

/-- The pauses are those between the looks and before them. -/
lemma slept_eq : g.slept = (g.looks.length - 1 + lead) * period := by
  obtain ⟨n, -, rfl⟩ := h
  rw [Watch.length_looks_regular]
  rfl

/-- Only the pauses took time. -/
lemma now_eq : g.now = now + (g.looks.length - 1 + lead) * period := by
  obtain ⟨n, -, rfl⟩ := h
  rw [Watch.length_looks_regular]
  rfl

/-- The result is that of the look that settled the matter, or that no look did. -/
lemma eq_iff (b : α) :
    a = b ↔ (∃ m < limit, Unsettled verdict m ∧ verdict m = some b) ∨
      Unsettled verdict limit ∧ b = late :=
  let ⟨_, hpolled, _⟩ := h
  hpolled.eq_iff b

/-- The look that settles the matter is the last one. -/
lemma length_of_settled (hm : m < limit) (hbefore : Unsettled verdict m)
    (hb : verdict m = some b) : g.looks.length = m + 1 := by
  obtain ⟨n, hpolled, rfl⟩ := h
  exact Watch.length_looks_regular.trans (hpolled.eq_of_settled hm hbefore hb)

/-- If no look settles the matter then all are made that are allowed. -/
lemma length_of_unsettled (hall : Unsettled verdict limit) : g.looks.length = limit := by
  obtain ⟨n, hpolled, rfl⟩ := h
  exact Watch.length_looks_regular.trans (hpolled.eq_of_unsettled hall)

end Over

end Depot
