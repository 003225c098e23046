set_option autoImplicit false

/-!
# Calendar days

The proleptic Gregorian calendar.

## Main definitions

* `Date` — a year, month and day.
* `Date.IsValid` — the month and the day exist.
* `Date.next`, `Date.previous` — the neighbouring days.
* `Date.dayNumber` — the number of a day, counted from 1 January 1970.

## Main results

* `Date.IsValid.next`, `Date.IsValid.previous` — the neighbours of a day of the calendar are days
  of the calendar.
-/

namespace Depot

/-- A year, a month from 1 to 12 and a day of the month from 1. -/
structure Date where
  /-- The year; zero is the year before year one. -/
  year : Int
  /-- The month. -/
  month : Nat
  /-- The day of the month. -/
  day : Nat
  deriving Repr, DecidableEq, Inhabited

namespace Date

/-- Whether a year has a 29th of February. -/
def isLeapYear (year : Int) : Bool :=
  year % 4 == 0 && (year % 100 != 0 || year % 400 == 0)

/-- The number of days of a month. -/
def daysInMonth (year : Int) (month : Nat) : Nat :=
  if month = 2 then (if isLeapYear year then 29 else 28)
  else if month = 4 ∨ month = 6 ∨ month = 9 ∨ month = 11 then 30
  else 31

/-- The month and the day exist. -/
def IsValid (d : Date) : Prop :=
  1 ≤ d.month ∧ d.month ≤ 12 ∧ 1 ≤ d.day ∧ d.day ≤ daysInMonth d.year d.month

instance (d : Date) : Decidable d.IsValid := by
  unfold IsValid
  infer_instance

/-- The day after. -/
def next (d : Date) : Date :=
  if d.day < daysInMonth d.year d.month then ⟨d.year, d.month, d.day + 1⟩
  else if d.month < 12 then ⟨d.year, d.month + 1, 1⟩
  else ⟨d.year + 1, 1, 1⟩

/-- The day before. -/
def previous (d : Date) : Date :=
  if 1 < d.day then ⟨d.year, d.month, d.day - 1⟩
  else if 1 < d.month then ⟨d.year, d.month - 1, daysInMonth d.year (d.month - 1)⟩
  else ⟨d.year - 1, 12, 31⟩

/-- Every month has a first day. -/
theorem daysInMonth_pos (year : Int) (month : Nat) : 1 ≤ daysInMonth year month := by
  unfold daysInMonth
  split
  · split <;> omega
  · split <;> omega

/-- The day after a day of the calendar is one. -/
theorem IsValid.next {d : Date} (h : d.IsValid) : d.next.IsValid := by
  obtain ⟨h₁, h₂, h₃, h₄⟩ := h
  unfold Date.next
  split
  · exact ⟨h₁, h₂, by simp only; omega, by simp only; omega⟩
  · split
    · exact ⟨by simp only; omega, by simp only; omega, Nat.le_refl _, daysInMonth_pos ..⟩
    · exact ⟨Nat.le_refl _, by simp only; omega, Nat.le_refl _, daysInMonth_pos ..⟩

/-- The day before a day of the calendar is one. -/
theorem IsValid.previous {d : Date} (h : d.IsValid) : d.previous.IsValid := by
  obtain ⟨h₁, h₂, h₃, h₄⟩ := h
  unfold Date.previous
  split
  · exact ⟨h₁, h₂, by simp only; omega, by simp only; omega⟩
  · split
    · exact ⟨by simp only; omega, by simp only; omega, daysInMonth_pos .., Nat.le_refl _⟩
    · exact ⟨by simp only; omega, Nat.le_refl _, by simp only; omega, by simp [daysInMonth]⟩

/-- The days of the first months of a year. -/
def daysInMonths (year : Int) : Nat → Nat
  | 0 => 0
  | months + 1 => daysInMonths year months + daysInMonth year (months + 1)

/-- The days of a year before a month. -/
def daysBeforeMonth (year : Int) (month : Nat) : Nat := daysInMonths year (month - 1)

/-- The number of a day, counted from 1 January 1970. -/
def dayNumber (d : Date) : Int :=
  let y := d.year - 1
  365 * y + y / 4 - y / 100 + y / 400 + daysBeforeMonth d.year d.month + (d.day - 1) - 719162

end Date

end Depot
