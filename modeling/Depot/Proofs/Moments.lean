import Depot.Time.Timestamp
import Mathlib.Tactic.Lemma

set_option autoImplicit false

/-!
# Written moments

The written form of a moment is read as the same moment, and a local time with an offset from UTC
is read as the moment in UTC that it stands for.

## Main definitions

* `Timestamp.clockChars` — the written form up to the offset.
* `Timestamp.Offset` — offsets from UTC of less than a day.
* `Timestamp.localText` — a local time with its offset.
* `Timestamp.IsInstantOf` — a moment in UTC is the instant of a local time.

## Main results

* `Date.dayNumber_next`, `Date.dayNumber_previous` — the days are numbered in their order.
* `Timestamp.parse?_text` — a moment is read back from its text.
* `Timestamp.parse?_localText` — a local time is read as the moment in UTC that it stands for.
* `Timestamp.isInstantOf_shift` — that moment is the same instant.
-/

namespace Depot

/-! ## Days in order -/

namespace Date

/-- No month has more than 31 days. -/
lemma daysInMonth_le (year : Int) (month : Nat) : daysInMonth year month ≤ 31 := by
  unfold daysInMonth
  split
  · split <;> omega
  · split <;> omega

/-- Before the next month there are the days before this one, and its own. -/
lemma daysBeforeMonth_succ (year : Int) {month : Nat} (h : 1 ≤ month) :
    daysBeforeMonth year (month + 1) = daysBeforeMonth year month + daysInMonth year month := by
  obtain ⟨m, rfl⟩ := Nat.exists_eq_add_of_le' h
  rfl

/-- The days of a year before December. -/
lemma daysBeforeMonth_december (year : Int) :
    daysBeforeMonth year 12 = if isLeapYear year then 335 else 334 := by
  by_cases h : isLeapYear year <;> simp [daysBeforeMonth, daysInMonths, daysInMonth, h]

/-- The first day of a year has the number after the last day of the year before.

**Proof sketch.** A year has 365 days, or 366 if it is a leap year, and the number of leap years
before a year grows by one exactly after such a year. -/
lemma dayNumber_newYear (year : Int) :
    dayNumber ⟨year + 1, 1, 1⟩ = dayNumber ⟨year, 12, 31⟩ + 1 := by
  have hdec := daysBeforeMonth_december year
  have hleap : isLeapYear year = true ↔ year % 4 = 0 ∧ (year % 100 ≠ 0 ∨ year % 400 = 0) := by
    simp [isLeapYear]
  have hjan : daysBeforeMonth (year + 1) 1 = 0 := rfl
  simp only [dayNumber, hdec, hjan]
  split
  · next h =>
    have := hleap.1 h
    omega
  · next h =>
    have := mt hleap.2 h
    omega

/-- The days of the calendar are numbered in their order.

**Proof sketch.** The next day is in the same month, the first of the next month, or the first of
the next year; the days of the months and years before then grow by what has gone. -/
theorem dayNumber_next {d : Date} (h : d.IsValid) : d.next.dayNumber = d.dayNumber + 1 := by
  obtain ⟨y, m, n⟩ := d
  obtain ⟨h₁, h₂, h₃, h₄⟩ := h
  simp only at h₁ h₂ h₃ h₄
  unfold next
  split
  · simp only [dayNumber]
    omega
  have hlast : n = daysInMonth y m := by simp only at *; omega
  split
  · have := daysBeforeMonth_succ y h₁
    simp only [dayNumber]
    omega
  · -- the last day of a year
    obtain rfl : m = 12 := by simp only at *; omega
    obtain rfl : n = 31 := hlast
    exact dayNumber_newYear y

/-- The day after the day before is the day itself.

**Proof sketch.** The day before is in the same month, the last of the month before, or the last of
the year before, and in each case the next one is the day again. -/
lemma next_previous {d : Date} (h : d.IsValid) : d.previous.next = d := by
  obtain ⟨y, m, n⟩ := d
  obtain ⟨h₁, h₂, h₃, h₄⟩ := h
  simp only at h₁ h₂ h₃ h₄
  by_cases hn : 1 < n
  · have hp : previous ⟨y, m, n⟩ = ⟨y, m, n - 1⟩ := if_pos hn
    rw [hp, next, if_pos (by simp only; omega), Nat.sub_add_cancel h₃]
  obtain rfl : n = 1 := by omega
  by_cases hm : 1 < m
  · have hp : previous ⟨y, m, 1⟩ = ⟨y, m - 1, daysInMonth y (m - 1)⟩ := by
      rw [previous, if_neg (Nat.lt_irrefl _), if_pos hm]
    rw [hp, next, if_neg (Nat.lt_irrefl _), if_pos (by simp only; omega),
      Nat.sub_add_cancel h₁]
  · obtain rfl : m = 1 := by omega
    simp [previous, next, daysInMonth]

/-- The day before has the number before. -/
theorem dayNumber_previous {d : Date} (h : d.IsValid) :
    d.previous.dayNumber = d.dayNumber - 1 := by
  have := dayNumber_next h.previous
  rw [next_previous h] at this
  omega

/-- The next day is in the same year or in the next one. -/
lemma year_next (d : Date) : d.next.year = d.year ∨ d.next.year = d.year + 1 := by
  unfold next
  split
  · exact .inl rfl
  split
  · exact .inl rfl
  · exact .inr rfl

/-- The day before is in the same year or in the one before. -/
lemma year_previous (d : Date) : d.previous.year = d.year ∨ d.previous.year = d.year - 1 := by
  unfold previous
  split
  · exact .inl rfl
  split
  · exact .inl rfl
  · exact .inr rfl

end Date

namespace Timestamp

/-! ## Digits -/

/-- A number with leading zeros consists of digits. -/
lemma isDigit_padded (width n : Nat) : ∀ c ∈ padded width n, c.isDigit = true := by
  intro c h
  rcases List.mem_append.1 h with h | h
  · rw [List.eq_of_mem_replicate h]
    rfl
  · exact Nat.isDigit_of_mem_toDigits (by decide) (by decide) h

/-- A number with leading zeros has a digit. -/
lemma padded_ne_nil (width n : Nat) : padded width n ≠ [] :=
  fun h => Nat.toDigits_ne_nil (List.append_eq_nil_iff.1 h).2

/-- A number that fits has as many digits as there is room for. -/
lemma length_padded {width n : Nat} (hw : 0 < width) (h : n < Nat.pow 10 width) :
    (padded width n).length = width := by
  have := (Nat.length_toDigits_le_iff (by decide) hw).2 h
  simp only [padded, List.length_append, List.length_replicate]
  omega

/-- Zeros behind the digits scale the number, zeros before them do not count. -/
lemma digitsValue_padded_append (width n zeros : Nat) :
    digitsValue (padded width n ++ List.replicate zeros '0') = Nat.pow 10 zeros * n := by
  change Nat.ofDigitChars 10 _ 0 = _
  simp [padded, Nat.ofDigitChars_append]

/-- A number with leading zeros has its value. -/
lemma digitsValue_padded (width n : Nat) : digitsValue (padded width n) = n := by
  simpa using digitsValue_padded_append width n 0

/-- A digit is no blank. -/
lemma isBlank_of_isDigit {c : Char} (h : c.isDigit = true) : Text.isBlank c = false := by
  simp only [Char.isDigit, Bool.and_eq_true, decide_eq_true_eq, ge_iff_le,
    UInt32.le_iff_toNat_le] at h
  have hc : 48 ≤ c.toNat ∧ c.toNat ≤ 57 := h
  simp [Text.isBlank]
  omega

/-- The text does not go on with a digit. -/
def Stops (rest : List Char) : Prop := ∀ c ∈ rest.head?, c.isDigit = false

/-- A number ends before a character that is no digit. -/
lemma stops_cons {c : Char} (h : c.isDigit = false) (cs : List Char) : Stops (c :: cs) := by
  rintro _ ⟨⟩
  exact h

/-- The longest run of digits ends where the text does not go on with one. -/
lemma takeWhile_append {ds rest : List Char} (hd : ∀ c ∈ ds, c.isDigit = true)
    (hr : Stops rest) : (ds ++ rest).takeWhile (·.isDigit) = ds := by
  rw [List.takeWhile_append_of_pos hd]
  rcases rest with - | ⟨c, cs⟩
  · simp
  · simp [hr c rfl]

/-- Digits are no blanks to be skipped. -/
lemma trimBlanksLeft_append {ds : List Char} (hne : ds ≠ [])
    (hd : ∀ c ∈ ds, c.isDigit = true) (rest : List Char) :
    Text.trimBlanksLeft (ds ++ rest) = ds ++ rest := by
  rcases ds with - | ⟨c, cs⟩
  · exact absurd rfl hne
  · have := isBlank_of_isDigit (hd c (List.mem_cons_self ..))
    simp [Text.trimBlanksLeft, this]

/-- A number is read to its last digit, or as far as there is room for.

**Proof sketch.** The digits are read as they fit into the width, and nothing more is: either the
width is used up, or what follows is no digit. -/
lemma number?_append {width : Nat} {ds rest : List Char} (hne : ds ≠ [])
    (hd : ∀ c ∈ ds, c.isDigit = true) (hw : ds.length ≤ width)
    (hr : ds.length = width ∨ Stops rest) :
    number? width (ds ++ rest) = some (digitsValue ds, rest) := by
  have hrun : ((ds ++ rest).take width).takeWhile (·.isDigit) = ds := by
    rw [List.take_append, List.take_of_length_le hw]
    refine takeWhile_append hd ?_
    rcases hr with rfl | hr
    · simp [Stops]
    · intro c hc
      refine hr c ?_
      rcases rest with - | ⟨d, rest⟩
      · simp at hc
      · cases h : width - ds.length <;> simp_all
  simp only [number?, trimBlanksLeft_append hne hd, hrun, List.isEmpty_iff, hne, if_false,
    List.drop_left]

/-- A number is read from its digits. -/
lemma number?_padded {width n : Nat} {rest : List Char} (w : Nat)
    (hw : (padded w n).length ≤ width) (hr : (padded w n).length = width ∨ Stops rest) :
    number? width (padded w n ++ rest) = some (n, rest) := by
  rw [number?_append (padded_ne_nil w n) (isDigit_padded w n) hw hr, digitsValue_padded]

/-- A number of two digits is read from them, whatever follows. -/
lemma number?_two {n : Nat} (h : n < 100) (rest : List Char) :
    number? 2 (padded 2 n ++ rest) = some (n, rest) :=
  have hl : (padded 2 n).length = 2 := length_padded (by decide) h
  number?_padded 2 (Nat.le_of_eq hl) (.inl hl)

/-! ## The parts of the written form -/

/-- A written number starts with a digit. -/
lemma exists_padded_eq_cons (width n : Nat) :
    ∃ d ds, padded width n = d :: ds ∧ d.isDigit = true := by
  obtain ⟨d, ds, hd⟩ := List.exists_cons_of_ne_nil (padded_ne_nil width n)
  exact ⟨d, ds, hd, isDigit_padded width n d (hd ▸ List.mem_cons_self ..)⟩

/-- A year is read back, with its sign if it has one.

**Proof sketch.** A year from 0 to 9999 has four digits and no sign, and as many are read. Any other
year has a sign, after which all digits are read. -/
lemma year?_yearChars (year : Int) {rest : List Char} (hr : Stops rest) :
    year? (yearChars year ++ rest) = some (year, rest) := by
  unfold yearChars
  split
  · next h =>
    have hl : (padded 4 year.toNat).length = 4 :=
      length_padded (by decide) (show year.toNat < 10000 by omega)
    have hn : number? 4 (padded 4 year.toNat ++ rest) = some (year.toNat, rest) :=
      number?_padded 4 (Nat.le_of_eq hl) (.inl hl)
    have ht := trimBlanksLeft_append (padded_ne_nil 4 year.toNat) (isDigit_padded 4 _) rest
    obtain ⟨d, ds, hd, hdigit⟩ := exists_padded_eq_cons 4 year.toNat
    rw [year?, ht]
    rw [hd, List.cons_append] at hn ⊢
    split
    · next heq => cases heq; cases hdigit
    · next heq => cases heq; cases hdigit
    · rw [hn]
      simp only [Option.map_some, Option.some.injEq, Prod.mk.injEq, and_true]
      omega
  · -- outside of the years 0 to 9999 the sign tells that all digits belong to the year
    have hn : number? (padded 4 year.natAbs ++ rest).length (padded 4 year.natAbs ++ rest)
        = some (year.natAbs, rest) := number?_padded 4 (by simp) (.inr hr)
    have hd : (padded 4 year.natAbs ++ rest).head?.any (·.isDigit) = true := by
      obtain ⟨d, ds, hd, hdigit⟩ := exists_padded_eq_cons 4 year.natAbs
      simp [hd, hdigit]
    rw [List.cons_append]
    split
    · have ht : Text.trimBlanksLeft ('-' :: (padded 4 year.natAbs ++ rest))
          = '-' :: (padded 4 year.natAbs ++ rest) := rfl
      simp only [year?, ht, hd, if_true, hn, Option.map_some, Option.some.injEq, Prod.mk.injEq,
        and_true]
      omega
    · have ht : Text.trimBlanksLeft ('+' :: (padded 4 year.natAbs ++ rest))
          = '+' :: (padded 4 year.natAbs ++ rest) := rfl
      simp only [year?, ht, hd, if_true, hn, Option.map_some, Option.some.injEq, Prod.mk.injEq,
        and_true]
      omega

/-- A fraction of up to nine digits is scaled to nanoseconds. -/
lemma fraction?_padded {width n : Nat} {rest : List Char} (hw : 0 < width) (h9 : width ≤ 9)
    (h : n < Nat.pow 10 width) (hr : Stops rest) :
    fraction? ('.' :: padded width n ++ rest) = some (Nat.pow 10 (9 - width) * n, rest) := by
  have hl := length_padded hw h
  have hrun := takeWhile_append (isDigit_padded width n) hr
  have ht : (padded width n).take 9 = padded width n := List.take_of_length_le (by omega)
  simp only [fraction?, List.cons_append, hrun, List.isEmpty_iff, padded_ne_nil, if_false, ht, hl,
    digitsValue_padded_append]
  rw [List.drop_left' hl]

/-- Nanoseconds are read back from the fraction of a second.

**Proof sketch.** By the number of digits that are written, which is none, three, six or nine; what
was left out is a power of ten by which the nanoseconds can be divided. -/
lemma fraction?_fractionChars {nanos : Nat} (h : nanos < 1000000000) {c : Char}
    (hc : c.isDigit = false) (hdot : c ≠ '.') (rest : List Char) :
    fraction? (fractionChars nanos ++ c :: rest) = some (nanos, c :: rest) := by
  have hr := stops_cons hc rest
  unfold fractionChars
  split
  · simp_all [fraction?]
  split
  · have hm : 1000000 * (nanos / 1000000) = nanos := by omega
    rw [fraction?_padded (by decide) (by decide) (show nanos / 1000000 < 1000 by omega) hr]
    exact congrArg (fun n => some (n, c :: rest)) hm
  split
  · have hm : 1000 * (nanos / 1000) = nanos := by omega
    rw [fraction?_padded (by decide) (by decide) (show nanos / 1000 < 1000000 by omega) hr]
    exact congrArg (fun n => some (n, c :: rest)) hm
  · rw [fraction?_padded (by decide) (by decide) h hr]
    exact congrArg (fun n => some (n, c :: rest)) (Nat.one_mul nanos)

/-- The written form without its offset. -/
def clockChars (t : Timestamp) : List Char :=
  yearChars t.date.year ++ '-' :: padded 2 t.date.month ++ '-' :: padded 2 t.date.day
    ++ 'T' :: padded 2 t.hour ++ ':' :: padded 2 t.minute ++ ':' :: padded 2 t.second
    ++ fractionChars t.nanos

/-- A local time is read with the offset that follows it.

**Proof sketch.** The parts of the text are read one after the other: the year up to the dash, then
two digits for each part, the fraction, and the offset. All parts are in range, as the time is
valid. -/
lemma parseChars?_clockChars (t : Timestamp) (hy : inRange t.date.year) {c : Char}
    {zone : List Char} {offset : Int} (hc : c.isDigit = false) (hdot : c ≠ '.')
    (hz : offset? (c :: zone) = some (offset, [])) (hs : inRange (t.shift offset).date.year) :
    parseChars? (t.clockChars ++ c :: zone) = some (t.shift offset) := by
  obtain ⟨hd, hh, hm, hsec, hn⟩ := t.isValid
  obtain ⟨-, hmonth, -, hday⟩ := hd
  have hday := Nat.le_trans hday (Date.daysInMonth_le ..)
  have hdash : ∀ cs, separator? '-' ('-' :: cs) = some cs := fun _ => rfl
  have hcolon : ∀ cs, separator? ':' (':' :: cs) = some cs := fun _ => rfl
  have hT : ∀ cs, afterDate? ('T' :: cs) = some cs := fun _ => rfl
  have hyear := fun cs => year?_yearChars t.date.year (stops_cons (c := '-') rfl cs)
  have hsome : ∀ {α β : Type} (a : α) (f : α → Option β), some a >>= f = f a := fun _ _ => rfl
  simp only [parseChars?, clockChars, List.append_assoc, List.cons_append, hyear, hdash, hcolon, hT,
    number?_two (show t.date.month < 100 by omega), number?_two (show t.date.day < 100 by omega),
    number?_two (show t.hour < 100 by omega), number?_two (show t.minute < 100 by omega),
    number?_two (show t.second < 100 by omega), fraction?_fractionChars hn hc hdot, hz, hsome]
  rw [if_pos ⟨rfl, hy⟩, dif_pos t.isValid, if_pos hs]
  rfl

/-! ## Moments in UTC -/

/-- An offset of nothing leaves the time as it is. -/
lemma shift_zero (t : Timestamp) : t.shift 0 = t := by
  obtain ⟨date, hour, minute, second, nanos, hd, hh, hm, hs, hn⟩ := t
  simp only [shift, Timestamp.mk.injEq, and_true]
  refine ⟨?_, by omega, by omega⟩
  rw [if_neg (by omega), if_neg (by omega)]

/-- **A moment is read back from its text.** -/
theorem parse?_text {t : Timestamp} (h : inRange t.date.year) : parse? t.text = some t := by
  have hzone : offset? ['Z'] = some (0, []) := rfl
  have hp := t.parseChars?_clockChars h rfl (by decide) hzone (by rwa [shift_zero])
  rw [shift_zero] at hp
  rw [parse?, text, String.toList_ofList]
  exact hp

/-! ## Local times -/

/-- An offset from UTC of less than a day. -/
structure Offset where
  /-- Whether the local time is behind UTC. -/
  west : Bool
  /-- The hours. -/
  hours : Nat
  /-- The minutes. -/
  minutes : Nat
  /-- The hours and minutes are those of a time of day. -/
  isValid : hours < 24 ∧ minutes < 60

namespace Offset

/-- The offset in minutes, positive to the east. -/
def total (o : Offset) : Int :=
  if o.west then -(60 * o.hours + o.minutes : Nat) else (60 * o.hours + o.minutes : Nat)

/-- The offset after a local time. -/
def chars (o : Offset) : List Char :=
  (if o.west then '-' else '+') :: padded 2 o.hours ++ ':' :: padded 2 o.minutes

end Offset

/-- A local time with its offset from UTC. -/
def localText (t : Timestamp) (o : Offset) : String := String.ofList (t.clockChars ++ o.chars)

/-- A number below 100 is read back from two digits. -/
lemma twoDigits?_padded {n : Nat} (h : n < 100) (rest : List Char) :
    twoDigits? (padded 2 n ++ rest) = some (n, rest) := by
  have hl : (padded 2 n).length = 2 := length_padded (by decide) h
  have hv := digitsValue_padded 2 n
  obtain ⟨a, b, hab⟩ : ∃ a b, padded 2 n = [a, b] := by
    match padded 2 n, hl with
    | [a, b], _ => exact ⟨a, b, rfl⟩
  have ha : a.isDigit = true := isDigit_padded 2 n a (by simp [hab])
  have hb : b.isDigit = true := isDigit_padded 2 n b (by simp [hab])
  rw [hab] at hv
  simp [hab, twoDigits?, ha, hb, hv]

/-- An offset is read back.

**Proof sketch.** Hours and minutes are read back from two digits each, around a colon that is
passed over; the sign tells which way the offset goes. -/
lemma offset?_chars (o : Offset) : offset? o.chars = some (o.total, []) := by
  obtain ⟨hh, hm⟩ := o.isValid
  have hskip : (':' :: padded 2 o.minutes).dropWhile (fun c => c = ':' || Text.isBlank c)
      = padded 2 o.minutes := by
    obtain ⟨d, ds, hd, hdigit⟩ := exists_padded_eq_cons 2 o.minutes
    have hcolon : d ≠ ':' := by
      rintro rfl
      cases hdigit
    simp [hd, hcolon, isBlank_of_isDigit hdigit]
  have hminutes := twoDigits?_padded (n := o.minutes) (by omega) []
  rw [List.append_nil] at hminutes
  have hread : offsetMinutes? (padded 2 o.hours ++ ':' :: padded 2 o.minutes)
      = some (60 * o.hours + o.minutes, []) := by
    simp [offsetMinutes?, twoDigits?_padded (show o.hours < 100 by omega), hskip, hminutes, hh, hm]
  have htrim : ∀ c cs, c = '+' ∨ c = '-' → Text.trimBlanksLeft (c :: cs) = c :: cs := by
    rintro _ cs (rfl | rfl) <;> rfl
  rw [Offset.chars, Offset.total, List.cons_append]
  split
  · rw [offset?, htrim _ _ (.inr rfl)]
    simp only [hread, Option.map_some]
  · rw [offset?, htrim _ _ (.inl rfl)]
    simp only [hread, Option.map_some]

/-- The seconds of a moment in UTC are those of the local time without the offset. -/
lemma epochSeconds_shift (t : Timestamp) {offset : Int} (h : -1440 < offset ∧ offset < 1440) :
    (t.shift offset).epochSeconds = t.epochSeconds - 60 * offset := by
  obtain ⟨hd, hh, hm, -, -⟩ := t.isValid
  have hnext := Date.dayNumber_next hd
  have hprevious := Date.dayNumber_previous hd
  simp only [epochSeconds, shift]
  split
  · rw [hprevious]
    omega
  split
  · rw [hnext]
    omega
  · omega

/-- A moment in UTC is the instant of a local time: without the offset, their seconds since 1970
are the same. The second within the minute tells a leap second from the second after it. -/
structure IsInstantOf (u t : Timestamp) (o : Offset) : Prop where
  epochSeconds_eq : u.epochSeconds = t.epochSeconds - 60 * o.total
  second_eq : u.second = t.second
  nanos_eq : u.nanos = t.nanos

/-- **A local time and the moment in UTC that it is read as are the same instant.** -/
theorem isInstantOf_shift (t : Timestamp) (o : Offset) : (t.shift o.total).IsInstantOf t o where
  epochSeconds_eq := by
    obtain ⟨hh, hm⟩ := o.isValid
    refine t.epochSeconds_shift ?_
    unfold Offset.total
    split <;> omega
  second_eq := rfl
  nanos_eq := rfl

/-- The year of a local time and the year in UTC differ by at most one. -/
lemma year_shift (t : Timestamp) (offset : Int) :
    t.date.year - 1 ≤ (t.shift offset).date.year ∧
      (t.shift offset).date.year ≤ t.date.year + 1 := by
  have hnext := Date.year_next t.date
  have hprevious := Date.year_previous t.date
  simp only [shift]
  split
  · omega
  split
  · omega
  · omega

/-- **A local time is read** as the moment in UTC that it stands for. -/
theorem parse?_localText {t : Timestamp} (o : Offset) (h : inRange t.date.year)
    (hs : inRange (t.shift o.total).date.year) :
    parse? (t.localText o) = some (t.shift o.total) := by
  have hsign : ∀ b : Bool, (if b then '-' else '+').isDigit = false ∧
      (if b then '-' else '+') ≠ '.' := by decide
  rw [parse?, localText, String.toList_ofList]
  exact t.parseChars?_clockChars h (hsign o.west).1 (hsign o.west).2 (offset?_chars o) hs

example : parse? "2024-02-29t23:30:00.5-01:30"
    = some ⟨⟨2024, 3, 1⟩, 1, 0, 0, 500000000, by decide⟩ := by decide +kernel

/-- What is read has a year that can be written.

**Proof sketch.** A text is read part by part, and what was read is given only if its year is in
range. -/
lemma inRange_of_parse? {s : String} {t : Timestamp} (h : parse? s = some t) :
    inRange t.date.year := by
  -- every part of the text is read before the years are looked at
  rw [parse?, parseChars?] at h
  iterate 13 obtain ⟨_, -, h⟩ := Option.bind_eq_some_iff.1 h
  dsimp only at h
  split at h
  · split at h
    · split at h
      · next hy =>
        cases h
        exact hy
      · cases h
    · cases h
  · cases h

end Timestamp

end Depot
