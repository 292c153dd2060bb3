/-!
# Dates and Day Numbers

The proleptic Gregorian calendar, in both directions: a date has a day number,
counted from 1970-01-01 as day 0, and every integer is the day number of one
date.

The arithmetic is done for all integers, with no range. A `Date` is then a
day of the calendar whose year lies in the supported span. Keeping the two
apart means that only `Date.ofDayNumber?` has to say what happens outside the
span, and that a local time which crosses the end of the span can still be
written down.

Day numbers are turned into dates by whole cycles: 400 years always hold
146097 days, and inside such a cycle only the last century and the last year
of four can be a day longer than the others, which is why two of the
quotients below are capped at 3.

## Main definitions

* `isLeap`, `daysInMonth`: The lengths of years and months.
* `daysBeforeYear`, `daysBeforeMonth`: Days that precede a year or a month.
* `Day`: A day of the calendar, whatever its year.
* `Day.number`: Days since 1970-01-01.
* `Day.ofNumber`: The day with a given number.
* `Date`: A day whose year is supported.
* `Date.ofParts?`: The date with given year, month and day of the month.
* `Date.ofDayNumber?`: The date with a given day number.
-/

namespace RowSieve

namespace Calendar

/-- Every fourth year is a leap year, except centuries not divisible by 400. -/
def isLeap (year : Int) : Bool :=
  year % 4 == 0 && (year % 100 != 0 || year % 400 == 0)

/-- The length of a month, counted from January as month 1. -/
def daysInMonth (year : Int) : Nat → Nat
  | 2 => if isLeap year then 29 else 28
  | 4 => 30
  | 6 => 30
  | 9 => 30
  | 11 => 30
  | _ => 31

/-- Days of a year that precede the first of a month. -/
def daysBeforeMonth (year : Int) : Nat → Nat
  | 0 => 0
  | 1 => 0
  | m + 2 => daysBeforeMonth year (m + 1) + daysInMonth year (m + 1)

/-- Days from the first of January of year 1 to that of the given year. -/
def daysBeforeYear (year : Int) : Int :=
  365 * (year - 1) + (year - 1) / 4 - (year - 1) / 100 + (year - 1) / 400

/-- The day number of 0001-01-01, which is 719162 days before day 0. -/
def firstDayOfYearOne : Int := -719162

/-- A day of the calendar: a year, a month from 1 and a day from 1. -/
structure Day where
  year : Int
  month : Nat
  day : Nat
deriving DecidableEq

namespace Day

/-- The month exists and has that many days. -/
def IsValid (d : Day) : Prop :=
  1 ≤ d.month ∧ d.month ≤ 12 ∧ 1 ≤ d.day ∧ d.day ≤ daysInMonth d.year d.month

instance (d : Day) : Decidable d.IsValid := by
  unfold IsValid
  infer_instance

/-- Days since 1970-01-01. -/
def number (d : Day) : Int :=
  firstDayOfYearOne + daysBeforeYear d.year + daysBeforeMonth d.year d.month + (d.day - 1)

/-- The month and the day of the month that lie `rest` days after the first
    of `month`, looking no more than `months` months ahead. -/
def monthAndDay (year : Int) : (months month rest : Nat) → Nat × Nat
  | 0, month, rest => (month, rest + 1)
  | months + 1, month, rest =>
    if rest < daysInMonth year month then (month, rest + 1)
    else monthAndDay year months (month + 1) (rest - daysInMonth year month)

/-- The day with the given number. -/
def ofNumber (n : Int) : Day :=
  let sinceYearOne := n - firstDayOfYearOne
  let cycle := sinceYearOne / 146097
  let inCycle := sinceYearOne % 146097
  -- The last of four centuries is a day longer, so the quotient is capped.
  let century := min 3 (inCycle / 36524)
  let inCentury := inCycle - 36524 * century
  let four := inCentury / 1461
  let inFour := inCentury % 1461
  -- The last of four years is a day longer as well.
  let single := min 3 (inFour / 365)
  let year := 400 * cycle + 100 * century + 4 * four + single + 1
  let (month, day) := monthAndDay year 11 1 (inFour - 365 * single).toNat
  ⟨year, month, day⟩

/-- Days are ordered by year, then month, then day of the month. -/
instance : Ord Day :=
  ⟨fun a b => (compare a.year b.year).then ((compare a.month b.month).then (compare a.day b.day))⟩

end Day

/-- A valid day whose year lies in the supported span. -/
structure Date extends Day where
  /-- The first supported year. -/
  year_lower : -262143 ≤ year
  /-- The last supported year. -/
  year_upper : year ≤ 262142
  /-- The month and the day of the month exist. -/
  valid : toDay.IsValid
deriving DecidableEq

namespace Date

/-- The date that is the given day, if the day exists and is supported. -/
def ofDay? (d : Day) : Option Date :=
  if h : (-262143 ≤ d.year ∧ d.year ≤ 262142) ∧ d.IsValid then
    some ⟨d, h.1.1, h.1.2, h.2⟩
  else none

/-- The date with the given year, month and day of the month. -/
def ofParts? (year : Int) (month day : Nat) : Option Date :=
  ofDay? ⟨year, month, day⟩

/-- Days since 1970-01-01. -/
def dayNumber (d : Date) : Int := d.toDay.number

/-- The date with the given day number, if its year is supported. -/
def ofDayNumber? (n : Int) : Option Date := ofDay? (Day.ofNumber n)

instance : Ord Date := ⟨fun a b => compare a.toDay b.toDay⟩

end Date

end Calendar

end RowSieve
