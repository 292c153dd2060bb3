import RowSieve.Calendar.Instant
import RowSieve.Number.Decimal

/-!
# Written Dates and Times

The one way dates and times are written. A year has at least four digits, and
one that needs more, or is negative, carries its sign, so that a year is never
confused with the digits beside it. The fraction of a second is left out when
it is zero and otherwise has three, six or nine digits, the fewest that are
exact.

A fraction of one second or more is written as a fraction of the next second,
which is second 60 where it belongs to a leap second.

Two things vary: the mark between date and time, and whether the fraction is
written at all.

## Main definitions

* `yearText`: A year.
* `Day.text`: A day as `YYYY-MM-DD`.
* `Clock.shownSecond`, `Clock.shownNano`: The second that is written and the
  fraction beside it.
* `Clock.text`: A clock reading with its fraction.
* `Clock.wholeText`: A clock reading without its fraction.
* `Moment.text`: A day and a clock reading with a `T` between them.
* `DateTime.isoText`, `DateTime.spacedText`, `DateTime.wholeText`: The three
  forms of a date-time.
-/

namespace RowSieve

namespace Calendar

/-- A year: four digits, or a sign and at least four. -/
def yearText (year : Int) : List Char :=
  if 0 ≤ year ∧ year ≤ 9999 then Decimal.padded 4 year.toNat
  else (if year < 0 then '-' else '+') :: Decimal.padded 4 year.natAbs

/-- A day as `YYYY-MM-DD`. -/
def Day.text (d : Day) : List Char :=
  yearText d.year ++ '-' :: Decimal.padded 2 d.month ++ '-' :: Decimal.padded 2 d.day

/-- A fraction of a second: nothing for zero, else three, six or nine digits. -/
def fractionText (nano : Nat) : List Char :=
  if nano = 0 then []
  else if nano % 1000000 = 0 then '.' :: Decimal.padded 3 (nano / 1000000)
  else if nano % 1000 = 0 then '.' :: Decimal.padded 6 (nano / 1000)
  else '.' :: Decimal.padded 9 nano

namespace Clock

/-- The second that is written. -/
def shownSecond (c : Clock) : Nat := c.second + c.nano / 1000000000

/-- The fraction that is written beside it, in nanoseconds. -/
def shownNano (c : Clock) : Nat := c.nano % 1000000000

/-- A clock reading as `HH:MM:SS`. -/
def wholeText (c : Clock) : List Char :=
  Decimal.padded 2 c.hour ++ ':' :: Decimal.padded 2 c.minute ++
    ':' :: Decimal.padded 2 c.shownSecond

/-- A clock reading as `HH:MM:SS` and its fraction. -/
def text (c : Clock) : List Char := c.wholeText ++ fractionText c.shownNano

end Clock

/-- A day and a clock reading with a `T` between them. -/
def Moment.text (m : Moment) : List Char := m.day.text ++ 'T' :: m.clock.text

namespace DateTime

/-- The form in which date-times are exchanged: a `T` in the middle. -/
def isoText (t : DateTime) : List Char := t.date.text ++ 'T' :: t.time.text

/-- The form in which date-times are shown: a blank in the middle. -/
def spacedText (t : DateTime) : List Char := t.date.text ++ ' ' :: t.time.text

/-- The form that patterns use: a `T` in the middle and no fraction, so that
    it occurs in the text of every instant of that second. -/
def wholeText (t : DateTime) : List Char := t.date.text ++ 'T' :: t.time.wholeText

end DateTime

end Calendar

end RowSieve
