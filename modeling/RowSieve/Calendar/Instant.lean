import RowSieve.Bounded
import RowSieve.Calendar.DateTime

/-!
# Instants as Counts of Ticks

A column of instants stores a count of ticks since 1970-01-01T00:00:00, in one
of four units. A date-time can be brought to such a count only when nothing of
it is lost, and the count has to fit 64 bits. `DateTime.ticks?` is that
conversion, and it is the only place that decides whether a date-time can be
compared with a column in the column's own unit.

A leap second has no count of its own. It is second 59 with a fraction of one
second or more, so the count runs on through the leap second and into the next
minute. A count in whole seconds is therefore exact only for a fraction of
zero, not for a fraction of exactly one second.

Nanoseconds are counted in two steps, and both have to fit. Before 1970 the
first step goes to the next whole second and the second one back from there, so
that the first moments of the range are not lost. A fraction of one second or
more goes forward instead, and in the very first second it misses the range
although the count itself would fit.

## Main definitions

* `TimeUnit`: The four units of a count.
* `DateTime.unixSecond`, `DateTime.subsecond`: A date-time as a whole second
  and nanoseconds beyond it.
* `DateTime.nanoTicks?`: The count of nanoseconds, if 64 bits hold it.
* `DateTime.ticks?`: The exact count in a unit, if there is one.
* `Moment`: A day and a clock reading, whatever the year.
* `Moment.ofTicks`: What a count stands for, some seconds east of Greenwich.
-/

namespace RowSieve

namespace Calendar

/-- The unit of a count of ticks. -/
inductive TimeUnit where
  | second
  | millisecond
  | microsecond
  | nanosecond
deriving DecidableEq

namespace TimeUnit

/-- Ticks in a second. -/
def perSecond : TimeUnit → Nat
  | .second => 1
  | .millisecond => 1000
  | .microsecond => 1000000
  | .nanosecond => 1000000000

/-- Nanoseconds in a tick. -/
def nanos : TimeUnit → Nat
  | .second => 1000000000
  | .millisecond => 1000000
  | .microsecond => 1000
  | .nanosecond => 1

end TimeUnit

namespace DateTime

/-- Whole seconds since 1970-01-01T00:00:00. -/
def unixSecond (t : DateTime) : Int :=
  t.date.dayNumber * 86400 + (t.time.hour * 3600 + t.time.minute * 60 + t.time.second : Nat)

/-- Nanoseconds beyond the whole second, one second or more in a leap second. -/
def subsecond (t : DateTime) : Nat := t.time.nano

/-- Nanoseconds since 1970-01-01T00:00:00. -/
def unixNano (t : DateTime) : Int := t.unixSecond * 1000000000 + t.subsecond

/-- The whole second from which nanoseconds are counted: the next one before
    1970, and its own from then on. -/
def countedSecond (t : DateTime) : Int :=
  if t.unixSecond < 0 then t.unixSecond + 1 else t.unixSecond

/-- The count of nanoseconds, if 64 bits hold it and the whole second it is
    counted from. -/
def nanoTicks? (t : DateTime) : Option Signed64 := do
  let whole : Signed64 ← Bounded.ofInt? (t.countedSecond * 1000000000)
  Bounded.ofInt? (whole.val + (t.unixNano - t.countedSecond * 1000000000))

/-- The count of ticks that stands for exactly this date-time. There is none
    if the unit is too coarse for its fraction or the count too large. -/
def ticks? (t : DateTime) : TimeUnit → Option Signed64
  | .second => if t.subsecond = 0 then Bounded.ofInt? t.unixSecond else none
  | .nanosecond => t.nanoTicks?
  | unit =>
    if t.subsecond % unit.nanos = 0 then
      Bounded.ofInt? (t.unixSecond * unit.perSecond + (t.subsecond / unit.nanos : Nat))
    else none

end DateTime

/-- A day and a reading of the clock, whatever the year. -/
structure Moment where
  day : Day
  clock : Clock
deriving DecidableEq

namespace Moment

/-- What a count of ticks stands for on a clock that is `east` seconds ahead.
    Counts before 1970 round down, so the clock never runs backwards. -/
def ofTicks (unit : TimeUnit) (east count : Int) : Moment :=
  let second := count / unit.perSecond + east
  let nano := count % unit.perSecond * unit.nanos
  ⟨Day.ofNumber (second / 86400), Clock.ofSecondOfDay (second % 86400).toNat nano.toNat⟩

end Moment

/-- The count of ticks falls on a supported date. -/
def TimeUnit.supports (unit : TimeUnit) (count : Int) : Bool :=
  (Date.ofDayNumber? (count / unit.perSecond / 86400)).isSome

end Calendar

end RowSieve
