import RowSieve.Calendar.Instant
import RowSieve.Proofs.Calendar.DayNumbers

/-!
# The Ends of a Day in Ticks

The supported dates span a little more than half a million years, and the day
numbers of all of them are far from the limits of 64 bits. In nanoseconds the
same span is too long: 64 bits reach from 1677 to 2262 there.

The first reading of a day is a multiple of a day of nanoseconds, and the last
one is a nanosecond short of the next multiple. A count of ticks lies between
the two exactly if it falls on that day. No tick of any unit is cut in two by
the end of a day, so the count can be compared in nanoseconds, of as many
digits as that takes.

## Main definitions

* `Fits64`: An integer fits 64 bits with a sign.
* `TimeUnit.dayOf`: The day that a count of ticks falls on.

## Theorems

* `Date.dayNumber_lower`, `Date.dayNumber_upper`: The span of day numbers.
* `Date.val_wrap_dayNumber`: They fit 32 bits.
* `DateTime.unixNano_startOfDay`, `DateTime.unixNano_endOfDay`: The ends of a
  day in nanoseconds.
* `TimeUnit.startOfDay_le_iff`, `TimeUnit.le_endOfDay_iff`: The ends of a day
  as bounds on counts.
-/

namespace RowSieve

/-- The integer fits 64 bits with a sign. -/
def Fits64 (n : Int) : Prop := -9223372036854775808 ≤ n ∧ n ≤ 9223372036854775807

instance (n : Int) : Decidable (Fits64 n) :=
  inferInstanceAs (Decidable (_ ∧ _))

namespace Calendar

/-- The first supported year begins 96465292 days before day 0. -/
theorem number_firstYear : firstDayOfYearOne + daysBeforeYear (-262143) = -96465292 := by decide

/-- The year after the last supported one begins 95026237 days after day 0. -/
theorem number_yearAfterLast : firstDayOfYearOne + daysBeforeYear 262143 = 95026237 := by decide

namespace Date

theorem dayNumber_lower (d : Date) : -96465292 ≤ d.dayNumber := by
  have hyear := mt (Day.number_lt_iff_year_lt d.valid (-262143)).mp (Int.not_lt.mpr d.year_lower)
  rw [number_firstYear] at hyear
  exact Int.not_lt.mp hyear

theorem dayNumber_upper (d : Date) : d.dayNumber ≤ 95026236 := by
  have hyear := (Day.number_lt_iff_year_lt d.valid 262143).mpr (Int.lt_add_one_of_le d.year_upper)
  rw [number_yearAfterLast] at hyear
  exact Int.le_of_lt_add_one hyear

/-- So they are not wrapped when they are kept in 32 bits. -/
theorem val_wrap_dayNumber (d : Date) : (Signed32.wrap d.dayNumber).val = d.dayNumber := by
  have hlower := d.dayNumber_lower
  have hupper := d.dayNumber_upper
  exact Int.bmod_eq_of_le (by omega) (by omega)

end Date

namespace DateTime

theorem unixSecond_startOfDay (t : DateTime) :
    t.startOfDay.unixSecond = t.date.dayNumber * 86400 := by
  simp only [unixSecond, startOfDay, Time.first]
  omega

theorem subsecond_startOfDay (t : DateTime) : t.startOfDay.subsecond = 0 := rfl

theorem unixSecond_endOfDay (t : DateTime) :
    t.endOfDay.unixSecond = t.date.dayNumber * 86400 + 86399 := by
  simp only [unixSecond, endOfDay, Time.last]
  omega

theorem subsecond_endOfDay (t : DateTime) : t.endOfDay.subsecond = 999999999 := rfl

/-- The first reading of a day in nanoseconds. -/
theorem unixNano_startOfDay (t : DateTime) :
    t.startOfDay.unixNano = t.date.dayNumber * 86400000000000 := by
  rw [unixNano, unixSecond_startOfDay, subsecond_startOfDay]
  omega

/-- The last reading of a day in nanoseconds, one short of the next day. -/
theorem unixNano_endOfDay (t : DateTime) :
    t.endOfDay.unixNano = (t.date.dayNumber + 1) * 86400000000000 - 1 := by
  rw [unixNano, unixSecond_endOfDay, subsecond_endOfDay]
  omega

end DateTime

/-- The day that a count of ticks falls on, counted from day 0 and rounded
    down. -/
def TimeUnit.dayOf (unit : TimeUnit) (count : Int) : Int := count / (86400 * unit.perSecond)

namespace TimeUnit

/-- A count is not before the first reading of a day exactly if it falls on
    that day or a later one, whatever its unit. -/
theorem startOfDay_le_iff (unit : TimeUnit) (day count : Int) :
    day * 86400000000000 ≤ count * unit.nanos ↔ day ≤ unit.dayOf count := by
  cases unit <;> simp only [dayOf, perSecond, nanos] <;> omega

/-- A count is not after the last reading of a day exactly if it falls on that
    day or an earlier one, whatever its unit. -/
theorem le_endOfDay_iff (unit : TimeUnit) (day count : Int) :
    count * unit.nanos ≤ (day + 1) * 86400000000000 - 1 ↔ unit.dayOf count ≤ day := by
  cases unit <;> simp only [dayOf, perSecond, nanos] <;> omega

end TimeUnit

end Calendar

end RowSieve
