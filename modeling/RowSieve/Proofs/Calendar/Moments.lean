import RowSieve.Proofs.Calendar.Chronology
import RowSieve.Proofs.Calendar.ReadBack

/-!
# What Counts of Ticks Show

A count of ticks is shown as a day and a reading of the clock. It is taken apart
by division: first the ticks of a second, then the seconds of a day. Both
divisions round down, so a count before 1970 is taken apart like any other, and
what comes out is the date-time that the count stands for, whatever its unit.

Leap seconds are the one exception. A count cannot tell a leap second from the
second after it, and shows the latter. Nor can it tell any other fraction of one
second or more from a fraction of the next second, but there the text of the
date-time does the same, so the two agree.

## Theorems

* `TimeUnit.supports_iff`: Which counts have a date.
* `Moment.day_ofTicks`: Which date that is.
* `TimeUnit.split_count`: Counts are taken apart alike in every unit.
* `Moment.ofTicks_eq`: A count shows the date-time it stands for.
* `DateTime.unixNano_shown`, `DateTime.wholeText_shown`: A date-time and what its
  text denotes are the same moment and have the same text.
* `Moment.wholeText_prefix`: The text of a count starts with the text of the
  date-time, up to the second.
-/

namespace RowSieve

namespace Calendar

/-- A count of ticks has a date if its day is the day of one. -/
theorem TimeUnit.supports_iff {unit : TimeUnit} {count : Int} :
    unit.supports count = true ↔ ∃ d : Date, d.dayNumber = count / unit.perSecond / 86400 := by
  rw [supports, Option.isSome_iff_exists]
  exact exists_congr fun d => Date.ofDayNumber?_eq_some_iff

/-- The day of a count of ticks is that date. -/
theorem Moment.day_ofTicks {unit : TimeUnit} {count : Int} {d : Date}
    (h : d.dayNumber = count / unit.perSecond / 86400) :
    (Moment.ofTicks unit 0 count).day = d.toDay := by
  simp only [ofTicks, Int.add_zero]
  rw [← h]
  exact Day.ofNumber_number d.valid

/-- The seconds of a count and the nanoseconds beyond them are found by the same
    division in every unit. -/
theorem TimeUnit.split_count {unit : TimeUnit} {count second nano : Int}
    (hnano : 0 ≤ nano ∧ nano < 1000000000)
    (h : count * unit.nanos = second * 1000000000 + nano) :
    count / unit.perSecond = second ∧ count % unit.perSecond * unit.nanos = nano := by
  cases unit <;> simp only [perSecond, nanos] at h ⊢ <;> omega

section Exact

variable {unit : TimeUnit} {count : Int} {t : DateTime}

/-- A count that stands for a date-time outside leap seconds falls on its date. -/
theorem TimeUnit.day_of_unixNano (ht : t.time.nano < 1000000000)
    (h : count * unit.nanos = t.unixNano) :
    t.date.dayNumber = count / unit.perSecond / 86400 := by
  rcases t.time.valid with ⟨hhour, hminute, hsecond, -⟩
  rw [DateTime.unixNano_eq] at h
  rw [(split_count (by omega) h).1]
  omega

/-- It shows that date-time. -/
theorem Moment.ofTicks_eq (ht : t.time.nano < 1000000000) (h : count * unit.nanos = t.unixNano) :
    Moment.ofTicks unit 0 count = ⟨t.date.toDay, t.time.toClock⟩ := by
  have hday := day_ofTicks (TimeUnit.day_of_unixNano ht h)
  rcases t.time.valid with ⟨hhour, hminute, hsecond, -⟩
  rw [DateTime.unixNano_eq] at h
  rcases TimeUnit.split_count (by omega) h with ⟨hwhole, hrest⟩
  have hclock : (Moment.ofTicks unit 0 count).clock = t.time.toClock := by
    simp only [ofTicks, hwhole, hrest, Clock.ofSecondOfDay]
    rcases hclock : t.time.toClock with ⟨hour, minute, second, nano⟩
    simp only [hclock] at ht hhour hminute hsecond ⊢
    simp only [Clock.mk.injEq]
    omega
  rw [← hday, ← hclock]

end Exact

namespace DateTime

/-- What the text of a date-time denotes is the same moment. -/
theorem unixNano_shown (t : DateTime) : t.shown.unixNano = t.unixNano := by
  have hnano := t.time.valid.2.2.2
  simp only [unixNano, unixSecond, subsecond, shown, Time.shown, Clock.shown, Clock.ofText]
  split
  case isTrue hlast =>
    simp only [Clock.shownSecond, Clock.shownNano] at hlast ⊢
    omega
  case isFalse hlast =>
    simp only [Clock.shownSecond, Clock.shownNano] at hlast ⊢
    omega

/-- Unless that is a leap second, its fraction is below one second. -/
theorem nano_shown_lt {t : DateTime} (ht : t.time.shownSecond ≠ 60) :
    t.shown.time.nano < 1000000000 := by
  simp only [shown, Time.shown, Clock.shown, Clock.ofText, if_neg ht]
  exact t.time.shownNano_lt

/-- And it has the same text, up to the second. -/
theorem wholeText_shown {t : DateTime} (ht : t.time.shownSecond ≠ 60) :
    t.shown.wholeText = t.wholeText := by
  have hsecond : Clock.shownSecond ⟨t.time.hour, t.time.minute, t.time.shownSecond,
      t.time.shownNano⟩ = t.time.shownSecond := by
    rw [Clock.shownSecond, Nat.div_eq_of_lt t.time.shownNano_lt, Nat.add_zero]
  simp only [wholeText, Clock.wholeText, shown, Time.shown, Clock.shown, Clock.ofText, if_neg ht,
    hsecond]

end DateTime

section Shown

variable {unit : TimeUnit} {count : Int} {t : DateTime}

/-- A count that stands for a date-time without second 60 has a date. -/
theorem TimeUnit.supports_of_unixNano (ht : t.time.shownSecond ≠ 60)
    (h : count * unit.nanos = t.unixNano) : unit.supports count = true := by
  rw [← t.unixNano_shown] at h
  exact supports_iff.mpr ⟨_, day_of_unixNano (DateTime.nano_shown_lt ht) h⟩

/-- Its text starts with the text of the date-time, up to the second. -/
theorem Moment.wholeText_prefix (ht : t.time.shownSecond ≠ 60)
    (h : count * unit.nanos = t.unixNano) : t.wholeText <+: (Moment.ofTicks unit 0 count).text := by
  rw [← t.unixNano_shown] at h
  rw [← DateTime.wholeText_shown ht, ofTicks_eq (DateTime.nano_shown_lt ht) h, text, Clock.text,
    DateTime.wholeText]
  exact ⟨fractionText t.shown.time.shownNano, by rw [List.append_assoc, List.cons_append]⟩

end Shown

end Calendar

end RowSieve
