import RowSieve.Proofs.Calendar.Chronology

/-!
# Dates in Succession

The supported dates form one unbroken run. Every date but the last has a next
one, and the calendar alone says which: the next day of the month, or the first
of the next month, or the first of January of the next year. Its day number is
one more, whatever was crossed on the way.

So the day numbers of the supported dates leave nothing out between the first
and the last. Nothing is beside them either, because the span of dates is a
span of whole years, and a day number tells on which side of the start of a
year its day lies.

## Main definitions

* `Day.next`, `Date.next?`: The next day of the calendar, and the next date.
* `Date.first`, `Date.last`: The ends of the supported span.

## Theorems

* `Day.next_spec`: The next day exists, and its number is one more.
* `Date.next?_eq_some_iff`, `Date.next?_eq_none_iff`: Which date is the next
  one, and which has none.
* `Date.exists_dayNumber_iff`: Which integers are day numbers of dates.
* `Date.first_isLE`, `Date.isLE_last`: Every date lies between the ends.
-/

namespace RowSieve

namespace Calendar

namespace Day

/-- The next day of the calendar: in the same month, else in the same year, else
    the first day of the next year. -/
def next (d : Day) : Day :=
  if d.day < daysInMonth d.year d.month then { d with day := d.day + 1 }
  else if d.month < 12 then ⟨d.year, d.month + 1, 1⟩
  else ⟨d.year + 1, 1, 1⟩

/-- The next day exists and has the next number. At the end of a month, and at
    the end of a year, all its days precede the day that follows. -/
theorem next_spec {d : Day} (h : d.IsValid) :
    d.next.IsValid ∧ d.next.number = d.number + 1 := by
  rcases h with ⟨hfirst, hlast, hday, hlength⟩
  have hmonths := daysBeforeMonth_succ d.year hfirst
  have hyears := daysBeforeYear_succ d.year
  have hone : ∀ year month, 1 ≤ daysInMonth year month := fun year month =>
    Nat.le_trans (Nat.le_add_left 1 27) (daysInMonth_bounds year month).1
  rw [next]
  by_cases hmonth : d.day < daysInMonth d.year d.month
  · rw [if_pos hmonth]
    refine ⟨⟨hfirst, hlast, Nat.succ_pos d.day, hmonth⟩, ?_⟩
    simp only [number]
    omega
  · rw [if_neg hmonth]
    by_cases hyear : d.month < 12
    · rw [if_pos hyear]
      refine ⟨⟨Nat.succ_pos d.month, hyear, Nat.le_refl 1, hone _ _⟩, ?_⟩
      simp only [number]
      omega
    · rw [if_neg hyear]
      refine ⟨⟨Nat.le_refl 1, Nat.le_add_left 1 11, Nat.le_refl 1, hone _ _⟩, ?_⟩
      have hdecember : d.month + 1 = 13 := by omega
      have hjanuary : daysBeforeMonth (d.year + 1) 1 = 0 := rfl
      rw [hdecember, daysBeforeMonth_end] at hmonths
      simp only [number]
      omega

theorem isValid_next {d : Day} (h : d.IsValid) : d.next.IsValid := (next_spec h).1

theorem number_next {d : Day} (h : d.IsValid) : d.next.number = d.number + 1 := (next_spec h).2

end Day

namespace Date

/-- The first supported date. -/
def first : Date := (ofParts? (-262143) 1 1).get rfl

/-- The last supported date. -/
def last : Date := (ofParts? 262142 12 31).get rfl

theorem dayNumber_first : first.dayNumber = -96465292 := by decide

theorem dayNumber_last : last.dayNumber = 95026236 := by decide

/-- Every date lies between the ends, and so does every day with a day number
    between theirs. -/
theorem exists_dayNumber_iff {n : Int} :
    (∃ d : Date, d.dayNumber = n) ↔ first.dayNumber ≤ n ∧ n ≤ last.dayNumber := by
  rw [dayNumber_first, dayNumber_last]
  constructor
  · rintro ⟨d, rfl⟩
    exact ⟨d.dayNumber_lower, d.dayNumber_upper⟩
  · rintro ⟨hlower, hupper⟩
    -- The day with this number is not before the first year nor after the last.
    have hbefore := Day.number_lt_iff_year_lt (Day.isValid_ofNumber n) (-262143)
    have hafter := Day.number_lt_iff_year_lt (Day.isValid_ofNumber n) 262143
    rw [Day.number_ofNumber, number_firstYear] at hbefore
    rw [Day.number_ofNumber, number_yearAfterLast] at hafter
    exact ⟨⟨Day.ofNumber n, by omega, by omega, Day.isValid_ofNumber n⟩, Day.number_ofNumber n⟩

/-- The next date, if the calendar goes on. -/
def next? (d : Date) : Option Date := ofDay? d.toDay.next

/-- The next date is the one whose day number is one more. -/
theorem next?_eq_some_iff {d e : Date} : d.next? = some e ↔ e.dayNumber = d.dayNumber + 1 := by
  have hnext : d.toDay.next.number = d.dayNumber + 1 := Day.number_next d.valid
  rw [next?, ofDay?_eq_some_iff, ← hnext]
  constructor
  · intro h
    rw [dayNumber, h]
  · intro h
    exact Day.eq_of_number_eq e.valid (Day.isValid_next d.valid) h

/-- Only the last date has no next one. -/
theorem next?_eq_none_iff {d : Date} : d.next? = none ↔ d = last := by
  have hnone : d.next? = none ↔ ¬ ∃ e : Date, e.dayNumber = d.dayNumber + 1 := by
    rw [Option.eq_none_iff_forall_ne_some, not_exists]
    exact forall_congr' fun e => not_congr next?_eq_some_iff
  have hlower := d.dayNumber_lower
  have hupper := d.dayNumber_upper
  rw [hnone, exists_dayNumber_iff, dayNumber_first, dayNumber_last]
  constructor
  · intro h
    refine dayNumber_injective ?_
    rw [dayNumber_last]
    omega
  · intro h
    rw [h, dayNumber_last]
    omega

theorem first_isLE (d : Date) : (compare first d).isLE = true := by
  rw [compare_eq, dayNumber_first]
  exact Int.isLE_compare.mpr d.dayNumber_lower

theorem isLE_last (d : Date) : (compare d last).isLE = true := by
  rw [compare_eq, dayNumber_last]
  exact Int.isLE_compare.mpr d.dayNumber_upper

end Date

end Calendar

end RowSieve
