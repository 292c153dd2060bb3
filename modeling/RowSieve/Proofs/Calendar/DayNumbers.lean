import RowSieve.Calendar.Date

/-!
# Dates and Their Day Numbers

Counting the days of the calendar and finding the day with a given number undo
each other. One direction is that the number of a day never repeats: a later
year, a later month and a later day of the month all lie beyond every day
before them, because no month and no year is overrun. The other direction is
that the day found for a number exists and has that number.

The search takes whole cycles of 400, 100, 4 and 1 years off the count. Years
that are written as such a sum have a plain number of days before them, and
the only day that the two caps are there for is the last one of a leap year.
The rest is spread over twelve months, one month at a time.

## Main definitions

* `daysInYear`: The length of a year.

## Theorems

* `daysBeforeYear_succ`, `daysBeforeMonth_end`: Years and months add up.
* `Day.number_lt_iff_year_lt`: The start of a year lies between the years.
* `Day.number_lt_of_year_lt`, `Day.number_lt_of_month_lt`: Later is more.
* `Day.eq_of_number_eq`: No two days of the calendar share a number.
* `Day.isValid_ofNumber`, `Day.number_ofNumber`: The day with a given number
  exists and has it.
* `Date.ofDay?_eq_some_iff`: Which days are dates.
* `Date.dayNumber_injective`: No two dates share a day number.
* `Date.ofDayNumber?_eq_some_iff`: The date with a given day number.
-/

namespace RowSieve

namespace Calendar

/-- How many days a year has. -/
def daysInYear (year : Int) : Nat := if isLeap year then 366 else 365

theorem daysInMonth_bounds (year : Int) (month : Nat) :
    28 ≤ daysInMonth year month ∧ daysInMonth year month ≤ 31 := by
  unfold daysInMonth
  split
  · split <;> omega
  all_goals omega

theorem isLeap_iff (year : Int) :
    isLeap year = true ↔ year % 4 = 0 ∧ (year % 100 ≠ 0 ∨ year % 400 = 0) := by
  simp only [isLeap, Bool.and_eq_true, beq_iff_eq, Bool.or_eq_true, bne_iff_ne]

/-- A year is followed by the next one as soon as its days are over. -/
theorem daysBeforeYear_succ (year : Int) :
    daysBeforeYear (year + 1) = daysBeforeYear year + daysInYear year := by
  simp only [daysBeforeYear, daysInYear]
  by_cases hleap : isLeap year = true
  · rw [if_pos hleap]
    rw [isLeap_iff] at hleap
    omega
  · rw [if_neg hleap]
    rw [isLeap_iff] at hleap
    omega

theorem daysBeforeYear_mono {y z : Int} (h : y ≤ z) : daysBeforeYear y ≤ daysBeforeYear z := by
  simp only [daysBeforeYear]
  omega

theorem daysBeforeMonth_succ (year : Int) {month : Nat} (h : 1 ≤ month) :
    daysBeforeMonth year (month + 1) = daysBeforeMonth year month + daysInMonth year month := by
  cases month with
  | zero => exact absurd h (Nat.not_succ_le_zero 0)
  | succ m => rfl

/-- The twelve months fill the year. -/
theorem daysBeforeMonth_end (year : Int) : daysBeforeMonth year 13 = daysInYear year := by
  simp only [daysBeforeMonth, daysInMonth, daysInYear]
  split <;> rfl

theorem daysBeforeMonth_mono (year : Int) {m n : Nat} (h : m ≤ n) :
    daysBeforeMonth year m ≤ daysBeforeMonth year n := by
  induction h with
  | refl => exact Nat.le_refl _
  | @step k _ ih =>
      cases k with
      | zero => exact ih
      | succ j =>
          rw [daysBeforeMonth]
          omega

namespace Day

/-- A valid day lies within its year. -/
theorem le_daysInYear {d : Day} (h : d.IsValid) :
    daysBeforeMonth d.year d.month + d.day ≤ daysInYear d.year := by
  rcases h with ⟨hfirst, hlast, -, hday⟩
  have hnext := daysBeforeMonth_succ d.year hfirst
  have hmono := daysBeforeMonth_mono d.year (show d.month + 1 ≤ 13 by omega)
  rw [daysBeforeMonth_end] at hmono
  omega

/-- A valid day comes before the start of a year exactly if its own year does. -/
theorem number_lt_iff_year_lt {d : Day} (h : d.IsValid) (year : Int) :
    d.number < firstDayOfYearOne + daysBeforeYear year ↔ d.year < year := by
  have hwithin := le_daysInYear h
  have hpositive := h.2.2.1
  rcases Int.lt_or_le d.year year with hlt | hle
  · have hnext := daysBeforeYear_succ d.year
    have hmono := daysBeforeYear_mono (show d.year + 1 ≤ year by omega)
    simp only [number]
    omega
  · have hmono := daysBeforeYear_mono hle
    simp only [number]
    omega

theorem number_lt_of_year_lt {d e : Day} (hd : d.IsValid) (he : e.IsValid)
    (h : d.year < e.year) : d.number < e.number := by
  -- The start of the later year lies between the two.
  have hbefore := (number_lt_iff_year_lt hd e.year).mpr h
  have hafter := mt (number_lt_iff_year_lt he e.year).mp (Int.lt_irrefl e.year)
  omega

theorem number_lt_of_month_lt {d e : Day} (hd : d.IsValid) (he : e.IsValid)
    (hyear : d.year = e.year) (h : d.month < e.month) : d.number < e.number := by
  rcases hd with ⟨hfirst, -, -, hlast⟩
  have hnext := daysBeforeMonth_succ d.year hfirst
  have hmono := daysBeforeMonth_mono d.year (show d.month + 1 ≤ e.month by omega)
  have hpositive := he.2.2.1
  simp only [number, ← hyear]
  omega

/-- No two days of the calendar share a number. -/
theorem eq_of_number_eq {d e : Day} (hd : d.IsValid) (he : e.IsValid)
    (h : d.number = e.number) : d = e := by
  -- A difference in the year or the month would show in the number.
  have hyear : d.year = e.year := by
    rcases Int.lt_trichotomy d.year e.year with hlt | heq | hgt
    · exact absurd h (Int.ne_of_lt (number_lt_of_year_lt hd he hlt))
    · exact heq
    · exact absurd h.symm (Int.ne_of_lt (number_lt_of_year_lt he hd hgt))
  have hmonth : d.month = e.month := by
    rcases Nat.lt_trichotomy d.month e.month with hlt | heq | hgt
    · exact absurd h (Int.ne_of_lt (number_lt_of_month_lt hd he hyear hlt))
    · exact heq
    · exact absurd h.symm (Int.ne_of_lt (number_lt_of_month_lt he hd hyear.symm hgt))
  have hday : d.day = e.day := by
    simp only [number, hyear, hmonth] at h
    omega
  rcases d with ⟨year, month, day⟩
  simp only at hyear hmonth hday
  subst hyear hmonth hday
  rfl

/-- Days that are left of a year fall on a day of one of its months. The
    induction is on the months that are still ahead. -/
theorem monthAndDay_spec (year : Int) {months month rest : Nat} (hmonth : 1 ≤ month)
    (hmonths : month + months = 12)
    (hrest : daysBeforeMonth year month + rest < daysInYear year) {m d : Nat}
    (h : monthAndDay year months month rest = (m, d)) :
    (Day.mk year m d).IsValid ∧
      daysBeforeMonth year m + d = daysBeforeMonth year month + rest + 1 := by
  induction months generalizing month rest with
  | zero =>
      -- No month is ahead, so the year ends with this one.
      have hdecember : month = 12 := by omega
      subst hdecember
      have hnext := daysBeforeMonth_succ year hmonth
      rw [daysBeforeMonth_end] at hnext
      rw [monthAndDay, Prod.mk.injEq] at h
      rcases h with ⟨rfl, rfl⟩
      have hday : rest + 1 ≤ daysInMonth year 12 := by omega
      exact ⟨⟨hmonth, Nat.le_refl 12, Nat.succ_pos rest, hday⟩, (Nat.add_assoc ..).symm⟩
  | succ months ih =>
      have hnext := daysBeforeMonth_succ year hmonth
      rw [monthAndDay] at h
      by_cases hin : rest < daysInMonth year month
      · rw [if_pos hin, Prod.mk.injEq] at h
        rcases h with ⟨rfl, rfl⟩
        have hlast : month ≤ 12 := by omega
        exact ⟨⟨hmonth, hlast, Nat.succ_pos rest, hin⟩, (Nat.add_assoc ..).symm⟩
      · rw [if_neg hin] at h
        rcases ih (by omega) (by omega) (by omega) h with ⟨hvalid, hsum⟩
        exact ⟨hvalid, by omega⟩

section Cycles

variable {c e f g : Int}

/-- Years counted in cycles of 400, 100, 4 and 1, with the days that precede
    the year after them. -/
theorem daysBeforeYear_cycles (he : 0 ≤ e ∧ e ≤ 3) (hf : 0 ≤ f ∧ f ≤ 24) (hg : 0 ≤ g ∧ g ≤ 3) :
    daysBeforeYear (400 * c + 100 * e + 4 * f + g + 1) =
      146097 * c + 36524 * e + 1461 * f + 365 * g := by
  simp only [daysBeforeYear]
  omega

theorem isLeap_cycles (he : 0 ≤ e ∧ e ≤ 3) (hf : 0 ≤ f ∧ f ≤ 24) (hg : 0 ≤ g ∧ g ≤ 3) :
    isLeap (400 * c + 100 * e + 4 * f + g + 1) = true ↔ g = 3 ∧ (f ≠ 24 ∨ e = 3) := by
  rw [isLeap_iff]
  omega

end Cycles

/-- The day with a given number exists and has that number. -/
theorem ofNumber_spec (n : Int) : (ofNumber n).IsValid ∧ (ofNumber n).number = n := by
  unfold ofNumber
  -- The four quotients and the days that are left, each with a name of its own.
  obtain ⟨c, hc⟩ : ∃ c, c = (n - firstDayOfYearOne) / 146097 := ⟨_, rfl⟩
  obtain ⟨e, he⟩ : ∃ e, e = min 3 ((n - firstDayOfYearOne) % 146097 / 36524) := ⟨_, rfl⟩
  obtain ⟨f, hf⟩ : ∃ f, f = ((n - firstDayOfYearOne) % 146097 - 36524 * e) / 1461 := ⟨_, rfl⟩
  obtain ⟨g, hg⟩ : ∃ g, g = min 3 (((n - firstDayOfYearOne) % 146097 - 36524 * e) % 1461 / 365) :=
    ⟨_, rfl⟩
  obtain ⟨rest, hrest⟩ : ∃ rest, rest =
      (((n - firstDayOfYearOne) % 146097 - 36524 * e) % 1461 - 365 * g).toNat := ⟨_, rfl⟩
  simp only [← hc, ← he, ← hf, ← hg, ← hrest]
  have hcentury : 0 ≤ e ∧ e ≤ 3 := by omega
  have hfour : 0 ≤ f ∧ f ≤ 24 := by omega
  have hsingle : 0 ≤ g ∧ g ≤ 3 := by omega
  have hsum : 146097 * c + 36524 * e + 1461 * f + 365 * g + rest = n - firstDayOfYearOne := by
    omega
  have hbefore := daysBeforeYear_cycles (c := c) hcentury hfour hsingle
  have hleap := isLeap_cycles (c := c) hcentury hfour hsingle
  generalize 400 * c + 100 * e + 4 * f + g + 1 = year at hbefore hleap ⊢
  -- A day beyond 365 is left only where the caps apply, and that year is leap.
  have hwithin : daysBeforeMonth year 1 + rest < daysInYear year := by
    simp only [daysBeforeMonth, daysInYear]
    by_cases hlong : g = 3 ∧ (f ≠ 24 ∨ e = 3)
    · rw [if_pos (hleap.mpr hlong)]
      omega
    · rw [if_neg (mt hleap.mp hlong)]
      omega
  rcases hfound : monthAndDay year 11 1 rest with ⟨m, d⟩
  rcases monthAndDay_spec year (Nat.le_refl 1) rfl hwithin hfound with ⟨hvalid, hday⟩
  refine ⟨hvalid, ?_⟩
  simp only [daysBeforeMonth] at hday
  simp only [number]
  omega

theorem isValid_ofNumber (n : Int) : (ofNumber n).IsValid := (ofNumber_spec n).1

theorem number_ofNumber (n : Int) : (ofNumber n).number = n := (ofNumber_spec n).2

/-- A day is found again under its number. -/
theorem ofNumber_number {d : Day} (h : d.IsValid) : ofNumber d.number = d :=
  eq_of_number_eq (isValid_ofNumber d.number) h (number_ofNumber d.number)

end Day

namespace Date

/-- Dates with the same day are the same. -/
theorem ext {d e : Date} (h : d.toDay = e.toDay) : d = e := by
  rcases d with ⟨day, hlower, hupper, hvalid⟩
  simp only at h
  subst h
  rfl

/-- The date that is a given day, if there is one, is the date with this day. -/
theorem ofDay?_eq_some_iff {day : Day} {d : Date} : ofDay? day = some d ↔ d.toDay = day := by
  constructor
  · intro h
    rw [ofDay?] at h
    split at h
    · rw [← Option.some.inj h]
    · simp only [reduceCtorEq] at h
  · intro h
    rw [← h]
    exact dif_pos ⟨⟨d.year_lower, d.year_upper⟩, d.valid⟩

/-- No two dates share a day number. -/
theorem dayNumber_injective {d e : Date} (h : d.dayNumber = e.dayNumber) : d = e :=
  ext (Day.eq_of_number_eq d.valid e.valid h)

/-- The date with a given day number, if there is one, is the date that has
    this day number. -/
theorem ofDayNumber?_eq_some_iff {n : Int} {d : Date} :
    ofDayNumber? n = some d ↔ d.dayNumber = n := by
  rw [ofDayNumber?, ofDay?_eq_some_iff]
  constructor
  · intro h
    rw [dayNumber, h]
    exact Day.number_ofNumber n
  · intro h
    rw [← h]
    exact (Day.ofNumber_number d.valid).symm

end Date

end Calendar

end RowSieve
