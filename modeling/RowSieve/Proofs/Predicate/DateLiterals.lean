import RowSieve.Proofs.Calendar.Succession
import RowSieve.Proofs.Predicate.LiteralText

/-!
# Dates as Literals

A date becomes a literal by its day number, and a literal is shown as the date
with its day number. Both are done in 32 bits, which hold over twenty times as
many day numbers as there are dates. So two things could go wrong. A number on
the way could leave the 32 bits, and a literal that is no date could be shown
as one.

The first could happen on the detour through the common era, whose day 1 is the
first of January of year 1. A date has a place there, and the place of day 0 is
taken off it. In the other direction it is added, and the sum may be too large.
Neither does any harm. Dates are far enough from the limits, and a sum that is
too large is the place of no date.

The second is settled by the run of dates: between the first and the last of
them every day number has its own date, and outside there is none. What is
shown there is the bare number, which no quote opens.

## Main definitions

* `Date.eraDay`: The place of a date in the common era.
* `Date.number32`: The day number of a date, in 32 bits.
* `Date.numberByEra?`, `Date.ofNumberByEra?`: The detours, in 32 bits.
* `Literal.dateText`, `Literal.numberText`: The two texts of a date literal.

## Theorems

* `Date.eraDay_eq`: The two counts of days differ by a constant.
* `Date.numberByEra?_eq`, `Date.ofNumberByEra?_eq_some_iff`: The detours lead
  to the day number and back.
* `Literal.exists_ofDate_iff`: Which literals come from dates.
* `Literal.text_eq_dateText_iff`, `Literal.text_eq_numberText_iff`: Which text
  is shown for which day number.
* `dayNumbers_correspond`: Dates and day numbers correspond exactly.
-/

namespace RowSieve

namespace Calendar

/-- Day 0 as a day of the common era. -/
def epochInEra : Int := 719163

namespace Date

/-- The place of a date in the common era, whose day 1 is the first of January
    of year 1. -/
def eraDay (d : Date) : Int :=
  daysBeforeYear d.year + daysBeforeMonth d.year d.month + d.day

theorem eraDay_eq (d : Date) : d.eraDay = d.dayNumber + epochInEra := by
  simp only [eraDay, dayNumber, Day.number, firstDayOfYearOne, epochInEra]
  omega

/-- The date with a given place in the common era. -/
def ofEraDay? (n : Int) : Option Date := ofDayNumber? (n - epochInEra)

theorem ofEraDay?_eq_some_iff {n : Int} {d : Date} : ofEraDay? n = some d ↔ d.eraDay = n := by
  rw [ofEraDay?, ofDayNumber?_eq_some_iff, eraDay_eq]
  omega

/-- The day number of a date, in 32 bits. -/
def number32 (d : Date) : Signed32 where
  val := d.dayNumber
  lower := Int.le_trans (by decide) d.dayNumber_lower
  upper := Int.le_trans d.dayNumber_upper (by decide)

/-- The day number by way of the common era, if both numbers fit 32 bits. -/
def numberByEra? (d : Date) : Option Signed32 :=
  (Bounded.ofInt? d.eraDay : Option Signed32).bind fun day => Bounded.ofInt? (day.val - epochInEra)

/-- The date by way of the common era, if the sum fits 32 bits. -/
def ofNumberByEra? (n : Signed32) : Option Date :=
  (Bounded.ofInt? (n.val + epochInEra) : Option Signed32).bind fun day => ofEraDay? day.val

/-- The place of a date in the common era fits 32 bits. -/
theorem ofInt?_eraDay (d : Date) : ∃ day : Signed32, Bounded.ofInt? d.eraDay = some day ∧
    day.val = d.eraDay := by
  have hlower := d.dayNumber_lower
  have hupper := d.dayNumber_upper
  have hfits : -2147483648 ≤ d.eraDay ∧ d.eraDay ≤ 2147483647 := by
    rw [eraDay_eq, epochInEra]
    omega
  exact ⟨⟨d.eraDay, hfits.1, hfits.2⟩, Bounded.ofInt?_eq_some hfits, rfl⟩

theorem numberByEra?_eq (d : Date) : d.numberByEra? = some d.number32 := by
  rcases d.ofInt?_eraDay with ⟨day, hday, hval⟩
  rw [numberByEra?, hday, Option.bind_some, Bounded.ofInt?_eq_some_iff, hval, eraDay_eq]
  exact (Int.add_sub_cancel ..).symm

/-- A sum that does not fit 32 bits is the place of no date. -/
theorem ofNumberByEra?_eq_some_iff {n : Signed32} {d : Date} :
    ofNumberByEra? n = some d ↔ d.dayNumber = n.val := by
  rw [ofNumberByEra?, Option.bind_eq_some_iff]
  constructor
  · rintro ⟨day, hday, hd⟩
    rw [Bounded.ofInt?_eq_some_iff] at hday
    rw [ofEraDay?_eq_some_iff, eraDay_eq, hday] at hd
    exact (Int.add_left_inj epochInEra).mp hd
  · intro h
    -- The sum is the place of a date, and so it fits.
    rcases d.ofInt?_eraDay with ⟨day, hday, hval⟩
    rw [eraDay_eq, h] at hday
    exact ⟨day, hday, ofEraDay?_eq_some_iff.mpr hval.symm⟩

end Date

end Calendar

open Calendar

namespace Literal

/-- A date as it is shown in a predicate. -/
def dateText (d : Date) : String := "DATE '" ++ String.ofList d.text ++ "'"

/-- A day number as it is shown in a predicate. -/
def numberText (n : Int) : String := "DATE " ++ String.ofList (Decimal.signed n)

theorem toList_dateText (d : Date) :
    (dateText d).toList = "DATE ".toList ++ '\'' :: (d.text ++ ['\'']) := by
  simp only [dateText, String.toList_append, String.toList_ofList, List.append_assoc]
  rfl

theorem toList_numberText (n : Int) :
    (numberText n).toList = "DATE ".toList ++ Decimal.signed n := by
  simp only [numberText, String.toList_append, String.toList_ofList]

/-- After the keyword a date has a quote and a number has none. -/
theorem dateText_ne_numberText (d : Date) (n : Int) : dateText d ≠ numberText n := by
  intro h
  have hlist := congrArg String.toList h
  rw [toList_dateText, toList_numberText, List.append_cancel_left_eq,
    ← List.append_nil (Decimal.signed n)] at hlist
  exact Decimal.signed_ne_cons (by decide) (by decide) hlist.symm

/-- A date becomes a literal with its day number, of which nothing is cut off. -/
theorem ofDate_eq (d : Date) : ofDate d = .date d.number32 :=
  congrArg Literal.date (Bounded.ext d.val_wrap_dayNumber)

theorem ofDate_eq_iff {d : Date} {n : Signed32} :
    ofDate d = .date n ↔ d.dayNumber = n.val := by
  rw [ofDate_eq, Literal.date.injEq]
  constructor
  · intro h
    rw [← h]
    rfl
  · intro h
    exact Bounded.ext h

/-- The literals of dates are those between the first date and the last. -/
theorem exists_ofDate_iff {n : Signed32} : (∃ d : Date, ofDate d = .date n) ↔
    Date.first.number32.val ≤ n.val ∧ n.val ≤ Date.last.number32.val :=
  (exists_congr fun _ => ofDate_eq_iff).trans Date.exists_dayNumber_iff

/-- The literal of a date is shown as the date. -/
theorem text_ofDate (d : Date) : (ofDate d).text = dateText d := by
  have hfound : Date.ofDayNumber? d.number32.val = some d :=
    Date.ofDayNumber?_eq_some_iff.mpr rfl
  rw [ofDate_eq, text, spelling_date hfound, ← toList_dateText, String.ofList_toList]

/-- No two literals have the same text, date-times that no text denotes
    aside. -/
theorem eq_of_text_eq {l m : Literal} (hl : l.isPlain = true) (hm : m.isPlain = true)
    (h : l.text = m.text) : l = m := by
  have hends : Ends [] := nofun
  have hspelling : l.spelling = m.spelling := String.ofList_inj.mp h
  exact (shown hl m [] [] hm hends hends (by rw [hspelling])).1

/-- So a day number is shown as a date only if it comes from this date. -/
theorem text_eq_dateText_iff {n : Signed32} {d : Date} :
    (date n).text = dateText d ↔ ofDate d = .date n := by
  rw [← text_ofDate]
  constructor
  · intro h
    exact eq_of_text_eq rfl rfl h.symm
  · intro h
    rw [h]

/-- And it is shown as a number only if it comes from no date. -/
theorem text_eq_numberText_iff {n : Signed32} :
    (date n).text = numberText n.val ↔ ¬ ∃ d : Date, ofDate d = .date n := by
  constructor
  · -- If it came from a date, it would have both texts.
    rintro h ⟨d, hd⟩
    rw [text_eq_dateText_iff.mpr hd] at h
    exact dateText_ne_numberText d n.val h
  · intro h
    have hnone : Date.ofDayNumber? n.val = none := by
      refine Option.eq_none_iff_forall_ne_some.mpr fun d hd => h ⟨d, ?_⟩
      exact ofDate_eq_iff.mpr (Date.ofDayNumber?_eq_some_iff.mp hd)
    rw [text, spelling_day hnone, ← toList_numberText, String.ofList_toList]

end Literal

/-- Dates and day numbers of 32 bits correspond exactly. A date has a day number
    that is reached without leaving 32 bits, and its literal is shown as the
    date. Later dates have larger numbers, and the next date of the calendar the
    next number. In the other direction, a number is shown as a date exactly if
    it lies between those of the first date and the last, and then as the date
    that has this number, which the detour through the common era finds as well.
    Every other number, up to the ends of 32 bits, is shown as it is. -/
theorem dayNumbers_correspond :
    (∀ d : Date,
      d.numberByEra? = some d.number32 ∧ Literal.ofDate d = .date d.number32 ∧
      (Literal.ofDate d).text = Literal.dateText d ∧
      (compare Date.first d).isLE ∧ (compare d Date.last).isLE ∧
      (d.next? = none ↔ d = Date.last)) ∧
    (∀ d e : Date,
      compare d e = compare d.number32 e.number32 ∧
      (d.next? = some e ↔ e.number32.val = d.number32.val + 1)) ∧
    ∀ n : Signed32,
      ((∃ d : Date, (Literal.date n).text = Literal.dateText d) ↔
        Date.first.number32.val ≤ n.val ∧ n.val ≤ Date.last.number32.val) ∧
      (∀ d : Date,
        ((Literal.date n).text = Literal.dateText d ↔ Literal.ofDate d = .date n) ∧
        (Date.ofNumberByEra? n = some d ↔ Literal.ofDate d = .date n)) ∧
      ((Literal.date n).text = Literal.numberText n.val ↔
        ¬ (Date.first.number32.val ≤ n.val ∧ n.val ≤ Date.last.number32.val)) := by
  refine ⟨fun d => ?_, fun d e => ⟨Date.compare_eq d e, Date.next?_eq_some_iff⟩,
    fun n => ⟨?_, fun d => ⟨Literal.text_eq_dateText_iff, ?_⟩, ?_⟩⟩
  · exact ⟨d.numberByEra?_eq, Literal.ofDate_eq d, Literal.text_ofDate d, d.first_isLE, d.isLE_last,
      Date.next?_eq_none_iff⟩
  · rw [← Literal.exists_ofDate_iff]
    exact exists_congr fun d => Literal.text_eq_dateText_iff
  · rw [Date.ofNumberByEra?_eq_some_iff, Literal.ofDate_eq_iff]
  · rw [← Literal.exists_ofDate_iff]
    exact Literal.text_eq_numberText_iff

/-- The last date, the number after it, and the ends of 32 bits. -/
example :
    [95026236, 95026237, -2147483648, 2147483647].map
      (fun n => (Literal.date (Signed32.wrap n)).text) =
    ["DATE '+262142-12-31'", "DATE 95026237", "DATE -2147483648", "DATE 2147483647"] := by
  decide +kernel

end RowSieve
