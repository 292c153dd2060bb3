import RowSieve.Calendar.Written
import RowSieve.Proofs.Calendar.Grammar

/-!
# Dates and Times Read Back

The text of a date is one of the many texts that dates may have. It has no white
space, its numbers are padded, and its fraction has three, six or nine digits.
So it denotes the date, and nothing more has to be said of readers here: they
find what a text denotes, whoever wrote it.

A year with more than four digits has a sign in front, which lifts the limit on
its digits, so the whole supported span is read back. So is a leap second, since
second 60 is written as such.

Date-times are not all alike. A fraction of one second or more is written as a
fraction of the next second, and is read as what it is written as. So the text
of a date-time denotes a date-time that may be another one, and it is the same
one exactly if it is readable.

## Main definitions

* `Clock.shown`, `DateTime.shown`: What the text of a reading denotes.
* `DateText.ofDate`, `DateTimeText.ofDateTime`: The texts of dates and
  date-times, part by part.

## Theorems

* `DateTime.shown_eq_iff`: Which date-times denote themselves.
* `YearText.value_ofInt`: A year has the value it was written for.
* `FractionText.nano_ofNano`: So has a fraction.
* `Reading.day_text`, `Reading.clock_text`: Days and readings of the clock are
  read back in front of other text.
* `Date.read_text`, `DateTime.read_isoText`: What the texts of dates and
  date-times denote.
-/

namespace RowSieve

namespace Calendar

open Json (Digits)

namespace Clock

/-- The numbers of a text that may stand for a reading. -/
theorem ofText_valid {hour minute second nano : Nat} (hhour : hour ≤ 23) (hminute : minute ≤ 59)
    (hsecond : second ≤ 60) (hnano : nano < 1000000000) :
    (ofText hour minute second nano).IsValid := by
  rw [ofText]
  split <;> simp only [IsValid] <;> omega

/-- What the text of a reading denotes. -/
def shown (c : Clock) : Clock := ofText c.hour c.minute c.shownSecond c.shownNano

theorem shownSecond_le {c : Clock} (h : c.IsValid) : c.shownSecond ≤ 60 := by
  rcases h with ⟨-, -, hsecond, hnano⟩
  rw [shownSecond]
  omega

theorem shownNano_lt (c : Clock) : c.shownNano < 1000000000 := Nat.mod_lt _ (by decide)

theorem shown_valid {c : Clock} (h : c.IsValid) : c.shown.IsValid :=
  ofText_valid (Nat.le_of_lt_succ h.1) (Nat.le_of_lt_succ h.2.1) (shownSecond_le h) c.shownNano_lt

/-- The second that is written differs from the second of the reading unless
    the fraction is below one second or the next second is second 60. -/
theorem shown_eq_iff {c : Clock} (h : c.IsValid) : c.shown = c ↔ c.IsReadable := by
  rcases h with ⟨-, -, hsecond, hnano⟩
  rw [shown, ofText, IsReadable]
  split
  -- Second 60 is written for second 59 and a fraction that is carried, and for
  -- no other.
  case isTrue hlast =>
    cases c
    simp only [shownSecond, shownNano, mk.injEq, true_and] at hlast hsecond hnano ⊢
    omega
  -- Any other second is written as it is unless there is something to carry.
  case isFalse hlast =>
    cases c
    simp only [shownSecond, shownNano, mk.injEq, true_and] at hlast hsecond hnano ⊢
    omega

end Clock

/-- What the text of a time of day denotes. -/
def Time.shown (t : Time) : Time := ⟨t.toClock.shown, Clock.shown_valid t.valid⟩

namespace DateTime

/-- What the text of a date-time denotes. -/
def shown (t : DateTime) : DateTime := { t with time := t.time.shown }

/-- The text of a date-time denotes the date-time exactly if some text does. -/
theorem shown_eq_iff {t : DateTime} : t.shown = t ↔ t.IsReadable := by
  rw [IsReadable, ← Clock.shown_eq_iff t.time.valid]
  rcases t with ⟨date, ⟨clock, hclock⟩⟩
  simp only [shown, Time.shown, mk.injEq, Time.mk.injEq, true_and]

end DateTime

/-- No white space. -/
def Blanks.none : Blanks := ⟨[], List.forall_mem_nil _⟩

/-- Digits that are padded with zeros. -/
def padded (width n : Nat) : Digits :=
  ⟨Decimal.padded width n, Decimal.padded_ne_nil width n, fun _ => Decimal.isDigit_of_mem_padded⟩

theorem value_padded (width n : Nat) : (padded width n).value = n := Decimal.value_padded width n

namespace YearText

/-- A year as it is written. Without a sign it has exactly four digits, so the
    limit on them does no harm. -/
def ofInt (y : Int) : YearText :=
  if h : 0 ≤ y ∧ y ≤ 9999 then
    .plain .none (padded 4 y.toNat)
      (Nat.le_of_eq (Decimal.length_padded (by decide) (show y.toNat < 10000 by omega)))
  else .signed .none (decide (y < 0)) (padded 4 y.natAbs)

theorem text_ofInt (y : Int) : (ofInt y).text = yearText y := by
  rw [ofInt, yearText]
  by_cases hplain : 0 ≤ y ∧ y ≤ 9999
  · rw [dif_pos hplain, if_pos hplain]
    rfl
  · rw [dif_neg hplain, if_neg hplain, text]
    simp only [decide_eq_true_eq]
    rfl

theorem value_ofInt (y : Int) : (ofInt y).value = y := by
  rw [ofInt]
  by_cases hplain : 0 ≤ y ∧ y ≤ 9999
  · rw [dif_pos hplain, value, value_padded]
    exact Int.toNat_of_nonneg hplain.1
  · rw [dif_neg hplain, value, value_padded]
    by_cases hnegative : y < 0
    · rw [if_pos (decide_eq_true hnegative)]
      omega
    · rw [if_neg (by simpa using hnegative)]
      omega

end YearText

/-- A number of two digits as it is written. -/
def SmallText.ofNat (n : Nat) (h : n < 100) : SmallText :=
  ⟨.none, padded 2 n, Nat.le_of_eq (Decimal.length_padded (by decide) h)⟩

namespace FractionText

/-- A fraction as it is written. What its digits leave out is zeros. -/
def ofNano (nano : Nat) : Option Digits :=
  if nano = 0 then none
  else if nano % 1000000 = 0 then some (padded 3 (nano / 1000000))
  else if nano % 1000 = 0 then some (padded 6 (nano / 1000))
  else some (padded 9 nano)

theorem text_ofNano (nano : Nat) : text (ofNano nano) = fractionText nano := by
  rw [ofNano, fractionText]
  split
  · rfl
  · split
    · rfl
    · split <;> rfl

theorem nano_padded {width n : Nat} (hwidth : 0 < width) (hmost : width ≤ 9)
    (hn : n < Nat.pow 10 width) : nano (some (padded width n)) = n * Nat.pow 10 (9 - width) := by
  have hlength : (Decimal.padded width n).length = width := Decimal.length_padded hwidth hn
  have htaken := Reading.value_take_nine (Decimal.padded width n) []
    (hlength.symm ▸ (Nat.eq_or_lt_of_le hmost).imp id fun hless => ⟨hless, rfl⟩)
  rw [List.append_nil, Decimal.value_padded, hlength] at htaken
  exact htaken

theorem nano_ofNano {n : Nat} (hn : n < 1000000000) : nano (ofNano n) = n := by
  -- Each form leaves out zeros alone, and they are put back.
  rw [ofNano]
  by_cases hzero : n = 0
  · rw [if_pos hzero, hzero]
    rfl
  · rw [if_neg hzero]
    by_cases hmilli : n % 1000000 = 0
    · rw [if_pos hmilli, nano_padded (by decide) (by decide) (show n / 1000000 < 1000 by omega)]
      change n / 1000000 * 1000000 = n
      omega
    · rw [if_neg hmilli]
      by_cases hmicro : n % 1000 = 0
      · rw [if_pos hmicro, nano_padded (by decide) (by decide) (show n / 1000 < 1000000 by omega)]
        change n / 1000 * 1000 = n
        omega
      · rw [if_neg hmicro, nano_padded (by decide) (by decide) hn]
        exact Nat.mul_one n

end FractionText

section Written

/-- Two digits are enough for a month and a day. -/
theorem Date.numbers_lt (d : Date) : d.month < 100 ∧ d.day < 100 := by
  rcases d.valid with ⟨-, hmonth, -, hday⟩
  have hlength := (daysInMonth_bounds d.year d.month).2
  omega

/-- And for the numbers of a clock. -/
theorem Time.numbers_lt (t : Time) : t.hour < 100 ∧ t.minute < 100 ∧ t.shownSecond < 100 := by
  have hsecond := Clock.shownSecond_le t.valid
  rcases t.valid with ⟨hhour, hminute, -, -⟩
  omega

/-- A day as it is written. -/
def DayText.ofDate (d : Date) : DayText where
  year := .ofInt d.year
  beforeMonth := .none
  month := .ofNat d.month d.numbers_lt.1
  beforeDay := .none
  day := .ofNat d.day d.numbers_lt.2

/-- A reading of the clock as it is written. -/
def ClockText.ofTime (t : Time) : ClockText where
  hour := .ofNat t.hour t.numbers_lt.1
  beforeMinute := .none
  minute := .ofNat t.minute t.numbers_lt.2.1
  beforeSecond := .none
  second := .ofNat t.shownSecond t.numbers_lt.2.2
  fraction := FractionText.ofNano t.shownNano

/-- A date as it is written. -/
def DateText.ofDate (d : Date) : DateText := ⟨.ofDate d, .none⟩

/-- A date-time as it is written. -/
def DateTimeText.ofDateTime (t : DateTime) : DateTimeText :=
  ⟨.ofDate t.date, .none, .ofTime t.time, .none⟩

theorem DayText.text_ofDate (d : Date) : (ofDate d).text = d.text := by
  rw [DayText.text, Day.text]
  simp only [ofDate, YearText.text_ofInt, SmallText.text, SmallText.ofNat, Blanks.none, padded,
    List.nil_append, List.append_assoc, List.cons_append]

theorem ClockText.text_ofTime (t : Time) : (ofTime t).text = t.text := by
  rw [ClockText.text, Clock.text, Clock.wholeText]
  simp only [ofTime, FractionText.text_ofNano, SmallText.text, SmallText.ofNat, Blanks.none,
    padded, List.nil_append, List.append_assoc, List.cons_append]

theorem DayText.value_ofDate (d : Date) : (ofDate d).value = d.toDay := by
  have hmonth : (ofDate d).month.value = d.month := value_padded 2 _
  have hday : (ofDate d).day.value = d.day := value_padded 2 _
  rw [DayText.value, hmonth, hday]
  exact congrArg (Day.mk · d.month d.day) (YearText.value_ofInt d.year)

theorem ClockText.values_ofTime (t : Time) :
    (ofTime t).hour.value = t.hour ∧ (ofTime t).minute.value = t.minute ∧
      (ofTime t).second.value = t.shownSecond ∧ (ofTime t).nano = t.shownNano :=
  ⟨value_padded 2 _, value_padded 2 _, value_padded 2 _, FractionText.nano_ofNano t.shownNano_lt⟩

/-- The text of a date-time denotes what it shows of the date-time. -/
theorem DateTimeText.denotes_ofDateTime (t : DateTime) : (ofDateTime t).Denotes t.shown := by
  rcases ClockText.values_ofTime t.time with ⟨hhour, hminute, hsecond, hnano⟩
  refine denotes_of_clock (DayText.value_ofDate t.date).symm ?_ ?_
  · rw [ofDateTime, hsecond]
    exact Clock.shownSecond_le t.time.valid
  · rw [ofDateTime, hhour, hminute, hsecond, hnano]
    rfl

end Written

namespace Reading

/-- A day is read back. -/
theorem day_text (d : Date) {rest : List Char} (hrest : Decimal.NoDigitNext rest) :
    day (d.text ++ rest) = .ok (d.toDay, rest) := by
  have hread := day_complete (.ofDate d) d (DayText.value_ofDate d).symm hrest
  rwa [DayText.text_ofDate, DayText.value_ofDate] at hread

/-- A reading of the clock is read as its text shows it. -/
theorem clock_text (t : Time) {rest : List Char} (hrest : Decimal.NoDigitNext rest)
    (hpoint : rest.head? ≠ some '.') : clock (t.text ++ rest) = .ok (t.toClock.shown, rest) := by
  rcases ClockText.values_ofTime t with ⟨hhour, hminute, hsecond, hnano⟩
  have hread := clock_complete (.ofTime t) (hhour ▸ Nat.le_of_lt_succ t.valid.1)
    (hminute ▸ Nat.le_of_lt_succ t.valid.2.1) (hsecond ▸ Clock.shownSecond_le t.valid) hrest hpoint
  rwa [ClockText.text_ofTime, hhour, hminute, hsecond, hnano] at hread

end Reading

/-- The text of a date denotes the date. -/
theorem Date.read_text (d : Date) : Date.read d.text = .ok d := by
  refine Date.read_eq_ok_iff.mpr ⟨.ofDate d, ?_, (DayText.value_ofDate d).symm⟩
  exact (List.append_nil _).trans (DayText.text_ofDate d)

/-- The text of a date-time denotes what it shows of the date-time. -/
theorem DateTime.read_isoText (t : DateTime) : DateTime.read t.isoText = .ok t.shown := by
  refine DateTime.read_eq_ok_iff.mpr ⟨.ofDateTime t, ?_, DateTimeText.denotes_ofDateTime t⟩
  rw [DateTimeText.text, isoText, DateTimeText.ofDateTime, DayText.text_ofDate,
    ClockText.text_ofTime, Blanks.none, List.append_nil]
  rfl

end Calendar

end RowSieve
