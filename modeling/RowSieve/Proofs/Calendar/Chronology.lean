import RowSieve.Proofs.Calendar.DayNumbers
import RowSieve.Proofs.Calendar.Ticks

/-!
# The Order of Time

Dates and date-times are ordered as they are written, from the year down to the
fraction of the second. Comparisons with columns look at numbers instead, of
days or of nanoseconds. The two orders agree, which is what makes a later
operand ask for later values.

They agree for the reason that numbers written in digits can be compared digit
by digit: each part is less than one unit of the part above it. A leap second
breaks the rule. Its fraction is one second or more in nanoseconds, so it
overlaps the minute that follows, and date-times with such a fraction are left
out.

## Theorems

* `compare_mul_add`: Numbers with a last digit are compared digit by digit.
* `Day.compare_eq`, `Date.compare_eq`: Dates are ordered as their day numbers.
* `DateTime.compare_eq`: Date-times are ordered as their nanoseconds.
-/

namespace RowSieve

namespace Calendar

section Numbers

variable {a b p q : Int}

/-- Integers that are smaller and greater together have the same order. -/
theorem compare_eq_of_lt_iff (hless : a < b ↔ p < q) (hgreater : b < a ↔ q < p) :
    compare a b = compare p q := by
  rcases Int.lt_trichotomy p q with hlt | heq | hgt
  · rw [Int.compare_eq_lt.mpr hlt, Int.compare_eq_lt.mpr (hless.mpr hlt)]
  · have hab : a = b := by omega
    rw [Int.compare_eq_eq.mpr heq, Int.compare_eq_eq.mpr hab]
  · rw [Int.compare_eq_gt.mpr hgt, Int.compare_eq_gt.mpr (hgreater.mpr hgt)]

/-- The order of natural numbers does not change if they are taken as
    integers. -/
theorem compare_natCast (m n : Nat) : compare (m : Int) n = compare m n := by
  rcases Nat.lt_trichotomy m n with hlt | heq | hgt
  · rw [Nat.compare_eq_lt.mpr hlt, Int.compare_eq_lt.mpr (Int.ofNat_lt.mpr hlt)]
  · rw [Nat.compare_eq_eq.mpr heq, Int.compare_eq_eq.mpr (congrArg Nat.cast heq)]
  · rw [Nat.compare_eq_gt.mpr hgt, Int.compare_eq_gt.mpr (Int.ofNat_lt.mpr hgt)]

/-- Of two numbers with a last digit each, the digits decide where the numbers
    in front of them are equal. -/
theorem compare_mul_add {base : Int} {m n : Nat} (hm : m < base) (hn : n < base) :
    compare (a * base + m) (b * base + n) = (compare a b).then (compare m n) := by
  rcases Int.lt_trichotomy a b with hlt | heq | hgt
  -- One more in front is worth a whole base, and no last digit makes up for it.
  · have hstep := Int.mul_le_mul_of_nonneg_right hlt (show 0 ≤ base by omega)
    rw [Int.add_mul, Int.one_mul] at hstep
    rw [Int.compare_eq_lt.mpr hlt, Int.compare_eq_lt.mpr (by omega)]
    rfl
  · rw [heq, Int.compare_eq_eq.mpr rfl, ← compare_natCast]
    exact compare_eq_of_lt_iff (by omega) (by omega)
  · have hstep := Int.mul_le_mul_of_nonneg_right hgt (show 0 ≤ base by omega)
    rw [Int.add_mul, Int.one_mul] at hstep
    rw [Int.compare_eq_gt.mpr hgt, Int.compare_eq_gt.mpr (by omega)]
    rfl

end Numbers

/-- Days of the calendar are ordered as their numbers. -/
theorem Day.compare_eq {d e : Day} (hd : d.IsValid) (he : e.IsValid) :
    compare d e = compare d.number e.number := by
  change (compare d.year e.year).then ((compare d.month e.month).then (compare d.day e.day)) = _
  rcases Int.lt_trichotomy d.year e.year with hlt | hyear | hgt
  · rw [Int.compare_eq_lt.mpr hlt, Int.compare_eq_lt.mpr (number_lt_of_year_lt hd he hlt)]
    rfl
  · rw [Int.compare_eq_eq.mpr hyear]
    rcases Nat.lt_trichotomy d.month e.month with hlt | hmonth | hgt
    · rw [Nat.compare_eq_lt.mpr hlt,
        Int.compare_eq_lt.mpr (number_lt_of_month_lt hd he hyear hlt)]
      rfl
    · -- Within a month the numbers differ by as much as the days do.
      rw [Nat.compare_eq_eq.mpr hmonth, ← compare_natCast, number, number, hyear, hmonth]
      exact compare_eq_of_lt_iff (by omega) (by omega)
    · rw [Nat.compare_eq_gt.mpr hgt,
        Int.compare_eq_gt.mpr (number_lt_of_month_lt he hd hyear.symm hgt)]
      rfl
  · rw [Int.compare_eq_gt.mpr hgt, Int.compare_eq_gt.mpr (number_lt_of_year_lt he hd hgt)]
    rfl

theorem Date.compare_eq (d e : Date) : compare d e = compare d.dayNumber e.dayNumber :=
  Day.compare_eq d.valid e.valid

namespace DateTime

/-- The nanoseconds of a date-time, digit by digit. -/
theorem unixNano_eq (t : DateTime) :
    t.unixNano = (((t.date.dayNumber * 24 + t.time.hour) * 60 + t.time.minute) * 60 +
      t.time.second) * 1000000000 + t.time.nano := by
  rw [unixNano, unixSecond, subsecond]
  omega

/-- Outside leap seconds date-times are ordered as their nanoseconds. -/
theorem compare_eq {t u : DateTime} (ht : t.time.nano < 1000000000)
    (hu : u.time.nano < 1000000000) : compare t u = compare t.unixNano u.unixNano := by
  rcases t.time.valid with ⟨hhour, hminute, hsecond, -⟩
  rcases u.time.valid with ⟨hhour', hminute', hsecond', -⟩
  rw [unixNano_eq, unixNano_eq, compare_mul_add (by omega) (by omega),
    compare_mul_add (by omega) (by omega), compare_mul_add (by omega) (by omega),
    compare_mul_add (by omega) (by omega), ← Date.compare_eq, Ordering.then_assoc,
    Ordering.then_assoc, Ordering.then_assoc]
  rfl

end DateTime

end Calendar

end RowSieve
