import RowSieve.Proofs.Calendar.DayBounds

/-!
# Counts of Ticks Are Exact

A count of ticks stands for a date-time without rounding. What could spoil
that is the fraction, which the unit may be too coarse for, and the range of 64
bits. In a leap second the fraction is one second or more, and the count runs
on by as much as the fraction says.

Only one of the two can happen in a unit. Seconds, milliseconds and
microseconds of the whole calendar fit 64 bits with room to spare, even before
the fraction is added, so there a count is missing for its fraction alone.
Nanoseconds suit every fraction and are missing for their range alone. They are
counted in two steps, though, and the first step leaves the range before the
count does if a fraction of one second or more stands at its very start. No
leap second stands there.

## Main definitions

* `DateTime.IsWhole`: The unit suits the fraction of a date-time.

## Theorems

* `DateTime.nanoTicks?_eq`: The two steps of a count of nanoseconds come to
  one.
* `DateTime.val_ticks?`: A count of ticks stands for its date-time exactly.
* `DateTime.fits64_ticks`: Counts in coarse units are far from the limits.
* `DateTime.ticks?_eq_none_iff`: When a count in a coarse unit is missing.
* `DateTime.ticks?_nanosecond_eq_none_iff`: When one in nanoseconds is.
* `DateTime.ticks?_startOfDay`, `DateTime.ticks?_endOfDay`: Counts at the ends
  of a day.
-/

namespace RowSieve

namespace Calendar

namespace DateTime

theorem subsecond_lt (t : DateTime) : t.subsecond < 2000000000 := t.time.valid.2.2.2

/-- The seconds of the calendar are less than 8.4 million millions, before and
    after second 0. -/
theorem unixSecond_bounds (t : DateTime) :
    -8400000000000 ≤ t.unixSecond ∧ t.unixSecond ≤ 8400000000000 := by
  have hlower := t.date.dayNumber_lower
  have hupper := t.date.dayNumber_upper
  rcases t.time.valid with ⟨hhour, hminute, hsecond, -⟩
  rw [unixSecond]
  constructor <;> omega

/-- Both steps of a count of nanoseconds come to the count itself. -/
theorem nanoTicks?_eq_ite (t : DateTime) :
    t.nanoTicks? =
      if Fits64 (t.countedSecond * 1000000000) then Bounded.ofInt? t.unixNano else none := by
  rw [nanoTicks?]
  split
  case isTrue hwhole =>
    have hsteps : t.countedSecond * 1000000000 + (t.unixNano - t.countedSecond * 1000000000) =
        t.unixNano := by omega
    rw [Bounded.ofInt?_eq_some hwhole]
    exact congrArg Bounded.ofInt? hsteps
  case isFalse hwhole =>
    rw [Bounded.ofInt?_eq_none hwhole]
    rfl

/-- The whole second fits wherever the count does, since no leap second stands
    at the start of the range. -/
theorem fits64_countedSecond {t : DateTime} (ht : t.IsReadable) (h : Fits64 t.unixNano) :
    Fits64 (t.countedSecond * 1000000000) := by
  rcases h with ⟨hlower, hupper⟩
  have hfraction := t.subsecond_lt
  have hsecond : t.subsecond < 1000000000 ∨ t.unixSecond % 60 = 59 := by
    refine ht.imp id fun hlast => ?_
    rw [unixSecond, hlast]
    omega
  rw [unixNano] at hlower hupper
  rw [countedSecond]
  split <;> constructor <;> omega

/-- So a readable date-time has a count of nanoseconds exactly if it fits. -/
theorem nanoTicks?_eq {t : DateTime} (ht : t.IsReadable) :
    t.nanoTicks? = Bounded.ofInt? t.unixNano := by
  rw [nanoTicks?_eq_ite]
  split
  case isTrue => rfl
  case isFalse hwhole => exact (Bounded.ofInt?_eq_none (mt (fits64_countedSecond ht) hwhole)).symm

/-- The unit suits the fraction of the date-time: nothing beyond the second is
    left over. A fraction of exactly one second is too much for whole seconds,
    since it belongs to a leap second. -/
def IsWhole (t : DateTime) : TimeUnit → Prop
  | .second => t.subsecond = 0
  | unit => t.subsecond % unit.nanos = 0

/-- A count of ticks stands for exactly its date-time. -/
theorem val_ticks? {t : DateTime} {unit : TimeUnit} {n : Signed64} (h : t.ticks? unit = some n) :
    n.val * unit.nanos = t.unixNano := by
  rw [unixNano]
  cases unit with
  | second =>
      rw [ticks?] at h
      split at h
      case isTrue hzero =>
        rw [Bounded.ofInt?_eq_some_iff.mp h, hzero]
        exact (Int.add_zero _).symm
      case isFalse => exact absurd h (by simp only [reduceCtorEq, not_false_eq_true])
  | millisecond | microsecond =>
      simp only [ticks?] at h
      split at h
      case isTrue hwhole =>
        rw [Bounded.ofInt?_eq_some_iff.mp h]
        simp only [TimeUnit.nanos, TimeUnit.perSecond] at hwhole ⊢
        omega
      case isFalse => exact absurd h (by simp only [reduceCtorEq, not_false_eq_true])
  | nanosecond =>
      rw [ticks?, nanoTicks?_eq_ite] at h
      split at h
      case isTrue =>
        rw [Bounded.ofInt?_eq_some_iff.mp h, unixNano]
        exact Int.mul_one _
      case isFalse => exact absurd h (by simp only [reduceCtorEq, not_false_eq_true])

/-- Coarse counts stay within 64 bits, with and without the fraction. -/
theorem fits64_ticks (t : DateTime) {unit : TimeUnit} (hunit : unit ≠ .nanosecond) :
    Fits64 (t.unixSecond * unit.perSecond) ∧
      Fits64 (t.unixSecond * unit.perSecond + (t.subsecond / unit.nanos : Nat)) := by
  have hsecond := t.unixSecond_bounds
  have hfraction := t.subsecond_lt
  cases unit with
  | nanosecond => exact absurd rfl hunit
  | _ =>
      simp only [Fits64, TimeUnit.perSecond, TimeUnit.nanos]
      omega

/-- So a count in a coarse unit is missing exactly if the unit does not suit
    the fraction. -/
theorem ticks?_eq_none_iff (t : DateTime) {unit : TimeUnit} (hunit : unit ≠ .nanosecond) :
    t.ticks? unit = none ↔ ¬ t.IsWhole unit := by
  have hfits := (t.fits64_ticks hunit).2
  cases unit with
  | nanosecond => exact absurd rfl hunit
  | second =>
      have hsecond : Fits64 t.unixSecond := by
        have hbounds := t.unixSecond_bounds
        constructor <;> omega
      rw [ticks?, IsWhole, Bounded.ofInt?_eq_some hsecond]
      split <;> simp only [*, not_true_eq_false, not_false_eq_true, reduceCtorEq]
  | millisecond | microsecond =>
      simp only [ticks?, IsWhole, Bounded.ofInt?_eq_some hfits]
      split <;> simp only [*, not_true_eq_false, not_false_eq_true, reduceCtorEq]

theorem ticks?_nanosecond_eq_none_iff {t : DateTime} (ht : t.IsReadable) :
    t.ticks? .nanosecond = none ↔ ¬ Fits64 t.unixNano := by
  rw [ticks?, nanoTicks?_eq ht]
  exact Bounded.ofInt?_eq_none_iff

/-- The first reading of a day has no fraction, so only its range can be in the
    way of a count. -/
theorem ticks?_startOfDay (t : DateTime) (unit : TimeUnit)
    (hunit : unit = .nanosecond → Fits64 t.startOfDay.unixNano) :
    t.startOfDay.ticks? unit ≠ none := by
  by_cases hnano : unit = .nanosecond
  · rw [hnano, ne_eq, ticks?_nanosecond_eq_none_iff t.isReadable_startOfDay]
    exact not_not_intro (hunit hnano)
  · rw [ne_eq, ticks?_eq_none_iff _ hnano]
    refine not_not_intro ?_
    cases unit <;> rfl

/-- The last reading of a day has a fraction of nine nines, which suits no unit
    coarser than the nanosecond. -/
theorem ticks?_endOfDay (t : DateTime) {unit : TimeUnit} (hunit : unit ≠ .nanosecond) :
    t.endOfDay.ticks? unit = none := by
  rw [ticks?_eq_none_iff _ hunit]
  cases unit with
  | nanosecond => exact absurd rfl hunit
  | _ =>
      simp only [IsWhole, subsecond_endOfDay, TimeUnit.nanos]
      decide

end DateTime

end Calendar

end RowSieve
