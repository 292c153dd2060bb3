import RowSieve.Calendar.Date

/-!
# Times of Day and Date-Times

A date-time is a date and a reading of the clock on that date, with no zone.
The nanoseconds of a reading may run on for a second beyond its own. That is
how a leap second is held: as second 59 and a fraction of one second or more,
and not as another name for the second after it, so that two distinct texts
never denote one value.

Nothing keeps such a fraction to second 59. At any other second it makes a
reading that no text denotes, since texts write it as a fraction of the next
second.

The two day bounds at the end are what an inclusive bound on a date-time is
widened to. The upper one is the last nanosecond of second 59. It does not
reach into a leap second.

## Main definitions

* `Clock`: A reading of the clock, whatever its numbers.
* `Clock.IsReadable`, `DateTime.IsReadable`: Some text denotes the reading.
* `Time`: A reading that exists.
* `DateTime`: A date and a time.
* `DateTime.startOfDay`, `DateTime.endOfDay`: The first and the last reading
  of a day.
-/

namespace RowSieve

namespace Calendar

/-- A reading of the clock, with the nanoseconds beyond its second. -/
structure Clock where
  hour : Nat
  minute : Nat
  second : Nat
  nano : Nat
deriving DecidableEq

namespace Clock

/-- The reading exists. Its nanoseconds may run on for one more second. -/
def IsValid (c : Clock) : Prop :=
  c.hour < 24 ∧ c.minute < 60 ∧ c.second < 60 ∧ c.nano < 2000000000

instance (c : Clock) : Decidable c.IsValid := by
  unfold IsValid
  infer_instance

/-- Some text denotes the reading: its fraction is below one second, or it
    stands in a leap second. -/
def IsReadable (c : Clock) : Prop := c.nano < 1000000000 ∨ c.second = 59

instance (c : Clock) : Decidable c.IsReadable := by
  unfold IsReadable
  infer_instance

/-- The reading that a text denotes by its numbers. Second 60 is second 59 with
    one second more in nanoseconds. -/
def ofText (hour minute second nano : Nat) : Clock :=
  if second = 60 then ⟨hour, minute, 59, nano + 1000000000⟩ else ⟨hour, minute, second, nano⟩

/-- The reading that many seconds after midnight, on a day without a leap
    second. -/
def ofSecondOfDay (second nano : Nat) : Clock :=
  ⟨second / 3600, second / 60 % 60, second % 60, nano⟩

/-- Readings are ordered from the hour down to the fraction. However far a
    fraction runs on, it comes before the next second. -/
instance : Ord Clock :=
  ⟨fun a b => (compare a.hour b.hour).then ((compare a.minute b.minute).then
    ((compare a.second b.second).then (compare a.nano b.nano)))⟩

/-- Both ends of a day exist. -/
theorem isValid_first : IsValid ⟨0, 0, 0, 0⟩ := by decide

theorem isValid_last : IsValid ⟨23, 59, 59, 999999999⟩ := by decide

end Clock

/-- A reading of the clock that exists. -/
structure Time extends Clock where
  /-- Every part is in range. -/
  valid : toClock.IsValid
deriving DecidableEq

namespace Time

/-- The time with the given reading, if it exists. -/
def ofClock? (c : Clock) : Option Time :=
  if h : c.IsValid then some ⟨c, h⟩ else none

/-- The first reading of a day. -/
def first : Time := ⟨⟨0, 0, 0, 0⟩, Clock.isValid_first⟩

/-- The last reading of a day without a leap second. -/
def last : Time := ⟨⟨23, 59, 59, 999999999⟩, Clock.isValid_last⟩

instance : Ord Time := ⟨fun a b => compare a.toClock b.toClock⟩

end Time

/-- A date and a time, with no zone. -/
structure DateTime where
  date : Date
  time : Time
deriving DecidableEq

namespace DateTime

/-- Some text denotes the date-time. -/
def IsReadable (t : DateTime) : Prop := t.time.toClock.IsReadable

instance (t : DateTime) : Decidable t.IsReadable :=
  inferInstanceAs (Decidable t.time.toClock.IsReadable)

/-- The first reading of the same day. -/
def startOfDay (t : DateTime) : DateTime := { t with time := Time.first }

/-- The last reading of the same day, leap seconds aside. -/
def endOfDay (t : DateTime) : DateTime := { t with time := Time.last }

/-- Both ends of a day are readable. -/
theorem isReadable_startOfDay (t : DateTime) : t.startOfDay.IsReadable :=
  .inl (Nat.zero_lt_succ _)

theorem isReadable_endOfDay (t : DateTime) : t.endOfDay.IsReadable := .inr rfl

instance : Ord DateTime :=
  ⟨fun a b => (compare a.date b.date).then (compare a.time b.time)⟩

end DateTime

end Calendar

end RowSieve
