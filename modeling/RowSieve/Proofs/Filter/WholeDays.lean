import RowSieve.Filter.Compilation
import RowSieve.Proofs.Criteria.Holding
import RowSieve.Proofs.Evaluation.Exactness

/-!
# Whole Days of Instants

The inclusive bounds of a filter on date-times mean whole days. Here that is
followed from the operands, through the widening of the bounds and the two
ways of comparing instants, to the rows of a batch, in each of the four units.

The lower bound is the first reading of its day and is compared in the unit of
the column. The upper bound ends in nine nines, so a column in a coarser unit
is always brought to nanoseconds for it. That is where the calendar is cut
down to 64 bits of nanoseconds, on both sides of the comparison. An upper bound
outside that span is an error, and a cell outside it has no order to the bound
and is dropped, whatever day it falls on. Both are accounted for below, and a
closed instance after the theorem shows both.

## Main definitions

* `Filter.wholeDays`: The filter with one inclusive bound or two.
* `TimeUnit.unreachable?`: The first bound that is out of range.
* `TimeUnit.withinDays`: An instant falls on one of the days.

## Theorems

* `ColumnType.orderInstant_startOfDay`, `ColumnType.orderInstant_endOfDay`:
  How the ends of a day order the cells of a column.
* `Batch.yields_instant`, `Batch.yields_outOfRange`: When an instant can be
  compared at all.
* `Batch.select_wholeDays`: What inclusive bounds select.
* `wholeDays_beyond_nanoseconds`: Where days alone would have said otherwise.
-/

namespace RowSieve

open Calendar

/-- The filter with an inclusive lower bound, an inclusive upper bound, or
    both. -/
def Filter.wholeDays (lower upper : Option DateTime) : Filter .dateTime :=
  let f := match lower with
    | some a => Filter.empty.set .greaterThanOrEqual rfl a
    | none => Filter.empty
  match upper with
  | some b => f.set .lessThanOrEqual rfl b
  | none => f

namespace Calendar.TimeUnit

/-- The first of two inclusive bounds that cannot be compared with a column,
    as it was widened. The lower one is at risk only in nanoseconds. -/
def unreachable? (unit : TimeUnit) (lower upper : Option DateTime) : Option DateTime :=
  ((lower.map DateTime.startOfDay).filter fun t => unit = .nanosecond ∧ ¬ Fits64 t.unixNano).or
    ((upper.map DateTime.endOfDay).filter fun t => ¬ Fits64 t.unixNano)

/-- The instant falls on the day of the lower bound or a later one, and on the
    day of the upper bound or an earlier one. Under an upper bound it also has
    to fit 64 bits of nanoseconds. -/
def withinDays (unit : TimeUnit) (lower upper : Option DateTime) (n : Signed64) : Bool :=
  lower.all (fun a => a.date.dayNumber ≤ unit.dayOf n.val) &&
    upper.all fun b => Fits64 (n.val * unit.nanos) ∧ unit.dayOf n.val ≤ b.date.dayNumber

end Calendar.TimeUnit

namespace ColumnType

/-- Every cell has an order to the first reading of a day. In a coarse unit it
    has a count, and in nanoseconds every cell fits. -/
theorem orderInstant_startOfDay {unit : TimeUnit} {a : DateTime}
    (hunit : unit = .nanosecond → Fits64 a.startOfDay.unixNano) :
    ∃ order, orderInstant unit a.startOfDay = .ok order ∧
      ∀ n, (order n).any Comparison.greaterOrEqual.holds =
        decide (a.date.dayNumber ≤ unit.dayOf n.val) := by
  have hticks := a.ticks?_startOfDay unit hunit
  refine ⟨_, (orderInstant_eq unit a.startOfDay).trans (if_neg fun h => hticks h.1), fun n => ?_⟩
  rw [if_neg fun h => hticks h.1, Option.any_some, Comparison.holds_compare, Comparison.relates,
    DateTime.unixNano_startOfDay]
  exact decide_eq_decide.mpr (unit.startOfDay_le_iff a.date.dayNumber n.val)

/-- The last reading of a day is compared in nanoseconds, whatever the unit of
    the column, so a cell has an order to it exactly if it fits. -/
theorem orderInstant_endOfDay (unit : TimeUnit) {b : DateTime}
    (hb : Fits64 b.endOfDay.unixNano) :
    ∃ order, orderInstant unit b.endOfDay = .ok order ∧
      ∀ n, (order n).any Comparison.lessOrEqual.holds =
        decide (Fits64 (n.val * unit.nanos) ∧ unit.dayOf n.val ≤ b.date.dayNumber) := by
  have hnanos : b.endOfDay.ticks? .nanosecond ≠ none := fun h =>
    (DateTime.ticks?_nanosecond_eq_none_iff b.isReadable_endOfDay).mp h hb
  -- Only in nanoseconds is there a count, and there every cell fits anyway.
  have hopen : ∀ n : Signed64, (b.endOfDay.ticks? unit = none ∧ ¬ Fits64 (n.val * unit.nanos)) ↔
      ¬ Fits64 (n.val * unit.nanos) := by
    intro n
    by_cases hunit : unit = .nanosecond
    · have hn : n.val * (TimeUnit.nanosecond.nanos : Nat) = n.val := Int.mul_one _
      have hfits : Fits64 n.val := ⟨n.lower, n.upper⟩
      simp only [hunit, hn, hfits, not_true_eq_false, and_false]
    · simp only [b.ticks?_endOfDay hunit, true_and]
  refine ⟨_, (orderInstant_eq unit b.endOfDay).trans (if_neg fun h => hnanos h.2), fun n => ?_⟩
  simp only [hopen]
  by_cases hn : Fits64 (n.val * unit.nanos)
  · rw [if_neg (not_not_intro hn), Option.any_some, Comparison.holds_compare, Comparison.relates,
      DateTime.unixNano_endOfDay]
    simp only [TimeUnit.le_endOfDay_iff, hn, true_and]
  · rw [if_pos hn, Option.any_none]
    simp only [hn, false_and, decide_false]

/-- A date-time without a count of nanoseconds is out of range wherever it has
    no count in the unit of the column either. -/
theorem orderInstant_eq_error {unit : TimeUnit} {t : DateTime} (hunit : t.ticks? unit = none)
    (ht : t.ticks? .nanosecond = none) : orderInstant unit t = .error (.outOfRange t) := by
  rw [orderInstant_eq, if_pos ⟨hunit, ht⟩]

end ColumnType

namespace Batch

variable {b : Batch} {path : FieldPath} {place : Place b.schema} {unit : TimeUnit}

/-- Whether a column of instants can be compared with a date-time is settled
    before any row is read. If it can be, each row is judged by how its instant
    is ordered. -/
theorem yields_instant (hplace : b.schema.place path = .ok place)
    (htype : place.type = .timestamp unit none) (how : Comparison) {t : DateTime}
    {order : Signed64 → Option Ordering} (horder : ColumnType.orderInstant unit t = .ok order) :
    b.Yields (.compare how path (.timestamp t)) none fun row =>
      ((row.at? path).bind Value.instant?).any fun n => (order n).any how.holds := by
  -- Evaluating succeeds, and each row is judged by its own instant.
  constructor
  · rw [evaluate_compare hplace htype rfl, ColumnType.order_timestamp, horder]
    exact ⟨_, rfl⟩
  · intro row
    simp only [Row.truth, Row.compared, Truth.isMet_ofVerdict]
    cases hat : row.at? path with
    | none => rfl
    | some v =>
        rcases v with ⟨type, n⟩
        have hv : type = .timestamp unit none := (Row.type_of_at? hplace hat).trans htype
        subst hv
        simp only [Option.bind_some, Value.order?, ColumnType.order_timestamp, horder,
          Option.any_map]
        rfl

/-- If it cannot be, evaluating is an error. -/
theorem yields_outOfRange (hplace : b.schema.place path = .ok place)
    (htype : place.type = .timestamp unit none) (how : Comparison) {t : DateTime}
    (horder : ColumnType.orderInstant unit t = .error (.outOfRange t))
    (test : Row b.schema → Bool) :
    b.Yields (.compare how path (.timestamp t))
      (some (.timestampOutOfRange path t (.timestamp unit none))) test := by
  change b.evaluate _ = _
  rw [evaluate_compare hplace htype rfl, ColumnType.order_timestamp, horder]
  rfl

/-- A lower bound alone: an error, or the instants from its day on. -/
theorem yields_startOfDay (hplace : b.schema.place path = .ok place)
    (htype : place.type = .timestamp unit none) (a : DateTime) :
    b.Yields (.compare .greaterOrEqual path (.timestamp a.startOfDay))
      ((unit.unreachable? (some a) none).map (.timestampOutOfRange path · (.timestamp unit none)))
      fun row => ((row.at? path).bind Value.instant?).any (unit.withinDays (some a) none) := by
  by_cases hunit : unit = .nanosecond → Fits64 a.startOfDay.unixNano
  · have hreached : unit.unreachable? (some a) none = none := by
      have hout : ¬ (unit = .nanosecond ∧ ¬ Fits64 a.startOfDay.unixNano) :=
        fun h => h.2 (hunit h.1)
      simp only [TimeUnit.unreachable?, Option.map_some, Option.filter_some, hout, decide_false]
      rfl
    rcases ColumnType.orderInstant_startOfDay hunit with ⟨order, horder, hday⟩
    have htest : (fun n => (order n).any Comparison.greaterOrEqual.holds) =
        unit.withinDays (some a) none := by
      funext n
      rw [hday, TimeUnit.withinDays, Option.all_some, Option.all_none, Bool.and_true]
    rw [hreached, ← htest]
    exact yields_instant hplace htype .greaterOrEqual horder
  · have hnano : unit = .nanosecond ∧ ¬ Fits64 a.startOfDay.unixNano :=
      Classical.not_imp.mp hunit
    have hmissed : unit.unreachable? (some a) none = some a.startOfDay := by
      simp only [TimeUnit.unreachable?, Option.map_some, Option.filter_some, hnano, and_self,
        not_false_eq_true, decide_true]
      rfl
    have hticks : a.startOfDay.ticks? .nanosecond = none :=
      (DateTime.ticks?_nanosecond_eq_none_iff a.isReadable_startOfDay).mpr hnano.2
    rw [hmissed]
    refine yields_outOfRange hplace htype .greaterOrEqual
      (ColumnType.orderInstant_eq_error ?_ hticks) _
    rw [hnano.1]
    exact hticks

/-- An upper bound alone: an error, or the instants up to its day. -/
theorem yields_endOfDay (hplace : b.schema.place path = .ok place)
    (htype : place.type = .timestamp unit none) (u : DateTime) :
    b.Yields (.compare .lessOrEqual path (.timestamp u.endOfDay))
      ((unit.unreachable? none (some u)).map (.timestampOutOfRange path · (.timestamp unit none)))
      fun row => ((row.at? path).bind Value.instant?).any (unit.withinDays none (some u)) := by
  by_cases hu : Fits64 u.endOfDay.unixNano
  · have hreached : unit.unreachable? none (some u) = none := by
      simp only [TimeUnit.unreachable?, Option.map_some, Option.filter_some, hu, not_true_eq_false,
        decide_false]
      rfl
    rcases ColumnType.orderInstant_endOfDay unit hu with ⟨order, horder, hday⟩
    have htest : (fun n => (order n).any Comparison.lessOrEqual.holds) =
        unit.withinDays none (some u) := by
      funext n
      rw [hday, TimeUnit.withinDays, Option.all_none, Option.all_some, Bool.true_and]
    rw [hreached, ← htest]
    exact yields_instant hplace htype .lessOrEqual horder
  · have hmissed : unit.unreachable? none (some u) = some u.endOfDay := by
      simp only [TimeUnit.unreachable?, Option.map_some, Option.filter_some, hu, not_false_eq_true,
        decide_true]
      rfl
    have hnanos : u.endOfDay.ticks? .nanosecond = none :=
      (DateTime.ticks?_nanosecond_eq_none_iff u.isReadable_endOfDay).mpr hu
    have hticks : u.endOfDay.ticks? unit = none := by
      by_cases hunit : unit = .nanosecond
      · rw [hunit]
        exact hnanos
      · exact u.ticks?_endOfDay hunit
    rw [hmissed]
    exact yields_outOfRange hplace htype .lessOrEqual
      (ColumnType.orderInstant_eq_error hticks hnanos) _

/-- One bound or two: the first bound that is out of range, or the instants on
    the days of the bounds and between them. -/
theorem yields_wholeDays (hplace : b.schema.place path = .ok place)
    (htype : place.type = .timestamp unit none) {lower upper : Option DateTime}
    (hbounds : lower.isSome ∨ upper.isSome) :
    b.Yields ((Filter.wholeDays lower upper).predicate path)
      ((unit.unreachable? lower upper).map (.timestampOutOfRange path · (.timestamp unit none)))
      fun row => ((row.at? path).bind Value.instant?).any (unit.withinDays lower upper) := by
  -- No bound, one of them, or both; the first case is excluded.
  rcases lower with _ | a <;> rcases upper with _ | u
  · simp only [Option.isSome_none, Bool.false_eq_true, or_self] at hbounds
  · exact yields_endOfDay hplace htype u
  · exact yields_startOfDay hplace htype a
  · have hboth := (yields_startOfDay hplace htype a).and (yields_endOfDay hplace htype u)
    -- Each half looks at one of the two bounds and finds the other absent.
    have hfirst : unit.unreachable? (some a) (some u) =
        (unit.unreachable? (some a) none).or (unit.unreachable? none (some u)) := by
      simp only [TimeUnit.unreachable?, Option.map_none, Option.filter_none, Option.none_or,
        Option.or_none]
    have hdays : unit.withinDays (some a) (some u) = fun n =>
        unit.withinDays (some a) none n && unit.withinDays none (some u) n := by
      funext n
      simp only [TimeUnit.withinDays, Option.all_none, Bool.and_true, Bool.true_and]
    have htest : ∀ o : Option Signed64, o.any (unit.withinDays (some a) (some u)) =
        (o.any (unit.withinDays (some a) none) && o.any (unit.withinDays none (some u))) := by
      intro o
      rw [hdays]
      cases o <;> rfl
    rw [← Option.map_or, ← hfirst] at hboth
    simp only [htest]
    exact hboth

/-- Inclusive bounds select the rows whose instants fall on the days of the
    bounds or between them, as far as 64 bits of nanoseconds reach: a bound
    that cannot be compared is an error, and an instant that cannot be compared
    with an upper bound is dropped. -/
theorem select_wholeDays (hplace : b.schema.place path = .ok place)
    (htype : place.type = .timestamp unit none) {lower upper : Option DateTime}
    (hbounds : lower.isSome ∨ upper.isSome) :
    b.select ((Filter.wholeDays lower upper).predicate path) =
      match unit.unreachable? lower upper with
      | some t => .error (.timestampOutOfRange path t (.timestamp unit none))
      | none => .ok ⟨b.schema, b.rows.filter fun row =>
          ((row.at? path).bind Value.instant?).any (unit.withinDays lower upper)⟩ := by
  have hevaluated : ((Filter.wholeDays lower upper).predicate path).isTrivial = false := by
    rcases lower with _ | a <;> rcases upper with _ | u
    · simp only [Option.isSome_none, Bool.false_eq_true, or_self] at hbounds
    all_goals rfl
  rw [(yields_wholeDays hplace htype hbounds).select hevaluated
    (Schema.width_ne_zero_of_place hplace)]
  cases unit.unreachable? lower upper <;> rfl

end Batch

/-- The morning of the fifth of March 2024. -/
def marchMorning : DateTime :=
  ⟨⟨⟨2024, 3, 5⟩, by decide, by decide, by decide⟩, ⟨⟨9, 30, 0, 0⟩, by decide⟩⟩

/-- The first of January of the year 3000. -/
def distantMorning : DateTime :=
  ⟨⟨⟨3000, 1, 1⟩, by decide, by decide, by decide⟩, ⟨⟨9, 30, 0, 0⟩, by decide⟩⟩

/-- A column of instants in seconds: the first and the last second of the fifth
    of March 2024, no instant, the second after, and the first of January of
    year 1. -/
def instants : Batch where
  schema := .column "at" (.timestamp .second none) .empty
  rows :=
    [(.present ⟨1709596800, by decide, by decide⟩, ()),
     (.present ⟨1709683199, by decide, by decide⟩, ()),
     (.missing none, ()), (.present ⟨1709683200, by decide, by decide⟩, ()),
     (.present ⟨-62135596800, by decide, by decide⟩, ())]

/-- Both bounds on one day select the whole of it, whatever the time of day. -/
theorem select_wholeDays_march :
    instants.select ((Filter.wholeDays (some marchMorning) (some marchMorning)).predicate
      (.field "at")) = .ok ⟨instants.schema, instants.rows.take 2⟩ :=
  have h : instants.schema.place (.field "at") =
      .ok ⟨⟨.timestamp .second none, Prod.fst⟩, fun _ => false⟩ := rfl
  (Batch.select_wholeDays h rfl (.inl rfl)).trans rfl

/-- Days alone do not decide. An upper bound in the year 3000 is an error, and
    an upper bound in March 2024 drops the instant of year 1 on an earlier
    day. -/
theorem wholeDays_beyond_nanoseconds :
    instants.select ((Filter.wholeDays none (some distantMorning)).predicate (.field "at")) =
      .error (.timestampOutOfRange (.field "at") distantMorning.endOfDay
        (.timestamp .second none)) ∧
    TimeUnit.second.dayOf (-62135596800) ≤ marchMorning.date.dayNumber ∧
    instants.select ((Filter.wholeDays none (some marchMorning)).predicate (.field "at")) =
      .ok ⟨instants.schema, instants.rows.take 2⟩ :=
  ⟨rfl, by decide, rfl⟩

end RowSieve
