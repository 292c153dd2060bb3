import RowSieve.Proofs.Calendar.Moments
import RowSieve.Proofs.Evaluation.Trichotomy

/-!
# Dates Stored as Milliseconds

A date kept as milliseconds may point at any time of its day. Two conditions
look at such a cell as a date. A pattern sees its calendar text, which shows
the day that the milliseconds fall on: the quotient is rounded down. A
comparison with a date cuts the milliseconds to days as well, but toward day 0.

From 1970 on the two agree, and so they do at midnight. Before 1970, at any
other time of a day, the cut leads to the next day. So a cell that shows the
last day of 1969 is equal to the first of 1970, and no comparison with the day
that it shows is right unless the next day would do as well.

The narrowing to 32 bits never matters: the days of the calendar are few enough,
and one day more does not change that.

## Main definitions

* `PassesMidnight`: The cut leads past a midnight, to another day.

## Theorems

* `Value.text?_date64`: The text form starts with the day that is shown.
* `tdiv_dayMilliseconds`: Where the cut leads.
* `Batch.evaluate_storedDates`: What comparisons with a date say of a cell.
-/

namespace RowSieve

open Calendar

/-- Milliseconds before day 0 that are not those of a midnight. -/
def PassesMidnight (ms : Int) : Prop := ms < 0 ∧ ms % 86400000 ≠ 0

/-- Cut toward day 0, milliseconds lead to the day they fall on, or to the next
    day if they pass a midnight on the way. -/
theorem tdiv_dayMilliseconds (ms : Int) :
    (¬ PassesMidnight ms → ms.tdiv ColumnType.dayMilliseconds = ms / 86400000) ∧
      (PassesMidnight ms → ms.tdiv ColumnType.dayMilliseconds = ms / 86400000 + 1) := by
  unfold PassesMidnight
  rw [ColumnType.dayMilliseconds, Int.tdiv_eq_ediv]
  constructor
  · intro h
    have hplain : 0 ≤ ms ∨ (86400000 : Int) ∣ ms := by omega
    rw [if_pos hplain, Int.add_zero]
  · intro h
    have hpasses : ¬ (0 ≤ ms ∨ (86400000 : Int) ∣ ms) := by omega
    rw [if_neg hpasses]
    rfl

/-- Neither day is so far from day 0 that it would be wrapped. -/
theorem val_wrap_tdiv {ms : Int} {d : Date} (h : d.dayNumber = ms / 86400000) :
    (Signed32.wrap (ms.tdiv ColumnType.dayMilliseconds)).val =
      ms.tdiv ColumnType.dayMilliseconds := by
  have hlower := d.dayNumber_lower
  have hupper := d.dayNumber_upper
  rcases tdiv_dayMilliseconds ms with ⟨hplain, hpasses⟩
  have hnear : ms.tdiv ColumnType.dayMilliseconds = d.dayNumber ∨
      ms.tdiv ColumnType.dayMilliseconds = d.dayNumber + 1 := by
    rcases Classical.em (PassesMidnight ms) with hms | hms
    · exact .inr (h ▸ hpasses hms)
    · exact .inl (h ▸ hplain hms)
  exact Int.bmod_eq_of_le (by omega) (by omega)

/-- The text form of milliseconds starts with the day they fall on. -/
theorem Value.text?_date64 (path : FieldPath) {ms : Signed64} {d : Date}
    (h : d.dayNumber = ms.val / 86400000) :
    Value.text? path ⟨.date64, ms⟩ =
      some (d.text ++ 'T' :: (Moment.ofTicks .millisecond 0 ms.val).clock.text) := by
  have hday : d.dayNumber = ms.val / TimeUnit.millisecond.perSecond / 86400 := by
    rw [h, TimeUnit.perSecond]
    omega
  have hsupported := TimeUnit.supports_iff.mpr ⟨d, hday⟩
  simp only [text?, ColumnType.textForm, ColumnType.instantText, if_pos hsupported]
  rw [Moment.text, Moment.day_ofTicks hday, List.append_nil]
  rfl

namespace Batch

variable {b : Batch} {path : FieldPath} {place : Place b.schema}

/-- Comparing a column of milliseconds with a date always has a mask. A cell
    whose text form shows a date is compared as that date from 1970 on and at
    midnight, and otherwise as the date after it. -/
theorem evaluate_storedDates (hplace : b.schema.place path = .ok place)
    (htype : place.type = .date64) (how : Comparison) (day : Signed32) :
    ∃ m, b.evaluate (.compare how path (.date day)) = .ok m ∧
      ∀ (i : Nat) (row : Row b.schema), b.rows[i]? = some row →
        (row.at? path = none → m[i]? = some .unknown) ∧
        ∀ (ms : Signed64) (d : Date), row.at? path = some ⟨.date64, ms⟩ →
          d.dayNumber = ms.val / 86400000 →
          (∃ clock, row.text? path = some (d.text ++ 'T' :: clock)) ∧
          (¬ PassesMidnight ms.val →
            m[i]? = some (.ofBool (how.relates d.dayNumber day.val))) ∧
          (PassesMidnight ms.val →
            m[i]? = some (.ofBool (how.relates (d.dayNumber + 1) day.val))) := by
  refine ⟨_, (evaluate_compare hplace htype rfl how (.date day)).trans rfl,
    fun i row hrow => ?_⟩
  rw [List.getElem?_map, hrow, Option.map_some]
  refine ⟨fun hnone => ?_, fun ms d hat hday =>
    ⟨⟨(Moment.ofTicks .millisecond 0 ms.val).clock.text, ?_⟩, ?_⟩⟩
  · rw [Row.compared, hnone]
    rfl
  · rw [Row.text?, hat]
    exact Value.text?_date64 path hday
  · have hcompared : row.compared how path (.date day) =
        .ofBool (how.relates (ms.val.tdiv ColumnType.dayMilliseconds) day.val) := by
      rw [Row.compared, hat, Option.bind_some, Value.order?_date, ← val_wrap_tdiv hday,
        ← Comparison.holds_compare]
      rfl
    rcases tdiv_dayMilliseconds ms.val with ⟨hplain, hpasses⟩
    rw [hcompared]
    constructor
    · intro hms
      rw [hplain hms, hday]
    · intro hms
      rw [hpasses hms, hday]

end Batch

/-- Noon on the last day of 1969, noon on the day after it, no date, and the
    midnight at which the last day of 1969 began. -/
def aroundNewYear1970 : Batch where
  schema := .column "day" .date64 .empty
  rows :=
    [(.present ⟨-43200000, by decide, by decide⟩, ()),
     (.present ⟨43200000, by decide, by decide⟩, ()),
     (.missing none, ()), (.present ⟨-86400000, by decide, by decide⟩, ())]

def lastOf1969 : Date := ⟨⟨1969, 12, 31⟩, by decide, by decide, by decide⟩

def firstOf1970 : Date := ⟨⟨1970, 1, 1⟩, by decide, by decide, by decide⟩

/-- The first cell shows the last day of 1969 and is found by it in a pattern,
    but the comparison with that day fails. The one with the next day is met. -/
theorem date_before_1970_missed :
    aroundNewYear1970.rows.map (Row.text? · (.field "day")) =
        [some "1969-12-31T12:00:00".toList, some "1970-01-01T12:00:00".toList, none,
          some "1969-12-31T00:00:00".toList] ∧
      aroundNewYear1970.evaluate (.like (.field "day") "1969-12-31%") =
        .ok [.met, .failed, .unknown, .met] ∧
      Comparison.equal.relates (-43200000 / 86400000) lastOf1969.dayNumber = true ∧
      aroundNewYear1970.evaluate
          (.compare .equal (.field "day") (.date (Signed32.wrap lastOf1969.dayNumber))) =
        .ok [.failed, .failed, .unknown, .met] ∧
      aroundNewYear1970.evaluate
          (.compare .equal (.field "day") (.date (Signed32.wrap firstOf1970.dayNumber))) =
        .ok [.met, .met, .unknown, .failed] :=
  ⟨by decide +kernel, toOption_eq_some_iff.mp (by decide +kernel), by decide, rfl, rfl⟩

/-- The first cell is compared as the first day of 1970. The others are compared
    as the days they show. -/
theorem evaluate_storedDates_newYear1970 :
    ∃ m, aroundNewYear1970.evaluate
        (.compare .equal (.field "day") (.date (Signed32.wrap lastOf1969.dayNumber))) = .ok m ∧
      m[0]? = some .failed ∧ m[1]? = some .failed ∧ m[2]? = some .unknown ∧
      m[3]? = some .met := by
  have hplace : aroundNewYear1970.schema.place (.field "day") =
      .ok ⟨⟨.date64, Prod.fst⟩, fun _ => false⟩ := rfl
  rcases Batch.evaluate_storedDates hplace rfl .equal (Signed32.wrap lastOf1969.dayNumber) with
    ⟨m, hm, hslots⟩
  refine ⟨m, hm, ?_, ?_, (hslots 2 _ rfl).1 rfl, ?_⟩
  · exact ((hslots 0 _ rfl).2 _ lastOf1969 rfl (by decide)).2.2 ⟨by decide, by decide⟩
  · exact ((hslots 1 _ rfl).2 _ firstOf1970 rfl (by decide)).2.1
      fun hpasses => absurd hpasses.1 (by decide)
  · exact ((hslots 3 _ rfl).2 _ lastOf1969 rfl (by decide)).2.1
      fun hpasses => absurd hpasses.2 (by decide)

end RowSieve
