import RowSieve.Proofs.Evaluation.Trichotomy
import RowSieve.Proofs.Filter.MissingFields
import RowSieve.Proofs.Filter.RoundTrip

/-!
# Contradictory Bounds

A lower bound above an upper bound asks for what cannot be, and so do two equal
bounds of which one is strict. That is settled in the order of the filter's
type: of code points, of dates in the calendar, of date-times digit by digit.

Rows are not judged in that order. A field is compared with each bound on its
own, after the bound has been converted: a date to a day number, an integer to
64 bits, a date-time to ticks, of the column's unit for the one bound and of
nanoseconds for the other. A row could slip through if the two scales did not
fit together, or if a conversion moved one bound past the other.

Neither happens. For each type there is one total order in which every
comparison that is met has taken place, whatever the column, and in it the
bounds are ordered as they are in the type. A row that met both would stand
between them.

Leap seconds are left out. A date-time in one is ordered before the minute that
follows and its nanoseconds reach into it, so there the conversion does move one
bound past the other. Equal bounds stay equal there as well, and a strict one
among them still has the last word.

## Main definitions

* `Comparison.lower`, `Comparison.upper`: The comparisons that bounds make.
* `Scalar.OutsideLeapSeconds`: A value is ordered as its literal is.
* `Filter.lower?`, `Filter.upper?`: The bounds of a filter.
* `Filter.Contradictory`: No value is on the right side of two of them.

## Theorems

* `Comparison.holds_between`: What stands between two bounds orders them.
* `Value.holds_between`: So does a field, whatever its column.
* `Filter.meets_bounds`: A row that meets a filter meets its bounds.
* `Filter.select_contradictory`: Contradictory bounds select nothing.
-/

namespace RowSieve

open Calendar

namespace Comparison

/-- What a lower bound asks of a field, in its strict form and otherwise. -/
def lower (strict : Bool) : Comparison := if strict then .greater else .greaterOrEqual

/-- What an upper bound asks of a field. -/
def upper (strict : Bool) : Comparison := if strict then .less else .lessOrEqual

/-- A field is above a bound if the bound is below the field. -/
theorem holds_lower (strict : Bool) (o : Ordering) :
    (lower strict).holds o = (upper strict).holds o.swap := by
  cases strict <;> cases o <;> rfl

theorem holds_upper_true {o : Ordering} : (upper true).holds o = true ↔ o = .lt := by
  cases o <;> decide

theorem holds_upper_false {o : Ordering} : (upper false).holds o = true ↔ o.isLE = true := by
  cases o <;> decide

/-- A field is on the right side of one bound from both sides if it is equal to
    it, and then neither side is strict. -/
theorem inclusive_of_holds {o : Ordering} {p q : Bool} (hl : (lower p).holds o = true)
    (hu : (upper q).holds o = true) : p = false ∧ q = false := by
  cases p <;> cases q <;> cases o <;> revert hl hu <;> decide

section TotalOrder

variable {α : Type} [Ord α] [Std.TransOrd α] {p q : Bool}

/-- Two steps upward are one, which is strict if one of the two is. -/
theorem holds_upper_trans {l x u : α} (hl : (upper p).holds (compare l x) = true)
    (hu : (upper q).holds (compare x u) = true) : (upper (p || q)).holds (compare l u) = true := by
  cases p <;> cases q <;>
    simp only [Bool.or_false, Bool.or_true, holds_upper_true, holds_upper_false] at hl hu ⊢
  · exact Std.TransCmp.isLE_trans hl hu
  · exact Std.TransCmp.lt_of_isLE_of_lt hl hu
  · exact Std.TransCmp.lt_of_lt_of_isLE hl hu
  · exact Std.TransCmp.lt_trans hl hu

/-- What stands between two bounds puts the lower one below the upper one. -/
theorem holds_between {x l u : α} (hl : (lower p).holds (compare x l) = true)
    (hu : (upper q).holds (compare x u) = true) : (upper (p || q)).holds (compare l u) = true := by
  rw [holds_lower, ← Std.OrientedCmp.eq_swap] at hl
  exact holds_upper_trans hl hu

/-- The same where a field may have no counterpart in the order. -/
theorem holds_between_read {read : Option α} {l u : α}
    (hl : (lower p).verdict (read.map (compare · l)) = .met)
    (hu : (upper q).verdict (read.map (compare · u)) = .met) :
    (upper (p || q)).holds (compare l u) = true := by
  rcases verdict_eq_met_iff.mp hl with ⟨o, ho, hlower⟩
  rcases verdict_eq_met_iff.mp hu with ⟨o', ho', hupper⟩
  rcases Option.map_eq_some_iff.mp ho with ⟨x, hx, rfl⟩
  rw [hx, Option.map_some, Option.some.injEq] at ho'
  exact holds_between hlower (ho' ▸ hupper)

end TotalOrder

end Comparison

/-- The value is ordered among others of its type as its literal is. All are,
    except the date-times in a leap second. -/
def Scalar.OutsideLeapSeconds : (s : Scalar) → s.Value → Prop
  | .dateTime, t => (DateTime.time t).nano < 1000000000
  | _, _ => True

/-- A field that meets two bounds of a type puts the lower one below the upper
    one, in the order of the type. -/
theorem Value.holds_between (s : Scalar) (v : Value) {l u : s.Value} {p q : Bool}
    (hl : s.OutsideLeapSeconds l) (hu : s.OutsideLeapSeconds u)
    (hlower : (Comparison.lower p).verdict (v.order? (s.literal l)) = .met)
    (hupper : (Comparison.upper q).verdict (v.order? (s.literal u)) = .met) :
    (Comparison.upper (p || q)).holds (s.order l u) = true := by
  -- For each type it is said which order the comparisons take place in.
  cases s with
  | boolean =>
      simp only [Scalar.literal, order?_boolean] at hlower hupper
      exact Comparison.holds_between_read hlower hupper
  | long =>
      simp only [Scalar.literal, order?_integer] at hlower hupper
      exact Comparison.holds_between_read hlower hupper
  | integer =>
      -- The bounds are the same integers in 64 bits as they are in 32.
      have hwide : compare l u = compare (Signed32.widen l) (Signed32.widen u) := rfl
      simp only [Scalar.literal, Literal.ofSigned32, order?_integer] at hlower hupper
      rw [Scalar.order, hwide]
      exact Comparison.holds_between_read hlower hupper
  | string =>
      simp only [Scalar.literal, order?_string] at hlower hupper
      exact Comparison.holds_between_read hlower hupper
  | date =>
      have hdays : compare l u =
          compare (Signed32.wrap (Date.dayNumber l)) (Signed32.wrap (Date.dayNumber u)) := by
        change _ = compare (Signed32.wrap _).val (Signed32.wrap _).val
        rw [Date.val_wrap_dayNumber, Date.val_wrap_dayNumber]
        exact Date.compare_eq l u
      simp only [Scalar.literal, Literal.ofDate, order?_date] at hlower hupper
      rw [Scalar.order, hdays]
      exact Comparison.holds_between_read hlower hupper
  | dateTime =>
      -- Ticks of two units are compared as nanoseconds, of any number of digits.
      have hnanos : ∀ (how : Comparison) (t : DateTime),
          how.verdict (v.order? (.timestamp t)) = .met →
            how.verdict (v.nanos?.map (compare · t.unixNano)) = .met := by
        intro how t hmet
        rcases v.order?_timestamp t with hopen | horder
        · rw [hopen] at hmet
          exact Truth.noConfusion hmet
        · exact horder ▸ hmet
      rw [Scalar.order, DateTime.compare_eq hl hu]
      exact Comparison.holds_between_read (hnanos _ l hlower) (hnanos _ u hupper)

/-- The same for the field at a path. One that is missing meets no bound. -/
theorem Row.holds_between {t : Schema} {row : Row t} {path : FieldPath} {s : Scalar}
    {l u : s.Value} {p q : Bool} (hl : s.OutsideLeapSeconds l) (hu : s.OutsideLeapSeconds u)
    (hlower : row.compared (.lower p) path (s.literal l) = .met)
    (hupper : row.compared (.upper q) path (s.literal u) = .met) :
    (Comparison.upper (p || q)).holds (s.order l u) = true := by
  rw [compared_eq_verdict, order?] at hlower hupper
  cases hat : row.at? path with
  | none =>
      rw [hat] at hlower
      exact Truth.noConfusion hlower
  | some v =>
      rw [hat, Option.bind_some] at hlower hupper
      exact v.holds_between s hl hu hlower hupper

namespace Filter

variable {kind : Kind} {f : Filter kind} {path : FieldPath}

/-- The lower bound of a filter, in its strict form or otherwise. -/
def lower? (f : Filter kind) : (strict : Bool) → Option kind.scalar.Value
  | true => f.operand? .greaterThan
  | false => f.operand? .greaterThanOrEqual

/-- The upper bound of a filter. -/
def upper? (f : Filter kind) : (strict : Bool) → Option kind.scalar.Value
  | true => f.operand? .lessThan
  | false => f.operand? .lessThanOrEqual

/-- A lower bound of the filter is greater than an upper bound, neither in a leap
    second, or the two are equal and one is strict. -/
def Contradictory (f : Filter kind) : Prop :=
  ∃ p q l u, f.lower? p = some l ∧ f.upper? q = some u ∧
    (kind.scalar.order l u = .gt ∧ kind.scalar.OutsideLeapSeconds l ∧
        kind.scalar.OutsideLeapSeconds u ∨
      l = u ∧ (p = true ∨ q = true))

/-- A row that meets a filter meets each of its bounds, whatever else the filter
    asks. -/
theorem meets_bounds {t : Schema} {row : Row t}
    (hmet : (row.truth (f.predicate path)).isMet = true) {strict : Bool}
    {v : kind.scalar.Value} :
    (f.lower? strict = some v →
      row.compared (.lower strict) path (kind.scalar.literal v) = .met) ∧
    (f.upper? strict = some v →
      row.compared (.upper strict) path (kind.scalar.literal v) = .met) := by
  rw [f.isMet_predicate] at hmet
  have hleaf : ∀ {c w how}, f.operand? c = some w →
      c.leaf? path w = some (.compare how path (kind.scalar.literal v)) →
        row.compared how path (kind.scalar.literal v) = .met := by
    intro c w how hw hleaf
    have h := Truth.isMet_iff.mp (hmet c w _ hw hleaf)
    rw [Row.truth] at h
    exact h
  cases strict with
  | true => exact ⟨fun hv => hleaf hv rfl, fun hv => hleaf hv rfl⟩
  | false => exact ⟨fun hv => hleaf hv rfl, fun hv => hleaf hv rfl⟩

/-- No row meets contradictory bounds. -/
theorem truth_ne_met_of_contradictory (h : f.Contradictory) {t : Schema} (row : Row t) :
    row.truth (f.predicate path) ≠ .met := by
  intro hmet
  rcases h with ⟨p, q, l, u, hl, hu, hcrossed⟩
  have hlower := (meets_bounds (Truth.isMet_iff.mpr hmet)).1 hl
  have hupper := (meets_bounds (Truth.isMet_iff.mpr hmet)).2 hu
  rcases hcrossed with ⟨hgreater, houtside, houtside'⟩ | ⟨rfl, hstrict⟩
  · -- The row would put the lower bound below the upper one.
    have hbelow := Row.holds_between houtside houtside' hlower hupper
    rw [hgreater] at hbelow
    cases p <;> cases q <;> exact nomatch hbelow
  · -- With one bound there is one order, and no conversion to compare.
    rcases Comparison.verdict_eq_met_iff.mp hlower with ⟨o, ho, hbelow⟩
    rcases Comparison.verdict_eq_met_iff.mp hupper with ⟨o', ho', habove⟩
    rw [ho, Option.some.injEq] at ho'
    rcases Comparison.inclusive_of_holds hbelow (ho' ▸ habove) with ⟨rfl, rfl⟩
    rcases hstrict with hp | hq
    · exact nomatch hp
    · exact nomatch hq

/-- Bounds that contradict each other are met by no row, whatever else the filter
    asks and whatever its kind. Where the filter can be evaluated at all, no slot
    of its mask is met, the mask that is applied has failed throughout, and no
    row is selected. -/
theorem select_contradictory (f : Filter kind) (h : f.Contradictory) (path : FieldPath)
    (b : Batch) (m : Mask) (hm : b.evaluate (f.predicate path) = .ok m) :
    (∀ i : Nat, m[i]? ≠ some .met) ∧
      b.matching (f.predicate path) = .ok (.constant b.size .failed) ∧
      b.select (f.predicate path) = .ok ⟨b.schema, []⟩ := by
  have hdropped : ∀ row : Row b.schema, (row.truth (f.predicate path)).isMet = false :=
    fun row => Bool.eq_false_iff.mpr fun hmet =>
      truth_ne_met_of_contradictory h row (Truth.isMet_iff.mp hmet)
  refine ⟨fun i hi => ?_, ?_, ?_⟩
  · rw [Batch.evaluate_eq_ok hm, List.getElem?_map] at hi
    rcases Option.map_eq_some_iff.mp hi with ⟨row, -, hmet⟩
    exact truth_ne_met_of_contradictory h row hmet
  · rw [Batch.matching, hm, Batch.evaluate_eq_ok hm]
    simp only [bind, Except.bind, List.map_map, Function.comp_def, hdropped, Truth.ofBool]
    rw [List.map_const']
    rfl
  · rcases Batch.select_of_evaluable_predicate ⟨m, hm⟩ with ⟨rows, hrows⟩
    have hnone : b.rows.filter (fun row => (row.truth (f.predicate path)).isMet) = [] :=
      List.filter_eq_nil_iff.mpr fun row _ => Bool.not_eq_true _ ▸ hdropped row
    rw [hrows, Batch.select_eq_ok hrows, hnone]

end Filter

/-- From the first day of 2017 on, and before the last half second of 2016. -/
def crossedNewYear : Filter .dateTime :=
  ((Filter.empty.set .specified Filter.Kind.dateTime_supports_base true).set
    .greaterThanOrEqual Filter.Kind.dateTime_supports_bounds newYear2017).set
      .lessThan Filter.Kind.dateTime_supports_bounds halfSecondOf2016

/-- The first second of 2017 and a later instant are on the first day or after
    it. The lower bound is compared in seconds and the upper one in nanoseconds,
    which the later instant does not fit, so that it is left open. No instant is
    met. -/
theorem select_contradictory_newYear :
    crossedNewYear.Contradictory ∧
      aroundLeapSecond.evaluate (crossedNewYear.predicate (.field "at")) =
        .ok [.failed, .failed, .failed, .unknown] ∧
      aroundLeapSecond.select (crossedNewYear.predicate (.field "at")) =
        .ok ⟨aroundLeapSecond.schema, []⟩ := by
  have hcrossed : crossedNewYear.Contradictory :=
    ⟨false, true, newYear2017, halfSecondOf2016, rfl, rfl,
      .inl ⟨rfl, (by decide : newYear2017.time.nano < 1000000000),
        (by decide : halfSecondOf2016.time.nano < 1000000000)⟩⟩
  have hmask : aroundLeapSecond.evaluate (crossedNewYear.predicate (.field "at")) =
      .ok [.failed, .failed, .failed, .unknown] := rfl
  exact ⟨hcrossed, hmask, (crossedNewYear.select_contradictory hcrossed _ _ _ hmask).2.2⟩

end RowSieve
