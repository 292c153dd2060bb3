import RowSieve.Proofs.Calendar.Chronology
import RowSieve.Proofs.Criteria.Holding
import RowSieve.Proofs.Evaluation.Exactness

/-!
# Less, Equal or Greater

Six ways to compare a column with a literal come to one question, which of the
two comes first. So the six are evaluated alike. They fail together, with the
same error, or each has a mask, and on each row the masks are open together or
exactly one of less, equal and greater is met. The other three are their
negations.

Between two literals it is less simple. A date-time with a fraction may be
compared in nanoseconds where one without is compared in the unit of the
column, and in nanoseconds some cells are too large to be compared at all. What
is left is that the two never contradict each other: a cell beyond the later
literal is beyond the earlier one as well, or it has no order to it. The same
holds for literals of every other kind, of which each is compared in one total
order.

Date-times in a leap second are left out. They are ordered before the minute
that follows, into which their nanoseconds reach.

## Main definitions

* `Comparison.strict`: Less, equal and greater.
* `Comparison.verdict`: What a comparison says, given which comes first.
* `Row.order?`: Which comes first, the field at a path or a literal.
* `Literal.NotAfter`: The order of literals of one kind.
* `InStep`: The orders of a cell to two literals do not contradict each other.

## Theorems

* `Truth.partition`: One order settles the three strict comparisons.
* `Batch.evaluate_comparisons`: The six comparisons fail together or not at all.
* `Value.inStep`: A value keeps its place between two literals.
* `Batch.comparisons_partition`: The same for the slots of masks.
-/

namespace RowSieve

open Calendar

namespace Comparison

/-- Less, equal and greater, of which one at most is met. -/
def strict : List Comparison := [.less, .equal, .greater]

end Comparison

section OneLiteral

/-- What a comparison says, given the order of a field to the literal, if there
    is one. -/
def Comparison.verdict (how : Comparison) (order? : Option Ordering) : Truth :=
  .ofVerdict (order?.map how.holds)

/-- Without an order all comparisons are open, and with one exactly one of the
    strict ones is met. The cases are the four answers to which comes first. -/
theorem Truth.partition (order? : Option Ordering) :
    (∀ how, Comparison.verdict how order? = .unknown) ∨
      ∃ how ∈ Comparison.strict, how.verdict order? = .met ∧
        ∀ other ∈ Comparison.strict, other ≠ how → other.verdict order? = .failed := by
  rcases order? with _ | _ | _ | _
  · exact .inl fun _ => rfl
  · exact .inr ⟨.less, by decide⟩
  · exact .inr ⟨.equal, by decide⟩
  · exact .inr ⟨.greater, by decide⟩

/-- The other three comparisons are the negations of the strict ones. -/
theorem Comparison.verdict_not (order? : Option Ordering) :
    Comparison.notEqual.verdict order? = (Comparison.equal.verdict order?).not ∧
      Comparison.greaterOrEqual.verdict order? = (Comparison.less.verdict order?).not ∧
      Comparison.lessOrEqual.verdict order? = (Comparison.greater.verdict order?).not := by
  rcases order? with _ | _ | _ | _ <;> exact ⟨rfl, rfl, rfl⟩

/-- A comparison is met if there is an order and it is one of those that the
    comparison stands for. -/
theorem Comparison.verdict_eq_met_iff {how : Comparison} {order? : Option Ordering} :
    how.verdict order? = .met ↔ ∃ o, order? = some o ∧ how.holds o = true := by
  unfold verdict
  cases order? with
  | none => exact ⟨nofun, nofun⟩
  | some o =>
      simp only [Option.map_some, Option.some.injEq, exists_eq_left', Truth.ofVerdict]
      cases how.holds o <;> simp only [Truth.ofBool, reduceCtorEq, Bool.false_eq_true]

/-- How the field at a path is ordered to a literal, if it is. -/
def Row.order? {s : Schema} (row : Row s) (path : FieldPath) (l : Literal) : Option Ordering :=
  (row.at? path).bind (·.order? l)

theorem Row.compared_eq_verdict {s : Schema} (row : Row s) (how : Comparison) (path : FieldPath)
    (l : Literal) : row.compared how path l = how.verdict (row.order? path l) := rfl

/-- The six comparisons fail together, with one error, or each has a mask. What
    settles it is the column and the literal, and no comparison is asked. -/
theorem Batch.evaluate_comparisons (b : Batch) (path : FieldPath) (l : Literal) :
    (∃ e, ∀ how, b.evaluate (.compare how path l) = .error e) ∨
      ∀ how, b.evaluate (.compare how path l) =
        .ok (b.rows.map fun row => how.verdict (row.order? path l)) := by
  -- Whatever can fail is looked up before the comparison is.
  cases hc : b.column path with
  | error e =>
      refine .inl ⟨e, fun how => ?_⟩
      rw [evaluate, compared, hc]
      rfl
  | ok c =>
      cases horder : c.type.order l with
      | error why =>
          refine .inl ⟨why.at path l c.type, fun how => ?_⟩
          rw [evaluate, compared, hc]
          simp only [bind, Except.bind, Column.compared, horder]
      | ok order =>
          refine .inr fun how => ?_
          have hsome : ∃ m, b.compared how path l = .ok m := by
            rw [compared, hc]
            simp only [bind, Except.bind, Column.compared, horder, Except.ok.injEq, exists_eq']
          rcases hsome with ⟨m, hm⟩
          rw [evaluate, hm, compared_eq_ok hm]
          simp only [Row.compared_eq_verdict]

end OneLiteral

/-- The literals are of one kind, and the second does not come before the first.
    Texts are ordered by code points. Leap seconds are left out. -/
def Literal.NotAfter : Literal → Literal → Prop
  | .boolean b, .boolean c => (compare b c).isLE
  | .integer m, .integer n => (compare m n).isLE
  | .string s, .string t => (compare s t).isLE
  | .date d, .date e => (compare d e).isLE
  | .timestamp t, .timestamp u =>
    t.time.nano < 1000000000 ∧ u.time.nano < 1000000000 ∧ (compare t u).isLE
  | _, _ => False

/-- The orders of one cell to a literal and to one that is not before it. A cell
    beyond the second literal is not said to be equal to the first or short of
    it, and the other way round. -/
def InStep (first second : Option Ordering) : Prop :=
  (second = some .gt → first = some .gt ∨ first = none) ∧
    (first = some .lt → second = some .lt ∨ second = none)

section TwoLiterals

/-- A cell without an order to one of the literals contradicts nothing. -/
theorem InStep.of_none {first second : Option Ordering} (h : first = none ∨ second = none) :
    InStep first second := by
  rcases h with rfl | rfl
  · exact ⟨fun _ => .inr rfl, nofun⟩
  · exact ⟨nofun, fun _ => .inr rfl⟩

/-- In a total order a cell is in step with any two literals. -/
theorem InStep.of_compare {α : Type} [Ord α] [Std.TransOrd α] {x m n : α}
    (h : (compare m n).isLE) : InStep (some (compare x m)) (some (compare x n)) := by
  simp only [InStep, Option.some.injEq, reduceCtorEq, or_false]
  constructor
  · intro hgt
    rw [Std.OrientedCmp.gt_iff_lt] at hgt ⊢
    exact Std.TransCmp.lt_of_isLE_of_lt h hgt
  · intro hlt
    exact Std.TransCmp.lt_of_lt_of_isLE hlt h

/-- The same where the cell may have no counterpart in that order. -/
theorem InStep.of_read {α : Type} [Ord α] [Std.TransOrd α] (read : Option α) {m n : α}
    (h : (compare m n).isLE) : InStep (read.map (compare · m)) (read.map (compare · n)) := by
  cases read with
  | none => exact of_none (.inl rfl)
  | some x => exact of_compare h

namespace Value

/-- The truth value of a value that is one. -/
def boolean? : Value → Option Bool
  | ⟨.boolean, b⟩ => some b
  | _ => none

/-- The day number of a value that is a date, in either form. -/
def day? : Value → Option Signed32
  | ⟨.date32, day⟩ => some day
  | ⟨.date64, ms⟩ =>
    some (Signed32.wrap (Bounded.val ms |>.tdiv ColumnType.dayMilliseconds))
  | _ => none

/-- The nanoseconds of a value that is an instant without a zone. -/
def nanos? : Value → Option Int
  | ⟨.timestamp unit none, n⟩ => some (Bounded.val n * unit.nanos)
  | _ => none

theorem order?_boolean (v : Value) (b : Bool) :
    v.order? (.boolean b) = v.boolean?.map (compare · b) := by
  rcases v with ⟨type, cell⟩
  cases type with
  | timestamp unit zone => cases zone <;> rfl
  | _ => rfl

theorem order?_integer (v : Value) (n : Signed64) :
    v.order? (.integer n) = (Reading.long v).map (compare · n) :=
  Reading.long_agrees.order v n

theorem order?_string (v : Value) (s : String) :
    v.order? (.string s) = (Reading.string v).map (compare · s) :=
  Reading.string_agrees.order v s

theorem order?_date (v : Value) (day : Signed32) :
    v.order? (.date day) = v.day?.map (compare · day) := by
  rcases v with ⟨type, cell⟩
  cases type with
  | timestamp unit zone => cases zone <;> rfl
  | _ => rfl

/-- A value without an order to a date-time contradicts nothing. Any other is
    ordered to it by nanoseconds, whatever unit the comparison took place in. -/
theorem order?_timestamp (v : Value) (t : DateTime) :
    v.order? (.timestamp t) = none ∨
      v.order? (.timestamp t) = v.nanos?.map (compare · t.unixNano) := by
  rcases v with ⟨type, cell⟩
  cases type with
  | timestamp unit zone =>
      cases zone with
      | some zone => exact .inl rfl
      | none =>
          simp only [order?, ColumnType.order_timestamp, ColumnType.orderInstant_eq]
          by_cases hmissing : t.ticks? unit = none ∧ t.ticks? .nanosecond = none
          · rw [if_pos hmissing]
            exact .inl rfl
          · rw [if_neg hmissing]
            dsimp only
            split
            · exact .inl rfl
            · exact .inr rfl
  | _ => exact .inl rfl

/-- A value is in step with any two literals of one kind. -/
theorem inStep (v : Value) {m n : Literal} (h : m.NotAfter n) :
    InStep (v.order? m) (v.order? n) := by
  cases m with
  | boolean b =>
      cases n with
      | boolean c =>
          rw [order?_boolean, order?_boolean]
          exact .of_read _ h
      | _ => exact h.elim
  | integer m =>
      cases n with
      | integer n =>
          rw [order?_integer, order?_integer]
          exact .of_read _ h
      | _ => exact h.elim
  | string s =>
      cases n with
      | string t =>
          rw [order?_string, order?_string]
          exact .of_read _ h
      | _ => exact h.elim
  | date d =>
      cases n with
      | date e =>
          rw [order?_date, order?_date]
          exact .of_read _ h
      | _ => exact h.elim
  | timestamp t =>
      cases n with
      | timestamp u =>
          rcases h with ⟨ht, hu, hle⟩
          rw [DateTime.compare_eq ht hu] at hle
          -- The two may be compared in different units, and a cell may have an
          -- order to only one of them.
          rcases v.order?_timestamp t with hopen | hfirst
          · exact .of_none (.inl hopen)
          · rcases v.order?_timestamp u with hopen | hsecond
            · exact .of_none (.inr hopen)
            · rw [hfirst, hsecond]
              exact .of_read _ hle
      | _ => exact h.elim

end Value

/-- What is greater than a literal is not short of an earlier one, and what is
    less than a literal is not beyond a later one. -/
theorem Row.verdict_inStep {s : Schema} (row : Row s) (path : FieldPath) {m n : Literal}
    (h : m.NotAfter n) :
    (Comparison.greater.verdict (row.order? path n) = .met →
      Comparison.greater.verdict (row.order? path m) ≠ .failed) ∧
    (Comparison.less.verdict (row.order? path m) = .met →
      Comparison.less.verdict (row.order? path n) ≠ .failed) := by
  have hstep : InStep (row.order? path m) (row.order? path n) := by
    unfold order?
    cases row.at? path with
    | none => exact .of_none (.inl rfl)
    | some v => exact v.inStep h
  rcases hstep with ⟨hgreater, hless⟩
  constructor
  · intro hmet
    rcases Comparison.verdict_eq_met_iff.mp hmet with ⟨o, ho, hholds⟩
    rw [ho, beq_iff_eq.mp hholds] at hgreater
    rcases hgreater rfl with hfirst | hfirst <;>
    · rw [hfirst]
      decide
  · intro hmet
    rcases Comparison.verdict_eq_met_iff.mp hmet with ⟨o, ho, hholds⟩
    rw [ho, beq_iff_eq.mp hholds] at hless
    rcases hless rfl with hsecond | hsecond <;>
    · rw [hsecond]
      decide

end TwoLiterals

/-- What two predicates say about each row on its own is said of the slots of
    their masks. -/
theorem Batch.slots_of_rows {b : Batch} {p q : Predicate} {m n : Mask} {t u : Truth}
    (hm : b.evaluate p = .ok m) (hn : b.evaluate q = .ok n)
    (h : ∀ row : Row b.schema, row.truth p = t → row.truth q ≠ u) :
    ∀ i : Nat, m[i]? = some t → n[i]? ≠ some u := by
  intro i
  rw [evaluate_eq_ok hm, evaluate_eq_ok hn, List.getElem?_map, List.getElem?_map]
  cases b.rows[i]? with
  | none => exact nofun
  | some row =>
      rw [Option.map_some, Option.map_some, Option.some.injEq, ne_eq, Option.some.injEq]
      exact h row

/-- The six comparisons of a column with a literal fail together, with the same
    error, or each has a mask. Of the masks three are the negations of the
    others, and on each row all are open or exactly one of less, equal and
    greater is met. Between two literals of one kind, of which one is not after
    the other, greater than the second is never said without greater than the
    first being met or open, nor less than the first without less than the
    second. -/
theorem Batch.comparisons_partition (b : Batch) (path : FieldPath) :
    (∀ l, (∃ e, ∀ how, b.evaluate (.compare how path l) = .error e) ∨
      ∃ mask : Comparison → Mask,
        (∀ how, b.evaluate (.compare how path l) = .ok (mask how)) ∧
        mask .notEqual = (mask .equal).not ∧
        mask .greaterOrEqual = (mask .less).not ∧
        mask .lessOrEqual = (mask .greater).not ∧
        ∀ i < b.size, (∀ how, (mask how)[i]? = some .unknown) ∨
          ∃ how ∈ Comparison.strict, (mask how)[i]? = some .met ∧
            ∀ other ∈ Comparison.strict, other ≠ how → (mask other)[i]? = some .failed) ∧
    ∀ m n, m.NotAfter n →
      (∀ first second, b.evaluate (.compare .greater path m) = .ok first →
        b.evaluate (.compare .greater path n) = .ok second →
        ∀ i : Nat, second[i]? = some .met → first[i]? ≠ some .failed) ∧
      ∀ first second, b.evaluate (.compare .less path m) = .ok first →
        b.evaluate (.compare .less path n) = .ok second →
        ∀ i : Nat, first[i]? = some .met → second[i]? ≠ some .failed := by
  constructor
  · intro l
    rcases b.evaluate_comparisons path l with hfails | hmasks
    · exact .inl hfails
    · refine .inr ⟨_, hmasks, ?_, ?_, ?_, fun i hi => ?_⟩
      · simp only [Mask.not_map, (Comparison.verdict_not _).1]
      · simp only [Mask.not_map, (Comparison.verdict_not _).2.1]
      · simp only [Mask.not_map, (Comparison.verdict_not _).2.2]
      · -- Every mask has the verdict on the same row in this slot.
        simp only [List.getElem?_map, List.getElem?_eq_getElem hi, Option.map_some,
          Option.some.injEq]
        exact Truth.partition _
  · intro m n hmn
    exact ⟨fun first second hfirst hsecond =>
        slots_of_rows hsecond hfirst fun row => (row.verdict_inStep path hmn).1,
      fun first second hfirst hsecond =>
        slots_of_rows hfirst hsecond fun row => (row.verdict_inStep path hmn).2⟩

/-- The last half second of 2016, in which no leap second has begun. -/
def halfSecondOf2016 : DateTime :=
  ⟨leapSecondOf2016.date, ⟨⟨23, 59, 59, 500000000⟩, by decide⟩⟩

/-- The first second of 2017. -/
def newYear2017 : DateTime :=
  ⟨⟨⟨2017, 1, 1⟩, by decide, by decide, by decide⟩, Time.first⟩

/-- A column of instants in seconds is compared with the new year in its own
    unit and with the half second before it in nanoseconds. The last instant is
    after the new year and too late for nanoseconds: it is not said to be before
    the half second, but left open. -/
theorem comparisons_partition_newYear :
    aroundLeapSecond.evaluate (.compare .greater (.field "at") (.timestamp newYear2017)) =
        .ok [.failed, .failed, .unknown, .met] ∧
      aroundLeapSecond.evaluate (.compare .greater (.field "at") (.timestamp halfSecondOf2016)) =
        .ok [.failed, .met, .unknown, .unknown] ∧
      (Literal.timestamp halfSecondOf2016).NotAfter (.timestamp newYear2017) ∧
      (∀ i : Nat, [Truth.failed, .failed, .unknown, .met][i]? = some .met →
        [Truth.failed, .met, .unknown, .unknown][i]? ≠ some .failed) ∧
      ¬ ∃ e, ∀ how, aroundLeapSecond.evaluate
        (.compare how (.field "at") (.timestamp newYear2017)) = .error e := by
  have hlate : aroundLeapSecond.evaluate
      (.compare .greater (.field "at") (.timestamp newYear2017)) =
        .ok [.failed, .failed, .unknown, .met] := rfl
  have hearly : aroundLeapSecond.evaluate
      (.compare .greater (.field "at") (.timestamp halfSecondOf2016)) =
        .ok [.failed, .met, .unknown, .unknown] := rfl
  have hle : (Literal.timestamp halfSecondOf2016).NotAfter (.timestamp newYear2017) :=
    ⟨by decide, by decide, by decide⟩
  have hgreater := ((aroundLeapSecond.comparisons_partition (.field "at")).2 _ _ hle).1
  refine ⟨hlate, hearly, hle, hgreater _ _ hearly hlate, fun ⟨e, he⟩ => ?_⟩
  have hfails := he .greater
  rw [hlate] at hfails
  exact nomatch hfails

end RowSieve
