import RowSieve.Proofs.Calendar.Chronology
import RowSieve.Proofs.Evaluation.Comparing
import RowSieve.Proofs.Evaluation.Evaluable

/-!
# Exact Comparison of Numbers and Instants

Where the comparison of a field with a number or a date-time has an answer, the
answer is that of exact arithmetic. Nothing is rounded, and nothing wraps
around.

An instant is compared in the unit of its column if the date-time has a count
there, and in nanoseconds otherwise. Either way the verdict is about
nanoseconds, of as many digits as it takes. What differs is which cells have an
answer: in nanoseconds a cell has to fit 64 bits. And if the date-time does not
fit them either, there is no comparison at all.

Integers of every type are brought to 64 bits with a sign. Only one type has
integers that do not fit, the unsigned one of 64 bits, and half of those get no
answer from any comparison, nor from a list of constants. A closed instance
after the theorem shows it.

## Main definitions

* `Row.number?`: The integer of a field, if it takes part in comparisons.

## Theorems

* `ColumnType.orderInstant_eq`: How the cells of a column are ordered to a
  date-time.
* `Batch.evaluate_instants`: Comparison of instants, slot by slot.
* `Batch.evaluate_integers`: Comparison of integers, slot by slot.
-/

namespace RowSieve

open Calendar

/-- Multiples of one positive number are ordered as their factors are. -/
theorem compare_nanos (unit : TimeUnit) (m n : Int) :
    compare (m * unit.nanos) (n * unit.nanos) = compare m n := by
  have hpos : (0 : Int) < unit.nanos := by cases unit <;> decide
  exact compare_eq_of_lt_iff (Int.mul_lt_mul_right hpos) (Int.mul_lt_mul_right hpos)

theorem ColumnType.order_timestamp (unit : TimeUnit) (t : DateTime) :
    order (.timestamp unit none) (.timestamp t) = orderInstant unit t := rfl

theorem ColumnType.order_integer (type : IntegerType) (n : Signed64) :
    order (.integer type) (.integer n) = .ok fun (cell : Bounded type.least type.greatest) =>
      (Bounded.ofInt? cell.val : Option Signed64).map (compare · n) := rfl

/-- Cells are ordered to a date-time by their nanoseconds. In the unit of the
    column both sides are that many times smaller. -/
theorem ColumnType.orderInstant_eq (unit : TimeUnit) (t : DateTime) :
    orderInstant unit t =
      if t.ticks? unit = none ∧ t.ticks? .nanosecond = none then .error (.outOfRange t)
      else .ok fun n =>
        if t.ticks? unit = none ∧ ¬ Fits64 (n.val * unit.nanos) then none
        else some (compare (n.val * unit.nanos) t.unixNano) := by
  rcases hticks : t.ticks? unit with _ | ticks
  · rcases hnanos : t.ticks? .nanosecond with _ | nanos
    · simp only [orderInstant, hticks, hnanos, and_self, if_true]
    -- Both sides are brought to nanoseconds.
    · have hval : nanos.val = t.unixNano := by
        rw [← DateTime.val_ticks? hnanos]
        exact (Int.mul_one _).symm
      simp only [orderInstant, hticks, hnanos, reduceCtorEq, and_false, if_false, true_and,
        Except.ok.injEq]
      funext n
      by_cases hn : Fits64 (n.val * unit.nanos)
      · rw [Bounded.ofInt?_eq_some hn, if_neg (not_not_intro hn), ← hval]
        rfl
      · rw [Bounded.ofInt?_eq_none hn, if_pos hn]
        rfl
  · simp only [orderInstant, hticks, reduceCtorEq, false_and, if_false, Except.ok.injEq]
    funext n
    rw [← DateTime.val_ticks? hticks, compare_nanos]
    rfl

namespace Truth

/-- Decided members settle a disjunction. -/
theorem anyOf_ofBool {α : Type} (xs : List α) (f : α → Bool) :
    anyOf (xs.map fun x => ofBool (f x)) = ofBool (xs.any f) := by
  induction xs with
  | nil => rfl
  | cons x xs ih =>
      rw [List.map_cons, ← or_anyOf, ih, List.any_cons]
      cases f x <;> cases xs.any f <;> rfl

/-- Open members leave it open, if there are any. -/
theorem anyOf_unknown {α : Type} (xs : List α) :
    anyOf (xs.map fun _ => unknown) = if xs = [] then failed else unknown := by
  induction xs with
  | nil => rfl
  | cons x xs ih =>
      rw [List.map_cons, ← or_anyOf, ih, if_neg (List.cons_ne_nil x xs)]
      split <;> rfl

end Truth

namespace Row

variable {s : Schema} {row : Row s} {path : FieldPath}

/-- The integer of the field at a path, if it takes part in comparisons: those
    beyond 64 bits with a sign do not. -/
def number? (row : Row s) (path : FieldPath) : Option Int :=
  ((row.at? path).bind Value.integer?).filter fun n => Fits64 n

/-- The verdict on an instant is about nanoseconds. -/
theorem compared_instant {unit : TimeUnit} {t : DateTime}
    (hrow : ∀ v, row.at? path = some v → v.type = .timestamp unit none)
    (ht : ¬ (t.ticks? unit = none ∧ t.ticks? .nanosecond = none)) (how : Comparison) :
    row.compared how path (.timestamp t) =
      match (row.at? path).bind Value.instant? with
      | none => .unknown
      | some n =>
        if t.ticks? unit = none ∧ ¬ Fits64 (n.val * unit.nanos) then .unknown
        else .ofBool (how.relates (n.val * unit.nanos) t.unixNano) := by
  rw [compared]
  cases hat : row.at? path with
  | none => rfl
  | some v =>
      rcases v with ⟨type, n⟩
      have htype : type = .timestamp unit none := hrow _ hat
      subst htype
      simp only [Option.bind_some, Value.order?, ColumnType.order_timestamp,
        ColumnType.orderInstant_eq, if_neg ht, Value.instant?]
      split
      · rfl
      · rw [Option.map_some, Comparison.holds_compare]
        rfl

variable {type : IntegerType}

/-- The verdict on an integer is about the integer itself. -/
theorem compared_integer (hrow : ∀ v, row.at? path = some v → v.type = .integer type)
    (how : Comparison) (n : Signed64) :
    row.compared how path (.integer n) =
      .ofVerdict ((row.number? path).map fun v => how.relates v n.val) := by
  rw [compared, number?]
  cases hat : row.at? path with
  | none => rfl
  | some v =>
      rcases v with ⟨type', cell⟩
      have htype : type' = .integer type := hrow _ hat
      subst htype
      simp only [Option.bind_some, Value.order?, ColumnType.order_integer, Value.integer?]
      by_cases hfits : Fits64 (Bounded.val cell)
      · rw [Bounded.ofInt?_eq_some hfits, Option.filter_some, if_pos (decide_eq_true hfits)]
        simp only [Option.map_some, ← Comparison.holds_compare]
        rfl
      · rw [Bounded.ofInt?_eq_none hfits, Option.filter_some,
          if_neg (fun h => hfits (of_decide_eq_true h))]
        rfl

/-- A list of integers is met by its members. A field that takes no part leaves
    it open, unless the list is empty. -/
theorem truth_oneOf_integers (hrow : ∀ v, row.at? path = some v → v.type = .integer type)
    (ns : List Signed64) :
    row.truth (.oneOf path (ns.map .integer)) =
      match row.number? path with
      | some v => .ofBool (v ∈ ns.map Bounded.val)
      | none => if ns = [] then .failed else .unknown := by
  rw [truth, List.map_map]
  have heach : row.compared .equal path ∘ Literal.integer = fun n =>
      .ofVerdict ((row.number? path).map fun v => Comparison.equal.relates v n.val) :=
    funext fun n => compared_integer hrow .equal n
  rw [heach]
  cases row.number? path with
  | none => exact Truth.anyOf_unknown ns
  | some v =>
      simp only [Option.map_some, Truth.ofVerdict, Truth.anyOf_ofBool]
      congr 1
      rw [Bool.eq_iff_iff, List.any_eq_true, decide_eq_true_eq, List.mem_map]
      exact exists_congr fun n => and_congr_right fun _ => decide_eq_true_iff.trans eq_comm

/-- It is refuted by all other integers. -/
theorem truth_noneOf_integers (hrow : ∀ v, row.at? path = some v → v.type = .integer type)
    (ns : List Signed64) :
    row.truth (.noneOf path (ns.map .integer)) =
      match row.number? path with
      | some v => .ofBool (v ∉ ns.map Bounded.val)
      | none => if ns = [] then .met else .unknown := by
  have hone := truth_oneOf_integers hrow ns
  rw [truth] at hone
  rw [truth, hone]
  cases row.number? path with
  | none =>
      simp only
      split <;> rfl
  | some v =>
      simp only [decide_not]
      cases decide (v ∈ ns.map Bounded.val) <;> rfl

/-- Only one type has integers that do not take part. -/
theorem number?_eq (hrow : ∀ v, row.at? path = some v → v.type = .integer type)
    (htype : type ≠ ⟨false, .bits64⟩) : row.number? path = (row.at? path).bind Value.integer? := by
  have hbounds : -9223372036854775808 ≤ type.least ∧ type.greatest ≤ 9223372036854775807 := by
    rcases type with ⟨_ | _, _ | _ | _ | _⟩
    case false.bits64 => exact absurd rfl htype
    all_goals decide
  rw [number?]
  cases hat : row.at? path with
  | none => rfl
  | some v =>
      rcases v with ⟨type', cell⟩
      have hcell : type' = .integer type := hrow _ hat
      subst hcell
      have hlower := Bounded.lower cell
      have hupper := Bounded.upper cell
      have hfits : Fits64 (Bounded.val cell) := by
        constructor <;> omega
      rw [Option.bind_some, Value.integer?, Option.filter_some, if_pos (decide_eq_true hfits)]

end Row

namespace Batch

variable {b : Batch} {path : FieldPath} {place : Place b.schema} {unit : TimeUnit}

/-- Comparing a column of instants with a date-time is exact. -/
theorem evaluate_instants (hplace : b.schema.place path = .ok place)
    (htype : place.type = .timestamp unit none) (how : Comparison) (t : DateTime) :
    b.evaluate (.compare how path (.timestamp t)) =
      (if t.ticks? unit = none ∧ t.ticks? .nanosecond = none then
        .error (.timestampOutOfRange path t (.timestamp unit none))
      else .ok (b.rows.map fun row =>
        match (row.at? path).bind Value.instant? with
        | none => .unknown
        | some n =>
          if t.ticks? unit = none ∧ ¬ Fits64 (n.val * unit.nanos) then .unknown
          else .ofBool (how.relates (n.val * unit.nanos) t.unixNano))) ∧
    ∀ (u : DateTime) (coarse : TimeUnit), coarse ≠ .nanosecond →
      Fits64 (u.unixSecond * coarse.perSecond) ∧
      Fits64 (u.unixSecond * coarse.perSecond + (u.subsecond / coarse.nanos : Nat)) ∧
      (u.ticks? coarse = none ↔ ¬ u.IsWhole coarse) := by
  refine ⟨?_, fun u coarse hcoarse => ?_⟩
  · rw [evaluate_compare hplace htype rfl, ColumnType.order_timestamp,
      ColumnType.orderInstant_eq]
    by_cases hmissing : t.ticks? unit = none ∧ t.ticks? .nanosecond = none
    · rw [if_pos hmissing, if_pos hmissing]
      rfl
    · rw [if_neg hmissing, if_neg hmissing]
      refine congrArg Except.ok (List.map_congr_left fun row _ => ?_)
      exact Row.compared_instant (fun v hv => (Row.type_of_at? hplace hv).trans htype) hmissing how
  · have hfits := u.fits64_ticks hcoarse
    exact ⟨hfits.1, hfits.2, u.ticks?_eq_none_iff hcoarse⟩

end Batch

/-- The leap second at the end of 2016. -/
def leapSecondOf2016 : DateTime :=
  ⟨⟨⟨2016, 12, 31⟩, by decide, by decide, by decide⟩, ⟨⟨23, 59, 59, 1000000000⟩, by decide⟩⟩

/-- A column of instants in seconds: the last second of 2016 and the one after
    it, no instant, and an instant in 2264, beyond 64 bits of nanoseconds. -/
def aroundLeapSecond : Batch where
  schema := .column "at" (.timestamp .second none) .empty
  rows :=
    [(.present ⟨1483228799, by decide, by decide⟩, ()),
     (.present ⟨1483228800, by decide, by decide⟩, ()),
     (.missing none, ()), (.present ⟨9300000000, by decide, by decide⟩, ())]

/-- A leap second has no count in seconds, so it is compared in nanoseconds,
    where it equals the second after it. -/
theorem evaluate_instants_leapSecond :
    aroundLeapSecond.schema.place (.field "at") =
        .ok ⟨⟨.timestamp .second none, Prod.fst⟩, fun _ => false⟩ ∧
      aroundLeapSecond.evaluate (.compare .equal (.field "at") (.timestamp leapSecondOf2016)) =
        .ok [.failed, .met, .unknown, .unknown] ∧
      ¬ leapSecondOf2016.IsWhole .second :=
  have h : aroundLeapSecond.schema.place (.field "at") =
      .ok ⟨⟨.timestamp .second none, Prod.fst⟩, fun _ => false⟩ := rfl
  have hexact := Batch.evaluate_instants h rfl .equal leapSecondOf2016
  ⟨h, hexact.1.trans rfl, (hexact.2 leapSecondOf2016 .second nofun).2.2.mp rfl⟩

namespace Batch

variable {b : Batch} {path : FieldPath} {place : Place b.schema} {type : IntegerType}

/-- Comparing a column of integers with an integer is exact as far as 64 bits
    with a sign hold the field, and so are lists of integers. -/
theorem evaluate_integers (hplace : b.schema.place path = .ok place)
    (htype : place.type = .integer type) :
    (∀ (how : Comparison) (n : Signed64), b.evaluate (.compare how path (.integer n)) =
      .ok (b.rows.map fun row =>
        .ofVerdict ((row.number? path).map fun v => how.relates v n.val))) ∧
    (∀ ns : List Signed64,
      b.evaluate (.oneOf path (ns.map .integer)) = .ok (b.rows.map fun row =>
        match row.number? path with
        | some v => .ofBool (v ∈ ns.map Bounded.val)
        | none => if ns = [] then .failed else .unknown) ∧
      b.evaluate (.noneOf path (ns.map .integer)) = .ok (b.rows.map fun row =>
        match row.number? path with
        | some v => .ofBool (v ∉ ns.map Bounded.val)
        | none => if ns = [] then .met else .unknown)) ∧
    (type ≠ ⟨false, .bits64⟩ →
      ∀ row : Row b.schema, row.number? path = (row.at? path).bind Value.integer?) := by
  have hrow : ∀ (row : Row b.schema) v, row.at? path = some v → v.type = .integer type :=
    fun row v hv => (Row.type_of_at? hplace hv).trans htype
  have hcompare : ∀ (how : Comparison) (n : Signed64), b.evaluate (.compare how path (.integer n)) =
      .ok (b.rows.map fun row =>
        .ofVerdict ((row.number? path).map fun v => how.relates v n.val)) := by
    intro how n
    rw [evaluate_compare hplace htype rfl, ColumnType.order_integer]
    exact congrArg Except.ok (List.map_congr_left fun row _ =>
      Row.compared_integer (hrow row) how n)
  -- Each constant can be compared, so lists of them have a mask.
  have hlist : ∀ ns : List Signed64, ∃ m,
      b.equalsOneOf path (.constant b.size .failed) (ns.map .integer) = .ok m := by
    intro ns
    refine (equalsOneOf_succeeds _).mpr (List.forall_mem_map.mpr fun n _ => ?_)
    have hone := hcompare .equal n
    rw [evaluate] at hone
    exact ⟨_, hone⟩
  refine ⟨hcompare, fun ns => ?_, fun hunsigned row => Row.number?_eq (hrow row) hunsigned⟩
  rcases hlist ns with ⟨m, hm⟩
  have hone : b.evaluate (.oneOf path (ns.map .integer)) = .ok m := by rw [evaluate, hm]
  have hnone : b.evaluate (.noneOf path (ns.map .integer)) = .ok m.not := by
    rw [evaluate, hm]
    rfl
  constructor
  · rw [hone, evaluate_eq_ok hone]
    exact congrArg Except.ok (List.map_congr_left fun row _ =>
      Row.truth_oneOf_integers (hrow row) ns)
  · rw [hnone, evaluate_eq_ok hnone]
    exact congrArg Except.ok (List.map_congr_left fun row _ =>
      Row.truth_noneOf_integers (hrow row) ns)

end Batch

/-- A column of unsigned integers: the greatest one of 64 bits, a small one, and
    none. -/
def largeNumbers : Batch where
  schema := .column "n" (.integer ⟨false, .bits64⟩) .empty
  rows :=
    [(.present ⟨18446744073709551615, by decide, by decide⟩, ()),
     (.present ⟨12, by decide, by decide⟩, ()), (.missing none, ())]

/-- The number to compare them with. -/
def ten : Signed64 := ⟨10, by decide, by decide⟩

/-- The first integer is there and it is greater than 10, but the comparison is
    left open as if it were missing. So is the question whether it is none of
    a list that holds only 10. -/
theorem large_integer_unknown :
    largeNumbers.rows.map (fun row => (row.at? (.field "n")).bind Value.integer?) =
        [some 18446744073709551615, some 12, none] ∧
      Comparison.greater.relates 18446744073709551615 ten.val = true ∧
      largeNumbers.evaluate (.compare .greater (.field "n") (.integer ten)) =
        .ok [.unknown, .met, .unknown] ∧
      largeNumbers.evaluate (.noneOf (.field "n") [.integer ten]) =
        .ok [.unknown, .met, .unknown] :=
  ⟨rfl, rfl, rfl, rfl⟩

/-- The other two integers are judged as they should be. -/
theorem evaluate_integers_largeNumbers :
    largeNumbers.schema.place (.field "n") =
        .ok ⟨⟨.integer ⟨false, .bits64⟩, Prod.fst⟩, fun _ => false⟩ ∧
      largeNumbers.evaluate (.compare .lessOrEqual (.field "n") (.integer ten)) =
        .ok [.unknown, .failed, .unknown] ∧
      largeNumbers.evaluate (.noneOf (.field "n") [.integer ten]) =
        .ok [.unknown, .met, .unknown] :=
  have h : largeNumbers.schema.place (.field "n") =
      .ok ⟨⟨.integer ⟨false, .bits64⟩, Prod.fst⟩, fun _ => false⟩ := rfl
  have hexact := Batch.evaluate_integers h rfl
  ⟨h, (hexact.1 .lessOrEqual ten).trans rfl, (hexact.2.1 [ten]).2.trans rfl⟩

end RowSieve
