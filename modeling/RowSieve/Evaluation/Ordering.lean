import RowSieve.Evaluation.Failure
import RowSieve.Table.Row

/-!
# Comparing Cells with Literals

How the cells of a column are ordered to a literal. Whether the two can be
compared at all is settled by the type of the column and the literal, before
any cell is looked at. What is left is a function on cells. For some cells it
has no answer, when a value cannot be carried into the range in which the
comparison takes place.

Integers of every type are compared in 64 bits with a sign, and an unsigned
integer beyond that range has no order. Dates kept as milliseconds are cut to
days, toward day 0, and wrapped to 32 bits. An instant is compared in the unit
of its column when the literal is a whole number of such ticks. Otherwise both
are brought to nanoseconds, so that nothing is rounded, and a cell too large
for that has no order.

## Main definitions

* `Incomparable`: Why a literal cannot be compared with a column.
* `ColumnType.order`: How cells are ordered to a literal.
-/

namespace RowSieve

open Calendar

/-- Why a literal cannot be compared with a column. -/
inductive Incomparable where
  /-- The column holds values of another kind. -/
  | otherKind
  /-- The timestamp has no count of ticks to compare with. -/
  | outOfRange (t : DateTime)

/-- The error for a path, a literal and a column type that do not fit. -/
def Incomparable.at (path : FieldPath) (value : Literal) (type : ColumnType) :
    Incomparable → EvaluationError
  | .otherKind => .incomparable path value type
  | .outOfRange t => .timestampOutOfRange path t type

namespace ColumnType

/-- Milliseconds in a day. -/
def dayMilliseconds : Int := 86400000

/-- How the instants of a column are ordered to a date-time. -/
def orderInstant (unit : TimeUnit) (t : DateTime) :
    Except Incomparable (Signed64 → Option Ordering) :=
  match t.ticks? unit with
  | some ticks => .ok fun cell => some (compare cell ticks)
  | none =>
    match t.ticks? .nanosecond with
    | some nanos => .ok fun cell =>
      (Bounded.ofInt? (cell.val * unit.nanos) : Option Signed64).map (compare · nanos)
    | none => .error (.outOfRange t)

/-- How the cells of a column are ordered to a literal. -/
def order : (type : ColumnType) → Literal → Except Incomparable (type.Cell → Option Ordering)
  | .boolean, .boolean b => .ok fun (cell : Bool) => some (compare cell b)
  | .integer type, .integer n => .ok fun (cell : Bounded type.least type.greatest) =>
    (Bounded.ofInt? cell.val : Option Signed64).map (compare · n)
  | .text _, .string s => .ok fun (cell : String) => some (compare cell s)
  | .date32, .date day => .ok fun (cell : Signed32) => some (compare cell day)
  | .date64, .date day => .ok fun (cell : Signed64) =>
    some (compare (Signed32.wrap (cell.val.tdiv dayMilliseconds)) day)
  | .timestamp unit none, .timestamp t => orderInstant unit t
  | _, _ => .error .otherKind

end ColumnType

end RowSieve
