import RowSieve.Predicate.Basic
import RowSieve.Table.ColumnType

/-!
# Failures of Evaluation

Why a predicate could not be evaluated on a batch, or a mask not applied to
it. Filters and predicates can always be built. That a field does not exist,
or that a column has no values of the right kind, is found out only when a
predicate meets data.

## Main definitions

* `ColumnFailure`: Why an operation on whole columns failed.
* `EvaluationError`: All the causes.
* `EvaluationError.message`: Their wording.
* `EvaluationError.chain`: Their wording from the outside in.
-/

namespace RowSieve

open Calendar

/-- What a cell was to be turned into when that failed. -/
inductive Rendering where
  /-- The text of a date. -/
  | date
  /-- The text of an instant. -/
  | instant
deriving DecidableEq

/-- How the result is named in a message. -/
def Rendering.name : Rendering → String
  | .date => "temporal"
  | .instant => "datetime"

/-- Why an operation on whole columns failed. -/
inductive ColumnFailure where
  /-- A column of a type that keeps no mask was given one. -/
  | noMask (type : ColumnType)
  /-- The zone of a column is no fixed offset. -/
  | unknownZone (zone : String)
  /-- A cell lies outside the calendar. -/
  | outsideCalendar (value : Int) (rendering : Rendering) (type : ColumnType)
  /-- A mask with the wrong number of slots. -/
  | maskLength (slots rows : Nat)
  /-- A mask was applied to a batch without columns. -/
  | noColumns
deriving DecidableEq

/-- The wording of each failure. -/
def ColumnFailure.message : ColumnFailure → String
  | .noMask type =>
    "Invalid argument error: Arrays of type " ++ type.name ++ " cannot contain a null bitmask"
  | .unknownZone zone =>
    "Parser error: Invalid timezone \"" ++ zone ++
      "\": only offset based timezones supported without chrono-tz feature"
  | .outsideCalendar value rendering type =>
    "Cast error: Failed to convert " ++ String.ofList (Decimal.signed value) ++ " to " ++
      rendering.name ++ " for " ++ type.name
  | .maskLength slots rows =>
    "Invalid argument error: Mask length (" ++ String.ofList (Decimal.digits slots) ++
      ") doesn't match batch row count (" ++ String.ofList (Decimal.digits rows) ++ ")"
  | .noColumns =>
    "Invalid argument error: must either specify a row count or at least one column"

/-- Why a predicate could not be evaluated, or a mask not applied. -/
inductive EvaluationError where
  /-- No column has this name, or no field of the relation does. -/
  | columnNotFound (path : FieldPath)
  /-- The path goes through a column that holds no records. -/
  | notARecord (relation name : String)
  /-- A literal of this kind is not compared with such a column. -/
  | incomparable (path : FieldPath) (value : Literal) (type : ColumnType)
  /-- The timestamp has no count of ticks that the column could be compared
      with. -/
  | timestampOutOfRange (path : FieldPath) (t : DateTime) (type : ColumnType)
  /-- Such a column has no text form. -/
  | noTextForm (path : FieldPath) (type : ColumnType)
  /-- Such a column does not hold text. -/
  | notText (path : FieldPath) (type : ColumnType)
  /-- An operation on whole columns failed. -/
  | column (failure : ColumnFailure)
deriving DecidableEq

namespace EvaluationError

/-- A column whose type does not allow some use of it. -/
def unsupported (use : String) (path : FieldPath) (detail : String) : String :=
  "unsupported " ++ use ++ " for column '" ++ path.text ++ "': " ++ detail

/-- The wording of each cause. -/
def message : EvaluationError → String
  | .columnNotFound path => "column '" ++ path.text ++ "' not found"
  | .notARecord relation name =>
    "column '" ++ relation ++ "' is not a struct and cannot be traversed to '" ++ name ++ "'"
  | .incomparable path value type =>
    unsupported "comparison" path (value.kind ++ " literal against " ++ type.name ++ " column")
  | .timestampOutOfRange path t type =>
    unsupported "comparison" path
      ("timestamp literal " ++ String.ofList t.spacedText ++ " is out of range for " ++
        type.name ++ " column")
  | .noTextForm path type => unsupported "LIKE" path (type.name ++ " has no text form")
  | .notText path type => unsupported "contains" path type.name
  | .column failure => "arrow error: " ++ failure.message

/-- The wording, followed by that of the failure behind it, if there is one. -/
def chain (e : EvaluationError) : List String :=
  match e with
  | .column failure => [e.message, failure.message]
  | _ => [e.message]

end EvaluationError

end RowSieve
