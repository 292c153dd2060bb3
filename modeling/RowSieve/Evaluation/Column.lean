import RowSieve.Evaluation.Failure
import RowSieve.Table.Row

/-!
# From Paths to Columns

A path names a column of a batch, or a field of the records in a column. A
field of a record that is missing on a row is missing there too, whatever value
the slot of the field may hold. So the mask of the records joins the mask of the
field.

Finding the column depends on the schema alone. Reading it can fail in one case
that only the rows decide: a field of a type that keeps no mask cannot take on
the gaps of a relation that is missing somewhere.

## Main definitions

* `Place`: A field found by a path.
* `Schema.place`: The field that a path leads to.
* `Column`: The cells of one field, in order.
* `Batch.column`: The cells of the field that a path leads to.
-/

namespace RowSieve

/-- A field found by a path. A row may lack the record that should hold the
    field. -/
structure Place (s : Schema) extends Field s where
  /-- The row has no record to read the field from. -/
  lacksRecord : Row s → Bool

/-- The field with the given name in the records of another field. -/
def Field.within {s : Schema} (relation name : String) (f : Field s) :
    Except EvaluationError (Place s) :=
  match f with
  | ⟨.record fields, slot⟩ =>
    match fields.field? name with
    | some inner => .ok
      { type := inner.type
        slot := fun row => (slot row).part inner.slot
        lacksRecord := fun row => (slot row).cell?.isNone }
    | none => .error (.columnNotFound (.join relation name))
  | _ => .error (.notARecord relation name)

namespace Schema

/-- The field that a path leads to. -/
def place (s : Schema) (path : FieldPath) : Except EvaluationError (Place s) :=
  match path.relation with
  | none =>
    match s.field? path.name with
    | some f => .ok { f with lacksRecord := fun _ => false }
    | none => .error (.columnNotFound path)
  | some relation =>
    match s.field? relation with
    | some f => f.within relation path.name
    | none => .error (.columnNotFound (.field relation))

end Schema

/-- The cells of one field, in order. -/
structure Column where
  type : ColumnType
  cells : List (Option type.Cell)

namespace Batch

/-- The cells of the field that a path leads to. -/
def column (b : Batch) (path : FieldPath) : Except EvaluationError Column := do
  let place ← b.schema.place path
  if place.type.hasMask = false ∧ b.rows.any place.lacksRecord then
    .error (.column (.noMask place.type))
  else .ok ⟨place.type, b.rows.map place.read⟩

end Batch

end RowSieve
