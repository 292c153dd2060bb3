import RowSieve.Bounded
import RowSieve.Number.Binary64
import RowSieve.Table.ColumnType

/-!
# Cells, Rows and Batches

The values of a column type, and the rows of a schema. A row has one slot for
every column, and the value may be missing from any of them. What says so is a
mask beside the values, so a missing value may have left something behind. That
matters for records. Where one is missing the slots of its fields are still
there, with values in them that nobody is to see.

Tables are kept by rows. Whatever is done to rows, dropping some of them or
cutting the table into pieces, cannot take the columns out of step with each
other, and a table without columns still has a number of rows.

## Main definitions

* `Slot`: A value, or what a missing one left behind.
* `ColumnType.Cell`: The values of a type.
* `Row`: The rows of a schema.
* `Batch`: Some rows of one schema.
* `Field`: A column as a way to read a row.
* `Schema.field?`: The first column with a given name.
* `View`: Some columns as a way to cut a row down.
* `Schema.view`: The first column of each of some names.
* `Batch.restrict`: A batch cut down to such a view.
-/

namespace RowSieve

/-- What stands in one row of a column. -/
inductive Slot (α : Type) where
  | present (x : α)
  /-- The mask says that there is no value. The place for it may hold one. -/
  | missing (behind : Option α)

namespace Slot

variable {α : Type}

/-- The value in a slot, if the mask lets it be seen. -/
def cell? : Slot α → Option α
  | .present x => some x
  | .missing _ => none

/-- The slot with its value taken off the mask. The value stays behind. -/
def hidden : Slot α → Slot α
  | .present x => .missing (some x)
  | .missing behind => .missing behind

@[simp] theorem cell?_hidden (slot : Slot α) : slot.hidden.cell? = none := by
  cases slot <;> rfl

/-- A part of what is in a slot. The part of a missing value is hidden behind
    two masks, that of the value and its own. -/
def part {β : Type} (slot : Slot α) (inner : α → Slot β) : Slot β :=
  match slot with
  | .present x => inner x
  | .missing (some x) => (inner x).hidden
  | .missing none => .missing none

/-- What a missing value left behind is not seen through a part of it. -/
@[simp] theorem cell?_part {β : Type} (slot : Slot α) (inner : α → Slot β) :
    (slot.part inner).cell? = slot.cell?.bind fun x => (inner x).cell? := by
  rcases slot with x | (_ | x)
  · rfl
  · rfl
  · exact cell?_hidden (inner x)

end Slot

mutual

/-- The values of a column type. -/
def ColumnType.Cell : ColumnType → Type
  | .boolean => Bool
  | .integer type => Bounded type.least type.greatest
  | .float64 => Binary64
  | .text _ => String
  | .dictionary => String
  | .binary => List UInt8
  | .null => Empty
  | .date32 => Signed32
  | .date64 => Signed64
  | .timestamp _ _ => Signed64
  | .record fields => Row fields
  | .runs _ values => values.Cell
  | .union _ alternatives => alternatives.Choice

/-- The rows of a schema. -/
def Row : Schema → Type
  | .empty => Unit
  | .column _ type rest => Slot type.Cell × Row rest

/-- The values of all columns of a schema. -/
def Schema.Choice : Schema → Type
  | .empty => Empty
  | .column _ type rest => type.Cell ⊕ rest.Choice

end

/-- Some rows of one schema, in order. -/
structure Batch where
  schema : Schema
  rows : List (Row schema)

/-- A column of a schema, as its type and a way to find its slot in a row. -/
structure Field (s : Schema) where
  type : ColumnType
  slot : Row s → Slot type.Cell

/-- The value of the column in a row. -/
def Field.read {s : Schema} (f : Field s) : Row s → Option f.type.Cell :=
  fun row => (f.slot row).cell?

/-- Some columns of a schema, as a schema of their own and a way to take them
    from a row. -/
structure View (s : Schema) where
  schema : Schema
  row : Row s → Row schema

namespace Schema

/-- The first column with the given name. -/
def field? : (s : Schema) → (name : String) → Option (Field s)
  | .empty, _ => none
  | .column n type rest, name =>
    if n = name then some ⟨type, fun row => row.1⟩
    else (rest.field? name).map fun f => ⟨f.type, fun row => f.slot row.2⟩

/-- The first column of each of the wanted names, and no other column. A name
    is wanted no longer once its first column was taken. -/
def view : (s : Schema) → (wanted : List String) → View s
  | .empty, _ => ⟨.empty, id⟩
  | .column name type rest, wanted =>
    if name ∈ wanted then
      let v := rest.view (wanted.filter (· ≠ name))
      ⟨.column name type v.schema, fun row => (row.1, v.row row.2)⟩
    else
      let v := rest.view wanted
      ⟨v.schema, fun row => v.row row.2⟩

end Schema

namespace Batch

/-- How many rows there are. -/
def size (b : Batch) : Nat := b.rows.length

/-- The batch with the first column of each of the wanted names, and no other
    column. -/
def restrict (b : Batch) (wanted : List String) : Batch :=
  let v := b.schema.view wanted
  ⟨v.schema, b.rows.map v.row⟩

end Batch

end RowSieve
