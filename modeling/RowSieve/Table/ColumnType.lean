import RowSieve.Calendar.Instant
import RowSieve.Text.Shown

/-!
# Column Types and Schemas

The types that a column can have, and the schemas that list the columns of a
table. A column of records has a schema of its own, so the two are defined
together.

Several types hold the same values and differ in how they are stored: three
layouts of text and a dictionary of texts, dates as days or as milliseconds,
instants in four units. They are separate types because conditions treat them
differently, and because their names appear in messages.

Most types keep a mask beside their values that says in which rows a value is
there. Three have no room for one: a column in which nothing is there, runs of
equal values, and unions, which leave it to the values in them. No condition
looks at the values of runs and unions, only at whether there is one, so these
two stand for every type without a mask that has values at all.

Not every type of column there is has a constructor here. Numbers of other
sizes, decimals, times of day, durations, intervals, fixed or long runs of
bytes, lists and maps are left out. They keep a mask as the types here do. No
literal is compared with them and no text is searched in them, so they differ
from the types here in their text form alone.

## Main definitions

* `IntegerType`: The eight types of integer.
* `TextLayout`: The three layouts of text.
* `ColumnType`, `Schema`: The types and the lists of named columns.
* `ColumnType.name`: The name of a type in messages.
* `ColumnType.hasMask`: Whether a type keeps a mask.
* `Schema.width`: How many columns a schema lists.
-/

namespace RowSieve

open Calendar

/-- How many bits an integer has. -/
inductive IntegerWidth where
  | bits8
  | bits16
  | bits32
  | bits64
deriving DecidableEq

/-- A type of integer. -/
structure IntegerType where
  signed : Bool
  width : IntegerWidth
deriving DecidableEq

namespace IntegerType

/-- The least integer of the type. -/
def least : IntegerType → Int
  | ⟨false, _⟩ => 0
  | ⟨true, .bits8⟩ => -128
  | ⟨true, .bits16⟩ => -32768
  | ⟨true, .bits32⟩ => -2147483648
  | ⟨true, .bits64⟩ => -9223372036854775808

/-- The greatest integer of the type. -/
def greatest : IntegerType → Int
  | ⟨true, .bits8⟩ => 127
  | ⟨true, .bits16⟩ => 32767
  | ⟨true, .bits32⟩ => 2147483647
  | ⟨true, .bits64⟩ => 9223372036854775807
  | ⟨false, .bits8⟩ => 255
  | ⟨false, .bits16⟩ => 65535
  | ⟨false, .bits32⟩ => 4294967295
  | ⟨false, .bits64⟩ => 18446744073709551615

/-- The name of the type. -/
def name (t : IntegerType) : String :=
  (if t.signed then "Int" else "UInt") ++
    match t.width with
    | .bits8 => "8"
    | .bits16 => "16"
    | .bits32 => "32"
    | .bits64 => "64"

end IntegerType

/-- How a column of text is stored. -/
inductive TextLayout where
  | plain
  | large
  | view
deriving DecidableEq

mutual

/-- The type of a column. -/
inductive ColumnType where
  | boolean
  | integer (type : IntegerType)
  | float64
  | text (layout : TextLayout)
  /-- Texts stored as numbers of a dictionary. -/
  | dictionary
  | binary
  /-- A column in which every value is missing. -/
  | null
  /-- Dates as days since 1970-01-01. -/
  | date32
  /-- Dates as milliseconds since 1970-01-01. -/
  | date64
  /-- Instants as ticks since 1970-01-01, perhaps shown in a zone. -/
  | timestamp (unit : TimeUnit) (zone : Option String)
  /-- Records, each a row of its own. -/
  | record (fields : Schema)
  /-- Values stored once for a run of rows. The name lists how runs and values
      are stored, which nothing else depends on. -/
  | runs (name : String) (values : ColumnType)
  /-- Values of one of several types, row by row, named in the same way. -/
  | union (name : String) (alternatives : Schema)

/-- The columns of a table, each with its name. Names may repeat. -/
inductive Schema where
  | empty
  | column (name : String) (type : ColumnType) (rest : Schema)

end

deriving instance DecidableEq for ColumnType
deriving instance DecidableEq for Schema

/-- The name of a unit in the name of a type. -/
def unitName : TimeUnit → String
  | .second => "Second"
  | .millisecond => "Millisecond"
  | .microsecond => "Microsecond"
  | .nanosecond => "Nanosecond"

/-- The name of a zone in the name of a type. -/
def zoneName : Option String → String
  | none => "None"
  | some zone => "Some(" ++ Text.shown zone ++ ")"

mutual

/-- The name of a type in messages. -/
def ColumnType.name : ColumnType → String
  | .boolean => "Boolean"
  | .integer type => type.name
  | .float64 => "Float64"
  | .text .plain => "Utf8"
  | .text .large => "LargeUtf8"
  | .text .view => "Utf8View"
  | .dictionary => "Dictionary(Int32, Utf8)"
  | .binary => "Binary"
  | .null => "Null"
  | .date32 => "Date32"
  | .date64 => "Date64"
  | .timestamp unit zone => "Timestamp(" ++ unitName unit ++ ", " ++ zoneName zone ++ ")"
  | .record fields => "Struct(" ++ ", ".intercalate fields.columnNames ++ ")"
  | .runs name _ => name
  | .union name _ => name

/-- Each column of a schema with the name of its type. -/
def Schema.columnNames : Schema → List String
  | .empty => []
  | .column name type rest => (name ++ " " ++ type.name) :: rest.columnNames

end

/-- A column of the type has room for a mask of the rows in which a value is
    there. -/
def ColumnType.hasMask : ColumnType → Bool
  | .null | .runs _ _ | .union _ _ => false
  | _ => true

namespace Schema

/-- How many columns a schema lists. -/
def width : Schema → Nat
  | .empty => 0
  | .column _ _ rest => rest.width + 1

/-- The names of the columns, in order. -/
def names : Schema → List String
  | .empty => []
  | .column name _ rest => name :: rest.names

end Schema

end RowSieve
