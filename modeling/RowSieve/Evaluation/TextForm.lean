import RowSieve.Calendar.Zone
import RowSieve.Evaluation.Failure
import RowSieve.Number.Shortest
import RowSieve.Table.Row

/-!
# The Text Form of Cells

Patterns apply to columns of most types, through a text form of their cells.
Dates and instants are written as calendar text, numbers in decimal, bytes as
the text they encode. Records, runs and unions have no text form.

Some columns fail as a whole, before any cell is looked at: a zone has to be a
fixed offset. Some cells fail, those outside the calendar. Some cells have no
text and count as missing, those whose bytes are not UTF-8.

## Main definitions

* `cellLayout`: How floating-point cells are written.
* `ColumnType.textForm`: The text of the cells of a type.
-/

namespace RowSieve

open Calendar

/-- Numbers in cells: plain from five places after the point to sixteen before
    it, and otherwise with a power that carries a sign only below zero. -/
def cellLayout : Shortest.Layout where
  leastPlace := -5
  greatestPlace := 15
  plusSign := false

namespace ColumnType

/-- The text of an instant shown `east` seconds ahead, with something after
    it, unless the instant lies outside the calendar. -/
def instantText (type : ColumnType) (unit : TimeUnit) (east : Int) (rest : List Char)
    (rendering : Rendering) (count : Int) : Except EvaluationError (Option (List Char)) :=
  if unit.supports count then .ok (some ((Moment.ofTicks unit east count).text ++ rest))
  else .error (.column (.outsideCalendar count rendering type))

/-- The text of the cells of a type, for the column at a path. -/
def textForm (path : FieldPath) :
    (type : ColumnType) →
      Except EvaluationError (type.Cell → Except EvaluationError (Option (List Char)))
  | .boolean => .ok fun (b : Bool) => .ok (some (if b then "true" else "false").toList)
  | .integer type => .ok fun (n : Bounded type.least type.greatest) =>
    .ok (some (Decimal.signed n.val))
  | .float64 => .ok fun (x : Binary64) => .ok (some (Shortest.text cellLayout x))
  | .text _ => .ok fun (s : String) => .ok (some s.toList)
  | .dictionary => .ok fun (s : String) => .ok (some s.toList)
  | .binary => .ok fun (bytes : List UInt8) =>
    .ok ((String.fromUTF8? ⟨bytes.toArray⟩).map String.toList)
  | .null => .ok fun _ => .ok none
  | .date32 => .ok fun (day : Signed32) =>
    match Date.ofDayNumber? day.val with
    | some d => .ok (some d.text)
    | none => .error (.column (.outsideCalendar day.val .date .date32))
  | .date64 => .ok fun (ms : Signed64) => instantText .date64 .millisecond 0 [] .date ms.val
  | .timestamp unit none => .ok fun (count : Signed64) =>
    instantText (.timestamp unit none) unit 0 [] .instant count.val
  | .timestamp unit (some zone) =>
    match Zone.offset? zone with
    | some east => .ok fun (count : Signed64) =>
      instantText (.timestamp unit (some zone)) unit east (Zone.offsetText east) .instant count.val
    | none => .error (.column (.unknownZone zone))
  | .record fields => .error (.noTextForm path (.record fields))
  | .runs name values => .error (.noTextForm path (.runs name values))
  | .union name alternatives => .error (.noTextForm path (.union name alternatives))

end ColumnType

end RowSieve
