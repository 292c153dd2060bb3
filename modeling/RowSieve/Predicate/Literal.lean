import RowSieve.Bounded
import RowSieve.Calendar.Written
import RowSieve.Text.Quoted

/-!
# Literals

The constants that fields are compared with. A date is held as a day number
and so can lie outside the calendar, where it is shown as the bare number. A
timestamp is held as a date-time with its full fraction, because how much of
it matters is decided only by the column it meets.

Every kind of literal has a text that cannot be taken for one of another kind:
words for truth values, digits for integers, quotes for text, and a keyword in
front of the two kinds of time.

## Main definitions

* `Literal`: A constant.
* `Literal.ofDate`: The literal of a date.
* `Literal.kind`: The name of its kind.
* `Literal.text`: Its text in a predicate.
-/

namespace RowSieve

open Calendar

/-- A constant that a field is compared with. -/
inductive Literal where
  | boolean (b : Bool)
  | integer (n : Signed64)
  | string (s : String)
  /-- Days since 1970-01-01. -/
  | date (day : Signed32)
  | timestamp (t : DateTime)
deriving DecidableEq

namespace Literal

/-- The literal of a date. Every supported date has a day number of 32 bits,
    so nothing is cut off. -/
def ofDate (d : Date) : Literal := .date (Signed32.wrap d.dayNumber)

/-- The literal of a 32-bit integer. -/
def ofSigned32 (n : Signed32) : Literal := .integer n.widen

/-- The name of a kind of literal. -/
def kind : Literal → String
  | .boolean _ => "boolean"
  | .integer _ => "integer"
  | .string _ => "string"
  | .date _ => "date"
  | .timestamp _ => "timestamp"

/-- The characters of a literal in a predicate. -/
def spelling : Literal → List Char
  | .boolean b => (if b then "TRUE" else "FALSE").toList
  | .integer n => Decimal.signed n.val
  | .string s => Text.Quoted.enclose s.toList
  | .date day =>
    match Date.ofDayNumber? day.val with
    | some d => "DATE '".toList ++ d.text ++ ['\'']
    | none => "DATE ".toList ++ Decimal.signed day.val
  | .timestamp t => "TIMESTAMP '".toList ++ t.spacedText ++ ['\'']

/-- The text of a literal in a predicate. -/
def text (l : Literal) : String := String.ofList l.spelling

end Literal

end RowSieve
