import RowSieve.Json.Reading
import RowSieve.Json.Writing
import RowSieve.Predicate.Literal
import RowSieve.Calendar.Reading

/-!
# Scalar Types

The six types of value that a filter can hold, and what can be done with a
value whatever its type: it has an order, a text, a form in JSON, a literal,
and a text to look for when a pattern is asked for.

A closed list of types, with the values as a family over it, lets everything
above this module be written once for all of them.

## Main definitions

* `Scalar`: The six types.
* `Scalar.Value`: The values of a type.
* `Scalar.literal`: The literal a value is compared as.
* `Scalar.text`: The text that shows a value.
* `Scalar.patternText`: The text that a pattern looks for.
* `Scalar.json`, `Scalar.read`: A value written as JSON and read from it.
-/

namespace RowSieve

open Calendar

/-- A type of value that a filter can hold. -/
inductive Scalar where
  | long
  | integer
  | string
  | boolean
  | date
  | dateTime
deriving DecidableEq

namespace Scalar

/-- The values of a type. -/
@[reducible] def Value : Scalar → Type
  | .long => Signed64
  | .integer => Signed32
  | .string => String
  | .boolean => Bool
  | .date => Date
  | .dateTime => DateTime

instance decEqValue : (s : Scalar) → DecidableEq s.Value
  | .long => inferInstanceAs (DecidableEq Signed64)
  | .integer => inferInstanceAs (DecidableEq Signed32)
  | .string => inferInstanceAs (DecidableEq String)
  | .boolean => inferInstanceAs (DecidableEq Bool)
  | .date => inferInstanceAs (DecidableEq Date)
  | .dateTime => inferInstanceAs (DecidableEq DateTime)

/-- The order of two values of a type. -/
def order : (s : Scalar) → s.Value → s.Value → Ordering
  | .long, a, b => compare a b
  | .integer, a, b => compare a b
  | .string, a, b => compare a b
  | .boolean, a, b => compare a b
  | .date, a, b => compare a b
  | .dateTime, a, b => compare a b

/-- The literal a value is compared as. -/
def literal : (s : Scalar) → s.Value → Literal
  | .long, n => .integer n
  | .integer, n => .ofSigned32 n
  | .string, t => .string t
  | .boolean, b => .boolean b
  | .date, d => .ofDate d
  | .dateTime, t => .timestamp t

/-- The text that shows a value. -/
def text : (s : Scalar) → s.Value → List Char
  | .long, n => Decimal.signed n.val
  | .integer, n => Decimal.signed n.val
  | .string, t => t.toList
  | .boolean, b => (if b then "true" else "false").toList
  | .date, d => d.text
  | .dateTime, t => t.spacedText

/-- The text that a pattern looks for. It is the text of the value, except
    that a date-time has the form that columns of instants have, cut off after
    the second. -/
def patternText : (s : Scalar) → s.Value → List Char
  | .dateTime, t => t.wholeText
  | .long, n => text .long n
  | .integer, n => text .integer n
  | .string, t => text .string t
  | .boolean, b => text .boolean b
  | .date, d => text .date d

/-- A value as JSON. -/
def json : (s : Scalar) → s.Value → List Char
  | .long, n => Json.integerText n.val
  | .integer, n => Json.integerText n.val
  | .string, t => Json.stringText t.toList
  | .boolean, b => Json.booleanText b
  | .date, d => Json.stringText d.text
  | .dateTime, t => Json.stringText t.isoText

/-- What is said to be expected where a value of the type should stand. -/
def expected : Scalar → String
  | .long => "i64"
  | .integer => "i32"
  | .string => "a string"
  | .boolean => "a boolean"
  | .date => "a formatted date string"
  | .dateTime => "a formatted date and time string"

/-- A reading of a date or date-time as a reading of a JSON string. -/
def calendarCheck {α : Type} (read : List Char → Except Flaw α) (s : String) :
    Except Json.Fault α :=
  match read s.toList with
  | .ok x => .ok x
  | .error flaw => .error (.refused flaw.message)

/-- Reads a value from JSON. -/
def read : (s : Scalar) → Json.Reader s.Value
  | .long => Json.integer _ _ (expected .long)
  | .integer => Json.integer _ _ (expected .integer)
  | .string => Json.text (expected .string) .ok
  | .boolean => Json.boolean (expected .boolean)
  | .date => Json.text (expected .date) (calendarCheck Date.read)
  | .dateTime => Json.text (expected .dateTime) (calendarCheck DateTime.read)

end Scalar

end RowSieve
