import RowSieve.Number.Shortest
import RowSieve.Text.Shown

/-!
# Faults of JSON Texts

Why a JSON text was refused. A text is read from left to right and the first
fault ends the reading, so a fault says everything there is to report. Three
categories keep apart what a caller may want to treat differently: the text
stops too early, the text is not JSON, or the text is JSON and its content is
not what was asked for.

## Main definitions

* `Piece`: The piece of JSON inside which a text ended.
* `Found`: What stands in the text, where something else was expected.
* `Fault`: A reason for refusal.
* `Fault.message`, `Fault.report`: Its wording.
* `Fault.category`: Its category.
-/

namespace RowSieve

namespace Json

/-- The piece of JSON inside which a text ended. -/
inductive Piece where
  | value
  | object
  | list
  | string
deriving DecidableEq

/-- What stands in the text, where something else was expected. -/
inductive Found where
  | integer (n : Int)
  | real (x : Binary64)
  | boolean (b : Bool)
  | text (s : String)
  | null
  | list
  | object
deriving DecidableEq

/-- A reason to refuse a JSON text. -/
inductive Fault where
  /-- The text ended inside a piece. -/
  | ended (inside : Piece)
  /-- No value starts here. -/
  | noValue
  /-- A word that starts like `null`, `true` or `false` is none of them. -/
  | noWord
  /-- The text goes on after its value. -/
  | goesOn
  /-- A comma before a closing bracket. -/
  | danglingComma
  /-- No colon after a key. -/
  | noColon
  /-- Neither a comma nor the end after a member of an object. -/
  | noCommaInObject
  /-- Neither a comma nor the end after an element of a list. -/
  | noCommaInList
  /-- A key that is not a string. -/
  | keyNotString
  /-- A number that is not written as one. -/
  | badNumber
  /-- A number too large for a floating-point number. -/
  | hugeNumber
  /-- An escape that does not exist. -/
  | badEscape
  /-- The second half of a surrogate pair stands first, or is no second half. -/
  | loneSurrogate
  /-- The first half of a surrogate pair has no second half. -/
  | halfPair
  /-- A control character stands in a string as it is. -/
  | controlCharacter
  /-- A value of another type. -/
  | wrongType (found : Found) (expected : String)
  /-- An integer outside the range of its type. -/
  | wrongRange (n : Int) (expected : String)
  /-- A key that the record does not have. -/
  | unknownKey (key : String) (known : List String)
  /-- A key that was there before. -/
  | repeatedKey (key : String)
  /-- A positional record with too few elements. -/
  | tooFew (count : Nat) (record : String) (size : Nat)
  /-- The content is refused for a reason of its own. -/
  | refused (reason : String)
deriving DecidableEq

/-- What a caller may want to treat differently. -/
inductive Category where
  /-- The text stops too early. -/
  | incomplete
  /-- The text is not JSON. -/
  | malformed
  /-- The text is JSON with other content than was asked for. -/
  | content
deriving DecidableEq

/-- Numbers in messages: plain from five places after the point to sixteen
    before it, and otherwise with a signed power. -/
def numberLayout : Shortest.Layout where
  leastPlace := -5
  greatestPlace := 15
  plusSign := true

/-- Names between backticks with commas between them. -/
def listed (names : List String) : String :=
  ", ".intercalate (names.map fun n => "`" ++ n ++ "`")

namespace Found

/-- How a value is named in a message. -/
def message : Found → String
  | .integer n => "integer `" ++ String.ofList (Decimal.signed n) ++ "`"
  | .real x => "floating point `" ++ String.ofList (Shortest.text numberLayout x) ++ "`"
  | .boolean b => "boolean `" ++ (if b then "true" else "false") ++ "`"
  | .text s => "string " ++ Text.shown s
  | .null => "null"
  | .list => "sequence"
  | .object => "map"

end Found

namespace Fault

/-- The wording of each fault. -/
def message : Fault → String
  | .ended .value => "EOF while parsing a value"
  | .ended .object => "EOF while parsing an object"
  | .ended .list => "EOF while parsing a list"
  | .ended .string => "EOF while parsing a string"
  | .noValue => "expected value"
  | .noWord => "expected ident"
  | .goesOn => "trailing characters"
  | .danglingComma => "trailing comma"
  | .noColon => "expected `:`"
  | .noCommaInObject => "expected `,` or `" ++ "\x7d" ++ "`"
  | .noCommaInList => "expected `,` or `]`"
  | .keyNotString => "key must be a string"
  | .badNumber => "invalid number"
  | .hugeNumber => "number out of range"
  | .badEscape => "invalid escape"
  | .loneSurrogate => "lone leading surrogate in hex escape"
  | .halfPair => "unexpected end of hex escape"
  | .controlCharacter =>
    "control character (\\u0000-\\u001F) found while parsing a string"
  | .wrongType found expected => "invalid type: " ++ found.message ++ ", expected " ++ expected
  | .wrongRange n expected =>
    "invalid value: " ++ (Found.integer n).message ++ ", expected " ++ expected
  | .unknownKey key known => "unknown field `" ++ key ++ "`, expected one of " ++ listed known
  | .repeatedKey key => "duplicate field `" ++ key ++ "`"
  | .tooFew count record size =>
    "invalid length " ++ String.ofList (Decimal.digits count) ++ ", expected " ++ record ++
      " with " ++ String.ofList (Decimal.digits size) ++ " elements"
  | .refused reason => reason

/-- The wording of a fault, said of the criteria as a whole. -/
def report (f : Fault) : String := "invalid criteria: " ++ f.message

/-- The category of each fault. -/
def category : Fault → Category
  | .ended _ => .incomplete
  | .wrongType _ _ => .content
  | .wrongRange _ _ => .content
  | .unknownKey _ _ => .content
  | .repeatedKey _ => .content
  | .tooFew _ _ _ => .content
  | .refused _ => .content
  | _ => .malformed

end Fault

end Json

end RowSieve
