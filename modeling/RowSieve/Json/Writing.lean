import RowSieve.Number.Decimal

/-!
# Writing JSON

Compact JSON text, with no space between its pieces. In a string only what
cannot stand there is escaped: the quote, the backslash and the control
characters, five of which have short names. Everything else is written as it
is.

## Main definitions

* `escape`: The characters of a string between its quotes.
* `stringText`: A string.
* `booleanText`, `integerText`: A truth value and an integer.
* `listText`: A list of written values.
* `objectText`: An object of written members.
-/

namespace RowSieve

namespace Json

/-- How one character is written between the quotes of a string. -/
def escapeChar (c : Char) : List Char :=
  match c with
  | '"' => ['\\', '"']
  | '\\' => ['\\', '\\']
  | '\x08' => ['\\', 'b']
  | '\x0c' => ['\\', 'f']
  | '\n' => ['\\', 'n']
  | '\r' => ['\\', 'r']
  | '\t' => ['\\', 't']
  | c =>
    if c.toNat < 0x20 then
      '\\' :: 'u' :: (Nat.toDigits 16 c.toNat).leftpad 4 '0'
    else [c]

/-- The characters of a string between its quotes. -/
def escape (cs : List Char) : List Char := cs.flatMap escapeChar

/-- A string. -/
def stringText (cs : List Char) : List Char := '"' :: escape cs ++ ['"']

/-- A truth value. -/
def booleanText (b : Bool) : List Char := (if b then "true" else "false").toList

/-- An integer. -/
def integerText (n : Int) : List Char := Decimal.signed n

/-- A list of written values. -/
def listText (items : List (List Char)) : List Char :=
  '[' :: [','].intercalate items ++ [']']

/-- A written member of an object. -/
def memberText (key : String) (value : List Char) : List Char :=
  stringText key.toList ++ ':' :: value

/-- An object of written members. -/
def objectText (members : List (List Char)) : List Char :=
  '{' :: [','].intercalate members ++ ['}']

/-- The absent value. -/
def nullText : List Char := "null".toList

end Json

end RowSieve
