import RowSieve.Text.PrintTable
import RowSieve.Text.Ranges

/-!
# Text Shown in Messages

A text inside a message stands between double quotes and in a form that leaves
no doubt about its characters: what has no print of its own, and what would
attach itself to its neighbour, appears as its code point in hexadecimal.

## Main definitions

* `shownChar`: How a single character is shown.
* `shown`: A text between double quotes.
-/

namespace RowSieve

namespace Text

/-- How a single character is shown. -/
def shownChar (c : Char) : List Char :=
  match c with
  | '\x00' => ['\\', '0']
  | '\t' => ['\\', 't']
  | '\r' => ['\\', 'r']
  | '\n' => ['\\', 'n']
  | '"' => ['\\', '"']
  | '\\' => ['\\', '\\']
  | c =>
    if inRanges invisibleRanges c || inRanges extendingRanges c then
      '\\' :: 'u' :: '\x7b' :: Nat.toDigits 16 c.toNat ++ ['\x7d']
    else [c]

/-- A text between double quotes. -/
def shown (s : String) : String :=
  String.ofList ('"' :: s.toList.flatMap shownChar ++ ['"'])

end Text

end RowSieve
