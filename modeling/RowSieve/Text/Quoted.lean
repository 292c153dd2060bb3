/-!
# Quoted Text

Text between single quotes, with a quote inside written twice. This is how
operands and patterns appear in the text of a predicate: no operand can
imitate the end of its own quotes.

## Main definitions

* `Quoted.double`: A text with every quote written twice.
* `Quoted.enclose`: The quoted form of a text.
-/

namespace RowSieve

namespace Text

namespace Quoted

/-- A text with every single quote written twice. -/
def double : List Char → List Char
  | [] => []
  | '\'' :: cs => '\'' :: '\'' :: double cs
  | c :: cs => c :: double cs

/-- The quoted form of a text. -/
def enclose (cs : List Char) : List Char := '\'' :: double cs ++ ['\'']

end Quoted

end Text

end RowSieve
