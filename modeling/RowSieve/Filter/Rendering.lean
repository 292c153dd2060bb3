import RowSieve.Filter.Basic

/-!
# The Text of a Filter

A filter shown to people: its name and, in brackets, each condition it has
with the operand. Operands are shown as they are, without quotes.

## Main definitions

* `Filter.parts`: The conditions that are set, each with its operand.
* `Filter.text`: The text of a filter.
-/

namespace RowSieve

namespace Filter

variable {kind : Kind}

/-- One condition with its operand, if it is set. -/
def part? (f : Filter kind) (c : Condition) : Option (List Char) :=
  (f.operand? c).map fun v => c.key.toList ++ '=' :: c.operandText v

/-- The conditions that are set, each with its operand. -/
def parts (f : Filter kind) : List (List Char) := Condition.all.filterMap f.part?

/-- The text of a filter. -/
def text (f : Filter kind) : String :=
  String.ofList (kind.title.toList ++ ' ' :: '[' :: [',', ' '].intercalate f.parts ++ [']'])

end Filter

end RowSieve
