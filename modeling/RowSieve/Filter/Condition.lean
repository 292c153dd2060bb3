import RowSieve.Filter.Scalar
import RowSieve.Json.Record

/-!
# Conditions

The twelve conditions a filter can put on its field. Each has a key, by which
it is known in JSON and in messages, and an operand: a value of the field's
type for most of them, and a truth value, a list or a text for the others.

Conditions come in three families. The base conditions make sense for every
field, the bounds need an order, and the text conditions need text. Which
families a filter has is what tells the kinds of filter apart.

Everything that treats the conditions one after the other goes through the two
lists below. They differ: conditions are kept and written in one order and
turned into a predicate in another.

## Main definitions

* `Condition`: The twelve conditions.
* `Condition.all`: The conditions in the order in which they are written.
* `Condition.compiled`: The conditions in the order of a predicate.
* `Condition.Family`: The three families.
* `Condition.Operand`: The operands of a condition.
-/

namespace RowSieve

/-- A condition that a filter can put on its field. -/
inductive Condition where
  | equals
  | notEquals
  | specified
  | oneOf
  | noneOf
  | greaterThan
  | lessThan
  | greaterThanOrEqual
  | lessThanOrEqual
  | like
  | contains
  | doesNotContain
deriving DecidableEq

namespace Condition

/-- The conditions in the order in which they are written. -/
def all : List Condition :=
  [.equals, .notEquals, .specified, .oneOf, .noneOf, .greaterThan, .lessThan,
   .greaterThanOrEqual, .lessThanOrEqual, .like, .contains, .doesNotContain]

/-- The conditions in the order of a predicate: each lower bound before the
    upper ones, the strict one first. -/
def compiled : List Condition :=
  [.equals, .notEquals, .specified, .oneOf, .noneOf, .greaterThan, .greaterThanOrEqual,
   .lessThan, .lessThanOrEqual, .like, .contains, .doesNotContain]

/-- No condition is missing from the first list. -/
theorem mem_all (c : Condition) : c ∈ all := by cases c <;> decide

/-- Nor from the second one. -/
theorem mem_compiled (c : Condition) : c ∈ compiled := by cases c <;> decide

/-- The name of a condition in JSON and in messages. -/
def key : Condition → String
  | .equals => "equals"
  | .notEquals => "notEquals"
  | .specified => "specified"
  | .oneOf => "in"
  | .noneOf => "notIn"
  | .greaterThan => "greaterThan"
  | .lessThan => "lessThan"
  | .greaterThanOrEqual => "greaterThanOrEqual"
  | .lessThanOrEqual => "lessThanOrEqual"
  | .like => "like"
  | .contains => "contains"
  | .doesNotContain => "doesNotContain"

/-- A family of conditions, which a filter has as a whole or not at all. -/
inductive Family where
  /-- Conditions that make sense for every field. -/
  | base
  /-- Bounds, and patterns on the text of a value. -/
  | bounds
  /-- Conditions on text. -/
  | text
deriving DecidableEq

/-- The family of a condition. -/
def family : Condition → Family
  | .equals => .base
  | .notEquals => .base
  | .specified => .base
  | .oneOf => .base
  | .noneOf => .base
  | .greaterThan => .bounds
  | .lessThan => .bounds
  | .greaterThanOrEqual => .bounds
  | .lessThanOrEqual => .bounds
  | .like => .bounds
  | .contains => .text
  | .doesNotContain => .text

/-- The operands of a condition on a field of a type. -/
@[reducible] def Operand (s : Scalar) : Condition → Type
  | .equals => s.Value
  | .notEquals => s.Value
  | .specified => Bool
  | .oneOf => List s.Value
  | .noneOf => List s.Value
  | .greaterThan => s.Value
  | .lessThan => s.Value
  | .greaterThanOrEqual => s.Value
  | .lessThanOrEqual => s.Value
  | .like => s.Value
  | .contains => String
  | .doesNotContain => String

instance decEqOperand (s : Scalar) : (c : Condition) → DecidableEq (c.Operand s)
  | .equals => s.decEqValue
  | .notEquals => s.decEqValue
  | .specified => inferInstanceAs (DecidableEq Bool)
  | .oneOf => inferInstanceAs (DecidableEq (List s.Value))
  | .noneOf => inferInstanceAs (DecidableEq (List s.Value))
  | .greaterThan => s.decEqValue
  | .lessThan => s.decEqValue
  | .greaterThanOrEqual => s.decEqValue
  | .lessThanOrEqual => s.decEqValue
  | .like => s.decEqValue
  | .contains => inferInstanceAs (DecidableEq String)
  | .doesNotContain => inferInstanceAs (DecidableEq String)

/-- One way to treat each of the four shapes of operand treats every operand. -/
def onOperand {s : Scalar} {α : Type} (value : s.Value → α) (values : List s.Value → α)
    (flag : Bool → α) (needle : String → α) : (c : Condition) → c.Operand s → α
  | .equals => value
  | .notEquals => value
  | .specified => flag
  | .oneOf => values
  | .noneOf => values
  | .greaterThan => value
  | .lessThan => value
  | .greaterThanOrEqual => value
  | .lessThanOrEqual => value
  | .like => value
  | .contains => needle
  | .doesNotContain => needle

/-- The text that shows an operand. -/
def operandText {s : Scalar} : (c : Condition) → c.Operand s → List Char :=
  onOperand s.text (fun vs => '[' :: [',', ' '].intercalate (vs.map s.text) ++ [']'])
    (Scalar.text .boolean) String.toList

/-- An operand as JSON. -/
def operandJson {s : Scalar} : (c : Condition) → c.Operand s → List Char :=
  onOperand s.json (fun vs => Json.listText (vs.map s.json)) Json.booleanText
    (fun t => Json.stringText t.toList)

/-- Reads an operand from JSON. -/
def readOperand (s : Scalar) : (c : Condition) → Json.Reader (c.Operand s)
  | .equals => s.read
  | .notEquals => s.read
  | .specified => Json.boolean "a boolean"
  | .oneOf => Json.list "a sequence" s.read
  | .noneOf => Json.list "a sequence" s.read
  | .greaterThan => s.read
  | .lessThan => s.read
  | .greaterThanOrEqual => s.read
  | .lessThanOrEqual => s.read
  | .like => s.read
  | .contains => Json.text "a string" .ok
  | .doesNotContain => Json.text "a string" .ok

end Condition

end RowSieve
