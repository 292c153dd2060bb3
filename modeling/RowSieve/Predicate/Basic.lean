import RowSieve.Predicate.FieldPath
import RowSieve.Predicate.Literal
import RowSieve.Sorted

/-!
# Predicates

Conditions on the fields of one row, as a tree. A leaf relates one field to
constants, or asks whether the field has a value. Leaves are negated and
joined by conjunction. There is no disjunction of conditions: a list of
alternatives for one field is a leaf of its own.

A predicate knows nothing of columns and their types. Whether a leaf makes
sense for a column is found out when the two meet.

## Main definitions

* `Comparison`: The six ways to compare.
* `Comparison.holds`: What a comparison says about the order of two values.
* `Predicate`: The tree.
* `Predicate.fields`: The paths of all leaves, from left to right.
* `Predicate.requiredFields`, `Predicate.requiredColumns`: The paths, and the
  fields of the row they start from, each once.
* `Predicate.isTrivial`: The predicate is met by every row whatever it holds.
-/

namespace RowSieve

/-- A way to compare a field with a constant. -/
inductive Comparison where
  | equal
  | notEqual
  | greater
  | greaterOrEqual
  | less
  | lessOrEqual
deriving DecidableEq

namespace Comparison

/-- What the comparison says, given how the field is ordered to the constant. -/
def holds : Comparison → Ordering → Bool
  | .equal, o => o == .eq
  | .notEqual, o => o != .eq
  | .greater, o => o == .gt
  | .greaterOrEqual, o => o != .lt
  | .less, o => o == .lt
  | .lessOrEqual, o => o != .gt

/-- The sign of the comparison. -/
def sign : Comparison → String
  | .equal => "="
  | .notEqual => "<>"
  | .greater => ">"
  | .greaterOrEqual => ">="
  | .less => "<"
  | .lessOrEqual => "<="

end Comparison

/-- A condition on the fields of one row. -/
inductive Predicate where
  /-- The field compares with the constant in this way. -/
  | compare (how : Comparison) (path : FieldPath) (value : Literal)
  /-- The field equals one of the constants. -/
  | oneOf (path : FieldPath) (values : List Literal)
  /-- The field equals none of the constants. -/
  | noneOf (path : FieldPath) (values : List Literal)
  /-- The field has no value. -/
  | isNull (path : FieldPath)
  /-- The field has a value. -/
  | isNotNull (path : FieldPath)
  /-- The text of the field fits the pattern. -/
  | like (path : FieldPath) (pattern : String)
  /-- The lower-case form of the field contains the needle. -/
  | contains (path : FieldPath) (needle : String)
  /-- The condition is not met. -/
  | not (inner : Predicate)
  /-- Every condition is met. -/
  | and (members : List Predicate)
  /-- No condition at all. -/
  | always
deriving Inhabited

namespace Predicate

mutual

/-- The paths of all leaves, from left to right. -/
def fields : Predicate → List FieldPath
  | .compare _ path _ => [path]
  | .oneOf path _ => [path]
  | .noneOf path _ => [path]
  | .isNull path => [path]
  | .isNotNull path => [path]
  | .like path _ => [path]
  | .contains path _ => [path]
  | .not inner => fields inner
  | .and members => fieldsOfAll members
  | .always => []

/-- The paths of all leaves of all members. -/
def fieldsOfAll : List Predicate → List FieldPath
  | [] => []
  | p :: ps => fields p ++ fieldsOfAll ps

end

/-- The paths that a row must have for the predicate, sorted. -/
def requiredFields (p : Predicate) : List FieldPath := Sorted.ofList p.fields

/-- The fields of the row that these paths start from, sorted. -/
def requiredColumns (p : Predicate) : List String := Sorted.ofList (p.fields.map FieldPath.root)

mutual

/-- The predicate is a conjunction of nothing, at any depth. -/
def isTrivial : Predicate → Bool
  | .always => true
  | .and members => areTrivial members
  | _ => false

/-- Every member is a conjunction of nothing. -/
def areTrivial : List Predicate → Bool
  | [] => true
  | p :: ps => isTrivial p && areTrivial ps

end

end Predicate

end RowSieve
