import RowSieve.Filter.Basic
import RowSieve.Predicate.Conjunction
import RowSieve.Text.Lowercase

/-!
# From Filters to Predicates

A filter on a field becomes the conjunction of its conditions. Each condition
that is set contributes one leaf, except an empty list, which constrains
nothing and contributes none. Text conditions ignore case by lowering the
operand here, once, and the field when it is evaluated.

A pattern operand is looked for anywhere in the text: its text is put between
two wildcards as it is, so wildcards inside it keep their meaning.

## Main definitions

* `Condition.leaf?`: The predicate of one condition.
* `Filter.leaves`: The predicates of all conditions that are set.
* `Filter.predicate`: Their conjunction.
* `predicateOf`: The predicate of a filter that may be absent.
-/

namespace RowSieve

/-- The predicate of one condition on the field at a path. An empty list has
    none. -/
def Condition.leaf? {s : Scalar} (path : FieldPath) :
    (c : Condition) → c.Operand s → Option Predicate
  | .equals, v => some (.compare .equal path (s.literal v))
  | .notEquals, v => some (.compare .notEqual path (s.literal v))
  | .specified, true => some (.isNotNull path)
  | .specified, false => some (.isNull path)
  | .oneOf, [] => none
  | .oneOf, v :: vs => some (.oneOf path ((v :: vs).map s.literal))
  | .noneOf, [] => none
  | .noneOf, v :: vs => some (.noneOf path ((v :: vs).map s.literal))
  | .greaterThan, v => some (.compare .greater path (s.literal v))
  | .lessThan, v => some (.compare .less path (s.literal v))
  | .greaterThanOrEqual, v => some (.compare .greaterOrEqual path (s.literal v))
  | .lessThanOrEqual, v => some (.compare .lessOrEqual path (s.literal v))
  | .like, v => some (.like path (String.ofList ('%' :: s.patternText v ++ ['%'])))
  | .contains, t => some (.contains path (String.ofList (Text.lowercase t.toList)))
  | .doesNotContain, t => some (.not (.contains path (String.ofList (Text.lowercase t.toList))))

namespace Filter

variable {kind : Kind}

/-- The predicates of all conditions that are set. -/
def leaves (f : Filter kind) (path : FieldPath) : List Predicate :=
  Condition.compiled.filterMap fun c => (f.operand? c).bind (c.leaf? path)

/-- The conjunction of all conditions that are set. -/
def predicate (f : Filter kind) (path : FieldPath) : Predicate := Predicate.all (f.leaves path)

end Filter

/-- The predicate of a filter on the field at a path. An absent filter
    constrains nothing. -/
def predicateOf {kind : Filter.Kind} (path : FieldPath) : Option (Filter kind) → Predicate
  | some f => f.predicate path
  | none => .always

end RowSieve
