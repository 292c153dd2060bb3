import RowSieve.Evaluation.Column
import RowSieve.Evaluation.Ordering
import RowSieve.Evaluation.TextForm
import RowSieve.Text.Lowercase
import RowSieve.Text.Pattern
import RowSieve.Truth

/-!
# Masks

A predicate is evaluated on a batch as a whole. The result is a mask, with one
truth value for every row. Leaves are evaluated column by column, and the
connectives then work on masks slot by slot.

Evaluation goes from left to right and stops at the first leaf that fails. No
connective looks at the rows to decide whether a leaf is needed, so a
predicate fails on a batch whenever one of its leaves does. A list of
constants is a disjunction of comparisons, each with its own conversion of the
column. With no constants there is no comparison, so the column is not even
looked for.

## Main definitions

* `Mask`: A truth value for every row.
* `Batch.evaluate`: The mask of a predicate.
* `Batch.matching`: The mask with unknown rows counted as failed.
-/

namespace RowSieve

/-- A truth value for every row of a batch, in order. -/
abbrev Mask := List Truth

namespace Mask

/-- The same truth value for a number of rows. -/
def constant (rows : Nat) (t : Truth) : Mask := List.replicate rows t

/-- Negation in every slot. -/
protected def not (m : Mask) : Mask := m.map Truth.not

/-- Conjunction in every slot. -/
protected def and (m n : Mask) : Mask := List.zipWith Truth.and m n

/-- Disjunction in every slot. -/
protected def or (m n : Mask) : Mask := List.zipWith Truth.or m n

end Mask

namespace Column

/-- A column compared with a constant. A missing cell, and one without an
    order to the constant, leaves the comparison open. -/
def compared (c : Column) (path : FieldPath) (how : Comparison) (value : Literal) :
    Except EvaluationError Mask :=
  match c.type.order value with
  | .ok order =>
    .ok (c.cells.map fun cell => Truth.ofVerdict ((cell.bind order).map how.holds))
  | .error why => .error (why.at path value c.type)

/-- The text form of a column. -/
def texts (c : Column) (path : FieldPath) :
    Except EvaluationError (List (Option (List Char))) := do
  let form ← c.type.textForm path
  c.cells.mapM fun cell =>
    match cell with
    | some x => form x
    | none => .ok none

/-- The lower-case form of a column of text. -/
def lowered (path : FieldPath) : Column → Except EvaluationError (List (Option (List Char)))
  | ⟨.text _, cells⟩ =>
    .ok (cells.map fun cell => cell.map fun s => Text.lowercase (String.toList s))
  | c => .error (.notText path c.type)

end Column

namespace Batch

/-- A column of the batch compared with a constant. -/
def compared (b : Batch) (how : Comparison) (path : FieldPath) (value : Literal) :
    Except EvaluationError Mask := do
  (← b.column path).compared path how value

/-- A column of the batch compared with each constant of a list, on top of the
    comparisons before it. -/
def equalsOneOf (b : Batch) (path : FieldPath) :
    Mask → List Literal → Except EvaluationError Mask
  | m, [] => .ok m
  | m, value :: values => do
    let n ← b.compared .equal path value
    b.equalsOneOf path (m.or n) values

mutual

/-- The mask of a predicate on the rows of a batch. -/
def evaluate (b : Batch) : Predicate → Except EvaluationError Mask
  | .compare how path value => b.compared how path value
  | .oneOf path values => b.equalsOneOf path (.constant b.size .failed) values
  | .noneOf path values => do
    .ok (← b.equalsOneOf path (.constant b.size .failed) values).not
  | .isNull path => do
    let c ← b.column path
    .ok (c.cells.map fun cell => Truth.ofBool cell.isNone)
  | .isNotNull path => do
    let c ← b.column path
    .ok (c.cells.map fun cell => Truth.ofBool cell.isSome)
  | .like path pattern => do
    let texts ← (← b.column path).texts path
    .ok (texts.map fun t => Truth.ofVerdict (t.map (Text.Pattern.describes pattern.toList)))
  | .contains path needle => do
    let texts ← (← b.column path).lowered path
    .ok (texts.map fun t => Truth.ofVerdict (t.map (Text.occursIn needle.toList)))
  | .not inner => do .ok (← b.evaluate inner).not
  | .and members => b.evaluateAll (.constant b.size .met) members
  | .always => .ok (.constant b.size .met)

/-- The conjunction of a mask with the masks of some predicates. -/
def evaluateAll (b : Batch) : Mask → List Predicate → Except EvaluationError Mask
  | m, [] => .ok m
  | m, p :: ps => do
    let n ← b.evaluate p
    b.evaluateAll (m.and n) ps

end

/-- The mask with unknown rows counted as failed. -/
def matching (b : Batch) (p : Predicate) : Except EvaluationError Mask := do
  .ok ((← b.evaluate p).map fun t => Truth.ofBool t.isMet)

end Batch

end RowSieve
