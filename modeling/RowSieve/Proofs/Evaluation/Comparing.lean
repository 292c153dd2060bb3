import RowSieve.Proofs.Evaluation.RowByRow

/-!
# Comparisons as They Are Evaluated

A comparison is evaluated in two stages. The type of the column and the literal
settle whether the two can be compared, and only then are cells looked at. So a
comparison is an error or it has a mask, whatever the rows hold, and in the
mask each slot is the verdict on its own cell.

The verdict comes from an order, which has to be taken back to the relation
that the comparison stands for. On integers that is an equation or an
inequality, and it is the same if both sides are multiplied by a positive
number.

## Main definitions

* `Comparison.relates`: What a comparison says about two integers.

## Theorems

* `Comparison.holds_compare`: The order of two integers says the same.
* `Row.type_of_at?`: The fields of a column have its type.
* `Batch.column_of_place`: A column that can hold values is always read.
* `Batch.evaluate_compare`: What a comparison is evaluated to.
-/

namespace RowSieve

namespace Comparison

/-- What the comparison says about two integers. -/
def relates : Comparison → Int → Int → Bool
  | .equal, m, n => m = n
  | .notEqual, m, n => m ≠ n
  | .greater, m, n => m > n
  | .greaterOrEqual, m, n => m ≥ n
  | .less, m, n => m < n
  | .lessOrEqual, m, n => m ≤ n

theorem holds_compare (how : Comparison) (m n : Int) :
    how.holds (compare m n) = how.relates m n := by
  rw [Bool.eq_iff_iff]
  cases how with
  | equal => exact beq_iff_eq.trans (Int.compare_eq_eq.trans decide_eq_true_iff.symm)
  | notEqual =>
      exact bne_iff_ne.trans ((not_congr Int.compare_eq_eq).trans decide_eq_true_iff.symm)
  | greater => exact beq_iff_eq.trans (Int.compare_eq_gt.trans decide_eq_true_iff.symm)
  | greaterOrEqual => exact bne_iff_ne.trans (Int.compare_ne_lt.trans decide_eq_true_iff.symm)
  | less => exact beq_iff_eq.trans (Int.compare_eq_lt.trans decide_eq_true_iff.symm)
  | lessOrEqual => exact bne_iff_ne.trans (Int.compare_ne_gt.trans decide_eq_true_iff.symm)

end Comparison

/-- The value that a path leads to has the type of the column. -/
theorem Row.type_of_at? {s : Schema} {path : FieldPath} {place : Place s}
    (hplace : s.place path = .ok place) {row : Row s} {v : Value} (h : row.at? path = some v) :
    v.type = place.type := by
  rw [at?_of_place hplace, Option.map_eq_some_iff] at h
  rcases h with ⟨cell, -, rfl⟩
  rfl

namespace Batch

variable {b : Batch} {path : FieldPath} {place : Place b.schema}

/-- A column whose type keeps a mask is read whatever the rows hold. -/
theorem column_of_place (hplace : b.schema.place path = .ok place)
    (hmask : place.type.hasMask = true) :
    b.column path = .ok ⟨place.type, b.rows.map place.read⟩ := by
  rw [column, hplace]
  simp only [bind, Except.bind, hmask, Bool.true_eq_false, false_and, if_false]

/-- A comparison is settled by the type of the column and the literal. If the
    two can be compared, each row is judged by its own field. -/
theorem evaluate_compare (hplace : b.schema.place path = .ok place) {type : ColumnType}
    (htype : place.type = type) (hmask : type.hasMask = true) (how : Comparison) (l : Literal) :
    b.evaluate (.compare how path l) =
      match type.order l with
      | .ok _ => .ok (b.rows.map (Row.compared · how path l))
      | .error why => .error (why.at path l type) := by
  subst htype
  have hcolumn := column_of_place hplace hmask
  rw [evaluate]
  cases horder : place.type.order l with
  | error why =>
      rw [compared, hcolumn]
      simp only [bind, Except.bind, Column.compared, horder]
  | ok order =>
      have hmask : ∃ m, b.compared how path l = .ok m := by
        rw [compared, hcolumn]
        simp only [bind, Except.bind, Column.compared, horder, Except.ok.injEq, exists_eq']
      rcases hmask with ⟨m, hm⟩
      rw [hm, compared_eq_ok hm]

end Batch

end RowSieve
