/-!
# Three-Valued Truth

What a condition says about one row. A condition on a missing value is
neither met nor failed, so two truth values are not enough: a row whose field
is null must be dropped by `x = 1` and by `NOT (x = 1)` alike. The third value
is `unknown`, and the connectives below are the strong ones of Kleene: an
operand that is unknown leaves the result open only where the other operand
does not settle it already.

## Main definitions

* `Truth`: Met, failed, or left open by a missing value.
* `Truth.not`, `Truth.and`, `Truth.or`: The connectives.
* `Truth.ofBool`: A decided condition.
* `Truth.ofVerdict`: A condition that may lack a value to judge.
* `Truth.isMet`: Whether the row is kept.
-/

namespace RowSieve

/-- What a condition says about one row. -/
inductive Truth where
  /-- The row meets the condition. -/
  | met
  /-- The row does not meet the condition. -/
  | failed
  /-- A value the condition needs is missing. -/
  | unknown
deriving DecidableEq, Inhabited

namespace Truth

/-- A condition that was decided. -/
def ofBool : Bool → Truth
  | true => .met
  | false => .failed

/-- A condition on a value that may be missing: nothing to judge is unknown. -/
def ofVerdict : Option Bool → Truth
  | some b => ofBool b
  | none => .unknown

/-- Negation swaps met and failed. A missing value stays missing. -/
protected def not : Truth → Truth
  | .met => .failed
  | .failed => .met
  | .unknown => .unknown

/-- Conjunction. One failed member settles it, whatever is missing. -/
protected def and : Truth → Truth → Truth
  | .failed, _ => .failed
  | _, .failed => .failed
  | .met, .met => .met
  | _, _ => .unknown

/-- Disjunction. One member that is met settles it, whatever is missing. -/
protected def or : Truth → Truth → Truth
  | .met, _ => .met
  | _, .met => .met
  | .failed, .failed => .failed
  | _, _ => .unknown

/-- Only a condition that is met keeps its row; an unknown one drops it. -/
def isMet : Truth → Bool
  | .met => true
  | _ => false

theorem isMet_iff {t : Truth} : t.isMet = true ↔ t = .met := by
  cases t <;> simp only [isMet, reduceCtorEq]

/-- The plain verdict, or nothing while the condition is open. -/
def verdict? : Truth → Option Bool
  | .met => some true
  | .failed => some false
  | .unknown => none

end Truth

end RowSieve
