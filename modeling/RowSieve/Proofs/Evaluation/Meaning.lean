import RowSieve.Evaluation.Mask

/-!
# The Meaning of a Predicate on One Row

What a predicate says about a row, with no batch and no column in sight. A
path is followed through the row itself, and each connective is described by
what its members say all together, instead of by a fold over masks. This is
the second side of evaluation: masks are built column by column, and their
slots have to say what is said here.

Two things are taken over from evaluation, because they concern single cells:
how a cell is ordered to a literal, and the text form of a cell. Where they
have no answer for a type at all the meaning is `unknown`. Evaluation fails
there, so no slot of a mask ever depends on that choice.

## Main definitions

* `Value`: A value with its type.
* `Row.value?`: The value of a row under a name.
* `Value.field?`: The value of a record under a name.
* `Value.integer?`, `Value.instant?`: The number that a value holds.
* `Row.at?`: The value that a path leads to.
* `Row.text?`, `Row.string?`: The text form of that value, and its characters
  if it is text.
* `Truth.anyOf`, `Truth.allOf`: Disjunction and conjunction of a list.
* `Row.truth`: What a predicate says about a row.

## Theorems

* `Truth.or_anyOf`, `Truth.and_allOf`: One member more.
* `Truth.isMet_and`: A conjunction is met exactly if both members are.
* `Row.truths_eq_map`: Members of a conjunction are judged one by one.
-/

namespace RowSieve

/-- A value of some column type. -/
structure Value where
  type : ColumnType
  cell : type.Cell

namespace Value

/-- The text form of a value, for the column at a path. A value without one
    counts as missing wherever its text is asked for. -/
def text? (path : FieldPath) (v : Value) : Option (List Char) :=
  match v.type.textForm path with
  | .ok form => ((form v.cell).toOption).join
  | .error _ => none

/-- The characters of a value that is text. -/
def string? : Value → Option (List Char)
  | ⟨.text _, s⟩ => some (String.toList s)
  | _ => none

/-- The integer of a value, however large it is. -/
def integer? : Value → Option Int
  | ⟨.integer _, n⟩ => some (Bounded.val n)
  | _ => none

/-- The ticks of a value that is an instant without a zone. -/
def instant? : Value → Option Signed64
  | ⟨.timestamp _ none, n⟩ => some n
  | _ => none

/-- How a value is ordered to a literal, if it has an order to it. -/
def order? (v : Value) (l : Literal) : Option Ordering :=
  match v.type.order l with
  | .ok order => order v.cell
  | .error _ => none

end Value

namespace Row

/-- The value of a row in the first column with the given name. There is none
    if it is missing, whatever it left behind. -/
def value? : {s : Schema} → Row s → (name : String) → Option Value
  | .empty, _, _ => none
  | .column n type _, row, name =>
    if n = name then row.1.cell?.map (⟨type, ·⟩) else Row.value? row.2 name

end Row

/-- The value of a field of a record. -/
def Value.field? (name : String) : Value → Option Value
  | ⟨.record _, record⟩ => Row.value? record name
  | _ => none

namespace Row

variable {s : Schema}

/-- The value that a path leads to. Through a relation it is the value of a
    field of the record there, so a missing record leaves nothing to find. -/
def at? (row : Row s) (path : FieldPath) : Option Value :=
  match path.relation with
  | none => row.value? path.name
  | some relation => (row.value? relation).bind (Value.field? path.name)

/-- The text form of the value at a path. -/
def text? (row : Row s) (path : FieldPath) : Option (List Char) :=
  (row.at? path).bind (Value.text? path)

/-- The characters of the value at a path, if it is text. -/
def string? (row : Row s) (path : FieldPath) : Option (List Char) :=
  (row.at? path).bind Value.string?

/-- What a comparison says about a row. It is open if there is no value to
    compare, or none with an order to the literal. -/
def compared (row : Row s) (how : Comparison) (path : FieldPath) (l : Literal) : Truth :=
  .ofVerdict (((row.at? path).bind (·.order? l)).map how.holds)

end Row

namespace Truth

/-- Disjunction of a list: met if some member is, else open if some member
    is, else failed. -/
def anyOf (ts : List Truth) : Truth :=
  if .met ∈ ts then .met else if .unknown ∈ ts then .unknown else .failed

/-- Conjunction of a list: failed if some member is, else open if some member
    is, else met. -/
def allOf (ts : List Truth) : Truth :=
  if .failed ∈ ts then .failed else if .unknown ∈ ts then .unknown else .met

end Truth

namespace Row

variable {s : Schema}

mutual

/-- What a predicate says about a row. -/
def truth (row : Row s) : Predicate → Truth
  | .compare how path value => row.compared how path value
  | .oneOf path values => .anyOf (values.map (row.compared .equal path))
  | .noneOf path values => (Truth.anyOf (values.map (row.compared .equal path))).not
  | .isNull path => .ofBool (row.at? path).isNone
  | .isNotNull path => .ofBool (row.at? path).isSome
  | .like path pattern =>
    .ofVerdict ((row.text? path).map (Text.Pattern.describes pattern.toList))
  | .contains path needle =>
    .ofVerdict ((row.string? path).map fun t => Text.occursIn needle.toList (Text.lowercase t))
  | .not inner => (row.truth inner).not
  | .and members => .allOf (row.truths members)
  | .always => .met

/-- What each member of a conjunction says about a row. -/
def truths (row : Row s) : List Predicate → List Truth
  | [] => []
  | p :: ps => row.truth p :: row.truths ps

end

theorem truths_eq_map (row : Row s) (ps : List Predicate) :
    row.truths ps = ps.map row.truth := by
  induction ps with
  | nil => rw [truths, List.map_nil]
  | cons p ps ih => rw [truths, List.map_cons, ih]

end Row

namespace Truth

/-- One member more in a disjunction. The cases are those of the new member:
    a member that is met settles the list, and the other two leave it to the
    members behind. -/
theorem or_anyOf (t : Truth) (ts : List Truth) : t.or (anyOf ts) = anyOf (t :: ts) := by
  unfold anyOf
  by_cases hmet : Truth.met ∈ ts
  · rw [if_pos hmet, if_pos (List.mem_cons_of_mem _ hmet)]
    cases t <;> rfl
  · by_cases hopen : Truth.unknown ∈ ts
    · rw [if_neg hmet, if_pos hopen]
      cases t <;>
        simp only [Truth.or, List.mem_cons, hmet, hopen, reduceCtorEq, or_false, or_true,
          if_true, if_false]
    · rw [if_neg hmet, if_neg hopen]
      cases t <;>
        simp only [Truth.or, List.mem_cons, hmet, hopen, reduceCtorEq, or_false, if_true, if_false]

/-- One member more in a conjunction, by the same cases. -/
theorem and_allOf (t : Truth) (ts : List Truth) : t.and (allOf ts) = allOf (t :: ts) := by
  unfold allOf
  by_cases hfailed : Truth.failed ∈ ts
  · rw [if_pos hfailed, if_pos (List.mem_cons_of_mem _ hfailed)]
    cases t <;> rfl
  · by_cases hopen : Truth.unknown ∈ ts
    · rw [if_neg hfailed, if_pos hopen]
      cases t <;>
        simp only [Truth.and, List.mem_cons, hfailed, hopen, reduceCtorEq, or_false, or_true,
          if_true, if_false]
    · rw [if_neg hfailed, if_neg hopen]
      cases t <;>
        simp only [Truth.and, List.mem_cons, hfailed, hopen, reduceCtorEq, or_false, if_true,
          if_false]

theorem or_assoc (a b c : Truth) : (a.or b).or c = a.or (b.or c) := by
  cases a <;> cases b <;> cases c <;> rfl

theorem and_assoc (a b c : Truth) : (a.and b).and c = a.and (b.and c) := by
  cases a <;> cases b <;> cases c <;> rfl

theorem failed_or (t : Truth) : Truth.failed.or t = t := by
  cases t <;> rfl

theorem met_and (t : Truth) : Truth.met.and t = t := by
  cases t <;> rfl

/-- A conjunction is met exactly if both members are, so an open member loses
    the row just as a failed one does. -/
theorem isMet_and (a b : Truth) : (a.and b).isMet = (a.isMet && b.isMet) := by
  cases a <;> cases b <;> rfl

end Truth

end RowSieve
