import RowSieve.Evaluation.Selection
import RowSieve.Proofs.Evaluation.RowByRow
import RowSieve.Proofs.Table.Columns

/-!
# What Evaluation Depends On

A predicate looks at a batch through the columns of its fields and at nothing
else. Two batches that have the same columns there, or lack them for the same
reason, and that have equally many rows, are the same to the predicate:
evaluation gives the same mask or the same error. The batches need not even
have the same schema.

The number of rows matters because of predicates without fields. A conjunction
of nothing has as many slots as the batch has rows.

Seen as a list of columns, a batch may be changed beside the required fields in
any way at all. Other columns come and go, other fields of a relation do, and
columns change places. As long as each required field is the first of its name
that it was before, no row notices.

## Theorems

* `Batch.evaluate_congr`: The result depends on the columns of the fields.
* `Batch.matching_congr`: So does the mask without unknown rows.
* `Predicate.mem_requiredFields`: The required fields are those of the leaves.
* `Batch.evaluate_of_required`: The result depends on the required fields, and
  not on changes beside them.
-/

namespace RowSieve

namespace Batch

variable {b c : Batch}

theorem compared_congr {path : FieldPath} (h : b.column path = c.column path) (how : Comparison)
    (l : Literal) : b.compared how path l = c.compared how path l := by
  rw [compared, compared, h]

theorem equalsOneOf_congr {path : FieldPath} (h : b.column path = c.column path)
    (ls : List Literal) (m : Mask) : b.equalsOneOf path m ls = c.equalsOneOf path m ls := by
  induction ls generalizing m with
  | nil => rw [equalsOneOf, equalsOneOf]
  | cons l ls ih => simp only [equalsOneOf, compared_congr h, ih]

mutual

/-- The result of evaluation depends on the number of rows and on the columns
    of the fields. Every leaf starts by looking for its column. -/
theorem evaluate_congr (hsize : b.size = c.size) : ∀ {p : Predicate},
    (∀ path ∈ p.fields, b.column path = c.column path) → b.evaluate p = c.evaluate p
  | .compare how path l, h => by
      rw [Predicate.fields, List.forall_mem_singleton] at h
      rw [evaluate, evaluate, compared_congr h]
  | .oneOf path ls, h | .noneOf path ls, h => by
      rw [Predicate.fields, List.forall_mem_singleton] at h
      rw [evaluate, evaluate, equalsOneOf_congr h, hsize]
  | .isNull path, h | .isNotNull path, h | .like path _, h | .contains path _, h => by
      rw [Predicate.fields, List.forall_mem_singleton] at h
      rw [evaluate, evaluate, h]
  | .not inner, h => by
      rw [Predicate.fields] at h
      rw [evaluate, evaluate, evaluate_congr hsize h]
  | .and members, h => by
      rw [Predicate.fields] at h
      rw [evaluate, evaluate, hsize, evaluateAll_congr hsize h]
  | .always, _ => by rw [evaluate, evaluate, hsize]

theorem evaluateAll_congr (hsize : b.size = c.size) : ∀ {ps : List Predicate},
    (∀ path ∈ Predicate.fieldsOfAll ps, b.column path = c.column path) →
      ∀ m, b.evaluateAll m ps = c.evaluateAll m ps
  | [], _, m => by rw [evaluateAll, evaluateAll]
  | p :: ps, h, m => by
      rw [Predicate.fieldsOfAll, List.forall_mem_append] at h
      have htail := evaluateAll_congr hsize h.2
      simp only [evaluateAll, evaluate_congr hsize h.1, htail]

end

theorem matching_congr (hsize : b.size = c.size) {p : Predicate}
    (h : ∀ path ∈ p.fields, b.column path = c.column path) : b.matching p = c.matching p := by
  rw [matching, matching, evaluate_congr hsize h]

end Batch

theorem Predicate.mem_requiredFields {p : Predicate} {path : FieldPath} :
    path ∈ p.requiredFields ↔ path ∈ p.fields := Sorted.mem_ofList

/-- Evaluation depends on the required fields only. If two batches with equally
    many rows have the same column at each of them, or lack it for the same
    reason, the result is the same mask or the same error. That is so whenever
    the columns of one batch are those of the other changed beside the required
    fields, and then the same rows match. -/
theorem Batch.evaluate_of_required (b c : Batch) (p : Predicate) (hsize : b.size = c.size) :
    ((∀ path ∈ p.requiredFields, b.column path = c.column path) →
      b.evaluate p = c.evaluate p) ∧
    (ColumnsChangedBeside p.requiredFields b.columns c.columns →
      b.evaluate p = c.evaluate p ∧ b.matching p = c.matching p) := by
  have hsame : (∀ path ∈ p.requiredFields, b.column path = c.column path) →
      ∀ path ∈ p.fields, b.column path = c.column path :=
    fun h path hpath => h path (Predicate.mem_requiredFields.mpr hpath)
  constructor
  · intro h
    exact evaluate_congr hsize (hsame h)
  · intro hchanged
    have hcolumns : ∀ path ∈ p.requiredFields, b.column path = c.column path := by
      intro path hpath
      rw [b.column_eq, c.column_eq]
      exact hchanged.columnAt_eq hpath
    exact ⟨evaluate_congr hsize (hsame hcolumns), matching_congr hsize (hsame hcolumns)⟩

/-- The same two books in another table. It says whether a book is lent, has no
    titles, lists authors first, and of an author it knows the day of birth
    instead of a number. -/
def lending : Batch where
  schema :=
    .column "lent" .boolean
      (.column "author"
        (.record (.column "name" (.text .plain) (.column "born" .date32 .empty)))
        (.column "id" (.integer ⟨true, .bits64⟩) .empty))
  rows :=
    [(.present true, .present (.present "Frank", .missing none, ()),
        .present firstBook, ()),
     (.missing none, .missing none, .present secondBook, ())]

/-- Books that are not by Jane and have an id. -/
def authorQuestion : Predicate :=
  .and
    [.not (.oneOf (.join "author" "name") [.string "Jane"]),
     .isNotNull (.field "id")]

theorem requiredFields_authorQuestion :
    authorQuestion.requiredFields = [.field "id", .join "author" "name"] := by
  decide +kernel

/-- The titles go, ids and authors change places, and a column is added. Then
    the authors lose their numbers and get days of birth. -/
theorem shelf_changed_lending :
    ColumnsChangedBeside authorQuestion.requiredFields shelf.columns lending.columns := by
  rw [requiredFields_authorQuestion]
  refine .further (.columns (.further (.removed [_] [_] "title" _ ?_)
    (.further (.swapped [] [] _ _ ?_) (.added [] [_, _] "lent" _ ?_))))
    (.fields [_] [_] "author" ?_ rfl rfl rfl
      (.further (.removed [] [_] "id" _ ?_) (.added [_] [] "born" _ ?_)))
  all_goals decide

/-- Nothing of that matters to the question. Of the second book the author is
    missing in both tables, and only one of them has a name left in its place. -/
theorem evaluate_of_required_lending :
    shelf.evaluate authorQuestion = .ok [.met, .unknown] ∧
      (∀ path ∈ authorQuestion.requiredFields, shelf.column path = lending.column path) ∧
      lending.evaluate authorQuestion = .ok [.met, .unknown] ∧
      lending.matching authorQuestion = .ok [.met, .failed] := by
  have hcolumns : ∀ path ∈ authorQuestion.requiredFields,
      shelf.column path = lending.column path := by
    rw [requiredFields_authorQuestion]
    exact List.forall_mem_cons.mpr ⟨rfl, List.forall_mem_singleton.mpr rfl⟩
  rcases Batch.evaluate_of_required shelf lending authorQuestion rfl with ⟨hsame, hbeside⟩
  rcases hbeside shelf_changed_lending with ⟨-, hmatching⟩
  exact ⟨rfl, hcolumns, (hsame hcolumns).symm, hmatching.symm⟩

end RowSieve
