import RowSieve.Proofs.Evaluation.Comparing
import RowSieve.Proofs.Evaluation.Evaluable

/-!
# Conditions on Columns of Text

A column of text can always be asked for a pattern or a needle. Its text form
is the text itself, so no cell can fail, and a record that is missing in front
of the column leaves a gap and no error. So each of the two conditions has a
mask on every batch with such a column, and a slot of the mask is about the
characters of its own field. A field that is missing leaves the slot open.

## Theorems

* `Row.text?_eq_string?`: The text form of a field of text is its characters.
* `Batch.column_of_text`: A column of text is always read.
* `Batch.evaluate_like`, `Batch.evaluate_contains`: What the two conditions are
  evaluated to.
-/

namespace RowSieve

section

variable {s : Schema} {path : FieldPath} {place : Place s} {layout : TextLayout}

/-- The text form of a field of a column of text is its characters. -/
theorem Row.text?_eq_string? (hplace : s.place path = .ok place)
    (htype : place.type = .text layout) (row : Row s) : row.text? path = row.string? path := by
  rw [text?, string?, at?_of_place hplace]
  rcases place with ⟨⟨type, slot⟩, lacks⟩
  dsimp only [Field.read] at htype ⊢
  subst htype
  cases (slot row).cell? <;> rfl

end

/-- No cell of a column of text lacks a text form. -/
theorem Column.texts_succeeds (layout : TextLayout) (cells : List (Option String))
    (path : FieldPath) : ∃ texts, Column.texts ⟨.text layout, cells⟩ path = .ok texts := by
  rw [texts, bind_succeeds]
  refine ⟨_, rfl, (mapM_succeeds _).mpr fun cell _ => ?_⟩
  cases cell with
  | none => exact ⟨none, rfl⟩
  | some t => exact ⟨some t.toList, rfl⟩

namespace Batch

variable {b : Batch} {path : FieldPath} {place : Place b.schema} {layout : TextLayout}

/-- A column of text is read whatever the rows hold. -/
theorem column_of_text (hplace : b.schema.place path = .ok place)
    (htype : place.type = .text layout) : ∃ cells, b.column path = .ok ⟨.text layout, cells⟩ := by
  have hcolumn := column_of_place hplace (by rw [htype]; rfl)
  rcases place with ⟨⟨type, read⟩, lacks⟩
  dsimp only at htype
  subst htype
  exact ⟨_, hcolumn⟩

/-- A pattern is held against the characters of each field. -/
theorem evaluate_like (hplace : b.schema.place path = .ok place)
    (htype : place.type = .text layout) (pattern : String) :
    b.evaluate (.like path pattern) = .ok (b.rows.map fun row =>
      .ofVerdict ((row.string? path).map (Text.Pattern.describes pattern.toList))) := by
  have hsome : b.Evaluable (.like path pattern) := by
    rcases column_of_text hplace htype with ⟨cells, hcells⟩
    simp only [Evaluable, evaluate, bind_succeeds, Except.ok.injEq, exists_eq', and_true]
    exact ⟨_, hcells, Column.texts_succeeds layout cells path⟩
  rw [hsome.evaluate_eq]
  simp only [Row.truth, Row.text?_eq_string? hplace htype]

/-- A needle is looked for in the lower-case form of each field. -/
theorem evaluate_contains (hplace : b.schema.place path = .ok place)
    (htype : place.type = .text layout) (needle : String) :
    b.evaluate (.contains path needle) = .ok (b.rows.map fun row =>
      .ofVerdict ((row.string? path).map fun t =>
        Text.occursIn needle.toList (Text.lowercase t))) := by
  have hsome : b.Evaluable (.contains path needle) := by
    rcases column_of_text hplace htype with ⟨cells, hcells⟩
    simp only [Evaluable, evaluate, bind_succeeds, Except.ok.injEq, exists_eq', and_true]
    exact ⟨_, hcells, _, rfl⟩
  rw [hsome.evaluate_eq]
  simp only [Row.truth]

end Batch

end RowSieve
