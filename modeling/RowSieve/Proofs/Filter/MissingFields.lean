import RowSieve.Proofs.Evaluation.Evaluable
import RowSieve.Proofs.Filter.Recovery

/-!
# Filters on Missing Fields

A row whose field is missing is dropped by almost every filter. It would be
easy to keep such rows by accident: `notEquals`, `notIn` and `doesNotContain`
read like the opposite of a condition that a missing field does not meet, and
two-valued reasoning would have them met. Here they are open, like the
conditions they negate, and an open condition does not keep a row.

There is one condition that a missing field meets, and that is to be missing.
Another one refutes it, to be present. All others are open, so no filter that
has any of them keeps the row, whatever else it asks. An empty list is no
condition and has no say in it.

Where the field is missing is not asked. A row may lack the cell, or the whole
record that should hold it, and the path finds nothing in either case.

## Main definitions

* `Filter.AsksAtMostForAbsence`: A filter has no condition in force but absence.

## Theorems

* `Row.truth_leaf_of_missing`: A condition is open on a missing field, unless
  it is about absence.
* `Filter.isMet_predicate_of_missing`: Which filters keep a missing field.
* `Batch.cell_eq_none_iff`: A field is missing where its column has a gap.
* `Batch.column_of_evaluable_leaf`: A condition is not evaluated without its
  column.
* `Batch.select_of_evaluable_predicate`: A filter that is evaluated can be
  selected by.
* `Filter.keeps_missing_iff`: The same for the slots of a mask and for the rows
  that are selected.
-/

namespace RowSieve

section Leaves

variable {t : Schema} {row : Row t} {path : FieldPath}

/-- There is nothing to compare with a constant. -/
theorem Row.compared_of_missing (hrow : row.at? path = none) (how : Comparison) (l : Literal) :
    row.compared how path l = .unknown := by
  rw [compared, hrow]
  rfl

/-- Comparing with one constant after another stays open from the first one
    on. -/
theorem Row.anyOf_compared_of_missing (hrow : row.at? path = none) (l : Literal)
    (ls : List Literal) :
    Truth.anyOf ((l :: ls).map (row.compared .equal path)) = .unknown := by
  have hopen : (l :: ls).map (row.compared .equal path) = (l :: ls).map fun _ => .unknown :=
    List.map_congr_left fun l _ => compared_of_missing hrow .equal l
  have hsettled : Truth.met ∉ (l :: ls).map fun _ => Truth.unknown := by
    simp only [List.mem_map, reduceCtorEq, and_false, exists_false, not_false_eq_true]
  rw [hopen, Truth.anyOf, if_neg hsettled, List.map_cons, if_pos List.mem_cons_self]

/-- A condition is open on a missing field, and so is the negation of one. The
    only exceptions are the two that ask whether the field is there. -/
theorem Row.truth_leaf_of_missing (hrow : row.at? path = none) {s : Scalar} {c : Condition}
    {v : c.Operand s} {leaf : Predicate} (hleaf : c.leaf? path v = some leaf)
    (hc : c ≠ .specified) : row.truth leaf = .unknown := by
  cases c with
  | specified => exact absurd rfl hc
  | equals | notEquals | greaterThan | lessThan | greaterThanOrEqual | lessThanOrEqual =>
      rcases Option.some.inj hleaf with rfl
      rw [truth, compared_of_missing hrow]
  -- An empty list leaves no leaf, so there is a constant to compare with.
  | oneOf =>
      cases v with
      | nil => simp only [Condition.leaf?, reduceCtorEq] at hleaf
      | cons v vs =>
          rcases Option.some.inj hleaf with rfl
          rw [truth, List.map_cons, anyOf_compared_of_missing hrow]
  | noneOf =>
      cases v with
      | nil => simp only [Condition.leaf?, reduceCtorEq] at hleaf
      | cons v vs =>
          rcases Option.some.inj hleaf with rfl
          rw [truth, List.map_cons, anyOf_compared_of_missing hrow]
          rfl
  -- Nor is there a text to look at.
  | like =>
      rcases Option.some.inj hleaf with rfl
      rw [truth, text?, hrow]
      rfl
  | contains =>
      rcases Option.some.inj hleaf with rfl
      rw [truth, string?, hrow]
      rfl
  | doesNotContain =>
      rcases Option.some.inj hleaf with rfl
      rw [truth, truth, string?, hrow]
      rfl

/-- The two exceptions are settled: a missing field is absent. -/
theorem Row.isMet_specified_of_missing (hrow : row.at? path = none) {present : Bool}
    {s : Scalar} {leaf : Predicate}
    (hleaf : Condition.specified.leaf? (s := s) path present = some leaf) :
    (row.truth leaf).isMet = !present := by
  cases present <;>
  · rcases Option.some.inj hleaf with rfl
    rw [truth, hrow]
    rfl

end Leaves

namespace Filter

variable {kind : Kind} {f : Filter kind} {path : FieldPath}

/-- The filter asks for nothing, or for nothing but a missing field. Empty lists
    do not count. -/
def AsksAtMostForAbsence (f : Filter kind) : Prop :=
  (∀ c, c ≠ .specified → f.effective? c = none) ∧ f.effective? .specified ≠ some true

/-- A missing field meets a filter exactly if the filter asks at most for that. -/
theorem isMet_predicate_of_missing {t : Schema} {row : Row t} (hrow : row.at? path = none) :
    (row.truth (f.predicate path)).isMet = true ↔ f.AsksAtMostForAbsence := by
  rw [f.isMet_predicate]
  constructor
  · intro hmet
    refine ⟨fun c hc => ?_, fun hpresent => ?_⟩
    · -- A condition in force would leave an open leaf behind.
      rcases hleaf : f.leafOf? path c with _ | leaf
      · exact leafOf?_eq_none_iff.mp hleaf
      · rcases Option.bind_eq_some_iff.mp hleaf with ⟨v, hv, hv'⟩
        have hleafMet := hmet c v leaf hv hv'
        rw [Row.truth_leaf_of_missing hrow hv' hc] at hleafMet
        exact Bool.noConfusion hleafMet
    · have hoperand := (Option.filter_eq_some_iff.mp hpresent).1
      have hleaf : Condition.specified.leaf? (s := kind.scalar) path true =
          some (.isNotNull path) := rfl
      have hleafMet := hmet .specified true _ hoperand hleaf
      rw [Row.isMet_specified_of_missing hrow hleaf] at hleafMet
      exact Bool.noConfusion hleafMet
  · rintro ⟨hothers, habsent⟩ c v leaf hv hleaf
    by_cases hc : c = .specified
    · subst hc
      rw [Row.isMet_specified_of_missing hrow hleaf]
      cases v with
      | false => rfl
      | true => exact absurd (Option.filter_eq_some_iff.mpr ⟨hv, rfl⟩) habsent
    · -- Nothing else is in force, so nothing else has left a leaf.
      have hnone : f.leafOf? path c = none := leafOf?_eq_none_iff.mpr (hothers c hc)
      rw [leafOf?, hv, Option.bind_some, hleaf] at hnone
      exact absurd hnone nofun

end Filter

namespace Batch

variable {b : Batch} {path : FieldPath}

/-- A path finds nothing in a row exactly where the column it leads to has a
    gap. -/
theorem cell_eq_none_iff {c : Column} (hc : b.column path = .ok c) {i : Nat}
    (hi : i < b.rows.length) : c.cells[i]? = some none ↔ b.rows[i].at? path = none := by
  rcases column_eq_ok hc with ⟨place, hplace, rfl⟩
  rw [Row.at?_of_place hplace, Option.map_eq_none_iff, List.getElem?_map,
    List.getElem?_eq_getElem hi, Option.map_some, Option.some.injEq]

/-- A condition that is evaluated has looked its column up. -/
theorem column_of_evaluable_leaf {s : Scalar} {c : Condition} {v : c.Operand s} {leaf : Predicate}
    (hleaf : c.leaf? path v = some leaf) (h : b.Evaluable leaf) :
    ∃ column, b.column path = .ok column := by
  have hcompared : ∀ {how l}, (∃ m, b.compared how path l = .ok m) →
      ∃ column, b.column path = .ok column := fun h =>
    (bind_succeeds.mp h).imp fun _ => And.left
  rw [Evaluable] at h
  cases c with
  | equals | notEquals | greaterThan | lessThan | greaterThanOrEqual | lessThanOrEqual =>
      rcases Option.some.inj hleaf with rfl
      simp only [evaluate] at h
      exact hcompared h
  | specified =>
      cases v <;>
      · rcases Option.some.inj hleaf with rfl
        simp only [evaluate, bind_succeeds] at h
        exact h.imp fun _ => And.left
  | oneOf | noneOf =>
      cases v with
      | nil => simp only [Condition.leaf?, reduceCtorEq] at hleaf
      | cons v vs =>
          rcases Option.some.inj hleaf with rfl
          simp only [evaluate, bind_succeeds, Except.ok.injEq, exists_eq', and_true,
            equalsOneOf_succeeds, List.map_cons, List.forall_mem_cons] at h
          exact hcompared h.1
  | like | contains =>
      rcases Option.some.inj hleaf with rfl
      simp only [evaluate, bind_succeeds] at h
      exact h.imp fun _ => And.left
  | doesNotContain =>
      rcases Option.some.inj hleaf with rfl
      rw [← Evaluable, evaluable_not, Evaluable] at h
      simp only [evaluate, bind_succeeds] at h
      exact h.imp fun _ => And.left

/-- A filter that is evaluated can be selected by. Either it asks for nothing,
    or it has found a column, and then a mask can be applied. -/
theorem select_of_evaluable_predicate {kind : Filter.Kind} {f : Filter kind}
    (h : b.Evaluable (f.predicate path)) : ∃ rows, b.select (f.predicate path) =
      .ok ⟨b.schema, rows⟩ := by
  refine ⟨_, select_eq_ok_iff.mpr ⟨?_, rfl⟩⟩
  rcases hleaves : f.leaves path with _ | ⟨leaf, rest⟩
  · rw [Filter.predicate, hleaves]
    exact .inl rfl
  · have hmem : leaf ∈ f.leaves path := hleaves ▸ List.mem_cons_self
    rcases List.mem_filterMap.mp hmem with ⟨c, -, hc⟩
    rcases Option.bind_eq_some_iff.mp hc with ⟨v, -, hleaf⟩
    rcases column_of_evaluable_leaf hleaf (evaluable_all.mp h leaf hmem) with ⟨column, hcolumn⟩
    rcases column_eq_ok hcolumn with ⟨place, hplace, -⟩
    exact .inr ⟨h, Schema.width_ne_zero_of_place hplace⟩

end Batch

/-- A row with a missing field is kept by the filters that ask at most for
    absence, and by no other: neither is its slot of the mask met, nor is it
    among the rows selected. The field is missing on a row if the column of the
    path has a gap there, be it for lack of a cell or of a whole record. -/
theorem Filter.keeps_missing_iff {kind : Filter.Kind} (f : Filter kind) (path : FieldPath)
    (b : Batch) (m : Mask) (h : b.evaluate (f.predicate path) = .ok m) :
    (∀ i (hi : i < b.rows.length), b.rows[i].at? path = none →
      (m[i]? = some .met ↔ f.AsksAtMostForAbsence)) ∧
    (∃ rows, b.select (f.predicate path) = .ok ⟨b.schema, rows⟩ ∧
      ∀ row ∈ b.rows, row.at? path = none → (row ∈ rows ↔ f.AsksAtMostForAbsence)) ∧
    ∀ c, b.column path = .ok c →
      ∀ i (hi : i < b.rows.length), c.cells[i]? = some none ↔ b.rows[i].at? path = none := by
  refine ⟨fun i hi hrow => ?_, ?_, fun c hc i hi => b.cell_eq_none_iff hc hi⟩
  · rw [← isMet_predicate_of_missing hrow, Batch.evaluate_eq_ok h, List.getElem?_map,
      List.getElem?_eq_getElem hi, Option.map_some, Option.some.injEq, Truth.isMet_iff]
  · rcases Batch.select_of_evaluable_predicate ⟨m, h⟩ with ⟨rows, hrows⟩
    have hout := Batch.select_eq_ok hrows
    rw [Batch.mk.injEq] at hout
    refine ⟨rows, hrows, fun row hmem hrow => ?_⟩
    rw [eq_of_heq hout.2, List.mem_filter, isMet_predicate_of_missing hrow]
    exact and_iff_right hmem

/-- A missing name. The empty list of names to avoid adds nothing. -/
def nameMissing : Filter .string := (Filter.empty.set .specified rfl false).set .noneOf rfl []

/-- The same with a name in the list. -/
def nameMissingNotJane : Filter .string := nameMissing.set .noneOf rfl ["Jane"]

/-- The second book has no author, and so no author's name. It is kept by the
    first filter. Whether it is called anything but Jane is left open, and that
    is enough for the second filter to lose the book. -/
theorem keeps_missing_iff_shelf :
    shelf.evaluate (nameMissing.predicate (.join "author" "name")) = .ok [.failed, .met] ∧
      shelf.rows[1].at? (.join "author" "name") = none ∧
      nameMissing.AsksAtMostForAbsence ∧
      shelf.evaluate (nameMissingNotJane.predicate (.join "author" "name")) =
        .ok [.failed, .unknown] ∧
      ¬ nameMissingNotJane.AsksAtMostForAbsence := by
  have hkept : shelf.evaluate (nameMissing.predicate (.join "author" "name")) =
      .ok [.failed, .met] := rfl
  have hopen : shelf.evaluate (nameMissingNotJane.predicate (.join "author" "name")) =
      .ok [.failed, .unknown] := rfl
  have hmissing : shelf.rows[1].at? (.join "author" "name") = none := rfl
  have hasks := (nameMissing.keeps_missing_iff _ _ _ hkept).1 1 (by decide) hmissing
  have hasksMore := (nameMissingNotJane.keeps_missing_iff _ _ _ hopen).1 1 (by decide) hmissing
  exact ⟨hkept, hmissing, hasks.mp rfl, hopen, fun h => nomatch hasksMore.mpr h⟩

end RowSieve
