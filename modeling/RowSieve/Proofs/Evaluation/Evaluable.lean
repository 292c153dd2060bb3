import RowSieve.Proofs.Evaluation.Kept
import RowSieve.Proofs.Predicate.Conjunction

/-!
# Where Evaluation Succeeds

Evaluation can fail for two reasons. The schema may lack a column or give it
the wrong type, which has nothing to do with the rows. Or a row may hold a
value that has no text form, or lack a record that a column cannot be missing
behind, which concerns that row alone. No failure is about two rows at a time.

`RowWise` says so of any property of a list of rows: it holds of the list if it
holds of no rows at all and of each row on its own. Success of evaluation is
such a property. So it passes from a batch to any selection of its rows, and
back from the pieces into which the rows were cut.

The first use is that conditions can be applied one after the other. The rows
that one predicate keeps can all be judged by the next one if the whole batch
could be judged by both.

## Main definitions

* `Batch.Evaluable`: A predicate has a mask on a batch.
* `RowWise`: A property of rows that is settled row by row.

## Theorems

* `Batch.Evaluable.evaluate_eq`: The mask is the meaning on each row.
* `Batch.evaluable_and`, `Batch.evaluable_both`, `Batch.evaluable_all`: A
  conjunction has a mask if its members have one.
* `Batch.rowWise_evaluable`: Success is settled row by row.
* `Batch.evaluable_of_subset`: It passes to fewer rows.
* `Batch.select_eq_ok_iff`: When rows can be selected, and which ones.
* `Batch.select_both`: Two passes keep what the conjunction keeps.
-/

namespace RowSieve

/-- A property of lists of rows that holds of a list exactly if it holds of no
    rows, and of each row of the list alone. -/
def RowWise {α : Type} (P : List α → Prop) : Prop :=
  ∀ rows, P rows ↔ P [] ∧ ∀ row ∈ rows, P [row]

namespace RowWise

variable {α β : Type} {P Q : List α → Prop}

/-- Something that is asked once, and something that is asked of each row. -/
theorem of_rows (A : Prop) (C : α → Prop) : RowWise fun rows => A ∧ ∀ row ∈ rows, C row := by
  intro rows
  simp only [List.not_mem_nil, false_implies, implies_true, and_true, List.mem_singleton,
    forall_eq]
  constructor
  · intro h
    exact ⟨h.1, fun row hrow => ⟨h.1, h.2 row hrow⟩⟩
  · intro h
    exact ⟨h.1, fun row hrow => (h.2 row hrow).2⟩

theorem congr (h : RowWise P) (hPQ : ∀ rows, Q rows ↔ P rows) : RowWise Q := by
  intro rows
  simp only [hPQ]
  exact h rows

theorem forall_mem {P : β → List α → Prop} {xs : List β} (h : ∀ x ∈ xs, RowWise (P x)) :
    RowWise fun rows => ∀ x ∈ xs, P x rows := by
  intro rows
  constructor
  · intro hall
    have hsplit := fun x hx => (h x hx rows).mp (hall x hx)
    exact ⟨fun x hx => (hsplit x hx).1, fun row hrow x hx => (hsplit x hx).2 row hrow⟩
  · intro hsplit x hx
    exact (h x hx rows).mpr ⟨hsplit.1 x hx, fun row hrow => hsplit.2 row hrow x hx⟩

theorem and (hP : RowWise P) (hQ : RowWise Q) : RowWise fun rows => P rows ∧ Q rows := by
  intro rows
  simp only [hP rows, hQ rows]
  constructor
  · intro h
    exact ⟨⟨h.1.1, h.2.1⟩, fun row hrow => ⟨h.1.2 row hrow, h.2.2 row hrow⟩⟩
  · intro h
    exact ⟨⟨h.1.1, fun row hrow => (h.2 row hrow).1⟩, h.1.2, fun row hrow => (h.2 row hrow).2⟩

theorem of_subset (h : RowWise P) {rows more : List α} (hsub : ∀ row ∈ rows, row ∈ more)
    (hmore : P more) : P rows := by
  have hsplit := (h more).mp hmore
  exact (h rows).mpr ⟨hsplit.1, fun row hrow => hsplit.2 row (hsub row hrow)⟩

/-- A list that was cut into parts, at least one of them, has the property if
    every part has it. -/
theorem flatten (h : RowWise P) {parts : List (List α)} (hne : parts ≠ []) :
    P parts.flatten ↔ ∀ part ∈ parts, P part := by
  constructor
  · intro hwhole part hpart
    exact h.of_subset (fun row hrow => List.mem_flatten_of_mem hpart hrow) hwhole
  · intro hparts
    rw [h]
    refine ⟨?_, fun row hrow => ?_⟩
    · -- Without a part there would be nothing that vouches for the schema.
      rcases List.exists_mem_of_ne_nil parts hne with ⟨part, hpart⟩
      exact h.of_subset (fun row hrow => absurd hrow List.not_mem_nil) (hparts part hpart)
    · rcases List.mem_flatten.mp hrow with ⟨part, hpart, hmem⟩
      exact ((h part).mp (hparts part hpart)).2 row hmem

end RowWise

namespace Batch

/-- The predicate has a mask on the batch. -/
def Evaluable (b : Batch) (p : Predicate) : Prop := ∃ m, b.evaluate p = .ok m

variable {b : Batch}

/-- A predicate that has a mask has its meaning on each row. -/
theorem Evaluable.evaluate_eq {p : Predicate} (h : b.Evaluable p) :
    b.evaluate p = .ok (b.rows.map (Row.truth · p)) := by
  rcases h with ⟨m, hm⟩
  rw [hm, evaluate_eq_ok hm]

section Connectives

theorem equalsOneOf_succeeds {path : FieldPath} {m : Mask} (ls : List Literal) :
    (∃ n, b.equalsOneOf path m ls = .ok n) ↔ ∀ l ∈ ls, ∃ n, b.compared .equal path l = .ok n := by
  induction ls generalizing m with
  | nil =>
      simp only [equalsOneOf, Except.ok.injEq, exists_eq', List.not_mem_nil, false_implies,
        implies_true]
  | cons l ls ih => simp only [equalsOneOf, bind_succeeds, ih, exists_and_right, List.forall_mem_cons]

theorem evaluateAll_succeeds {m : Mask} (ps : List Predicate) :
    (∃ n, b.evaluateAll m ps = .ok n) ↔ ∀ p ∈ ps, b.Evaluable p := by
  induction ps generalizing m with
  | nil =>
      simp only [evaluateAll, Except.ok.injEq, exists_eq', List.not_mem_nil, false_implies,
        implies_true]
  | cons p ps ih =>
      simp only [evaluateAll, bind_succeeds, ih, exists_and_right, List.forall_mem_cons, Evaluable]

theorem evaluable_always : b.Evaluable .always := ⟨_, by rw [evaluate]⟩

theorem evaluable_not {p : Predicate} : b.Evaluable (.not p) ↔ b.Evaluable p := by
  simp only [Evaluable, evaluate, bind_succeeds, Except.ok.injEq, exists_eq', and_true]

theorem evaluable_and {ps : List Predicate} : b.Evaluable (.and ps) ↔ ∀ p ∈ ps, b.Evaluable p := by
  rw [Evaluable, evaluate]
  exact evaluateAll_succeeds ps

/-- Joining two predicates drops and flattens, but it loses no failure: what is
    dropped has a mask on every batch. -/
theorem evaluable_both {p q : Predicate} :
    b.Evaluable (p.both q) ↔ b.Evaluable p ∧ b.Evaluable q := by
  unfold Predicate.both
  split
  · simp only [evaluable_always, true_and]
  · simp only [evaluable_always, and_true]
  · simp only [evaluable_and, List.forall_mem_append]
  · simp only [evaluable_and, List.forall_mem_append, List.forall_mem_singleton]
  · simp only [evaluable_and, List.forall_mem_cons]
  · simp only [evaluable_and, List.forall_mem_cons, List.not_mem_nil, false_implies, implies_true,
      and_true]

theorem evaluable_all {ps : List Predicate} :
    b.Evaluable (.all ps) ↔ ∀ p ∈ ps, b.Evaluable p := by
  induction ps with
  | nil => exact ⟨fun _ _ hp => absurd hp List.not_mem_nil, fun _ => evaluable_always⟩
  | cons p ps ih => rw [Predicate.all_cons, evaluable_both, ih, List.forall_mem_cons]

end Connectives

section Leaves

variable {s : Schema}

/-- What a leaf asks of a column is settled row by row, if it asks something
    of the type once and something of each cell. Even the one failure to find
    the column that depends on rows is a matter of single rows. -/
theorem rowWise_column (path : FieldPath) (A : ColumnType → Prop)
    (C : (type : ColumnType) → Option type.Cell → Prop) :
    RowWise fun rows => ∃ c, (Batch.mk s rows).column path = .ok c ∧
      A c.type ∧ ∀ cell ∈ c.cells, C c.type cell := by
  cases hplace : s.place path with
  | error e =>
      refine (RowWise.of_rows False fun _ : Row s => True).congr fun rows => ?_
      simp only [column, hplace, bind, Except.bind, reduceCtorEq, false_and, exists_false]
  | ok place =>
      refine (RowWise.of_rows (A place.type) fun row : Row s =>
        (place.type.hasMask = false → place.lacksRecord row = false) ∧
          C place.type (place.read row)).congr fun rows => ?_
      simp only [column, hplace, bind, Except.bind]
      by_cases hnull : place.type.hasMask = false ∧ rows.any place.lacksRecord = true
      · -- Some row lacks its record, so that row has no column either.
        rw [if_pos hnull]
        rcases List.any_eq_true.mp hnull.2 with ⟨row, hrow, hlacks⟩
        simp only [reduceCtorEq, false_and, exists_false, false_iff, not_and]
        intro _ hall
        rw [(hall row hrow).1 hnull.1] at hlacks
        exact Bool.false_ne_true hlacks
      · rw [if_neg hnull]
        simp only [Except.ok.injEq, exists_eq_left', List.forall_mem_map]
        refine and_congr_right fun _ => forall₂_congr fun row hrow => ?_
        have hlacks : place.type.hasMask = false → place.lacksRecord row = false := by
          intro htype
          cases hc : place.lacksRecord row with
          | false => rfl
          | true => exact absurd ⟨htype, List.any_eq_true.mpr ⟨row, hrow, hc⟩⟩ hnull
        exact (and_iff_right hlacks).symm

theorem rowWise_compared (how : Comparison) (path : FieldPath) (l : Literal) :
    RowWise fun rows => ∃ m, (Batch.mk s rows).compared how path l = .ok m := by
  refine (rowWise_column path (fun type => ∃ order, type.order l = .ok order)
    fun _ _ => True).congr fun rows => ?_
  simp only [compared, bind_succeeds, implies_true, and_true]
  refine exists_congr fun c => and_congr_right fun _ => ?_
  unfold Column.compared
  cases c.type.order l <;>
    simp only [Except.ok.injEq, exists_eq', reduceCtorEq, exists_false]

theorem rowWise_present (path : FieldPath) :
    RowWise fun rows => ∃ c, (Batch.mk s rows).column path = .ok c := by
  refine (rowWise_column path (fun _ => True) fun _ _ => True).congr fun rows => ?_
  simp only [implies_true, and_true]

/-- Every cell that is there has to have a text form, which is decided cell by
    cell once the type has one at all. -/
theorem rowWise_texts (path : FieldPath) :
    RowWise fun rows => ∃ c, (Batch.mk s rows).column path = .ok c ∧
      ∃ texts, c.texts path = .ok texts := by
  refine (rowWise_column path (fun type => ∃ form, type.textForm path = .ok form)
    fun type cell => ∀ form, type.textForm path = .ok form →
      ∀ x, cell = some x → ∃ t, form x = .ok t).congr fun rows => ?_
  refine exists_congr fun c => and_congr_right fun _ => ?_
  rw [Column.texts, bind_succeeds]
  cases c.type.textForm path with
  | error e => simp only [reduceCtorEq, false_and, exists_false]
  | ok form =>
      simp only [Except.ok.injEq, exists_eq_left', exists_eq', true_and, forall_eq',
        mapM_succeeds]
      refine forall₂_congr fun cell _ => ?_
      cases cell with
      | none => simp only [Except.ok.injEq, exists_eq', reduceCtorEq, false_implies, implies_true]
      | some x => simp only [Option.some.injEq, forall_eq']

theorem rowWise_lowered (path : FieldPath) :
    RowWise fun rows => ∃ c, (Batch.mk s rows).column path = .ok c ∧
      ∃ texts, c.lowered path = .ok texts := by
  refine (rowWise_column path (fun type => ∃ layout, type = .text layout)
    fun _ _ => True).congr fun rows => ?_
  refine exists_congr fun c => and_congr_right fun _ => ?_
  rcases c with ⟨type, cells⟩
  cases type <;> simp only [Column.lowered, Except.ok.injEq, exists_eq', reduceCtorEq,
    exists_false, implies_true, and_true, ColumnType.text.injEq]

end Leaves

mutual

/-- Success is settled row by row. The cases are those of the evaluator: leaves
    ask for a column, and the connectives only for their parts. -/
theorem rowWise_evaluable {s : Schema} : ∀ p : Predicate,
    RowWise fun rows => Evaluable ⟨s, rows⟩ p
  | .compare how path l => (rowWise_compared how path l).congr fun rows => by
      rw [Evaluable, evaluate]
  | .oneOf path ls =>
      (RowWise.forall_mem fun l (_ : l ∈ ls) => rowWise_compared .equal path l).congr fun rows => by
        rw [Evaluable, evaluate, equalsOneOf_succeeds]
  | .noneOf path ls =>
      (RowWise.forall_mem fun l (_ : l ∈ ls) => rowWise_compared .equal path l).congr fun rows => by
        simp only [Evaluable, evaluate, bind_succeeds, Except.ok.injEq, exists_eq', and_true,
          equalsOneOf_succeeds]
  | .isNull path | .isNotNull path => (rowWise_present path).congr fun rows => by
      simp only [Evaluable, evaluate, bind_succeeds, Except.ok.injEq, exists_eq', and_true]
  | .like path pattern => (rowWise_texts path).congr fun rows => by
      simp only [Evaluable, evaluate, bind_succeeds, Except.ok.injEq, exists_eq', and_true]
  | .contains path needle => (rowWise_lowered path).congr fun rows => by
      simp only [Evaluable, evaluate, bind_succeeds, Except.ok.injEq, exists_eq', and_true]
  | .not inner => (rowWise_evaluable inner).congr fun rows => evaluable_not
  | .and members => (rowWise_allEvaluable members).congr fun rows => evaluable_and
  | .always => (RowWise.of_rows True fun _ => True).congr fun rows => by
      simp only [evaluable_always, implies_true, and_true]

theorem rowWise_allEvaluable {s : Schema} : ∀ ps : List Predicate,
    RowWise fun rows => ∀ p ∈ ps, Evaluable ⟨s, rows⟩ p
  | [] => (RowWise.of_rows True fun _ => True).congr fun rows => by
      simp only [List.not_mem_nil, false_implies, implies_true, and_true]
  | p :: ps => ((rowWise_evaluable p).and (rowWise_allEvaluable ps)).congr fun rows =>
      List.forall_mem_cons

end

theorem evaluable_of_subset {s : Schema} {p : Predicate} {rows more : List (Row s)}
    (hsub : ∀ row ∈ rows, row ∈ more) (h : Evaluable ⟨s, more⟩ p) : Evaluable ⟨s, rows⟩ p :=
  (rowWise_evaluable p).of_subset hsub h

mutual

theorem evaluable_of_isTrivial : ∀ {p : Predicate}, p.isTrivial = true → b.Evaluable p
  | .always, _ => evaluable_always
  | .and ps, h => by
      rw [Predicate.isTrivial] at h
      exact evaluable_and.mpr (evaluable_of_areTrivial h)
  | .compare .., h | .oneOf .., h | .noneOf .., h | .isNull .., h | .isNotNull .., h
  | .like .., h | .contains .., h | .not .., h => by
      simp only [Predicate.isTrivial, Bool.false_eq_true] at h

theorem evaluable_of_areTrivial : ∀ {ps : List Predicate},
    Predicate.areTrivial ps = true → ∀ p ∈ ps, b.Evaluable p
  | [], _ => fun _ hp => absurd hp List.not_mem_nil
  | p :: ps, h => by
      rw [Predicate.areTrivial, Bool.and_eq_true] at h
      exact List.forall_mem_cons.mpr ⟨evaluable_of_isTrivial h.1, evaluable_of_areTrivial h.2⟩

end

/-- Rows can be selected if nothing has to be evaluated, or if evaluation
    succeeds and there is a column for the mask to be applied to. What is
    selected is then the rows that meet the predicate. -/
theorem select_eq_ok_iff {p : Predicate} {out : Batch} :
    b.select p = .ok out ↔ (p.isTrivial = true ∨ b.Evaluable p ∧ b.schema.width ≠ 0) ∧
      out = ⟨b.schema, b.rows.filter fun row => (row.truth p).isMet⟩ := by
  constructor
  · intro h
    refine ⟨?_, select_eq_ok h⟩
    by_cases htrivial : p.isTrivial = true
    · exact .inl htrivial
    · rw [select, if_neg htrivial, bind_eq_ok] at h
      rcases h with ⟨kept, hkept, hfilter⟩
      rw [matching, bind_eq_ok] at hkept
      rcases hkept with ⟨m, hm, -⟩
      refine .inr ⟨⟨m, hm⟩, fun hwidth => ?_⟩
      -- Without a column no mask can be applied, whatever its length.
      rw [filter, if_pos hwidth] at hfilter
      split at hfilter <;> simp only [reduceCtorEq] at hfilter
  · rintro ⟨hready, rfl⟩
    have hsome : ∃ out, b.select p = .ok out := by
      by_cases htrivial : p.isTrivial = true
      · exact ⟨b, by rw [select, if_pos htrivial]⟩
      · rcases hready.resolve_left htrivial with ⟨⟨m, hm⟩, hwidth⟩
        rw [select_eq_map (Bool.not_eq_true _ ▸ htrivial) hwidth, hm]
        exact ⟨_, rfl⟩
    rcases hsome with ⟨out, hout⟩
    rw [hout, select_eq_ok hout]

/-- Filtering in two passes is filtering by the conjunction. The first pass
    succeeds, the second succeeds on what the first has kept, and the rows at
    the end are the same. A second pass by the same predicate changes nothing. -/
theorem select_both (b : Batch) (p q : Predicate) (out : Batch)
    (h : b.select (p.both q) = .ok out) :
    ∃ first, b.select p = .ok first ∧ first.select q = .ok out ∧ (p = q → first = out) := by
  rcases select_eq_ok_iff.mp h with ⟨hready, hout⟩
  rw [Predicate.isTrivial_both, Bool.and_eq_true, evaluable_both] at hready
  have hrows : out = ⟨b.schema, (b.rows.filter fun row => (row.truth p).isMet).filter
      fun row => (row.truth q).isMet⟩ := by
    rw [hout, List.filter_filter]
    simp only [Row.isMet_both, Bool.and_comm]
  refine ⟨_, select_eq_ok_iff.mpr ⟨?_, rfl⟩, select_eq_ok_iff.mpr ⟨?_, hrows⟩, ?_⟩
  · exact hready.imp And.left fun h => ⟨h.1.1, h.2⟩
  · -- The rows that are left were among those that could be judged.
    refine hready.imp And.right fun h => ⟨?_, h.2⟩
    exact evaluable_of_subset (fun row hrow => (List.mem_filter.mp hrow).1) h.1.2
  · intro hpq
    subst hpq
    rw [hrows, List.filter_filter]
    simp only [Bool.and_self]

end Batch

/-- Books numbered from the first one on. -/
def numbered : Predicate := .compare .greaterOrEqual (.field "id") (.integer firstBook)

/-- Books whose author has a name. -/
def authored : Predicate := .isNotNull (.join "author" "name")

/-- Both books are numbered. The second pass drops the one without an author. -/
theorem select_both_shelf :
    shelf.select (numbered.both authored) = .ok ⟨shelf.schema, shelf.rows.take 1⟩ ∧
      ∃ first, shelf.select numbered = .ok first ∧
        first.select authored = .ok ⟨shelf.schema, shelf.rows.take 1⟩ := by
  have hboth : shelf.select (numbered.both authored) =
      .ok ⟨shelf.schema, shelf.rows.take 1⟩ := rfl
  rcases Batch.select_both shelf numbered authored _ hboth with ⟨first, hfirst, hsecond, -⟩
  exact ⟨hboth, first, hfirst, hsecond⟩

end RowSieve
