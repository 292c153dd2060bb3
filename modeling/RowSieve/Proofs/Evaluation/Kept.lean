import RowSieve.Criteria.Builder
import RowSieve.Evaluation.Selection
import RowSieve.Proofs.Evaluation.RowByRow

/-!
# The Rows That Are Kept

Selecting from a batch is filtering its rows by what the predicate means on
each. Two detours of the code disappear in that statement: the mask, of which
only the slots that are met count, and the shortcut for a predicate that every
row meets, which returns the batch unseen.

Conjunctions are built flat and lose the members that are always met. Neither
changes which rows meet them, so a built conjunction keeps exactly the rows
that each of its parts keeps.

## Main definitions

* `Batch.Yields`: What becomes of a predicate on a batch.

## Theorems

* `keepMet_map`: Keeping by a mask computed row by row is filtering.
* `Row.truth_of_isTrivial`: A conjunction of nothing is met by every row.
* `Batch.select_eq_ok`: Selecting is filtering by the meaning.
* `Batch.select_eq_map`: Selecting fails only where evaluating does.
* `Batch.Yields.and`, `Batch.Yields.select`: What becomes of a conjunction, and
  of the batch.
* `Row.isMet_both`, `Row.isMet_all`: A built conjunction is met exactly if
  its parts are.
* `Filter.isMet_predicate`: A filter is met exactly if each of its leaves is.
-/

namespace RowSieve

theorem keepMet_map {α : Type} (xs : List α) (f : α → Truth) :
    keepMet xs (xs.map f) = xs.filter fun x => (f x).isMet := by
  induction xs with
  | nil => rfl
  | cons x xs ih =>
      rw [List.map_cons, keepMet, ih, List.filter_cons]

namespace Truth

theorem isMet_ofBool_isMet (t : Truth) : (ofBool t.isMet).isMet = t.isMet := by
  cases t <;> rfl

/-- A disjunction is met exactly if some member is. -/
theorem isMet_anyOf (ts : List Truth) : (anyOf ts).isMet = ts.any isMet := by
  induction ts with
  | nil => rfl
  | cons t ts ih =>
      rw [← or_anyOf, List.any_cons, ← ih]
      cases t <;> cases anyOf ts <;> rfl

/-- A disjunction is refuted exactly if every member is. -/
theorem isMet_not_anyOf (ts : List Truth) :
    (anyOf ts).not.isMet = ts.all fun t => t.not.isMet := by
  induction ts with
  | nil => rfl
  | cons t ts ih =>
      rw [← or_anyOf, List.all_cons, ← ih]
      cases t <;> cases anyOf ts <;> rfl

end Truth

namespace Row

variable {s : Schema}

mutual

/-- A conjunction of nothing, at any depth, is met by every row. -/
theorem truth_of_isTrivial (row : Row s) : ∀ {p : Predicate},
    p.isTrivial = true → row.truth p = .met
  | .always, _ => by rw [truth]
  | .and ps, h => by
      rw [Predicate.isTrivial] at h
      rw [truth, truths_of_areTrivial row h]
  | .compare .., h | .oneOf .., h | .noneOf .., h | .isNull .., h | .isNotNull .., h
  | .like .., h | .contains .., h | .not .., h => by
      simp only [Predicate.isTrivial, Bool.false_eq_true] at h

theorem truths_of_areTrivial (row : Row s) : ∀ {ps : List Predicate},
    Predicate.areTrivial ps = true → Truth.allOf (row.truths ps) = .met
  | [], _ => rfl
  | p :: ps, h => by
      rw [Predicate.areTrivial, Bool.and_eq_true] at h
      rw [truths, ← Truth.and_allOf, truth_of_isTrivial row h.1, truths_of_areTrivial row h.2]
      rfl

end

end Row

namespace Batch

/-- A mask computed row by row can be applied to any batch with a column. -/
theorem filter_of_width {b : Batch} (hwidth : b.schema.width ≠ 0) (f : Row b.schema → Truth) :
    b.filter (b.rows.map f) = .ok ⟨b.schema, b.rows.filter fun row => (f row).isMet⟩ := by
  rw [filter, size, List.length_map, if_neg (not_not_intro rfl), if_neg hwidth, keep, keepMet_map]

/-- What such a mask keeps when it is applied to its batch. -/
theorem filter_eq_ok {b out : Batch} {f : Row b.schema → Truth}
    (h : b.filter (b.rows.map f) = .ok out) :
    out = ⟨b.schema, b.rows.filter fun row => (f row).isMet⟩ := by
  by_cases hwidth : b.schema.width = 0
  · rw [filter, size, List.length_map, if_neg (not_not_intro rfl), if_pos hwidth] at h
    simp only [reduceCtorEq] at h
  · rw [filter_of_width hwidth, Except.ok.injEq] at h
    exact h.symm

/-- Selecting is filtering the rows by what the predicate means on each. -/
theorem select_eq_ok {b out : Batch} {p : Predicate} (h : b.select p = .ok out) :
    out = ⟨b.schema, b.rows.filter fun row => (row.truth p).isMet⟩ := by
  unfold select at h
  by_cases htrivial : p.isTrivial = true
  · rw [if_pos htrivial, Except.ok.injEq] at h
    -- Nothing is evaluated here, and nothing would have been dropped.
    have hall : b.rows.filter (fun row => (row.truth p).isMet) = b.rows := by
      refine List.filter_eq_self.mpr fun row _ => ?_
      rw [Row.truth_of_isTrivial row htrivial]
      rfl
    rw [hall, ← h]
  · rw [if_neg htrivial, bind_eq_ok] at h
    rcases h with ⟨kept, hkept, h⟩
    -- The mask says met or not met, and what it says of a row is its meaning.
    rw [matching, bind_eq_ok] at hkept
    rcases hkept with ⟨m, hm, hkept⟩
    rw [Except.ok.injEq, evaluate_eq_ok hm, List.map_map] at hkept
    rw [← hkept] at h
    rw [filter_eq_ok h]
    simp only [Function.comp_apply, Truth.isMet_ofBool_isMet]

/-- Selecting fails only where evaluating does, given a column and a predicate
    that is evaluated at all. -/
theorem select_eq_map {b : Batch} {p : Predicate} (hp : p.isTrivial = false)
    (hwidth : b.schema.width ≠ 0) :
    b.select p = (b.evaluate p).map fun _ =>
      ⟨b.schema, b.rows.filter fun row => (row.truth p).isMet⟩ := by
  unfold select matching
  rw [hp, if_neg Bool.false_ne_true]
  cases hm : b.evaluate p with
  | error e => rfl
  | ok m =>
      rw [evaluate_eq_ok hm]
      simp only [bind, Except.bind, List.map_map]
      rw [filter_of_width hwidth]
      simp only [Function.comp_apply, Truth.isMet_ofBool_isMet]
      rfl

end Batch

/-- A schema in which a path leads somewhere has a column. -/
theorem Schema.width_ne_zero_of_place {s : Schema} {path : FieldPath} {place : Place s}
    (h : s.place path = .ok place) : s.width ≠ 0 := by
  cases s with
  | empty =>
      unfold Schema.place at h
      rcases hr : path.relation with _ | relation <;>
        simp only [hr, field?, reduceCtorEq] at h
  | column name type rest => exact Nat.succ_ne_zero _

namespace Row

variable {s : Schema}

/-- A conjunction is met exactly if every member is. -/
theorem isMet_and (row : Row s) (ps : List Predicate) :
    (row.truth (.and ps)).isMet = ps.all fun p => (row.truth p).isMet := by
  rw [truth, truths_eq_map]
  induction ps with
  | nil => rfl
  | cons p ps ih => rw [List.map_cons, ← Truth.and_allOf, Truth.isMet_and, ih, List.all_cons]

/-- Joining two predicates keeps the rows that both keep. The cases are those
    of joining: what is dropped is always met, and what is flattened was a
    conjunction already. -/
theorem isMet_both (row : Row s) (p q : Predicate) :
    (row.truth (p.both q)).isMet = ((row.truth p).isMet && (row.truth q).isMet) := by
  unfold Predicate.both
  -- One side always met, twice; both sides conjunctions; one side, twice; none.
  split
  · simp only [truth, Truth.isMet, Bool.true_and]
  · simp only [truth, Truth.isMet, Bool.and_true]
  · simp only [isMet_and, List.all_append]
  · simp only [isMet_and, List.all_append, List.all_cons, List.all_nil, Bool.and_true]
  · simp only [isMet_and, List.all_cons]
  · simp only [isMet_and, List.all_cons, List.all_nil, Bool.and_true]

/-- Joining a list of predicates keeps the rows that each of them keeps. -/
theorem isMet_all (row : Row s) (ps : List Predicate) :
    (row.truth (Predicate.all ps)).isMet = ps.all fun p => (row.truth p).isMet := by
  -- The predicates joined so far are the first member of what is left.
  have hfold : ∀ q, (row.truth (ps.foldl Predicate.both q)).isMet =
      ((row.truth q).isMet && ps.all fun p => (row.truth p).isMet) := by
    induction ps with
    | nil => intro q; rw [List.foldl_nil, List.all_nil, Bool.and_true]
    | cons p ps ih =>
        intro q
        rw [List.foldl_cons, ih, isMet_both, List.all_cons, Bool.and_assoc]
  rw [Predicate.all, hfold, truth, Truth.isMet, Bool.true_and]

end Row

namespace Batch

/-- What becomes of a predicate on a batch: it fails with an error, or it is
    evaluated and meets the rows that pass a test. -/
def Yields (b : Batch) (p : Predicate) (failure? : Option EvaluationError)
    (test : Row b.schema → Bool) : Prop :=
  match failure? with
  | some e => b.evaluate p = .error e
  | none => (∃ m, b.evaluate p = .ok m) ∧ ∀ row : Row b.schema, (row.truth p).isMet = test row

/-- A conjunction of two fails with the first error there is, and meets the
    rows that pass both tests. -/
theorem Yields.and {b : Batch} {p q : Predicate} {e f : Option EvaluationError}
    {g h : Row b.schema → Bool} (hp : b.Yields p e g) (hq : b.Yields q f h) :
    b.Yields (.and [p, q]) (e.or f) fun row => g row && h row := by
  cases e with
  | some e =>
      -- The second predicate is not evaluated any more.
      have hp : b.evaluate p = .error e := hp
      rw [Option.some_or]
      change b.evaluate (.and [p, q]) = .error e
      rw [evaluate, evaluateAll, hp]
      rfl
  | none =>
      rcases hp with ⟨⟨m, hm⟩, hg⟩
      rw [Option.none_or]
      cases f with
      | some f =>
          have hq : b.evaluate q = .error f := hq
          change b.evaluate (.and [p, q]) = .error f
          simp only [evaluate, evaluateAll, hm, hq, bind, Except.bind]
      | none =>
          rcases hq with ⟨⟨n, hn⟩, hh⟩
          refine ⟨?_, fun row => ?_⟩
          · simp only [evaluate, evaluateAll, hm, hn, bind, Except.bind, Except.ok.injEq,
              exists_eq']
          · rw [row.isMet_and, List.all_cons, List.all_cons, List.all_nil, Bool.and_true, hg, hh]

/-- Selecting fails with the same error, or keeps the rows that pass the test. -/
theorem Yields.select {b : Batch} {p : Predicate} {failure? : Option EvaluationError}
    {test : Row b.schema → Bool} (h : b.Yields p failure? test) (hp : p.isTrivial = false)
    (hwidth : b.schema.width ≠ 0) :
    b.select p = failure?.elim (.ok ⟨b.schema, b.rows.filter test⟩) .error := by
  rw [select_eq_map hp hwidth]
  cases failure? with
  | some e =>
      have h : b.evaluate p = .error e := h
      rw [h]
      rfl
  | none =>
      rcases h with ⟨⟨m, hm⟩, htest⟩
      rw [hm]
      simp only [Except.map, htest]
      rfl

end Batch

/-- A filter keeps the rows on which each condition that contributes a leaf
    keeps them. -/
theorem Filter.isMet_predicate {kind : Filter.Kind} {s : Schema} (f : Filter kind)
    (path : FieldPath) (row : Row s) :
    (row.truth (f.predicate path)).isMet = true ↔
      ∀ c v leaf, f.operand? c = some v → c.leaf? path v = some leaf →
        (row.truth leaf).isMet = true := by
  rw [predicate, Row.isMet_all, List.all_eq_true]
  constructor
  · intro h c v leaf hv hleaf
    refine h leaf (List.mem_filterMap.mpr ⟨c, c.mem_compiled, ?_⟩)
    rw [hv, Option.bind_some, hleaf]
  · intro h leaf hmem
    rcases List.mem_filterMap.mp hmem with ⟨c, _, hc⟩
    rcases Option.bind_eq_some_iff.mp hc with ⟨v, hv, hleaf⟩
    exact h c v leaf hv hleaf

end RowSieve
