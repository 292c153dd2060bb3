import RowSieve.Proofs.Evaluation.Evaluable

/-!
# Selecting with and without a Mask

Selecting has a shortcut. A predicate that every row meets is not evaluated,
and the batch is returned as it is. The shortcut is decided by the shape of the
predicate alone, so it would be wrong if some predicate of that shape could
fail on a batch, or if its mask could lose a row. Neither can happen: there is
no field in such a predicate, its mask is met everywhere, and a mask that is
met everywhere keeps all rows.

The long way has a choice of its own. A mask may be applied as it was
evaluated, with slots left open, or after its open slots were closed. Keeping
asks of a slot only whether it is met, which closing does not change.

What the shortcut cannot agree with is a batch without columns. No mask can be
applied to it, not even one that is met everywhere. So selecting fails where
evaluating does not, on such a batch and only there: a closed instance at the
end has two rows, keeps both by its mask, and is not selected from.

## Main definitions

* `Mask.closed`: The mask with open slots counted as failed.

## Theorems

* `Mask.closed_eq_self`: A mask without open slots is closed already.
* `Batch.filter_closed`: Closing a mask does not change what it keeps.
* `Batch.evaluate_of_isTrivial`: A conjunction of nothing is met everywhere.
* `Batch.filter_constant_met`: What is met everywhere keeps the whole batch.
* `Batch.matching_filter`: Either mask keeps the same, or fails the same way.
* `Batch.select_eq_keep`: Selecting fails only where evaluating does.
* `Batch.select_eq_filter`: Selecting is applying either of the two masks.
* `Batch.select_bare`: A batch without columns is not selected from by a mask.
* `Batch.size_of_select`: As many rows are selected as slots are met.
* `Batch.select_outcome`: Selecting fails where evaluating does, and on batches
  without columns.
-/

namespace RowSieve

namespace Mask

/-- The mask with open slots counted as failed. -/
def closed (m : Mask) : Mask := m.map fun t => Truth.ofBool t.isMet

theorem length_closed (m : Mask) : m.closed.length = m.length := by
  rw [closed, List.length_map]

/-- A mask without open slots is closed already. -/
theorem closed_eq_self {m : Mask} (h : Truth.unknown ∉ m) : m.closed = m := by
  have hslot : ∀ t ∈ m, Truth.ofBool t.isMet = t := by
    intro t ht
    cases t with
    | met | failed => rfl
    | unknown => exact absurd ht h
  rw [closed, List.map_congr_left hslot, List.map_id']

end Mask

/-- A row is kept for a slot that is met, which a slot is after closing exactly
    if it was before. -/
theorem keepMet_closed {α : Type} (xs : List α) (m : Mask) : keepMet xs m.closed = keepMet xs m := by
  induction xs generalizing m with
  | nil => rfl
  | cons x xs ih =>
      cases m with
      | nil => rfl
      | cons t m =>
          have htail := ih m
          unfold Mask.closed at htail ⊢
          rw [List.map_cons, keepMet, keepMet, htail, Truth.isMet_ofBool_isMet]

namespace Batch

variable {b : Batch} {p : Predicate}

theorem filter_closed (b : Batch) (m : Mask) : b.filter m.closed = b.filter m := by
  unfold filter keep
  rw [m.length_closed, keepMet_closed]

/-- A mask that is met everywhere keeps the whole batch, if it can be applied
    at all. -/
theorem filter_constant_met (hwidth : b.schema.width ≠ 0) :
    b.filter (.constant b.size .met) = .ok b := by
  have hkept : b.rows.filter (fun _ => Truth.isMet .met) = b.rows :=
    List.filter_eq_self.mpr fun _ _ => rfl
  rw [size, Mask.constant_eq_map, filter_of_width hwidth, hkept]

/-- A conjunction of nothing has a mask on every batch, and it is met on every
    row. -/
theorem evaluate_of_isTrivial (h : p.isTrivial = true) :
    b.evaluate p = .ok (.constant b.size .met) := by
  have hmet : ∀ row ∈ b.rows, row.truth p = .met := fun row _ => row.truth_of_isTrivial h
  rw [(evaluable_of_isTrivial h).evaluate_eq, List.map_congr_left hmet, size,
    Mask.constant_eq_map]

/-- The rows are the same whether open slots are closed first or not. If there
    is no mask, both ways fail with the error of evaluation. -/
theorem matching_filter : (b.matching p >>= b.filter) = (b.evaluate p >>= b.filter) := by
  unfold matching
  cases b.evaluate p with
  | error e => rfl
  | ok m => exact filter_closed b m

/-- On a batch with a column the shortcut and the long way agree. -/
theorem select_of_width (hwidth : b.schema.width ≠ 0) :
    b.select p = (b.evaluate p >>= b.filter) := by
  unfold select
  by_cases htrivial : p.isTrivial = true
  · rw [if_pos htrivial, evaluate_of_isTrivial htrivial]
    exact (filter_constant_met hwidth).symm
  · rw [if_neg htrivial]
    exact matching_filter

/-- So selecting keeps the rows of the mask, and fails only where evaluating
    does. -/
theorem select_eq_keep (hwidth : b.schema.width ≠ 0) :
    b.select p = (b.evaluate p).map b.keep := by
  rw [select_of_width hwidth]
  cases hm : b.evaluate p with
  | error e => rfl
  | ok m =>
      change b.filter m = .ok (b.keep m)
      unfold filter
      -- The mask has a slot for each row, so it is not refused.
      rw [if_neg (not_not_intro (length_of_evaluate hm)), if_neg hwidth]

/-- Selecting is applying a mask of the predicate to the batch, with its open
    slots or without them, and fails with the same error. For a conjunction of
    nothing the mask is there on every batch and met on every row, and applying
    it changes nothing. A mask without open slots is not changed by closing. -/
theorem select_eq_filter (b : Batch) (p : Predicate) :
    (b.schema.width ≠ 0 →
      b.select p = (b.matching p >>= b.filter) ∧ b.select p = (b.evaluate p >>= b.filter)) ∧
    (p.isTrivial = true →
      b.evaluate p = .ok (.constant b.size .met) ∧
        (b.schema.width ≠ 0 → b.filter (.constant b.size .met) = .ok b)) ∧
    ∀ m, b.evaluate p = .ok m → Truth.unknown ∉ m → b.matching p = .ok m := by
  refine ⟨fun hwidth => ?_, fun htrivial => ?_, fun m hm hclosed => ?_⟩
  · exact ⟨(select_of_width hwidth).trans matching_filter.symm, select_of_width hwidth⟩
  · exact ⟨evaluate_of_isTrivial htrivial, filter_constant_met⟩
  · have hmatching : b.matching p = .ok m.closed := by
      unfold matching
      rw [hm]
      rfl
    rw [hmatching, Mask.closed_eq_self hclosed]

end Batch

/-- Conjunctions of nothing within each other. -/
def nothingAsked : Predicate := .and [.always, .and [], .and [.and [.always]]]

/-- The second book is left open by the question and dropped by both masks. A
    nested conjunction of nothing takes the shortcut, and the long way would
    have kept both books as well. -/
theorem select_eq_filter_shelf :
    shelf.evaluate shelfQuestion = .ok [.met, .unknown] ∧
      shelf.select shelfQuestion = (shelf.matching shelfQuestion >>= shelf.filter) ∧
      shelf.select shelfQuestion = (shelf.evaluate shelfQuestion >>= shelf.filter) ∧
      shelf.select shelfQuestion = .ok ⟨shelf.schema, shelf.rows.take 1⟩ ∧
      nothingAsked.isTrivial = true ∧
      shelf.evaluate nothingAsked = .ok [.met, .met] ∧
      shelf.filter [.met, .met] = .ok shelf ∧
      shelf.matching nothingAsked = .ok [.met, .met] := by
  have hwidth : shelf.schema.width ≠ 0 := Nat.succ_ne_zero _
  rcases (Batch.select_eq_filter shelf shelfQuestion).1 hwidth with ⟨hclosed, hopen⟩
  rcases Batch.select_eq_filter shelf nothingAsked with ⟨-, htrivial, hdecided⟩
  rcases htrivial rfl with ⟨hmet, hkept⟩
  exact ⟨rfl, hclosed, hopen, rfl, rfl, hmet, hkept hwidth, hdecided _ hmet (by decide)⟩

theorem Truth.beq_met (t : Truth) : (t == met) = t.isMet := by
  cases t <;> rfl

namespace Batch

variable {b : Batch} {p : Predicate}

/-- A batch without columns is selected from by the shortcut or not at all. -/
theorem select_bare (hwidth : b.schema.width = 0) (hp : p.isTrivial = false) {m : Mask}
    (hm : b.evaluate p = .ok m) : b.select p = .error (.column .noColumns) := by
  unfold select matching
  rw [hp, if_neg Bool.false_ne_true, hm]
  change b.filter m.closed = .error (.column .noColumns)
  rw [filter_closed, filter, if_neg (not_not_intro (length_of_evaluate hm)), if_pos hwidth]

/-- As many rows are selected as slots of the mask are met. -/
theorem size_of_select {out : Batch} {m : Mask} (hout : b.select p = .ok out)
    (hm : b.evaluate p = .ok m) : out.size = m.count .met := by
  rw [select_eq_ok hout, evaluate_eq_ok hm, size, List.count, List.countP_map,
    ← List.countP_eq_length_filter]
  exact List.countP_congr fun row _ => by rw [Function.comp_apply, Truth.beq_met]

/-- Selecting fails with the error of evaluating, and in one case more: the
    batch has no columns and the predicate asks for something. In any other case
    it succeeds exactly if evaluating does, and then it keeps as many rows as
    the mask has slots that are met. -/
theorem select_outcome (b : Batch) (p : Predicate) :
    (∀ e, b.evaluate p = .error e → b.select p = .error e) ∧
    (b.schema.width = 0 → p.isTrivial = false →
      ∀ m, b.evaluate p = .ok m → b.select p = .error (.column .noColumns)) ∧
    (b.schema.width ≠ 0 ∨ p.isTrivial = true →
      ((∃ out, b.select p = .ok out) ↔ ∃ m, b.evaluate p = .ok m)) ∧
    ∀ out m, b.select p = .ok out → b.evaluate p = .ok m → out.size = m.count .met := by
  refine ⟨fun e he => ?_, fun hwidth hp m hm => select_bare hwidth hp hm, fun hready => ?_,
    fun out m hout hm => size_of_select hout hm⟩
  · by_cases htrivial : p.isTrivial = true
    · -- A conjunction of nothing is never an error.
      rw [evaluate_of_isTrivial htrivial] at he
      exact nomatch he
    · unfold select matching
      rw [if_neg htrivial, he]
      rfl
  · constructor
    · rintro ⟨out, hout⟩
      rcases (select_eq_ok_iff.mp hout).1 with htrivial | hsome
      · exact evaluable_of_isTrivial htrivial
      · exact hsome.1
    · intro hsome
      refine ⟨_, select_eq_ok_iff.mpr ⟨?_, rfl⟩⟩
      exact hready.symm.imp_right fun hwidth => ⟨hsome, hwidth⟩

end Batch

/-- Two rows and no columns. -/
def bareRows : Batch := ⟨.empty, [(), ()]⟩

/-- Any value but those of an empty list, in a column that need not exist. -/
def noneOfNothing : Predicate := .noneOf (.field "x") []

/-- Every row meets the predicate, and none is selected. -/
theorem bare_rows_not_selected :
    bareRows.evaluate noneOfNothing = .ok [.met, .met] ∧
      bareRows.select noneOfNothing = .error (.column .noColumns) ∧
      ¬ ((∃ out, bareRows.select noneOfNothing = .ok out) ↔
        ∃ m, bareRows.evaluate noneOfNothing = .ok m) := by
  have hfails : bareRows.select noneOfNothing = .error (.column .noColumns) := rfl
  refine ⟨rfl, hfails, fun h => ?_⟩
  rcases h.mpr ⟨_, rfl⟩ with ⟨out, hout⟩
  rw [hfails] at hout
  exact nomatch hout

/-- A conjunction of nothing selects the rows without columns all the same, and
    a missing column is an error of both. The question about the shelf selects
    one book for the one slot that is met. -/
theorem select_outcome_shelf :
    bareRows.select noneOfNothing = .error (.column .noColumns) ∧
      (∃ out, bareRows.select nothingAsked = .ok out) ∧
      shelf.select (.isNull (.field "price")) = .error (.columnNotFound (.field "price")) ∧
      ∃ out, shelf.select shelfQuestion = .ok out ∧ out.size = 1 := by
  rcases Batch.select_outcome bareRows noneOfNothing with ⟨-, hbare, -⟩
  rcases Batch.select_outcome bareRows nothingAsked with ⟨-, -, hready, -⟩
  rcases Batch.select_outcome shelf (.isNull (.field "price")) with ⟨hfails, -⟩
  rcases Batch.select_outcome shelf shelfQuestion with ⟨-, -, hselects, hsize⟩
  have hmask : shelf.evaluate shelfQuestion = .ok [.met, .unknown] := rfl
  rcases (hselects (.inl (Nat.succ_ne_zero _))).mpr ⟨_, hmask⟩ with ⟨out, hout⟩
  exact ⟨hbare rfl rfl _ rfl, (hready (.inr rfl)).mpr ⟨_, rfl⟩, hfails _ rfl, out, hout,
    hsize out _ hout hmask⟩

end RowSieve
