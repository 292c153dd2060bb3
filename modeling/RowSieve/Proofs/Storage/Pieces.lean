import RowSieve.Proofs.Evaluation.Evaluable
import RowSieve.Storage.Reading

/-!
# Reading in Pieces

A stored table is read in batches of a chosen size, and each batch is filtered
on its own. What is found is what filtering the table as one batch would find:
the pieces put together are the table, a predicate means the same for a row in
whatever batch the row stands, and evaluation fails on some piece exactly if
it fails on the whole. Many pieces are filtered side by side and few of them one
after the other, which comes to the same.

To fail on a piece takes a piece. An empty table has none, so a predicate that
names a missing column is refused by a table with rows and overlooked by one
without.

## Main definitions

* `Mask.metRows`: The rows whose slot is met.

## Theorems

* `flatten_pieces`, `length_of_mem_pieces`: The pieces of a list.
* `selectAll_eq`: Where the work begins to be shared out does not matter.
* `selectAll_succeeds`, `selectAll_eq_ok`: Selecting from several batches.
* `readTable_eq_ok`: What is found in a stored table.
* `selectAll_pieces_succeeds`, `selectAll_pieces_eq_ok`: Selecting from all
  pieces of a table.
* `read_in_pieces`: What is found does not depend on the size of a piece.
-/

namespace RowSieve

section Pieces

variable {α β : Type}

theorem pieces_cons {size : Nat} (hsize : 1 ≤ size) (x : α) (xs : List α) :
    pieces size (x :: xs) = (x :: xs).take size :: pieces size ((x :: xs).drop size) := by
  rw [pieces, if_neg (by omega)]

theorem flatten_pieces {size : Nat} (hsize : 1 ≤ size) (xs : List α) :
    (pieces size xs).flatten = xs := by
  fun_induction pieces size xs with
  | case1 => rfl
  | case2 x rest h => omega
  | case3 x rest h ih => rw [List.flatten_cons, ih, List.take_append_drop]

/-- A piece is never empty, and it is no longer than it may be. -/
theorem length_of_mem_pieces {size : Nat} {xs piece : List α} (h : piece ∈ pieces size xs) :
    1 ≤ piece.length ∧ piece.length ≤ size := by
  fun_induction pieces size xs with
  | case1 => exact absurd h List.not_mem_nil
  | case2 x rest hsize => exact absurd h List.not_mem_nil
  | case3 x rest hsize ih =>
      rcases List.mem_cons.mp h with hfirst | hmore
      · rw [hfirst, List.length_take, List.length_cons]
        omega
      · exact ih hmore

theorem pieces_ne_nil {size : Nat} (hsize : 1 ≤ size) {xs : List α} (hne : xs ≠ []) :
    pieces size xs ≠ [] := by
  cases xs with
  | nil => exact absurd rfl hne
  | cons x xs =>
      rw [pieces_cons hsize]
      exact List.cons_ne_nil _ _

end Pieces

/-- The rows whose slot of a mask is met, in order. -/
def Mask.metRows {α : Type} (rows : List α) (m : Mask) : List α :=
  ((rows.zip m).filter fun slot => slot.2 == .met).map Prod.fst

theorem Mask.metRows_map {α : Type} (rows : List α) (f : α → Truth) :
    Mask.metRows rows (rows.map f) = rows.filter fun row => (f row).isMet := by
  rw [metRows]
  induction rows with
  | nil => rfl
  | cons row rows ih =>
      rw [List.map_cons, List.zip_cons_cons, List.filter_cons, List.filter_cons, ← ih]
      cases f row <;> rfl

/-- Attempts side by side come to the same as attempts one after the other. -/
theorem gather_map {ε α β : Type} (f : α → Except ε β) (xs : List α) :
    gather (xs.map f) = xs.mapM f := by
  induction xs with
  | nil => rfl
  | cons x xs ih =>
      rw [List.map_cons, List.mapM_cons, ← ih]
      cases f x with
      | error e => rfl
      | ok y => cases h : gather (xs.map f) <;> simp only [gather, h] <;> rfl

/-- So it does not matter from how many batches on the work is shared out. -/
theorem selectAll_eq (threshold : Nat) (p : Predicate) (bs : List Batch) :
    selectAll threshold p bs = (do
      let selected ← bs.mapM fun b => b.select p
      .ok (selected.filter fun b => b.size ≠ 0)) := by
  rw [selectAll, gather_map, ite_self]

section Selecting

variable {threshold : Nat} {p : Predicate}

theorem selectAll_succeeds (bs : List Batch) :
    (∃ out, selectAll threshold p bs = .ok out) ↔ ∀ b ∈ bs, ∃ out, b.select p = .ok out := by
  rw [selectAll_eq, bind_succeeds]
  simp only [Except.ok.injEq, exists_eq', and_true]
  exact mapM_succeeds bs

/-- From batches of one schema, each loses the rows that do not meet the
    predicate, and those that have lost all of them are left out. -/
theorem selectAll_eq_ok {s : Schema} {parts : List (List (Row s))}
    {out : List Batch} (h : selectAll threshold p (parts.map (Batch.mk s)) = .ok out) :
    out = ((parts.map (List.filter fun row => (row.truth p).isMet)).filter
      fun rows => !rows.isEmpty).map (Batch.mk s) := by
  rw [selectAll_eq, bind_eq_ok] at h
  rcases h with ⟨kept, hkept, hout⟩
  have hmap := mapM_eq_ok (fun b out hb => Batch.select_eq_ok hb) hkept
  rw [Except.ok.injEq, hmap, List.map_map] at hout
  rw [← hout, List.filter_map, List.filter_map, List.map_map]
  have htest : ∀ rows : List (Row s), decide ((Batch.mk s rows).size ≠ 0) = !rows.isEmpty := by
    intro rows
    cases rows <;> rfl
  -- The two tests for an empty batch agree, and so do the two maps.
  simp only [Function.comp_def, htest]

end Selecting

/-- What is found in a stored table: the rows of its batches that meet the
    predicate, after the table was cut down if columns were asked for. -/
theorem readTable_eq_ok {file : String} {table : Batch} {p : Predicate}
    {asked : Option (List String)} {settings : Settings} {out : List Batch} :
    (∃ lines, readTable file table p asked settings = .ok (out, lines)) ↔
      selectAll settings.parallelThreshold p
        ((((wantedColumns p asked settings).map table.restrict).getD table).pieces
          settings.batchSize) = .ok out := by
  rw [readTable]
  cases selectAll settings.parallelThreshold p
      ((((wantedColumns p asked settings).map table.restrict).getD table).pieces
        settings.batchSize) with
  | error cause => simp only [reduceCtorEq, exists_false]
  | ok kept =>
      simp only [Except.ok.injEq, Prod.mk.injEq, exists_and_left, exists_eq', and_true]

/-- Without projection the batches come from the whole table. -/
theorem read_unprojected {file : String} {table : Batch} {p : Predicate}
    {asked : Option (List String)} {settings : Settings} {out : List Batch}
    (h : wantedColumns p asked settings = none) :
    (∃ lines, (StoredFile.mk file (.table table)).read p asked settings = .ok (out, lines)) ↔
      selectAll settings.parallelThreshold p (table.pieces settings.batchSize) = .ok out := by
  rw [StoredFile.read, readTable_eq_ok, h]
  rfl

/-- Selecting from the pieces of a table succeeds exactly if the predicate has
    a mask on the table. Every piece can be selected from if every piece can be
    judged, and the pieces together are the table. -/
theorem selectAll_pieces_succeeds {table : Batch} {threshold : Nat} {p : Predicate} {size : Nat}
    (hsize : 1 ≤ size) (hrows : table.rows ≠ []) (hwidth : table.schema.width ≠ 0) :
    (∃ out, selectAll threshold p (table.pieces size) = .ok out) ↔ table.Evaluable p := by
  have hpiece : ∀ rows : List (Row table.schema),
      (∃ out, (Batch.mk table.schema rows).select p = .ok out) ↔
        Batch.Evaluable ⟨table.schema, rows⟩ p := by
    intro rows
    simp only [Batch.select_eq_ok_iff, exists_eq_right, ne_eq, hwidth, not_false_eq_true,
      and_true, or_iff_right_iff_imp]
    exact Batch.evaluable_of_isTrivial
  have hwhole := (Batch.rowWise_evaluable p).flatten (pieces_ne_nil hsize hrows)
  rw [flatten_pieces hsize] at hwhole
  rw [Batch.pieces, selectAll_succeeds, List.forall_mem_map, hwhole]
  exact forall₂_congr fun rows _ => hpiece rows

/-- The batches that are found hold the rows of the table that meet the
    predicate, in their order, and no batch is empty or larger than a piece. -/
theorem selectAll_pieces_eq_ok {table : Batch} {threshold : Nat} {p : Predicate} {size : Nat}
    (hsize : 1 ≤ size) {out : List Batch}
    (h : selectAll threshold p (table.pieces size) = .ok out) :
    ∃ parts : List (List (Row table.schema)), out = parts.map (Batch.mk table.schema) ∧
      parts.flatten = table.rows.filter (fun row => (row.truth p).isMet) ∧
      ∀ part ∈ parts, 1 ≤ part.length ∧ part.length ≤ size := by
  refine ⟨_, selectAll_eq_ok h, ?_, ?_⟩
  · rw [List.flatten_filter_not_isEmpty, ← List.filter_flatten, flatten_pieces hsize]
  · intro part hpart
    rcases List.mem_filter.mp hpart with ⟨hmem, hne⟩
    rcases List.mem_map.mp hmem with ⟨piece, hpiece, rfl⟩
    have hlength := length_of_mem_pieces hpiece
    have hfilter := List.length_filter_le (fun row => (row.truth p).isMet) piece
    rw [Bool.not_eq_true', List.isEmpty_eq_false_iff_exists_mem] at hne
    exact ⟨List.length_pos_iff_exists_mem.mpr hne, by omega⟩

/-- Reading does not depend on how the table is cut up. It succeeds exactly if
    the predicate has a mask on the table as one batch. Then the batches hold,
    one after the other, the rows that are met in that mask. None of them is
    empty or larger than it may be. -/
theorem read_in_pieces (file : String) (table : Batch) (p : Predicate)
    (asked : Option (List String)) (settings : Settings)
    (hunprojected : asked = none ∨ settings.projectColumns = false)
    (hsize : 1 ≤ settings.batchSize) (hrows : table.rows ≠ []) (hwidth : table.schema.width ≠ 0) :
    ((∃ result, (StoredFile.mk file (.table table)).read p asked settings = .ok result) ↔
        ∃ m, table.evaluate p = .ok m) ∧
      ∀ out lines m, (StoredFile.mk file (.table table)).read p asked settings = .ok (out, lines) →
        table.evaluate p = .ok m →
          ∃ parts : List (List (Row table.schema)), out = parts.map (Batch.mk table.schema) ∧
            parts.flatten = Mask.metRows table.rows m ∧
            ∀ part ∈ parts, 1 ≤ part.length ∧ part.length ≤ settings.batchSize := by
  have hwanted : wantedColumns p asked settings = none := by
    rcases hunprojected with h | h
    · rw [h]
      rfl
    · unfold wantedColumns
      rw [h]
      cases asked <;> rfl
  constructor
  · rw [Prod.exists]
    exact (exists_congr fun _ => read_unprojected hwanted).trans
      (selectAll_pieces_succeeds hsize hrows hwidth)
  · intro out lines m hout hm
    have hmask : m = table.rows.map (Row.truth · p) := Batch.evaluate_eq_ok hm
    rw [hmask, Mask.metRows_map]
    exact selectAll_pieces_eq_ok hsize ((read_unprojected hwanted).mp ⟨lines, hout⟩)

/-- One book at a time, the book with an author is the only one to be found. -/
theorem read_in_pieces_shelf :
    ∃ out lines, (StoredFile.mk "shelf" (.table shelf)).read authored none { batchSize := 1 } =
        .ok (out, lines) ∧
      ∃ parts : List (List (Row shelf.schema)), out = parts.map (Batch.mk shelf.schema) ∧
        parts.flatten = shelf.rows.take 1 ∧ ∀ part ∈ parts, 1 ≤ part.length ∧ part.length ≤ 1 := by
  have h := read_in_pieces "shelf" shelf authored none { batchSize := 1 } (.inl rfl) (by decide)
    (List.cons_ne_nil _ _) (by decide)
  rcases h.1.mpr ⟨[.met, .failed], rfl⟩ with ⟨⟨out, lines⟩, hread⟩
  exact ⟨out, lines, hread, h.2 out lines _ hread rfl⟩

end RowSieve
