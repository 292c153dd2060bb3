import RowSieve.Proofs.Evaluation.Dependence
import RowSieve.Proofs.Storage.Pieces
import RowSieve.Proofs.Table.View

/-!
# Reading Some Columns

Cutting a table down to some columns before it is filtered finds the same rows
as filtering the whole table, as long as the columns that the predicate needs
are among those that stay. Each step of reading commutes with the cut: making
batches of it, evaluating, applying the mask, and dropping empty batches. Even
a missing column is missing in the same way, because a wanted name that the
table lacks is lacking in what is left as well.

One thing can go wrong. If nothing at all is left of the table, no mask can be
applied to it, although the whole table could be filtered. So something has to
be left, or the predicate has to need no mask.

## Theorems

* `Predicate.root_mem_requiredColumns`: A needed column is a required one.
* `Batch.select_restrict`: Selecting commutes with the cut.
* `Batch.pieces_restrict`, `selectAll_restrict`: So do the other steps.
* `selectAll_pieces_restrict`: And so does all of it.
* `read_projected`: Projection does not change which rows are found.
-/

namespace RowSieve

theorem Predicate.root_mem_requiredColumns {p : Predicate} {path : FieldPath}
    (h : path ∈ p.fields) : path.root ∈ p.requiredColumns := by
  rw [requiredColumns, Sorted.mem_ofList]
  exact List.mem_map_of_mem h

theorem map_keepMet {α β : Type} (f : α → β) (xs : List α) (m : Mask) :
    keepMet (xs.map f) m = (keepMet xs m).map f := by
  induction xs generalizing m with
  | nil => rfl
  | cons x xs ih =>
      cases m with
      | nil => rfl
      | cons t m =>
          rw [List.map_cons, keepMet, keepMet, ih]
          cases t.isMet <;> rfl

theorem map_pieces {α β : Type} (f : α → β) (size : Nat) (xs : List α) :
    pieces size (xs.map f) = (pieces size xs).map (List.map f) := by
  fun_induction pieces size xs with
  | case1 => rw [List.map_nil, pieces, List.map_nil]
  | case2 x rest hsize => rw [List.map_cons, pieces, if_pos hsize, List.map_nil]
  | case3 x rest hsize ih =>
      rw [List.map_cons, pieces, if_neg hsize, List.map_cons, ← ih, ← List.map_cons, List.map_take,
        List.map_drop]

namespace Batch

variable {b : Batch} {wanted : List String} {p : Predicate}

theorem size_restrict : (b.restrict wanted).size = b.size := by
  rw [size, size, restrict, List.length_map]

theorem pieces_restrict (size : Nat) :
    (b.restrict wanted).pieces size = (b.pieces size).map (·.restrict wanted) := by
  rw [pieces, pieces, restrict, map_pieces, List.map_map, List.map_map]
  rfl

theorem keep_restrict (m : Mask) : (b.restrict wanted).keep m = (b.keep m).restrict wanted := by
  simp only [keep, restrict, map_keepMet]

/-- Selecting from a batch that was cut down selects the same rows, cut down
    as well. Evaluation sees no difference, so only the shape of the batch
    could matter to the mask. -/
theorem select_restrict (hfields : ∀ path ∈ p.fields, path.root ∈ wanted)
    (hwidth : p.isTrivial = true ∨ (b.schema.view wanted).schema.width ≠ 0 ∧ b.schema.width ≠ 0) :
    (b.restrict wanted).select p = (b.select p).map (·.restrict wanted) := by
  rw [select, select]
  by_cases htrivial : p.isTrivial = true
  · rw [if_pos htrivial, if_pos htrivial]
    rfl
  · rcases hwidth.resolve_left htrivial with ⟨hleft, hwhole⟩
    have hmatching : (b.restrict wanted).matching p = b.matching p :=
      matching_congr size_restrict fun path hpath => b.column_restrict (hfields path hpath)
    have hschema : (b.restrict wanted).schema.width ≠ 0 := hleft
    rw [if_neg htrivial, if_neg htrivial, hmatching]
    cases b.matching p with
    | error e => rfl
    | ok m =>
        simp only [bind, Except.bind, filter, size_restrict, if_neg hschema, if_neg hwhole]
        by_cases hlength : m.length ≠ b.size
        · rw [if_pos hlength, if_pos hlength]
          rfl
        · rw [if_neg hlength, if_neg hlength, keep_restrict]
          rfl

end Batch

theorem selectAll_restrict {threshold : Nat} {p : Predicate} {wanted : List String}
    {bs : List Batch}
    (h : ∀ b ∈ bs, (b.restrict wanted).select p = (b.select p).map (·.restrict wanted)) :
    selectAll threshold p (bs.map (·.restrict wanted)) =
      (selectAll threshold p bs).map (List.map (·.restrict wanted)) := by
  rw [selectAll_eq, selectAll_eq, mapM_map bs h]
  cases bs.mapM fun b => b.select p with
  | error e => rfl
  | ok kept =>
      -- A batch is empty after the cut exactly if it was empty before.
      simp only [Except.map, bind, Except.bind, List.filter_map, Function.comp_def,
        Batch.size_restrict]

/-- All batches of a table have its schema. So if something is left of the table
    after the cut, something is left of each of them. -/
theorem selectAll_pieces_restrict {table : Batch} {p : Predicate} {wanted : List String}
    (hfields : ∀ path ∈ p.fields, path.root ∈ wanted)
    (hleft : p.isTrivial = true ∨ ∃ name ∈ table.schema.names, name ∈ wanted)
    (threshold size : Nat) :
    selectAll threshold p ((table.restrict wanted).pieces size) =
      (selectAll threshold p (table.pieces size)).map (List.map (·.restrict wanted)) := by
  rw [Batch.pieces_restrict]
  refine selectAll_restrict fun b hb => ?_
  rcases List.mem_map.mp hb with ⟨rows, -, rfl⟩
  refine Batch.select_restrict hfields (hleft.imp_right fun h => ?_)
  rcases h with ⟨name, hname, hwanted⟩
  exact ⟨Schema.width_view hname hwanted, Schema.width_of_mem_names hname⟩

/-- With projection the batches come from the table as it was cut down. -/
theorem read_cut {file : String} {table : Batch} {p : Predicate} {names : List String}
    {settings : Settings} {out : List Batch} :
    (∃ lines, (StoredFile.mk file (.table table)).read p (some names)
        { settings with projectColumns := true } = .ok (out, lines)) ↔
      selectAll settings.parallelThreshold p
        ((table.restrict (Sorted.ofList (p.requiredColumns ++ names))).pieces
          settings.batchSize) = .ok out := by
  rw [StoredFile.read, readTable_eq_ok]
  rfl

/-- Projection never changes which rows are read. With and without it reading
    succeeds or fails together. If it succeeds, there are the same batches with
    the same rows, each cut down to the first columns of the names that were
    asked for or that the predicate requires. -/
theorem read_projected (file : String) (table : Batch) (p : Predicate) (names : List String)
    (settings : Settings)
    (hleft : p.isTrivial = true ∨ ∃ name ∈ table.schema.names, name ∈ names ++ p.requiredColumns) :
    ((∃ result, (StoredFile.mk file (.table table)).read p (some names)
          { settings with projectColumns := true } = .ok result) ↔
        ∃ result, (StoredFile.mk file (.table table)).read p (some names)
          { settings with projectColumns := false } = .ok result) ∧
      ∀ out lines whole linesWhole,
        (StoredFile.mk file (.table table)).read p (some names)
            { settings with projectColumns := true } = .ok (out, lines) →
          (StoredFile.mk file (.table table)).read p (some names)
              { settings with projectColumns := false } = .ok (whole, linesWhole) →
            out.length = whole.length ∧
              ∀ (i : Nat) b cut, whole[i]? = some b → out[i]? = some cut →
                b.CutTo (names ++ p.requiredColumns) cut := by
  have hwanted : ∀ name, name ∈ Sorted.ofList (p.requiredColumns ++ names) ↔
      name ∈ names ++ p.requiredColumns := by
    intro name
    rw [Sorted.mem_ofList, List.mem_append, List.mem_append, or_comm]
  have hfields : ∀ path ∈ p.fields, path.root ∈ Sorted.ofList (p.requiredColumns ++ names) := by
    intro path hpath
    rw [hwanted, List.mem_append]
    exact .inr (Predicate.root_mem_requiredColumns hpath)
  simp only [← hwanted] at hleft
  have hall := selectAll_pieces_restrict hfields hleft settings.parallelThreshold
    settings.batchSize
  have hoff : ∀ whole, (∃ lines, (StoredFile.mk file (.table table)).read p (some names)
      { settings with projectColumns := false } = .ok (whole, lines)) ↔
        selectAll settings.parallelThreshold p (table.pieces settings.batchSize) = .ok whole :=
    fun whole => read_unprojected rfl
  constructor
  · rw [Prod.exists, Prod.exists, exists_congr fun _ => read_cut, exists_congr hoff, hall]
    cases selectAll settings.parallelThreshold p (table.pieces settings.batchSize) <;>
      simp only [Except.map, reduceCtorEq, exists_false, Except.ok.injEq, exists_eq']
  · intro out lines whole linesWhole hout hwhole
    have hcut := read_cut.mp ⟨lines, hout⟩
    rw [hall, (hoff whole).mp ⟨linesWhole, hwhole⟩, Except.map, Except.ok.injEq] at hcut
    rw [← hcut]
    refine ⟨List.length_map _, fun i b cut hb hcuti => ?_⟩
    rw [List.getElem?_map, hb, Option.map_some, Option.some.injEq] at hcuti
    rw [← hcuti]
    -- The names were sorted first, which makes no difference.
    exact (b.cutTo_restrict _).congr hwanted

/-- A shelf that is asked for a name it lacks, and for another one twice. The
    author stays as well, because the predicate needs it. -/
theorem read_projected_shelf :
    (∃ name ∈ shelf.schema.names, name ∈ ["title", "genre", "title"] ++ authored.requiredColumns) ∧
      ∃ cut lines linesWhole,
        (StoredFile.mk "shelf" (.table shelf)).read authored (some ["title", "genre", "title"])
            { projectColumns := true } = .ok ([cut], lines) ∧
          (StoredFile.mk "shelf" (.table shelf)).read authored (some ["title", "genre", "title"])
            { projectColumns := false } =
              .ok ([⟨shelf.schema, shelf.rows.take 1⟩], linesWhole) ∧
          Batch.CutTo (["title", "genre", "title"] ++ authored.requiredColumns)
            ⟨shelf.schema, shelf.rows.take 1⟩ cut := by
  have hname : ∃ name ∈ shelf.schema.names,
      name ∈ ["title", "genre", "title"] ++ authored.requiredColumns :=
    ⟨"title", by decide, by decide⟩
  have hpieces : shelf.pieces 8192 = [shelf] := by
    cbv
  have hselect : selectAll 4 authored (shelf.pieces 8192) =
      .ok [⟨shelf.schema, shelf.rows.take 1⟩] := by
    rw [hpieces]
    rfl
  have hoff : ∃ linesWhole, (StoredFile.mk "shelf" (.table shelf)).read authored
      (some ["title", "genre", "title"]) { projectColumns := false } =
        .ok ([⟨shelf.schema, shelf.rows.take 1⟩], linesWhole) := readTable_eq_ok.mpr hselect
  rcases hoff with ⟨linesWhole, hwhole⟩
  have h := read_projected "shelf" shelf authored ["title", "genre", "title"] {} (.inr hname)
  rcases h.1.mpr ⟨_, hwhole⟩ with ⟨⟨out, lines⟩, hout⟩
  rcases h.2 out lines _ linesWhole hout hwhole with ⟨hlength, hcut⟩
  rcases List.length_eq_one_iff.mp hlength with ⟨cut, rfl⟩
  exact ⟨hname, cut, lines, linesWhole, hout, hwhole, hcut 0 _ cut rfl rfl⟩

end RowSieve
