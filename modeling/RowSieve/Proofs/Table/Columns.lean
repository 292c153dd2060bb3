import RowSieve.Evaluation.Column

/-!
# Batches as Lists of Columns

A batch is kept by rows. Whoever changes a table thinks of its columns instead:
one is added, dropped, moved or filled with other values, or the same happens to
a field of the records in one of them. To say that such a change goes unnoticed
the columns of a batch have to be at hand as things of their own, each with its
name and its cells.

`Batch.columns` is that list, and `columnAt` looks a path up in it. The first
column with a name is the one that is found, at the top and among the fields of
a relation alike. `Batch.column_eq` says that finding a column in the batch is
nothing else, failures included, so the list holds all that a path can see.

A change beside some names touches no column with one of them, except that it
may move it past a column with another name. All lookups of those names stay as
they were. A change beside some paths may also go into the records of a column,
as long as no path takes that column as a whole: the records have to be missing
in the same rows, and their fields may change beside those that a path asks for.

## Main definitions

* `Row.blank`: The row in which every value is missing.
* `columnsOf`, `Batch.columns`: The columns of some rows, and of a batch.
* `Column.gaps`: The rows in which a value is missing.
* `Column.fields?`: The fields of a column of records, as columns.
* `columnAt`: The column that a path leads to in a list of columns.
* `ChangedBeside`: A list of named things changed beside some names.
* `ColumnsChangedBeside`: A list of columns changed beside some paths.

## Theorems

* `lookup_columnsOf`: Looking for a column is looking for a field.
* `Batch.column_eq`: A path leads to a column of the list.
* `ChangedBeside.lookup_eq`: The names are looked up alike.
* `ColumnsChangedBeside.columnAt_eq`: The paths lead to the same columns.
-/

namespace RowSieve

/-- The row in which every value is missing. -/
def Row.blank : (s : Schema) → Row s
  | .empty => ()
  | .column _ _ rest => (.missing none, Row.blank rest)

/-- The columns of some rows, in order and each with its name. -/
def columnsOf : (s : Schema) → List (Row s) → List (String × Column)
  | .empty, _ => []
  | .column name type rest, rows =>
    (name, ⟨type, rows.map fun row => row.1.cell?⟩) :: columnsOf rest (rows.map fun row => row.2)

def Batch.columns (b : Batch) : List (String × Column) := columnsOf b.schema b.rows

namespace Column

/-- For each row whether its value is missing. -/
def gaps (c : Column) : List Bool := c.cells.map Option.isNone

/-- The fields of a column of records, as columns with a gap wherever the
    record is missing. -/
def fields? : Column → Option (List (String × Column))
  | ⟨.record fields, records⟩ =>
    some (columnsOf fields
      (List.map (fun record : Option (Row fields) => record.getD (Row.blank fields)) records))
  | _ => none

/-- A field of a column of records. -/
def field (relation name : String) (c : Column) : Except EvaluationError Column :=
  match c.fields? with
  | none => .error (.notARecord relation name)
  | some fields =>
    match fields.lookup name with
    | none => .error (.columnNotFound (.join relation name))
    | some inner =>
      if inner.type.hasMask = false ∧ c.gaps.any id then .error (.column (.noMask inner.type))
      else .ok inner

end Column

/-- The column that a path leads to in a list of columns. -/
def columnAt (columns : List (String × Column)) (path : FieldPath) :
    Except EvaluationError Column :=
  match path.relation with
  | none =>
    match columns.lookup path.name with
    | some c => .ok c
    | none => .error (.columnNotFound path)
  | some relation =>
    match columns.lookup relation with
    | some c => c.field relation path.name
    | none => .error (.columnNotFound (.field relation))

section Lookup

variable {α : Type} {name : String}

theorem lookup_cons_of_ne {n : String} (h : n ≠ name) (x : α) (xs : List (String × α)) :
    ((n, x) :: xs).lookup name = xs.lookup name := by
  have hkey : (name == n) = false := beq_eq_false_iff_ne.mpr fun heq => h heq.symm
  rw [List.lookup_cons, hkey]

/-- The first field of a name is the first column of the name. -/
theorem lookup_columnsOf : ∀ {s : Schema} (rows : List (Row s)) (name : String),
    (columnsOf s rows).lookup name = (s.field? name).map fun f => ⟨f.type, rows.map f.read⟩
  | .empty, _, _ => rfl
  | .column n type rest, rows, name => by
      simp only [columnsOf, Schema.field?]
      -- Another name is passed over on both sides.
      by_cases hn : n = name
      · rw [if_pos hn, hn, List.lookup_cons_self]
        rfl
      · rw [if_neg hn, lookup_cons_of_ne hn, lookup_columnsOf, Option.map_map]
        simp only [List.map_map]
        rfl

/-- A blank row has a value in no field. -/
theorem read_blank : ∀ {s : Schema} {name : String} {f : Field s},
    s.field? name = some f → f.read (Row.blank s) = none
  | .empty, _, _, h => by
      simp only [Schema.field?, reduceCtorEq] at h
  | .column n type rest, name, f, h => by
      simp only [Schema.field?] at h
      by_cases hn : n = name
      · rw [if_pos hn, Option.some.injEq] at h
        rw [← h]
        rfl
      · rw [if_neg hn, Option.map_eq_some_iff] at h
        rcases h with ⟨g, hg, h⟩
        rw [← h]
        change g.read (Row.blank rest) = none
        exact read_blank hg

/-- So a field of the records in a column has a gap where a record is missing. -/
theorem Column.field_record {fields : Schema} (relation name : String)
    (records : List (Option (ColumnType.record fields).Cell)) :
    Column.field relation name ⟨.record fields, records⟩ =
      match fields.field? name with
      | none => .error (.columnNotFound (.join relation name))
      | some f =>
        if f.type.hasMask = false ∧ records.any Option.isNone then
          .error (.column (.noMask f.type))
        else .ok ⟨f.type, records.map fun record => record.bind f.read⟩ := by
  unfold field fields?
  simp only [lookup_columnsOf]
  rcases hf : fields.field? name with _ | f
  · rfl
  · have hread : ∀ record : Option (Row fields),
        f.read (record.getD (Row.blank fields)) = record.bind f.read := by
      intro record
      cases record with
      | none => exact read_blank hf
      | some row => rfl
    have hcells : (List.map (fun record : Option (Row fields) =>
        record.getD (Row.blank fields)) records).map f.read =
          records.map fun record => record.bind f.read :=
      List.map_map.trans (List.map_congr_left fun record _ => hread record)
    simp only [Option.map_some, hcells, gaps, List.any_map, Function.id_comp]

end Lookup

namespace Batch

/-- The column of a path is found in the list of columns, or it is missing there
    for the same reason. -/
theorem column_eq (b : Batch) (path : FieldPath) : b.column path = columnAt b.columns path := by
  unfold column columnAt columns Schema.place
  cases path.relation with
  | none =>
      simp only [lookup_columnsOf]
      cases b.schema.field? path.name with
      | none => rfl
      | some f =>
          -- A field of the row itself is never behind a missing record.
          have hnever : ¬(f.type.hasMask = false ∧ b.rows.any (fun _ => false) = true) := by
            simp only [List.any_eq_true, Bool.false_eq_true, and_false, exists_false,
              not_false_eq_true]
          exact if_neg hnever
  | some relation =>
      simp only [lookup_columnsOf]
      rcases b.schema.field? relation with _ | ⟨type, slot⟩
      · rfl
      · cases type with
        | record fields =>
            refine Eq.trans ?_ (Column.field_record relation path.name
              (b.rows.map fun row => (slot row).cell?)).symm
            simp only [Field.within]
            cases fields.field? path.name with
            | none => rfl
            | some inner =>
                -- Behind two masks there is what is read through one and then the other.
                have hcells : b.rows.map (fun row => ((slot row).part inner.slot).cell?) =
                    b.rows.map fun row => (slot row).cell?.bind inner.read :=
                  List.map_congr_left fun row _ => (slot row).cell?_part inner.slot
                simp only [bind, Except.bind, List.any_map, List.map_map, Function.comp_def]
                exact ite_congr rfl (fun _ => rfl) fun _ =>
                  congrArg (fun cells => Except.ok (Column.mk inner.type cells)) hcells
        | _ => rfl

end Batch

section Changes

/-- A list of named things was changed beside the names that matter: others
    were added, removed or replaced, and neighbours of different names have
    changed places. -/
inductive ChangedBeside {α : Type} (matters : String → Prop) :
    List (String × α) → List (String × α) → Prop where
  | unchanged (xs : List (String × α)) : ChangedBeside matters xs xs
  | added (before after : List (String × α)) (name : String) (x : α) (h : ¬matters name) :
    ChangedBeside matters (before ++ after) (before ++ (name, x) :: after)
  | removed (before after : List (String × α)) (name : String) (x : α) (h : ¬matters name) :
    ChangedBeside matters (before ++ (name, x) :: after) (before ++ after)
  | replaced (before after : List (String × α)) (name : String) (x y : α) (h : ¬matters name) :
    ChangedBeside matters (before ++ (name, x) :: after) (before ++ (name, y) :: after)
  | swapped (before after : List (String × α)) (x y : String × α) (h : x.1 ≠ y.1) :
    ChangedBeside matters (before ++ x :: y :: after) (before ++ y :: x :: after)
  | further {xs ys zs : List (String × α)} :
    ChangedBeside matters xs ys → ChangedBeside matters ys zs → ChangedBeside matters xs zs

/-- A name that matters stands for the same thing after the change. -/
theorem ChangedBeside.lookup_eq {α : Type} {matters : String → Prop} {name : String}
    (hname : matters name) {xs ys : List (String × α)} (h : ChangedBeside matters xs ys) :
    xs.lookup name = ys.lookup name := by
  -- A thing that does not matter has another name, so it is passed over.
  have hother : ∀ {n : String}, ¬matters n → n ≠ name := by
    intro n hn heq
    rw [heq] at hn
    exact hn hname
  induction h with
  | unchanged xs => rfl
  | added before after n x hn | removed before after n x hn =>
      rw [List.lookup_append, List.lookup_append, lookup_cons_of_ne (hother hn)]
  | replaced before after n x y hn =>
      rw [List.lookup_append, List.lookup_append, lookup_cons_of_ne (hother hn),
        lookup_cons_of_ne (hother hn)]
  | swapped before after x y hxy =>
      rcases x with ⟨n, x⟩
      rcases y with ⟨k, y⟩
      rw [List.lookup_append, List.lookup_append]
      -- At most one of the two neighbours has the name.
      by_cases hn : n = name
      · have hk : k ≠ name := fun hk => hxy (hn.trans hk.symm)
        rw [hn, List.lookup_cons_self, lookup_cons_of_ne hk, List.lookup_cons_self]
      · by_cases hk : k = name
        · rw [hk, lookup_cons_of_ne hn, List.lookup_cons_self, List.lookup_cons_self]
        · simp only [lookup_cons_of_ne hn, lookup_cons_of_ne hk]
  | further _ _ ih ih' => exact ih.trans ih'

/-- A list of columns was changed beside some paths: beside the names from
    which they start, or inside a column of records that none of them takes as
    a whole. Inside, the records are still missing in the same rows, and their
    fields were changed beside those that the paths ask for. -/
inductive ColumnsChangedBeside (paths : List FieldPath) :
    List (String × Column) → List (String × Column) → Prop where
  | columns {xs ys : List (String × Column)}
      (h : ChangedBeside (fun name => ∃ path ∈ paths, path.root = name) xs ys) :
    ColumnsChangedBeside paths xs ys
  | fields (before after : List (String × Column)) (name : String) {c d : Column}
      {inner other : List (String × Column)} (hwhole : .field name ∉ paths)
      (hgaps : c.gaps = d.gaps) (hc : c.fields? = some inner) (hd : d.fields? = some other)
      (h : ChangedBeside (fun field => .join name field ∈ paths) inner other) :
    ColumnsChangedBeside paths (before ++ (name, c) :: after) (before ++ (name, d) :: after)
  | further {xs ys zs : List (String × Column)} :
    ColumnsChangedBeside paths xs ys → ColumnsChangedBeside paths ys zs →
      ColumnsChangedBeside paths xs zs

/-- Only the first column of the name from which a path starts is looked at. -/
theorem columnAt_congr {path : FieldPath} {xs ys : List (String × Column)}
    (h : xs.lookup path.root = ys.lookup path.root) : columnAt xs path = columnAt ys path := by
  unfold columnAt
  unfold FieldPath.root at h
  cases hr : path.relation with
  | none =>
      rw [hr, Option.getD_none] at h
      simp only [h]
  | some relation =>
      rw [hr, Option.getD_some] at h
      simp only [h]

/-- A field of a relation is the same if the relation is missing in the same
    rows and has the same first field of the name. -/
theorem Column.field_congr {relation name : String} {c d : Column}
    {inner other : List (String × Column)} (hgaps : c.gaps = d.gaps)
    (hc : c.fields? = some inner) (hd : d.fields? = some other)
    (hlookup : inner.lookup name = other.lookup name) :
    c.field relation name = d.field relation name := by
  unfold field
  rw [hc, hd, hgaps]
  simp only [hlookup]

/-- Each of the paths leads to the same column after the change, or is refused
    for the same reason. -/
theorem ColumnsChangedBeside.columnAt_eq {paths : List FieldPath} {path : FieldPath}
    (hpath : path ∈ paths) {xs ys : List (String × Column)}
    (h : ColumnsChangedBeside paths xs ys) : columnAt xs path = columnAt ys path := by
  induction h with
  | columns h => exact columnAt_congr (h.lookup_eq ⟨path, hpath, rfl⟩)
  | further _ _ ih ih' => exact ih.trans ih'
  | @fields before after name c d inner other hwhole hgaps hc hd h =>
      by_cases hname : name = path.root
      · rcases path with ⟨relation?, field⟩
        cases relation? with
        | none =>
            -- This path would take the column as a whole.
            rw [hname] at hwhole
            exact absurd hpath hwhole
        | some relation =>
            have hrelation : name = relation := hname
            subst hrelation
            have hfield : c.field name field = d.field name field :=
              Column.field_congr hgaps hc hd (h.lookup_eq hpath)
            unfold columnAt
            simp only [List.lookup_append, List.lookup_cons_self]
            -- An earlier column of the name hides the one that was changed.
            cases before.lookup name with
            | some e => rfl
            | none => exact hfield
      · refine columnAt_congr ?_
        rw [List.lookup_append, List.lookup_append, lookup_cons_of_ne hname,
          lookup_cons_of_ne hname]

end Changes

end RowSieve
