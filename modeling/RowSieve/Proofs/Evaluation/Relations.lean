import RowSieve.Proofs.Evaluation.Shortcuts
import RowSieve.Proofs.Predicate.Renaming
import RowSieve.Proofs.Table.Columns

/-!
# Relations as Columns of Their Own

A path through a relation asks for a field of the records in a column. The
fields of these records could as well stand in the table itself, each as a
column, with a gap where the field is missing and where the whole record is.
Then a path through the relation is a path to a column, and a predicate that
stays within the relation says the same of both tables.

What could go wrong is a record that is missing. Whatever is asked of its
fields has to come out as it does for a field without a value: unknown for a
comparison and for what is built from one, null where that is the question. The
values left behind in its fields must not be seen. The flat table has no such
values, only gaps, so that no predicate tells the two tables apart means that
none sees them. `Batch.evaluate_renamed` reduces the matter to single columns,
for every predicate at once. It compares results and not errors, since an error
names its path.

One thing does go wrong. A field whose type keeps no mask stands in the flat
table without trouble, since its gaps are gaps among its values. Behind a
missing record it would need a mask, and evaluation fails. A list without
constants looks for no column, so it alone does not fail there.

## Main definitions

* `Predicate.asked`: The paths whose columns are looked for.
* `FieldPath.inner`: A path within the relation.
* `Batch.child?`: A field of a relation, as a column.
* `Batch.HasGap`: A record of a relation is missing.
* `Batch.Flattens`: A batch has the fields of a relation as columns.
* `Batch.records`: The records of a relation as rows.

## Theorems

* `Batch.evaluate_renamed`: Columns with other paths, in another batch.
* `Batch.exists_column_of_evaluate`: Success finds every column asked for.
* `Batch.flattens_records`: The records of a relation flatten it.
* `Batch.Flattens.column_eq`: A field of the relation is a column of the flat
  batch.
* `Batch.evaluate_flattened`: Predicates and filters on relations.
-/

namespace RowSieve

namespace Predicate

mutual

/-- The paths whose columns are looked for. A list without constants looks for
    none. -/
def asked : Predicate → List FieldPath
  | .compare _ path _ => [path]
  | .oneOf path values => if values.isEmpty then [] else [path]
  | .noneOf path values => if values.isEmpty then [] else [path]
  | .isNull path => [path]
  | .isNotNull path => [path]
  | .like path _ => [path]
  | .contains path _ => [path]
  | .not inner => asked inner
  | .and members => askedOfAll members
  | .always => []

/-- The paths whose columns the members look for. -/
def askedOfAll : List Predicate → List FieldPath
  | [] => []
  | p :: ps => asked p ++ askedOfAll ps

end

mutual

theorem mem_fields_of_mem_asked {path : FieldPath} : ∀ p : Predicate,
    path ∈ p.asked → path ∈ p.fields
  | .compare .., h | .isNull _, h | .isNotNull _, h | .like .., h | .contains .., h => h
  | .oneOf _ [], h | .noneOf _ [], h => absurd h List.not_mem_nil
  | .oneOf _ (_ :: _), h | .noneOf _ (_ :: _), h => h
  | .not inner, h => mem_fields_of_mem_asked inner h
  | .and members, h => mem_fieldsOfAll_of_mem_askedOfAll members h
  | .always, h => h

theorem mem_fieldsOfAll_of_mem_askedOfAll {path : FieldPath} : ∀ ps : List Predicate,
    path ∈ askedOfAll ps → path ∈ fieldsOfAll ps
  | [], h => h
  | p :: ps, h => by
      rw [askedOfAll, List.mem_append] at h
      rw [fieldsOfAll, List.mem_append]
      exact h.imp (mem_fields_of_mem_asked p) (mem_fieldsOfAll_of_mem_askedOfAll ps)

end

end Predicate

/-- The path within the relation, from the record that stands there. -/
def FieldPath.inner (path : FieldPath) : FieldPath := .field path.name

section OtherPaths

variable {path other : FieldPath}

/-- The path is only named in errors. -/
theorem ColumnType.toOption_textForm (type : ColumnType) :
    (type.textForm path).toOption = (type.textForm other).toOption := by
  cases type with
  | timestamp unit zone =>
      cases zone with
      | none => rfl
      | some zone => simp only [textForm]
  | _ => rfl

namespace Column

variable (c : Column)

theorem toOption_compared (how : Comparison) (l : Literal) :
    (c.compared path how l).toOption = (c.compared other how l).toOption := by
  unfold compared
  cases c.type.order l <;> rfl

theorem toOption_texts : (c.texts path).toOption = (c.texts other).toOption := by
  unfold texts
  rw [toOption_bind, toOption_bind, c.type.toOption_textForm]

theorem toOption_lowered : (c.lowered path).toOption = (c.lowered other).toOption := by
  rcases c with ⟨type, cells⟩
  cases type <;> rfl

end Column

end OtherPaths

section Records

variable {s : Schema}

/-- The records that a field reads from some rows, a missing one as the row in
    which every value is missing. A field of another type leaves nothing of the
    rows but their number. -/
def Field.records (f : Field s) (rows : List (Row s)) : Batch :=
  match f with
  | ⟨.record fields, slot⟩ =>
    ⟨fields, (rows.map fun row => (slot row).cell?).map fun record : Option (Row fields) =>
      record.getD (Row.blank fields)⟩
  | _ => ⟨.empty, rows.map fun _ => ()⟩

theorem Field.size_records (f : Field s) (rows : List (Row s)) :
    (f.records rows).size = rows.length := by
  rcases f with ⟨type, read⟩
  cases type with
  | record fields => exact (List.length_map _).trans (List.length_map _)
  | _ => exact List.length_map _

/-- The columns of the records are the fields of the column they stand in. -/
theorem Field.columns_records (f : Field s) {rows : List (Row s)}
    {fields : List (String × Column)}
    (h : Column.fields? ⟨f.type, rows.map f.read⟩ = some fields) :
    (f.records rows).columns = fields := by
  rcases f with ⟨type, read⟩
  cases type with
  | record inner => exact Option.some.inj h
  | _ => simp only [Column.fields?, reduceCtorEq] at h

end Records

namespace Batch

section Renamed

variable {b c : Batch} {g : FieldPath → FieldPath}

theorem compared_renamed {path : FieldPath}
    (h : (b.column path).toOption = (c.column (g path)).toOption) (how : Comparison)
    (l : Literal) : (b.compared how path l).toOption = (c.compared how (g path) l).toOption := by
  unfold compared
  rw [toOption_bind, toOption_bind, h]
  exact Option.bind_congr fun column _ => column.toOption_compared how l

theorem equalsOneOf_renamed {path : FieldPath}
    (h : (b.column path).toOption = (c.column (g path)).toOption) (ls : List Literal) (m : Mask) :
    (b.equalsOneOf path m ls).toOption = (c.equalsOneOf (g path) m ls).toOption := by
  induction ls generalizing m with
  | nil => rfl
  | cons l ls ih =>
      rw [equalsOneOf, equalsOneOf, toOption_bind, toOption_bind, compared_renamed h]
      exact Option.bind_congr fun n _ => ih (m.or n)

/-- A list without constants looks for no column, and any other for this one. -/
theorem oneOf_renamed {path : FieldPath} {ls : List Literal} (hsize : b.size = c.size)
    (h : ∀ other ∈ (Predicate.oneOf path ls).asked,
      (b.column other).toOption = (c.column (g other)).toOption) :
    (b.equalsOneOf path (.constant b.size .failed) ls).toOption =
      (c.equalsOneOf (g path) (.constant c.size .failed) ls).toOption := by
  rw [hsize]
  cases ls with
  | nil => rfl
  | cons l ls => exact equalsOneOf_renamed (h path (List.mem_singleton.mpr rfl)) _ _

mutual

/-- A predicate has the same mask on another batch with its columns at other
    paths. Leaves see their column alone, and the connectives see only masks. -/
theorem evaluate_renamed (hsize : b.size = c.size) : ∀ {p : Predicate},
    (∀ path ∈ p.asked, (b.column path).toOption = (c.column (g path)).toOption) →
      (b.evaluate p).toOption = (c.evaluate (p.renamed g)).toOption
  | .compare how path l, h => by
      rw [Predicate.asked, List.forall_mem_singleton] at h
      rw [Predicate.renamed, evaluate, evaluate]
      exact compared_renamed h how l
  | .oneOf path ls, h => by
      rw [Predicate.renamed, evaluate, evaluate]
      exact oneOf_renamed hsize h
  | .noneOf path ls, h => by
      rw [Predicate.renamed, evaluate, evaluate, toOption_bind, toOption_bind,
        oneOf_renamed hsize h]
  | .isNull path, h | .isNotNull path, h => by
      rw [Predicate.asked, List.forall_mem_singleton] at h
      rw [Predicate.renamed, evaluate, evaluate, toOption_bind, toOption_bind, h]
  | .like path pattern, h => by
      rw [Predicate.asked, List.forall_mem_singleton] at h
      rw [Predicate.renamed, evaluate, evaluate, toOption_bind, toOption_bind, h]
      -- Whether a column has a text form depends on its type, not on where it stands.
      refine Option.bind_congr fun column _ => ?_
      rw [toOption_bind, toOption_bind, column.toOption_texts]
  | .contains path needle, h => by
      rw [Predicate.asked, List.forall_mem_singleton] at h
      rw [Predicate.renamed, evaluate, evaluate, toOption_bind, toOption_bind, h]
      refine Option.bind_congr fun column _ => ?_
      rw [toOption_bind, toOption_bind, column.toOption_lowered]
  | .not inner, h => by
      rw [Predicate.asked] at h
      rw [Predicate.renamed, evaluate, evaluate, toOption_bind, toOption_bind,
        evaluate_renamed hsize h]
  | .and members, h => by
      rw [Predicate.asked] at h
      rw [Predicate.renamed, evaluate, evaluate, hsize]
      exact evaluateAll_renamed hsize h _
  | .always, _ => by
      rw [Predicate.renamed, evaluate, evaluate, hsize]

theorem evaluateAll_renamed (hsize : b.size = c.size) : ∀ {ps : List Predicate},
    (∀ path ∈ Predicate.askedOfAll ps,
      (b.column path).toOption = (c.column (g path)).toOption) →
      ∀ m, (b.evaluateAll m ps).toOption =
        (c.evaluateAll m (Predicate.allRenamed g ps)).toOption
  | [], _, _ => rfl
  | p :: ps, h, m => by
      rw [Predicate.askedOfAll, List.forall_mem_append] at h
      -- A member without a mask ends both conjunctions, so masks meet masks.
      rw [Predicate.allRenamed, evaluateAll, evaluateAll, toOption_bind, toOption_bind,
        evaluate_renamed hsize h.1]
      exact Option.bind_congr fun n _ => evaluateAll_renamed hsize h.2 (m.and n)

end

end Renamed

section Asked

variable {b : Batch}

theorem exists_column_of_compared {how : Comparison} {path : FieldPath} {l : Literal} {m : Mask}
    (h : b.compared how path l = .ok m) : ∃ c, b.column path = .ok c := by
  rw [compared, bind_eq_ok] at h
  exact h.imp fun c hc => hc.1

theorem exists_column_of_equalsOneOf {path : FieldPath} {l : Literal} {ls : List Literal}
    {m n : Mask} (h : b.equalsOneOf path m (l :: ls) = .ok n) : ∃ c, b.column path = .ok c := by
  rw [equalsOneOf, bind_eq_ok] at h
  rcases h with ⟨_, hcompared, -⟩
  exact exists_column_of_compared hcompared

mutual

/-- Where a predicate has a mask, every column it asks for was found. -/
theorem exists_column_of_evaluate : ∀ {p : Predicate} {m : Mask}, b.evaluate p = .ok m →
    ∀ path ∈ p.asked, ∃ c, b.column path = .ok c
  | .compare how path l, m, h => by
      rw [evaluate] at h
      exact List.forall_mem_singleton.mpr (exists_column_of_compared h)
  | .oneOf path [], _, _ | .noneOf path [], _, _ => fun _ hpath => absurd hpath List.not_mem_nil
  | .oneOf path (l :: ls), m, h => by
      rw [evaluate] at h
      exact List.forall_mem_singleton.mpr (exists_column_of_equalsOneOf h)
  | .noneOf path (l :: ls), m, h => by
      rw [evaluate, bind_eq_ok] at h
      rcases h with ⟨n, hn, -⟩
      exact List.forall_mem_singleton.mpr (exists_column_of_equalsOneOf hn)
  | .isNull path, m, h | .isNotNull path, m, h | .like path _, m, h | .contains path _, m, h => by
      rw [evaluate, bind_eq_ok] at h
      exact List.forall_mem_singleton.mpr (h.imp fun c hc => hc.1)
  | .not inner, m, h => by
      rw [evaluate, bind_eq_ok] at h
      rcases h with ⟨n, hn, -⟩
      rw [Predicate.asked]
      exact exists_column_of_evaluate hn
  | .and members, m, h => by
      rw [evaluate] at h
      exact exists_column_of_evaluateAll h
  | .always, _, _ => fun _ hpath => absurd hpath List.not_mem_nil

theorem exists_column_of_evaluateAll : ∀ {ps : List Predicate} {m n : Mask},
    b.evaluateAll m ps = .ok n → ∀ path ∈ Predicate.askedOfAll ps, ∃ c, b.column path = .ok c
  | [], _, _, _ => fun _ hpath => absurd hpath List.not_mem_nil
  | p :: ps, m, n, h => by
      rw [evaluateAll, bind_eq_ok] at h
      rcases h with ⟨k, hk, hrest⟩
      rw [Predicate.askedOfAll, List.forall_mem_append]
      exact ⟨exists_column_of_evaluate hk, exists_column_of_evaluateAll hrest⟩

end

end Asked

/-- The first field of a name in the first relation of a name, as a column. It
    has a gap wherever the field is missing or the whole record is. -/
def child? (b : Batch) (relation name : String) : Option Column :=
  (b.columns.lookup relation).bind fun c => c.fields?.bind fun fields => fields.lookup name

/-- A record of the first relation of a name is missing in some row. -/
def HasGap (b : Batch) (relation : String) : Prop :=
  ∃ c, b.columns.lookup relation = some c ∧ none ∈ c.cells

/-- The batch has as many rows as the other one, and every field of the relation
    as the first column of its name. -/
structure Flattens (flat b : Batch) (relation : String) : Prop where
  size : b.size = flat.size
  column : ∀ name inner, b.child? relation name = some inner →
    flat.columns.lookup name = some inner

/-- The records of a relation as rows of their own. A missing record becomes a
    row in which every value is missing. -/
def records (b : Batch) (relation : String) : Batch :=
  match b.schema.field? relation with
  | some f => f.records b.rows
  | none => ⟨.empty, b.rows.map fun _ => ()⟩

theorem flattens_records (b : Batch) (relation : String) :
    (b.records relation).Flattens b relation := by
  unfold records
  rcases hf : b.schema.field? relation with _ | f
  · refine ⟨(List.length_map _).symm, fun name inner hinner => ?_⟩
    -- Without a column there are no fields.
    unfold child? columns at hinner
    rw [lookup_columnsOf, hf, Option.map_none, Option.bind_none] at hinner
    cases hinner
  · refine ⟨(f.size_records b.rows).symm, fun name inner hinner => ?_⟩
    unfold child? columns at hinner
    rw [lookup_columnsOf, hf, Option.map_some, Option.bind_some] at hinner
    rcases Option.bind_eq_some_iff.mp hinner with ⟨fields, hfields, hinner⟩
    simp only []
    rw [f.columns_records hfields]
    exact hinner

section Flattened

variable {b flat : Batch} {relation name : String} {inner : Column}

/-- In the flat batch a field of the relation is found at the path within. At
    its own path it is found as well, unless a record is missing and the field
    has no mask to say so. -/
theorem Flattens.column_eq (hflat : flat.Flattens b relation)
    (hinner : b.child? relation name = some inner) :
    flat.column (.field name) = .ok inner ∧
      ((b.HasGap relation → inner.type.hasMask = true) →
        b.column (.join relation name) = .ok inner) ∧
      (b.HasGap relation → inner.type.hasMask = false →
        b.column (.join relation name) = .error (.column (.noMask inner.type))) := by
  rw [b.column_eq, flat.column_eq]
  have hflatColumn := hflat.column name inner hinner
  unfold child? at hinner
  rcases Option.bind_eq_some_iff.mp hinner with ⟨c, hc, hinner⟩
  rcases Option.bind_eq_some_iff.mp hinner with ⟨fields, hfields, hinner⟩
  have hgap : b.HasGap relation ↔ c.gaps.any id = true := by
    unfold HasGap Column.gaps
    simp only [hc, Option.some.injEq, exists_eq_left', List.any_map, List.any_eq_true,
      Function.id_comp, Option.isNone_iff_eq_none, exists_eq_right]
  unfold columnAt FieldPath.join FieldPath.field
  simp only [hc, hflatColumn, true_and]
  unfold Column.field
  simp only [hfields, hinner, hgap]
  constructor
  · intro hmask
    refine if_neg fun h => ?_
    rw [hmask h.2] at h
    exact Bool.noConfusion h.1
  · exact fun hmissing hmask => if_pos ⟨hmask, hmissing⟩

/-- A predicate that stays within the relation has a mask exactly if it has one
    on the flat batch, and no column it asks for has to take on gaps without a
    mask. It is then the same mask. -/
theorem Flattens.evaluate_eq_ok_iff (hflat : flat.Flattens b relation) {p : Predicate}
    (h : ∀ path ∈ p.fields, ∃ name inner, path = .join relation name ∧
      b.child? relation name = some inner) (m : Mask) :
    b.evaluate p = .ok m ↔ flat.evaluate (p.renamed FieldPath.inner) = .ok m ∧
      (b.HasGap relation → ∀ path ∈ p.asked, ∀ inner,
        b.child? relation path.name = some inner → inner.type.hasMask = true) := by
  have hfound : ∀ path ∈ p.asked, ∃ name inner, path = .join relation name ∧
      b.child? relation name = some inner :=
    fun path hpath => h path (p.mem_fields_of_mem_asked hpath)
  -- Under the condition the columns asked for are the same, so the masks are.
  have hsame : (b.HasGap relation → ∀ path ∈ p.asked, ∀ inner,
      b.child? relation path.name = some inner → inner.type.hasMask = true) →
        (b.evaluate p).toOption = (flat.evaluate (p.renamed FieldPath.inner)).toOption := by
    intro hmasks
    refine evaluate_renamed hflat.size fun path hpath => ?_
    rcases hfound path hpath with ⟨name, inner, rfl, hinner⟩
    rcases hflat.column_eq hinner with ⟨hbeside, hwithin, -⟩
    change (b.column (.join relation name)).toOption = (flat.column (.field name)).toOption
    rw [hwithin fun hgap => hmasks hgap _ hpath inner hinner, hbeside]
  constructor
  · intro hm
    -- Every column asked for was found, which one without a mask is not.
    have hmasks : b.HasGap relation → ∀ path ∈ p.asked, ∀ inner,
        b.child? relation path.name = some inner → inner.type.hasMask = true := by
      intro hgap path hpath inner hinner
      rcases hfound path hpath with ⟨name, other, rfl, -⟩
      rcases exists_column_of_evaluate hm _ hpath with ⟨c, hc⟩
      cases hmask : inner.type.hasMask with
      | true => rfl
      | false =>
          have hfails : b.column (.join relation name) = .error (.column (.noMask inner.type)) :=
            (hflat.column_eq hinner).2.2 hgap hmask
          rw [hfails] at hc
          cases hc
    refine ⟨?_, hmasks⟩
    rw [← toOption_eq_some_iff, ← hsame hmasks, toOption_eq_some_iff]
    exact hm
  · rintro ⟨hm, hmasks⟩
    rw [← toOption_eq_some_iff, hsame hmasks, toOption_eq_some_iff]
    exact hm

/-- Where a path leads to a column a mask can be applied. -/
theorem width_of_column {path : FieldPath} {c : Column} (h : b.column path = .ok c) :
    b.schema.width ≠ 0 := by
  rcases column_eq_ok h with ⟨place, hplace, -⟩
  exact Schema.width_ne_zero_of_place hplace

end Flattened

/-- A relation behaves like columns of the table, as far as its fields can take
    on its gaps. The records of a relation are a batch with its fields as
    columns, and on each such batch a predicate on fields of the relation, each
    path replaced by the path within, has a mask if it has one on the batch with
    the relation, and it is the same mask. The converse fails exactly if a
    record is missing and a column is asked for whose type keeps no mask. A
    filter on any other field of the relation and the filter on the column keep
    the rows of one mask, or both fail. -/
theorem evaluate_flattened (b : Batch) (relation : String) :
    (b.records relation).Flattens b relation ∧
    ∀ flat : Batch, flat.Flattens b relation →
      (∀ p : Predicate,
        (∀ path ∈ p.fields, ∃ name inner, path = .join relation name ∧
          b.child? relation name = some inner) →
        ∀ m, b.evaluate p = .ok m ↔ flat.evaluate (p.renamed FieldPath.inner) = .ok m ∧
          (b.HasGap relation → ∀ path ∈ p.asked, ∀ inner,
            b.child? relation path.name = some inner → inner.type.hasMask = true)) ∧
      ∀ (kind : Filter.Kind) (f : Option (Filter kind)) (name : String) (inner : Column),
        b.child? relation name = some inner →
        (b.HasGap relation → inner.type.hasMask = true) →
        ∃ m? : Option Mask,
          (b.select (predicateOf (.join relation name) f)).toOption = m?.map b.keep ∧
          (flat.select (predicateOf (.field name) f)).toOption = m?.map flat.keep := by
  refine ⟨b.flattens_records relation, fun flat hflat =>
    ⟨fun p hp m => hflat.evaluate_eq_ok_iff hp m, ?_⟩⟩
  intro kind f name inner hinner hmask
  rcases hflat.column_eq hinner with ⟨hbeside, hwithin, -⟩
  -- The filter asks about this one field, so its mask is the same.
  have hpath : ∀ path ∈ (predicateOf (.join relation name) f).asked, path = .join relation name :=
    fun path h => eq_of_mem_fields_predicateOf (Predicate.mem_fields_of_mem_asked _ h)
  have hsame : (b.evaluate (predicateOf (.join relation name) f)).toOption =
      (flat.evaluate ((predicateOf (.join relation name) f).renamed FieldPath.inner)).toOption := by
    refine evaluate_renamed hflat.size fun path h => ?_
    rw [hpath path h]
    change (b.column (.join relation name)).toOption = (flat.column (.field name)).toOption
    rw [hwithin hmask, hbeside]
  rw [renamed_predicateOf] at hsame
  have hinside : FieldPath.inner (.join relation name) = .field name := rfl
  rw [hinside] at hsame
  refine ⟨(b.evaluate (predicateOf (.join relation name) f)).toOption, ?_, ?_⟩
  · rw [select_eq_keep (width_of_column (hwithin hmask)), toOption_map]
  · rw [select_eq_keep (width_of_column hbeside), toOption_map, hsame]

end Batch

/-- Authors who are not called Jane, have a number and one with a 7 in it. -/
def authorAlone : Predicate :=
  .and
    [.not (.oneOf (.join "author" "name") [.string "Jane"]),
     .isNotNull (.join "author" "id"),
     .like (.join "author" "id") "%7%"]

/-- Any other name than Jane. -/
def notJane : Filter .string := Filter.empty.set .notEquals rfl "Jane"

/-- The author of the second book is missing, and what is left of one is called
    Jane. Of a row of nothing the same is said: it has no number, and its name
    is unknown. -/
theorem evaluate_flattened_shelf :
    shelf.records "author" =
        ⟨.column "id" (.integer ⟨true, .bits64⟩) (.column "name" (.text .plain) .empty),
          [(.present ⟨7, by decide, by decide⟩, .present "Frank", ()),
           (.missing none, .missing none, ())]⟩ ∧
      shelf.evaluate authorAlone = .ok [.met, .failed] ∧
      (shelf.records "author").evaluate (authorAlone.renamed FieldPath.inner) =
        .ok [.met, .failed] ∧
      ∃ m? : Option Mask,
        (shelf.select (predicateOf (.join "author" "name") (some notJane))).toOption =
            m?.map shelf.keep ∧
          ((shelf.records "author").select (predicateOf (.field "name") (some notJane))).toOption =
            m?.map (shelf.records "author").keep := by
  rcases Batch.evaluate_flattened shelf "author" with ⟨hrecords, hflattened⟩
  rcases hflattened _ hrecords with ⟨hpredicate, hfilter⟩
  have hfields : ∀ path ∈ authorAlone.fields, ∃ name inner, path = .join "author" name ∧
      shelf.child? "author" name = some inner := by
    have hauthor : authorAlone.fields =
        [.join "author" "name", .join "author" "id", .join "author" "id"] := rfl
    rw [hauthor, List.forall_mem_cons, List.forall_mem_cons, List.forall_mem_singleton]
    exact ⟨⟨"name", _, rfl, rfl⟩, ⟨"id", _, rfl, rfl⟩, ⟨"id", _, rfl, rfl⟩⟩
  exact ⟨rfl, rfl, ((hpredicate authorAlone hfields _).mp rfl).1,
    hfilter .string (some notJane) "name" _ rfl fun _ => rfl⟩

/-- Two books, the second without an author. The languages of the authors are
    stored in runs. -/
def translations : Batch where
  schema :=
    .column "author"
      (.record (.column "language" (.runs "RunEndEncoded" (.text .plain)) .empty)) .empty
  rows :=
    [(.present (.present "de", ()), ()), (.missing (some (.present "de", ())), ())]

/-- Whether the language is missing can be asked of the authors alone, and of
    the second row it is. Of the books it cannot be asked. -/
theorem language_of_missing_author :
    translations.evaluate (.isNull (.join "author" "language")) =
        .error (.column (.noMask (.runs "RunEndEncoded" (.text .plain)))) ∧
      (translations.records "author").Flattens translations "author" ∧
      (translations.records "author").evaluate (.isNull (.field "language")) =
        .ok [.failed, .met] :=
  ⟨rfl, Batch.flattens_records _ _, rfl⟩

end RowSieve
