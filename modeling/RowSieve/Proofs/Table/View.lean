import RowSieve.Evaluation.Column
import RowSieve.Table.Row

/-!
# Views

What is left of a schema and of its rows when only some columns are wanted.
A view is computed along the schema, one column after the other, with the
wanted names becoming fewer. Seen from outside it is simpler: among the named
columns, those stay whose position is the first one of a wanted name, in the
order of the schema. `firstNamed` says that of any list of named things, and
it applies to the columns of a schema and to the slots of a row alike.

A view changes nothing for whoever asks for wanted names only. The column that
a path leads to is the same in the view, read through it, and it is missing
there for the same reason.

## Main definitions

* `Schema.columns`, `Row.slots`: A schema and a row as lists.
* `firstPositions`, `firstNamed`: The first thing with each of some names.
* `Batch.CutTo`: A batch was cut down to the first columns of some names.
* `Field.through`, `Place.through`: A field of a view, read from a whole row.

## Theorems

* `firstNamed_congr`: Only the set of the names matters.
* `Batch.cutTo_restrict`: A restricted batch is cut down to the wanted names.
* `Schema.place_view`: A wanted path leads to the same place in a view.
* `Batch.column_restrict`: A wanted column is the same in a restricted batch.
-/

namespace RowSieve

section Named

variable {α : Type}

/-- The positions at which one of the wanted names stands for the first time,
    from left to right. -/
def firstPositions (wanted names : List String) : List Nat :=
  (List.range names.length).filter fun i => wanted.any fun name => names.idxOf? name == some i

/-- The first of the things with each of the wanted names, in their order. -/
def firstNamed (wanted : List String) (xs : List (String × α)) : List (String × α) :=
  (firstPositions wanted (xs.map Prod.fst)).filterMap fun i => xs[i]?

/-- Neither the order of the names nor their repetition matters. -/
theorem firstNamed_congr {wanted other : List String} (h : ∀ name, name ∈ wanted ↔ name ∈ other)
    (xs : List (String × α)) : firstNamed wanted xs = firstNamed other xs := by
  have hany : ∀ f : String → Bool, wanted.any f = other.any f := by
    intro f
    rw [Bool.eq_iff_iff, List.any_eq_true, List.any_eq_true]
    exact exists_congr fun name => and_congr_left fun _ => h name
  simp only [firstNamed, firstPositions, hany]

/-- A name in front is the first of its kind, so it is not wanted again. All
    other names are found one position later. -/
theorem firstPositions_cons (wanted : List String) (n : String) (names : List String) :
    firstPositions wanted (n :: names) =
      if n ∈ wanted then 0 :: (firstPositions (wanted.filter (· ≠ n)) names).map Nat.succ
      else (firstPositions wanted names).map Nat.succ := by
  have hzero : (wanted.any fun name => (n :: names).idxOf? name == some 0) = decide (n ∈ wanted) := by
    rw [Bool.eq_iff_iff, List.any_eq_true, decide_eq_true_iff]
    constructor
    · rintro ⟨name, hname, hfirst⟩
      rw [List.idxOf?_cons] at hfirst
      by_cases hn : n = name
      · rw [hn]
        exact hname
      · rw [if_neg (by rw [beq_iff_eq]; exact hn), beq_iff_eq, Option.map_eq_some_iff] at hfirst
        rcases hfirst with ⟨i, -, hi⟩
        exact absurd hi (Nat.succ_ne_zero i)
    · intro hn
      refine ⟨n, hn, ?_⟩
      rw [List.idxOf?_cons, if_pos (beq_self_eq_true n), beq_self_eq_true]
  have hlater : ∀ i, (wanted.any fun name => (n :: names).idxOf? name == some (i + 1)) =
      (wanted.filter (· ≠ n)).any fun name => names.idxOf? name == some i := by
    intro i
    rw [List.any_filter]
    refine List.any_congr rfl fun name => ?_
    rw [List.idxOf?_cons]
    by_cases hn : n = name
    · simp only [hn, beq_self_eq_true, if_true, decide_not, decide_true, Bool.not_true,
        Bool.false_and, beq_eq_false_iff_ne, ne_eq, Option.some.injEq]
      omega
    · have hne : name ≠ n := fun h => hn h.symm
      rw [if_neg (by rw [beq_iff_eq]; exact hn), decide_eq_true hne, Bool.true_and]
      cases names.idxOf? name with
      | none => rfl
      | some j =>
          rw [Option.map_some, Bool.eq_iff_iff, beq_iff_eq, beq_iff_eq, Option.some.injEq,
            Option.some.injEq]
          omega
  rw [firstPositions, List.length_cons, List.range_succ_eq_map, List.filter_cons, hzero,
    List.filter_map]
  simp only [Function.comp_def, Nat.succ_eq_add_one, hlater]
  by_cases hn : n ∈ wanted
  · rw [if_pos hn, if_pos (decide_eq_true hn)]
    rfl
  · have hkeep : wanted.filter (· ≠ n) = wanted := by
      refine List.filter_eq_self.mpr fun name hname => decide_eq_true fun h => ?_
      rw [h] at hname
      exact hn hname
    rw [if_neg hn, if_neg (by rw [decide_eq_false hn]; exact Bool.false_ne_true), hkeep]
    rfl

theorem firstNamed_cons (wanted : List String) (x : String × α) (xs : List (String × α)) :
    firstNamed wanted (x :: xs) =
      if x.1 ∈ wanted then x :: firstNamed (wanted.filter (· ≠ x.1)) xs
      else firstNamed wanted xs := by
  rw [firstNamed, List.map_cons, firstPositions_cons]
  by_cases hx : x.1 ∈ wanted
  · rw [if_pos hx, if_pos hx, List.filterMap_cons, List.filterMap_map]
    rfl
  · rw [if_neg hx, if_neg hx, List.filterMap_map]
    rfl

end Named

/-- The columns of a schema with their names and types. -/
def Schema.columns : Schema → List (String × ColumnType)
  | .empty => []
  | .column name type rest => (name, type) :: rest.columns

/-- The slots of a row, each with the name and the type of its column. -/
def Row.slots : {s : Schema} → Row s → List (String × (type : ColumnType) × Slot type.Cell)
  | .empty, _ => []
  | .column name type _, row => (name, ⟨type, row.1⟩) :: Row.slots row.2

/-- A batch was cut down to the first columns of some names, and its rows with
    it. No row was lost, and their order is the same. -/
structure Batch.CutTo (wanted : List String) (b cut : Batch) : Prop where
  columns : cut.schema.columns = firstNamed wanted b.schema.columns
  rows : cut.rows.map Row.slots = b.rows.map fun row => firstNamed wanted row.slots

theorem Schema.columns_view : ∀ (s : Schema) (wanted : List String),
    (s.view wanted).schema.columns = firstNamed wanted s.columns
  | .empty, _ => rfl
  | .column name type rest, wanted => by
      rw [columns, firstNamed_cons, ← rest.columns_view, ← rest.columns_view, view]
      by_cases hname : name ∈ wanted
      · rw [if_pos hname, if_pos hname]
        rfl
      · rw [if_neg hname, if_neg hname]

theorem Row.slots_view : ∀ {s : Schema} (wanted : List String) (row : Row s),
    ((s.view wanted).row row).slots = firstNamed wanted row.slots
  | .empty, _, _ => rfl
  | .column name type rest, wanted, row => by
      rw [slots, firstNamed_cons, ← slots_view, ← slots_view, Schema.view]
      by_cases hname : name ∈ wanted
      · rw [if_pos hname, if_pos hname]
        rfl
      · rw [if_neg hname, if_neg hname]

theorem Batch.cutTo_restrict (b : Batch) (wanted : List String) :
    b.CutTo wanted (b.restrict wanted) where
  columns := b.schema.columns_view wanted
  rows := by
    rw [restrict, List.map_map]
    exact List.map_congr_left fun row _ => row.slots_view wanted

theorem Schema.width_of_mem_names {s : Schema} {name : String} (h : name ∈ s.names) :
    s.width ≠ 0 := by
  cases s with
  | empty => exact absurd h List.not_mem_nil
  | column n type rest => exact Nat.succ_ne_zero _

theorem Batch.CutTo.congr {wanted other : List String} {b cut : Batch} (h : b.CutTo wanted cut)
    (hnames : ∀ name, name ∈ wanted ↔ name ∈ other) : b.CutTo other cut where
  columns := h.columns.trans (firstNamed_congr hnames _)
  rows := h.rows.trans (List.map_congr_left fun row _ => firstNamed_congr hnames row.slots)

/-- A wanted name that the schema has keeps the view from being empty. -/
theorem Schema.width_view : ∀ {s : Schema} {wanted : List String} {name : String},
    name ∈ s.names → name ∈ wanted → (s.view wanted).schema.width ≠ 0
  | .empty, _, _, h, _ => absurd h List.not_mem_nil
  | .column n type rest, wanted, name, h, hwanted => by
      rw [view]
      by_cases hn : n ∈ wanted
      · rw [if_pos hn]
        exact Nat.succ_ne_zero _
      · rw [if_neg hn]
        rcases List.mem_cons.mp h with heq | hrest
        · rw [heq] at hwanted
          exact absurd hwanted hn
        · exact width_view hrest hwanted

section Through

variable {s : Schema}

/-- A field of a view, read from a whole row. -/
def Field.through (v : View s) (f : Field v.schema) : Field s where
  type := f.type
  slot := fun row => f.slot (v.row row)

/-- A place in a view, read from a whole row. -/
def Place.through (v : View s) (p : Place v.schema) : Place s where
  type := p.type
  slot := fun row => p.slot (v.row row)
  lacksRecord := fun row => p.lacksRecord (v.row row)

/-- A wanted name stands for the same field in a view. The wanted names become
    fewer along the schema, but never lose a name whose column is to come. -/
theorem Schema.field?_view : ∀ {s : Schema} {wanted : List String} {name : String},
    name ∈ wanted →
      s.field? name = ((s.view wanted).schema.field? name).map (Field.through (s.view wanted))
  | .empty, _, _, _ => rfl
  | .column n type rest, wanted, name, hwanted => by
      rw [view]
      by_cases hn : n ∈ wanted
      · rw [if_pos hn]
        simp only [field?]
        by_cases heq : n = name
        · rw [if_pos heq, if_pos heq]
          rfl
        · have hlater : name ∈ wanted.filter (· ≠ n) :=
            List.mem_filter.mpr ⟨hwanted, decide_eq_true fun h => heq h.symm⟩
          rw [if_neg heq, if_neg heq, field?_view hlater, Option.map_map, Option.map_map]
          rfl
      · have heq : n ≠ name := by
          intro h
          rw [h] at hn
          exact hn hwanted
        rw [if_neg hn]
        simp only [field?]
        rw [if_neg heq, field?_view hwanted, Option.map_map]
        rfl

theorem Field.within_through (relation name : String) (v : View s) (f : Field v.schema) :
    (f.through v).within relation name = (f.within relation name).map (Place.through v) := by
  rcases f with ⟨type, slot⟩
  cases type with
  | record fields =>
      simp only [through, within]
      cases fields.field? name <;> rfl
  | _ => rfl

/-- A path from a wanted name leads to the same place in a view, or is refused
    for the same reason. -/
theorem Schema.place_view {wanted : List String} {path : FieldPath} (h : path.root ∈ wanted) :
    s.place path = ((s.view wanted).schema.place path).map (Place.through (s.view wanted)) := by
  unfold place
  rw [FieldPath.root] at h
  cases hr : path.relation with
  | none =>
      rw [hr, Option.getD_none] at h
      simp only []
      rw [field?_view h]
      cases (s.view wanted).schema.field? path.name <;> rfl
  | some relation =>
      rw [hr, Option.getD_some] at h
      simp only []
      rw [field?_view h]
      cases (s.view wanted).schema.field? relation with
      | none => rfl
      | some f => exact Field.within_through relation path.name _ f

end Through

theorem Batch.column_restrict (b : Batch) {wanted : List String} {path : FieldPath}
    (h : path.root ∈ wanted) : (b.restrict wanted).column path = b.column path := by
  rw [column, column, Schema.place_view (s := b.schema) h, restrict]
  cases (b.schema.view wanted).schema.place path with
  | error e => rfl
  | ok place =>
      simp only [Except.map, bind, Except.bind, List.any_map, List.map_map]
      rfl

end RowSieve
