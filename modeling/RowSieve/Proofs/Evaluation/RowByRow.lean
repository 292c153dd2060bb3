import RowSieve.Proofs.Attempt
import RowSieve.Proofs.Evaluation.Meaning

/-!
# Masks Row by Row

Evaluation works on whole columns. It looks a column up once, converts it as a
whole, and combines masks of full length, so nothing in it says that rows do
not influence each other. Here they are shown not to: a mask has one slot for
each row, and the slot holds what the predicate means on that row alone.

The way up follows the evaluator. A path finds in a row what the column of the
path holds there, a missing record included. A leaf then treats the cells of
that column one by one. The connectives fold masks, starting from a mask that
changes nothing, and a fold of masks is in every slot the fold of that slot.

## Theorems

* `Row.at?_of_place`: A place reads from a row what the path finds there.
* `Batch.column_eq_ok`: The cells of a column, row by row.
* `Batch.compared_eq_ok`: A comparison, row by row.
* `Batch.equalsOneOf_eq_ok`: A list of constants, row by row.
* `Batch.evaluate_eq_ok`: A predicate, row by row.
* `Batch.evaluate_slot`: The slots of a mask are the meanings of the rows.
-/

namespace RowSieve

namespace Row

variable {s : Schema}

/-- Reading through a field found by its name is reading by the name. The
    recursion is that of the schema, which is defined together with the types
    and has no induction of its own. -/
theorem value?_of_field? : ∀ {s : Schema} {name : String} {f : Field s},
    s.field? name = some f → ∀ row : Row s, row.value? name = (f.read row).map (⟨f.type, ·⟩)
  | .empty, _, _, h, _ => by
      simp only [Schema.field?, reduceCtorEq] at h
  | .column n type rest, name, f, h, row => by
      simp only [Schema.field?] at h
      by_cases hn : n = name
      · rw [if_pos hn, Option.some.injEq] at h
        rw [value?, if_pos hn, ← h]
        rfl
      · rw [if_neg hn, Option.map_eq_some_iff] at h
        rcases h with ⟨g, hg, h⟩
        rw [value?, if_neg hn, ← h]
        exact value?_of_field? hg row.2

/-- A field of a record reads from a row what the record there holds under its
    name. A row without the record has nothing to read. -/
theorem field?_of_within {relation name : String} {f : Field s} {place : Place s}
    (h : f.within relation name = .ok place) (row : Row s) :
    ((f.read row).map (⟨f.type, ·⟩)).bind (Value.field? name) =
      (place.read row).map (⟨place.type, ·⟩) := by
  rcases f with ⟨type, slot⟩
  cases type with
  -- Only records have fields, so every other type was an error.
  | record fields =>
      simp only [Field.within] at h
      rcases hinner : fields.field? name with _ | inner
      · simp only [hinner, reduceCtorEq] at h
      · simp only [hinner, Except.ok.injEq] at h
        subst h
        have hcell : ((slot row).part inner.slot).cell? = (slot row).cell?.bind inner.read :=
          (slot row).cell?_part inner.slot
        refine Eq.trans ?_ (congrArg (Option.map (Value.mk inner.type)) hcell).symm
        -- Behind a missing record nothing is read on either side.
        simp only [Field.read]
        cases (slot row).cell? with
        | none => rfl
        | some record =>
            simp only [Option.map_some, Option.bind_some, Value.field?]
            exact value?_of_field? hinner record
  | _ => simp only [Field.within, reduceCtorEq] at h

/-- A place reads from a row what its path finds there. -/
theorem at?_of_place {path : FieldPath} {place : Place s} (h : s.place path = .ok place)
    (row : Row s) : row.at? path = (place.read row).map (⟨place.type, ·⟩) := by
  unfold Schema.place at h
  -- A path goes straight to a column, or through the records of one.
  rcases hr : path.relation with _ | relation
  · simp only [hr] at h
    rcases hf : s.field? path.name with _ | f
    · simp only [hf, reduceCtorEq] at h
    · simp only [hf, Except.ok.injEq] at h
      subst h
      simp only [at?, hr, value?_of_field? hf]
  · simp only [hr] at h
    rcases hf : s.field? relation with _ | f
    · simp only [hf, reduceCtorEq] at h
    · simp only [hf] at h
      simp only [at?, hr, value?_of_field? hf]
      exact field?_of_within h row

end Row

namespace Truth

/-- A list of constants folded into a mask slot, from any slot on. -/
theorem foldl_or (t : Truth) (ts : List Truth) : ts.foldl Truth.or t = t.or (anyOf ts) := by
  induction ts generalizing t with
  | nil => cases t <;> rfl
  | cons u ts ih => rw [List.foldl_cons, ih, or_assoc, or_anyOf]

end Truth

namespace Mask

/-- Slots of two masks that belong to the same row are combined. -/
theorem or_map {α : Type} (xs : List α) (f g : α → Truth) :
    Mask.or (xs.map f) (xs.map g) = xs.map fun x => (f x).or (g x) := by
  rw [Mask.or, List.zipWith_map, List.zipWith_self]

theorem and_map {α : Type} (xs : List α) (f g : α → Truth) :
    Mask.and (xs.map f) (xs.map g) = xs.map fun x => (f x).and (g x) := by
  rw [Mask.and, List.zipWith_map, List.zipWith_self]

theorem not_map {α : Type} (xs : List α) (f : α → Truth) :
    Mask.not (xs.map f) = xs.map fun x => (f x).not := by
  rw [Mask.not, List.map_map]
  rfl

theorem length_constant (rows : Nat) (t : Truth) : (constant rows t).length = rows :=
  List.length_replicate

/-- A constant mask has the same slot for every row. -/
theorem constant_eq_map {α : Type} (xs : List α) (t : Truth) :
    Mask.constant xs.length t = xs.map fun _ => t := by
  rw [Mask.constant, List.map_const']

end Mask

namespace Batch

/-- The cells of a column, row by row: what the place of the path reads. -/
theorem column_eq_ok {b : Batch} {path : FieldPath} {c : Column} (h : b.column path = .ok c) :
    ∃ place, b.schema.place path = .ok place ∧ c = ⟨place.type, b.rows.map place.read⟩ := by
  rw [column, bind_eq_ok] at h
  rcases h with ⟨place, hplace, h⟩
  by_cases hnull : place.type.hasMask = false ∧ b.rows.any place.lacksRecord
  · rw [if_pos hnull] at h
    simp only [reduceCtorEq] at h
  · rw [if_neg hnull, Except.ok.injEq] at h
    exact ⟨place, hplace, h.symm⟩

/-- A comparison, row by row. -/
theorem compared_eq_ok {b : Batch} {how : Comparison} {path : FieldPath} {l : Literal} {m : Mask}
    (h : b.compared how path l = .ok m) : m = b.rows.map (Row.compared · how path l) := by
  rw [compared, bind_eq_ok] at h
  rcases h with ⟨c, hc, h⟩
  rcases column_eq_ok hc with ⟨place, hplace, rfl⟩
  unfold Column.compared at h
  cases horder : place.type.order l with
  | error why => simp only [horder, reduceCtorEq] at h
  | ok order =>
      simp only [horder, Except.ok.injEq, List.map_map] at h
      -- The value of a row is ordered to the literal as its cell is.
      have hcell : (Value.order? · l) ∘ (fun cell => ⟨place.type, cell⟩) = order := by
        funext cell
        simp only [Function.comp_apply, Value.order?, horder]
      rw [← h]
      refine List.map_congr_left fun row _ => ?_
      rw [Row.compared, Row.at?_of_place hplace, Option.bind_map, hcell, Function.comp_apply]

/-- A list of constants, row by row. Each constant adds its comparison to the
    slots that are there. -/
theorem equalsOneOf_eq_ok {b : Batch} {path : FieldPath} {ls : List Literal}
    {f : Row b.schema → Truth} {m : Mask} (h : b.equalsOneOf path (b.rows.map f) ls = .ok m) :
    m = b.rows.map fun row => (ls.map (row.compared .equal path)).foldl Truth.or (f row) := by
  induction ls generalizing f with
  | nil =>
      simp only [equalsOneOf, Except.ok.injEq] at h
      rw [← h]
      rfl
  | cons l ls ih =>
      -- The slots that are there take in the comparison, and the rest of the
      -- list goes on from the result.
      rw [equalsOneOf, bind_eq_ok] at h
      rcases h with ⟨n, hn, h⟩
      rw [compared_eq_ok hn, Mask.or_map] at h
      rw [ih h]
      rfl

/-- The disjunction over a list of constants, row by row. -/
theorem oneOf_eq_ok {b : Batch} {path : FieldPath} {ls : List Literal} {m : Mask}
    (h : b.equalsOneOf path (.constant b.size .failed) ls = .ok m) :
    m = b.rows.map fun row => Truth.anyOf (ls.map (row.compared .equal path)) := by
  -- The first slots have failed everywhere, which leaves a disjunction alone.
  rw [size, Mask.constant_eq_map] at h
  rw [equalsOneOf_eq_ok h]
  refine List.map_congr_left fun row _ => ?_
  rw [Truth.foldl_or, Truth.failed_or]

/-- The text form of a column, row by row. -/
theorem texts_eq_ok {b : Batch} {path : FieldPath} {c : Column}
    {texts : List (Option (List Char))} (hc : b.column path = .ok c)
    (h : c.texts path = .ok texts) : texts = b.rows.map (Row.text? · path) := by
  rcases column_eq_ok hc with ⟨place, hplace, rfl⟩
  rw [Column.texts, bind_eq_ok] at h
  rcases h with ⟨form, hform, h⟩
  -- Where a cell has a text form, it is that of the value.
  have hcells : texts = (b.rows.map place.read).map fun cell =>
      (cell.map (⟨place.type, ·⟩)).bind (Value.text? path) := by
    refine mapM_eq_ok (fun cell t ht => ?_) h
    cases cell with
    | none =>
        simp only [Except.ok.injEq] at ht
        rw [← ht]
        rfl
    | some x =>
        simp only at ht hform
        simp only [Option.map_some, Option.bind_some, Value.text?, hform, ht, Except.toOption,
          Option.join_some]
  rw [hcells, List.map_map]
  refine List.map_congr_left fun row _ => ?_
  rw [Row.text?, Row.at?_of_place hplace, Function.comp_apply]

/-- The lower-case form of a column of text, row by row. -/
theorem lowered_eq_ok {b : Batch} {path : FieldPath} {c : Column}
    {texts : List (Option (List Char))} (hc : b.column path = .ok c)
    (h : c.lowered path = .ok texts) :
    texts = b.rows.map fun row => (row.string? path).map Text.lowercase := by
  rcases column_eq_ok hc with ⟨⟨⟨type, slot⟩, lacks⟩, hplace, rfl⟩
  cases type with
  | text layout =>
      simp only [Column.lowered, Except.ok.injEq, List.map_map] at h
      rw [← h]
      refine List.map_congr_left fun row _ => ?_
      simp only [Function.comp_apply, Row.string?, Row.at?_of_place hplace, Option.bind_map,
        Field.read]
      cases (slot row).cell? <;> rfl
  | _ => simp only [Column.lowered, reduceCtorEq] at h

mutual

/-- A predicate, row by row. The cases are those of the evaluator: leaves read
    a column, and each connective treats slots of masks that are already known
    row by row. -/
theorem evaluate_eq_ok {b : Batch} : ∀ {p : Predicate} {m : Mask},
    b.evaluate p = .ok m → m = b.rows.map (Row.truth · p)
  | .compare how path l, m, h => by
      rw [evaluate] at h
      exact compared_eq_ok h
  | .oneOf path ls, m, h => by
      rw [evaluate] at h
      exact oneOf_eq_ok h
  | .noneOf path ls, m, h => by
      rw [evaluate, bind_eq_ok] at h
      rcases h with ⟨n, hn, h⟩
      rw [Except.ok.injEq] at h
      rw [← h, oneOf_eq_ok hn, Mask.not_map]
      rfl
  -- Whether a field is present is asked of the column, and so of the place
  -- that the path leads to, which may lack a whole record.
  | .isNull path, m, h => by
      rw [evaluate, bind_eq_ok] at h
      rcases h with ⟨c, hc, h⟩
      rcases column_eq_ok hc with ⟨place, hplace, rfl⟩
      rw [Except.ok.injEq, List.map_map] at h
      rw [← h]
      refine List.map_congr_left fun row _ => ?_
      rw [Row.truth, Row.at?_of_place hplace, Option.isNone_map, Function.comp_apply]
  | .isNotNull path, m, h => by
      rw [evaluate, bind_eq_ok] at h
      rcases h with ⟨c, hc, h⟩
      rcases column_eq_ok hc with ⟨place, hplace, rfl⟩
      rw [Except.ok.injEq, List.map_map] at h
      rw [← h]
      refine List.map_congr_left fun row _ => ?_
      rw [Row.truth, Row.at?_of_place hplace, Option.isSome_map, Function.comp_apply]
  -- Text conditions convert the column first, and the conversion can fail.
  | .like path pattern, m, h => by
      rw [evaluate, bind_eq_ok] at h
      rcases h with ⟨c, hc, h⟩
      rw [bind_eq_ok] at h
      rcases h with ⟨texts, htexts, h⟩
      rw [Except.ok.injEq, texts_eq_ok hc htexts, List.map_map] at h
      rw [← h]
      rfl
  | .contains path needle, m, h => by
      rw [evaluate, bind_eq_ok] at h
      rcases h with ⟨c, hc, h⟩
      rw [bind_eq_ok] at h
      rcases h with ⟨texts, htexts, h⟩
      rw [Except.ok.injEq, lowered_eq_ok hc htexts, List.map_map] at h
      rw [← h]
      refine List.map_congr_left fun row _ => ?_
      rw [Row.truth, Function.comp_apply, Option.map_map]
      rfl
  -- The connectives: slots of masks that are known row by row.
  | .not inner, m, h => by
      rw [evaluate, bind_eq_ok] at h
      rcases h with ⟨n, hn, h⟩
      rw [Except.ok.injEq] at h
      rw [← h, evaluate_eq_ok hn, Mask.not_map]
      rfl
  | .and members, m, h => by
      -- The fold starts from a mask that is met everywhere and changes nothing.
      rw [evaluate, size, Mask.constant_eq_map] at h
      rw [evaluateAll_eq_ok h]
      refine List.map_congr_left fun row _ => ?_
      rw [Truth.met_and, Row.truth]
  | .always, m, h => by
      rw [evaluate, Except.ok.injEq, size, Mask.constant_eq_map] at h
      rw [← h]
      rfl

/-- The members of a conjunction, row by row, on top of the slots before
    them. -/
theorem evaluateAll_eq_ok {b : Batch} : ∀ {ps : List Predicate} {f : Row b.schema → Truth}
    {m : Mask}, b.evaluateAll (b.rows.map f) ps = .ok m →
      m = b.rows.map fun row => (f row).and (Truth.allOf (row.truths ps))
  | [], f, m, h => by
      rw [evaluateAll, Except.ok.injEq] at h
      rw [← h]
      refine List.map_congr_left fun row _ => ?_
      cases f row <;> rfl
  | p :: ps, f, m, h => by
      -- One member more: its mask joins the slots, and the rest is as before.
      rw [evaluateAll, bind_eq_ok] at h
      rcases h with ⟨n, hn, h⟩
      rw [evaluate_eq_ok hn, Mask.and_map] at h
      rw [evaluateAll_eq_ok h]
      refine List.map_congr_left fun row _ => ?_
      rw [Row.truths, Truth.and_assoc, Truth.and_allOf]

end

theorem length_of_evaluate {b : Batch} {p : Predicate} {m : Mask} (h : b.evaluate p = .ok m) :
    m.length = b.size := by
  rw [evaluate_eq_ok h, List.length_map, size]

/-- A mask has one slot for each row, and the slot holds what the predicate
    says about that row. So a slot depends on its own row alone: whatever other
    rows the same row stands among, its slot is the same. -/
theorem evaluate_slot (b : Batch) (p : Predicate) (m : Mask) (h : b.evaluate p = .ok m) :
    m.length = b.size ∧
      (∀ i (hi : i < b.rows.length), m[i]? = some (b.rows[i].truth p)) ∧
      ∀ (rows : List (Row b.schema)) (n : Mask), (Batch.mk b.schema rows).evaluate p = .ok n →
        ∀ i j : Nat, b.rows[i]? = rows[j]? → m[i]? = n[j]? := by
  have hm : m = b.rows.map (Row.truth · p) := evaluate_eq_ok h
  -- The length, the slots, and the slots of another batch with the same row.
  refine ⟨?_, ?_, ?_⟩
  · rw [hm, List.length_map, size]
  · intro i hi
    rw [hm, List.getElem?_map, List.getElem?_eq_getElem hi, Option.map_some]
  · intro rows n hn i j hij
    have hn' : n = rows.map (Row.truth · p) := evaluate_eq_ok hn
    rw [hm, hn', List.getElem?_map, List.getElem?_map, hij]

end Batch

/-- The numbers of two books. -/
def firstBook : Signed64 := ⟨1, by decide, by decide⟩

def secondBook : Signed64 := ⟨2, by decide, by decide⟩

/-- Two books, the second with neither a title nor an author. A name is left
    where its author would be. -/
def shelf : Batch where
  schema :=
    .column "id" (.integer ⟨true, .bits64⟩)
      (.column "title" (.text .plain)
        (.column "author"
          (.record (.column "id" (.integer ⟨true, .bits64⟩)
            (.column "name" (.text .plain) .empty)))
          .empty))
  rows :=
    [(.present firstBook, .present "Dune",
        .present (.present ⟨7, by decide, by decide⟩, .present "Frank", ()), ()),
     (.present secondBook, .missing none,
        .missing (some (.present ⟨8, by decide, by decide⟩, .present "Jane", ())), ())]

/-- Books that are not by Jane and have an id, a list without constants and a
    title in which to look for a letter. -/
def shelfQuestion : Predicate :=
  .and
    [.not (.oneOf (.join "author" "name") [.string "Jane"]),
     .not (.oneOf (.field "id") []),
     .compare .greater (.field "id") (.integer ⟨0, by decide, by decide⟩),
     .contains (.field "title") "d"]

/-- The missing author leaves the question open for the second book only. -/
theorem evaluate_slot_shelf :
    shelf.evaluate shelfQuestion = .ok [.met, .unknown] ∧
      [Truth.met, Truth.unknown].length = shelf.size ∧
      ∀ i (hi : i < shelf.rows.length),
        [Truth.met, Truth.unknown][i]? = some (shelf.rows[i].truth shelfQuestion) :=
  have h := Batch.evaluate_slot shelf shelfQuestion [.met, .unknown] rfl
  ⟨rfl, h.1, h.2.1⟩

end RowSieve
