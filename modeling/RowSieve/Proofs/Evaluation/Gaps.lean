import Mathlib.Data.List.Forall2
import RowSieve.Proofs.Evaluation.FirstFailure
import RowSieve.Proofs.Evaluation.RowByRow

/-!
# Gaps Filled In

A row that is settled stays settled when data that was missing turns up. That
is what an open condition is for: it stands for any verdict the missing data
might bring, so whatever is said in spite of it is said of every way to fill the
gaps.

The two conditions on presence are the exception, and they have to be. They are
settled by a gap. Every other leaf is open on one, and where there is a value it
looks at that value and not at what is missing elsewhere. A connective must then
not settle anything by itself. One slip, an open member of a conjunction taken
for a failed one under a negation, would be enough to take back a verdict.

A gap may be a cell or a whole record, and a record that is there may have gaps
of its own. No leaf reads a record as a value, so records with gaps filled in
are not told apart. The same holds of what stands in runs and unions.

## Main definitions

* `Schema.FilledIn`, `ColumnType.FilledIn`: Some gaps of a row or cell are
  filled.
* `Value.FilledIn`, `Value.Remains`: The same for values, and for what a path
  finds.
* `Truth.RefinedBy`: What is settled is settled in the same way.
* `Predicate.IgnoresPresence`: No leaf asks whether a field is there.

## Theorems

* `Row.at?_remains`: A path finds what it found before.
* `Row.truth_refined`: A predicate says of a row what it said before.
* `Batch.evaluate_filledIn`: The same for the slots of masks.
-/

namespace RowSieve

mutual

/-- The second cell is the first one with gaps filled in. A missing cell may
    become any cell, a record stays one, and every other value stays the same.
    A value in runs or in a union has to stay there, with whatever gaps it has. -/
def ColumnType.FilledIn : (type : ColumnType) → Option type.Cell → Option type.Cell → Prop
  | .record fields, cell, filled => ∀ r : Row fields, cell = some r →
    ∃ r' : Row fields, filled = some r' ∧ fields.FilledIn r r'
  | .runs _ _, cell, filled | .union _ _, cell, filled => cell.isSome → filled.isSome
  | _, cell, filled => ∀ x, cell = some x → filled = some x

/-- The second row is the first one with gaps filled in. -/
def Schema.FilledIn : (s : Schema) → Row s → Row s → Prop
  | .empty, _, _ => True
  | .column _ type rest, row, filled =>
    type.FilledIn row.1.cell? filled.1.cell? ∧ rest.FilledIn row.2 filled.2

end

/-- A gap may become anything. -/
theorem ColumnType.filledIn_none (type : ColumnType) (filled : Option type.Cell) :
    type.FilledIn none filled := by
  cases type with
  | runs | union => exact fun h => Bool.noConfusion h
  | _ => exact fun _ h => nomatch h

mutual

/-- No gap has to be filled. -/
theorem ColumnType.filledIn_refl : ∀ (type : ColumnType) (cell : Option type.Cell),
    type.FilledIn cell cell
  | .record fields, _ => fun r h => ⟨r, h, fields.filledIn_refl r⟩
  | .boolean, _ | .integer _, _ | .float64, _ | .text _, _ | .dictionary, _ | .binary, _
  | .null, _ | .date32, _ | .date64, _ | .timestamp _ _, _ => fun _ h => h
  | .runs _ _, _ | .union _ _, _ => fun h => h

theorem Schema.filledIn_refl : ∀ (s : Schema) (row : Row s), s.FilledIn row row
  | .empty, _ => trivial
  | .column _ type rest, row => ⟨type.filledIn_refl row.1.cell?, rest.filledIn_refl row.2⟩

end

namespace Value

/-- The second value is the first one with gaps filled in. Records have gaps,
    and what stands in runs and unions may have some. -/
inductive FilledIn : Value → Value → Prop where
  | same (v : Value) : FilledIn v v
  | record {fields : Schema} {r r' : Row fields} (h : fields.FilledIn r r') :
    FilledIn ⟨.record fields, r⟩ ⟨.record fields, r'⟩
  | runs {name : String} {values : ColumnType} (x y : (ColumnType.runs name values).Cell) :
    FilledIn ⟨.runs name values, x⟩ ⟨.runs name values, y⟩
  | union {name : String} {alternatives : Schema}
    (x y : (ColumnType.union name alternatives).Cell) :
    FilledIn ⟨.union name alternatives, x⟩ ⟨.union name alternatives, y⟩

/-- If there is a value at first, it is there in the end, with gaps filled in. -/
def Remains (found found' : Option Value) : Prop :=
  ∀ v, found = some v → ∃ v', found' = some v' ∧ v.FilledIn v'

theorem Remains.refl (found : Option Value) : Remains found found :=
  fun v h => ⟨v, h, .same v⟩

/-- What remains leads on to what remains. -/
theorem Remains.bind {found found' : Option Value} {next : Value → Option Value}
    (h : Remains found found') (hnext : ∀ v v', v.FilledIn v' → Remains (next v) (next v')) :
    Remains (found.bind next) (found'.bind next) := by
  intro w hw
  rcases Option.bind_eq_some_iff.mp hw with ⟨v, hv, hnextv⟩
  rcases h v hv with ⟨v', hv', hfilled⟩
  rcases hnext v v' hfilled w hnextv with ⟨w', hw', hfilled'⟩
  exact ⟨w', Option.bind_eq_some_iff.mpr ⟨v', hv', hw'⟩, hfilled'⟩

/-- A cell that is there remains. -/
theorem remains_of_cell {type : ColumnType} {cell filled : Option type.Cell}
    (h : type.FilledIn cell filled) : Remains (cell.map (⟨type, ·⟩)) (filled.map (⟨type, ·⟩)) := by
  intro v hv
  rcases Option.map_eq_some_iff.mp hv with ⟨x, hx, rfl⟩
  cases type with
  | record fields =>
      rcases h x hx with ⟨r', hr', hfilled⟩
      exact ⟨⟨.record fields, r'⟩, Option.map_eq_some_iff.mpr ⟨r', hr', rfl⟩, .record hfilled⟩
  | runs name values =>
      rcases Option.isSome_iff_exists.mp (h (Option.isSome_iff_exists.mpr ⟨x, hx⟩)) with ⟨y, hy⟩
      exact ⟨_, Option.map_eq_some_iff.mpr ⟨y, hy, rfl⟩, .runs x y⟩
  | union name alternatives =>
      rcases Option.isSome_iff_exists.mp (h (Option.isSome_iff_exists.mpr ⟨x, hx⟩)) with ⟨y, hy⟩
      exact ⟨_, Option.map_eq_some_iff.mpr ⟨y, hy, rfl⟩, .union x y⟩
  | _ => exact ⟨_, Option.map_eq_some_iff.mpr ⟨x, h x hx, rfl⟩, .same _⟩

section Reading

variable {v v' : Value}

/-- What may have gaps has no order to any literal, so they do not matter there. -/
theorem FilledIn.order? (h : v.FilledIn v') (l : Literal) : v.order? l = v'.order? l := by
  cases h with
  | same => rfl
  | record | runs | union => cases l <;> rfl

/-- Nor has it a text form. -/
theorem FilledIn.text? (h : v.FilledIn v') (path : FieldPath) :
    v.text? path = v'.text? path := by
  cases h <;> rfl

theorem FilledIn.string? (h : v.FilledIn v') : v.string? = v'.string? := by
  cases h <;> rfl

end Reading

end Value

namespace Row

open Value (Remains)

/-- The value under a name remains. The recursion is that of the schema. -/
theorem value?_remains : ∀ {s : Schema} {row filled : Row s} (name : String),
    s.FilledIn row filled → Remains (row.value? name) (filled.value? name)
  | .empty, _, _, _, _ => nofun
  | .column n type rest, row, filled, name, h => by
      rw [value?, value?]
      by_cases hn : n = name
      · rw [if_pos hn, if_pos hn]
        exact Value.remains_of_cell h.1
      · rw [if_neg hn, if_neg hn]
        exact value?_remains name h.2

variable {s : Schema} {row filled : Row s}

/-- The value at a path remains. -/
theorem at?_remains (h : s.FilledIn row filled) (path : FieldPath) :
    Remains (row.at? path) (filled.at? path) := by
  rw [at?, at?]
  cases path.relation with
  | none => exact value?_remains path.name h
  | some relation =>
      refine (value?_remains relation h).bind fun v v' hv => ?_
      -- The path goes on through a record, which may have had gaps of its own.
      cases hv with
      | same | runs | union => exact .refl _
      | record hrecord => exact value?_remains path.name hrecord

end Row

namespace Truth

/-- The second says what the first says, unless the first is open. -/
def RefinedBy (t u : Truth) : Prop := t = .unknown ∨ u = t

instance (t u : Truth) : Decidable (t.RefinedBy u) := inferInstanceAs (Decidable (_ ∨ _))

namespace RefinedBy

variable {t u t' u' : Truth}

theorem refl (t : Truth) : t.RefinedBy t := .inr rfl

/-- A negation is settled by what settles its inside. -/
theorem not (h : t.RefinedBy u) : t.not.RefinedBy u.not := by
  rcases h with rfl | rfl
  · exact .inl rfl
  · exact .refl _

/-- A conjunction may be settled by one member alone, which then stays. -/
theorem and (h : t.RefinedBy u) (h' : t'.RefinedBy u') : (t.and t').RefinedBy (u.and u') := by
  rcases h with rfl | rfl <;> rcases h' with rfl | rfl
  · exact .inl rfl
  · cases u <;> cases u' <;> decide
  · cases u <;> cases u' <;> decide
  · exact .refl _

/-- And so may a disjunction. -/
theorem or (h : t.RefinedBy u) (h' : t'.RefinedBy u') : (t.or t').RefinedBy (u.or u') := by
  rcases h with rfl | rfl <;> rcases h' with rfl | rfl
  · exact .inl rfl
  · cases u <;> cases u' <;> decide
  · cases u <;> cases u' <;> decide
  · exact .refl _

/-- A list of alternatives is a disjunction of its members. -/
theorem anyOf_map {α : Type} {f g : α → Truth} (h : ∀ x, (f x).RefinedBy (g x)) (xs : List α) :
    (anyOf (xs.map f)).RefinedBy (anyOf (xs.map g)) := by
  induction xs with
  | nil => exact .refl _
  | cons x xs ih =>
      rw [List.map_cons, List.map_cons, ← or_anyOf, ← or_anyOf]
      exact (h x).or ih

/-- A verdict on what is read from a value is open without the value, and
    otherwise stays. -/
theorem ofVerdict {α : Type} {found found' : Option Value} (h : Value.Remains found found')
    {read : Value → Option α} (hread : ∀ {v v'}, Value.FilledIn v v' → read v = read v')
    (judge : α → Bool) :
    (Truth.ofVerdict ((found.bind read).map judge)).RefinedBy
      (Truth.ofVerdict ((found'.bind read).map judge)) := by
  cases found with
  | none => exact .inl rfl
  | some v =>
      rcases h v rfl with ⟨v', rfl, hfilled⟩
      rw [Option.bind_some, Option.bind_some, hread hfilled]
      exact .refl _

end RefinedBy

end Truth

/-- No leaf asks whether a field is there. -/
def Predicate.IgnoresPresence (p : Predicate) : Prop :=
  ∀ path, .isNull path ∉ p.leaves ∧ .isNotNull path ∉ p.leaves

namespace Row

variable {s : Schema} {row filled : Row s}

theorem compared_refined (h : s.FilledIn row filled) (how : Comparison) (path : FieldPath)
    (l : Literal) : (row.compared how path l).RefinedBy (filled.compared how path l) :=
  .ofVerdict (at?_remains h path) (fun hv => hv.order? l) how.holds

mutual

/-- A predicate says of a row what it said before its gaps were filled in. The
    cases are those of the predicate: leaves read what remains, and connectives
    pass on what is settled. -/
theorem truth_refined (h : s.FilledIn row filled) : ∀ {p : Predicate}, p.IgnoresPresence →
    (row.truth p).RefinedBy (filled.truth p)
  | .compare how path l, _ => by
      rw [truth, truth]
      exact compared_refined h how path l
  | .oneOf path ls, _ => by
      rw [truth, truth]
      exact .anyOf_map (compared_refined h .equal path) ls
  | .noneOf path ls, _ => by
      rw [truth, truth]
      exact (Truth.RefinedBy.anyOf_map (compared_refined h .equal path) ls).not
  -- These two are settled by a gap, and excluded.
  | .isNull path, hp => absurd List.mem_cons_self (hp path).1
  | .isNotNull path, hp => absurd List.mem_cons_self (hp path).2
  | .like path pattern, _ => by
      rw [truth, truth, text?, text?]
      exact .ofVerdict (at?_remains h path) (fun hv => hv.text? path) _
  | .contains path needle, _ => by
      rw [truth, truth, string?, string?]
      exact .ofVerdict (at?_remains h path) (fun hv => hv.string?) _
  | .not inner, hp => by
      rw [truth, truth]
      exact (truth_refined h (p := inner) hp).not
  | .and members, hp => by
      rw [truth, truth]
      exact truths_refined h hp
  | .always, _ => .refl _

/-- The members of a conjunction, all together. -/
theorem truths_refined (h : s.FilledIn row filled) : ∀ {ps : List Predicate},
    (∀ path, .isNull path ∉ Predicate.leavesOfAll ps ∧
      .isNotNull path ∉ Predicate.leavesOfAll ps) →
    (Truth.allOf (row.truths ps)).RefinedBy (Truth.allOf (filled.truths ps))
  | [], _ => .refl _
  | p :: ps, hps => by
      simp only [Predicate.leavesOfAll, List.mem_append, not_or] at hps
      rw [truths, truths, ← Truth.and_allOf, ← Truth.and_allOf]
      exact (truth_refined h fun path => ⟨(hps path).1.1, (hps path).2.1⟩).and
        (truths_refined h fun path => ⟨(hps path).1.2, (hps path).2.2⟩)

end

end Row

/-- Whatever is settled on a row stays settled in the same way when gaps of the
    row are filled in, cells and whole records, with whatever fits the column.
    The predicate must not ask for gaps, and it must have a mask before and
    after. -/
theorem Batch.evaluate_filledIn {s : Schema} {rows filled : List (Row s)}
    (h : List.Forall₂ s.FilledIn rows filled) (p : Predicate) (hp : p.IgnoresPresence)
    (m n : Mask) (hm : (Batch.mk s rows).evaluate p = .ok m)
    (hn : (Batch.mk s filled).evaluate p = .ok n) :
    ∀ (i : Nat) (t : Truth), m[i]? = some t → t ≠ .unknown → n[i]? = some t := by
  intro i t ht hsettled
  rw [evaluate_eq_ok hm, List.getElem?_map] at ht
  rcases Option.map_eq_some_iff.mp ht with ⟨row, hrow, rfl⟩
  rcases List.getElem?_eq_some_iff.mp hrow with ⟨hi, rfl⟩
  have hi' : i < filled.length := h.length_eq ▸ hi
  rw [evaluate_eq_ok hn, List.getElem?_map, List.getElem?_eq_getElem hi', Option.map_some,
    Option.some.injEq]
  rcases Row.truth_refined (h.get hi hi') hp with hopen | hsame
  · exact absurd hopen hsettled
  · exact hsame

/-- A book without an author is taken to be by Jane, an author without an id. -/
def byJane : Row shelf.schema → Row shelf.schema
  | (id, title, .missing _, rest) =>
    (id, title, .present (.missing none, .present "Jane", ()), rest)
  | row => row

/-- What was said of the first book is still said, and the question that was
    open for the second one is settled, with its title still missing. -/
theorem evaluate_filledIn_shelf :
    List.Forall₂ shelf.schema.FilledIn shelf.rows (shelf.rows.map byJane) ∧
      shelfQuestion.IgnoresPresence ∧
      shelf.evaluate shelfQuestion = .ok [.met, .unknown] ∧
      (Batch.mk shelf.schema (shelf.rows.map byJane)).evaluate shelfQuestion = .ok [.met, .failed] ∧
      ∀ (i : Nat) (t : Truth), [Truth.met, .unknown][i]? = some t → t ≠ .unknown →
        [Truth.met, .failed][i]? = some t := by
  have hfilled : List.Forall₂ shelf.schema.FilledIn shelf.rows (shelf.rows.map byJane) :=
    .cons (shelf.schema.filledIn_refl _)
      (.cons ⟨ColumnType.filledIn_refl _ _, ColumnType.filledIn_none _ _,
        ColumnType.filledIn_none _ _, trivial⟩ .nil)
  have hasks : shelfQuestion.IgnoresPresence := by
    intro path
    simp only [shelfQuestion, Predicate.leaves, Predicate.leavesOfAll, List.append_nil,
      List.cons_append, List.nil_append, List.mem_cons, List.not_mem_nil, reduceCtorEq, or_self,
      not_false_eq_true, and_self]
  have hbefore : (Batch.mk shelf.schema shelf.rows).evaluate shelfQuestion =
      .ok [.met, .unknown] := rfl
  have hafter : (Batch.mk shelf.schema (shelf.rows.map byJane)).evaluate shelfQuestion =
      .ok [.met, .failed] := rfl
  exact ⟨hfilled, hasks, hbefore, hafter,
    Batch.evaluate_filledIn hfilled shelfQuestion hasks _ _ hbefore hafter⟩

end RowSieve
