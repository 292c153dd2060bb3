import RowSieve.Proofs.Evaluation.Kept

/-!
# When a Condition Holds

What each of the twelve conditions asks of a row, said about the field and the
operand alone. Nothing here mentions predicates, literals or masks. A field is
a value of the operand's type or it is not, and a condition either holds of it
or does not: the third truth value is gone, because a condition on a missing
value does not hold.

How a value of a column is taken as a value of the operand's type is left to a
reading. The conditions agree with their predicates under every reading that
orders values as literals do, which is what `Reading.Agrees` asks.

## Main definitions

* `Reading`: A way to take values of columns as values of a scalar type.
* `Reading.Agrees`: It orders values as their literals do.
* `Reading.long`, `Reading.string`: The readings for numbers and for text.
* `Row.as?`: The field at a path as a value of the operand's type.
* `Condition.holds`: What a condition asks of a row.

## Theorems

* `Reading.long_agrees`, `Reading.string_agrees`: Both readings agree.
* `Row.isMet_compared`, `Row.isMet_not_compared_equal`: Comparisons by the
  order of the field to the operand.
* `Row.isMet_oneOf`, `Row.isMet_noneOf`: Lists of constants by membership.
* `Condition.holds_iff`: A condition holds exactly if its leaf is met.
* `Filter.holds_iff`: A filter is met exactly if its conditions hold.
-/

namespace RowSieve

/-- A way to take the values of columns as values of a scalar type. -/
abbrev Reading (s : Scalar) := Value → Option s.Value

namespace Reading

/-- A reading orders values as literals do, and equal means the same. -/
structure Agrees {s : Scalar} (read : Reading s) : Prop where
  order : ∀ w v, Value.order? w (s.literal v) = (read w).map (s.order · v)
  eq : ∀ x v : s.Value, s.order x v = .eq ↔ x = v

/-- The integer of a value, if 64 bits with a sign hold it. -/
def long : Reading .long
  | ⟨.integer _, n⟩ => Bounded.ofInt? (Bounded.val n)
  | _ => none

/-- The text of a value that is text. -/
def string : Reading .string
  | ⟨.text _, t⟩ => some t
  | _ => none

theorem long_agrees : long.Agrees where
  order w v := by
    -- Values of other types have neither an integer nor an order to one.
    rcases w with ⟨type, cell⟩
    cases type with
    | timestamp unit zone => cases zone <;> rfl
    | _ => rfl
  eq x v := by
    rcases x with ⟨x, _, _⟩
    rcases v with ⟨v, _, _⟩
    rw [Bounded.mk.injEq]
    exact Std.LawfulEqOrd.compare_eq_iff_eq (α := Int)

theorem string_agrees : string.Agrees where
  order w v := by
    rcases w with ⟨type, cell⟩
    cases type with
    | timestamp unit zone => cases zone <;> rfl
    | _ => rfl
  eq x v := Std.LawfulEqOrd.compare_eq_iff_eq (α := String)

end Reading

/-- The field at a path of a row, as a value of the operand's type. -/
def Row.as? {t : Schema} (row : Row t) (path : FieldPath) {s : Scalar} (read : Reading s) :
    Option s.Value :=
  (row.at? path).bind read

/-- What a condition asks of the field at a path of a row. Where a value is
    asked for, a missing one does not do, and an empty list asks for nothing. -/
def Condition.holds {t : Schema} (row : Row t) (path : FieldPath) {s : Scalar}
    (read : Reading s) : (c : Condition) → c.Operand s → Bool
  | .equals, v => (row.as? path read).any fun x => x = v
  | .notEquals, v => (row.as? path read).any fun x => x ≠ v
  | .specified, b => (row.at? path).isSome = b
  | .oneOf, vs => vs = [] ∨ (row.as? path read).any fun x => x ∈ vs
  | .noneOf, vs => vs = [] ∨ (row.as? path read).any fun x => x ∉ vs
  | .greaterThan, v => (row.as? path read).any fun x => s.order x v = .gt
  | .lessThan, v => (row.as? path read).any fun x => s.order x v = .lt
  | .greaterThanOrEqual, v => (row.as? path read).any fun x => s.order x v ≠ .lt
  | .lessThanOrEqual, v => (row.as? path read).any fun x => s.order x v ≠ .gt
  | .like, v =>
    (row.text? path).any (Text.Pattern.describes ('%' :: s.patternText v ++ ['%']))
  | .contains, needle =>
    (row.string? path).any fun t =>
      Text.occursIn (Text.lowercase needle.toList) (Text.lowercase t)
  | .doesNotContain, needle =>
    (row.string? path).any fun t =>
      !Text.occursIn (Text.lowercase needle.toList) (Text.lowercase t)

namespace Truth

theorem isMet_ofVerdict (o : Option Bool) : (ofVerdict o).isMet = o.any id := by
  rcases o with _ | _ | _ <;> rfl

theorem isMet_not_ofVerdict (o : Option Bool) : (ofVerdict o).not.isMet = o.any not := by
  rcases o with _ | _ | _ <;> rfl

theorem isMet_ofBool (b : Bool) : (ofBool b).isMet = b := by
  cases b <;> rfl

end Truth

section Comparisons

variable {t : Schema} (row : Row t) (path : FieldPath) {s : Scalar} {read : Reading s}

/-- A comparison is met exactly if the field, as a value of the operand's
    type, is ordered to the operand in the right way. -/
theorem Row.isMet_compared (hr : read.Agrees) (how : Comparison) (v : s.Value) :
    (row.compared how path (s.literal v)).isMet =
      (row.as? path read).any fun x => how.holds (s.order x v) := by
  rw [compared, as?, Truth.isMet_ofVerdict]
  cases row.at? path with
  | none => rfl
  | some w =>
      rw [Option.bind_some, Option.bind_some, hr.order]
      cases read w <;> rfl

/-- A comparison as a leaf: what is asked of the value is what the comparison
    says about its order to the operand. -/
theorem Row.any_iff_compare (hr : read.Agrees) (how : Comparison) (v : s.Value)
    {asked : s.Value → Bool} (hasked : ∀ x, asked x = how.holds (s.order x v)) :
    (row.as? path read).any asked = true ↔
      ∀ leaf, some (Predicate.compare how path (s.literal v)) = some leaf →
        (row.truth leaf).isMet = true := by
  simp only [Option.some.injEq, forall_eq', truth, row.isMet_compared path hr]
  rw [funext hasked]

/-- An equation is refuted exactly if the field is another value. -/
theorem Row.isMet_not_compared_equal (hr : read.Agrees) (v : s.Value) :
    (row.compared .equal path (s.literal v)).not.isMet =
      (row.as? path read).any fun x => x ≠ v := by
  rw [compared, as?, Truth.isMet_not_ofVerdict]
  cases row.at? path with
  | none => rfl
  | some w =>
      -- Without an order the comparison is open, and its negation is as well.
      rw [Option.bind_some, Option.bind_some, hr.order]
      cases read w with
      | none => rfl
      | some x =>
          simp only [Option.map_some, Option.any_some, Comparison.holds, ne_eq, ← hr.eq]
          cases s.order x v <;> rfl

/-- A list of constants is met exactly if the field is one of them. -/
theorem Row.isMet_oneOf (hr : read.Agrees) (vs : List s.Value) :
    (row.truth (.oneOf path (vs.map s.literal))).isMet =
      (row.as? path read).any fun x => x ∈ vs := by
  rw [truth, Truth.isMet_anyOf, List.map_map, List.any_map]
  -- The list is gone through with the field at hand, member by member.
  have heach : (Truth.isMet ∘ row.compared .equal path ∘ s.literal) =
      fun v => (row.as? path read).any fun x => x = v := by
    funext v
    simp only [Function.comp_apply, row.isMet_compared path hr, Comparison.holds, ← hr.eq]
    rfl
  rw [heach]
  cases row.as? path read with
  | none => exact List.any_eq_false.mpr fun _ _ => Bool.false_ne_true
  | some x =>
      rw [Bool.eq_iff_iff, List.any_eq_true]
      simp only [Option.any_some, decide_eq_true_eq, exists_eq_right']

/-- It is refuted exactly if the field is none of them. A list without
    constants does not even ask for a value. -/
theorem Row.isMet_noneOf (hr : read.Agrees) (v : s.Value) (vs : List s.Value) :
    (row.truth (.noneOf path ((v :: vs).map s.literal))).isMet =
      (row.as? path read).any fun x => x ∉ v :: vs := by
  rw [truth, Truth.isMet_not_anyOf, List.map_map, List.all_map]
  have heach : ((fun t : Truth => t.not.isMet) ∘ row.compared .equal path ∘ s.literal) =
      fun v => (row.as? path read).any fun x => x ≠ v := by
    funext v
    exact row.isMet_not_compared_equal path hr v
  rw [heach]
  cases row.as? path read with
  | none => simp only [Option.any_none, List.all_cons, Bool.false_and]
  | some x =>
      rw [Bool.eq_iff_iff, List.all_eq_true]
      simp only [Option.any_some, decide_eq_true_eq]
      exact List.forall_mem_ne

end Comparisons

/-- A condition holds exactly if the leaf it contributes is met. -/
theorem Condition.holds_iff {t : Schema} (row : Row t) (path : FieldPath) {s : Scalar}
    {read : Reading s} (hr : read.Agrees) (c : Condition) (v : c.Operand s) :
    c.holds row path read v = true ↔
      ∀ leaf, c.leaf? path v = some leaf → (row.truth leaf).isMet = true := by
  cases c with
  -- Comparisons differ in what they ask of the order alone.
  | equals =>
      refine row.any_iff_compare path hr .equal v fun x => ?_
      simp only [← hr.eq]
      cases s.order x v <;> rfl
  | notEquals =>
      refine row.any_iff_compare path hr .notEqual v fun x => ?_
      simp only [ne_eq, ← hr.eq]
      cases s.order x v <;> rfl
  | specified =>
      cases v <;>
        simp only [holds, leaf?, Option.some.injEq, forall_eq', Row.truth, Truth.isMet_ofBool,
          decide_eq_true_eq, Option.isNone_iff_eq_none, Option.isSome_eq_false_iff]
  -- An empty list has no leaf, and there is nothing to meet.
  | oneOf =>
      cases v with
      | nil => simp only [holds, leaf?, true_or, decide_true, reduceCtorEq, false_implies,
          implies_true]
      | cons v vs =>
          simp only [holds, leaf?, reduceCtorEq, false_or, Bool.decide_eq_true, Option.some.injEq,
            forall_eq', row.isMet_oneOf path hr]
  | noneOf =>
      cases v with
      | nil => simp only [holds, leaf?, true_or, decide_true, reduceCtorEq, false_implies,
          implies_true]
      | cons v vs =>
          simp only [holds, leaf?, reduceCtorEq, false_or, Bool.decide_eq_true, Option.some.injEq,
            forall_eq', row.isMet_noneOf path hr]
  | greaterThan =>
      refine row.any_iff_compare path hr .greater v fun x => ?_
      cases s.order x v <;> rfl
  | lessThan =>
      refine row.any_iff_compare path hr .less v fun x => ?_
      cases s.order x v <;> rfl
  | greaterThanOrEqual =>
      refine row.any_iff_compare path hr .greaterOrEqual v fun x => ?_
      cases s.order x v <;> rfl
  | lessThanOrEqual =>
      refine row.any_iff_compare path hr .lessOrEqual v fun x => ?_
      cases s.order x v <;> rfl
  -- Text conditions ask the same of the same characters.
  | like =>
      simp only [holds, leaf?, Option.some.injEq, forall_eq', Row.truth, Truth.isMet_ofVerdict,
        Option.any_map, String.toList_ofList]
      rfl
  | contains =>
      simp only [holds, leaf?, Option.some.injEq, forall_eq', Row.truth, Truth.isMet_ofVerdict,
        Option.any_map, String.toList_ofList]
      rfl
  | doesNotContain =>
      simp only [holds, leaf?, Option.some.injEq, forall_eq', Row.truth, Truth.isMet_not_ofVerdict,
        Option.any_map, String.toList_ofList]

/-- A filter is met exactly if every condition with an operand holds. -/
theorem Filter.holds_iff {kind : Filter.Kind} {read : Reading kind.scalar} (hr : read.Agrees)
    {t : Schema} (f : Filter kind) (path : FieldPath) (row : Row t) :
    (row.truth (f.predicate path)).isMet = true ↔
      ∀ c v, f.operand? c = some v → c.holds row path read v = true := by
  rw [f.isMet_predicate]
  constructor
  · intro h c v hv
    exact (c.holds_iff row path hr v).mpr fun leaf hleaf => h c v leaf hv hleaf
  · intro h c v leaf hv hleaf
    exact (c.holds_iff row path hr v).mp (h c v hv) leaf hleaf

end RowSieve
