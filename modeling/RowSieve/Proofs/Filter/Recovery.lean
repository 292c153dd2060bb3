import RowSieve.Filter.Compilation
import RowSieve.Proofs.Calendar.DayBounds
import RowSieve.Proofs.Predicate.Conjunction

/-!
# Filters Recovered from Their Predicates

Compiling a filter forgets very little. Each condition that asks for something
leaves one leaf behind, and the leaf shows which condition it came from and at
which path. Its literal is as good as the operand, since no two values of a
type share a literal. Three things are gone: an empty list has no leaf, a
needle is kept in its lower-case form only, and of a pattern operand nothing
but its text is left. `Filter.Agrees` says that two filters differ in no more
than that.

Leaves stand in a list without gaps, so the place of a leaf says little about
its condition. `filterMap_eq_iff` is what makes up for it. It asks for a tag
that every leaf carries, and two lists of leaves are then equal only if each
condition has contributed the same to both.

## Main definitions

* `Condition.asks`: An operand asks for something.
* `Condition.Alike`: Two operands of a condition ask for the same.
* `Filter.effective?`: The operand of a condition, if it asks for something.
* `Filter.Agrees`: Two filters ask for the same.
* `Predicate.condition?`: The condition that a leaf comes from.

## Theorems

* `Scalar.literal_injective`: No two values of a type share a literal.
* `Condition.bind_leaf?_eq_iff`: When two operands leave the same leaf.
* `filterMap_eq_iff`: Tagged contributions are recovered from their list.
* `Filter.predicate_eq_iff`: When two filters have the same predicate.
-/

namespace RowSieve

open Calendar

/-- No two values of a type share a literal. Dates lose nothing, since their
    day numbers are distinct and fit 32 bits. -/
theorem Scalar.literal_injective (s : Scalar) {v w : s.Value} (h : s.literal v = s.literal w) :
    v = w := by
  cases s with
  | long | string | boolean | dateTime =>
      simp only [literal, Literal.integer.injEq, Literal.string.injEq, Literal.boolean.injEq,
        Literal.timestamp.injEq] at h
      exact h
  | integer =>
      simp only [literal, Literal.ofSigned32, Signed32.widen, Literal.integer.injEq,
        Bounded.mk.injEq] at h
      exact Bounded.ext h
  | date =>
      -- Nothing is wrapped, so the literals hold the day numbers themselves.
      simp only [literal, Literal.ofDate, Literal.date.injEq] at h
      refine Date.dayNumber_injective ?_
      rw [← v.val_wrap_dayNumber, h, w.val_wrap_dayNumber]

namespace Condition

variable {s : Scalar} {path : FieldPath}

/-- An operand asks for something. Only an empty list does not. -/
def asks : (c : Condition) → c.Operand s → Bool
  | .oneOf, vs => !vs.isEmpty
  | .noneOf, vs => !vs.isEmpty
  | _, _ => true

/-- Two operands of a condition ask for the same. Needles are compared in lower
    case and pattern operands by their text. -/
def Alike : (c : Condition) → c.Operand s → c.Operand s → Prop
  | .like, v, w => s.patternText v = s.patternText w
  | .contains, t, u => Text.lowercase t.toList = Text.lowercase u.toList
  | .doesNotContain, t, u => Text.lowercase t.toList = Text.lowercase u.toList
  | _, v, w => v = w

/-- An operand leaves no leaf exactly if it asks for nothing. -/
theorem leaf?_eq_none_iff (c : Condition) (v : c.Operand s) :
    c.leaf? path v = none ↔ c.asks v = false := by
  cases c with
  | specified => cases v <;> simp only [leaf?, asks, reduceCtorEq]
  | oneOf | noneOf =>
      cases v <;> simp only [leaf?, asks, List.isEmpty_nil, List.isEmpty_cons, Bool.not_true,
        Bool.not_false, reduceCtorEq]
  | _ => simp only [leaf?, asks, reduceCtorEq]

/-- Two operands that ask for something leave the same leaf exactly if they ask
    for the same. -/
theorem leaf?_eq_iff (c : Condition) {v w : c.Operand s} (hv : c.asks v = true)
    (hw : c.asks w = true) : c.leaf? path v = c.leaf? path w ↔ c.Alike v w := by
  have hliteral : ∀ x y : s.Value, s.literal x = s.literal y ↔ x = y :=
    fun x y => ⟨s.literal_injective, congrArg s.literal⟩
  cases c with
  | specified => cases v <;> cases w <;> simp only [leaf?, Alike, Option.some.injEq, reduceCtorEq]
  | oneOf | noneOf =>
      cases v with
      | nil => exact Bool.noConfusion hv
      | cons v vs =>
          cases w with
          | nil => exact Bool.noConfusion hw
          | cons w ws =>
              -- Constants are converted one by one.
              simp only [leaf?, Alike, Option.some.injEq, Predicate.oneOf.injEq,
                Predicate.noneOf.injEq, true_and]
              exact List.map_inj_right fun x y => (hliteral x y).mp
  | like =>
      simp only [leaf?, Alike, Option.some.injEq, Predicate.like.injEq, true_and, String.ofList_inj,
        List.cons_append, List.cons.injEq, List.append_cancel_right_eq]
  | contains | doesNotContain =>
      simp only [leaf?, Alike, Option.some.injEq, Predicate.not.injEq, Predicate.contains.injEq,
        true_and, String.ofList_inj]
  | _ =>
      simp only [leaf?, Alike, Option.some.injEq, Predicate.compare.injEq, true_and, hliteral]

/-- An operand that asks for nothing leaves nothing behind. -/
theorem bind_leaf?_filter (c : Condition) (o : Option (c.Operand s)) :
    (o.filter c.asks).bind (c.leaf? path) = o.bind (c.leaf? path) := by
  cases o with
  | none => rfl
  | some v =>
      rw [Option.filter_some, Option.bind_some]
      by_cases hv : c.asks v = true
      · rw [if_pos hv, Option.bind_some]
      · rw [if_neg hv, Option.bind_none]
        exact ((c.leaf?_eq_none_iff v).mpr (Bool.not_eq_true _ ▸ hv)).symm

/-- What two operands leave behind, where either may be absent or ask for
    nothing. -/
theorem bind_leaf?_eq_iff (c : Condition) (o o' : Option (c.Operand s)) :
    o.bind (c.leaf? path) = o'.bind (c.leaf? path) ↔
      Option.Rel c.Alike (o.filter c.asks) (o'.filter c.asks) := by
  rw [← c.bind_leaf?_filter o, ← c.bind_leaf?_filter o']
  -- An operand that is left asks for something, and so it leaves a leaf.
  have hleaf : ∀ (o : Option (c.Operand s)) (v : c.Operand s), o.filter c.asks = some v →
      c.asks v = true ∧ c.leaf? path v ≠ none := by
    intro o v hv
    have hasks := (Option.filter_eq_some_iff.mp hv).2
    refine ⟨hasks, fun hnone => ?_⟩
    rw [(c.leaf?_eq_none_iff v).mp hnone] at hasks
    exact Bool.false_ne_true hasks
  rcases hv : o.filter c.asks with _ | v <;> rcases hw : o'.filter c.asks with _ | w
  · exact ⟨fun _ => .none, fun _ => rfl⟩
  · exact ⟨fun h => absurd h.symm (hleaf o' w hw).2, nofun⟩
  · exact ⟨fun h => absurd h (hleaf o v hv).2, nofun⟩
  · rw [Option.bind_some, Option.bind_some, c.leaf?_eq_iff (hleaf o v hv).1 (hleaf o' w hw).1]
    exact ⟨.some, fun | .some h => h⟩

end Condition

/-- The condition that a leaf comes from. -/
def Predicate.condition? : Predicate → Option Condition
  | .compare .equal _ _ => some .equals
  | .compare .notEqual _ _ => some .notEquals
  | .compare .greater _ _ => some .greaterThan
  | .compare .greaterOrEqual _ _ => some .greaterThanOrEqual
  | .compare .less _ _ => some .lessThan
  | .compare .lessOrEqual _ _ => some .lessThanOrEqual
  | .oneOf _ _ => some .oneOf
  | .noneOf _ _ => some .noneOf
  | .isNull _ => some .specified
  | .isNotNull _ => some .specified
  | .like _ _ => some .like
  | .contains _ _ => some .contains
  | .not (.contains _ _) => some .doesNotContain
  | _ => none

/-- A leaf shows where it comes from, and it is neither a conjunction nor
    always met. -/
theorem Condition.leaf?_shows {s : Scalar} {path : FieldPath} {c : Condition} {v : c.Operand s}
    {p : Predicate} (h : c.leaf? path v = some p) :
    p.fields = [path] ∧ p.condition? = some c ∧ p.members = [p] ∧ p.isTrivial = false := by
  cases c with
  | specified =>
      cases v <;>
      · simp only [leaf?, Option.some.injEq] at h
        subst h
        exact ⟨rfl, rfl, rfl, rfl⟩
  | oneOf | noneOf =>
      cases v with
      | nil => simp only [leaf?, reduceCtorEq] at h
      | cons v vs =>
          simp only [leaf?, Option.some.injEq] at h
          subst h
          exact ⟨rfl, rfl, rfl, rfl⟩
  | _ =>
      simp only [leaf?, Option.some.injEq] at h
      subst h
      exact ⟨rfl, rfl, rfl, rfl⟩

/-- What the members of a list contribute is recovered from the list of
    contributions, if each contribution carries a tag that no other member
    leaves. -/
theorem filterMap_eq_iff {ι α τ : Type} {F G : ι → Option α} (tag : α → τ) (label : ι → τ)
    {is : List ι} (hdistinct : is.Pairwise fun i j => label i ≠ label j)
    (hF : ∀ i x, F i = some x → tag x = label i) (hG : ∀ i x, G i = some x → tag x = label i) :
    is.filterMap F = is.filterMap G ↔ ∀ i ∈ is, F i = G i := by
  induction is with
  | nil => simp only [List.filterMap_nil, List.not_mem_nil, false_implies, implies_true]
  | cons i is ih =>
      rw [List.pairwise_cons] at hdistinct
      rw [List.forall_mem_cons, ← ih hdistinct.2]
      -- A contribution of the first member cannot come from behind it.
      have hfresh : ∀ {H : ι → Option α} {x : α}, (∀ j y, H j = some y → tag y = label j) →
          tag x = label i → x ∉ is.filterMap H := by
        intro H x hH hx hmem
        rcases List.mem_filterMap.mp hmem with ⟨j, hj, hjx⟩
        exact hdistinct.1 j hj (hx.symm.trans (hH j x hjx))
      rw [List.filterMap_cons, List.filterMap_cons]
      rcases hf : F i with _ | x <;> rcases hg : G i with _ | y
      · simp only [true_and]
      · refine ⟨fun h => absurd ?_ (hfresh hF (hG i y hg)), fun h => absurd h.1 nofun⟩
        simp only at h
        rw [h]
        exact List.mem_cons_self
      · refine ⟨fun h => absurd ?_ (hfresh hG (hF i x hf)), fun h => absurd h.1 nofun⟩
        simp only at h
        rw [← h]
        exact List.mem_cons_self
      · simp only [List.cons.injEq, Option.some.injEq]

namespace Filter

variable {kind : Kind}

/-- The operand of a condition, if it asks for something. -/
def effective? (f : Filter kind) (c : Condition) : Option (c.Operand kind.scalar) :=
  (f.operand? c).filter c.asks

/-- The filters have the same conditions, and each asks for the same in both. -/
def Agrees (f g : Filter kind) : Prop :=
  ∀ c, Option.Rel c.Alike (f.effective? c) (g.effective? c)

/-- What a condition contributes to the predicate of a filter. -/
def leafOf? (f : Filter kind) (path : FieldPath) (c : Condition) : Option Predicate :=
  (f.operand? c).bind (c.leaf? path)

theorem leafOf?_eq_iff {f g : Filter kind} {path : FieldPath} {c : Condition} :
    f.leafOf? path c = g.leafOf? path c ↔ Option.Rel c.Alike (f.effective? c) (g.effective? c) :=
  c.bind_leaf?_eq_iff (f.operand? c) (g.operand? c)

theorem leafOf?_eq_none_iff {f : Filter kind} {path : FieldPath} {c : Condition} :
    f.leafOf? path c = none ↔ f.effective? c = none := by
  -- It is compared with the empty filter, which contributes nothing.
  have hempty : f.leafOf? path c = none ↔ Option.Rel c.Alike (f.effective? c) none :=
    leafOf?_eq_iff (g := empty)
  rw [hempty]
  cases f.effective? c with
  | none => exact ⟨fun _ => rfl, fun _ => .none⟩
  | some v => exact ⟨nofun, nofun⟩

theorem leafOf?_shows {f : Filter kind} {path : FieldPath} {c : Condition} {p : Predicate}
    (h : f.leafOf? path c = some p) :
    p.fields = [path] ∧ p.condition? = some c ∧ p.members = [p] ∧ p.isTrivial = false := by
  rcases Option.bind_eq_some_iff.mp h with ⟨v, -, hleaf⟩
  exact Condition.leaf?_shows hleaf

theorem members_leaf {f : Filter kind} {path : FieldPath} {p : Predicate} (h : p ∈ f.leaves path) :
    p.members = [p] := by
  rcases List.mem_filterMap.mp h with ⟨c, -, hc⟩
  exact (leafOf?_shows hc).2.2.1

/-- Two filters have the same predicate at a path exactly if they agree. -/
theorem predicate_eq_iff {f g : Filter kind} {path : FieldPath} :
    f.predicate path = g.predicate path ↔ f.Agrees g := by
  rw [predicate, predicate, Predicate.all_inj (fun _ => members_leaf) (fun _ => members_leaf)]
  -- Each leaf is tagged with its condition, and no condition is compiled twice.
  refine (filterMap_eq_iff Predicate.condition? some (by decide)
    (fun c p h => (leafOf?_shows h).2.1) fun c p h => (leafOf?_shows h).2.1).trans ?_
  exact ⟨fun h c => leafOf?_eq_iff.mp (h c c.mem_compiled),
    fun h c _ => leafOf?_eq_iff.mpr (h c)⟩

end Filter

end RowSieve
