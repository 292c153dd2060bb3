/-!
# Sorted Lists without Repetition

The members of a list in order, each once. Where a set of names is reported or
walked through, this is the order in which it is done.

## Main definitions

* `Sorted.insert`: One member more, in its place.
* `Sorted.ofList`: The members of a list.

## Theorems

* `Sorted.mem_ofList`: No member is lost and none is added.
-/

namespace RowSieve

namespace Sorted

variable {α : Type} [Ord α]

/-- One member more, in its place, unless it is there. -/
def insert (x : α) : List α → List α
  | [] => [x]
  | y :: ys =>
    match compare x y with
    | .lt => x :: y :: ys
    | .eq => y :: ys
    | .gt => y :: insert x ys

/-- The members of a list, in order and each once. -/
def ofList (xs : List α) : List α := xs.foldr insert []

section Members

variable [Std.LawfulEqOrd α]

theorem mem_insert {x y : α} {ys : List α} : y ∈ insert x ys ↔ y = x ∨ y ∈ ys := by
  induction ys with
  | nil => rw [insert, List.mem_singleton, or_iff_left List.not_mem_nil]
  | cons z zs ih =>
      unfold insert
      split
      · exact List.mem_cons
      · -- What is there already is the member itself.
        have heq : x = z := Std.LawfulEqOrd.eq_of_compare ‹_›
        rw [heq, List.mem_cons, or_self_left]
      · rw [List.mem_cons, List.mem_cons, ih, or_left_comm]

theorem mem_ofList {y : α} {xs : List α} : y ∈ ofList xs ↔ y ∈ xs := by
  induction xs with
  | nil => rfl
  | cons x xs ih =>
      rw [ofList, List.foldr_cons, mem_insert, List.mem_cons]
      rw [ofList] at ih
      rw [ih]

end Members

end Sorted

end RowSieve
