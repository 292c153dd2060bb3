import RowSieve.Predicate.Conjunction

/-!
# Conjunctions as They Are Built

Joining predicates is associative, and the predicate that is always met is
neutral on both sides. So it does not matter in which order predicates are
joined, nor whether some of them were joined before: only the members count
that each one contributes.

What a predicate contributes is itself, unless it is a conjunction, which gives
up its members, or always met, which has none. A list of predicates that
contribute themselves can be read off the conjunction that was built from it.
Lists with conjunctions among their members cannot, since those are flattened.

## Main definitions

* `Predicate.members`: What a predicate contributes to a conjunction.

## Theorems

* `Predicate.members_cases`: The shapes of what a predicate contributes.
* `Predicate.members_both`, `Predicate.members_all`: Joining loses no member.
* `Predicate.both_assoc`, `Predicate.all_append`: Joining is associative.
* `Predicate.all_flatMap`: Lists may be joined before they are.
* `Predicate.all_inj`: A list of leaves can be read off its conjunction.
* `Predicate.isTrivial_both`, `Predicate.isTrivial_all`: When a conjunction is
  one of nothing.
-/

namespace RowSieve

namespace Predicate

/-- What a predicate contributes to a conjunction that it becomes part of. -/
def members : Predicate → List Predicate
  | .always => []
  | .and ps => ps
  | p => [p]

/-- A predicate contributes nothing, or its members, or itself. -/
theorem members_cases (p : Predicate) :
    p = .always ∨ (∃ ps, p = .and ps) ∨ p.members = [p] := by
  cases p with
  | always => exact .inl rfl
  | and ps => exact .inr (.inl ⟨ps, rfl⟩)
  | _ => exact .inr (.inr rfl)

theorem always_both (p : Predicate) : always.both p = p := by
  cases p <;> rfl

theorem both_always (p : Predicate) : p.both .always = p := by
  cases p <;> rfl

/-- Two predicates are joined by joining what they contribute, unless one of
    them is always met. -/
theorem both_eq_and {p q : Predicate} (hp : p ≠ .always) (hq : q ≠ .always) :
    p.both q = .and (p.members ++ q.members) := by
  cases p with
  | always => exact absurd rfl hp
  | _ =>
      cases q with
      | always => exact absurd rfl hq
      | _ => rfl

theorem members_both (p q : Predicate) : (p.both q).members = p.members ++ q.members := by
  by_cases hp : p = .always
  · rw [hp, always_both, members, List.nil_append]
  · by_cases hq : q = .always
    · rw [hq, both_always, members, List.append_nil]
    · rw [both_eq_and hp hq, members]

/-- It does not matter which two of three predicates are joined first. -/
theorem both_assoc (p q r : Predicate) : (p.both q).both r = p.both (q.both r) := by
  by_cases hp : p = .always
  · rw [hp, always_both, always_both]
  · by_cases hq : q = .always
    · rw [hq, both_always, always_both]
    · by_cases hr : r = .always
      · rw [hr, both_always, both_always]
      · -- Nothing is always met, so both sides join three lists of members.
        have hleft : p.both q ≠ .always := by
          rw [both_eq_and hp hq]
          exact Predicate.noConfusion
        have hright : q.both r ≠ .always := by
          rw [both_eq_and hq hr]
          exact Predicate.noConfusion
        rw [both_eq_and hleft hr, both_eq_and hp hright, members_both, members_both,
          List.append_assoc]

/-- Predicates joined onto another one can be joined among themselves first. -/
theorem foldl_both (p : Predicate) (ps : List Predicate) : ps.foldl both p = p.both (all ps) := by
  unfold all
  induction ps generalizing p with
  | nil => rw [List.foldl_nil, List.foldl_nil, both_always]
  | cons q ps ih =>
      rw [List.foldl_cons, List.foldl_cons, ih (p.both q), ih (always.both q), always_both,
        both_assoc]

theorem all_cons (p : Predicate) (ps : List Predicate) : all (p :: ps) = p.both (all ps) := by
  rw [all, List.foldl_cons, foldl_both, always_both]

theorem all_singleton (p : Predicate) : all [p] = p := by
  rw [all_cons, all, List.foldl_nil, both_always]

theorem all_append (ps qs : List Predicate) : all (ps ++ qs) = (all ps).both (all qs) := by
  rw [all, List.foldl_append, foldl_both]
  rfl

/-- Lists of predicates are joined one after the other, or each on its own
    first. -/
theorem all_flatMap {α : Type} (xs : List α) (f : α → List Predicate) :
    all (xs.flatMap f) = all (xs.map fun x => all (f x)) := by
  induction xs with
  | nil => rfl
  | cons x xs ih => rw [List.flatMap_cons, all_append, ih, List.map_cons, all_cons]

theorem members_all (ps : List Predicate) : (all ps).members = ps.flatMap members := by
  induction ps with
  | nil => rfl
  | cons p ps ih => rw [all_cons, members_both, ih, List.flatMap_cons]

/-- Predicates that contribute themselves are the members of what is built. -/
theorem members_all_of_leaves {ps : List Predicate} (h : ∀ p ∈ ps, p.members = [p]) :
    (all ps).members = ps := by
  rw [members_all]
  induction ps with
  | nil => rfl
  | cons p ps ih =>
      rw [List.forall_mem_cons] at h
      rw [List.flatMap_cons, h.1, ih h.2, List.singleton_append]

/-- So the list can be read off the conjunction that was built from it. -/
theorem all_inj {ps qs : List Predicate} (hps : ∀ p ∈ ps, p.members = [p])
    (hqs : ∀ q ∈ qs, q.members = [q]) : all ps = all qs ↔ ps = qs := by
  constructor
  · intro h
    rw [← members_all_of_leaves hps, h, members_all_of_leaves hqs]
  · intro h
    rw [h]

theorem areTrivial_eq_all (ps : List Predicate) : areTrivial ps = ps.all isTrivial := by
  induction ps with
  | nil => rfl
  | cons p ps ih => rw [areTrivial, ih, List.all_cons]

/-- What is built is a conjunction of nothing only if its parts are. -/
theorem isTrivial_both (p q : Predicate) : (p.both q).isTrivial = (p.isTrivial && q.isTrivial) := by
  unfold both
  split
  · simp only [isTrivial, Bool.true_and]
  · simp only [isTrivial, Bool.and_true]
  · simp only [isTrivial, areTrivial_eq_all, List.all_append]
  · simp only [isTrivial, areTrivial_eq_all, List.all_append, List.all_cons, List.all_nil,
      Bool.and_true]
  · simp only [isTrivial, areTrivial]
  · simp only [isTrivial, areTrivial, Bool.and_true]

theorem isTrivial_all (ps : List Predicate) : (all ps).isTrivial = ps.all isTrivial := by
  induction ps with
  | nil => rfl
  | cons p ps ih => rw [all_cons, isTrivial_both, ih, List.all_cons]

end Predicate

end RowSieve
