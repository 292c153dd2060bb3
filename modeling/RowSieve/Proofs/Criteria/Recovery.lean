import RowSieve.Proofs.Criteria.Selection
import RowSieve.Proofs.Filter.Recovery

/-!
# Criteria Recovered from Their Predicates

The four filters of criteria end up in one conjunction. It does not say where
one filter ends and the next begins, it stands for its only member if there is
one, and it is gone if there is none. Still the filters can be told apart: the
leaves of each look at a path of its own. The two ids are no exception, since
the one of the author is looked for under the author.

So the predicate keeps of criteria what it keeps of each filter, and nothing is
left of criteria only if none of their filters asks for anything.

## Main definitions

* `BookCriteria.filterOf`: The filter on a property, possibly an empty one.
* `BookCriteria.conditions`: A condition on a property, for each of both.
* `BookCriteria.leafOf?`: What a condition on a property contributes.

## Theorems

* `BookCriteria.predicate_eq_all`: The predicate as a list of contributions.
* `BookCriteria.predicate_eq_iff`: When two criteria have the same predicate.
* `BookCriteria.predicate_eq_always_iff`: When criteria come down to nothing.
* `conditions_recovered`: What predicates tell about the filters behind them.
-/

namespace RowSieve

/-- An absent filter is as good as an empty one. -/
theorem predicateOf_eq {kind : Filter.Kind} (path : FieldPath) (o : Option (Filter kind)) :
    predicateOf path o = (o.getD .empty).predicate path := by
  cases o <;> rfl

namespace BookCriteria

theorem Property.path_injective {p q : Property} (h : p.path = q.path) : p = q := by
  cases p <;> cases q <;> first | rfl | exact absurd h (by decide)

/-- The filter on a property, an empty one if there is none. -/
def filterOf (c : BookCriteria) (p : Property) : Filter p.kind := (c.filter? p).getD .empty

/-- Each condition on each property, in the order of a predicate. -/
def conditions : List (Property × Condition) :=
  Property.gathered.flatMap fun p => Condition.compiled.map fun d => (p, d)

theorem mem_conditions (p : Property) (d : Condition) : (p, d) ∈ conditions :=
  List.mem_flatMap.mpr ⟨p, p.mem_gathered, List.mem_map.mpr ⟨d, d.mem_compiled, rfl⟩⟩

/-- What a condition on a property contributes to the predicate of criteria. -/
def leafOf? (c : BookCriteria) (i : Property × Condition) : Option Predicate :=
  (c.filterOf i.1).leafOf? i.1.path i.2

theorem members_contribution {c : BookCriteria} {p : Predicate}
    (h : p ∈ conditions.filterMap c.leafOf?) : p.members = [p] := by
  rcases List.mem_filterMap.mp h with ⟨i, -, hi⟩
  exact (Filter.leafOf?_shows hi).2.2.1

/-- The leaves of all filters are joined at once. Which of them came from the
    same filter is not kept. -/
theorem predicate_eq_all (c : BookCriteria) :
    c.predicate = Predicate.all (conditions.filterMap c.leafOf?) := by
  -- What is gathered for one property is the conjunction of its leaves.
  have hone : ∀ p : Property,
      Predicate.all ((c.filter? p).map fun f => f.predicate p.path).toList =
        Predicate.all ((c.filterOf p).leaves p.path) := by
    intro p
    rw [filterOf]
    cases c.filter? p with
    | none => rfl
    | some f =>
        rw [Option.map_some, Option.toList_some, Predicate.all_cons, Option.getD_some]
        exact Predicate.both_always _
  calc c.predicate
      = Predicate.all (Property.gathered.map fun p =>
          Predicate.all ((c.filterOf p).leaves p.path)) := by
        rw [predicate, Builder.build, builder_predicates, Predicate.all_flatMap]
        simp only [hone]
    _ = Predicate.all (conditions.filterMap c.leafOf?) := by
        rw [← Predicate.all_flatMap, conditions, List.filterMap_flatMap]
        simp only [List.filterMap_map]
        rfl

/-- Two criteria have the same predicate exactly if their filters agree,
    property by property. -/
theorem predicate_eq_iff {a b : BookCriteria} :
    a.predicate = b.predicate ↔ ∀ p, (a.filterOf p).Agrees (b.filterOf p) := by
  rw [predicate_eq_all, predicate_eq_all,
    Predicate.all_inj (fun _ => members_contribution) (fun _ => members_contribution)]
  -- A leaf shows its condition and its path, and no two properties share one.
  have hdistinct : conditions.Pairwise fun i j =>
      ([i.1.path], some i.2) ≠ ([j.1.path], some j.2) := by
    have hne : conditions.Pairwise fun i j => i ≠ j := by decide
    refine hne.imp fun {i j} hij hsame => hij ?_
    simp only [Prod.mk.injEq, List.cons.injEq, and_true, Option.some.injEq] at hsame
    exact Prod.ext (Property.path_injective hsame.1) hsame.2
  have hshows : ∀ (c : BookCriteria) i p, c.leafOf? i = some p →
      (p.fields, p.condition?) = ([i.1.path], some i.2) := by
    intro c i p h
    rcases Filter.leafOf?_shows h with ⟨hfields, hcondition, -, -⟩
    rw [hfields, hcondition]
  refine (filterMap_eq_iff (fun p => (p.fields, p.condition?)) (fun i => ([i.1.path], some i.2))
    hdistinct (hshows a) (hshows b)).trans ?_
  exact ⟨fun h p d => Filter.leafOf?_eq_iff.mp (h (p, d) (mem_conditions p d)),
    fun h i _ => Filter.leafOf?_eq_iff.mpr (h i.1 i.2)⟩

/-- Nothing is contributed exactly if no filter asks for anything. -/
theorem contributions_eq_nil_iff {c : BookCriteria} :
    conditions.filterMap c.leafOf? = [] ↔
      ∀ p f, c.filter? p = some f → ∀ d, f.effective? d = none := by
  rw [List.filterMap_eq_nil_iff]
  constructor
  · intro h p f hf d
    have hnone : (c.filterOf p).effective? d = none :=
      Filter.leafOf?_eq_none_iff.mp (h (p, d) (mem_conditions p d))
    rwa [filterOf, hf] at hnone
  · intro h i _
    refine Filter.leafOf?_eq_none_iff.mpr ?_
    rw [filterOf]
    cases hf : c.filter? i.1 with
    | none => rfl
    | some f => exact h i.1 f hf i.2

theorem predicate_eq_always_iff {c : BookCriteria} :
    c.predicate = .always ↔ conditions.filterMap c.leafOf? = [] := by
  have hnil : ∀ p ∈ ([] : List Predicate), p.members = [p] := List.forall_mem_nil _
  rw [predicate_eq_all, ← Predicate.all_inj (fun _ => members_contribution) hnil]
  rfl

/-- A leaf is not trivially met, so a predicate is only if it has no leaf. -/
theorem isTrivial_predicate_iff {c : BookCriteria} :
    c.predicate.isTrivial = true ↔ conditions.filterMap c.leafOf? = [] := by
  rw [predicate_eq_all, Predicate.isTrivial_all, List.all_eq_true, List.eq_nil_iff_forall_not_mem]
  refine forall_congr' fun p => ⟨fun h hmem => ?_, fun h hmem => absurd hmem h⟩
  rcases List.mem_filterMap.mp hmem with ⟨i, -, hi⟩
  rw [(Filter.leafOf?_shows hi).2.2.2] at h
  exact Bool.false_ne_true (h hmem)

end BookCriteria

/-- Compiling loses no condition. Two filters of a kind have the same predicate
    at a path exactly if they agree, where an absent filter counts as an empty
    one, and two criteria exactly if their filters do. In particular criteria
    come down to the predicate that is always met exactly if none of their
    filters asks for anything, and no other predicate of theirs is trivial. -/
theorem conditions_recovered :
    (∀ (kind : Filter.Kind) (path : FieldPath) (a b : Option (Filter kind)),
      predicateOf path a = predicateOf path b ↔ (a.getD .empty).Agrees (b.getD .empty)) ∧
    (∀ a b : BookCriteria, a.predicate = b.predicate ↔
      ∀ p, ((a.filter? p).getD .empty).Agrees ((b.filter? p).getD .empty)) ∧
    ∀ c : BookCriteria,
      (c.predicate = .always ↔ ∀ p f, c.filter? p = some f → ∀ d, f.effective? d = none) ∧
      (c.predicate.isTrivial = true ↔ c.predicate = .always) := by
  refine ⟨fun kind path a b => ?_, fun a b => BookCriteria.predicate_eq_iff, fun c => ⟨?_, ?_⟩⟩
  · rw [predicateOf_eq, predicateOf_eq, Filter.predicate_eq_iff]
  · rw [BookCriteria.predicate_eq_always_iff, BookCriteria.contributions_eq_nil_iff]
  · rw [BookCriteria.isTrivial_predicate_iff, BookCriteria.predicate_eq_always_iff]

end RowSieve
