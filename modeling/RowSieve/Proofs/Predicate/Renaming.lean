import RowSieve.Proofs.Filter.Recovery

/-!
# Predicates on Other Paths

The same question can be asked of another field. `Predicate.renamed` replaces
every path of a predicate and leaves everything else: the constants, the
patterns, and the shape of the tree.

Filters do not choose their path. A filter compiled for one path and renamed is
the filter compiled for the other path, since joining never looks at paths when
it flattens and drops. What a filter is compiled for is also the only path its
predicate has.

## Main definitions

* `Predicate.renamed`: The predicate with every path replaced.

## Theorems

* `Predicate.renamed_all`: What was joined can be renamed member by member.
* `Predicate.fields_all`: The paths of what was joined.
* `renamed_predicateOf`: A filter is renamed by compiling it for another path.
* `eq_of_mem_fields_predicateOf`: The path it was compiled for is the only one.
-/

namespace RowSieve

namespace Predicate

variable {g : FieldPath → FieldPath}

mutual

/-- The predicate with every path replaced. -/
def renamed (g : FieldPath → FieldPath) : Predicate → Predicate
  | .compare how path value => .compare how (g path) value
  | .oneOf path values => .oneOf (g path) values
  | .noneOf path values => .noneOf (g path) values
  | .isNull path => .isNull (g path)
  | .isNotNull path => .isNotNull (g path)
  | .like path pattern => .like (g path) pattern
  | .contains path needle => .contains (g path) needle
  | .not inner => .not (renamed g inner)
  | .and members => .and (allRenamed g members)
  | .always => .always

/-- The predicates with every path replaced. -/
def allRenamed (g : FieldPath → FieldPath) : List Predicate → List Predicate
  | [] => []
  | p :: ps => renamed g p :: allRenamed g ps

end

theorem allRenamed_eq_map (ps : List Predicate) : allRenamed g ps = ps.map (renamed g) := by
  induction ps with
  | nil => rfl
  | cons p ps ih => rw [allRenamed, ih, List.map_cons]

/-- A renamed predicate contributes what it contributed before, renamed. -/
theorem members_renamed (p : Predicate) : (p.renamed g).members = p.members.map (renamed g) := by
  cases p with
  | and ps => exact allRenamed_eq_map ps
  | _ => rfl

theorem renamed_eq_always_iff {p : Predicate} : p.renamed g = .always ↔ p = .always := by
  cases p <;> simp only [renamed, reduceCtorEq]

/-- Two predicates can be joined before they are renamed or after. -/
theorem renamed_both (p q : Predicate) :
    (p.both q).renamed g = (p.renamed g).both (q.renamed g) := by
  by_cases hp : p = .always
  · rw [hp, always_both, renamed, always_both]
  · by_cases hq : q = .always
    · rw [hq, both_always, renamed, both_always]
    · -- Neither is dropped, before or after.
      have hp' : p.renamed g ≠ .always := fun h => hp (renamed_eq_always_iff.mp h)
      have hq' : q.renamed g ≠ .always := fun h => hq (renamed_eq_always_iff.mp h)
      rw [both_eq_and hp hq, both_eq_and hp' hq', renamed, allRenamed_eq_map, List.map_append,
        members_renamed, members_renamed]

theorem renamed_all (ps : List Predicate) : (all ps).renamed g = all (ps.map (renamed g)) := by
  induction ps with
  | nil => rfl
  | cons p ps ih => rw [all_cons, renamed_both, ih, List.map_cons, all_cons]

theorem fieldsOfAll_eq_flatMap (ps : List Predicate) : fieldsOfAll ps = ps.flatMap fields := by
  induction ps with
  | nil => rfl
  | cons p ps ih => rw [fieldsOfAll, ih, List.flatMap_cons]

/-- A predicate has the paths of what it contributes. -/
theorem fields_eq_members (p : Predicate) : p.fields = p.members.flatMap fields := by
  cases p with
  | always => rfl
  | and ps => exact fieldsOfAll_eq_flatMap ps
  | _ => exact (List.append_nil _).symm

/-- Joining keeps all paths in their order. -/
theorem fields_all (ps : List Predicate) : (all ps).fields = ps.flatMap fields := by
  have hmembers : (fun p : Predicate => p.members.flatMap fields) = fields :=
    funext fun p => (fields_eq_members p).symm
  rw [fields_eq_members, members_all, List.flatMap_assoc, hmembers]

end Predicate

/-- The leaf of a condition on another path. -/
theorem Condition.leaf?_renamed {s : Scalar} {g : FieldPath → FieldPath} (path : FieldPath)
    (c : Condition) (v : c.Operand s) :
    (c.leaf? path v).map (Predicate.renamed g) = c.leaf? (g path) v := by
  cases c with
  | specified => cases v <;> rfl
  | oneOf | noneOf => cases v <;> rfl
  | _ => rfl

section Filters

variable {kind : Filter.Kind}

/-- Renaming the predicate of a filter is compiling the filter for the other
    path. -/
theorem renamed_predicateOf (g : FieldPath → FieldPath) (path : FieldPath)
    (f : Option (Filter kind)) :
    (predicateOf path f).renamed g = predicateOf (g path) f := by
  cases f with
  | none => rfl
  | some f =>
      unfold predicateOf Filter.predicate Filter.leaves
      simp only []
      rw [Predicate.renamed_all, List.map_filterMap]
      have hleaf : ∀ c : Condition,
          ((f.operand? c).bind (c.leaf? path)).map (Predicate.renamed g) =
            (f.operand? c).bind (c.leaf? (g path)) := by
        intro c
        rw [Option.map_bind]
        exact Option.bind_congr fun v _ => c.leaf?_renamed path v
      simp only [hleaf]

/-- A filter asks about no other path than the one it was compiled for. -/
theorem eq_of_mem_fields_predicateOf {path other : FieldPath} {f : Option (Filter kind)}
    (h : other ∈ (predicateOf path f).fields) : other = path := by
  cases f with
  | none => exact absurd h List.not_mem_nil
  | some f =>
      unfold predicateOf Filter.predicate at h
      simp only [] at h
      rw [Predicate.fields_all] at h
      -- What was joined are leaves on this path.
      rcases List.mem_flatMap.mp h with ⟨leaf, hleaf, hother⟩
      rcases List.mem_filterMap.mp hleaf with ⟨c, -, hc⟩
      rw [(Filter.leafOf?_shows hc).1] at hother
      exact List.mem_singleton.mp hother

end Filters

end RowSieve
