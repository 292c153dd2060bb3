import RowSieve.Criteria.Builder
import RowSieve.Proofs.Predicate.Conjunction

/-!
# The Normal Form of What Is Built

Predicates that were joined have flat conjunctions: each has two members at
least, and no member is a conjunction or always met. Negation does not look
inside what it negates, so a conjunction below a negation stays where it is,
and it is flat as well. A conjunction that was written down directly can have
any shape. That is the difference between the predicates that can be built and
all predicates, and there is no other: whatever is flat everywhere can be
built.

A builder gathers predicates in steps. Absent ones leave no trace in it, and
they would leave none in what is built either, since they count as always met.
So a sequence of steps builds what its predicates joined are, and steps that
are gathered in groups, each in a builder of its own, build the same.

## Main definitions

* `Predicate.Occurs`: A predicate stands somewhere in another.
* `Predicate.Flat`: Every conjunction in a predicate is flat.
* `Builder.Step`: One step of a builder.
* `Predicate.Built`: A predicate that was built without writing down a
  conjunction.

## Theorems

* `Predicate.flat_and`: A conjunction of flat members.
* `Predicate.Flat.both`, `Predicate.Flat.all`: What is joined stays flat.
* `Builder.build_run`: What a sequence of steps builds.
* `Predicate.built_iff_flat`: What can be built is what is flat.
* `Predicate.conjunctions_built_flat`: The laws of joining together.
-/

namespace RowSieve

namespace Predicate

/-- The part stands somewhere in the predicate, perhaps as the whole of it. -/
inductive Occurs (part : Predicate) : Predicate → Prop where
  | whole : Occurs part part
  | negated {p : Predicate} (h : Occurs part p) : Occurs part (.not p)
  | member {p : Predicate} {ps : List Predicate} (hp : p ∈ ps) (h : Occurs part p) :
    Occurs part (.and ps)

/-- The predicate can be a member of a flat conjunction. -/
def IsMember (p : Predicate) : Prop := p ≠ .always ∧ ∀ ps, p ≠ .and ps

/-- Every conjunction in the predicate has two members at least, and none of
    them is always met or a conjunction. -/
def Flat (p : Predicate) : Prop :=
  ∀ ps, Occurs (.and ps) p → 2 ≤ ps.length ∧ ∀ q ∈ ps, q.IsMember

/-- The predicate is neither a negation nor a conjunction. -/
def isLeaf : Predicate → Bool
  | .not _ => false
  | .and _ => false
  | _ => true

theorem IsMember.members {p : Predicate} (h : p.IsMember) : p.members = [p] := by
  rcases p.members_cases with rfl | ⟨ps, rfl⟩ | hself
  · exact absurd rfl h.1
  · exact absurd rfl (h.2 ps)
  · exact hself

section Flat

theorem Flat.of_isLeaf {p : Predicate} (h : p.isLeaf = true) : p.Flat := by
  intro ps hps
  cases hps with
  | whole => simp only [isLeaf, Bool.false_eq_true] at h
  | negated => simp only [isLeaf, Bool.false_eq_true] at h
  | member => simp only [isLeaf, Bool.false_eq_true] at h

theorem flat_not {p : Predicate} : (Predicate.not p).Flat ↔ p.Flat := by
  constructor
  · intro h ps hps
    exact h ps (.negated hps)
  · intro h ps hps
    cases hps with
    | negated hps => exact h ps hps

/-- A conjunction of flat members. -/
theorem flat_and {ps : List Predicate} :
    (and ps).Flat ↔ 2 ≤ ps.length ∧ ∀ q ∈ ps, q.IsMember ∧ q.Flat := by
  constructor
  · intro h
    have hwhole := h ps .whole
    exact ⟨hwhole.1, fun q hq => ⟨hwhole.2 q hq, fun qs hqs => h qs (.member hq hqs)⟩⟩
  · intro h qs hqs
    cases hqs with
    | whole => exact ⟨h.1, fun q hq => (h.2 q hq).1⟩
    | member hq hqs => exact (h.2 _ hq).2 qs hqs

/-- What a flat predicate contributes is flat and can be a member, and unless
    the predicate is always met there is something. -/
theorem Flat.members {p : Predicate} (h : p.Flat) :
    (p ≠ .always → 1 ≤ p.members.length) ∧ ∀ q ∈ p.members, q.IsMember ∧ q.Flat := by
  by_cases halways : p = .always
  · rw [halways]
    exact ⟨fun hne => absurd rfl hne, fun q hq => absurd hq List.not_mem_nil⟩
  by_cases hand : ∃ ps, p = .and ps
  · rcases hand with ⟨ps, rfl⟩
    have hps := flat_and.mp h
    exact ⟨fun _ => Nat.le_of_succ_le hps.1, hps.2⟩
  · -- Anything else contributes itself.
    have hself : p.IsMember := ⟨halways, not_exists.mp hand⟩
    rw [hself.members]
    exact ⟨fun _ => Nat.le_refl 1, List.forall_mem_singleton.mpr ⟨hself, h⟩⟩

/-- Two flat predicates joined. -/
theorem Flat.both {p q : Predicate} (hp : p.Flat) (hq : q.Flat) : (p.both q).Flat := by
  by_cases hpa : p = .always
  · rw [hpa, always_both]
    exact hq
  by_cases hqa : q = .always
  · rw [hqa, both_always]
    exact hp
  -- Neither is always met, so each contributes a member at least.
  rw [both_eq_and hpa hqa, flat_and]
  refine ⟨?_, fun r hr => ?_⟩
  · have hsome := hp.members.1 hpa
    have hmore := hq.members.1 hqa
    rw [List.length_append]
    omega
  · rcases List.mem_append.mp hr with hr | hr
    · exact hp.members.2 r hr
    · exact hq.members.2 r hr

/-- A list of flat predicates joined. -/
theorem Flat.all {ps : List Predicate} (h : ∀ p ∈ ps, p.Flat) : (all ps).Flat := by
  induction ps with
  | nil => exact .of_isLeaf rfl
  | cons p ps ih =>
      rw [List.forall_mem_cons] at h
      rw [all_cons]
      exact h.1.both (ih h.2)

end Flat

end Predicate

namespace Builder

/-- One step of a builder. -/
inductive Step where
  /-- A predicate that may be absent. -/
  | push (p : Option Predicate)
  /-- A filter that may be absent, on a field of the row. -/
  | field (name : String) (kind : Filter.Kind) (f : Option (Filter kind))
  /-- A filter that may be absent, on a field of a relation. -/
  | join (relation name : String) (kind : Filter.Kind) (f : Option (Filter kind))

/-- The builder after one more step. -/
def take (b : Builder) : Step → Builder
  | .push p => b.push p
  | .field name _ f => b.field name f
  | .join relation name _ f => b.join relation name f

/-- The builder after a sequence of steps. -/
def run (steps : List Step) : Builder := steps.foldl take empty

/-- The predicate of a step. What is absent is always met. -/
def Step.predicate : Step → Predicate
  | .push p => p.getD .always
  | .field name _ f => predicateOf (.field name) f
  | .join relation name _ f => predicateOf (.join relation name) f

theorem build_push (b : Builder) (p : Option Predicate) :
    (b.push p).build = b.build.both (p.getD .always) := by
  cases p with
  | none => rw [push, Option.getD_none, Predicate.both_always]
  | some p =>
      rw [push, Option.getD_some, build, build, Predicate.all_append, Predicate.all_singleton]

/-- Each step joins its predicate to what was built before. -/
theorem build_take (b : Builder) (step : Step) :
    (b.take step).build = b.build.both step.predicate := by
  cases step with
  | push p => exact b.build_push p
  | field name kind f =>
      rw [take, field, gather, build_push]
      cases f <;> rfl
  | join relation name kind f =>
      rw [take, join, gather, build_push]
      cases f <;> rfl

/-- A sequence of steps builds their predicates joined. -/
theorem build_run (steps : List Step) : (run steps).build = .all (steps.map Step.predicate) := by
  have hfrom : ∀ b : Builder, (steps.foldl take b).build =
      b.build.both (.all (steps.map Step.predicate)) := by
    -- The builder is what the steps before have gathered, so it varies.
    induction steps with
    | nil => intro b; exact (Predicate.both_always _).symm
    | cons step steps ih =>
        intro b
        rw [List.foldl_cons, ih, build_take, List.map_cons, Predicate.all_cons,
          Predicate.both_assoc]
  rw [run, hfrom]
  exact Predicate.always_both _

/-- Steps may be gathered in groups, each in a builder of its own. -/
theorem build_run_flatten (groups : List (List Step)) :
    (run groups.flatten).build = .all (groups.map fun group => (run group).build) := by
  rw [build_run, List.map_flatten, ← List.flatMap_def, Predicate.all_flatMap]
  simp only [build_run]

end Builder

namespace Predicate

/-- The predicate was built from leaves by negating, joining and compiling
    filters, with no conjunction written down. -/
inductive Built : Predicate → Prop where
  | leaf {p : Predicate} (h : p.isLeaf = true) : Built p
  | not {p : Predicate} (h : Built p) : Built (.not p)
  | both {p q : Predicate} (hp : Built p) (hq : Built q) : Built (p.both q)
  | all {ps : List Predicate} (h : ∀ p ∈ ps, Built p) : Built (all ps)
  | filter (path : FieldPath) {kind : Filter.Kind} (f : Option (Filter kind)) :
    Built (predicateOf path f)
  | steps (steps : List Builder.Step) (h : ∀ p, .push (some p) ∈ steps → Built p) :
    Built (Builder.run steps).build

/-- The leaf of a condition is a leaf, or a negated one. -/
theorem Flat.of_leaf? {s : Scalar} {path : FieldPath} {c : Condition} {v : c.Operand s}
    {leaf : Predicate} (h : c.leaf? path v = some leaf) : leaf.Flat := by
  cases c with
  | specified =>
      cases v <;>
      · simp only [Condition.leaf?, Option.some.injEq] at h
        subst h
        exact .of_isLeaf rfl
  | oneOf | noneOf =>
      cases v with
      | nil => simp only [Condition.leaf?, reduceCtorEq] at h
      | cons v vs =>
          simp only [Condition.leaf?, Option.some.injEq] at h
          subst h
          exact .of_isLeaf rfl
  | doesNotContain =>
      simp only [Condition.leaf?, Option.some.injEq] at h
      subst h
      exact flat_not.mpr (.of_isLeaf rfl)
  | _ =>
      simp only [Condition.leaf?, Option.some.injEq] at h
      subst h
      exact .of_isLeaf rfl

/-- Filters compile to flat predicates. -/
theorem Flat.of_filter (path : FieldPath) {kind : Filter.Kind} (f : Option (Filter kind)) :
    (predicateOf path f).Flat := by
  cases f with
  | none => exact .of_isLeaf rfl
  | some f =>
      refine Flat.all fun leaf hleaf => ?_
      rcases List.mem_filterMap.mp hleaf with ⟨c, -, hc⟩
      rcases Option.bind_eq_some_iff.mp hc with ⟨v, -, hv⟩
      exact .of_leaf? hv

/-- Whatever was built is flat. The cases are the ways to build. -/
theorem Built.flat {p : Predicate} (h : Built p) : p.Flat := by
  induction h with
  | leaf h => exact .of_isLeaf h
  | not _ ih => exact flat_not.mpr ih
  | both _ _ ihp ihq => exact ihp.both ihq
  | all _ ih => exact .all ih
  | filter path f => exact .of_filter path f
  | steps steps _ ih =>
      -- What was pushed was built before. The other steps compile a filter or
      -- count as always met.
      rw [Builder.build_run]
      refine .all fun p hp => ?_
      rcases List.mem_map.mp hp with ⟨step, hstep, rfl⟩
      cases step with
      | push p =>
          cases p with
          | none => exact .of_isLeaf rfl
          | some p => exact ih p hstep
      | field name kind f => exact .of_filter _ f
      | join relation name kind f => exact .of_filter _ f

/-- Two or more members that contribute themselves are joined as they are. -/
theorem all_eq_and {ps : List Predicate} (hlength : 2 ≤ ps.length)
    (hps : ∀ p ∈ ps, p.IsMember) : all ps = .and ps := by
  have hmembers : (all ps).members = ps := members_all_of_leaves fun p hp => (hps p hp).members
  -- Only a conjunction contributes two members or more.
  rcases (all ps).members_cases with h | ⟨qs, h⟩ | h
  · rw [h, members] at hmembers
    rw [← hmembers, List.length_nil] at hlength
    omega
  · rw [h, members] at hmembers
    rw [h, hmembers]
  · rw [h] at hmembers
    rw [← hmembers, List.length_singleton] at hlength
    omega

mutual

/-- Whatever is flat can be built, by joining the members of each conjunction
    again. -/
theorem Flat.built : ∀ {p : Predicate}, p.Flat → Built p
  | .not inner, h => .not (Flat.built (flat_not.mp h))
  | .and ps, h => by
      have hps := flat_and.mp h
      rw [← all_eq_and hps.1 fun q hq => (hps.2 q hq).1]
      exact .all (built_of_flat fun q hq => (hps.2 q hq).2)
  | .compare .., _ | .oneOf .., _ | .noneOf .., _ | .isNull .., _ | .isNotNull .., _
  | .like .., _ | .contains .., _ | .always, _ => .leaf rfl

theorem built_of_flat : ∀ {ps : List Predicate}, (∀ p ∈ ps, p.Flat) → ∀ p ∈ ps, Built p
  | [], _ => fun _ hp => absurd hp List.not_mem_nil
  | p :: ps, h => by
      rw [List.forall_mem_cons] at h ⊢
      exact ⟨Flat.built h.1, built_of_flat h.2⟩

end

theorem built_iff_flat {p : Predicate} : Built p ↔ p.Flat := ⟨Built.flat, Flat.built⟩

/-- Joining is associative, and what is always met is neutral. So lists may be
    joined in parts, and a builder joins the predicates of its steps, in
    whatever groups they were gathered. What can be built in all these ways is
    exactly what has flat conjunctions everywhere. -/
theorem conjunctions_built_flat :
    (∀ p q r : Predicate, (p.both q).both r = p.both (q.both r)) ∧
      (∀ p : Predicate, always.both p = p ∧ p.both .always = p) ∧
      (∀ ps qs : List Predicate, all (ps ++ qs) = (all ps).both (all qs)) ∧
      (∀ steps : List Builder.Step,
        (Builder.run steps).build = all (steps.map Builder.Step.predicate)) ∧
      (∀ groups : List (List Builder.Step),
        (Builder.run groups.flatten).build = all (groups.map fun group =>
          (Builder.run group).build)) ∧
      ∀ p : Predicate, Built p ↔ p.Flat :=
  ⟨both_assoc, fun p => ⟨always_both p, both_always p⟩, all_append, Builder.build_run,
    Builder.build_run_flatten, fun _ => built_iff_flat⟩

end Predicate

end RowSieve
