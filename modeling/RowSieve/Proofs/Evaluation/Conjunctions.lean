import RowSieve.Proofs.Evaluation.Evaluable

/-!
# Conjunctions as They Are Evaluated

A conjunction is built flat and evaluated member by member. Between the list of
predicates that are joined and the conjunction that is built, members that are
always met disappear and members that are conjunctions are taken apart. Neither
shows in the result. Masks are joined slot by slot, which is associative, and a
mask that is met everywhere changes none. Failures do not move either: the
leaves are evaluated in the same order, and what disappears has no leaves.

So a list that is joined has the mask, or the first failure, of the list as the
members of one conjunction. If the members come in another order or more than
once, another of them may be the first to fail. Whether one fails does not
change, nor does the mask, because a conjunction is settled by which members
there are.

## Theorems

* `Mask.and_assoc`, `Mask.and_met`, `Mask.met_and`: Joining masks.
* `Truth.allOf_congr`: A conjunction depends on which members there are.
* `Batch.evaluateAll_append`, `Batch.evaluateAll_and`: Members in two parts, and
  a mask in front of them.
* `Batch.evaluate_members`: A predicate is evaluated as what it contributes.
* `Batch.evaluateAll_members`: Members are evaluated as what they contribute.
* `Batch.evaluate_all`: What a joined list is evaluated to.
-/

namespace RowSieve

namespace Mask

/-- Joining masks slot by slot is associative if joining slots is. -/
theorem zipWith_assoc {op : Truth → Truth → Truth} (h : ∀ t u v, op (op t u) v = op t (op u v))
    (m n k : Mask) :
    List.zipWith op (List.zipWith op m n) k = List.zipWith op m (List.zipWith op n k) := by
  induction m generalizing n k with
  | nil => rfl
  | cons t m ih =>
      cases n with
      | nil => rfl
      | cons u n =>
          cases k with
          | nil => rfl
          | cons v k =>
              simp only [List.zipWith_cons_cons, ih, h]

/-- A mask is not changed by a constant one whose slots change nothing. -/
theorem zipWith_constant {op : Truth → Truth → Truth} {u : Truth} (h : ∀ t, op t u = t)
    (m : Mask) : List.zipWith op m (constant m.length u) = m := by
  induction m with
  | nil => rfl
  | cons t m ih =>
      rw [constant] at ih ⊢
      rw [List.length_cons, List.replicate_succ, List.zipWith_cons_cons, ih, h]

theorem and_assoc (m n k : Mask) : (m.and n).and k = m.and (n.and k) :=
  zipWith_assoc Truth.and_assoc m n k

theorem and_met (m : Mask) : m.and (constant m.length .met) = m :=
  zipWith_constant (fun t => by cases t <;> rfl) m

theorem met_and (m : Mask) : Mask.and (constant m.length .met) m = m := by
  rw [Mask.and, List.zipWith_comm]
  exact zipWith_constant Truth.met_and m

end Mask

/-- A conjunction depends on which members there are, and not on their order
    or number. -/
theorem Truth.allOf_congr {ts us : List Truth} (h : ∀ t, t ∈ ts ↔ t ∈ us) :
    allOf ts = allOf us := by
  simp only [allOf, h]

namespace Batch

variable {b : Batch}

/-- Members in two parts: the second part starts from the mask of the first. -/
theorem evaluateAll_append (m : Mask) (ps qs : List Predicate) :
    b.evaluateAll m (ps ++ qs) = b.evaluateAll m ps >>= fun n => b.evaluateAll n qs := by
  induction ps generalizing m with
  | nil => rfl
  | cons p ps ih =>
      rw [List.cons_append, evaluateAll, evaluateAll]
      cases b.evaluate p with
      | error e => rfl
      | ok n => exact ih (m.and n)

/-- A mask in front of some members may as well be joined with them at the
    end. -/
theorem evaluateAll_and (m n : Mask) (ps : List Predicate) :
    b.evaluateAll (m.and n) ps = (b.evaluateAll n ps).map m.and := by
  induction ps generalizing n with
  | nil => rfl
  | cons p ps ih =>
      rw [evaluateAll, evaluateAll]
      cases b.evaluate p with
      | error e => rfl
      | ok k =>
          change b.evaluateAll ((m.and n).and k) ps = (b.evaluateAll (n.and k) ps).map m.and
          rw [Mask.and_assoc, ih]

/-- A predicate is evaluated as the conjunction of what it contributes to
    one. -/
theorem evaluate_members (p : Predicate) :
    b.evaluateAll (.constant b.size .met) p.members = b.evaluate p := by
  rcases p.members_cases with rfl | ⟨ps, rfl⟩ | hself
  · rw [Predicate.members, evaluateAll, evaluate]
  · rw [Predicate.members, evaluate]
  · -- One member, whose mask is joined with one that changes nothing.
    rw [hself, evaluateAll]
    cases h : b.evaluate p with
    | error e => rfl
    | ok m =>
        change Except.ok (Mask.and (.constant b.size .met) m) = .ok m
        rw [← length_of_evaluate h, Mask.met_and]

/-- Members may be replaced by what they contribute, with the same first
    failure. -/
theorem evaluateAll_members {m : Mask} (hm : m.length = b.size) (ps : List Predicate) :
    b.evaluateAll m (ps.flatMap Predicate.members) = b.evaluateAll m ps := by
  induction ps generalizing m with
  | nil => rfl
  | cons p ps ih =>
      -- What the first member contributes comes to its mask, or its failure.
      have hfirst : b.evaluateAll m p.members = (b.evaluate p).map m.and := by
        have hmet := b.evaluateAll_and m (.constant b.size .met) p.members
        rw [← hm, Mask.and_met, hm, evaluate_members] at hmet
        exact hmet
      rw [List.flatMap_cons, evaluateAll_append, hfirst, evaluateAll]
      cases h : b.evaluate p with
      | error e => rfl
      | ok n =>
          refine ih (m := m.and n) ?_
          rw [Mask.and, List.length_zipWith, hm, length_of_evaluate h, Nat.min_self]

/-- The mask of a conjunction depends on which members there are, and so does
    whether it has one. -/
theorem evaluate_and_congr {ps qs : List Predicate} (h : ∀ p, p ∈ qs ↔ p ∈ ps) {m : Mask}
    (hm : b.evaluate (.and qs) = .ok m) : b.evaluate (.and ps) = .ok m := by
  have hsome : b.Evaluable (.and ps) := evaluable_and.mpr fun p hp =>
    evaluable_and.mp ⟨m, hm⟩ p ((h p).mpr hp)
  rw [hsome.evaluate_eq, evaluate_eq_ok hm, Except.ok.injEq]
  -- On each row the same truth values are joined.
  refine List.map_congr_left fun row _ => ?_
  rw [Row.truth, Row.truth, Row.truths_eq_map, Row.truths_eq_map]
  refine Truth.allOf_congr fun t => ?_
  simp only [List.mem_map, h]

/-- A joined list has the mask of the list as the members of one conjunction,
    or its first failure. A list of the same members, in any order and any
    number, has a mask if and only if this one has, and then it is the same. -/
theorem evaluate_all (b : Batch) (ps : List Predicate) :
    b.evaluate (.all ps) = b.evaluate (.and ps) ∧
      ∀ qs, (∀ p, p ∈ qs ↔ p ∈ ps) →
        ∀ m, b.evaluate (.all qs) = .ok m ↔ b.evaluate (.all ps) = .ok m := by
  have hall (ps : List Predicate) : b.evaluate (.all ps) = b.evaluate (.and ps) := by
    have hlength : (Mask.constant b.size .met).length = b.size := List.length_replicate ..
    rw [← evaluate_members, Predicate.members_all, evaluateAll_members hlength, evaluate]
  refine ⟨hall ps, fun qs hqs m => ?_⟩
  rw [hall, hall]
  exact ⟨evaluate_and_congr hqs, evaluate_and_congr fun p => (hqs p).symm⟩

end Batch

/-- The question about the shelf as a conjunction that was not built flat, in
    another order and with one member twice. -/
def shelfQuestions : List Predicate :=
  [.and [numbered], .always, .and [authored, .and []], numbered]

/-- Only the first book has an author, and the flat conjunction says so too. -/
theorem evaluate_all_shelf :
    shelf.evaluate (.and shelfQuestions) = .ok [.met, .failed] ∧
      shelf.evaluate (.all shelfQuestions) = .ok [.met, .failed] ∧
      (∀ p, p ∈ shelfQuestions.reverse ++ shelfQuestions ↔ p ∈ shelfQuestions) ∧
      shelf.evaluate (.all (shelfQuestions.reverse ++ shelfQuestions)) = .ok [.met, .failed] := by
  have hmask : shelf.evaluate (.and shelfQuestions) = .ok [.met, .failed] := rfl
  have hsame (p : Predicate) :
      p ∈ shelfQuestions.reverse ++ shelfQuestions ↔ p ∈ shelfQuestions := by
    rw [List.mem_append, List.mem_reverse, or_self]
  have h := shelf.evaluate_all shelfQuestions
  have hall := h.1.trans hmask
  exact ⟨hmask, hall, hsame, (h.2 _ hsame _).mpr hall⟩

end RowSieve
