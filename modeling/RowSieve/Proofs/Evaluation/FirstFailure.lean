import RowSieve.Proofs.Evaluation.Evaluable

/-!
# The First Leaf That Fails

A predicate that cannot be evaluated fails with the error of one of its leaves,
and it is the leftmost one that fails on its own. The connectives add nothing
to this. They do not look at masks to decide whether a leaf is needed, so no
leaf hides behind another one that has settled every row. Nor do they fail
themselves. They join masks slot by slot, which could go wrong only for masks
of different lengths, and every mask has a slot for each row.

The second point is easy to lose, because joining masks here gives an answer
for any two lengths. So evaluation is written down once more, with a joint that
refuses masks of different lengths. It comes to the same result on every
predicate, so the refusal never happens.

A list of constants is a leaf, but it fails in the same way: the first constant
that the column cannot be compared with decides. A list without constants never
fails, not even on a path that leads nowhere.

## Main definitions

* `Predicate.leaves`: The leaves of a predicate from left to right.
* `Batch.failureOf?`: The failure of a predicate that stands alone.
* `Refusal`: Why strict evaluation stopped.
* `Mask.join`: Two masks joined, if they have one length.
* `Batch.evaluateStrictly`: Evaluation that refuses masks of different lengths.
* `FailsFirst`: The first attempt in a list that fails.

## Theorems

* `Batch.failure?_evaluateAll`, `Batch.failure?_equalsOneOf`: The first member
  or constant that fails.
* `Batch.failure?_evaluate`: The first leaf that fails.
* `Batch.join_step`: A joint of two masks holds, if each has a slot for each
  row.
* `Batch.evaluateStrictly_eq`: Masks of different lengths never meet.
* `Batch.evaluate_eq_error_iff`: What a predicate fails with.
-/

namespace RowSieve

namespace Predicate

mutual

/-- The leaves of a predicate from left to right: all nodes but negations and
    conjunctions. -/
def leaves : Predicate → List Predicate
  | .compare how path value => [.compare how path value]
  | .oneOf path values => [.oneOf path values]
  | .noneOf path values => [.noneOf path values]
  | .isNull path => [.isNull path]
  | .isNotNull path => [.isNotNull path]
  | .like path pattern => [.like path pattern]
  | .contains path needle => [.contains path needle]
  | .not inner => leaves inner
  | .and members => leavesOfAll members
  | .always => [.always]

/-- The leaves of all members. -/
def leavesOfAll : List Predicate → List Predicate
  | [] => []
  | p :: ps => leaves p ++ leavesOfAll ps

end

end Predicate

namespace Batch

variable {b : Batch}

/-- The failure of a predicate that stands alone. -/
def failureOf? (b : Batch) (p : Predicate) : Option EvaluationError := failure? (b.evaluate p)

/-- A conjunction fails as the first of its members that fails, whatever mask it
    starts from. -/
theorem failure?_evaluateAll (m : Mask) (ps : List Predicate) :
    failure? (b.evaluateAll m ps) = ps.findSome? b.failureOf? := by
  induction ps generalizing m with
  | nil => rfl
  | cons p ps ih =>
      rw [evaluateAll, failure?_bind fun n => ih (m.and n), List.findSome?_cons, failureOf?]
      cases failure? (b.evaluate p) <;> rfl

/-- A list of constants fails as the first comparison that fails. -/
theorem failure?_equalsOneOf (path : FieldPath) (m : Mask) (ls : List Literal) :
    failure? (b.equalsOneOf path m ls) =
      (ls.map (Predicate.compare .equal path)).findSome? b.failureOf? := by
  induction ls generalizing m with
  | nil => rfl
  | cons l ls ih =>
      rw [equalsOneOf, failure?_bind fun n => ih (m.or n), List.map_cons, List.findSome?_cons,
        failureOf?, evaluate]
      cases failure? (b.compared .equal path l) <;> rfl

mutual

/-- A predicate fails as the first of its leaves that fails. -/
theorem failure?_evaluate : ∀ p : Predicate, b.failureOf? p = p.leaves.findSome? b.failureOf?
  | .not inner => by
      rw [failureOf?, evaluate, failure?_bind_ok]
      exact failure?_evaluate inner
  | .and members => by
      rw [failureOf?, evaluate, failure?_evaluateAll]
      exact failure?_members members
  | .compare .. | .oneOf .. | .noneOf .. | .isNull .. | .isNotNull .. | .like .. | .contains ..
  | .always => by
      rw [Predicate.leaves, List.findSome?_singleton]

theorem failure?_members : ∀ ps : List Predicate,
    ps.findSome? b.failureOf? = (Predicate.leavesOfAll ps).findSome? b.failureOf?
  | [] => rfl
  | p :: ps => by
      rw [Predicate.leavesOfAll, List.findSome?_append, ← failure?_evaluate p,
        ← failure?_members ps, List.findSome?_cons]
      cases b.failureOf? p <;> rfl

end

end Batch

/-- Why strict evaluation stopped. -/
inductive Refusal where
  /-- A leaf failed. -/
  | leaf (e : EvaluationError)
  /-- Two masks of different lengths were to be joined. -/
  | lengths (m n : Nat)

/-- Two masks joined slot by slot, if they have one length. -/
def Mask.join (connective : Truth → Truth → Truth) (m n : Mask) : Except Refusal Mask :=
  if m.length = n.length then .ok (List.zipWith connective m n)
  else .error (.lengths m.length n.length)

namespace Batch

/-- A list of constants, where masks of different lengths are refused. -/
def equalsOneOfStrictly (b : Batch) (path : FieldPath) :
    Mask → List Literal → Except Refusal Mask
  | m, [] => .ok m
  | m, value :: values => do
    let n ← (b.compared .equal path value).mapError .leaf
    b.equalsOneOfStrictly path (← Mask.join Truth.or m n) values

mutual

/-- Evaluation that refuses masks of different lengths. Leaves other than lists
    of constants join no masks. -/
def evaluateStrictly (b : Batch) : Predicate → Except Refusal Mask
  | .oneOf path values => b.equalsOneOfStrictly path (.constant b.size .failed) values
  | .noneOf path values => do
    .ok (← b.equalsOneOfStrictly path (.constant b.size .failed) values).not
  | .not inner => do .ok (← b.evaluateStrictly inner).not
  | .and members => b.evaluateAllStrictly (.constant b.size .met) members
  | leaf => (b.evaluate leaf).mapError .leaf

/-- A conjunction, where masks of different lengths are refused. -/
def evaluateAllStrictly (b : Batch) : Mask → List Predicate → Except Refusal Mask
  | m, [] => .ok m
  | m, p :: ps => do
    let n ← b.evaluateStrictly p
    b.evaluateAllStrictly (← Mask.join Truth.and m n) ps

end

variable {b : Batch}

/-- Masks with a slot for each row are never refused, and joining them leaves a
    slot for each row. -/
theorem join_of_size (connective : Truth → Truth → Truth) {m n : Mask} (hm : m.length = b.size)
    (hn : n.length = b.size) :
    Mask.join connective m n = .ok (List.zipWith connective m n) ∧
      (List.zipWith connective m n).length = b.size := by
  refine ⟨if_pos (hm.trans hn.symm), ?_⟩
  rw [List.length_zipWith, hm, hn, Nat.min_self]

/-- One step of strict evaluation: a mask is joined to the one so far, and the
    rest goes on from there. With a slot for each row in both masks the joint
    holds, so only the step or the rest can fail. -/
theorem join_step {attempt : Except EvaluationError Mask} {m : Mask} (hm : m.length = b.size)
    (hattempt : ∀ n, attempt = .ok n → n.length = b.size) (connective : Truth → Truth → Truth)
    {strictRest : Mask → Except Refusal Mask} {rest : Mask → Except EvaluationError Mask}
    (hrest : ∀ joined : Mask, joined.length = b.size →
      strictRest joined = (rest joined).mapError .leaf) :
    (do let n ← attempt.mapError .leaf; strictRest (← Mask.join connective m n)) =
      (attempt >>= fun n => rest (List.zipWith connective m n)).mapError .leaf := by
  cases attempt with
  | error e => rfl
  | ok n =>
      rcases join_of_size connective hm (hattempt n rfl) with ⟨hjoin, hlength⟩
      -- The attempt is over, and what is left is the joint and the rest.
      change (Mask.join connective m n >>= strictRest) = _
      rw [hjoin]
      exact hrest _ hlength

theorem equalsOneOfStrictly_eq {path : FieldPath} {m : Mask} (hm : m.length = b.size)
    (ls : List Literal) :
    b.equalsOneOfStrictly path m ls = (b.equalsOneOf path m ls).mapError .leaf := by
  induction ls generalizing m with
  | nil => rfl
  | cons l ls ih =>
      have hcompared : ∀ n, b.compared .equal path l = .ok n → n.length = b.size := fun n hn => by
        rw [compared_eq_ok hn, List.length_map, size]
      rw [equalsOneOfStrictly, equalsOneOf]
      exact join_step hm hcompared Truth.or fun _ hjoined => ih hjoined

mutual

/-- Masks of different lengths never meet, so strict evaluation stops only where
    a leaf fails, and otherwise comes to the same mask. -/
theorem evaluateStrictly_eq : ∀ p : Predicate,
    b.evaluateStrictly p = (b.evaluate p).mapError .leaf
  | .oneOf path ls => by
      rw [evaluateStrictly, evaluate]
      exact equalsOneOfStrictly_eq (Mask.length_constant ..) ls
  | .noneOf path ls => by
      rw [evaluateStrictly, evaluate, equalsOneOfStrictly_eq (Mask.length_constant ..) ls]
      cases b.equalsOneOf path (.constant b.size .failed) ls <;> rfl
  | .not inner => by
      rw [evaluateStrictly, evaluate, evaluateStrictly_eq inner]
      cases b.evaluate inner <;> rfl
  | .and members => by
      rw [evaluateStrictly, evaluate]
      exact evaluateAllStrictly_eq (Mask.length_constant ..) members
  | .compare .. | .isNull .. | .isNotNull .. | .like .. | .contains .. | .always => rfl

theorem evaluateAllStrictly_eq {m : Mask} (hm : m.length = b.size) : ∀ ps : List Predicate,
    b.evaluateAllStrictly m ps = (b.evaluateAll m ps).mapError .leaf
  | [] => rfl
  | p :: ps => by
      rw [evaluateAllStrictly, evaluateAll, evaluateStrictly_eq p]
      exact join_step hm (fun _ => length_of_evaluate) Truth.and
        fun _ hjoined => evaluateAllStrictly_eq hjoined ps

end

end Batch

/-- Some attempts in order, the first of which to fail does so with the given
    error: all attempts before it succeed. -/
def FailsFirst {ε α β : Type} (attempt : α → Except ε β) (xs : List α) (e : ε) : Prop :=
  ∃ before x after, xs = before ++ x :: after ∧ attempt x = .error e ∧
    ∀ y ∈ before, ∃ result, attempt y = .ok result

namespace Batch

/-- A list of attempts fails first with an error if that is the first failure
    found in it. -/
theorem failsFirst_iff {b : Batch} {ps : List Predicate} {e : EvaluationError} :
    FailsFirst b.evaluate ps e ↔ ps.findSome? b.failureOf? = some e := by
  simp only [FailsFirst, List.findSome?_eq_some_iff, failureOf?, failure?_eq_some_iff,
    failure?_eq_none_iff]

/-- A predicate is an error exactly if one of its leaves is one on its own, and
    then it is the error of the first such leaf. Otherwise it has a mask.
    Connectives do not fail: evaluation that refuses to join masks of different
    lengths is the same on every predicate. A list of constants fails as the
    first of its comparisons, so one without constants never does, whatever its
    path. -/
theorem evaluate_eq_error_iff (b : Batch) (p : Predicate) :
    (∀ e, b.evaluate p = .error e ↔ FailsFirst b.evaluate p.leaves e) ∧
    ((∃ m, b.evaluate p = .ok m) ↔ ∀ leaf ∈ p.leaves, ∃ m, b.evaluate leaf = .ok m) ∧
    b.evaluateStrictly p = (b.evaluate p).mapError .leaf ∧
    ∀ path ls,
      (∀ e, b.evaluate (.oneOf path ls) = .error e ↔
        FailsFirst b.evaluate (ls.map (.compare .equal path)) e) ∧
      (∀ e, b.evaluate (.noneOf path ls) = .error e ↔
        FailsFirst b.evaluate (ls.map (.compare .equal path)) e) ∧
      b.evaluate (.oneOf path []) = .ok (.constant b.size .failed) ∧
      b.evaluate (.noneOf path []) = .ok (.constant b.size .met) := by
  refine ⟨fun e => ?_, ?_, evaluateStrictly_eq p, fun path ls => ⟨fun e => ?_, fun e => ?_, ?_⟩⟩
  · rw [failsFirst_iff, ← failure?_evaluate]
    exact failure?_eq_some_iff.symm
  · have hnone : b.failureOf? p = none ↔ ∀ leaf ∈ p.leaves, b.failureOf? leaf = none := by
      rw [failure?_evaluate, List.findSome?_eq_none_iff]
    simp only [failureOf?, failure?_eq_none_iff] at hnone
    exact hnone
  · rw [failsFirst_iff, ← failure?_equalsOneOf, evaluate]
    exact failure?_eq_some_iff.symm
  · rw [failsFirst_iff, ← failure?_equalsOneOf path (.constant b.size .failed),
      ← failure?_eq_some_iff, evaluate, failure?_bind_ok]
  · refine ⟨by rw [evaluate, equalsOneOf], ?_⟩
    rw [evaluate, equalsOneOf]
    change Except.ok (Mask.not (.constant b.size .failed)) = _
    rw [Mask.not, Mask.constant, List.map_replicate]
    rfl

end Batch

/-- Books out of an empty list, and none with an x in their number or a missing
    price. No row could meet this, but numbers are not text, and there is no
    price. -/
def misfits : Predicate :=
  .and
    [.oneOf (.field "price") [],
     .not (.and [.contains (.field "id") "x", .isNull (.field "price")])]

/-- The empty list fails on no row's account and hides nothing. The search in a
    number is the first leaf that fails, so the missing column goes
    unmentioned. -/
theorem evaluate_eq_error_iff_shelf :
    misfits.leaves = [.oneOf (.field "price") [], .contains (.field "id") "x",
      .isNull (.field "price")] ∧
      shelf.evaluate misfits = .error (.notText (.field "id") (.integer ⟨true, .bits64⟩)) ∧
      FailsFirst shelf.evaluate misfits.leaves
        (.notText (.field "id") (.integer ⟨true, .bits64⟩)) ∧
      shelf.evaluate (.isNull (.field "price")) = .error (.columnNotFound (.field "price")) ∧
      ¬ ∃ m, shelf.evaluate misfits = .ok m := by
  have hfails : shelf.evaluate misfits =
      .error (.notText (.field "id") (.integer ⟨true, .bits64⟩)) := rfl
  have hmissing : shelf.evaluate (.isNull (.field "price")) =
      .error (.columnNotFound (.field "price")) := rfl
  rcases Batch.evaluate_eq_error_iff shelf misfits with ⟨hfirst, hmasks, -⟩
  refine ⟨rfl, hfails, (hfirst _).mp hfails, hmissing, fun hmask => ?_⟩
  rcases hmasks.mp hmask (.isNull (.field "price"))
    (List.mem_cons_of_mem _ (List.mem_cons_of_mem _ List.mem_cons_self)) with ⟨m, hm⟩
  rw [hmissing] at hm
  exact nomatch hm

end RowSieve
