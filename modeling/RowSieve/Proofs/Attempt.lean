/-!
# Attempts that Succeed

What is known about the parts of an attempt once the whole has succeeded.
Evaluation and reading both stop at the first failure, so a result at the end
says that every step before it had a result as well. The lemmas here turn that
around: they take a success apart into the successes it was built from.

## Main definitions

* `failure?`: Why an attempt failed, if it did.

## Theorems

* `bind_eq_ok`: A sequence succeeds if both of its steps do.
* `bind_succeeds`: The same, where the result does not matter.
* `mapM_eq_ok`: A list of attempts succeeds with the results of its members.
* `mapM_succeeds`: A list of attempts succeeds if each of its members does.
* `mapM_map`: Attempts that commute with a change of their argument.
* `toOption_eq_some_iff`, `toOption_eq_none_iff`, `toOption_bind`,
  `toOption_map`: The result of an attempt, if there is one.
* `ok_iff_of_toOption_eq`: Attempts with the same result.
* `failure?_eq_some_iff`, `failure?_eq_none_iff`: The failure of an attempt, if
  there is one.
* `failure?_bind`, `failure?_bind_ok`: The failure of a sequence.
-/

namespace RowSieve

variable {ε α β : Type}

/-- A sequence of two steps succeeds exactly if the first has a result and the
    second succeeds on it. -/
theorem bind_eq_ok {x : Except ε α} {f : α → Except ε β} {b : β} :
    (x >>= f) = .ok b ↔ ∃ a, x = .ok a ∧ f a = .ok b := by
  cases x with
  | error e =>
      simp only [bind, Except.bind, reduceCtorEq, false_and, exists_false]
  | ok a =>
      simp only [bind, Except.bind, Except.ok.injEq, exists_eq_left']

theorem bind_succeeds {x : Except ε α} {f : α → Except ε β} :
    (∃ b, (x >>= f) = .ok b) ↔ ∃ a, x = .ok a ∧ ∃ b, f a = .ok b := by
  constructor
  · intro h
    rcases h with ⟨b, hb⟩
    rcases bind_eq_ok.mp hb with ⟨a, ha, hf⟩
    exact ⟨a, ha, b, hf⟩
  · intro h
    rcases h with ⟨a, ha, b, hf⟩
    exact ⟨b, bind_eq_ok.mpr ⟨a, ha, hf⟩⟩

/-- Attempts on the members of a list that all succeed give the list of their
    results. What a single success has to look like is all that is asked. -/
theorem mapM_eq_ok {f : α → Except ε β} {g : α → β} (hfg : ∀ x y, f x = .ok y → y = g x)
    {xs : List α} {ys : List β} (h : xs.mapM f = .ok ys) : ys = xs.map g := by
  induction xs generalizing ys with
  | nil =>
      simp only [List.mapM_nil, pure, Except.pure, Except.ok.injEq] at h
      rw [← h, List.map_nil]
  | cons x xs ih =>
      rw [List.mapM_cons, bind_eq_ok] at h
      rcases h with ⟨y, hy, h⟩
      rw [bind_eq_ok] at h
      rcases h with ⟨rest, hrest, h⟩
      simp only [pure, Except.pure, Except.ok.injEq] at h
      rw [← h, List.map_cons, hfg x y hy, ih hrest]

theorem mapM_succeeds {f : α → Except ε β} (xs : List α) :
    (∃ ys, xs.mapM f = .ok ys) ↔ ∀ x ∈ xs, ∃ y, f x = .ok y := by
  induction xs with
  | nil =>
      simp only [List.mapM_nil, pure, Except.pure, Except.ok.injEq, exists_eq', List.not_mem_nil,
        false_implies, implies_true]
  | cons x xs ih =>
      -- The results of a longer list are there once its parts are.
      have hcons : (∃ ys, (x :: xs).mapM f = .ok ys) ↔
          (∃ y, f x = .ok y) ∧ ∃ ys, xs.mapM f = .ok ys := by
        rw [List.mapM_cons, bind_succeeds]
        simp only [bind_succeeds, pure, Except.pure, Except.ok.injEq, exists_eq', and_true,
          exists_and_right]
      rw [hcons, ih, List.forall_mem_cons]

/-- Attempts that carry a change of the argument over to the result do so
    along a list, with the same first failure. -/
theorem mapM_map {γ δ : Type} {f : α → Except ε β} {g : γ → Except ε δ} {before : α → γ}
    {after : β → δ} (xs : List α) (h : ∀ x ∈ xs, g (before x) = (f x).map after) :
    (xs.map before).mapM g = (xs.mapM f).map (List.map after) := by
  induction xs with
  | nil => rfl
  | cons x xs ih =>
      have hx := h x List.mem_cons_self
      have hxs := ih fun y hy => h y (List.mem_cons_of_mem _ hy)
      rw [List.map_cons, List.mapM_cons, List.mapM_cons, hx, hxs]
      cases f x with
      | error e => rfl
      | ok y => cases xs.mapM f <;> rfl

theorem toOption_eq_some_iff {x : Except ε α} {a : α} : x.toOption = some a ↔ x = .ok a := by
  cases x <;> simp only [Except.toOption, Option.some.injEq, Except.ok.injEq, reduceCtorEq]

theorem toOption_eq_none_iff {x : Except ε α} : x.toOption = none ↔ ∃ e, x = .error e := by
  cases x <;>
    simp only [Except.toOption, Except.error.injEq, exists_eq', exists_false, reduceCtorEq]

/-- Attempts with the same result, if any, succeed alike. -/
theorem ok_iff_of_toOption_eq {x y : Except ε α} (h : x.toOption = y.toOption) (a : α) :
    x = .ok a ↔ y = .ok a := by
  rw [← toOption_eq_some_iff, ← toOption_eq_some_iff, h]

theorem toOption_bind (x : Except ε α) (f : α → Except ε β) :
    (x >>= f).toOption = x.toOption.bind fun a => (f a).toOption := by
  cases x <;> rfl

theorem toOption_map (f : α → β) (x : Except ε α) : (x.map f).toOption = x.toOption.map f := by
  cases x <;> rfl

/-- Why an attempt failed, if it did. -/
def failure? : Except ε α → Option ε
  | .error e => some e
  | .ok _ => none

theorem failure?_eq_some_iff {x : Except ε α} {e : ε} : failure? x = some e ↔ x = .error e := by
  cases x <;> simp only [failure?, Option.some.injEq, Except.error.injEq, reduceCtorEq]

theorem failure?_eq_none_iff {x : Except ε α} : failure? x = none ↔ ∃ a, x = .ok a := by
  cases x <;> simp only [failure?, Except.ok.injEq, exists_eq', exists_false, reduceCtorEq]

/-- A sequence of two steps fails as the first step does, or else as the second
    one would after any first step. -/
theorem failure?_bind {x : Except ε α} {f : α → Except ε β} {later : Option ε}
    (h : ∀ a, failure? (f a) = later) : failure? (x >>= f) = (failure? x).or later := by
  cases x with
  | error e => rfl
  | ok a => exact h a

theorem failure?_bind_ok {x : Except ε α} {f : α → β} :
    failure? (x >>= fun a => .ok (f a)) = failure? x := by
  cases x <;> rfl

end RowSieve
