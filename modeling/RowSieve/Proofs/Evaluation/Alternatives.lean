import RowSieve.Proofs.Evaluation.Conjunctions
import RowSieve.Proofs.Evaluation.Trichotomy

/-!
# Lists of Constants

A list of constants is compared with a field one constant after the other, and
each comparison converts the column in its own way. A date-time with a fraction
may take the column to nanoseconds, where one of its cells has no value, and the
next date-time may not. So a row can be open for one constant and settled for
another, and it is not clear from the outset that the order of the constants
does not matter.

It does not. The comparisons are joined by a disjunction of three truth values,
which is settled by which members there are. A list therefore says what the set
of its constants says, and a list in two parts is the disjunction of its parts,
with the first failure of both. The list that is to be avoided is the negation
of the list that is to be met: on each row one of the two is met, or both are
open. Without constants nothing is compared, so a missing field is settled as
well.

## Theorems

* `Truth.anyOf_congr`: A disjunction depends on which members there are.
* `Batch.equalsOneOf_append`, `Batch.equalsOneOf_or`: Constants in two parts,
  and a mask in front of them.
* `Batch.evaluate_noneOf`: Avoiding a list is the negation of meeting it.
* `Batch.evaluate_oneOf_append`: A list in two parts.
* `Batch.evaluate_oneOf_congr`: A list says what the set of its constants says.
* `Batch.evaluate_oneOf_noneOf`: The two kinds of list together.
-/

namespace RowSieve

namespace Truth

/-- A disjunction depends on which members there are, and not on their order or
    number. -/
theorem anyOf_congr {ts us : List Truth} (h : ∀ t, t ∈ ts ↔ t ∈ us) : anyOf ts = anyOf us := by
  simp only [anyOf, h]

/-- A truth value and its negation: one of them is met and the other failed, or
    both are open. -/
theorem not_cases (t : Truth) :
    t = .met ∧ t.not = .failed ∨ t = .failed ∧ t.not = .met ∨ t = .unknown ∧ t.not = .unknown := by
  cases t with
  | met => exact .inl ⟨rfl, rfl⟩
  | failed => exact .inr (.inl ⟨rfl, rfl⟩)
  | unknown => exact .inr (.inr ⟨rfl, rfl⟩)

end Truth

namespace Mask

theorem or_assoc (m n k : Mask) : (m.or n).or k = m.or (n.or k) := zipWith_assoc Truth.or_assoc m n k

theorem or_failed (m : Mask) : m.or (constant m.length .failed) = m :=
  zipWith_constant (fun t => by cases t <;> rfl) m

end Mask

namespace Batch

variable {b : Batch} {path : FieldPath}

/-- Constants in two parts: the second part starts from the mask of the first. -/
theorem equalsOneOf_append (m : Mask) (ls more : List Literal) :
    b.equalsOneOf path m (ls ++ more) =
      b.equalsOneOf path m ls >>= fun n => b.equalsOneOf path n more := by
  induction ls generalizing m with
  | nil => rfl
  | cons l ls ih =>
      rw [List.cons_append, equalsOneOf, equalsOneOf]
      cases b.compared .equal path l with
      | error e => rfl
      | ok n => exact ih (m.or n)

/-- A mask in front of some constants may as well be joined with them at the
    end. -/
theorem equalsOneOf_or (m n : Mask) (ls : List Literal) :
    b.equalsOneOf path (m.or n) ls = (b.equalsOneOf path n ls).map m.or := by
  induction ls generalizing n with
  | nil => rfl
  | cons l ls ih =>
      rw [equalsOneOf, equalsOneOf]
      cases b.compared .equal path l with
      | error e => rfl
      | ok k =>
          change b.equalsOneOf path ((m.or n).or k) ls =
            (b.equalsOneOf path (n.or k) ls).map m.or
          rw [Mask.or_assoc, ih]

theorem evaluate_oneOf_nil : b.evaluate (.oneOf path []) = .ok (.constant b.size .failed) := by
  rw [evaluate, equalsOneOf]

/-- Avoiding a list is the negation of meeting it, failures included. -/
theorem evaluate_noneOf (ls : List Literal) :
    b.evaluate (.noneOf path ls) = (b.evaluate (.oneOf path ls)).map Mask.not := by
  rw [evaluate, evaluate]
  cases b.equalsOneOf path (.constant b.size .failed) ls <;> rfl

/-- A list in two parts is the disjunction of its parts. The constants of the
    second part are compared only if none of the first part fails. -/
theorem evaluate_oneOf_append (ls more : List Literal) :
    b.evaluate (.oneOf path (ls ++ more)) = (do
      let m ← b.evaluate (.oneOf path ls)
      let n ← b.evaluate (.oneOf path more)
      .ok (m.or n)) := by
  rw [evaluate, equalsOneOf_append, ← evaluate]
  cases hm : b.evaluate (.oneOf path ls) with
  | error e => rfl
  | ok m =>
      -- The mask of the first part is what the second part starts from.
      have hfailed : m.or (.constant b.size .failed) = m := by
        rw [← length_of_evaluate hm, Mask.or_failed]
      have hrest : b.equalsOneOf path (m.or (.constant b.size .failed)) more = _ :=
        equalsOneOf_or m _ more
      rw [hfailed, ← evaluate] at hrest
      change b.equalsOneOf path m more = _
      rw [hrest]
      cases b.evaluate (.oneOf path more) <;> rfl

/-- A list has a mask if each of its constants can be compared with the column. -/
theorem evaluable_oneOf {ls : List Literal} :
    b.Evaluable (.oneOf path ls) ↔ ∀ l ∈ ls, ∃ m, b.compared .equal path l = .ok m := by
  rw [Evaluable, evaluate]
  exact equalsOneOf_succeeds ls

/-- The mask of a list depends on which constants it has, and so does whether
    there is one. -/
theorem evaluate_oneOf_congr {ks ls : List Literal} (h : ∀ l, l ∈ ks ↔ l ∈ ls) {m : Mask}
    (hm : b.evaluate (.oneOf path ks) = .ok m) : b.evaluate (.oneOf path ls) = .ok m := by
  have hsome : b.Evaluable (.oneOf path ls) := evaluable_oneOf.mpr fun l hl =>
    evaluable_oneOf.mp ⟨m, hm⟩ l ((h l).mpr hl)
  rw [hsome.evaluate_eq, evaluate_eq_ok hm, Except.ok.injEq]
  -- On each row the same comparisons are joined.
  refine List.map_congr_left fun row _ => ?_
  rw [Row.truth, Row.truth]
  refine Truth.anyOf_congr fun t => ?_
  simp only [List.mem_map, h]

/-- Lists with the same constants, in any order and any number, have the same
    mask or none, be they to be met or to be avoided. A list can be avoided
    where it can be met, and on each row exactly one of the two is met or both
    are open. A list in two parts is the disjunction of its parts. Without
    constants a list is met by no row and avoided by every one, whatever the
    field holds and wherever the path leads. -/
theorem evaluate_oneOf_noneOf (b : Batch) (path : FieldPath) (ls : List Literal) :
    (∀ ks : List Literal, (∀ l, l ∈ ks ↔ l ∈ ls) → ∀ m,
      (b.evaluate (.oneOf path ks) = .ok m ↔ b.evaluate (.oneOf path ls) = .ok m) ∧
      (b.evaluate (.noneOf path ks) = .ok m ↔ b.evaluate (.noneOf path ls) = .ok m)) ∧
    ((∃ m, b.evaluate (.oneOf path ls) = .ok m) ↔ ∃ n, b.evaluate (.noneOf path ls) = .ok n) ∧
    (∀ m n, b.evaluate (.oneOf path ls) = .ok m → b.evaluate (.noneOf path ls) = .ok n →
      m.length = b.size ∧ n.length = b.size ∧ ∀ i < b.size,
        m[i]? = some .met ∧ n[i]? = some .failed ∨ m[i]? = some .failed ∧ n[i]? = some .met ∨
          m[i]? = some .unknown ∧ n[i]? = some .unknown) ∧
    (∀ more : List Literal, b.evaluate (.oneOf path (ls ++ more)) = do
      let m ← b.evaluate (.oneOf path ls)
      let n ← b.evaluate (.oneOf path more)
      .ok (m.or n)) ∧
    b.evaluate (.oneOf path []) = .ok (.constant b.size .failed) ∧
    b.evaluate (.noneOf path []) = .ok (.constant b.size .met) := by
  have hnone : ∀ ks n, b.evaluate (.noneOf path ks) = .ok n ↔
      ∃ m, b.evaluate (.oneOf path ks) = .ok m ∧ m.not = n := by
    intro ks n
    rw [evaluate_noneOf]
    cases b.evaluate (.oneOf path ks) <;>
      simp only [Except.map, reduceCtorEq, false_and, exists_false, Except.ok.injEq,
        exists_eq_left']
  refine ⟨fun ks hks m => ?_, ?_, fun m n hm hn => ?_, evaluate_oneOf_append ls,
    evaluate_oneOf_nil, ?_⟩
  · have hone : ∀ k, b.evaluate (.oneOf path ks) = .ok k ↔ b.evaluate (.oneOf path ls) = .ok k :=
      fun k => ⟨evaluate_oneOf_congr hks, evaluate_oneOf_congr fun l => (hks l).symm⟩
    refine ⟨hone m, ?_⟩
    rw [hnone, hnone]
    simp only [hone]
  · simp only [hnone]
    exact ⟨fun ⟨m, hm⟩ => ⟨m.not, m, hm, rfl⟩, fun ⟨_, m, hm, _⟩ => ⟨m, hm⟩⟩
  · refine ⟨length_of_evaluate hm, length_of_evaluate hn, fun i hi => ?_⟩
    rcases (hnone ls n).mp hn with ⟨k, hk, rfl⟩
    rw [hm, Except.ok.injEq] at hk
    subst hk
    rw [← length_of_evaluate hm] at hi
    rw [Mask.not, List.getElem?_map, List.getElem?_eq_getElem hi, Option.map_some]
    simp only [Option.some.injEq]
    exact Truth.not_cases _
  · rw [evaluate_noneOf, evaluate_oneOf_nil, Mask.constant, Mask.constant]
    change Except.ok (Mask.not (List.replicate b.size .failed)) = _
    rw [Mask.not, List.map_replicate]
    rfl

end Batch

/-- The new year and the leap second in front of it. -/
def newYears : List Literal := [.timestamp newYear2017, .timestamp leapSecondOf2016]

/-- The new year is compared in seconds and the leap second in nanoseconds, for
    which the last instant is too late. So it is settled for one and open for
    the other, in either order. -/
theorem evaluate_oneOf_noneOf_newYears :
    aroundLeapSecond.evaluate (.oneOf (.field "at") [.timestamp newYear2017]) =
        .ok [.failed, .met, .unknown, .failed] ∧
      aroundLeapSecond.evaluate (.oneOf (.field "at") newYears) =
        .ok [.failed, .met, .unknown, .unknown] ∧
      (∀ l, l ∈ newYears.reverse ++ newYears ↔ l ∈ newYears) ∧
      aroundLeapSecond.evaluate (.noneOf (.field "at") (newYears.reverse ++ newYears)) =
        .ok [.met, .failed, .unknown, .unknown] ∧
      aroundLeapSecond.evaluate (.noneOf (.field "at") []) = .ok [.met, .met, .met, .met] := by
  have hsame : ∀ l, l ∈ newYears.reverse ++ newYears ↔ l ∈ newYears := fun l => by
    rw [List.mem_append, List.mem_reverse, or_self]
  have hnone : aroundLeapSecond.evaluate (.noneOf (.field "at") newYears) =
      .ok [.met, .failed, .unknown, .unknown] := rfl
  rcases aroundLeapSecond.evaluate_oneOf_noneOf (.field "at") newYears with
    ⟨hset, -, -, -, -, hempty⟩
  exact ⟨rfl, rfl, hsame, (hset _ hsame _).2.mpr hnone, hempty⟩

end RowSieve
