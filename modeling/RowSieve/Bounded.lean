/-!
# Bounded Integers

Integers that carry a proof of their range. Operands, cells and day numbers
all live in fixed ranges, and the interesting behaviour of the evaluator sits
at their ends: a sum that leaves the range, a conversion that has no result.
Keeping the value as an `Int` beside two inequalities lets `omega` reason
about those ends directly, with no modular arithmetic in the way except where
a conversion really wraps.

## Main definitions

* `Bounded`: An integer between two bounds.
* `Bounded.ofInt?`: The bounded integer with a given value, if it fits.
* `Signed32`, `Signed64`: The two ranges of operands.
* `Signed32.wrap`: The representative of an integer modulo `2 ^ 32`.
-/

namespace RowSieve

/-- An integer between two bounds, both included. -/
structure Bounded (lo hi : Int) where
  /-- The integer. -/
  val : Int
  /-- It is not below the range. -/
  lower : lo ≤ val
  /-- It is not above the range. -/
  upper : val ≤ hi
deriving DecidableEq

namespace Bounded

variable {lo hi : Int}

/-- The bounded integer with the given value, if the value is in range. -/
def ofInt? (n : Int) : Option (Bounded lo hi) :=
  if h : lo ≤ n ∧ n ≤ hi then some ⟨n, h.1, h.2⟩ else none

theorem ofInt?_eq_some {n : Int} (h : lo ≤ n ∧ n ≤ hi) :
    (ofInt? n : Option (Bounded lo hi)) = some ⟨n, h.1, h.2⟩ :=
  dif_pos h

theorem ofInt?_eq_none {n : Int} (h : ¬ (lo ≤ n ∧ n ≤ hi)) :
    (ofInt? n : Option (Bounded lo hi)) = none :=
  dif_neg h

theorem ofInt?_eq_none_iff {n : Int} :
    (ofInt? n : Option (Bounded lo hi)) = none ↔ ¬ (lo ≤ n ∧ n ≤ hi) := by
  by_cases h : lo ≤ n ∧ n ≤ hi
  · rw [ofInt?_eq_some h]
    exact ⟨nofun, fun hn => absurd h hn⟩
  · exact ⟨fun _ => h, fun _ => ofInt?_eq_none h⟩

/-- A bounded integer is its value. -/
theorem ext {m n : Bounded lo hi} (h : m.val = n.val) : m = n := by
  cases m
  cases n
  simp only at h
  simp only [h]

theorem ofInt?_eq_some_iff {m : Int} {n : Bounded lo hi} : ofInt? m = some n ↔ n.val = m := by
  constructor
  · intro h
    rw [ofInt?] at h
    split at h
    · rw [← Option.some.inj h]
    · exact absurd h (by simp only [reduceCtorEq, not_false_eq_true])
  · intro h
    rw [← h]
    exact ofInt?_eq_some ⟨n.lower, n.upper⟩

/-- Bounded integers are ordered by value. -/
instance : Ord (Bounded lo hi) := ⟨fun a b => compare a.val b.val⟩

/-- So their order is total. -/
instance : Std.TransOrd (Bounded lo hi) :=
  inferInstanceAs (Std.TransCmp (compareOn Bounded.val))

/-- And those that are equal in it are the same. -/
instance : Std.LawfulEqOrd (Bounded lo hi) where
  eq_of_compare h := ext (Int.compare_eq_eq.mp h)

end Bounded

/-- Integers that fit 32 bits with a sign. -/
abbrev Signed32 := Bounded (-2147483648) 2147483647

/-- Integers that fit 64 bits with a sign. -/
abbrev Signed64 := Bounded (-9223372036854775808) 9223372036854775807

namespace Signed32

/-- The integer of the range that is congruent to `n` modulo `2 ^ 32`: what
    is left of `n` when only its low 32 bits are kept. -/
def wrap (n : Int) : Signed32 where
  val := n.bmod 4294967296
  lower := by
    have := @Int.le_bmod n 4294967296 (by omega)
    omega
  upper := by
    have := @Int.bmod_lt n 4294967296 (by omega)
    omega

/-- A 32-bit integer is a 64-bit integer. -/
def widen (n : Signed32) : Signed64 where
  val := n.val
  lower := by have := n.lower; omega
  upper := by have := n.upper; omega

end Signed32

end RowSieve
