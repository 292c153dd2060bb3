import RowSieve.Filter.Condition

/-!
# Filters

A filter holds at most one operand for each condition, and none for a
condition its kind does not have. A condition that is set again loses its
earlier operand, so what a filter holds depends on the last operand of each
condition and on nothing else.

Filters on date-times are special in one respect. An inclusive bound means the
whole of its day, so the operand is moved to the first or the last reading of
that day when it is set. `Kind.kept` is that step. It is the identity for
every other kind of filter and for every other condition, and everything that
takes an operand from outside goes through it. Copying a whole family of
conditions from another filter does not.

## Main definitions

* `Filter.Kind`: The kinds of filter.
* `Filter.Kind.supports`: The families a kind has.
* `Filter.Kind.kept`: The operand that is kept for a given one.
* `Filter`: A filter of a kind.
* `Filter.empty`, `Filter.set`: The filter without conditions, and with one
  condition more.
* `Filter.ofMembers?`: The filter with given operands.
* `Filter.graft`: A filter with one family taken from elsewhere.
* `Filter.widened`, `Filter.plain`: Between the two filters on date-times.
-/

namespace RowSieve

open Calendar

/-- The kinds of filter. -/
inductive Filter.Kind where
  /-- Base conditions on a field of any type. -/
  | base (s : Scalar)
  /-- Base conditions and bounds. -/
  | range (s : Scalar)
  /-- Base conditions, bounds and text conditions. -/
  | string
  /-- Base conditions and bounds on a date-time, inclusive bounds meaning
      whole days. -/
  | dateTime
deriving DecidableEq

namespace Filter.Kind

/-- The type of the field. -/
@[reducible] def scalar : Kind → Scalar
  | .base s => s
  | .range s => s
  | .string => .string
  | .dateTime => .dateTime

/-- The kind has a family of conditions. -/
def supports : Kind → Condition.Family → Bool
  | .base _, family => family == .base
  | .string, _ => true
  | _, family => family != .text

/-- The name that stands before the text of a filter. -/
def title : Kind → String
  | .base _ => "BaseFilter"
  | .range .long => "LongFilter"
  | .range .integer => "IntegerFilter"
  | .range .string => "StringRangeFilter"
  | .range .boolean => "BooleanFilter"
  | .range .date => "DateFilter"
  | .range .dateTime => "DateTimeRangeFilter"
  | .string => "StringFilter"
  | .dateTime => "DateTimeFilter"

/-- The name of the kind where the type of its field does not matter. -/
def generalTitle : Kind → String
  | .base _ => "BaseFilter"
  | .range _ => "RangeFilter"
  | .string => "StringFilter"
  | .dateTime => "DateTimeFilter"

/-- The operand that is kept for a given one. Inclusive bounds of a filter on
    date-times are moved to the ends of their day. -/
def kept : (k : Kind) → (c : Condition) → c.Operand k.scalar → c.Operand k.scalar
  | .dateTime, .greaterThanOrEqual, t => DateTime.startOfDay t
  | .dateTime, .lessThanOrEqual, t => DateTime.endOfDay t
  | _, _, v => v

end Filter.Kind

/-- At most one operand for each condition that the kind of filter has. -/
structure Filter (kind : Filter.Kind) where
  /-- The operand of each condition. -/
  operand? : Json.Members (Condition.Operand kind.scalar)
  /-- A condition that the kind does not have has no operand. -/
  absent : ∀ c, kind.supports c.family = false → operand? c = none

namespace Filter

variable {kind : Kind}

/-- Filters with the same operands are the same. -/
theorem ext {f g : Filter kind} (h : ∀ c, f.operand? c = g.operand? c) : f = g := by
  cases f
  cases g
  simp only [Filter.mk.injEq]
  exact funext h

instance : DecidableEq (Filter kind) := fun f g =>
  decidable_of_iff (∀ c ∈ Condition.all, f.operand? c = g.operand? c)
    ⟨fun h => ext fun c => h c c.mem_all, fun h _ _ => h ▸ rfl⟩

/-- The filter without conditions. -/
def empty : Filter kind := ⟨Json.Members.none, fun _ _ => rfl⟩

/-- The filter with one condition set, in place of any earlier operand. -/
def set (f : Filter kind) (c : Condition) (h : kind.supports c.family = true)
    (v : c.Operand kind.scalar) : Filter kind where
  operand? := f.operand?.assign c (some (kind.kept c v))
  absent d hd := by
    have hne : d ≠ c := by
      intro heq
      rw [heq, h] at hd
      exact Bool.noConfusion hd
    simp only [Json.Members.assign, hne, dite_false]
    exact f.absent d hd

/-- Every operand as the kind keeps it. -/
def keepAll (kind : Kind) (m : Json.Members (Condition.Operand kind.scalar)) :
    Json.Members (Condition.Operand kind.scalar) :=
  fun c => (m c).map (kind.kept c)

/-- The first condition with an operand that the kind does not have. -/
def misplaced? (kind : Kind) (m : Json.Members (Condition.Operand kind.scalar)) :
    Option Condition :=
  Condition.all.find? fun c => (m c).isSome && !kind.supports c.family

/-- The filter with the given operands, unless one of them is misplaced. -/
def ofMembers? (m : Json.Members (Condition.Operand kind.scalar)) :
    Except Condition (Filter kind) :=
  match h : misplaced? kind m with
  | some c => .error c
  | none => .ok
    { operand? := keepAll kind m
      absent := by
        intro c hc
        have := List.find?_eq_none.mp h c c.mem_all
        simp only [hc, Bool.not_false, Bool.and_true, Bool.not_eq_true,
          Option.isSome_eq_false_iff, Option.isNone_iff_eq_none] at this
        simp only [keepAll, this, Option.map_none] }

/-- The filter with one family of conditions taken from elsewhere, operands
    and gaps alike, exactly as they are. -/
def graft (f : Filter kind) (family : Condition.Family) (h : kind.supports family = true)
    (m : Json.Members (Condition.Operand kind.scalar)) : Filter kind where
  operand? := fun c => if c.family = family then m c else f.operand? c
  absent c hc := by
    have hne : c.family ≠ family := by
      intro heq
      rw [heq, h] at hc
      exact Bool.noConfusion hc
    simp only [hne, if_false]
    exact f.absent c hc

/-- The filter on date-times with the operands of a plain one. Its inclusive
    bounds come to mean whole days. -/
def widened (f : Filter (.range .dateTime)) : Filter .dateTime where
  operand? := keepAll .dateTime f.operand?
  absent c hc := by
    have : f.operand? c = none := f.absent c hc
    simp only [keepAll, this, Option.map_none]

/-- The plain filter with the operands of one on date-times. -/
def plain (f : Filter .dateTime) : Filter (.range .dateTime) where
  operand? := f.operand?
  absent := f.absent

end Filter

end RowSieve
