import RowSieve.Predicate.Basic

/-!
# Building Conjunctions

Conjunctions are built flat. A member that is a conjunction itself gives up
its members, and the condition that is always met disappears, so what is
built is a conjunction of at least two members or no conjunction at all. The
order of the members is kept, since the first member that fails to evaluate
decides which error is reported.

## Main definitions

* `Predicate.both`: Two predicates joined.
* `Predicate.all`: A list of predicates joined.
-/

namespace RowSieve

namespace Predicate

/-- Two predicates joined into one conjunction, which stays flat. -/
def both : Predicate → Predicate → Predicate
  | .always, q => q
  | p, .always => p
  | .and ps, .and qs => .and (ps ++ qs)
  | .and ps, q => .and (ps ++ [q])
  | p, .and qs => .and (p :: qs)
  | p, q => .and [p, q]

/-- A list of predicates joined from left to right. -/
def all (ps : List Predicate) : Predicate := ps.foldl both .always

end Predicate

end RowSieve
