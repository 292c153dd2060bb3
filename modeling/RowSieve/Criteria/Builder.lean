import RowSieve.Filter.Compilation
import RowSieve.Log
import RowSieve.Predicate.Rendering

/-!
# Predicate Builders

A builder gathers predicates, one for each filter that is present, and joins
them at the end. An absent filter adds nothing. A filter that is present and
has no conditions adds the predicate that every row meets, which counts as
gathered and disappears only when the predicates are joined.

Joining reports the predicate it made, for whoever wants to know what a query
came down to.

## Main definitions

* `Builder`: The predicates gathered so far.
* `Builder.push`, `Builder.field`, `Builder.join`: One predicate more, if it
  is present.
* `Builder.build`: The predicates joined.
* `compiledLine`: The report of a joined predicate.
-/

namespace RowSieve

/-- The predicates gathered so far. -/
structure Builder where
  predicates : List Predicate

namespace Builder

/-- Nothing gathered. -/
def empty : Builder := ⟨[]⟩

/-- One predicate more, if it is present. -/
def push (b : Builder) : Option Predicate → Builder
  | some p => ⟨b.predicates ++ [p]⟩
  | none => b

/-- The predicate of a filter on the field at a path, if it is present. -/
def gather (b : Builder) (path : FieldPath) {kind : Filter.Kind} (f : Option (Filter kind)) :
    Builder :=
  b.push (f.map fun f => f.predicate path)

/-- A filter on a field of the row. -/
def field (b : Builder) (name : String) {kind : Filter.Kind} (f : Option (Filter kind)) :
    Builder :=
  b.gather (.field name) f

/-- A filter on a field of a relation. -/
def join (b : Builder) (relation name : String) {kind : Filter.Kind}
    (f : Option (Filter kind)) : Builder :=
  b.gather (.join relation name) f

/-- How many predicates were gathered. -/
def size (b : Builder) : Nat := b.predicates.length

/-- The predicates joined. -/
def build (b : Builder) : Predicate := Predicate.all b.predicates

end Builder

/-- The report of a joined predicate. -/
def compiledLine (p : Predicate) : LogLine := ⟨.debug, "Compiled predicate: " ++ p.text⟩

end RowSieve
