/-!
# Field Paths

The name of a field of a row, or of a field one step inside it. A relation is
a field that holds a record of its own, and a path through it names a field of
that record. There is never more than one step.

The two parts are kept apart. A dot inside a name means nothing, so a field
called `author.name` and the field `name` of the relation `author` are two
paths with one text.

## Main definitions

* `FieldPath`: A field, perhaps of a relation.
* `FieldPath.root`: The field of the row that the path starts from.
* `FieldPath.text`: The path with a dot between its parts.
-/

namespace RowSieve

/-- A field of a row, or a field of a relation of the row. -/
structure FieldPath where
  relation : Option String
  name : String
deriving DecidableEq

namespace FieldPath

/-- A field of the row itself. -/
def field (name : String) : FieldPath := ⟨none, name⟩

/-- A field of a relation of the row. -/
def join (relation name : String) : FieldPath := ⟨some relation, name⟩

/-- The field of the row that the path starts from. -/
def root (p : FieldPath) : String := p.relation.getD p.name

/-- The path with a dot between its parts. -/
def text (p : FieldPath) : String :=
  match p.relation with
  | some r => r ++ "." ++ p.name
  | none => p.name

/-- Fields of the row come before fields of relations. Names are ordered by
    code points. -/
instance : Ord FieldPath :=
  ⟨fun a b =>
    match a.relation, b.relation with
    | none, none => compare a.name b.name
    | none, some _ => .lt
    | some _, none => .gt
    | some r, some s => (compare r s).then (compare a.name b.name)⟩

/-- Two paths of which neither comes before the other are the same. -/
instance : Std.LawfulEqOrd FieldPath where
  compare_self {a} := by
    have hname : compare a.name a.name = .eq := Std.ReflCmp.compare_self
    rcases a with ⟨_ | r, n⟩
    · exact hname
    · exact Ordering.then_eq_eq.mpr ⟨Std.ReflCmp.compare_self, hname⟩
  eq_of_compare {a b} h := by
    rcases a with ⟨_ | r, n⟩ <;> rcases b with ⟨_ | s, m⟩
    · have hname : n = m := Std.LawfulEqOrd.eq_of_compare h
      rw [hname]
    · exact Ordering.noConfusion h
    · exact Ordering.noConfusion h
    · rcases Ordering.then_eq_eq.mp h with ⟨hr, hn⟩
      have hrelation : r = s := Std.LawfulEqOrd.eq_of_compare hr
      have hname : n = m := Std.LawfulEqOrd.eq_of_compare hn
      rw [hrelation, hname]

end FieldPath

end RowSieve
