import RowSieve.Predicate.Basic

/-!
# The Text of a Predicate

A predicate as query text. The text is for people and logs, and it is exact:
operands are quoted so that nothing inside them can be taken for the text
around them, and a conjunction inside a conjunction keeps its own parentheses,
so that two trees of a different shape do not share a text.

## Main definitions

* `Predicate.spelling`: The characters of the text.
* `Predicate.text`: The text.
-/

namespace RowSieve

namespace Predicate

/-- Constants with commas between them. -/
def listSpelling (values : List Literal) : List Char :=
  [',', ' '].intercalate (values.map Literal.spelling)

/-- The predicate is a conjunction. -/
def isConjunction : Predicate → Bool
  | .and _ => true
  | _ => false

/-- A member of a conjunction, in parentheses if it is one itself. -/
def enclosed (p : Predicate) (spelling : List Char) : List Char :=
  if p.isConjunction then '(' :: spelling ++ [')'] else spelling

/-- The written members of a conjunction joined. An empty one is met by every
    row and says so. -/
def joined : List (List Char) → List Char
  | [] => "TRUE".toList
  | members => " AND ".toList.intercalate members

mutual

/-- The characters of a predicate. -/
def spelling : Predicate → List Char
  | .compare how path value =>
    path.text.toList ++ ' ' :: how.sign.toList ++ ' ' :: value.spelling
  | .oneOf path values => path.text.toList ++ " IN (".toList ++ listSpelling values ++ [')']
  | .noneOf path values =>
    path.text.toList ++ " NOT IN (".toList ++ listSpelling values ++ [')']
  | .isNull path => path.text.toList ++ " IS NULL".toList
  | .isNotNull path => path.text.toList ++ " IS NOT NULL".toList
  | .like path pattern =>
    path.text.toList ++ " LIKE ".toList ++ Text.Quoted.enclose pattern.toList
  | .contains path needle =>
    "LOWER(".toList ++ path.text.toList ++ ") LIKE ".toList ++
      Text.Quoted.enclose ('%' :: needle.toList ++ ['%'])
  | .not inner => "NOT (".toList ++ spelling inner ++ [')']
  | .and members => joined (memberSpellings members)
  | .always => "TRUE".toList

/-- The characters of each member of a conjunction. -/
def memberSpellings : List Predicate → List (List Char)
  | [] => []
  | p :: ps => enclosed p (spelling p) :: memberSpellings ps

end

/-- The text of a predicate. -/
def text (p : Predicate) : String := String.ofList p.spelling

end Predicate

end RowSieve
