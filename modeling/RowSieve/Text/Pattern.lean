import RowSieve.Text.Segment

/-!
# Patterns with Wildcards

The patterns of `LIKE`. A percent sign stands for any run of characters,
newlines included, an underscore for exactly one character, and a backslash
makes the character after it stand for itself, whatever that character is. A
backslash with nothing after it stands for itself too. A pattern describes the
whole text and not a part of it, and letters are told apart by case.

The pattern is first cut into pieces, so that the matcher does not have to
know about escapes. A wildcard at either end of a pattern then frees that end
and does nothing to the pieces between.

## Main definitions

* `Pattern.Piece`: What one step of a pattern stands for.
* `Pattern.pieces`: A pattern cut into its pieces.
* `Pattern.fits`: Pieces describe a text.
* `Pattern.describes`: A pattern describes a text.
-/

namespace RowSieve

namespace Text

namespace Pattern

/-- What one step of a pattern stands for. -/
inductive Piece where
  /-- Any run of characters, the empty one too. -/
  | anyRun
  /-- Exactly one character, whichever it is. -/
  | anyOne
  /-- This character. -/
  | exactly (c : Char)
deriving DecidableEq

/-- A pattern cut into its pieces. -/
def pieces : List Char → List Piece
  | [] => []
  | '%' :: cs => .anyRun :: pieces cs
  | '_' :: cs => .anyOne :: pieces cs
  | ['\\'] => [.exactly '\\']
  | '\\' :: c :: cs => .exactly c :: pieces cs
  | c :: cs => .exactly c :: pieces cs

/-- The pieces describe the whole text. A run hands the remaining pieces to
    every tail of the text. -/
def fits : List Piece → List Char → Bool
  | [], text => text.isEmpty
  | .anyRun :: ps, text => (tails text).any fun tail => fits ps tail
  | .anyOne :: _, [] => false
  | .anyOne :: ps, _ :: text => fits ps text
  | .exactly _ :: _, [] => false
  | .exactly c :: ps, d :: text => c == d && fits ps text

/-- The pattern describes the whole text. -/
def describes (pattern text : List Char) : Bool := fits (pieces pattern) text

end Pattern

end Text

end RowSieve
