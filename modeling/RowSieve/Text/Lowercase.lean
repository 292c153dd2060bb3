import RowSieve.Text.CaseTable
import RowSieve.Text.Ranges

/-!
# Lower Case

The lower-case form of a text by the full Unicode mapping. For nearly every
character it depends on the character alone. Two are special: a capital I with
a dot becomes an i and a combining dot, so a text can grow, and a capital
sigma becomes one of two letters, depending on whether it ends a word.

A sigma ends a word if a letter with case comes before it and none comes after
it, where characters such as apostrophes and combining marks are passed over
in both directions. The lower-case form of a part of a text is therefore not
always a part of the lower-case form of the whole.

## Main definitions

* `lowerChar`: The lower-case form of a character on its own.
* `endsWord`: A sigma between two texts ends a word.
* `lowercase`: The lower-case form of a text.
-/

namespace RowSieve

namespace Text

/-- The run that a character belongs to. The runs are sorted, so the search
    stops at the first run that begins after the character. -/
def findRun (n : Nat) : List CaseRun → Option CaseRun
  | [] => none
  | run :: runs =>
    if n < run.first then none
    else if n ≤ run.last ∧ (n - run.first) % run.step = 0 then some run
    else findRun n runs

/-- The lower-case form of a character on its own. -/
def lowerChar (c : Char) : Char :=
  match findRun c.toNat lowerRuns with
  | some run => Char.ofNat (c.toNat + run.shift).toNat
  | none => c

/-- The first character that is not passed over has case. -/
def reachesCased (cs : List Char) : Bool :=
  match cs.dropWhile (inRanges ignorableRanges) with
  | [] => false
  | c :: _ => inRanges casedRanges c

/-- A sigma ends a word, given the text before it in reverse and the text
    after it. -/
def endsWord (before after : List Char) : Bool := reachesCased before && !reachesCased after

/-- The lower-case form of one character within a text. -/
def lowerWithin (before : List Char) (c : Char) (after : List Char) : List Char :=
  if c = 'Σ' then [if endsWord before after then 'ς' else 'σ']
  else if c = 'İ' then ['i', '\u0307']
  else [lowerChar c]

/-- The lower-case form of a text that stands after another, which is given in
    reverse. -/
def lowercaseAfter (before : List Char) : List Char → List Char
  | [] => []
  | c :: cs => lowerWithin before c cs ++ lowercaseAfter (c :: before) cs

/-- The lower-case form of a text. -/
def lowercase (cs : List Char) : List Char := lowercaseAfter [] cs

end Text

end RowSieve
