import RowSieve.Filter.Basic

/-!
# Filters as JSON

Filters are exchanged as records whose members are the conditions. Writing
leaves out what is not set. Reading takes the keys of all twelve conditions
for every kind of filter, so a condition that a kind does not have is told
apart from a misspelt key: it is refused by name, once the record is complete,
and only if it has an operand.

## Main definitions

* `Filter.form`: The record of the twelve conditions.
* `Filter.json`: A filter written as JSON.
* `Filter.familyJson`: One family of its conditions written as JSON.
* `Filter.read`: Reads a filter within a larger text.
* `Filter.ofJson?`: The filter that a whole text denotes.
-/

namespace RowSieve

namespace Filter

variable {kind : Kind}

/-- The record of the twelve conditions. Its positional form is complete or no
    form at all. -/
def form : Json.Form Condition where
  title := "struct ConditionPayload"
  keys := Condition.all
  name := Condition.key
  mayBeShort := false

/-- One condition as a member of an object, if it is set. -/
def member? (f : Filter kind) (c : Condition) : Option (List Char) :=
  (f.operand? c).map fun v => Json.memberText c.key (c.operandJson v)

/-- A filter as JSON. -/
def json (f : Filter kind) : List Char := Json.objectText (Condition.all.filterMap f.member?)

/-- One family of conditions as JSON. -/
def familyJson (f : Filter kind) (family : Condition.Family) : List Char :=
  Json.objectText ((Condition.all.filter (·.family == family)).filterMap f.member?)

/-- Why a condition is refused that a kind of filter does not have. -/
def refusal (kind : Kind) (c : Condition) : Json.Fault :=
  .refused ("condition `" ++ c.key ++ "` is not supported by " ++ kind.generalTitle)

/-- Reads a filter within a larger text. -/
def read (kind : Kind) : Json.Reader (Filter kind) := fun cs => do
  let (m, rest) ← form.read (Condition.readOperand kind.scalar) cs
  match ofMembers? m with
  | .ok f => .ok (f, rest)
  | .error c => .error (refusal kind c)

/-- The filter that a whole text denotes. -/
def ofJson? (kind : Kind) (s : String) : Except Json.Fault (Filter kind) :=
  Json.whole (read kind) s

end Filter

end RowSieve
