/-!
# Parts of a Text

Where one text occurs in another. Both searches of the library come down to
the same question, whether something holds of a tail of the text: a needle is
looked for at the front of every tail, and a wildcard hands the rest of its
pattern to every tail.

## Main definitions

* `tails`: Every tail of a text, the text itself first.
* `startsWith`: One text is the beginning of another.
* `occursIn`: One text is a contiguous part of another.

## Theorems

* `mem_tails`, `startsWith_iff`, `occursIn_iff`: The same as suffixes, prefixes
  and infixes.
-/

namespace RowSieve

namespace Text

/-- Every tail of a text, from the whole text down to the empty one. -/
def tails : List Char → List (List Char)
  | [] => [[]]
  | c :: cs => (c :: cs) :: tails cs

/-- The second text begins with the first. -/
def startsWith : (start text : List Char) → Bool
  | [], _ => true
  | _ :: _, [] => false
  | a :: as, b :: bs => a == b && startsWith as bs

/-- The needle is a contiguous part of the text. -/
def occursIn (needle text : List Char) : Bool := (tails text).any (startsWith needle)

theorem mem_tails {tail text : List Char} : tail ∈ tails text ↔ tail <:+ text := by
  induction text with
  | nil => rw [tails, List.mem_singleton, List.suffix_nil]
  | cons c cs ih => rw [tails, List.mem_cons, ih, List.suffix_cons_iff]

theorem startsWith_iff {start text : List Char} :
    startsWith start text = true ↔ start <+: text := by
  induction start generalizing text with
  | nil => simp only [startsWith, List.nil_prefix]
  | cons a as ih =>
      cases text with
      | nil => simp only [startsWith, Bool.false_eq_true, List.prefix_nil, reduceCtorEq]
      | cons b bs =>
          rw [startsWith, Bool.and_eq_true, beq_iff_eq, ih, List.cons_prefix_cons]

/-- A needle occurs in a text exactly if the text is made of something, the
    needle and something. -/
theorem occursIn_iff {needle text : List Char} :
    occursIn needle text = true ↔ needle <:+: text := by
  rw [occursIn, List.any_eq_true, List.infix_iff_prefix_suffix]
  simp only [mem_tails, startsWith_iff, and_comm]

end Text

end RowSieve
