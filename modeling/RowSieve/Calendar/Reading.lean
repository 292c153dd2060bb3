import RowSieve.Calendar.DateTime
import RowSieve.Number.Decimal
import RowSieve.Text.Blank

/-!
# Reading Dates and Times

Dates and date-times as people and other programs write them. The reader is
more generous than the writer: numbers need not be padded, white space may
stand before every number and every mark, a fraction may have any number of
digits. What it returns is always a date or a time that exists.

Each number is checked as soon as it is read, before the text after it is
looked at. Whether the day exists in its month is known only at the end, so
text left over is reported before a date that does not exist.

## Main definitions

* `Flaw`: Why a text is not a date.
* `number`: At least one digit and at most so many.
* `year`, `smallNumber`, `mark`: The pieces of a date.
* `Date.read`: A whole text as a date.
* `DateTime.read`: A whole text as a date-time.
-/

namespace RowSieve

namespace Calendar

/-- Why a text is not a date or a date-time. -/
inductive Flaw where
  /-- A character other than the one that must stand here. -/
  | wrongCharacter
  /-- The text ends too early. -/
  | tooShort
  /-- The text goes on after the end. -/
  | leftover
  /-- A number, or the date as a whole, does not exist. -/
  | outOfRange
deriving DecidableEq

namespace Flaw

/-- The wording of each flaw. -/
def message : Flaw → String
  | .wrongCharacter => "input contains invalid characters"
  | .tooShort => "premature end of input"
  | .leftover => "trailing input"
  | .outOfRange => "input is out of range"

end Flaw

namespace Reading

/-- The digits at the front of a text, no more than `most` of them. -/
def leadingDigits : (most : Nat) → List Char → List Char
  | most + 1, c :: cs => if c.isDigit then c :: leadingDigits most cs else []
  | _, _ => []

/-- At least one digit and at most `most`. -/
def number (most : Nat) (cs : List Char) : Except Flaw (Nat × List Char) :=
  match leadingDigits most cs with
  | [] => .error (if cs.isEmpty then .tooShort else .wrongCharacter)
  | ds => .ok (Decimal.value ds, cs.drop ds.length)

/-- A number after optional white space that must lie between two bounds. -/
def smallNumber (lo hi : Nat) (cs : List Char) : Except Flaw (Nat × List Char) := do
  let (n, rest) ← number 2 (Text.skipBlanks cs)
  if lo ≤ n ∧ n ≤ hi then .ok (n, rest) else .error .outOfRange

/-- A fixed character after optional white space. -/
def mark (c : Char) (cs : List Char) : Except Flaw (List Char) :=
  match Text.skipBlanks cs with
  | [] => .error .tooShort
  | d :: rest => if d = c then .ok rest else .error .wrongCharacter

/-- The years a reader can hold: those that fit 32 bits with a sign. -/
def checkedYear (y : Int) : Except Flaw Int :=
  if -2147483648 ≤ y ∧ y ≤ 2147483647 then .ok y else .error .outOfRange

/-- A year after optional white space: up to four digits, or a sign and as
    many digits as there are. -/
def year (cs : List Char) : Except Flaw (Int × List Char) := do
  match Text.skipBlanks cs with
  | '-' :: rest =>
    let (n, rest) ← number rest.length rest
    .ok (← checkedYear (-n), rest)
  | '+' :: rest =>
    let (n, rest) ← number rest.length rest
    .ok (← checkedYear n, rest)
  | cs =>
    let (n, rest) ← number 4 cs
    .ok (n, rest)

/-- Year, month and day of the month, with a `-` between them. -/
def day (cs : List Char) : Except Flaw (Day × List Char) := do
  let (y, cs) ← year cs
  let (m, cs) ← smallNumber 1 12 (← mark '-' cs)
  let (d, cs) ← smallNumber 1 31 (← mark '-' cs)
  .ok (⟨y, m, d⟩, cs)

/-- The fraction of a second in nanoseconds: nothing, or a point and digits of
    which nine count. -/
def fraction : List Char → Except Flaw (Nat × List Char)
  | '.' :: cs => do
    let ds := leadingDigits 9 cs
    let (n, rest) ← number 9 cs
    .ok (n * Nat.pow 10 (9 - ds.length), rest.dropWhile Char.isDigit)
  | cs => .ok (0, cs)

/-- Hour, minute and second with a `:` between them, and a fraction. The second
    may be 60. -/
def clock (cs : List Char) : Except Flaw (Clock × List Char) := do
  let (h, cs) ← smallNumber 0 23 cs
  let (m, cs) ← smallNumber 0 59 (← mark ':' cs)
  let (s, cs) ← smallNumber 0 60 (← mark ':' cs)
  let (n, cs) ← fraction cs
  .ok (.ofText h m s n, cs)

/-- Nothing but white space is left. -/
def finished (cs : List Char) : Except Flaw Unit :=
  if (Text.skipBlanks cs).isEmpty then .ok () else .error .leftover

end Reading

/-- A whole text as a date. -/
def Date.read (cs : List Char) : Except Flaw Date := do
  let (day, rest) ← Reading.day cs
  Reading.finished rest
  match Date.ofDay? day with
  | some date => .ok date
  | none => .error .outOfRange

/-- A whole text as a date-time: a date, a `T` and a reading of the clock. -/
def DateTime.read (cs : List Char) : Except Flaw DateTime := do
  let (day, rest) ← Reading.day cs
  let (clock, rest) ← Reading.clock (← Reading.mark 'T' rest)
  Reading.finished rest
  match Date.ofDay? day, Time.ofClock? clock with
  | some date, some time => .ok ⟨date, time⟩
  | _, _ => .error .outOfRange

end Calendar

end RowSieve
