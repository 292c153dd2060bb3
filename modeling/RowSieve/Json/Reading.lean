import RowSieve.Bounded
import RowSieve.Json.Numeral

/-!
# Reading JSON Values

Readers of single values. A reader takes the text from where it stands, skips
the space before its value, and returns the value with the text behind it.
Nothing is read twice and nothing is built that is not asked for: a reader
knows the type it wants, and when another value stands there, it names that
value in the fault. Even then the value has to be well formed as far as it is
named, so a broken string is a broken string and not a string in the wrong
place.

## Main definitions

* `Reader`: A reader of values of a type.
* `skipSpace`: A text without leading space.
* `stringBody`: The characters of a string up to its closing quote.
* `mismatch`: The fault for a value of another type.
* `integer`, `text`, `boolean`, `optional`, `list`: The readers.
* `whole`: Reads a text that holds one value and nothing else.
-/

namespace RowSieve

namespace Json

/-- A reader of values: from the text where it stands to the value and the
    text behind it. -/
abbrev Reader (α : Type) := List Char → Except Fault (α × List Char)

/-- The four characters that count as space between the pieces of a text. -/
def isSpace (c : Char) : Bool := c == ' ' || c == '\t' || c == '\n' || c == '\r'

/-- A text without leading space. -/
def skipSpace (cs : List Char) : List Char := cs.dropWhile isSpace

/-- The rest of a word whose first letter was seen. -/
def word : (letters : List Char) → List Char → Except Fault (List Char)
  | [], cs => .ok cs
  | _ :: _, [] => .error (.ended .value)
  | a :: as, c :: cs => if a = c then word as cs else .error .noWord

/-- The value of a hexadecimal digit. -/
def hexValue? (c : Char) : Option Nat :=
  if c.isDigit then some (c.toNat - 48)
  else if 'a' ≤ c ∧ c ≤ 'f' then some (c.toNat - 87)
  else if 'A' ≤ c ∧ c ≤ 'F' then some (c.toNat - 55)
  else none

/-- The value of four hexadecimal digits. -/
def hexQuad? (a b c d : Char) : Option Nat := do
  some ((((← hexValue? a) * 16 + (← hexValue? b)) * 16 + (← hexValue? c)) * 16 + (← hexValue? d))

/-- The character of a simple escape. -/
def escaped? : Char → Option Char
  | '"' => some '"'
  | '\\' => some '\\'
  | '/' => some '/'
  | 'b' => some '\x08'
  | 'f' => some '\x0c'
  | 'n' => some '\n'
  | 'r' => some '\r'
  | 't' => some '\t'
  | _ => none

/-- The code unit is the first half of a surrogate pair. -/
def isFirstHalf (n : Nat) : Bool := 0xD800 ≤ n && n ≤ 0xDBFF

/-- The code unit is the second half of a surrogate pair. -/
def isSecondHalf (n : Nat) : Bool := 0xDC00 ≤ n && n ≤ 0xDFFF

/-- The fault of an escape by code unit in front of fewer than four
    characters. Four bytes of text have to be there before the digits are
    looked at. -/
def quadFault (cs : List Char) : Fault :=
  if (String.ofList cs).utf8ByteSize < 4 then .ended .string else .badEscape

/-- The fault after the first half of a surrogate pair, when no escape by code
    unit follows. -/
def pairFault : List Char → Fault
  | [] => .ended .string
  | ['\\'] => .ended .string
  | _ => .halfPair

/-- The characters of a string up to its closing quote, which is skipped. -/
def stringBody : List Char → Except Fault (List Char × List Char)
  | [] => .error (.ended .string)
  | '"' :: cs => .ok ([], cs)
  | '\\' :: 'u' :: a :: b :: c :: d :: cs =>
    match hexQuad? a b c d with
    | none => .error .badEscape
    | some n =>
      if isSecondHalf n then .error .loneSurrogate
      else if isFirstHalf n then
        match cs with
        | '\\' :: 'u' :: e :: f :: g :: h :: cs =>
          match hexQuad? e f g h with
          | none => .error .badEscape
          | some m =>
            if isSecondHalf m then do
              let (rest, cs) ← stringBody cs
              .ok (Char.ofNat (0x10000 + (n - 0xD800) * 0x400 + (m - 0xDC00)) :: rest, cs)
            else .error .loneSurrogate
        | '\\' :: 'u' :: cs => .error (quadFault cs)
        | cs => .error (pairFault cs)
      else do
        let (rest, cs) ← stringBody cs
        .ok (Char.ofNat n :: rest, cs)
  | '\\' :: 'u' :: cs => .error (quadFault cs)
  | '\\' :: c :: cs =>
    match escaped? c with
    | some e => do
      let (rest, cs) ← stringBody cs
      .ok (e :: rest, cs)
    | none => .error .badEscape
  | ['\\'] => .error (.ended .string)
  | c :: cs =>
    if c.toNat < 0x20 then .error .controlCharacter
    else do
      let (rest, cs) ← stringBody cs
      .ok (c :: rest, cs)

/-- The fault of a reading, or the one that its result amounts to. -/
def faultOf {α : Type} (reading : Except Fault α) (whenRead : α → Fault) : Fault :=
  match reading with
  | .error fault => fault
  | .ok x => whenRead x

/-- The fault for a value that stands where another type was expected. -/
def mismatch (expected : String) (cs : List Char) : Fault :=
  let named (found : Found) : Fault := .wrongType found expected
  match cs with
  | [] => .ended .value
  | 'n' :: cs => faultOf (word ['u', 'l', 'l'] cs) fun _ => named .null
  | 't' :: cs => faultOf (word ['r', 'u', 'e'] cs) fun _ => named (.boolean true)
  | 'f' :: cs => faultOf (word ['a', 'l', 's', 'e'] cs) fun _ => named (.boolean false)
  | '"' :: cs => faultOf (stringBody cs) fun r => named (.text (String.ofList r.1))
  | '[' :: _ => named .list
  | '{' :: _ => named .object
  | c :: cs =>
    if c = '-' ∨ c.isDigit then
      faultOf (numeral (c :: cs)) fun
        | (.integer n, _) => named (.integer n)
        | (.real x, _) => named (.real x)
    else .noValue

/-- An integer between two bounds. -/
def integer (lo hi : Int) (expected : String) : Reader (Bounded lo hi) := fun cs =>
  match skipSpace cs with
  | [] => .error (.ended .value)
  | c :: cs =>
    if c = '-' ∨ c.isDigit then do
      match ← numeral (c :: cs) with
      | (.integer n, rest) =>
        match Bounded.ofInt? n with
        | some b => .ok (b, rest)
        | none => .error (.wrongRange n expected)
      | (.real x, _) => .error (.wrongType (.real x) expected)
    else .error (mismatch expected (c :: cs))

/-- A string, given to a check of its own. -/
def text {α : Type} (expected : String) (check : String → Except Fault α) : Reader α := fun cs =>
  match skipSpace cs with
  | '"' :: cs => do
    let (s, rest) ← stringBody cs
    .ok (← check (String.ofList s), rest)
  | cs => .error (mismatch expected cs)

/-- A truth value. -/
def boolean (expected : String) : Reader Bool := fun cs =>
  match skipSpace cs with
  | 't' :: cs => do .ok (true, ← word ['r', 'u', 'e'] cs)
  | 'f' :: cs => do .ok (false, ← word ['a', 'l', 's', 'e'] cs)
  | cs => .error (mismatch expected cs)

/-- A value, or `null` for none. -/
def optional {α : Type} (item : Reader α) : Reader (Option α) := fun cs =>
  match skipSpace cs with
  | [] => .error (.ended .value)
  | 'n' :: cs => do .ok (none, ← word ['u', 'l', 'l'] cs)
  | cs => do
    let (x, rest) ← item cs
    .ok (some x, rest)

/-- The elements of a list after its first, up to the closing bracket. Every
    element takes a comma, so their number is bounded by the text. -/
def moreItems {α : Type} (item : Reader α) : (most : Nat) → Reader (List α)
  | 0, _ => .error (.ended .list)
  | most + 1, cs =>
    match skipSpace cs with
    | [] => .error (.ended .list)
    | ']' :: rest => .ok ([], rest)
    | ',' :: rest =>
      match skipSpace rest with
      | [] => .error (.ended .value)
      | ']' :: _ => .error .danglingComma
      | rest => do
        let (x, rest) ← item rest
        let (xs, rest) ← moreItems item most rest
        .ok (x :: xs, rest)
    | _ => .error .noCommaInList

/-- A list of values. -/
def list {α : Type} (expected : String) (item : Reader α) : Reader (List α) := fun cs =>
  match skipSpace cs with
  | '[' :: rest =>
    match skipSpace rest with
    | [] => .error (.ended .list)
    | ']' :: rest => .ok ([], rest)
    | rest => do
      let (x, rest) ← item rest
      let (xs, rest) ← moreItems item (rest.length + 1) rest
      .ok (x :: xs, rest)
  | cs => .error (mismatch expected cs)

/-- Reads a text that holds one value and nothing else. -/
def whole {α : Type} (item : Reader α) (s : String) : Except Fault α := do
  let (x, rest) ← item s.toList
  if (skipSpace rest).isEmpty then .ok x else .error .goesOn

end Json

end RowSieve
