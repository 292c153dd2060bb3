import RowSieve.Json.Fault

/-!
# Numbers in JSON Texts

A number without fraction and exponent that fits 64 bits is an integer. Every
other number is a floating-point one, and so is a zero with a minus sign,
which no integer can hold.

Floating-point numbers are only ever named in messages, but what is named is
the number as it was read: the digits are gathered into 64 bits as long as
they fit, the rest only move the point, and the result is scaled by a power of
ten with one rounding for each step. Such a number can differ in its last
digit from the nearest one.

## Main definitions

* `Numeral`: An integer or a floating-point number.
* `gather`: Digits gathered into 64 bits.
* `scale`: A gathered number times a power of ten.
* `numeral`: Reads a number.
-/

namespace RowSieve

namespace Json

/-- A number of a JSON text. -/
inductive Numeral where
  | integer (n : Int)
  | real (x : Binary64)

/-- The greatest number that digits are gathered into. -/
def gatherLimit : Nat := 18446744073709551615

/-- Appends digits to a number while it fits 64 bits. Also returns how many
    digits were left out. -/
def gather (n : Nat) : List Char → Nat × Nat
  | [] => (n, 0)
  | d :: ds =>
    let next := n * 10 + Decimal.value [d]
    if next ≤ gatherLimit then gather next ds else (n, ds.length + 1)

/-- `x * 10 ^ e`, with one rounding for each power of at most 308 tens.
    Dividing stops at zero, multiplying at the end of the format. -/
def scale (x : Binary64) (e : Int) : Except Fault Binary64 :=
  if 0 ≤ e then
    if e ≤ 308 then
      match (Binary64.ofDecimal? 1 e).bind x.mul? with
      | some y => .ok y
      | none => .error .hugeNumber
    else if x.isZero then .ok x else .error .hugeNumber
  else if -308 ≤ e then
    .ok (((Binary64.ofDecimal? 1 (-e)).bind x.div?).getD Binary64.zero)
  else if x.isZero then .ok x
  else scale (((Binary64.ofDecimal? 1 308).bind x.div?).getD Binary64.zero) (e + 308)
termination_by (-e).toNat

/-- The floating-point number with the given sign, digits and power of ten. -/
def realOf (negative : Bool) (n : Nat) (e : Int) : Except Fault Numeral := do
  let x ← scale ((Binary64.ofNat? n).getD Binary64.zero) e
  .ok (.real (x.withSign negative))

/-- The digits at the front of a text and what follows them. -/
def splitDigits (cs : List Char) : List Char × List Char :=
  (cs.takeWhile Char.isDigit, cs.dropWhile Char.isDigit)

/-- At least one digit must stand here. -/
def digitsHere (cs : List Char) : Except Fault (List Char × List Char) :=
  match splitDigits cs with
  | ([], []) => .error (.ended .value)
  | ([], _) => .error .badNumber
  | (ds, rest) => .ok (ds, rest)

/-- The sign and the digits of an exponent, after its letter. -/
def exponentHere (cs : List Char) : Except Fault (Bool × Nat × List Char) := do
  let (negative, cs) := match cs with
    | '+' :: cs => (false, cs)
    | '-' :: cs => (true, cs)
    | cs => (false, cs)
  let (ds, rest) ← digitsHere cs
  .ok (negative, Decimal.value ds, rest)

/-- The text after the letter of an exponent, if there is one. -/
def afterExponentLetter? : List Char → Option (List Char)
  | 'e' :: cs => some cs
  | 'E' :: cs => some cs
  | _ => none

/-- A number with the digits `n` so far, a power of ten, and perhaps an
    exponent in the text. An exponent beyond 32 bits decides by its sign. -/
def withExponent (negative : Bool) (n : Nat) (e : Int) (cs : List Char) :
    Except Fault (Numeral × List Char) := do
  match afterExponentLetter? cs with
  | none => .ok (← realOf negative n e, cs)
  | some cs =>
    let (down, size, rest) ← exponentHere cs
    if size ≤ 2147483647 then
      .ok (← realOf negative n (if down then e - size else e + size), rest)
    else if down ∨ n = 0 then .ok (.real (Binary64.zero.withSign negative), rest)
    else .error .hugeNumber

/-- The integer with the given sign and digits, if 64 bits hold it. A negative
    zero is no integer. -/
def integerOf? (negative : Bool) (n : Nat) : Option Int :=
  if negative then
    if 0 < n ∧ n ≤ 9223372036854775808 then some (-n) else none
  else some n

/-- A number of digits only, `left` of which did not fit 64 bits. -/
def withoutPoint (negative : Bool) (n left : Nat) : Except Fault Numeral :=
  match if left = 0 then integerOf? negative n else none with
  | some i => .ok (.integer i)
  | none => realOf negative n left

/-- The part of a number after its sign. -/
def unsigned (negative : Bool) (cs : List Char) : Except Fault (Numeral × List Char) := do
  let (ds, rest) ← digitsHere cs
  if ds.head? = some '0' ∧ 1 < ds.length then .error .badNumber
  else
    let (n, left) := gather 0 ds
    match rest with
    | '.' :: rest =>
      let (fs, rest) ← digitsHere rest
      let (m, unused) := gather n fs
      withExponent negative m (left - (fs.length - unused : Nat)) rest
    | rest =>
      if (afterExponentLetter? rest).isSome then withExponent negative n left rest
      else .ok (← withoutPoint negative n left, rest)

/-- Reads a number from a text that starts with a digit or a minus sign. -/
def numeral : List Char → Except Fault (Numeral × List Char)
  | '-' :: cs => unsigned true cs
  | cs => unsigned false cs

end Json

end RowSieve
