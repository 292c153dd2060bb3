/-!
# Decimal Text of Whole Numbers

The digits of a number, and digits read back. Numbers are written without
leading zeros unless a fixed width asks for them, and the sign of a negative
number is a single `-` in front.

## Main definitions

* `Decimal.digits`: The digits of a natural number.
* `Decimal.padded`: The digits, filled up with zeros to a width.
* `Decimal.signed`: The text of an integer.
* `Decimal.value`: The number that a run of digits denotes.
-/

namespace RowSieve

namespace Decimal

/-- The digits of a natural number, most significant first. -/
def digits (n : Nat) : List Char := Nat.toDigits 10 n

/-- The digits of a natural number, with zeros in front up to the width. -/
def padded (width n : Nat) : List Char := (digits n).leftpad width '0'

/-- The text of an integer. -/
def signed : Int → List Char
  | .ofNat n => digits n
  | .negSucc n => '-' :: digits (n + 1)

/-- The number that a run of digits denotes. -/
def value (cs : List Char) : Nat := Nat.ofDigitChars 10 cs 0

end Decimal

end RowSieve
