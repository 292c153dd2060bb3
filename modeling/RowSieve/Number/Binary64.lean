/-!
# Binary Floating Point

Finite numbers of the 64-bit binary format, as a sign, a mantissa and a power
of two. A number enters as a ratio of natural numbers and is rounded to the
nearest member of the format, a tie going to the even mantissa. Products and
quotients are exact ratios that are rounded once, so nothing here depends on
the floating point of the machine.

## Main definitions

* `Binary64`: A finite number of the format.
* `Binary64.ofRatio?`: The nearest number to a ratio, unless it is too large.
* `Binary64.ofNat?`: The nearest number to a natural number that is not too large.
* `Binary64.mul?`, `Binary64.div?`: A rounded product and a rounded quotient.
* `Binary64.ofDecimal?`: The nearest number to `n * 10 ^ e`.
-/

namespace RowSieve

/-- A finite number: `mantissa * 2 ^ exponent`, with a sign. A mantissa below
    `2 ^ 52` occurs only with the least exponent, `-1074`. -/
structure Binary64 where
  negative : Bool
  mantissa : Nat
  exponent : Int
deriving DecidableEq

namespace Binary64

/-- The least mantissa that has all its bits, `2 ^ 52`. -/
def leastNormal : Nat := 4503599627370496

/-- Zero with a positive sign. -/
def zero : Binary64 := ⟨false, 0, -1074⟩

/-- The same magnitude with the given sign. -/
def withSign (negative : Bool) (x : Binary64) : Binary64 := { x with negative := negative }

/-- The number is zero, of either sign. -/
def isZero (x : Binary64) : Bool := x.mantissa == 0

/-- The quotient rounded to the nearest natural number, a tie to the even
    one. -/
def roundDiv (num den : Nat) : Nat :=
  let q := num / den
  let twice := 2 * (num % den)
  if den < twice ∨ (twice = den ∧ q % 2 = 1) then q + 1 else q

/-- Numerator and denominator of `num / den / 2 ^ e`. -/
def scaled (num den : Nat) (e : Int) : Nat × Nat :=
  if 0 ≤ e then (num, den * Nat.pow 2 e.toNat) else (num * Nat.pow 2 (-e).toNat, den)

/-- The power of two that brings a ratio into the range of mantissas. The
    logarithms leave two candidates, of which the lower one is right when the
    higher one would leave too few bits. -/
def exponentFor (num den : Nat) : Int :=
  let e := (num.log2 : Int) - den.log2 - 52
  let (n, d) := scaled num den e
  max (-1074) (if n < d * leastNormal then e - 1 else e)

/-- The nearest number to a ratio, unless that ratio is too large. -/
def ofRatio? (num den : Nat) : Option Binary64 :=
  if num = 0 then some zero
  else
    let e := exponentFor num den
    let (n, d) := scaled num den e
    let m := roundDiv n d
    -- Rounding up may need one bit more.
    let (m, e) := if m = 2 * leastNormal then (leastNormal, e + 1) else (m, e)
    if 971 < e then none else some ⟨false, m, e⟩

/-- The magnitude as a ratio. -/
def ratio (x : Binary64) : Nat × Nat :=
  if 0 ≤ x.exponent then (x.mantissa * Nat.pow 2 x.exponent.toNat, 1)
  else (x.mantissa, Nat.pow 2 (-x.exponent).toNat)

/-- The nearest number to a natural number that is not too large. -/
def ofNat? (n : Nat) : Option Binary64 := ofRatio? n 1

/-- The rounded product of two magnitudes. -/
def mul? (x y : Binary64) : Option Binary64 :=
  ofRatio? (x.ratio.1 * y.ratio.1) (x.ratio.2 * y.ratio.2)

/-- The rounded quotient of two magnitudes. -/
def div? (x y : Binary64) : Option Binary64 :=
  ofRatio? (x.ratio.1 * y.ratio.2) (x.ratio.2 * y.ratio.1)

/-- The nearest number to `n * 10 ^ e`. -/
def ofDecimal? (n : Nat) (e : Int) : Option Binary64 :=
  if 0 ≤ e then ofRatio? (n * Nat.pow 10 e.toNat) 1 else ofRatio? n (Nat.pow 10 (-e).toNat)

end Binary64

end RowSieve
