import RowSieve.Number.Binary64
import RowSieve.Number.Decimal

/-!
# Shortest Decimal Text

The fewest decimal digits that read back as the same number, and of those the
nearest. The reals that round to a number form an interval, with its ends
included when the mantissa is even. Grids of one digit, two digits and so on
are tried in turn: if any point of a grid lies in the interval, so does one of
the two points of that grid next to the number.

How the digits are laid out is a separate matter. A layout says between which
exponents the number is written without a power of ten, and how the power is
written otherwise. Without a power there is always a point; a mantissa of one
digit has none.

## Main definitions

* `Shortest.Digits`: Significant digits and the place of the first one.
* `Shortest.digits`: The shortest digits of a number.
* `Shortest.Layout`: How digits are laid out.
* `Shortest.text`: The text of a number in a layout.
-/

namespace RowSieve

namespace Shortest

/-- A number as `d.ddd * 10 ^ place`, without trailing zeros. -/
structure Digits where
  significant : List Char
  place : Int

/-- `a / b ≤ c / d`, for positive denominators. -/
def ratioLe (a b c d : Nat) : Bool := a * d ≤ c * b

/-- `a / b < c / d`, for positive denominators. -/
def ratioLt (a b c d : Nat) : Bool := a * d < c * b

/-- `n * 2 ^ e * 10 ^ k` as a ratio. -/
def power (n : Nat) (e k : Int) : Nat × Nat :=
  (n * Nat.pow 2 e.toNat * Nat.pow 10 k.toNat, Nat.pow 2 (-e).toNat * Nat.pow 10 (-k).toNat)

/-- Four times the ends of the interval of reals that round to a number, in
    units of its exponent. The interval is narrower below a power of two. -/
def ends (x : Binary64) : Nat × Nat :=
  let m := 4 * x.mantissa
  (if x.mantissa = Binary64.leastNormal ∧ x.exponent ≠ -1074 then m - 1 else m - 2, m + 2)

/-- The point `n * 10 ^ k` rounds to the number. -/
def readsBack (x : Binary64) (n : Nat) (k : Int) : Bool :=
  let (a, b) := power n 0 k
  let (lo, hi) := ends x
  let (lowNum, lowDen) := power lo (x.exponent - 2) 0
  let (highNum, highDen) := power hi (x.exponent - 2) 0
  if x.mantissa % 2 = 0 then ratioLe lowNum lowDen a b && ratioLe a b highNum highDen
  else ratioLt lowNum lowDen a b && ratioLt a b highNum highDen

/-- The better of the two points of a grid next to the number, if either reads
    back. -/
def onGrid? (x : Binary64) (k : Int) : Option Nat :=
  let (num, den) := power x.mantissa x.exponent (-k)
  let below := num / den
  let nearer := if den < 2 * (num % den) ∨ (2 * (num % den) = den ∧ below % 2 = 1)
    then below + 1 else below
  let other := if nearer = below then below + 1 else below
  if 0 < nearer ∧ readsBack x nearer k then some nearer
  else if 0 < other ∧ readsBack x other k then some other
  else none

/-- The place of the first digit: the greatest `p` with `10 ^ p` no more than
    the number, searched downwards. -/
def place (x : Binary64) : (steps : Nat) → Int → Int
  | 0, p => p
  | steps + 1, p =>
    let (num, den) := power x.mantissa x.exponent (-p)
    if den ≤ num then p else place x steps (p - 1)

/-- The first grid with a point that reads back, from the given one to finer
    ones. -/
def firstGrid (x : Binary64) : (steps : Nat) → Int → Nat × Int
  | 0, k => (0, k)
  | steps + 1, k =>
    match onGrid? x k with
    | some n => (n, k)
    | none => firstGrid x steps (k - 1)

/-- The shortest digits of a number. Zero has the single digit 0. -/
def digits (x : Binary64) : Digits :=
  if x.isZero then ⟨['0'], 0⟩
  else
    let (n, k) := firstGrid x 17 (place x 640 309)
    let ds := Decimal.digits n
    ⟨(ds.reverse.dropWhile (· == '0')).reverse, k + (ds.length - 1 : Nat)⟩

/-- How digits are laid out. -/
structure Layout where
  /-- The least place of a first digit that is written without a power. -/
  leastPlace : Int
  /-- The greatest such place. -/
  greatestPlace : Int
  /-- A power that is not negative carries a `+`. -/
  plusSign : Bool

/-- Digits with a decimal point and no power of ten. -/
def plain (d : Digits) : List Char :=
  if 0 ≤ d.place then
    let whole := d.place.toNat + 1
    let ds := d.significant.rightpad whole '0'
    ds.take whole ++ '.' :: (if ds.length ≤ whole then ['0'] else ds.drop whole)
  else '0' :: '.' :: List.replicate ((-d.place).toNat - 1) '0' ++ d.significant

/-- Digits with a power of ten. -/
def scientific (l : Layout) (d : Digits) : List Char :=
  let mantissa := match d.significant with
    | [] => []
    | [c] => [c]
    | c :: cs => c :: '.' :: cs
  let sign := if d.place < 0 then ['-'] else if l.plusSign then ['+'] else []
  mantissa ++ 'e' :: sign ++ Decimal.digits d.place.natAbs

/-- The text of a number in a layout. -/
def text (l : Layout) (x : Binary64) : List Char :=
  let d := digits x
  let body :=
    if l.leastPlace ≤ d.place ∧ d.place ≤ l.greatestPlace then plain d else scientific l d
  if x.negative then '-' :: body else body

end Shortest

end RowSieve
