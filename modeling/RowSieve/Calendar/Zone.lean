import RowSieve.Calendar.Written

/-!
# Zones with a Fixed Offset

The zone of a column of instants is a name. The only names with a meaning here
are offsets from Greenwich: a sign, two digits for the hours, and optionally
two for the minutes, with or without a colon. Named places would need a
history of their clocks and are not known.

## Main definitions

* `Zone.offset?`: The seconds east of Greenwich that a name stands for.
* `Zone.offsetText`: How an offset is written after a local time.
-/

namespace RowSieve

namespace Calendar

namespace Zone

/-- The number denoted by two digits. -/
def twoDigits? (a b : Char) : Option Nat :=
  if a.isDigit && b.isDigit then some (Decimal.value [a, b]) else none

/-- Hours and minutes with a sign, as seconds. A whole day or more is no
    offset. -/
def signedSeconds? (sign : Char) (hours minutes : Nat) : Option Int :=
  let seconds := hours * 3600 + minutes * 60
  if 86400 ≤ seconds then none
  else if sign = '+' then some seconds
  else if sign = '-' then some (-seconds)
  else none

/-- The seconds east of Greenwich that a zone name stands for. -/
def offset? (name : String) : Option Int :=
  match name.toList with
  | [s, a, b, ':', c, d] => do signedSeconds? s (← twoDigits? a b) (← twoDigits? c d)
  | [s, a, b, c, d] => do signedSeconds? s (← twoDigits? a b) (← twoDigits? c d)
  | [s, a, b] => do signedSeconds? s (← twoDigits? a b) 0
  | _ => none

/-- An offset after a local time: `Z` for none, else a sign, hours and
    minutes. -/
def offsetText (east : Int) : List Char :=
  if east = 0 then ['Z']
  else (if east < 0 then '-' else '+') ::
    (Decimal.padded 2 (east.natAbs / 3600) ++ ':' :: Decimal.padded 2 (east.natAbs / 60 % 60))

end Zone

end Calendar

end RowSieve
