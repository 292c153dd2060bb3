/-!
# Blank Characters

The characters with the Unicode property White_Space. They are what a reader
of dates skips; a reader of JSON skips only four of them.

## Main definitions

* `isBlank`: The character is white space.
* `skipBlanks`: A text without its leading white space.
-/

namespace RowSieve

namespace Text

/-- The character has the Unicode property White_Space. -/
def isBlank (c : Char) : Bool :=
  let n := c.toNat
  (0x9 ≤ n && n ≤ 0xD) || n == 0x20 || n == 0x85 || n == 0xA0 || n == 0x1680 ||
    (0x2000 ≤ n && n ≤ 0x200A) || n == 0x2028 || n == 0x2029 || n == 0x202F ||
    n == 0x205F || n == 0x3000

/-- A text without its leading white space. -/
def skipBlanks (cs : List Char) : List Char := cs.dropWhile isBlank

end Text

end RowSieve
