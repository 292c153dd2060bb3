import RowSieve.Number.Decimal
import RowSieve.Table.Row

/-!
# Stored Tables

What there can be under the name of a file: nothing, a table, or bytes that
are no table. A table ends in a footer, whose last four bytes say what it is
and whose four bytes before them say how long it is, lowest byte first. Bytes
that are no table are refused by what their footer lacks.

## Main definitions

* `StoredFile`: A name and what is stored under it.
* `FooterFlaw`: Why bytes are no table.
* `footerFlaw`: What the footer of some bytes lacks.
-/

namespace RowSieve

/-- What is stored under the name of a file. -/
inductive Content where
  /-- There is no such file. -/
  | missing
  /-- Bytes that are no table. -/
  | bytes (bs : List UInt8)
  /-- The rows of a table. -/
  | table (rows : Batch)

/-- A name and what is stored under it. -/
structure StoredFile where
  name : String
  content : Content

/-- Why bytes are no table. -/
inductive FooterFlaw where
  /-- A table would need more bytes. -/
  | tooSmall (size needed : Nat)
  /-- The footer is not that of a table. -/
  | corrupt
deriving DecidableEq

namespace FooterFlaw

/-- The wording of each flaw. -/
def message : FooterFlaw → String
  | .tooSmall size needed =>
    "EOF: Parquet file too small. Size is " ++ String.ofList (Decimal.digits size) ++
      " but need " ++ String.ofList (Decimal.digits needed)
  | .corrupt => "Parquet error: Invalid Parquet file. Corrupt footer"

end FooterFlaw

/-- The bytes that the footer takes besides what it describes. -/
def footerSize : Nat := 8

/-- The last four bytes of a table. -/
def footerMark : List UInt8 := [80, 65, 82, 49]

/-- The number in some bytes, lowest byte first. -/
def littleEndian : List UInt8 → Nat
  | [] => 0
  | b :: bs => b.toNat + 256 * littleEndian bs

/-- What the footer of some bytes lacks. -/
def footerFlaw (bs : List UInt8) : FooterFlaw :=
  if bs.length < footerSize then .tooSmall bs.length footerSize
  else
    let footer := bs.drop (bs.length - footerSize)
    let needed := littleEndian (footer.take 4) + footerSize
    if footer.drop 4 = footerMark ∧ bs.length < needed then .tooSmall bs.length needed
    else .corrupt

end RowSieve
